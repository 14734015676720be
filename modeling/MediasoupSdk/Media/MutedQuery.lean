import MediasoupSdk.Media.MutePeer

/-! The queries `isVideoMuted` and `isAudioMuted` of a peer. Each id of the peer is looked up among
the consumers with `operator[]`, which makes up a null consumer for an id that is none. -/
namespace MediasoupSdk
open Foundation Signaling

/-- In a list without repetitions, what stands before an element is in the part before it. -/
theorem mem_of_pair_sublist {α : Type} {a b : α} {as bs : List α} (hl : (as ++ b :: bs).Nodup)
    (h : [a, b].Sublist (as ++ b :: bs)) : a ∈ as := by
  have hnot : b ∉ bs := (List.nodup_cons.mp (List.nodup_append.mp hl).2.1).1
  obtain ⟨l₁, l₂, he, h₁, h₂⟩ := List.sublist_append_iff.mp h
  cases l₁ with
  | nil =>
    rw [List.nil_append] at he
    rw [← he, List.sublist_cons_iff] at h₂
    rcases h₂ with h₂ | ⟨r, hr, h₂⟩
    · exact absurd (h₂.subset (by simp)) hnot
    · rw [← (List.cons.inj hr).2] at h₂
      exact absurd (List.singleton_sublist.mp h₂) hnot
  | cons c l₁ =>
    have hc : a = c := (List.cons.inj he).1
    rw [hc]
    exact h₁.subset List.mem_cons_self

namespace MediaController

variable {mc : MediaController} {kind : MediaKind} {pid : String}

/-- The query answers whether all open consumers of the peer of a kind are paused, and leaves the
controller as it is. -/
def Answers (query : Except Fault (Bool × MediaController)) (kind : MediaKind) (pid : String)
    (mc : MediaController) : Prop :=
  ∃ muted, query = .ok (muted, mc) ∧ (muted = true ↔ Media.AllPaused kind pid mc)

/-- The entry is that of a consumer of the peer, of a kind, that plays. -/
def Plays (kind : MediaKind) (pid : String) (mc : MediaController)
    (e : Sigma fun _ : String => String) : Prop :=
  e.2 = pid ∧ ∃ consumer, mc.consumerOf e.1 = some consumer ∧ consumer.track.kind = kind ∧
    consumer.paused = false

/-- In the order of the map of peers, each id of the peer that is no consumer's, such as that of a
data consumer, comes after a consumer of the peer of this kind that plays. -/
def Shielded (kind : MediaKind) (pid : String) (mc : MediaController) : Prop :=
  ∀ e ∈ mc.consumerIdToPeerId.entries, e.2 = pid → e.1 ∉ mc.consumerMap →
    ∃ before, [before, e].Sublist mc.consumerIdToPeerId.entries ∧ Plays kind pid mc before

theorem stopsAt_iff (hs : mc.Stored) {e : Sigma fun _ : String => String} :
    StopsAt kind pid mc e ↔ (e.2 = pid ∧ e.1 ∉ mc.consumerMap) ∨ Plays kind pid mc e := by
  rw [StopsAt, Plays]
  cases hc : mc.consumerOf e.1 with
  | none => simp [hs.consumerOf_none hc]
  | some consumer =>
    have hmem : e.1 ∈ mc.consumerMap :=
      AList.lookup_isSome.mp (by rw [(hs.lookup_consumerOf hc).1]; rfl)
    simp [hmem]

/-- A query answers when the first entry that stops its loop is a consumer's. -/
theorem shielded_iff (hs : mc.Stored) : Shielded kind pid mc ↔
    ∀ e, mc.consumerIdToPeerId.entries.find? (fun e => decide (StopsAt kind pid mc e)) = some e →
      (mc.consumerOf e.1).isSome := by
  have hnodup := mc.consumerIdToPeerId.nodupKeys.nodup
  unfold Shielded
  generalize mc.consumerIdToPeerId.entries = l at hnodup ⊢
  constructor
  · intro h e he
    obtain ⟨hstops, before, after, rfl, hbefore⟩ := List.find?_eq_some_iff_append.mp he
    rcases (stopsAt_iff hs).mp (of_decide_eq_true hstops) with ⟨hp, hnot⟩ | ⟨-, consumer, hc, -⟩
    · obtain ⟨e', hsub, hplays⟩ := h e (by simp) hp hnot
      have hfirst := hbefore e' (mem_of_pair_sublist hnodup hsub)
      simp [(stopsAt_iff hs).mpr (Or.inr hplays)] at hfirst
    · rw [hc]
      rfl
  · intro h e he hp hnot
    have hstops : StopsAt kind pid mc e := (stopsAt_iff hs).mpr (Or.inl ⟨hp, hnot⟩)
    have hfound : (l.find? fun e => decide (StopsAt kind pid mc e)).isSome :=
      List.find?_isSome.mpr ⟨e, he, decide_eq_true hstops⟩
    obtain ⟨first, hfind⟩ := Option.isSome_iff_exists.mp hfound
    obtain ⟨consumer, hc⟩ := Option.isSome_iff_exists.mp (h first hfind)
    have hmem : first.1 ∈ mc.consumerMap :=
      AList.lookup_isSome.mp (by rw [(hs.lookup_consumerOf hc).1]; rfl)
    obtain ⟨hfirst, before, after, rfl, hbefore⟩ := List.find?_eq_some_iff_append.mp hfind
    have hplays : Plays kind pid mc first :=
      ((stopsAt_iff hs).mp (of_decide_eq_true hfirst)).resolve_left fun hn => hn.2 hmem
    refine ⟨first, ?_, hplays⟩
    rcases List.mem_append.mp he with he | he
    · have hn := hbefore e he
      simp [hstops] at hn
    · have hafter : e ∈ after := by
        rcases List.mem_cons.mp he with rfl | he
        · exact absurd hmem hnot
        · exact he
      exact ((List.singleton_sublist.mpr hafter).cons_cons first).trans
        (List.sublist_append_right before _)

/-- A query follows no null pointer exactly when the peer's other ids are shielded, and then its
answer is right. -/
theorem isMuted_answers_iff (hs : mc.Stored) :
    Answers (mc.isMuted kind pid) kind pid mc ↔ Shielded kind pid mc := by
  rw [shielded_iff hs, isMuted_eq hs]
  cases hfind :
    mc.consumerIdToPeerId.entries.find? (fun e => decide (StopsAt kind pid mc e)) with
  | none =>
    refine iff_of_true ⟨true, rfl, iff_of_true rfl ?_⟩ (by simp)
    rintro consumer ⟨hc, hk, hpeer⟩
    have hnot := List.find?_eq_none.mp hfind _ (AList.mem_lookup_iff.mp hpeer)
    rw [decide_eq_true_eq, stopsAt_iff hs, not_or] at hnot
    by_contra hpaused
    exact hnot.2 ⟨rfl, consumer, hc, hk, by simpa using hpaused⟩
  | some e =>
    have hpeer := AList.mem_lookup_iff.mpr (List.mem_of_find?_eq_some hfind)
    have hstops : StopsAt kind pid mc e := by simpa using List.find?_some hfind
    cases hc : mc.consumerOf e.1 with
    | none =>
      refine iff_of_false ?_ fun h => ?_
      · rintro ⟨muted, hq, -⟩
        simp [hc] at hq
      · have hsome := h e rfl
        rw [hc] at hsome
        cases hsome
    | some consumer =>
      refine iff_of_true ⟨false, by simp [hc], iff_of_false (by simp) fun hall => ?_⟩ ?_
      · obtain ⟨hk, hplays⟩ := hstops.2 consumer hc
        have hid := (hs.lookup_consumerOf hc).2
        rw [← hid] at hc hpeer
        have hpaused := hall consumer ⟨hc, hk, hstops.1 ▸ hpeer⟩
        rw [hplays] at hpaused
        cases hpaused
      · rintro e' ⟨⟩
        rw [hc]
        rfl

end MediaController
namespace Media

open Ledger MediaController

variable {m : Media}

/-- In each reachable state, whatever the order of the hash maps, the queries of a peer follow no
null pointer, tell whether all its open consumers of the kind are paused and change nothing,
exactly when each other id of the peer comes after a consumer of the kind that plays. -/
theorem muted_query_iff (h : Reachable m) (pid : String) :
    (Answers (m.controller.isVideoMuted pid) .video pid m.controller ↔
      Shielded .video pid m.controller) ∧
    (Answers (m.controller.isAudioMuted pid) .audio pid m.controller ↔
      Shielded .audio pid m.controller) :=
  ⟨isMuted_answers_iff h.stored, isMuted_answers_iff h.stored⟩

/-- The consumer that plays comes before the data consumer, and the loop ends there. -/
theorem newVideo_answers : ∃ m, Reachable m ∧
    exec Media.step consumingMedia [newChat "d1" "bob", newVideo "c1" "bob"] = .ok m ∧
    Answers (m.controller.isVideoMuted "bob") .video "bob" m.controller := by
  have hrun : exec Media.step consumingMedia [newChat "d1" "bob", newVideo "c1" "bob"] = .ok _ :=
    rfl
  have hreach := reachable_exec consumingMedia_reachable hrun
  refine ⟨_, hreach, rfl, (muted_query_iff hreach "bob").1.mpr ?_⟩
  intro e he hp hnot
  have hmem : e ∈ [⟨"c1", "bob"⟩, ⟨"d1", "bob"⟩] := he
  rcases List.mem_cons.mp hmem with rfl | hmem
  · exact absurd (by decide) hnot
  · rw [List.mem_singleton.mp hmem]
    refine ⟨⟨"c1", "bob"⟩, List.Sublist.refl _, rfl, ?_⟩
    exact ⟨⟨"c1", "p1", ⟨0, .video⟩, false⟩, rfl, rfl, rfl⟩

/-- A peer that has a data consumer only, and a consumer whose id `destroy` left behind: each query
follows a null pointer. -/
theorem data_consumer_not_answered :
    (∃ m, Reachable m ∧ exec Media.step consumingMedia [newChat "d1" "bob"] = .ok m ∧
      m.controller.isVideoMuted "bob" = .error (.nullPointer .consumer) ∧
      m.controller.isAudioMuted "bob" = .error (.nullPointer .consumer) ∧
      ¬ Answers (m.controller.isVideoMuted "bob") .video "bob" m.controller ∧
      ¬ Answers (m.controller.isAudioMuted "bob") .audio "bob" m.controller) ∧
    ∃ m, Reachable m ∧ exec Media.step consumingMedia [newVideo "c1" "bob", .destroy] = .ok m ∧
      m.controller.isVideoMuted "bob" = .error (.nullPointer .consumer) ∧
      ¬ Answers (m.controller.isVideoMuted "bob") .video "bob" m.controller := by
  have hchat : exec Media.step consumingMedia [newChat "d1" "bob"] = .ok _ := rfl
  have hdestroyed : exec Media.step consumingMedia [newVideo "c1" "bob", .destroy] = .ok _ := rfl
  refine ⟨⟨_, reachable_exec consumingMedia_reachable hchat, rfl, rfl, rfl, ?_, ?_⟩,
    ⟨_, reachable_exec consumingMedia_reachable hdestroyed, rfl, rfl, ?_⟩⟩
  · rintro ⟨muted, ⟨⟩, -⟩
  · rintro ⟨muted, ⟨⟩, -⟩
  · rintro ⟨muted, ⟨⟩, -⟩

end Media
end MediasoupSdk
