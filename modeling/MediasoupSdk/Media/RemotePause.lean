import MediasoupSdk.Media.MutePeer
import MediasoupSdk.Media.Tracks

/-! A peer that the application has muted, while its producers are paused and resumed on the other
side. The local mute and the remote pause are one flag of the consumer. -/
namespace MediasoupSdk
open Foundation Signaling

/-- A notification `consumerPaused` or, with a flag that is off, `consumerResumed`. -/
structure PauseNotification where
  paused : Bool
  notification : Notification ConsumerNotification.Data

namespace Media

variable {m m' : Media} {kind : MediaKind} {pid : String}

def pauseStep (m : Media) (n : PauseNotification) : Except Fault Media :=
  m.onConsumerPaused n.paused n.notification

/-- A `consumerResumed` that names a consumer of the peer, of a kind. -/
def Resumes (kind : MediaKind) (pid : String) (m : Media) (n : PauseNotification) : Prop :=
  n.paused = false ∧ ∃ data consumer, n.notification.data = some data ∧
    data.consumerId.getD "" = consumer.id ∧ consumer.id.isEmpty = false ∧
    OfPeer kind pid m.controller consumer

/-- A consumer of the peer, of a kind, plays and comes after another id of the peer in the map of
peers, so that a mute call does not reach it. -/
def PlaysOn (kind : MediaKind) (pid : String) (mc : MediaController) : Prop :=
  ∃ consumer, OfPeer kind pid mc consumer ∧ consumer.paused = false ∧
    ∃ before, [before, ⟨consumer.id, pid⟩].Sublist mc.consumerIdToPeerId.entries ∧
      before.2 = pid ∧ before.1 ∉ mc.consumerMap

/-- The call and the notifications after it leave every consumer of the peer of the kind paused. -/
def StaysMuted (kind : MediaKind) (pid : String) (call : Except Fault Media)
    (run : List PauseNotification) : Prop :=
  ∃ m', call = .ok m' ∧ ∀ pre t, pre <+: run → exec pauseStep m' pre = .ok t →
    AllPaused kind pid t.controller

/-- After a mute call the consumers of the peer are paused, except for those that play on. -/
theorem allPaused_muted_iff (hs : m.controller.Stored)
    (h : m.mutePeer kind pid true = .ok m') :
    AllPaused kind pid m'.controller ↔ ¬ PlaysOn kind pid m.controller := by
  rw [mutePeer, muteLoop_eq hs m.controller.consumerIdToPeerId.nodupKeys, Except.ok.injEq] at h
  have hnodup : ((targets kind pid m.controller
      m.controller.consumerIdToPeerId.entries).map Consumer.id).Nodup := targets_nodup hs
  have hofPeer : ∀ consumer ∈ targets kind pid m.controller
      m.controller.consumerIdToPeerId.entries, OfPeer kind pid m.controller consumer :=
    fun consumer => ofPeer_of_mem_targets hs
  have hmissed := fun consumer => @not_mem_targets_iff kind pid m.controller hs consumer
  generalize targets kind pid m.controller m.controller.consumerIdToPeerId.entries = consumers
    at h hnodup hofPeer hmissed
  have hpeers : m'.controller.consumerIdToPeerId = m.controller.consumerIdToPeerId := by
    rw [← h, (foldl_muteConsumer_rest).2.2]
  constructor
  · rintro hall ⟨consumer, hof, hplays, hbefore⟩
    have hout := (hmissed consumer hof).mpr hbefore
    have hne : ∀ c ∈ consumers, c.id ≠ consumer.id := by
      intro c hc he
      have hsame := (hofPeer c hc).1
      rw [he, hof.1, Option.some.injEq] at hsame
      exact hout (hsame ▸ hc)
    have hkept : m'.controller.consumerOf consumer.id = some consumer := by
      rw [← h, foldl_muteConsumer_of_forall_ne hne]
      exact hof.1
    have hpaused := hall consumer ⟨hkept, hof.2.1, hpeers ▸ hof.2.2⟩
    rw [hplays] at hpaused
    cases hpaused
  · rintro hnot consumer ⟨hc, hk, hpeer⟩
    by_cases hmuted : ∃ c ∈ consumers, c.id = consumer.id
    · obtain ⟨c, hmem, hid⟩ := hmuted
      rw [← h, ← hid, foldl_muteConsumer_of_mem hnodup hmem, Option.some.injEq] at hc
      rw [← hc]
    · have hne : ∀ c ∈ consumers, c.id ≠ consumer.id := fun c hmem hid => hmuted ⟨c, hmem, hid⟩
      rw [← h, foldl_muteConsumer_of_forall_ne hne] at hc
      have hof : OfPeer kind pid m.controller consumer := ⟨hc, hk, hpeers ▸ hpeer⟩
      have hout : consumer ∉ consumers := fun hmem => hne consumer hmem rfl
      by_contra hpaused
      exact hnot ⟨consumer, hof, by simpa using hpaused, (hmissed consumer hof).mp hout⟩

/-- What a notification with data does to the consumers. -/
theorem pauseStep_eq (hs : m.controller.Stored) {n : PauseNotification}
    {data : ConsumerNotification.Data} (hdata : n.notification.data = some data) :
    m.pauseStep n = .ok (if (data.consumerId.getD "").isEmpty then m
      else (m.controller.consumerOf (data.consumerId.getD "")).elim m fun consumer =>
        m.pauseConsumer consumer n.paused) := by
  simp only [pauseStep, onConsumerPaused, hdata, engaged_some, bind, Except.bind,
    updateConsumer_eq hs]
  split_ifs
  · rfl
  · rfl

theorem ofPeer_setPaused_iff {mc : MediaController} {consumer c : Consumer} {paused : Bool} :
    OfPeer kind pid (mc.setPaused consumer paused) c ↔
      (if c.id = consumer.id then { consumer with paused } = c else mc.consumerOf c.id = some c) ∧
        c.track.kind = kind ∧ mc.consumerIdToPeerId.lookup c.id = some pid := by
  unfold OfPeer
  rw [MediaController.consumerOf_setPaused]
  refine and_congr ?_ Iff.rfl
  split_ifs
  · rw [Option.some.injEq]
  · rfl

theorem allPaused_setPaused {mc : MediaController} (h : AllPaused kind pid mc)
    {consumer : Consumer} {paused : Bool} (hc : mc.consumerOf consumer.id = some consumer)
    (hp : OfPeer kind pid mc consumer → paused = true) :
    AllPaused kind pid (mc.setPaused consumer paused) := by
  intro c hof
  obtain ⟨hself, hk, hpeer⟩ := ofPeer_setPaused_iff.mp hof
  split_ifs at hself with hid
  · rw [← hself] at hk hpeer ⊢
    exact hp ⟨hc, hk, hpeer⟩
  · exact h c ⟨hself, hk, hpeer⟩

theorem pauseStep_keeps (hs : m.controller.Stored) (h : AllPaused kind pid m.controller)
    {n : PauseNotification} (hn : ¬ Resumes kind pid m n) (hstep : m.pauseStep n = .ok m') :
    AllPaused kind pid m'.controller := by
  cases hdata : n.notification.data with
  | none =>
    rw [pauseStep, onConsumerPaused, hdata] at hstep
    cases hstep
  | some data =>
    rw [pauseStep_eq hs hdata, Except.ok.injEq] at hstep
    rw [← hstep]
    split_ifs with hempty
    · exact h
    · cases hc : m.controller.consumerOf (data.consumerId.getD "") with
      | none => exact h
      | some consumer =>
        have hid := (hs.lookup_consumerOf hc).2
        refine allPaused_setPaused h (hid ▸ hc) fun hof => ?_
        by_contra hpaused
        refine hn ⟨by simpa using hpaused, data, consumer, hdata, hid.symm, ?_, hof⟩
        rw [hid]
        simpa using hempty

theorem pauseStep_breaks (hs : m.controller.Stored) {n : PauseNotification}
    (hn : Resumes kind pid m n) :
    ∃ m', m.pauseStep n = .ok m' ∧ ¬ AllPaused kind pid m'.controller := by
  obtain ⟨hresumed, data, consumer, hdata, hid, hempty, hof⟩ := hn
  refine ⟨_, pauseStep_eq hs hdata, fun hall => ?_⟩
  rw [hid, hempty, hof.1, hresumed] at hall
  have hplays : OfPeer kind pid (m.controller.setPaused consumer false)
      { consumer with paused := false } :=
    ofPeer_setPaused_iff.mpr ⟨by simp, hof.2.1, hof.2.2⟩
  cases hall _ hplays

/-- A mute call keeps the consumers of the peer paused through the notifications after it exactly
when it has reached all that played and none of the notifications resumes one. -/
theorem mutePeer_lasts_iff (hs : m.controller.Stored) (run : List PauseNotification) :
    StaysMuted kind pid (m.mutePeer kind pid true) run ↔
      ¬ PlaysOn kind pid m.controller ∧ ∀ m', m.mutePeer kind pid true = .ok m' →
        Guarded pauseStep (fun t n => ¬ Resumes kind pid t n) m' run := by
  have hcall : ∃ m', m.mutePeer kind pid true = .ok m' :=
    ⟨_, muteLoop_eq hs m.controller.consumerIdToPeerId.nodupKeys⟩
  obtain ⟨m', hm'⟩ := hcall
  have hs' := mutePeer_stored hs hm'
  have hrun (hall : AllPaused kind pid m'.controller) :=
    @forall_prefix_iff_guarded _ _ _ pauseStep (fun t n => ¬ Resumes kind pid t n)
      (fun t => t.controller.Stored ∧ AllPaused kind pid t.controller)
      (fun t => AllPaused kind pid t.controller) (fun t ht => ht.2)
      (fun t n t' ht hn hstep => ⟨onConsumerPaused_stored ht.1 hstep,
        pauseStep_keeps ht.1 ht.2 hn hstep⟩)
      (fun t n ht hn => pauseStep_breaks ht.1 (not_not.mp hn)) run m' ⟨hs', hall⟩
  unfold StaysMuted
  simp only [hm', Except.ok.injEq, exists_eq_left', forall_eq']
  rw [← allPaused_muted_iff hs hm']
  constructor
  · intro h
    have hall := h [] m' (List.nil_prefix) rfl
    exact ⟨hall, (hrun hall).mp h⟩
  · rintro ⟨hall, hguard⟩
    exact (hrun hall).mpr hguard

/-- In each reachable state, and for every sequence of `consumerPaused` and `consumerResumed`
notifications after the call: a muted peer stays muted exactly when the call reaches all its
consumers of the kind that play and no `consumerResumed` names one of them. -/
theorem mute_lasts_iff (h : Reachable m) (pid : String) (run : List PauseNotification) :
    (StaysMuted .video pid (m.muteVideo pid true) run ↔
      ¬ PlaysOn .video pid m.controller ∧ ∀ m', m.muteVideo pid true = .ok m' →
        Guarded pauseStep (fun t n => ¬ Resumes .video pid t n) m' run) ∧
    (StaysMuted .audio pid (m.muteAudioOf pid true) run ↔
      ¬ PlaysOn .audio pid m.controller ∧ ∀ m', m.muteAudioOf pid true = .ok m' →
        Guarded pauseStep (fun t n => ¬ Resumes .audio pid t n) m' run) :=
  ⟨mutePeer_lasts_iff h.stored run, mutePeer_lasts_iff h.stored run⟩

section Runs

open Ledger

/-- Bob pauses his camera while he is muted here. -/
theorem paused_peer_stays_muted : ∃ m, Reachable m ∧
    exec Media.step consumingMedia [newVideo "c1" "bob"] = .ok m ∧
    StaysMuted .video "bob" (m.muteVideo "bob" true) [⟨true, ⟨some ⟨some "c1"⟩⟩⟩] := by
  have hrun : exec Media.step consumingMedia [newVideo "c1" "bob"] = .ok _ := rfl
  have hreach := reachable_exec consumingMedia_reachable hrun
  refine ⟨_, hreach, rfl, (mute_lasts_iff hreach "bob" _).1.mpr ⟨?_, fun m' _ => ⟨?_, ?_⟩⟩⟩
  · rintro ⟨consumer, -, -, before, hsub, -⟩
    have hlen : 2 ≤ 1 := hsub.length_le
    omega
  · rintro ⟨hresumed, -⟩
    cases hresumed
  · exact fun _ _ => trivial

/-- Bob pauses his camera and resumes it: he is seen again although he is still muted here. -/
theorem resumed_peer_plays : ∃ m m' t, Reachable m ∧
    exec Media.step consumingMedia [newVideo "c1" "bob"] = .ok m ∧
    m.muteVideo "bob" true = .ok m' ∧ AllPaused .video "bob" m'.controller ∧
    exec pauseStep m' [⟨true, ⟨some ⟨some "c1"⟩⟩⟩, ⟨false, ⟨some ⟨some "c1"⟩⟩⟩] = .ok t ∧
    ¬ AllPaused .video "bob" t.controller ∧
    ¬ StaysMuted .video "bob" (m.muteVideo "bob" true)
      [⟨true, ⟨some ⟨some "c1"⟩⟩⟩, ⟨false, ⟨some ⟨some "c1"⟩⟩⟩] := by
  have hrun : exec Media.step consumingMedia [newVideo "c1" "bob"] = .ok _ := rfl
  have hreach := reachable_exec consumingMedia_reachable hrun
  have hplays (t : Media)
      (hc : t.controller.consumerOf "c1" = some ⟨"c1", "p1", ⟨0, .video⟩, false⟩)
      (hp : t.controller.consumerIdToPeerId.lookup "c1" = some "bob") :
      ¬ AllPaused .video "bob" t.controller := by
    intro hall
    cases hall ⟨"c1", "p1", ⟨0, .video⟩, false⟩ ⟨hc, rfl, hp⟩
  refine ⟨_, _, _, hreach, rfl, rfl, ?_, rfl, hplays _ rfl rfl, ?_⟩
  · refine (allPaused_muted_iff hreach.stored rfl).mpr ?_
    rintro ⟨consumer, -, -, before, hsub, -⟩
    have hlen : 2 ≤ 1 := hsub.length_le
    omega
  · rintro ⟨m', ⟨⟩, hall⟩
    exact hplays _ rfl rfl (hall _ _ List.prefix_rfl rfl)

end Runs

end Media
end MediasoupSdk
