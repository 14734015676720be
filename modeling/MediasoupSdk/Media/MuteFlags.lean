import MediasoupSdk.Media.Tracks

/-! The flags `_isAudioMuted` and `_isVideoMuted` of a participant, written by the last event, and
what `isAudioMuted(pid)` and `isVideoMuted(pid)` compute over all consumers of the peer. -/
namespace MediasoupSdk
open Foundation Signaling

namespace MediaController

variable {mc : MediaController} {kind kind' : MediaKind} {pid pid' tid peerId : String}
  {consumer : Consumer} {paused : Bool}

/-- The peer has no unpaused consumer of the kind. -/
def Muted (kind : MediaKind) (pid : String) (mc : MediaController) : Prop :=
  ∀ tid consumer, mc.consumerOf tid = some consumer → consumer.track.kind = kind →
    mc.peerOf tid = pid → consumer.paused = true

/-- The same for its consumers other than `tid`. -/
def MutedBesides (tid : String) (kind : MediaKind) (pid : String) (mc : MediaController) : Prop :=
  ∀ tid' consumer, tid' ≠ tid → mc.consumerOf tid' = some consumer →
    consumer.track.kind = kind → mc.peerOf tid' = pid → consumer.paused = true

theorem muted_iff_besides (tid : String) : mc.Muted kind pid ↔ mc.MutedBesides tid kind pid ∧
    ∀ consumer, mc.consumerOf tid = some consumer → consumer.track.kind = kind →
      mc.peerOf tid = pid → consumer.paused = true := by
  constructor
  · intro h
    exact ⟨fun tid' consumer _ => h tid' consumer, fun consumer => h tid consumer⟩
  · rintro ⟨hbesides, hself⟩ tid' consumer hc
    by_cases he : tid' = tid
    · subst he
      exact hself consumer hc
    · exact hbesides tid' consumer he hc

/-- Another peer or kind does not notice the consumer. -/
theorem muted_iff_besides_of_ne (hc : mc.consumerOf tid = some consumer)
    (hne : ¬ (consumer.track.kind = kind ∧ mc.peerOf tid = pid)) :
    mc.Muted kind pid ↔ mc.MutedBesides tid kind pid := by
  rw [muted_iff_besides tid]
  refine and_iff_left fun c hc' hk hp => absurd ⟨?_, hp⟩ hne
  rw [hc, Option.some.injEq] at hc'
  rw [hc']
  exact hk

/-- A new consumer takes the place of the one with its id. -/
theorem muted_store (hp : consumer.paused = false) : (mc.store consumer peerId).Muted kind pid ↔
    mc.MutedBesides consumer.id kind pid ∧ ¬ (consumer.track.kind = kind ∧ peerId = pid) := by
  have hself : (mc.store consumer peerId).consumerOf consumer.id = some consumer := by
    rw [consumerOf_store, if_pos rfl]
  have hpeer : (mc.store consumer peerId).peerOf consumer.id = peerId := by
    rw [peerOf_store, if_pos rfl]
  rw [muted_iff_besides consumer.id, hself, hpeer]
  refine and_congr ?_ ?_
  · refine forall₂_congr fun tid c => imp_congr_right fun hne => ?_
    rw [consumerOf_store, peerOf_store, if_neg hne, if_neg hne]
  · constructor
    · rintro h ⟨hk, hpid⟩
      rw [h consumer rfl hk hpid] at hp
      cases hp
    · intro h c hc hk hpid
      rw [Option.some.injEq] at hc
      exact absurd ⟨hc ▸ hk, hpid⟩ h

theorem muted_drop : (mc.drop tid).Muted kind pid ↔ mc.MutedBesides tid kind pid := by
  rw [muted_iff_besides tid]
  constructor
  · rintro ⟨h, -⟩ tid' c hne hc hk hp
    refine h tid' c hne ?_ hk ?_
    · rw [consumerOf_drop, if_neg hne]
      exact hc
    · rw [peerOf_drop_of_ne hne]
      exact hp
  · intro h
    constructor
    · intro tid' c hne hc hk hp
      rw [consumerOf_drop, if_neg hne] at hc
      rw [peerOf_drop_of_ne hne] at hp
      exact h tid' c hne hc hk hp
    · intro c hc
      rw [consumerOf_drop, if_pos rfl] at hc
      cases hc

theorem muted_setPaused : (mc.setPaused consumer paused).Muted kind pid ↔
    mc.MutedBesides consumer.id kind pid ∧
      (consumer.track.kind = kind → mc.peerOf consumer.id = pid → paused = true) := by
  have hself : (mc.setPaused consumer paused).consumerOf consumer.id =
      some { consumer with paused } := by
    rw [consumerOf_setPaused, if_pos rfl]
  rw [muted_iff_besides consumer.id, hself]
  refine and_congr ?_ ?_
  · refine forall₂_congr fun tid c => imp_congr_right fun hne => ?_
    rw [consumerOf_setPaused, if_neg hne]
    rfl
  · constructor
    · exact fun h => h _ rfl
    · rintro h c ⟨⟩
      exact h

/-- Without data consumers the query returns, and tells whether the peer is muted. -/
theorem isMuted_iff (h : mc.Sound) (hd : mc.dataConsumerMap = ∅) (kind : MediaKind)
    (pid : String) :
    ∃ b, (mc.isMuted kind pid).map Prod.fst = .ok b ∧ (b = true ↔ mc.Muted kind pid) := by
  have hconsumer : ∀ e ∈ mc.consumerIdToPeerId.entries,
      (mc.consumerOf e.1).isSome ∧ mc.peerOf e.1 = e.2 := by
    intro e he
    have hl : mc.consumerIdToPeerId.lookup e.1 = some e.2 := AList.mem_lookup_iff.mpr he
    have hmem : e.1 ∈ mc.consumerIdToPeerId := AList.lookup_isSome.mp (by rw [hl]; rfl)
    refine ⟨?_, by rw [peerOf, hl]; rfl⟩
    rcases (h.peers e.1).mp hmem with hc | hc
    · rw [Option.isSome_iff_ne_none]
      exact fun hnone => h.stored.consumerOf_none hnone hc
    · simp [hd] at hc
  rw [isMuted_eq h.stored]
  cases hfind : mc.consumerIdToPeerId.entries.find? (fun e => decide (StopsAt kind pid mc e)) with
  | none =>
    refine ⟨true, rfl, iff_of_true rfl fun tid consumer hc hk hp => ?_⟩
    obtain ⟨hl, -⟩ := h.stored.lookup_consumerOf hc
    have hmem : tid ∈ mc.consumerIdToPeerId :=
      (h.peers tid).mpr (Or.inl (AList.lookup_isSome.mp (by rw [hl]; rfl)))
    obtain ⟨peer, hpeer⟩ := Option.isSome_iff_exists.mp (AList.lookup_isSome.mpr hmem)
    have hentry := AList.mem_lookup_iff.mp hpeer
    have hnot := List.find?_eq_none.mp hfind _ hentry
    rw [decide_eq_true_eq] at hnot
    by_contra hpaused
    refine hnot ⟨?_, fun c hc' => ?_⟩
    · rw [← (hconsumer _ hentry).2]
      exact hp
    · have hc'' : mc.consumerOf tid = some c := hc'
      rw [hc, Option.some.injEq] at hc''
      exact ⟨hc'' ▸ hk, by simpa [hc''] using hpaused⟩
  | some e =>
    have hentry := List.mem_of_find?_eq_some hfind
    have hstop : StopsAt kind pid mc e := by simpa using List.find?_some hfind
    obtain ⟨consumer, hc⟩ := Option.isSome_iff_exists.mp (hconsumer e hentry).1
    refine ⟨false, by simp [hc, Except.map], iff_of_false (by simp) fun hmuted => ?_⟩
    have hlive := hstop.2 consumer hc
    have hpaused := hmuted e.1 consumer hc hlive.1 ((hconsumer e hentry).2.trans hstop.1)
    rw [hlive.2] at hpaused
    cases hpaused

end MediaController

namespace Participant

variable {p : Participant} {kind kind' : MediaKind} {muted : Bool} {mc : MediaController}
  {pid : String}

/-- `isAudioMuted()` or `isVideoMuted()`; a flag that was never written has no value. -/
def isMuted (kind : MediaKind) (p : Participant) : Option Bool :=
  match kind with
  | .audio => p.isAudioMuted
  | .video => p.isVideoMuted

@[simp] theorem isMuted_setMuted : (setMuted kind' muted p).isMuted kind =
    if kind' = kind then some muted else p.isMuted kind := by
  cases kind <;> cases kind' <;> rfl

@[simp] theorem isMuted_refresh : (mc.refresh kind' pid p).isMuted kind = p.isMuted kind := by
  cases kind <;> cases kind' <;> rfl

end Participant

namespace Media

/-- For each participant that is present and each kind, the flag, the query over all consumers
and the consumers themselves say the same. -/
def FlagsAgree (m : Media) : Prop :=
  ∃ pc, m.observer = some pc ∧ ∀ pid ∈ pc.present, ∀ p, pc.getParticipant pid = some p →
    ∀ kind, ∃ b, p.isMuted kind = some b ∧
      (m.controller.isMuted kind pid).map Prod.fst = .ok b ∧ (b = true ↔ m.controller.Muted kind pid)

/-- An event that a fault cuts short is not processed. -/
def FlagsGood : Except Fault Media → Prop
  | .ok m => m.FlagsAgree
  | .error _ => True

/-- The events of the runs: consumers of present participants come, go, pause and resume. -/
def ConcernsFlags (present : Set String) : MediaEvent → Prop
  | .newConsumer request consumed =>
    ∀ a, request.admission consumed = some a → a.peerId ∈ present
  | .consumerPaused _ => True
  | .consumerResumed _ => True
  | .consumerClosed _ => True
  | _ => False

/-- No other consumer of the same peer and kind is unpaused. -/
def LastUnpaused (tid : String) (m : Media) : Prop :=
  ∀ consumer, m.controller.consumerOf tid = some consumer →
    m.controller.MutedBesides tid consumer.track.kind (m.controller.peerOf tid)

/-- A consumer comes unpaused and takes no id away from the only unpaused consumer of another peer
or kind; a consumer is paused or closed when the peer has no other unpaused one of its kind. -/
def FlagsCareful (m : Media) : MediaEvent → Prop
  | .newConsumer request consumed =>
    m.controller.Consuming → ∀ a, request.admission consumed = some a →
      a.producerPaused = false ∧ ∀ kind pid, ¬ (a.track.kind = kind ∧ a.peerId = pid) →
        m.controller.MutedBesides a.tid kind pid → m.controller.Muted kind pid
  | .consumerPaused notification =>
    ∀ data, notification.data = some data → (data.consumerId.getD "").isEmpty = false →
      m.LastUnpaused (data.consumerId.getD "")
  | .consumerClosed notification =>
    ∀ data, notification.data = some data → m.LastUnpaused (data.consumerId.getD "")
  | _ => True

structure FlagsInv (present : Set String) (m : Media) (pc : ParticipantController) : Prop where
  attended : Attended present m pc
  flags : ∀ pid ∈ present, ∀ p, pc.getParticipant pid = some p → ∀ kind, ∃ b,
    p.isMuted kind = some b ∧ (b = true ↔ m.controller.Muted kind pid)

variable {present : Set String} {m m' : Media} {pc pc' : ParticipantController}

theorem FlagsInv.agree (h : m.FlagsInv present pc) : m.FlagsAgree := by
  refine ⟨pc, h.attended.observer, fun pid hpid p hp kind => ?_⟩
  rw [h.attended.participants] at hpid
  obtain ⟨b, hflag, hb⟩ := h.flags pid hpid p hp kind
  obtain ⟨b', hquery, hb'⟩ := MediaController.isMuted_iff h.attended.sound
    h.attended.noData kind pid
  have he : b' = b := by
    rw [Bool.eq_iff_iff, hb, hb']
  exact ⟨b, hflag, he ▸ hquery, hb⟩

/-- An event writes the flag of one peer and one kind. It keeps the agreement when the written
value is right and the other peers and kinds are as muted as before. -/
theorem FlagsInv.written (h : m.FlagsInv present pc) (hafter : Attended present m' pc')
    {peer : String} {kind : MediaKind} {muted : Bool} (hpeer : peer ∈ present)
    (hself : ∀ p, pc.getParticipant peer = some p → ∃ p', pc'.getParticipant peer = some p' ∧
      ∀ k, p'.isMuted k = if kind = k then some muted else p.isMuted k)
    (hother : ∀ pid, pid ≠ peer → pc'.getParticipant pid = pc.getParticipant pid)
    (hright : muted = true ↔ m'.controller.Muted kind peer)
    (hsame : ∀ k pid, ¬ (kind = k ∧ peer = pid) →
      (m'.controller.Muted k pid ↔ m.controller.Muted k pid)) :
    m'.FlagsInv present pc' := by
  refine ⟨hafter, fun pid hpid p hp k => ?_⟩
  obtain ⟨p₀, hp₀⟩ := h.attended.exists_participant hpid
  obtain ⟨b, hflag, hb⟩ := h.flags pid hpid p₀ hp₀ k
  by_cases he : pid = peer
  · subst he
    obtain ⟨p', hp', hflags⟩ := hself p₀ hp₀
    rw [hp, Option.some.injEq] at hp'
    subst hp'
    rw [hflags]
    by_cases hk : kind = k
    · subst hk
      exact ⟨muted, if_pos rfl, hright⟩
    · refine ⟨b, by rw [if_neg hk, hflag], hb.trans (hsame k pid fun hand => hk hand.1).symm⟩
  · rw [hother pid he, hp₀, Option.some.injEq] at hp
    subst hp
    exact ⟨b, hflag, hb.trans (hsame k pid fun hand => he hand.2.symm).symm⟩

/-- A written flag that is wrong breaks the agreement. -/
theorem not_agree_of_written (hafter : Attended present m' pc') {peer : String} {kind : MediaKind}
    {muted : Bool} (hpeer : peer ∈ present)
    (hself : ∃ p', pc'.getParticipant peer = some p' ∧ p'.isMuted kind = some muted)
    (hwrong : ¬ (muted = true ↔ m'.controller.Muted kind peer)) : ¬ m'.FlagsAgree := by
  rintro ⟨pc'', hobserver, hagree⟩
  rw [hafter.observer, Option.some.injEq] at hobserver
  subst hobserver
  obtain ⟨p', hp', hflag⟩ := hself
  rw [hafter.participants] at hagree
  obtain ⟨b, hb, -, hmuted⟩ := hagree peer hpeer p' hp' kind
  rw [hflag, Option.some.injEq] at hb
  exact hwrong (hb ▸ hmuted)

section Accept

variable {a : Admission} {id : Option (IntN 64)}

theorem afterAccept_isMuted (h : Attended present m pc) (hpeer : a.peerId ∈ present)
    {p : Participant} (hp : pc.getParticipant a.peerId = some p) :
    ∃ p', (Attended.afterAccept a m pc).getParticipant a.peerId = some p' ∧
      ∀ k, p'.isMuted k = if a.track.kind = k then some a.producerPaused else p.isMuted k := by
  refine ⟨_, Attended.getParticipant_self (h.isEmpty_eq hpeer) hp, fun k => ?_⟩
  rw [Participant.isMuted_setMuted, Participant.isMuted_refresh]

theorem muted_accept {kind : MediaKind} {pid : String} : (m.accept a id).controller.Muted kind pid ↔
    m.controller.MutedBesides a.tid kind pid ∧ ¬ (a.track.kind = kind ∧ a.peerId = pid) := by
  have h := @MediaController.muted_store m.controller kind pid a.peerId a.consumer rfl
  exact h

theorem FlagsInv.accept (h : m.FlagsInv present pc) (hpeer : a.peerId ∈ present)
    (hunpaused : a.producerPaused = false)
    (hkeeps : ∀ kind pid, ¬ (a.track.kind = kind ∧ a.peerId = pid) →
      m.controller.MutedBesides a.tid kind pid → m.controller.Muted kind pid) :
    (m.accept a id).FlagsInv present (Attended.afterAccept a m pc) := by
  refine h.written (h.attended.accept hpeer) hpeer
    (fun p hp => afterAccept_isMuted h.attended hpeer hp)
    (fun pid hne => Attended.getParticipant_ne h.attended.linked hne) ?_ ?_
  · rw [muted_accept, hunpaused]
    simp
  · intro k pid hne
    rw [muted_accept, and_iff_left hne]
    exact ⟨hkeeps k pid hne, fun hmuted => ((MediaController.muted_iff_besides a.tid).mp hmuted).1⟩

theorem not_agree_accept (h : m.FlagsInv present pc) (hpeer : a.peerId ∈ present)
    (hcare : ¬ (a.producerPaused = false ∧ ∀ kind pid, ¬ (a.track.kind = kind ∧ a.peerId = pid) →
      m.controller.MutedBesides a.tid kind pid → m.controller.Muted kind pid)) :
    ¬ (m.accept a id).FlagsAgree := by
  have hafter : Attended present (m.accept a id) (Attended.afterAccept a m pc) :=
    h.attended.accept hpeer
  obtain ⟨p, hp⟩ := h.attended.exists_participant hpeer
  cases hpaused : a.producerPaused with
  | true =>
    obtain ⟨p', hp', hflags⟩ := afterAccept_isMuted h.attended hpeer hp
    refine not_agree_of_written hafter hpeer
      ⟨p', hp', (hflags a.track.kind).trans (if_pos rfl)⟩ ?_
    rw [muted_accept, hpaused]
    simp
  | false =>
    simp only [hpaused, true_and, not_forall] at hcare
    obtain ⟨kind, pid, hne, hbesides, hmuted⟩ := hcare
    -- The replaced consumer was the only unpaused one of its peer and kind.
    rw [MediaController.muted_iff_besides a.tid, and_iff_right hbesides, not_forall] at hmuted
    obtain ⟨old, hold⟩ := hmuted
    simp only [not_forall] at hold
    obtain ⟨hc, hk, rfl, hlive⟩ := hold
    have hpid := h.attended.peers a.tid old hc
    obtain ⟨p₁, hp₁⟩ := h.attended.exists_participant hpid
    obtain ⟨b, hflag, hb⟩ := h.flags _ hpid p₁ hp₁ kind
    have hfalse : ¬ m.controller.Muted kind (m.controller.peerOf a.tid) := fun hmuted =>
      hlive (hmuted a.tid old hc hk rfl)
    have hself : ∃ p', (Attended.afterAccept a m pc).getParticipant (m.controller.peerOf a.tid) =
        some p' ∧ p'.isMuted kind = some b := by
      by_cases he : m.controller.peerOf a.tid = a.peerId
      · rw [he] at hp₁ ⊢
        obtain ⟨p', hp', hflags⟩ := afterAccept_isMuted h.attended hpeer hp₁
        refine ⟨p', hp', ?_⟩
        rw [hflags, if_neg fun hkind => hne ⟨hkind, he.symm⟩, hflag]
      · exact ⟨p₁, (Attended.getParticipant_ne h.attended.linked he).trans hp₁, hflag⟩
    refine not_agree_of_written hafter hpid hself ?_
    rw [muted_accept, and_iff_left hne, hb]
    exact fun hiff => hfalse (hiff.mpr hbesides)

end Accept

section Update

variable {tid : String} {consumer : Consumer} {paused : Bool}

theorem FlagsInv.attended_pause (h : m.FlagsInv present pc)
    (hc : m.controller.consumerOf tid = some consumer) (paused : Bool) :
    Attended present (m.pauseConsumer consumer paused)
      (pc.touch (m.controller.peerOf consumer.id) (Participant.setMuted consumer.track.kind paused)
        (ParticipantEvent.stateChanged consumer.track.kind paused)) := by
  obtain ⟨hl, rfl⟩ := h.attended.sound.stored.lookup_consumerOf hc
  have hpaused : Attended present
      { m with controller := m.controller.setPaused consumer paused } pc := by
    refine ⟨h.attended.observer, h.attended.linked, h.attended.participants,
      h.attended.sound.setPaused hc paused, h.attended.noData, ?_⟩
    intro tid c hc'
    show m.controller.peerOf tid ∈ present
    rw [MediaController.consumerOf_setPaused] at hc'
    split_ifs at hc' with he
    · rw [he]
      exact h.attended.peers _ consumer hc
    · exact h.attended.peers tid c hc'
  exact hpaused.tell

theorem FlagsInv.pause (h : m.FlagsInv present pc)
    (hc : m.controller.consumerOf tid = some consumer)
    (hlast : paused = true → m.controller.MutedBesides tid consumer.track.kind
      (m.controller.peerOf tid)) :
    ∃ pc', (m.pauseConsumer consumer paused).FlagsInv present pc' := by
  have hafter := h.attended_pause hc paused
  obtain ⟨hl, rfl⟩ := h.attended.sound.stored.lookup_consumerOf hc
  have hpeer := h.attended.peers _ consumer hc
  refine ⟨_, h.written hafter hpeer (fun p hp => ⟨_,
    ParticipantController.touch_getParticipant_self (h.attended.isEmpty_eq hpeer) hp,
    fun k => Participant.isMuted_setMuted⟩)
    (fun pid hne => ParticipantController.touch_getParticipant_ne h.attended.linked hne) ?_ ?_⟩
  · have hmuted := @MediaController.muted_setPaused m.controller consumer.track.kind
      (m.controller.peerOf consumer.id) consumer paused
    refine Iff.trans ?_ hmuted.symm
    exact ⟨fun hp => ⟨hlast hp, fun _ _ => hp⟩, fun hand => hand.2 rfl rfl⟩
  · intro k pid hne
    have hmuted := @MediaController.muted_setPaused m.controller k pid consumer paused
    refine hmuted.trans ?_
    rw [MediaController.muted_iff_besides_of_ne hc hne]
    exact and_iff_left fun hk hp => absurd ⟨hk, hp⟩ hne

theorem not_agree_pause (h : m.FlagsInv present pc)
    (hc : m.controller.consumerOf tid = some consumer)
    (hlast : ¬ m.controller.MutedBesides tid consumer.track.kind (m.controller.peerOf tid)) :
    ¬ (m.pauseConsumer consumer true).FlagsAgree := by
  have hafter := h.attended_pause hc true
  obtain ⟨hl, rfl⟩ := h.attended.sound.stored.lookup_consumerOf hc
  have hpeer := h.attended.peers _ consumer hc
  obtain ⟨p, hp⟩ := h.attended.exists_participant hpeer
  refine not_agree_of_written hafter hpeer ⟨_,
    ParticipantController.touch_getParticipant_self (h.attended.isEmpty_eq hpeer) hp,
    Participant.isMuted_setMuted.trans (if_pos rfl)⟩ ?_
  have hmuted := @MediaController.muted_setPaused m.controller consumer.track.kind
    (m.controller.peerOf consumer.id) consumer true
  exact fun hiff => hlast (hmuted.mp (hiff.mp rfl)).1

theorem afterRemove_isMuted (h : Attended present m pc)
    (hpeer : m.controller.peerOf consumer.id ∈ present) {p : Participant}
    (hp : pc.getParticipant (m.controller.peerOf consumer.id) = some p) :
    ∃ p', (Attended.afterRemove consumer m pc).getParticipant (m.controller.peerOf consumer.id) =
      some p' ∧ ∀ k, p'.isMuted k = if consumer.track.kind = k then some true else p.isMuted k := by
  refine ⟨_, Attended.getParticipant_self (h.isEmpty_eq hpeer) hp, fun k => ?_⟩
  rw [Participant.isMuted_refresh, Participant.isMuted_setMuted]

theorem FlagsInv.remove (h : m.FlagsInv present pc)
    (hc : m.controller.consumerOf tid = some consumer)
    (hlast : m.controller.MutedBesides tid consumer.track.kind (m.controller.peerOf tid)) :
    (m.removeConsumer consumer).FlagsInv present (Attended.afterRemove consumer m pc) := by
  have hafter := h.attended.removeConsumer hc
  obtain ⟨hl, rfl⟩ := h.attended.sound.stored.lookup_consumerOf hc
  have hpeer := h.attended.peers _ consumer hc
  refine h.written hafter hpeer (fun p hp => afterRemove_isMuted h.attended hpeer hp)
    (fun pid hne => Attended.getParticipant_ne h.attended.linked hne) ?_ ?_
  · exact iff_of_true rfl (MediaController.muted_drop.mpr hlast)
  · intro k pid hne
    rw [MediaController.muted_iff_besides_of_ne hc hne]
    exact MediaController.muted_drop

theorem not_agree_remove (h : m.FlagsInv present pc)
    (hc : m.controller.consumerOf tid = some consumer)
    (hlast : ¬ m.controller.MutedBesides tid consumer.track.kind (m.controller.peerOf tid)) :
    ¬ (m.removeConsumer consumer).FlagsAgree := by
  have hafter := h.attended.removeConsumer hc
  obtain ⟨hl, rfl⟩ := h.attended.sound.stored.lookup_consumerOf hc
  have hpeer := h.attended.peers _ consumer hc
  obtain ⟨p, hp⟩ := h.attended.exists_participant hpeer
  obtain ⟨p', hp', hflags⟩ := afterRemove_isMuted h.attended hpeer hp
  refine not_agree_of_written hafter hpeer ⟨p', hp', (hflags _).trans (if_pos rfl)⟩ ?_
  exact fun hiff => hlast (MediaController.muted_drop.mp (hiff.mp rfl))

end Update

/-- What `onConsumerPaused` and `onConsumerResumed` do. -/
theorem onConsumerPaused_eq (h : m.controller.Sound) {paused : Bool}
    {notification : Notification ConsumerNotification.Data} {data : ConsumerNotification.Data}
    (hdata : notification.data = some data) :
    m.onConsumerPaused paused notification =
      .ok (if (data.consumerId.getD "").isEmpty then m
        else (m.controller.consumerOf (data.consumerId.getD "")).elim m fun consumer =>
          m.pauseConsumer consumer paused) := by
  simp only [onConsumerPaused, hdata, engaged_some, bind, Except.bind, updateConsumer_eq h.stored]
  split_ifs
  · rfl
  · rfl

/-- What a step may end with under the guard. -/
def FlagsKept (present : Set String) (r : Except Fault Media) : Prop :=
  (∃ m', r = .ok m' ∧ ∃ pc', m'.FlagsInv present pc') ∨ ∃ f, r = .error f ∧ FlagsGood (.error f)

theorem keeps_paused (h : m.FlagsInv present pc) {paused : Bool}
    {notification : Notification ConsumerNotification.Data}
    (hlast : paused = true → ∀ data, notification.data = some data →
      (data.consumerId.getD "").isEmpty = false → m.LastUnpaused (data.consumerId.getD "")) :
    FlagsKept present (m.onConsumerPaused paused notification) := by
  cases hdata : notification.data with
  | none =>
    refine Or.inr ⟨.disengaged, ?_, trivial⟩
    rw [onConsumerPaused, hdata]
    rfl
  | some data =>
    rw [onConsumerPaused_eq h.attended.sound hdata]
    left
    cases hempty : (data.consumerId.getD "").isEmpty with
    | true => exact ⟨m, rfl, pc, h⟩
    | false =>
      simp only [Bool.false_eq_true, ↓reduceIte]
      cases hc : m.controller.consumerOf (data.consumerId.getD "") with
      | none => exact ⟨m, rfl, pc, h⟩
      | some consumer =>
        exact ⟨_, rfl, h.pause hc fun hp => hlast hp data hdata hempty consumer hc⟩

theorem flags_step_keeps {e : MediaEvent} (h : m.FlagsInv present pc)
    (hconcerns : ConcernsFlags present e) (hcare : m.FlagsCareful e) :
    FlagsKept present (m.step e) := by
  cases e with
  | newConsumer request consumed =>
    by_cases hc : m.controller.Consuming
    · cases ha : request.admission consumed with
      | none =>
        obtain ⟨f, hf, -⟩ := createNewConsumer_incomplete hc ha
        exact Or.inr ⟨f, hf, trivial⟩
      | some a =>
        have hd : a.tid ∉ m.controller.dataConsumerMap := by simp [h.attended.noData]
        obtain ⟨hunpaused, hkeeps⟩ := hcare hc a ha
        exact Or.inl ⟨_, createNewConsumer_admitted h.attended.sound hc ha hd, _,
          h.accept (hconcerns a ha) hunpaused hkeeps⟩
    · exact Or.inl ⟨m, createNewConsumer_refused hc, pc, h⟩
  | consumerPaused notification => exact keeps_paused h fun _ => hcare
  | consumerResumed notification => exact keeps_paused h (by simp)
  | consumerClosed notification =>
    cases hdata : notification.data with
    | none =>
      rcases onConsumerClosed_without_data h.attended.sound.stored hdata with ⟨-, hok⟩ | herr
      · exact Or.inl ⟨m, hok, pc, h⟩
      · exact Or.inr ⟨_, herr, trivial⟩
    | some data =>
      refine Or.inl ⟨_, onConsumerClosed_eq h.attended.sound.stored hdata, ?_⟩
      cases hc : m.controller.consumerOf (data.consumerId.getD "") with
      | none => exact ⟨pc, h⟩
      | some consumer => exact ⟨_, h.remove hc (hcare data hdata consumer hc)⟩
  | _ => exact hconcerns.elim

theorem flags_step_breaks {e : MediaEvent} (h : m.FlagsInv present pc)
    (hconcerns : ConcernsFlags present e) (hcare : ¬ m.FlagsCareful e) :
    ¬ FlagsGood (m.step e) := by
  cases e with
  | newConsumer request consumed =>
    simp only [FlagsCareful, not_forall] at hcare
    obtain ⟨hc, a, ha, hcare⟩ := hcare
    have hd : a.tid ∉ m.controller.dataConsumerMap := by simp [h.attended.noData]
    have hstep : m.step (.newConsumer request consumed) = .ok (m.accept a request.id) :=
      createNewConsumer_admitted h.attended.sound hc ha hd
    rw [hstep]
    refine not_agree_accept h (hconcerns a ha) ?_
    simpa only [not_forall] using hcare
  | consumerPaused notification =>
    simp only [FlagsCareful, LastUnpaused, not_forall] at hcare
    obtain ⟨data, hdata, hempty, consumer, hc, hlast⟩ := hcare
    have hstep : m.step (.consumerPaused notification) = _ :=
      onConsumerPaused_eq h.attended.sound hdata
    rw [hstep, if_neg (by simp [hempty]), hc]
    exact not_agree_pause h hc hlast
  | consumerResumed notification => exact absurd trivial hcare
  | consumerClosed notification =>
    simp only [FlagsCareful, LastUnpaused, not_forall] at hcare
    obtain ⟨data, hdata, consumer, hc, hlast⟩ := hcare
    have hstep : m.step (.consumerClosed notification) = _ :=
      onConsumerClosed_eq h.attended.sound.stored hdata
    rw [hstep, hc]
    exact not_agree_remove h hc hlast
  | _ => exact hconcerns.elim

/-- Participants observe a controller without consumers. -/
structure Quiet (m : Media) (pc : ParticipantController) : Prop where
  fresh : Ledger.Fresh m
  observer : m.observer = some pc
  linked : pc.Linked

/-- Every participant that is present reads as muted. -/
def FlagsSet (pc : ParticipantController) : Prop :=
  ∀ pid ∈ pc.present, ∀ p, pc.getParticipant pid = some p → ∀ kind, p.isMuted kind = some true

theorem Quiet.muted (h : Quiet m pc) (kind : MediaKind) (pid : String) :
    m.controller.Muted kind pid := by
  intro tid consumer hc
  simp [h.fresh.consumerOf] at hc

theorem Quiet.inv (h : Quiet m pc) (hset : FlagsSet pc) : m.FlagsInv pc.present pc := by
  refine ⟨.of_fresh h.fresh h.observer h.linked, fun pid hpid p hp kind => ?_⟩
  exact ⟨true, hset pid hpid p hp kind, iff_of_true rfl (h.muted kind pid)⟩

/-- At the start of a run and after each event the flag of a participant, the query over its
consumers and the consumers themselves agree, exactly when the flags start as muted, consumers come
unpaused, and a consumer is paused or closed only as the last unpaused one of its peer and kind. -/
theorem flags_agree_iff_careful (m : Media) (pc : ParticipantController) (hm : Quiet m pc)
    (run : List MediaEvent) (hrun : ∀ e ∈ run, ConcernsFlags pc.present e) :
    (∀ pre, pre <+: run → FlagsGood (exec step m pre)) ↔
      FlagsSet pc ∧ Guarded step FlagsCareful m run := by
  have hguarded (hset : FlagsSet pc) :
      (∀ pre, pre <+: run → FlagsGood (exec step m pre)) ↔ Guarded step FlagsCareful m run := by
    refine forall_prefix_good_iff_guarded (I := fun m => ∃ pc', FlagsInv pc.present m pc')
      (A := ConcernsFlags pc.present) ?_ ?_ ?_ hrun ⟨pc, hm.inv hset⟩
    · rintro m ⟨pc', h⟩
      exact h.agree
    · rintro m e ⟨pc', h⟩ he hc
      exact flags_step_keeps h he hc
    · rintro m e ⟨pc', h⟩ he hc
      exact flags_step_breaks h he hc
  constructor
  · intro h
    have hset : FlagsSet pc := by
      obtain ⟨pc', hobserver, hagree⟩ := h [] (List.nil_prefix)
      rw [hm.observer, Option.some.injEq] at hobserver
      subst hobserver
      intro pid hpid p hp kind
      obtain ⟨b, hflag, -, hb⟩ := hagree pid hpid p hp kind
      rw [hflag, hb.mpr (hm.muted kind pid)]
    exact ⟨hset, (hguarded hset).mp h⟩
  · rintro ⟨hset, hcare⟩
    exact (hguarded hset).mpr hcare

/-- Bob as an earlier session of consumers left him. -/
def bobMuted : ParticipantController where
  objects := [{ id := "bob", displayName := "Bob", isActive := some true
                isAudioMuted := some true, isVideoMuted := some true }]
  participantMap := (∅ : HashMap String (Option ℕ)).insert "bob" (some 0)

def mutedMedia : Media := { Ledger.consumingMedia with observer := some bobMuted }

theorem bobMuted_pointer (pid : String) : bobMuted.pointer pid = Stage.bobPresent.pointer pid := rfl

theorem mutedMedia_quiet : Quiet mutedMedia bobMuted :=
  ⟨⟨rfl, rfl, rfl, rfl⟩, rfl,
    ⟨fun pid ref hp => Stage.bobPresent_untracked.linked.object pid ref hp,
      fun pid pid' ref hp hp' => Stage.bobPresent_untracked.linked.distinct pid pid' ref hp hp'⟩⟩

theorem bobMuted_flagsSet : FlagsSet bobMuted := by
  rintro pid - p hp kind
  rw [ParticipantController.getParticipant, bobMuted_pointer, Stage.bobPresent_pointer] at hp
  split_ifs at hp
  · cases hp
    cases kind <;> rfl
  · cases hp

/-- A video consumer comes and is resumed. -/
theorem unpaused_video_flags_agree :
    Quiet mutedMedia bobMuted ∧
      ∀ pre, pre <+: [Ledger.newVideo "c1" "bob", .consumerResumed ⟨some ⟨some "c1"⟩⟩] →
        FlagsGood (exec step mutedMedia pre) :=
  ⟨mutedMedia_quiet,
    (flags_agree_iff_careful mutedMedia bobMuted mutedMedia_quiet _ (by
      simp only [List.forall_mem_cons, List.not_mem_nil, false_implies, implies_true, and_true]
      refine ⟨?_, trivial⟩
      rintro a ⟨⟩
      exact Stage.bob_present)).mpr ⟨bobMuted_flagsSet, by
        rintro - a ⟨⟩
        exact ⟨rfl, fun kind pid _ _ => mutedMedia_quiet.muted kind pid⟩,
        fun _ _ => ⟨trivial, fun _ _ => trivial⟩⟩⟩

/-- Bob has two video tracks and one of them is paused: his flag says muted, the query says not. -/
theorem one_of_two_tracks_paused :
    ∃ m pc p, exec step mutedMedia [Ledger.newVideo "c1" "bob", Ledger.newVideo "c2" "bob",
        .consumerPaused ⟨some ⟨some "c1"⟩⟩] = .ok m ∧
      m.observer = some pc ∧ pc.getParticipant "bob" = some p ∧ p.isVideoMuted = some true ∧
      (m.controller.isVideoMuted "bob").map Prod.fst = .ok false ∧ ¬ m.FlagsAgree := by
  refine ⟨_, _, _, rfl, rfl, rfl, rfl, rfl, ?_⟩
  rintro ⟨pc, ⟨⟩, hagree⟩
  obtain ⟨b, hflag, hquery, -⟩ := hagree "bob" ⟨by decide, rfl⟩ _ rfl .video
  cases hflag
  cases hquery

end Media
end MediasoupSdk
