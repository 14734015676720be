import MediasoupSdk.Media.Ledger

/-! The video tracks of the participants, refreshed from the maps of the media controller while
it handles an event. -/
namespace MediasoupSdk
open Foundation Signaling

namespace MediaController

variable {mc : MediaController} {tid tid' peerId : String} {consumer : Consumer} {paused : Bool}

theorem consumerOf_store : (mc.store consumer peerId).consumerOf tid =
    if tid = consumer.id then some consumer else mc.consumerOf tid := by
  simp only [consumerOf, store, HashMap.lookup_insert_eq_ite]
  split_ifs
  · rfl
  · rfl

theorem peerOf_store : (mc.store consumer peerId).peerOf tid =
    if tid = consumer.id then peerId else mc.peerOf tid := by
  simp only [peerOf, store, HashMap.lookup_insert_eq_ite]
  split_ifs
  · rfl
  · rfl

theorem consumerOf_drop :
    (mc.drop tid').consumerOf tid = if tid = tid' then none else mc.consumerOf tid := by
  simp only [consumerOf, drop, HashMap.lookup_erase_eq_ite]
  split_ifs
  · rfl
  · rfl

theorem peerOf_drop_of_ne (h : tid ≠ tid') : (mc.drop tid').peerOf tid = mc.peerOf tid := by
  simp only [peerOf, drop, HashMap.lookup_erase_eq_ite, if_neg h]

theorem consumerOf_setPaused : (mc.setPaused consumer paused).consumerOf tid =
    if tid = consumer.id then some { consumer with paused } else mc.consumerOf tid := by
  simp only [consumerOf, setPaused, HashMap.lookup_insert_eq_ite]
  split_ifs
  · rfl
  · rfl

/-- What the participant of a peer gets as its video tracks. -/
theorem mem_remoteVideoTracks {pid : String} : tid ∈ mc.remoteVideoTracks pid ↔
    ∃ consumer, mc.consumerOf tid = some consumer ∧ consumer.track.kind = .video ∧
      mc.peerOf tid = pid := by
  rw [← AList.lookup_isSome, remoteVideoTracks, HashMap.lookup_collect, consumerOf]
  cases mc.consumerMap.lookup tid with
  | none => simp
  | some pointer =>
    cases pointer with
    | none => simp
    | some consumer =>
      by_cases h : consumer.track.kind = .video ∧ mc.peerOf tid = pid
      · simp [h]
      · simp [h]

end MediaController

/-- A map of tracks, as `empty()` sees it. -/
theorem tracks_nonempty_iff {tracks : Tracks} :
    (!tracks.entries.isEmpty) = true ↔ ∃ tid, tid ∈ tracks := by
  simp only [AList.mem_keys, AList.keys]
  cases tracks.entries with
  | nil => simp
  | cons e l => exact iff_of_true rfl ⟨e.1, by simp⟩

theorem Ledger.Fresh.consumerOf {m : Media} (h : Ledger.Fresh m) (tid : String) :
    m.controller.consumerOf tid = none := by
  simp [MediaController.consumerOf, h.consumers]

def ParticipantController.present (pc : ParticipantController) : Set String :=
  {pid | pid.isEmpty = false ∧ (pc.pointer pid).isSome}

/-- `hasVideo()` -/
def Participant.hasVideo (p : Participant) : Bool := !p.videoTracks.entries.isEmpty

namespace ParticipantController

variable {pc : ParticipantController} {pid other displayName : String} {p : Participant}

/-- The pointers are in order and lead to participants without video tracks. -/
structure Untracked (pc : ParticipantController) : Prop where
  linked : pc.Linked
  noTracks : ∀ pid p, pc.getParticipant pid = some p → p.videoTracks = ∅

theorem untracked_empty : Untracked {} := by
  refine ⟨⟨fun pid ref hp => ?_, fun pid pid' ref hp => ?_⟩, fun pid p hp => ?_⟩
  · cases hp
  · cases hp
  · cases hp

theorem createParticipant_pointer (h : pc.participantMap.lookup pid = none) :
    (pc.createParticipant pid displayName).pointer other =
      if other = pid then some pc.objects.length else pc.pointer other := by
  rw [pointer, createParticipant, h]
  simp only [Option.isSome_none, Bool.false_eq_true, if_false, HashMap.lookup_insert_eq_ite]
  split_ifs <;> rfl

theorem Untracked.createParticipant (h : pc.Untracked) (pid displayName : String) :
    (pc.createParticipant pid displayName).Untracked := by
  cases hlookup : pc.participantMap.lookup pid with
  | some entry =>
    have hsame : pc.createParticipant pid displayName = pc := by
      rw [ParticipantController.createParticipant, hlookup]
      rfl
    rw [hsame]
    exact h
  | none =>
    have hobjects : (pc.createParticipant pid displayName).objects =
        pc.objects ++ [Participant.setActive true { id := pid, displayName }] := by
      rw [ParticipantController.createParticipant, hlookup]
      rfl
    have hpointer (other : String) := @createParticipant_pointer pc pid other displayName hlookup
    refine ⟨⟨fun other ref hp => ?_, fun other other' ref hp hp' => ?_⟩, fun other p hp => ?_⟩
    · rw [hpointer] at hp
      rw [hobjects, List.length_append, List.length_singleton]
      split_ifs at hp
      · cases hp
        omega
      · exact Nat.lt_succ_of_lt (h.linked.object other ref hp)
    · rw [hpointer] at hp hp'
      -- an old pointer leads to an object before the new one
      split_ifs at hp hp' with he he'
      · rw [he, he']
      · cases hp
        exact absurd (h.linked.object other' _ hp') (lt_irrefl _)
      · cases hp'
        exact absurd (h.linked.object other _ hp) (lt_irrefl _)
      · exact h.linked.distinct other other' ref hp hp'
    · obtain ⟨ref, href, hobject⟩ := Option.bind_eq_some_iff.mp hp
      rw [hpointer] at href
      rw [hobjects] at hobject
      split_ifs at href
      · cases href
        rw [List.getElem?_concat_length] at hobject
        cases hobject
        rfl
      · rw [List.getElem?_append_left (h.linked.object other ref href)] at hobject
        exact h.noTracks other p (Option.bind_eq_some_iff.mpr ⟨ref, href, hobject⟩)

end ParticipantController

/-- The participant controller observes, its pointers are in order and lead to the participants of
the given set, and each consumer belongs to one of them. No data consumer is there. -/
structure Attended (present : Set String) (m : Media) (pc : ParticipantController) : Prop where
  observer : m.observer = some pc
  linked : pc.Linked
  participants : pc.present = present
  sound : m.controller.Sound
  noData : m.controller.dataConsumerMap = ∅
  peers : ∀ tid consumer, m.controller.consumerOf tid = some consumer →
    m.controller.peerOf tid ∈ present

namespace Attended

variable {present : Set String} {m : Media} {pc : ParticipantController} {pid other : String}

theorem of_fresh (h : Ledger.Fresh m) (hobserver : m.observer = some pc) (hlinked : pc.Linked) :
    Attended pc.present m pc := by
  refine ⟨hobserver, hlinked, rfl, h.sound, h.dataConsumers, ?_⟩
  intro tid consumer hc
  simp [h.consumerOf] at hc

theorem isEmpty_eq (h : Attended present m pc) (hp : pid ∈ present) : pid.isEmpty = false := by
  rw [← h.participants] at hp
  exact hp.1

theorem exists_participant (h : Attended present m pc) (hp : pid ∈ present) :
    ∃ p, pc.getParticipant pid = some p := by
  rw [← h.participants] at hp
  obtain ⟨ref, href⟩ := Option.isSome_iff_exists.mp hp.2
  have hlt := h.linked.object pid ref href
  exact ⟨_, by rw [ParticipantController.getParticipant, href, Option.bind_some,
    List.getElem?_eq_getElem hlt]⟩

theorem present_touch {set : Participant → Participant} {notify : ℕ → List ParticipantEvent} :
    (pc.touch pid set notify).present = pc.present := by
  ext pid'
  simp [ParticipantController.present]

/-- An event tells one participant and changes the maps. -/
theorem tell {set : Participant → Participant} {notify : ℕ → List ParticipantEvent}
    (h : Attended present m pc) :
    Attended present (m.tell pid set notify) (pc.touch pid set notify) where
  observer := by
    rw [Media.tell, h.observer]
    rfl
  linked := h.linked.touch
  participants := present_touch.trans h.participants
  sound := h.sound
  noData := h.noData
  peers := h.peers

/-- What the participant controller has become after `accept`. -/
def afterAccept (a : Admission) (m : Media) (pc : ParticipantController) : ParticipantController :=
  (pc.touch a.peerId ((m.controller.store a.consumer a.peerId).refresh a.track.kind a.peerId)
    (ParticipantEvent.created a.tid a.track a.appData)).touch a.peerId
      (Participant.setMuted a.track.kind a.producerPaused)
      (ParticipantEvent.stateChanged a.track.kind a.producerPaused)

theorem accept {a : Admission} {id : Option (IntN 64)} (h : Attended present m pc)
    (ha : a.peerId ∈ present) : Attended present (m.accept a id) (afterAccept a m pc) := by
  have hd : a.tid ∉ m.controller.dataConsumerMap := by simp [h.noData]
  have hstored : Attended present
      { m with controller := m.controller.store a.consumer a.peerId } pc := by
    refine ⟨h.observer, h.linked, h.participants, h.sound.store hd a.peerId, h.noData, ?_⟩
    intro tid consumer hc
    simp only [MediaController.consumerOf_store, MediaController.peerOf_store] at hc ⊢
    split_ifs at hc ⊢
    · exact ha
    · exact h.peers tid consumer hc
  exact ⟨hstored.tell.tell.observer, hstored.tell.tell.linked, hstored.tell.tell.participants,
    hstored.sound, hstored.noData, hstored.peers⟩

/-- What the participant controller has become after `removeConsumer`. -/
def afterRemove (consumer : Consumer) (m : Media) (pc : ParticipantController) :
    ParticipantController :=
  let pid := m.controller.peerOf consumer.id
  (pc.touch pid (Participant.setMuted consumer.track.kind true)
    (ParticipantEvent.stateChanged consumer.track.kind true)).touch pid
      (m.controller.refresh consumer.track.kind pid)
      (ParticipantEvent.removed consumer.track.kind consumer.id)

theorem removeConsumer {tid : String} {consumer : Consumer} (h : Attended present m pc)
    (hc : m.controller.consumerOf tid = some consumer) :
    Attended present (m.removeConsumer consumer) (afterRemove consumer m pc) := by
  obtain ⟨hl, rfl⟩ := h.sound.stored.lookup_consumerOf hc
  have hd : consumer.id ∉ m.controller.dataConsumerMap := by simp [h.noData]
  refine ⟨h.tell.tell.observer, h.tell.tell.linked, h.tell.tell.participants, h.sound.drop hd,
    h.noData, ?_⟩
  intro tid c hc'
  show (m.controller.drop consumer.id).peerOf tid ∈ present
  have hc'' : (m.controller.drop consumer.id).consumerOf tid = some c := hc'
  rw [MediaController.consumerOf_drop] at hc''
  split_ifs at hc'' with he
  rw [MediaController.peerOf_drop_of_ne he]
  exact h.peers tid c hc''

/-- A participant that is told twice. -/
theorem getParticipant_self {set set' : Participant → Participant}
    {notify notify' : ℕ → List ParticipantEvent} {p : Participant} (hpid : pid.isEmpty = false)
    (hp : pc.getParticipant pid = some p) :
    ((pc.touch pid set notify).touch pid set' notify').getParticipant pid = some (set' (set p)) :=
  ParticipantController.touch_getParticipant_self hpid
    (ParticipantController.touch_getParticipant_self hpid hp)

theorem getParticipant_ne {set set' : Participant → Participant}
    {notify notify' : ℕ → List ParticipantEvent} (h : pc.Linked) (hne : other ≠ pid) :
    ((pc.touch pid set notify).touch pid set' notify').getParticipant other =
      pc.getParticipant other := by
  rw [ParticipantController.touch_getParticipant_ne h.touch hne,
    ParticipantController.touch_getParticipant_ne h hne]

end Attended

namespace Participant

variable {p : Participant} {kind : MediaKind} {muted : Bool} {mc : MediaController} {pid : String}

@[simp] theorem setMuted_videoTracks : (setMuted kind muted p).videoTracks = p.videoTracks := by
  cases kind <;> rfl

@[simp] theorem refresh_audio_videoTracks :
    (mc.refresh .audio pid p).videoTracks = p.videoTracks := rfl

@[simp] theorem refresh_video_videoTracks :
    (mc.refresh .video pid p).videoTracks = mc.remoteVideoTracks pid := rfl

theorem hasVideo_iff : p.hasVideo = true ↔ ∃ tid, tid ∈ p.videoTracks := tracks_nonempty_iff

end Participant

/-- The controller next to the consumers that are open by the events, each with its peer and
kind. -/
structure Stage where
  media : Media
  opened : String → Option (String × MediaKind) := fun _ => none

namespace Stage

def openedAfter (s : Stage) : MediaEvent → String → Option (String × MediaKind)
  | .newConsumer request consumed =>
    if s.media.controller.Consuming then
      match request.admission consumed with
      | some a => Function.update s.opened a.tid (some (a.peerId, a.track.kind))
      | none => s.opened
    else s.opened
  | .consumerClosed notification =>
    match notification.data with
    | some data => Function.update s.opened (data.consumerId.getD "") none
    | none => s.opened
  | _ => s.opened

def step (s : Stage) (e : MediaEvent) : Except Fault Stage := do
  let media ← s.media.step e
  return { media, opened := s.openedAfter e }

/-- Each participant that is present has the video tracks of its open consumers. -/
def TracksMatch (s : Stage) : Prop :=
  ∃ pc, s.media.observer = some pc ∧ ∀ pid ∈ pc.present, ∀ p, pc.getParticipant pid = some p →
    (∀ tid, tid ∈ p.videoTracks ↔ s.opened tid = some (pid, .video)) ∧
      (p.hasVideo = true ↔ ∃ tid, s.opened tid = some (pid, .video))

/-- An event that a fault cuts short is not processed. -/
def Good : Except Fault Stage → Prop
  | .ok s => s.TracksMatch
  | .error _ => True

/-- The events of the runs: consumers of present participants come and go. -/
def Concerns (present : Set String) : MediaEvent → Prop
  | .newConsumer request consumed =>
    ∀ a, request.admission consumed = some a → a.peerId ∈ present
  | .consumerClosed _ => True
  | _ => False

/-- No open video consumer is closed, nor is its id given to another peer or another kind. -/
def Careful (s : Stage) : MediaEvent → Prop
  | .newConsumer request consumed =>
    s.media.controller.Consuming → ∀ a, request.admission consumed = some a →
      ∀ peer, s.opened a.tid = some (peer, .video) → peer = a.peerId ∧ a.track.kind = .video
  | .consumerClosed notification =>
    ∀ data, notification.data = some data →
      ∀ peer, s.opened (data.consumerId.getD "") ≠ some (peer, .video)
  | _ => True

instance (s : Stage) : ∀ e, Decidable (s.Careful e)
  | .newConsumer request consumed =>
    decidable_of_iff (s.media.controller.Consuming → ∀ a ∈ request.admission consumed,
      ∀ p ∈ s.opened a.tid, p.2 = .video → p.1 = a.peerId ∧ a.track.kind = .video)
      (forall₃_congr fun _ a _ => ⟨fun h peer hp => h (peer, .video) hp rfl,
        fun h p hp hk => h p.1 (by rw [hp, ← hk])⟩)
  | .consumerClosed notification =>
    decidable_of_iff (∀ data ∈ notification.data, ∀ p ∈ s.opened (data.consumerId.getD ""),
      p.2 ≠ .video) (forall₂_congr fun data _ => ⟨fun h peer hp => h (peer, .video) hp rfl,
        fun h p hp hk => h p.1 (by rw [hp, ← hk])⟩)
  | .newDataConsumer .. | .dataConsumerClosed _ | .consumerPaused _ | .consumerResumed _
  | .muteAudio _ | .muteAudioOf .. | .muteVideo .. | .isAudioMuted _ | .isVideoMuted _
  | .getRemoteAudioTracks _ | .getRemoteVideoTracks _ | .destroy => .isTrue trivial

/-- The invariant: the maps hold the open consumers, and the tracks match. -/
structure Inv (present : Set String) (s : Stage) (pc : ParticipantController) : Prop where
  attended : Attended present s.media pc
  opened : ∀ tid, s.opened tid = (s.media.controller.consumerOf tid).map fun consumer =>
    (s.media.controller.peerOf tid, consumer.track.kind)
  tracks : ∀ pid ∈ present, ∀ p, pc.getParticipant pid = some p →
    ∀ tid, tid ∈ p.videoTracks ↔ s.opened tid = some (pid, .video)

variable {present : Set String} {s : Stage} {pc : ParticipantController}

theorem step_ok {e : MediaEvent} {media : Media} (h : s.media.step e = .ok media) :
    s.step e = .ok { media, opened := s.openedAfter e } := by
  rw [step, h]
  rfl

theorem step_error {e : MediaEvent} {f : Fault} (h : s.media.step e = .error f) :
    s.step e = .error f := by
  rw [step, h]
  rfl

theorem Inv.tracksMatch (h : s.Inv present pc) : s.TracksMatch := by
  refine ⟨pc, h.attended.observer, fun pid hpid p hp => ?_⟩
  rw [h.attended.participants] at hpid
  have htracks := h.tracks pid hpid p hp
  refine ⟨htracks, ?_⟩
  rw [Participant.hasVideo_iff]
  exact exists_congr htracks

/-- The open consumer with a given peer and kind, in the maps. -/
theorem Inv.consumer_of_opened (h : s.Inv present pc) {tid peer : String} {kind : MediaKind}
    (ho : s.opened tid = some (peer, kind)) :
    ∃ consumer, s.media.controller.consumerOf tid = some consumer ∧
      s.media.controller.peerOf tid = peer ∧ consumer.track.kind = kind ∧ peer ∈ present := by
  rw [h.opened, Option.map_eq_some_iff] at ho
  obtain ⟨consumer, hc, he⟩ := ho
  rw [Prod.mk.injEq] at he
  obtain ⟨rfl, rfl⟩ := he
  exact ⟨consumer, hc, rfl, rfl, h.attended.peers tid consumer hc⟩

/-- The stage after a complete request. -/
def admitted (a : Admission) (id : Option (IntN 64)) (s : Stage) : Stage :=
  { media := s.media.accept a id
    opened := Function.update s.opened a.tid (some (a.peerId, a.track.kind)) }

theorem step_newConsumer (h : s.Inv present pc) {request : SfuRequest NewConsumerRequest.Data}
    {consumed : Option Track} {a : Admission} (hc : s.media.controller.Consuming)
    (ha : request.admission consumed = some a) :
    s.step (.newConsumer request consumed) = .ok (s.admitted a request.id) := by
  have hd : a.tid ∉ s.media.controller.dataConsumerMap := by simp [h.attended.noData]
  have hstep : s.media.step (.newConsumer request consumed) = .ok (s.media.accept a request.id) :=
    Media.createNewConsumer_admitted h.attended.sound hc ha hd
  rw [step_ok hstep]
  simp only [openedAfter, hc, ↓reduceIte, ha]
  rfl

theorem opened_admitted (h : s.Inv present pc) (a : Admission) (id : Option (IntN 64))
    (tid : String) :
    (s.admitted a id).opened tid = ((s.admitted a id).media.controller.consumerOf tid).map
      fun consumer => ((s.admitted a id).media.controller.peerOf tid, consumer.track.kind) := by
  have hcontroller : (s.admitted a id).media.controller =
      s.media.controller.store a.consumer a.peerId := rfl
  rw [hcontroller, MediaController.consumerOf_store, MediaController.peerOf_store]
  by_cases he : tid = a.tid
  · subst he
    simp [admitted, Admission.consumer]
  · have hid : tid ≠ a.consumer.id := he
    simp only [admitted, Function.update_of_ne he, if_neg hid]
    exact h.opened tid

/-- The video tracks of a participant after a complete request. -/
theorem mem_videoTracks_admitted (h : s.Inv present pc) {a : Admission}
    (hpeer : a.peerId ∈ present) {pid : String} (hpid : pid ∈ present) {p : Participant}
    (hp : (Attended.afterAccept a s.media pc).getParticipant pid = some p) (id : Option (IntN 64))
    (tid : String) :
    tid ∈ p.videoTracks ↔
      if pid = a.peerId ∧ a.track.kind = .video then (s.admitted a id).opened tid = some (pid, .video)
      else s.opened tid = some (pid, .video) := by
  obtain ⟨p₀, hp₀⟩ := h.attended.exists_participant hpid
  by_cases he : pid = a.peerId
  · subst he
    have hempty := h.attended.isEmpty_eq hpeer
    rw [Attended.afterAccept, Attended.getParticipant_self hempty hp₀, Option.some.injEq] at hp
    subst hp
    cases hk : a.track.kind with
    | audio =>
      simp only [Participant.setMuted_videoTracks, Participant.refresh_audio_videoTracks,
        reduceCtorEq, and_false, ↓reduceIte]
      exact h.tracks a.peerId hpid p₀ hp₀ tid
    | video =>
      simp only [Participant.setMuted_videoTracks, Participant.refresh_video_videoTracks,
        and_self, ↓reduceIte, MediaController.mem_remoteVideoTracks, opened_admitted h,
        Option.map_eq_some_iff, Prod.mk.injEq]
      constructor
      · rintro ⟨consumer, hc, hkind, hpeerOf⟩
        exact ⟨consumer, hc, hpeerOf, hkind⟩
      · rintro ⟨consumer, hc, hpeerOf, hkind⟩
        exact ⟨consumer, hc, hkind, hpeerOf⟩
  · rw [Attended.afterAccept, Attended.getParticipant_ne h.attended.linked he] at hp
    simp only [he, false_and, ↓reduceIte]
    exact h.tracks pid hpid p hp tid

theorem Inv.admitted (h : s.Inv present pc) {a : Admission} {id : Option (IntN 64)}
    (hpeer : a.peerId ∈ present)
    (hfree : ∀ peer, s.opened a.tid = some (peer, .video) →
      peer = a.peerId ∧ a.track.kind = .video) :
    (s.admitted a id).Inv present (Attended.afterAccept a s.media pc) := by
  refine ⟨h.attended.accept hpeer, opened_admitted h a id, fun pid hpid p hp tid => ?_⟩
  rw [mem_videoTracks_admitted h hpeer hpid hp id]
  split_ifs with hself
  · rfl
  · -- Only the id of the new consumer could make a difference here.
    by_cases he : tid = a.tid
    · subst he
      have hnew : (s.admitted a id).opened a.tid = some (a.peerId, a.track.kind) := by
        simp [Stage.admitted]
      constructor
      · intro hold
        exact absurd (hfree pid hold) hself
      · intro hopen
        rw [hnew, Option.some.injEq, Prod.mk.injEq] at hopen
        exact absurd ⟨hopen.1.symm, hopen.2⟩ hself
    · simp [Stage.admitted, Function.update_of_ne he]

/-- The stage after a consumer was closed. -/
def closed (consumer : Consumer) (s : Stage) : Stage :=
  { media := s.media.removeConsumer consumer
    opened := Function.update s.opened consumer.id none }

theorem step_consumerClosed (h : s.Inv present pc)
    {notification : Notification ConsumerNotification.Data} {data : ConsumerNotification.Data}
    (hdata : notification.data = some data) :
    s.step (.consumerClosed notification) =
      .ok ((s.media.controller.consumerOf (data.consumerId.getD "")).elim s fun consumer =>
        s.closed consumer) := by
  have hstep : s.media.step (.consumerClosed notification) = _ :=
    Media.onConsumerClosed_eq h.attended.sound.stored hdata
  rw [step_ok hstep]
  simp only [openedAfter, hdata]
  cases hc : s.media.controller.consumerOf (data.consumerId.getD "") with
  | none =>
    have hopened : s.opened (data.consumerId.getD "") = none := by rw [h.opened, hc]; rfl
    rw [← hopened, Function.update_eq_self]
    rfl
  | some consumer =>
    obtain ⟨-, hid⟩ := h.attended.sound.stored.lookup_consumerOf hc
    rw [← hid]
    rfl

theorem opened_closed (h : s.Inv present pc) (consumer : Consumer) (tid' : String) :
    (s.closed consumer).opened tid' = ((s.closed consumer).media.controller.consumerOf tid').map
      fun c => ((s.closed consumer).media.controller.peerOf tid', c.track.kind) := by
  have hcontroller : (s.closed consumer).media.controller =
      s.media.controller.drop consumer.id := rfl
  rw [hcontroller, MediaController.consumerOf_drop]
  by_cases he : tid' = consumer.id
  · subst he
    simp [closed]
  · simp only [closed, Function.update_of_ne he, if_neg he]
    rw [MediaController.peerOf_drop_of_ne he]
    exact h.opened tid'

/-- Closing an audio consumer touches no video track. -/
theorem Inv.closed (h : s.Inv present pc) {tid : String} {consumer : Consumer}
    (hc : s.media.controller.consumerOf tid = some consumer)
    (hkind : consumer.track.kind = .audio) :
    (s.closed consumer).Inv present (Attended.afterRemove consumer s.media pc) := by
  refine ⟨h.attended.removeConsumer hc, opened_closed h consumer, fun pid hpid p hp tid' => ?_⟩
  obtain ⟨-, rfl⟩ := h.attended.sound.stored.lookup_consumerOf hc
  have hopened : (s.closed consumer).opened tid' = some (pid, .video) ↔
      s.opened tid' = some (pid, .video) := by
    by_cases he : tid' = consumer.id
    · subst he
      rw [h.opened, hc]
      simp [Stage.closed, hkind]
    · simp [Stage.closed, Function.update_of_ne he]
  rw [hopened]
  obtain ⟨p₀, hp₀⟩ := h.attended.exists_participant hpid
  rw [← h.tracks pid hpid p₀ hp₀]
  by_cases he : pid = s.media.controller.peerOf consumer.id
  · have hempty := h.attended.isEmpty_eq hpid
    rw [he] at hp hp₀ hempty
    rw [Attended.afterRemove, Attended.getParticipant_self hempty hp₀, Option.some.injEq] at hp
    rw [← hp, hkind, Participant.refresh_audio_videoTracks, Participant.setMuted_videoTracks]
  · rw [Attended.afterRemove, Attended.getParticipant_ne h.attended.linked he, hp₀,
      Option.some.injEq] at hp
    rw [hp]

/-- A step under the guard completes within the invariant, or a fault cuts it short. -/
theorem step_keeps {e : MediaEvent} (h : s.Inv present pc) (hconcerns : Concerns present e)
    (hcare : s.Careful e) :
    (∃ s', s.step e = .ok s' ∧ ∃ pc', s'.Inv present pc') ∨
      ∃ f, s.step e = .error f ∧ Good (.error f) := by
  cases e with
  | newConsumer request consumed =>
    by_cases hc : s.media.controller.Consuming
    · cases ha : request.admission consumed with
      | none =>
        obtain ⟨f, hf, -⟩ := Media.createNewConsumer_incomplete hc ha
        exact Or.inr ⟨f, step_error hf, trivial⟩
      | some a =>
        exact Or.inl ⟨_, step_newConsumer h hc ha, _,
          h.admitted (hconcerns a ha) (hcare hc a ha)⟩
    · have hstep : s.media.step (.newConsumer request consumed) = .ok s.media :=
        Media.createNewConsumer_refused hc
      refine Or.inl ⟨s, ?_, pc, h⟩
      rw [step_ok hstep]
      simp only [openedAfter, hc, ↓reduceIte]
  | consumerClosed notification =>
    cases hdata : notification.data with
    | none =>
      rcases Media.onConsumerClosed_without_data h.attended.sound.stored hdata with ⟨-, hok⟩ | herr
      · refine Or.inl ⟨s, ?_, pc, h⟩
        have hstep : s.media.step (.consumerClosed notification) = .ok s.media := hok
        rw [step_ok hstep]
        simp only [openedAfter, hdata]
      · exact Or.inr ⟨_, step_error herr, trivial⟩
    | some data =>
      left
      rw [step_consumerClosed h hdata]
      cases hc : s.media.controller.consumerOf (data.consumerId.getD "") with
      | none => exact ⟨s, rfl, pc, h⟩
      | some consumer =>
        refine ⟨_, rfl, _, h.closed hc ?_⟩
        cases hk : consumer.track.kind with
        | audio => rfl
        | video =>
          refine absurd ?_ (hcare data hdata (s.media.controller.peerOf (data.consumerId.getD "")))
          rw [h.opened, hc, ← hk]
          rfl
  | _ => exact hconcerns.elim

/-- Outside the guard a participant keeps the track of a consumer that is gone. -/
theorem step_breaks {e : MediaEvent} (h : s.Inv present pc) (hconcerns : Concerns present e)
    (hcare : ¬ s.Careful e) : ¬ Good (s.step e) := by
  cases e with
  | newConsumer request consumed =>
    simp only [Careful, not_forall] at hcare
    obtain ⟨hc, a, ha, peer, hopened, hself⟩ := hcare
    rw [step_newConsumer h hc ha]
    rintro ⟨pc', hobserver, hmatch⟩
    have hafter : Attended present (s.admitted a request.id).media
        (Attended.afterAccept a s.media pc) := h.attended.accept (hconcerns a ha)
    rw [hafter.observer, Option.some.injEq] at hobserver
    subst hobserver
    obtain ⟨-, -, -, -, hpeer⟩ := h.consumer_of_opened hopened
    obtain ⟨p, hp⟩ := hafter.exists_participant hpeer
    have hmem : a.tid ∈ p.videoTracks := by
      rw [mem_videoTracks_admitted h (hconcerns a ha) hpeer hp request.id, if_neg]
      · exact hopened
      · exact hself
    rw [hafter.participants] at hmatch
    have hnew := ((hmatch peer hpeer p hp).1 a.tid).mp hmem
    simp only [admitted, Function.update_self, Option.some.injEq, Prod.mk.injEq] at hnew
    exact hself ⟨hnew.1.symm, hnew.2⟩
  | consumerClosed notification =>
    simp only [Careful, not_forall, not_not] at hcare
    obtain ⟨data, hdata, peer, hopened⟩ := hcare
    obtain ⟨consumer, hc, rfl, hkind, hpeer⟩ := h.consumer_of_opened hopened
    obtain ⟨-, hid⟩ := h.attended.sound.stored.lookup_consumerOf hc
    rw [step_consumerClosed h hdata, hc]
    rintro ⟨pc', hobserver, hmatch⟩
    have hafter : Attended present (s.closed consumer).media
        (Attended.afterRemove consumer s.media pc) := h.attended.removeConsumer hc
    rw [Option.elim_some, hafter.observer, Option.some.injEq] at hobserver
    subst hobserver
    obtain ⟨p₀, hp₀⟩ := h.attended.exists_participant hpeer
    have hempty := h.attended.isEmpty_eq hpeer
    have hp := @Attended.getParticipant_self pc _
      (Participant.setMuted consumer.track.kind true)
      (s.media.controller.refresh consumer.track.kind (s.media.controller.peerOf consumer.id))
      (ParticipantEvent.stateChanged consumer.track.kind true)
      (ParticipantEvent.removed consumer.track.kind consumer.id) p₀ hempty hp₀
    rw [← hid] at hpeer hp
    rw [hafter.participants] at hmatch
    have hclosed := ((hmatch _ hpeer _ hp).1 consumer.id).mp (by
      rw [hkind, Participant.refresh_video_videoTracks, MediaController.mem_remoteVideoTracks]
      exact ⟨consumer, by rw [hid]; exact hc, hkind, rfl⟩)
    simp [closed] at hclosed
  | _ => exact hconcerns.elim

/-- The participants are there, without video tracks. -/
structure Ready (m : Media) (pc : ParticipantController) : Prop where
  fresh : Ledger.Fresh m
  observer : m.observer = some pc
  linked : pc.Linked
  noTracks : ∀ pid ∈ pc.present, ∀ p, pc.getParticipant pid = some p → p.videoTracks = ∅

theorem Ready.inv {m : Media} (h : Ready m pc) : Inv pc.present { media := m } pc := by
  refine ⟨.of_fresh h.fresh h.observer h.linked, ?_, ?_⟩
  · intro tid
    simp [h.fresh.consumerOf]
  · intro pid hpid p hp tid
    simp [h.noTracks pid hpid p hp]

/-- All through a run each participant has the video tracks of its open consumers, exactly when the
run closes no open video consumer and gives the id of none to another peer or kind. -/
theorem tracks_match_iff_careful (m : Media) (pc : ParticipantController) (hm : Ready m pc)
    (run : List MediaEvent) (hrun : ∀ e ∈ run, Concerns pc.present e) :
    (∀ pre, pre <+: run → Good (exec step { media := m } pre)) ↔
      Guarded step Careful { media := m } run := by
  refine forall_prefix_good_iff_guarded (I := fun s => ∃ pc', Inv pc.present s pc')
    (A := Concerns pc.present) ?_ ?_ ?_ hrun ⟨pc, hm.inv⟩
  · rintro s ⟨pc', hs⟩
    exact hs.tracksMatch
  · rintro s e ⟨pc', hs⟩ he hc
    exact step_keeps hs he hc
  · rintro s e ⟨pc', hs⟩ he hc
    exact step_breaks hs he hc

def bobPresent : ParticipantController := ({} : ParticipantController).createParticipant "bob" "Bob"

def attendedMedia : Media := { Ledger.consumingMedia with observer := some bobPresent }

theorem bobPresent_pointer (pid : String) :
    bobPresent.pointer pid = if pid = "bob" then some 0 else none :=
  ParticipantController.createParticipant_pointer rfl

theorem bobPresent_untracked : bobPresent.Untracked :=
  ParticipantController.untracked_empty.createParticipant "bob" "Bob"

theorem bob_present : "bob" ∈ bobPresent.present := ⟨by decide, rfl⟩

def bothPresent : ParticipantController := bobPresent.createParticipant "carol" "Carol"

def sharedMedia : Media := { Ledger.consumingMedia with observer := some bothPresent }

/-- Bob and Carol open video consumers, one of them anew, and an audio consumer comes and goes. -/
def twoPeers : List MediaEvent :=
  [Ledger.newVideo "c1" "bob", Ledger.newAudio "a1" "bob", Ledger.newVideo "c2" "carol",
    Ledger.newVideo "c3" "bob", .consumerClosed ⟨some ⟨some "a1"⟩⟩, Ledger.newVideo "c1" "bob"]

theorem new_video_tracks_match :
    Ready sharedMedia bothPresent ∧ (∃ s, exec step { media := sharedMedia } twoPeers = .ok s ∧
      s.opened "c3" = some ("bob", .video) ∧ s.opened "c2" = some ("carol", .video) ∧
      s.opened "a1" = none) ∧
    ∀ pre, pre <+: twoPeers → Good (exec step { media := sharedMedia } pre) := by
  have huntracked := bobPresent_untracked.createParticipant "carol" "Carol"
  have hready : Ready sharedMedia bothPresent :=
    ⟨⟨rfl, rfl, rfl, rfl⟩, rfl, huntracked.linked, fun pid _ => huntracked.noTracks pid⟩
  have hbob : "bob" ∈ bothPresent.present := ⟨by decide, rfl⟩
  have hcarol : "carol" ∈ bothPresent.present := ⟨by decide, rfl⟩
  have hconcerns : ∀ e ∈ twoPeers, Concerns bothPresent.present e := by
    simp only [twoPeers, List.forall_mem_cons]
    refine ⟨?_, ?_, ?_, ?_, trivial, ?_, fun _ h => absurd h List.not_mem_nil⟩
    all_goals
      rintro a ⟨⟩
      assumption
  refine ⟨hready, ⟨_, rfl, rfl, rfl, rfl⟩, ?_⟩
  exact (tracks_match_iff_careful sharedMedia bothPresent hready twoPeers hconcerns).mpr
    (by decide +kernel)

/-- The closed consumer is still among the video tracks of its participant. -/
theorem closed_consumer_keeps_track :
    ∃ s pc p, exec step { media := attendedMedia }
        [Ledger.newVideo "c1" "bob", .consumerClosed ⟨some ⟨some "c1"⟩⟩] = .ok s ∧
      s.media.observer = some pc ∧ pc.getParticipant "bob" = some p ∧
      s.opened "c1" = none ∧ "c1" ∈ p.videoTracks ∧ p.hasVideo = true ∧ ¬ s.TracksMatch := by
  refine ⟨_, _, _, rfl, rfl, rfl, rfl, by decide, rfl, ?_⟩
  rintro ⟨pc, ⟨⟩, hmatch⟩
  have htrack := ((hmatch "bob" ⟨by decide, rfl⟩ _ rfl).1 "c1").mp (by decide)
  exact absurd htrack (by decide)

end Stage
end MediasoupSdk
