import MediasoupSdk.Media.Tracks

/-! `RtcClient`, the client of the SDK: the video receivers of a puller, fed on the main thread by
the events of the participant controller. -/
namespace MediasoupSdk
open Foundation Signaling

structure VideoReceiver where
  trackName : String
  deriving DecidableEq, Repr

/-- The role is 0 for a client that pushes and 1 for one that pulls. -/
structure RtcClient where
  role : ℤ
  videoReceivers : HashMap Track VideoReceiver := ∅

namespace RtcClient

/-- `sharing.trackName`, which stays empty when a member is missing. -/
def trackName (appData : NewConsumerRequest.AppData.Val) : String :=
  (appData.2.1.bind fun sharing => sharing.1).getD ""

/-- The log line reads the id of the track, whatever the role. -/
def onCreateRemoteVideoTrack (track : Option Track) (appData : NewConsumerRequest.AppData.Val)
    (c : RtcClient) : Except Fault RtcClient := do
  let track ← deref .track track
  if c.role = 1 then
    return { c with videoReceivers := c.videoReceivers.insert track ⟨trackName appData⟩ }
  return c

def onRemoveRemoteVideoTrack (track : Option Track) (c : RtcClient) : Except Fault RtcClient := do
  let track ← deref .track track
  if c.role = 1 then return { c with videoReceivers := c.videoReceivers.erase track }
  return c

/-- The other handlers only write to the log. -/
def handle (c : RtcClient) : ParticipantEvent → Except Fault RtcClient
  | .onCreateRemoteVideoTrack _ _ track appData => c.onCreateRemoteVideoTrack track appData
  | .onRemoveRemoteVideoTrack _ _ track => c.onRemoveRemoteVideoTrack track
  | _ => .ok c

variable {c c' : RtcClient} {event : ParticipantEvent}

theorem handle_role (h : c.handle event = .ok c') : c'.role = c.role := by
  cases event with
  | onCreateRemoteVideoTrack ref tid track appData =>
    simp only [handle, onCreateRemoteVideoTrack, bind_ok] at h
    obtain ⟨track, -, h⟩ := h
    split_ifs at h
    · cases h
      rfl
    · cases h
      rfl
  | onRemoveRemoteVideoTrack ref tid track =>
    simp only [handle, onRemoveRemoteVideoTrack, bind_ok] at h
    obtain ⟨track, -, h⟩ := h
    split_ifs at h
    · cases h
      rfl
    · cases h
      rfl
  | _ =>
    cases h
    rfl

/-- A receiver of the track. -/
def register (track : Track) (appData : NewConsumerRequest.AppData.Val) (c : RtcClient) :
    RtcClient :=
  { c with videoReceivers := c.videoReceivers.insert track ⟨trackName appData⟩ }

theorem mem_register {track t : Track} {appData : NewConsumerRequest.AppData.Val} :
    t ∈ (c.register track appData).videoReceivers ↔ t = track ∨ t ∈ c.videoReceivers :=
  AList.mem_insert _

/-- The tasks that a new video consumer leaves on the main thread. -/
theorem exec_created (hrole : c.role = 1) {tid : String} {track : Track}
    {appData : NewConsumerRequest.AppData.Val} {ref ref' : ℕ} {muted : Bool}
    (hk : track.kind = .video) :
    exec handle c (ParticipantEvent.created tid track appData ref ++
      ParticipantEvent.stateChanged track.kind muted ref') = .ok (c.register track appData) := by
  have hcreate : c.onCreateRemoteVideoTrack (some track) appData =
      .ok (c.register track appData) := if_pos hrole
  simp only [ParticipantEvent.created, ParticipantEvent.stateChanged, hk, List.cons_append,
    List.nil_append, exec, handle, hcreate]

/-- The tasks that a closed video consumer leaves there: the second one fails. -/
theorem exec_removed {tid : String} {ref ref' : ℕ} {muted : Bool} :
    exec handle c (ParticipantEvent.stateChanged .video muted ref ++
      ParticipantEvent.removed .video tid ref') = .error (.nullPointer .track) := rfl

end RtcClient

namespace ParticipantController

variable {pid : String} {set : Participant → Participant} {notify : ℕ → List ParticipantEvent}
  {pc : ParticipantController}

theorem notified_touch {ref : ℕ} (hpid : pid.isEmpty = false) (h : pc.pointer pid = some ref) :
    (pc.touch pid set notify).notified = pc.notified ++ notify ref := by
  rw [touch_of_pointer hpid h]

end ParticipantController

/-- Everything that the observers of the participants were told. -/
def Media.notified (m : Media) : List ParticipantEvent :=
  m.observer.elim [] ParticipantController.notified

namespace Attended

variable {present : Set String} {m : Media} {pc : ParticipantController}

theorem exists_pointer (h : Attended present m pc) {pid : String} (hp : pid ∈ present) :
    ∃ ref, pc.pointer pid = some ref := by
  rw [← h.participants] at hp
  exact Option.isSome_iff_exists.mp hp.2

theorem notified_eq (h : Attended present m pc) : m.notified = pc.notified := by
  rw [Media.notified, h.observer]
  rfl

/-- The notifications of two handlers that meet one participant. -/
theorem notified_twice (h : Attended present m pc) {pid : String} (hp : pid ∈ present)
    (set set' : Participant → Participant) (notify notify' : ℕ → List ParticipantEvent) :
    ∃ ref, ((pc.touch pid set notify).touch pid set' notify').notified =
      pc.notified ++ (notify ref ++ notify' ref) := by
  obtain ⟨ref, href⟩ := h.exists_pointer hp
  have hempty := h.isEmpty_eq hp
  have href' : (pc.touch pid set notify).pointer pid = some ref := by
    rw [ParticipantController.touch_pointer, href]
  refine ⟨ref, ?_⟩
  rw [ParticipantController.notified_touch hempty href',
    ParticipantController.notified_touch hempty href, List.append_assoc]

theorem notified_accept (h : Attended present m pc) {a : Admission} (ha : a.peerId ∈ present)
    (id : Option (IntN 64)) :
    ∃ ref, (m.accept a id).notified = m.notified ++
      (ParticipantEvent.created a.tid a.track a.appData ref ++
        ParticipantEvent.stateChanged a.track.kind a.producerPaused ref) := by
  have hafter : Attended present (m.accept a id) (afterAccept a m pc) := h.accept ha
  rw [hafter.notified_eq, h.notified_eq]
  exact h.notified_twice ha _ _ _ _

theorem notified_removeConsumer (h : Attended present m pc) {tid : String} {consumer : Consumer}
    (hc : m.controller.consumerOf tid = some consumer) :
    ∃ ref, (m.removeConsumer consumer).notified = m.notified ++
      (ParticipantEvent.stateChanged consumer.track.kind true ref ++
        ParticipantEvent.removed consumer.track.kind consumer.id ref) := by
  have hafter := h.removeConsumer hc
  obtain ⟨-, hid⟩ := h.sound.stored.lookup_consumerOf hc
  have hpeer : m.controller.peerOf consumer.id ∈ present := by
    rw [hid]
    exact h.peers tid consumer hc
  rw [hafter.notified_eq, h.notified_eq]
  exact h.notified_twice hpeer _ _ _ _

end Attended

/-- The media controller and the participants on the mediasoup thread, the client with its queue of
tasks on the main thread, and the track of each consumer that is open by the events. -/
structure Puller where
  media : Media
  client : RtcClient := { role := 1 }
  mainTasks : List ParticipantEvent := []
  opened : String → Option Track := fun _ => none

namespace Puller

inductive Action where
  | media (e : MediaEvent)
  | main

def openedAfter (s : Puller) : MediaEvent → String → Option Track
  | .newConsumer request consumed =>
    if s.media.controller.Consuming then
      match request.admission consumed with
      | some a => Function.update s.opened a.tid (some a.track)
      | none => s.opened
    else s.opened
  | .consumerClosed notification =>
    match notification.data with
    | some data => Function.update s.opened (data.consumerId.getD "") none
    | none => s.opened
  | _ => s.opened

/-- `notifyObservers` posts what it tells to the thread of the observer. -/
def step (s : Puller) : Action → Except Fault Puller
  | .media e => do
    let media ← s.media.step e
    return { s with
      media
      mainTasks := s.mainTasks ++ media.notified.drop s.media.notified.length
      opened := s.openedAfter e }
  | .main =>
    match s.mainTasks with
    | [] => .ok s
    | task :: mainTasks => do
      let client ← s.client.handle task
      return { s with client, mainTasks }

/-- The receivers of the client are those of the open consumers. -/
def Receives (s : Puller) (c : RtcClient) : Prop :=
  ∀ track, track ∈ c.videoReceivers ↔ ∃ tid, s.opened tid = some track

/-- Once the main thread has worked off what is queued, the receivers are those of the open
consumers; none of the tasks fails. -/
def Settles (s : Puller) : Prop :=
  ∃ c, exec RtcClient.handle s.client s.mainTasks = .ok c ∧ s.Receives c

/-- What a run may end with; a fault must not come from a null track. -/
def Good : Except Fault Puller → Prop
  | .ok s => s.Settles
  | .error e => e ≠ .nullPointer .track

/-- The actions of the runs: video consumers of present participants come and go, and the main
thread takes its tasks. -/
def Concerns (present : Set String) : Action → Prop
  | .media (.newConsumer request consumed) =>
    ∀ a, request.admission consumed = some a → a.peerId ∈ present ∧ a.track.kind = .video
  | .media (.consumerClosed _) => True
  | .media _ => False
  | .main => True

/-- No open consumer is closed, and a new one takes the id of an open one only if the old track
stays with a consumer. -/
def Careful (s : Puller) : Action → Prop
  | .media (.newConsumer request consumed) =>
    s.media.controller.Consuming → ∀ a, request.admission consumed = some a →
      ∀ track, s.opened a.tid = some track →
        track = a.track ∨ ∃ tid, tid ≠ a.tid ∧ s.opened tid = some track
  | .media (.consumerClosed notification) =>
    ∀ data, notification.data = some data → s.opened (data.consumerId.getD "") = none
  | _ => True

/-- The invariant: the maps hold the open consumers, which are video consumers, and the queue of
the main thread brings the receivers up to date. -/
structure Inv (present : Set String) (s : Puller) (pc : ParticipantController) : Prop where
  attended : Attended present s.media pc
  puller : s.client.role = 1
  opened : ∀ tid, s.opened tid = (s.media.controller.consumerOf tid).map Consumer.track
  video : ∀ tid track, s.opened tid = some track → track.kind = .video
  settles : s.Settles

variable {present : Set String} {s : Puller} {pc : ParticipantController}

theorem role_eq_of_exec {c c' : RtcClient} {tasks : List ParticipantEvent}
    (h : exec RtcClient.handle c tasks = .ok c') (hrole : c.role = 1) : c'.role = 1 := by
  induction tasks generalizing c with
  | nil =>
    cases h
    exact hrole
  | cons task tasks ih =>
    obtain ⟨c₁, hc₁, hrest⟩ := exec_cons_ok.mp h
    exact ih hrest ((RtcClient.handle_role hc₁).trans hrole)

theorem step_media_ok {e : MediaEvent} {media : Media} {tasks : List ParticipantEvent}
    (h : s.media.step e = .ok media) (hn : media.notified = s.media.notified ++ tasks) :
    s.step (.media e) = .ok { s with
      media
      mainTasks := s.mainTasks ++ tasks
      opened := s.openedAfter e } := by
  simp only [step, h, hn, List.drop_left, bind, Except.bind]
  rfl

/-- An event that leaves the media controller alone. -/
theorem step_media_same {e : MediaEvent} (h : s.media.step e = .ok s.media)
    (ho : s.openedAfter e = s.opened) : s.step (.media e) = .ok s := by
  rw [step_media_ok h (List.append_nil _).symm, List.append_nil, ho]

theorem step_media_error {e : MediaEvent} {f : Fault} (h : s.media.step e = .error f) :
    s.step (.media e) = .error f := by
  rw [step, h]
  rfl

/-- The main thread takes a task; the rest of the queue still settles. -/
theorem step_main (h : s.Inv present pc) : ∃ s', s.step .main = .ok s' ∧ s'.Inv present pc := by
  obtain ⟨c, hc, hreceives⟩ := h.settles
  cases htasks : s.mainTasks with
  | nil =>
    refine ⟨s, ?_, h⟩
    simp only [step, htasks]
  | cons task rest =>
    rw [htasks] at hc
    obtain ⟨c₁, hc₁, hrest⟩ := exec_cons_ok.mp hc
    refine ⟨{ s with client := c₁, mainTasks := rest }, ?_, h.attended,
      (RtcClient.handle_role hc₁).trans h.puller, h.opened, h.video, c, hrest, hreceives⟩
    simp only [step, htasks, hc₁]
    rfl

/-- The puller after a complete request, with the tasks that it posts. -/
def admitted (a : Admission) (id : Option (IntN 64)) (tasks : List ParticipantEvent) (s : Puller) :
    Puller :=
  { s with
    media := s.media.accept a id
    mainTasks := s.mainTasks ++ tasks
    opened := Function.update s.opened a.tid (some a.track) }

theorem opened_admitted {a : Admission} {id : Option (IntN 64)} {tasks : List ParticipantEvent}
    {tid : String} :
    (s.admitted a id tasks).opened tid = if tid = a.tid then some a.track else s.opened tid :=
  Function.update_apply ..

/-- The new track is open, and the old ones are but for that of the same id. -/
theorem exists_opened_admitted {a : Admission} {id : Option (IntN 64)}
    {tasks : List ParticipantEvent} {track : Track} :
    (∃ tid, (s.admitted a id tasks).opened tid = some track) ↔
      track = a.track ∨ ∃ tid, tid ≠ a.tid ∧ s.opened tid = some track := by
  simp only [opened_admitted]
  constructor
  · rintro ⟨tid, ht⟩
    split_ifs at ht with he
    · exact Or.inl (Option.some.inj ht).symm
    · exact Or.inr ⟨tid, he, ht⟩
  · rintro (rfl | ⟨tid, hne, ht⟩)
    · exact ⟨a.tid, if_pos rfl⟩
    · exact ⟨tid, by rw [if_neg hne, ht]⟩

/-- A complete request adds the receiver of its track to those that the queue brings. -/
theorem step_newConsumer (h : s.Inv present pc) {request : SfuRequest NewConsumerRequest.Data}
    {consumed : Option Track} {a : Admission} (hc : s.media.controller.Consuming)
    (ha : request.admission consumed = some a) (hpeer : a.peerId ∈ present)
    (hkind : a.track.kind = .video) :
    ∃ tasks c, s.step (.media (.newConsumer request consumed)) =
        .ok (s.admitted a request.id tasks) ∧
      exec RtcClient.handle s.client (s.mainTasks ++ tasks) = .ok c ∧
      ∀ track, track ∈ c.videoReceivers ↔ track = a.track ∨ ∃ tid, s.opened tid = some track := by
  have hd : a.tid ∉ s.media.controller.dataConsumerMap := by simp [h.attended.noData]
  have hstep : s.media.step (.newConsumer request consumed) = .ok (s.media.accept a request.id) :=
    Media.createNewConsumer_admitted h.attended.sound hc ha hd
  obtain ⟨ref, hn⟩ := h.attended.notified_accept hpeer request.id
  obtain ⟨c, hexec, hreceives⟩ := h.settles
  have hcreated : exec RtcClient.handle c (ParticipantEvent.created a.tid a.track a.appData ref ++
      ParticipantEvent.stateChanged a.track.kind a.producerPaused ref) =
        .ok (c.register a.track a.appData) :=
    RtcClient.exec_created (role_eq_of_exec hexec h.puller) hkind
  refine ⟨_, c.register a.track a.appData, ?_, exec_append_ok.mpr ⟨c, hexec, hcreated⟩, ?_⟩
  · rw [step_media_ok hstep hn]
    simp only [openedAfter, hc, ↓reduceIte, ha]
    rfl
  · intro track
    rw [RtcClient.mem_register, hreceives]

theorem Inv.admitted {a : Admission} {id : Option (IntN 64)} {tasks : List ParticipantEvent}
    {c : RtcClient} (h : s.Inv present pc) (hpeer : a.peerId ∈ present)
    (hkind : a.track.kind = .video)
    (hcare : ∀ track, s.opened a.tid = some track →
      track = a.track ∨ ∃ tid, tid ≠ a.tid ∧ s.opened tid = some track)
    (hexec : exec RtcClient.handle s.client (s.mainTasks ++ tasks) = .ok c)
    (hc : ∀ track, track ∈ c.videoReceivers ↔ track = a.track ∨ ∃ tid, s.opened tid = some track) :
    (s.admitted a id tasks).Inv present (Attended.afterAccept a s.media pc) where
  attended := h.attended.accept hpeer
  puller := h.puller
  opened := by
    intro tid
    have hcontroller : (s.admitted a id tasks).media.controller =
        s.media.controller.store a.consumer a.peerId := rfl
    rw [hcontroller, MediaController.consumerOf_store, opened_admitted, h.opened]
    show _ = Option.map _ (if tid = a.tid then _ else _)
    split_ifs
    · rfl
    · rfl
  video := by
    intro tid track ht
    rw [opened_admitted] at ht
    split_ifs at ht
    · rw [← Option.some.inj ht]
      exact hkind
    · exact h.video tid track ht
  settles := by
    refine ⟨c, hexec, fun track => ?_⟩
    rw [hc, exists_opened_admitted]
    constructor
    · rintro (rfl | ⟨tid, ht⟩)
      · exact Or.inl rfl
      · by_cases he : tid = a.tid
        · exact hcare track (he ▸ ht)
        · exact Or.inr ⟨tid, he, ht⟩
    · rintro (rfl | ⟨tid, -, ht⟩)
      · exact Or.inl rfl
      · exact Or.inr ⟨tid, ht⟩

/-- A notification about a consumer that is not open changes nothing. -/
theorem step_consumerClosed_none (h : s.Inv present pc)
    {notification : Notification ConsumerNotification.Data} {data : ConsumerNotification.Data}
    (hdata : notification.data = some data) (ho : s.opened (data.consumerId.getD "") = none) :
    s.step (.media (.consumerClosed notification)) = .ok s := by
  have hnone : s.media.controller.consumerOf (data.consumerId.getD "") = none := by
    rw [h.opened, Option.map_eq_none_iff] at ho
    exact ho
  refine step_media_same ?_ ?_
  · have hstep := Media.onConsumerClosed_eq h.attended.sound.stored hdata
    rw [hnone] at hstep
    exact hstep
  · simp only [openedAfter, hdata]
    rw [← ho, Function.update_eq_self]

/-- The task that announces a closed consumer to the client fails. -/
theorem step_consumerClosed_some (h : s.Inv present pc)
    {notification : Notification ConsumerNotification.Data} {data : ConsumerNotification.Data}
    (hdata : notification.data = some data) {track : Track}
    (ho : s.opened (data.consumerId.getD "") = some track) :
    ∃ s', s.step (.media (.consumerClosed notification)) = .ok s' ∧
      exec RtcClient.handle s'.client s'.mainTasks = .error (.nullPointer .track) := by
  have hkind := h.video _ track ho
  rw [h.opened, Option.map_eq_some_iff] at ho
  obtain ⟨consumer, hc, rfl⟩ := ho
  have hstep : s.media.step (.consumerClosed notification) =
      .ok (s.media.removeConsumer consumer) := by
    have heq := Media.onConsumerClosed_eq h.attended.sound.stored hdata
    rw [hc] at heq
    exact heq
  obtain ⟨ref, hn⟩ := h.attended.notified_removeConsumer hc
  rw [hkind] at hn
  obtain ⟨c, hexec, -⟩ := h.settles
  refine ⟨_, step_media_ok hstep hn, ?_⟩
  exact exec_append_error hexec RtcClient.exec_removed

/-- A step under the guard completes within the invariant, or a fault cuts it short that is no
null track. -/
theorem step_keeps {a : Action} (h : s.Inv present pc) (hconcerns : Concerns present a)
    (hcare : s.Careful a) :
    (∃ s', s.step a = .ok s' ∧ ∃ pc', s'.Inv present pc') ∨
      ∃ f, s.step a = .error f ∧ Good (.error f) := by
  cases a with
  | main =>
    obtain ⟨s', hs', hinv⟩ := step_main h
    exact Or.inl ⟨s', hs', pc, hinv⟩
  | media e =>
    cases e with
    | newConsumer request consumed =>
      by_cases hc : s.media.controller.Consuming
      · cases ha : request.admission consumed with
        | none =>
          obtain ⟨f, hf, hnull⟩ := Media.createNewConsumer_incomplete hc ha
          refine Or.inr ⟨f, step_media_error hf, ?_⟩
          rintro rfl
          exact hnull trivial
        | some a =>
          obtain ⟨hpeer, hkind⟩ := hconcerns a ha
          obtain ⟨tasks, c, hstep, hexec, hreceives⟩ := step_newConsumer h hc ha hpeer hkind
          exact Or.inl ⟨_, hstep, _, h.admitted hpeer hkind (hcare hc a ha) hexec hreceives⟩
      · have hstep : s.media.step (.newConsumer request consumed) = .ok s.media :=
          Media.createNewConsumer_refused hc
        exact Or.inl ⟨s, step_media_same hstep (by simp only [openedAfter, hc, ↓reduceIte]), pc, h⟩
    | consumerClosed notification =>
      cases hdata : notification.data with
      | none =>
        have hrun := Media.onConsumerClosed_without_data h.attended.sound.stored hdata
        rcases hrun with ⟨-, hok⟩ | herr
        · exact Or.inl ⟨s, step_media_same hok (by simp only [openedAfter, hdata]), pc, h⟩
        · exact Or.inr ⟨_, step_media_error herr, fun he => by cases he⟩
      | some data => exact Or.inl ⟨s, step_consumerClosed_none h hdata (hcare data hdata), pc, h⟩
    | _ => exact hconcerns.elim

/-- Outside the guard the client keeps the receiver of a track that is gone, or will follow a null
pointer. -/
theorem step_breaks {a : Action} (h : s.Inv present pc) (hconcerns : Concerns present a)
    (hcare : ¬ s.Careful a) : ¬ Good (s.step a) := by
  cases a with
  | main => exact absurd trivial hcare
  | media e =>
    cases e with
    | newConsumer request consumed =>
      simp only [Careful, not_forall, not_or] at hcare
      obtain ⟨hc, a, ha, track, ho, hne, hgone⟩ := hcare
      obtain ⟨hpeer, hkind⟩ := hconcerns a ha
      obtain ⟨tasks, c, hstep, hexec, hreceives⟩ := step_newConsumer h hc ha hpeer hkind
      rw [hstep]
      rintro ⟨c', hc', hmatch⟩
      have hexec' : exec RtcClient.handle s.client (s.mainTasks ++ tasks) = .ok c' := hc'
      rw [hexec, Except.ok.injEq] at hexec'
      subst hexec'
      have hopen := (hmatch track).mp ((hreceives track).mpr (Or.inr ⟨a.tid, ho⟩))
      rcases exists_opened_admitted.mp hopen with heq | hother
      · exact hne heq
      · exact hgone hother
    | consumerClosed notification =>
      simp only [Careful, not_forall] at hcare
      obtain ⟨data, hdata, ho⟩ := hcare
      obtain ⟨track, ho⟩ := Option.ne_none_iff_exists'.mp ho
      obtain ⟨s', hs', hfails⟩ := step_consumerClosed_some h hdata ho
      rw [hs']
      rintro ⟨c, hc, -⟩
      rw [hfails] at hc
      cases hc
    | _ => exact hconcerns.elim

theorem inv_of_fresh {m : Media} (hm : Ledger.Fresh m) (hobserver : m.observer = some pc)
    (hlinked : pc.Linked) : Inv pc.present { media := m } pc where
  attended := .of_fresh hm hobserver hlinked
  puller := rfl
  opened := by
    intro tid
    simp [hm.consumerOf]
  video := by
    intro tid track ht
    cases ht
  settles := ⟨_, rfl, fun track => by simp⟩

/-- All through a run of video consumers that come and go, the queue of the main thread brings the
receivers of a puller to the tracks of the open consumers, and no null track is followed: exactly
when the run closes no open consumer and no new consumer takes the track of an open one away. -/
theorem receivers_match_iff_careful (m : Media) (pc : ParticipantController)
    (hm : Ledger.Fresh m) (hobserver : m.observer = some pc) (hlinked : pc.Linked)
    (run : List Action) (hrun : ∀ a ∈ run, Concerns pc.present a) :
    (∀ pre, pre <+: run → Good (exec step { media := m } pre)) ↔
      Guarded step Careful { media := m } run := by
  refine forall_prefix_good_iff_guarded (I := fun s => ∃ pc', Inv pc.present s pc')
    (A := Concerns pc.present) ?_ ?_ ?_ hrun ⟨pc, inv_of_fresh hm hobserver hlinked⟩
  · rintro s ⟨pc', hs⟩
    exact hs.settles
  · rintro s a ⟨pc', hs⟩ ha hc
    exact step_keeps hs ha hc
  · rintro s a ⟨pc', hs⟩ ha hc
    exact step_breaks hs ha hc

/-- Bob opens a video consumer, and the main thread takes its two tasks. -/
def openRun : List Action := [.media (Ledger.newVideo "c1" "bob"), .main, .main]

theorem openRun_receives :
    Stage.bobPresent.Linked ∧
      ∀ pre, pre <+: openRun → Good (exec step { media := Stage.attendedMedia } pre) :=
  ⟨Stage.bobPresent_untracked.linked,
    (receivers_match_iff_careful Stage.attendedMedia Stage.bobPresent ⟨rfl, rfl, rfl, rfl⟩ rfl
      Stage.bobPresent_untracked.linked openRun (by
        simp only [openRun, List.forall_mem_cons]
        refine ⟨?_, trivial, trivial, by simp⟩
        rintro a ⟨⟩
        exact ⟨Stage.bob_present, rfl⟩)).mpr
      ⟨by simp [Careful, Ledger.newVideo], fun _ _ =>
        ⟨trivial, fun _ _ => ⟨trivial, fun _ _ => trivial⟩⟩⟩⟩

/-- The consumer that is closed leaves its receiver behind, and the announcement of its end follows
a null track. -/
theorem closed_consumer_follows_null_track :
    (∃ s, exec step { media := Stage.attendedMedia }
        (openRun ++ [.media (.consumerClosed ⟨some ⟨some "c1"⟩⟩), .main]) = .ok s ∧
      s.opened "c1" = none ∧ (⟨0, .video⟩ : Track) ∈ s.client.videoReceivers) ∧
    exec step { media := Stage.attendedMedia }
      (openRun ++ [.media (.consumerClosed ⟨some ⟨some "c1"⟩⟩), .main, .main]) =
        .error (.nullPointer .track) :=
  ⟨⟨_, rfl, rfl, by decide⟩, rfl⟩

end Puller
end MediasoupSdk
