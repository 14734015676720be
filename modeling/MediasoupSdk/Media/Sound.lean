import MediasoupSdk.Media.Controller

/-! Controllers whose maps agree, and what the operations then do to them and to the
participants. -/
namespace MediasoupSdk
open Foundation Signaling

namespace ParticipantController

variable {pid other : String} {set : Participant → Participant}
  {notify : ℕ → List ParticipantEvent} {pc : ParticipantController}

/-- `updateParticipant` with a setter that is at hand. -/
def touch (pid : String) (set : Participant → Participant) (notify : ℕ → List ParticipantEvent)
    (pc : ParticipantController) : ParticipantController :=
  if pid.isEmpty then pc
  else
    match pc.participantMap.subscript none pid with
    | (none, participantMap) => { pc with participantMap }
    | (some ref, participantMap) =>
      { objects := pc.objects.modify ref set
        participantMap
        notified := pc.notified ++ notify ref }

theorem updateParticipant_ok (pid : String) (set : Participant → Participant)
    (notify : ℕ → List ParticipantEvent) (pc : ParticipantController) :
    pc.updateParticipant pid (.ok set) notify = .ok (pc.touch pid set notify) := by
  unfold updateParticipant touch
  split_ifs
  · rfl
  · rcases pc.participantMap.subscript none pid with ⟨ref, participantMap⟩
    cases ref with
    | none => rfl
    | some ref => rfl

/-- The number of the object that the entry of `pid` points to. -/
def pointer (pid : String) (pc : ParticipantController) : Option ℕ :=
  (pc.participantMap.lookup pid).join

/-- The participant that `getParticipant(pid)` returns. -/
def getParticipant (pid : String) (pc : ParticipantController) : Option Participant :=
  (pc.pointer pid).bind (pc.objects[·]?)

/-- The pointers lead to objects, and those of different peers to different ones. -/
structure Linked (pc : ParticipantController) : Prop where
  object : ∀ pid ref, pc.pointer pid = some ref → ref < pc.objects.length
  distinct : ∀ pid pid' ref, pc.pointer pid = some ref → pc.pointer pid' = some ref → pid = pid'

/-- `operator[]` adds null entries only. -/
@[simp] theorem touch_pointer : (pc.touch pid set notify).pointer other = pc.pointer other := by
  unfold touch pointer
  split_ifs
  · rfl
  · cases hl : pc.participantMap.lookup pid with
    | some p =>
      rw [HashMap.subscript_of_lookup hl]
      cases p with
      | none => rfl
      | some ref => rfl
    | none =>
      rw [HashMap.subscript_of_absent hl]
      show (AList.lookup other (pc.participantMap.insert pid none)).join = _
      rw [HashMap.lookup_insert_eq_ite]
      split_ifs with he
      · rw [he, hl]
        rfl
      · rfl

theorem touch_of_pointer {ref : ℕ} (hpid : pid.isEmpty = false) (h : pc.pointer pid = some ref) :
    pc.touch pid set notify =
      { pc with objects := pc.objects.modify ref set, notified := pc.notified ++ notify ref } := by
  have hl : pc.participantMap.lookup pid = some (some ref) := by
    simpa [pointer, Option.join_eq_some_iff] using h
  unfold touch
  rw [HashMap.subscript_of_lookup hl]
  simp [hpid]

@[simp] theorem touch_length :
    (pc.touch pid set notify).objects.length = pc.objects.length := by
  unfold touch
  split_ifs
  · rfl
  · split
    · rfl
    · simp

theorem Linked.touch (h : pc.Linked) : (pc.touch pid set notify).Linked := by
  constructor
  · intro pid' ref hp
    rw [touch_length]
    exact h.object pid' ref (by simpa using hp)
  · intro pid₁ pid₂ ref h₁ h₂
    exact h.distinct pid₁ pid₂ ref (by simpa using h₁) (by simpa using h₂)

theorem touch_getParticipant_self {p : Participant} (hpid : pid.isEmpty = false)
    (hp : pc.getParticipant pid = some p) :
    (pc.touch pid set notify).getParticipant pid = some (set p) := by
  obtain ⟨ref, href, hobj⟩ := Option.bind_eq_some_iff.mp hp
  rw [touch_of_pointer hpid href]
  show (pc.pointer pid).bind ((pc.objects.modify ref set)[·]?) = _
  rw [href, Option.bind_some, List.getElem?_modify_eq, hobj]
  rfl

/-- The other participants keep what they have. -/
theorem touch_getParticipant_ne (h : pc.Linked) (hne : other ≠ pid) :
    (pc.touch pid set notify).getParticipant other = pc.getParticipant other := by
  unfold getParticipant
  rw [touch_pointer]
  cases ho : pc.pointer other with
  | none => rfl
  | some ref' =>
    rw [Option.bind_some, Option.bind_some]
    unfold touch
    split_ifs with hpid
    · rfl
    · cases hl : pc.participantMap.lookup pid with
      | none => rw [HashMap.subscript_of_absent hl]
      | some p =>
        rw [HashMap.subscript_of_lookup hl]
        cases p with
        | none => rfl
        | some ref =>
          have hp : pc.pointer pid = some ref := by rw [pointer, hl]; rfl
          have href : ref ≠ ref' := by
            rintro rfl
            exact hne (h.distinct other pid ref ho hp)
          exact List.getElem?_modify_ne set _ href

end ParticipantController

/-- A loop whose rounds all complete, on the part `i` of its state that they change. -/
theorem foldlM_eq_foldl {α β γ ε : Type} {g : γ → α → Except ε γ} {i : β → γ} {f : β → α → β}
    {l : List α} (h : ∀ e ∈ l, ∀ b, g (i b) e = .ok (i (f b e))) (b : β) :
    l.foldlM g (i b) = .ok (i (l.foldl f b)) := by
  induction l generalizing b with
  | nil => rfl
  | cons e l ih =>
    rw [List.foldlM_cons, List.foldl_cons, h e List.mem_cons_self]
    exact ih (fun e he => h e (List.mem_cons_of_mem _ he)) _

namespace MediaController

variable {mc : MediaController} {pid tid : String}

/-- The map of peers knows exactly the consumers and the data consumers; no stored pointer is
null, and a consumer is stored under its own id. -/
structure Sound (mc : MediaController) : Prop where
  consumer : ∀ tid pointer, mc.consumerMap.lookup tid = some pointer →
    ∃ consumer, pointer = some consumer ∧ consumer.id = tid
  dataConsumer : ∀ tid pointer, mc.dataConsumerMap.lookup tid = some pointer →
    ∃ dataConsumer, pointer = some dataConsumer ∧ dataConsumer.id = tid
  peers : ∀ tid, tid ∈ mc.consumerIdToPeerId ↔ tid ∈ mc.consumerMap ∨ tid ∈ mc.dataConsumerMap
  disjoint : ∀ tid, tid ∈ mc.consumerMap → tid ∉ mc.dataConsumerMap

/-- What holds of the consumer maps in every state: no consumer is null or under another's id,
and each has a peer. -/
structure Stored (mc : MediaController) : Prop where
  pointer : ∀ tid p, mc.consumerMap.lookup tid = some p → ∃ consumer, p = some consumer ∧
    consumer.id = tid
  peer : ∀ tid, tid ∈ mc.consumerMap → tid ∈ mc.consumerIdToPeerId

theorem Sound.stored (h : mc.Sound) : mc.Stored :=
  ⟨h.consumer, fun tid ht => (h.peers tid).mpr (Or.inl ht)⟩

/-- The consumer with the given id. -/
def consumerOf (tid : String) (mc : MediaController) : Option Consumer :=
  (mc.consumerMap.lookup tid).join

/-- The peer of a consumer. -/
def peerOf (tid : String) (mc : MediaController) : String :=
  (mc.consumerIdToPeerId.lookup tid).getD ""

theorem Stored.pointers (h : mc.Stored) : ∀ e ∈ mc.consumerMap.entries, e.2.isSome := by
  intro e he
  obtain ⟨consumer, hc, -⟩ := h.pointer e.1 e.2 (AList.mem_lookup_iff.mpr he)
  rw [hc]
  rfl

/-- What `getRemoteAudioTracks` collects. -/
def remoteAudioTracks (mc : MediaController) : Tracks :=
  mc.consumerMap.collect fun _ pointer => pointer.bind fun consumer =>
    if consumer.track.kind = .audio then some consumer.track else none

/-- What `getRemoteVideoTracks` collects. -/
def remoteVideoTracks (pid : String) (mc : MediaController) : Tracks :=
  mc.consumerMap.collect fun tid pointer => pointer.bind fun consumer =>
    if consumer.track.kind = .video ∧ mc.peerOf tid = pid then some consumer.track else none

theorem getRemoteAudioTracks_eq (h : mc.Stored) (pid : String) :
    mc.getRemoteAudioTracks pid = .ok mc.remoteAudioTracks := by
  refine foldlM_eq_foldl (i := fun tracks => tracks) (fun e he tracks => ?_) ∅
  obtain ⟨consumer, hc⟩ := Option.isSome_iff_exists.mp (h.pointers e he)
  simp only [hc, deref_some, bind, Except.bind, Option.bind_some]
  split_ifs
  · rfl
  · rfl

theorem Stored.subscript_peer (h : mc.Stored) (ht : tid ∈ mc.consumerMap) :
    HashMap.subscript "" mc.consumerIdToPeerId tid = (mc.peerOf tid, mc.consumerIdToPeerId) := by
  have hmem := h.peer tid ht
  obtain ⟨peer, hl⟩ := Option.isSome_iff_exists.mp (AList.lookup_isSome.mpr hmem)
  rw [HashMap.subscript_of_lookup hl, peerOf, hl]
  rfl

/-- The peers are all known, so that `operator[]` adds none. -/
theorem getRemoteVideoTracks_eq (h : mc.Stored) (pid : String) :
    mc.getRemoteVideoTracks pid = .ok (mc.remoteVideoTracks pid, mc) := by
  unfold getRemoteVideoTracks
  rw [foldlM_eq_foldl (i := fun tracks => (tracks, mc.consumerIdToPeerId))
    (f := fun out e => (e.2.bind fun consumer =>
      if consumer.track.kind = .video ∧ mc.peerOf e.1 = pid then some consumer.track
      else none).elim out (out.insert e.1 ·))]
  · rfl
  intro e he tracks
  obtain ⟨consumer, hc⟩ := Option.isSome_iff_exists.mp (h.pointers e he)
  have hmem : e.1 ∈ mc.consumerMap :=
    AList.lookup_isSome.mp (by rw [AList.mem_lookup_iff.mpr he]; rfl)
  simp only [h.subscript_peer hmem, hc, deref_some, bind, Except.bind, Option.bind_some]
  split_ifs
  · rfl
  · rfl

/-- What a participant gets when a track of the given kind comes or goes. -/
def refresh (kind : MediaKind) (pid : String) (mc : MediaController) : Participant → Participant :=
  match kind with
  | .audio => Participant.setAudioTracks mc.remoteAudioTracks
  | .video => Participant.setVideoTracks (mc.remoteVideoTracks pid)

end MediaController

def Participant.setMuted (kind : MediaKind) (muted : Bool) : Participant → Participant :=
  match kind with
  | .audio => Participant.setAudioMuted muted
  | .video => Participant.setVideoMuted muted

namespace ParticipantEvent

/-- What the observers of the participants are told when a consumer is paused or resumed. -/
def stateChanged (kind : MediaKind) (muted : Bool) (ref : ℕ) : List ParticipantEvent :=
  match kind with
  | .audio => [.onRemoteAudioStateChanged ref muted]
  | .video => [.onRemoteVideoStateChanged ref muted]

def created (tid : String) (track : Track) (appData : NewConsumerRequest.AppData.Val) (ref : ℕ) :
    List ParticipantEvent :=
  match track.kind with
  | .audio => []
  | .video => [.onCreateRemoteVideoTrack ref tid (some track) appData]

def removed (kind : MediaKind) (tid : String) (ref : ℕ) : List ParticipantEvent :=
  match kind with
  | .audio => []
  | .video => [.onRemoveRemoteVideoTrack ref tid none]

end ParticipantEvent

namespace Media

variable {m : Media} {pid tid : String} {kind : MediaKind} {muted : Bool} {track : Track}
  {appData : NewConsumerRequest.AppData.Val}

/-- The participant controller updates one participant. -/
def tell (pid : String) (set : Participant → Participant) (notify : ℕ → List ParticipantEvent)
    (m : Media) : Media :=
  { m with observer := m.observer.map (·.touch pid set notify) }

@[simp] theorem tell_controller {set : Participant → Participant}
    {notify : ℕ → List ParticipantEvent} : (m.tell pid set notify).controller = m.controller := rfl

theorem notify_eq {set : Participant → Participant} {events : ℕ → List ParticipantEvent}
    {handler : ParticipantController → Except Fault ParticipantController}
    (h : handler = ParticipantController.updateParticipant pid (.ok set) events) :
    m.notify handler = .ok (m.tell pid set events) := by
  subst h
  unfold notify tell
  cases hm : m.observer with
  | none =>
    cases m
    simp_all
  | some pc =>
    simp only [ParticipantController.updateParticipant_ok]
    rfl

theorem notifyState_eq :
    m.notifyState kind pid muted =
      .ok (m.tell pid (Participant.setMuted kind muted)
        (ParticipantEvent.stateChanged kind muted)) := by
  cases kind with
  | audio => exact notify_eq rfl
  | video => exact notify_eq rfl

/-- The handlers for tracks store what the controller collects; a sound one keeps its maps. -/
theorem notifyVideoTrack_eq (h : m.controller.Stored) {events : ℕ → List ParticipantEvent}
    {handler : Except Fault Tracks → ParticipantController → Except Fault ParticipantController}
    (hh : ∀ tracks, handler tracks = ParticipantController.updateParticipant pid
      (tracks.map Participant.setVideoTracks) events) :
    m.notifyVideoTrack handler pid =
      .ok (m.tell pid (m.controller.refresh .video pid) events) := by
  have htracks := m.controller.getRemoteVideoTracks_eq h pid
  unfold notifyVideoTrack tell
  cases hm : m.observer with
  | none =>
    cases m
    simp_all
  | some pc =>
    simp only [hh, htracks, Except.map, ParticipantController.updateParticipant_ok, bind,
      Except.bind]
    split_ifs
    · rfl
    · rfl

theorem notifyCreate_eq (h : m.controller.Stored) :
    m.notifyCreate pid tid track appData =
      .ok (m.tell pid (m.controller.refresh track.kind pid)
        (ParticipantEvent.created tid track appData)) := by
  unfold notifyCreate
  cases hk : track.kind with
  | audio =>
    have he : ParticipantEvent.created tid track appData = fun _ => [] := by
      funext ref
      rw [ParticipantEvent.created, hk]
    rw [he]
    refine notify_eq ?_
    rw [MediaController.getRemoteAudioTracks_eq h]
    rfl
  | video =>
    have he : ParticipantEvent.created tid track appData =
        fun ref => [.onCreateRemoteVideoTrack ref tid (some track) appData] := by
      funext ref
      rw [ParticipantEvent.created, hk]
    rw [he]
    exact notifyVideoTrack_eq h fun _ => rfl

theorem notifyRemove_eq (h : m.controller.Stored) :
    m.notifyRemove kind pid tid =
      .ok (m.tell pid (m.controller.refresh kind pid) (ParticipantEvent.removed kind tid)) := by
  cases kind with
  | audio =>
    refine notify_eq ?_
    rw [MediaController.getRemoteAudioTracks_eq h]
    rfl
  | video => exact notifyVideoTrack_eq h fun _ => rfl

end Media

namespace MediaController

variable {mc : MediaController}

def store (consumer : Consumer) (peerId : String) (mc : MediaController) : MediaController :=
  { mc with
    consumerMap := mc.consumerMap.insert consumer.id (some consumer)
    consumerIdToPeerId := mc.consumerIdToPeerId.insert consumer.id peerId }

def storeData (dataConsumer : DataConsumer) (peerId : String) (mc : MediaController) :
    MediaController :=
  { mc with
    dataConsumerMap := mc.dataConsumerMap.insert dataConsumer.id (some dataConsumer)
    consumerIdToPeerId := mc.consumerIdToPeerId.insert dataConsumer.id peerId }

theorem Sound.store {consumer : Consumer} (h : mc.Sound) (hd : consumer.id ∉ mc.dataConsumerMap)
    (peerId : String) : (mc.store consumer peerId).Sound := by
  constructor
  · intro tid pointer hl
    simp only [MediaController.store, HashMap.lookup_insert_eq_ite] at hl
    split_ifs at hl with he
    · cases hl
      exact ⟨consumer, rfl, he.symm⟩
    · exact h.consumer tid pointer hl
  · exact h.dataConsumer
  · intro tid
    simp only [MediaController.store, AList.mem_insert, h.peers, or_assoc]
  · intro tid hmem
    rcases AList.mem_insert _ |>.mp hmem with rfl | hmem
    · exact hd
    · exact h.disjoint tid hmem

theorem Sound.storeData {dataConsumer : DataConsumer} (h : mc.Sound)
    (hc : dataConsumer.id ∉ mc.consumerMap) (peerId : String) :
    (mc.storeData dataConsumer peerId).Sound := by
  constructor
  · exact h.consumer
  · intro tid pointer hl
    simp only [MediaController.storeData, HashMap.lookup_insert_eq_ite] at hl
    split_ifs at hl with he
    · cases hl
      exact ⟨dataConsumer, rfl, he.symm⟩
    · exact h.dataConsumer tid pointer hl
  · intro tid
    simp only [MediaController.storeData, AList.mem_insert, h.peers]
    tauto
  · intro tid hmem hdata
    rcases AList.mem_insert _ |>.mp hdata with rfl | hdata
    · exact hc hmem
    · exact h.disjoint tid hmem hdata

/-- The options and the transport let a new consumer through. -/
def Consuming (mc : MediaController) : Prop :=
  mc.options.consume.getD false = true ∧ mc.recvTransport.isSome

def ConsumingData (mc : MediaController) : Prop :=
  mc.Consuming ∧ mc.options.datachannel.getD false = true

instance : Decidable mc.Consuming := inferInstanceAs (Decidable (_ ∧ _))

instance : Decidable mc.ConsumingData := inferInstanceAs (Decidable (_ ∧ _))

end MediaController

/-- What a complete `newConsumer` request asks for. -/
structure Admission where
  tid : String
  producerId : String
  peerId : String
  producerPaused : Bool
  track : Track
  appData : NewConsumerRequest.AppData.Val

def Admission.consumer (a : Admission) : Consumer :=
  { id := a.tid, producerId := a.producerId, track := a.track }

/-- The members that `createNewConsumer` reads, all there, and the track that the media library
returned. -/
def Signaling.SfuRequest.admission (request : SfuRequest NewConsumerRequest.Data)
    (consumed : Option Track) : Option Admission := do
  let data ← request.data
  let _ ← data.rtpParameters
  let appData ← data.appData
  let tid ← data.id
  let producerId ← data.producerId
  let _ ← data.kind
  let track ← consumed
  let producerPaused ← data.producerPaused
  let peerId ← data.peerId
  return { tid, producerId, peerId, producerPaused, track, appData }

/-- The members that a complete request has. -/
theorem Signaling.SfuRequest.admission_cases {request : SfuRequest NewConsumerRequest.Data}
    {consumed : Option Track} {a : Admission} (ha : request.admission consumed = some a) :
    ∃ data rtp kind, request.data = some data ∧ data.rtpParameters = some rtp ∧
      data.appData = some a.appData ∧ data.id = some a.tid ∧
      data.producerId = some a.producerId ∧ data.kind = some kind ∧ consumed = some a.track ∧
      data.producerPaused = some a.producerPaused ∧ data.peerId = some a.peerId := by
  simp only [admission, bind, Option.bind_eq_some_iff, pure, Option.some.injEq] at ha
  obtain ⟨data, hdata, rtp, hrtp, appData, happ, tid, htid, producerId, hpid, kind, hkind, track,
    htrack, paused, hpaused, peerId, hpeer, rfl⟩ := ha
  exact ⟨data, rtp, kind, hdata, hrtp, happ, htid, hpid, hkind, htrack, hpaused, hpeer⟩

namespace Media

variable {m : Media} {request : SfuRequest NewConsumerRequest.Data} {consumed : Option Track}

/-- The effect of a complete request. -/
def accept (a : Admission) (id : Option (IntN 64)) (m : Media) : Media :=
  let m := { m with controller := m.controller.store a.consumer a.peerId }
  let m := m.tell a.peerId (m.controller.refresh a.track.kind a.peerId)
    (ParticipantEvent.created a.tid a.track a.appData)
  let m := m.tell a.peerId (Participant.setMuted a.track.kind a.producerPaused)
    (ParticipantEvent.stateChanged a.track.kind a.producerPaused)
  (m.push (.answer id)).push (.request (.setConsumerPreferredLayers a.tid 1 1))

theorem createNewConsumer_refused (h : ¬ m.controller.Consuming) :
    m.createNewConsumer request consumed = .ok m := by
  unfold createNewConsumer
  split_ifs with hconsume hrecv
  · rfl
  · rfl
  · have hrecv' : m.controller.recvTransport.isSome :=
      Option.isSome_iff_ne_none.mpr (by simpa using hrecv)
    exact absurd ⟨by simpa using hconsume, hrecv'⟩ h

/-- Past the first two checks the request decides what happens. -/
theorem createNewConsumer_admitted (hs : m.controller.Sound) (h : m.controller.Consuming)
    {a : Admission} (ha : request.admission consumed = some a)
    (hd : a.tid ∉ m.controller.dataConsumerMap) :
    m.createNewConsumer request consumed = .ok (m.accept a request.id) := by
  obtain ⟨hconsume, hrecv⟩ := h
  have hrecv' := Option.isNone_eq_false_iff.mpr hrecv
  obtain ⟨data, rtp, kind, hdata, hrtp, happ, htid, hpid, hkind, htrack, hpaused, hpeer⟩ :=
    SfuRequest.admission_cases ha
  unfold createNewConsumer
  simp only [hconsume, hrecv', hdata, hrtp, happ, htid, hpid, hkind, htrack, hpaused, hpeer,
    Option.getD_some, engaged_some, mayThrow_some, Bool.not_true, Bool.false_eq_true, ↓reduceIte,
    bind, Except.bind]
  have hstore : (m.controller.store a.consumer a.peerId).Sound := hs.store hd a.peerId
  rw [notifyCreate_eq (by exact hstore.stored)]
  simp only [notifyState_eq]
  rfl

/-- A request that lacks something ends with an exception or a disengaged optional. -/
theorem createNewConsumer_incomplete (h : m.controller.Consuming)
    (ha : request.admission consumed = none) :
    ∃ e, m.createNewConsumer request consumed = .error e ∧ ¬ e.IsNull := by
  obtain ⟨hconsume, hrecv⟩ := h
  have hrecv' := Option.isNone_eq_false_iff.mpr hrecv
  unfold createNewConsumer
  simp only [hconsume, hrecv', Bool.not_true, Bool.false_eq_true, ↓reduceIte]
  apply engaged_bind_fails id
  intro data hdata
  apply engaged_bind_fails id
  intro rtp hrtp
  apply engaged_bind_fails id
  intro appData happ
  apply engaged_bind_fails id
  intro tid htid
  apply engaged_bind_fails id
  intro producerId hpid
  apply engaged_bind_fails id
  intro kind hkind
  apply mayThrow_bind_fails id
  intro track htrack
  apply engaged_bind_fails id
  intro paused hpaused
  apply engaged_bind_fails id
  intro peerId hpeer
  simp [SfuRequest.admission, hdata, hrtp, happ, htid, hpid, hkind, htrack, hpaused, hpeer] at ha

end Media

/-- What a complete `newDataConsumer` request asks for. -/
structure DataAdmission where
  tid : String
  dataProducerId : String
  peerId : String

def DataAdmission.dataConsumer (a : DataAdmission) : DataConsumer :=
  { id := a.tid, dataProducerId := a.dataProducerId }

def Signaling.SfuRequest.dataAdmission (request : SfuRequest NewDataConsumerRequest.Data)
    (consumed : Option Unit) : Option DataAdmission := do
  let data ← request.data
  let _ ← data.appData
  let tid ← data.id
  let dataProducerId ← data.dataProducerId
  let sctpStreamParameters ← data.sctpStreamParameters
  let _ ← sctpStreamParameters.1
  let _ ← data.label
  let _ ← data.protocol
  let _ ← consumed
  return { tid, dataProducerId, peerId := data.peerId.getD "" }

theorem Signaling.SfuRequest.dataAdmission_cases {request : SfuRequest NewDataConsumerRequest.Data}
    {consumed : Option Unit} {a : DataAdmission} (ha : request.dataAdmission consumed = some a) :
    ∃ data appData sctp stream label protocol, request.data = some data ∧
      data.appData = some appData ∧ data.id = some a.tid ∧
      data.dataProducerId = some a.dataProducerId ∧ data.sctpStreamParameters = some sctp ∧
      sctp.1 = some stream ∧ data.label = some label ∧ data.protocol = some protocol ∧
      consumed = some () ∧ a.peerId = data.peerId.getD "" := by
  simp only [dataAdmission, bind, Option.bind_eq_some_iff, pure, Option.some.injEq] at ha
  obtain ⟨data, hdata, appData, happ, tid, htid, producerId, hpid, sctp, hsctp, stream, hstream,
    label, hlabel, protocol, hprotocol, u, hu, rfl⟩ := ha
  exact ⟨data, appData, sctp, stream, label, protocol, hdata, happ, htid, hpid, hsctp, hstream,
    hlabel, hprotocol, hu, rfl⟩

namespace Media

variable {m : Media}

section DataConsumers

variable {request : SfuRequest NewDataConsumerRequest.Data} {consumed : Option Unit}

def acceptData (a : DataAdmission) (id : Option (IntN 64)) (m : Media) : Media :=
  Media.push (.answer id) { m with controller := m.controller.storeData a.dataConsumer a.peerId }

theorem createNewDataConsumer_refused (h : ¬ m.controller.ConsumingData) :
    m.createNewDataConsumer request consumed = .ok m := by
  unfold createNewDataConsumer
  split_ifs with hconsume hdata hrecv
  · rfl
  · rfl
  · rfl
  · have hrecv' : m.controller.recvTransport.isSome :=
      Option.isSome_iff_ne_none.mpr (by simpa using hrecv)
    exact absurd ⟨⟨by simpa using hconsume, hrecv'⟩, by simpa using hdata⟩ h

theorem createNewDataConsumer_admitted (h : m.controller.ConsumingData) {a : DataAdmission}
    (ha : request.dataAdmission consumed = some a) :
    m.createNewDataConsumer request consumed = .ok (m.acceptData a request.id) := by
  obtain ⟨⟨hconsume, hrecv⟩, hchannel⟩ := h
  have hrecv' := Option.isNone_eq_false_iff.mpr hrecv
  obtain ⟨data, appData, sctp, stream, label, protocol, hdata, happ, htid, hpid, hsctp, hstream,
    hlabel, hprotocol, hu, hpeer⟩ := SfuRequest.dataAdmission_cases ha
  unfold createNewDataConsumer
  simp only [hconsume, hchannel, hrecv', hdata, happ, htid, hpid, hsctp, hstream, hlabel,
    hprotocol, hu, ← hpeer, engaged_some, mayThrow_some, Bool.not_true, Bool.false_eq_true,
    ↓reduceIte, bind, Except.bind]
  rfl

theorem createNewDataConsumer_incomplete (h : m.controller.ConsumingData)
    (ha : request.dataAdmission consumed = none) :
    ∃ e, m.createNewDataConsumer request consumed = .error e ∧ ¬ e.IsNull := by
  obtain ⟨⟨hconsume, hrecv⟩, hchannel⟩ := h
  have hrecv' := Option.isNone_eq_false_iff.mpr hrecv
  unfold createNewDataConsumer
  simp only [hconsume, hchannel, hrecv', Bool.not_true, Bool.false_eq_true, ↓reduceIte]
  apply engaged_bind_fails id
  intro data hdata
  apply engaged_bind_fails id
  intro appData happ
  apply engaged_bind_fails id
  intro tid htid
  apply engaged_bind_fails id
  intro dataProducerId hpid
  apply engaged_bind_fails id
  intro sctp hsctp
  apply engaged_bind_fails id
  intro stream hstream
  apply engaged_bind_fails id
  intro label hlabel
  apply engaged_bind_fails id
  intro protocol hprotocol
  apply mayThrow_bind_fails id
  intro u hu
  simp [SfuRequest.dataAdmission, hdata, happ, htid, hpid, hsctp, hstream, hlabel, hprotocol,
    hu] at ha

end DataConsumers

end Media

namespace MediaController

variable {mc : MediaController} {tid : String} {consumer : Consumer}

theorem Stored.lookup_consumerOf (h : mc.Stored) (hc : mc.consumerOf tid = some consumer) :
    mc.consumerMap.lookup tid = some (some consumer) ∧ consumer.id = tid := by
  have hl : mc.consumerMap.lookup tid = some (some consumer) := by
    simpa [consumerOf, Option.join_eq_some_iff] using hc
  obtain ⟨c, hc', hid⟩ := h.pointer tid _ hl
  rw [Option.some.injEq] at hc'
  exact ⟨hl, hc' ▸ hid⟩

/-- Without a consumer of that id there is no entry either. -/
theorem Stored.consumerOf_none (h : mc.Stored) (hc : mc.consumerOf tid = none) :
    tid ∉ mc.consumerMap := by
  intro hmem
  obtain ⟨pointer, hl⟩ := Option.isSome_iff_exists.mp (AList.lookup_isSome.mpr hmem)
  obtain ⟨consumer, rfl, -⟩ := h.pointer tid pointer hl
  rw [consumerOf, hl] at hc
  cases hc

theorem Stored.entry (h : mc.Stored) {e : Sigma fun _ : String => Option Consumer}
    (he : e ∈ mc.consumerMap.entries) :
    ∃ consumer, e.2 = some consumer ∧ consumer.id = e.1 ∧ mc.consumerOf e.1 = some consumer := by
  have hl : mc.consumerMap.lookup e.1 = some e.2 := AList.mem_lookup_iff.mpr he
  obtain ⟨consumer, hc, hid⟩ := h.pointer e.1 e.2 hl
  refine ⟨consumer, hc, hid, ?_⟩
  rw [consumerOf, hl, hc]
  rfl

def setPaused (consumer : Consumer) (paused : Bool) (mc : MediaController) : MediaController :=
  { mc with consumerMap := mc.consumerMap.insert consumer.id (some { consumer with paused }) }

def drop (tid : String) (mc : MediaController) : MediaController :=
  { mc with
    consumerIdToPeerId := mc.consumerIdToPeerId.erase tid
    consumerMap := mc.consumerMap.erase tid }

theorem Sound.setPaused (h : mc.Sound) (hc : mc.consumerOf tid = some consumer) (paused : Bool) :
    (mc.setPaused consumer paused).Sound := by
  obtain ⟨hl, rfl⟩ := h.stored.lookup_consumerOf hc
  have hmem : consumer.id ∈ mc.consumerMap := AList.lookup_isSome.mp (by rw [hl]; rfl)
  have hkeys : ∀ tid, tid ∈ (mc.setPaused consumer paused).consumerMap ↔ tid ∈ mc.consumerMap := by
    intro tid
    simp only [MediaController.setPaused, AList.mem_insert]
    constructor
    · rintro (rfl | h)
      · exact hmem
      · exact h
    · exact Or.inr
  constructor
  · intro tid pointer hp
    simp only [MediaController.setPaused, HashMap.lookup_insert_eq_ite] at hp
    split_ifs at hp with he
    · cases hp
      exact ⟨_, rfl, he.symm⟩
    · exact h.consumer tid pointer hp
  · exact h.dataConsumer
  · intro tid
    rw [hkeys]
    exact h.peers tid
  · intro tid ht
    exact h.disjoint tid ((hkeys tid).mp ht)

theorem Sound.drop (h : mc.Sound) (hd : tid ∉ mc.dataConsumerMap) : (mc.drop tid).Sound := by
  constructor
  · intro tid' pointer hl
    simp only [MediaController.drop, HashMap.lookup_erase_eq_ite] at hl
    split_ifs at hl
    exact h.consumer tid' pointer hl
  · exact h.dataConsumer
  · intro tid'
    simp only [MediaController.drop, AList.mem_erase, h.peers]
    constructor
    · rintro ⟨hne, hmem | hmem⟩
      · exact Or.inl ⟨hne, hmem⟩
      · exact Or.inr hmem
    · rintro (⟨hne, hmem⟩ | hmem)
      · exact ⟨hne, Or.inl hmem⟩
      · exact ⟨fun he => hd (he ▸ hmem), Or.inr hmem⟩
  · intro tid' hmem
    exact h.disjoint tid' (AList.mem_erase.mp hmem).2

end MediaController

namespace Media

variable {m : Media} {tid : String} {paused : Bool} {consumer : Consumer}

/-- The consumer is paused or resumed, and its participant is told. -/
def pauseConsumer (consumer : Consumer) (paused : Bool) (m : Media) : Media :=
  Media.tell (m.controller.peerOf consumer.id) (Participant.setMuted consumer.track.kind paused)
    (ParticipantEvent.stateChanged consumer.track.kind paused)
    { m with controller := m.controller.setPaused consumer paused }

theorem updateEntry_other {e : Sigma fun _ : String => Option Consumer} (hc : e.2 = some consumer)
    (hne : consumer.id ≠ tid) : m.updateEntry tid paused e = .ok m := by
  simp only [updateEntry, hc, deref_some, bind, Except.bind]
  rw [if_pos hne]
  rfl

theorem updateEntry_self (h : m.controller.Stored)
    {e : Sigma fun _ : String => Option Consumer} (he : e ∈ m.controller.consumerMap.entries)
    (hc : e.2 = some consumer) (hid : consumer.id = e.1) :
    m.updateEntry consumer.id paused e = .ok (m.pauseConsumer consumer paused) := by
  have hmem : consumer.id ∈ m.controller.consumerMap := by
    rw [hid]
    exact AList.lookup_isSome.mp (by rw [AList.mem_lookup_iff.mpr he]; rfl)
  simp only [updateEntry, hc, deref_some, bind, Except.bind, h.subscript_peer hmem, ne_eq,
    not_true_eq_false, ↓reduceIte, notifyState_eq, ← hid]
  rfl

/-- The loop of `updateConsumer` meets the consumer once: the keys are distinct. -/
theorem updateConsumer_eq (h : m.controller.Stored) (tid : String) (paused : Bool) :
    m.updateConsumer tid paused =
      .ok ((m.controller.consumerOf tid).elim m fun consumer =>
        m.pauseConsumer consumer paused) := by
  have hskip : ∀ (l : List (Sigma fun _ : String => Option Consumer)) (m' : Media),
      (∀ e ∈ l, e ∈ m.controller.consumerMap.entries) → tid ∉ l.keys →
      l.foldlM (updateEntry tid paused) m' = .ok m' := by
    intro l
    induction l with
    | nil => exact fun _ _ _ => rfl
    | cons e l ih =>
      intro m' hl hkeys
      simp only [List.keys_cons, List.mem_cons, not_or] at hkeys
      obtain ⟨consumer, hc, hid, -⟩ := h.entry (hl e List.mem_cons_self)
      rw [List.foldlM_cons, updateEntry_other hc (fun he => hkeys.1 (by rw [← he, hid]))]
      exact ih m' (fun e he => hl e (List.mem_cons_of_mem _ he)) hkeys.2
  unfold updateConsumer
  cases hc : m.controller.consumerOf tid with
  | none =>
    exact hskip _ m (fun _ he => he) (h.consumerOf_none hc)
  | some consumer =>
    obtain ⟨hl, rfl⟩ := h.lookup_consumerOf hc
    have he : (⟨consumer.id, some consumer⟩ : Sigma fun _ : String => Option Consumer) ∈
        m.controller.consumerMap.entries := AList.mem_lookup_iff.mp hl
    obtain ⟨before, after, hsplit⟩ := List.append_of_mem he
    have hnd := m.controller.consumerMap.nodupKeys
    rw [hsplit, List.NodupKeys, List.keys_append, List.keys_cons, List.nodup_append] at hnd
    have hbefore : consumer.id ∉ before.keys := fun hb =>
      hnd.2.2 consumer.id hb consumer.id List.mem_cons_self rfl
    have hafter : consumer.id ∉ after.keys := (List.nodup_cons.mp hnd.2.1).1
    have hsub : ∀ e, e ∈ before ∨ e ∈ after → e ∈ m.controller.consumerMap.entries := by
      intro e hmem
      rw [hsplit, List.mem_append, List.mem_cons]
      tauto
    rw [hsplit, List.foldlM_append, hskip before m (fun e hm => hsub e (Or.inl hm)) hbefore]
    simp only [bind, Except.bind]
    rw [List.foldlM_cons, updateEntry_self h he rfl rfl]
    exact hskip after _ (fun e hm => hsub e (Or.inr hm)) hafter

/-- The participant is told while the maps still have the consumer. -/
def removeConsumer (m : Media) (consumer : Consumer) : Media :=
  let peerId := m.controller.peerOf consumer.id
  let m := m.tell peerId (Participant.setMuted consumer.track.kind true)
    (ParticipantEvent.stateChanged consumer.track.kind true)
  let m := m.tell peerId (m.controller.refresh consumer.track.kind peerId)
    (ParticipantEvent.removed consumer.track.kind consumer.id)
  { m with controller := m.controller.drop consumer.id }

theorem closeConsumer_eq (h : m.controller.Stored) (hmem : consumer.id ∈ m.controller.consumerMap) :
    m.closeConsumer consumer = .ok (m.removeConsumer consumer) := by
  simp only [closeConsumer, h.subscript_peer hmem, notifyState_eq, bind, Except.bind]
  rw [notifyRemove_eq (by exact h)]
  rfl

theorem onConsumerClosed_eq (h : m.controller.Stored)
    {notification : Notification ConsumerNotification.Data} {data : ConsumerNotification.Data}
    (hdata : notification.data = some data) :
    m.onConsumerClosed notification =
      .ok ((m.controller.consumerOf (data.consumerId.getD "")).elim m m.removeConsumer) := by
  have hloop : ∀ l : List (Sigma fun _ : String => Option Consumer),
      (∀ e ∈ l, e ∈ m.controller.consumerMap.entries) →
      onConsumerClosedLoop notification m l =
        .ok (if data.consumerId.getD "" ∈ l.keys then
          (m.controller.consumerOf (data.consumerId.getD "")).elim m m.removeConsumer else m) := by
    intro l
    induction l with
    | nil => exact fun _ => rfl
    | cons e l ih =>
      intro hl
      have he := hl e List.mem_cons_self
      obtain ⟨consumer, hc, hid, hof⟩ := h.entry he
      have hmem : consumer.id ∈ m.controller.consumerMap := by
        rw [hid]
        exact AList.lookup_isSome.mp (by rw [AList.mem_lookup_iff.mpr he]; rfl)
      simp only [onConsumerClosedLoop, hc, hdata, deref_some, engaged_some, bind, Except.bind]
      by_cases hm : consumer.id = data.consumerId.getD ""
      · have hkey : data.consumerId.getD "" = e.1 := hm.symm.trans hid
        rw [if_pos hm, closeConsumer_eq h hmem, if_pos (by simp [hkey]), hkey, hof]
        rfl
      · have hkey : data.consumerId.getD "" ≠ e.1 := fun he => hm (hid.trans he.symm)
        rw [if_neg hm, ih fun e he => hl e (List.mem_cons_of_mem _ he)]
        simp only [List.keys_cons, List.mem_cons, hkey, false_or]
  rw [onConsumerClosed, hloop _ fun _ he => he]
  split_ifs with hkeys
  · rfl
  · have hnone : m.controller.consumerOf (data.consumerId.getD "") = none := by
      rw [MediaController.consumerOf, AList.lookup_eq_none.mpr hkeys]
      rfl
    rw [hnone]
    rfl

/-- A notification without data matters as soon as there is a consumer. -/
theorem onConsumerClosed_without_data (h : m.controller.Stored)
    {notification : Notification ConsumerNotification.Data} (hdata : notification.data = none) :
    (m.controller.consumerMap.entries = [] ∧ m.onConsumerClosed notification = .ok m) ∨
      m.onConsumerClosed notification = .error .disengaged := by
  unfold onConsumerClosed
  cases he : m.controller.consumerMap.entries with
  | nil => exact Or.inl ⟨rfl, rfl⟩
  | cons e l =>
    obtain ⟨consumer, hc, -⟩ := h.entry (by rw [he]; exact List.mem_cons_self)
    right
    simp only [onConsumerClosedLoop, hc, hdata, deref_some, engaged_none, bind, Except.bind]

end Media

end MediasoupSdk
