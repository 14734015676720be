import MediasoupSdk.Media.Sound

/-! The two requests of the SFU, cut where the media library has made the consumer: when it is
made, and when its request is answered. -/
namespace MediasoupSdk
open Foundation Signaling

/-- A loop of which each round completes or not by its element alone. -/
theorem foldlM_ok_iff {α β ε : Type} {g : β → α → Except ε β} {p : α → Prop} {l : List α}
    (h : ∀ e ∈ l, ∀ b, (∃ b', g b e = .ok b') ↔ p e) (b : β) :
    (∃ b', l.foldlM g b = .ok b') ↔ ∀ e ∈ l, p e := by
  induction l generalizing b with
  | nil => exact iff_of_true ⟨b, rfl⟩ (by simp)
  | cons e l ih =>
    have hhead := h e List.mem_cons_self b
    have ih' := fun b => ih (fun e he => h e (List.mem_cons_of_mem _ he)) b
    simp only [List.foldlM_cons, bind_ok, List.forall_mem_cons]
    constructor
    · rintro ⟨b', b₁, hb₁, hb'⟩
      exact ⟨hhead.mp ⟨b₁, hb₁⟩, (ih' b₁).mp ⟨b', hb'⟩⟩
    · rintro ⟨he, hl⟩
      obtain ⟨b₁, hb₁⟩ := hhead.mpr he
      obtain ⟨b', hb'⟩ := (ih' b₁).mpr hl
      exact ⟨b', b₁, hb₁, hb'⟩

/-- What cannot fail after a computation leaves its success to it. -/
theorem exists_bind_ok {α β ε : Type} {x : Except ε α} {k : α → Except ε β}
    (h : ∀ a, ∃ b, k a = .ok b) : (∃ b, (x >>= k) = .ok b) ↔ ∃ a, x = .ok a := by
  constructor
  · rintro ⟨b, hb⟩
    obtain ⟨a, ha, -⟩ := bind_ok.mp hb
    exact ⟨a, ha⟩
  · rintro ⟨a, ha⟩
    obtain ⟨b, hb⟩ := h a
    exact ⟨b, bind_ok.mpr ⟨a, ha, hb⟩⟩

/-- What cannot fail after a pointer has been followed. -/
theorem exists_deref_ok {π α β : Type} {p : π} {x : Option α}
    {k : α → Except (Foundation.Fault π) β}
    (h : ∀ a, ∃ b, k a = .ok b) : (∃ b, (deref p x >>= k) = .ok b) ↔ x.isSome := by
  rw [exists_bind_ok h]
  cases x with
  | none => simp
  | some a => simp

namespace MediaController

variable {mc : MediaController} {pid : String}

/-- Every pointer of the map of consumers can be followed. -/
def NoNull (mc : MediaController) : Prop := ∀ tid, mc.consumerMap.lookup tid ≠ some none

theorem noNull_iff : mc.NoNull ↔ ∀ e ∈ mc.consumerMap.entries, e.2.isSome := by
  constructor
  · intro h e he
    refine Option.isSome_iff_ne_none.mpr fun hnone => h e.1 ?_
    rw [AList.mem_lookup_iff.mpr he, hnone]
  · intro h tid hl
    have hsome := h ⟨tid, none⟩ (AList.mem_lookup_iff.mp hl)
    cases hsome

theorem getRemoteAudioTracks_ok_iff :
    (∃ tracks, mc.getRemoteAudioTracks pid = .ok tracks) ↔ mc.NoNull := by
  rw [noNull_iff]
  refine foldlM_ok_iff (fun e _ tracks => ?_) ∅
  apply exists_deref_ok
  intro consumer
  split_ifs
  · exact ⟨_, rfl⟩
  · exact ⟨_, rfl⟩

theorem getRemoteVideoTracks_ok_iff :
    (∃ tracks, mc.getRemoteVideoTracks pid = .ok tracks) ↔ mc.NoNull := by
  rw [getRemoteVideoTracks, exists_bind_ok, noNull_iff]
  · refine foldlM_ok_iff (fun e _ out => ?_) _
    apply exists_deref_ok
    intro consumer
    split_ifs
    · exact ⟨_, rfl⟩
    · exact ⟨_, rfl⟩
  · exact fun _ => ⟨_, rfl⟩

theorem noNull_store {consumer : Consumer} {peerId : String} :
    (mc.store consumer peerId).NoNull ↔
      ∀ tid, tid ≠ consumer.id → mc.consumerMap.lookup tid ≠ some none := by
  simp only [NoNull, store, HashMap.lookup_insert_eq_ite]
  constructor
  · intro h tid hne
    have hl := h tid
    rw [if_neg hne] at hl
    exact hl
  · intro h tid
    split_ifs with he
    · simp
    · exact h tid he

end MediaController

namespace Media

variable {m m' : Media} {request : SfuRequest NewConsumerRequest.Data} {consumed : Option Track}

/-- `createNewConsumer` up to the return of `RecvTransport::Consume`: the consumer, if one is
made. -/
def consume (request : SfuRequest NewConsumerRequest.Data) (consumed : Option Track) (m : Media) :
    Except Fault (Option Consumer) := do
  if !m.controller.options.consume.getD false then return none
  if m.controller.recvTransport.isNone then return none
  let data ← engaged request.data
  let _ ← engaged data.rtpParameters
  let _ ← engaged data.appData
  let id ← engaged data.id
  let producerId ← engaged data.producerId
  let _ ← engaged data.kind
  let track ← mayThrow consumed
  return some { id, producerId, track }

/-- The rest of `createNewConsumer`: the consumer is stored, announced and answered for. -/
def announce (request : SfuRequest NewConsumerRequest.Data) (consumer : Consumer) (m : Media) :
    Except Fault Media := do
  let data ← engaged request.data
  let appData ← engaged data.appData
  let m := { m with controller := m.controller.store consumer (data.peerId.getD "") }
  let producerPaused ← engaged data.producerPaused
  let peerId ← engaged data.peerId
  let m ← m.notifyCreate peerId consumer.id consumer.track appData
  let m ← m.notifyState consumer.track.kind peerId producerPaused
  return (m.push (.answer request.id)).push (.request (.setConsumerPreferredLayers consumer.id 1 1))

theorem createNewConsumer_eq : m.createNewConsumer request consumed =
    m.consume request consumed >>= fun consumer =>
      consumer.elim (.ok m) fun consumer => m.announce request consumer := by
  unfold createNewConsumer consume
  split_ifs
  · rfl
  · rfl
  apply engaged_bind_bind
  intro data hdata
  apply engaged_bind_bind
  intro rtp hrtp
  apply engaged_bind_bind
  intro appData happ
  apply engaged_bind_bind
  intro id hid
  apply engaged_bind_bind
  intro producerId hproducerId
  apply engaged_bind_bind
  intro kind hkind
  cases consumed with
  | none => rfl
  | some track =>
    simp [announce, hdata, happ, MediaController.store, bind, Except.bind, pure, Except.pure]

/-- A participant of the peer is there, and the tracks of the consumers are asked for. -/
def Shows (pid : String) (m : Media) : Prop :=
  ∃ pc, m.observer = some pc ∧ pid.isEmpty = false ∧ (pc.pointer pid).isSome

/-- The options, the transport and the request let the consumer be made and announced: no null
pointer stands among the other consumers when their tracks are asked for. -/
def Serves (request : SfuRequest NewConsumerRequest.Data) (consumed : Option Track) (m : Media) :
    Prop :=
  m.controller.Consuming ∧ ∃ a, request.admission consumed = some a ∧
    (m.Shows a.peerId → ∀ tid, tid ≠ a.tid → m.controller.consumerMap.lookup tid ≠ some none)

section Notify

variable {pid : String} {set : Except Fault (Participant → Participant)}
  {events : ℕ → List ParticipantEvent}

theorem notify_ok_iff :
    (∃ m', m.notify (ParticipantController.updateParticipant pid set events) = .ok m') ↔
      (m.Shows pid → ∃ f, set = .ok f) := by
  unfold notify Shows
  cases hm : m.observer with
  | none => simp
  | some pc =>
    simp only [bind_ok, Option.some.injEq, exists_eq_left', ParticipantController.pointer,
      ParticipantController.updateParticipant]
    by_cases hpid : pid.isEmpty
    · simp [hpid, pure, Except.pure]
    · cases hl : pc.participantMap.lookup pid with
      | none =>
        rw [HashMap.subscript_of_absent hl]
        simp [hpid, pure, Except.pure]
      | some pointer =>
        rw [HashMap.subscript_of_lookup hl]
        cases pointer with
        | none => simp [hpid, pure, Except.pure]
        | some ref => simp [hpid, bind_ok, pure, Except.pure]

theorem notify_outgoing {handler : ParticipantController → Except Fault ParticipantController}
    (h : m.notify handler = .ok m') : m'.outgoing = m.outgoing := by
  unfold notify at h
  split at h
  · cases h
    rfl
  · obtain ⟨pc, -, hpc⟩ := bind_ok.mp h
    cases hpc
    rfl

/-- The second look at the tracks completes where the first one does. -/
theorem notifyVideoTrack_ok_iff
    {handler : Except Fault Tracks → ParticipantController → Except Fault ParticipantController}
    (hh : ∀ tracks, handler tracks = ParticipantController.updateParticipant pid
      (tracks.map Participant.setVideoTracks) events) :
    (∃ m', m.notifyVideoTrack handler pid = .ok m') ↔ (m.Shows pid → m.controller.NoNull) := by
  have hnotify := @notify_ok_iff m pid
    (((m.controller.getRemoteVideoTracks pid).map Prod.fst).map Participant.setVideoTracks) events
  rw [← hh] at hnotify
  rw [← MediaController.getRemoteVideoTracks_ok_iff]
  unfold notify at hnotify
  unfold notifyVideoTrack
  cases hm : m.observer with
  | none => simp [Shows, hm]
  | some pc =>
    simp only [hm, bind_ok] at hnotify ⊢
    cases ht : m.controller.getRemoteVideoTracks pid with
    | ok out =>
      rw [ht] at hnotify
      obtain ⟨m₁, pc', hpc', -⟩ := hnotify.mpr fun _ => ⟨_, rfl⟩
      refine iff_of_true ?_ fun _ => ⟨out, rfl⟩
      split_ifs
      · exact ⟨_, pc', hpc', rfl⟩
      · exact ⟨_, pc', hpc', rfl⟩
    | error e =>
      rw [ht] at hnotify
      constructor
      · rintro ⟨m₁, pc', hpc', -⟩ hshows
        obtain ⟨f, hf⟩ := hnotify.mp ⟨_, pc', hpc', rfl⟩ hshows
        cases hf
      · intro hshows
        have hno : ¬ m.Shows pid := fun hs => by
          obtain ⟨tracks, htracks⟩ := hshows hs
          cases htracks
        obtain ⟨m₁, pc', hpc', -⟩ := hnotify.mpr fun hs => absurd hs hno
        refine ⟨{ m with observer := some pc' }, pc', hpc', ?_⟩
        rw [if_neg]
        · rfl
        · intro hcond
          rw [Bool.and_eq_true, Bool.not_eq_true'] at hcond
          exact hno ⟨pc, hm, hcond.1, hcond.2⟩

theorem notifyVideoTrack_outgoing
    {handler : Except Fault Tracks → ParticipantController → Except Fault ParticipantController}
    (h : m.notifyVideoTrack handler pid = .ok m') : m'.outgoing = m.outgoing := by
  unfold notifyVideoTrack at h
  split at h
  · cases h
    rfl
  · obtain ⟨pc, -, hpc⟩ := bind_ok.mp h
    split_ifs at hpc
    · obtain ⟨r, -, hr⟩ := bind_ok.mp hpc
      cases hr
      rfl
    · cases hpc
      rfl

end Notify

section Create

variable {pid tid : String} {track : Track} {appData : NewConsumerRequest.AppData.Val}

theorem notifyCreate_ok_iff :
    (∃ m', m.notifyCreate pid tid track appData = .ok m') ↔
      (m.Shows pid → m.controller.NoNull) := by
  unfold notifyCreate
  cases track.kind with
  | audio =>
    refine notify_ok_iff.trans (imp_congr_right fun _ => ?_)
    rw [← @MediaController.getRemoteAudioTracks_ok_iff m.controller pid]
    cases m.controller.getRemoteAudioTracks pid with
    | ok tracks => exact iff_of_true ⟨_, rfl⟩ ⟨_, rfl⟩
    | error e =>
      refine iff_of_false ?_ ?_
      · rintro ⟨f, hf⟩
        cases hf
      · rintro ⟨tracks, htracks⟩
        cases htracks
  | video => exact notifyVideoTrack_ok_iff fun _ => rfl

theorem notifyCreate_outgoing (h : m.notifyCreate pid tid track appData = .ok m') :
    m'.outgoing = m.outgoing := by
  unfold notifyCreate at h
  split at h
  · exact notify_outgoing h
  · exact notifyVideoTrack_outgoing h

end Create

end Media

/-- The response that an answer stands for: `ok` is always set. -/
def Outgoing.response : Outgoing → Option BasicResponse.Val
  | .request _ => none
  | .answer id => some (some true, id, some true, ())

namespace Media

variable {m : Media} {request : SfuRequest NewConsumerRequest.Data} {consumed : Option Track}

/-- The responses that an operation makes. Both requests make theirs after everything that may
fail. -/
def responses : Except Fault Media → List BasicResponse.Val
  | .ok m => m.outgoing.filterMap Outgoing.response
  | .error _ => []

theorem consume_of_admission (hc : m.controller.Consuming) {a : Admission}
    (ha : request.admission consumed = some a) :
    m.consume request consumed = .ok (some a.consumer) := by
  obtain ⟨hconsume, hrecv⟩ := hc
  have hrecv' := Option.isNone_eq_false_iff.mpr hrecv
  obtain ⟨data, rtp, kind, hdata, hrtp, happ, htid, hpid, hkind, htrack, hpaused, hpeer⟩ :=
    SfuRequest.admission_cases ha
  simp [consume, hconsume, hrecv', hdata, hrtp, happ, htid, hpid, hkind, htrack, Admission.consumer,
    bind, Except.bind, pure, Except.pure]

theorem announce_eq {a : Admission} (ha : request.admission consumed = some a) :
    m.announce request a.consumer =
      notifyCreate a.peerId a.tid a.track a.appData
          { m with controller := m.controller.store a.consumer a.peerId } >>= fun m =>
        m.notifyState a.track.kind a.peerId a.producerPaused >>= fun m =>
          .ok ((m.push (.answer request.id)).push
            (.request (.setConsumerPreferredLayers a.tid 1 1))) := by
  obtain ⟨data, rtp, kind, hdata, hrtp, happ, htid, hpid, hkind, htrack, hpaused, hpeer⟩ :=
    SfuRequest.admission_cases ha
  simp only [announce, hdata, happ, hpaused, hpeer, engaged_some, Option.getD_some, bind,
    Except.bind]
  rfl

theorem createNewConsumer_complete (hc : m.controller.Consuming) {a : Admission}
    (ha : request.admission consumed = some a) :
    m.createNewConsumer request consumed = m.announce request a.consumer := by
  rw [createNewConsumer_eq, consume_of_admission hc ha]
  rfl

theorem responses_of_serves (hm : m.outgoing = []) (h : m.Serves request consumed) :
    responses (m.createNewConsumer request consumed) =
      [(some true, request.id, some true, ())] := by
  obtain ⟨hc, a, ha, hnull⟩ := h
  obtain ⟨m₁, hm₁⟩ := (@notifyCreate_ok_iff
    { m with controller := m.controller.store a.consumer a.peerId } a.peerId a.tid a.track
    a.appData).mpr fun hshows => MediaController.noNull_store.mpr (hnull hshows)
  rw [createNewConsumer_complete hc ha, announce_eq ha, hm₁]
  have hout : m₁.outgoing = [] := (notifyCreate_outgoing hm₁).trans hm
  simp only [bind, Except.bind, notifyState_eq, responses, Media.push, Media.tell, hout]
  rfl

theorem responses_of_not_serves (hm : m.outgoing = []) (h : ¬ m.Serves request consumed) :
    responses (m.createNewConsumer request consumed) = [] := by
  by_cases hc : m.controller.Consuming
  · cases ha : request.admission consumed with
    | none =>
      obtain ⟨e, he, -⟩ := createNewConsumer_incomplete hc ha
      rw [he]
      rfl
    | some a =>
      rw [createNewConsumer_complete hc ha, announce_eq ha]
      cases hcreate : notifyCreate a.peerId a.tid a.track a.appData
        { m with controller := m.controller.store a.consumer a.peerId } with
      | error e => rfl
      | ok m₁ =>
        refine absurd ⟨hc, a, ha, fun hshows => ?_⟩ h
        exact MediaController.noNull_store.mp (notifyCreate_ok_iff.mp ⟨m₁, hcreate⟩ hshows)
  · rw [createNewConsumer_refused hc, responses, hm]
    rfl

end Media

namespace Media

variable {m : Media} {request : SfuRequest NewDataConsumerRequest.Data} {consumed : Option Unit}

/-- `createNewDataConsumer` up to the return of `RecvTransport::ConsumeData`. -/
def consumeData (request : SfuRequest NewDataConsumerRequest.Data) (consumed : Option Unit)
    (m : Media) : Except Fault (Option DataConsumer) := do
  if !m.controller.options.consume.getD false then return none
  if !m.controller.options.datachannel.getD false then return none
  if m.controller.recvTransport.isNone then return none
  let data ← engaged request.data
  let _ ← engaged data.appData
  let id ← engaged data.id
  let dataProducerId ← engaged data.dataProducerId
  let sctpStreamParameters ← engaged data.sctpStreamParameters
  let _ ← engaged sctpStreamParameters.1
  let _ ← engaged data.label
  let _ ← engaged data.protocol
  mayThrow consumed
  return some { id, dataProducerId }

/-- The rest of `createNewDataConsumer`. -/
def announceData (request : SfuRequest NewDataConsumerRequest.Data) (dataConsumer : DataConsumer)
    (m : Media) : Except Fault Media := do
  let data ← engaged request.data
  return Media.push (.answer request.id)
    { m with controller := m.controller.storeData dataConsumer (data.peerId.getD "") }

theorem createNewDataConsumer_eq : m.createNewDataConsumer request consumed =
    m.consumeData request consumed >>= fun dataConsumer =>
      dataConsumer.elim (.ok m) fun dataConsumer => m.announceData request dataConsumer := by
  unfold createNewDataConsumer consumeData
  split_ifs
  · rfl
  · rfl
  · rfl
  apply engaged_bind_bind
  intro data hdata
  apply engaged_bind_bind
  intro appData happ
  apply engaged_bind_bind
  intro id hid
  apply engaged_bind_bind
  intro dataProducerId hdataProducerId
  apply engaged_bind_bind
  intro sctp hsctp
  apply engaged_bind_bind
  intro stream hstream
  apply engaged_bind_bind
  intro label hlabel
  apply engaged_bind_bind
  intro protocol hprotocol
  cases consumed with
  | none => rfl
  | some u =>
    simp [announceData, hdata, MediaController.storeData, bind, Except.bind, pure, Except.pure]

def ServesData (request : SfuRequest NewDataConsumerRequest.Data) (consumed : Option Unit)
    (m : Media) : Prop :=
  m.controller.ConsumingData ∧ (request.dataAdmission consumed).isSome

theorem consumeData_of_servesData (h : m.ServesData request consumed) :
    ∃ dataConsumer, m.consumeData request consumed = .ok (some dataConsumer) := by
  obtain ⟨hc, ha⟩ := h
  obtain ⟨a, ha⟩ := Option.isSome_iff_exists.mp ha
  have hadmitted := createNewDataConsumer_admitted hc ha
  rw [createNewDataConsumer_eq, bind_ok] at hadmitted
  obtain ⟨dataConsumer, hd, hrest⟩ := hadmitted
  cases dataConsumer with
  | some dataConsumer => exact ⟨dataConsumer, hd⟩
  | none =>
    have hout := congrArg (fun m => m.outgoing.length) (Except.ok.inj hrest)
    simp [acceptData, Media.push] at hout

theorem responses_of_servesData (hm : m.outgoing = []) (h : m.ServesData request consumed) :
    responses (m.createNewDataConsumer request consumed) =
      [(some true, request.id, some true, ())] := by
  obtain ⟨hc, ha⟩ := h
  obtain ⟨a, ha⟩ := Option.isSome_iff_exists.mp ha
  rw [createNewDataConsumer_admitted hc ha]
  simp only [responses, acceptData, Media.push, hm]
  rfl

theorem responses_of_not_servesData (hm : m.outgoing = []) (h : ¬ m.ServesData request consumed) :
    responses (m.createNewDataConsumer request consumed) = [] := by
  by_cases hc : m.controller.ConsumingData
  · have ha : request.dataAdmission consumed = none := by
      by_contra hsome
      exact h ⟨hc, Option.isSome_iff_ne_none.mpr hsome⟩
    obtain ⟨e, he, -⟩ := createNewDataConsumer_incomplete hc ha
    rw [he]
    rfl
  · rw [createNewDataConsumer_refused hc, responses, hm]
    rfl

end Media
end MediasoupSdk
