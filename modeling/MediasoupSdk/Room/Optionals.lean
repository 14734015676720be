import MediasoupSdk.Room.Callbacks
import MediasoupSdk.Room.Faults

/-! The optionals that the handlers of a message read without a check. A message that lacks one
of them decodes, and its handler reads it all the same. -/
namespace MediasoupSdk
open Foundation Signaling

/-- A member of `newConsumer` is absent; two of them matter only after the consumer was
created. -/
def Signaling.NewConsumerRequest.Data.Lacks (consumed : Option Track)
    (data : NewConsumerRequest.Data) : Prop :=
  data.rtpParameters = none ∨ data.appData = none ∨ data.id = none ∨ data.producerId = none ∨
    data.kind = none ∨ consumed.isSome ∧ (data.producerPaused = none ∨ data.peerId = none)

/-- A member of `newDataConsumer` is absent, or the stream id in its parameters. -/
def Signaling.NewDataConsumerRequest.Data.Lacks (data : NewDataConsumerRequest.Data) : Prop :=
  data.appData = none ∨ data.id = none ∨ data.dataProducerId = none ∨
    ∀ sctp, data.sctpStreamParameters = some sctp →
      sctp.1 = none ∨ data.label = none ∨ data.protocol = none

/-- A member of a created transport is absent; `sctpParameters` counts with any options. -/
def Signaling.CreateWebRtcTransportResponse.Data.Lacks
    (data : CreateWebRtcTransportResponse.Data) : Prop :=
  data.iceParameters = none ∨ data.iceCandidates = none ∨ data.dtlsParameters = none ∨
    data.sctpParameters = none

namespace Media

/-- The request lacks a member, and the controller gets as far as reading it. -/
def LacksConsumer (request : SfuRequest NewConsumerRequest.Data) (consumed : Option Track)
    (mc : MediaController) : Prop :=
  mc.options.consume.getD false = true ∧ mc.recvTransport.isSome ∧
    ∀ data, request.data = some data → data.Lacks consumed

def LacksDataConsumer (request : SfuRequest NewDataConsumerRequest.Data) (mc : MediaController) :
    Prop :=
  mc.options.consume.getD false = true ∧ mc.options.datachannel.getD false = true ∧
    mc.recvTransport.isSome ∧ ∀ data, request.data = some data → data.Lacks

/-- The loop of `onConsumerClosed` reads the data for its first consumer. -/
def LacksClosed (notification : Notification ConsumerNotification.Data) (mc : MediaController) :
    Prop :=
  notification.data = none ∧ ∃ e, mc.consumerMap.entries.head? = some e ∧ e.2.isSome

variable {m : Media}

theorem createNewConsumer_disengaged {request : SfuRequest NewConsumerRequest.Data}
    {consumed : Option Track} :
    m.createNewConsumer request consumed = .error .disengaged ↔
      LacksConsumer request consumed m.controller := by
  unfold createNewConsumer LacksConsumer
  split_ifs with hconsume hrecv
  · simp_all [pure, Except.pure]
  · simp_all [pure, Except.pure]
  · have hconsume' : m.controller.options.consume.getD false = true := by simpa using hconsume
    have hrecv' : m.controller.recvTransport.isSome :=
      Option.isSome_iff_ne_none.mpr (by simpa using hrecv)
    simp only [hconsume', hrecv', true_and, engaged_bind_disengaged (x := request.data)]
    refine forall_congr' fun data => imp_congr_right fun _ => ?_
    unfold NewConsumerRequest.Data.Lacks
    refine engaged_bind_iff fun rtpParameters _ => ?_
    refine engaged_bind_iff fun appData _ => ?_
    refine engaged_bind_iff fun tid _ => ?_
    refine engaged_bind_iff fun producerId _ => ?_
    refine engaged_bind_iff fun kind _ => ?_
    refine mayThrow_bind_iff fun track _ => ?_
    refine engaged_bind_iff fun producerPaused _ => ?_
    rw [← or_false (data.peerId = none)]
    refine engaged_bind_iff fun peerId _ => iff_false_intro ?_
    -- The participants are told without reading an optional of the request.
    refine Avoids.ne_disengaged ?_
    refine (notifyCreate_avoids id _ _ _ _ _).bind fun m₁ _ => ?_
    exact (notifyState_avoids _ _ _ m₁).bind fun _ _ => avoids_pure _

theorem createNewDataConsumer_disengaged {request : SfuRequest NewDataConsumerRequest.Data}
    {consumed : Option Unit} :
    m.createNewDataConsumer request consumed = .error .disengaged ↔
      LacksDataConsumer request m.controller := by
  unfold createNewDataConsumer LacksDataConsumer
  split_ifs with hconsume hdata hrecv
  · simp_all [pure, Except.pure]
  · simp_all [pure, Except.pure]
  · simp_all [pure, Except.pure]
  · have hconsume' : m.controller.options.consume.getD false = true := by simpa using hconsume
    have hdata' : m.controller.options.datachannel.getD false = true := by simpa using hdata
    have hrecv' : m.controller.recvTransport.isSome :=
      Option.isSome_iff_ne_none.mpr (by simpa using hrecv)
    simp only [hconsume', hdata', hrecv', true_and, engaged_bind_disengaged (x := request.data)]
    refine forall_congr' fun data => imp_congr_right fun _ => ?_
    unfold NewDataConsumerRequest.Data.Lacks
    refine engaged_bind_iff fun appData _ => ?_
    refine engaged_bind_iff fun tid _ => ?_
    refine engaged_bind_iff fun dataProducerId _ => ?_
    rw [engaged_bind_disengaged]
    refine forall_congr' fun sctp => imp_congr_right fun _ => ?_
    refine engaged_bind_iff fun streamId _ => ?_
    refine engaged_bind_iff fun label _ => ?_
    rw [← or_false (data.protocol = none)]
    refine engaged_bind_iff fun protocol _ => iff_false_intro ?_
    refine Avoids.ne_disengaged ?_
    exact (avoids_mayThrow id _).bind fun _ _ => avoids_pure _

/-- With its data there, the loop reads no absent optional. -/
theorem onConsumerClosedLoop_ne_disengaged {notification : Notification ConsumerNotification.Data}
    {data : ConsumerNotification.Data} (hdata : notification.data = some data)
    (entries : List (Sigma fun _ : String => Option Consumer)) :
    Avoids Fault.IsDisengaged (onConsumerClosedLoop notification m entries) := by
  induction entries with
  | nil => exact avoids_ok m
  | cons e rest ih =>
    simp only [onConsumerClosedLoop, hdata]
    refine (avoids_deref fun _ => id).bind fun consumer _ => ?_
    refine (avoids_ok data).bind fun data' _ => ?_
    split_ifs
    · exact closeConsumer_avoids id consumer m
    · exact ih

theorem onConsumerClosed_disengaged {notification : Notification ConsumerNotification.Data} :
    m.onConsumerClosed notification = .error .disengaged ↔
      LacksClosed notification m.controller := by
  unfold onConsumerClosed LacksClosed
  cases hdata : notification.data with
  | some data =>
    have hne := (onConsumerClosedLoop_ne_disengaged (m := m) hdata
      m.controller.consumerMap.entries).ne_disengaged
    simp [hne]
  | none =>
    cases m.controller.consumerMap.entries with
    | nil => simp [onConsumerClosedLoop]
    | cons e rest =>
      simp only [onConsumerClosedLoop, hdata]
      refine (deref_bind_iff (P := True) fun _ _ => iff_true_intro rfl).trans ?_
      simp

end Media

namespace RoomClient

variable (J : JsonText)

/-- A notification decodes and has no data. -/
def LacksData {D : Type} (value : Except JsonError (Notification D)) : Prop :=
  ∃ n, value = .ok n ∧ n.data = none

/-- The notification has no data, and its handlers get as far as reading them: those of the
participants and of the consumers while the controller lives, that of the room client always. -/
def NotificationLacks (c : RoomClient) (json : String) : Prop :=
  let R := J.rapidjson
  match notificationMethod J json with
  | some .newPeer => c.participantController.isSome ∧
      LacksData (decodeNotification R json NewPeerNotification.DataFields
        NewPeerNotification.Data.ofVal)
  | some .peerClosed => c.participantController.isSome ∧
      LacksData (decodeNotification R json PeerClosedNotification.DataFields
        PeerClosedNotification.Data.ofVal)
  | some .peerDisplayNameChanged => c.participantController.isSome ∧
      LacksData (decodeNotification R json PeerDisplayNameChangedNotification.DataFields
        PeerDisplayNameChangedNotification.Data.ofVal)
  | some .consumerPaused => c.mediaController.isSome ∧
      LacksData (decodeNotification R json ConsumerNotification.DataFields
        ConsumerNotification.Data.ofVal)
  | some .consumerResumed => c.mediaController.isSome ∧
      LacksData (decodeNotification R json ConsumerNotification.DataFields
        ConsumerNotification.Data.ofVal)
  | some .activeSpeaker =>
      LacksData (decodeNotification R json ActiveSpeakerNotification.DataFields
        ActiveSpeakerNotification.Data.ofVal)
  | some .consumerClosed => False
  | none => False

/-- The message behind a task of the mediasoup thread lacks a member, and the task gets as far
as reading it. -/
def TaskLacks (c : RoomClient) (o : Oracle) : MediasoupTask → Prop
  | .loadMediasoupDevice _ response => response.data = none
  | .createTransport _ producing consuming response =>
    (producing = true ∨ consuming = true) ∧
      ¬ (c.mediasoupDevice = none ∧ c.hasPeerConnectionOptions = true) ∧
      ∀ data, response.data = some data → data.Lacks
  | .joined _ state response =>
    state ≠ .closed ∧ c.participantController.isSome ∧ response.data = none
  | .newConsumer _ request =>
    ∃ mc, c.mediaController = some mc ∧ Media.LacksConsumer request o.consumed mc
  | .newDataConsumer _ request =>
    ∃ mc, c.mediaController = some mc ∧ Media.LacksDataConsumer request mc
  | .consumerClosed _ notification =>
    ∃ mc, c.mediaController = some mc ∧ Media.LacksClosed notification mc
  | .updateConsumer _ _ _ => False
  | .getRouterRtpCapabilities => False
  | .closed => False

/-- The action handles a message that lacks what its handler reads. -/
inductive Lacks (c : RoomClient) : Action → Prop where
  | notification {seq json rest} (ht : c.transportTasks = .onMessage seq json :: rest)
      (hsc : c.signalingClient.isSome)
      (hkind : SignalingClient.messageKind J.rapidjson json = some .notification)
      (hl : c.NotificationLacks J json) : Lacks c .transport
  | produced {r} (hd : c.Delivers J (.produced r)) (hok : r.ok.isSome) (hdata : r.data = none) :
      Lacks c .transport
  | task {o t rest} (ht : c.mediasoupTasks = t :: rest) (hl : c.TaskLacks o t) :
      Lacks c (.mediasoup o)

variable {J} {o : Oracle} {c : RoomClient}

theorem decoded_disengaged {α : Type} {value : Except JsonError α}
    {handler : α → Except Fault RoomClient} :
    c.decoded value handler = .error .disengaged ↔
      ∃ a, value = .ok a ∧ handler a = .error .disengaged := by
  cases value with
  | error e => simp [decoded]
  | ok a => simp [decoded]

theorem notifyParticipants_disengaged {seq : ℕ} {P : Prop}
    {handler : ParticipantController → Except Fault ParticipantController}
    (hh : ∀ pc, handler pc = .error .disengaged ↔ P) :
    c.notifyParticipants seq handler = .error .disengaged ↔
      c.participantController.isSome ∧ P := by
  unfold notifyParticipants
  cases c.participantController with
  | none => simp
  | some pc =>
    simp only [Option.isSome_some, true_and]
    refine (bind_disengaged fun _ => ?_).trans (hh pc)
    exact avoids_pure _

theorem onNewPeer_disengaged {n : Notification NewPeerNotification.Data}
    (pc : ParticipantController) : pc.onNewPeer n = .error .disengaged ↔ n.data = none := by
  refine engaged_bind_eq_none fun data => ?_
  simp only
  split_ifs
  · exact avoids_pure _
  · exact avoids_pure _
  · exact avoids_pure _

theorem onPeerClosed_disengaged {n : Notification PeerClosedNotification.Data}
    (pc : ParticipantController) : pc.onPeerClosed n = .error .disengaged ↔ n.data = none := by
  refine engaged_bind_eq_none fun data => ?_
  simp only
  split_ifs
  · exact avoids_pure _
  · split
    · exact avoids_pure _
    · exact avoids_pure _

theorem onPeerDisplayNameChanged_disengaged
    {n : Notification PeerDisplayNameChangedNotification.Data} (pc : ParticipantController) :
    pc.onPeerDisplayNameChanged n = .error .disengaged ↔ n.data = none :=
  engaged_bind_eq_none fun _ =>
    ParticipantController.updateParticipant_avoids (avoids_ok _) pc

theorem onConsumerPaused_disengaged {seq : ℕ} {paused : Bool}
    {n : Notification ConsumerNotification.Data} :
    c.onConsumerPaused seq paused n = .error .disengaged ↔
      c.mediaController.isSome ∧ n.data = none := by
  unfold onConsumerPaused
  cases c.mediaController with
  | none => simp
  | some mc =>
    simp only [Option.isNone_some, Bool.false_eq_true, ↓reduceIte, Option.isSome_some, true_and]
    refine engaged_bind_eq_none fun data => ?_
    split_ifs
    · exact avoids_pure _
    · exact avoids_pure _

/-- The room client reads the data first; with them there, no handler faults. -/
theorem activeSpeaker_disengaged {seq : ℕ} {n : Notification ActiveSpeakerNotification.Data} :
    (do
      let c ← c.onActiveSpeaker seq n
      c.notifyParticipants seq (·.onActiveSpeaker n)) = .error .disengaged ↔ n.data = none := by
  cases hdata : n.data with
  | none =>
    simp only [onActiveSpeaker, hdata]
    exact iff_of_true rfl trivial
  | some data =>
    refine iff_of_false (Avoids.ne_disengaged ?_) (by simp)
    refine Avoids.bind ?_ fun d _ => notifyParticipants_avoids (fun pc => ?_) d
    · simp only [onActiveSpeaker, hdata]
      refine (avoids_ok data).bind fun data' _ => ?_
      split_ifs
      · exact avoids_pure _
      · exact avoids_pure _
    · simp only [ParticipantController.onActiveSpeaker, hdata]
      exact (avoids_ok data).bind fun _ _ =>
        ParticipantController.updateParticipant_avoids (avoids_ok _) pc

theorem handleNotification_disengaged {seq : ℕ} {json : String} :
    c.handleNotification J seq json = .error .disengaged ↔ c.NotificationLacks J json := by
  have hand : ∀ {D : Type} {value : Except JsonError (Notification D)} {Q : Prop},
      (∃ n, value = .ok n ∧ Q ∧ n.data = none) ↔ Q ∧ LacksData value := by
    intro D value Q
    unfold LacksData
    tauto
  unfold handleNotification NotificationLacks
  simp only
  cases notificationMethod J json with
  | none => simp
  | some method =>
    cases method with
    | newPeer =>
      simp only [decoded_disengaged, notifyParticipants_disengaged onNewPeer_disengaged, hand]
    | peerClosed =>
      simp only [decoded_disengaged, notifyParticipants_disengaged onPeerClosed_disengaged, hand]
    | peerDisplayNameChanged =>
      simp only [decoded_disengaged,
        notifyParticipants_disengaged onPeerDisplayNameChanged_disengaged, hand]
    | consumerClosed =>
      refine iff_false_intro (Avoids.ne_disengaged (decoded_avoids (fun n => ?_) c))
      split_ifs
      · exact avoids_ok _
      · exact avoids_ok _
    | consumerPaused => simp only [decoded_disengaged, onConsumerPaused_disengaged, hand]
    | consumerResumed => simp only [decoded_disengaged, onConsumerPaused_disengaged, hand]
    | activeSpeaker =>
      simp only [decoded_disengaged, activeSpeaker_disengaged]
      rfl

theorem onProduceReply_disengaged {r : Response ProduceResponse.Data} :
    MediasoupApi.onProduceReply true ⟨0, "", some r⟩ = .error .disengaged ↔
      r.ok.isSome ∧ r.data = none := by
  cases hok : r.ok with
  | none => simp [MediasoupApi.onProduceReply, hok]
  | some value =>
    simp only [MediasoupApi.onProduceReply, hok, Bool.not_true, Bool.false_eq_true, ne_eq,
      not_true_eq_false, Option.isNone_some, Option.isSome_some, true_and, ↓reduceIte]
    exact engaged_bind_eq_none fun _ => avoids_pure _

/-- Only the callbacks of `produce` and `produceData` read an optional of the response. -/
theorem invoke_disengaged {seq : ℕ} {callback : Callback} {json : String}
    (h : invoke J seq (.resolved callback json) c = .error .disengaged) :
    ∃ r, json.isEmpty = false ∧ Receives J json callback (.produced r) ∧ r.ok.isSome ∧
      r.data = none := by
  have hproduce : ∀ {callback}, (∀ {r}, decodeProduceResponse J.rapidjson json = .ok r →
        Receives J json callback (.produced r)) →
      (do
        (MediasoupApi.onSuccess (decodeProduceResponse J.rapidjson) json).forM fun reply => do
          let _ ← MediasoupApi.onProduceReply true reply
        return c : Except Fault RoomClient) = .error .disengaged →
      ∃ r, json.isEmpty = false ∧ Receives J json callback (.produced r) ∧ r.ok.isSome ∧
        r.data = none := by
    intro callback hreceives he
    rw [bind_disengaged fun _ => avoids_pure _] at he
    rcases onSuccess_cases (decodeProduceResponse J.rapidjson) json with hs | ⟨r, hjson, hr, hs⟩
    · rw [hs] at he
      cases he
    · rw [hs] at he
      simp only [List.forM] at he
      rw [bind_disengaged fun _ => avoids_pure _, bind_disengaged fun _ => avoids_pure _,
        onProduceReply_disengaged] at he
      exact ⟨r, hjson, hreceives hr, he⟩
  cases callback with
  | getRouterRtpCapabilities => cases h
  | createWebRtcTransport producing consuming => cases h
  | join => cases h
  | connectWebRtcTransport =>
    exact absurd h (Avoids.ne_disengaged
      ((avoids_forM (fun _ => avoids_ok _) _).bind fun _ _ => avoids_pure _))
  | produce => exact hproduce .produced h
  | produceData => exact hproduce .producedData h
  | ignored => cases h

theorem handleResponse_disengaged {seq : ℕ} {json : String} {rest : List TransportTask}
    {sc : SignalingClient Callback} (ht : c.transportTasks = .handleResponse seq json :: rest)
    (hsc : c.signalingClient = some sc)
    (h : { c with transportTasks := rest }.handleResponse J seq json sc = .error .disengaged) :
    c.Lacks J .transport := by
  unfold handleResponse at h
  simp only at h
  rcases handleResponse_calls J.rapidjson json sc with hcalls | ⟨callback, -, hcalls⟩
  · rw [hcalls] at h
    cases h
  · rw [hcalls] at h
    simp only [List.foldlM_cons, List.foldlM_nil] at h
    rw [bind_disengaged fun _ => avoids_pure _] at h
    obtain ⟨r, hjson, hr, hok, hdata⟩ := invoke_disengaged h
    exact .produced ⟨seq, json, rest, sc, callback, ht, hsc, hcalls, hjson, hr⟩ hok hdata

theorem onMessage_disengaged {seq : ℕ} {json : String} :
    c.onMessage J seq json = .error .disengaged ↔
      SignalingClient.messageKind J.rapidjson json = some .notification ∧
        c.NotificationLacks J json := by
  unfold onMessage
  cases SignalingClient.messageKind J.rapidjson json with
  | none => simp
  | some kind =>
    cases kind with
    | notification => simp [handleNotification_disengaged]
    | response => simp
    | request => simp [(handleRequest_avoids seq json c).ne_disengaged]

/-- A task of the transport thread reads an absent optional exactly when its message lacks what
the handler reads. -/
theorem transport_disengaged_iff :
    c.step J .transport = .error .disengaged ↔ c.Lacks J .transport := by
  constructor
  · intro h
    simp only [step] at h
    split at h
    · cases h
    · rename_i t rest ht
      unfold runTransport at h
      split at h
      · cases h
      · rename_i sc hsc
        cases t with
        | onOpened => cases h
        | onFailed => cases h
        | onClosed =>
          simp only [SignalingClient.onClosed, foldlM_rejected] at h
          cases h
        | onMessage seq json =>
          obtain ⟨hkind, hl⟩ := onMessage_disengaged.mp h
          have hsc' : c.signalingClient = some sc := hsc
          exact .notification ht (by simp [hsc']) hkind hl
        | handleResponse seq json => exact handleResponse_disengaged ht hsc h
  · intro h
    cases h with
    | notification ht hsc hkind hl =>
      obtain ⟨sc, hsc⟩ := Option.isSome_iff_exists.mp hsc
      simp only [step, ht, runTransport, hsc]
      exact onMessage_disengaged.mpr ⟨hkind, hl⟩
    | produced hd hok hdata =>
      obtain ⟨seq, rest, sc', -, hstep⟩ := hd.step_eq
      rw [hstep, Delivered.handle, onProduceReply_disengaged.mpr ⟨hok, hdata⟩]
      rfl

theorem createTransportImpl_disengaged {producing consuming : Bool}
    {response : Response CreateWebRtcTransportResponse.Data} :
    c.createTransportImpl producing consuming response o = .error .disengaged ↔
      ¬ (c.mediasoupDevice = none ∧ c.hasPeerConnectionOptions = true) ∧
        ∀ data, response.data = some data → data.Lacks := by
  have htail : ∀ (f : MediaController → RoomClient) (b : Bool) (x : Except Fault RoomClient),
      Avoids Fault.IsDisengaged x → Avoids Fault.IsDisengaged
        (if b then do
          let _ ← deref .mediasoupDevice c.mediasoupDevice
          mayThrow o.transportCreated
          let mc ← deref .mediaController c.mediaController
          return f mc
        else x) := by
    intro f b x hx
    split_ifs
    · refine (avoids_deref fun _ => id).bind fun _ _ => ?_
      refine (avoids_mayThrow id _).bind fun _ _ => ?_
      exact (avoids_deref fun _ => id).bind fun _ _ => avoids_pure _
    · exact hx
  unfold createTransportImpl
  by_cases hgone : c.mediasoupDevice = none ∧ c.hasPeerConnectionOptions = true
  · simp [hgone, pure, Except.pure]
  · have hcond : (c.mediasoupDevice.isNone && c.hasPeerConnectionOptions) = false := by
      simpa using hgone
    simp only [hcond, Bool.false_eq_true, ↓reduceIte, hgone, not_false_eq_true, true_and,
      engaged_bind_disengaged (x := response.data)]
    refine forall_congr' fun data => imp_congr_right fun _ => ?_
    unfold CreateWebRtcTransportResponse.Data.Lacks
    refine engaged_bind_iff fun iceParameters _ => ?_
    refine engaged_bind_iff fun iceCandidates _ => ?_
    refine engaged_bind_iff fun dtlsParameters _ => ?_
    refine engaged_bind_eq_none fun sctpParameters => ?_
    exact htail _ _ _ (htail _ _ _ (avoids_pure c))

theorem onJoined_disengaged {state : RoomState} {response : Response JoinResponse.Data} :
    c.onJoined state response = .error .disengaged ↔
      state ≠ .closed ∧ c.participantController.isSome ∧ response.data = none := by
  unfold onJoined
  by_cases hstate : state = .closed
  · subst hstate
    have hnull : ∀ p : Pointer, ¬ Fault.IsDisengaged (.nullPointer p) := fun _ => id
    have havoids := onRoomStateChanged_avoids (hnull .producer) (hnull .dataConsumer)
      (hnull .consumer) .closed c
    refine iff_of_false (Avoids.ne_disengaged (havoids.bind fun d hd => ?_)) (by simp)
    rw [onRoomStateChanged_closed hd]
    exact avoids_pure _
  · have hopen : c.onRoomStateChanged state =
        .ok { c with notified := c.notified ++ [state] } := by
      cases state with
      | closed => exact absurd rfl hstate
      | connecting => rfl
      | connected => rfl
    rw [hopen]
    simp only [bind, Except.bind, hstate, ne_eq, not_false_eq_true, true_and]
    cases c.participantController with
    | none => simp [pure, Except.pure]
    | some pc =>
      simp only [Option.isSome_some, true_and]
      exact engaged_bind_eq_none fun _ => avoids_pure _

theorem runMedia_disengaged {seq : ℕ} {op : Media → Except Fault Media}
    {P : MediaController → Prop}
    (hop : ∀ m, op m = .error .disengaged ↔ P m.controller) :
    c.runMedia J seq op o = .error .disengaged ↔ ∃ mc, c.mediaController = some mc ∧ P mc := by
  unfold runMedia
  cases c.mediaController with
  | none => simp
  | some mc =>
    simp only [Option.some.injEq, exists_eq_left']
    rw [bind_disengaged fun _ => avoids_pure _]
    refine (bind_disengaged fun m => ?_).trans (hop _)
    exact (sendOutgoing_avoids id _ _ _).bind fun _ _ => avoids_pure _

/-- A task of the mediasoup thread reads an absent optional exactly when the message behind it
lacks what the task reads. -/
theorem runMediasoup_disengaged {t : MediasoupTask} :
    c.runMediasoup J t o = .error .disengaged ↔ c.TaskLacks o t := by
  have hrequest : ∀ p q (c : RoomClient), Avoids Fault.IsDisengaged
      (c.requestCreateTransport J false p q o) :=
    fun p q c => requestCreateTransport_avoids id false p q c fun _ _ => id
  have hjoin : ∀ c : RoomClient, Avoids Fault.IsDisengaged (c.joinImpl J o) :=
    fun c => joinImpl_avoids id c fun _ _ => id
  cases t with
  | getRouterRtpCapabilities =>
    exact iff_false_intro (getRouterRtpCapabilities_avoids id c).ne_disengaged
  | closed =>
    exact iff_false_intro (onRoomStateChanged_avoids id id id .closed
      { c with state := .closed }).ne_disengaged
  | loadMediasoupDevice seq response =>
    refine engaged_bind_eq_none fun data => ?_
    refine (avoids_mayThrow id _).bind fun device _ => ?_
    refine (avoids_deref fun _ => id).bind fun mc _ => ?_
    simp only
    split_ifs
    · exact hrequest _ _ _
    · exact hrequest _ _ _
    · exact hjoin _
  | createTransport seq producing consuming response =>
    simp only [runMediasoup, TaskLacks]
    split_ifs with hp hq
    · simp only [hp, true_or, true_and]
      refine (bind_disengaged fun d => ?_).trans createTransportImpl_disengaged
      split_ifs
      · exact hrequest _ _ d
      · exact hjoin d
    · simp only [hq, or_true, true_and]
      exact (bind_disengaged fun d => hjoin d).trans createTransportImpl_disengaged
    · simp [hp, hq]
  | joined seq state response => exact onJoined_disengaged
  | newConsumer seq request =>
    exact runMedia_disengaged fun _ => Media.createNewConsumer_disengaged
  | newDataConsumer seq request =>
    exact runMedia_disengaged fun _ => Media.createNewDataConsumer_disengaged
  | updateConsumer seq tid paused =>
    exact iff_false_intro (runMedia_avoids id
      (Media.updateConsumer_avoids id tid paused) seq c).ne_disengaged
  | consumerClosed seq notification =>
    exact runMedia_disengaged fun _ => Media.onConsumerClosed_disengaged

theorem step_disengaged_iff (a : Action) :
    c.step J a = .error .disengaged ↔ c.Lacks J a := by
  cases a with
  | call a o =>
    refine iff_of_false (Avoids.ne_disengaged ?_) nofun
    exact call_avoids id id id id id fun _ _ => id
  | socket e => exact iff_of_false nofun nofun
  | listener l o => exact iff_of_false (listen_avoids id l c).ne_disengaged nofun
  | transport => exact transport_disengaged_iff
  | mediasoup o =>
    constructor
    · intro h
      simp only [step] at h
      split at h
      · cases h
      · rename_i t rest ht
        have hl := runMediasoup_disengaged.mp h
        exact .task ht hl
    · rintro ⟨⟩
      rename_i t rest ht hl
      simp only [step, ht]
      exact runMediasoup_disengaged.mpr hl

/-- Along every run no handler reads a disengaged optional exactly when no message that is handled
lacks a member that its handler reads. -/
theorem no_disengaged_iff_none_lacks (J : JsonText) (run : List Action) :
    Guarded (step J) (fun c a => c.step J a ≠ .error .disengaged) initial run ↔
      Guarded (step J) (fun c a => ¬ c.Lacks J a) initial run := by
  constructor
  · exact Guarded.mono fun c a h hl => h ((step_disengaged_iff a).mpr hl)
  · exact Guarded.mono fun c a h he => h ((step_disengaged_iff a).mp he)

/-- The SFU leaves out `sctpParameters` for a transport without data channels. -/
def createdText : String :=
  "\x7b\"response\":true,\"id\":2,\"ok\":true,\"data\":\x7b\"iceParameters\":\x7b\x7d,\"iceCandidates\":[],\"dtlsParameters\":\x7b\x7d\x7d\x7d"

def createdJson : JsonText where
  rapidjson := ⟨fun text => ((createdText, .object [("response", .bool true), ("id", .int 2),
    ("ok", .bool true), ("data", .object [("iceParameters", .object []), ("iceCandidates", .array []),
      ("dtlsParameters", .object [])])]) :: sessionDocuments).lookup text⟩
  request _ r := sessionRequest r
  answer _ := "\x7b\"response\":true,\"ok\":true\x7d"

/-- A client that produces, up to the task that takes up the created transport. -/
def producing : List Action :=
  [.call (.join "sfu" 4443 "room" "alice"
      (some { produce := some true, consume := some false, datachannel := some false }))
      firstRequest,
    .socket .opened, .transport, .mediasoup firstRequest,
    .socket (.message capabilitiesText), .transport, .transport, .mediasoup secondRequest,
    .socket (.message createdText), .transport, .transport]

theorem created_without_sctpParameters :
    ∃ c, exec (step createdJson) initial producing = .ok c ∧
      c.step createdJson (.mediasoup secondRequest) = .error .disengaged :=
  ⟨_, rfl, rfl⟩

end RoomClient
end MediasoupSdk
