import MediasoupSdk.Participants.Controller
import MediasoupSdk.Signaling.Api

/-! `MediaController`: the producers and consumers of a session. The media library is seen
through what its calls return; a call that throws is `none`. -/
namespace MediasoupSdk
open Foundation Signaling

/-- The members of the options that decide what the client does. -/
structure Options where
  produce : Option Bool := some true
  consume : Option Bool := some true
  datachannel : Option Bool := some true
  useSimulcast : Option Bool := some false
  deriving DecidableEq, Repr

/-- A loaded device, by the texts of its capabilities and the kinds it can produce. -/
structure Device where
  rtpCapabilities : String
  sctpCapabilities : String
  canProduceAudio : Bool
  canProduceVideo : Bool
  deriving DecidableEq, Repr

structure Transport where
  id : String
  deriving DecidableEq, Repr

structure Producer where
  id : String
  paused : Bool := false
  deriving DecidableEq, Repr

/-- The kind of a consumer is the kind of its track. -/
structure Consumer where
  id : String
  producerId : String
  track : Track
  paused : Bool := false
  deriving DecidableEq, Repr

structure DataConsumer where
  id : String
  dataProducerId : String
  deriving DecidableEq, Repr

/-- `sourceMap` tells whether a track name has a video source. -/
structure MediaController where
  options : Options
  mediasoupDevice : Option Device := none
  sendTransport : Option Transport := none
  recvTransport : Option Transport := none
  micProducer : Option Producer := none
  producerMap : HashMap String (Option Producer) := ∅
  sourceMap : HashMap String Bool := ∅
  consumerMap : HashMap String (Option Consumer) := ∅
  dataConsumerMap : HashMap String (Option DataConsumer) := ∅
  consumerIdToPeerId : HashMap String String := ∅

/-- A message that the media controller hands to the API. -/
inductive Outgoing where
  | request (r : ApiRequest)
  | answer (id : Option (IntN 64))

/-- The controller with its observer, the participant controller, while it lives. The room
client observes too, with empty handlers. -/
structure Media where
  controller : MediaController
  observer : Option ParticipantController := none
  outgoing : List Outgoing := []

namespace MediaController

/-- Every stored pointer is dereferenced to close what it points to. -/
def closeAll {V : Type} (p : Pointer) (m : HashMap String (Option V)) : Except Fault Unit :=
  m.entries.forM fun e => do
    let _ ← deref p e.2

def destroy (mc : MediaController) : Except Fault MediaController := do
  closeAll .producer mc.producerMap
  closeAll .dataConsumer mc.dataConsumerMap
  closeAll .consumer mc.consumerMap
  return { mc with
    micProducer := none
    producerMap := mc.producerMap.mapValues fun _ => none
    dataConsumerMap := ∅
    consumerMap := ∅
    sourceMap := mc.sourceMap.mapValues fun _ => false }

/-- The argument `pid` is not read. -/
def getRemoteAudioTracks (_pid : String) (mc : MediaController) : Except Fault Tracks :=
  mc.consumerMap.entries.foldlM
    (fun tracks e => do
      let consumer ← deref .consumer e.2
      if consumer.track.kind = .audio then return tracks.insert e.1 consumer.track
      return tracks)
    ∅

/-- The peer of each consumer is read with `operator[]`. -/
def getRemoteVideoTracks (pid : String) (mc : MediaController) :
    Except Fault (Tracks × MediaController) := do
  let (tracks, peers) ← mc.consumerMap.entries.foldlM
    (fun (tracks, peers) e => do
      let (peerId, peers) := HashMap.subscript "" peers e.1
      let consumer ← deref .consumer e.2
      if consumer.track.kind = .video ∧ peerId = pid then
        return (tracks.insert e.1 consumer.track, peers)
      return (tracks, peers))
    ((∅, mc.consumerIdToPeerId) : Tracks × HashMap String String)
  return (tracks, { mc with consumerIdToPeerId := peers })

/-- The loop of `isVideoMuted` and `isAudioMuted` over the remaining entries of the map of peers.
The consumer is read with `operator[]`; a paused flag that is off ends the loop. -/
def isMutedLoop (kind : MediaKind) (pid : String) (mc : MediaController) :
    List (Sigma fun _ : String => String) → Except Fault (Bool × MediaController)
  | [] => .ok (true, mc)
  | e :: rest =>
    if e.2 = pid then
      let (pointer, consumerMap) := mc.consumerMap.subscript none e.1
      do
        let consumer ← deref .consumer pointer
        if consumer.track.kind = kind ∧ consumer.paused = false then
          return (false, { mc with consumerMap })
        isMutedLoop kind pid { mc with consumerMap } rest
    else isMutedLoop kind pid mc rest

def isMuted (kind : MediaKind) (pid : String) (mc : MediaController) :
    Except Fault (Bool × MediaController) :=
  isMutedLoop kind pid mc mc.consumerIdToPeerId.entries

def isVideoMuted : String → MediaController → Except Fault (Bool × MediaController) :=
  isMuted .video

/-- The overload with a peer. -/
def isAudioMuted : String → MediaController → Except Fault (Bool × MediaController) :=
  isMuted .audio

end MediaController

namespace Media

def push (o : Outgoing) (m : Media) : Media := { m with outgoing := m.outgoing ++ [o] }

/-- `notifyObservers`: the handler runs at once, on the same thread. -/
def notify (handler : ParticipantController → Except Fault ParticipantController) (m : Media) :
    Except Fault Media :=
  match m.observer with
  | none => .ok m
  | some pc => do
    let pc ← handler pc
    return { m with observer := some pc }

def notifyAudioTrack
    (handler : Except Fault Tracks → ParticipantController → Except Fault ParticipantController)
    (pid : String) (m : Media) : Except Fault Media :=
  m.notify (handler (m.controller.getRemoteAudioTracks pid))

/-- The handler asks for the video tracks, which may add to the map of peers, only when it has a
participant to give them to. -/
def notifyVideoTrack
    (handler : Except Fault Tracks → ParticipantController → Except Fault ParticipantController)
    (pid : String) (m : Media) : Except Fault Media :=
  match m.observer with
  | none => .ok m
  | some pc => do
    let pc' ← handler ((m.controller.getRemoteVideoTracks pid).map Prod.fst) pc
    if !pid.isEmpty && (pc.participantMap.lookup pid).join.isSome then
      let (_, controller) ← m.controller.getRemoteVideoTracks pid
      return { m with controller, observer := some pc' }
    return { m with observer := some pc' }

/-- `onRemoteAudioStateChanged` or `onRemoteVideoStateChanged`, by the kind of the consumer. -/
def notifyState (kind : MediaKind) (pid : String) (muted : Bool) (m : Media) :
    Except Fault Media :=
  match kind with
  | .audio => m.notify (·.onRemoteAudioStateChanged pid muted)
  | .video => m.notify (·.onRemoteVideoStateChanged pid muted)

/-- `onCreateRemoteAudioTrack` or `onCreateRemoteVideoTrack`. -/
def notifyCreate (pid tid : String) (track : Track) (appData : NewConsumerRequest.AppData.Val)
    (m : Media) : Except Fault Media :=
  match track.kind with
  | .audio => m.notifyAudioTrack (ParticipantController.onCreateRemoteAudioTrack pid) pid
  | .video =>
    m.notifyVideoTrack
      (ParticipantController.onCreateRemoteVideoTrack pid tid (some track) appData) pid

/-- `onRemoveRemoteAudioTrack` or `onRemoveRemoteVideoTrack`, with a null track. -/
def notifyRemove (kind : MediaKind) (pid tid : String) (m : Media) : Except Fault Media :=
  match kind with
  | .audio => m.notifyAudioTrack (ParticipantController.onRemoveRemoteAudioTrack pid) pid
  | .video =>
    m.notifyVideoTrack (ParticipantController.onRemoveRemoteVideoTrack pid tid none) pid

/-- `produced` is what `SendTransport::Produce` returned. -/
def enableAudio (enabled : Bool) (produced : Option Producer) (m : Media) :
    Except Fault Media := do
  let mc := m.controller
  match mc.mediasoupDevice with
  | none => return m
  | some device =>
    if !device.canProduceAudio then return m
    if mc.sendTransport.isNone then return m
    if enabled then
      if mc.micProducer.isSome then return m
      let producer ← mayThrow produced
      return { m with controller := { mc with micProducer := some producer } }
    else
      match mc.micProducer with
      | none => return m
      | some producer =>
        return Media.push (.request (.closeProducer producer.id))
          { m with controller := { mc with micProducer := none } }

def muteAudio (muted : Bool) (m : Media) : Media :=
  match m.controller.micProducer with
  | none => m
  | some producer =>
    let request := if muted then .pauseProducer producer.id else .resumeProducer producer.id
    Media.push (.request request)
      { m with controller := { m.controller with
          micProducer := some { producer with paused := muted } } }

/-- Both maps are read with `operator[]` before anything is decided. -/
def enableVideo (enabled : Bool) (trackName : String) (produced : Option Producer) (m : Media) :
    Except Fault Media := do
  let mc := m.controller
  match mc.mediasoupDevice with
  | none => return m
  | some device =>
    if !device.canProduceVideo then return m
    if mc.sendTransport.isNone then return m
    let (producer, producerMap) := mc.producerMap.subscript none trackName
    let (source, sourceMap) := mc.sourceMap.subscript false trackName
    let mc := { mc with producerMap, sourceMap }
    if enabled then
      if producer.isSome then return { m with controller := mc }
      if source then return { m with controller := mc }
      let producer ← mayThrow produced
      return { m with controller := { mc with
        producerMap := mc.producerMap.insert trackName (some producer)
        sourceMap := mc.sourceMap.insert trackName true } }
    else
      let mc := { mc with sourceMap := mc.sourceMap.insert trackName false }
      match producer with
      | none => return { m with controller := mc }
      | some producer =>
        return Media.push (.request (.closeProducer producer.id)) { m with controller := { mc with
          producerMap := mc.producerMap.insert trackName none } }

/-- `consumed` is the track that `RecvTransport::Consume` returned. -/
def createNewConsumer (request : SfuRequest NewConsumerRequest.Data) (consumed : Option Track)
    (m : Media) : Except Fault Media := do
  if !m.controller.options.consume.getD false then return m
  if m.controller.recvTransport.isNone then return m
  let data ← engaged request.data
  let _ ← engaged data.rtpParameters
  let appData ← engaged data.appData
  let id ← engaged data.id
  let producerId ← engaged data.producerId
  let _ ← engaged data.kind
  let track ← mayThrow consumed
  let m := { m with controller := { m.controller with
    consumerMap := m.controller.consumerMap.insert id (some { id, producerId, track })
    consumerIdToPeerId := m.controller.consumerIdToPeerId.insert id (data.peerId.getD "") } }
  let producerPaused ← engaged data.producerPaused
  let peerId ← engaged data.peerId
  let m ← m.notifyCreate peerId id track appData
  let m ← m.notifyState track.kind peerId producerPaused
  return (m.push (.answer request.id)).push (.request (.setConsumerPreferredLayers id 1 1))

/-- `consumed` tells whether `RecvTransport::ConsumeData` returned. -/
def createNewDataConsumer (request : SfuRequest NewDataConsumerRequest.Data)
    (consumed : Option Unit) (m : Media) : Except Fault Media := do
  if !m.controller.options.consume.getD false then return m
  if !m.controller.options.datachannel.getD false then return m
  if m.controller.recvTransport.isNone then return m
  let data ← engaged request.data
  let _ ← engaged data.appData
  let id ← engaged data.id
  let dataProducerId ← engaged data.dataProducerId
  let sctpStreamParameters ← engaged data.sctpStreamParameters
  let _ ← engaged sctpStreamParameters.1
  let _ ← engaged data.label
  let _ ← engaged data.protocol
  mayThrow consumed
  let controller := { m.controller with
    dataConsumerMap := m.controller.dataConsumerMap.insert id (some { id, dataProducerId })
    consumerIdToPeerId := m.controller.consumerIdToPeerId.insert id (data.peerId.getD "") }
  return Media.push (.answer request.id) { m with controller }

/-- One round of the loop in `updateConsumer`. -/
def updateEntry (tid : String) (paused : Bool) (m : Media)
    (e : Sigma fun _ : String => Option Consumer) : Except Fault Media := do
  let consumer ← deref .consumer e.2
  if consumer.id ≠ tid then return m
  let (peerId, peers) := m.controller.consumerIdToPeerId.subscript "" consumer.id
  let m := { m with controller := { m.controller with
    consumerIdToPeerId := peers
    consumerMap := m.controller.consumerMap.insert e.1 (some { consumer with paused }) } }
  m.notifyState consumer.track.kind peerId paused

def updateConsumer (tid : String) (paused : Bool) (m : Media) : Except Fault Media :=
  m.controller.consumerMap.entries.foldlM (updateEntry tid paused) m

/-- `onConsumerPaused` and `onConsumerResumed`, with the task that they post. -/
def onConsumerPaused (paused : Bool) (notification : Notification ConsumerNotification.Data)
    (m : Media) : Except Fault Media := do
  let data ← engaged notification.data
  let tid := data.consumerId.getD ""
  if tid.isEmpty then return m
  m.updateConsumer tid paused

/-- One peer's consumers of a kind are paused or resumed: the loop of `muteVideo` and
`muteAudio` over the remaining entries of the map of peers. It ends at an id that is no
consumer's. -/
def muteLoop (kind : MediaKind) (pid : String) (muted : Bool) (m : Media) :
    List (Sigma fun _ : String => String) → Except Fault Media
  | [] => .ok m
  | e :: rest =>
    if e.2 = pid then
      match m.controller.consumerMap.lookup e.1 with
      | none => .ok m
      | some pointer => do
        let consumer ← deref .consumer pointer
        if consumer.track.kind = kind then
          let request :=
            if muted then .pauseConsumer consumer.id else .resumeConsumer consumer.id
          muteLoop kind pid muted (Media.push (.request request)
            { m with controller := { m.controller with
                consumerMap := m.controller.consumerMap.insert e.1
                  (some { consumer with paused := muted }) } }) rest
        else muteLoop kind pid muted m rest
    else muteLoop kind pid muted m rest

def mutePeer (kind : MediaKind) (pid : String) (muted : Bool) (m : Media) : Except Fault Media :=
  muteLoop kind pid muted m m.controller.consumerIdToPeerId.entries

def muteVideo : String → Bool → Media → Except Fault Media := mutePeer .video

/-- The overload of `muteAudio` with a peer. -/
def muteAudioOf : String → Bool → Media → Except Fault Media := mutePeer .audio

/-- The participants are told before the consumer leaves the maps. -/
def closeConsumer (consumer : Consumer) (m : Media) : Except Fault Media := do
  let (peerId, peers) := m.controller.consumerIdToPeerId.subscript "" consumer.id
  let m := { m with controller := { m.controller with consumerIdToPeerId := peers } }
  let m ← m.notifyState consumer.track.kind peerId true
  let m ← m.notifyRemove consumer.track.kind peerId consumer.id
  return { m with controller := { m.controller with
    consumerIdToPeerId := m.controller.consumerIdToPeerId.erase consumer.id
    consumerMap := m.controller.consumerMap.erase consumer.id } }

/-- The loop of `onConsumerClosed` over the remaining entries; it ends at the first match. -/
def onConsumerClosedLoop (notification : Notification ConsumerNotification.Data) (m : Media) :
    List (Sigma fun _ : String => Option Consumer) → Except Fault Media
  | [] => .ok m
  | e :: rest => do
    let consumer ← deref .consumer e.2
    let data ← engaged notification.data
    if consumer.id = data.consumerId.getD "" then m.closeConsumer consumer
    else onConsumerClosedLoop notification m rest

def onConsumerClosed (notification : Notification ConsumerNotification.Data) (m : Media) :
    Except Fault Media :=
  onConsumerClosedLoop notification m m.controller.consumerMap.entries

/-- Its body is empty. -/
def onDataConsumerClosed (_notification : Notification DataConsumerClosedNotification.Data)
    (m : Media) : Media := m

end Media
end MediasoupSdk
