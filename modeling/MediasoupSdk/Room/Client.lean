import MediasoupSdk.Media.Controller
import MediasoupSdk.Signaling.Reply

/-! `RoomClient` with the two threads it works on. A method that posts a task appends it to the
queue of the thread. -/
namespace MediasoupSdk
open Foundation Signaling

inductive RoomState where
  | closed
  | connecting
  | connected
  deriving DecidableEq, Repr

/-- The callbacks that wait for a response. Those of the media controller only log. -/
inductive Callback where
  | getRouterRtpCapabilities
  | createWebRtcTransport (producing consuming : Bool)
  | join
  | connectWebRtcTransport
  | produce
  | produceData
  | ignored
  deriving DecidableEq, Repr

/-- The tasks of the transport thread. A message carries its arrival number. -/
inductive TransportTask where
  | onOpened
  | onClosed
  | onFailed
  | onMessage (seq : ℕ) (json : String)
  | handleResponse (seq : ℕ) (json : String)

/-- The tasks of the mediasoup thread, with the number of the message that caused them. -/
inductive MediasoupTask where
  | getRouterRtpCapabilities
  | closed
  | loadMediasoupDevice (seq : ℕ)
      (response : Response GetRouterRtpCapabilitiesResponse.Data.Val)
  | createTransport (seq : ℕ) (producing consuming : Bool)
      (response : Response CreateWebRtcTransportResponse.Data)
  | joined (seq : ℕ) (state : RoomState) (response : Response JoinResponse.Data)
  | newConsumer (seq : ℕ) (request : SfuRequest NewConsumerRequest.Data)
  | newDataConsumer (seq : ℕ) (request : SfuRequest NewDataConsumerRequest.Data)
  | updateConsumer (seq : ℕ) (tid : String) (paused : Bool)
  | consumerClosed (seq : ℕ) (notification : Notification ConsumerNotification.Data)

/-- The message whose effect a task carries. -/
def MediasoupTask.seq? : MediasoupTask → Option ℕ
  | .getRouterRtpCapabilities => none
  | .closed => none
  | .loadMediasoupDevice seq _ => some seq
  | .createTransport seq _ _ _ => some seq
  | .joined seq _ _ => some seq
  | .newConsumer seq _ => some seq
  | .newDataConsumer seq _ => some seq
  | .updateConsumer seq _ _ => some seq
  | .consumerClosed seq _ => some seq

/-- The objects whose creation is recorded. -/
inductive Component where
  | device
  | sendTransport
  | recvTransport
  deriving DecidableEq, Repr

/-- What the world answers during one step: random ids, the endpoint, the media library. -/
structure Oracle where
  requestId : ℕ → RequestId
  peerId : String
  connectionId : ℤ
  load : Option Device
  transportCreated : Option Unit
  produced : Option Producer
  consumed : Option Track
  dataConsumed : Option Unit

/-- The members of the client, the queues of its threads, and what has been observed: the
states reported to the application, the objects created, the `ok` members of the join
responses that were delivered, the messages received and the effects they had. -/
structure RoomClient where
  hostname : String := ""
  port : Option ℕ := none
  roomId : String := ""
  peerId : String := ""
  displayName : String := ""
  options : Options := {}
  state : RoomState := .closed
  volume : ℤ := 0
  signalingClient : Option (SignalingClient Callback) := none
  hasApi : Bool := false
  hasPeerConnectionOptions : Bool := false
  mediasoupDevice : Option Device := none
  sendTransport : Option Transport := none
  recvTransport : Option Transport := none
  mediaController : Option MediaController := none
  participantController : Option ParticipantController := none
  transportTasks : List TransportTask := []
  mediasoupTasks : List MediasoupTask := []
  notified : List RoomState := []
  created : List Component := []
  joinReplies : List (Option Bool) := []
  arrived : ℕ := 0
  applied : List ℕ := []

namespace RoomClient

def postTransport (t : TransportTask) (c : RoomClient) : RoomClient :=
  { c with transportTasks := c.transportTasks ++ [t] }

def postMediasoup (t : MediasoupTask) (c : RoomClient) : RoomClient :=
  { c with mediasoupTasks := c.mediasoupTasks ++ [t] }

/-- Record an effect of a message. -/
def apply (seq : ℕ) (c : RoomClient) : RoomClient := { c with applied := c.applied ++ [seq] }

/-- `init`; the media controller shares the options of the constructor. -/
def init (c : RoomClient) : RoomClient :=
  { c with
    hasPeerConnectionOptions := true
    signalingClient := some (c.signalingClient.getD ⟨{}, ∅⟩)
    hasApi := true
    mediaController := some (c.mediaController.getD { options := c.options })
    participantController := some (c.participantController.getD {}) }

/-- Its body is commented out. -/
def createComponents (c : RoomClient) : RoomClient := c

def destroyComponents (c : RoomClient) : Except Fault RoomClient := do
  match c.mediaController with
  | none =>
    return { c with
      participantController := none, mediasoupDevice := none
      recvTransport := none, sendTransport := none }
  | some mc =>
    let _ ← mc.destroy
    return { c with
      participantController := none, mediasoupDevice := none
      recvTransport := none, sendTransport := none, mediaController := none }

def onRoomStateChanged (state : RoomState) (c : RoomClient) : Except Fault RoomClient := do
  let c ← match state with
    | .connected => .ok c.createComponents
    | .closed => c.destroyComponents
    | .connecting => .ok c
  return { c with notified := c.notified ++ [state] }

def destroy (c : RoomClient) : Except Fault RoomClient :=
  { c with hasApi := false, signalingClient := none }.destroyComponents

def join (hostname : String) (port : ℕ) (roomId displayName : String) (options : Option Options)
    (o : Oracle) (c : RoomClient) : Except Fault RoomClient :=
  if c.state ≠ .closed then .ok c
  else if hostname.isEmpty then .ok c
  else
    let c := { c with hostname, port := some port }
    if roomId.isEmpty then .ok c
    else
      let c := { c with roomId }
      if displayName.isEmpty then .ok c
      else
        let c := { c with displayName, options := options.getD {}, peerId := o.peerId }
        match c.signalingClient with
        | none => .ok c
        | some sc =>
          let sc := sc.disconnect.connect o.connectionId
          onRoomStateChanged .connecting
            { c with signalingClient := some sc, state := .connecting }

def leave (c : RoomClient) : Except Fault RoomClient :=
  let c := { c with roomId := "" }
  if c.state = .closed then .ok c
  else
    match c.signalingClient with
    | none => .ok c
    | some sc =>
      onRoomStateChanged .closed
        { c with signalingClient := some sc.disconnect, state := .closed }

/-- Send what the media controller handed to the API; the `n`-th request draws its own id. -/
def sendOutgoing (J : JsonText) (o : Oracle) :
    ℕ → List Outgoing → Option (SignalingClient Callback) →
      Except Fault (Option (SignalingClient Callback))
  | _, [], sc => .ok sc
  | n, .request r :: rest, sc => do
    let id := o.requestId n
    let (sc, _) ← MediasoupApi.send (J.request id r) id .ignored sc
    sendOutgoing J o (n + 1) rest sc
  | n, .answer id :: rest, sc => do
    let sc ← MediasoupApi.response (J.answer id) id sc
    sendOutgoing J o n rest sc

/-- Run an operation of a media controller, with the participant controller as its observer. -/
def withMedia (J : JsonText) (o : Oracle) (op : Media → Except Fault Media)
    (mc : MediaController) (c : RoomClient) : Except Fault RoomClient := do
  let m ← op { controller := mc, observer := c.participantController }
  let sc ← sendOutgoing J o 0 m.outgoing c.signalingClient
  return { c with
    mediaController := some m.controller
    participantController := m.observer
    signalingClient := sc }

def enableAudio (J : JsonText) (enabled : Bool) (o : Oracle) (c : RoomClient) :
    Except Fault RoomClient := do
  let mc ← deref .mediaController c.mediaController
  c.withMedia J o (Media.enableAudio enabled o.produced) mc

def muteAudio (J : JsonText) (muted : Bool) (o : Oracle) (c : RoomClient) :
    Except Fault RoomClient := do
  let mc ← deref .mediaController c.mediaController
  c.withMedia J o (fun m => .ok (m.muteAudio muted)) mc

def enableVideo (J : JsonText) (enabled : Bool) (trackName : String) (o : Oracle)
    (c : RoomClient) : Except Fault RoomClient := do
  let mc ← deref .mediaController c.mediaController
  c.withMedia J o (Media.enableVideo enabled trackName o.produced) mc

def request (J : JsonText) (o : Oracle) (r : ApiRequest) (callback : Callback) (c : RoomClient) :
    Except Fault RoomClient := do
  let id := o.requestId 0
  let (sc, _) ← MediasoupApi.send (J.request id r) id callback c.signalingClient
  return { c with signalingClient := sc }

def getRouterRtpCapabilities (J : JsonText) (o : Oracle) (c : RoomClient) :
    Except Fault RoomClient :=
  if !c.hasApi then .ok c
  else c.request J o .getRouterRtpCapabilities .getRouterRtpCapabilities

/-- The capabilities of the device as the request needs them: nothing is sent when they are
empty or do not decode. -/
def readCapabilities (J : JsonText) (fields : Fields) (json : String) : Option fields.Val :=
  if json.isEmpty then none
  else (fromJsonString J.rapidjson fields (Fields.fresh _) json).toOption

def requestCreateTransport (J : JsonText) (forceTcp producing consuming : Bool) (o : Oracle)
    (c : RoomClient) : Except Fault RoomClient :=
  if !c.hasApi then .ok c
  else if c.options.datachannel.getD false then do
    let device ← deref .mediasoupDevice c.mediasoupDevice
    match readCapabilities J CreateWebRtcTransportRequest.SCTPCapabilities
      device.sctpCapabilities with
    | none => return c
    | some caps =>
      c.request J o (.createWebRtcTransport consuming producing forceTcp (some caps))
        (.createWebRtcTransport producing consuming)
  else
    c.request J o (.createWebRtcTransport consuming producing forceTcp none)
      (.createWebRtcTransport producing consuming)

def createSendTransport (J : JsonText) : Oracle → RoomClient → Except Fault RoomClient :=
  requestCreateTransport J false true false

def createRecvTransport (J : JsonText) : Oracle → RoomClient → Except Fault RoomClient :=
  requestCreateTransport J false false true

/-- The part of `joinImpl` that reads the SCTP capabilities and sends the request. -/
def joinWith (J : JsonText) (rtp : Option JoinRequest.RTPCapabilities.Val) (o : Oracle)
    (c : RoomClient) : Except Fault RoomClient :=
  if c.options.datachannel.getD false then do
    let device ← deref .mediasoupDevice c.mediasoupDevice
    match readCapabilities J JoinRequest.SCTPCapabilities device.sctpCapabilities with
    | none => return c
    | some sctp => c.request J o (.join c.displayName rtp (some sctp)) .join
  else c.request J o (.join c.displayName rtp none) .join

def joinImpl (J : JsonText) (o : Oracle) (c : RoomClient) : Except Fault RoomClient :=
  if !c.hasApi then .ok c
  else if c.options.consume.getD false then do
    let device ← deref .mediasoupDevice c.mediasoupDevice
    match readCapabilities J JoinRequest.RTPCapabilities device.rtpCapabilities with
    | none => return c
    | some rtp => c.joinWith J (some rtp) o
  else c.joinWith J none o

/-- What `Load` leaves: it throws on a device that is loaded already. -/
def loadDevice (o : Oracle) (c : RoomClient) : Option Device :=
  if c.mediasoupDevice.isSome then none else o.load

def onLoadMediasoupDevice (J : JsonText)
    (response : Response GetRouterRtpCapabilitiesResponse.Data.Val) (o : Oracle)
    (c : RoomClient) : Except Fault RoomClient := do
  let _ ← engaged response.data
  let device ← mayThrow (c.loadDevice o)
  let c := { c with mediasoupDevice := some device, created := c.created ++ [Component.device] }
  let mc ← deref .mediaController c.mediaController
  let c := { c with mediaController := some { mc with mediasoupDevice := some device } }
  if c.options.produce.getD false then c.createSendTransport J o
  else if c.options.consume.getD false then c.createRecvTransport J o
  else c.joinImpl J o

/-- Without a device it only returns early when the connection options exist. -/
def createTransportImpl (producing consuming : Bool)
    (response : Response CreateWebRtcTransportResponse.Data) (o : Oracle) (c : RoomClient) :
    Except Fault RoomClient := do
  if c.mediasoupDevice.isNone && c.hasPeerConnectionOptions then return c
  let data ← engaged response.data
  let _ ← engaged data.iceParameters
  let _ ← engaged data.iceCandidates
  let _ ← engaged data.dtlsParameters
  let _ ← engaged data.sctpParameters
  let transport : Transport := ⟨data.id.getD ""⟩
  if producing then
    let _ ← deref .mediasoupDevice c.mediasoupDevice
    mayThrow o.transportCreated
    let mc ← deref .mediaController c.mediaController
    return { c with
      sendTransport := some transport
      mediaController := some { mc with sendTransport := some transport }
      created := c.created ++ [.sendTransport] }
  else if consuming then
    let _ ← deref .mediasoupDevice c.mediasoupDevice
    mayThrow o.transportCreated
    let mc ← deref .mediaController c.mediaController
    return { c with
      recvTransport := some transport
      mediaController := some { mc with recvTransport := some transport }
      created := c.created ++ [.recvTransport] }
  else return c

def onCreateSendTransport (J : JsonText)
    (response : Response CreateWebRtcTransportResponse.Data) (o : Oracle) (c : RoomClient) :
    Except Fault RoomClient := do
  let c ← c.createTransportImpl true false response o
  if c.options.consume.getD false then c.createRecvTransport J o else c.joinImpl J o

def onCreateRecvTransport (J : JsonText)
    (response : Response CreateWebRtcTransportResponse.Data) (o : Oracle) (c : RoomClient) :
    Except Fault RoomClient := do
  let c ← c.createTransportImpl false true response o
  c.joinImpl J o

/-- The task that the join callback posts. -/
def onJoined (state : RoomState) (response : Response JoinResponse.Data) (c : RoomClient) :
    Except Fault RoomClient := do
  let c ← c.onRoomStateChanged state
  match c.participantController with
  | none => return c
  | some pc =>
    let data ← engaged response.data
    let pc := (data.peers.getD []).foldl
      (fun pc peer => pc.createParticipant (peer.id.getD "") (peer.displayName.getD "")) pc
    return { c with participantController := some pc }

end RoomClient
end MediasoupSdk
