import MediasoupSdk.Foundation.Execution
import MediasoupSdk.Room.Client

/-! The client as a system: calls of the application, events of the socket and of the media
library, and the tasks of the transport thread and of the mediasoup thread, one at a time. -/
namespace MediasoupSdk
open Foundation Signaling
namespace RoomClient

variable (J : JsonText)

/-- The guards that the callbacks begin with. `!response->ok` asks whether the member is
there. -/
def accepted {D : Type} (reply : MediasoupApi.Reply (Response D)) : Option (Response D) :=
  if reply.errorCode ≠ 0 then none else reply.response.filter fun r => r.ok.isSome

def onRouterRtpCapabilitiesReply (seq : ℕ)
    (reply : MediasoupApi.Reply (Response GetRouterRtpCapabilitiesResponse.Data.Val))
    (c : RoomClient) : RoomClient :=
  match accepted reply with
  | none => c
  | some response => c.postMediasoup (.loadMediasoupDevice seq response)

def onCreateWebRtcTransportReply (seq : ℕ) (producing consuming : Bool)
    (reply : MediasoupApi.Reply (Response CreateWebRtcTransportResponse.Data))
    (c : RoomClient) : RoomClient :=
  match accepted reply with
  | none => c
  | some response => c.postMediasoup (.createTransport seq producing consuming response)

def onJoinReply (seq : ℕ) (reply : MediasoupApi.Reply (Response JoinResponse.Data))
    (c : RoomClient) : RoomClient :=
  let c := { c with joinReplies := c.joinReplies ++ reply.response.toList.map Response.ok }
  match accepted reply with
  | none => c
  | some response => { c with state := .connected }.postMediasoup (.joined seq .connected response)

/-- One call of a stored callback, on the transport thread. -/
def invoke (seq : ℕ) (call : Invocation Callback) (c : RoomClient) : Except Fault RoomClient :=
  let callback := match call with
    | .resolved callback _ => callback
    | .rejected callback _ _ => callback
  match callback with
  | .getRouterRtpCapabilities =>
    .ok ((MediasoupApi.replies (decodeGetRouterRtpCapabilitiesResponse J.rapidjson) call).foldl
      (fun c reply => c.onRouterRtpCapabilitiesReply seq reply) c)
  | .createWebRtcTransport producing consuming =>
    .ok ((MediasoupApi.replies (decodeCreateWebRtcTransportResponse J.rapidjson) call).foldl
      (fun c reply => c.onCreateWebRtcTransportReply seq producing consuming reply) c)
  | .join =>
    .ok ((MediasoupApi.replies (decodeJoinResponse J.rapidjson) call).foldl
      (fun c reply => c.onJoinReply seq reply) c)
  | .connectWebRtcTransport => do
    (MediasoupApi.replies (decodeBasicResponse J.rapidjson) call).forM
      (MediasoupApi.onConnectReply true)
    return c
  | .produce => do
    (MediasoupApi.replies (decodeProduceResponse J.rapidjson) call).forM fun reply => do
      let _ ← MediasoupApi.onProduceReply true reply
    return c
  | .produceData => do
    (MediasoupApi.replies (decodeProduceResponse J.rapidjson) call).forM fun reply => do
      let _ ← MediasoupApi.onProduceReply true reply
    return c
  | .ignored => .ok c

/-- The participant controller observes the signaling client while it lives. -/
def notifyParticipants (seq : ℕ)
    (handler : ParticipantController → Except Fault ParticipantController) (c : RoomClient) :
    Except Fault RoomClient :=
  match c.participantController with
  | none => .ok c
  | some pc => do
    let pc ← handler pc
    return { c with participantController := some pc }.apply seq

def onActiveSpeaker (seq : ℕ) (notification : Notification ActiveSpeakerNotification.Data)
    (c : RoomClient) : Except Fault RoomClient := do
  let data ← engaged notification.data
  if c.peerId ≠ data.peerId.getD "" then return c
  return { c with volume := (data.volume.map Subtype.val).getD 0 }.apply seq

/-- `onConsumerPaused` and `onConsumerResumed` of the media controller. -/
def onConsumerPaused (seq : ℕ) (paused : Bool)
    (notification : Notification ConsumerNotification.Data) (c : RoomClient) :
    Except Fault RoomClient :=
  if c.mediaController.isNone then .ok c
  else do
    let data ← engaged notification.data
    let tid := data.consumerId.getD ""
    if tid.isEmpty then return c
    return c.postMediasoup (.updateConsumer seq tid paused)

/-- Decode for the observers; what does not decode is dropped. -/
def decoded {α : Type} (value : Except JsonError α) (handler : α → Except Fault RoomClient)
    (c : RoomClient) : Except Fault RoomClient :=
  match value with
  | .error _ => .ok c
  | .ok a => handler a

/-- The notifications whose handlers do something; the handlers of the others are empty. -/
inductive NotificationMethod where
  | newPeer
  | peerClosed
  | peerDisplayNameChanged
  | consumerClosed
  | consumerPaused
  | consumerResumed
  | activeSpeaker
  deriving DecidableEq, Repr

def notificationMethod (json : String) : Option NotificationMethod :=
  if json.isEmpty then none
  else
    match fromJsonString J.rapidjson NotificationHeader (Fields.fresh _) json with
    | .error _ => none
    | .ok (_, method, ()) =>
      match method.getD "" with
      | "newPeer" => some .newPeer
      | "peerClosed" => some .peerClosed
      | "peerDisplayNameChanged" => some .peerDisplayNameChanged
      | "consumerClosed" => some .consumerClosed
      | "consumerPaused" => some .consumerPaused
      | "consumerResumed" => some .consumerResumed
      | "activeSpeaker" => some .activeSpeaker
      | _ => none

def handleNotification (seq : ℕ) (json : String) (c : RoomClient) : Except Fault RoomClient :=
  let R := J.rapidjson
  match notificationMethod J json with
  | none => .ok c
  | some .newPeer =>
    c.decoded (decodeNotification R json NewPeerNotification.DataFields
      NewPeerNotification.Data.ofVal) fun n => c.notifyParticipants seq (·.onNewPeer n)
  | some .peerClosed =>
    c.decoded (decodeNotification R json PeerClosedNotification.DataFields
      PeerClosedNotification.Data.ofVal) fun n => c.notifyParticipants seq (·.onPeerClosed n)
  | some .peerDisplayNameChanged =>
    c.decoded (decodeNotification R json PeerDisplayNameChangedNotification.DataFields
      PeerDisplayNameChangedNotification.Data.ofVal) fun n =>
        c.notifyParticipants seq (·.onPeerDisplayNameChanged n)
  | some .consumerClosed =>
    c.decoded (decodeNotification R json ConsumerNotification.DataFields
      ConsumerNotification.Data.ofVal) fun n =>
        if c.mediaController.isNone then .ok c
        else .ok (c.postMediasoup (.consumerClosed seq n))
  | some .consumerPaused =>
    c.decoded (decodeNotification R json ConsumerNotification.DataFields
      ConsumerNotification.Data.ofVal) (c.onConsumerPaused seq true)
  | some .consumerResumed =>
    c.decoded (decodeNotification R json ConsumerNotification.DataFields
      ConsumerNotification.Data.ofVal) (c.onConsumerPaused seq false)
  | some .activeSpeaker =>
    c.decoded (decodeNotification R json ActiveSpeakerNotification.DataFields
      ActiveSpeakerNotification.Data.ofVal) fun n => do
        let c ← c.onActiveSpeaker seq n
        c.notifyParticipants seq (·.onActiveSpeaker n)

inductive RequestMethod where
  | newConsumer
  | newDataConsumer
  deriving DecidableEq, Repr

def requestMethod (json : String) : Option RequestMethod :=
  if json.isEmpty then none
  else
    match fromJsonString J.rapidjson RequestHeader (Fields.fresh _) json with
    | .error _ => none
    | .ok (_, _, method, ()) =>
      match method.getD "" with
      | "newConsumer" => some .newConsumer
      | "newDataConsumer" => some .newDataConsumer
      | _ => none

/-- Only the media controller handles requests; it posts them to the mediasoup thread. -/
def handleRequest (seq : ℕ) (json : String) (c : RoomClient) : Except Fault RoomClient :=
  if c.mediaController.isNone then .ok c
  else
    match requestMethod J json with
    | none => .ok c
    | some .newConsumer =>
      c.decoded (decodeRequest J.rapidjson json NewConsumerRequest.DataFields
        NewConsumerRequest.Data.ofVal) fun r => .ok (c.postMediasoup (.newConsumer seq r))
    | some .newDataConsumer =>
      c.decoded (decodeRequest J.rapidjson json NewDataConsumerRequest.DataFields
        NewDataConsumerRequest.Data.ofVal) fun r => .ok (c.postMediasoup (.newDataConsumer seq r))

def onMessage (seq : ℕ) (json : String) (c : RoomClient) : Except Fault RoomClient :=
  match SignalingClient.messageKind J.rapidjson json with
  | none => .ok c
  | some .notification => c.handleNotification J seq json
  | some .response => .ok (c.postTransport (.handleResponse seq json))
  | some .request => c.handleRequest J seq json

/-- The posted part of `handleResponse`; a call of a callback is an effect of the message. -/
def handleResponse (seq : ℕ) (json : String) (sc : SignalingClient Callback) (c : RoomClient) :
    Except Fault RoomClient :=
  let (sc, calls) := sc.handleResponse J.rapidjson json
  calls.foldlM (fun c call => invoke J seq call (c.apply seq)) { c with signalingClient := some sc }

/-- A task that finds its signaling client gone does nothing. -/
def runTransport (t : TransportTask) (c : RoomClient) : Except Fault RoomClient :=
  match c.signalingClient with
  | none => .ok c
  | some sc =>
    match t with
    | .onOpened => .ok (c.postMediasoup .getRouterRtpCapabilities)
    | .onFailed => .ok (c.postMediasoup .closed)
    | .onClosed => do
      let (sc, calls) := sc.onClosed
      let c ← calls.foldlM (fun c call => invoke J 0 call c) { c with signalingClient := some sc }
      return c.postMediasoup .closed
    | .onMessage seq json => c.onMessage J seq json
    | .handleResponse seq json => c.handleResponse J seq json sc

/-- A task of the media controller does nothing once the controller is gone. -/
def runMedia (seq : ℕ) (op : Media → Except Fault Media) (o : Oracle) (c : RoomClient) :
    Except Fault RoomClient :=
  match c.mediaController with
  | none => .ok c
  | some mc => do
    let c ← c.withMedia J o op mc
    return c.apply seq

def runMediasoup (t : MediasoupTask) (o : Oracle) (c : RoomClient) : Except Fault RoomClient :=
  match t with
  | .getRouterRtpCapabilities => c.getRouterRtpCapabilities J o
  | .closed => onRoomStateChanged .closed { c with state := .closed }
  | .loadMediasoupDevice seq response => (c.apply seq).onLoadMediasoupDevice J response o
  | .createTransport seq producing consuming response =>
    if producing then (c.apply seq).onCreateSendTransport J response o
    else if consuming then (c.apply seq).onCreateRecvTransport J response o
    else .ok c
  | .joined seq state response => (c.apply seq).onJoined state response
  | .newConsumer seq request => c.runMedia J seq (Media.createNewConsumer request o.consumed) o
  | .newDataConsumer seq request =>
    c.runMedia J seq (Media.createNewDataConsumer request o.dataConsumed) o
  | .updateConsumer seq tid paused => c.runMedia J seq (Media.updateConsumer tid paused) o
  | .consumerClosed seq notification => c.runMedia J seq (Media.onConsumerClosed notification) o

/-- The transports call back on threads of their own; the parameters come as texts. -/
inductive ListenerCall where
  | onConnect (transportId dtlsParameters : String)
  | onProduce (transportId kind rtpParameters : String) (trackName : Option String)
  | onProduceData (transportId sctpStreamParameters label protocol : String)

/-- The listener up to the point where it waits for the promise. -/
def listen (l : ListenerCall) (o : Oracle) (c : RoomClient) : Except Fault RoomClient :=
  if !c.hasApi then .ok c
  else
    match l with
    | .onConnect transportId dtlsParameters =>
      match readCapabilities J ConnectWebRtcTransportRequest.DTLSParameters dtlsParameters with
      | none => .ok c
      | some dtls =>
        c.request J o (.connectWebRtcTransport transportId dtls) .connectWebRtcTransport
    | .onProduce transportId kind rtpParameters trackName =>
      match readCapabilities J ProduceRequest.RTPParameters rtpParameters with
      | none => .ok c
      | some rtp => c.request J o (.produce transportId kind rtp trackName) .produce
    | .onProduceData transportId sctpStreamParameters label protocol =>
      match readCapabilities J ProduceDataRequest.SCTPStreamParameters sctpStreamParameters with
      | none => .ok c
      | some sctp =>
        c.request J o (.produceData transportId label protocol sctp) .produceData

/-- The calls of the application, which a proxy runs on the mediasoup thread. -/
inductive ApiCall where
  | join (hostname : String) (port : ℕ) (roomId displayName : String) (options : Option Options)
  | leave
  | enableAudio (enabled : Bool)
  | muteAudio (muted : Bool)
  | enableVideo (enabled : Bool) (trackName : String)
  | destroy

/-- A call that uses the media controller. -/
def ApiCall.IsMedia : ApiCall → Prop
  | .enableAudio _ => True
  | .muteAudio _ => True
  | .enableVideo _ _ => True
  | _ => False

inductive SocketEvent where
  | opened
  | closed
  | failed
  | message (json : String)

inductive Action where
  | call (a : ApiCall) (o : Oracle)
  | socket (e : SocketEvent)
  | listener (l : ListenerCall) (o : Oracle)
  | transport
  | mediasoup (o : Oracle)

def call (a : ApiCall) (o : Oracle) (c : RoomClient) : Except Fault RoomClient :=
  match a with
  | .join hostname port roomId displayName options =>
    c.join hostname port roomId displayName options o
  | .leave => c.leave
  | .enableAudio enabled => c.enableAudio J enabled o
  | .muteAudio muted => c.muteAudio J muted o
  | .enableVideo enabled trackName => c.enableVideo J enabled trackName o
  | .destroy => c.destroy

/-- The websocket transport posts what the socket reports to the transport thread. -/
def onSocket (e : SocketEvent) (c : RoomClient) : RoomClient :=
  match e with
  | .opened => c.postTransport .onOpened
  | .closed => c.postTransport .onClosed
  | .failed => c.postTransport .onFailed
  | .message json => { c with arrived := c.arrived + 1 }.postTransport (.onMessage c.arrived json)

def step (c : RoomClient) : Action → Except Fault RoomClient
  | .call a o => c.call J a o
  | .socket e => .ok (c.onSocket e)
  | .listener l o => c.listen J l o
  | .transport =>
    match c.transportTasks with
    | [] => .ok c
    | t :: rest => { c with transportTasks := rest }.runTransport J t
  | .mediasoup o =>
    match c.mediasoupTasks with
    | [] => .ok c
    | t :: rest => { c with mediasoupTasks := rest }.runMediasoup J t o

/-- The client as `init` leaves it. -/
def initial : RoomClient := ({} : RoomClient).init

def capabilitiesText : String :=
  "\x7b\"response\":true,\"id\":1,\"ok\":true,\"data\":\x7b\x7d\x7d"

def joinedText : String :=
  "\x7b\"response\":true,\"id\":2,\"ok\":true,\"data\":\x7b\"peers\":[]\x7d\x7d"

def rejectedText : String := "\x7b\"response\":true,\"id\":2,\"ok\":false\x7d"

/-- The texts of the session, with what rapidjson reads from them. -/
def sessionDocuments : List (String × Json) :=
  [(capabilitiesText, .object [("response", .bool true), ("id", .int 1), ("ok", .bool true),
      ("data", .object [])]),
    (joinedText, .object [("response", .bool true), ("id", .int 2), ("ok", .bool true),
      ("data", .object [("peers", .array [])])]),
    (rejectedText, .object [("response", .bool true), ("id", .int 2), ("ok", .bool false)])]

def sessionRequest : ApiRequest → String
  | .getRouterRtpCapabilities =>
    "\x7b\"request\":true,\"id\":1,\"method\":\"getRouterRtpCapabilities\"\x7d"
  | _ => "\x7b\"request\":true,\"id\":2,\"method\":\"join\"\x7d"

def sessionJson : JsonText where
  rapidjson := ⟨fun text => sessionDocuments.lookup text⟩
  request _ r := sessionRequest r
  answer _ := "\x7b\"response\":true,\"ok\":true\x7d"

/-- A world that draws the given request id and loads a device without capabilities. -/
def sessionOracle (id : RequestId) : Oracle where
  requestId _ := id
  peerId := "abcdefgh"
  connectionId := 0
  load := some ⟨"null", "null", false, false⟩
  transportCreated := some ()
  produced := none
  consumed := none
  dataConsumed := none

def firstRequest : Oracle := sessionOracle ⟨1, by decide⟩

def secondRequest : Oracle := sessionOracle ⟨2, by decide⟩

def sessionJoin : Action :=
  .call (.join "sfu" 4443 "room" "alice"
    (some { produce := some false, consume := some false, datachannel := some false }))
    firstRequest

/-- The negotiation up to the point where the join request waits for its response. -/
def negotiation : List Action :=
  [sessionJoin, .socket .opened, .transport, .mediasoup firstRequest,
    .socket (.message capabilitiesText), .transport, .transport, .mediasoup secondRequest]

/-- The response to a request for a transport. -/
def transportDocument (id : ℤ) (transport : String) : Json :=
  .object [("response", .bool true), ("id", .int id), ("ok", .bool true),
    ("data", .object [("id", .string transport), ("iceParameters", .object []),
      ("iceCandidates", .array []), ("dtlsParameters", .object []),
      ("sctpParameters", .object [])])]

def sendTransportText : String := String.join
  ["\x7b\"response\":true,\"id\":2,", "\"ok\":true,", "\"data\":\x7b\"id\":\"s\",",
    "\"iceParameters\":\x7b\x7d,", "\"iceCandidates\":[],", "\"dtlsParameters\":\x7b\x7d,",
    "\"sctpParameters\":\x7b\x7d\x7d\x7d"]

def recvTransportText : String := String.join
  ["\x7b\"response\":true,\"id\":3,", "\"ok\":true,", "\"data\":\x7b\"id\":\"r\",",
    "\"iceParameters\":\x7b\x7d,", "\"iceCandidates\":[],", "\"dtlsParameters\":\x7b\x7d,",
    "\"sctpParameters\":\x7b\x7d\x7d\x7d"]

def peersText : String := String.join
  ["\x7b\"response\":true,\"id\":4,", "\"ok\":true,", "\"data\":\x7b\"peers\":[",
    "\x7b\"id\":\"bob\",", "\"displayName\":\"Bob\"\x7d]\x7d\x7d"]

def consumerText : String := String.join
  ["\x7b\"request\":true,\"id\":7,", "\"method\":\"newConsumer\",", "\"data\":\x7b\"id\":\"c\",",
    "\"peerId\":\"bob\",", "\"kind\":\"video\",", "\"producerId\":\"p\",",
    "\"producerPaused\":false,", "\"rtpParameters\":\x7b\x7d,",
    "\"appData\":\x7b\"peerId\":\"bob\"\x7d\x7d\x7d"]

def dataConsumerText : String := String.join
  ["\x7b\"request\":true,\"id\":8,", "\"method\":\"newDataConsumer\",",
    "\"data\":\x7b\"id\":\"d\",", "\"peerId\":\"bob\",", "\"dataProducerId\":\"q\",",
    "\"sctpStreamParameters\":", "\x7b\"streamId\":1\x7d,", "\"label\":\"chat\",",
    "\"protocol\":\"\",", "\"appData\":\x7b\x7d\x7d\x7d"]

/-- The capabilities of a device that supports nothing in particular. -/
def emptyText : String := "\x7b\x7d"

/-- The texts of a session that sends and receives, with what rapidjson reads from them. -/
def mediaDocuments : List (String × Json) :=
  [(capabilitiesText, .object [("response", .bool true), ("id", .int 1), ("ok", .bool true),
      ("data", .object [])]),
    (sendTransportText, transportDocument 2 "s"), (recvTransportText, transportDocument 3 "r"),
    (peersText, .object [("response", .bool true), ("id", .int 4), ("ok", .bool true),
      ("data", .object [("peers", .array [.object [("id", .string "bob"),
        ("displayName", .string "Bob")]])])]),
    (consumerText, .object [("request", .bool true), ("id", .int 7),
      ("method", .string "newConsumer"), ("data", .object [("id", .string "c"),
        ("peerId", .string "bob"), ("kind", .string "video"), ("producerId", .string "p"),
        ("producerPaused", .bool false), ("rtpParameters", .object []),
        ("appData", .object [("peerId", .string "bob")])])]),
    (dataConsumerText, .object [("request", .bool true), ("id", .int 8),
      ("method", .string "newDataConsumer"), ("data", .object [("id", .string "d"),
        ("peerId", .string "bob"), ("dataProducerId", .string "q"),
        ("sctpStreamParameters", .object [("streamId", .int 1)]), ("label", .string "chat"),
        ("protocol", .string ""), ("appData", .object [])])]),
    (emptyText, .object [])]

def mediaRequest : ApiRequest → String
  | .getRouterRtpCapabilities =>
    "\x7b\"request\":true,\"id\":1,\"method\":\"getRouterRtpCapabilities\"\x7d"
  | .createWebRtcTransport _ producing _ _ =>
    if producing then "\x7b\"request\":true,\"id\":2,\"method\":\"createWebRtcTransport\"\x7d"
    else "\x7b\"request\":true,\"id\":3,\"method\":\"createWebRtcTransport\"\x7d"
  | .join _ _ _ => "\x7b\"request\":true,\"id\":4,\"method\":\"join\"\x7d"
  | _ => "\x7b\"request\":true,\"id\":5,\"method\":\"setConsumerPreferredLayers\"\x7d"

def mediaJson : JsonText where
  rapidjson := ⟨fun text => mediaDocuments.lookup text⟩
  request _ r := mediaRequest r
  answer _ := "\x7b\"response\":true,\"ok\":true\x7d"

/-- A world that draws the given request id, loads a device that can produce audio and video, and
creates what it is asked for. -/
def mediaOracle (id : RequestId) : Oracle where
  requestId _ := id
  peerId := "abcdefgh"
  connectionId := 0
  load := some ⟨emptyText, emptyText, true, true⟩
  transportCreated := some ()
  produced := some { id := "p" }
  consumed := some ⟨2, .video⟩
  dataConsumed := some ()

def firstMedia : Oracle := mediaOracle ⟨1, by decide⟩

def mediaOptions : Options :=
  { produce := some true, consume := some true, datachannel := some true }

def mediaJoin : Action :=
  .call (.join "sfu" 4443 "room" "alice" (some mediaOptions)) firstMedia

/-- From the open socket to the report that the client is connected, with both transports. -/
def mediaNegotiation : List Action :=
  [.socket .opened, .transport, .mediasoup firstMedia,
    .socket (.message capabilitiesText), .transport, .transport,
    .mediasoup (mediaOracle ⟨2, by decide⟩),
    .socket (.message sendTransportText), .transport, .transport,
    .mediasoup (mediaOracle ⟨3, by decide⟩),
    .socket (.message recvTransportText), .transport, .transport,
    .mediasoup (mediaOracle ⟨4, by decide⟩),
    .socket (.message peersText), .transport, .transport,
    .mediasoup (mediaOracle ⟨5, by decide⟩)]

/-- A track is sent, and a video track and a data channel of a peer come in. -/
def mediaExchange : List Action :=
  [.call (.enableVideo true "camera") (mediaOracle ⟨5, by decide⟩),
    .socket (.message consumerText), .transport, .mediasoup (mediaOracle ⟨5, by decide⟩),
    .socket (.message dataConsumerText), .transport, .mediasoup (mediaOracle ⟨6, by decide⟩)]

end RoomClient
end MediasoupSdk
