import MediasoupSdk.Json.Model

/-! The signaling messages that the client reads. Each struct is given by the field list of
its `FIELDS_MAP`; the members that the handlers use are projected into a record. -/
namespace MediasoupSdk

namespace FieldType

abbrev bool : FieldType := .native .bool
abbrev int : FieldType := .native .int
abbrev int64 : FieldType := .native .int64
abbrev string : FieldType := .native .string

end FieldType

namespace Signaling

abbrev MessageType : Fields :=
  .field "request" .bool <| .field "response" .bool <| .field "notification" .bool .nil

abbrev RequestHeader : Fields :=
  .field "request" .bool <| .field "id" .int64 <| .field "method" .string .nil

abbrev ResponseHeader : Fields :=
  .field "response" .bool <| .field "id" .int64 <| .field "ok" .bool .nil

abbrev NotificationHeader : Fields :=
  .field "notification" .bool <| .field "method" .string .nil

/-- The members of a response that the callbacks read. -/
structure Response (D : Type) where
  ok : Option Bool
  data : Option D
  deriving DecidableEq

abbrev BasicResponse : Fields := ResponseHeader

abbrev responseFields (data : Fields) : Fields :=
  .field "response" .bool <| .field "id" .int64 <| .field "ok" .bool <|
    .field "data" (.model data) .nil

namespace GetRouterRtpCapabilitiesResponse

abbrev RTCPFeedback : Fields :=
  .field "type" .string <| .field "parameter" .string .nil

abbrev Parameters : Fields :=
  .field "apt" .int <| .field "level-asymmetry-allowed" .int <|
  .field "packetization-mode" .int <| .field "profile-level-id" .string <|
  .field "x-google-start-bitrate" .int .nil

abbrev Codec : Fields :=
  .field "kind" .string <| .field "mimeType" .string <| .field "clockRate" .int <|
  .field "channels" .int <| .field "rtcpFeedback" (.vector RTCPFeedback) <|
  .field "parameters" (.model Parameters) <| .field "preferredPayloadType" .int .nil

abbrev HeaderExtension : Fields :=
  .field "kind" .string <| .field "uri" .string <| .field "preferredId" .int <|
  .field "preferredEncrypt" .bool <| .field "direction" .string .nil

abbrev Data : Fields :=
  .field "codecs" (.vector Codec) <| .field "headerExtensions" (.vector HeaderExtension) .nil

end GetRouterRtpCapabilitiesResponse

namespace CreateWebRtcTransportResponse

abbrev Fingerprint : Fields :=
  .field "algorithm" .string <| .field "value" .string .nil

abbrev DTLSParameters : Fields :=
  .field "fingerprints" (.vector Fingerprint) <| .field "role" .string .nil

abbrev ICECandidate : Fields :=
  .field "type" .string <| .field "protocol" .string <| .field "foundation" .string <|
  .field "ip" .string <| .field "port" .int <| .field "priority" .int .nil

abbrev ICEParameters : Fields :=
  .field "iceLite" .bool <| .field "password" .string <| .field "usernameFragment" .string .nil

abbrev SCTPParameters : Fields :=
  .field "MIS" .int <| .field "OS" .int <| .field "isDataChannel" .bool <|
  .field "port" .int <| .field "maxMessageSize" .int <| .field "sctpBufferedAmount" .int <|
  .field "sendBufferSize" .int .nil

abbrev DataFields : Fields :=
  .field "id" .string <| .field "dtlsParameters" (.model DTLSParameters) <|
  .field "iceCandidates" (.vector ICECandidate) <|
  .field "iceParameters" (.model ICEParameters) <|
  .field "sctpParameters" (.model SCTPParameters) .nil

/-- This response declares `request` where the others declare `response`. Its defaults for
`request` and `id` are never read. -/
abbrev fields : Fields :=
  .field "request" .bool <| .field "id" .int64 <| .field "ok" .bool <|
    .field "data" (.model DataFields) .nil

structure Data where
  id : Option String
  dtlsParameters : Option DTLSParameters.Val
  iceCandidates : Option (List ICECandidate.Val)
  iceParameters : Option ICEParameters.Val
  sctpParameters : Option SCTPParameters.Val

def Data.ofVal : DataFields.Val → Data
  | (id, dtls, candidates, ice, sctp, ()) => ⟨id, dtls, candidates, ice, sctp⟩

end CreateWebRtcTransportResponse

namespace JoinResponse

abbrev Device : Fields :=
  .field "flag" .string <| .field "name" .string <| .field "version" .string .nil

abbrev PeerFields : Fields :=
  .field "id" .string <| .field "displayName" .string <| .field "device" (.model Device) .nil

abbrev DataFields : Fields := .field "peers" (.vector PeerFields) .nil

structure Peer where
  id : Option String
  displayName : Option String
  deriving DecidableEq

structure Data where
  peers : Option (List Peer)
  deriving DecidableEq

def Peer.ofVal : PeerFields.Val → Peer
  | (id, displayName, _, ()) => ⟨id, displayName⟩

def Data.ofVal : DataFields.Val → Data
  | (peers, ()) => ⟨peers.map (·.map Peer.ofVal)⟩

end JoinResponse

/-- `ProduceResponse::Data` and `ProduceDataResponse::Data` carry the new id only. -/
abbrev ProduceResponse.DataFields : Fields := .field "id" .string .nil

structure ProduceResponse.Data where
  id : Option String
  deriving DecidableEq

def ProduceResponse.Data.ofVal : ProduceResponse.DataFields.Val → ProduceResponse.Data
  | (id, ()) => ⟨id⟩

/-- The members of a request of the SFU that the handlers read. -/
structure SfuRequest (D : Type) where
  id : Option (IntN 64)
  data : Option D

abbrev requestFields (data : Fields) : Fields :=
  .field "request" .bool <| .field "id" .int64 <| .field "method" .string <|
    .field "data" (.model data) .nil

namespace NewDataConsumerRequest

abbrev AppData : Fields := .field "peerId" .string .nil

abbrev SCTPStreamParameters : Fields :=
  .field "streamId" .int <| .field "ordered" .bool .nil

abbrev DataFields : Fields :=
  .field "id" .string <| .field "peerId" .string <| .field "dataProducerId" .string <|
  .field "label" .string <| .field "protocol" .string <|
  .field "sctpStreamParameters" (.model SCTPStreamParameters) <|
  .field "appData" (.model AppData) .nil

structure Data where
  id : Option String
  peerId : Option String
  dataProducerId : Option String
  label : Option String
  protocol : Option String
  sctpStreamParameters : Option SCTPStreamParameters.Val
  appData : Option AppData.Val

def Data.ofVal : DataFields.Val → Data
  | (id, peerId, dataProducerId, label, protocol, sctp, appData, ()) =>
    ⟨id, peerId, dataProducerId, label, protocol, sctp, appData⟩

end NewDataConsumerRequest

namespace NewConsumerRequest

abbrev SharingData : Fields := .field "trackName" .string .nil

abbrev AppData : Fields :=
  .field "peerId" .string <| .field "sharing" (.model SharingData) .nil

abbrev RTCPFeedback : Fields :=
  .field "type" .string <| .field "parameter" .string .nil

abbrev Parameters : Fields :=
  .field "sprop-stereo" .int <| .field "usedtx" .int <| .field "minptime" .int <|
  .field "useinbandfec" .int .nil

abbrev Codec : Fields :=
  .field "mimeType" .string <| .field "clockRate" .int <| .field "channels" .int <|
  .field "rtcpFeedback" (.vector RTCPFeedback) <| .field "parameters" (.model Parameters) <|
  .field "payloadType" .int .nil

abbrev HeaderExtension : Fields :=
  .field "id" .int <| .field "uri" .string <| .field "encrypt" .bool .nil

abbrev RTX : Fields := .field "ssrc" .int64 .nil

abbrev Encoding : Fields :=
  .field "ssrc" .int64 <| .field "maxBitrate" .int <| .field "rtx" (.model RTX) <|
  .field "scalabilityMode" .string .nil

abbrev Rtcp : Fields :=
  .field "cname" .string <| .field "mux" .bool <| .field "reducedSize" .bool .nil

abbrev RTPParameters : Fields :=
  .field "encodings" (.vector Encoding) <| .field "codecs" (.vector Codec) <|
  .field "headerExtensions" (.vector HeaderExtension) <| .field "mid" .string <|
  .field "rtcp" (.model Rtcp) .nil

abbrev DataFields : Fields :=
  .field "id" .string <| .field "peerId" .string <| .field "kind" .string <|
  .field "type" .string <| .field "producerId" .string <| .field "producerPaused" .bool <|
  .field "rtpParameters" (.model RTPParameters) <| .field "appData" (.model AppData) .nil

structure Data where
  id : Option String
  peerId : Option String
  kind : Option String
  producerId : Option String
  producerPaused : Option Bool
  rtpParameters : Option RTPParameters.Val
  appData : Option AppData.Val

def Data.ofVal : DataFields.Val → Data
  | (id, peerId, kind, _, producerId, producerPaused, rtpParameters, appData, ()) =>
    ⟨id, peerId, kind, producerId, producerPaused, rtpParameters, appData⟩

end NewConsumerRequest

/-- The `data` member is all that the handlers read of a notification. -/
structure Notification (D : Type) where
  data : Option D

abbrev notificationFields (data : Fields) : Fields :=
  .field "notification" .bool <| .field "method" .string <| .field "data" (.model data) .nil

abbrev ActiveSpeakerNotification.DataFields : Fields :=
  .field "peerId" .string <| .field "volume" .int .nil

structure ActiveSpeakerNotification.Data where
  peerId : Option String
  volume : Option (IntN 32)

def ActiveSpeakerNotification.Data.ofVal :
    ActiveSpeakerNotification.DataFields.Val → ActiveSpeakerNotification.Data
  | (peerId, volume, ()) => ⟨peerId, volume⟩

/-- `consumerPaused`, `consumerResumed` and `consumerClosed` name a consumer. -/
abbrev ConsumerNotification.DataFields : Fields := .field "consumerId" .string .nil

structure ConsumerNotification.Data where
  consumerId : Option String

def ConsumerNotification.Data.ofVal :
    ConsumerNotification.DataFields.Val → ConsumerNotification.Data
  | (consumerId, ()) => ⟨consumerId⟩

structure DataConsumerClosedNotification.Data where
  dataConsumerId : Option String

abbrev PeerDisplayNameChangedNotification.DataFields : Fields :=
  .field "peerId" .string <| .field "oldDisplayName" .string <|
  .field "displayName" .string .nil

structure PeerDisplayNameChangedNotification.Data where
  peerId : Option String
  displayName : Option String

def PeerDisplayNameChangedNotification.Data.ofVal :
    PeerDisplayNameChangedNotification.DataFields.Val → PeerDisplayNameChangedNotification.Data
  | (peerId, _, displayName, ()) => ⟨peerId, displayName⟩

abbrev NewPeerNotification.DataFields : Fields := JoinResponse.PeerFields

structure NewPeerNotification.Data where
  id : Option String
  displayName : Option String

def NewPeerNotification.Data.ofVal :
    NewPeerNotification.DataFields.Val → NewPeerNotification.Data
  | (id, displayName, _, ()) => ⟨id, displayName⟩

abbrev PeerClosedNotification.DataFields : Fields := .field "peerId" .string .nil

structure PeerClosedNotification.Data where
  peerId : Option String

def PeerClosedNotification.Data.ofVal :
    PeerClosedNotification.DataFields.Val → PeerClosedNotification.Data
  | (peerId, ()) => ⟨peerId⟩

namespace CreateWebRtcTransportRequest

abbrev NumStreams : Fields := .field "MIS" .int <| .field "OS" .int .nil

abbrev SCTPCapabilities : Fields := .field "numStreams" (.model NumStreams) .nil

end CreateWebRtcTransportRequest

namespace JoinRequest

abbrev RTCPFeedback : Fields :=
  .field "type" .string <| .field "parameter" .string .nil

/-- The member `apt` is declared but missing from the macro. -/
abbrev Parameters : Fields :=
  .field "level-asymmetry-allowed" .int <| .field "packetization-mode" .int <|
  .field "profile-level-id" .string <| .field "x-google-start-bitrate" .int <|
  .field "minptime" .int <| .field "useinbandfec" .int <| .field "profile-id" .int <|
  .unmapped .int .nil

abbrev Codec : Fields :=
  .field "kind" .string <| .field "mimeType" .string <| .field "clockRate" .int <|
  .field "channels" .int <| .field "rtcpFeedback" (.vector RTCPFeedback) <|
  .field "parameters" (.model Parameters) <| .field "preferredPayloadType" .int .nil

abbrev HeaderExtension : Fields :=
  .field "kind" .string <| .field "uri" .string <| .field "preferredId" .int <|
  .field "preferredEncrypt" .bool <| .field "direction" .string .nil

abbrev RTPCapabilities : Fields :=
  .field "codecs" (.vector Codec) <| .field "headerExtensions" (.vector HeaderExtension) .nil

abbrev NumStreams : Fields := .field "MIS" .int <| .field "OS" .int .nil

abbrev SCTPCapabilities : Fields := .field "numStreams" (.model NumStreams) .nil

end JoinRequest

abbrev ConnectWebRtcTransportRequest.Fingerprint : Fields :=
  .field "algorithm" .string <| .field "value" .string .nil

abbrev ConnectWebRtcTransportRequest.DTLSParameters : Fields :=
  .field "fingerprints" (.vector ConnectWebRtcTransportRequest.Fingerprint) <|
  .field "role" .string .nil

namespace ProduceRequest

abbrev RTCPFeedback : Fields :=
  .field "type" .string <| .field "parameter" .string .nil

abbrev Parameters : Fields :=
  .field "apt" .int <| .field "sprop-stereo" .int <| .field "usedtx" .int <|
  .field "minptime" .int <| .field "useinbandfec" .int <|
  .field "level-asymmetry-allowed" .int <| .field "packetization-mode" .int <|
  .field "profile-level-id" .string <| .field "x-google-start-bitrate" .int <|
  .field "profile-id" .int .nil

abbrev Codec : Fields :=
  .field "mimeType" .string <| .field "clockRate" .int <| .field "channels" .int <|
  .field "rtcpFeedback" (.vector RTCPFeedback) <| .field "parameters" (.model Parameters) <|
  .field "payloadType" .int .nil

abbrev HeaderExtension : Fields :=
  .field "id" .int <| .field "uri" .string <| .field "encrypt" .bool .nil

abbrev Encoding : Fields :=
  .field "ssrc" .int64 <| .field "active" .bool <| .field "dtx" .bool <|
  .field "maxBitrate" .int <| .field "rid" .string <| .field "scalabilityMode" .string <|
  .field "scaleResolutionDownBy" (.native .float) .nil

abbrev Rtcp : Fields := .field "cname" .string <| .field "reducedSize" .bool .nil

abbrev RTPParameters : Fields :=
  .field "encodings" (.vector Encoding) <| .field "codecs" (.vector Codec) <|
  .field "headerExtensions" (.vector HeaderExtension) <| .field "mid" .string <|
  .field "rtcp" (.model Rtcp) .nil

end ProduceRequest

abbrev ProduceDataRequest.SCTPStreamParameters : Fields :=
  .field "streamId" .int <| .field "maxRetransmits" .int <| .field "ordered" .bool .nil

section Decoders

variable (R : Rapidjson) (json : String)

/-- Decode a response with the given `data` model into what the callbacks read. -/
def decodeResponse {D : Type} (data : Fields) (project : data.Val → D) :
    Except JsonError (Response D) := do
  let (_, _, ok, value, ()) ← fromJsonString R (responseFields data) (Fields.fresh _) json
  return ⟨ok, value.map project⟩

def decodeGetRouterRtpCapabilitiesResponse :
    Except JsonError (Response GetRouterRtpCapabilitiesResponse.Data.Val) :=
  decodeResponse R json GetRouterRtpCapabilitiesResponse.Data id

def decodeCreateWebRtcTransportResponse :
    Except JsonError (Response CreateWebRtcTransportResponse.Data) := do
  let (_, _, ok, value, ()) ←
    fromJsonString R CreateWebRtcTransportResponse.fields (Fields.fresh _) json
  return ⟨ok, value.map CreateWebRtcTransportResponse.Data.ofVal⟩

def decodeJoinResponse : Except JsonError (Response JoinResponse.Data) :=
  decodeResponse R json JoinResponse.DataFields JoinResponse.Data.ofVal

def decodeProduceResponse : Except JsonError (Response ProduceResponse.Data) :=
  decodeResponse R json ProduceResponse.DataFields ProduceResponse.Data.ofVal

/-- A response without payload, as `connectWebRtcTransport` and the mute calls expect. -/
def decodeBasicResponse : Except JsonError (Response Unit) := do
  let (_, _, ok, ()) ← fromJsonString R BasicResponse (Fields.fresh _) json
  return ⟨ok, none⟩

def decodeRequest {D : Type} (data : Fields) (project : data.Val → D) :
    Except JsonError (SfuRequest D) := do
  let (_, id, _, value, ()) ← fromJsonString R (requestFields data) (Fields.fresh _) json
  return ⟨id, value.map project⟩

def decodeNotification {D : Type} (data : Fields) (project : data.Val → D) :
    Except JsonError (Notification D) := do
  let (_, _, value, ()) ← fromJsonString R (notificationFields data) (Fields.fresh _) json
  return ⟨value.map project⟩

end Decoders

end Signaling
end MediasoupSdk
