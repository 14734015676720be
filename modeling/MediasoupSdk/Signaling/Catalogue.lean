import MediasoupSdk.Json.RoundTrip
import MediasoupSdk.Signaling.Requests

/-! The structs of the signaling models. Each declares its members and lists them again, with
their keys, in its `FIELDS_MAP`; the fields of the mapping engine follow from the two lists. -/
namespace MediasoupSdk
namespace Signaling

/-- A declared member with its default initialiser, for the number that `generateID` draws. -/
structure Member where
  name : String
  type : FieldType
  initial : RequestId → Option type.Val

structure Declaration where
  members : List Member
  fieldsMap : List (String × String)

namespace Declaration

/-- The members that the macro names, with their keys. -/
def mapped (d : Declaration) : List (String × Member) :=
  d.fieldsMap.filterMap fun (key, name) => (d.members.find? (·.name = name)).map (key, ·)

/-- The members that the macro leaves out. -/
def leftOut (d : Declaration) : List Member :=
  d.members.filter (·.name ∉ d.fieldsMap.map Prod.snd)

def unmappedFields : List Member → Fields
  | [] => .nil
  | m :: rest => .unmapped m.type (unmappedFields rest)

def fieldsOf (leftOut : List Member) : List (String × Member) → Fields
  | [] => unmappedFields leftOut
  | (key, m) :: rest => .field key m.type (fieldsOf leftOut rest)

def fields (d : Declaration) : Fields := fieldsOf d.leftOut d.mapped

def unmappedInitial (id : RequestId) : (leftOut : List Member) → (unmappedFields leftOut).Val
  | [] => ()
  | m :: rest => (m.initial id, unmappedInitial id rest)

def initialOf (id : RequestId) (leftOut : List Member) :
    (mapped : List (String × Member)) → (fieldsOf leftOut mapped).Val
  | [] => unmappedInitial id leftOut
  | (_, m) :: rest => (m.initial id, initialOf id leftOut rest)

/-- A new object. -/
def initial (id : RequestId) (d : Declaration) : d.fields.Val := initialOf id d.leftOut d.mapped

theorem unmapped_noHiddenDefault (id : RequestId) : (leftOut : List Member) →
    (∀ m ∈ leftOut, m.initial id = none) →
    (unmappedFields leftOut).NoHiddenDefault (unmappedInitial id leftOut)
  | [], _ => trivial
  | m :: rest, h => ⟨h m List.mem_cons_self,
      unmapped_noHiddenDefault id rest fun m' hm => h m' (List.mem_cons_of_mem m hm)⟩

theorem initialOf_noHiddenDefault (id : RequestId) {leftOut : List Member}
    (h : ∀ m ∈ leftOut, m.initial id = none) : (mapped : List (String × Member)) →
    (fieldsOf leftOut mapped).NoHiddenDefault (initialOf id leftOut mapped)
  | [] => unmapped_noHiddenDefault id leftOut h
  | (_, _) :: rest => initialOf_noHiddenDefault id h rest

theorem noHiddenDefault (id : RequestId) (d : Declaration)
    (h : ∀ m ∈ d.leftOut, m.initial id = none) : d.fields.NoHiddenDefault (d.initial id) :=
  initialOf_noHiddenDefault id h d.mapped

/-- The macro names declared members only, each once and under its own key, and no key is the
name of another member. -/
def WellMapped (d : Declaration) : Prop :=
  (d.fieldsMap.map Prod.fst).Nodup ∧ (d.fieldsMap.map Prod.snd).Nodup ∧
    (∀ e ∈ d.fieldsMap, e.2 ∈ d.members.map Member.name) ∧
    ∀ e ∈ d.fieldsMap, e.1 ∈ d.members.map Member.name → e.1 = e.2

instance (d : Declaration) : Decidable d.WellMapped := inferInstanceAs (Decidable (_ ∧ _))

end Declaration

namespace Catalogue

abbrev bool (name : String) : Member := ⟨name, .bool, fun _ => none⟩
abbrev int (name : String) : Member := ⟨name, .int, fun _ => none⟩
abbrev int64 (name : String) : Member := ⟨name, .int64, fun _ => none⟩
abbrev string (name : String) : Member := ⟨name, .string, fun _ => none⟩
abbrev model (name : String) (d : Declaration) : Member := ⟨name, .model d.fields, fun _ => none⟩
abbrev vector (name : String) (d : Declaration) : Member := ⟨name, .vector d.fields, fun _ => none⟩

/-- The members whose keys are their names. -/
def same (names : List String) : List (String × String) := names.map fun name => (name, name)

def single (name : String) : Declaration where
  members := [string name]
  fieldsMap := same [name]

def request (method : Option String) (data : Declaration) : Declaration where
  members := [⟨"request", .bool, fun _ => some true⟩, ⟨"id", .int64, fun id => some id.toInt64⟩,
    ⟨"method", .string, fun _ => method⟩, model "data" data]
  fieldsMap := same ["request", "id", "method", "data"]

def response (data : Declaration) : Declaration where
  members := [bool "response", int64 "id", bool "ok", model "data" data]
  fieldsMap := same ["response", "id", "ok", "data"]

/-- A response whose data is a list. -/
def responses (data : Declaration) : Declaration where
  members := [bool "response", int64 "id", bool "ok", vector "data" data]
  fieldsMap := same ["response", "id", "ok", "data"]

def notification (data : Declaration) : Declaration where
  members := [bool "notification", string "method", model "data" data]
  fieldsMap := same ["notification", "method", "data"]

def MessageType : Declaration where
  members := [bool "request", bool "response", bool "notification"]
  fieldsMap := same ["request", "response", "notification"]

def RequestHeader : Declaration where
  members := [bool "request", int64 "id", string "method"]
  fieldsMap := same ["request", "id", "method"]

def ResponseHeader : Declaration where
  members := [bool "response", int64 "id", bool "ok"]
  fieldsMap := same ["response", "id", "ok"]

def NotificationHeader : Declaration where
  members := [bool "notification", string "method"]
  fieldsMap := same ["notification", "method"]

def BasicResponse : Declaration where
  members := [bool "response", int64 "id", bool "ok"]
  fieldsMap := same ["response", "id", "ok"]

def GetRouterRtpCapabilitiesRequest : Declaration where
  members := [⟨"request", .bool, fun _ => some true⟩, ⟨"id", .int64, fun id => some id.toInt64⟩,
    ⟨"method", .string, fun _ => some "getRouterRtpCapabilities"⟩]
  fieldsMap := same ["request", "id", "method"]

namespace GetRouterRtpCapabilitiesResponse

def RTCPFeedback : Declaration where
  members := [string "type", string "parameter"]
  fieldsMap := same ["type", "parameter"]

def Parameters : Declaration where
  members := [int "apt", int "levelAsymmetryAllowed", int "packetizationMode",
    string "profileLevelId", int "xGoogleStartBitrate"]
  fieldsMap := [("apt", "apt"), ("level-asymmetry-allowed", "levelAsymmetryAllowed"),
    ("packetization-mode", "packetizationMode"), ("profile-level-id", "profileLevelId"),
    ("x-google-start-bitrate", "xGoogleStartBitrate")]

def Codec : Declaration where
  members := [string "kind", string "mimeType", int "clockRate", int "channels",
    vector "rtcpFeedback" RTCPFeedback, model "parameters" Parameters, int "preferredPayloadType"]
  fieldsMap := same ["kind", "mimeType", "clockRate", "channels", "rtcpFeedback", "parameters",
    "preferredPayloadType"]

def HeaderExtension : Declaration where
  members := [string "kind", string "uri", int "preferredId", bool "preferredEncrypt",
    string "direction"]
  fieldsMap := same ["kind", "uri", "preferredId", "preferredEncrypt", "direction"]

def Data : Declaration where
  members := [vector "codecs" Codec, vector "headerExtensions" HeaderExtension]
  fieldsMap := same ["codecs", "headerExtensions"]

end GetRouterRtpCapabilitiesResponse

def GetRouterRtpCapabilitiesResponse : Declaration := response GetRouterRtpCapabilitiesResponse.Data

namespace CreateWebRtcTransportRequest

def NumStreams : Declaration where
  members := [int "MIS", int "OS"]
  fieldsMap := same ["MIS", "OS"]

def SCTPCapabilities : Declaration where
  members := [model "numStreams" NumStreams]
  fieldsMap := same ["numStreams"]

def Data : Declaration where
  members := [bool "consuming", bool "producing", bool "forceTcp",
    model "sctpCapabilities" SCTPCapabilities]
  fieldsMap := same ["consuming", "producing", "forceTcp", "sctpCapabilities"]

end CreateWebRtcTransportRequest

def CreateWebRtcTransportRequest : Declaration :=
  request (some "createWebRtcTransport") CreateWebRtcTransportRequest.Data

namespace CreateWebRtcTransportResponse

def Fingerprint : Declaration where
  members := [string "algorithm", string "value"]
  fieldsMap := same ["algorithm", "value"]

def DTLSParameters : Declaration where
  members := [vector "fingerprints" Fingerprint, string "role"]
  fieldsMap := same ["fingerprints", "role"]

def ICECandidate : Declaration where
  members := [string "type", string "protocol", string "foundation", string "ip", int "port",
    int "priority"]
  fieldsMap := same ["type", "protocol", "foundation", "ip", "port", "priority"]

def ICEParameters : Declaration where
  members := [bool "iceLite", string "password", string "usernameFragment"]
  fieldsMap := same ["iceLite", "password", "usernameFragment"]

def SCTPParameters : Declaration where
  members := [int "MIS", int "OS", bool "isDataChannel", int "port", int "maxMessageSize",
    int "sctpBufferedAmount", int "sendBufferSize"]
  fieldsMap := same ["MIS", "OS", "isDataChannel", "port", "maxMessageSize", "sctpBufferedAmount",
    "sendBufferSize"]

def Data : Declaration where
  members := [string "id", model "dtlsParameters" DTLSParameters,
    vector "iceCandidates" ICECandidate, model "iceParameters" ICEParameters,
    model "sctpParameters" SCTPParameters]
  fieldsMap := same ["id", "dtlsParameters", "iceCandidates", "iceParameters", "sctpParameters"]

end CreateWebRtcTransportResponse

def CreateWebRtcTransportResponse : Declaration where
  members := [⟨"request", .bool, fun _ => some true⟩, ⟨"id", .int64, fun id => some id.toInt64⟩,
    bool "ok",
    model "data" CreateWebRtcTransportResponse.Data]
  fieldsMap := same ["request", "id", "ok", "data"]

namespace JoinRequest

def Device : Declaration where
  members := [string "flag", string "name", string "version"]
  fieldsMap := same ["flag", "name", "version"]

def RTCPFeedback : Declaration where
  members := [string "type", string "parameter"]
  fieldsMap := same ["type", "parameter"]

def Parameters : Declaration where
  members := [int "apt", int "levelAsymmetryAllowed", int "packetizationMode",
    string "profileLevelId", int "xGoogleStartBitrate", int "minptime", int "useinbandfec",
    int "profileId"]
  fieldsMap := [("level-asymmetry-allowed", "levelAsymmetryAllowed"),
    ("packetization-mode", "packetizationMode"), ("profile-level-id", "profileLevelId"),
    ("x-google-start-bitrate", "xGoogleStartBitrate"), ("minptime", "minptime"),
    ("useinbandfec", "useinbandfec"), ("profile-id", "profileId")]

def Codec : Declaration where
  members := [string "kind", string "mimeType", int "clockRate", int "channels",
    vector "rtcpFeedback" RTCPFeedback, model "parameters" Parameters, int "preferredPayloadType"]
  fieldsMap := same ["kind", "mimeType", "clockRate", "channels", "rtcpFeedback", "parameters",
    "preferredPayloadType"]

def HeaderExtension : Declaration where
  members := [string "kind", string "uri", int "preferredId", bool "preferredEncrypt",
    string "direction"]
  fieldsMap := same ["kind", "uri", "preferredId", "preferredEncrypt", "direction"]

def RTPCapabilities : Declaration where
  members := [vector "codecs" Codec, vector "headerExtensions" HeaderExtension]
  fieldsMap := same ["codecs", "headerExtensions"]

def NumStreams : Declaration where
  members := [int "MIS", int "OS"]
  fieldsMap := same ["MIS", "OS"]

def SCTPCapabilities : Declaration where
  members := [model "numStreams" NumStreams]
  fieldsMap := same ["numStreams"]

def Data : Declaration where
  members := [string "displayName", model "device" Device, model "rtpCapabilities" RTPCapabilities,
    model "sctpCapabilities" SCTPCapabilities]
  fieldsMap := same ["displayName", "device", "rtpCapabilities", "sctpCapabilities"]

end JoinRequest

def JoinRequest : Declaration :=
  request (some "join") JoinRequest.Data

namespace JoinResponse

def Device : Declaration where
  members := [string "flag", string "name", string "version"]
  fieldsMap := same ["flag", "name", "version"]

def Peer : Declaration where
  members := [string "id", string "displayName", model "device" Device]
  fieldsMap := same ["id", "displayName", "device"]

def Data : Declaration where
  members := [vector "peers" Peer]
  fieldsMap := same ["peers"]

end JoinResponse

def JoinResponse : Declaration := response JoinResponse.Data

namespace NewDataConsumerRequest

def AppData : Declaration := single "peerId"

def SCTPStreamParameters : Declaration where
  members := [int "streamId", bool "ordered"]
  fieldsMap := same ["streamId", "ordered"]

def Data : Declaration where
  members := [string "id", string "peerId", string "dataProducerId", string "label",
    string "protocol", model "sctpStreamParameters" SCTPStreamParameters, model "appData" AppData]
  fieldsMap := same ["id", "peerId", "dataProducerId", "label", "protocol", "sctpStreamParameters",
    "appData"]

end NewDataConsumerRequest

def NewDataConsumerRequest : Declaration where
  members := [bool "request", int64 "id", string "method", model "data" NewDataConsumerRequest.Data]
  fieldsMap := same ["request", "id", "method", "data"]

namespace NewConsumerRequest

def SharingData : Declaration := single "trackName"

def AppData : Declaration where
  members := [string "peerId", model "sharing" SharingData]
  fieldsMap := same ["peerId", "sharing"]

def RTCPFeedback : Declaration where
  members := [string "type", string "parameter"]
  fieldsMap := same ["type", "parameter"]

def Parameters : Declaration where
  members := [int "spropstereo", int "minptime", int "useinbandfec", int "usedtx"]
  fieldsMap := [("sprop-stereo", "spropstereo"), ("usedtx", "usedtx"), ("minptime", "minptime"),
    ("useinbandfec", "useinbandfec")]

def Codec : Declaration where
  members := [string "mimeType", int "clockRate", int "channels",
    vector "rtcpFeedback" RTCPFeedback, model "parameters" Parameters, int "payloadType"]
  fieldsMap := same ["mimeType", "clockRate", "channels", "rtcpFeedback", "parameters",
    "payloadType"]

def HeaderExtension : Declaration where
  members := [int "id", bool "encrypt", string "uri"]
  fieldsMap := same ["id", "uri", "encrypt"]

def RTX : Declaration where
  members := [int64 "ssrc"]
  fieldsMap := same ["ssrc"]

def Encoding : Declaration where
  members := [int "maxBitrate", int64 "ssrc", model "rtx" RTX, string "scalabilityMode"]
  fieldsMap := same ["ssrc", "maxBitrate", "rtx", "scalabilityMode"]

def Rtcp : Declaration where
  members := [string "cname", bool "mux", bool "reducedSize"]
  fieldsMap := same ["cname", "mux", "reducedSize"]

def RTPParameters : Declaration where
  members := [vector "encodings" Encoding, vector "codecs" Codec,
    vector "headerExtensions" HeaderExtension, string "mid", model "rtcp" Rtcp]
  fieldsMap := same ["encodings", "codecs", "headerExtensions", "mid", "rtcp"]

def Data : Declaration where
  members := [string "id", string "peerId", string "type", string "kind", string "producerId",
    bool "producerPaused", model "rtpParameters" RTPParameters, model "appData" AppData]
  fieldsMap := same ["id", "peerId", "kind", "type", "producerId", "producerPaused",
    "rtpParameters", "appData"]

end NewConsumerRequest

def NewConsumerRequest : Declaration where
  members := [bool "request", int64 "id", string "method", model "data" NewConsumerRequest.Data]
  fieldsMap := same ["request", "id", "method", "data"]

namespace ConnectWebRtcTransportRequest

def Fingerprint : Declaration where
  members := [string "algorithm", string "value"]
  fieldsMap := same ["algorithm", "value"]

def DTLSParameters : Declaration where
  members := [vector "fingerprints" Fingerprint, string "role"]
  fieldsMap := same ["fingerprints", "role"]

def Data : Declaration where
  members := [string "transportId", model "dtlsParameters" DTLSParameters]
  fieldsMap := same ["transportId", "dtlsParameters"]

end ConnectWebRtcTransportRequest

def ConnectWebRtcTransportRequest : Declaration :=
  request (some "connectWebRtcTransport") ConnectWebRtcTransportRequest.Data

namespace ProduceRequest

def SharingData : Declaration := single "trackName"

def AppData : Declaration where
  members := [string "peerId", model "sharing" SharingData]
  fieldsMap := same ["peerId", "sharing"]

def RTCPFeedback : Declaration where
  members := [string "type", string "parameter"]
  fieldsMap := same ["type", "parameter"]

def Parameters : Declaration where
  members := [int "apt", int "spropstereo", int "minptime", int "useinbandfec", int "usedtx",
    int "levelAsymmetryAllowed", int "packetizationMode", string "profileLevelId",
    int "xGoogleStartBitrate", int "profileId"]
  fieldsMap := [("apt", "apt"), ("sprop-stereo", "spropstereo"), ("usedtx", "usedtx"),
    ("minptime", "minptime"), ("useinbandfec", "useinbandfec"),
    ("level-asymmetry-allowed", "levelAsymmetryAllowed"),
    ("packetization-mode", "packetizationMode"), ("profile-level-id", "profileLevelId"),
    ("x-google-start-bitrate", "xGoogleStartBitrate"), ("profile-id", "profileId")]

def Codec : Declaration where
  members := [string "mimeType", int "clockRate", int "channels",
    vector "rtcpFeedback" RTCPFeedback, model "parameters" Parameters, int "payloadType"]
  fieldsMap := same ["mimeType", "clockRate", "channels", "rtcpFeedback", "parameters",
    "payloadType"]

def HeaderExtension : Declaration where
  members := [int "id", bool "encrypt", string "uri"]
  fieldsMap := same ["id", "uri", "encrypt"]

def Encoding : Declaration where
  members := [int64 "ssrc", bool "active", bool "dtx", int "maxBitrate", string "rid",
    string "scalabilityMode", ⟨"scaleResolutionDownBy", .native .float, fun _ => none⟩]
  fieldsMap := same ["ssrc", "active", "dtx", "maxBitrate", "rid", "scalabilityMode",
    "scaleResolutionDownBy"]

def Rtcp : Declaration where
  members := [string "cname", bool "reducedSize"]
  fieldsMap := same ["cname", "reducedSize"]

def RTPParameters : Declaration where
  members := [vector "encodings" Encoding, vector "codecs" Codec,
    vector "headerExtensions" HeaderExtension, string "mid", model "rtcp" Rtcp]
  fieldsMap := same ["encodings", "codecs", "headerExtensions", "mid", "rtcp"]

def Data : Declaration where
  members := [string "transportId", string "kind", model "rtpParameters" RTPParameters,
    model "appData" AppData]
  fieldsMap := same ["transportId", "kind", "rtpParameters", "appData"]

end ProduceRequest

def ProduceRequest : Declaration :=
  request (some "produce") ProduceRequest.Data

namespace ProduceResponse

def Data : Declaration := single "id"

end ProduceResponse

def ProduceResponse : Declaration := response ProduceResponse.Data

namespace ProduceDataRequest

def AppData : Declaration := single "info"

def SCTPStreamParameters : Declaration where
  members := [int "streamId", int "maxRetransmits", bool "ordered"]
  fieldsMap := same ["streamId", "maxRetransmits", "ordered"]

def Data : Declaration where
  members := [string "transportId", string "label", string "protocol",
    model "sctpStreamParameters" SCTPStreamParameters, model "appData" AppData]
  fieldsMap := same ["transportId", "label", "protocol", "sctpStreamParameters", "appData"]

end ProduceDataRequest

def ProduceDataRequest : Declaration where
  members := [bool "request", ⟨"id", .int64, fun id => some id.toInt64⟩,
    ⟨"method", .string, fun _ => some "produceData"⟩, model "data" ProduceDataRequest.Data]
  fieldsMap := same ["request", "id", "method", "data"]

namespace ProduceDataResponse

def Data : Declaration := single "id"

end ProduceDataResponse

def ProduceDataResponse : Declaration := response ProduceDataResponse.Data

namespace ProducerRequest

def Data : Declaration := single "producerId"

end ProducerRequest

def ProducerRequest : Declaration :=
  request none ProducerRequest.Data

namespace ConsumerRequest

def Data : Declaration := single "consumerId"

end ConsumerRequest

def ConsumerRequest : Declaration :=
  request none ConsumerRequest.Data

namespace ChangeDisplayNameRequest

def Data : Declaration := single "displayName"

end ChangeDisplayNameRequest

def ChangeDisplayNameRequest : Declaration :=
  request (some "changeDisplayName") ChangeDisplayNameRequest.Data

namespace RestartICERequest

def Data : Declaration := single "transportId"

end RestartICERequest

def RestartICERequest : Declaration :=
  request (some "restartIce") RestartICERequest.Data

namespace RestartICEResponse

def Data : Declaration where
  members := [bool "iceLite", string "password", string "usernameFragment"]
  fieldsMap := same ["iceLite", "password", "usernameFragment"]

end RestartICEResponse

def RestartICEResponse : Declaration := response RestartICEResponse.Data

namespace SetConsumerPriorityRequest

def Data : Declaration where
  members := [string "consumerId", int "priority"]
  fieldsMap := same ["consumerId", "priority"]

end SetConsumerPriorityRequest

def SetConsumerPriorityRequest : Declaration :=
  request (some "setConsumerPriority") SetConsumerPriorityRequest.Data

namespace SetConsumerPreferredLayersRequest

def Data : Declaration where
  members := [string "consumerId", int "spatialLayer", int "temporalLayer"]
  fieldsMap := same ["consumerId", "spatialLayer", "temporalLayer"]

end SetConsumerPreferredLayersRequest

def SetConsumerPreferredLayersRequest : Declaration :=
  request (some "setConsumerPreferredLayers") SetConsumerPreferredLayersRequest.Data

namespace GetTransportStatsRequest

def Data : Declaration := single "transportId"

end GetTransportStatsRequest

def GetTransportStatsRequest : Declaration :=
  request (some "getTransportStats") GetTransportStatsRequest.Data

namespace GetTransportStatsResponse

def ICESelectedTuple : Declaration where
  members := [string "localIp", int "localPort", string "remoteIp", int "remotePort",
    string "protocol"]
  fieldsMap := same ["localIp", "localPort", "remoteIp", "remotePort", "protocol"]

def Data : Declaration where
  members := [string "transportId", string "type", int64 "availableOutgoingBitrate",
    int64 "bytesReceived", int64 "bytesSent", string "dtlsState", string "iceRole",
    model "iceSelectedTuple" ICESelectedTuple, string "iceState", int64 "maxIncomingBitrate",
    int64 "probationBytesSent", int64 "probationSendBitrate", int64 "recvBitrate",
    int64 "rtpBytesReceived", int64 "rtpBytesSent", int64 "rtpPacketLossReceived",
    int64 "rtpRecvBitrate", int64 "rtpSendBitrate", int64 "rtxBytesReceived", int64 "rtxBytesSent",
    int64 "rtxRecvBitrate", int64 "rtxSendBitrate", string "sctpState", int64 "sendBitrate",
    int64 "timestamp"]
  fieldsMap := same ["transportId", "type", "availableOutgoingBitrate", "bytesReceived",
    "bytesSent", "dtlsState", "iceRole", "iceSelectedTuple", "iceState", "maxIncomingBitrate",
    "probationBytesSent", "probationSendBitrate", "recvBitrate", "rtpBytesReceived", "rtpBytesSent",
    "rtpPacketLossReceived", "rtpSendBitrate", "rtxBytesReceived", "rtxBytesSent", "rtxRecvBitrate",
    "rtxSendBitrate", "sctpState", "sendBitrate", "timestamp"]

end GetTransportStatsResponse

def GetTransportStatsResponse : Declaration := responses GetTransportStatsResponse.Data

namespace GetProducerStatsRequest

def Data : Declaration := single "producerId"

end GetProducerStatsRequest

def GetProducerStatsRequest : Declaration :=
  request (some "getProducerStats") GetProducerStatsRequest.Data

namespace GetProducerStatsResponse

def BitrateByLayer : Declaration where
  members := [int "L00", int "L01", int "L02"]
  fieldsMap := [("0.0", "L00"), ("0.1", "L01"), ("0.2", "L02")]

def Data : Declaration where
  members := [string "type", string "kind", string "mimeType", string "rid", int64 "bitrate",
    int64 "byteCount", int64 "firCount", int64 "fractionLost", int64 "jitter", int64 "nackCount",
    int64 "nackPacketCount", int64 "packetCount", int64 "packetsDiscarded", int64 "packetsLost",
    int64 "packetsRepaired", int64 "packetsRetransmitted", int64 "pliCount",
    ⟨"roundTripTime", .native .double, fun _ => none⟩, int64 "rtxPacketsDiscarded", int64 "rtxSsrc",
    int64 "score", int64 "ssrc", int64 "timestamp", model "bitrateByLayer" BitrateByLayer]
  fieldsMap := same ["type", "kind", "mimeType", "rid", "bitrate", "byteCount", "firCount",
    "fractionLost", "jitter", "nackCount", "nackPacketCount", "packetCount", "packetsDiscarded",
    "packetsLost", "packetsRepaired", "packetsRetransmitted", "pliCount", "roundTripTime",
    "rtxPacketsDiscarded", "rtxSsrc", "score", "ssrc", "timestamp", "bitrateByLayer"]

end GetProducerStatsResponse

def GetProducerStatsResponse : Declaration := responses GetProducerStatsResponse.Data

namespace GetDataProducerStatsRequest

def Data : Declaration := single "dataProducerId"

end GetDataProducerStatsRequest

def GetDataProducerStatsRequest : Declaration :=
  request (some "getDataProducerStats") GetDataProducerStatsRequest.Data

namespace GetDataProducerStatsResponse

def Data : Declaration where
  members := [string "type", string "label", string "protocol", int64 "bytesReceived",
    int64 "messagesReceived", int64 "timestamp"]
  fieldsMap := same ["type", "label", "protocol", "bytesReceived", "messagesReceived", "timestamp"]

end GetDataProducerStatsResponse

def GetDataProducerStatsResponse : Declaration := responses GetDataProducerStatsResponse.Data

namespace GetConsumerStatsRequest

def Data : Declaration := single "consumerId"

end GetConsumerStatsRequest

def GetConsumerStatsRequest : Declaration :=
  request (some "getConsumerStats") GetConsumerStatsRequest.Data

namespace GetConsumerStatsResponse

def BitrateByLayer : Declaration where
  members := [int "L00", int "L01", int "L02"]
  fieldsMap := [("0.0", "L00"), ("0.1", "L01"), ("0.2", "L02")]

def Data : Declaration where
  members := [string "type", string "kind", string "mimeType", string "rid", int64 "bitrate",
    int64 "byteCount", int64 "firCount", int64 "fractionLost", int64 "jitter", int64 "nackCount",
    int64 "nackPacketCount", int64 "packetCount", int64 "packetsDiscarded", int64 "packetsLost",
    int64 "packetsRepaired", int64 "packetsRetransmitted", int64 "pliCount",
    int64 "rtxPacketsDiscarded", int64 "rtxSsrc", ⟨"roundTripTime", .native .double, fun _ => none⟩,
    int64 "score", int64 "ssrc", int64 "timestamp", model "bitrateByLayer" BitrateByLayer]
  fieldsMap := same ["type", "kind", "mimeType", "rid", "bitrate", "byteCount", "firCount",
    "fractionLost", "jitter", "nackCount", "nackPacketCount", "packetCount", "packetsDiscarded",
    "packetsLost", "packetsRepaired", "packetsRetransmitted", "pliCount", "rtxPacketsDiscarded",
    "rtxSsrc", "roundTripTime", "score", "ssrc", "timestamp", "bitrateByLayer"]

end GetConsumerStatsResponse

def GetConsumerStatsResponse : Declaration := responses GetConsumerStatsResponse.Data

namespace GetDataConsumerStatsRequest

def Data : Declaration := single "dataConsumerId"

end GetDataConsumerStatsRequest

def GetDataConsumerStatsRequest : Declaration :=
  request (some "getDataConsumerStats") GetDataConsumerStatsRequest.Data

namespace GetDataConsumerStatsResponse

def Data : Declaration where
  members := [string "type", string "label", string "protocol", int64 "bufferedAmount",
    int64 "bytesSent", int64 "messagesSent", int64 "timestamp"]
  fieldsMap := same ["type", "label", "protocol", "bufferedAmount", "bytesSent", "messagesSent",
    "timestamp"]

end GetDataConsumerStatsResponse

def GetDataConsumerStatsResponse : Declaration := responses GetDataConsumerStatsResponse.Data

namespace ApplyNetworkThrottleRequest

def Data : Declaration where
  members := [string "secret", int64 "uplink", int64 "downlink", int64 "rtt"]
  fieldsMap := same ["secret", "uplink", "downlink", "rtt"]

end ApplyNetworkThrottleRequest

def ApplyNetworkThrottleRequest : Declaration :=
  request (some "applyNetworkThrottle") ApplyNetworkThrottleRequest.Data

namespace ResetNetworkThrottleRequest

def Data : Declaration := single "secret"

end ResetNetworkThrottleRequest

def ResetNetworkThrottleRequest : Declaration :=
  request (some "resetNetworkThrottle") ResetNetworkThrottleRequest.Data

namespace DownlinkBweNotification

def Data : Declaration where
  members := [int64 "availableBitrate", int64 "desiredBitrate", int64 "effectiveDesiredBitrate"]
  fieldsMap := same ["availableBitrate", "desiredBitrate", "effectiveDesiredBitrate"]

end DownlinkBweNotification

def DownlinkBweNotification : Declaration := notification DownlinkBweNotification.Data

namespace ConsumerScoreNotification

def Score : Declaration where
  members := [int "producerScore", ⟨"producerScores", .native (.vector .int), fun _ => none⟩,
    int "score"]
  fieldsMap := same ["producerScore", "producerScores", "score"]

def Data : Declaration where
  members := [string "consumerId", model "score" Score]
  fieldsMap := same ["consumerId", "score"]

end ConsumerScoreNotification

def ConsumerScoreNotification : Declaration := notification ConsumerScoreNotification.Data

namespace ProducerScoreNotification

def Score : Declaration where
  members := [string "rid", int "encodingIdx", int "score", int64 "ssrc"]
  fieldsMap := same ["rid", "encodingIdx", "score", "ssrc"]

def Data : Declaration where
  members := [string "producerId", vector "score" Score]
  fieldsMap := same ["producerId", "score"]

end ProducerScoreNotification

def ProducerScoreNotification : Declaration := notification ProducerScoreNotification.Data

namespace ConsumerLayersChangedNotification

def Data : Declaration where
  members := [string "consumerId", int "spatialLayer", int "temporalLayer"]
  fieldsMap := same ["consumerId", "spatialLayer", "temporalLayer"]

end ConsumerLayersChangedNotification

def ConsumerLayersChangedNotification : Declaration :=
  notification ConsumerLayersChangedNotification.Data

namespace ActiveSpeakerNotification

def Data : Declaration where
  members := [string "peerId", int "volume"]
  fieldsMap := same ["peerId", "volume"]

end ActiveSpeakerNotification

def ActiveSpeakerNotification : Declaration := notification ActiveSpeakerNotification.Data

namespace ConsumerPausedNotification

def Data : Declaration := single "consumerId"

end ConsumerPausedNotification

def ConsumerPausedNotification : Declaration := notification ConsumerPausedNotification.Data

namespace ConsumerResumedNotification

def Data : Declaration := single "consumerId"

end ConsumerResumedNotification

def ConsumerResumedNotification : Declaration := notification ConsumerResumedNotification.Data

namespace ConsumerClosedNotification

def Data : Declaration := single "consumerId"

end ConsumerClosedNotification

def ConsumerClosedNotification : Declaration := notification ConsumerClosedNotification.Data

namespace DataConsumerClosedNotification

def Data : Declaration := single "dataConsumerId"

end DataConsumerClosedNotification

def DataConsumerClosedNotification : Declaration := notification DataConsumerClosedNotification.Data

namespace PeerDisplayNameChangedNotification

def Data : Declaration where
  members := [string "peerId", string "oldDisplayName", string "displayName"]
  fieldsMap := same ["peerId", "oldDisplayName", "displayName"]

end PeerDisplayNameChangedNotification

def PeerDisplayNameChangedNotification : Declaration :=
  notification PeerDisplayNameChangedNotification.Data

namespace NewPeerNotification

def Device : Declaration where
  members := [string "flag", string "name", string "version"]
  fieldsMap := same ["flag", "name", "version"]

def Data : Declaration where
  members := [string "id", string "displayName", model "device" Device]
  fieldsMap := same ["id", "displayName", "device"]

end NewPeerNotification

def NewPeerNotification : Declaration := notification NewPeerNotification.Data

namespace PeerClosedNotification

def Data : Declaration := single "peerId"

end PeerClosedNotification

def PeerClosedNotification : Declaration := notification PeerClosedNotification.Data

/-- Every struct of the header. -/
def structs : List Declaration :=
  [MessageType, RequestHeader, ResponseHeader, NotificationHeader, BasicResponse,
    GetRouterRtpCapabilitiesRequest, GetRouterRtpCapabilitiesResponse.RTCPFeedback,
    GetRouterRtpCapabilitiesResponse.Parameters, GetRouterRtpCapabilitiesResponse.Codec,
    GetRouterRtpCapabilitiesResponse.HeaderExtension, GetRouterRtpCapabilitiesResponse.Data,
    GetRouterRtpCapabilitiesResponse, CreateWebRtcTransportRequest.NumStreams,
    CreateWebRtcTransportRequest.SCTPCapabilities, CreateWebRtcTransportRequest.Data,
    CreateWebRtcTransportRequest, CreateWebRtcTransportResponse.Fingerprint,
    CreateWebRtcTransportResponse.DTLSParameters, CreateWebRtcTransportResponse.ICECandidate,
    CreateWebRtcTransportResponse.ICEParameters, CreateWebRtcTransportResponse.SCTPParameters,
    CreateWebRtcTransportResponse.Data, CreateWebRtcTransportResponse, JoinRequest.Device,
    JoinRequest.RTCPFeedback, JoinRequest.Parameters, JoinRequest.Codec,
    JoinRequest.HeaderExtension, JoinRequest.RTPCapabilities, JoinRequest.NumStreams,
    JoinRequest.SCTPCapabilities, JoinRequest.Data, JoinRequest, JoinResponse.Device,
    JoinResponse.Peer, JoinResponse.Data, JoinResponse, NewDataConsumerRequest.AppData,
    NewDataConsumerRequest.SCTPStreamParameters, NewDataConsumerRequest.Data,
    NewDataConsumerRequest, NewConsumerRequest.SharingData, NewConsumerRequest.AppData,
    NewConsumerRequest.RTCPFeedback, NewConsumerRequest.Parameters, NewConsumerRequest.Codec,
    NewConsumerRequest.HeaderExtension, NewConsumerRequest.RTX, NewConsumerRequest.Encoding,
    NewConsumerRequest.Rtcp, NewConsumerRequest.RTPParameters, NewConsumerRequest.Data,
    NewConsumerRequest, ConnectWebRtcTransportRequest.Fingerprint,
    ConnectWebRtcTransportRequest.DTLSParameters, ConnectWebRtcTransportRequest.Data,
    ConnectWebRtcTransportRequest, ProduceRequest.SharingData, ProduceRequest.AppData,
    ProduceRequest.RTCPFeedback, ProduceRequest.Parameters, ProduceRequest.Codec,
    ProduceRequest.HeaderExtension, ProduceRequest.Encoding, ProduceRequest.Rtcp,
    ProduceRequest.RTPParameters, ProduceRequest.Data, ProduceRequest, ProduceResponse.Data,
    ProduceResponse, ProduceDataRequest.AppData, ProduceDataRequest.SCTPStreamParameters,
    ProduceDataRequest.Data, ProduceDataRequest, ProduceDataResponse.Data, ProduceDataResponse,
    ProducerRequest.Data, ProducerRequest, ConsumerRequest.Data, ConsumerRequest,
    ChangeDisplayNameRequest.Data, ChangeDisplayNameRequest, RestartICERequest.Data,
    RestartICERequest, RestartICEResponse.Data, RestartICEResponse,
    SetConsumerPriorityRequest.Data, SetConsumerPriorityRequest,
    SetConsumerPreferredLayersRequest.Data, SetConsumerPreferredLayersRequest,
    GetTransportStatsRequest.Data, GetTransportStatsRequest,
    GetTransportStatsResponse.ICESelectedTuple, GetTransportStatsResponse.Data,
    GetTransportStatsResponse, GetProducerStatsRequest.Data, GetProducerStatsRequest,
    GetProducerStatsResponse.BitrateByLayer, GetProducerStatsResponse.Data,
    GetProducerStatsResponse, GetDataProducerStatsRequest.Data, GetDataProducerStatsRequest,
    GetDataProducerStatsResponse.Data, GetDataProducerStatsResponse, GetConsumerStatsRequest.Data,
    GetConsumerStatsRequest, GetConsumerStatsResponse.BitrateByLayer,
    GetConsumerStatsResponse.Data, GetConsumerStatsResponse, GetDataConsumerStatsRequest.Data,
    GetDataConsumerStatsRequest, GetDataConsumerStatsResponse.Data, GetDataConsumerStatsResponse,
    ApplyNetworkThrottleRequest.Data, ApplyNetworkThrottleRequest,
    ResetNetworkThrottleRequest.Data, ResetNetworkThrottleRequest, DownlinkBweNotification.Data,
    DownlinkBweNotification, ConsumerScoreNotification.Score, ConsumerScoreNotification.Data,
    ConsumerScoreNotification, ProducerScoreNotification.Score, ProducerScoreNotification.Data,
    ProducerScoreNotification, ConsumerLayersChangedNotification.Data,
    ConsumerLayersChangedNotification, ActiveSpeakerNotification.Data, ActiveSpeakerNotification,
    ConsumerPausedNotification.Data, ConsumerPausedNotification, ConsumerResumedNotification.Data,
    ConsumerResumedNotification, ConsumerClosedNotification.Data, ConsumerClosedNotification,
    DataConsumerClosedNotification.Data, DataConsumerClosedNotification,
    PeerDisplayNameChangedNotification.Data, PeerDisplayNameChangedNotification,
    NewPeerNotification.Device, NewPeerNotification.Data, NewPeerNotification,
    PeerClosedNotification.Data, PeerClosedNotification]

/-- The structs that the client reads are the field lists that its decoders use. -/
theorem fields_eq_of_read :
    MessageType.fields = Signaling.MessageType ∧ RequestHeader.fields = Signaling.RequestHeader ∧
      ResponseHeader.fields = Signaling.ResponseHeader ∧
      NotificationHeader.fields = Signaling.NotificationHeader ∧
      BasicResponse.fields = Signaling.BasicResponse ∧
      GetRouterRtpCapabilitiesResponse.fields =
        responseFields Signaling.GetRouterRtpCapabilitiesResponse.Data ∧
      CreateWebRtcTransportResponse.fields = Signaling.CreateWebRtcTransportResponse.fields ∧
      JoinResponse.fields = responseFields JoinResponse.DataFields ∧
      ProduceResponse.fields = responseFields ProduceResponse.DataFields ∧
      ProduceDataResponse.fields = responseFields ProduceResponse.DataFields ∧
      NewDataConsumerRequest.fields = requestFields NewDataConsumerRequest.DataFields ∧
      NewConsumerRequest.fields = requestFields NewConsumerRequest.DataFields ∧
      ActiveSpeakerNotification.fields = notificationFields ActiveSpeakerNotification.DataFields ∧
      ConsumerPausedNotification.fields = notificationFields ConsumerNotification.DataFields ∧
      PeerDisplayNameChangedNotification.fields =
        notificationFields PeerDisplayNameChangedNotification.DataFields ∧
      NewPeerNotification.fields = notificationFields NewPeerNotification.DataFields ∧
      PeerClosedNotification.fields = notificationFields PeerClosedNotification.DataFields :=
  ⟨rfl, rfl, rfl, rfl, rfl, rfl, rfl, rfl, rfl, rfl, rfl, rfl, rfl, rfl, rfl, rfl, rfl⟩

/-- The new objects of the requests with data are those that the API fills in. -/
theorem initial_eq_new (id : RequestId) :
    CreateWebRtcTransportRequest.initial id = (CreateWebRtcTransportRequest.new id).toVal ∧
      JoinRequest.initial id = (JoinRequest.new id).toVal ∧
      ConnectWebRtcTransportRequest.initial id = (ConnectWebRtcTransportRequest.new id).toVal ∧
      ProduceRequest.initial id = (ProduceRequest.new id).toVal ∧
      ProduceDataRequest.initial id = (ProduceDataRequest.new id).toVal ∧
      ProducerRequest.initial id = (ProducerRequest.new id).toVal ∧
      ConsumerRequest.initial id = (ConsumerRequest.new id).toVal ∧
      SetConsumerPreferredLayersRequest.initial id =
        (SetConsumerPreferredLayersRequest.new id).toVal :=
  ⟨rfl, rfl, rfl, rfl, rfl, rfl, rfl, rfl⟩

end Catalogue

end Signaling
end MediasoupSdk
