import MediasoupSdk.Json.Encode
import MediasoupSdk.Signaling.Api

/-! The request methods of `MediasoupApi` and the documents that they send. -/
namespace MediasoupSdk
namespace Signaling

abbrev CreateWebRtcTransportRequest.Data : Fields :=
  .field "consuming" .bool <| .field "producing" .bool <| .field "forceTcp" .bool <|
  .field "sctpCapabilities" (.model CreateWebRtcTransportRequest.SCTPCapabilities) .nil

abbrev JoinRequest.Device : Fields :=
  .field "flag" .string <| .field "name" .string <| .field "version" .string .nil

abbrev JoinRequest.Data : Fields :=
  .field "displayName" .string <| .field "device" (.model JoinRequest.Device) <|
  .field "rtpCapabilities" (.model JoinRequest.RTPCapabilities) <|
  .field "sctpCapabilities" (.model JoinRequest.SCTPCapabilities) .nil

abbrev ConnectWebRtcTransportRequest.Data : Fields :=
  .field "transportId" .string <|
  .field "dtlsParameters" (.model ConnectWebRtcTransportRequest.DTLSParameters) .nil

abbrev ProduceRequest.SharingData : Fields := .field "trackName" .string .nil

abbrev ProduceRequest.AppData : Fields :=
  .field "peerId" .string <| .field "sharing" (.model ProduceRequest.SharingData) .nil

abbrev ProduceRequest.Data : Fields :=
  .field "transportId" .string <| .field "kind" .string <|
  .field "rtpParameters" (.model ProduceRequest.RTPParameters) <|
  .field "appData" (.model ProduceRequest.AppData) .nil

abbrev ProduceDataRequest.AppData : Fields := .field "info" .string .nil

abbrev ProduceDataRequest.Data : Fields :=
  .field "transportId" .string <| .field "label" .string <| .field "protocol" .string <|
  .field "sctpStreamParameters" (.model ProduceDataRequest.SCTPStreamParameters) <|
  .field "appData" (.model ProduceDataRequest.AppData) .nil

abbrev ProducerRequest.Data : Fields := .field "producerId" .string .nil

abbrev ConsumerRequest.Data : Fields := .field "consumerId" .string .nil

abbrev ChangeDisplayNameRequest.Data : Fields := .field "displayName" .string .nil

abbrev RestartICERequest.Data : Fields := .field "transportId" .string .nil

abbrev SetConsumerPriorityRequest.Data : Fields :=
  .field "consumerId" .string <| .field "priority" .int .nil

abbrev SetConsumerPreferredLayersRequest.Data : Fields :=
  .field "consumerId" .string <| .field "spatialLayer" .int <| .field "temporalLayer" .int .nil

abbrev GetTransportStatsRequest.Data : Fields := .field "transportId" .string .nil

abbrev GetProducerStatsRequest.Data : Fields := .field "producerId" .string .nil

abbrev GetDataProducerStatsRequest.Data : Fields := .field "dataProducerId" .string .nil

abbrev GetConsumerStatsRequest.Data : Fields := .field "consumerId" .string .nil

abbrev GetDataConsumerStatsRequest.Data : Fields := .field "dataConsumerId" .string .nil

abbrev ApplyNetworkThrottleRequest.Data : Fields :=
  .field "secret" .string <| .field "uplink" .int64 <| .field "downlink" .int64 <|
  .field "rtt" .int64 .nil

abbrev ResetNetworkThrottleRequest.Data : Fields := .field "secret" .string .nil

/-- A request struct; all of them map `request`, `id`, `method` and `data`. The one without
`data` never engages it. -/
structure RequestModel (D : Fields) where
  request : Option Bool := some true
  id : Option (IntN 64)
  method : Option String
  data : Option D.Val := none

namespace RequestModel

variable {D : Fields}

def toVal (m : RequestModel D) : (requestFields D).Val := (m.request, m.id, m.method, m.data, ())

def document (m : RequestModel D) : Json := (requestFields D).jserialize m.toVal

/-- The caller fills in the data. -/
def filled (data : Option D.Val) (m : RequestModel D) : (D : Fields) × RequestModel D :=
  ⟨D, { m with data }⟩

/-- `request->id.value_or(-1)` -/
def transaction (m : RequestModel D) : ℤ := m.id.elim (-1) Subtype.val

end RequestModel

end Signaling

/-- An `int32_t` stored in an `int64_t` member. -/
def RequestId.toInt64 (id : RequestId) : IntN 64 :=
  ⟨id.val, by have h := id.2; constructor <;> norm_num at h ⊢ <;> omega⟩

namespace Signaling

section Structs

variable (id : RequestId)

def GetRouterRtpCapabilitiesRequest.new : RequestModel .nil :=
  { id := some id.toInt64, method := some "getRouterRtpCapabilities" }

def CreateWebRtcTransportRequest.new : RequestModel CreateWebRtcTransportRequest.Data :=
  { id := some id.toInt64, method := some "createWebRtcTransport" }

def JoinRequest.new : RequestModel JoinRequest.Data :=
  { id := some id.toInt64, method := some "join" }

def ConnectWebRtcTransportRequest.new : RequestModel ConnectWebRtcTransportRequest.Data :=
  { id := some id.toInt64, method := some "connectWebRtcTransport" }

def ProduceRequest.new : RequestModel ProduceRequest.Data :=
  { id := some id.toInt64, method := some "produce" }

/-- The member `request` has no initialiser here. -/
def ProduceDataRequest.new : RequestModel ProduceDataRequest.Data :=
  { request := none, id := some id.toInt64, method := some "produceData" }

/-- The method is left to `pauseProducer`, `resumeProducer` and `closeProducer`. -/
def ProducerRequest.new : RequestModel ProducerRequest.Data :=
  { id := some id.toInt64, method := none }

/-- The method is left to `pauseConsumer`, `resumeConsumer` and `requestConsumerKeyFrame`. -/
def ConsumerRequest.new : RequestModel ConsumerRequest.Data :=
  { id := some id.toInt64, method := none }

def ChangeDisplayNameRequest.new : RequestModel ChangeDisplayNameRequest.Data :=
  { id := some id.toInt64, method := some "changeDisplayName" }

def RestartICERequest.new : RequestModel RestartICERequest.Data :=
  { id := some id.toInt64, method := some "restartIce" }

def SetConsumerPriorityRequest.new : RequestModel SetConsumerPriorityRequest.Data :=
  { id := some id.toInt64, method := some "setConsumerPriority" }

def SetConsumerPreferredLayersRequest.new :
    RequestModel SetConsumerPreferredLayersRequest.Data :=
  { id := some id.toInt64, method := some "setConsumerPreferredLayers" }

def GetTransportStatsRequest.new : RequestModel GetTransportStatsRequest.Data :=
  { id := some id.toInt64, method := some "getTransportStats" }

def GetProducerStatsRequest.new : RequestModel GetProducerStatsRequest.Data :=
  { id := some id.toInt64, method := some "getProducerStats" }

def GetDataProducerStatsRequest.new : RequestModel GetDataProducerStatsRequest.Data :=
  { id := some id.toInt64, method := some "getDataProducerStats" }

def GetConsumerStatsRequest.new : RequestModel GetConsumerStatsRequest.Data :=
  { id := some id.toInt64, method := some "getConsumerStats" }

def GetDataConsumerStatsRequest.new : RequestModel GetDataConsumerStatsRequest.Data :=
  { id := some id.toInt64, method := some "getDataConsumerStats" }

def ApplyNetworkThrottleRequest.new : RequestModel ApplyNetworkThrottleRequest.Data :=
  { id := some id.toInt64, method := some "applyNetworkThrottle" }

def ResetNetworkThrottleRequest.new : RequestModel ResetNetworkThrottleRequest.Data :=
  { id := some id.toInt64, method := some "resetNetworkThrottle" }

end Structs

end Signaling

namespace MediasoupApi
open Signaling

/-- A call of a request method. The methods that take a request object get it with nothing but
its `data` filled in. -/
inductive Request where
  | getRouterRtpCapabilities
  | createWebRtcTransport (data : Option CreateWebRtcTransportRequest.Data.Val)
  | join (data : Option JoinRequest.Data.Val)
  | connectWebRtcTransport (data : Option ConnectWebRtcTransportRequest.Data.Val)
  | produce (data : Option ProduceRequest.Data.Val)
  | produceData (data : Option ProduceDataRequest.Data.Val)
  | pauseProducer (producerId : String)
  | resumeProducer (producerId : String)
  | closeProducer (producerId : String)
  | pauseConsumer (consumerId : String)
  | resumeConsumer (consumerId : String)
  | changeDisplayName (displayName : String)
  | restartICE (transportId : String)
  | requestConsumerKeyFrame (consumerId : String)
  | setConsumerPriority (consumerId : String) (priority : IntN 32)
  | setConsumerPreferredLayers (consumerId : String) (spatialLayer temporalLayer : IntN 32)
  | getTransportStats (transportId : String)
  | getProducerStats (producerId : String)
  | getDataProducerStats (dataProducerId : String)
  | getConsumerStats (consumerId : String)
  | getDataConsumerStats (dataConsumerId : String)
  | applyNetworkThrottle (data : Option ApplyNetworkThrottleRequest.Data.Val)
  | resetNetworkThrottle (secret : String)

/-- The object that the method hands to `send`; `id` is what `generateID` drew for it. -/
def Request.object (id : RequestId) : Request → (D : Fields) × RequestModel D
  | .getRouterRtpCapabilities => (GetRouterRtpCapabilitiesRequest.new id).filled none
  | .createWebRtcTransport data => (CreateWebRtcTransportRequest.new id).filled data
  | .join data => (JoinRequest.new id).filled data
  | .connectWebRtcTransport data => (ConnectWebRtcTransportRequest.new id).filled data
  | .produce data => (ProduceRequest.new id).filled data
  | .produceData data => (ProduceDataRequest.new id).filled data
  | .pauseProducer producerId =>
    { ProducerRequest.new id with method := some "pauseProducer" }.filled
      (some (some producerId, ()))
  | .resumeProducer producerId =>
    { ProducerRequest.new id with method := some "resumeProducer" }.filled
      (some (some producerId, ()))
  | .closeProducer producerId =>
    { ProducerRequest.new id with method := some "closeProducer" }.filled
      (some (some producerId, ()))
  | .pauseConsumer consumerId =>
    { ConsumerRequest.new id with method := some "pauseConsumer" }.filled
      (some (some consumerId, ()))
  | .resumeConsumer consumerId =>
    { ConsumerRequest.new id with method := some "resumeConsumer" }.filled
      (some (some consumerId, ()))
  | .changeDisplayName displayName =>
    (ChangeDisplayNameRequest.new id).filled (some (some displayName, ()))
  | .restartICE transportId => (RestartICERequest.new id).filled (some (some transportId, ()))
  | .requestConsumerKeyFrame consumerId =>
    { ConsumerRequest.new id with method := some "requestConsumerKeyFrame" }.filled
      (some (some consumerId, ()))
  | .setConsumerPriority consumerId priority =>
    (SetConsumerPriorityRequest.new id).filled (some (some consumerId, some priority, ()))
  | .setConsumerPreferredLayers consumerId spatialLayer temporalLayer =>
    (SetConsumerPreferredLayersRequest.new id).filled
      (some (some consumerId, some spatialLayer, some temporalLayer, ()))
  | .getTransportStats transportId =>
    (GetTransportStatsRequest.new id).filled (some (some transportId, ()))
  | .getProducerStats producerId =>
    (GetProducerStatsRequest.new id).filled (some (some producerId, ()))
  | .getDataProducerStats dataProducerId =>
    (GetDataProducerStatsRequest.new id).filled (some (some dataProducerId, ()))
  | .getConsumerStats consumerId =>
    (GetConsumerStatsRequest.new id).filled (some (some consumerId, ()))
  | .getDataConsumerStats dataConsumerId =>
    (GetDataConsumerStatsRequest.new id).filled (some (some dataConsumerId, ()))
  | .applyNetworkThrottle data => (ApplyNetworkThrottleRequest.new id).filled data
  | .resetNetworkThrottle secret =>
    (ResetNetworkThrottleRequest.new id).filled (some (some secret, ()))

def Request.document (id : RequestId) (r : Request) : Json := (r.object id).2.document

def Request.transaction (id : RequestId) (r : Request) : ℤ := (r.object id).2.transaction

/-- An argument of type `int32_t`. -/
def toInt32 (i : ℤ) : IntN 32 :=
  ⟨wrap 32 i, by
    have hlo := Int.le_bmod (x := i) (m := 2 ^ 32) (by norm_num)
    have hhi := Int.bmod_lt (x := i) (m := 2 ^ 32) (by norm_num)
    norm_num [wrap] at hlo hhi ⊢
    omega⟩

/-- `joinImpl` names the device in the source. -/
def device : JoinRequest.Device.Val := (some "ubuntu", some "mediasoup-client-cpp", some "1.0.0", ())

/-- The call of the API behind a request of the client. -/
def ofApiRequest : ApiRequest → Request
  | .getRouterRtpCapabilities => .getRouterRtpCapabilities
  | .createWebRtcTransport consuming producing forceTcp sctpCapabilities =>
    .createWebRtcTransport
      (some (some consuming, some producing, some forceTcp, sctpCapabilities, ()))
  | .join displayName rtpCapabilities sctpCapabilities =>
    .join (some (some displayName, some device, rtpCapabilities, sctpCapabilities, ()))
  | .connectWebRtcTransport transportId dtlsParameters =>
    .connectWebRtcTransport (some (some transportId, some dtlsParameters, ()))
  | .produce transportId kind rtpParameters trackName =>
    .produce (some (some transportId, some kind, some rtpParameters,
      trackName.map fun name => (none, some (some name, ()), ()), ()))
  | .produceData transportId label protocol sctpStreamParameters =>
    .produceData
      (some (some transportId, some label, some protocol, some sctpStreamParameters, none, ()))
  | .closeProducer producerId => .closeProducer producerId
  | .pauseProducer producerId => .pauseProducer producerId
  | .resumeProducer producerId => .resumeProducer producerId
  | .pauseConsumer consumerId => .pauseConsumer consumerId
  | .resumeConsumer consumerId => .resumeConsumer consumerId
  | .setConsumerPreferredLayers consumerId spatialLayer temporalLayer =>
    .setConsumerPreferredLayers consumerId (toInt32 spatialLayer) (toInt32 temporalLayer)

/-- The text is a JSON object that is a request, and neither a response nor a notification, with
a method and with the id under which its answer is awaited. -/
structure Recognised (R : Rapidjson) (text : String) (transaction : ℤ) : Prop where
  object : ∃ members, R.parse (cStr text) = some (.object members)
  kind : fromJsonString R MessageType (Fields.fresh _) text = .ok (some true, none, none, ())
  header : ∃ request id method, fromJsonString R RequestHeader (Fields.fresh _) text =
    .ok (request, some id, some method, ()) ∧ method ≠ "" ∧ id.val = transaction
  range : 0 ≤ transaction ∧ transaction ≤ 2 ^ 31 - 1

end MediasoupApi

namespace Signaling.RequestModel
open MediasoupApi

variable {D : Fields} (m : RequestModel D)

/-- The members of the document of a request. -/
theorem lookup_members (k : String) : ((requestFields D).members m.toVal).lookup k =
    if k = "request" then m.request.map .bool
    else if k = "id" then m.id.map fun i => .int i.val
    else if k = "method" then m.method.map .string
    else if k = "data" then m.data.map fun d => .object (D.members d)
    else none := by
  have hbool : FieldType.bool.forward = Json.bool := rfl
  have hstring : FieldType.string.forward = Json.string := rfl
  have hint : FieldType.int64.forward = fun i => Json.int i.val := rfl
  have hmodel : (FieldType.model D).forward = fun d => Json.object (D.members d) := rfl
  simp only [toVal, Fields.members, lookup_toList_append, List.lookup_nil, Option.or_none, hbool,
    hstring, hint, hmodel]
  by_cases h1 : k = "request"
  · simp [h1]
  by_cases h2 : k = "id"
  · simp [h2]
  by_cases h3 : k = "method"
  · simp [h3]
  · simp [h1, h2, h3]

variable {m} {R : Rapidjson} {text : String}

theorem decode_messageType (h : R.parse (cStr text) = some m.document) :
    fromJsonString R MessageType (Fields.fresh _) text = .ok (m.request, none, none, ()) := by
  have hj : stringToJson R text = .ok m.document := by rw [stringToJson, h]
  have hrequest := m.lookup_members "request"
  have hresponse := m.lookup_members "response"
  have hnotification := m.lookup_members "notification"
  simp only [↓reduceIte, String.reduceEq] at hrequest hresponse hnotification
  rw [fromJsonString, hj]
  show MessageType.jdeserialize (none, none, none, ()) (.object _) = _
  rw [Fields.jdeserialize_field_map hrequest (fun _ => Json.noConfusion) (g := fun b => b)
      fun _ => rfl,
    Fields.jdeserialize_field_skip (Or.inl hresponse),
    Fields.jdeserialize_field_skip (Or.inl hnotification)]
  cases m.request <;> rfl

theorem decode_requestHeader (h : R.parse (cStr text) = some m.document) :
    fromJsonString R RequestHeader (Fields.fresh _) text =
      .ok (m.request, m.id, m.method.map cStr, ()) := by
  have hj : stringToJson R text = .ok m.document := by rw [stringToJson, h]
  have hint (i : IntN 64) : FieldType.int64.backward "id" (.int i.val) = .ok i := by
    rw [FieldType.backward, JsonValueAdapter, Json.getInt_int]
    rfl
  have hrequest := m.lookup_members "request"
  have hid := m.lookup_members "id"
  have hmethod := m.lookup_members "method"
  simp only [↓reduceIte, String.reduceEq] at hrequest hid hmethod
  rw [fromJsonString, hj]
  show RequestHeader.jdeserialize (none, none, none, ()) (.object _) = _
  rw [Fields.jdeserialize_field_map hrequest (fun _ => Json.noConfusion) (g := fun b => b)
      fun _ => rfl,
    Fields.jdeserialize_field_map hid (fun _ => Json.noConfusion) (g := fun x => x) hint,
    Fields.jdeserialize_field_map hmethod (fun _ => Json.noConfusion) (g := cStr) fun _ => rfl]
  cases m.request <;> cases m.id <;> rfl

/-- A request object is recognised when its initialisers and its method are there. -/
theorem recognised_iff (h : R.parse (cStr text) = some m.document) {id : RequestId}
    (hid : m.id = some id.toInt64) {method : String} (hmethod : m.method = some method)
    (hne : cStr method ≠ "") : Recognised R text m.transaction ↔ m.request = some true := by
  have hkind := decode_messageType h
  have hheader := decode_requestHeader h
  have htransaction : m.transaction = id.val := by
    rw [transaction, hid]
    rfl
  constructor
  · intro hr
    have he := hkind.symm.trans hr.kind
    simpa using he
  · intro hr
    refine ⟨⟨_, h⟩, by rw [hkind, hr], ?_, ?_⟩
    · exact ⟨m.request, id.toInt64, cStr method, by rw [hheader, hid, hmethod]; rfl, hne,
        htransaction.symm⟩
    · have hrange := id.2
      rw [htransaction]
      omega

end Signaling.RequestModel

namespace MediasoupApi
open Signaling

namespace Request

variable (id : RequestId) (r : Request)

theorem object_id : (r.object id).2.id = some id.toInt64 := by cases r <;> rfl

/-- Where a struct has no method of its own, the API method sets one. -/
theorem object_method : ∃ method, (r.object id).2.method = some method ∧ cStr method ≠ "" := by
  cases r <;> exact ⟨_, rfl, by simp [cStr]⟩

theorem object_request_iff :
    (r.object id).2.request = some true ↔ ∀ data, r ≠ .produceData data := by
  cases r with
  | produceData data => simp [object, RequestModel.filled, ProduceDataRequest.new]
  | _ => exact iff_of_true rfl (by simp)

end Request

/-- The request of every method but `produceData` is recognised by the SFU, with the transaction
under which `send` awaits the answer. -/
theorem request_recognised_iff (R : Rapidjson) (write : Json → String) (id : RequestId)
    (r : Request) (hread : R.parse (cStr (write (r.document id))) = some (r.document id)) :
    Recognised R (write (r.document id)) (r.transaction id) ↔ ∀ data, r ≠ .produceData data := by
  obtain ⟨method, hmethod, hne⟩ := r.object_method id
  have hiff := RequestModel.recognised_iff hread (r.object_id id) hmethod hne
  rw [← r.object_request_iff id]
  exact hiff

/-- The writer's text of a document, and a reader that knows this text. -/
def reader (text : String) (j : Json) : Rapidjson :=
  ⟨fun t => if t = text then some j else none⟩

theorem reader_parse {text : String} (j : Json) (h : cStr text = text) :
    (reader text j).parse (cStr text) = some j := by
  simp [reader, h]

def restartIceText : String :=
  "\x7b\n    \"request\": true,\n    \"id\": 7,\n    \"method\": \"restartIce\",\n    \"data\": \x7b\n        \"transportId\": \"t\"\n    \x7d\n\x7d"

theorem cStr_restartIceText : cStr restartIceText = restartIceText := by
  unfold restartIceText
  exact cStr_ofList (by decide +kernel)

theorem seven_drawn : 0 ≤ (7 : ℤ) ∧ (7 : ℤ) < 2 ^ 31 := by decide

def seventh : RequestId := ⟨7, seven_drawn⟩

theorem restartICE_recognised :
    Recognised (reader restartIceText ((Request.restartICE "t").document seventh)) restartIceText
        ((Request.restartICE "t").transaction seventh) ↔
      ∀ data, Request.restartICE "t" ≠ .produceData data :=
  request_recognised_iff _ (fun _ => restartIceText) seventh (.restartICE "t")
    (reader_parse _ cStr_restartIceText)

/-- The data that `_onProduceData` fills in for a channel. -/
def chat : ProduceDataRequest.Data.Val :=
  (some "t", some "chat", some "", some ((Json.int 1).getInt 32, none, some true, ()), none, ())

def produceDataText : String :=
  "\x7b\n    \"id\": 7,\n    \"method\": \"produceData\",\n    \"data\": \x7b\n        \"transportId\": \"t\",\n        \"label\": \"chat\",\n        \"protocol\": \"\",\n        \"sctpStreamParameters\": \x7b\n            \"streamId\": 1,\n            \"ordered\": true\n        \x7d\n    \x7d\n\x7d"

set_option maxRecDepth 2000 in
theorem cStr_produceDataText : cStr produceDataText = produceDataText := by
  unfold produceDataText
  exact cStr_ofList (by decide +kernel)

/-- The text of a `produceData` request is of no message kind. -/
theorem produceData_not_recognised :
    let r := Request.produceData (some chat)
    let R := reader produceDataText (r.document seventh)
    R.parse (cStr produceDataText) = some (r.document seventh) ∧
      fromJsonString R MessageType (Fields.fresh _) produceDataText =
        .ok (none, none, none, ()) ∧
      ¬ Recognised R produceDataText (r.transaction seventh) := by
  intro r R
  have hread : R.parse (cStr produceDataText) = some (r.document seventh) :=
    reader_parse _ cStr_produceDataText
  have hkind : fromJsonString R MessageType (Fields.fresh _) produceDataText =
      .ok (none, none, none, ()) := RequestModel.decode_messageType hread
  refine ⟨hread, hkind, fun h => ?_⟩
  have he := hkind.symm.trans h.kind
  simp at he

end MediasoupApi
end MediasoupSdk
