import MediasoupSdk.Signaling.Client

/-! `MediasoupApi`: requests are sent with a typed callback, and the answers to requests of
the SFU go out through the same `send` of the signaling client. -/
namespace MediasoupSdk
open Foundation

/-- `generateID` draws from 0 to the largest `int32_t`. -/
abbrev RequestId := {n : ℤ // 0 ≤ n ∧ n < 2 ^ 31}

theorem RequestId.wrap_eq (id : RequestId) : wrap 32 id.val = id.val :=
  wrap_of_mem (by norm_num) ⟨by have := id.2.1; norm_num; omega, id.2.2⟩

/-- The requests that the client makes, with the data that the callers fill in. The `device`
of a join request is a constant. -/
inductive ApiRequest where
  | getRouterRtpCapabilities
  | createWebRtcTransport (consuming producing forceTcp : Bool)
      (sctpCapabilities : Option Signaling.CreateWebRtcTransportRequest.SCTPCapabilities.Val)
  | join (displayName : String)
      (rtpCapabilities : Option Signaling.JoinRequest.RTPCapabilities.Val)
      (sctpCapabilities : Option Signaling.JoinRequest.SCTPCapabilities.Val)
  | connectWebRtcTransport (transportId : String)
      (dtlsParameters : Signaling.ConnectWebRtcTransportRequest.DTLSParameters.Val)
  | produce (transportId kind : String)
      (rtpParameters : Signaling.ProduceRequest.RTPParameters.Val) (trackName : Option String)
  | produceData (transportId label protocol : String)
      (sctpStreamParameters : Signaling.ProduceDataRequest.SCTPStreamParameters.Val)
  | closeProducer (producerId : String)
  | pauseProducer (producerId : String)
  | resumeProducer (producerId : String)
  | pauseConsumer (consumerId : String)
  | resumeConsumer (consumerId : String)
  | setConsumerPreferredLayers (consumerId : String) (spatialLayer temporalLayer : ℤ)

/-- The text layer: the parser, and the writer at a request with its id and at the answer
`ok` to a request of the SFU. -/
structure JsonText where
  rapidjson : Rapidjson
  request : RequestId → ApiRequest → String
  answer : Option (IntN 64) → String

namespace MediasoupApi

variable {κ : Type}

/-- `send` with the signaling client that `_wsc.lock()` returned: the lambdas for success and
failure both hold the caller's callback. -/
def sendLocked (text : String) (id : RequestId) (callback : κ) (sc : SignalingClient κ) :
    Except Fault (SignalingClient κ) :=
  sc.send text id.val (some callback) (some callback)

/-- `send`: without a signaling client it logs and returns; no branch calls the callback. -/
def send (text : String) (id : RequestId) (callback : κ) (wsc : Option (SignalingClient κ)) :
    Except Fault (Option (SignalingClient κ) × List (Invocation κ)) :=
  match wsc with
  | none => .ok (none, [])
  | some sc => do
    let sc ← sendLocked text id callback sc
    return (some sc, [])

/-- `response` with the signaling client that `_wsc.lock()` returned: an answer carries the id
that the SFU chose, or -1, and no callback. -/
def responseLocked (text : String) (id : Option (IntN 64)) (sc : SignalingClient κ) :
    Except Fault (SignalingClient κ) :=
  sc.send text (id.elim (-1) Subtype.val) none none

/-- `response`: without a signaling client it logs and returns. -/
def response (text : String) (id : Option (IntN 64)) (wsc : Option (SignalingClient κ)) :
    Except Fault (Option (SignalingClient κ)) :=
  match wsc with
  | none => .ok none
  | some sc => do
    let sc ← responseLocked text id sc
    return some sc

/-- One call of the caller's callback: error code, error text and response. -/
structure Reply (Response : Type) where
  errorCode : ℤ
  errorInfo : String
  response : Option Response
  deriving DecidableEq

/-- The success lambda; `decode` is `fromJsonString` at the expected response model. -/
def onSuccess {Response : Type} (decode : String → Except JsonError Response) (json : String) :
    List (Reply Response) :=
  if json.isEmpty then []
  else
    match decode json with
    | .error _ => []
    | .ok response => [⟨0, "", some response⟩]

/-- The failure lambda. -/
def onFailure {Response : Type} (errorCode : ℤ) (errorInfo : String) : List (Reply Response) :=
  [⟨errorCode, errorInfo, none⟩]

/-- The calls of the caller's callback that an invocation of a stored lambda makes. -/
def replies {Response : Type} (decode : String → Except JsonError Response) :
    Invocation κ → List (Reply Response)
  | .resolved _ json => onSuccess decode json
  | .rejected _ errorCode errorInfo => onFailure errorCode errorInfo

end MediasoupApi
end MediasoupSdk
