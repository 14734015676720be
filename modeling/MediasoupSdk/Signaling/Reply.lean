import MediasoupSdk.Signaling.RequestTable

/-! What the caller of `MediasoupApi` learns about a request: the calls of its callback, and
the promises on which `_onConnect`, `_onProduce` and `_onProduceData` wait. -/
namespace MediasoupSdk
open Foundation Signaling
namespace MediasoupApi

variable {κ : Type}

/-- The callback of `_onConnect`: every branch sets the promise. -/
def onConnectReply (_alive : Bool) (_reply : Reply (Response Unit)) : Except Fault Unit := .ok ()

/-- The callback of `_onProduce` and of `_onProduceData`; the value is what the promise is set
to. `!response->ok` asks whether the member is there. -/
def onProduceReply (alive : Bool) (reply : Reply (Response ProduceResponse.Data)) :
    Except Fault String :=
  if !alive then .ok ""
  else if reply.errorCode ≠ 0 then .ok ""
  else
    match reply.response with
    | none => .ok ""
    | some response =>
      if response.ok.isNone then .ok ""
      else do
        let data ← engaged response.data
        return data.id.getD ""

/-- A request with a waiting promise, or any other request by its response model. -/
inductive Method where
  | connectWebRtcTransport
  | produce
  | produceData
  | other (response : Fields)

namespace Method

abbrev Response : Method → Type
  | .connectWebRtcTransport => Signaling.Response Unit
  | .produce => Signaling.Response ProduceResponse.Data
  | .produceData => Signaling.Response ProduceResponse.Data
  | .other response => response.Val

def decode (R : Rapidjson) : (m : Method) → String → Except JsonError m.Response
  | .connectWebRtcTransport, json => decodeBasicResponse R json
  | .produce, json => decodeProduceResponse R json
  | .produceData, json => decodeProduceResponse R json
  | .other response, json => fromJsonString R response (Fields.fresh _) json

/-- The reply fulfils the promise that the sender of the request waits on, if there is one. -/
def Fulfils : (m : Method) → Bool → Reply m.Response → Prop
  | .connectWebRtcTransport, alive, reply => ∃ v, onConnectReply alive reply = .ok v
  | .produce, alive, reply => ∃ v, onProduceReply alive reply = .ok v
  | .produceData, alive, reply => ∃ v, onProduceReply alive reply = .ok v
  | .other _, _, _ => True

/-- The `data` that the callback of a produce request reads is there. -/
def DataThere : (m : Method) → Bool → m.Response → Prop
  | .produce, alive, response => alive → response.ok.isSome → response.data.isSome
  | .produceData, alive, response => alive → response.ok.isSome → response.data.isSome
  | .connectWebRtcTransport, _, _ => True
  | .other _, _, _ => True

end Method

variable (R : Rapidjson) (q : SignalingClient.ClientRequest κ)

/-- A response with the id of a request, and a state of the signaling client in which the
request waits. -/
structure Answer where
  client : SignalingClient κ
  json : String
  carries : SignalingClient.responseId R json = some q.id.val
  waits : client.requestMap.lookup q.id.val = some q.stored

/-- A request finds no signaling client, or its response is resolved. -/
inductive Fate where
  | gone
  | answered (answer : Answer R q)

variable {R q}

/-- The calls of the request's callback. -/
def Fate.calls (m : Method) : Fate R q → Except Fault (List (Reply m.Response))
  | .gone => do
    let (_, invocations) ← send q.text q.id q.callback none
    return invocations.flatMap (replies (m.decode R))
  | .answered a => .ok ((a.client.handleResponse R a.json).2.flatMap (replies (m.decode R)))

/-- The callback is called exactly once: with the decoded response and code 0, or with an
error code when there is no such response. -/
def Fate.CalledOnce (m : Method) (fate : Fate R q) : Prop :=
  ∃ reply, fate.calls m = .ok [reply] ∧
    match fate with
    | .gone => reply.errorCode ≠ 0
    | .answered a =>
      match m.decode R a.json with
      | .ok response => reply.errorCode = 0 ∧ reply.response = some response
      | .error _ => reply.errorCode ≠ 0

/-- Some call of the callback fulfils the promise; `alive` tells whether the room client is. -/
def Fate.PromiseSet (m : Method) (alive : Bool) (fate : Fate R q) : Prop :=
  ∃ calls, fate.calls m = .ok calls ∧ ∃ reply ∈ calls, m.Fulfils alive reply

/-- The signaling client is there and the text decodes as the expected model. -/
def Fate.Decodes (m : Method) (alive : Bool) : Fate R q → Prop
  | .gone => False
  | .answered a => a.json.isEmpty = false ∧
      ∃ response, m.decode R a.json = .ok response ∧ m.DataThere alive response

theorem onProduceReply_fulfils_iff (alive : Bool) (response : Response ProduceResponse.Data) :
    (∃ v, onProduceReply alive ⟨0, "", some response⟩ = .ok v) ↔
      (alive → response.ok.isSome → response.data.isSome) := by
  obtain ⟨ok, data⟩ := response
  cases alive with
  | false => simp [onProduceReply]
  | true =>
    cases ok with
    | none => simp [onProduceReply]
    | some b =>
      cases data with
      | none => simp [onProduceReply, bind, Except.bind]
      | some d => simp [onProduceReply, bind, Except.bind, pure, Except.pure]

theorem Method.fulfils_iff (m : Method) (alive : Bool) (response : m.Response) :
    m.Fulfils alive ⟨0, "", some response⟩ ↔ m.DataThere alive response := by
  cases m with
  | connectWebRtcTransport => simp [Method.Fulfils, Method.DataThere, onConnectReply]
  | produce => exact onProduceReply_fulfils_iff alive response
  | produceData => exact onProduceReply_fulfils_iff alive response
  | other fields => simp [Method.Fulfils, Method.DataThere]

/-- The response of a waiting request reaches the success lambda of that request only. -/
theorem Answer.calls_eq (m : Method) (a : Answer R q) :
    (Fate.answered a).calls m = .ok (onSuccess (m.decode R) a.json) := by
  simp [Fate.calls, SignalingClient.handleResponse, a.carries, SignalingClient.takeRequest,
    a.waits, SignalingClient.ClientRequest.stored, WebsocketRequest.resolveWith, replies]

theorem gone_calls_eq (m : Method) : (Fate.gone : Fate R q).calls m = .ok [] := rfl

/-- The callback is called once and the promise is set exactly when the signaling client is
there and the response decodes, with the `data` that a produce callback reads. -/
theorem called_once_iff (m : Method) (alive : Bool) (fate : Fate R q) :
    (fate.CalledOnce m ∧ fate.PromiseSet m alive) ↔ fate.Decodes m alive := by
  cases fate with
  | gone =>
    constructor
    · rintro ⟨⟨reply, hcalls, -⟩, -⟩
      rw [gone_calls_eq] at hcalls
      cases hcalls
    · exact False.elim
  | answered a =>
    simp only [Fate.CalledOnce, Fate.PromiseSet, Fate.Decodes, Answer.calls_eq, onSuccess]
    cases hempty : a.json.isEmpty with
    | true => simp
    | false =>
      cases hd : m.decode R a.json with
      | error e => simp
      | ok response => simp [← Method.fulfils_iff]

/-- The SFU sends a number for the id of the new producer. -/
def numberForId : String :=
  "\x7b\"response\":true,\"id\":7,\"ok\":true,\"data\":\x7b\"id\":5\x7d\x7d"

/-- What rapidjson reads from that text. -/
def numberForIdJson : Rapidjson where
  parse text :=
    if text = numberForId then
      some (.object [("response", .bool true), ("id", .int 7), ("ok", .bool true),
        ("data", .object [("id", .int 5)])])
    else none

def numberForIdAnswer : Answer numberForIdJson SignalingClient.produceRequest where
  client := { SignalingClient.idle with
    requestMap := (∅ : HashMap ℤ (WebsocketRequest String)).insert 7
      SignalingClient.produceRequest.stored }
  json := numberForId
  carries := by decide
  waits := rfl

/-- The header of the response decodes and the body does not: nobody is called, and the
thread in `_onProduce` waits forever. -/
theorem undecodable_response_silent :
    ¬ ((Fate.answered numberForIdAnswer).CalledOnce .produce ∧
      (Fate.answered numberForIdAnswer).PromiseSet .produce true) := by
  rintro ⟨⟨reply, hcalls, -⟩, -⟩
  rw [Answer.calls_eq] at hcalls
  cases hcalls

end MediasoupApi
end MediasoupSdk
