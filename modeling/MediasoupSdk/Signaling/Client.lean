import MediasoupSdk.Foundation.Fault
import MediasoupSdk.Foundation.HashMap
import MediasoupSdk.Signaling.Models

/-! The websocket transport and the signaling client with its table of pending requests.
Callbacks are tokens of a type `κ`; a method returns the invocations that it makes. -/
namespace MediasoupSdk
open Foundation

/-- The pointers that the client dereferences. -/
inductive Pointer where
  | websocket
  | mediaController
  | mediasoupDevice
  | producer
  | consumer
  | dataConsumer
  | track
  deriving DecidableEq, Repr

abbrev Fault := Foundation.Fault Pointer

/-- `websocket` is the serial number of the endpoint object made by `connect`; `sent`
records the texts that reached a connection of an endpoint. -/
structure WebsocketTransport where
  websocket : Option ℕ := none
  connectionId : ℤ := -1
  endpoints : ℕ := 0
  sent : List (ℕ × ℤ × String) := []
  deriving DecidableEq, Repr

namespace WebsocketTransport

def isValid (t : WebsocketTransport) : Bool := t.websocket.isSome && t.connectionId != -1

/-- A new endpoint object replaces the old one; `newId` is what its `connect` returned. -/
def connect (newId : ℤ) (t : WebsocketTransport) : WebsocketTransport :=
  { t with websocket := some t.endpoints, endpoints := t.endpoints + 1, connectionId := newId }

def disconnect (t : WebsocketTransport) : WebsocketTransport :=
  if t.isValid then { t with connectionId := -1, websocket := none } else t

/-- `sendText` drops the text when the endpoint knows no connection with the id. -/
def send (text : String) (t : WebsocketTransport) : Except Fault WebsocketTransport :=
  if text.isEmpty then .ok t
  else do
    let endpoint ← deref .websocket t.websocket
    if t.connectionId = -1 then return t
    return { t with sent := t.sent ++ [(endpoint, t.connectionId, text)] }

end WebsocketTransport

structure WebsocketRequest (κ : Type) where
  id : ℤ
  text : String
  resolve : Option κ
  reject : Option κ
  deriving DecidableEq

/-- One call of a stored callback. -/
inductive Invocation (κ : Type) where
  | resolved (callback : κ) (json : String)
  | rejected (callback : κ) (errorCode : ℤ) (errorInfo : String)
  deriving DecidableEq

namespace WebsocketRequest

variable {κ : Type}

/-- The accessor `id()` returns `int32_t`. -/
def key (r : WebsocketRequest κ) : ℤ := wrap 32 r.id

def resolveWith (json : String) (r : WebsocketRequest κ) : List (Invocation κ) :=
  r.resolve.toList.map (.resolved · json)

def close (r : WebsocketRequest κ) : List (Invocation κ) :=
  r.reject.toList.map (.rejected · 2 "connection closed")

end WebsocketRequest

structure SignalingClient (κ : Type) where
  transport : WebsocketTransport
  requestMap : HashMap ℤ (WebsocketRequest κ)

namespace SignalingClient

variable {κ : Type}

/-- `_requestMap[request->id()] = request` -/
def store (request : WebsocketRequest κ) (sc : SignalingClient κ) : SignalingClient κ :=
  { sc with requestMap := sc.requestMap.insert request.key request }

def send (text : String) (transaction : ℤ) (scb fcb : Option κ) (sc : SignalingClient κ) :
    Except Fault (SignalingClient κ) :=
  if text.isEmpty then .ok sc
  else do
    let transport ← sc.transport.send text
    return store ⟨transaction, text, scb, fcb⟩ { sc with transport }

def connect (newId : ℤ) (sc : SignalingClient κ) : SignalingClient κ :=
  { sc with transport := sc.transport.connect newId }

def disconnect (sc : SignalingClient κ) : SignalingClient κ :=
  { sc with transport := sc.transport.disconnect }

def clearRequests (sc : SignalingClient κ) : SignalingClient κ := { sc with requestMap := ∅ }

/-- The part of `onClosed` before the observers are notified. -/
def onClosed (sc : SignalingClient κ) : SignalingClient κ × List (Invocation κ) :=
  (sc.clearRequests, sc.requestMap.values.flatMap WebsocketRequest.close)

inductive MessageKind where
  | notification
  | response
  | request
  deriving DecidableEq, Repr

/-- The branch that `onMessage` takes; a text of no kind is dropped. -/
def messageKind (R : Rapidjson) (json : String) : Option MessageKind :=
  match fromJsonString R Signaling.MessageType (Fields.fresh _) json with
  | .error _ => none
  | .ok (request, response, notification, ()) =>
    if notification.getD false then some .notification
    else if response.getD false then some .response
    else if request.getD false then some .request
    else none

/-- The id that `handleResponse` looks up: a header without id, or with the id -1, has none. -/
def responseId (R : Rapidjson) (json : String) : Option ℤ :=
  match fromJsonString R Signaling.ResponseHeader (Fields.fresh _) json with
  | .ok (_, some id, _, ()) => if id.val = -1 then none else some id.val
  | _ => none

/-- The critical section of the task that `handleResponse` posts. -/
def takeRequest (id : ℤ) (sc : SignalingClient κ) :
    Option (WebsocketRequest κ) × SignalingClient κ :=
  match sc.requestMap.lookup id with
  | some request => (some request, { sc with requestMap := sc.requestMap.erase id })
  | none => (none, sc)

/-- The task that `handleResponse` posts to the transport thread. -/
def handleResponse (R : Rapidjson) (json : String) (sc : SignalingClient κ) :
    SignalingClient κ × List (Invocation κ) :=
  match responseId R json with
  | none => (sc, [])
  | some id =>
    match sc.takeRequest id with
    | (some request, sc) => (sc, request.resolveWith json)
    | (none, sc) => (sc, [])

@[simp] theorem store_lookup (request : WebsocketRequest κ) (sc : SignalingClient κ) (k : ℤ) :
    (sc.store request).requestMap.lookup k =
      if k = request.key then some request else sc.requestMap.lookup k :=
  HashMap.lookup_insert_eq_ite _ _ _ _

/-- A successful send leaves the transport to `WebsocketTransport::send` and stores the
request under its 32-bit id. -/
theorem send_ok {text : String} {transaction : ℤ} {scb fcb : Option κ}
    {sc sc' : SignalingClient κ} (ht : text.isEmpty = false)
    (h : sc.send text transaction scb fcb = .ok sc') :
    sc'.requestMap =
      sc.requestMap.insert (wrap 32 transaction) ⟨transaction, text, scb, fcb⟩ := by
  simp only [send, ht, Bool.false_eq_true, ↓reduceIte, bind_ok, pure, Except.pure,
    Except.ok.injEq] at h
  obtain ⟨transport, -, rfl⟩ := h
  rfl

end SignalingClient
end MediasoupSdk
