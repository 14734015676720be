import MediasoupSdk.Foundation.Execution
import MediasoupSdk.Signaling.Client

/-! The websocket transport over its endpoint objects. Each connect makes a new endpoint, which
numbers its connections from 0 and keeps them in a list. -/
namespace MediasoupSdk
open Foundation

/-- The data of the two overloads of `send`. -/
inductive Payload where
  | text (s : String)
  | binary (bytes : List UInt8)
  deriving DecidableEq

def Payload.isEmpty : Payload → Bool
  | .text s => s.isEmpty
  | .binary bytes => bytes.isEmpty

/-- What websocketpp answers to `get_connection` and `add_subprotocol`. -/
structure WebsocketppAnswer where
  connection : Bool
  subprotocol : Bool
  deriving DecidableEq, Repr

/-- The keys of `_connectionList` are the ids given out so far. -/
structure TLSWebsocketEndpoint where
  connectionList : List ℤ := []
  nextId : ℕ := 0
  given : ∀ id ∈ connectionList, 0 ≤ id ∧ id < nextId := by simp
  deriving DecidableEq

namespace TLSWebsocketEndpoint

/-- A new connection with the next id. -/
def addConnection (e : TLSWebsocketEndpoint) : TLSWebsocketEndpoint where
  connectionList := e.connectionList ++ [(e.nextId : ℤ)]
  nextId := e.nextId + 1
  given := by
    intro id hid
    rw [List.mem_append, List.mem_singleton] at hid
    rcases hid with hid | rfl
    · have hgiven := e.given id hid
      omega
    · omega

/-- The id of the connection, or -1 with nothing changed. -/
def connect (answer : WebsocketppAnswer) (subprotocol : String) (e : TLSWebsocketEndpoint) :
    ℤ × TLSWebsocketEndpoint :=
  if answer.connection = false then (-1, e)
  else if subprotocol.isEmpty = false ∧ answer.subprotocol = false then (-1, e)
  else (e.nextId, e.addConnection)

/-- `sendText` and `sendBinary`: what goes out, and on which connection. A text for an id that is
not in the list is dropped. -/
def send (id : ℤ) (payload : Payload) (e : TLSWebsocketEndpoint) : List (ℤ × Payload) :=
  if id ∈ e.connectionList then [(id, payload)] else []

/-- The connection on which `close` starts the closing handshake. -/
def close (id : ℤ) (e : TLSWebsocketEndpoint) : List ℤ :=
  if id ∈ e.connectionList then [id] else []

theorem neg_one_notMem (e : TLSWebsocketEndpoint) : -1 ∉ e.connectionList := by
  intro h
  have hgiven := e.given (-1) h
  omega

/-- A connect that does not return -1 returns the id of a connection in its list. -/
theorem connect_mem {answer : WebsocketppAnswer} {subprotocol : String} {e : TLSWebsocketEndpoint}
    (h : (e.connect answer subprotocol).1 ≠ -1) :
    (e.connect answer subprotocol).1 ∈ (e.connect answer subprotocol).2.connectionList := by
  unfold connect at h ⊢
  split_ifs at h ⊢
  · exact absurd rfl h
  · exact absurd rfl h
  · simp [addConnection]

end TLSWebsocketEndpoint

/-- `websocket` holds the endpoint with the number of the connect that made it; `wire` and
`closing` record what was sent and closed, with that number and the id of the connection. -/
structure TLSWebsocketTransport where
  websocket : Option (ℕ × TLSWebsocketEndpoint) := none
  connectionId : ℤ := -1
  connects : ℕ := 0
  wire : List (ℕ × ℤ × Payload) := []
  closing : List (ℕ × ℤ) := []
  deriving DecidableEq

namespace TLSWebsocketTransport

def isValid (t : TLSWebsocketTransport) : Bool := t.websocket.isSome && t.connectionId != -1

def connect (answer : WebsocketppAnswer) (subprotocol : String) (t : TLSWebsocketTransport) :
    TLSWebsocketTransport :=
  let (id, endpoint) := ({} : TLSWebsocketEndpoint).connect answer subprotocol
  { t with websocket := some (t.connects, endpoint), connectionId := id,
           connects := t.connects + 1 }

def disconnect (t : TLSWebsocketTransport) : Except Fault TLSWebsocketTransport :=
  if t.isValid then do
    let (n, endpoint) ← deref .websocket t.websocket
    return { t with closing := t.closing ++ (endpoint.close t.connectionId).map (n, ·),
                    connectionId := -1, websocket := none }
  else return t

def send (payload : Payload) (t : TLSWebsocketTransport) : Except Fault TLSWebsocketTransport :=
  if payload.isEmpty then return t
  else do
    let (n, endpoint) ← deref .websocket t.websocket
    return { t with wire := t.wire ++ (endpoint.send t.connectionId payload).map (n, ·) }

end TLSWebsocketTransport

inductive TransportCall where
  | connect (answer : WebsocketppAnswer) (subprotocol : String)
  | disconnect
  | send (payload : Payload)
  deriving DecidableEq

namespace TLSWebsocketTransport

def step (t : TLSWebsocketTransport) : TransportCall → Except Fault TLSWebsocketTransport
  | .connect answer subprotocol => .ok (t.connect answer subprotocol)
  | .disconnect => t.disconnect
  | .send payload => t.send payload

end TLSWebsocketTransport

/-- What the calls alone say: how often connect was called, the connection that is current with
the number of its connect, whether the endpoint of the last connect is still held, and the
payloads that were sent while there was a current connection. -/
structure ConnectionHistory where
  connects : ℕ := 0
  current : Option (ℕ × ℤ) := none
  held : Bool := false
  handed : List (ℕ × ℤ × Payload) := []

namespace ConnectionHistory

/-- The id that connect returns on the endpoint that it makes. -/
def returned (answer : WebsocketppAnswer) (subprotocol : String) : ℤ :=
  (({} : TLSWebsocketEndpoint).connect answer subprotocol).1

/-- A connect that returned -1 leaves no connection, and a disconnect then leaves the endpoint. -/
def next (h : ConnectionHistory) : TransportCall → ConnectionHistory
  | .connect answer subprotocol =>
    let id := returned answer subprotocol
    { h with connects := h.connects + 1, held := true,
             current := if id = -1 then none else some (h.connects, id) }
  | .disconnect => { h with current := none, held := h.held && h.current.isNone }
  | .send payload =>
    if payload.isEmpty then h
    else { h with handed := h.handed ++ h.current.toList.map fun c => (c.1, c.2, payload) }

end ConnectionHistory

/-- A transport beside the history of its calls. -/
structure TransportSession where
  transport : TLSWebsocketTransport := {}
  history : ConnectionHistory := {}

namespace TransportSession

def step (s : TransportSession) (call : TransportCall) : Except Fault TransportSession := do
  let transport ← s.transport.step call
  return ⟨transport, s.history.next call⟩

/-- A payload is sent only while an endpoint is held: after a connect, and no disconnect has
closed a connection since. -/
def SentWhileHeld (s : TransportSession) : TransportCall → Prop
  | .send payload => payload.isEmpty = false → s.history.held = true
  | _ => True

instance (s : TransportSession) (call : TransportCall) : Decidable (s.SentWhileHeld call) := by
  unfold SentWhileHeld
  cases call <;> infer_instance

/-- The transport is at the connection that the calls say is current. -/
structure Inv (s : TransportSession) : Prop where
  connects : s.transport.connects = s.history.connects
  held : s.transport.websocket.isSome = s.history.held
  connected : ∀ n id, s.history.current = some (n, id) → s.transport.connectionId = id ∧
    ∃ e, s.transport.websocket = some (n, e) ∧ id ∈ e.connectionList
  disconnected : s.history.current = none → s.transport.connectionId = -1
  wire : s.transport.wire = s.history.handed

namespace Inv

variable {s : TransportSession}

theorem connect (h : s.Inv) (answer : WebsocketppAnswer) (subprotocol : String) :
    Inv ⟨s.transport.connect answer subprotocol,
      s.history.next (.connect answer subprotocol)⟩ := by
  constructor
  · show s.transport.connects + 1 = s.history.connects + 1
    rw [h.connects]
  · rfl
  · intro n id hcurrent
    simp only [ConnectionHistory.next] at hcurrent
    split_ifs at hcurrent with hfailed
    cases hcurrent
    refine ⟨rfl, _, ?_, TLSWebsocketEndpoint.connect_mem hfailed⟩
    rw [← h.connects]
    rfl
  · intro hnone
    simp only [ConnectionHistory.next] at hnone
    split_ifs at hnone with hfailed
    exact hfailed
  · exact h.wire

theorem isValid_iff (h : s.Inv) : s.transport.isValid = s.history.current.isSome := by
  cases hcurrent : s.history.current with
  | none => simp [TLSWebsocketTransport.isValid, h.disconnected hcurrent]
  | some c =>
    obtain ⟨hid, e, hsocket, hmem⟩ := h.connected c.1 c.2 hcurrent
    have hne : c.2 ≠ -1 := fun he => e.neg_one_notMem (he ▸ hmem)
    simp [TLSWebsocketTransport.isValid, hid, hsocket, hne]

theorem disconnect (h : s.Inv) : ∃ t, s.transport.disconnect = .ok t ∧
    Inv ⟨t, s.history.next .disconnect⟩ := by
  rw [TLSWebsocketTransport.disconnect, h.isValid_iff]
  cases hcurrent : s.history.current with
  | none =>
    refine ⟨s.transport, rfl, h.connects, ?_, by simp [ConnectionHistory.next],
      fun _ => h.disconnected hcurrent, h.wire⟩
    show s.transport.websocket.isSome = (s.history.held && s.history.current.isNone)
    rw [hcurrent, h.held, Option.isNone_none, Bool.and_true]
  | some c =>
    obtain ⟨-, e, hsocket, -⟩ := h.connected c.1 c.2 hcurrent
    rw [hsocket]
    refine ⟨_, rfl, h.connects, ?_, by simp [ConnectionHistory.next], fun _ => rfl, h.wire⟩
    show false = (s.history.held && s.history.current.isNone)
    rw [hcurrent, Option.isNone_some, Bool.and_false]

/-- What a send puts on the wire: nothing without a current connection. -/
theorem send_eq (h : s.Inv) {n : ℕ} {e : TLSWebsocketEndpoint}
    (hsocket : s.transport.websocket = some (n, e)) (payload : Payload) :
    (e.send s.transport.connectionId payload).map (n, ·) =
      s.history.current.toList.map fun c => (c.1, c.2, payload) := by
  cases hcurrent : s.history.current with
  | none =>
    rw [h.disconnected hcurrent, TLSWebsocketEndpoint.send, if_neg e.neg_one_notMem]
    rfl
  | some c =>
    obtain ⟨hid, e', hsocket', hmem⟩ := h.connected c.1 c.2 hcurrent
    rw [hsocket, Option.some.injEq, Prod.mk.injEq] at hsocket'
    obtain ⟨rfl, rfl⟩ := hsocket'
    rw [hid, TLSWebsocketEndpoint.send, if_pos hmem]
    rfl

/-- A payload goes out on the current connection and nowhere else. -/
theorem send_ok (h : s.Inv) {payload : Payload} {t : TLSWebsocketTransport}
    (hempty : payload.isEmpty = false) (hsend : s.transport.send payload = .ok t) :
    ∃ n, s.transport.websocket.map Prod.fst = some n ∧ t = { s.transport with wire :=
      s.transport.wire ++ (s.history.current.toList.map fun c => (c.1, c.2, payload)) } := by
  rw [TLSWebsocketTransport.send, hempty] at hsend
  obtain ⟨⟨n, e⟩, hsocket, ht⟩ := bind_ok.mp hsend
  rw [deref_eq_ok] at hsocket
  refine ⟨n, by rw [hsocket]; rfl, ?_⟩
  rw [← h.send_eq hsocket payload]
  exact (Except.ok.inj ht).symm

theorem send (h : s.Inv) {payload : Payload} (hheld : s.SentWhileHeld (.send payload)) :
    ∃ t, s.transport.send payload = .ok t ∧ Inv ⟨t, s.history.next (.send payload)⟩ := by
  rw [ConnectionHistory.next]
  cases hempty : payload.isEmpty with
  | true => exact ⟨s.transport, if_pos hempty, h⟩
  | false =>
    have hsome : s.transport.websocket.isSome = true := h.held.trans (hheld hempty)
    obtain ⟨socket, hsocket⟩ := Option.isSome_iff_exists.mp hsome
    obtain ⟨t, ht⟩ : ∃ t, s.transport.send payload = .ok t := by
      rw [TLSWebsocketTransport.send, hempty, deref_eq_ok.mpr hsocket]
      exact ⟨_, rfl⟩
    obtain ⟨-, -, rfl⟩ := h.send_ok hempty ht
    refine ⟨_, ht, h.connects, h.held, h.connected, h.disconnected, ?_⟩
    show s.transport.wire ++ _ = s.history.handed ++ _
    rw [h.wire]

/-- A call that sends only while an endpoint is held completes and keeps the invariant. -/
theorem step (h : s.Inv) {call : TransportCall} (hheld : s.SentWhileHeld call) :
    ∃ s', s.step call = .ok s' ∧ s'.Inv := by
  have hstep : ∃ t, s.transport.step call = .ok t ∧ Inv ⟨t, s.history.next call⟩ := by
    cases call with
    | connect answer subprotocol => exact ⟨_, rfl, h.connect answer subprotocol⟩
    | disconnect => exact h.disconnect
    | send payload => exact h.send hheld
  obtain ⟨t, ht, hinv⟩ := hstep
  exact ⟨_, by rw [TransportSession.step, ht]; rfl, hinv⟩

/-- Any other send dereferences a null pointer. -/
theorem step_fault (h : s.Inv) {call : TransportCall} (hheld : ¬ s.SentWhileHeld call) :
    s.step call = .error (.nullPointer .websocket) := by
  cases call with
  | connect | disconnect => exact absurd trivial hheld
  | send payload =>
    obtain ⟨hempty, hnot⟩ : payload.isEmpty = false ∧ s.history.held ≠ true := by
      simpa [SentWhileHeld] using hheld
    have hnone : s.transport.websocket = none := by
      rw [← h.held, ne_eq, Option.isSome_iff_ne_none, not_not] at hnot
      exact hnot
    simp only [TransportSession.step, TLSWebsocketTransport.step, TLSWebsocketTransport.send,
      hempty, hnone]
    rfl

theorem of_step (h : s.Inv) {call : TransportCall} {s' : TransportSession}
    (hs : s.step call = .ok s') : s'.Inv := by
  by_cases hheld : s.SentWhileHeld call
  · obtain ⟨t, ht, hinv⟩ := h.step hheld
    rw [hs, Except.ok.injEq] at ht
    exact ht ▸ hinv
  · rw [h.step_fault hheld] at hs
    cases hs

end Inv

theorem start_inv : Inv {} := by
  constructor <;> simp

/-- Exactly the runs that send only while an endpoint is held never dereference a null
`_websocket`; in these, what is sent during a connection goes out on this connection and nothing
else goes out. -/
theorem sends_reach_current_iff (calls : List TransportCall) :
    (∀ pre, pre <+: calls → ∃ s, exec step {} pre = .ok s ∧
        s.transport.wire = s.history.handed) ↔
      Guarded step SentWhileHeld {} calls := by
  have hgood := @forall_prefix_good_iff_guarded _ _ _ step SentWhileHeld Inv (fun _ => True)
    (fun x => ∃ s : TransportSession, x = .ok s ∧ s.transport.wire = s.history.handed)
    (fun s h => ⟨s, rfl, h.wire⟩) (fun s call h _ hheld => Or.inl (h.step hheld))
    (fun s call h _ hheld => by
      rw [h.step_fault hheld]
      simp)
    calls (fun _ _ => trivial)
  exact hgood start_inv

/-- A client that sends before its first connect, and one that sends after it has disconnected. -/
theorem send_without_endpoint :
    exec step {} [.send (.text "join")] = .error (.nullPointer .websocket) ∧
      exec step {} [.connect ⟨true, true⟩ "", .disconnect, .send (.text "leave")] =
        .error (.nullPointer .websocket) :=
  ⟨rfl, rfl⟩

end TransportSession

def Payload.text? : Payload → Option String
  | .text s => some s
  | .binary _ => none

/-- The transport without the lists of its endpoints; binary data leaves no trace. -/
def TLSWebsocketTransport.view (t : TLSWebsocketTransport) : WebsocketTransport where
  websocket := t.websocket.map Prod.fst
  connectionId := t.connectionId
  endpoints := t.connects
  sent := t.wire.filterMap fun x => x.2.2.text?.map fun s => (x.1, x.2.1, s)

namespace WebsocketTransport

/-- The calls on the transport that knows its endpoints by number only. -/
def step (t : WebsocketTransport) : TransportCall → Except Fault WebsocketTransport
  | .connect answer subprotocol => .ok (t.connect (ConnectionHistory.returned answer subprotocol))
  | .disconnect => .ok t.disconnect
  | .send (.text s) => t.send s
  | .send (.binary _) => .ok t

end WebsocketTransport

namespace TransportSession

variable {s s' : TransportSession}

theorem view_isValid (t : TLSWebsocketTransport) : t.view.isValid = t.isValid := by
  simp [WebsocketTransport.isValid, TLSWebsocketTransport.isValid, TLSWebsocketTransport.view]

theorem disconnect_view {t : TLSWebsocketTransport}
    (hdisconnect : s.transport.disconnect = .ok t) :
    s.transport.view.disconnect = t.view := by
  rw [TLSWebsocketTransport.disconnect] at hdisconnect
  rw [WebsocketTransport.disconnect, view_isValid]
  split_ifs at hdisconnect ⊢ with hvalid
  · obtain ⟨endpoint, -, ht⟩ := bind_ok.mp hdisconnect
    cases ht
    rfl
  · cases hdisconnect
    rfl

theorem binary_view (current : Option (ℕ × ℤ)) (bytes : List UInt8) :
    (current.toList.map fun c => (c.1, c.2, Payload.binary bytes)).filterMap
      (fun x => x.2.2.text?.map fun s => (x.1, x.2.1, s)) = [] := by
  cases current <;> rfl

theorem send_view (h : s.Inv) {payload : Payload} {t : TLSWebsocketTransport}
    (hsend : s.transport.send payload = .ok t) :
    s.transport.view.step (.send payload) = .ok t.view := by
  cases hempty : payload.isEmpty with
  | true =>
    rw [TLSWebsocketTransport.send, if_pos hempty] at hsend
    cases hsend
    cases payload with
    | text text => exact if_pos hempty
    | binary bytes => rfl
  | false =>
    obtain ⟨n, hsocket, rfl⟩ := h.send_ok hempty hsend
    cases payload with
    | binary bytes =>
      rw [WebsocketTransport.step, TLSWebsocketTransport.view, TLSWebsocketTransport.view,
        List.filterMap_append, binary_view, List.append_nil]
    | text text =>
      have htext : text.isEmpty = false := hempty
      simp only [WebsocketTransport.step, WebsocketTransport.send, TLSWebsocketTransport.view,
        htext, hsocket, List.filterMap_append, Payload.text?, bind, Except.bind]
      cases hcurrent : s.history.current with
      | none => simp [h.disconnected hcurrent, pure, Except.pure]
      | some c =>
        obtain ⟨hid, e, hsocket', hmem⟩ := h.connected c.1 c.2 hcurrent
        have hne : c.2 ≠ -1 := fun he => e.neg_one_notMem (he ▸ hmem)
        have hn : n = c.1 := by simpa [hsocket'] using hsocket.symm
        simp [hid, hne, hn, pure, Except.pure]

/-- Every step of the transport is one of the transport that the signaling client uses. -/
theorem step_view (h : s.Inv) {call : TransportCall} (hs : s.step call = .ok s') :
    s.transport.view.step call = .ok s'.transport.view := by
  obtain ⟨t, ht, hs'⟩ := bind_ok.mp hs
  cases hs'
  cases call with
  | connect answer subprotocol =>
    cases ht
    rfl
  | disconnect => exact congrArg Except.ok (disconnect_view ht)
  | send payload => exact send_view h ht

/-- A run over the endpoint objects is a run of the transport of the signaling client. -/
theorem run_view {calls : List TransportCall} (h : s.Inv) (hs : exec step s calls = .ok s') :
    exec WebsocketTransport.step s.transport.view calls = .ok s'.transport.view := by
  induction calls generalizing s with
  | nil =>
    cases hs
    rfl
  | cons call rest ih =>
    obtain ⟨m, hm, hrest⟩ := exec_cons_ok.mp hs
    exact exec_cons_ok.mpr ⟨_, step_view h hm, ih (h.of_step hm) hrest⟩

/-- A client that joins, sends binary data and disconnects. -/
theorem run_view_join :
    exec WebsocketTransport.step {}
        [.connect ⟨true, true⟩ "", .send (.text "join"), .send (.binary [0]), .disconnect] =
      .ok { endpoints := 1, sent := [(0, 0, "join")] } := by
  have hrun : exec step {}
      [.connect ⟨true, true⟩ "", .send (.text "join"), .send (.binary [0]), .disconnect] =
        .ok ⟨{ connects := 1, wire := [(0, 0, .text "join"), (0, 0, .binary [0])],
               closing := [(0, 0)] },
          { connects := 1, handed := [(0, 0, .text "join"), (0, 0, .binary [0])] }⟩ := rfl
  exact run_view start_inv hrun

end TransportSession

end MediasoupSdk
