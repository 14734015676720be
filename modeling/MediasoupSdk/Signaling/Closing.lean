import MediasoupSdk.Foundation.Mutex
import MediasoupSdk.Signaling.RequestTable

/-! `onClosed` and the failure callbacks that it runs while it holds `_requestMutex`. A callback
may come back to the client with any calls. -/
namespace MediasoupSdk
open Foundation

/-- What ends the program inside `onClosed`. -/
inductive ClosingStop where
  | relocked
  | iterationBroken
  | thrown
  | fault (f : Fault)
  deriving DecidableEq

/-- A client in `onClosed`: whether the loop over `_requestMap` is running, the calls of failure
callbacks so far, and the requests that were stored meanwhile. -/
structure Closing (κ : Type) where
  client : SignalingClient κ
  iterating : Bool := false
  calls : List (Invocation κ) := []
  registered : List (WebsocketRequest κ) := []
  notified : Bool := false

namespace Closing

variable {κ : Type}

/-- Insertion and `clear` must not happen while the loop is running. -/
def modifyMap (f : SignalingClient κ → SignalingClient κ) (c : Closing κ) :
    Except ClosingStop (Closing κ) :=
  if c.iterating then .error .iterationBroken else .ok { c with client := f c.client }

def store (request : WebsocketRequest κ) (c : Closing κ) : Except ClosingStop (Closing κ) := do
  let c ← c.modifyMap (SignalingClient.store request)
  return { c with registered := c.registered ++ [request] }

end Closing

/-- The calls that the interface of the client offers to a callback. -/
inductive ClientCall (κ : Type) where
  | send (text : String) (transaction : ℤ) (scb fcb : Option κ)
  | sendData (data : List UInt8) (transaction : ℤ) (scb fcb : Option κ)
  | connect (newId : ℤ)
  | disconnect
  | init
  | destroy

namespace ClientCall

variable {κ : Type}

/-- Both overloads of `send`: the transport first, then the table. -/
def sendWith (transport : Except Fault WebsocketTransport) (request : WebsocketRequest κ)
    (s : Mutexed (Closing κ)) : Except ClosingStop (Mutexed (Closing κ)) :=
  match transport with
  | .error f => .error (.fault f)
  | .ok transport =>
    Mutexed.locked .relocked (Closing.store request)
      { s with value := { s.value with client := { s.value.client with transport } } }

def withTransport (f : WebsocketTransport → WebsocketTransport) (s : Mutexed (Closing κ)) :
    Mutexed (Closing κ) :=
  { s with value := { s.value with
      client := { s.value.client with transport := f s.value.client.transport } } }

/-- Binary data leaves no trace in the transport of the client, but it needs an endpoint. -/
def run : ClientCall κ → Mutexed (Closing κ) → Except ClosingStop (Mutexed (Closing κ))
  | .send text transaction scb fcb, s =>
    if text.isEmpty then .ok s
    else sendWith (s.value.client.transport.send text) ⟨transaction, text, scb, fcb⟩ s
  | .sendData data transaction scb fcb, s =>
    if data.isEmpty then .ok s
    else sendWith ((deref .websocket s.value.client.transport.websocket).map
      fun _ => s.value.client.transport) ⟨transaction, "", scb, fcb⟩ s
  | .connect newId, s => .ok (withTransport (·.connect newId) s)
  | .disconnect, s => .ok (withTransport (·.disconnect) s)
  | .init, s | .destroy, s =>
    Mutexed.locked .relocked (Closing.modifyMap SignalingClient.clearRequests) s

/-- The call acquires `_requestMutex`. -/
def Locks : ClientCall κ → Prop
  | .send text _ _ _ => text.isEmpty = false
  | .sendData data _ _ _ => data.isEmpty = false
  | .connect _ | .disconnect => False
  | .init | .destroy => True

end ClientCall

/-- What an invocation of a failure callback does: calls on the client, and perhaps an exception
at the end. -/
structure Behaviour (κ : Type) where
  calls : List (ClientCall κ)
  throws : Bool := false

namespace Behaviour

variable {κ : Type}

def run (b : Behaviour κ) (s : Mutexed (Closing κ)) : Except ClosingStop (Mutexed (Closing κ)) := do
  let s ← b.calls.foldlM (fun s call => call.run s) s
  if b.throws then .error .thrown else return s

/-- No call acquires the mutex and nothing is thrown. -/
def Quiet (b : Behaviour κ) : Prop := b.throws = false ∧ ∀ call ∈ b.calls, ¬ call.Locks

end Behaviour

namespace Closing

variable {κ : Type}

/-- One call of a failure callback. What it does may depend on the calls before it. -/
def tell (behave : List (Invocation κ) → Behaviour κ) (s : Mutexed (Closing κ))
    (call : Invocation κ) : Except ClosingStop (Mutexed (Closing κ)) :=
  (behave (s.value.calls ++ [call])).run
    { s with value := { s.value with calls := s.value.calls ++ [call] } }

/-- `onClosed`: the requests are closed and the table is cleared under the mutex; the observers,
which only post tasks, are notified under it as well. -/
def onClosed (behave : List (Invocation κ) → Behaviour κ) (sc : SignalingClient κ) :
    Except ClosingStop (Mutexed (Closing κ)) :=
  Mutexed.withLock .relocked (fun s => do
    let s ← sc.requestMap.values.foldlM (fun s request => request.close.foldlM (tell behave) s)
      { s with value := { s.value with iterating := true } }
    let value ← modifyMap SignalingClient.clearRequests { s.value with iterating := false }
    return { s with value := { value with notified := true } }) ⟨{ client := sc }, false⟩

/-- Each pending request was told once that it failed, and a request that was stored meanwhile is
still in the table or was told as well. -/
structure Complete (sc : SignalingClient κ) (c : Closing κ) : Prop where
  told : (SignalingClient.failures c.calls).Perm sc.pendingFailures
  kept : ∀ r ∈ c.registered, r ∈ c.client.requestMap.values ∨
    ∀ callback ∈ r.reject, callback ∈ SignalingClient.failures c.calls

/-- Nothing that a failure callback of a pending request does acquires the mutex. -/
def Quiet (behave : List (Invocation κ) → Behaviour κ) (sc : SignalingClient κ) : Prop :=
  ∀ calls, calls ≠ [] → calls <+: sc.requestMap.values.flatMap WebsocketRequest.close →
    (behave calls).Quiet

/-- Only the transport has changed. -/
def SameTable (s s' : Mutexed (Closing κ)) : Prop :=
  ∃ transport, s' = { s with value := { s.value with
    client := { s.value.client with transport } } }

theorem SameTable.refl (s : Mutexed (Closing κ)) : SameTable s s := ⟨_, rfl⟩

theorem SameTable.trans {s s' s'' : Mutexed (Closing κ)} (h : SameTable s s')
    (h' : SameTable s' s'') : SameTable s s'' := by
  obtain ⟨transport, rfl⟩ := h
  obtain ⟨transport', rfl⟩ := h'
  exact ⟨transport', rfl⟩

theorem SameTable.held {s s' : Mutexed (Closing κ)} (h : SameTable s s') : s'.held = s.held := by
  obtain ⟨transport, rfl⟩ := h
  rfl

theorem SameTable.calls {s s' : Mutexed (Closing κ)} (h : SameTable s s') :
    s'.value.calls = s.value.calls := by
  obtain ⟨transport, rfl⟩ := h
  rfl

end Closing

open Closing (SameTable)

namespace ClientCall

variable {κ : Type} {s : Mutexed (Closing κ)}

theorem sendWith_held (hs : s.held = true) (transport : Except Fault WebsocketTransport)
    (request : WebsocketRequest κ) : sendWith transport request s = .error .relocked ∨
      ∃ f, sendWith transport request s = .error (.fault f) := by
  cases transport with
  | error f => exact Or.inr ⟨f, rfl⟩
  | ok transport => exact Or.inl (Mutexed.locked_of_held hs)

/-- A call that acquires the mutex ends the program: at the mutex, or before it in the
transport. -/
theorem run_of_locks (hs : s.held = true) {call : ClientCall κ} (h : call.Locks) :
    call.run s = .error .relocked ∨ ∃ f, call.run s = .error (.fault f) := by
  cases call with
  | send text transaction scb fcb =>
    have htext : text.isEmpty = false := h
    simp only [run, htext]
    exact sendWith_held hs _ _
  | sendData data transaction scb fcb =>
    have hdata : data.isEmpty = false := h
    simp only [run, hdata]
    exact sendWith_held hs _ _
  | connect | disconnect => exact absurd h id
  | init | destroy => exact Or.inl (Mutexed.locked_of_held hs)

theorem run_ok {call : ClientCall κ} (h : ¬ call.Locks) (s : Mutexed (Closing κ)) :
    ∃ s', call.run s = .ok s' ∧ SameTable s s' := by
  cases call with
  | send text transaction scb fcb =>
    have htext : text.isEmpty = true := by simpa [Locks] using h
    exact ⟨s, if_pos htext, .refl s⟩
  | sendData data transaction scb fcb =>
    have hdata : data.isEmpty = true := by simpa [Locks] using h
    exact ⟨s, if_pos hdata, .refl s⟩
  | connect | disconnect => exact ⟨_, rfl, _, rfl⟩
  | init | destroy => exact absurd trivial h

theorem run_all_ok {calls : List (ClientCall κ)} (h : ∀ call ∈ calls, ¬ call.Locks)
    (s : Mutexed (Closing κ)) :
    ∃ s', calls.foldlM (fun s call => call.run s) s = .ok s' ∧ SameTable s s' := by
  induction calls generalizing s with
  | nil => exact ⟨s, rfl, .refl s⟩
  | cons call calls ih =>
    obtain ⟨hcall, hcalls⟩ := List.forall_mem_cons.mp h
    obtain ⟨m, hm, hsame⟩ := run_ok hcall s
    obtain ⟨s', hs', hsame'⟩ := ih hcalls m
    exact ⟨s', by rw [List.foldlM_cons, hm]; exact hs', hsame.trans hsame'⟩

theorem not_locks_of_run_all (hs : s.held = true) {calls : List (ClientCall κ)}
    {s' : Mutexed (Closing κ)} (h : calls.foldlM (fun s call => call.run s) s = .ok s') :
    ∀ call ∈ calls, ¬ call.Locks := by
  induction calls generalizing s with
  | nil => simp
  | cons call calls ih =>
    rw [List.foldlM_cons] at h
    obtain ⟨m, hm, hrest⟩ := bind_ok.mp h
    have hquiet : ¬ call.Locks := by
      intro hlocks
      rcases run_of_locks hs hlocks with he | ⟨f, he⟩
      · rw [hm] at he
        cases he
      · rw [hm] at he
        cases he
    obtain ⟨m', hm', hsame⟩ := run_ok hquiet s
    rw [hm, Except.ok.injEq] at hm'
    subst hm'
    exact List.forall_mem_cons.mpr ⟨hquiet, ih (hsame.held.trans hs) hrest⟩

theorem run_all_error (hs : s.held = true) {calls : List (ClientCall κ)} {e : ClosingStop}
    (h : calls.foldlM (fun s call => call.run s) s = .error e) : e ≠ .iterationBroken := by
  induction calls generalizing s with
  | nil => cases h
  | cons call calls ih =>
    rw [List.foldlM_cons] at h
    by_cases hlocks : call.Locks
    · rcases run_of_locks hs hlocks with he | ⟨f, he⟩
      · rw [he] at h
        cases h
        simp
      · rw [he] at h
        cases h
        simp
    · obtain ⟨m, hm, hsame⟩ := run_ok hlocks s
      rw [hm] at h
      exact ih (hsame.held.trans hs) h

end ClientCall

namespace Behaviour

variable {κ : Type} {b : Behaviour κ}

theorem run_ok (h : b.Quiet) (s : Mutexed (Closing κ)) :
    ∃ s', b.run s = .ok s' ∧ SameTable s s' := by
  obtain ⟨s', hs', hsame⟩ := ClientCall.run_all_ok h.2 s
  refine ⟨s', ?_, hsame⟩
  rw [run, hs', h.1]
  rfl

/-- Under the mutex only a quiet callback returns. -/
theorem quiet_of_run {s s' : Mutexed (Closing κ)} (hs : s.held = true) (h : b.run s = .ok s') :
    b.Quiet := by
  obtain ⟨m, hm, hthrows⟩ := bind_ok.mp h
  refine ⟨?_, ClientCall.not_locks_of_run_all hs hm⟩
  cases hb : b.throws with
  | true =>
    rw [hb] at hthrows
    cases hthrows
  | false => rfl

theorem run_error {s : Mutexed (Closing κ)} {e : ClosingStop} (hs : s.held = true)
    (h : b.run s = .error e) : e ≠ .iterationBroken := by
  rcases bind_error.mp h with h | ⟨m, -, hthrows⟩
  · exact ClientCall.run_all_error hs h
  · split_ifs at hthrows
    · cases hthrows
      simp
    · cases hthrows

end Behaviour

namespace Closing

variable {κ : Type} {behave : List (Invocation κ) → Behaviour κ}

/-- The state in which the loop has made some more calls. -/
def after (calls : List (Invocation κ)) (s : Mutexed (Closing κ)) : Mutexed (Closing κ) :=
  { s with value := { s.value with calls := s.value.calls ++ calls } }

theorem after_nil (s : Mutexed (Closing κ)) : after [] s = s := by
  simp [after]

theorem after_cons_same {s m : Mutexed (Closing κ)} {call : Invocation κ}
    {rest : List (Invocation κ)} (h : SameTable (after [call] s) m) :
    SameTable (after (call :: rest) s) (after rest m) := by
  obtain ⟨transport, rfl⟩ := h
  exact ⟨transport, by simp [after]⟩

/-- The callbacks are quiet in the calls that are still to come. -/
def QuietIn (behave : List (Invocation κ) → Behaviour κ) (done rest : List (Invocation κ)) : Prop :=
  ∀ calls, calls ≠ [] → calls <+: rest → (behave (done ++ calls)).Quiet

theorem quietIn_cons {done rest : List (Invocation κ)} {call : Invocation κ} :
    QuietIn behave done (call :: rest) ↔
      (behave (done ++ [call])).Quiet ∧ QuietIn behave (done ++ [call]) rest := by
  constructor
  · intro h
    refine ⟨h [call] (by simp) ⟨rest, rfl⟩, fun calls hne hpre => ?_⟩
    rw [List.append_assoc]
    exact h (call :: calls) (by simp) (List.cons_prefix_cons.mpr ⟨rfl, hpre⟩)
  · rintro ⟨hcall, hrest⟩ calls hne hpre
    cases calls with
    | nil => exact absurd rfl hne
    | cons c calls =>
      obtain ⟨rfl, hpre'⟩ := List.cons_prefix_cons.mp hpre
      cases calls with
      | nil => exact hcall
      | cons c' calls =>
        have h := hrest (c' :: calls) (by simp) hpre'
        rw [List.append_assoc] at h
        exact h

theorem tell_all_ok {rest : List (Invocation κ)} (s : Mutexed (Closing κ))
    (h : QuietIn behave s.value.calls rest) :
    ∃ s', rest.foldlM (tell behave) s = .ok s' ∧ SameTable (after rest s) s' := by
  induction rest generalizing s with
  | nil => exact ⟨s, rfl, by rw [after_nil]; exact .refl s⟩
  | cons call rest ih =>
    obtain ⟨hcall, hrest⟩ := quietIn_cons.mp h
    obtain ⟨m, hm, hsame⟩ := Behaviour.run_ok hcall (after [call] s)
    obtain ⟨s', hs', hsame'⟩ := ih m (by rw [hsame.calls]; exact hrest)
    refine ⟨s', ?_, (after_cons_same hsame).trans hsame'⟩
    rw [List.foldlM_cons, tell]
    exact bind_ok.mpr ⟨m, hm, hs'⟩

theorem quietIn_of_tell_all {rest : List (Invocation κ)} {s s' : Mutexed (Closing κ)}
    (hs : s.held = true) (h : rest.foldlM (tell behave) s = .ok s') :
    QuietIn behave s.value.calls rest := by
  induction rest generalizing s with
  | nil =>
    intro calls hne hpre
    exact absurd (List.prefix_nil.mp hpre) hne
  | cons call rest ih =>
    rw [List.foldlM_cons] at h
    obtain ⟨m, hm, hrest⟩ := bind_ok.mp h
    have hquiet := Behaviour.quiet_of_run (s := after [call] s) hs hm
    obtain ⟨m', hm', hsame⟩ := Behaviour.run_ok hquiet (after [call] s)
    have he : m = m' := Except.ok.inj (hm.symm.trans hm')
    subst he
    have ih' := ih (hsame.held.trans hs) hrest
    rw [hsame.calls] at ih'
    exact quietIn_cons.mpr ⟨hquiet, ih'⟩

theorem close_all (requests : List (WebsocketRequest κ)) (s : Mutexed (Closing κ)) :
    requests.foldlM (fun s request => request.close.foldlM (tell behave) s) s =
      (requests.flatMap WebsocketRequest.close).foldlM (tell behave) s := by
  induction requests generalizing s with
  | nil => rfl
  | cons r rest ih =>
    rw [List.foldlM_cons, List.flatMap_cons, List.foldlM_append]
    exact bind_congr fun s => ih s

/-- The loop of `onClosed`, from its first request. -/
def looping (sc : SignalingClient κ) : Mutexed (Closing κ) :=
  ⟨{ client := sc, iterating := true }, true⟩

/-- `onClosed` returns exactly when its loop does. -/
theorem onClosed_ok {sc : SignalingClient κ} {s : Mutexed (Closing κ)} :
    onClosed behave sc = .ok s ↔ ∃ s',
      (sc.requestMap.values.flatMap WebsocketRequest.close).foldlM (tell behave) (looping sc) =
          .ok s' ∧
        s = ⟨{ s'.value with client := s'.value.client.clearRequests, iterating := false,
                             notified := true }, false⟩ := by
  rw [onClosed, Mutexed.withLock_ok, and_iff_right rfl]
  simp only [close_all, bind_ok]
  constructor
  · rintro ⟨m, ⟨s', hs', value, hvalue, hm⟩, rfl⟩
    cases hvalue
    cases hm
    exact ⟨s', hs', rfl⟩
  · rintro ⟨s', hs', rfl⟩
    exact ⟨_, ⟨s', hs', _, rfl, rfl⟩, rfl⟩

/-- With callbacks that are quiet, `onClosed` does what the model of the client says, which makes
the calls after it is done. -/
theorem onClosed_refines {sc : SignalingClient κ} (h : Quiet behave sc) :
    ∃ s, onClosed behave sc = .ok s ∧ s.held = false ∧ s.value.registered = [] ∧
      s.value.client.requestMap = sc.onClosed.1.requestMap ∧ s.value.calls = sc.onClosed.2 := by
  obtain ⟨s', hs', transport, rfl⟩ := tell_all_ok (looping sc) h
  exact ⟨_, onClosed_ok.mpr ⟨_, hs', rfl⟩, rfl, rfl, rfl, List.nil_append _⟩

theorem tell_all_error {rest : List (Invocation κ)} {s : Mutexed (Closing κ)} {e : ClosingStop}
    (hs : s.held = true) (h : rest.foldlM (tell behave) s = .error e) : e ≠ .iterationBroken := by
  induction rest generalizing s with
  | nil => cases h
  | cons call rest ih =>
    rw [List.foldlM_cons] at h
    rcases bind_error.mp h with h | ⟨m, hm, hrest⟩
    · exact Behaviour.run_error (s := after [call] s) hs h
    · have hquiet := Behaviour.quiet_of_run (s := after [call] s) hs hm
      obtain ⟨m', hm', hsame⟩ := Behaviour.run_ok hquiet (after [call] s)
      have he : m = m' := Except.ok.inj (hm.symm.trans hm')
      subst he
      exact ih (hsame.held.trans hs) hrest

/-- Whatever the callbacks do, the table does not change while the loop is running. -/
theorem onClosed_ne_iterationBroken (behave : List (Invocation κ) → Behaviour κ)
    (sc : SignalingClient κ) : onClosed behave sc ≠ .error .iterationBroken := by
  intro h
  cases hloop : (sc.requestMap.values.flatMap WebsocketRequest.close).foldlM (tell behave)
      (looping sc) with
  | ok s' =>
    rw [onClosed_ok.mpr ⟨s', hloop, rfl⟩] at h
    cases h
  | error e =>
    have he : onClosed behave sc = .error e := by
      apply Mutexed.withLock_error rfl
      rw [close_all]
      exact bind_error.mpr (Or.inl hloop)
    rw [he, Except.error.injEq] at h
    exact tell_all_error rfl hloop h

/-- `onClosed` returns, with every pending request told once and no other request lost, exactly
when no failure callback comes back to the mutex or throws. -/
theorem onClosed_complete_iff (behave : List (Invocation κ) → Behaviour κ)
    (sc : SignalingClient κ) :
    onClosed behave sc ≠ .error .iterationBroken ∧
      ((∃ s, onClosed behave sc = .ok s ∧ Complete sc s.value) ↔ Quiet behave sc) := by
  refine ⟨onClosed_ne_iterationBroken behave sc, ?_⟩
  constructor
  · rintro ⟨s, hs, -⟩
    obtain ⟨s', hs', -⟩ := onClosed_ok.mp hs
    exact quietIn_of_tell_all rfl hs'
  · intro h
    obtain ⟨s, hs, -, hregistered, -, hcalls⟩ := onClosed_refines h
    refine ⟨s, hs, ?_, by simp [hregistered]⟩
    rw [hcalls]
    exact (SignalingClient.onClosed_endsPending sc).2

/-- A client that waits for the answer to one request. -/
def waiting : SignalingClient String :=
  SignalingClient.idle.store ⟨7, "join", some "joined", some "retry"⟩

/-- A failure callback that sends the request again. -/
theorem retry_relocks :
    onClosed (fun _ => ⟨[.send "join" 8 (some "joined") (some "retry")], false⟩) waiting =
      .error .relocked :=
  rfl

end Closing

end MediasoupSdk
