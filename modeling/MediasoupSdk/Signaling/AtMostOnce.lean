import MediasoupSdk.Signaling.Reply

/-! The life of a request object over all threads: senders, the response tasks, the timers and
the ends of a connection. Only the critical sections on `_requestMutex` are atomic; `send` and
the response task are cut where they hold no lock. -/
namespace MediasoupSdk
open Foundation

namespace WebsocketRequest

variable {κ : Type}

/-- The handler of the timer: the call of the callback is commented out. -/
def timeout (_ : WebsocketRequest κ) : List (Invocation κ) := []

end WebsocketRequest

def Invocation.callback {κ : Type} : Invocation κ → κ
  | .resolved callback _ => callback
  | .rejected callback _ _ => callback

namespace MediasoupApi.Method

/-- How often a reply sets the promise that the sender of the request waits on. -/
def promiseSets : (m : Method) → Bool → Reply m.Response → ℕ
  | .connectWebRtcTransport, alive, reply => (onConnectReply alive reply).toOption.elim 0 fun _ => 1
  | .produce, alive, reply => (onProduceReply alive reply).toOption.elim 0 fun _ => 1
  | .produceData, alive, reply => (onProduceReply alive reply).toOption.elim 0 fun _ => 1
  | .other _, _, _ => 0

theorem promiseSets_le_one (m : Method) (alive : Bool) (reply : Reply m.Response) :
    m.promiseSets alive reply ≤ 1 := by
  have helim {α : Type} (o : Option α) : (o.elim 0 fun _ => 1) ≤ 1 := by
    cases o <;> simp
  cases m with
  | connectWebRtcTransport => exact helim (onConnectReply alive reply).toOption
  | produce => exact helim (onProduceReply alive reply).toOption
  | produceData => exact helim (onProduceReply alive reply).toOption
  | other response => exact Nat.zero_le 1

end MediasoupApi.Method

namespace SignalingClient

/-- The requests of all threads. The callbacks of a request are named by its number among
`created`. A request is `sending` between its write and its store, and `resolving` between the
critical section of the response task and the call of its callback. -/
structure Exchange where
  client : SignalingClient ℕ
  created : List (WebsocketRequest ℕ) := []
  sending : List (WebsocketRequest ℕ) := []
  resolving : List (WebsocketRequest ℕ × String) := []
  invoked : List (Invocation ℕ) := []

inductive ExchangeAction where
  | send (text : String) (transaction : ℤ) (scb fcb : Bool)
  | store (i : ℕ)
  | take (json : String)
  | resolve (i : ℕ)
  | timeout (n : ℕ)
  | onClosed
  | clearRequests
  | destroy
  | connect (newId : ℤ)
  | disconnect
  deriving DecidableEq, Repr

namespace Exchange

/-- The request object that `send` makes. -/
def newRequest (text : String) (transaction : ℤ) (scb fcb : Bool) (s : Exchange) :
    WebsocketRequest ℕ :=
  { id := transaction
    text
    resolve := if scb then some s.created.length else none
    reject := if fcb then some s.created.length else none }

variable (R : Rapidjson)

def step (s : Exchange) : ExchangeAction → Except Fault Exchange
  | .send text transaction scb fcb =>
    if text.isEmpty then .ok s
    else do
      let request := s.newRequest text transaction scb fcb
      let transport ← s.client.transport.send text
      return { s with
        client := { s.client with transport }
        created := s.created ++ [request]
        sending := s.sending ++ [request] }
  | .store i =>
    match s.sending[i]? with
    | none => .ok s
    | some r => .ok { s with client := s.client.store r, sending := s.sending.eraseIdx i }
  | .take json =>
    match responseId R json with
    | none => .ok s
    | some id =>
      match s.client.takeRequest id with
      | (some r, client) => .ok { s with client, resolving := s.resolving ++ [(r, json)] }
      | (none, _) => .ok s
  | .resolve i =>
    match s.resolving[i]? with
    | none => .ok s
    | some (r, json) =>
      .ok { s with
        resolving := s.resolving.eraseIdx i
        invoked := s.invoked ++ r.resolveWith json }
  | .timeout n =>
    match s.created[n]? with
    | none => .ok s
    | some r => .ok { s with invoked := s.invoked ++ r.timeout }
  | .onClosed =>
    let (client, calls) := s.client.onClosed
    .ok { s with client, invoked := s.invoked ++ calls }
  | .clearRequests => .ok { s with client := s.client.clearRequests }
  | .destroy => .ok { s with client := s.client.clearRequests }
  | .connect newId => .ok { s with client := s.client.connect newId }
  | .disconnect => .ok { s with client := s.client.disconnect }

/-- The request objects that some thread still holds for a call. -/
def live (s : Exchange) : List (WebsocketRequest ℕ) :=
  s.sending ++ (s.client.requestMap.values ++ s.resolving.map Prod.fst)

def holds (k : ℕ) (r : WebsocketRequest ℕ) : Bool := r.resolve = some k || r.reject = some k

def calls (k : ℕ) (l : List (Invocation ℕ)) : ℕ := l.countP (·.callback = k)

/-- The calls that request `k` has had, and those that it may still have. -/
def weight (k : ℕ) (s : Exchange) : ℕ := s.live.countP (holds k) + calls k s.invoked

/-- A request takes up its one call until it is dropped; what a response task took has the id
of the response. -/
structure Inv (s : Exchange) : Prop where
  once : ∀ k, s.weight k ≤ 1
  unborn : ∀ k, s.created.length ≤ k → s.weight k = 0
  numbered : ∀ r ∈ s.live, ∀ n, r.resolve = some n → s.created[n]? = some r
  keyed : ∀ k r, s.client.requestMap.lookup k = some r → r.key = k
  matched : ∀ r json, (r, json) ∈ s.resolving → responseId R json = some r.key
  told : ∀ n json, .resolved n json ∈ s.invoked →
    ∃ r, s.created[n]? = some r ∧ responseId R json = some r.key

variable {R} {s s' : Exchange}

theorem weight_eq (k : ℕ) (s : Exchange) :
    s.weight k = s.sending.countP (holds k) + s.client.requestMap.values.countP (holds k) +
      (s.resolving.map Prod.fst).countP (holds k) + calls k s.invoked := by
  simp only [weight, live, List.countP_append]
  omega

theorem calls_append (k : ℕ) (l l' : List (Invocation ℕ)) :
    calls k (l ++ l') = calls k l + calls k l' :=
  List.countP_append

/-- A request resolves no other callback than its own, and that one once. -/
theorem calls_resolveWith_le (k : ℕ) (r : WebsocketRequest ℕ) (json : String) :
    calls k (r.resolveWith json) ≤ [r].countP (holds k) := by
  cases hr : r.resolve with
  | none => simp [calls, WebsocketRequest.resolveWith, hr]
  | some n =>
    by_cases hn : n = k
    · simp [calls, WebsocketRequest.resolveWith, hr, holds, Invocation.callback, hn]
    · simp [calls, WebsocketRequest.resolveWith, hr, Invocation.callback, hn]

theorem calls_close_le (k : ℕ) (r : WebsocketRequest ℕ) :
    calls k r.close ≤ [r].countP (holds k) := by
  cases hr : r.reject with
  | none => simp [calls, WebsocketRequest.close, hr]
  | some n =>
    by_cases hn : n = k
    · simp [calls, WebsocketRequest.close, hr, holds, Invocation.callback, hn]
    · simp [calls, WebsocketRequest.close, hr, Invocation.callback, hn]

theorem calls_closeAll_le (k : ℕ) (rs : List (WebsocketRequest ℕ)) :
    calls k (rs.flatMap WebsocketRequest.close) ≤ rs.countP (holds k) := by
  induction rs with
  | nil => exact Nat.le_refl 0
  | cons r rs ih =>
    have hsplit : (r :: rs).countP (holds k) = [r].countP (holds k) + rs.countP (holds k) := by
      rw [← List.countP_append]
      rfl
    have hr := calls_close_le k r
    rw [List.flatMap_cons, calls_append, hsplit]
    omega

/-- A step that makes no request keeps the invariant of the calls when it adds no weight. -/
theorem Inv.of_le (h : Inv R s) (hcreated : s'.created = s.created)
    (hweight : ∀ k, s'.weight k ≤ s.weight k) (hlive : ∀ r ∈ s'.live, r ∈ s.live)
    (hkeyed : ∀ k r, s'.client.requestMap.lookup k = some r → r.key = k)
    (hmatched : ∀ r json, (r, json) ∈ s'.resolving → responseId R json = some r.key)
    (htold : ∀ n json, .resolved n json ∈ s'.invoked → .resolved n json ∈ s.invoked ∨
      ∃ r ∈ s.live, r.resolve = some n ∧ responseId R json = some r.key) : Inv R s' where
  once k := (hweight k).trans (h.once k)
  unborn k hk := by
    have h0 := h.unborn k (hcreated ▸ hk)
    have hle := hweight k
    omega
  numbered r hr n hn := by
    rw [hcreated]
    exact h.numbered r (hlive r hr) n hn
  keyed := hkeyed
  matched := hmatched
  told n json hn := by
    rw [hcreated]
    rcases htold n json hn with hold | ⟨r, hr, hrn, hid⟩
    · exact h.told n json hold
    · exact ⟨r, h.numbered r hr n hrn, hid⟩

theorem weight_send (k : ℕ) (transport : WebsocketTransport) (r : WebsocketRequest ℕ) :
    weight k { s with
      client := { s.client with transport }
      created := s.created ++ [r]
      sending := s.sending ++ [r] } = s.weight k + [r].countP (holds k) := by
  simp only [weight_eq, List.countP_append]
  omega

theorem holds_newRequest {text : String} {transaction : ℤ} {scb fcb : Bool} {k : ℕ}
    (hk : k ≠ s.created.length) : holds k (s.newRequest text transaction scb fcb) = false := by
  have hk' : s.created.length ≠ k := hk.symm
  cases scb <;> cases fcb <;> simp [holds, newRequest, hk']

theorem Inv.send (h : Inv R s) {text : String} {transaction : ℤ} {scb fcb : Bool}
    (transport : WebsocketTransport) :
    Inv R { s with
      client := { s.client with transport }
      created := s.created ++ [s.newRequest text transaction scb fcb]
      sending := s.sending ++ [s.newRequest text transaction scb fcb] } := by
  have hcount : ∀ k, [s.newRequest text transaction scb fcb].countP (holds k) ≤ 1 := fun k =>
    List.countP_le_length
  refine ⟨?_, ?_, ?_, h.keyed, h.matched, ?_⟩
  · intro k
    rw [weight_send]
    by_cases hk : k = s.created.length
    · have h0 := h.unborn k (by omega)
      have h1 := hcount k
      omega
    · have h0 := h.once k
      rw [List.countP_singleton, holds_newRequest hk]
      simpa using h0
  · intro k hk
    rw [List.length_append, List.length_singleton] at hk
    rw [weight_send, h.unborn k (by omega), List.countP_singleton, holds_newRequest (by omega)]
    rfl
  · intro r hr n hn
    simp only [live, List.mem_append, List.mem_singleton] at hr
    have hcase : r ∈ s.live ∨ r = s.newRequest text transaction scb fcb := by
      simp only [live, List.mem_append]
      tauto
    rcases hcase with hold | rfl
    · have hr' := h.numbered r hold n hn
      have hlt := (List.getElem?_eq_some_iff.mp hr').1
      rw [List.getElem?_append_left hlt]
      exact hr'
    · have hn' : n = s.created.length := by
        cases scb <;> simp [newRequest] at hn
        exact hn.symm
      rw [hn']
      exact List.getElem?_concat_length
  · intro n json hn
    obtain ⟨r, hr, hid⟩ := h.told n json hn
    have hlt := (List.getElem?_eq_some_iff.mp hr).1
    refine ⟨r, ?_, hid⟩
    rw [List.getElem?_append_left hlt]
    exact hr

theorem Inv.store (h : Inv R s) {i : ℕ} {r : WebsocketRequest ℕ} (hr : s.sending[i]? = some r) :
    Inv R { s with client := s.client.store r, sending := s.sending.eraseIdx i } := by
  obtain ⟨hi, hri⟩ := List.getElem?_eq_some_iff.mp hr
  have hperm := List.getElem_cons_eraseIdx_perm hi
  rw [hri] at hperm
  have hsub := HashMap.values_erase_sublist s.client.requestMap r.key
  have hmem : r ∈ s.sending := hperm.mem_iff.mp List.mem_cons_self
  refine h.of_le rfl ?_ ?_ ?_ h.matched fun n json hn => Or.inl hn
  · intro k
    have hcount := hperm.countP_eq (holds k)
    have hle := hsub.countP_le (p := holds k)
    simp only [weight_eq, SignalingClient.store, HashMap.values_insert,
      List.countP_cons] at hcount ⊢
    omega
  · intro x hx
    simp only [live, SignalingClient.store, HashMap.values_insert, List.mem_append,
      List.mem_cons] at hx ⊢
    rcases hx with hx | (rfl | hx) | hx
    · exact Or.inl (List.mem_of_mem_eraseIdx hx)
    · exact Or.inl hmem
    · exact Or.inr (Or.inl (hsub.subset hx))
    · exact Or.inr (Or.inr hx)
  · intro k x hx
    rw [store_lookup] at hx
    split_ifs at hx with hk
    · rw [hk, ← Option.some.inj hx]
    · exact h.keyed k x hx

theorem Inv.take (h : Inv R s) {json : String} {id : ℤ} {r : WebsocketRequest ℕ}
    (hid : responseId R json = some id) (hr : s.client.requestMap.lookup id = some r) :
    Inv R { s with
      client := { s.client with requestMap := s.client.requestMap.erase id }
      resolving := s.resolving ++ [(r, json)] } := by
  have hperm := HashMap.values_perm_of_lookup hr
  refine h.of_le rfl ?_ ?_ ?_ ?_ fun n json hn => Or.inl hn
  · intro k
    have hcount := hperm.countP_eq (holds k)
    simp only [weight_eq, List.map_append, List.map_cons, List.map_nil, List.countP_append,
      List.countP_cons, List.countP_nil] at hcount ⊢
    omega
  · intro x hx
    simp only [live, List.map_append, List.map_cons, List.map_nil, List.mem_append,
      hperm.mem_iff, List.mem_cons] at hx ⊢
    tauto
  · intro k x hx
    rw [HashMap.lookup_erase_eq_ite] at hx
    split_ifs at hx
    exact h.keyed k x hx
  · intro x text hx
    simp only [List.mem_append, List.mem_singleton, Prod.mk.injEq] at hx
    rcases hx with hx | ⟨rfl, rfl⟩
    · exact h.matched x text hx
    · rw [hid, h.keyed id x hr]

theorem Inv.resolve (h : Inv R s) {i : ℕ} {r : WebsocketRequest ℕ} {json : String}
    (hr : s.resolving[i]? = some (r, json)) :
    Inv R { s with
      resolving := s.resolving.eraseIdx i
      invoked := s.invoked ++ r.resolveWith json } := by
  obtain ⟨hi, hri⟩ := List.getElem?_eq_some_iff.mp hr
  have hperm := List.getElem_cons_eraseIdx_perm hi
  rw [hri] at hperm
  have hmem : (r, json) ∈ s.resolving := hperm.mem_iff.mp List.mem_cons_self
  have hkeep : ∀ x ∈ s.resolving.eraseIdx i, x ∈ s.resolving :=
    fun x hx => List.mem_of_mem_eraseIdx hx
  have hlive : r ∈ s.live :=
    List.mem_append_right _ (List.mem_append_right _ (List.mem_map.mpr ⟨(r, json), hmem, rfl⟩))
  refine h.of_le rfl ?_ ?_ h.keyed (fun x text hx => h.matched x text (hkeep _ hx)) ?_
  · intro k
    have hcount := (hperm.map Prod.fst).countP_eq (holds k)
    have hle := calls_resolveWith_le k r json
    simp only [weight_eq, calls_append, List.map_cons, List.countP_cons, List.countP_nil]
      at hcount hle ⊢
    omega
  · intro x hx
    simp only [live, List.mem_append, List.mem_map] at hx ⊢
    rcases hx with hx | hx | ⟨y, hy, rfl⟩
    · exact Or.inl hx
    · exact Or.inr (Or.inl hx)
    · exact Or.inr (Or.inr ⟨y, hkeep y hy, rfl⟩)
  · intro n text hn
    rcases List.mem_append.mp hn with hold | hnew
    · exact Or.inl hold
    · simp only [WebsocketRequest.resolveWith, List.mem_map, Option.mem_toList,
        Invocation.resolved.injEq] at hnew
      obtain ⟨m, hm, rfl, rfl⟩ := hnew
      exact Or.inr ⟨r, hlive, hm, h.matched r json hmem⟩

/-- The lock is held over all the rejections, so the requests leave the table with them. -/
theorem Inv.onClosed (h : Inv R s) :
    Inv R { s with
      client := s.client.clearRequests
      invoked := s.invoked ++ s.client.requestMap.values.flatMap WebsocketRequest.close } := by
  have hnil : s.client.clearRequests.requestMap.values = [] := rfl
  refine h.of_le rfl ?_ ?_ (fun k r hr => by simp [clearRequests] at hr) h.matched ?_
  · intro k
    have hle := calls_closeAll_le k s.client.requestMap.values
    simp only [weight_eq, calls_append, hnil, List.countP_nil]
    omega
  · intro x hx
    simp only [live, hnil, List.nil_append, List.mem_append] at hx ⊢
    tauto
  · intro n text hn
    rcases List.mem_append.mp hn with hold | hnew
    · exact Or.inl hold
    · simp [WebsocketRequest.close] at hnew

theorem Inv.clearRequests (h : Inv R s) :
    Inv R { s with client := s.client.clearRequests } := by
  have hnil : s.client.clearRequests.requestMap.values = [] := rfl
  refine h.of_le rfl ?_ ?_ (fun k r hr => by simp [SignalingClient.clearRequests] at hr)
    h.matched fun n json hn => Or.inl hn
  · intro k
    simp only [weight_eq, hnil, List.countP_nil]
    omega
  · intro x hx
    simp only [live, hnil, List.nil_append, List.mem_append] at hx ⊢
    tauto

theorem Inv.transport (h : Inv R s) (transport : WebsocketTransport) :
    Inv R { s with client := { s.client with transport } } :=
  ⟨h.once, h.unborn, h.numbered, h.keyed, h.matched, h.told⟩

theorem Inv.step {a : ExchangeAction} (h : Inv R s) (hs : s.step R a = .ok s') : Inv R s' := by
  cases a with
  | send text transaction scb fcb =>
    simp only [Exchange.step] at hs
    split_ifs at hs
    · cases hs
      exact h
    · simp only [bind_ok, pure, Except.pure, Except.ok.injEq] at hs
      obtain ⟨transport, -, rfl⟩ := hs
      exact h.send transport
  | store i =>
    simp only [Exchange.step] at hs
    cases hr : s.sending[i]? with
    | none => simp only [hr, Except.ok.injEq] at hs; exact hs ▸ h
    | some r => simp only [hr, Except.ok.injEq] at hs; exact hs ▸ h.store hr
  | take json =>
    simp only [Exchange.step] at hs
    cases hid : responseId R json with
    | none => simp only [hid, Except.ok.injEq] at hs; exact hs ▸ h
    | some id =>
      cases hr : s.client.requestMap.lookup id with
      | none => simp only [hid, takeRequest, hr, Except.ok.injEq] at hs; exact hs ▸ h
      | some r => simp only [hid, takeRequest, hr, Except.ok.injEq] at hs; exact hs ▸ h.take hid hr
  | resolve i =>
    simp only [Exchange.step] at hs
    cases hr : s.resolving[i]? with
    | none => simp only [hr, Except.ok.injEq] at hs; exact hs ▸ h
    | some e => simp only [hr, Except.ok.injEq] at hs; exact hs ▸ h.resolve hr
  | timeout n =>
    simp only [Exchange.step] at hs
    cases hr : s.created[n]? with
    | none => simp only [hr, Except.ok.injEq] at hs; exact hs ▸ h
    | some r =>
      simp only [hr, WebsocketRequest.timeout, List.append_nil, Except.ok.injEq] at hs
      exact hs ▸ h
  | onClosed => cases hs; exact h.onClosed
  | clearRequests => cases hs; exact h.clearRequests
  | destroy => cases hs; exact h.clearRequests
  | connect newId => cases hs; exact h.transport _
  | disconnect => cases hs; exact h.transport _

/-- A client that nobody has used. -/
def start (transport : WebsocketTransport) : Exchange := { client := ⟨transport, ∅⟩ }

theorem Inv.start (transport : WebsocketTransport) : Inv R (.start transport) := by
  have hweight : ∀ k, weight k (.start transport) = 0 := fun k => rfl
  refine ⟨fun k => ?_, fun k _ => hweight k, ?_, ?_, ?_, ?_⟩
  · rw [hweight]
    omega
  · intro r hr
    simp [live, Exchange.start, HashMap.values] at hr
  · intro k r hr
    simp [Exchange.start] at hr
  · intro r json hr
    simp [Exchange.start] at hr
  · intro n json hn
    simp [Exchange.start] at hn

theorem Inv.run {acts : List ExchangeAction} (h : Inv R s)
    (hr : exec (Exchange.step R) s acts = .ok s') : Inv R s' := by
  induction acts generalizing s with
  | nil =>
    cases hr
    exact h
  | cons a acts ih =>
    obtain ⟨m, hm, ht⟩ := exec_cons_ok.mp hr
    exact ih (h.step hm) ht

/-- How often the promise of a request's sender was set, by the calls of its callbacks. -/
def promiseSets (R : Rapidjson) (m : MediasoupApi.Method) (alive : Bool) (n : ℕ) (s : Exchange) :
    ℕ :=
  (((s.invoked.filter (·.callback = n)).flatMap (MediasoupApi.replies (m.decode R))).map
    (m.promiseSets alive)).sum

theorem replies_length_le {Response : Type} (decode : String → Except JsonError Response)
    (call : Invocation ℕ) : (MediasoupApi.replies decode call).length ≤ 1 := by
  cases call with
  | rejected callback errorCode errorInfo => exact Nat.le_refl 1
  | resolved callback json =>
    simp only [MediasoupApi.replies, MediasoupApi.onSuccess]
    split_ifs
    · exact Nat.zero_le 1
    · split <;> simp

theorem promiseSets_le (m : MediasoupApi.Method) (alive : Bool) (n : ℕ) (s : Exchange) :
    promiseSets R m alive n s ≤ calls n s.invoked := by
  have hreplies (l : List (Invocation ℕ)) :
      (l.flatMap (MediasoupApi.replies (m.decode R))).length ≤ l.length := by
    induction l with
    | nil => exact Nat.le_refl 0
    | cons call l ih =>
      have h1 := replies_length_le (m.decode R) call
      rw [List.flatMap_cons, List.length_append, List.length_cons]
      omega
  have hsum (l : List (MediasoupApi.Reply m.Response)) :
      (l.map (m.promiseSets alive)).sum ≤ l.length := by
    induction l with
    | nil => exact Nat.le_refl 0
    | cons reply l ih =>
      have h1 := m.promiseSets_le_one alive reply
      rw [List.map_cons, List.sum_cons, List.length_cons]
      omega
  calc promiseSets R m alive n s ≤ _ := hsum _
    _ ≤ _ := hreplies _
    _ = calls n s.invoked := (List.countP_eq_length_filter ..).symm

/-- Over every interleaving, a request has at most one of its callbacks called, and that at most
once; the text that a resolved callback gets has the id under which the request was stored; and
no promise is set twice. -/
theorem request_called_at_most_once (R : Rapidjson) (transport : WebsocketTransport)
    (acts : List ExchangeAction) (s : Exchange)
    (hrun : exec (Exchange.step R) (.start transport) acts = .ok s) :
    (∀ n, calls n s.invoked ≤ 1) ∧
      (∀ n json, .resolved n json ∈ s.invoked →
        ∃ r, s.created[n]? = some r ∧ responseId R json = some r.key) ∧
      ∀ m alive n, promiseSets R m alive n s ≤ 1 := by
  have hinv : Inv R s := (Inv.start transport).run hrun
  have honce : ∀ n, calls n s.invoked ≤ 1 := by
    intro n
    have h := hinv.once n
    rw [weight] at h
    omega
  exact ⟨honce, hinv.told, fun m alive n => (promiseSets_le m alive n s).trans (honce n)⟩

/-- A response to the request 7, as rapidjson reads it. -/
def acceptedText : String := "\x7b\"response\":true,\"id\":7,\"ok\":true\x7d"

def acceptedResponse : Rapidjson :=
  ⟨fun text => if text = acceptedText then
    some (.object [("response", .bool true), ("id", .int 7), ("ok", .bool true)]) else none⟩

/-- The response arrives twice and the connection closes before the callback runs. -/
def duplicatedResponse : List ExchangeAction :=
  [.send "produce" 7 true true, .store 0, .take acceptedText, .onClosed, .take acceptedText,
    .timeout 0, .resolve 0, .resolve 0]

theorem duplicated_response_called_once :
    ∃ s, exec (Exchange.step acceptedResponse) (.start ⟨some 0, 0, 1, []⟩) duplicatedResponse =
        .ok s ∧ s.invoked = [.resolved 0 acceptedText] ∧
      (∀ n, calls n s.invoked ≤ 1) ∧
      (∀ n json, .resolved n json ∈ s.invoked →
        ∃ r, s.created[n]? = some r ∧ responseId acceptedResponse json = some r.key) ∧
      ∀ m alive n, promiseSets acceptedResponse m alive n s ≤ 1 := by
  have hrun : ∃ s, exec (Exchange.step acceptedResponse) (.start ⟨some 0, 0, 1, []⟩)
      duplicatedResponse = .ok s ∧ s.invoked = [.resolved 0 acceptedText] := ⟨_, rfl, rfl⟩
  obtain ⟨s, hs, hinvoked⟩ := hrun
  exact ⟨s, hs, hinvoked, request_called_at_most_once acceptedResponse _ _ s hs⟩

end Exchange
end SignalingClient
end MediasoupSdk
