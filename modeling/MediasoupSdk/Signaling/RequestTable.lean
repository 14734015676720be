import MediasoupSdk.Foundation.Execution
import MediasoupSdk.Signaling.Api

/-! What the request table holds: along a session, and when a connection ends. -/
namespace MediasoupSdk
open Foundation
namespace SignalingClient

variable {κ : Type}

/-- The ways in which a connection can end. -/
inductive Teardown where
  | onClosed
  | onFailed
  | disconnect
  | init
  | destroy
  deriving DecidableEq, Repr

/-- The client after the connection ended, and the callbacks that were invoked. Only
`onClosed` closes the requests; `init` and `destroy` clear the table. -/
def teardown : Teardown → SignalingClient κ → SignalingClient κ × List (Invocation κ)
  | .onClosed, sc => sc.onClosed
  | .onFailed, sc => (sc, [])
  | .disconnect, sc => (sc.disconnect, [])
  | .init, sc => (sc.clearRequests, [])
  | .destroy, sc => (sc.clearRequests, [])

/-- The callbacks invoked as failure callbacks, one occurrence for each call. -/
def failures (calls : List (Invocation κ)) : List κ :=
  calls.filterMap fun
    | .rejected callback _ _ => some callback
    | .resolved _ _ => none

/-- The failure callbacks of the requests in the table. -/
def pendingFailures (sc : SignalingClient κ) : List κ :=
  sc.requestMap.values.filterMap WebsocketRequest.reject

/-- The table is empty afterwards and each pending request failed exactly once. -/
def EndsPending (t : Teardown) (sc : SignalingClient κ) : Prop :=
  (teardown t sc).1.requestMap = ∅ ∧ (failures (teardown t sc).2).Perm sc.pendingFailures

theorem failures_close (requests : List (WebsocketRequest κ)) :
    failures (requests.flatMap WebsocketRequest.close) =
      requests.filterMap WebsocketRequest.reject := by
  induction requests with
  | nil => rfl
  | cons r rs ih =>
    have happ : failures ((r :: rs).flatMap WebsocketRequest.close) =
        failures r.close ++ failures (rs.flatMap WebsocketRequest.close) := by
      simp [failures, List.filterMap_append]
    rw [happ, ih]
    cases hr : r.reject <;> simp [failures, WebsocketRequest.close, hr]

theorem onClosed_endsPending (sc : SignalingClient κ) : EndsPending .onClosed sc :=
  ⟨rfl, by rw [teardown, onClosed, failures_close, pendingFailures]⟩

/-- A teardown that only clears the table meets the contract when no entry could be told. -/
theorem clearRequests_endsPending_iff (sc : SignalingClient κ) :
    (sc.clearRequests.requestMap = ∅ ∧ (failures ([] : List (Invocation κ))).Perm
      sc.pendingFailures) ↔ ∀ r ∈ sc.requestMap.values, r.reject = none := by
  have hnil : failures ([] : List (Invocation κ)) = [] := rfl
  rw [hnil, List.nil_perm, pendingFailures, List.filterMap_eq_nil_iff]
  exact and_iff_right rfl

/-- A teardown that leaves the table alone meets the contract when nothing is pending. -/
theorem unchanged_endsPending_iff (sc : SignalingClient κ) :
    (sc.requestMap = ∅ ∧ (failures ([] : List (Invocation κ))).Perm sc.pendingFailures) ↔
      sc.requestMap = ∅ := by
  constructor
  · exact And.left
  · intro h
    refine ⟨h, ?_⟩
    have hp : sc.pendingFailures = [] := by simp [pendingFailures, HashMap.values, h]
    rw [hp]
    exact List.Perm.refl []

/-- Exactly which ends of a connection answer for the pending requests. -/
theorem teardown_endsPending_iff (t : Teardown) (sc : SignalingClient κ) :
    EndsPending t sc ↔ t = .onClosed ∨ sc.requestMap = ∅ ∨
      ((t = .init ∨ t = .destroy) ∧ ∀ r ∈ sc.requestMap.values, r.reject = none) := by
  have hempty : sc.requestMap = ∅ → ∀ r ∈ sc.requestMap.values, r.reject = none := by
    intro h r hr
    simp [HashMap.values, h] at hr
  cases t with
  | onClosed => simp [onClosed_endsPending]
  | onFailed =>
    have h := unchanged_endsPending_iff sc
    simpa [EndsPending, teardown] using h
  | disconnect =>
    have h := unchanged_endsPending_iff sc
    simpa [EndsPending, teardown, disconnect] using h
  | init =>
    have h := clearRequests_endsPending_iff sc
    simp only [EndsPending, teardown, h, reduceCtorEq, true_or, true_and, false_or]
    exact ⟨Or.inr, fun hc => hc.elim hempty id⟩
  | destroy =>
    have h := clearRequests_endsPending_iff sc
    simp only [EndsPending, teardown, h, reduceCtorEq, or_true, true_and, false_or]
    exact ⟨Or.inr, fun hc => hc.elim hempty id⟩

/-- A request that waits for its answer when `leave` disconnects is neither told nor removed. -/
theorem disconnect_keeps_pending :
    ¬ EndsPending .disconnect
      (⟨⟨some 0, 0, 1, []⟩, (∅ : HashMap ℤ (WebsocketRequest String)).insert 7
        ⟨7, "produce", some "promise", some "promise"⟩⟩) := by
  intro h
  have hl := congrArg (fun m => m.lookup 7) h.1
  simp only [teardown, disconnect, AList.lookup_insert, AList.lookup_empty, reduceCtorEq] at hl

/-- A request of the client, as `MediasoupApi::send` hands it over. -/
structure ClientRequest (κ : Type) where
  id : RequestId
  text : String
  callback : κ

/-- The entry under which a client request is meant to wait. -/
def ClientRequest.stored (q : ClientRequest κ) : WebsocketRequest κ :=
  ⟨q.id.val, q.text, some q.callback, some q.callback⟩

inductive TableEvent (κ : Type) where
  | request (q : ClientRequest κ)
  | answer (id : Option (IntN 64)) (text : String)
  | inbound (json : String)
  | closed

/-- The ids of the client requests of a run. -/
def requestIds (events : List (TableEvent κ)) : List ℤ :=
  events.filterMap fun
    | .request q => some q.id.val
    | _ => none

variable (R : Rapidjson)

def tableStep (sc : SignalingClient κ) : TableEvent κ → Except Fault (SignalingClient κ)
  | .request q => MediasoupApi.sendLocked q.text q.id q.callback sc
  | .answer id text => MediasoupApi.responseLocked text id sc
  | .inbound json => .ok (sc.handleResponse R json).1
  | .closed => .ok sc.onClosed.1

/-- The requests that were sent and neither answered nor rejected. -/
def outstandingStep (waiting : List (ClientRequest κ)) : TableEvent κ → List (ClientRequest κ)
  | .request q => if q.text.isEmpty then waiting else waiting ++ [q]
  | .answer _ _ => waiting
  | .inbound json =>
    match responseId R json with
    | none => waiting
    | some id => waiting.filter (fun q => q.id.val ≠ id)
  | .closed => []

def outstanding (events : List (TableEvent κ)) : List (ClientRequest κ) :=
  events.foldl (outstandingStep R) []

/-- The entries of the table are exactly the waiting requests. -/
def HoldsExactly (sc : SignalingClient κ) (waiting : List (ClientRequest κ)) : Prop :=
  ∀ k r, sc.requestMap.lookup k = some r ↔ ∃ q ∈ waiting, q.id.val = k ∧ q.stored = r

/-- A response resolves the waiting request with its id and no other. -/
def ResolvesExactly (sc : SignalingClient κ) (waiting : List (ClientRequest κ)) : Prop :=
  ∀ json, (sc.handleResponse R json).2 =
    match responseId R json with
    | none => []
    | some id => (waiting.filter (fun q => q.id.val = id)).map (.resolved ·.callback json)

/-- An answer to a request of the SFU that `send` does not drop for its empty text. -/
def TableEvent.IsAnswer : TableEvent κ → Prop
  | .answer _ text => text.isEmpty = false
  | _ => False

theorem handleResponse_requestMap (sc : SignalingClient κ) (json : String) :
    (sc.handleResponse R json).1.requestMap =
      match responseId R json with
      | none => sc.requestMap
      | some id => sc.requestMap.erase id := by
  unfold handleResponse
  cases hid : responseId R json with
  | none => rfl
  | some id =>
    simp only [takeRequest]
    cases hl : sc.requestMap.lookup id with
    | some r => rfl
    | none =>
      simp only
      apply AList.ext
      have hk : id ∉ sc.requestMap.keys := by
        rw [← AList.mem_keys, ← AList.lookup_isSome, hl]
        simp
      exact (List.kerase_of_notMem_keys hk).symm

theorem HoldsExactly.request {sc sc' : SignalingClient κ} {waiting : List (ClientRequest κ)}
    (h : HoldsExactly sc waiting) {q : ClientRequest κ} (ht : q.text.isEmpty = false)
    (hnew : q.id.val ∉ waiting.map (·.id.val))
    (hs : MediasoupApi.sendLocked q.text q.id q.callback sc = .ok sc') :
    HoldsExactly sc' (waiting ++ [q]) := by
  have hm := send_ok ht hs
  intro k r
  rw [hm, HashMap.lookup_insert_eq_ite, RequestId.wrap_eq]
  simp only [List.mem_append, List.mem_singleton, or_and_right, exists_or, exists_eq_left]
  split_ifs with hk
  · subst hk
    constructor
    · intro hr
      exact Or.inr ⟨rfl, Option.some.inj hr⟩
    · rintro (⟨p, hp, hid, -⟩ | ⟨-, hr⟩)
      · exact absurd (List.mem_map.mpr ⟨p, hp, hid⟩) hnew
      · rw [← hr]; rfl
  · rw [h k r]
    constructor
    · exact Or.inl
    · rintro (hp | ⟨hid, -⟩)
      · exact hp
      · exact absurd hid.symm hk

theorem HoldsExactly.inbound {sc : SignalingClient κ} {waiting : List (ClientRequest κ)}
    (h : HoldsExactly sc waiting) (json : String) :
    HoldsExactly (sc.handleResponse R json).1 (outstandingStep R waiting (.inbound json)) := by
  intro k r
  rw [handleResponse_requestMap]
  simp only [outstandingStep]
  cases hid : responseId R json with
  | none => exact h k r
  | some id =>
    simp only [HashMap.lookup_erase_eq_ite, List.mem_filter, decide_eq_true_eq]
    split_ifs with hk
    · subst hk
      constructor
      · intro hr; cases hr
      · rintro ⟨q, ⟨-, hne⟩, he, -⟩
        exact absurd he hne
    · rw [h k r]
      constructor
      · rintro ⟨q, hq, he, hr⟩
        exact ⟨q, ⟨hq, by rw [he]; exact hk⟩, he, hr⟩
      · rintro ⟨q, ⟨hq, -⟩, he, hr⟩
        exact ⟨q, hq, he, hr⟩

/-- Among elements with distinct keys, a key selects one element. -/
theorem filter_key_eq_singleton {α β : Type*} [DecidableEq β] (key : α → β) {l : List α} {a : α}
    (hd : (l.map key).Nodup) (ha : a ∈ l) : l.filter (fun x => key x = key a) = [a] := by
  induction l with
  | nil => cases ha
  | cons p ps ih =>
    simp only [List.map_cons, List.nodup_cons] at hd
    rcases List.mem_cons.mp ha with hap | hap
    · subst hap
      have hrest : ps.filter (fun x => key x = key a) = [] := by
        rw [List.filter_eq_nil_iff]
        intro x hx hxe
        exact hd.1 (List.mem_map.mpr ⟨x, hx, of_decide_eq_true hxe⟩)
      simp [hrest]
    · have hne : key p ≠ key a := by
        intro hpe
        exact hd.1 (List.mem_map.mpr ⟨a, hap, hpe.symm⟩)
      rw [List.filter_cons_of_neg (by simpa using hne)]
      exact ih hd.2 hap

theorem HoldsExactly.resolves {sc : SignalingClient κ} {waiting : List (ClientRequest κ)}
    (h : HoldsExactly sc waiting) (hd : (waiting.map (·.id.val)).Nodup) :
    ResolvesExactly R sc waiting := by
  intro json
  unfold handleResponse
  cases hid : responseId R json with
  | none => rfl
  | some id =>
    simp only [takeRequest]
    cases hl : sc.requestMap.lookup id with
    | none =>
      have hnone : waiting.filter (fun q => q.id.val = id) = [] := by
        rw [List.filter_eq_nil_iff]
        intro q hq he
        have hsome := (h id q.stored).mpr ⟨q, hq, of_decide_eq_true he, rfl⟩
        rw [hl] at hsome
        cases hsome
      simp [hnone]
    | some r =>
      obtain ⟨q, hq, he, hr⟩ := (h id r).mp hl
      have hone : waiting.filter (fun q => q.id.val = id) = [q] := by
        subst he
        exact filter_key_eq_singleton (fun q : ClientRequest κ => q.id.val) hd hq
      simp [hone, ← hr, WebsocketRequest.resolveWith, ClientRequest.stored]

/-- The table is exact and the waiting ids, with those still to be sent, are distinct. -/
structure TableInv (sc : SignalingClient κ) (waiting : List (ClientRequest κ))
    (rest : List (TableEvent κ)) : Prop where
  exact : HoldsExactly sc waiting
  distinct : (waiting.map (·.id.val) ++ requestIds rest).Nodup

theorem TableInv.step {sc sc' : SignalingClient κ} {waiting : List (ClientRequest κ)}
    {e : TableEvent κ} {rest : List (TableEvent κ)} (h : TableInv sc waiting (e :: rest))
    (he : ¬ e.IsAnswer) (hs : tableStep R sc e = .ok sc') :
    TableInv sc' (outstandingStep R waiting e) rest := by
  have hsub : ∀ l : List ℤ, l.Sublist (waiting.map (·.id.val)) → requestIds (e :: rest) =
      requestIds rest → (l ++ requestIds rest).Nodup := by
    intro l hl hr
    have hd := h.distinct
    rw [hr] at hd
    exact hd.sublist (hl.append_right _)
  cases e with
  | request q =>
    have hids : requestIds (.request q :: rest) = q.id.val :: requestIds rest := rfl
    have hd := h.distinct
    rw [hids] at hd
    by_cases ht : q.text.isEmpty = true
    · have hsc : sc' = sc := by
        simp only [tableStep, MediasoupApi.sendLocked, SignalingClient.send, ht, ↓reduceIte,
          Except.ok.injEq] at hs
        exact hs.symm
      subst hsc
      simp only [outstandingStep, ht, ↓reduceIte]
      exact ⟨h.exact, hd.sublist ((List.sublist_cons_self _ _).append_left _)⟩
    · have hf : q.text.isEmpty = false := by simpa using ht
      have hnew : q.id.val ∉ waiting.map (·.id.val) := fun hm =>
        (List.nodup_append.mp hd).2.2 _ hm _ (List.mem_cons_self) rfl
      simp only [outstandingStep, hf, Bool.false_eq_true, ↓reduceIte]
      refine ⟨h.exact.request hf hnew hs, ?_⟩
      simpa using hd
  | answer id text =>
    have ht : text.isEmpty = true := by simpa [TableEvent.IsAnswer] using he
    simp only [tableStep, MediasoupApi.responseLocked, SignalingClient.send, ht, ↓reduceIte,
      Except.ok.injEq] at hs
    subst hs
    exact ⟨h.exact, hsub _ (List.Sublist.refl _) rfl⟩
  | inbound json =>
    simp only [tableStep, Except.ok.injEq] at hs
    subst hs
    refine ⟨h.exact.inbound R json, hsub _ ?_ rfl⟩
    simp only [outstandingStep]
    cases responseId R json with
    | none => exact List.Sublist.refl _
    | some id => exact List.filter_sublist.map _
  | closed =>
    simp only [tableStep, onClosed, clearRequests, Except.ok.injEq] at hs
    subst hs
    refine ⟨?_, hsub [] (List.nil_sublist _) rfl⟩
    intro k r
    simp [outstandingStep]

theorem TableInv.run {rest events : List (TableEvent κ)} :
    ∀ {sc sc' : SignalingClient κ} {waiting : List (ClientRequest κ)},
      TableInv sc waiting (events ++ rest) → (∀ e ∈ events, ¬ e.IsAnswer) →
      exec (tableStep R) sc events = .ok sc' →
      TableInv sc' (events.foldl (outstandingStep R) waiting) rest := by
  induction events with
  | nil =>
    intro sc sc' waiting h _ hr
    cases hr
    exact h
  | cons e es ih =>
    intro sc sc' waiting h ha hr
    obtain ⟨m, hm, ht⟩ := exec_cons_ok.mp hr
    have hstep := TableInv.step R h (ha e List.mem_cons_self) hm
    exact ih hstep (fun x hx => ha x (List.mem_cons_of_mem _ hx)) ht

/-- An answer leaves an entry without callbacks, which no client request explains. -/
theorem answer_breaks {sc sc' : SignalingClient κ} {id : Option (IntN 64)} {text : String}
    (ht : text.isEmpty = false) (hs : tableStep R sc (.answer id text) = .ok sc')
    (waiting : List (ClientRequest κ)) : ¬ HoldsExactly sc' waiting := by
  intro h
  have hm := send_ok ht hs
  have hl : sc'.requestMap.lookup (wrap 32 (id.elim (-1) Subtype.val)) =
      some ⟨id.elim (-1) Subtype.val, text, none, none⟩ := by
    rw [hm, AList.lookup_insert]
  obtain ⟨q, -, -, hq⟩ := (h _ _).mp hl
  have := congrArg WebsocketRequest.resolve hq
  cases this

/-- Along a session the table holds exactly the requests that wait for their response, and a
response resolves exactly the request with its id, if and only if the client never answers a
request of the SFU. -/
theorem table_exact_iff (sc t : SignalingClient κ) (hempty : sc.requestMap = ∅)
    (events : List (TableEvent κ)) (hd : (requestIds events).Nodup)
    (hrun : exec (tableStep R) sc events = .ok t) :
    (∀ pre sc', pre <+: events → exec (tableStep R) sc pre = .ok sc' →
        HoldsExactly sc' (outstanding R pre) ∧ ResolvesExactly R sc' (outstanding R pre)) ↔
      ∀ e ∈ events, ¬ e.IsAnswer := by
  constructor
  · intro h e he ha
    obtain ⟨pre, post, rfl⟩ := List.append_of_mem he
    rw [show pre ++ e :: post = (pre ++ [e]) ++ post by simp] at hrun
    obtain ⟨m, hm, -⟩ := exec_append_ok.mp hrun
    have hexact := (h (pre ++ [e]) m ⟨post, by simp⟩ hm).1
    obtain ⟨s, hs, hlast⟩ := exec_append_ok.mp hm
    obtain ⟨s', hs', hnil⟩ := exec_cons_ok.mp hlast
    cases hnil
    cases e with
    | answer id text => exact answer_breaks R ha hs' _ hexact
    | request q => exact ha
    | inbound json => exact ha
    | closed => exact ha
  · rintro h pre sc' ⟨post, rfl⟩ hpre
    have h0 : TableInv sc [] (pre ++ post) := by
      refine ⟨?_, by simpa using hd⟩
      intro k r
      simp [hempty]
    have hinv := TableInv.run R h0 (fun e he => h e (List.mem_append_left _ he)) hpre
    exact ⟨hinv.exact, hinv.exact.resolves R (List.nodup_append.mp hinv.distinct).1⟩

/-- A connected client that waits for nothing. -/
def idle : SignalingClient String := ⟨⟨some 0, 0, 1, []⟩, ∅⟩

/-- A request for the id 7, as `_onProduce` sends it. -/
def produceRequest : ClientRequest String := ⟨⟨7, by decide⟩, "produce", "promise"⟩

/-- A response to it. -/
def firstReplyText : String := "\x7b\"response\":true,\"id\":7,\"ok\":true\x7d"

def firstReply : Rapidjson :=
  ⟨fun text => if text = firstReplyText then
    some (.object [("response", .bool true), ("id", .int 7), ("ok", .bool true)]) else none⟩

def pauseRequest : ClientRequest String := ⟨⟨8, by decide⟩, "pauseProducer", "paused"⟩

def resumeRequest : ClientRequest String := ⟨⟨9, by decide⟩, "resumeProducer", "resumed"⟩

/-- The first of two requests is answered, the response is repeated, and a third request waits with
the second one when the connection closes. -/
def answeredOnce : List (TableEvent String) :=
  [.request produceRequest, .request pauseRequest, .inbound firstReplyText, .inbound firstReplyText,
    .request resumeRequest, .closed]

theorem table_exact_answeredOnce :
    (∃ t, exec (tableStep firstReply) idle answeredOnce = .ok t) ∧
      (answeredOnce.inits.map fun pre => (outstanding firstReply pre).map ClientRequest.text) =
        [[], ["produce"], ["produce", "pauseProducer"], ["pauseProducer"], ["pauseProducer"],
          ["pauseProducer", "resumeProducer"], []] ∧
      ∀ pre sc', pre <+: answeredOnce → exec (tableStep firstReply) idle pre = .ok sc' →
        HoldsExactly sc' (outstanding firstReply pre) ∧
          ResolvesExactly firstReply sc' (outstanding firstReply pre) := by
  have hrun : ∃ t, exec (tableStep firstReply) idle answeredOnce = .ok t := ⟨_, rfl⟩
  obtain ⟨t, ht⟩ := hrun
  have hexact := table_exact_iff firstReply idle t rfl answeredOnce (by decide) ht
  refine ⟨⟨t, ht⟩, by decide +kernel, hexact.mpr fun e he => ?_⟩
  simp only [answeredOnce, List.mem_cons, List.not_mem_nil, or_false] at he
  rcases he with rfl | rfl | rfl | rfl | rfl | rfl <;> exact id

/-- The SFU reuses the id of a pending request: its answer takes the place of the request. -/
theorem answer_replaces_pending :
    ∃ sc', exec (tableStep ⟨fun _ => none⟩) idle
        [.request produceRequest, .answer (some ⟨7, by decide⟩) "accepted"] = .ok sc' ∧
      sc'.requestMap.lookup 7 = some ⟨7, "accepted", none, none⟩ ∧
      ¬ HoldsExactly sc' (outstanding ⟨fun _ => none⟩
        [.request produceRequest, .answer (some ⟨7, by decide⟩) "accepted"]) := by
  refine ⟨_, rfl, rfl, ?_⟩
  intro h
  obtain ⟨q, -, -, hq⟩ := (h 7 ⟨7, "accepted", none, none⟩).mp rfl
  have := congrArg WebsocketRequest.resolve hq
  cases this

end SignalingClient
end MediasoupSdk
