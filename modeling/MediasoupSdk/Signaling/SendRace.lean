import MediasoupSdk.Signaling.RequestTable

/-! `SignalingClient::send` on one thread against the response tasks on the transport thread.
The sender writes to the socket, starts the timer and only then stores the request. -/
namespace MediasoupSdk
open Foundation
namespace SignalingClient

variable {κ : Type}

/-- The statement of `send` that the sender executes next. -/
inductive Phase where
  | write
  | ticktock
  | store
  | returned
  | skipped
  deriving DecidableEq, Repr

/-- The shared state of both threads. `processed` pairs each response with the callbacks that
its task invoked. -/
structure Race (κ : Type) where
  client : SignalingClient κ
  phase : Phase := .write
  tasks : List String := []
  arrived : List String := []
  processed : List (String × List (Invocation κ)) := []

/-- Nothing of `send` has run and no response has arrived. -/
def Race.start (client : SignalingClient κ) : Race κ := { client }

inductive RaceAction where
  | sender
  | onMessage (json : String)
  | task
  deriving DecidableEq, Repr

variable (R : Rapidjson) (q : ClientRequest κ)

/-- One statement of `send(text, id, scb, fcb)`. -/
def senderStep (s : Race κ) : Except Fault (Race κ) :=
  match s.phase with
  | .write =>
    if q.text.isEmpty then .ok { s with phase := .skipped }
    else do
      let transport ← s.client.transport.send q.text
      return { s with client := { s.client with transport }, phase := .ticktock }
  | .ticktock => .ok { s with phase := .store }
  | .store => .ok { s with client := s.client.store q.stored, phase := .returned }
  | .returned => .ok s
  | .skipped => .ok s

/-- One step of either thread; `onMessage` posts a task for a response. -/
def raceStep (s : Race κ) : RaceAction → Except Fault (Race κ)
  | .sender => senderStep q s
  | .onMessage json =>
    if messageKind R json = some .response then
      .ok { s with tasks := s.tasks ++ [json], arrived := s.arrived ++ [json] }
    else .ok s
  | .task =>
    match s.tasks with
    | [] => .ok s
    | json :: tasks =>
      let (client, calls) := s.client.handleResponse R json
      .ok { s with client, tasks, processed := s.processed ++ [(json, calls)] }

/-- The response carries the id of the request. -/
def Carries (json : String) : Prop := responseId R json = some q.id.val

instance (json : String) : Decidable (Carries R q json) :=
  inferInstanceAs (Decidable (responseId R json = some q.id.val))

/-- The first response to the request is still queued, or its task invoked the callback. -/
def Delivered (s : Race κ) : Prop :=
  ∀ json, s.arrived.find? (Carries R q ·) = some json →
    (s.processed.find? (Carries R q ·.1) = none ∧ json ∈ s.tasks) ∨
      s.processed.find? (Carries R q ·.1) = some (json, [.resolved q.callback json])

/-- The task of a response to the request runs only after the request was stored. -/
def StoredFirst (s : Race κ) (a : RaceAction) : Prop :=
  a = .task → ∀ json tasks, s.tasks = json :: tasks → Carries R q json → s.phase = .returned

/-- In every state that the schedule passes through, no response to the request is lost. -/
def AlwaysDelivered (client : SignalingClient κ) (schedule : List RaceAction) : Prop :=
  ∀ pre t, pre <+: schedule → exec (raceStep R q) (.start client) pre = .ok t → Delivered R q t

/-- The requests of the table and the progress of the sender, as far as the schedule stored the
request in time. -/
structure RaceInv (s : Race κ) : Prop where
  fifo : s.processed.map Prod.fst ++ s.tasks = s.arrived
  early : s.phase ≠ .returned → s.processed.find? (Carries R q ·.1) = none
  waits : s.processed.find? (Carries R q ·.1) = none → s.phase = .returned →
    s.client.requestMap.lookup q.id.val = some q.stored
  done : ∀ e, s.processed.find? (Carries R q ·.1) = some e → e.2 = [.resolved q.callback e.1]

theorem RaceInv.start (client : SignalingClient κ) : RaceInv R q (.start client) :=
  ⟨rfl, fun _ => rfl, (fun _ h => nomatch h), (fun _ h => nomatch h)⟩

theorem stored_key : q.stored.key = q.id.val := q.id.wrap_eq

/-- A statement of the sender touches neither queue nor log; the table changes when it is
stored. -/
theorem senderStep_cases {s s' : Race κ} (h : senderStep q s = .ok s') :
    (s'.tasks = s.tasks ∧ s'.arrived = s.arrived ∧ s'.processed = s.processed) ∧
      ((s'.phase = .returned ∧ s'.client.requestMap.lookup q.id.val = some q.stored) ∨
        (s'.phase ≠ .returned ∧ s.phase ≠ .returned ∧
          s'.client.requestMap = s.client.requestMap) ∨ s' = s) := by
  unfold senderStep at h
  cases hp : s.phase with
  | write =>
    simp only [hp] at h
    split_ifs at h with ht
    · cases h
      simp
    · simp only [bind_ok, pure, Except.pure, Except.ok.injEq] at h
      obtain ⟨transport, -, rfl⟩ := h
      simp
  | ticktock =>
    simp only [hp, Except.ok.injEq] at h
    subst h
    simp
  | store =>
    simp only [hp, Except.ok.injEq] at h
    subst h
    simp [stored_key]
  | returned =>
    simp only [hp, Except.ok.injEq] at h
    simp [h]
  | skipped =>
    simp only [hp, Except.ok.injEq] at h
    simp [h]

theorem RaceInv.sender {s s' : Race κ} (h : RaceInv R q s) (hs : senderStep q s = .ok s') :
    RaceInv R q s' := by
  obtain ⟨⟨htasks, harrived, hprocessed⟩, hcases⟩ := senderStep_cases q hs
  rcases hcases with ⟨hphase, hlookup⟩ | ⟨hphase, hbefore, -⟩ | rfl
  · refine ⟨?_, fun hne => absurd hphase hne, fun _ _ => hlookup, ?_⟩
    · rw [htasks, harrived, hprocessed]
      exact h.fifo
    · rw [hprocessed]
      exact h.done
  · refine ⟨?_, ?_, fun _ hr => absurd hr hphase, ?_⟩
    · rw [htasks, harrived, hprocessed]
      exact h.fifo
    · rw [hprocessed]
      exact fun _ => h.early hbefore
    · rw [hprocessed]
      exact h.done
  · exact h

theorem RaceInv.arrival {s : Race κ} (h : RaceInv R q s) (json : String) :
    RaceInv R q { s with tasks := s.tasks ++ [json], arrived := s.arrived ++ [json] } := by
  refine ⟨?_, h.early, h.waits, h.done⟩
  simp only
  rw [← h.fifo, List.append_assoc]

/-- The task of a response that does not carry the id leaves the request where it is. -/
theorem handleResponse_lookup_of_not_carries {client : SignalingClient κ} {json : String}
    (hc : ¬ Carries R q json) :
    (client.handleResponse R json).1.requestMap.lookup q.id.val =
      client.requestMap.lookup q.id.val := by
  rw [handleResponse_requestMap]
  cases hid : responseId R json with
  | none => rfl
  | some id =>
    have hne : q.id.val ≠ id := by
      intro he
      exact hc (by rw [Carries, hid, he])
    simp [hne]

theorem handleResponse_calls_of_stored {client : SignalingClient κ} {json : String}
    (hc : Carries R q json) (hl : client.requestMap.lookup q.id.val = some q.stored) :
    (client.handleResponse R json).2 = [.resolved q.callback json] := by
  have hid : responseId R json = some q.id.val := hc
  simp [handleResponse, hid, takeRequest, hl, WebsocketRequest.resolveWith,
    ClientRequest.stored]

theorem RaceInv.task {s : Race κ} {json : String} {tasks : List String}
    (h : RaceInv R q s) (ht : s.tasks = json :: tasks)
    (hg : Carries R q json → s.phase = .returned) :
    RaceInv R q { s with
      client := (s.client.handleResponse R json).1
      tasks := tasks
      processed := s.processed ++ [(json, (s.client.handleResponse R json).2)] } := by
  have hfifo : (s.processed ++ [(json, (s.client.handleResponse R json).2)]).map Prod.fst ++
      tasks = s.arrived := by
    rw [← h.fifo, ht]
    simp
  by_cases hc : Carries R q json
  · refine ⟨hfifo, fun hne => absurd (hg hc) hne, ?_, ?_⟩
    · intro hnone
      simp [hc] at hnone
    · intro e he
      rw [List.find?_append] at he
      cases hprev : s.processed.find? (Carries R q ·.1) with
      | some e' =>
        rw [hprev] at he
        cases he
        exact h.done e hprev
      | none =>
        rw [hprev] at he
        simp only [List.find?_cons, hc, decide_true, Option.none_or, Option.some.injEq] at he
        subst he
        exact handleResponse_calls_of_stored R q hc (h.waits hprev (hg hc))
  · have hsame : (s.processed ++ [(json, (s.client.handleResponse R json).2)]).find?
        (Carries R q ·.1) = s.processed.find? (Carries R q ·.1) := by
      rw [List.find?_append]
      simp [hc]
    refine ⟨hfifo, ?_, ?_, ?_⟩
    · simp only [hsame]
      exact h.early
    · simp only [hsame, handleResponse_lookup_of_not_carries R q hc]
      exact h.waits
    · simp only [hsame]
      exact h.done

theorem RaceInv.step {s s' : Race κ} {a : RaceAction} (h : RaceInv R q s)
    (hg : StoredFirst R q s a) (hs : raceStep R q s a = .ok s') : RaceInv R q s' := by
  cases a with
  | sender => exact h.sender R q hs
  | onMessage json =>
    simp only [raceStep] at hs
    split_ifs at hs with hk
    · cases hs
      exact h.arrival R q json
    · cases hs
      exact h
  | task =>
    simp only [raceStep] at hs
    cases ht : s.tasks with
    | nil =>
      rw [ht] at hs
      cases hs
      exact h
    | cons json tasks =>
      rw [ht] at hs
      cases hs
      exact h.task R q ht (hg rfl json tasks ht)

theorem RaceInv.delivered {s : Race κ} (h : RaceInv R q s) : Delivered R q s := by
  intro json hj
  rw [← h.fifo, List.find?_append, List.find?_map] at hj
  cases hp : s.processed.find? (Carries R q ·.1) with
  | none =>
    have hcomp : s.processed.find? ((fun x => decide (Carries R q x)) ∘ Prod.fst) = none := hp
    rw [hcomp] at hj
    simp only [Option.map_none, Option.none_or] at hj
    exact Or.inl ⟨rfl, List.mem_of_find?_eq_some hj⟩
  | some e =>
    have hcomp : s.processed.find? ((fun x => decide (Carries R q x)) ∘ Prod.fst) = some e := hp
    rw [hcomp] at hj
    simp only [Option.map_some, Option.some_or, Option.some.injEq] at hj
    right
    rw [← hj, ← h.done e hp]

/-- Before the request is stored the table has no entry for it, if it had none at the start. -/
def Absent (s : Race κ) : Prop :=
  s.phase ≠ .returned → s.client.requestMap.lookup q.id.val = none

theorem Absent.step {s s' : Race κ} {a : RaceAction} (h : Absent q s)
    (hs : raceStep R q s a = .ok s') : Absent q s' := by
  cases a with
  | sender =>
    obtain ⟨-, hcases⟩ := senderStep_cases q hs
    rcases hcases with ⟨hphase, -⟩ | ⟨-, hbefore, hmap⟩ | rfl
    · exact fun hne => absurd hphase hne
    · exact fun _ => by rw [hmap]; exact h hbefore
    · exact h
  | onMessage json =>
    simp only [raceStep] at hs
    split_ifs at hs <;> cases hs <;> exact h
  | task =>
    simp only [raceStep] at hs
    cases ht : s.tasks with
    | nil =>
      rw [ht] at hs
      cases hs
      exact h
    | cons json tasks =>
      rw [ht] at hs
      cases hs
      intro hne
      simp only [handleResponse_requestMap]
      cases responseId R json with
      | none => exact h hne
      | some id =>
        simp only [HashMap.lookup_erase_eq_ite, h hne, ite_self]

/-- A response that is processed before the request is stored is dropped. -/
theorem lost_of_not_storedFirst {s : Race κ} {a : RaceAction} (h : RaceInv R q s)
    (ha : Absent q s) (hn : ¬ StoredFirst R q s a) :
    ∃ s', raceStep R q s a = .ok s' ∧ ¬ Delivered R q s' := by
  simp only [StoredFirst, not_forall] at hn
  obtain ⟨rfl, json, tasks, ht, hc, hne⟩ := hn
  have hnone := h.early hne
  have hcalls : (s.client.handleResponse R json).2 = [] := by
    have hid : responseId R json = some q.id.val := hc
    simp [handleResponse, hid, takeRequest, ha hne]
  have hfirst : s.arrived.find? (Carries R q ·) = some json := by
    have hcomp : s.processed.find? ((fun x => decide (Carries R q x)) ∘ Prod.fst) = none :=
      hnone
    rw [← h.fifo, List.find?_append, List.find?_map, hcomp, ht]
    simp [hc]
  have hfind : (s.processed ++ [(json, (s.client.handleResponse R json).2)]).find?
      (Carries R q ·.1) = some (json, []) := by
    rw [List.find?_append, hnone, hcalls]
    simp [hc]
  refine ⟨{ s with
    client := (s.client.handleResponse R json).1
    tasks
    processed := s.processed ++ [(json, (s.client.handleResponse R json).2)] }, ?_, ?_⟩
  · simp only [raceStep, ht]
  · intro hd
    rcases hd json hfirst with ⟨hnil, -⟩ | hr
    · rw [hfind] at hnil
      cases hnil
    · rw [hfind] at hr
      cases hr

/-- A schedule that stores the request before the task of its response runs loses nothing; no
other schedule does, when no older request waits under the same id. -/
theorem alwaysDelivered_iff_storedFirst (client : SignalingClient κ)
    (schedule : List RaceAction) :
    (Guarded (raceStep R q) (StoredFirst R q) (.start client) schedule →
        AlwaysDelivered R q client schedule) ∧
      (client.requestMap.lookup q.id.val = none → AlwaysDelivered R q client schedule →
        Guarded (raceStep R q) (StoredFirst R q) (.start client) schedule) := by
  constructor
  · rintro hg pre t ⟨post, rfl⟩ hr
    have hinv := exec_invariant (fun _ _ _ hi hok hs => RaceInv.step R q hi hok hs)
      (guarded_append.mp hg).1 (RaceInv.start R q client) hr
    exact hinv.delivered R q
  · intro hfresh
    refine (forall_prefix_iff_guarded (I := fun s => RaceInv R q s ∧ Absent q s)
      (fun s h => h.1.delivered R q)
      (fun s a s' h hok hs => ⟨h.1.step R q hok hs, h.2.step R q hs⟩)
      (fun s a h hn => lost_of_not_storedFirst R q h.1 h.2 hn)
      ⟨RaceInv.start R q client, fun _ => hfresh⟩).mp

/-- The response `ok` to request 7. -/
def produced : String := "\x7b\"response\":true,\"id\":7,\"ok\":true\x7d"

def producedJson : Rapidjson where
  parse text :=
    if text = produced then
      some (.object [("response", .bool true), ("id", .int 7), ("ok", .bool true)])
    else none

/-- The sender stores the request before the response arrives. -/
def patientSchedule : List RaceAction := [.sender, .sender, .sender, .onMessage produced, .task]

theorem patientSchedule_delivered :
    Guarded (raceStep producedJson produceRequest) (StoredFirst producedJson produceRequest)
        (.start idle) patientSchedule ∧
      AlwaysDelivered producedJson produceRequest idle patientSchedule := by
  have hg : Guarded (raceStep producedJson produceRequest)
      (StoredFirst producedJson produceRequest) (.start idle) patientSchedule := by
    refine ⟨nofun, ?_⟩
    rintro _ ⟨⟩
    refine ⟨nofun, ?_⟩
    rintro _ ⟨⟩
    refine ⟨nofun, ?_⟩
    rintro _ ⟨⟩
    refine ⟨nofun, ?_⟩
    rintro s' hs
    have hphase : s'.phase = .returned := by
      simp only [raceStep] at hs
      split_ifs at hs <;> cases hs <;> rfl
    exact ⟨fun _ _ _ _ _ => hphase, fun _ _ => trivial⟩
  exact ⟨hg, (alwaysDelivered_iff_storedFirst producedJson produceRequest idle
    patientSchedule).1 hg⟩

/-- The answer of the SFU is processed after `send` wrote the text and before it stored the
request: the response is dropped and the request waits in vain. -/
theorem response_before_store_lost :
    ∃ t, exec (raceStep producedJson produceRequest) (.start idle)
        [.sender, .onMessage produced, .task, .sender, .sender] = .ok t ∧
      t.client.transport.sent = [(0, 0, "produce")] ∧
      t.processed = [(produced, [])] ∧ ¬ Delivered producedJson produceRequest t := by
  refine ⟨{ client := ⟨⟨some 0, 0, 1, [(0, 0, "produce")]⟩, idle.requestMap.insert 7
      produceRequest.stored⟩
            phase := .returned
            tasks := []
            arrived := [produced]
            processed := [(produced, [])] }, ?_, rfl, rfl, ?_⟩
  · rfl
  · intro hd
    have hc : Carries producedJson produceRequest produced := by decide
    rcases hd produced (by simp [hc]) with ⟨hn, -⟩ | hr
    · simp [hc] at hn
    · simp [hc] at hr

end SignalingClient
end MediasoupSdk
