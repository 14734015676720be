import MediasoupSdk.Foundation.Execution

/-! A thread that serves calls. A caller on another thread queues a reference to its frame and
waits until the answer is in the frame; tasks without a caller are queued too. Other threads may
change the object in between. A caller on the thread itself is not queued and not covered. -/
namespace Foundation

variable {σ C M O E W R ε : Type*}

/-- The object of the thread, with its methods, the tasks of the thread and what other threads do.
Each may queue further tasks; `W` is what the world answers during it. -/
structure Server (σ M O E W R ε : Type*) where
  invoke : M → W → σ → Except ε (σ × R × List O)
  perform : O → W → σ → Except ε (σ × List O)
  interrupt : E → W → σ → Except ε (σ × List O)

inductive QueuedTask (C O : Type*) where
  | call (caller : C)
  | posted (task : O)

/-- The caller that waits for a task. -/
def QueuedTask.caller? : QueuedTask C O → Option C
  | .call c => some c
  | .posted _ => none

theorem caller_posted (tasks : List O) :
    (tasks.map (QueuedTask.posted : O → QueuedTask C O)).filterMap QueuedTask.caller? = [] := by
  rw [List.filterMap_map]
  exact List.filterMap_eq_nil_iff.mpr fun _ _ => rfl

structure CallFrame (M R : Type*) where
  method : M
  answer : Option R := none

/-- What happens around the object, in order. -/
inductive CallEvent (C M O E W R : Type*) where
  | called (caller : C) (method : M)
  | invoked (caller : C) (method : M) (w : W) (answer : R)
  | performed (task : O) (w : W)
  | interrupted (e : E) (w : W)
  | returned (caller : C) (answer : R)

/-- What the thread took from its queue, for the events where it did. -/
def CallEvent.taken? : CallEvent C M O E W R → Option (C × M ⊕ O)
  | .invoked c m _ _ => some (.inl (c, m))
  | .performed o _ => some (.inr o)
  | _ => none

namespace Server

variable {S : Server σ M O E W R ε}

/-- The methods and tasks of a trace, done one after another, give the answers of the trace. -/
def Replays (S : Server σ M O E W R ε) : σ → List (CallEvent C M O E W R) → σ → Prop
  | x, [], y => x = y
  | x, .called _ _ :: trace, y => Replays S x trace y
  | x, .invoked _ m w r :: trace, y =>
    ∃ x' posts, S.invoke m w x = .ok (x', r, posts) ∧ Replays S x' trace y
  | x, .performed o w :: trace, y =>
    ∃ x' posts, S.perform o w x = .ok (x', posts) ∧ Replays S x' trace y
  | x, .interrupted e w :: trace, y =>
    ∃ x' posts, S.interrupt e w x = .ok (x', posts) ∧ Replays S x' trace y
  | x, .returned _ _ :: trace, y => Replays S x trace y

theorem replays_append {x y : σ} {trace trace' : List (CallEvent C M O E W R)} :
    S.Replays x (trace ++ trace') y ↔ ∃ z, S.Replays x trace z ∧ S.Replays z trace' y := by
  induction trace generalizing x with
  | nil => simp [Replays]
  | cons e trace ih =>
    have hthen {P : σ → Prop} : (∃ x', P x' ∧ S.Replays x' (trace ++ trace') y) ↔
        ∃ z, (∃ x', P x' ∧ S.Replays x' trace z) ∧ S.Replays z trace' y := by
      simp only [ih]
      constructor
      · rintro ⟨x', hx', z, htrace, hrest⟩
        exact ⟨z, ⟨x', hx', htrace⟩, hrest⟩
      · rintro ⟨z, ⟨x', hx', htrace⟩, hrest⟩
        exact ⟨x', hx', z, htrace, hrest⟩
    cases e with
    | called c m => exact ih
    | invoked c m w r => simpa [Replays] using @hthen fun x' => ∃ posts, S.invoke m w x = _
    | performed o w => simpa [Replays] using @hthen fun x' => ∃ posts, S.perform o w x = _
    | interrupted e w => simpa [Replays] using @hthen fun x' => ∃ posts, S.interrupt e w x = _
    | returned c r => exact ih

end Server

/-- `arrivals` are the calls and the tasks in the order in which they were queued. -/
structure CallQueue (σ C M O E W R : Type*) where
  object : σ
  queue : List (QueuedTask C O) := []
  frames : C → Option (CallFrame M R) := fun _ => none
  trace : List (CallEvent C M O E W R) := []
  arrivals : List (C × M ⊕ O) := []

/-- A task that refers to a frame that is gone, or whose answer is there already. -/
inductive QueueFault (ε : Type*) where
  | dangling
  | answeredTwice
  | failed (e : ε)
  deriving DecidableEq

inductive QueueAction (C M E W : Type*) where
  | call (caller : C) (method : M)
  | take (w : W)
  | interrupt (e : E) (w : W)
  | ret (caller : C)

/-- What holds of each item and those before it, with one more item. -/
theorem forall_split_snoc {α : Type*} {P : List α → α → Prop} {l : List α} {a : α}
    (h : ∀ before b after, l = before ++ b :: after → P before b) (ha : P l a) :
    ∀ before b after, l ++ [a] = before ++ b :: after → P before b := by
  intro before b after hsplit
  rcases List.eq_nil_or_concat after with rfl | ⟨after', last, rfl⟩
  · obtain ⟨rfl, hlast⟩ := List.append_inj' hsplit rfl
    exact List.singleton_inj.mp hlast ▸ ha
  · have hsplit' : l ++ [a] = (before ++ b :: after') ++ [last] := by
      simpa using hsplit
    exact h before b after' (List.append_inj' hsplit' rfl).1

/-- The last item that a filter keeps. -/
theorem exists_of_filter_snoc {α : Type*} {p : α → Bool} {l kept : List α} {a : α}
    (h : l.filter p = kept ++ [a]) :
    ∃ l₁ l₂, l = l₁ ++ a :: l₂ ∧ l₁.filter p = kept ∧ ∀ b ∈ l₂, p b = false := by
  obtain ⟨m₁, m₂, rfl, hm₁, hm₂⟩ := List.filter_eq_append_iff.mp h
  obtain ⟨n₁, n₂, rfl, hn₁, -, hn₂⟩ := List.filter_eq_cons_iff.mp hm₂
  refine ⟨m₁ ++ n₁, n₂, by simp, ?_, ?_⟩
  · rw [List.filter_append, hm₁, List.filter_eq_nil_iff.mpr hn₁, List.append_nil]
  · intro b hb
    rw [Bool.eq_false_iff]
    exact List.filter_eq_nil_iff.mp hn₂ b hb

namespace CallQueue

/-- The events of one caller, with its frame after them. -/
inductive CallPhase (c : C) :
    List (CallEvent C M O E W R) → Option (CallFrame M R) → Prop
  | idle : CallPhase c [] none
  | called {events} (m : M) (h : CallPhase c events none) :
    CallPhase c (events ++ [.called c m]) (some ⟨m, none⟩)
  | invoked {events m} (w : W) (r : R) (h : CallPhase c events (some ⟨m, none⟩)) :
    CallPhase c (events ++ [.invoked c m w r]) (some ⟨m, some r⟩)
  | returned {events m r} (h : CallPhase c events (some ⟨m, some r⟩)) :
    CallPhase c (events ++ [.returned c r]) none

theorem CallPhase.exists_called {c : C} {events : List (CallEvent C M O E W R)} {m : M}
    (h : CallPhase c events (some ⟨m, none⟩)) : ∃ l, events = l ++ [.called c m] := by
  cases h with
  | called m h => exact ⟨_, rfl⟩

theorem CallPhase.exists_invoked {c : C} {events : List (CallEvent C M O E W R)} {m : M} {r : R}
    (h : CallPhase c events (some ⟨m, some r⟩)) :
    ∃ l w, events = l ++ [.called c m] ++ [.invoked c m w r] := by
  cases h with
  | invoked w r h =>
    obtain ⟨l, rfl⟩ := h.exists_called
    exact ⟨l, w, rfl⟩

/-- What a queued task stands for; a call is read from the frame of its caller. -/
def arrival? (frames : C → Option (CallFrame M R)) : QueuedTask C O → Option (C × M ⊕ O)
  | .call c => (frames c).map fun f => .inl (c, f.method)
  | .posted o => some (.inr o)

theorem arrival_posted (frames : C → Option (CallFrame M R)) (tasks : List O) :
    (tasks.map QueuedTask.posted).filterMap (arrival? frames) = tasks.map .inr := by
  rw [List.filterMap_map]
  exact congrFun List.filterMap_eq_map' tasks

def post (tasks : List O) (s : CallQueue σ C M O E W R) : CallQueue σ C M O E W R :=
  { s with
    queue := s.queue ++ tasks.map .posted
    arrivals := s.arrivals ++ tasks.map .inr }

variable [DecidableEq C] (S : Server σ M O E W R ε)

/-- A caller that waits for an answer makes no other call. -/
def call (c : C) (m : M) (s : CallQueue σ C M O E W R) : CallQueue σ C M O E W R :=
  match s.frames c with
  | some _ => s
  | none =>
    { s with
      queue := s.queue ++ [.call c]
      frames := Function.update s.frames c (some { method := m })
      trace := s.trace ++ [.called c m]
      arrivals := s.arrivals ++ [.inl (c, m)] }

/-- The thread takes the first task. The method of a call is read from the frame of the caller,
which gets the answer. -/
def take (w : W) (s : CallQueue σ C M O E W R) :
    Except (QueueFault ε) (CallQueue σ C M O E W R) :=
  match s.queue with
  | [] => .ok s
  | .posted o :: rest =>
    match S.perform o w s.object with
    | .error e => .error (.failed e)
    | .ok (object, posts) =>
      .ok (post posts { s with object, queue := rest, trace := s.trace ++ [.performed o w] })
  | .call c :: rest =>
    match s.frames c with
    | none => .error .dangling
    | some ⟨_, some _⟩ => .error .answeredTwice
    | some ⟨m, none⟩ =>
      match S.invoke m w s.object with
      | .error e => .error (.failed e)
      | .ok (object, r, posts) =>
        .ok (post posts
          { s with
            object
            queue := rest
            frames := Function.update s.frames c (some ⟨m, some r⟩)
            trace := s.trace ++ [.invoked c m w r] })

def interrupt (e : E) (w : W) (s : CallQueue σ C M O E W R) :
    Except (QueueFault ε) (CallQueue σ C M O E W R) :=
  match S.interrupt e w s.object with
  | .error e => .error (.failed e)
  | .ok (object, posts) =>
    .ok (post posts { s with object, trace := s.trace ++ [.interrupted e w] })

/-- The caller goes on once the answer is in its frame. -/
def ret (c : C) (s : CallQueue σ C M O E W R) : CallQueue σ C M O E W R :=
  match s.frames c with
  | some ⟨_, some r⟩ =>
    { s with
      frames := Function.update s.frames c none
      trace := s.trace ++ [.returned c r] }
  | _ => s

def step (s : CallQueue σ C M O E W R) :
    QueueAction C M E W → Except (QueueFault ε) (CallQueue σ C M O E W R)
  | .call c m => .ok (s.call c m)
  | .take w => s.take S w
  | .interrupt e w => s.interrupt S e w
  | .ret c => .ok (s.ret c)

variable {S} {s s' : CallQueue σ C M O E W R}

/-- What one step can do. -/
inductive Change (S : Server σ M O E W R ε) (s : CallQueue σ C M O E W R) :
    QueueAction C M E W → CallQueue σ C M O E W R → Prop
  | called (c : C) (m : M) (hframe : s.frames c = none) :
    Change S s (.call c m) { s with
      queue := s.queue ++ [.call c]
      frames := Function.update s.frames c (some { method := m })
      trace := s.trace ++ [.called c m]
      arrivals := s.arrivals ++ [.inl (c, m)] }
  | refused (c : C) (m : M) (hframe : s.frames c ≠ none) : Change S s (.call c m) s
  | idle (w : W) (hqueue : s.queue = []) : Change S s (.take w) s
  | performed (o : O) (rest : List (QueuedTask C O)) (w : W) (object : σ) (posts : List O)
      (hqueue : s.queue = .posted o :: rest)
      (hperform : S.perform o w s.object = .ok (object, posts)) :
    Change S s (.take w) (post posts
      { s with object := object, queue := rest, trace := s.trace ++ [.performed o w] })
  | invoked (c : C) (rest : List (QueuedTask C O)) (m : M) (w : W) (object : σ) (r : R)
      (posts : List O) (hqueue : s.queue = .call c :: rest)
      (hframe : s.frames c = some ⟨m, none⟩)
      (hinvoke : S.invoke m w s.object = .ok (object, r, posts)) :
    Change S s (.take w) (post posts
      { s with
        object := object
        queue := rest
        frames := Function.update s.frames c (some ⟨m, some r⟩)
        trace := s.trace ++ [.invoked c m w r] })
  | interrupted (e : E) (w : W) (object : σ) (posts : List O)
      (hinterrupt : S.interrupt e w s.object = .ok (object, posts)) :
    Change S s (.interrupt e w) (post posts
      { s with object := object, trace := s.trace ++ [.interrupted e w] })
  | returned (c : C) (m : M) (r : R) (hframe : s.frames c = some ⟨m, some r⟩) :
    Change S s (.ret c) { s with
      frames := Function.update s.frames c none
      trace := s.trace ++ [.returned c r] }
  | waiting (c : C) (hframe : ∀ m r, s.frames c ≠ some ⟨m, some r⟩) : Change S s (.ret c) s

theorem step_change {a : QueueAction C M E W} (h : s.step S a = .ok s') : Change S s a s' := by
  cases a with
  | call c m =>
    obtain rfl : s.call c m = s' := Except.ok.inj h
    cases hframe : s.frames c with
    | none =>
      rw [call, hframe]
      exact .called c m hframe
    | some f =>
      rw [call, hframe]
      exact .refused c m (by simp [hframe])
  | take w =>
    rw [step, take] at h
    split at h
    · next hqueue =>
      cases h
      exact .idle w hqueue
    · next o rest hqueue =>
      split at h
      · cases h
      · next object posts hperform =>
        cases h
        exact .performed o rest w object posts hqueue hperform
    · next c rest hqueue =>
      split at h
      · cases h
      · cases h
      · next m hframe =>
        split at h
        · cases h
        · next object r posts hinvoke =>
          cases h
          exact .invoked c rest m w object r posts hqueue hframe hinvoke
  | interrupt e w =>
    rw [step, interrupt] at h
    split at h
    · cases h
    · next object posts hinterrupt =>
      cases h
      exact .interrupted e w object posts hinterrupt
  | ret c =>
    obtain rfl : s.ret c = s' := Except.ok.inj h
    rw [ret]
    split
    · next m r hframe => exact .returned c m r hframe
    · next hframe => exact .waiting c hframe

/-- The event is one of a caller. -/
def isOf (c : C) : CallEvent C M O E W R → Bool
  | .called d _ => d = c
  | .invoked d _ _ _ => d = c
  | .performed _ _ => false
  | .interrupted _ _ => false
  | .returned d _ => d = c

/-- A caller waits in the queue exactly while its frame has no answer, and in one place only. What
has been taken and what waits are the arrivals in their order. -/
structure Inv (S : Server σ M O E W R ε) (start : σ) (s : CallQueue σ C M O E W R) : Prop where
  queued : ∀ c, .call c ∈ s.queue ↔ ∃ m, s.frames c = some ⟨m, none⟩
  nodup : (s.queue.filterMap QueuedTask.caller?).Nodup
  phase : ∀ c, CallPhase c (s.trace.filter (isOf c)) (s.frames c)
  replays : S.Replays start s.trace s.object
  order : s.arrivals =
    s.trace.filterMap CallEvent.taken? ++ s.queue.filterMap (arrival? s.frames)

theorem arrival_update {frames : C → Option (CallFrame M R)} {c : C}
    {frame : Option (CallFrame M R)} {queue : List (QueuedTask C O)} (h : .call c ∉ queue) :
    queue.filterMap (arrival? (Function.update frames c frame)) =
      queue.filterMap (arrival? frames) := by
  apply List.filterMap_congr
  intro t ht
  cases t with
  | call d =>
    have hne : d ≠ c := by
      rintro rfl
      exact h ht
    rw [arrival?, arrival?, Function.update_of_ne hne]
  | posted o => rfl

namespace Inv

variable {start : σ}

/-- Posting changes neither the callers nor what happened. -/
theorem post (h : Inv S start s) (tasks : List O) : Inv S start (s.post tasks) := by
  constructor
  · intro c
    refine Iff.trans ?_ (h.queued c)
    simp [CallQueue.post]
  · show ((s.queue ++ tasks.map QueuedTask.posted).filterMap QueuedTask.caller?).Nodup
    rw [List.filterMap_append, caller_posted, List.append_nil]
    exact h.nodup
  · exact h.phase
  · exact h.replays
  · show s.arrivals ++ _ = s.trace.filterMap CallEvent.taken? ++
      (s.queue ++ tasks.map QueuedTask.posted).filterMap (arrival? s.frames)
    rw [List.filterMap_append, arrival_posted, h.order, List.append_assoc]

theorem notMem (h : Inv S start s) {c : C} (hframe : ∀ m, s.frames c ≠ some ⟨m, none⟩) :
    .call c ∉ s.queue := by
  intro hmem
  obtain ⟨m, hm⟩ := (h.queued c).mp hmem
  exact hframe m hm

/-- The callers that wait behind a call are others. -/
theorem notMem_rest (h : Inv S start s) {c : C} {rest : List (QueuedTask C O)}
    (hqueue : s.queue = .call c :: rest) : .call c ∉ rest := by
  have hnodup := h.nodup
  rw [hqueue, List.filterMap_cons_some (show QueuedTask.caller? (.call c) = some c from rfl),
    List.nodup_cons] at hnodup
  exact fun hmem => hnodup.1 (List.mem_filterMap.mpr ⟨_, hmem, rfl⟩)

/-- An event of one caller leaves the others in their phases. -/
theorem phase_snoc (h : Inv S start s) {c : C} {e : CallEvent C M O E W R}
    {frame : Option (CallFrame M R)} (hof : ∀ d, isOf d e ↔ d = c)
    (hself : CallPhase c (s.trace.filter (isOf c) ++ [e]) frame) (d : C) :
    CallPhase d ((s.trace ++ [e]).filter (isOf d)) (Function.update s.frames c frame d) := by
  rw [List.filter_append]
  by_cases he : d = c
  · rw [he, Function.update_self, List.filter_singleton, (hof c).mpr rfl]
    exact hself
  · have hnot : isOf d e = false := by
      rw [Bool.eq_false_iff]
      exact fun hd => he ((hof d).mp hd)
    rw [Function.update_of_ne he, List.filter_singleton, hnot]
    simpa using h.phase d

/-- An event of no caller leaves all in their phases. -/
theorem phase_snoc_none (h : Inv S start s) {e : CallEvent C M O E W R}
    (hof : ∀ d, isOf d e = false) (d : C) :
    CallPhase d ((s.trace ++ [e]).filter (isOf d)) (s.frames d) := by
  rw [List.filter_append, List.filter_singleton, hof d]
  simpa using h.phase d

theorem called (h : Inv S start s) {c : C} (m : M) (hframe : s.frames c = none) :
    Inv S start { s with
      queue := s.queue ++ [.call c]
      frames := Function.update s.frames c (some { method := m })
      trace := s.trace ++ [.called c m]
      arrivals := s.arrivals ++ [.inl (c, m)] } := by
  have hnew : .call c ∉ s.queue := h.notMem (by simp [hframe])
  constructor
  · intro d
    by_cases he : d = c
    · simp [he]
    · simp only [List.mem_append, List.mem_singleton, QueuedTask.call.injEq, he, or_false,
        ne_eq, not_false_eq_true, Function.update_of_ne]
      exact h.queued d
  · show ((s.queue ++ [QueuedTask.call c]).filterMap QueuedTask.caller?).Nodup
    rw [List.filterMap_append, List.nodup_append]
    refine ⟨h.nodup, List.nodup_singleton c, ?_⟩
    intro d hd d' hd' he
    obtain ⟨t, ht, htd⟩ := List.mem_filterMap.mp hd
    obtain rfl : d' = c := by simpa [QueuedTask.caller?] using hd'
    cases t with
    | call e =>
      obtain rfl : e = d := by simpa [QueuedTask.caller?] using htd
      exact hnew (he ▸ ht)
    | posted o => cases htd
  · refine h.phase_snoc (fun d => ?_) ?_
    · simp [isOf, eq_comm]
    · have hphase := h.phase c
      rw [hframe] at hphase
      exact hphase.called m
  · exact Server.replays_append.mpr ⟨_, h.replays, rfl⟩
  · show s.arrivals ++ [.inl (c, m)] = (s.trace ++ [_]).filterMap CallEvent.taken? ++
      (s.queue ++ [QueuedTask.call c]).filterMap (arrival? (Function.update s.frames c _))
    rw [List.filterMap_append, List.filterMap_append, arrival_update hnew, h.order]
    simp [CallEvent.taken?, arrival?]

theorem performed (h : Inv S start s) {o : O} {rest : List (QueuedTask C O)} {w : W}
    {object : σ} {posts : List O} (hqueue : s.queue = .posted o :: rest)
    (hperform : S.perform o w s.object = .ok (object, posts)) :
    Inv S start
      { s with object := object, queue := rest, trace := s.trace ++ [.performed o w] } := by
  constructor
  · intro c
    rw [← h.queued c, hqueue]
    simp
  · have hnodup := h.nodup
    rw [hqueue] at hnodup
    exact hnodup
  · exact h.phase_snoc_none fun d => rfl
  · exact Server.replays_append.mpr ⟨_, h.replays, object, posts, hperform, rfl⟩
  · have horder := h.order
    rw [hqueue] at horder
    simpa [CallEvent.taken?, arrival?] using horder

theorem invoked (h : Inv S start s) {c : C} {m : M} {rest : List (QueuedTask C O)} {w : W}
    {object : σ} {r : R} {posts : List O} (hqueue : s.queue = .call c :: rest)
    (hframe : s.frames c = some ⟨m, none⟩)
    (hinvoke : S.invoke m w s.object = .ok (object, r, posts)) :
    Inv S start
      { s with
        object := object
        queue := rest
        frames := Function.update s.frames c (some ⟨m, some r⟩)
        trace := s.trace ++ [.invoked c m w r] } := by
  have hgone := h.notMem_rest hqueue
  constructor
  · intro d
    by_cases he : d = c
    · simp [he, hgone]
    · show .call d ∈ rest ↔ ∃ m', Function.update s.frames c _ d = some ⟨m', none⟩
      rw [Function.update_of_ne he, ← h.queued d, hqueue]
      simp [he]
  · have hnodup := h.nodup
    rw [hqueue, List.filterMap_cons_some (show QueuedTask.caller? (.call c) = some c from rfl),
      List.nodup_cons] at hnodup
    exact hnodup.2
  · refine h.phase_snoc (fun d => ?_) ?_
    · simp [isOf, eq_comm]
    · have hphase := h.phase c
      rw [hframe] at hphase
      exact hphase.invoked w r
  · exact Server.replays_append.mpr ⟨_, h.replays, object, posts, hinvoke, rfl⟩
  · have horder := h.order
    rw [hqueue] at horder
    show s.arrivals = _ ++ rest.filterMap (arrival? (Function.update s.frames c _))
    rw [arrival_update hgone]
    simpa [CallEvent.taken?, arrival?, hframe] using horder

theorem interrupted (h : Inv S start s) {e : E} {w : W} {object : σ} {posts : List O}
    (hinterrupt : S.interrupt e w s.object = .ok (object, posts)) :
    Inv S start { s with object := object, trace := s.trace ++ [.interrupted e w] } := by
  refine ⟨h.queued, h.nodup, h.phase_snoc_none fun d => rfl, ?_, ?_⟩
  · exact Server.replays_append.mpr ⟨_, h.replays, object, posts, hinterrupt, rfl⟩
  · show s.arrivals = (s.trace ++ [_]).filterMap CallEvent.taken? ++ _
    rw [List.filterMap_append, List.filterMap_cons_none rfl, List.filterMap_nil, List.append_nil]
    exact h.order

theorem returned (h : Inv S start s) {c : C} {m : M} {r : R}
    (hframe : s.frames c = some ⟨m, some r⟩) :
    Inv S start { s with
      frames := Function.update s.frames c none
      trace := s.trace ++ [.returned c r] } := by
  have hnot : .call c ∉ s.queue := h.notMem (by simp [hframe])
  constructor
  · intro d
    by_cases he : d = c
    · simp [he, hnot]
    · show .call d ∈ s.queue ↔ ∃ m', Function.update s.frames c none d = some ⟨m', none⟩
      rw [Function.update_of_ne he]
      exact h.queued d
  · exact h.nodup
  · refine h.phase_snoc (fun d => ?_) ?_
    · simp [isOf, eq_comm]
    · have hphase := h.phase c
      rw [hframe] at hphase
      exact hphase.returned
  · exact Server.replays_append.mpr ⟨_, h.replays, rfl⟩
  · show s.arrivals = _ ++ s.queue.filterMap (arrival? (Function.update s.frames c none))
    rw [arrival_update hnot, List.filterMap_append, List.filterMap_cons_none rfl,
      List.filterMap_nil, List.append_nil]
    exact h.order

theorem change {a : QueueAction C M E W} (h : Inv S start s) (hc : Change S s a s') :
    Inv S start s' := by
  cases hc with
  | refused | idle | waiting => exact h
  | called c m hframe => exact h.called m hframe
  | performed o rest w object posts hqueue hperform =>
    exact (h.performed hqueue hperform).post posts
  | invoked c rest m w object r posts hqueue hframe hinvoke =>
    exact (h.invoked hqueue hframe hinvoke).post posts
  | interrupted e w object posts hinterrupt => exact (h.interrupted hinterrupt).post posts
  | returned c m r hframe => exact h.returned hframe

/-- A step goes wrong only where the object does. -/
theorem step_failed (h : Inv S start s) {a : QueueAction C M E W} {fault : QueueFault ε}
    (hs : s.step S a = .error fault) : ∃ e, fault = .failed e := by
  cases a with
  | call c m => cases hs
  | take w =>
    rw [step, take] at hs
    split at hs
    · cases hs
    · split at hs
      · cases hs
        exact ⟨_, rfl⟩
      · cases hs
    · next c rest hqueue =>
      obtain ⟨m, hframe⟩ := (h.queued c).mp (by rw [hqueue]; exact List.mem_cons_self)
      rw [hframe] at hs
      simp only at hs
      split at hs
      · cases hs
        exact ⟨_, rfl⟩
      · cases hs
  | interrupt e w =>
    rw [step, interrupt] at hs
    split at hs
    · cases hs
      exact ⟨_, rfl⟩
    · cases hs
  | ret c => cases hs

end Inv

/-- Every return comes after the invocation of its call, which comes after the call itself, with no
other event of the caller in between. -/
def Between (trace : List (CallEvent C M O E W R)) : Prop :=
  ∀ before e after, trace = before ++ e :: after → ∀ c r, e = .returned c r →
    ∃ b₁ m b₂ w b₃, before = b₁ ++ .called c m :: (b₂ ++ .invoked c m w r :: b₃) ∧
      ∀ d ∈ b₂ ++ b₃, isOf c d = false

theorem Between.snoc {trace : List (CallEvent C M O E W R)} {e : CallEvent C M O E W R}
    (h : Between trace) (he : ∀ c r, e = .returned c r → ∃ m,
      CallPhase c (trace.filter (isOf c)) (some ⟨m, some r⟩)) : Between (trace ++ [e]) := by
  refine forall_split_snoc h ?_
  intro c r hreturned
  obtain ⟨m, hphase⟩ := he c r hreturned
  obtain ⟨l, w, hevents⟩ := hphase.exists_invoked
  obtain ⟨t₁, b₃, rfl, ht₁, hb₃⟩ := exists_of_filter_snoc hevents
  obtain ⟨b₁, b₂, rfl, -, hb₂⟩ := exists_of_filter_snoc ht₁
  refine ⟨b₁, m, b₂, w, b₃, by simp, ?_⟩
  intro d hd
  rcases List.mem_append.mp hd with hd | hd
  · exact hb₂ d hd
  · exact hb₃ d hd

theorem Between.change {start : σ} {a : QueueAction C M E W} (h : Between s.trace)
    (hinv : Inv S start s) (hc : Change S s a s') : Between s'.trace := by
  cases hc with
  | refused | idle | waiting => exact h
  | called c m hframe => exact h.snoc nofun
  | performed o rest w object posts hqueue hperform => exact h.snoc nofun
  | invoked c rest m w object r posts hqueue hframe hinvoke => exact h.snoc nofun
  | interrupted e w object posts hinterrupt => exact h.snoc nofun
  | returned c m r hframe =>
    refine h.snoc fun d r' he => ?_
    cases he
    exact ⟨m, hframe ▸ hinv.phase c⟩

/-- A thread with nothing queued. -/
def start (x : σ) : CallQueue σ C M O E W R := { object := x }

theorem start_inv (x : σ) : Inv S x (start x : CallQueue σ C M O E W R) := by
  refine ⟨fun c => ?_, List.nodup_nil, fun c => .idle, rfl, rfl⟩
  simp [start]

theorem start_between (x : σ) : Between (start x : CallQueue σ C M O E W R).trace := by
  intro before e after hsplit
  exact absurd hsplit.symm (List.append_ne_nil_of_right_ne_nil _ (List.cons_ne_nil _ _))

/-- Induction over a run that begins with nothing queued. -/
theorem run_induction {x : σ} {P : CallQueue σ C M O E W R → Prop} (hstart : P (start x))
    (hchange : ∀ s a s', Inv S x s → P s → Change S s a s' → P s')
    {run : List (QueueAction C M E W)} (h : exec (step S) (start x) run = .ok s) :
    Inv S x s ∧ P s := by
  have hguarded : Guarded (step S) (fun _ _ => True) (start x) run :=
    guarded_iff_forall_prefix.mpr fun _ _ _ _ _ => trivial
  refine exec_invariant (I := fun s => Inv S x s ∧ P s) ?_ hguarded ⟨start_inv x, hstart⟩ h
  rintro s a s' ⟨hinv, hp⟩ - hstep
  have hc := step_change hstep
  exact ⟨hinv.change hc, hchange s a s' hinv hp hc⟩

/-- A run goes wrong only where the object does. -/
theorem run_failed {x : σ} {run : List (QueueAction C M E W)} {fault : QueueFault ε}
    (h : exec (step S) (start x : CallQueue σ C M O E W R) run = .error fault) :
    ∃ e, fault = .failed e := by
  suffices hsuffix : ∀ {s : CallQueue σ C M O E W R}, Inv S x s →
      exec (step S) s run = .error fault → ∃ e, fault = .failed e from hsuffix (start_inv x) h
  clear h
  induction run with
  | nil =>
    intro s _ hs
    cases hs
  | cons a run ih =>
    intro s hinv hs
    rw [exec] at hs
    split at hs
    · next s' hstep => exact ih (hinv.change (step_change hstep)) hs
    · next e hstep =>
      cases hs
      exact hinv.step_failed hstep

/-- How many tasks the thread takes, if it finds one each time. -/
def takes (run : List (QueueAction C M E W)) : ℕ :=
  run.countP fun
    | .take _ => true
    | _ => false

theorem Change.trace {a : QueueAction C M E W} (hc : Change S s a s') :
    ∃ events, s'.trace = s.trace ++ events := by
  cases hc with
  | refused | idle | waiting => exact ⟨[], (List.append_nil _).symm⟩
  | called | performed | invoked | interrupted | returned => exact ⟨[_], rfl⟩

theorem exec_trace {run : List (QueueAction C M E W)} (h : exec (step S) s run = .ok s') :
    ∃ events, s'.trace = s.trace ++ events := by
  induction run generalizing s with
  | nil =>
    cases h
    exact ⟨[], (List.append_nil _).symm⟩
  | cons a run ih =>
    obtain ⟨s₁, hs₁, hs'⟩ := exec_cons_ok.mp h
    obtain ⟨events, hevents⟩ := (step_change hs₁).trace
    obtain ⟨later, hlater⟩ := ih hs'
    exact ⟨events ++ later, by rw [hlater, hevents, List.append_assoc]⟩

/-- A step brings a waiting call forward by the task that the thread takes. -/
theorem Change.waits {x : σ} {a : QueueAction C M E W} {c : C} {m : M}
    {before rest : List (QueuedTask C O)} (hc : Change S s a s') (hinv : Inv S x s)
    (hqueue : s.queue = before ++ .call c :: rest) (hframe : s.frames c = some ⟨m, none⟩) :
    (∃ w r, s'.trace = s.trace ++ [.invoked c m w r]) ∨
      ∃ before' rest', s'.queue = before' ++ .call c :: rest' ∧ s'.frames c = some ⟨m, none⟩ ∧
        before'.length + takes [a] = before.length := by
  cases hc with
  | called d m' hframe' =>
    have hne : c ≠ d := by
      rintro rfl
      rw [hframe] at hframe'
      cases hframe'
    refine Or.inr ⟨before, rest ++ [.call d], ?_, ?_, rfl⟩
    · simp [hqueue]
    · exact (Function.update_of_ne hne _ _).trans hframe
  | refused | waiting => exact Or.inr ⟨before, rest, hqueue, hframe, rfl⟩
  | idle w hnil => simp [hnil] at hqueue
  | performed o rest₀ w object posts hqueue₀ hperform =>
    rw [hqueue₀] at hqueue
    cases before with
    | nil => cases hqueue
    | cons t before =>
      obtain ⟨-, rfl⟩ := List.cons.inj hqueue
      exact Or.inr ⟨before, rest ++ posts.map .posted, by simp [post], hframe, rfl⟩
  | invoked d rest₀ m₀ w object r posts hqueue₀ hframe₀ hinvoke =>
    have hgone := hinv.notMem_rest hqueue₀
    rw [hqueue₀] at hqueue
    cases before with
    | nil =>
      obtain ⟨hd, rfl⟩ := List.cons.inj hqueue
      cases hd
      rw [hframe] at hframe₀
      cases hframe₀
      exact Or.inl ⟨w, r, rfl⟩
    | cons t before =>
      obtain ⟨-, rfl⟩ := List.cons.inj hqueue
      have hne : c ≠ d := by
        rintro rfl
        exact hgone (by simp)
      refine Or.inr ⟨before, rest ++ posts.map .posted, by simp [post], ?_, rfl⟩
      exact (Function.update_of_ne hne _ _).trans hframe
  | interrupted e w object posts hinterrupt =>
    exact Or.inr ⟨before, rest ++ posts.map .posted, by simp [post, hqueue], hframe, rfl⟩
  | returned d m₀ r hframe₀ =>
    have hne : c ≠ d := by
      rintro rfl
      rw [hframe] at hframe₀
      cases hframe₀
    exact Or.inr ⟨before, rest, hqueue, (Function.update_of_ne hne _ _).trans hframe, rfl⟩

/-- A call is invoked before the thread has taken more tasks than stood before it. -/
theorem invoked_of_takes {x : σ} {run : List (QueueAction C M E W)} {c : C} {m : M}
    {before rest : List (QueuedTask C O)} (hinv : Inv S x s)
    (hqueue : s.queue = before ++ .call c :: rest) (hframe : s.frames c = some ⟨m, none⟩)
    (h : exec (step S) s run = .ok s') (htakes : before.length < takes run) :
    ∃ events w r, s'.trace = s.trace ++ events ∧ .invoked c m w r ∈ events := by
  induction run generalizing s before rest with
  | nil => simp [takes] at htakes
  | cons a run ih =>
    obtain ⟨s₁, hs₁, hs'⟩ := exec_cons_ok.mp h
    have hc := step_change hs₁
    rcases hc.waits hinv hqueue hframe with ⟨w, r, htrace⟩ | ⟨before', rest', hq, hf, hlength⟩
    · obtain ⟨later, hlater⟩ := exec_trace hs'
      refine ⟨.invoked c m w r :: later, w, r, ?_, List.mem_cons_self⟩
      rw [hlater, htrace, List.append_assoc]
      rfl
    · have hcount : takes (a :: run) = takes [a] + takes run := by
        rw [takes, takes, takes, ← List.countP_append]
        rfl
      obtain ⟨events, w, r, hevents, hmem⟩ := ih (hinv.change hc) hq hf hs' (by omega)
      obtain ⟨first, hfirst⟩ := hc.trace
      refine ⟨first ++ events, w, r, ?_, List.mem_append_right _ hmem⟩
      rw [hevents, hfirst, List.append_assoc]

end CallQueue

/-- A thread that may be in the middle of its first task. -/
structure BusyQueue (σ C M O E W R : Type*) where
  calls : CallQueue σ C M O E W R
  busy : Bool := false

/-- Another thread has touched the object during a task, or a step of the queue has failed. -/
inductive BusyFault (ε : Type*) where
  | overlap
  | failed (fault : QueueFault ε)
  deriving DecidableEq

inductive BusyAction (C M E W : Type*) where
  | call (caller : C) (method : M)
  | begins
  | ends (w : W)
  | interrupt (e : E) (w : W)
  | ret (caller : C)

namespace BusyQueue

variable [DecidableEq C] (S : Server σ M O E W R ε) (touches : E → Bool)

/-- A task takes effect at its end. Until then callers call and return, and other threads do what
does not touch the object. -/
def step (s : BusyQueue σ C M O E W R) :
    BusyAction C M E W → Except (BusyFault ε) (BusyQueue σ C M O E W R)
  | .call c m => .ok { s with calls := s.calls.call c m }
  | .begins => .ok { s with busy := s.busy || !s.calls.queue.isEmpty }
  | .ends w =>
    if s.busy then
      match s.calls.take S w with
      | .ok calls => .ok { calls }
      | .error fault => .error (.failed fault)
    else .ok s
  | .interrupt e w =>
    if s.busy && touches e then .error .overlap
    else
      match s.calls.interrupt S e w with
      | .ok calls => .ok { s with calls }
      | .error fault => .error (.failed fault)
  | .ret c => .ok { s with calls := s.calls.ret c }

variable {S} {touches} {s s' : BusyQueue σ C M O E W R}

/-- A step without a fault is one of the queue, or none. -/
theorem step_calls {a : BusyAction C M E W} (h : s.step S touches a = .ok s') :
    s'.calls = s.calls ∨ ∃ b, s.calls.step S b = .ok s'.calls := by
  cases a with
  | call c m =>
    cases h
    exact Or.inr ⟨.call c m, rfl⟩
  | begins =>
    cases h
    exact Or.inl rfl
  | ends w =>
    rw [step] at h
    split at h
    · split at h
      · next calls htake =>
        cases h
        exact Or.inr ⟨.take w, htake⟩
      · cases h
    · cases h
      exact Or.inl rfl
  | interrupt e w =>
    rw [step] at h
    split at h
    · cases h
    · split at h
      · next calls hinterrupt =>
        cases h
        exact Or.inr ⟨.interrupt e w, hinterrupt⟩
      · cases h
  | ret c =>
    cases h
    exact Or.inr ⟨.ret c, rfl⟩

/-- A run in which nothing touches the object during a task is one in which tasks take no time. -/
theorem exists_run {run : List (BusyAction C M E W)} (h : exec (step S touches) s run = .ok s') :
    ∃ run', exec (CallQueue.step S) s.calls run' = .ok s'.calls := by
  induction run generalizing s with
  | nil =>
    cases h
    exact ⟨[], rfl⟩
  | cons a run ih =>
    obtain ⟨s₁, hstep, hrun⟩ := exec_cons_ok.mp h
    obtain ⟨run', hrun'⟩ := ih hrun
    rcases step_calls hstep with heq | ⟨b, hb⟩
    · exact ⟨run', heq ▸ hrun'⟩
    · exact ⟨b :: run', exec_cons_ok.mpr ⟨s₁.calls, hb, hrun'⟩⟩

end BusyQueue

end Foundation
