import MediasoupSdk.Foundation.CallQueue
import MediasoupSdk.Room.Isolation

/-! `RoomClientProxy`: the calls of the application from any number of threads. `marshal` posts
each to the mediasoup thread, where it waits its turn among the tasks of this thread, and blocks
the caller until it has run. Calls that the mediasoup thread makes itself run at once; they are not
covered here. -/
namespace MediasoupSdk
open Foundation

/-- `isAudioMuted` without a peer. -/
def MediaController.isMicMuted (mc : MediaController) : Bool :=
  match mc.micProducer with
  | none => true
  | some producer => producer.paused

namespace RoomClientProxy
open RoomClient (ApiCall SocketEvent ListenerCall Action firstRequest sessionJson)

/-- The methods of the proxy. -/
inductive Method where
  | call (a : ApiCall)
  | getRoomId
  | getRoomState
  | isAudioMuted
  | speakingVolume
  | getParticipantController
  | getMediaController

/-- What `ReturnType` holds; of a pointer, whether it is null. -/
inductive Answer where
  | void
  | string (s : String)
  | state (s : RoomState)
  | bool (b : Bool)
  | int (i : ℤ)
  | pointer (isNull : Bool)
  deriving DecidableEq

/-- `MethodCall::invoke` on the mediasoup thread. -/
def Method.invoke (J : JsonText) (m : Method) (o : Oracle) (c : RoomClient) :
    Except Fault (RoomClient × Answer) :=
  match m with
  | .call a => do
    let c ← c.call J a o
    return (c, .void)
  | .getRoomId => return (c, .string c.roomId)
  | .getRoomState => return (c, .state c.state)
  | .isAudioMuted => do
    let mc ← deref .mediaController c.mediaController
    return (c, .bool mc.isMicMuted)
  | .speakingVolume => return (c, .int c.volume)
  | .getParticipantController => return (c, .pointer c.participantController.isNone)
  | .getMediaController => return (c, .pointer c.mediaController.isNone)

/-- What other threads do to the client. -/
inductive Outside where
  | socket (e : SocketEvent)
  | listener (l : ListenerCall)
  | transport

/-- The socket only posts to the transport thread. The transport thread and the listeners touch
members of the client that the mediasoup thread uses too, without a lock. -/
def Outside.touches : Outside → Bool
  | .socket _ => false
  | .listener _ => true
  | .transport => true

def Outside.action (o : Oracle) : Outside → Action
  | .socket e => .socket e
  | .listener l => .listener l o
  | .transport => .transport

/-- The tasks that a step has posted to the mediasoup thread. -/
def posted (c c' : RoomClient) : List MediasoupTask :=
  c'.mediasoupTasks.drop c.mediasoupTasks.length

/-- The mediasoup thread with its client. -/
def server (J : JsonText) : Server RoomClient Method MediasoupTask Outside Oracle Answer Fault where
  invoke m o c := do
    let (c', answer) ← m.invoke J o c
    return (c', answer, posted c c')
  perform t o c := do
    let taken := { c with mediasoupTasks := c.mediasoupTasks.tail }
    let c' ← taken.runMediasoup J t o
    return (c', posted taken c')
  interrupt e o c := do
    let c' ← c.step J (e.action o)
    return (c', posted c c')

/-- The mediasoup thread and the threads of the application. -/
abbrev System (Thread : Type) :=
  CallQueue RoomClient Thread Method MediasoupTask Outside Oracle Answer

abbrev Event (Thread : Type) := CallEvent Thread Method MediasoupTask Outside Oracle Answer

variable {Thread : Type}

/-- The step of the client that an event is. The methods that only answer are none. -/
def actionOf : Event Thread → List Action
  | .invoked _ (.call a) o _ => [.call a o]
  | .performed _ o => [.mediasoup o]
  | .interrupted e o => [e.action o]
  | _ => []

def actions (trace : List (Event Thread)) : List Action := trace.flatMap actionOf

/-- Each method gave the answer that it gives in the state which the steps before it lead to. -/
def Answered (J : JsonText) (trace : List (Event Thread)) : Prop :=
  ∀ before e after, trace = before ++ e :: after → ∀ thread m o r, e = .invoked thread m o r →
    ∃ c c', exec (RoomClient.step J) RoomClient.initial (actions before) = .ok c ∧
      m.invoke J o c = .ok (c', r)

/-- The task of the client that a queued task is. -/
def task? : QueuedTask Thread MediasoupTask → Option MediasoupTask
  | .call _ => none
  | .posted t => some t

variable {J : JsonText} {c c' : RoomClient} {o : Oracle} {e : Outside}

theorem posted_of_append {tasks : List MediasoupTask}
    (h : c'.mediasoupTasks = c.mediasoupTasks ++ tasks) : posted c c' = tasks := by
  rw [posted, h, List.drop_left]

theorem posted_of_eq (h : c'.mediasoupTasks = c.mediasoupTasks) : posted c c' = [] :=
  posted_of_append (h.trans (List.append_nil _).symm)

theorem call_tasks {a : ApiCall} (h : c.call J a o = .ok c') :
    c'.mediasoupTasks = c.mediasoupTasks := by
  cases RoomClient.step_change (a := .call a o) h with
  | refused hn => rfl
  | accepted ha hsc => rfl
  | stayed hs => rfl
  | left hs hsc => rfl
  | destroyed => rfl
  | media ha hm hu =>
    obtain ⟨mc, pc, sc, rfl, -⟩ := hu
    rfl

/-- A method changes the client as the step it is, and posts nothing. -/
theorem invoke_ok {m : Method} {r : Answer} (h : m.invoke J o c = .ok (c', r)) (t : Thread) :
    exec (RoomClient.step J) c (actionOf (.invoked t m o r)) = .ok c' ∧
      c'.mediasoupTasks = c.mediasoupTasks := by
  cases m with
  | call a =>
    obtain ⟨d, hd, hr⟩ := bind_ok.mp h
    obtain ⟨rfl, -⟩ := Prod.mk.inj (Except.ok.inj hr)
    exact ⟨exec_cons_ok.mpr ⟨d, hd, rfl⟩, call_tasks hd⟩
  | isAudioMuted =>
    obtain ⟨mc, -, hr⟩ := bind_ok.mp h
    obtain ⟨rfl, -⟩ := Prod.mk.inj (Except.ok.inj hr)
    exact ⟨rfl, rfl⟩
  | getRoomId | getRoomState | speakingVolume | getParticipantController | getMediaController =>
    obtain ⟨rfl, -⟩ := Prod.mk.inj (Except.ok.inj h)
    exact ⟨rfl, rfl⟩

/-- A task posts nothing to its own thread. -/
theorem perform_tasks {t : MediasoupTask} (h : c.runMediasoup J t o = .ok c') :
    c'.mediasoupTasks = c.mediasoupTasks := by
  obtain ⟨-, -, -, -, hsame, -⟩ := RoomClient.mediasoup_handles (RoomClient.runMediasoup_ok h)
  exact hsame

/-- What other threads do adds tasks at the end. -/
theorem outside_tasks (h : c.step J (e.action o) = .ok c') :
    c'.mediasoupTasks = c.mediasoupTasks ++ posted c c' := by
  suffices htasks : ∃ tasks, c'.mediasoupTasks = c.mediasoupTasks ++ tasks by
    obtain ⟨tasks, htasks⟩ := htasks
    rw [posted_of_append htasks, htasks]
  cases e with
  | socket e =>
    cases RoomClient.step_change (a := .socket e) h with
    | socket => cases e <;> exact ⟨[], (List.append_nil _).symm⟩
  | listener l =>
    cases RoomClient.step_change (a := .listener l o) h with
    | listened hr hcallback =>
      obtain ⟨sc, rfl, -⟩ := hr
      exact ⟨[], (List.append_nil _).symm⟩
  | transport =>
    cases RoomClient.step_change (a := .transport) h with
    | transportIdle ht => exact ⟨[], (List.append_nil _).symm⟩
    | transport ht hc =>
      obtain ⟨-, tasks, -, htasks, -⟩ := RoomClient.transport_posts hc
      exact ⟨tasks, htasks⟩

variable {s s' : System Thread}

/-- The client behind the queue is the one that its steps alone lead to, and the tasks between the
calls are its own. -/
structure Linear (J : JsonText) (s : System Thread) : Prop where
  client : exec (RoomClient.step J) RoomClient.initial (actions s.trace) = .ok s.object
  tasks : s.queue.filterMap task? = s.object.mediasoupTasks
  answered : Answered J s.trace

theorem actions_snoc (trace : List (Event Thread)) (e : Event Thread) :
    actions (trace ++ [e]) = actions trace ++ actionOf e := by
  simp [actions]

theorem posted_tasks (tasks : List MediasoupTask) :
    (tasks.map (QueuedTask.posted : MediasoupTask → QueuedTask Thread MediasoupTask)).filterMap
      task? = tasks := by
  rw [List.filterMap_map]
  exact List.filterMap_some

namespace Linear

/-- An event that is a step of the client, with the tasks that it posts. -/
theorem snoc (h : Linear J s) {e : Event Thread} {object : RoomClient}
    {posts : List MediasoupTask} {queue : List (QueuedTask Thread MediasoupTask)}
    {frames : Thread → Option (CallFrame Method Answer)}
    (hstep : exec (RoomClient.step J) s.object (actionOf e) = .ok object)
    (htasks : queue.filterMap task? ++ posts = object.mediasoupTasks)
    (hanswer : ∀ t m o r, e = .invoked t m o r → m.invoke J o s.object = .ok (object, r)) :
    Linear J (CallQueue.post posts { s with object, queue, frames, trace := s.trace ++ [e] }) := by
  constructor
  · show exec _ _ (actions (s.trace ++ [e])) = _
    rw [actions_snoc]
    exact exec_append_ok.mpr ⟨s.object, h.client, hstep⟩
  · show (queue ++ posts.map QueuedTask.posted).filterMap task? = object.mediasoupTasks
    rw [List.filterMap_append, posted_tasks, htasks]
  · refine forall_split_snoc h.answered ?_
    intro t m o r he
    exact ⟨s.object, object, h.client, hanswer t m o r he⟩

/-- An event in which the client takes no part. -/
theorem snoc_idle (h : Linear J s) {e : Event Thread}
    {queue : List (QueuedTask Thread MediasoupTask)}
    {frames : Thread → Option (CallFrame Method Answer)}
    {arrivals : List (Thread × Method ⊕ MediasoupTask)} (hidle : actionOf e = [])
    (hqueue : queue.filterMap task? = s.queue.filterMap task?)
    (hanswer : ∀ t m o r, e ≠ .invoked t m o r) :
    Linear J { s with queue, frames, trace := s.trace ++ [e], arrivals } := by
  constructor
  · show exec _ _ (actions (s.trace ++ [e])) = _
    rw [actions_snoc, hidle, List.append_nil]
    exact h.client
  · exact hqueue.trans h.tasks
  · refine forall_split_snoc h.answered ?_
    exact fun t m o r he => absurd he (hanswer t m o r)

theorem change [DecidableEq Thread] {a : QueueAction Thread Method Outside Oracle}
    (h : Linear J s) (hc : CallQueue.Change (server J) s a s') : Linear J s' := by
  have htasks := h.tasks
  cases hc with
  | refused | idle | waiting => exact h
  | called t m hframe =>
    refine h.snoc_idle rfl ?_ fun t m o r he => by cases he
    rw [List.filterMap_append]
    exact List.append_nil _
  | performed task rest o object posts hqueue hperform =>
    obtain ⟨d, hd, hr⟩ := bind_ok.mp hperform
    obtain ⟨rfl, rfl⟩ := Prod.mk.inj (Except.ok.inj hr)
    rw [hqueue, List.filterMap_cons_some (show task? (.posted task) = some task from rfl)]
      at htasks
    have hsame := perform_tasks hd
    rw [← htasks, List.tail_cons] at hd hsame
    have hstep : s.object.step J (.mediasoup o) = .ok d := by
      rw [RoomClient.step, ← htasks]
      exact hd
    refine h.snoc (exec_cons_ok.mpr ⟨d, hstep, rfl⟩) ?_ fun t m o r he => by cases he
    rw [posted_of_eq (hsame.trans (by rw [← htasks]; rfl)), List.append_nil, hsame]
  | invoked t rest m o object r posts hqueue hframe hinvoke =>
    obtain ⟨⟨d, r'⟩, hd, hr⟩ := bind_ok.mp hinvoke
    cases hr
    obtain ⟨hstep, hsame⟩ := invoke_ok hd t
    rw [hqueue, List.filterMap_cons_none rfl] at htasks
    refine h.snoc hstep ?_ ?_
    · rw [posted_of_eq hsame, List.append_nil, hsame, htasks]
    · intro t' m' o' r' he
      cases he
      exact hd
  | interrupted e o object posts hinterrupt =>
    obtain ⟨d, hd, hr⟩ := bind_ok.mp hinterrupt
    obtain ⟨rfl, rfl⟩ := Prod.mk.inj (Except.ok.inj hr)
    refine h.snoc (exec_cons_ok.mpr ⟨d, hd, rfl⟩) ?_ fun t m o r he => by cases he
    rw [htasks]
    exact (outside_tasks hd).symm
  | returned t m r hframe => exact h.snoc_idle rfl rfl fun t m o r he => by cases he

end Linear

/-- The proxy of a client that `init` has prepared, with no call made. -/
def initial : System Thread := CallQueue.start RoomClient.initial

variable [DecidableEq Thread]

/-- What the threads and the world do, in any order. -/
def step (J : JsonText) (s : System Thread) (a : QueueAction Thread Method Outside Oracle) :
    Except (QueueFault Fault) (System Thread) :=
  CallQueue.step (server J) s a

variable {run : List (QueueAction Thread Method Outside Oracle)}

theorem run_linear (h : exec (step J) initial run = .ok s) :
    CallQueue.Inv (server J) RoomClient.initial s ∧ Linear J s ∧ CallQueue.Between s.trace := by
  have hstart : Linear J (initial : System Thread) ∧
      CallQueue.Between (initial : System Thread).trace := by
    refine ⟨⟨rfl, rfl, ?_⟩, CallQueue.start_between _⟩
    intro before e after hsplit
    exact absurd hsplit.symm (List.append_ne_nil_of_right_ne_nil _ (List.cons_ne_nil _ _))
  refine CallQueue.run_induction (P := fun s => Linear J s ∧ CallQueue.Between s.trace) hstart ?_ h
  rintro s a s' hinv ⟨hlinear, hbetween⟩ hc
  exact ⟨hlinear.change hc, hbetween.change hinv hc⟩

/-- The threads with tasks that take time. -/
abbrev BusySystem (Thread : Type) :=
  BusyQueue RoomClient Thread Method MediasoupTask Outside Oracle Answer

/-- The same as `step`, with tasks that take time. -/
def stepBusy (J : JsonText) (s : BusySystem Thread)
    (a : BusyAction Thread Method Outside Oracle) :
    Except (BusyFault Fault) (BusySystem Thread) :=
  BusyQueue.step (server J) Outside.touches s a

/-- Every run of the threads in which nothing touches the client during a task is one of the client
alone, whose calls stand in it where they ended on the mediasoup thread. A call returns the answer
that it has there, and this place lies between the call and its return. -/
theorem calls_are_linearized {run : List (BusyAction Thread Method Outside Oracle)}
    {s : BusySystem Thread} (h : exec (stepBusy J) { calls := initial } run = .ok s) :
    exec (RoomClient.step J) RoomClient.initial (actions s.calls.trace) = .ok s.calls.object ∧
      Answered J s.calls.trace ∧ CallQueue.Between s.calls.trace := by
  obtain ⟨run', hrun'⟩ := BusyQueue.exists_run h
  obtain ⟨-, hlinear, hbetween⟩ := run_linear hrun'
  exact ⟨hlinear.client, hlinear.answered, hbetween⟩

/-- While one thread joins, the socket opens and another thread asks for the state. -/
def duringJoin : List (BusyAction Bool Method Outside Oracle) :=
  [.call true (.call (.join "sfu" 4443 "room" "alice" none)), .begins,
    .call false .getRoomState, .interrupt (.socket .opened) firstRequest, .ends firstRequest,
    .begins, .ret true, .ends firstRequest, .interrupt .transport firstRequest, .begins,
    .ret false, .ends firstRequest]

theorem calls_are_linearized_duringJoin :
    ∃ s, exec (stepBusy sessionJson) { calls := initial } duringJoin = .ok s ∧
      s.calls.object.state = .connecting ∧
      exec (RoomClient.step sessionJson) RoomClient.initial (actions s.calls.trace) =
        .ok s.calls.object ∧
      Answered sessionJson s.calls.trace ∧ CallQueue.Between s.calls.trace := by
  have hrun : ∃ s, exec (stepBusy sessionJson) { calls := initial } duringJoin = .ok s ∧
      s.calls.object.state = .connecting := ⟨_, rfl, rfl⟩
  obtain ⟨s, hs, hstate⟩ := hrun
  exact ⟨s, hs, hstate, calls_are_linearized hs⟩

-- Nothing keeps the transport thread from running in the middle of a call.
example : exec (stepBusy sessionJson) { calls := initial } [
    .call true (.call (.join "sfu" 4443 "room" "alice" none)), .begins,
    .interrupt .transport firstRequest] = .error .overlap := rfl

/-- One thread joins while another asks for the state. -/
def twoThreads : List (QueueAction Bool Method Outside Oracle) :=
  [.call true (.call (.join "sfu" 4443 "room" "alice" none)), .call false .getRoomState,
    .interrupt (.socket .opened) firstRequest]

/-- Only the client can make a run fail: the frame of a queued call is always there and without an
answer. The calls and the tasks of the client are taken in the order in which they were queued. -/
theorem queued_calls_keep_their_frames (run : List (QueueAction Thread Method Outside Oracle)) :
    (∀ fault, exec (step J) initial run = .error fault → ∃ e, fault = .failed e) ∧
      ∀ s, exec (step J) initial run = .ok s →
        (∀ t, .call t ∈ s.queue ↔ ∃ m, s.frames t = some ⟨m, none⟩) ∧
          s.queue.filterMap task? = s.object.mediasoupTasks ∧
          s.arrivals = s.trace.filterMap CallEvent.taken? ++
            s.queue.filterMap (CallQueue.arrival? s.frames) := by
  constructor
  · exact fun fault h => CallQueue.run_failed h
  · intro s h
    obtain ⟨hinv, hlinear, -⟩ := run_linear h
    exact ⟨hinv.queued, hlinear.tasks, hinv.order⟩

/-- However the other threads interfere, a call waits for no more than the tasks before it. -/
theorem call_waits_its_turn {t : Thread}
    {before rest : List (QueuedTask Thread MediasoupTask)}
    {more : List (QueueAction Thread Method Outside Oracle)}
    (h : exec (step J) initial run = .ok s) (hqueue : s.queue = before ++ .call t :: rest)
    (hmore : exec (step J) s more = .ok s') (htakes : before.length < CallQueue.takes more) :
    ∃ m events o r, s.frames t = some ⟨m, none⟩ ∧ s'.trace = s.trace ++ events ∧
      .invoked t m o r ∈ events := by
  obtain ⟨hinv, -, -⟩ := run_linear h
  obtain ⟨m, hframe⟩ := (hinv.queued t).mp (by simp [hqueue])
  obtain ⟨events, o, r, hevents, hmem⟩ :=
    CallQueue.invoked_of_takes hinv hqueue hframe hmore htakes
  exact ⟨m, events, o, r, hframe, hevents, hmem⟩

theorem call_waits_its_turn_twoThreads :
    ∃ s s', exec (step sessionJson) initial twoThreads = .ok s ∧
      exec (step sessionJson) s [.take firstRequest, .interrupt .transport firstRequest,
        .take firstRequest] = .ok s' ∧
      ∃ m events o r, s.frames false = some ⟨m, none⟩ ∧ s'.trace = s.trace ++ events ∧
        .invoked false m o r ∈ events := by
  have hrun : ∃ s s', exec (step sessionJson) initial twoThreads = .ok s ∧
      s.queue = [.call true] ++ .call false :: [] ∧
      exec (step sessionJson) s [.take firstRequest, .interrupt .transport firstRequest,
        .take firstRequest] = .ok s' := ⟨_, _, rfl, rfl, rfl⟩
  obtain ⟨s, s', hs, hqueue, hs'⟩ := hrun
  exact ⟨s, s', hs, hs', call_waits_its_turn hs hqueue hs' (by decide)⟩

end RoomClientProxy
end MediasoupSdk
