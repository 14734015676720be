import MediasoupSdk.Room.Callbacks
import MediasoupSdk.Room.Isolation

/-! The states of the room as the observers get to know them. Three paths set the state and report
it: the calls of the application, a closed connection, and the join response, which sets it on one
thread and reports it on the other. An observer on the mediasoup thread is told within the report,
and what it calls from there runs before the observers after it are told. -/
namespace MediasoupSdk
open Foundation Signaling

/-- The state that a task of the mediasoup thread reports. -/
def MediasoupTask.report? : MediasoupTask → Option RoomState
  | .closed => some .closed
  | .joined _ state _ => some state
  | _ => none

def MediasoupTask.isJoined : MediasoupTask → Bool
  | .joined _ _ _ => true
  | _ => false

/-- The task without what it does after its report: the peers of a join response are added once the
observers have been told. -/
def MediasoupTask.untilReported : MediasoupTask → MediasoupTask
  | .joined seq state response => .joined seq state { response with data := some { peers := none } }
  | t => t

/-- The join response whose peers a task adds after its report. -/
def MediasoupTask.response? : MediasoupTask → Option (Response JoinResponse.Data)
  | .joined _ _ response => some response
  | _ => none

/-- The room state after a task of the mediasoup thread. -/
def MediasoupTask.stateAfter (state : RoomState) : MediasoupTask → RoomState
  | .closed => .closed
  | _ => state

/-- A step of the room state machine. Each report comes with its session; the state is connected
in the session in which it was connecting. -/
def Follows (p q : RoomState × ℕ) : Prop :=
  match p.1, q.1 with
  | .closed, .connecting | .connecting, .closed | .connected, .closed => True
  | .connecting, .connected => p.2 = q.2
  | _, _ => False

namespace RoomClient

/-- The part of `onJoined` after the report; the other tasks have none. -/
def addParticipants (response : Option (Response JoinResponse.Data)) (c : RoomClient) :
    Except Fault RoomClient :=
  match response, c.participantController with
  | some response, some pc => do
    let data ← engaged response.data
    let pc := (data.peers.getD []).foldl
      (fun pc peer => pc.createParticipant (peer.id.getD "") (peer.displayName.getD "")) pc
    return { c with participantController := some pc }
  | _, _ => .ok c

variable {J : JsonText} {c c' : RoomClient}

/-- A task is its part up to the report and the part after it. -/
theorem runMediasoup_untilReported (t : MediasoupTask) (o : Oracle) :
    c.runMediasoup J t o =
      c.runMediasoup J t.untilReported o >>= addParticipants t.response? := by
  have hwhole : ∀ d : Except Fault RoomClient, d = d >>= addParticipants none := by
    intro d
    cases d with
    | error e => rfl
    | ok d => rfl
  cases t with
  | joined seq state response =>
    simp only [runMediasoup, MediasoupTask.untilReported, MediasoupTask.response?, onJoined]
    cases hd : (c.apply seq).onRoomStateChanged state with
    | error e => rfl
    | ok d =>
      simp only [bind, Except.bind]
      cases hpc : d.participantController with
      | none => simp only [pure, Except.pure, addParticipants, hpc]
      | some pc =>
        have hsame : { d with participantController := some pc } = d := by rw [← hpc]
        simp only [engaged, Option.getD_none, List.foldl_nil, pure, Except.pure, hsame,
          addParticipants, hpc]
        rfl
  | _ => exact hwhole _

theorem addParticipants_ok {response : Option (Response JoinResponse.Data)}
    (h : c.addParticipants response = .ok c') :
    ∃ pc, c' = { c with participantController := pc } := by
  unfold addParticipants at h
  split at h
  · simp only [bind_ok, pure, Except.pure, Except.ok.injEq] at h
    obtain ⟨data, -, rfl⟩ := h
    exact ⟨_, rfl⟩
  · cases h
    exact ⟨_, rfl⟩

theorem isJoined_eq_false {ms : List MediasoupTask}
    (h : ∀ seq state response, .joined seq state response ∉ ms) :
    ∀ m ∈ ms, m.isJoined = false := by
  intro m hm
  cases m with
  | joined seq state response => exact absurd hm (h _ _ _)
  | _ => rfl

/-- A task of the mediasoup thread makes its report at once. -/
theorem MediasoupChange.report {t : MediasoupTask} (hc : MediasoupChange c t c') :
    c'.notified = c.notified ++ t.report?.toList ∧ c'.state = t.stateAfter c.state := by
  have hnone : c.notified = c.notified ++ [] := (List.append_nil _).symm
  cases hc with
  | requested hr =>
    obtain ⟨sc, rfl, -⟩ := hr
    exact ⟨hnone, rfl⟩
  | closed => exact ⟨rfl, rfl⟩
  | loaded hm => exact ⟨hnone, rfl⟩
  | skipped => exact ⟨hnone, rfl⟩
  | transport hd hr =>
    obtain ⟨sc, rfl, -⟩ := hr
    rcases hd with rfl | ⟨-, -, mc, send, recv, component, rfl⟩
    · exact ⟨hnone, rfl⟩
    · exact ⟨hnone, rfl⟩
  | joined hd hpc =>
    rename_i seq state response d pc
    by_cases hs : state = .closed
    · subst hs
      rw [onRoomStateChanged_closed hd]
      exact ⟨rfl, rfl⟩
    · rw [onRoomStateChanged_open hs hd]
      exact ⟨rfl, rfl⟩
  | idle ht hm =>
    cases t with
    | closed | joined => exact ht.elim
    | _ => exact ⟨hnone, rfl⟩
  | media ht hm hd =>
    obtain ⟨mc, pc, sc, rfl, -⟩ := hd
    cases t with
    | closed | joined => exact ht.elim
    | _ => exact ⟨hnone, rfl⟩

end RoomClient

namespace Sessions

/-- The session that the report of an action is about. -/
def reporting (s : Sessions) : Action → ℕ
  | (.call (.join _ _ _ _ _) _, _) => s.session + 1
  | (.mediasoup _, _) =>
    match s.mediasoup with
    | (.joined _ _ _, origin) :: _ => origin.session
    | _ => s.session
  | _ => s.session

/-- The sessions with the first task of the mediasoup thread cut off at its report. -/
def untilReported (s : Sessions) : Sessions :=
  { s with
    client := { s.client with
      mediasoupTasks := s.client.mediasoupTasks.modifyHead MediasoupTask.untilReported }
    mediasoup := s.mediasoup.modifyHead (Prod.map MediasoupTask.untilReported id) }

/-- The join response whose peers are added after the report of an action. -/
def response? (s : Sessions) : Action → Option (Response JoinResponse.Data)
  | (.mediasoup _, _) => s.client.mediasoupTasks.head?.bind MediasoupTask.response?
  | _ => none

end Sessions

/-- An observer that is registered throughout: whether its thread is the mediasoup thread, the
reports on their way to its thread, and those that it got. -/
structure Observer where
  inline : Bool
  posted : List (RoomState × ℕ) := []
  delivered : List (RoomState × ℕ) := []

namespace Observer

/-- One round of `notifyObservers`. -/
def tell (report : RoomState × ℕ) (o : Observer) : Observer :=
  if o.inline then { o with delivered := o.delivered ++ [report] }
  else { o with posted := o.posted ++ [report] }

/-- The thread of the observer runs the first task that was posted to it. -/
def deliver (o : Observer) : Observer :=
  { o with posted := o.posted.tail, delivered := o.delivered ++ o.posted.head?.toList }

end Observer

/-- A call of `onRoomStateChanged` that is telling the observers: the one it tells next, and the
response it goes on with afterwards. -/
structure Notifying where
  report : RoomState × ℕ
  next : ℕ := 0
  response : Option (Response JoinResponse.Data) := none

/-- The sessions and the observers, and the reports that are being made, the innermost first. -/
structure Watched where
  sessions : Sessions := {}
  observers : List Observer
  frames : List Notifying := []

namespace Watched

/-- An action of the client, a round of the innermost report, or the turn of an observer's thread.
A call while a report is being made comes from an observer on the mediasoup thread. -/
inductive Action where
  | act (a : Sessions.Action)
  | notify
  | deliver (i : ℕ)

/-- After a step of the sessions: a report that it makes is to be told to every observer. -/
def after (w : Watched) (s : Sessions) (n : ℕ) (response : Option (Response JoinResponse.Data)) :
    Watched :=
  { w with
    sessions := s
    frames := (s.client.notified.drop w.sessions.client.notified.length).map
      (fun state => { report := (state, n), response }) ++ w.frames }

/-- The innermost report is told to the next observer, or it is done. -/
def notify (w : Watched) : Except Fault Watched :=
  match w.frames with
  | [] => .ok w
  | f :: rest =>
    if f.next < w.observers.length then
      .ok { w with
        observers := w.observers.modify f.next (Observer.tell f.report)
        frames := { f with next := f.next + 1 } :: rest }
    else do
      let client ← w.sessions.client.addParticipants f.response
      return { w with sessions := { w.sessions with client }, frames := rest }

def step (J : JsonText) (w : Watched) : Action → Except Fault Watched
  | .act (.mediasoup o, n) =>
    -- the thread takes no task while it is telling the observers
    if w.frames ≠ [] then .ok w
    else do
      let s ← w.sessions.untilReported.step J (.mediasoup o, n)
      return w.after s (w.sessions.reporting (.mediasoup o, n))
        (w.sessions.response? (.mediasoup o, n))
  | .act a => do
    let s ← w.sessions.step J a
    return w.after s (w.sessions.reporting a) none
  | .notify => w.notify
  | .deliver i => .ok { w with observers := w.observers.modify i Observer.deliver }

/-- The client with the given observers, of which those on the mediasoup thread are marked. -/
def start (inlines : List Bool) : Watched where
  observers := inlines.map fun inline => { inline }

/-- What an observer got is a path of the room state machine from the closed state, and it ends in
the state of the client once nothing is queued and no report is being made. -/
def Sees (w : Watched) : Prop :=
  ∀ o ∈ w.observers, List.IsChain Follows ((.closed, 0) :: o.delivered) ∧
    (w.frames = [] → o.posted = [] → w.sessions.client.transportTasks = [] →
      w.sessions.client.mediasoupTasks = [] →
      (o.delivered.getLast?.map Prod.fst).getD .closed = w.sessions.client.state)

/-- A report is being made that some observer has not been told. -/
def Serving (w : Watched) : Prop := ∃ f ∈ w.frames, f.next < w.observers.length

instance {w : Watched} : Decidable w.Serving :=
  inferInstanceAs (Decidable (∃ f ∈ w.frames, f.next < w.observers.length))

/-- The call that an observer makes changes nothing as long as others are still to be told; a join
response is accepted while its own session is connecting; a report of a connected session runs
while that session is connected, and one of a closed connection while the client is not closed. -/
def Orderly (J : JsonText) (w : Watched) : Action → Prop
  | .act (.call (.join hostname _ roomId displayName _) _, _) =>
    w.Serving → ¬ w.sessions.client.Accepts hostname roomId displayName
  | .act (.call .leave _, _) =>
    w.Serving → w.sessions.client.state = .closed ∨ w.sessions.client.signalingClient = none
  | .act (.transport, _) =>
    ∀ r, w.sessions.client.Delivers J (.joined r) → r.ok ≠ none →
      w.sessions.client.state = .connecting ∧
        ∀ p ∈ w.sessions.transport.head?, p.2.session = w.sessions.session
  | .act (.mediasoup _, _) =>
    w.frames = [] →
      match w.sessions.mediasoup with
      | (.joined _ _ _, origin) :: _ =>
        w.sessions.client.state = .connected ∧ origin.session = w.sessions.session
      | (.closed, _) :: _ => w.sessions.client.state ≠ .closed
      | _ => True
  | _ => True

/-- The queued reports that the session is connected. -/
def announced (session : ℕ) (queue : List (MediasoupTask × Origin)) : ℕ :=
  queue.countP fun p => p.1.isJoined && p.2.session = session

/-- How the state, the reports that are queued and the last report fit together. -/
def Phase (state : RoomState) (session announced : ℕ) (last : RoomState × ℕ) : Prop :=
  match state with
  | .closed => last.1 = .closed
  | .connecting => last = (.connecting, session) ∧ announced = 0
  | .connected => last = (.connecting, session) ∧ announced = 1 ∨
      last = (.connected, session) ∧ announced = 0

/-- A client that is not closed may report that it is. -/
theorem Phase.follows_closed {state : RoomState} {session announced : ℕ} {last : RoomState × ℕ}
    (h : Phase state session announced last) (hopen : state ≠ .closed) (n : ℕ) :
    Follows last (.closed, n) := by
  cases state with
  | closed => exact absurd rfl hopen
  | connecting =>
    rw [Follows, h.1]
    trivial
  | connected =>
    rcases h with ⟨hlast, -⟩ | ⟨hlast, -⟩
    · rw [Follows, hlast]
      trivial
    · rw [Follows, hlast]
      trivial

/-- What the innermost report still owes the `i`-th observer. -/
def pending (w : Watched) (i : ℕ) : List (RoomState × ℕ) :=
  match w.frames with
  | [] => []
  | f :: _ => if f.next ≤ i then [f.report] else []

/-- The reports made so far are a path that fits the client, and every observer gets them all, in
their order. -/
structure Inv (reports : List (RoomState × ℕ)) (w : Watched) : Prop where
  aligned : w.sessions.Aligned
  notified : reports.map Prod.fst = w.sessions.client.notified
  path : List.IsChain Follows ((.closed, 0) :: reports)
  phase : Phase w.sessions.client.state w.sessions.session
    (announced w.sessions.session w.sessions.mediasoup) (reports.getLast?.getD (.closed, 0))
  joined : ∀ p ∈ w.sessions.mediasoup, p.1.isJoined →
    p.1.report? = some .connected ∧ p.2.session ≤ w.sessions.session
  told : ∀ i o, w.observers[i]? = some o → (o.inline = true → o.posted = []) ∧
    o.delivered ++ o.posted ++ w.pending i = reports
  served : ∀ f ∈ w.frames.tail, w.observers.length ≤ f.next

theorem inv_start (inlines : List Bool) : Inv [] (start inlines) := by
  constructor
  · exact Sessions.aligned_initial
  · rfl
  · exact List.isChain_singleton _
  · rfl
  · intro p hp
    cases hp
  · intro i o ho
    simp only [start, List.getElem?_map, Option.map_eq_some_iff] at ho
    obtain ⟨inline, -, rfl⟩ := ho
    exact ⟨fun _ => rfl, rfl⟩
  · intro f hf
    cases hf

variable {J : JsonText} {w w' : Watched} {s : Sessions} {a : Sessions.Action}
  {reports : List (RoomState × ℕ)} {response : Option (Response JoinResponse.Data)}

/-- A path goes on with a state that follows its last one. -/
theorem isChain_concat {x : RoomState × ℕ} (h : List.IsChain Follows ((.closed, 0) :: reports))
    (hx : Follows (reports.getLast?.getD (.closed, 0)) x) :
    List.IsChain Follows ((.closed, 0) :: (reports ++ [x])) := by
  rw [← List.cons_append]
  refine h.append (List.isChain_singleton x) ?_
  intro y hy z hz
  rw [List.getLast?_cons] at hy
  cases hy
  cases hz
  exact hx

/-- When nobody is left to be told, nothing is owed. -/
theorem pending_of_not_serving (h : ¬ w.Serving) {i : ℕ} {o : Observer}
    (ho : w.observers[i]? = some o) : w.pending i = [] := by
  unfold pending
  cases hframes : w.frames with
  | nil => rfl
  | cons f rest =>
    have hi : i < w.observers.length := (List.getElem?_eq_some_iff.mp ho).1
    apply if_neg
    intro hle
    exact h ⟨f, by rw [hframes]; exact List.mem_cons_self, by omega⟩

/-- After a step that reports nothing. -/
theorem Inv.quiet (h : Inv reports w) (haligned : s.Aligned)
    (hnotified : s.client.notified = w.sessions.client.notified)
    (hphase : Phase s.client.state s.session (announced s.session s.mediasoup)
      (reports.getLast?.getD (.closed, 0)))
    (hjoined : ∀ p ∈ s.mediasoup, p.1.isJoined →
      p.1.report? = some .connected ∧ p.2.session ≤ s.session) (n : ℕ) :
    Inv reports (w.after s n response) := by
  have hframes : (w.after s n response).frames = w.frames := by
    simp [after, hnotified]
  refine ⟨haligned, h.notified.trans hnotified.symm, h.path, hphase, hjoined, ?_, ?_⟩
  · intro i o ho
    rw [pending, hframes]
    exact h.told i o ho
  · rw [hframes]
    exact h.served

/-- After a step that makes a report. -/
theorem Inv.reported (h : Inv reports w) (haligned : s.Aligned) (hserving : ¬ w.Serving)
    {state : RoomState} {n : ℕ}
    (hnotified : s.client.notified = w.sessions.client.notified ++ [state])
    (hfollows : Follows (reports.getLast?.getD (.closed, 0)) (state, n))
    (hphase : Phase s.client.state s.session (announced s.session s.mediasoup) (state, n))
    (hjoined : ∀ p ∈ s.mediasoup, p.1.isJoined →
      p.1.report? = some .connected ∧ p.2.session ≤ s.session) :
    Inv (reports ++ [(state, n)]) (w.after s n response) := by
  have hframes : (w.after s n response).frames =
      { report := (state, n), response } :: w.frames := by
    simp [after, hnotified]
  refine ⟨haligned, ?_, isChain_concat h.path hfollows, ?_, hjoined, ?_, ?_⟩
  · rw [List.map_append, h.notified]
    exact hnotified.symm
  · rw [List.getLast?_concat]
    exact hphase
  · intro i o ho
    obtain ⟨hinline, htold⟩ := h.told i o ho
    rw [pending_of_not_serving hserving ho, List.append_nil] at htold
    refine ⟨hinline, ?_⟩
    rw [htold, pending, hframes]
    exact congrArg _ (if_pos (Nat.zero_le i))
  · intro f hf
    rw [hframes, List.tail_cons] at hf
    by_contra hlt
    exact hserving ⟨f, hf, Nat.lt_of_not_le hlt⟩

/-- A new session has no reports queued. -/
theorem Inv.announced_succ (h : Inv reports w) :
    announced (w.sessions.session + 1) w.sessions.mediasoup = 0 := by
  rw [announced, List.countP_eq_zero]
  intro p hp hand
  simp only [Bool.and_eq_true, decide_eq_true_eq] at hand
  have hle := (h.joined p hp hand.1).2
  omega

theorem announced_append (session : ℕ) (queue queue' : List (MediasoupTask × Origin)) :
    announced session (queue ++ queue') = announced session queue + announced session queue' :=
  List.countP_append

theorem announced_map {session : ℕ} {ms : List MediasoupTask} {origin : Origin}
    (hms : ∀ m ∈ ms, m.isJoined = false) : announced session (ms.map (·, origin)) = 0 := by
  rw [announced, List.countP_eq_zero]
  intro p hp
  obtain ⟨m, hm, rfl⟩ := List.mem_map.mp hp
  simp [hms m hm]

/-- After a step that leaves the state, the session and the reports alone. -/
theorem Inv.same (h : Inv reports w) (haligned : s.Aligned)
    (hnotified : s.client.notified = w.sessions.client.notified)
    (hstate : s.client.state = w.sessions.client.state) (hsession : s.session = w.sessions.session)
    (hmediasoup : s.mediasoup = w.sessions.mediasoup) (n : ℕ) :
    ∃ reports, Inv reports (w.after s n response) := by
  refine ⟨reports, h.quiet haligned hnotified ?_ ?_ n⟩
  · rw [hstate, hsession, hmediasoup]
    exact h.phase
  · rw [hsession, hmediasoup]
    exact h.joined

/-- A task of the transport thread. -/
theorem Inv.transport (h : Inv reports w) {n : ℕ} {t : TransportTask} {origin : Origin}
    {rest : List (TransportTask × Origin)} (haligned : s.Aligned)
    (hok : w.Orderly J (.act (.transport, n)))
    (hqueue : w.sessions.transport = (t, origin) :: rest)
    (hchange : RoomClient.TransportChange J
      { w.sessions.client with transportTasks := rest.map Prod.fst } t s.client)
    (hsession : s.session = w.sessions.session)
    (hmediasoup : s.mediasoup = w.sessions.mediasoupAfter s.client (.transport, n)) (m : ℕ) :
    Inv reports (w.after s m response) := by
  have htask : w.sessions.client.transportTasks = t :: rest.map Prod.fst := by
    rw [← h.aligned.transport, hqueue]
    rfl
  have hposts : ∀ ms, s.client.mediasoupTasks = w.sessions.client.mediasoupTasks ++ ms →
      s.mediasoup = w.sessions.mediasoup ++ ms.map (·, origin) :=
    fun ms hms => hmediasoup.trans (h.aligned.mediasoupAfter_transport hqueue hms)
  obtain ⟨hnotified, -⟩ := hchange.same
  have hquiets : ∀ ms, s.client.state = w.sessions.client.state →
      s.client.mediasoupTasks = w.sessions.client.mediasoupTasks ++ ms →
      (∀ m ∈ ms, m.isJoined = false) → Inv reports (w.after s m response) := by
    intro ms hstate hms hquiet
    apply h.quiet haligned hnotified
    · rw [hstate, hsession, hposts ms hms, announced_append, announced_map hquiet]
      exact h.phase
    · intro p hp hjoined
      rw [hposts ms hms] at hp
      rw [hsession]
      rcases List.mem_append.mp hp with hp | hp
      · exact h.joined p hp hjoined
      · obtain ⟨m, hm, rfl⟩ := List.mem_map.mp hp
        rw [hquiet m hm] at hjoined
        cases hjoined
  rcases hchange.joins htask with ⟨hstate, -, ms, hms, hjoined⟩ |
    ⟨r, hd, -, ⟨-, hstate, hms⟩ | ⟨hr, hstate, seq, hms⟩⟩
  · exact hquiets ms hstate hms (RoomClient.isJoined_eq_false hjoined)
  · exact hquiets [] hstate (hms.trans (List.append_nil _).symm) (by simp)
  · -- the response is accepted in its own session, which is connecting
    obtain ⟨hconnecting, horigin⟩ := hok r hd hr
    have horigin : origin.session = w.sessions.session := horigin (t, origin) (by rw [hqueue]; rfl)
    have hphase := h.phase
    rw [hconnecting] at hphase
    obtain ⟨hlast, hnone⟩ := hphase
    apply h.quiet haligned hnotified
    · rw [hstate, hsession, hposts _ hms, announced_append, hnone]
      left
      refine ⟨hlast, ?_⟩
      have hone : announced w.sessions.session
          [(MediasoupTask.joined seq .connected r, origin)] = 1 := by
        simp [announced, MediasoupTask.isJoined, horigin]
      rw [List.map_singleton, hone]
    · intro p hp hjoined
      rw [hposts _ hms] at hp
      rw [hsession]
      rcases List.mem_append.mp hp with hp | hp
      · exact h.joined p hp hjoined
      · rw [List.map_singleton, List.mem_singleton] at hp
        rw [hp]
        exact ⟨rfl, horigin.le⟩

/-- A task of the mediasoup thread. -/
theorem Inv.mediasoup (h : Inv reports w) {n : ℕ} {o : Oracle} {t : MediasoupTask}
    {origin : Origin} {rest : List (MediasoupTask × Origin)} (haligned : s.Aligned)
    (hidle : w.frames = []) (hok : w.Orderly J (.act (.mediasoup o, n)))
    (hqueue : w.sessions.mediasoup = (t, origin) :: rest)
    (hchange : RoomClient.MediasoupChange
      { w.sessions.client with mediasoupTasks := rest.map Prod.fst } t s.client)
    (hsession : s.session = w.sessions.session) (hmediasoup : s.mediasoup = rest) :
    ∃ reports, Inv reports (w.after s (w.sessions.reporting (.mediasoup o, n)) response) := by
  obtain ⟨hnotified, hstate⟩ := hchange.report
  have hserving : ¬ w.Serving := by
    rintro ⟨f, hf, -⟩
    rw [hidle] at hf
    cases hf
  have hjoined : ∀ p ∈ s.mediasoup, p.1.isJoined →
      p.1.report? = some .connected ∧ p.2.session ≤ s.session := by
    intro p hp
    rw [hmediasoup] at hp
    rw [hsession]
    exact h.joined p (hqueue ▸ List.mem_cons_of_mem _ hp)
  have hphase := h.phase
  have hok := hok hidle
  rw [hqueue] at hphase hok
  cases t with
  | closed =>
    refine ⟨_, h.reported haligned hserving hnotified ?_ ?_ hjoined⟩
    · exact hphase.follows_closed hok _
    · rw [hstate]
      rfl
  | joined seq state response =>
    obtain ⟨hconnected, horigin⟩ := hok
    have hreport := (h.joined (.joined seq state response, origin)
      (hqueue ▸ List.mem_cons_self) rfl).1
    cases hreport
    have hone : announced w.sessions.session
        ((.joined seq .connected response, origin) :: rest) =
          announced w.sessions.session rest + 1 := by
      rw [announced, announced, List.countP_cons_of_pos]
      simp [MediasoupTask.isJoined, horigin]
    rw [hconnected, hone] at hphase
    rcases hphase with ⟨hlast, hannounced⟩ | ⟨-, hannounced⟩
    · have hreporting : w.sessions.reporting (.mediasoup o, n) = w.sessions.session := by
        rw [← horigin]
        simp [Sessions.reporting, hqueue]
      refine ⟨_, h.reported haligned hserving hnotified ?_ ?_ hjoined⟩
      · rw [Follows, hlast]
        exact hreporting.symm
      · rw [hstate, hsession, hmediasoup, hreporting]
        show Phase w.sessions.client.state _ _ _
        rw [hconnected]
        exact Or.inr ⟨rfl, by omega⟩
    · omega
  | _ =>
    refine ⟨reports, h.quiet haligned (hnotified.trans (List.append_nil _)) ?_ hjoined _⟩
    rw [hstate, hsession, hmediasoup]
    simp only [announced, List.countP_cons, MediasoupTask.isJoined, Bool.false_and,
      Bool.false_eq_true, if_false, Nat.add_zero] at hphase
    exact hphase

theorem Inv.act (h : Inv reports w) (hidle : ∀ o n, a = (.mediasoup o, n) → w.frames = [])
    (hok : w.Orderly J (.act a)) (hs : w.sessions.step J a = .ok s) :
    ∃ reports, Inv reports (w.after s (w.sessions.reporting a) response) := by
  have haligned := (Sessions.step_moves h.aligned hs).aligned
  obtain ⟨a, n⟩ := a
  obtain ⟨c, hc, rfl⟩ := Sessions.step_ok_iff.mp hs
  have hnotStarts : (∀ hostname port roomId displayName options o,
      a ≠ .call (.join hostname port roomId displayName options) o) →
      (if w.sessions.client.StartsSession a then w.sessions.session + 1 else w.sessions.session) =
        w.sessions.session := by
    intro hne
    apply if_neg
    rintro ⟨_, _, _, _, _, _, he, -⟩
    exact hne _ _ _ _ _ _ he
  have hstarts : w.sessions.client.StartsSession a →
      (if w.sessions.client.StartsSession a then w.sessions.session + 1 else w.sessions.session) =
        w.sessions.session + 1 := fun h => if_pos h
  cases RoomClient.step_change hc with
  | refused hn =>
    apply h.same haligned rfl rfl _ rfl
    apply if_neg
    rintro ⟨_, _, _, _, _, _, he, ha⟩
    cases he
    exact hn ha
  | accepted ha hsc =>
    have hsession := hstarts ⟨_, _, _, _, _, _, rfl, ha⟩
    have hphase := h.phase
    rw [ha.1] at hphase
    refine ⟨_, h.reported haligned (fun hserving => hok hserving ha) rfl ?_ ?_ ?_⟩
    · rw [Follows, show (reports.getLast?.getD (.closed, 0)).1 = .closed from hphase]
      trivial
    · simp only [hsession]
      exact ⟨rfl, h.announced_succ⟩
    · intro p hp hjoined
      obtain ⟨hreport, hle⟩ := h.joined p hp hjoined
      simp only [hsession]
      exact ⟨hreport, by omega⟩
  | stayed hs => exact h.same haligned rfl rfl (hnotStarts (by simp)) rfl _
  | left hopen hsc =>
    have hsession := hnotStarts (by simp)
    have hserving : ¬ w.Serving := by
      intro hserving
      rcases hok hserving with hclosed | hnone
      · exact hopen hclosed
      · rw [hsc] at hnone
        cases hnone
    refine ⟨_, h.reported haligned hserving rfl ?_ ?_ ?_⟩
    · exact h.phase.follows_closed hopen _
    · simp only [hsession]
      rfl
    · intro p hp hjoined
      simp only [hsession]
      exact h.joined p hp hjoined
  | destroyed => exact h.same haligned rfl rfl (hnotStarts (by simp)) rfl _
  | media ha hm hu =>
    obtain ⟨mc, pc, sc, rfl, -⟩ := hu
    apply h.same haligned rfl rfl _ rfl
    apply hnotStarts
    rintro _ _ _ _ _ _ ⟨⟩
    exact ha
  | socket =>
    rename_i e
    cases e with
    | opened | closed | failed | message =>
      exact h.same haligned rfl rfl (hnotStarts (by simp)) rfl _
  | listened hr hcallback =>
    obtain ⟨sc, rfl, -⟩ := hr
    exact h.same haligned rfl rfl (hnotStarts (by simp)) rfl _
  | transportIdle ht =>
    have hnil := h.aligned.transport_eq_nil ht
    apply h.same haligned rfl rfl (hnotStarts (by simp))
    simp only [Sessions.mediasoupAfter, hnil]
  | transport ht hchange =>
    have hmap := h.aligned.transport.trans ht
    obtain ⟨p, rest, hqueue, rfl, rfl⟩ := List.map_eq_cons_iff.mp hmap
    exact ⟨reports, h.transport haligned hok hqueue hchange (hnotStarts (by simp)) rfl _⟩
  | mediasoupIdle ht =>
    have hnil := h.aligned.mediasoup_eq_nil ht
    apply h.same haligned rfl rfl (hnotStarts (by simp))
    simp only [Sessions.mediasoupAfter, hnil, List.tail_nil]
  | mediasoup ht hchange =>
    have hmap := h.aligned.mediasoup.trans ht
    obtain ⟨p, rest, hqueue, rfl, rfl⟩ := List.map_eq_cons_iff.mp hmap
    apply h.mediasoup haligned (hidle _ _ rfl) hok hqueue hchange (hnotStarts (by simp))
    simp only [Sessions.mediasoupAfter, hqueue, List.tail_cons]

/-- The participants that are left out of a task do not matter to the reports. -/
theorem Inv.untilReported (h : Inv reports w) :
    Inv reports { w with sessions := w.sessions.untilReported } := by
  have hsame : ∀ t : MediasoupTask, t.untilReported.isJoined = t.isJoined ∧
      t.untilReported.report? = t.report? := by
    intro t
    cases t <;> exact ⟨rfl, rfl⟩
  have hqueue := h.aligned.mediasoup
  have hphase := h.phase
  have hjoined := h.joined
  refine ⟨⟨h.aligned.transport, ?_⟩, h.notified, h.path, ?_, ?_, h.told, h.served⟩
  · simp only [Sessions.untilReported, ← hqueue]
    cases w.sessions.mediasoup with
    | nil => rfl
    | cons p rest => rfl
  · simp only [Sessions.untilReported]
    cases hm : w.sessions.mediasoup with
    | nil =>
      rw [hm] at hphase
      exact hphase
    | cons p rest =>
      rw [hm] at hphase
      simp only [List.modifyHead_cons, announced, List.countP_cons, Prod.map_fst, Prod.map_snd,
        id, hsame] at hphase ⊢
      exact hphase
  · simp only [Sessions.untilReported]
    cases hm : w.sessions.mediasoup with
    | nil => exact fun p hp => nomatch hp
    | cons p rest =>
      rw [hm] at hjoined
      intro q hq
      rcases List.mem_cons.mp hq with rfl | hq
      · simp only [Prod.map_fst, Prod.map_snd, id, hsame]
        exact hjoined p List.mem_cons_self
      · exact hjoined q (List.mem_cons_of_mem _ hq)

/-- The innermost report is told to one more observer. -/
theorem Inv.tell (h : Inv reports w) {f : Notifying} {rest : List Notifying}
    (hframes : w.frames = f :: rest) :
    Inv reports { w with
      observers := w.observers.modify f.next (Observer.tell f.report)
      frames := { f with next := f.next + 1 } :: rest } := by
  refine ⟨h.aligned, h.notified, h.path, h.phase, h.joined, ?_, ?_⟩
  · intro i o ho
    rw [List.getElem?_modify] at ho
    obtain ⟨o', ho', rfl⟩ := Option.map_eq_some_iff.mp ho
    obtain ⟨hinline, htold⟩ := h.told i o' ho'
    simp only [pending, hframes] at htold
    by_cases hi : f.next = i
    · subst hi
      rw [if_pos le_rfl] at htold
      simp only [if_true, pending, Nat.not_succ_le_self, if_false, List.append_nil]
      unfold Observer.tell
      split
      · rename_i hin
        rw [hinline hin, List.append_nil] at htold
        refine ⟨fun _ => hinline hin, ?_⟩
        rw [← htold, hinline hin, List.append_nil]
      · rename_i hin
        refine ⟨fun hin' => absurd hin' hin, ?_⟩
        rw [← htold, List.append_assoc]
    · have hle : f.next + 1 ≤ i ↔ f.next ≤ i := by omega
      simp only [hi, if_false, pending, hle]
      exact ⟨hinline, htold⟩
  · intro g hg
    rw [List.length_modify]
    apply h.served
    rw [hframes]
    exact hg

/-- The innermost report is done. -/
theorem Inv.done (h : Inv reports w) {f : Notifying} {rest : List Notifying} {c : RoomClient}
    (hframes : w.frames = f :: rest) (hle : w.observers.length ≤ f.next)
    (hc : w.sessions.client.addParticipants f.response = .ok c) :
    Inv reports { w with sessions := { w.sessions with client := c }, frames := rest } := by
  obtain ⟨pc, rfl⟩ := RoomClient.addParticipants_ok hc
  have hserved : ∀ g ∈ rest, w.observers.length ≤ g.next := by
    have h := h.served
    rw [hframes] at h
    exact h
  refine ⟨⟨h.aligned.transport, h.aligned.mediasoup⟩, h.notified, h.path, h.phase, h.joined, ?_,
    fun g hg => hserved g (List.mem_of_mem_tail hg)⟩
  intro i o ho
  have hnone : ∀ w' : Watched, w'.observers = w.observers →
      (∀ g ∈ w'.frames, w.observers.length ≤ g.next) → w'.pending i = [] := by
    intro w' hobservers hall
    rw [← hobservers] at ho hall
    apply pending_of_not_serving ?_ ho
    rintro ⟨g, hg, hlt⟩
    exact absurd hlt (Nat.not_lt_of_le (hall g hg))
  obtain ⟨hinline, htold⟩ := h.told i o ho
  refine ⟨hinline, ?_⟩
  rw [hnone w rfl ?_] at htold
  · rw [hnone]
    · exact htold
    · rfl
    · exact hserved
  · rw [hframes]
    intro g hg
    rcases List.mem_cons.mp hg with rfl | hg
    · exact hle
    · exact hserved g hg

theorem Inv.notify (h : Inv reports w) (hs : w.notify = .ok w') : Inv reports w' := by
  unfold Watched.notify at hs
  split at hs
  · cases hs
    exact h
  · rename_i f rest hframes
    split_ifs at hs with hlt
    · cases hs
      exact h.tell hframes
    · simp only [bind_ok, pure, Except.pure, Except.ok.injEq] at hs
      obtain ⟨c, hc, rfl⟩ := hs
      exact h.done hframes (Nat.le_of_not_lt hlt) hc

theorem Inv.deliver (h : Inv reports w) (i : ℕ) :
    Inv reports { w with observers := w.observers.modify i Observer.deliver } := by
  refine ⟨h.aligned, h.notified, h.path, h.phase, h.joined, ?_, ?_⟩
  · intro j o ho
    rw [List.getElem?_modify] at ho
    obtain ⟨o', ho', rfl⟩ := Option.map_eq_some_iff.mp ho
    obtain ⟨hinline, htold⟩ := h.told j o' ho'
    split
    · have hmoved : (o'.delivered ++ o'.posted.head?.toList) ++ o'.posted.tail =
          o'.delivered ++ o'.posted := by
        rw [List.append_assoc]
        cases o'.posted with
        | nil => rfl
        | cons x rest => rfl
      refine ⟨fun hin => ?_, ?_⟩
      · simp only [Observer.deliver, hinline hin, List.tail_nil]
      · simp only [Observer.deliver, hmoved]
        exact htold
    · exact ⟨hinline, htold⟩
  · intro f hf
    rw [List.length_modify]
    exact h.served f hf

theorem reporting_untilReported (a : Sessions.Action) :
    w.sessions.untilReported.reporting a = w.sessions.reporting a := by
  obtain ⟨a, n⟩ := a
  cases a with
  | mediasoup o =>
    simp only [Sessions.reporting, Sessions.untilReported]
    rcases hm : w.sessions.mediasoup with _ | ⟨⟨t, origin⟩, rest⟩
    · rfl
    · cases t <;> rfl
  | call a o => cases a <;> rfl
  | _ => rfl

theorem Orderly.untilReported {o : Oracle} {n : ℕ}
    (hok : w.Orderly J (.act (.mediasoup o, n))) :
    Orderly J { w with sessions := w.sessions.untilReported } (.act (.mediasoup o, n)) := by
  intro hidle
  have hok := hok hidle
  simp only [Sessions.untilReported]
  rcases hm : w.sessions.mediasoup with _ | ⟨⟨t, origin⟩, rest⟩
  · trivial
  · rw [hm] at hok
    cases t <;> exact hok

theorem Inv.step {a : Action} (h : Inv reports w) (hok : w.Orderly J a)
    (hs : w.step J a = .ok w') : ∃ reports, Inv reports w' := by
  cases a with
  | notify => exact ⟨reports, h.notify hs⟩
  | deliver i =>
    cases hs
    exact ⟨reports, h.deliver i⟩
  | act a =>
    obtain ⟨a, n⟩ := a
    cases a with
    | mediasoup o =>
      simp only [Watched.step] at hs
      split_ifs at hs with hidle
      · cases hs
        exact ⟨reports, h⟩
      · rw [not_not] at hidle
        simp only [bind_ok, pure, Except.pure, Except.ok.injEq] at hs
        obtain ⟨s, hs, rfl⟩ := hs
        rw [← reporting_untilReported]
        exact h.untilReported.act (fun _ _ _ => hidle) hok.untilReported hs
    | call _ _ | socket _ | listener _ _ | transport =>
      simp only [Watched.step, bind_ok, pure, Except.pure, Except.ok.injEq] at hs
      obtain ⟨s, hs, rfl⟩ := hs
      exact h.act (by simp) hok hs

theorem Inv.sees (h : Inv reports w) : w.Sees := by
  intro o ho
  obtain ⟨i, hi⟩ := List.mem_iff_getElem?.mp ho
  obtain ⟨-, htold⟩ := h.told i o hi
  constructor
  · have hpath := h.path
    rw [← htold, List.append_assoc, ← List.cons_append] at hpath
    exact hpath.left_of_append
  · intro hidle hposted _ hmediasoup
    rw [hposted, pending, hidle, List.append_nil, List.append_nil] at htold
    have hnone : announced w.sessions.session w.sessions.mediasoup = 0 := by
      have hnil := h.aligned.mediasoup_eq_nil hmediasoup
      rw [hnil]
      rfl
    have hphase := h.phase
    rw [hnone, ← htold] at hphase
    have hstate : (o.delivered.getLast?.getD (.closed, 0)).1 = w.sessions.client.state := by
      cases hs : w.sessions.client.state with
      | closed =>
        rw [hs] at hphase
        exact hphase
      | connecting =>
        rw [hs] at hphase
        rw [hphase.1]
      | connected =>
        rw [hs] at hphase
        rcases hphase with ⟨-, hone⟩ | ⟨hlast, -⟩
        · cases hone
        · rw [hlast]
    rw [← hstate]
    cases o.delivered.getLast? with
    | none => rfl
    | some p => rfl

/-- In a run whose steps are orderly every observer sees a path of the room state machine at any
time, and in the end the state of the client. -/
theorem sees_of_orderly {inlines : List Bool} {run : List Action}
    (h : Guarded (step J) (Orderly J) (start inlines) run) :
    ∀ pre, pre <+: run → ∀ w, exec (step J) (start inlines) pre = .ok w → w.Sees := by
  rintro pre ⟨post, rfl⟩ w hw
  have hinv : ∃ reports, Inv reports w :=
    exec_invariant (I := fun w => ∃ reports, Inv reports w)
      (fun _ _ _ hi hok hs => hi.elim fun _ hi => hi.step hok hs) (guarded_append.mp h).1
      ⟨[], inv_start inlines⟩ hw
  exact hinv.elim fun _ hinv => hinv.sees

/-- A response is only handled while its session is connecting; the rest of `Orderly`. It can be
decided. -/
def Routine (w : Watched) : Action → Prop
  | .act (.call (.join hostname _ roomId displayName _) _, _) =>
    w.Serving → ¬ w.sessions.client.Accepts hostname roomId displayName
  | .act (.call .leave _, _) => w.Serving → w.sessions.client.state = .closed
  | .act (.transport, _) =>
    match w.sessions.client.transportTasks with
    | .handleResponse _ _ :: _ => w.sessions.client.state = .connecting ∧
        ∀ p ∈ w.sessions.transport.head?, p.2.session = w.sessions.session
    | _ => True
  | .act (.mediasoup _, _) =>
    match w.sessions.mediasoup with
    | (.joined _ _ _, origin) :: _ =>
      w.sessions.client.state = .connected ∧ origin.session = w.sessions.session
    | (.closed, _) :: _ => w.sessions.client.state ≠ .closed
    | _ => True
  | _ => True

instance {w : Watched} : DecidablePred w.Routine := by
  intro a
  unfold Routine
  repeat' split
  all_goals infer_instance

theorem Routine.orderly {a : Action} (h : w.Routine a) : w.Orderly J a := by
  unfold Orderly
  split
  · exact h
  · exact fun hserving => Or.inl (h hserving)
  · rintro r ⟨seq, json, rest, sc, callback, htasks, -⟩ -
    simp only [Routine, htasks] at h
    exact h
  · exact fun _ => h
  · trivial

/-- Two visits with an observer on a thread of its own and one on the mediasoup thread. The SFU
closes the first connection; the second observer leaves and joins again from its callback. -/
def visits : List Action :=
  [.act (RoomClient.sessionJoin, 0), .notify, .act (RoomClient.sessionJoin, 0), .notify, .notify,
    .deliver 0, .act (.socket .opened, 1), .act (.transport, 0),
    .act (.mediasoup RoomClient.firstRequest, 0),
    .act (.socket (.message RoomClient.capabilitiesText), 1), .act (.transport, 0),
    .act (.transport, 0), .act (.mediasoup RoomClient.secondRequest, 0),
    .act (.socket (.message RoomClient.joinedText), 1), .act (.transport, 0), .act (.transport, 0),
    .act (.mediasoup RoomClient.firstRequest, 0), .notify, .notify, .notify,
    .act (.socket .closed, 1), .act (.transport, 0), .act (.mediasoup RoomClient.firstRequest, 0),
    .notify, .act (.call .leave RoomClient.firstRequest, 0), .deliver 0, .notify,
    .act (RoomClient.sessionJoin, 0), .notify, .notify, .notify, .notify, .deliver 0, .deliver 0]

theorem visits_see : ∃ w, exec (step RoomClient.sessionJson) (start [false, true]) visits = .ok w ∧
    w.observers.map Observer.delivered =
      List.replicate 2 [(.connecting, 1), (.connected, 1), (.closed, 1), (.connecting, 2)] ∧
    w.Sees := by
  have hroutine : Guarded (step RoomClient.sessionJson) Routine (start [false, true]) visits := by
    decide +kernel
  have horderly := hroutine.mono fun _ _ =>
    Routine.orderly (J := RoomClient.sessionJson)
  exact ⟨_, rfl, rfl, sees_of_orderly horderly visits (List.prefix_refl _) _ rfl⟩

/-- The connection is closed by the SFU, and the application leaves before the report runs. -/
def closedTwice : List Action :=
  [.act (RoomClient.sessionJoin, 0), .notify, .notify, .deliver 0, .act (.socket .closed, 1),
    .act (.transport, 0), .act (.call .leave RoomClient.firstRequest, 0), .notify, .notify,
    .deliver 0, .act (.mediasoup RoomClient.firstRequest, 0), .notify, .notify, .deliver 0]

/-- The first observer leaves from its callback, before the second one is told. -/
def leftWhileTold : List Action :=
  [.act (RoomClient.sessionJoin, 0), .notify, .act (.call .leave RoomClient.firstRequest, 0),
    .notify, .notify, .notify, .notify, .notify, .deliver 1, .deliver 1]

/-- The closed state is reported twice in a row, and to the second observer before the state that
it follows. -/
theorem closedTwice_not_sees :
    (∃ w, exec (step RoomClient.sessionJson) (start [false]) closedTwice = .ok w ∧
      w.observers.map Observer.delivered = [[(.connecting, 1), (.closed, 1), (.closed, 1)]] ∧
      ¬ w.Sees) ∧
    ∃ w, exec (step RoomClient.sessionJson) (start [true, false]) leftWhileTold = .ok w ∧
      w.observers.map Observer.delivered =
        [[(.connecting, 1), (.closed, 1)], [(.closed, 1), (.connecting, 1)]] ∧
      ¬ w.Sees := by
  refine ⟨⟨_, rfl, rfl, fun hsees => ?_⟩, ⟨_, rfl, rfl, fun hsees => ?_⟩⟩
  · have hpath := (hsees _ List.mem_cons_self).1
    exact (List.isChain_cons_cons.mp (List.isChain_cons_cons.mp
      (List.isChain_cons_cons.mp hpath).2).2).1
  · have hpath := (hsees _ (List.mem_cons_of_mem _ List.mem_cons_self)).1
    exact (List.isChain_cons_cons.mp hpath).1

end Watched
end MediasoupSdk
