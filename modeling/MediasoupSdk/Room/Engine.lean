import MediasoupSdk.Foundation.Execution
import MediasoupSdk.Foundation.Fault
import MediasoupSdk.Foundation.HashMap

/-! `Core` with its logger, the engine and the component factory: what is there after any calls of
`Core::init`, `Core::destroy` and `Engine::createRoomClient`. -/
namespace MediasoupSdk
open Foundation

/-- The pointers that the calls follow. -/
inductive CorePointer where
  | appLogger
  | rtcLogger
  | threadProvider
  | thread
  | rtcContext
  deriving DecidableEq, Repr

abbrev CoreFault : Type := Foundation.Fault CorePointer

/-- A logger goes by its name; `loggers` has the names that are registered with spdlog. WebRTC
writes to the log while `listening`. -/
structure Logger where
  loggers : List String := [""]
  appLogger : Option String := none
  rtcLogger : Option String := none
  rtcLogSink : Bool := false
  listening : Bool := false
  deriving DecidableEq, Repr

namespace Logger

/-- `spdlog::create_async_nb` throws if the log file does not open, or the name is taken. -/
def createAsyncNb (name : String) (opens : Bool) (loggers : List String) :
    Except CoreFault (List String) :=
  mayThrow (if opens ∧ name ∉ loggers then some (name :: loggers) else none)

/-- A sink that is there is not added to the streams of WebRTC again. -/
def init (opens : Bool) (l : Logger) : Except CoreFault Logger := do
  let loggers ← createAsyncNb "app" opens l.loggers
  let loggers ← createAsyncNb "rtc" opens loggers
  return { loggers, appLogger := some "app", rtcLogger := some "rtc", rtcLogSink := true,
           listening := l.listening || !l.rtcLogSink }

/-- `spdlog::drop_all` empties the registry; the two pointers and the sink stay. -/
def destroy (l : Logger) : Except CoreFault Logger := do
  let _ ← deref .rtcLogger l.rtcLogger
  let _ ← deref .appLogger l.appLogger
  return { l with loggers := [], listening := l.listening && !l.rtcLogSink }

/-- The macro `DLOG`. -/
def debug (l : Logger) : Except CoreFault Unit := do
  let _ ← deref .appLogger l.appLogger
  return ()

end Logger

/-- The names of the threads that it has. -/
structure ThreadProvider where
  inited : Bool := false
  threadsMap : List String := []
  deriving DecidableEq, Repr

namespace ThreadProvider

def init (p : ThreadProvider) : ThreadProvider := { p with inited := true }

def create (threadNames : List String) (p : ThreadProvider) : ThreadProvider :=
  if p.inited then { p with threadsMap := p.threadsMap ++ threadNames } else p

def thread (name : String) (p : ThreadProvider) : Option String :=
  if name ∈ p.threadsMap then some name else none

end ThreadProvider

structure ComponentFactory where
  threadProvider : Option ThreadProvider := none
  deriving DecidableEq, Repr

namespace ComponentFactory

def newThreadProvider : ThreadProvider :=
  ({} : ThreadProvider).init.create ["transport", "mediasoup", "communication", "main"]

def init (f : ComponentFactory) : ComponentFactory :=
  match f.threadProvider with
  | some _ => f
  | none => { threadProvider := some newThreadProvider }

/-- The destructor of the provider writes to the log. -/
def destroy (l : Logger) (f : ComponentFactory) : Except CoreFault ComponentFactory := do
  if f.threadProvider.isSome then
    l.debug
  return { threadProvider := none }

/-- The macro `getThread`. -/
def getThread (name : String) (f : ComponentFactory) : Except CoreFault (Option String) := do
  let provider ← deref .threadProvider f.threadProvider
  return provider.thread name

end ComponentFactory

/-- Whether it has a peer connection factory. -/
structure RTCContext where
  factory : Bool := false
  deriving DecidableEq, Repr

namespace RTCContext

def init (_ : RTCContext) : RTCContext := { factory := true }

def destroy (_ : RTCContext) : RTCContext := { factory := false }

end RTCContext

/-- A room client of the engine: whether its media controller got a peer connection factory, and
how often the engine has destroyed it. -/
structure EngineClient where
  factory : Bool
  destroyed : ℕ := 0
  deriving DecidableEq, Repr

structure Engine where
  rtcContext : Option RTCContext := none
  roomClients : HashMap String EngineClient := ∅

namespace Engine

def init (e : Engine) : Engine :=
  match e.rtcContext with
  | some _ => e
  | none => { e with rtcContext := some ({} : RTCContext).init }

/-- The room clients stay in the map. -/
def destroy (e : Engine) : Engine where
  rtcContext := e.rtcContext.map RTCContext.destroy
  roomClients := e.roomClients.mapValues fun client =>
    { client with destroyed := client.destroyed + 1 }

end Engine

/-- The singletons and the static members of `Logger`. -/
structure Core where
  logger : Logger := {}
  componentFactory : ComponentFactory := {}
  engine : Engine := {}

inductive CoreCall where
  /-- An init, and whether the log files under its path open. -/
  | init (opens : Bool)
  | destroy
  /-- A new room client; `id` is the number that it draws, as text. -/
  | createRoomClient (id : String)
  deriving DecidableEq

namespace Core

def init (opens : Bool) (c : Core) : Except CoreFault Core := do
  let logger ← c.logger.init opens
  let componentFactory := c.componentFactory.init
  let engine := c.engine.init
  logger.debug
  return { logger, componentFactory, engine }

def destroy (c : Core) : Except CoreFault Core := do
  let engine := c.engine.destroy
  let componentFactory ← c.componentFactory.destroy c.logger
  let logger ← c.logger.destroy
  return { logger, componentFactory, engine }

/-- The proxy calls `init` of the room client on the mediasoup thread, and that reads the
context. -/
def createRoomClient (id : String) (c : Core) : Except CoreFault Core := do
  let mediasoupThread ← c.componentFactory.getThread "mediasoup"
  let _ ← c.componentFactory.getThread "transport"
  let _ ← deref .thread mediasoupThread
  let rtcContext ← deref .rtcContext c.engine.rtcContext
  return { c with engine := { c.engine with
    roomClients := c.engine.roomClients.insert id { factory := rtcContext.factory } } }

def step (c : Core) : CoreCall → Except CoreFault Core
  | .init opens => c.init opens
  | .destroy => c.destroy
  | .createRoomClient id => c.createRoomClient id

/-- There was an init, and no destroy since. -/
def Initialised (run : List CoreCall) : Prop :=
  ∃ before after, run = before ++ .init true :: after ∧ .destroy ∉ after

/-- What a call needs of the calls before it: an init comes first or after a destroy and opens its
files, a destroy comes after some init, a room client between the two. -/
def Allowed (run : List CoreCall) : CoreCall → Prop
  | .init opens => opens = true ∧ ¬ Initialised run
  | .destroy => .init true ∈ run
  | .createRoomClient _ => Initialised run

/-- Where an item stands in a list with one more item at the end. -/
theorem exists_split_snoc {α : Type*} {P : List α → List α → Prop} {l : List α} {a b : α} :
    (∃ before after, l ++ [a] = before ++ b :: after ∧ P before after) ↔
      (a = b ∧ P l []) ∨ ∃ before after, l = before ++ b :: after ∧ P before (after ++ [a]) := by
  constructor
  · rintro ⟨before, after, hsplit, hP⟩
    rcases List.eq_nil_or_concat after with rfl | ⟨after', last, rfl⟩
    · obtain ⟨rfl, hlast⟩ := List.append_inj' hsplit rfl
      exact Or.inl ⟨List.singleton_inj.mp hlast, hP⟩
    · have hsplit' : l ++ [a] = (before ++ b :: after') ++ [last] := by
        simpa using hsplit
      obtain ⟨rfl, hlast⟩ := List.append_inj' hsplit' rfl
      rw [List.singleton_inj.mp hlast]
      exact Or.inr ⟨before, after', rfl, by simpa using hP⟩
  · rintro (⟨rfl, hP⟩ | ⟨before, after, rfl, hP⟩)
    · exact ⟨l, [], rfl, hP⟩
    · exact ⟨before, after ++ [a], by simp, hP⟩

theorem initialised_snoc {run : List CoreCall} {call : CoreCall} :
    Initialised (run ++ [call]) ↔ call = .init true ∨ (Initialised run ∧ call ≠ .destroy) := by
  rw [Initialised, exists_split_snoc]
  refine or_congr (and_iff_left List.not_mem_nil) ?_
  simp only [List.mem_append, List.mem_singleton, not_or, Initialised, ← and_assoc,
    exists_and_right]
  exact and_congr Iff.rfl ne_comm

theorem mem_of_initialised {run : List CoreCall} (h : Initialised run) : .init true ∈ run := by
  obtain ⟨before, after, rfl, -⟩ := h
  simp

/-- The last room client with this id: it has a factory unless a destroy came before it, and each
destroy since has destroyed it. -/
def Created (run : List CoreCall) (id : String) (client : EngineClient) : Prop :=
  ∃ before after, run = before ++ .createRoomClient id :: after ∧
    (.createRoomClient id ∉ after ∧ (client.factory = true ↔ .destroy ∉ before) ∧
      client.destroyed = after.count .destroy)

theorem created_snoc {run : List CoreCall} {call : CoreCall} {id : String}
    {client : EngineClient} : Created (run ++ [call]) id client ↔
      (call = .createRoomClient id ∧ (client.factory = true ↔ .destroy ∉ run) ∧
        client.destroyed = 0) ∨
      (call ≠ .createRoomClient id ∧ ∃ before, Created run id before ∧
        client = { before with destroyed := before.destroyed + [call].count .destroy }) := by
  rw [Created, exists_split_snoc]
  refine or_congr (and_congr_right' (by simp)) ?_
  simp only [List.mem_append, List.mem_singleton, not_or, List.count_append]
  constructor
  · rintro ⟨before, after, hrun, ⟨hafter, hcall⟩, hfactory, hdestroyed⟩
    refine ⟨fun hc => hcall hc.symm, ⟨client.factory, after.count .destroy⟩,
      ⟨before, after, hrun, hafter, hfactory, rfl⟩, ?_⟩
    rw [← hdestroyed]
  · rintro ⟨hcall, old, ⟨before, after, hrun, hafter, hfactory, hdestroyed⟩, rfl⟩
    exact ⟨before, after, hrun, ⟨hafter, fun hc => hcall hc.symm⟩, hfactory, by rw [hdestroyed]⟩

/-- The singletons after calls that returned. -/
structure Inv (run : List CoreCall) (c : Core) : Prop where
  registered : ∀ name ∈ ["app", "rtc"], (name ∈ c.logger.loggers ↔ Initialised run)
  appLogger : c.logger.appLogger.isSome ↔ .init true ∈ run
  rtcLogger : c.logger.rtcLogger.isSome ↔ .init true ∈ run
  sink : c.logger.rtcLogSink = true ↔ .init true ∈ run
  listening : c.logger.listening = true ↔ .init true ∈ run ∧ .destroy ∉ run
  inited : .destroy ∈ run → .init true ∈ run
  initialised : Initialised run →
    c.componentFactory.threadProvider = some ComponentFactory.newThreadProvider
  uninitialised : ¬ Initialised run → c.componentFactory.threadProvider = none
  context : ∀ rtcContext, c.engine.rtcContext = some rtcContext ↔
    .init true ∈ run ∧ (rtcContext.factory = true ↔ .destroy ∉ run)
  clients : ∀ id client, c.engine.roomClients.lookup id = some client ↔ Created run id client

theorem Inv.start : Inv [] {} := by
  have hnot : ¬ Initialised [] := by
    rintro ⟨before, after, h, -⟩
    simp at h
  constructor
  case registered =>
    intro name hname
    refine iff_of_false (fun h => ?_) hnot
    rw [List.mem_singleton.mp h] at hname
    exact absurd hname (by decide)
  case initialised => exact fun h => absurd h hnot
  case uninitialised => exact fun _ => rfl
  case clients => simp [Created]
  all_goals simp

theorem Inv.exists_context {run : List CoreCall} {c : Core} (h : Inv run c)
    (hrun : .init true ∈ run) : ∃ rtcContext, c.engine.rtcContext = some rtcContext := by
  by_cases htorn : .destroy ∈ run
  · exact ⟨⟨false⟩, (h.context _).mpr ⟨hrun, by simp [htorn]⟩⟩
  · exact ⟨⟨true⟩, (h.context _).mpr ⟨hrun, by simp [htorn]⟩⟩

theorem createAsyncNb_ok {name : String} {opens : Bool} {loggers loggers' : List String} :
    Logger.createAsyncNb name opens loggers = .ok loggers' ↔
      opens = true ∧ name ∉ loggers ∧ loggers' = name :: loggers := by
  rw [Logger.createAsyncNb]
  split_ifs with h
  · simp [h, eq_comm]
  · simp only [mayThrow_none, reduceCtorEq, false_iff]
    exact fun hall => h ⟨hall.1, hall.2.1⟩

/-- An init needs that the names of its loggers are free. -/
theorem init_ok {run : List CoreCall} {c c' : Core} {opens : Bool} (h : Inv run c) :
    c.init opens = .ok c' ↔ Allowed run (.init opens) ∧
      c' = { logger := { loggers := "rtc" :: "app" :: c.logger.loggers
                         appLogger := some "app"
                         rtcLogger := some "rtc"
                         rtcLogSink := true
                         listening := c.logger.listening || !c.logger.rtcLogSink }
             componentFactory := c.componentFactory.init
             engine := c.engine.init } := by
  have happ := h.registered "app" (by decide)
  have hrtc := h.registered "rtc" (by decide)
  simp only [Core.init, Logger.init, Logger.debug, bind_ok, createAsyncNb_ok, pure, Except.pure,
    Except.ok.injEq, Allowed]
  constructor
  · rintro ⟨_, ⟨_, ⟨hopens, hfree, rfl⟩, _, ⟨-, -, rfl⟩, rfl⟩, _, -, rfl⟩
    exact ⟨⟨hopens, fun hinit => hfree (happ.mpr hinit)⟩, rfl⟩
  · rintro ⟨⟨hopens, hinit⟩, rfl⟩
    have hfree : "rtc" ∉ "app" :: c.logger.loggers := by
      rw [List.mem_cons, hrtc, or_iff_right (by decide)]
      exact hinit
    exact ⟨_, ⟨_, ⟨hopens, fun hmem => hinit (happ.mp hmem), rfl⟩, _, ⟨hopens, hfree, rfl⟩, rfl⟩,
      (), ⟨_, rfl, trivial⟩, rfl⟩

/-- A destroy needs the loggers of some init. -/
theorem destroy_ok {run : List CoreCall} {c c' : Core} (h : Inv run c) :
    c.destroy = .ok c' ↔ Allowed run .destroy ∧
      c' = { logger := { c.logger with loggers := [], listening := false }
             componentFactory := { threadProvider := none }
             engine := c.engine.destroy } := by
  rw [Allowed]
  by_cases hrun : .init true ∈ run
  · obtain ⟨app, happ⟩ := Option.isSome_iff_exists.mp (h.appLogger.mpr hrun)
    obtain ⟨rtc, hrtc⟩ := Option.isSome_iff_exists.mp (h.rtcLogger.mpr hrun)
    have hfactory : c.componentFactory.destroy c.logger = .ok { threadProvider := none } := by
      simp only [ComponentFactory.destroy, Logger.debug, happ]
      split_ifs <;> rfl
    have hlogger : c.logger.destroy =
        .ok { c.logger with loggers := [], listening := false } := by
      simp only [Logger.destroy, happ, hrtc, h.sink.mpr hrun, Bool.not_true, Bool.and_false]
      rfl
    rw [Core.destroy, hfactory, hlogger]
    simp only [hrun, true_and]
    exact (Except.ok.injEq _ _).to_iff.trans eq_comm
  · refine iff_of_false (fun hc' => ?_) fun hc' => hrun hc'.1
    have hrtc : c.logger.rtcLogger = none := by
      rw [← Option.not_isSome_iff_eq_none, h.rtcLogger]
      exact hrun
    simp only [Core.destroy, Logger.destroy, bind_ok, hrtc, deref_eq_ok, reduceCtorEq,
      false_and, exists_false, and_false] at hc'

/-- A new room client needs threads, which an init gives and a destroy takes. -/
theorem createRoomClient_ok {run : List CoreCall} {c c' : Core} {id : String} (h : Inv run c) :
    c.createRoomClient id = .ok c' ↔ Allowed run (.createRoomClient id) ∧ ∃ rtcContext,
      c.engine.rtcContext = some rtcContext ∧ c' = { c with engine := { c.engine with
        roomClients := c.engine.roomClients.insert id { factory := rtcContext.factory } } } := by
  rw [Allowed]
  by_cases hrun : Initialised run
  · have hthread (name : String) (hname : name ∈ ComponentFactory.newThreadProvider.threadsMap) :
        c.componentFactory.getThread name = .ok (some name) := by
      rw [ComponentFactory.getThread, h.initialised hrun]
      exact congrArg Except.ok (if_pos hname)
    rw [createRoomClient, hthread "mediasoup" (by decide), hthread "transport" (by decide)]
    simp only [bind_ok, deref_eq_ok, pure, Except.pure, Except.ok.injEq, hrun, true_and]
    constructor
    · rintro ⟨_, -, _, -, _, -, rtcContext, hcontext, rfl⟩
      exact ⟨rtcContext, hcontext, rfl⟩
    · rintro ⟨rtcContext, hcontext, rfl⟩
      exact ⟨_, rfl, _, rfl, _, rfl, rtcContext, hcontext, rfl⟩
  · constructor
    · intro hc'
      rw [createRoomClient, ComponentFactory.getThread, h.uninitialised hrun] at hc'
      cases hc'
    · exact fun hc' => absurd hc'.1 hrun

theorem Inv.init {run : List CoreCall} {c c' : Core} {opens : Bool} (h : Inv run c)
    (hc' : c.init opens = .ok c') : Inv (run ++ [.init opens]) c' := by
  obtain ⟨⟨rfl, hnot⟩, rfl⟩ := (init_ok h).mp hc'
  have hinit : Initialised (run ++ [.init true]) := initialised_snoc.mpr (Or.inl rfl)
  have hmem : CoreCall.init true ∈ run ++ [.init true] := List.mem_append_right _ (by simp)
  have hdestroy : CoreCall.destroy ∈ run ++ [.init true] ↔ .destroy ∈ run := by simp
  constructor
  case registered =>
    refine fun name hname => iff_of_true ?_ hinit
    rcases List.mem_pair.mp hname with rfl | rfl <;> simp
  case appLogger => exact iff_of_true rfl hmem
  case rtcLogger => exact iff_of_true rfl hmem
  case sink => exact iff_of_true rfl hmem
  case listening =>
    -- only the first init adds the sink, and no destroy came before it
    have hfirst : .init true ∉ run → .destroy ∉ run := mt h.inited
    rw [Bool.or_eq_true, h.listening, Bool.not_eq_true', ← Bool.not_eq_true, h.sink, hdestroy,
      and_iff_right hmem]
    tauto
  case inited => exact fun _ => hmem
  case initialised => simp [ComponentFactory.init, h.uninitialised hnot]
  case uninitialised => exact fun hnot' => absurd hinit hnot'
  case context =>
    intro rtcContext
    rw [hdestroy, and_iff_right hmem]
    by_cases hrun : .init true ∈ run
    · obtain ⟨old, hold⟩ := h.exists_context hrun
      have hiff := h.context rtcContext
      rw [and_iff_right hrun] at hiff
      rw [← hiff]
      simp [Engine.init, hold]
    · have hnone : c.engine.rtcContext = none := by
        by_contra hsome
        obtain ⟨old, hold⟩ := Option.ne_none_iff_exists'.mp hsome
        exact hrun ((h.context old).mp hold).1
      simp only [Engine.init, hnone, RTCContext.init, Option.some.injEq,
        iff_true_right (mt h.inited hrun)]
      cases rtcContext
      simp [eq_comm]
  case clients =>
    intro id client
    have hclients : c.engine.init.roomClients = c.engine.roomClients := by
      rw [Engine.init]
      split <;> rfl
    rw [hclients, h.clients, created_snoc]
    simp

theorem Inv.destroy {run : List CoreCall} {c c' : Core} (h : Inv run c)
    (hc' : c.destroy = .ok c') : Inv (run ++ [.destroy]) c' := by
  obtain ⟨hrun, rfl⟩ := (destroy_ok h).mp hc'
  rw [Allowed] at hrun
  have hnot : ¬ Initialised (run ++ [.destroy]) := by
    rw [initialised_snoc]
    simp
  have hmem : CoreCall.init true ∈ run ++ [.destroy] := List.mem_append_left _ hrun
  have hdestroy : CoreCall.destroy ∈ run ++ [.destroy] := List.mem_append_right _ (by simp)
  constructor
  case registered => exact fun name _ => iff_of_false List.not_mem_nil hnot
  case appLogger => exact iff_of_true (h.appLogger.mpr hrun) hmem
  case rtcLogger => exact iff_of_true (h.rtcLogger.mpr hrun) hmem
  case sink => exact iff_of_true (h.sink.mpr hrun) hmem
  case listening => exact iff_of_false Bool.false_ne_true fun hl => hl.2 hdestroy
  case inited => exact fun _ => hmem
  case initialised => exact fun hinit => absurd hinit hnot
  case uninitialised => exact fun _ => rfl
  case context =>
    intro rtcContext
    obtain ⟨old, hold⟩ := h.exists_context hrun
    have hcontext : c.engine.destroy.rtcContext = some old.destroy := by
      simp [Engine.destroy, hold]
    rw [hcontext, Option.some.injEq, and_iff_right hmem, iff_false_right (not_not_intro hdestroy)]
    cases rtcContext
    simp [RTCContext.destroy, eq_comm]
  case clients =>
    intro id client
    have hclients : c.engine.destroy.roomClients = c.engine.roomClients.mapValues fun client =>
        { client with destroyed := client.destroyed + 1 } := rfl
    rw [hclients, HashMap.lookup_mapValues, created_snoc, Option.map_eq_some_iff]
    simp only [h.clients, reduceCtorEq, false_and, false_or, ne_eq, not_false_eq_true, true_and,
      List.count_singleton_self]
    exact exists_congr fun before => and_congr_right' eq_comm

theorem Inv.createRoomClient {run : List CoreCall} {c c' : Core} {id : String} (h : Inv run c)
    (hc' : c.createRoomClient id = .ok c') : Inv (run ++ [.createRoomClient id]) c' := by
  obtain ⟨hrun, rtcContext, hcontext, rfl⟩ := (createRoomClient_ok h).mp hc'
  rw [Allowed] at hrun
  have hinit : Initialised (run ++ [.createRoomClient id]) := by
    rw [initialised_snoc]
    exact Or.inr ⟨hrun, CoreCall.noConfusion⟩
  have hmem : CoreCall.init true ∈ run ++ [.createRoomClient id] ↔ .init true ∈ run := by simp
  have hdestroy : CoreCall.destroy ∈ run ++ [.createRoomClient id] ↔ .destroy ∈ run := by simp
  constructor
  case registered =>
    exact fun name hname => (h.registered name hname).trans (iff_of_true hrun hinit)
  case appLogger => exact h.appLogger.trans hmem.symm
  case rtcLogger => exact h.rtcLogger.trans hmem.symm
  case sink => exact h.sink.trans hmem.symm
  case listening => rw [hmem, hdestroy, h.listening]
  case inited =>
    rw [hmem, hdestroy]
    exact h.inited
  case initialised => exact fun _ => h.initialised hrun
  case uninitialised => exact fun hnot => absurd hinit hnot
  case context =>
    rw [hmem, hdestroy]
    exact h.context
  case clients =>
    intro id' client
    rw [HashMap.lookup_insert_eq_ite, created_snoc, CoreCall.createRoomClient.injEq]
    split_ifs with hid
    · obtain ⟨-, hfactory⟩ := (h.context rtcContext).mp hcontext
      obtain ⟨factory, destroyed⟩ := client
      simp only [hid, true_and, ne_eq, not_true_eq_false, false_and, or_false, Option.some.injEq,
        ← hfactory, EngineClient.mk.injEq, ← Bool.eq_iff_iff]
      exact and_congr eq_comm eq_comm
    · have hcount : [CoreCall.createRoomClient id].count .destroy = 0 := rfl
      have hne : CoreCall.createRoomClient id ≠ .createRoomClient id' := by
        simpa using Ne.symm hid
      simp only [h.clients, Ne.symm hid, false_and, hne, hcount, Nat.add_zero, false_or,
        ne_eq, not_false_eq_true, true_and, exists_eq_right']

theorem Inv.step {run : List CoreCall} {c c' : Core} {call : CoreCall} (h : Inv run c)
    (hstep : c.step call = .ok c') : Inv (run ++ [call]) c' := by
  cases call with
  | init opens => exact h.init hstep
  | destroy => exact h.destroy hstep
  | createRoomClient id => exact h.createRoomClient hstep

theorem Inv.step_ok_iff {run : List CoreCall} {c : Core} {call : CoreCall} (h : Inv run c) :
    (∃ c', c.step call = .ok c') ↔ Allowed run call := by
  cases call with
  | init opens => simp only [Core.step, init_ok h, exists_and_left, exists_eq, and_true]
  | destroy => simp only [Core.step, destroy_ok h, exists_and_left, exists_eq, and_true]
  | createRoomClient id =>
    simp only [Core.step, createRoomClient_ok h, exists_and_left, and_iff_left_iff_imp]
    intro hrun
    obtain ⟨rtcContext, hcontext⟩ := h.exists_context (mem_of_initialised hrun)
    exact ⟨_, rtcContext, hcontext, rfl⟩

theorem Inv.run {run : List CoreCall} {c : Core} (hrun : exec Core.step {} run = .ok c) :
    Inv run c := by
  induction run using List.reverseRecOn generalizing c with
  | nil =>
    cases hrun
    exact .start
  | append_singleton run call ih =>
    obtain ⟨c₁, hc₁, hcall⟩ := exec_append_ok.mp hrun
    obtain ⟨c₂, hstep, hc₂⟩ := exec_cons_ok.mp hcall
    cases hc₂
    exact (ih hc₁).step hstep

/-- The calls return exactly if each is allowed after the ones before it. The engine then has the
last room client of each id, and never gives one up: each destroy destroys it again. A destroy is
for good: a room client made after one has no peer connection factory, and WebRTC writes to the
log no more, also after another init. -/
theorem room_clients_iff (run : List CoreCall) :
    ((∃ c, exec Core.step {} run = .ok c) ↔
        ∀ pre call, pre ++ [call] <+: run → Allowed pre call) ∧
      ∀ c, exec Core.step {} run = .ok c →
        (c.logger.listening = true ↔ .init true ∈ run ∧ .destroy ∉ run) ∧
        ∀ id client, c.engine.roomClients.lookup id = some client ↔
          ∃ before after, run = before ++ .createRoomClient id :: after ∧
            .createRoomClient id ∉ after ∧ (client.factory = true ↔ .destroy ∉ before) ∧
            client.destroyed = after.count .destroy := by
  refine ⟨⟨?_, ?_⟩, fun c hrun => ⟨(Inv.run hrun).listening, (Inv.run hrun).clients⟩⟩
  · rintro ⟨c, hrun⟩ pre call ⟨rest, rfl⟩
    obtain ⟨c₁, hpre, -⟩ := exec_append_ok.mp hrun
    obtain ⟨c₂, hc₂, hstep⟩ := exec_append_ok.mp hpre
    obtain ⟨c₃, hc₃, -⟩ := exec_cons_ok.mp hstep
    exact (Inv.run hc₂).step_ok_iff.mp ⟨c₃, hc₃⟩
  · induction run using List.reverseRecOn with
    | nil => exact fun _ => ⟨{}, rfl⟩
    | append_singleton run call ih =>
      intro hallowed
      obtain ⟨c, hc⟩ := ih fun pre id hpre => hallowed pre id (hpre.trans (List.prefix_append _ _))
      obtain ⟨c', hc'⟩ := (Inv.run hc).step_ok_iff.mpr (hallowed run call List.prefix_rfl)
      exact ⟨c', exec_append_ok.mpr ⟨c, hc, exec_cons_ok.mpr ⟨c', hc', rfl⟩⟩⟩

example : ∃ c, exec Core.step {} [.init true, .destroy, .init true, .createRoomClient "7"] =
    .ok c ∧ c.engine.roomClients.lookup "7" = some { factory := false } := ⟨_, rfl, rfl⟩

end Core
end MediasoupSdk
