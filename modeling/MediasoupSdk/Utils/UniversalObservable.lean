import Mathlib.Data.List.Basic
import Mathlib.Tactic

/-! `UniversalObservable`: the list of observers of a component, and the calls that notify them.
An observer is an object, from its construction on; a pointer to it is null once it is gone. The
calls of different threads may be anywhere in their loops. -/
namespace MediasoupSdk

variable {Observer Thread : Type}

/-- `InnerObject`, over a weak or a shared pointer. The thread is never null. -/
inductive ObserverEntry (Observer Thread : Type) where
  | weakObject (observer : Observer) (thread : Thread)
  | object (observer : Observer) (thread : Thread)

namespace ObserverEntry

def observer : ObserverEntry Observer Thread → Observer
  | .weakObject observer _ | .object observer _ => observer

def thread : ObserverEntry Observer Thread → Thread
  | .weakObject _ thread | .object _ thread => thread

variable [DecidableEq Observer]

/-- The entry keeps the observer alive. -/
def holds (o : Observer) : ObserverEntry Observer Thread → Bool
  | .weakObject _ _ => false
  | .object observer _ => observer = o

/-- The pointer that an entry gives when the objects of `alive` are there: `lock()` of a weak
pointer may be null. -/
def pointer (alive : Observer → Bool) : ObserverEntry Observer Thread → Option Observer
  | .weakObject observer _ => if alive observer then some observer else none
  | .object observer _ => some observer

end ObserverEntry

/-- A call of `notifyObservers`: the thread that makes it, its copy of the list, which lives until
the call returns, and the entries whose turn is still to come. -/
structure NotifyCall (Observer Thread : Type) where
  thread : Thread
  observers : List (ObserverEntry Observer Thread)
  rest : List (ObserverEntry Observer Thread)
  returned : Bool := false

/-- A posted task of a call, with its weak pointer. -/
structure NotifyTask (Observer Thread : Type) where
  call : ℕ
  thread : Thread
  observer : Observer

/-- What came of an entry of a call: the notifier ran, or the observer was gone. -/
inductive Delivery (Observer : Type) where
  | ran (call : ℕ) (observer : Observer)
  | gone (call : ℕ) (observer : Observer)
  deriving DecidableEq

/-- `pointers` are the shared pointers outside of the observable: those of the application, the
arguments of the calls, and the locals of the turns and tasks. `made` are the objects so far,
`calls` the calls of `notifyObservers` so far. -/
structure UniversalObservable (Observer Thread : Type) where
  observers : List (ObserverEntry Observer Thread) := []
  pointers : List Observer := []
  made : List Observer := []
  calls : List (NotifyCall Observer Thread) := []
  tasks : List (NotifyTask Observer Thread) := []
  deliveries : List (Delivery Observer) := []

namespace UniversalObservable

variable [DecidableEq Observer] [DecidableEq Thread]

/-- A shared pointer to the object is left somewhere. -/
def alive (u : UniversalObservable Observer Thread) (o : Observer) : Bool :=
  o ∈ u.pointers || u.observers.any (·.holds o) ||
    u.calls.any fun c => !c.returned && c.observers.any (·.holds o)

def hasObserverInternal (o : Observer) (u : UniversalObservable Observer Thread) : Bool :=
  u.observers.any fun e => e.pointer u.alive = some o

def hasObserver (o : Observer) (u : UniversalObservable Observer Thread) : Bool :=
  u.hasObserverInternal o

def numOfObservers (u : UniversalObservable Observer Thread) : ℕ := u.observers.length

def addWeakObserver (o : Observer) (thread : Thread) (u : UniversalObservable Observer Thread) :
    UniversalObservable Observer Thread :=
  if u.hasObserverInternal o then u
  else { u with observers := u.observers ++ [.weakObject o thread] }

def addObserver (o : Observer) (thread : Thread) (u : UniversalObservable Observer Thread) :
    UniversalObservable Observer Thread :=
  if u.hasObserverInternal o then u
  else { u with observers := u.observers ++ [.object o thread] }

/-- The loop returns at the first match. -/
def removeObserver (o : Observer) (u : UniversalObservable Observer Thread) :
    UniversalObservable Observer Thread :=
  { u with observers := u.observers.eraseP fun e => e.pointer u.alive = some o }

def clearObserver (u : UniversalObservable Observer Thread) :
    UniversalObservable Observer Thread :=
  { u with observers := [] }

/-- The list is copied under the lock. -/
def notifyObservers (thread : Thread) (u : UniversalObservable Observer Thread) :
    UniversalObservable Observer Thread :=
  { u with calls := u.calls ++ [{ thread, observers := u.observers, rest := u.observers }] }

def modifyCall (n : ℕ) (f : NotifyCall Observer Thread → NotifyCall Observer Thread)
    (u : UniversalObservable Observer Thread) : UniversalObservable Observer Thread :=
  { u with calls := u.calls.modify n f }

/-- One round of the loop of a call, for an entry of its copy. -/
def turn (n : ℕ) (thread : Thread) (e : ObserverEntry Observer Thread)
    (u : UniversalObservable Observer Thread) : UniversalObservable Observer Thread :=
  let u' := u.modifyCall n fun c => { c with rest := c.rest.tail }
  match e.pointer u.alive with
  | none => { u' with deliveries := u.deliveries ++ [.gone n e.observer] }
  | some obs =>
    if e.thread = thread then
      { u' with
        pointers := obs :: u.pointers
        deliveries := u.deliveries ++ [.ran n obs] }
    else
      { u' with
        pointers := obs :: u.pointers
        tasks := u.tasks ++ [⟨n, e.thread, obs⟩] }

/-- A posted task locks its weak pointer. -/
def runTask (t : NotifyTask Observer Thread) (u : UniversalObservable Observer Thread) :
    UniversalObservable Observer Thread :=
  if u.alive t.observer then
    { u with
      pointers := t.observer :: u.pointers
      deliveries := u.deliveries ++ [.ran t.call t.observer] }
  else { u with deliveries := u.deliveries ++ [.gone t.call t.observer] }

/-- The observable as its threads use it. Whoever passes an observer has a pointer to it; a turn
is the next of its call; a thread runs its tasks in order. -/
inductive Step : UniversalObservable Observer Thread → UniversalObservable Observer Thread → Prop
  | make {u} (o : Observer) (hnew : o ∉ u.made) :
    Step u { u with pointers := o :: u.pointers, made := o :: u.made }
  | copy {u} (o : Observer) (halive : u.alive o) : Step u { u with pointers := o :: u.pointers }
  | release {u} (o : Observer) : Step u { u with pointers := u.pointers.erase o }
  | addWeakObserver {u} (o : Observer) (thread : Thread) (hpointer : o ∈ u.pointers) :
    Step u (u.addWeakObserver o thread)
  | addObserver {u} (o : Observer) (thread : Thread) (hpointer : o ∈ u.pointers) :
    Step u (u.addObserver o thread)
  | removeObserver {u} (o : Observer) (hpointer : o ∈ u.pointers) : Step u (u.removeObserver o)
  | clearObserver {u} : Step u u.clearObserver
  | notifyObservers {u} (thread : Thread) : Step u (u.notifyObservers thread)
  | turn {u} (n : ℕ) (c : NotifyCall Observer Thread) (e : ObserverEntry Observer Thread)
      (rest : List (ObserverEntry Observer Thread)) (hcall : u.calls[n]? = some c)
      (hrunning : c.returned = false) (hnext : c.rest = e :: rest) :
    Step u (u.turn n c.thread e)
  | finish {u} (n : ℕ) (c : NotifyCall Observer Thread) (hcall : u.calls[n]? = some c)
      (hend : c.rest = []) :
    Step u (u.modifyCall n fun c => { c with returned := true })
  | task {u} (before after : List (NotifyTask Observer Thread)) (t : NotifyTask Observer Thread)
      (htasks : u.tasks = before ++ t :: after) (hfirst : ∀ t' ∈ before, t'.thread ≠ t.thread) :
    Step u (runTask t { u with tasks := before ++ after })

/-- The states that the threads lead to. -/
inductive Reachable : UniversalObservable Observer Thread → Prop
  | start : Reachable {}
  | step {u u'} (h : Reachable u) (hstep : Step u u') : Reachable u'

end UniversalObservable
end MediasoupSdk
