import MediasoupSdk.Utils.UniversalObservable

/-! Who is registered in a `UniversalObservable`, and what becomes of the entries that a call of
`notifyObservers` found, in every order of calls, turns, tasks and deaths of observers. -/
namespace MediasoupSdk

variable {Observer Thread : Type}

theorem ObserverEntry.pointer_eq_some {alive : Observer → Bool} {o : Observer}
    {e : ObserverEntry Observer Thread} (h : e.pointer alive = some o) : e.observer = o := by
  cases e with
  | weakObject observer thread =>
    simp only [pointer] at h
    split_ifs at h
    exact Option.some.inj h
  | object observer thread => exact Option.some.inj h

theorem ObserverEntry.pointer_eq_none {alive : Observer → Bool}
    {e : ObserverEntry Observer Thread} (h : e.pointer alive = none) :
    alive e.observer = false := by
  cases e with
  | weakObject observer thread =>
    simp only [pointer] at h
    split_ifs at h with halive
    exact Bool.eq_false_iff.mpr halive
  | object observer thread => cases h

/-- A pointer to a live observer is not null. -/
theorem ObserverEntry.pointer_eq_some_iff {alive : Observer → Bool} {o : Observer}
    (halive : alive o) {e : ObserverEntry Observer Thread} :
    e.pointer alive = some o ↔ e.observer = o := by
  refine ⟨pointer_eq_some, ?_⟩
  rintro rfl
  cases e with
  | weakObject observer thread => exact if_pos halive
  | object observer thread => rfl

/-- The observers of the calling thread that a call found, in the order of their entries. -/
def NotifyCall.direct [DecidableEq Thread] (c : NotifyCall Observer Thread) : List Observer :=
  (c.observers.filter (·.thread = c.thread)).map ObserverEntry.observer

theorem NotifyCall.mem_direct [DecidableEq Thread] {c : NotifyCall Observer Thread}
    {e : ObserverEntry Observer Thread} (he : e ∈ c.observers) (hthread : e.thread = c.thread) :
    e.observer ∈ c.direct := by
  apply List.mem_map_of_mem
  rw [List.mem_filter, decide_eq_true_eq]
  exact ⟨he, hthread⟩

theorem NotifyCall.not_mem_direct [DecidableEq Thread] {c : NotifyCall Observer Thread}
    (hdistinct : (c.observers.map ObserverEntry.observer).Nodup)
    {e : ObserverEntry Observer Thread} (he : e ∈ c.observers) (hthread : e.thread ≠ c.thread) :
    e.observer ∉ c.direct := by
  intro h
  obtain ⟨e', he', heq⟩ := List.mem_map.mp h
  rw [List.mem_filter, decide_eq_true_eq] at he'
  have hsame := List.inj_on_of_nodup_map hdistinct he'.1 he heq
  rw [hsame] at he'
  exact hthread he'.2

namespace UniversalObservable

variable [DecidableEq Observer] {u u' : UniversalObservable Observer Thread} {o : Observer}

theorem alive_of_mem (h : o ∈ u.pointers) : u.alive o := by
  simp [alive, h]

theorem hasObserver_iff (halive : u.alive o) :
    u.hasObserver o ↔ o ∈ u.observers.map ObserverEntry.observer := by
  simp only [hasObserver, hasObserverInternal, List.any_eq_true, decide_eq_true_eq, List.mem_map,
    ObserverEntry.pointer_eq_some_iff halive]

/-- No entry is left of an observer that had one entry at most. -/
theorem forall_mem_eraseP_ne {α β : Type} [DecidableEq β] {f : α → β} {b : β} {l : List α}
    (h : (l.map f).Nodup) : ∀ a ∈ l.eraseP (f · = b), f a ≠ b := by
  induction l with
  | nil => simp
  | cons x l ih =>
    rw [List.map_cons, List.nodup_cons] at h
    by_cases hx : f x = b
    · rw [List.eraseP_cons_of_pos (by simpa using hx)]
      intro a ha he
      apply h.1
      rw [hx, ← he]
      exact List.mem_map_of_mem ha
    · rw [List.eraseP_cons_of_neg (by simpa using hx)]
      intro a ha
      rcases List.mem_cons.mp ha with rfl | ha
      · exact hx
      · exact ih h.2 a ha

theorem filter_eraseP {α : Type} {p q : α → Bool} (h : ∀ a, p a → q a = false) (l : List α) :
    (l.eraseP p).filter q = l.filter q := by
  induction l with
  | nil => rfl
  | cons x l ih =>
    by_cases hx : p x
    · rw [List.eraseP_cons_of_pos hx, List.filter_cons_of_neg (by simp [h x hx])]
    · rw [List.eraseP_cons_of_neg hx, List.filter_cons, List.filter_cons, ih]

theorem removeObserver_eq (halive : u.alive o) :
    u.removeObserver o = { u with observers := u.observers.eraseP (·.observer = o) } := by
  have hp : (fun e : ObserverEntry Observer Thread => decide (e.pointer u.alive = some o)) =
      fun e => decide (e.observer = o) := by
    funext e
    rw [decide_eq_decide]
    exact ObserverEntry.pointer_eq_some_iff halive
  rw [removeObserver, hp]

theorem removeObserver_hasObserver (hnodup : (u.observers.map ObserverEntry.observer).Nodup)
    (halive : u.alive o) : (u.removeObserver o).hasObserver o = false := by
  rw [removeObserver_eq halive, Bool.eq_false_iff]
  intro h
  simp only [hasObserver, hasObserverInternal, List.any_eq_true, decide_eq_true_eq] at h
  obtain ⟨e, he, hpointer⟩ := h
  exact forall_mem_eraseP_ne hnodup e he (ObserverEntry.pointer_eq_some hpointer)

/-- The entries of an observer. -/
def entries (o : Observer) (u : UniversalObservable Observer Thread) :
    List (ObserverEntry Observer Thread) :=
  u.observers.filter (·.observer = o)

theorem removeObserver_entries {o' : Observer} (halive : u.alive o) (hne : o' ≠ o) :
    (u.removeObserver o).entries o' = u.entries o' := by
  rw [removeObserver_eq halive]
  apply filter_eraseP
  intro e he
  rw [decide_eq_true_eq] at he
  rw [decide_eq_false_iff_not, he]
  exact hne.symm

theorem length_entries_le_one (h : (u.observers.map ObserverEntry.observer).Nodup)
    (o : Observer) : (u.entries o).length ≤ 1 := by
  have hcount := List.nodup_iff_count_le_one.mp h o
  rw [List.count_eq_countP, List.countP_map, List.countP_eq_length_filter] at hcount
  exact hcount

theorem nodup_append {e : ObserverEntry Observer Thread}
    (h : (u.observers.map ObserverEntry.observer).Nodup) (halive : u.alive e.observer)
    (hnot : ¬ u.hasObserverInternal e.observer) :
    ((u.observers ++ [e]).map ObserverEntry.observer).Nodup := by
  have hmem := mt (hasObserver_iff halive).mpr hnot
  rw [List.map_append, List.nodup_append]
  refine ⟨h, List.nodup_singleton _, ?_⟩
  intro a ha b hb he
  rw [List.map_singleton, List.mem_singleton] at hb
  rw [he, hb] at ha
  exact hmem ha

/-- Adding an observer is about the registrations only. -/
theorem addWeakObserver_frame (o : Observer) (thread : Thread)
    (u : UniversalObservable Observer Thread) :
    (u.addWeakObserver o thread).calls = u.calls ∧
      (u.addWeakObserver o thread).deliveries = u.deliveries := by
  unfold addWeakObserver
  split_ifs
  · exact ⟨rfl, rfl⟩
  · exact ⟨rfl, rfl⟩

theorem addObserver_frame (o : Observer) (thread : Thread)
    (u : UniversalObservable Observer Thread) :
    (u.addObserver o thread).calls = u.calls ∧
      (u.addObserver o thread).deliveries = u.deliveries := by
  unfold addObserver
  split_ifs
  · exact ⟨rfl, rfl⟩
  · exact ⟨rfl, rfl⟩

/-- How often the observer waits for its turn in a call. -/
def pending (n : ℕ) (o : Observer) (u : UniversalObservable Observer Thread) : ℕ :=
  (u.calls[n]?.elim [] fun c => c.rest.map ObserverEntry.observer).count o

/-- How often it waits for a posted task of the call. -/
def posted (n : ℕ) (o : Observer) (u : UniversalObservable Observer Thread) : ℕ :=
  u.tasks.countP fun t => t.call = n ∧ t.observer = o

/-- How often the notifier of the call ran with it. -/
def ran (n : ℕ) (o : Observer) (u : UniversalObservable Observer Thread) : ℕ :=
  u.deliveries.count (.ran n o)

def gone (n : ℕ) (o : Observer) (u : UniversalObservable Observer Thread) : ℕ :=
  u.deliveries.count (.gone n o)

/-- The observers that the notifier of the call ran with, in order. -/
def runs (n : ℕ) (u : UniversalObservable Observer Thread) : List Observer :=
  u.deliveries.filterMap fun
    | .ran m o => if m = n then some o else none
    | .gone _ _ => none

omit [DecidableEq Observer] in
theorem mem_runs {n : ℕ} : o ∈ u.runs n ↔ .ran n o ∈ u.deliveries := by
  simp only [runs, List.mem_filterMap]
  constructor
  · rintro ⟨d, hd, he⟩
    cases d with
    | ran m o' =>
      simp only at he
      split_ifs at he with hm
      cases he
      rwa [← hm]
    | gone m o' => cases he
  · intro hd
    exact ⟨_, hd, if_pos rfl⟩

omit [DecidableEq Observer] in
theorem runs_ran {n : ℕ} (h : u'.deliveries = u.deliveries ++ [.ran n o]) (m : ℕ) :
    u'.runs m = u.runs m ++ if n = m then [o] else [] := by
  rw [runs, runs, h, List.filterMap_append]
  split_ifs with hn
  · simp [hn]
  · simp [hn]

omit [DecidableEq Observer] in
theorem runs_gone {n : ℕ} (h : u'.deliveries = u.deliveries ++ [.gone n o]) (m : ℕ) :
    u'.runs m = u.runs m := by
  rw [runs, runs, h, List.filterMap_append]
  simp

omit [DecidableEq Observer] in
theorem runs_congr (h : u'.deliveries = u.deliveries) (m : ℕ) : u'.runs m = u.runs m := by
  rw [runs, runs, h]

theorem posted_pos {t : NotifyTask Observer Thread} (h : t ∈ u.tasks) :
    0 < u.posted t.call t.observer :=
  List.countP_pos_iff.mpr ⟨t, h, by simp⟩

theorem runs_eq_nil {n : ℕ} (h : ∀ o, u.ran n o = 0) : u.runs n = [] := by
  rw [List.eq_nil_iff_forall_not_mem]
  intro o ho
  exact absurd (h o) (List.count_pos_iff.mpr (mem_runs.mp ho)).ne'

variable [DecidableEq Thread]

/-- Each observer has one entry at most. Each entry that a call found has its turn to come, or is
posted, or ran once, or was gone; those of the calling thread run in their order. -/
structure Inv (u : UniversalObservable Observer Thread) : Prop where
  nodup : (u.observers.map ObserverEntry.observer).Nodup
  distinct : ∀ (n : ℕ) c, u.calls[n]? = some c → (c.observers.map ObserverEntry.observer).Nodup
  suffix : ∀ (n : ℕ) c, u.calls[n]? = some c → c.rest <:+ c.observers
  account : ∀ (n : ℕ) c, u.calls[n]? = some c → ∀ o,
    u.pending n o + u.posted n o + u.ran n o + u.gone n o =
      (c.observers.map ObserverEntry.observer).count o
  later : ∀ (n : ℕ), u.calls.length ≤ n → ∀ o, u.posted n o + u.ran n o + u.gone n o = 0
  elsewhere : ∀ t ∈ u.tasks, ∀ c, u.calls[t.call]? = some c → t.observer ∉ c.direct
  order : ∀ (n : ℕ) c, u.calls[n]? = some c →
    ((u.runs n).filter (· ∈ c.direct) ++
      (c.rest.filter (·.thread = c.thread)).map ObserverEntry.observer).Sublist c.direct

theorem inv_start : Inv ({} : UniversalObservable Observer Thread) := by
  constructor <;> simp [posted, ran, gone]

/-- A step that changes the registrations and the pointers only. -/
theorem Inv.frame (h : u.Inv) (hnodup : (u'.observers.map ObserverEntry.observer).Nodup)
    (hcalls : u'.calls = u.calls) (htasks : u'.tasks = u.tasks)
    (hdeliveries : u'.deliveries = u.deliveries) : u'.Inv := by
  obtain ⟨-, h₁, h₂, h₃, h₄, h₅, h₆⟩ := h
  cases u
  cases u'
  cases hcalls
  cases htasks
  cases hdeliveries
  exact ⟨hnodup, h₁, h₂, h₃, h₄, h₅, h₆⟩

theorem Inv.notifyObservers (h : u.Inv) (thread : Thread) : (u.notifyObservers thread).Inv := by
  have hcases : ∀ (n : ℕ) c, (u.notifyObservers thread).calls[n]? = some c →
      u.calls[n]? = some c ∨ n = u.calls.length ∧
        c = { thread, observers := u.observers, rest := u.observers } := by
    intro n c hc
    rw [UniversalObservable.notifyObservers, List.getElem?_append] at hc
    split_ifs at hc
    · exact Or.inl hc
    · rw [List.getElem?_singleton] at hc
      split_ifs at hc
      exact Or.inr ⟨by omega, (Option.some.inj hc).symm⟩
  refine ⟨h.nodup, ?_, ?_, ?_, ?_, ?_, ?_⟩
  · intro n c hc
    rcases hcases n c hc with hc | ⟨-, rfl⟩
    · exact h.distinct n c hc
    · exact h.nodup
  · intro n c hc
    rcases hcases n c hc with hc | ⟨-, rfl⟩
    · exact h.suffix n c hc
    · exact List.suffix_refl _
  · intro n c hc o
    rcases hcases n c hc with hc' | ⟨hn, rfl⟩
    · rw [← h.account n c hc' o, pending, pending, hc, hc']
      rfl
    · have hlater := h.later n (by omega) o
      rw [pending, hc]
      show (u.observers.map ObserverEntry.observer).count o + u.posted n o + u.ran n o +
        u.gone n o = (u.observers.map ObserverEntry.observer).count o
      omega
  · intro n hn o
    simp only [UniversalObservable.notifyObservers, List.length_append, List.length_singleton] at hn
    exact h.later n (by omega) o
  · intro t ht c hc
    rcases hcases _ c hc with hc | ⟨hn, rfl⟩
    · exact h.elsewhere t ht c hc
    · have hlater := h.later t.call (by omega) t.observer
      have hposted : 0 < u.posted t.call t.observer := posted_pos ht
      omega
  · intro n c hc
    rcases hcases n c hc with hc | ⟨hn, rfl⟩
    · exact h.order n c hc
    · have hruns : (u.notifyObservers thread).runs n = [] := by
        apply runs_eq_nil
        intro o
        have hlater := h.later n (by omega) o
        show u.ran n o = 0
        omega
      rw [hruns]
      exact List.Sublist.refl _

section Turn

variable {n : ℕ} {c : NotifyCall Observer Thread} {e : ObserverEntry Observer Thread}
  {rest : List (ObserverEntry Observer Thread)}

/-- What a turn does besides taking its entry from the call. -/
inductive TurnChange (n : ℕ) (thread : Thread) (e : ObserverEntry Observer Thread)
    (u u' : UniversalObservable Observer Thread) : Prop
  | gone (hgone : u.alive e.observer = false) (htasks : u'.tasks = u.tasks)
      (hdeliveries : u'.deliveries = u.deliveries ++ [.gone n e.observer])
  | ran (halive : e.pointer u.alive = some e.observer) (hthread : e.thread = thread)
      (htasks : u'.tasks = u.tasks)
      (hdeliveries : u'.deliveries = u.deliveries ++ [.ran n e.observer])
  | posted (halive : e.pointer u.alive = some e.observer) (hthread : e.thread ≠ thread)
      (htasks : u'.tasks = u.tasks ++ [⟨n, e.thread, e.observer⟩])
      (hdeliveries : u'.deliveries = u.deliveries)

theorem turn_change (n : ℕ) (thread : Thread) (e : ObserverEntry Observer Thread)
    (u : UniversalObservable Observer Thread) : TurnChange n thread e u (u.turn n thread e) := by
  unfold turn
  cases hpointer : e.pointer u.alive with
  | none => exact .gone (ObserverEntry.pointer_eq_none hpointer) rfl rfl
  | some obs =>
    have hobs := ObserverEntry.pointer_eq_some hpointer
    subst hobs
    by_cases hthread : e.thread = thread
    · simp only [if_pos hthread]
      exact .ran hpointer hthread rfl rfl
    · simp only [if_neg hthread]
      exact .posted hpointer hthread rfl rfl

theorem turn_calls (n : ℕ) (thread : Thread) (e : ObserverEntry Observer Thread)
    (u : UniversalObservable Observer Thread) :
    (u.turn n thread e).calls = u.calls.modify n fun c => { c with rest := c.rest.tail } := by
  unfold turn
  split
  · rfl
  · split_ifs
    · rfl
    · rfl

theorem turn_observers (n : ℕ) (thread : Thread) (e : ObserverEntry Observer Thread)
    (u : UniversalObservable Observer Thread) : (u.turn n thread e).observers = u.observers := by
  unfold turn
  split
  · rfl
  · split_ifs
    · rfl
    · rfl

omit [DecidableEq Thread] in
/-- One more entry of the call is settled. -/
theorem TurnChange.count {thread : Thread} (h : TurnChange n thread e u u') (m : ℕ) (o : Observer) :
    u'.posted m o + u'.ran m o + u'.gone m o =
      u.posted m o + u.ran m o + u.gone m o + if n = m ∧ e.observer = o then 1 else 0 := by
  cases h with
  | gone _ htasks hdeliveries =>
    simp only [UniversalObservable.posted, UniversalObservable.ran, UniversalObservable.gone,
      htasks, hdeliveries, List.count_append, List.count_singleton, beq_iff_eq,
      Delivery.gone.injEq, reduceCtorEq, if_false]
    omega
  | ran _ _ htasks hdeliveries =>
    simp only [UniversalObservable.posted, UniversalObservable.ran, UniversalObservable.gone,
      htasks, hdeliveries, List.count_append, List.count_singleton, beq_iff_eq,
      Delivery.ran.injEq, reduceCtorEq, if_false]
    omega
  | posted _ _ htasks hdeliveries =>
    simp only [UniversalObservable.posted, UniversalObservable.ran, UniversalObservable.gone,
      htasks, hdeliveries, List.countP_append, List.countP_singleton, decide_eq_true_eq]
    omega

omit [DecidableEq Thread] in
/-- The other calls have run what they had run. -/
theorem TurnChange.runs_other {thread : Thread} (h : TurnChange n thread e u u') {m : ℕ}
    (hm : m ≠ n) : u'.runs m = u.runs m := by
  cases h with
  | gone _ _ hdeliveries => exact runs_gone hdeliveries m
  | ran _ _ _ hdeliveries => rw [runs_ran hdeliveries, if_neg (Ne.symm hm), List.append_nil]
  | posted _ _ _ hdeliveries => exact runs_congr hdeliveries m

/-- What runs at once runs in the order of the registrations: the turn takes the next one of
them, or one that does not run at once. -/
theorem TurnChange.order (h : TurnChange n c.thread e u u') (hmem : e ∈ c.observers)
    (hold : ((u.runs n).filter (· ∈ c.direct) ++
      ((e :: rest).filter (·.thread = c.thread)).map ObserverEntry.observer).Sublist c.direct) :
    ((u'.runs n).filter (· ∈ c.direct) ++
      (rest.filter (·.thread = c.thread)).map ObserverEntry.observer).Sublist c.direct := by
  rw [List.filter_cons] at hold
  simp only [decide_eq_true_eq] at hold
  cases h with
  | gone _ _ hdeliveries =>
    rw [runs_gone hdeliveries]
    refine List.Sublist.trans ?_ hold
    apply List.Sublist.append_left
    apply List.Sublist.map
    split_ifs
    · exact List.sublist_cons_self _ _
    · exact List.Sublist.refl _
  | ran _ hthread _ hdeliveries =>
    rw [if_pos hthread, List.map_cons] at hold
    have hdirect : e.observer ∈ c.direct := NotifyCall.mem_direct hmem hthread
    rw [runs_ran hdeliveries, if_pos rfl, List.filter_append, List.append_assoc,
      List.filter_cons_of_pos (by simpa using hdirect), List.filter_nil, List.singleton_append]
    exact hold
  | posted _ hthread _ hdeliveries =>
    rw [if_neg hthread] at hold
    rw [runs_congr hdeliveries]
    exact hold

/-- A call of the list after a turn: the call itself without the entry, or another one. -/
theorem turn_call_cases (hcall : u.calls[n]? = some c) (hnext : c.rest = e :: rest) {m : ℕ}
    {c' : NotifyCall Observer Thread} (h : (u.turn n c.thread e).calls[m]? = some c') :
    m = n ∧ c' = { c with rest } ∨ m ≠ n ∧ u.calls[m]? = some c' := by
  rw [turn_calls, List.getElem?_modify] at h
  by_cases hm : n = m
  · subst hm
    rw [hcall, Option.map_eq_map, Option.map_some, if_pos rfl, Option.some.injEq] at h
    rw [hnext] at h
    exact Or.inl ⟨rfl, h.symm⟩
  · simp only [if_neg hm, id_map'] at h
    exact Or.inr ⟨Ne.symm hm, h⟩

/-- The task of an entry does not wait on a call that runs the entry at once. -/
theorem Inv.turn_elsewhere (h : u.Inv) (hcall : u.calls[n]? = some c) (hnext : c.rest = e :: rest)
    {t : NotifyTask Observer Thread} {c' : NotifyCall Observer Thread}
    (ht : t ∈ (u.turn n c.thread e).tasks) (hc' : (u.turn n c.thread e).calls[t.call]? = some c') :
    t.observer ∉ c'.direct := by
  have hmem : e ∈ c.observers := (h.suffix n c hcall).subset (by rw [hnext]; simp)
  have hold : t ∈ u.tasks → t.observer ∉ c'.direct := by
    intro ht
    rcases turn_call_cases hcall hnext hc' with ⟨hcalled, rfl⟩ | ⟨-, hc'⟩
    · rw [← hcalled] at hcall
      exact h.elsewhere t ht c hcall
    · exact h.elsewhere t ht c' hc'
  cases turn_change n c.thread e u with
  | gone _ htasks _ => exact hold (htasks ▸ ht)
  | ran _ _ htasks _ => exact hold (htasks ▸ ht)
  | posted _ hthread htasks _ =>
    rw [htasks] at ht
    rcases List.mem_append.mp ht with ht | ht
    · exact hold ht
    · rw [List.mem_singleton.mp ht] at hc' ⊢
      rcases turn_call_cases hcall hnext hc' with ⟨-, rfl⟩ | ⟨hne, -⟩
      · exact NotifyCall.not_mem_direct (h.distinct n c hcall) hmem hthread
      · exact absurd rfl hne

theorem Inv.turn (h : u.Inv) (hcall : u.calls[n]? = some c) (hnext : c.rest = e :: rest) :
    (u.turn n c.thread e).Inv := by
  have hchange := turn_change n c.thread e u
  have hmem : e ∈ c.observers := (h.suffix n c hcall).subset (by rw [hnext]; simp)
  have hn : n < u.calls.length := (List.getElem?_eq_some_iff.mp hcall).1
  constructor
  · rw [turn_observers]
    exact h.nodup
  · intro m c' hc'
    rcases turn_call_cases hcall hnext hc' with ⟨rfl, rfl⟩ | ⟨-, hc'⟩
    · exact h.distinct m c hcall
    · exact h.distinct m c' hc'
  · intro m c' hc'
    rcases turn_call_cases hcall hnext hc' with ⟨rfl, rfl⟩ | ⟨-, hc'⟩
    · apply (List.suffix_cons e rest).trans
      rw [← hnext]
      exact h.suffix m c hcall
    · exact h.suffix m c' hc'
  · intro m c' hc' o
    have hcount := hchange.count m o
    rcases turn_call_cases hcall hnext hc' with ⟨rfl, rfl⟩ | ⟨hm, hc⟩
    · have hold := h.account m c hcall o
      rw [pending, hcall, Option.elim_some, hnext, List.map_cons, List.count_cons] at hold
      rw [pending, hc', Option.elim_some]
      simp only [true_and, beq_iff_eq] at hcount hold ⊢
      omega
    · have hold := h.account m c' hc o
      rw [pending, hc, Option.elim_some] at hold
      rw [pending, hc', Option.elim_some]
      rw [if_neg fun hand => hm hand.1.symm] at hcount
      omega
  · intro m hm o
    have hcount := hchange.count m o
    rw [turn_calls, List.length_modify] at hm
    rw [if_neg fun hand => by omega] at hcount
    rw [hcount]
    exact h.later m hm o
  · exact fun t ht c' hc' => h.turn_elsewhere hcall hnext ht hc'
  · intro m c' hc'
    rcases turn_call_cases hcall hnext hc' with ⟨rfl, rfl⟩ | ⟨hm, hc'⟩
    · have hold := h.order m c hcall
      rw [hnext] at hold
      exact hchange.order hmem hold
    · rw [hchange.runs_other hm]
      exact h.order m c' hc'

end Turn

theorem Inv.finish (h : u.Inv) (n : ℕ) :
    (u.modifyCall n fun c => { c with returned := true }).Inv := by
  have hcases : ∀ (m : ℕ) c', (u.modifyCall n fun c => { c with returned := true }).calls[m]? =
      some c' → ∃ c, u.calls[m]? = some c ∧ (c' = c ∨ c' = { c with returned := true }) := by
    intro m c' hc'
    rw [modifyCall, List.getElem?_modify] at hc'
    obtain ⟨c, hc, he⟩ := Option.map_eq_some_iff.mp hc'
    refine ⟨c, hc, ?_⟩
    split_ifs at he
    · exact Or.inr he.symm
    · exact Or.inl he.symm
  constructor
  · exact h.nodup
  · intro m c' hc'
    obtain ⟨c, hc, rfl | rfl⟩ := hcases m c' hc'
    · exact h.distinct m _ hc
    · exact h.distinct m c hc
  · intro m c' hc'
    obtain ⟨c, hc, rfl | rfl⟩ := hcases m c' hc'
    · exact h.suffix m _ hc
    · exact h.suffix m c hc
  · intro m c' hc' o
    obtain ⟨c, hc, hcc'⟩ := hcases m c' hc'
    have hold := h.account m c hc o
    rw [pending, hc, Option.elim_some] at hold
    rw [pending, hc', Option.elim_some]
    rcases hcc' with rfl | rfl
    · exact hold
    · exact hold
  · intro m hm
    rw [modifyCall, List.length_modify] at hm
    exact h.later m hm
  · intro t ht c' hc'
    obtain ⟨c, hc, rfl | rfl⟩ := hcases _ c' hc'
    · exact h.elsewhere t ht _ hc
    · exact h.elsewhere t ht c hc
  · intro m c' hc'
    obtain ⟨c, hc, rfl | rfl⟩ := hcases m c' hc'
    · exact h.order m _ hc
    · exact h.order m c hc

section Task

variable {before after : List (NotifyTask Observer Thread)} {t : NotifyTask Observer Thread}

/-- What a task leaves. -/
inductive TaskChange (t : NotifyTask Observer Thread) (u u' : UniversalObservable Observer Thread) :
    Prop
  | ran (halive : u.alive t.observer)
      (hdeliveries : u'.deliveries = u.deliveries ++ [.ran t.call t.observer])
  | gone (hgone : u.alive t.observer = false)
      (hdeliveries : u'.deliveries = u.deliveries ++ [.gone t.call t.observer])

omit [DecidableEq Thread] in
theorem runTask_change (t : NotifyTask Observer Thread)
    (tasks : List (NotifyTask Observer Thread)) (u : UniversalObservable Observer Thread) :
    TaskChange t u (runTask t { u with tasks }) := by
  have halive : ({ u with tasks } : UniversalObservable Observer Thread).alive t.observer =
      u.alive t.observer := rfl
  unfold runTask
  split_ifs with h
  · exact .ran (halive ▸ h) rfl
  · exact .gone (Bool.eq_false_iff.mpr (halive ▸ h)) rfl

omit [DecidableEq Thread] in
theorem runTask_frame (t : NotifyTask Observer Thread) (u : UniversalObservable Observer Thread) :
    (runTask t u).observers = u.observers ∧ (runTask t u).calls = u.calls ∧
      (runTask t u).tasks = u.tasks := by
  unfold runTask
  split_ifs
  · exact ⟨rfl, rfl, rfl⟩
  · exact ⟨rfl, rfl, rfl⟩

omit [DecidableEq Thread] in
/-- A posted entry is settled by its task. -/
theorem TaskChange.count (h : TaskChange t u u') (hold : u.tasks = before ++ t :: after)
    (hnew : u'.tasks = before ++ after) (m : ℕ) (o : Observer) :
    u'.posted m o + u'.ran m o + u'.gone m o = u.posted m o + u.ran m o + u.gone m o := by
  have hposted : u.posted m o =
      u'.posted m o + if t.call = m ∧ t.observer = o then 1 else 0 := by
    simp only [posted, hold, hnew, List.countP_append, List.countP_cons, decide_eq_true_eq]
    omega
  cases h with
  | ran _ hdeliveries =>
    simp only [UniversalObservable.ran, UniversalObservable.gone, hdeliveries, List.count_append,
      List.count_singleton, beq_iff_eq, Delivery.ran.injEq, reduceCtorEq, if_false]
    omega
  | gone _ hdeliveries =>
    simp only [UniversalObservable.ran, UniversalObservable.gone, hdeliveries, List.count_append,
      List.count_singleton, beq_iff_eq, Delivery.gone.injEq, reduceCtorEq, if_false]
    omega

theorem Inv.task (h : u.Inv) (htasks : u.tasks = before ++ t :: after) :
    (runTask t { u with tasks := before ++ after }).Inv := by
  have hchange := runTask_change t (before ++ after) u
  obtain ⟨hobservers, hcalls, hrest⟩ := runTask_frame t { u with tasks := before ++ after }
  generalize runTask t { u with tasks := before ++ after } = u' at *
  have hcount := hchange.count htasks hrest
  have hmem : t ∈ u.tasks := by
    rw [htasks]
    simp
  constructor
  · rw [hobservers]
    exact h.nodup
  · rw [hcalls]
    exact h.distinct
  · rw [hcalls]
    exact h.suffix
  · intro m c hc o
    rw [hcalls] at hc
    have hold := h.account m c hc o
    have hpending : u'.pending m o = u.pending m o := by rw [pending, pending, hcalls]
    have hsame := hcount m o
    omega
  · intro m hm o
    rw [hcalls] at hm
    rw [hcount]
    exact h.later m hm o
  · intro t' ht' c hc
    rw [hcalls] at hc
    rw [hrest] at ht'
    apply h.elsewhere t' _ c hc
    rw [htasks]
    rcases List.mem_append.mp ht' with ht' | ht'
    · exact List.mem_append_left _ ht'
    · exact List.mem_append_right _ (List.mem_cons_of_mem _ ht')
  · intro m c hc
    rw [hcalls] at hc
    have hruns : (u'.runs m).filter (· ∈ c.direct) = (u.runs m).filter (· ∈ c.direct) := by
      cases hchange with
      | ran _ hdeliveries =>
        rw [runs_ran hdeliveries, List.filter_append]
        split_ifs with hm
        · subst hm
          rw [List.filter_cons_of_neg (by simpa using h.elsewhere t hmem c hc), List.filter_nil,
            List.append_nil]
        · exact List.append_nil _
      | gone _ hdeliveries => rw [runs_gone hdeliveries]
    rw [hruns]
    exact h.order m c hc

end Task

theorem Inv.step (h : u.Inv) (hstep : Step u u') : u'.Inv := by
  cases hstep with
  | make o hnew => exact h.frame h.nodup rfl rfl rfl
  | copy o halive => exact h.frame h.nodup rfl rfl rfl
  | release o => exact h.frame h.nodup rfl rfl rfl
  | addWeakObserver o thread hpointer =>
    unfold UniversalObservable.addWeakObserver
    split_ifs with hhas
    · exact h
    · exact h.frame (nodup_append h.nodup (alive_of_mem hpointer) hhas) rfl rfl rfl
  | addObserver o thread hpointer =>
    unfold UniversalObservable.addObserver
    split_ifs with hhas
    · exact h
    · exact h.frame (nodup_append h.nodup (alive_of_mem hpointer) hhas) rfl rfl rfl
  | removeObserver o hpointer =>
    exact h.frame (h.nodup.sublist ((List.eraseP_sublist).map _)) rfl rfl rfl
  | clearObserver => exact h.frame List.nodup_nil rfl rfl rfl
  | notifyObservers thread => exact h.notifyObservers thread
  | turn n c e rest hcall hrunning hnext => exact h.turn hcall hnext
  | finish n c hcall hend => exact h.finish n
  | task before after t htasks hfirst => exact h.task htasks

theorem Reachable.inv (h : Reachable u) : u.Inv := by
  induction h with
  | start => exact inv_start
  | step _ hstep ih => exact ih.step hstep

/-- The notifier runs with an observer that is alive, and an entry is passed over only when its
observer is not. -/
def Right (u : UniversalObservable Observer Thread) : Delivery Observer → Prop
  | .ran _ o => u.alive o
  | .gone _ o => u.alive o = false

omit [DecidableEq Thread] in
/-- A call keeps the observers of its copy alive. -/
theorem alive_of_pointer {n : ℕ} {c : NotifyCall Observer Thread}
    {e : ObserverEntry Observer Thread} (hcall : u.calls[n]? = some c)
    (hrunning : c.returned = false) (he : e ∈ c.observers)
    (hpointer : e.pointer u.alive = some e.observer) :
    u.alive e.observer := by
  cases e with
  | weakObject o thread =>
    simp only [ObserverEntry.pointer] at hpointer
    split_ifs at hpointer with halive
    exact halive
  | object o thread =>
    have hholds : (u.calls.any fun c => !c.returned && c.observers.any (·.holds o)) = true := by
      simp only [List.any_eq_true, Bool.and_eq_true, Bool.not_eq_true']
      exact ⟨c, List.mem_of_getElem? hcall, hrunning, _, he, decide_eq_true rfl⟩
    show u.alive o
    rw [alive, hholds, Bool.or_true]

theorem step_deliveries (h : u.Inv) (hstep : Step u u') :
    ∃ added, u'.deliveries = u.deliveries ++ added ∧ ∀ d ∈ added, u.Right d := by
  have hnone : u'.deliveries = u.deliveries → ∃ added, u'.deliveries = u.deliveries ++ added ∧
      ∀ d ∈ added, u.Right d := fun he => ⟨[], by rw [he, List.append_nil], by simp⟩
  have hone : ∀ d, u'.deliveries = u.deliveries ++ [d] → u.Right d →
      ∃ added, u'.deliveries = u.deliveries ++ added ∧ ∀ d ∈ added, u.Right d := by
    intro d he hd
    refine ⟨[d], he, ?_⟩
    intro d' hd'
    rwa [List.mem_singleton.mp hd']
  cases hstep with
  | addWeakObserver o thread hpointer => exact hnone (addWeakObserver_frame o thread u).2
  | addObserver o thread hpointer => exact hnone (addObserver_frame o thread u).2
  | turn n c e rest hcall hrunning hnext =>
    have hmem : e ∈ c.observers := (h.suffix n c hcall).subset (by rw [hnext]; simp)
    cases turn_change n c.thread e u with
    | gone hgone _ hdeliveries => exact hone _ hdeliveries hgone
    | ran halive _ _ hdeliveries =>
      exact hone _ hdeliveries (alive_of_pointer hcall hrunning hmem halive)
    | posted _ _ _ hdeliveries => exact hnone hdeliveries
  | task before after t htasks hfirst =>
    cases runTask_change t (before ++ after) u with
    | ran halive hdeliveries => exact hone _ hdeliveries halive
    | gone hgone hdeliveries => exact hone _ hdeliveries hgone
  | _ => exact hnone rfl

/-- The copy that a call made stays as it is. -/
theorem step_calls (hstep : Step u u') {n : ℕ} {c : NotifyCall Observer Thread}
    (hcall : u.calls[n]? = some c) :
    ∃ c', u'.calls[n]? = some c' ∧ c'.thread = c.thread ∧ c'.observers = c.observers := by
  have hsame : u'.calls = u.calls →
      ∃ c', u'.calls[n]? = some c' ∧ c'.thread = c.thread ∧ c'.observers = c.observers := by
    intro he
    rw [he]
    exact ⟨c, hcall, rfl, rfl⟩
  have hmodify : ∀ m f, u'.calls = u.calls.modify m f →
      (∀ c, (f c).thread = c.thread ∧ (f c).observers = c.observers) →
      ∃ c', u'.calls[n]? = some c' ∧ c'.thread = c.thread ∧ c'.observers = c.observers := by
    intro m f he hf
    rw [he, List.getElem?_modify, hcall]
    split_ifs
    · exact ⟨f c, rfl, hf c⟩
    · exact ⟨c, rfl, rfl, rfl⟩
  cases hstep with
  | addWeakObserver o thread hpointer => exact hsame (addWeakObserver_frame o thread u).1
  | addObserver o thread hpointer => exact hsame (addObserver_frame o thread u).1
  | notifyObservers thread =>
    have hlt : n < u.calls.length := (List.getElem?_eq_some_iff.mp hcall).1
    refine ⟨c, ?_, rfl, rfl⟩
    rw [UniversalObservable.notifyObservers, List.getElem?_append_left hlt]
    exact hcall
  | turn m c₁ e rest hcall₁ hrunning hnext =>
    exact hmodify m _ (turn_calls m c₁.thread e u) fun _ => ⟨rfl, rfl⟩
  | finish m c₁ hcall₁ hend => exact hmodify m _ rfl fun _ => ⟨rfl, rfl⟩
  | task before after t htasks hfirst => exact hsame (runTask_frame t _).2.1
  | _ => exact hsame rfl

/-- What is owed to the entries that a call found: the notifier runs once with each of their
observers, unless it is gone by then, and with no other; those of the calling thread get it in the
order of their entries. -/
structure Delivers (u : UniversalObservable Observer Thread) (n : ℕ)
    (c : NotifyCall Observer Thread) : Prop where
  once : ∀ e ∈ c.observers, u.pending n e.observer + u.posted n e.observer +
    u.ran n e.observer + u.gone n e.observer = 1
  only : ∀ o, o ∉ c.observers.map ObserverEntry.observer → u.ran n o = 0
  order : ((u.runs n).filter (· ∈ c.direct)).Sublist c.direct

theorem Inv.delivers (h : u.Inv) {n : ℕ} {c : NotifyCall Observer Thread}
    (hcall : u.calls[n]? = some c) : u.Delivers n c := by
  constructor
  · intro e he
    rw [h.account n c hcall e.observer]
    exact List.count_eq_one_of_mem (h.distinct n c hcall) (List.mem_map_of_mem he)
  · intro o ho
    have hcount := h.account n c hcall o
    rw [List.count_eq_zero_of_not_mem ho] at hcount
    omega
  · exact (List.sublist_append_left _ _).trans (h.order n c hcall)

/-- In every reachable state an observer has one entry at most, removing it leaves none and keeps
those of the others, and each call delivers what it owes to the entries that it found. -/
theorem observers_notified (h : Reachable u) :
    (∀ o, (u.entries o).length ≤ 1) ∧
    (∀ o ∈ u.pointers, (u.removeObserver o).hasObserver o = false ∧
      ∀ o', o' ≠ o → (u.removeObserver o).entries o' = u.entries o') ∧
    (∀ (n : ℕ) c, u.calls[n]? = some c → u.Delivers n c) ∧
    ∀ u', Step u u' →
      (∃ added, u'.deliveries = u.deliveries ++ added ∧ ∀ d ∈ added, u.Right d) ∧
      ∀ (n : ℕ) c, u.calls[n]? = some c →
        ∃ c', u'.calls[n]? = some c' ∧ c'.thread = c.thread ∧ c'.observers = c.observers := by
  refine ⟨length_entries_le_one h.inv.nodup, ?_, fun n c hcall => h.inv.delivers hcall, ?_⟩
  · intro o ho
    have halive := alive_of_mem ho
    exact ⟨removeObserver_hasObserver h.inv.nodup halive,
      fun o' hne => removeObserver_entries halive hne⟩
  · intro u' hstep
    exact ⟨step_deliveries h.inv hstep, fun n c hcall => step_calls hstep hcall⟩

/-- An observer added twice, and a call that finds its one entry. -/
def addedTwice : UniversalObservable ℕ ℕ :=
  UniversalObservable.notifyObservers 1
    (UniversalObservable.addObserver 0 2
      (UniversalObservable.addWeakObserver 0 1 { pointers := [0], made := [0] }))

theorem addedTwice_reachable : Reachable addedTwice := by
  have hmade : Reachable ({ pointers := [0], made := [0] } : UniversalObservable ℕ ℕ) :=
    .step .start (.make 0 (by simp))
  have hweak := hmade.step (.addWeakObserver 0 1 (by simp))
  have hstrong := hweak.step (.addObserver 0 2 (by decide))
  exact hstrong.step (.notifyObservers 1)

theorem addedTwice_notified : (addedTwice.entries 0).length ≤ 1 ∧
    addedTwice.calls[0]? = some ⟨1, [.weakObject 0 1], [.weakObject 0 1], false⟩ ∧
    addedTwice.Delivers 0 ⟨1, [.weakObject 0 1], [.weakObject 0 1], false⟩ := by
  have h := observers_notified addedTwice_reachable
  exact ⟨h.1 0, rfl, h.2.2.1 0 _ rfl⟩

end UniversalObservable
end MediasoupSdk
