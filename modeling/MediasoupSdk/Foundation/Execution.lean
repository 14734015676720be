import Mathlib.Data.List.Basic
import Mathlib.Tactic

/-! Executions of a step function that may stop with a fault. A guard restricts the
actions of a run by the state they are taken in. -/
namespace Foundation

variable {σ α ε : Type*}

/-- Run the actions in order; a fault ends the run. -/
def exec (step : σ → α → Except ε σ) : σ → List α → Except ε σ
  | s, [] => .ok s
  | s, a :: as =>
    match step s a with
    | .ok s' => exec step s' as
    | .error e => .error e

/-- Each action of the run meets `ok` in the state it is taken in. -/
def Guarded (step : σ → α → Except ε σ) (ok : σ → α → Prop) : σ → List α → Prop
  | _, [] => True
  | s, a :: as => ok s a ∧ ∀ s', step s a = .ok s' → Guarded step ok s' as

variable {step : σ → α → Except ε σ} {ok : σ → α → Prop}

@[simp] theorem exec_nil (s : σ) : exec step s [] = .ok s := rfl

theorem exec_cons_ok {s t : σ} {a : α} {as : List α} :
    exec step s (a :: as) = .ok t ↔ ∃ s', step s a = .ok s' ∧ exec step s' as = .ok t := by
  simp only [exec]
  cases h : step s a with
  | ok s' => simp
  | error e => simp

theorem exec_append_ok {s t : σ} {as bs : List α} :
    exec step s (as ++ bs) = .ok t ↔
      ∃ m, exec step s as = .ok m ∧ exec step m bs = .ok t := by
  induction as generalizing s with
  | nil => simp
  | cons a as ih =>
    simp only [List.cons_append, exec_cons_ok, ih]
    constructor
    · rintro ⟨s', hs, m, hm, ht⟩
      exact ⟨m, ⟨s', hs, hm⟩, ht⟩
    · rintro ⟨m, ⟨s', hs, hm⟩, ht⟩
      exact ⟨s', hs, m, hm, ht⟩

/-- A fault in the second part of a run. -/
theorem exec_append_error {s m : σ} {as bs : List α} {e : ε} (h : exec step s as = .ok m)
    (he : exec step m bs = .error e) : exec step s (as ++ bs) = .error e := by
  induction as generalizing s with
  | nil =>
    cases h
    exact he
  | cons a as ih =>
    obtain ⟨s', hs, hm⟩ := exec_cons_ok.mp h
    rw [List.cons_append, exec, hs]
    exact ih hm

/-- A step function that never faults runs to the end. -/
theorem exec_total (h : ∀ s a, ∃ s', step s a = .ok s') (s : σ) (as : List α) :
    ∃ t, exec step s as = .ok t := by
  induction as generalizing s with
  | nil => exact ⟨s, rfl⟩
  | cons a as ih =>
    obtain ⟨s', hs⟩ := h s a
    obtain ⟨t, ht⟩ := ih s'
    exact ⟨t, exec_cons_ok.mpr ⟨s', hs, ht⟩⟩

/-- A run that can be observed has come to its end. -/
theorem exec_of_observed {β : Type*} {observe : σ → β} {x : β} {s : σ} {as : List α}
    (h : (exec step s as).toOption.map observe = some x) :
    ∃ t, exec step s as = .ok t ∧ observe t = x := by
  cases ht : exec step s as with
  | ok t =>
    rw [ht] at h
    exact ⟨t, rfl, Option.some.inj h⟩
  | error e =>
    rw [ht] at h
    cases h

@[simp] theorem guarded_nil (s : σ) : Guarded step ok s [] := trivial

instance Guarded.instDecidable [∀ s a, Decidable (ok s a)] :
    ∀ s as, Decidable (Guarded step ok s as)
  | _, [] => isTrue trivial
  | s, a :: as =>
    match hs : step s a with
    | .error _ => decidable_of_iff (ok s a) (by simp [Guarded, hs])
    | .ok s' =>
      have := Guarded.instDecidable s' as
      decidable_of_iff (ok s a ∧ Guarded step ok s' as) (by simp [Guarded, hs])

/-- Induction over a guarded run: what one guarded step preserves, the run preserves. -/
theorem exec_invariant {I : σ → Prop}
    (hstep : ∀ s a s', I s → ok s a → step s a = .ok s' → I s') {as : List α} :
    ∀ {s t : σ}, Guarded step ok s as → I s → exec step s as = .ok t → I t := by
  induction as with
  | nil =>
    intro s t _ hI h
    cases h
    exact hI
  | cons a as ih =>
    intro s t hg hI h
    obtain ⟨s', hs, ht⟩ := exec_cons_ok.mp h
    exact ih (hg.2 s' hs) (hstep s a s' hI hg.1 hs) ht

/-- A guarded step that keeps the invariant may also fault; then the fault is a harmless one. -/
theorem exec_invariant_or {I : σ → Prop} {harmless : ε → Prop}
    (hstep : ∀ s a, I s → ok s a →
      (∃ s', step s a = .ok s' ∧ I s') ∨ ∃ e, step s a = .error e ∧ harmless e)
    {as : List α} : ∀ {s : σ}, Guarded step ok s as → I s →
      (∃ t, exec step s as = .ok t ∧ I t) ∨ ∃ e, exec step s as = .error e ∧ harmless e := by
  induction as with
  | nil => exact fun {s} _ hI => Or.inl ⟨s, rfl, hI⟩
  | cons a as ih =>
    intro s hg hI
    rw [exec]
    rcases hstep s a hI hg.1 with ⟨s', hs, hI'⟩ | ⟨e, he, hharmless⟩
    · rw [hs]
      exact ih (hg.2 s' hs) hI'
    · rw [he]
      exact Or.inr ⟨e, rfl, hharmless⟩

theorem guarded_append {s : σ} {as bs : List α} :
    Guarded step ok s (as ++ bs) ↔
      Guarded step ok s as ∧ ∀ m, exec step s as = .ok m → Guarded step ok m bs := by
  induction as generalizing s with
  | nil => simp
  | cons a as ih =>
    simp only [List.cons_append, Guarded, ih, exec_cons_ok]
    constructor
    · rintro ⟨ha, h⟩
      refine ⟨⟨ha, fun s' hs => (h s' hs).1⟩, ?_⟩
      rintro m ⟨s', hs, hm⟩
      exact (h s' hs).2 m hm
    · rintro ⟨⟨ha, h⟩, hb⟩
      exact ⟨ha, fun s' hs => ⟨h s' hs, fun m hm => hb m ⟨s', hs, hm⟩⟩⟩

/-- A guard speaks about every step that a prefix of the run leads to. -/
theorem guarded_iff_forall_prefix {as : List α} {s : σ} :
    Guarded step ok s as ↔ ∀ pre a, pre ++ [a] <+: as → ∀ t, exec step s pre = .ok t → ok t a := by
  induction as generalizing s with
  | nil =>
    refine iff_of_true trivial fun pre a hpre => ?_
    have hnil := List.prefix_nil.mp hpre
    simp at hnil
  | cons b as ih =>
    constructor
    · rintro ⟨hb, hrest⟩ pre a hpre t ht
      cases pre with
      | nil =>
        obtain ⟨rfl, -⟩ := List.cons_prefix_cons.mp hpre
        cases ht
        exact hb
      | cons c pre =>
        obtain ⟨rfl, hpre'⟩ := List.cons_prefix_cons.mp hpre
        obtain ⟨s', hs', ht'⟩ := exec_cons_ok.mp ht
        exact ih.mp (hrest s' hs') pre a hpre' t ht'
    · intro h
      refine ⟨h [] b ⟨as, rfl⟩ s rfl, fun s' hs' => ih.mpr fun pre a hpre t ht => ?_⟩
      have hpre' : b :: pre ++ [a] <+: b :: as := List.cons_prefix_cons.mpr ⟨rfl, hpre⟩
      exact h (b :: pre) a hpre' t (exec_cons_ok.mpr ⟨s', hs', ht⟩)

theorem Guarded.mono {ok' : σ → α → Prop} (h : ∀ s a, ok s a → ok' s a) {as : List α} :
    ∀ {s : σ}, Guarded step ok s as → Guarded step ok' s as := by
  induction as with
  | nil => intro s _; trivial
  | cons a as ih => exact fun hg => ⟨h _ _ hg.1, fun s' hs => ih (hg.2 s' hs)⟩

/-- Two guards that agree under an invariant of the guarded steps restrict runs alike. -/
theorem guarded_congr {ok' : σ → α → Prop} {I : σ → Prop} {as : List α}
    (hkeep : ∀ s s', ∀ a ∈ as, I s → ok s a → step s a = .ok s' → I s')
    (hiff : ∀ s, ∀ a ∈ as, I s → (ok s a ↔ ok' s a)) :
    ∀ {s : σ}, I s → (Guarded step ok s as ↔ Guarded step ok' s as) := by
  induction as with
  | nil => exact fun _ => Iff.rfl
  | cons a as ih =>
    intro s hI
    have ih' := fun s' hI' => ih (fun s s' b hb => hkeep s s' b (List.mem_cons_of_mem a hb))
      (fun s b hb => hiff s b (List.mem_cons_of_mem a hb)) (s := s') hI'
    have hhead := hiff s a List.mem_cons_self hI
    constructor
    · rintro ⟨ha, h⟩
      refine ⟨hhead.mp ha, fun s' hs => (ih' s' ?_).mp (h s' hs)⟩
      exact hkeep s s' a List.mem_cons_self hI ha hs
    · rintro ⟨ha, h⟩
      have hok := hhead.mpr ha
      refine ⟨hok, fun s' hs => (ih' s' ?_).mpr (h s' hs)⟩
      exact hkeep s s' a List.mem_cons_self hI hok hs

/-- When a step that breaks the guard ends badly at once, the prefixes of a run all end well exactly
if its steps meet the guard. `Good` judges a fault too, and `A` holds of the actions. -/
theorem forall_prefix_good_iff_guarded {I : σ → Prop} {A : α → Prop}
    {Good : Except ε σ → Prop} (hI : ∀ s, I s → Good (.ok s))
    (hkeep : ∀ s a, I s → A a → ok s a →
      (∃ s', step s a = .ok s' ∧ I s') ∨ ∃ e, step s a = .error e ∧ Good (.error e))
    (hbreak : ∀ s a, I s → A a → ¬ ok s a → ¬ Good (step s a)) {as : List α}
    (hA : ∀ a ∈ as, A a) :
    ∀ {s : σ}, I s → ((∀ pre, pre <+: as → Good (exec step s pre)) ↔ Guarded step ok s as) := by
  induction as with
  | nil =>
    intro s hs
    refine iff_of_true (fun pre hpre => ?_) trivial
    rw [List.prefix_nil.mp hpre]
    exact hI s hs
  | cons a as ih =>
    intro s hs
    have hAa := hA a List.mem_cons_self
    have ih' {s' : σ} := @ih (fun b hb => hA b (List.mem_cons_of_mem a hb)) s'
    have hone : exec step s [a] = step s a := by
      rw [exec]
      cases step s a <;> rfl
    have hnext {s' : σ} (hok : ok s a) (hs' : step s a = .ok s') : I s' := by
      rcases hkeep s a hs hAa hok with ⟨t, ht, hIt⟩ | ⟨e, he, -⟩
      · rw [hs', Except.ok.injEq] at ht
        exact ht ▸ hIt
      · rw [hs'] at he
        cases he
    constructor
    · intro h
      have hok : ok s a := by
        by_contra hn
        exact hbreak s a hs hAa hn (hone ▸ h [a] ⟨as, rfl⟩)
      refine ⟨hok, fun s' hs' => (ih' (hnext hok hs')).mp fun pre hpre => ?_⟩
      have hrun := h (a :: pre) (List.cons_prefix_cons.mpr ⟨rfl, hpre⟩)
      rw [exec, hs'] at hrun
      exact hrun
    · rintro ⟨hok, hrest⟩ pre hpre
      cases pre with
      | nil => exact hI s hs
      | cons b pre =>
        obtain ⟨rfl, htail⟩ := List.cons_prefix_cons.mp hpre
        rw [exec]
        rcases hkeep s b hs hAa hok with ⟨s', hs', hIs'⟩ | ⟨e, he, hgood⟩
        · rw [hs']
          exact (ih' hIs').mpr (hrest s' hs') pre htail
        · rw [he]
          exact hgood

/-- When a step that breaks the guard completes and breaks `P` at once, a run stays in `P`
exactly if all its steps meet the guard. -/
theorem forall_prefix_iff_guarded {I P : σ → Prop} (hP : ∀ s, I s → P s)
    (hkeep : ∀ s a s', I s → ok s a → step s a = .ok s' → I s')
    (hbreak : ∀ s a, I s → ¬ ok s a → ∃ s', step s a = .ok s' ∧ ¬ P s') {as : List α} {s : σ}
    (hI : I s) :
    (∀ pre t, pre <+: as → exec step s pre = .ok t → P t) ↔ Guarded step ok s as := by
  have h := @forall_prefix_good_iff_guarded σ α ε step ok I (fun _ => True)
    (fun x => ∀ t, x = .ok t → P t) (fun s hs t ht => by cases ht; exact hP s hs)
    (fun s a hs _ hok => by
      cases hs' : step s a with
      | ok s' => exact Or.inl ⟨s', rfl, hkeep s a s' hs hok hs'⟩
      | error e => exact Or.inr ⟨e, rfl, fun t ht => by cases ht⟩)
    (fun s a hs _ hn hgood => by
      obtain ⟨s', hs', hnP⟩ := hbreak s a hs hn
      exact hnP (hgood s' hs'))
    as (fun _ _ => trivial) s hI
  rw [← h]
  exact ⟨fun h pre hpre t => h pre t hpre, fun h pre t hpre => h pre hpre t⟩

end Foundation
