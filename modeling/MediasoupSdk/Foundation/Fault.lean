import Mathlib.Tactic

/-! Computations that stop where a C++ program has no defined behaviour. `π` names the
pointers of the program. -/
namespace Foundation

inductive Fault (π : Type*) where
  | nullPointer (p : π)
  | disengaged
  | uncaught
  deriving DecidableEq, Repr

universe u

variable {π : Type*} {α β : Type u}

/-- Dereference of a pointer that may be null. -/
def deref (p : π) : Option α → Except (Fault π) α
  | some a => .ok a
  | none => .error (.nullPointer p)

/-- `operator->`, `operator*` or `value()` of an optional. -/
def engaged : Option α → Except (Fault π) α
  | some a => .ok a
  | none => .error .disengaged

/-- A call that may throw out of a task. -/
def mayThrow : Option α → Except (Fault π) α
  | some a => .ok a
  | none => .error .uncaught

@[simp] theorem deref_some (p : π) (a : α) : deref p (some a) = .ok a := rfl

@[simp] theorem deref_none (p : π) :
    deref p (none : Option α) = .error (.nullPointer p) := rfl

theorem deref_eq_ok {p : π} {x : Option α} {a : α} : deref p x = .ok a ↔ x = some a := by
  cases x <;> simp

theorem engaged_eq_ok {x : Option α} {a : α} :
    (engaged x : Except (Fault π) α) = .ok a ↔ x = some a := by
  cases x <;> simp [engaged]

@[simp] theorem engaged_some (a : α) : (engaged (some a) : Except (Fault π) α) = .ok a := rfl

@[simp] theorem engaged_none :
    (engaged (none : Option α) : Except (Fault π) α) = .error .disengaged := rfl

@[simp] theorem mayThrow_some (a : α) : (mayThrow (some a) : Except (Fault π) α) = .ok a := rfl

@[simp] theorem mayThrow_none :
    (mayThrow (none : Option α) : Except (Fault π) α) = .error .uncaught := rfl

theorem bind_ok {ε : Type*} {x : Except ε α} {f : α → Except ε β} {b : β} :
    (x >>= f) = .ok b ↔ ∃ a, x = .ok a ∧ f a = .ok b := by
  cases x with
  | ok a => simp [bind, Except.bind]
  | error e => simp [bind, Except.bind]

theorem bind_error {ε : Type*} {x : Except ε α} {f : α → Except ε β} {e : ε} :
    (x >>= f) = .error e ↔ x = .error e ∨ ∃ a, x = .ok a ∧ f a = .error e := by
  cases x with
  | ok a => simp [bind, Except.bind]
  | error e => simp [bind, Except.bind]

theorem map_ok {ε : Type*} {x : Except ε α} {f : α → β} {b : β} :
    x.map f = .ok b ↔ ∃ a, x = .ok a ∧ f a = b := by
  cases x with
  | ok a => simp [Except.map]
  | error e => simp [Except.map]

/-- What each round of a loop keeps holds after the loop. -/
theorem foldlM_keeps {ε : Type*} {P : β → Prop} {g : β → α → Except ε β} {l : List α}
    (h : ∀ b, P b → ∀ a ∈ l, ∀ b', g b a = .ok b' → P b') {b b' : β} (hb : P b)
    (hf : l.foldlM g b = .ok b') : P b' := by
  induction l generalizing b with
  | nil =>
    cases hf
    exact hb
  | cons a l ih =>
    simp only [List.foldlM_cons, bind_ok] at hf
    obtain ⟨b₁, hb₁, hf⟩ := hf
    apply ih (fun b hb a ha => h b hb a (List.mem_cons_of_mem _ ha)) _ hf
    exact h b hb a List.mem_cons_self b₁ hb₁

/-- A loop that collects its results has one result for each item. -/
theorem mapM_ok {ε : Type*} {f : α → Except ε β} {l : List α} {bs : List β} :
    l.mapM f = .ok bs ↔ List.Forall₂ (fun a b => f a = .ok b) l bs := by
  induction l generalizing bs with
  | nil => simp [pure, Except.pure, eq_comm]
  | cons a l ih =>
    simp only [List.mapM_cons, bind_ok, pure, Except.pure, Except.ok.injEq,
      List.forall₂_cons_left_iff, ih]
    constructor
    · rintro ⟨b, hb, rest, hrest, rfl⟩
      exact ⟨b, rest, hb, hrest, rfl⟩
    · rintro ⟨b, rest, hb, hrest, rfl⟩
      exact ⟨b, hb, rest, hrest, rfl⟩

theorem mapM_error {ε : Type*} {f : α → Except ε β} {l : List α} {e : ε}
    (h : l.mapM f = .error e) : ∃ a ∈ l, f a = .error e := by
  induction l with
  | nil => cases h
  | cons a l ih =>
    simp only [List.mapM_cons, bind_error, pure, Except.pure, reduceCtorEq, and_false,
      exists_false, or_false] at h
    rcases h with h | ⟨b, -, h⟩
    · exact ⟨a, List.mem_cons_self, h⟩
    · obtain ⟨a', ha', he⟩ := ih h
      exact ⟨a', List.mem_cons_of_mem a ha', he⟩

theorem toOption_eq_some {ε : Type*} {x : Except ε α} {a : α} :
    x.toOption = some a ↔ x = .ok a := by
  cases x with
  | ok b => simp [Except.toOption]
  | error e => simp [Except.toOption]

/-- A computation that begins with an optional is cut in two where the rest is. -/
theorem engaged_bind_bind {γ : Type u} {x : Option α} {f : α → Except (Fault π) β}
    {g : α → Except (Fault π) γ} {k : γ → Except (Fault π) β}
    (h : ∀ a, x = some a → f a = g a >>= k) :
    (engaged x >>= f) = (engaged x >>= g) >>= k := by
  cases x with
  | none => rfl
  | some a => exact h a rfl

section Fails

variable {x : Option α} {f : α → Except (Fault π) β} {bad : Fault π → Prop}

/-- A computation that begins with an optional fails if it does so with every value. -/
theorem engaged_bind_fails (hbad : bad .disengaged)
    (h : ∀ a, x = some a → ∃ e, f a = .error e ∧ bad e) :
    ∃ e, (engaged x >>= f) = .error e ∧ bad e := by
  cases x with
  | none => exact ⟨.disengaged, rfl, hbad⟩
  | some a => exact h a rfl

theorem mayThrow_bind_fails (hbad : bad .uncaught)
    (h : ∀ a, x = some a → ∃ e, f a = .error e ∧ bad e) :
    ∃ e, (mayThrow x >>= f) = .error e ∧ bad e := by
  cases x with
  | none => exact ⟨.uncaught, rfl, hbad⟩
  | some a => exact h a rfl

end Fails

section Disengaged

variable {x : Option α} {f : α → Except (Fault π) β}

/-- The value decides whether the rest reads an absent optional. -/
theorem engaged_bind_disengaged :
    (engaged x >>= f) = .error .disengaged ↔ ∀ a, x = some a → f a = .error .disengaged := by
  cases x with
  | none => simp [bind, Except.bind]
  | some a => simp [bind, Except.bind]

variable {P : Prop}

/-- The rest does not depend on the value. -/
theorem engaged_bind_iff (h : ∀ a, x = some a → (f a = .error .disengaged ↔ P)) :
    (engaged x >>= f) = .error .disengaged ↔ x = none ∨ P := by
  cases x with
  | none => simp [bind, Except.bind]
  | some a => simpa [bind, Except.bind] using h a rfl

theorem deref_bind_iff {p : π} (h : ∀ a, x = some a → (f a = .error .disengaged ↔ P)) :
    (deref p x >>= f) = .error .disengaged ↔ x.isSome ∧ P := by
  cases x with
  | none => simp [bind, Except.bind]
  | some a => simpa [bind, Except.bind] using h a rfl

theorem mayThrow_bind_iff (h : ∀ a, x = some a → (f a = .error .disengaged ↔ P)) :
    (mayThrow x >>= f) = .error .disengaged ↔ x.isSome ∧ P := by
  cases x with
  | none => simp [bind, Except.bind]
  | some a => simpa [bind, Except.bind] using h a rfl

end Disengaged

/-- The computation does not end with a fault of the given kind. -/
def Avoids {ε : Type*} (bad : ε → Prop) (x : Except ε α) : Prop := ∀ e, x = .error e → ¬ bad e

section Avoids

variable {ε : Type*} {bad : ε → Prop} {x : Except ε α} {f : α → Except ε β}

@[simp] theorem avoids_ok (a : α) : Avoids bad (.ok a) := nofun

@[simp] theorem avoids_pure (a : α) : Avoids bad (pure a) := nofun

@[simp] theorem avoids_error {e : ε} : Avoids bad (.error e : Except ε α) ↔ ¬ bad e := by
  constructor
  · intro h
    exact h e rfl
  · rintro h e' ⟨⟩
    exact h

theorem Avoids.bind (hx : Avoids bad x) (hf : ∀ a, x = .ok a → Avoids bad (f a)) :
    Avoids bad (x >>= f) := by
  intro e he
  rcases bind_error.mp he with h | ⟨a, ha, h⟩
  · exact hx e h
  · exact hf a ha e h

theorem Avoids.map {g : α → β} (hx : Avoids bad x) : Avoids bad (x.map g) := by
  cases x with
  | ok a => exact avoids_ok _
  | error e => exact avoids_error.mpr (avoids_error.mp hx)

theorem avoids_foldlM {g : β → α → Except ε β} (hg : ∀ b a, Avoids bad (g b a)) (l : List α) :
    ∀ b, Avoids bad (l.foldlM g b) := by
  induction l with
  | nil => exact fun b => avoids_pure b
  | cons a l ih => exact fun b => (hg b a).bind fun b' _ => ih b'

theorem avoids_forM {g : α → Except ε PUnit} (hg : ∀ a, Avoids bad (g a)) (l : List α) :
    Avoids bad (l.forM g) := by
  induction l with
  | nil => exact avoids_pure _
  | cons a l ih => exact (hg a).bind fun _ _ => ih

end Avoids

def Fault.IsDisengaged : Fault π → Prop
  | .disengaged => True
  | _ => False

/-- A null pointer was followed. -/
def Fault.IsNull : Fault π → Prop
  | .nullPointer _ => True
  | _ => False

theorem Avoids.ne_disengaged {x : Except (Fault π) α} (h : Avoids Fault.IsDisengaged x) :
    x ≠ .error .disengaged :=
  fun he => h _ he trivial

/-- A continuation that reads no absent optional adds nothing to the cases in which one is
read. -/
theorem bind_disengaged {x : Except (Fault π) α} {f : α → Except (Fault π) β}
    (hf : ∀ a, Avoids Fault.IsDisengaged (f a)) :
    (x >>= f) = .error .disengaged ↔ x = .error .disengaged := by
  rw [bind_error]
  constructor
  · rintro (h | ⟨a, -, h⟩)
    · exact h
    · exact absurd h (hf a).ne_disengaged
  · exact Or.inl

/-- So does a computation whose first act is to read the optional. -/
theorem engaged_bind_eq_none {x : Option α} {f : α → Except (Fault π) β}
    (hf : ∀ a, Avoids Fault.IsDisengaged (f a)) :
    (engaged x >>= f) = .error .disengaged ↔ x = none := by
  rw [bind_disengaged hf]
  cases x with
  | none => simp
  | some a => simp

variable {bad : Fault π → Prop}

theorem avoids_deref {p : π} {x : Option α} (hp : x = none → ¬ bad (.nullPointer p)) :
    Avoids bad (deref p x) := by
  cases x with
  | none => exact avoids_error.mpr (hp rfl)
  | some a => exact avoids_ok a

theorem avoids_engaged (hd : ¬ bad .disengaged) (x : Option α) : Avoids bad (engaged x) := by
  cases x with
  | none => exact avoids_error.mpr hd
  | some a => exact avoids_ok a

theorem avoids_mayThrow (hu : ¬ bad .uncaught) (x : Option α) : Avoids bad (mayThrow x) := by
  cases x with
  | none => exact avoids_error.mpr hu
  | some a => exact avoids_ok a

end Foundation
