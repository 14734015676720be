import Mathlib.Logic.Relation
import Mathlib.Tactic

/-! A loop whose body goes on with a state or ends with a result. It runs with fuel; that it ends
does not depend on how much. -/
namespace Foundation

variable {S R : Type*}

/-- Run the body until it ends, at most so many times. -/
def loop (body : S → S ⊕ R) : ℕ → S → Option R
  | 0, _ => none
  | fuel + 1, s =>
    match body s with
    | .inl s' => loop body fuel s'
    | .inr r => some r

/-- With fuel enough the loop ends with this result. -/
def Ends (body : S → S ⊕ R) (s : S) (r : R) : Prop := ∃ fuel, loop body fuel s = some r

/-- The body goes on once. -/
def Goes (body : S → S ⊕ R) (s s' : S) : Prop := body s = .inl s'

/-- The body goes on some times, maybe none. -/
abbrev Reaches (body : S → S ⊕ R) : S → S → Prop := Relation.ReflTransGen (Goes body)

variable {body : S → S ⊕ R} {s s' : S} {r r' : R} {fuel fuel' : ℕ}

theorem loop_succ_of_goes (h : Goes body s s') : loop body (fuel + 1) s = loop body fuel s' := by
  rw [Goes] at h
  rw [loop, h]

theorem loop_mono (h : loop body fuel s = some r) (hle : fuel ≤ fuel') :
    loop body fuel' s = some r := by
  induction fuel generalizing s fuel' with
  | zero => cases h
  | succ fuel ih =>
    obtain ⟨more, rfl⟩ := Nat.exists_eq_add_of_le' (Nat.one_le_of_lt hle)
    rw [loop] at h ⊢
    cases hb : body s with
    | inl s' =>
      rw [hb] at h
      exact ih h (by omega)
    | inr r =>
      rw [hb] at h
      exact h

/-- A loop has one result. -/
theorem Ends.unique (h : Ends body s r) (h' : Ends body s r') : r = r' := by
  obtain ⟨fuel, h⟩ := h
  obtain ⟨fuel', h'⟩ := h'
  have hmax := loop_mono h (le_max_left fuel fuel')
  rw [loop_mono h' (le_max_right fuel fuel'), Option.some.injEq] at hmax
  exact hmax.symm

theorem ends_of_done (h : body s = .inr r) : Ends body s r := ⟨1, by rw [loop, h]⟩

theorem Goes.ends_iff (h : Goes body s s') : Ends body s r ↔ Ends body s' r := by
  constructor
  · rintro ⟨fuel, hfuel⟩
    cases fuel with
    | zero => cases hfuel
    | succ fuel => exact ⟨fuel, loop_succ_of_goes h ▸ hfuel⟩
  · rintro ⟨fuel, hfuel⟩
    exact ⟨fuel + 1, (loop_succ_of_goes h).trans hfuel⟩

/-- Rounds that go on do not change the result. -/
theorem Reaches.ends_iff (h : Reaches body s s') : Ends body s r ↔ Ends body s' r := by
  induction h with
  | refl => rfl
  | tail _ hgoes ih => exact ih.trans hgoes.ends_iff

/-- What each round keeps holds at the end. -/
theorem loop_invariant {I : S → Prop} {Q : R → Prop}
    (hgoes : ∀ s s', I s → Goes body s s' → I s') (hdone : ∀ s r, I s → body s = .inr r → Q r)
    (hs : I s) (h : loop body fuel s = some r) : Q r := by
  induction fuel generalizing s with
  | zero => cases h
  | succ fuel ih =>
    rw [loop] at h
    cases hb : body s with
    | inl s' =>
      rw [hb] at h
      exact ih (hgoes s s' hs hb) h
    | inr r' =>
      rw [hb, Option.some.injEq] at h
      exact h ▸ hdone s r' hs hb

/-- Rounds that go on take fuel. -/
theorem loop_of_transGen (h : Relation.TransGen (Goes body) s s')
    (hfuel : loop body fuel s = some r) : ∃ less < fuel, loop body less s' = some r := by
  have hone {s s' : S} {fuel : ℕ} (hgoes : Goes body s s') (hfuel : loop body fuel s = some r) :
      ∃ less < fuel, loop body less s' = some r := by
    cases fuel with
    | zero => cases hfuel
    | succ fuel => exact ⟨fuel, Nat.lt_succ_self fuel, loop_succ_of_goes hgoes ▸ hfuel⟩
  induction h with
  | single hgoes => exact hone hgoes hfuel
  | tail _ hgoes ih =>
    obtain ⟨less, hless, hloop⟩ := ih
    obtain ⟨less', hless', hloop'⟩ := hone hgoes hloop
    exact ⟨less', hless'.trans hless, hloop'⟩

/-- A loop that can always go on to a state of some kind never ends. -/
theorem loop_eq_none_of_progress {I : S → Prop}
    (hgoes : ∀ s, I s → ∃ s', Relation.TransGen (Goes body) s s' ∧ I s') (hs : I s) (fuel : ℕ) :
    loop body fuel s = none := by
  induction fuel using Nat.strong_induction_on generalizing s with
  | h fuel ih =>
    by_contra hsome
    obtain ⟨r, hr⟩ := Option.ne_none_iff_exists'.mp hsome
    obtain ⟨s', hs', hI⟩ := hgoes s hs
    obtain ⟨less, hless, hloop⟩ := loop_of_transGen hs' hr
    rw [ih less hless hI] at hloop
    cases hloop

end Foundation
