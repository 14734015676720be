import MediasoupSdk.Foundation.Fault

/-! A mutex that is not recursive, as one thread sees it. What runs inside the critical section may
come back to the mutex. -/
namespace Foundation

/-- A value with the mutex that guards it; `held` says that this thread holds it. -/
structure Mutexed (σ : Type*) where
  value : σ
  held : Bool := false

namespace Mutexed

variable {σ ε : Type*}

/-- A `lock_guard` around `body`: acquiring the mutex again is the error `relocked`, and an error
of the body is passed on. -/
def withLock (relocked : ε) (body : Mutexed σ → Except ε (Mutexed σ)) (s : Mutexed σ) :
    Except ε (Mutexed σ) :=
  if s.held then .error relocked
  else
    match body { s with held := true } with
    | .ok s' => .ok { s' with held := false }
    | .error e => .error e

/-- A critical section that only changes the value. -/
def locked (relocked : ε) (f : σ → Except ε σ) : Mutexed σ → Except ε (Mutexed σ) :=
  withLock relocked fun s => (f s.value).map fun value => { s with value }

theorem withLock_of_held {relocked : ε} {body : Mutexed σ → Except ε (Mutexed σ)} {s : Mutexed σ}
    (h : s.held = true) : s.withLock relocked body = .error relocked :=
  if_pos h

/-- A critical section completes exactly when the mutex is free and its body completes. -/
theorem withLock_ok {relocked : ε} {body : Mutexed σ → Except ε (Mutexed σ)} {s t : Mutexed σ} :
    s.withLock relocked body = .ok t ↔ s.held = false ∧
      ∃ s', body { s with held := true } = .ok s' ∧ t = { s' with held := false } := by
  rw [withLock]
  cases hheld : s.held with
  | true => simp
  | false =>
    cases hbody : body { s with held := true } with
    | ok s' => simp [eq_comm]
    | error e => simp

theorem withLock_error {relocked e : ε} {body : Mutexed σ → Except ε (Mutexed σ)} {s : Mutexed σ}
    (h : s.held = false) (hbody : body { s with held := true } = .error e) :
    s.withLock relocked body = .error e := by
  simp only [withLock, h, hbody, Bool.false_eq_true, if_false]

theorem locked_of_held {relocked : ε} {f : σ → Except ε σ} {s : Mutexed σ}
    (h : s.held = true) : locked relocked f s = .error relocked :=
  withLock_of_held h

end Mutexed
end Foundation
