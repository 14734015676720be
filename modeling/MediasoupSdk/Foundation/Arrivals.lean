import Mathlib.Tactic

/-! Messages that are numbered by their arrival and handled by tasks of several queues. The
effects come in arrival order as long as each of them waits for the work of earlier messages. -/
namespace Foundation

/-- Where the messages are: how many have arrived, which still have a task queued, and the
effects so far. -/
structure Arrivals where
  arrived : ℕ
  pending : List ℕ
  applied : List ℕ

namespace Arrivals

variable {v v' : Arrivals} {effects : List ℕ}

/-- The effects are in arrival order and no queued task belongs to an earlier message. -/
structure Ordered (v : Arrivals) : Prop where
  sorted : v.applied.Pairwise (· ≤ ·)
  settled : ∀ m ∈ v.applied, ∀ p ∈ v.pending, m ≤ p
  applied_lt : ∀ m ∈ v.applied, m < v.arrived
  pending_lt : ∀ p ∈ v.pending, p < v.arrived

/-- One step has effects of messages with a queued task; it may queue tasks for such messages
and for new ones. -/
structure Step (v v' : Arrivals) (effects : List ℕ) : Prop where
  applied : v'.applied = v.applied ++ effects
  arrived : v.arrived ≤ v'.arrived
  pending : ∀ p ∈ v'.pending, p ∈ v.pending ∨ v.arrived ≤ p ∧ p < v'.arrived
  effects : ∀ n ∈ effects, n ∈ v.pending

theorem ordered_nil (arrived : ℕ) : Ordered ⟨arrived, [], []⟩ :=
  ⟨List.Pairwise.nil, nofun, nofun, nofun⟩

theorem Ordered.step (h : v.Ordered) (hs : Step v v' effects)
    (hturn : ∀ n ∈ effects, ∀ p ∈ v.pending, n ≤ p) : v'.Ordered := by
  have hsorted : effects.Pairwise (· ≤ ·) := by
    refine List.pairwise_of_forall_mem_list fun n hn m hm => ?_
    exact hturn n hn m (hs.effects m hm)
  have hold : ∀ m ∈ v'.applied, m ∈ v.applied ∨ m ∈ effects := by
    intro m hm
    rw [hs.applied] at hm
    exact List.mem_append.mp hm
  have hlt : ∀ m ∈ v'.applied, m < v.arrived := by
    intro m hm
    rcases hold m hm with hm | hm
    · exact h.applied_lt m hm
    · exact h.pending_lt m (hs.effects m hm)
  constructor
  · rw [hs.applied, List.pairwise_append]
    exact ⟨h.sorted, hsorted, fun m hm n hn => h.settled m hm n (hs.effects n hn)⟩
  · intro m hm p hp
    have hmlt := hlt m hm
    rcases hs.pending p hp with hp | ⟨hp, -⟩
    · rcases hold m hm with hm | hm
      · exact h.settled m hm p hp
      · exact hturn m hm p hp
    · omega
  · intro m hm
    have hmlt := hlt m hm
    have harrived := hs.arrived
    omega
  · intro p hp
    rcases hs.pending p hp with hp | ⟨-, hp⟩
    · have hplt := h.pending_lt p hp
      have harrived := hs.arrived
      omega
    · exact hp

end Arrivals
end Foundation
