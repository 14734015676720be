import Mathlib.Data.Multiset.AddSub
import Mathlib.Tactic

/-! Requests that are made one after the other. Each is made because of a token that names the
request answered before it; a token appears when an answer comes in. -/
namespace Foundation

inductive Exchange (α : Type*) where
  | issued (a : α)
  | answered (a : α)
  deriving DecidableEq, Repr

variable {α : Type*}

namespace Exchange

/-- Every request is answered before the next one is made. -/
def complete (l : List α) : List (Exchange α) := l.flatMap fun a => [issued a, answered a]

@[simp] theorem complete_nil : complete ([] : List α) = [] := rfl

@[simp] theorem complete_append (l m : List α) : complete (l ++ m) = complete l ++ complete m :=
  List.flatMap_append

@[simp] theorem complete_cons (a : α) (l : List α) :
    complete (a :: l) = issued a :: answered a :: complete l := rfl

@[simp] theorem issued_mem_complete {a : α} {l : List α} : issued a ∈ complete l ↔ a ∈ l := by
  simp [complete]

@[simp] theorem answered_mem_complete {a : α} {l : List α} : answered a ∈ complete l ↔ a ∈ l := by
  simp [complete]

end Exchange

open Exchange

/-- `next` gives the request that follows in the schedule, and the first one after nothing. -/
def Schedules (next : Option α → Option α) (schedule : List α) : Prop :=
  ∀ done rest, schedule = done ++ rest → next done.getLast? = rest.head?

/-- It is enough that `next` is right at both ends and between neighbours. -/
theorem schedules_of_chain {next : Option α → Option α} {schedule : List α}
    (hhead : next none = schedule.head?)
    (hchain : schedule.IsChain fun a b => next (some a) = some b)
    (hlast : ∀ a, schedule.getLast? = some a → next (some a) = none) :
    Schedules next schedule := by
  rintro done rest rfl
  cases hd : done.getLast? with
  | none =>
    have hnil := List.getLast?_eq_none_iff.mp hd
    subst hnil
    exact hhead
  | some a =>
    cases rest with
    | nil =>
      apply hlast
      rwa [List.append_nil]
    | cons b rest =>
      have hab := (List.isChain_append.mp hchain).2.2 a hd b rfl
      exact hab

/-- Either all requests made are answered, and at most one token goes round, that of the last of
them; or one more is waiting for its answer, and there is no token. -/
def Progress (schedule : List α) (trace : List (Exchange α)) (tokens : Multiset (Option α)) :
    Prop :=
  ∃ done rest, schedule = done ++ rest ∧
    ((trace = complete done ∧ tokens ≤ {done.getLast?}) ∨
      ∃ a rest', rest = a :: rest' ∧ trace = complete done ++ [issued a] ∧ tokens = 0)

namespace Progress

variable {schedule : List α} {trace : List (Exchange α)} {tokens tokens' : Multiset (Option α)}
variable {next : Option α → Option α} {p : Option α} {a : α}

theorem start (h : tokens ≤ {none}) : Progress schedule [] tokens :=
  ⟨[], schedule, rfl, Or.inl ⟨rfl, h⟩⟩

theorem mono (h : Progress schedule trace tokens) (hle : tokens' ≤ tokens) :
    Progress schedule trace tokens' := by
  obtain ⟨done, rest, hschedule, ⟨htrace, htokens⟩ | ⟨a, rest', hrest, htrace, htokens⟩⟩ := h
  · exact ⟨done, rest, hschedule, Or.inl ⟨htrace, hle.trans htokens⟩⟩
  · rw [htokens, nonpos_iff_eq_zero] at hle
    exact ⟨done, rest, hschedule, Or.inr ⟨a, rest', hrest, htrace, hle⟩⟩

/-- A token names the request that was answered last, and it is the only one. -/
theorem of_token (h : Progress schedule trace (p ::ₘ tokens)) :
    ∃ done rest, schedule = done ++ rest ∧ trace = complete done ∧ p = done.getLast? ∧
      tokens = 0 := by
  obtain ⟨done, rest, hschedule, ⟨htrace, htokens⟩ | ⟨a, rest', hrest, htrace, htokens⟩⟩ := h
  · obtain ⟨rfl, rfl⟩ : p = done.getLast? ∧ tokens = 0 := by
      rcases Multiset.le_singleton.mp htokens with hz | hs
      · exact absurd hz (Multiset.cons_ne_zero)
      · obtain ⟨hp, hz⟩ := (Multiset.singleton_eq_cons_iff _).mp hs.symm
        exact ⟨hp.symm, hz⟩
    exact ⟨done, rest, hschedule, htrace, rfl, rfl⟩
  · exact absurd htokens Multiset.cons_ne_zero

theorem issued_of_token (h : Progress schedule trace (p ::ₘ tokens)) (hp : p = some a) :
    issued a ∈ trace := by
  obtain ⟨done, rest, -, rfl, rfl, -⟩ := h.of_token
  exact issued_mem_complete.mpr (List.mem_of_getLast? hp)

/-- The token is spent on the next request. -/
theorem issue (hnext : Schedules next schedule) (h : Progress schedule trace (p ::ₘ tokens))
    (ha : next p = some a) : Progress schedule (trace ++ [issued a]) tokens := by
  obtain ⟨done, rest, hschedule, rfl, rfl, rfl⟩ := h.of_token
  rw [hnext done rest hschedule] at ha
  cases rest with
  | nil => cases ha
  | cons b rest' =>
    cases ha
    exact ⟨done, a :: rest', hschedule, Or.inr ⟨a, rest', rfl, rfl, rfl⟩⟩

/-- A request that was made and not yet answered is the last one, and there is no token. -/
theorem of_waiting (h : Progress schedule trace tokens) (hissued : issued a ∈ trace)
    (hanswered : answered a ∉ trace) :
    ∃ done rest, schedule = done ++ a :: rest ∧ trace = complete done ++ [issued a] ∧
      tokens = 0 := by
  obtain ⟨done, rest, hschedule, ⟨rfl, -⟩ | ⟨b, rest', rfl, rfl, rfl⟩⟩ := h
  · rw [issued_mem_complete] at hissued
    rw [answered_mem_complete] at hanswered
    exact absurd hissued hanswered
  · have hne : a ∉ done := by simpa using hanswered
    have hab : a = b := by simpa [hne] using hissued
    subst hab
    exact ⟨done, rest', hschedule, rfl, rfl⟩

/-- The answer to a request that was made and not yet answered brings its token. -/
theorem answer (h : Progress schedule trace tokens) (hissued : issued a ∈ trace)
    (hanswered : answered a ∉ trace) :
    Progress schedule (trace ++ [answered a]) (some a ::ₘ tokens) := by
  obtain ⟨done, rest, hschedule, rfl, rfl⟩ := h.of_waiting hissued hanswered
  apply Exists.intro (done ++ [a])
  refine ⟨rest, by simp [hschedule], Or.inl ⟨by simp, ?_⟩⟩
  simp

/-- A request that has just been made is a new one. -/
theorem fresh (hnodup : schedule.Nodup) (h : Progress schedule (trace ++ [issued a]) tokens) :
    issued a ∉ trace ∧ answered a ∉ trace := by
  obtain ⟨done, rest, rfl, ⟨htrace, -⟩ | ⟨b, rest', rfl, htrace, -⟩⟩ := h
  · -- a trace with all answers does not end in a request
    rcases List.eq_nil_or_concat done with rfl | ⟨init, b, rfl⟩
    · simp at htrace
    · have hlast := congrArg List.getLast? htrace
      simp at hlast
  · obtain ⟨rfl, hb⟩ := List.append_inj' htrace rfl
    cases hb
    have hnotin : a ∉ done := fun hmem =>
      (List.nodup_append.mp hnodup).2.2 a hmem a List.mem_cons_self rfl
    simp [hnotin]

theorem prefix_complete (h : Progress schedule trace tokens) : trace <+: complete schedule := by
  obtain ⟨done, rest, rfl, ⟨rfl, -⟩ | ⟨a, rest', rfl, rfl, -⟩⟩ := h
  · exact ⟨complete rest, by simp⟩
  · exact ⟨answered a :: complete rest', by simp⟩

end Progress
end Foundation
