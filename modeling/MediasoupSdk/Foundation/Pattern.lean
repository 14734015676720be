import Mathlib.Data.List.TakeWhile
import Mathlib.Tactic

/-! Patterns of literals and runs, with the symbols compared up to a folding such as that of case.
A greedy matcher decides them where no run can take the symbol after it. -/
namespace Foundation

variable {α : Type*}

inductive Piece (α : Type*) where
  | literal (text : List α)
  /-- One or more symbols of a class, captured. -/
  | run (p : α → Bool)

/-- The text starts with the pieces; what the runs take, and what comes after. -/
inductive Matches (fold : α → α) : List (Piece α) → List α → List (List α) → List α → Prop
  | nil (rest : List α) : Matches fold [] rest [] rest
  | literal {lit taken text rest : List α} {pieces : List (Piece α)} {captures : List (List α)}
      (same : taken.map fold = lit.map fold) (tail : Matches fold pieces text captures rest) :
      Matches fold (.literal lit :: pieces) (taken ++ text) captures rest
  | run {p : α → Bool} {taken text rest : List α} {pieces : List (Piece α)}
      {captures : List (List α)} (nonempty : taken ≠ []) (inClass : ∀ a ∈ taken, p a)
      (tail : Matches fold pieces text captures rest) :
      Matches fold (.run p :: pieces) (taken ++ text) (taken :: captures) rest

/-- The matcher that gives each run all it can take. -/
def matchPieces [DecidableEq α] (fold : α → α) :
    List (Piece α) → List α → Option (List (List α) × List α)
  | [], text => some ([], text)
  | .literal lit :: pieces, text =>
    if (text.take lit.length).map fold = lit.map fold then
      matchPieces fold pieces (text.drop lit.length)
    else none
  | .run p :: pieces, text =>
    if text.takeWhile p = [] then none
    else (matchPieces fold pieces (text.dropWhile p)).map fun (captures, rest) =>
      (text.takeWhile p :: captures, rest)

/-- The pieces start with a symbol outside the class. -/
def Stops (fold : α → α) (p : α → Bool) : List (Piece α) → Prop
  | .literal (a :: _) :: _ => ∀ b, fold b = fold a → p b = false
  | _ => False

/-- Each run is stopped by the literal after it. -/
def Separated (fold : α → α) : List (Piece α) → Prop
  | [] => True
  | .literal _ :: pieces => Separated fold pieces
  | .run p :: pieces => Stops fold p pieces ∧ Separated fold pieces

variable {fold : α → α} {p : α → Bool} {pieces start qs : List (Piece α)} {text rest : List α}
  {captures : List (List α)}

theorem Matches.stops (h : Matches fold pieces text captures rest) (hs : Stops fold p pieces) :
    ∃ b tail, text = b :: tail ∧ p b = false := by
  cases h with
  | nil => exact hs.elim
  | run => exact hs.elim
  | @literal lit taken text rest pieces captures same tail =>
    cases lit with
    | nil => exact hs.elim
    | cons a lit =>
      cases taken with
      | nil => simp at same
      | cons b taken =>
        rw [List.map_cons, List.map_cons, List.cons.injEq] at same
        exact ⟨b, taken ++ text, rfl, hs b same.1⟩

/-- The classes of the runs. -/
def classes : List (Piece α) → List (α → Bool)
  | [] => []
  | .literal _ :: pieces => classes pieces
  | .run p :: pieces => p :: classes pieces

/-- Each capture is of its run's class. -/
theorem Matches.captures_inClass (h : Matches fold pieces text captures rest) :
    List.Forall₂ (fun p taken => ∀ a ∈ taken, p a) (classes pieces) captures := by
  induction h with
  | nil => exact .nil
  | literal _ _ ih => exact ih
  | run _ inClass _ ih => exact .cons inClass ih

theorem Matches.captures_ne_nil (h : Matches fold pieces text captures rest) : [] ∉ captures := by
  induction h with
  | nil => exact List.not_mem_nil
  | literal _ _ ih => exact ih
  | run nonempty _ _ ih => exact List.not_mem_cons_of_ne_of_not_mem nonempty.symm ih

variable [DecidableEq α]

theorem matchPieces_sound (h : matchPieces fold pieces text = some (captures, rest)) :
    Matches fold pieces text captures rest := by
  induction pieces generalizing text captures with
  | nil =>
    simp only [matchPieces, Option.some.injEq, Prod.mk.injEq] at h
    obtain ⟨rfl, rfl⟩ := h
    exact .nil text
  | cons piece pieces ih =>
    cases piece with
    | literal lit =>
      rw [matchPieces] at h
      split_ifs at h with hsame
      rw [← List.take_append_drop lit.length text]
      exact .literal hsame (ih h)
    | run p =>
      rw [matchPieces] at h
      split_ifs at h with hne
      rw [Option.map_eq_some_iff] at h
      obtain ⟨⟨captures', rest'⟩, htail, heq⟩ := h
      rw [Prod.mk.injEq] at heq
      obtain ⟨rfl, rfl⟩ := heq
      have hrun := Matches.run hne (fun a ha => List.mem_takeWhile_imp ha) (ih htail)
      rwa [List.takeWhile_append_dropWhile] at hrun

/-- Greed loses nothing: a run can end nowhere but before the literal that stops it. -/
theorem matchPieces_complete (hs : Separated fold pieces)
    (h : Matches fold pieces text captures rest) :
    matchPieces fold pieces text = some (captures, rest) := by
  induction h with
  | nil => rfl
  | literal same tail ih =>
    have hlength := congrArg List.length same
    rw [List.length_map, List.length_map] at hlength
    rw [matchPieces, ← hlength, List.take_left, List.drop_left, if_pos same]
    exact ih hs
  | @run p taken text rest pieces captures nonempty inClass tail ih =>
    obtain ⟨hstop, hsep⟩ := hs
    obtain ⟨b, after, rfl, hb⟩ := tail.stops hstop
    have htake : (taken ++ b :: after).takeWhile p = taken := by
      rw [List.takeWhile_append_of_pos inClass]
      simp [hb]
    have hdrop : (taken ++ b :: after).dropWhile p = b :: after := by
      rw [List.dropWhile_append_of_pos inClass]
      simp [hb]
    rw [matchPieces, htake, hdrop, if_neg nonempty, ih hsep]
    rfl

theorem matchPieces_iff (hs : Separated fold pieces) :
    matchPieces fold pieces text = some (captures, rest) ↔
      Matches fold pieces text captures rest :=
  ⟨matchPieces_sound, matchPieces_complete hs⟩

theorem matchPieces_of_starts {lit : List α} (h : lit <+: text) :
    matchPieces fold [.literal lit] text = some ([], text.drop lit.length) := by
  obtain ⟨rest, rfl⟩ := h
  rw [matchPieces, List.take_left, if_pos rfl]
  rfl

/-- Neither literal starts the other. -/
def Clash (fold : α → α) (lit lit' : List α) : Prop :=
  (lit.map fold).take lit'.length ≠ (lit'.map fold).take lit.length

instance {lit lit' : List α} : Decidable (Clash fold lit lit') :=
  inferInstanceAs (Decidable (_ ≠ _))

theorem matchPieces_clash_literal {lit lit' : List α} {m : List (List α) × List α}
    (hc : Clash fold lit lit') (h : matchPieces fold (.literal lit :: pieces) text = m) :
    matchPieces fold (.literal lit' :: qs) text = none := by
  rw [matchPieces] at h ⊢
  split_ifs at h with hsame
  rw [if_neg]
  intro hsame'
  apply hc
  rw [← hsame, ← hsame', ← List.map_take, ← List.map_take, List.take_take, List.take_take,
    min_comm]

/-- Patterns that part at two clashing literals have no text in common. -/
theorem matchPieces_clash {lit lit' : List α} {m : List (List α) × List α}
    (hc : Clash fold lit lit') (h : matchPieces fold (start ++ .literal lit :: pieces) text = m) :
    matchPieces fold (start ++ .literal lit' :: qs) text = none := by
  induction start generalizing text m with
  | nil => exact matchPieces_clash_literal hc h
  | cons piece start ih =>
    cases piece with
    | literal lit'' =>
      rw [List.cons_append, matchPieces] at h ⊢
      split_ifs at h with hsame
      rw [if_pos hsame]
      exact ih h
    | run p =>
      rw [List.cons_append, matchPieces] at h ⊢
      split_ifs at h with hne
      obtain ⟨m', htail, -⟩ := Option.map_eq_some_iff.mp h
      rw [if_neg hne, ih htail]
      rfl

end Foundation
