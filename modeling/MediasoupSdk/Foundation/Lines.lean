import Mathlib.Data.List.Basic

/-! Items read up to a delimiter. The last one may lack its delimiter, and is then no item if it is
empty. -/
namespace Foundation

variable {α : Type*}

theorem intercalate_concat {sep item : List α} {items : List (List α)} (hne : items ≠ []) :
    sep.intercalate (items ++ [item]) = sep.intercalate items ++ sep ++ item := by
  induction items with
  | nil => exact absurd rfl hne
  | cons first items ih =>
    cases items with
    | nil => simp
    | cons second items =>
      rw [List.cons_append, List.cons_append, List.intercalate_cons_cons,
        List.intercalate_cons_cons, ← List.cons_append, ih (List.cons_ne_nil second items)]
      simp only [List.append_assoc]

variable [DecidableEq α]

/-- The items of a text, with what has been read of the first. -/
def delimited (d : α) (item : List α) : List α → List (List α)
  | [] => if item = [] then [] else [item]
  | a :: text => if a = d then item :: delimited d [] text else delimited d (item ++ [a]) text

/-- Without the last item, if that is empty. -/
def dropFinalEmpty (items : List (List α)) : List (List α) :=
  if items.getLast? = some [] then items.dropLast else items

/-- Without the last symbol, if that is the delimiter. -/
def chomp (d : α) (text : List α) : List α :=
  if text.getLast? = some d then text.dropLast else text

variable {d : α} {item text : List α} {items : List (List α)}

theorem dropFinalEmpty_cons (hne : items ≠ []) :
    dropFinalEmpty (item :: items) = item :: dropFinalEmpty items := by
  unfold dropFinalEmpty
  rw [List.getLast?_cons_of_ne_nil hne, List.dropLast_cons_of_ne_nil hne]
  split_ifs <;> rfl

theorem delimited_eq (hitem : d ∉ item) :
    delimited d item text = dropFinalEmpty ((item ++ text).splitOn d) := by
  induction text generalizing item with
  | nil =>
    rw [List.append_nil, List.splitOn_eq_singleton hitem, delimited, dropFinalEmpty]
    simp
  | cons a text ih =>
    rw [delimited]
    split_ifs with ha
    · subst ha
      rw [List.splitOn_append_cons_self_of_not_mem hitem,
        dropFinalEmpty_cons (List.splitOn_ne_nil a text), ih List.not_mem_nil, List.nil_append]
    · have hnext : d ∉ item ++ [a] := by
        simpa [hitem] using Ne.symm ha
      rw [ih hnext, List.append_assoc, List.singleton_append]

/-- What is lost on the way back is the last delimiter. -/
theorem intercalate_delimited : [d].intercalate (delimited d [] text) = chomp d text := by
  rw [delimited_eq List.not_mem_nil, List.nil_append]
  unfold chomp
  split_ifs with hlast
  · obtain ⟨init, rfl⟩ := List.getLast?_eq_some_iff.mp hlast
    rw [List.splitOn_append_cons_self, List.splitOn_nil, dropFinalEmpty]
    simp
  · unfold dropFinalEmpty
    split_ifs with hempty
    · obtain ⟨init, hinit⟩ := List.getLast?_eq_some_iff.mp hempty
      have htext : [d].intercalate (text.splitOn d) = text := List.intercalate_splitOn d
      rw [hinit] at htext ⊢
      rw [List.dropLast_concat]
      rcases eq_or_ne init [] with rfl | hne
      · exact htext
      · rw [intercalate_concat hne, List.append_nil] at htext
        rw [← htext, List.getLast?_concat] at hlast
        exact absurd rfl hlast
    · exact List.intercalate_splitOn d

theorem delimited_intercalate (h : ∀ item ∈ items, d ∉ item) :
    delimited d [] ([d].intercalate items) = dropFinalEmpty items := by
  rw [delimited_eq List.not_mem_nil, List.nil_append]
  cases items with
  | nil => rfl
  | cons item items => rw [List.splitOn_intercalate d h (List.cons_ne_nil item items)]

end Foundation
