import Mathlib.Order.Basic
import Mathlib.Data.List.Basic
import Mathlib.Tactic

/-! Ordered maps as lists of entries with increasing keys. -/
namespace Foundation

variable {κ α β : Type*} [LinearOrder κ]

/-- The entries after `value[k] = v`. -/
def assignEntries (k : κ) (v : α) : List (κ × α) → List (κ × α)
  | [] => [(k, v)]
  | (k', v') :: rest =>
    if k = k' then (k, v) :: rest
    else if k < k' then (k, v) :: (k', v') :: rest
    else (k', v') :: assignEntries k v rest

theorem mem_assignEntries {k : κ} {v : α} {entries : List (κ × α)} {e : κ × α}
    (h : e ∈ assignEntries k v entries) : e = (k, v) ∨ e ∈ entries := by
  induction entries with
  | nil =>
    rw [assignEntries, List.mem_singleton] at h
    exact Or.inl h
  | cons head rest ih =>
    rw [assignEntries] at h
    split_ifs at h with heq hlt
    · rcases List.mem_cons.mp h with h | h
      · exact Or.inl h
      · exact Or.inr (List.mem_cons_of_mem head h)
    · exact List.mem_cons.mp h
    · rcases List.mem_cons.mp h with h | h
      · exact Or.inr (List.mem_cons.mpr (Or.inl h))
      · exact (ih h).imp_right (List.mem_cons_of_mem head)

theorem assignEntries_increasing (k : κ) (v : α) {entries : List (κ × α)}
    (h : entries.Pairwise fun a b => a.1 < b.1) :
    (assignEntries k v entries).Pairwise fun a b => a.1 < b.1 := by
  induction entries with
  | nil => exact List.pairwise_singleton _ _
  | cons head rest ih =>
    obtain ⟨hhead, hrest⟩ := List.pairwise_cons.mp h
    rw [assignEntries]
    split_ifs with heq hlt
    · subst heq
      exact List.pairwise_cons.mpr ⟨hhead, hrest⟩
    · apply List.pairwise_cons.mpr
      constructor
      · intro e he
        rcases List.mem_cons.mp he with rfl | he
        · exact hlt
        · exact hlt.trans (hhead e he)
      · exact h
    · apply List.pairwise_cons.mpr
      constructor
      · intro e he
        rcases mem_assignEntries he with rfl | he
        · exact lt_of_le_of_ne (not_lt.mp hlt) (Ne.symm heq)
        · exact hhead e he
      · exact ih hrest

/-- A key above all others goes to the end. -/
theorem assignEntries_of_forall_lt {k : κ} (v : α) {entries : List (κ × α)}
    (h : ∀ e ∈ entries, e.1 < k) : assignEntries k v entries = entries ++ [(k, v)] := by
  induction entries with
  | nil => rfl
  | cons head rest ih =>
    have hhead : head.1 < k := h head List.mem_cons_self
    rw [assignEntries, if_neg hhead.ne', if_neg hhead.not_gt,
      ih fun e he => h e (List.mem_cons_of_mem head he)]
    rfl

/-- An ordered map. -/
@[ext] structure OrderedMap (κ α : Type*) [LinearOrder κ] where
  entries : List (κ × α)
  increasing : entries.Pairwise fun a b => a.1 < b.1
  deriving DecidableEq

namespace OrderedMap

def empty : OrderedMap κ α := ⟨[], List.Pairwise.nil⟩

/-- The statement `value[k] = v`. -/
def assign (k : κ) (v : α) (m : OrderedMap κ α) : OrderedMap κ α :=
  ⟨assignEntries k v m.entries, assignEntries_increasing k v m.increasing⟩

/-- The same keys with other values. -/
def map (f : α → β) (m : OrderedMap κ α) : OrderedMap κ β :=
  ⟨m.entries.map fun e => (e.1, f e.2), m.increasing.map _ fun _ _ h => h⟩

/-- Assigning entries whose keys go on increasing appends them. -/
theorem foldl_assign_entries (f : α → β) (m : OrderedMap κ β) (entries : List (κ × α))
    (h : (m.entries ++ entries.map fun e => (e.1, f e.2)).Pairwise fun a b => a.1 < b.1) :
    (entries.foldl (fun m e => m.assign e.1 (f e.2)) m).entries =
      m.entries ++ entries.map fun e => (e.1, f e.2) := by
  induction entries generalizing m with
  | nil => simp
  | cons e rest ih =>
    have hassign : (m.assign e.1 (f e.2)).entries = m.entries ++ [(e.1, f e.2)] := by
      apply assignEntries_of_forall_lt
      intro e' he'
      exact (List.pairwise_append.mp h).2.2 e' he' (e.1, f e.2) (by simp)
    rw [List.foldl_cons, ih (m.assign e.1 (f e.2)) (by rw [hassign]; simpa using h), hassign]
    simp

/-- A map is rebuilt by assigning its entries in order. -/
theorem foldl_assign (f : α → β) (m : OrderedMap κ α) :
    m.entries.foldl (fun out e => out.assign e.1 (f e.2)) empty = m.map f := by
  ext1
  rw [foldl_assign_entries f empty m.entries]
  · rfl
  · exact (m.map f).increasing

@[simp] theorem map_id (m : OrderedMap κ α) : m.map (fun v => v) = m := by
  ext1
  simp [map]

theorem map_map {γ : Type*} (g : β → γ) (f : α → β) (m : OrderedMap κ α) :
    (m.map f).map g = m.map fun v => g (f v) := by
  ext1
  simp only [map, List.map_map, Function.comp_def]

theorem map_inj_left {f g : α → β} {m : OrderedMap κ α} :
    m.map f = m.map g ↔ ∀ e ∈ m.entries, f e.2 = g e.2 := by
  rw [OrderedMap.ext_iff, map, map, List.map_inj_left]
  simp only [Prod.ext_iff, true_and]

def keys (m : OrderedMap κ α) : List κ := m.entries.map Prod.fst

@[simp] theorem keys_map (f : α → β) (m : OrderedMap κ α) : (m.map f).keys = m.keys := by
  simp only [keys, map, List.map_map, Function.comp_def]

/-- Maps with the same keys and related values. -/
def Rel (R : α → β → Prop) (m : OrderedMap κ α) (m' : OrderedMap κ β) : Prop :=
  List.Forall₂ (fun e e' => e.1 = e'.1 ∧ R e.2 e'.2) m.entries m'.entries

theorem rel_refl {R : α → α → Prop} (h : ∀ v, R v v) (m : OrderedMap κ α) : m.Rel R m :=
  List.forall₂_same.mpr fun e _ => ⟨rfl, h e.2⟩

end OrderedMap
end Foundation
