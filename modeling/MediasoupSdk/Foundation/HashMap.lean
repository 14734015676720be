import Mathlib.Data.List.AList
import Mathlib.Tactic

/-! Hash maps as association lists. The entry order stands for the iteration order. -/
namespace Foundation

/-- A hash map: an association list without repeated keys. -/
abbrev HashMap (K V : Type*) := AList (fun _ : K => V)

namespace HashMap

variable {K V : Type*} [DecidableEq K]

/-- The subscript operator: a missing key is inserted with the default value. -/
def subscript (d : V) (m : HashMap K V) (k : K) : V × HashMap K V :=
  match m.lookup k with
  | some v => (v, m)
  | none => (d, m.insert k d)

theorem subscript_of_lookup {d v : V} {m : HashMap K V} {k : K} (h : m.lookup k = some v) :
    m.subscript d k = (v, m) := by
  simp [subscript, h]

theorem subscript_of_absent {d : V} {m : HashMap K V} {k : K} (h : m.lookup k = none) :
    m.subscript d k = (d, m.insert k d) := by
  simp [subscript, h]

theorem lookup_insert_eq_ite (m : HashMap K V) (k k' : K) (v : V) :
    (m.insert k v).lookup k' = if k' = k then some v else m.lookup k' := by
  by_cases h : k' = k
  · subst h
    simp
  · simp [h, AList.lookup_insert_ne h]

theorem lookup_erase_eq_ite (m : HashMap K V) (k k' : K) :
    (m.erase k).lookup k' = if k' = k then none else m.lookup k' := by
  by_cases h : k' = k
  · subst h
    simp
  · simp [h, AList.lookup_erase_ne h]

/-- The subscript operator returns the entry that it leaves. -/
theorem subscript_fst (d : V) (m : HashMap K V) (k : K) :
    (m.subscript d k).1 = (m.lookup k).getD d := by
  cases h : m.lookup k with
  | some v => simp [subscript_of_lookup h]
  | none => simp [subscript_of_absent h]

theorem lookup_subscript (d : V) (m : HashMap K V) (k k' : K) :
    (m.subscript d k).2.lookup k' =
      if k' = k then some ((m.lookup k).getD d) else m.lookup k' := by
  cases h : m.lookup k with
  | some v =>
    rw [subscript_of_lookup h]
    split_ifs with he
    · rw [he, h, Option.getD_some]
    · rfl
  | none =>
    rw [subscript_of_absent h, Option.getD_none]
    exact lookup_insert_eq_ite m k k' d

/-- The stored values, in iteration order. -/
def values (m : HashMap K V) : List V := m.entries.map Sigma.snd

@[simp] theorem values_insert (m : HashMap K V) (k : K) (v : V) :
    values (m.insert k v) = v :: values (m.erase k) := rfl

theorem values_erase_sublist (m : HashMap K V) (k : K) :
    (values (m.erase k)).Sublist m.values := by
  have h : (m.erase k).entries.Sublist m.entries := List.kerase_sublist k m.entries
  exact h.map _

/-- A stored value can be taken out of the map. -/
theorem values_perm_of_lookup {m : HashMap K V} {k : K} {v : V} (h : m.lookup k = some v) :
    m.values.Perm (v :: values (m.erase k)) := by
  have hk : k ∈ m.entries.keys := by
    have hm : k ∈ m := AList.lookup_isSome.mp (by rw [h]; rfl)
    exact AList.mem_keys.mp hm
  obtain ⟨w, before, after, -, hl, he⟩ := List.exists_of_kerase hk
  have hw : w = v := by
    have hm : Sigma.mk k w ∈ m.entries := by
      rw [hl]
      exact List.mem_append_right _ List.mem_cons_self
    have hlook := AList.mem_lookup_iff.mpr hm
    rw [h] at hlook
    exact (Option.some.inj hlook).symm
  subst hw
  have hv : values (m.erase k) = before.map Sigma.snd ++ after.map Sigma.snd := by
    rw [← List.map_append]
    exact congrArg (List.map Sigma.snd) he
  rw [hv, values, hl, List.map_append, List.map_cons]
  exact List.perm_middle

/-- Assign to every stored value. -/
def mapValues {W : Type*} (f : V → W) (m : HashMap K V) : HashMap K W :=
  ⟨m.entries.map fun e => ⟨e.1, f e.2⟩, by
    simpa [List.NodupKeys, List.keys, Function.comp_def] using m.nodupKeys⟩

theorem lookup_mapValues {W : Type*} (f : V → W) (m : HashMap K V) (k : K) :
    (m.mapValues f).lookup k = (m.lookup k).map f := by
  show List.dlookup k (m.entries.map fun e => (⟨e.1, f e.2⟩ : Sigma fun _ : K => W)) =
    (List.dlookup k m.entries).map f
  induction m.entries with
  | nil => rfl
  | cons e l ih =>
    rw [List.map_cons]
    by_cases hk : k = e.1
    · subst hk
      rw [List.dlookup_cons_eq, List.dlookup_cons_eq]
      rfl
    · have hl : List.dlookup k (e :: l) = List.dlookup k l := List.dlookup_cons_ne l e hk
      rw [hl, ← ih]
      exact List.dlookup_cons_ne (β := fun _ => W) _ ⟨e.1, f e.2⟩ hk

/-- The loop that collects what `g` makes of the entries. -/
def collect {W : Type*} (g : K → V → Option W) (m : HashMap K V) : HashMap K W :=
  m.entries.foldl (fun out e => (g e.1 e.2).elim out (out.insert e.1 ·)) ∅

theorem lookup_collect {W : Type*} (g : K → V → Option W) (m : HashMap K V) (k : K) :
    (m.collect g).lookup k = (m.lookup k).bind (g k) := by
  have hfold : ∀ (l : List (Sigma fun _ : K => V)), l.NodupKeys → ∀ out : HashMap K W,
      (l.foldl (fun out e => (g e.1 e.2).elim out (out.insert e.1 ·)) out).lookup k =
        ((List.dlookup k l).bind (g k)).or (out.lookup k) := by
    intro l
    induction l with
    | nil =>
      intro _ out
      rfl
    | cons e rest ih =>
      intro hnd out
      obtain ⟨hhead, htail⟩ := List.nodupKeys_cons.mp hnd
      rw [List.foldl_cons, ih htail]
      by_cases hk : k = e.1
      · subst hk
        have habsent : List.dlookup e.1 rest = none := List.dlookup_eq_none.mpr hhead
        have hfound : List.dlookup e.1 (e :: rest) = some e.2 := List.dlookup_cons_eq rest e.1 e.2
        rw [habsent, hfound]
        cases hg : g e.1 e.2 with
        | none => simp [hg]
        | some w => simp [hg]
      · have hne : ((g e.1 e.2).elim out (out.insert e.1 ·)).lookup k = out.lookup k := by
          cases g e.1 e.2 with
          | none => rfl
          | some w => exact AList.lookup_insert_ne hk
        rw [hne, List.dlookup_cons_ne _ _ hk]
  have h := hfold m.entries m.nodupKeys ∅
  rw [AList.lookup_empty, Option.or_none] at h
  exact h

/-- Another iteration order of the map: the entries of the given keys come first. -/
def arrange (keys : List K) (m : HashMap K V) : HashMap K V :=
  keys.foldr (fun k m => (m.lookup k).elim m (m.insert k ·)) m

theorem lookup_arrange (keys : List K) (m : HashMap K V) (k : K) :
    (m.arrange keys).lookup k = m.lookup k := by
  induction keys with
  | nil => rfl
  | cons k' keys ih =>
    have hstep : m.arrange (k' :: keys) =
        ((m.arrange keys).lookup k').elim (m.arrange keys) ((m.arrange keys).insert k' ·) := rfl
    rw [hstep]
    cases h : (m.arrange keys).lookup k' with
    | none => exact ih
    | some v =>
      rw [Option.elim_some, lookup_insert_eq_ite]
      split_ifs with hk
      · rw [hk, ← h, ← hk, ih]
      · exact ih

theorem mem_arrange {keys : List K} {m : HashMap K V} {k : K} : k ∈ m.arrange keys ↔ k ∈ m := by
  rw [← AList.lookup_isSome, ← AList.lookup_isSome, lookup_arrange]

/-- The entries that are arranged come first. -/
theorem arrange_entries {m : HashMap K V} {l : List (Sigma fun _ : K => V)} (hnd : l.NodupKeys)
    (hl : ∀ e ∈ l, m.lookup e.1 = some e.2) :
    ∃ rest, (m.arrange (l.map Sigma.fst)).entries = l ++ rest := by
  induction l with
  | nil => exact ⟨m.entries, rfl⟩
  | cons e l ih =>
    obtain ⟨hhead, htail⟩ := List.nodupKeys_cons.mp hnd
    obtain ⟨rest, hrest⟩ := ih htail fun e he => hl e (List.mem_cons_of_mem _ he)
    have hfound : (m.arrange (l.map Sigma.fst)).lookup e.1 = some e.2 := by
      rw [lookup_arrange]
      exact hl e List.mem_cons_self
    have hstep : m.arrange ((e :: l).map Sigma.fst) =
        (m.arrange (l.map Sigma.fst)).insert e.1 e.2 := by
      rw [arrange, List.map_cons, List.foldr_cons]
      change ((m.arrange (l.map Sigma.fst)).lookup e.1).elim _ _ = _
      rw [hfound]
      rfl
    refine ⟨rest.kerase e.1, ?_⟩
    rw [hstep, AList.entries_insert, hrest, List.kerase_append_right hhead]
    rfl

/-- Every order of the entries is one of these. -/
theorem arrange_of_perm {m m' : HashMap K V} (h : m.entries.Perm m'.entries) :
    m.arrange m'.keys = m' := by
  have hlookup : ∀ k, m.lookup k = m'.lookup k := fun k => AList.perm_lookup h
  obtain ⟨rest, hrest⟩ := arrange_entries m'.nodupKeys fun e he =>
    (hlookup e.1).trans (AList.mem_lookup_iff.mpr he)
  have hperm : (m.arrange m'.keys).entries.Perm m'.entries := by
    refine List.lookup_ext (m.arrange m'.keys).nodupKeys m'.nodupKeys fun k v => ?_
    change v ∈ (m.arrange m'.keys).lookup k ↔ v ∈ m'.lookup k
    rw [lookup_arrange, hlookup]
  have hrest' : rest = [] := by
    have hlength := hperm.length_eq
    rw [show (m.arrange m'.keys).entries = _ from hrest, List.length_append] at hlength
    exact List.length_eq_zero_iff.mp (by omega)
  rw [hrest', List.append_nil] at hrest
  exact AList.ext hrest

end HashMap
end Foundation
