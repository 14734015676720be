import MediasoupSdk.Foundation.Fault
import MediasoupSdk.Json.Model
import MediasoupSdk.Json.Path

/-! The writing half of `FIELDS_MAP`, and what of a document survives when it is read into a
model and written again. -/
namespace MediasoupSdk

open Foundation

/-- `JsonValueAdapter::set`. A string is stored with its size, NUL characters included. -/
def JsonValueAdapter.set : (t : Native) → t.Val → Json
  | .bool, b => .bool b
  | .int, i => .int i.val
  | .int64, i => .int i.val
  | .float, x => .double (x.convert binary64)
  | .double, x => .double x
  | .string, s => .string s
  | .vector t, vs => .array (vs.map (JsonValueAdapter.set t))
  | .map t, vs => .object (vs.entries.map fun e => (e.1, JsonValueAdapter.set t e.2))

mutual

/-- The `forward` functions, applied to the value of an engaged member. -/
def FieldType.forward : (t : FieldType) → t.Val → Json
  | .native t, v => JsonValueAdapter.set t v
  | .model fields, v => .object (fields.members v)
  | .vector fields, vs => .array (vs.map fun v => .object (fields.members v))
  | .map fields, vs => .object (vs.entries.map fun e => (e.1, .object (fields.members e.2)))

/-- `json_serialize`: the engaged members in the order of the macro. -/
def Fields.members : (fields : Fields) → fields.Val → List (String × Json)
  | .nil, _ => []
  | .field key t rest, (value, values) =>
    value.toList.map (fun v => (key, t.forward v)) ++ rest.members values
  | .unmapped _ rest, (_, values) => rest.members values

end

def Fields.jserialize (fields : Fields) (value : fields.Val) : Json :=
  .object (fields.members value)

/-- The keys of the macro with the types of their members. -/
def Fields.mapped : Fields → List (String × FieldType)
  | .nil => []
  | .field key t rest => (key, t) :: rest.mapped
  | .unmapped _ rest => rest.mapped

/-- What a member of the document becomes: it is dropped when it is null or cannot be read. -/
def FieldType.rewritten (t : FieldType) (key : String) : Json → Option Json
  | .null => none
  | j => (t.backward key j).toOption.map t.forward

theorem FieldType.rewritten_of_ne_null {t : FieldType} {key : String} {j : Json}
    (h : j ≠ .null) : t.rewritten key j = (t.backward key j).toOption.map t.forward := by
  cases j <;> first | exact absurd rfl h | rfl

theorem lookup_cons_eq_ite {α : Type} (key k : String) (v : α) (rest : List (String × α)) :
    ((key, v) :: rest).lookup k = if k = key then some v else rest.lookup k := by
  by_cases hk : k = key
  · simp [hk]
  · have hb : (k == key) = false := by simpa using hk
    simp [List.lookup_cons, hb, hk]

/-- A name that is not repeated finds its own entry. -/
theorem lookup_of_mem {α : Type} {l : List (String × α)} (hd : (l.map Prod.fst).Nodup)
    {e : String × α} (he : e ∈ l) : l.lookup e.1 = some e.2 := by
  induction l with
  | nil => cases he
  | cons a l ih =>
    simp only [List.map_cons, List.nodup_cons] at hd
    rw [lookup_cons_eq_ite]
    rcases List.mem_cons.mp he with rfl | he
    · simp
    · have hne : e.1 ≠ a.1 := fun h => hd.1 (h ▸ List.mem_map_of_mem he)
      rw [if_neg hne]
      exact ih hd.2 he

theorem lookup_toList_append {α : Type} (o : Option α) (key k : String) (f : α → Json)
    (rest : List (String × Json)) :
    (o.toList.map (fun v => (key, f v)) ++ rest).lookup k =
      if k = key then (o.map f).or (rest.lookup k) else rest.lookup k := by
  cases o with
  | none => simp
  | some a =>
    simp only [Option.toList_some, List.map_cons, List.map_nil, List.cons_append, List.nil_append,
      Option.map_some, Option.some_or]
    exact lookup_cons_eq_ite key k (f a) rest

namespace Fields

variable {members : List (String × Json)}

/-- One field of an object: an absent or null member reads nothing. -/
theorem jdeserialize_field_skip {key : String} {t : FieldType} {rest : Fields}
    {value : Option t.Val} {values : rest.Val}
    (h : members.lookup key = none ∨ members.lookup key = some .null) :
    (Fields.field key t rest).jdeserialize (value, values) (.object members) = do
      let values ← rest.jdeserialize values (.object members)
      return (value, values) := by
  rcases h with h | h
  · simp only [jdeserialize, h]
  · simp only [jdeserialize, h]

theorem jdeserialize_field_read {key : String} {t : FieldType} {rest : Fields}
    {value : Option t.Val} {values : rest.Val} {j : Json} (h : members.lookup key = some j)
    (hj : j ≠ .null) :
    (Fields.field key t rest).jdeserialize (value, values) (.object members) = do
      let value ← t.backward key j
      let values ← rest.jdeserialize values (.object members)
      return (some value, values) := by
  cases j with
  | null => exact absurd rfl hj
  | bool b => simp only [jdeserialize, h]
  | int i => simp only [jdeserialize, h]
  | double x => simp only [jdeserialize, h]
  | string s => simp only [jdeserialize, h]
  | array items => simp only [jdeserialize, h]
  | object ms => simp only [jdeserialize, h]

/-- A field whose member is written from an optional value reads that value back. -/
theorem jdeserialize_field_map {α : Type} {key : String} {t : FieldType} {rest : Fields}
    {values : rest.Val} {o : Option α} {f : α → Json} {g : α → t.Val}
    (h : members.lookup key = o.map f) (hf : ∀ a, f a ≠ .null)
    (hg : ∀ a, t.backward key (f a) = .ok (g a)) :
    (Fields.field key t rest).jdeserialize (none, values) (.object members) = do
      let values ← rest.jdeserialize values (.object members)
      return (o.map g, values) := by
  cases o with
  | none => exact jdeserialize_field_skip (Or.inl h)
  | some a =>
    rw [jdeserialize_field_read h (hf a), hg a]
    rfl

theorem member_cases (members : List (String × Json)) (key : String) :
    (members.lookup key = none ∨ members.lookup key = some .null) ∨
      ∃ j, members.lookup key = some j ∧ j ≠ .null := by
  cases h : members.lookup key with
  | none => exact Or.inl (Or.inl rfl)
  | some j =>
    by_cases hj : j = .null
    · exact Or.inl (Or.inr (by rw [hj]))
    · exact Or.inr ⟨j, rfl, hj⟩

/-- Only an object is read by a model that has a field. -/
theorem object_of_ok {j : Json} {key : String} {t : FieldType} {rest : Fields}
    {value initial : (Fields.field key t rest).Val}
    (h : (Fields.field key t rest).jdeserialize initial j = .ok value) :
    ∃ members, j = .object members := by
  cases j with
  | object members => exact ⟨members, rfl⟩
  | _ => simp [jdeserialize] at h

/-- An engaged member that was not engaged before was read from the document. -/
theorem member_of_ok {key : String} {t : FieldType} {rest : Fields} {values : rest.Val}
    {out : (Fields.field key t rest).Val}
    (h : (Fields.field key t rest).jdeserialize (none, values) (.object members) = .ok out) :
    rest.jdeserialize values (.object members) = .ok out.2 ∧
      ∀ v, out.1 = some v → ∃ j, members.lookup key = some j ∧ t.backward key j = .ok v := by
  rcases member_cases members key with hskip | ⟨j, hj, hnull⟩
  · rw [jdeserialize_field_skip hskip] at h
    simp only [Foundation.bind_ok, pure, Except.pure, Except.ok.injEq] at h
    obtain ⟨values', hvalues, rfl⟩ := h
    exact ⟨hvalues, by simp⟩
  · rw [jdeserialize_field_read hj hnull] at h
    simp only [Foundation.bind_ok, pure, Except.pure, Except.ok.injEq] at h
    obtain ⟨x, hx, values', hvalues, rfl⟩ := h
    refine ⟨hvalues, ?_⟩
    rintro v ⟨⟩
    exact ⟨j, hj, hx⟩

/-- A member that is not null was read. -/
theorem read_of_ok {key : String} {t : FieldType} {rest : Fields}
    {initial out : (Fields.field key t rest).Val} {j : Json}
    (h : (Fields.field key t rest).jdeserialize initial (.object members) = .ok out)
    (hj : members.lookup key = some j) (hnull : j ≠ .null) :
    ∃ v, t.backward key j = .ok v ∧ out.1 = some v := by
  rw [jdeserialize_field_read hj hnull] at h
  simp only [Foundation.bind_ok, pure, Except.pure, Except.ok.injEq] at h
  obtain ⟨v, hv, values, -, rfl⟩ := h
  exact ⟨v, hv, rfl⟩

theorem rewritten_skip {key k : String} {o : Option FieldType}
    (h : members.lookup key = none ∨ members.lookup key = some .null) (hk : k = key) :
    (o.bind fun t => (members.lookup k).bind (t.rewritten k)) = none := by
  subst hk
  cases o with
  | none => rfl
  | some t =>
    rcases h with h | h
    · simp [h]
    · simp [h, FieldType.rewritten]

/-- Writing what was read from an object gives its mapped members, each rewritten. -/
theorem lookup_members_of_ok : (fields : Fields) → {value : fields.Val} →
    fields.jdeserialize fields.fresh (.object members) = .ok value → (k : String) →
    (fields.members value).lookup k =
      (fields.mapped.lookup k).bind fun t => (members.lookup k).bind (t.rewritten k)
  | .nil, _, _, k => by simp [Fields.members, mapped]
  | .unmapped t rest, value, h, k => by
    simp only [jdeserialize, fresh, Foundation.bind_ok, pure, Except.pure, Except.ok.injEq] at h
    obtain ⟨values, hvalues, rfl⟩ := h
    simpa only [Fields.members, mapped] using lookup_members_of_ok rest hvalues k
  | .field key t rest, value, h, k => by
    rw [mapped, lookup_cons_eq_ite]
    rcases member_cases members key with hskip | ⟨j, hj, hnull⟩
    · rw [fresh, jdeserialize_field_skip hskip] at h
      simp only [Foundation.bind_ok, pure, Except.pure, Except.ok.injEq] at h
      obtain ⟨values, hvalues, rfl⟩ := h
      have ih := lookup_members_of_ok rest hvalues k
      rw [Fields.members, lookup_toList_append]
      split_ifs with hk
      · rw [ih, rewritten_skip hskip hk, rewritten_skip hskip hk]
        rfl
      · exact ih
    · rw [fresh, jdeserialize_field_read hj hnull] at h
      simp only [Foundation.bind_ok, pure, Except.pure, Except.ok.injEq] at h
      obtain ⟨x, hx, values, hvalues, rfl⟩ := h
      rw [Fields.members, lookup_toList_append]
      split_ifs with hk
      · subst hk
        simp [hj, FieldType.rewritten_of_ne_null hnull, hx, Except.toOption]
      · exact lookup_members_of_ok rest hvalues k

/-- An object is read exactly when each of its mapped members is. -/
theorem jdeserialize_ok_iff : (fields : Fields) →
    ((∃ value, fields.jdeserialize fields.fresh (.object members) = .ok value) ↔
      ∀ e ∈ fields.mapped, ∀ j, members.lookup e.1 = some j → j ≠ .null →
        ∃ x, e.2.backward e.1 j = .ok x)
  | .nil => by simp [jdeserialize, mapped]
  | .unmapped t rest => by
    have ih := jdeserialize_ok_iff rest
    simp only [jdeserialize, fresh, Foundation.bind_ok, pure, Except.pure, Except.ok.injEq,
      mapped]
    rw [← ih]
    constructor
    · rintro ⟨-, values, hvalues, -⟩
      exact ⟨values, hvalues⟩
    · rintro ⟨values, hvalues⟩
      exact ⟨_, values, hvalues, rfl⟩
  | .field key t rest => by
    have ih := jdeserialize_ok_iff rest
    simp only [mapped, List.forall_mem_cons]
    rcases member_cases members key with hskip | ⟨j, hj, hnull⟩
    · have hhead : ∀ j, members.lookup key = some j → j ≠ .null →
          ∃ x, t.backward key j = .ok x := by
        intro j hj hnull
        rcases hskip with h | h
        · rw [h] at hj
          cases hj
        · rw [h] at hj
          exact absurd (Option.some.inj hj).symm hnull
      rw [fresh, jdeserialize_field_skip hskip, ← ih]
      simp only [Foundation.bind_ok, pure, Except.pure, Except.ok.injEq]
      constructor
      · rintro ⟨-, values, hvalues, -⟩
        exact ⟨hhead, values, hvalues⟩
      · rintro ⟨-, values, hvalues⟩
        exact ⟨_, values, hvalues, rfl⟩
    · rw [fresh, jdeserialize_field_read hj hnull, ← ih]
      simp only [Foundation.bind_ok, pure, Except.pure, Except.ok.injEq]
      constructor
      · rintro ⟨-, x, hx, values, hvalues, -⟩
        refine ⟨fun j' hj' _ => ?_, values, hvalues⟩
        rw [hj] at hj'
        exact Option.some.inj hj' ▸ ⟨x, hx⟩
      · rintro ⟨hhead, values, hvalues⟩
        obtain ⟨x, hx⟩ := hhead j hj hnull
        exact ⟨_, x, hx, values, hvalues, rfl⟩

end Fields

theorem Json.getInt_int {width : ℕ} (i : IntN width) : (Json.int i.val).getInt width = some i :=
  dif_pos i.2

namespace FieldType

/-- A member with the value `j` is read, and what is written for it contains `listed`. -/
def Carries (t : FieldType) (key : String) (j listed : Json) : Prop :=
  ∃ v, t.backward key j = .ok v ∧ Json.Contains (t.forward v) listed

theorem carries_int {key : String} (i : IntN 32) :
    (native .int).Carries key (.int i.val) (.int i.val) :=
  ⟨i, by rw [backward, JsonValueAdapter, Json.getInt_int]; rfl, Json.contains_refl _⟩

theorem carries_int64 {key : String} (i : IntN 64) :
    (native .int64).Carries key (.int i.val) (.int i.val) :=
  ⟨i, by rw [backward, JsonValueAdapter, Json.getInt_int]; rfl, Json.contains_refl _⟩

theorem carries_bool {key : String} (b : Bool) :
    (native .bool).Carries key (.bool b) (.bool b) :=
  ⟨b, rfl, Json.contains_refl _⟩

/-- A text is read up to its first NUL. -/
theorem carries_string_iff {key s : String} :
    (native .string).Carries key (.string s) (.string s) ↔ cStr s = s := by
  constructor
  · rintro ⟨v, hv, hc⟩
    cases hv
    simpa [forward, JsonValueAdapter.set] using hc
  · intro h
    exact ⟨cStr s, rfl, by rw [forward, JsonValueAdapter.set, h]; exact Json.contains_refl _⟩

theorem not_carries_int_string {key s : String} {listed : Json} :
    ¬ (native .int).Carries key (.string s) listed := by
  rintro ⟨v, hv, -⟩
  simp [backward, JsonValueAdapter, Json.getInt] at hv

theorem not_carries_string_int {key : String} {i : ℤ} {listed : Json} :
    ¬ (native .string).Carries key (.int i) listed := by
  rintro ⟨v, hv, -⟩
  simp [backward, JsonValueAdapter] at hv

/-- An object is carried when each listed member has a field that carries it. Its other members
may be anything that no field reads. -/
theorem carries_model_iff {fields : Fields} {key : String} {members listed : List (String × Json)}
    (hdistinct : (fields.mapped.map Prod.fst).Nodup)
    (hlisted : ∀ e ∈ fields.mapped, listed.lookup e.1 = none → members.lookup e.1 = none) :
    (model fields).Carries key (.object members) (.object listed) ↔
      ∀ k l, listed.lookup k = some l → ∃ t, fields.mapped.lookup k = some t ∧
        ∃ j, members.lookup k = some j ∧ j ≠ .null ∧ t.Carries k j l := by
  constructor
  · rintro ⟨v, hv, hc⟩ k l hl
    obtain ⟨w, hw, hcw⟩ := Json.contains_object_iff.mp hc k l hl
    rw [Fields.lookup_members_of_ok fields hv, Option.bind_eq_some_iff] at hw
    obtain ⟨t, ht, hw⟩ := hw
    obtain ⟨j, hj, hw⟩ := Option.bind_eq_some_iff.mp hw
    have hnull : j ≠ .null := by
      rintro rfl
      cases hw
    rw [rewritten_of_ne_null hnull, Option.map_eq_some_iff] at hw
    obtain ⟨x, hx, rfl⟩ := hw
    refine ⟨t, ht, j, hj, hnull, x, ?_, hcw⟩
    cases hb : t.backward k j with
    | error e => simp [hb, Except.toOption] at hx
    | ok y => simpa [hb, Except.toOption] using hx
  · intro h
    have hread : ∃ v, fields.jdeserialize fields.fresh (.object members) = .ok v := by
      refine (Fields.jdeserialize_ok_iff fields).mpr fun e he j hj hnull => ?_
      cases hl : listed.lookup e.1 with
      | none =>
        rw [hlisted e he hl] at hj
        cases hj
      | some l =>
        obtain ⟨t, ht, j', hj', -, v, hv, -⟩ := h e.1 l hl
        rw [lookup_of_mem hdistinct he] at ht
        rw [hj, Option.some.injEq] at hj'
        subst hj'
        exact Option.some.inj ht ▸ ⟨v, hv⟩
    obtain ⟨v, hv⟩ := hread
    refine ⟨v, hv, Json.contains_object_iff.mpr fun k l hl => ?_⟩
    obtain ⟨t, ht, j, hj, hnull, x, hx, hcx⟩ := h k l hl
    refine ⟨t.forward x, ?_, hcx⟩
    rw [Fields.lookup_members_of_ok fields hv, ht, Option.bind_some, hj, Option.bind_some,
      rewritten_of_ne_null hnull, hx]
    rfl

theorem lookup_eq_some_iff_mem {α : Type} {l : List (String × α)} (hd : (l.map Prod.fst).Nodup)
    {k : String} {v : α} : l.lookup k = some v ↔ (k, v) ∈ l := by
  constructor
  · intro h
    obtain ⟨before, after, rfl, -⟩ := List.lookup_eq_some_iff.mp h
    simp
  · exact fun h => lookup_of_mem hd h

/-- A document and its listed members side by side: the document may have further members that
no field reads. -/
theorem carries_object_iff {fields : Fields} {key : String}
    {rows : List (String × Json × Json)} {extra : List (String × Json)}
    (hdistinct : (fields.mapped.map Prod.fst).Nodup) (hrows : (rows.map Prod.fst).Nodup)
    (hextra : ∀ e ∈ extra, fields.mapped.lookup e.1 = none) :
    (model fields).Carries key (.object (rows.map (fun r => (r.1, r.2.1)) ++ extra))
        (.object (rows.map fun r => (r.1, r.2.2))) ↔
      ∀ r ∈ rows, ∃ t, fields.mapped.lookup r.1 = some t ∧ r.2.1 ≠ .null ∧
        t.Carries r.1 r.2.1 r.2.2 := by
  have hkeys₁ : ((rows.map fun r => (r.1, r.2.1)).map Prod.fst).Nodup := by
    rw [List.map_map]
    exact hrows
  have hkeys₂ : ((rows.map fun r => (r.1, r.2.2)).map Prod.fst).Nodup := by
    rw [List.map_map]
    exact hrows
  have hmember : ∀ r ∈ rows, (rows.map (fun r => (r.1, r.2.1)) ++ extra).lookup r.1 =
      some r.2.1 := by
    intro r hr
    rw [List.lookup_append, (lookup_eq_some_iff_mem hkeys₁).mpr (List.mem_map.mpr ⟨r, hr, rfl⟩)]
    rfl
  have hlisted : ∀ e ∈ fields.mapped, (rows.map fun r => (r.1, r.2.2)).lookup e.1 = none →
      (rows.map (fun r => (r.1, r.2.1)) ++ extra).lookup e.1 = none := by
    intro e he hnone
    have hfield := lookup_of_mem hdistinct he
    simp only [List.lookup_eq_none_iff, List.mem_map, List.mem_append] at hnone ⊢
    rintro p (⟨r, hr, rfl⟩ | hp)
    · exact hnone (r.1, r.2.2) ⟨r, hr, rfl⟩
    · rw [bne_iff_ne]
      intro hek
      rw [hek, hextra p hp] at hfield
      cases hfield
  rw [carries_model_iff hdistinct hlisted]
  constructor
  · intro h r hr
    have hl := (lookup_eq_some_iff_mem hkeys₂).mpr (List.mem_map.mpr ⟨r, hr, rfl⟩)
    obtain ⟨t, ht, j, hj, hnull, hc⟩ := h r.1 r.2.2 hl
    rw [hmember r hr, Option.some.injEq] at hj
    subst hj
    exact ⟨t, ht, hnull, hc⟩
  · intro h k l hl
    obtain ⟨r, hr, hrl⟩ := List.mem_map.mp ((lookup_eq_some_iff_mem hkeys₂).mp hl)
    rw [Prod.mk.injEq] at hrl
    obtain ⟨rfl, rfl⟩ := hrl
    obtain ⟨t, ht, hnull, hc⟩ := h r hr
    exact ⟨t, ht, r.2.1, hmember r hr, hnull, hc⟩

/-- A document all of whose members are listed. -/
theorem carries_self_iff {fields : Fields} {key : String} {members : List (String × Json)}
    (hdistinct : (fields.mapped.map Prod.fst).Nodup) (hmembers : (members.map Prod.fst).Nodup) :
    (model fields).Carries key (.object members) (.object members) ↔
      ∀ e ∈ members, ∃ t, fields.mapped.lookup e.1 = some t ∧ e.2 ≠ .null ∧
        t.Carries e.1 e.2 e.2 := by
  have h := @carries_object_iff fields key (members.map fun e => (e.1, e.2, e.2)) [] hdistinct
    (by rw [List.map_map]; exact hmembers) (by simp)
  simp only [List.map_map, Function.comp_def, List.append_nil, List.forall_mem_map, Prod.mk.eta,
    List.map_id'] at h
  exact h

/-- An array of objects is carried object by object. -/
theorem carries_vector_iff {fields : Fields} {key : String} {items listed : List Json} :
    (vector fields).Carries key (.array items) (.array listed) ↔
      List.Forall₂ ((model fields).Carries key) items listed := by
  constructor
  · rintro ⟨vs, hvs, hc⟩
    rw [backward, mapM_ok] at hvs
    rw [forward, Json.contains_array_iff, List.forall₂_map_left_iff] at hc
    induction hvs generalizing listed with
    | nil =>
      cases hc
      exact List.Forall₂.nil
    | cons hj _ ih =>
      obtain ⟨l, ls, hl, hls, rfl⟩ := List.forall₂_cons_left_iff.mp hc
      exact List.Forall₂.cons ⟨_, hj, hl⟩ (ih hls)
  · intro h
    have hvs : ∃ vs, List.Forall₂ (fun j v => fields.jdeserialize fields.fresh j = .ok v) items vs ∧
        List.Forall₂ (fun v l => Json.Contains (.object (fields.members v)) l) vs listed := by
      induction h with
      | nil => exact ⟨[], List.Forall₂.nil, List.Forall₂.nil⟩
      | cons hj _ ih =>
        obtain ⟨v, hv, hc⟩ := hj
        obtain ⟨vs, hvs, hcs⟩ := ih
        exact ⟨v :: vs, List.Forall₂.cons hv hvs, List.Forall₂.cons hc hcs⟩
    obtain ⟨vs, hvs, hcs⟩ := hvs
    refine ⟨vs, ?_, ?_⟩
    · rw [backward]
      exact mapM_ok.mpr hvs
    · rw [forward, Json.contains_array_iff, List.forall₂_map_left_iff]
      exact hcs

end FieldType

end MediasoupSdk
