import MediasoupSdk.Json.Decoder

/-! Writing a value and reading it back. A document holds the mapped members of a value, so the
reader gets these back; an unmapped member is lost. -/
namespace MediasoupSdk

open Foundation

/-- No string of the value contains a NUL character. The keys of a map may, since they are read
with their length. -/
def Native.NulFree : (t : Native) → t.Val → Prop
  | .string, s => '\x00' ∉ s.toList
  | .vector t, vs => ∀ v ∈ vs, t.NulFree v
  | .map t, m => ∀ e ∈ m.entries, t.NulFree e.2
  | .bool, _ | .int, _ | .int64, _ | .float, _ | .double, _ => True

mutual

def FieldType.NulFree : (t : FieldType) → t.Val → Prop
  | .native t, v => t.NulFree v
  | .model fields, v => fields.NulFree v
  | .vector fields, vs => ∀ v ∈ vs, fields.NulFree v
  | .map fields, m => ∀ e ∈ m.entries, fields.NulFree e.2

def Fields.NulFree : (fields : Fields) → fields.Val → Prop
  | .nil, _ => True
  | .field _ t rest, (value, values) => (∀ v ∈ value, t.NulFree v) ∧ rest.NulFree values
  | .unmapped _ rest, (_, values) => rest.NulFree values

end

mutual

/-- Every model of the type has distinct keys. -/
def FieldType.Distinct : FieldType → Prop
  | .native _ => True
  | .model fields | .vector fields | .map fields => fields.Distinct

/-- The keys of the model are distinct, and so are those of the models inside it. -/
def Fields.Distinct : Fields → Prop
  | .nil => True
  | .field key t rest => key ∉ rest.mapped.map Prod.fst ∧ t.Distinct ∧ rest.Distinct
  | .unmapped _ rest => rest.Distinct

end

mutual

def FieldType.decidableDistinct : (t : FieldType) → Decidable t.Distinct
  | .native _ => .isTrue trivial
  | .model fields | .vector fields | .map fields => fields.decidableDistinct

def Fields.decidableDistinct : (fields : Fields) → Decidable fields.Distinct
  | .nil => .isTrue trivial
  | .field _ t rest =>
    haveI := t.decidableDistinct
    haveI := rest.decidableDistinct
    inferInstanceAs (Decidable (_ ∧ _ ∧ _))
  | .unmapped _ rest => rest.decidableDistinct

end

instance (fields : Fields) : Decidable fields.Distinct := fields.decidableDistinct

mutual

/-- Every model of the type maps all its members. -/
def FieldType.Complete : FieldType → Prop
  | .native _ => True
  | .model fields | .vector fields | .map fields => fields.Complete

def Fields.Complete : Fields → Prop
  | .nil => True
  | .field _ t rest => t.Complete ∧ rest.Complete
  | .unmapped _ _ => False

end

mutual

/-- The value without the members that are not mapped. -/
def FieldType.mappedPart : (t : FieldType) → t.Val → t.Val
  | .native _, v => v
  | .model fields, v => fields.mappedPart v
  | .vector fields, vs => vs.map fields.mappedPart
  | .map fields, m => m.map fields.mappedPart

def Fields.mappedPart : (fields : Fields) → fields.Val → fields.Val
  | .nil, _ => ()
  | .field _ t rest, (value, values) => (value.map t.mappedPart, rest.mappedPart values)
  | .unmapped _ rest, (_, values) => (none, rest.mappedPart values)

end

mutual

/-- No member that is not mapped is engaged, in the value or in the models inside it. -/
def FieldType.Lossless : (t : FieldType) → t.Val → Prop
  | .native _, _ => True
  | .model fields, v => fields.Lossless v
  | .vector fields, vs => ∀ v ∈ vs, fields.Lossless v
  | .map fields, m => ∀ e ∈ m.entries, fields.Lossless e.2

def Fields.Lossless : (fields : Fields) → fields.Val → Prop
  | .nil, _ => True
  | .field _ t rest, (value, values) => (∀ v ∈ value, t.Lossless v) ∧ rest.Lossless values
  | .unmapped _ rest, (value, values) => value = none ∧ rest.Lossless values

end

/-- Every member that the constructor engages is engaged in the value. -/
def Fields.DefaultsEngaged : (fields : Fields) → fields.Val → fields.Val → Prop
  | .nil, _, _ => True
  | .field _ _ rest, (initial, initials), (value, values)
  | .unmapped _ rest, (initial, initials), (value, values) =>
    (initial.isSome → value.isSome) ∧ rest.DefaultsEngaged initials values

/-- The constructor engages no member that is not mapped. -/
def Fields.NoHiddenDefault : (fields : Fields) → fields.Val → Prop
  | .nil, _ => True
  | .field _ _ rest, (_, initials) => rest.NoHiddenDefault initials
  | .unmapped _ rest, (initial, initials) => initial = none ∧ rest.NoHiddenDefault initials

/-- The object that reads a document of `value` after it was constructed as `initial`. -/
def Fields.overlay : (fields : Fields) → fields.Val → fields.Val → fields.Val
  | .nil, _, _ => ()
  | .field _ t rest, (initial, initials), (value, values) =>
    ((value.map t.mappedPart).or initial, rest.overlay initials values)
  | .unmapped _ rest, (initial, initials), (_, values) => (initial, rest.overlay initials values)

/-- The value with every string cut at its first NUL; the keys of a map are not. -/
def Native.cut : (t : Native) → t.Val → t.Val
  | .string, s => cStr s
  | .vector t, vs => vs.map t.cut
  | .map t, m => m.map t.cut
  | .bool, v | .int, v | .int64, v | .float, v | .double, v => v

mutual

def FieldType.cut : (t : FieldType) → t.Val → t.Val
  | .native t, v => t.cut v
  | .model fields, v => fields.cut v
  | .vector fields, vs => vs.map fields.cut
  | .map fields, m => m.map fields.cut

def Fields.cut : (fields : Fields) → fields.Val → fields.Val
  | .nil, _ => ()
  | .field _ t rest, (value, values) => (value.map t.cut, rest.cut values)
  | .unmapped _ rest, (value, values) => (value, rest.cut values)

end

theorem map_eq_self_iff {α : Type} {f : α → α} {l : List α} :
    l.map f = l ↔ ∀ a ∈ l, f a = a := by
  have h := List.map_inj_left (f := f) (g := id) (l := l)
  rw [List.map_id] at h
  exact h

theorem orderedMap_map_eq_self_iff {α : Type} {f : α → α} {m : OrderedMap String α} :
    m.map f = m ↔ ∀ e ∈ m.entries, f e.2 = e.2 := by
  rw [OrderedMap.ext_iff, OrderedMap.map, map_eq_self_iff]
  simp only [Prod.ext_iff, true_and]

theorem option_map_eq_self_iff {α : Type} {f : α → α} {o : Option α} :
    o.map f = o ↔ ∀ a ∈ o, f a = a := by
  cases o <;> simp

theorem Native.cut_eq_self_iff {t : Native} {v : t.Val} : t.cut v = v ↔ t.NulFree v := by
  induction t with
  | string => exact cStr_eq_self_iff
  | vector t ih => simp only [cut, NulFree, map_eq_self_iff, ih]
  | map t ih => simp only [cut, NulFree, orderedMap_map_eq_self_iff, ih]
  | _ => exact iff_of_true rfl trivial

theorem mapM_map_eq_ok {α β : Type} {f : α → Json} {g : Json → Except JsonError β} {h : α → β}
    {vs : List α} (hv : ∀ v ∈ vs, g (f v) = .ok (h v)) :
    (vs.map f).mapM g = .ok (vs.map h) := by
  rw [mapM_ok, List.forall₂_map_left_iff, List.forall₂_map_right_iff]
  exact List.forall₂_same.mpr hv

theorem readMap_entries {α β : Type} {f : α → Json} {g : String → Json → Except JsonError β}
    {h : α → β} {m : OrderedMap String α} (hv : ∀ e ∈ m.entries, g e.1 (f e.2) = .ok (h e.2)) :
    readMap g (m.entries.map fun e => (e.1, f e.2)) .empty = .ok (m.map h) := by
  rw [readMap_ok]
  refine ⟨(m.map h).entries, ?_, ?_⟩
  · rw [OrderedMap.map, List.forall₂_map_left_iff, List.forall₂_map_right_iff]
    exact List.forall₂_same.mpr fun e he => ⟨rfl, hv e he⟩
  · have hrebuild := OrderedMap.foldl_assign (fun v => v) (m.map h)
    rw [OrderedMap.map_id] at hrebuild
    exact hrebuild.symm

/-- A value that is written and read comes back with its strings cut. -/
theorem JsonValueAdapter_set {t : Native} (name : String) (v : t.Val) :
    JsonValueAdapter t name (JsonValueAdapter.set t v) = .ok (t.cut v) := by
  induction t generalizing name with
  | bool | double | string => rfl
  | int | int64 =>
    rw [JsonValueAdapter.set, JsonValueAdapter, Json.getInt_int]
    rfl
  | float =>
    rw [JsonValueAdapter.set, JsonValueAdapter, binary32_narrower.convert_convert]
    rfl
  | vector t ih => exact mapM_map_eq_ok fun v _ => ih name v
  | map t ih => exact readMap_entries fun e _ => ih e.1 e.2

theorem JsonValueAdapter.set_ne_null (t : Native) (v : t.Val) :
    JsonValueAdapter.set t v ≠ .null := by
  cases t <;> simp [JsonValueAdapter.set]

theorem FieldType.forward_ne_null (t : FieldType) (v : t.Val) : t.forward v ≠ .null := by
  cases t with
  | native t => exact JsonValueAdapter.set_ne_null t v
  | _ => simp [FieldType.forward]

/-- A name that is not mapped is not written. -/
theorem Fields.lookup_members_eq_none : (fields : Fields) → {v : fields.Val} → {k : String} →
    k ∉ fields.mapped.map Prod.fst → (fields.members v).lookup k = none
  | .nil, _, _, _ => rfl
  | .unmapped _ rest, _, _, h => lookup_members_eq_none rest h
  | .field key t rest, _, k, h => by
    simp only [Fields.mapped, List.map_cons, List.mem_cons, not_or] at h
    rw [Fields.members, lookup_toList_append, if_neg h.1]
    exact lookup_members_eq_none rest h.2

/-- The first member of a document is no obstacle for the fields after it. -/
theorem Fields.agree_members {key : String} {t : FieldType} {rest : Fields}
    (h : key ∉ rest.mapped.map Prod.fst) (v : (Fields.field key t rest).Val) :
    rest.Agree ((Fields.field key t rest).members v) (rest.members v.2) := by
  apply Fields.agree_of_lookup
  intro k hk
  have hne : k ≠ key := fun he => h (he ▸ hk)
  rw [Fields.members, lookup_toList_append, if_neg hne]

theorem Fields.overlay_fresh : (fields : Fields) → (v : fields.Val) →
    fields.overlay fields.fresh v = fields.mappedPart v
  | .nil, _ => rfl
  | .unmapped _ rest, v => by
    rw [Fields.fresh, Fields.overlay, overlay_fresh rest, Fields.mappedPart]
  | .field _ t rest, v => by
    rw [Fields.fresh, Fields.overlay, overlay_fresh rest, Fields.mappedPart, Option.or_none]

mutual

theorem FieldType.backward_forward : (t : FieldType) → t.Distinct → (name : String) →
    (v : t.Val) → t.backward name (t.forward v) = .ok (t.mappedPart (t.cut v))
  | .native _, _, name, v => JsonValueAdapter_set name v
  | .model fields, hd, _, v => by
    have ih := Fields.jdeserialize_members fields hd fields.fresh v
    rw [Fields.overlay_fresh] at ih
    exact ih
  | .vector fields, hd, _, vs => by
    have ih := Fields.jdeserialize_members fields hd fields.fresh
    simp only [Fields.overlay_fresh] at ih
    rw [FieldType.mappedPart, FieldType.cut, List.map_map]
    exact mapM_map_eq_ok fun v _ => ih v
  | .map fields, hd, _, m => by
    have ih := Fields.jdeserialize_members fields hd fields.fresh
    simp only [Fields.overlay_fresh] at ih
    rw [FieldType.mappedPart, FieldType.cut, OrderedMap.map_map]
    exact readMap_entries (f := fun v => .object (fields.members v))
      (g := fun _ => fields.jdeserialize fields.fresh)
      (h := fun v => fields.mappedPart (fields.cut v)) fun e _ => ih e.2

/-- An object reads the mapped members of a value from its document, the strings cut. -/
theorem Fields.jdeserialize_members : (fields : Fields) → fields.Distinct →
    (initial v : fields.Val) → fields.jdeserialize initial (.object (fields.members v)) =
      .ok (fields.overlay initial (fields.cut v))
  | .nil, _, _, _ => rfl
  | .unmapped _ rest, hd, initial, v => by
    have ih := Fields.jdeserialize_members rest hd initial.2 v.2
    simp only [Fields.jdeserialize, Fields.members, ih]
    rfl
  | .field key t rest, hd, initial, (value, values) => by
    have ih := Fields.jdeserialize_members rest hd.2.2 initial.2 values
    rw [← Fields.jdeserialize_congr rest initial.2 _ _ (Fields.agree_members hd.1 (value, values))]
      at ih
    have hlookup : ((Fields.field key t rest).members (value, values)).lookup key =
        value.map t.forward := by
      rw [Fields.members, lookup_toList_append, if_pos rfl, Fields.lookup_members_eq_none rest hd.1,
        Option.or_none]
    cases value with
    | none =>
      rw [Fields.jdeserialize_field_skip (Or.inl hlookup), ih]
      rfl
    | some v =>
      rw [Fields.jdeserialize_field_read hlookup (FieldType.forward_ne_null t v),
        FieldType.backward_forward t hd.2.1 key v, ih]
      rfl

end

mutual

theorem FieldType.mappedPart_cut_eq_iff : (t : FieldType) → (v : t.Val) →
    (t.mappedPart (t.cut v) = t.mappedPart v ↔ t.NulFree v)
  | .native _, _ => Native.cut_eq_self_iff
  | .model fields, v => Fields.mappedPart_cut_eq_iff fields v
  | .vector fields, vs => by
    have ih := Fields.mappedPart_cut_eq_iff fields
    rw [FieldType.mappedPart, FieldType.mappedPart, FieldType.cut, List.map_map, List.map_inj_left]
    simp only [Function.comp_apply, ih, FieldType.NulFree]
  | .map fields, m => by
    have ih := Fields.mappedPart_cut_eq_iff fields
    rw [FieldType.mappedPart, FieldType.mappedPart, FieldType.cut, OrderedMap.map_map,
      OrderedMap.map_inj_left]
    simp only [ih, FieldType.NulFree]

theorem Fields.mappedPart_cut_eq_iff : (fields : Fields) → (v : fields.Val) →
    (fields.mappedPart (fields.cut v) = fields.mappedPart v ↔ fields.NulFree v)
  | .nil, _ => by simp [Fields.NulFree]
  | .unmapped _ rest, (value, values) => by
    have ih := Fields.mappedPart_cut_eq_iff rest values
    simp only [Fields.cut, Fields.mappedPart, Fields.NulFree, Prod.mk.injEq, true_and, ih]
  | .field _ t rest, (value, values) => by
    have ih := Fields.mappedPart_cut_eq_iff rest values
    have iht := FieldType.mappedPart_cut_eq_iff t
    cases value <;>
      simp [Fields.cut, Fields.mappedPart, Fields.NulFree, Prod.mk.injEq, iht, ih]

end

/-- What is read from a document of a value loses nothing to the cut exactly when no string of
the value contains a NUL. -/
theorem Fields.overlay_cut_eq_iff : (fields : Fields) → {initial v : fields.Val} →
    (fields.overlay initial (fields.cut v) = fields.overlay initial v ↔ fields.NulFree v)
  | .nil, _, _ => by simp [Fields.NulFree]
  | .unmapped _ rest, (initial, initials), (value, values) => by
    simp only [cut, overlay, NulFree, Prod.mk.injEq, true_and, overlay_cut_eq_iff rest]
  | .field _ t rest, (initial, initials), (value, values) => by
    have ih := @overlay_cut_eq_iff rest initials values
    cases value <;>
      simp [cut, overlay, NulFree, Prod.mk.injEq, FieldType.mappedPart_cut_eq_iff t, ih]

mutual

theorem FieldType.mappedPart_eq_self_iff : (t : FieldType) → (v : t.Val) →
    (t.mappedPart v = v ↔ t.Lossless v)
  | .native _, v => by simp only [FieldType.mappedPart, FieldType.Lossless]
  | .model fields, v => Fields.mappedPart_eq_self_iff fields v
  | .vector fields, vs => by
    have ih := Fields.mappedPart_eq_self_iff fields
    simp only [FieldType.mappedPart, FieldType.Lossless, map_eq_self_iff, ih]
  | .map fields, m => by
    have ih := Fields.mappedPart_eq_self_iff fields
    simp only [FieldType.mappedPart, FieldType.Lossless, orderedMap_map_eq_self_iff, ih]

/-- A value is its mapped part exactly when no member that is not mapped is engaged. -/
theorem Fields.mappedPart_eq_self_iff : (fields : Fields) → (v : fields.Val) →
    (fields.mappedPart v = v ↔ fields.Lossless v)
  | .nil, _ => by simp [Fields.mappedPart, Fields.Lossless]
  | .unmapped _ rest, (value, values) => by
    have ih := Fields.mappedPart_eq_self_iff rest values
    rw [Fields.mappedPart, Fields.Lossless, Prod.mk.injEq, ih, eq_comm]
  | .field _ t rest, (value, values) => by
    have ih := Fields.mappedPart_eq_self_iff rest values
    have iht := FieldType.mappedPart_eq_self_iff t
    simp only [Fields.mappedPart, Fields.Lossless, Prod.mk.injEq, option_map_eq_self_iff, ih, iht]

end

/-- What is read from a document of a value is the value exactly when no member that is not
mapped is engaged. -/
theorem Fields.overlay_eq_self_iff : (fields : Fields) → {initial v : fields.Val} →
    fields.NoHiddenDefault initial → fields.DefaultsEngaged initial v →
    (fields.overlay initial v = v ↔ fields.Lossless v)
  | .nil, _, _, _, _ => by simp [Fields.overlay, Fields.Lossless]
  | .unmapped _ rest, (initial, initials), (value, values), hhidden, hengaged => by
    have ih := overlay_eq_self_iff rest hhidden.2 hengaged.2
    rw [Fields.overlay, Fields.Lossless, Prod.mk.injEq, ih, hhidden.1, eq_comm]
  | .field _ t rest, (initial, initials), (value, values), hhidden, hengaged => by
    have ih := overlay_eq_self_iff rest hhidden hengaged.2
    have iht := FieldType.mappedPart_eq_self_iff t
    have hor : (value.map t.mappedPart).or initial = value.map t.mappedPart := by
      cases value with
      | some v => rfl
      | none =>
        cases initial with
        | some i => exact absurd (hengaged.1 rfl) (by simp)
        | none => rfl
    simp only [Fields.overlay, Fields.Lossless, Prod.mk.injEq, hor, option_map_eq_self_iff, ih, iht]

/-- `toJsonStr`: the text of the writer is copied up to its first NUL. -/
def toJsonStr (write : Json → String) (fields : Fields) (v : fields.Val) : String :=
  cStr (write (fields.jserialize v))

/-- A text without NUL goes through both copies whole. -/
theorem fromJsonString_toJsonStr {R : Rapidjson} {write : Json → String} {fields : Fields}
    {initial v : fields.Val} (hescaped : '\x00' ∉ (write (fields.jserialize v)).toList)
    (hparse : R.parse (write (fields.jserialize v)) = some (fields.jserialize v)) :
    fromJsonString R fields initial (toJsonStr write fields v) =
      fields.jdeserialize initial (fields.jserialize v) := by
  have hcut := cStr_eq_self_iff.mpr hescaped
  simp only [fromJsonString, toJsonStr, stringToJson, hcut, hparse]
  rfl

/-- The keys of a map are read with their length. -/
theorem JsonValueAdapter_keys (t : Native) (name : String) (m : OrderedMap String t.Val) :
    ∃ m', JsonValueAdapter (.map t) name (JsonValueAdapter.set (.map t) m) = .ok m' ∧
      m'.keys = m.keys :=
  ⟨(Native.map t).cut m, @JsonValueAdapter_set (.map t) name m, OrderedMap.keys_map t.cut m⟩

theorem FieldType.backward_keys {fields : Fields} (hdistinct : fields.Distinct) (name : String)
    (m : OrderedMap String fields.Val) :
    ∃ m', (FieldType.map fields).backward name ((FieldType.map fields).forward m) = .ok m' ∧
      m'.keys = m.keys := by
  refine ⟨_, backward_forward (.map fields) hdistinct name m, ?_⟩
  rw [mappedPart, cut, OrderedMap.keys_map, OrderedMap.keys_map]

theorem Fields.jdeserialize_jserialize_iff {fields : Fields} (hdistinct : fields.Distinct)
    {initial v : fields.Val} (hhidden : fields.NoHiddenDefault initial)
    (hengaged : fields.DefaultsEngaged initial v) (hnul : fields.NulFree v) :
    fields.jdeserialize initial (fields.jserialize v) = .ok v ↔ fields.Lossless v := by
  rw [Fields.jserialize, Fields.jdeserialize_members fields hdistinct initial v,
    (Fields.overlay_cut_eq_iff fields).mpr hnul, Except.ok.injEq,
    Fields.overlay_eq_self_iff fields hhidden hengaged]

mutual

theorem FieldType.lossless_of_complete : (t : FieldType) → t.Complete → (v : t.Val) → t.Lossless v
  | .native _, _, _ => trivial
  | .model fields, h, v => Fields.lossless_of_complete fields h v
  | .vector fields, h, _ => fun v _ => Fields.lossless_of_complete fields h v
  | .map fields, h, _ => fun e _ => Fields.lossless_of_complete fields h e.2

theorem Fields.lossless_of_complete : (fields : Fields) → fields.Complete → (v : fields.Val) →
    fields.Lossless v
  | .nil, _, _ => trivial
  | .field _ t rest, h, (_, values) =>
    ⟨fun v _ => FieldType.lossless_of_complete t h.1 v,
      Fields.lossless_of_complete rest h.2 values⟩

end

/-- A model that maps all its members under distinct keys is read back from its document. -/
theorem Fields.jdeserialize_jserialize {fields : Fields} (hcomplete : fields.Complete)
    (hdistinct : fields.Distinct) {m : fields.Val} (hnul : fields.NulFree m) :
    fields.jdeserialize fields.fresh (fields.jserialize m) = .ok m := by
  rw [Fields.jserialize, Fields.jdeserialize_members fields hdistinct fields.fresh m,
    (Fields.overlay_cut_eq_iff fields).mpr hnul, Fields.overlay_fresh,
    (Fields.mappedPart_eq_self_iff fields m).mpr
      (Fields.lossless_of_complete fields hcomplete m)]

section Sample

def pointFields : Fields := .field "x" (.native .double) <| .field "label" (.native .string) .nil

/-- A model with a field of every kind. -/
def sampleFields : Fields :=
  .field "flag" (.native .bool) <| .field "count" (.native .int) <|
  .field "size" (.native .int64) <| .field "scale" (.native .float) <|
  .field "tags" (.native (.vector .string)) <| .field "limits" (.native (.map .double)) <|
  .field "origin" (.model pointFields) <| .field "path" (.vector pointFields) <|
  .field "marks" (.map pointFields) .nil

def samplePoint : pointFields.Val := (some (binary64.ofRat (1 / 3)), some "point", ())

def sampleValue : sampleFields.Val :=
  (some true, none, (Json.int 5000000000).getInt 64, some (binary32.ofRat (1 / 10)), some ["a", ""],
    some (OrderedMap.empty.assign "low" .negZero |>.assign "high" .nan), some samplePoint, some [],
    some (OrderedMap.empty.assign "m" samplePoint), ())

end Sample

theorem sample_jdeserialize_jserialize :
    sampleFields.jdeserialize sampleFields.fresh (sampleFields.jserialize sampleValue) =
      .ok sampleValue := by
  apply Fields.jdeserialize_jserialize
  · simp [sampleFields, pointFields, Fields.Complete, FieldType.Complete]
  · decide
  · simp [sampleFields, sampleValue, samplePoint, pointFields, Fields.NulFree, FieldType.NulFree,
      Native.NulFree, OrderedMap.assign, assignEntries, OrderedMap.empty]
    rintro - - _ - - rfl _ ⟨⟩
    simp

end MediasoupSdk
