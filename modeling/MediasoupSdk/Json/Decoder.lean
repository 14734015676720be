import MediasoupSdk.Json.Encode

/-! What the decoder accepts and what it returns, stated without the decoder. A field looks at
the first member with its key; the other members and the order of the members do not matter. -/
namespace MediasoupSdk

open Foundation

/-- The values that are decoded at a native type. -/
def Native.Decodable : Native → Json → Prop
  | .bool, .bool _ => True
  | .int, .int i => -2 ^ 31 ≤ i ∧ i < 2 ^ 31
  | .int64, .int i => -2 ^ 63 ≤ i ∧ i < 2 ^ 63
  | .float, .double _ => True
  | .double, .double _ => True
  | .string, .string _ => True
  | .vector t, .array items => ∀ j ∈ items, t.Decodable j
  | .map t, .object members => ∀ e ∈ members, t.Decodable e.2
  | _, _ => False

/-- The map that results from assigning the members of an object in order, so that of a repeated
name the last member counts. -/
def Assigned {α : Type} (read : String → Json → α → Prop) (members : List (String × Json))
    (m : OrderedMap String α) : Prop :=
  ∃ entries : List (String × α),
    List.Forall₂ (fun e e' => e'.1 = e.1 ∧ read e.1 e.2 e'.2) members entries ∧
      m = entries.foldl (fun m e => m.assign e.1 e.2) .empty

/-- The decoding of a value. -/
def Native.Decodes : (t : Native) → Json → t.Val → Prop
  | .bool, .bool b, v => v = b
  | .int, .int i, v => v.val = i
  | .int64, .int i, v => v.val = i
  | .float, .double x, v => v = x.convert binary32
  | .double, .double x, v => v = x
  | .string, .string s, v => v = cStr s
  | .vector t, .array items, vs => List.Forall₂ t.Decodes items vs
  | .map t, .object members, m => Assigned (fun _ => t.Decodes) members m
  | _, _, _ => False

mutual

/-- The values that are decoded at the type of a field. -/
def FieldType.Decodable : FieldType → Json → Prop
  | .native t, j => t.Decodable j
  | .model fields, .object members => fields.Accepts members
  | .vector fields, .array items =>
    ∀ j ∈ items, ∃ members, j = .object members ∧ fields.Accepts members
  | .map fields, .object members =>
    ∀ e ∈ members, ∃ inner, e.2 = .object inner ∧ fields.Accepts inner
  | _, _ => False

/-- No mapped key has a first member that is present, not null and not decodable. -/
def Fields.Accepts : Fields → List (String × Json) → Prop
  | .nil, _ => True
  | .field key t rest, members =>
    (∀ j, members.lookup key = some j → j ≠ .null → t.Decodable j) ∧ rest.Accepts members
  | .unmapped _ rest, members => rest.Accepts members

end

mutual

def FieldType.Decodes : (t : FieldType) → Json → t.Val → Prop
  | .native t, j, v => t.Decodes j v
  | .model fields, .object members, v => fields.Reads fields.fresh members v
  | .vector fields, .array items, vs => List.Forall₂
      (fun j v => ∃ members, j = .object members ∧ fields.Reads fields.fresh members v) items vs
  | .map fields, .object members, m => Assigned
      (fun _ j v => ∃ inner, j = .object inner ∧ fields.Reads fields.fresh inner v) members m
  | _, _, _ => False

/-- Each mapped field is the decoding of the first member with its key, or it keeps its initial
value when that member is absent or null. -/
def Fields.Reads : (fields : Fields) → fields.Val → List (String × Json) → fields.Val → Prop
  | .nil, _, _, _ => True
  | .field key t rest, initial, members, value =>
    (match members.lookup key with
      | none | some .null => value.1 = initial.1
      | some j => ∃ v, value.1 = some v ∧ t.Decodes j v) ∧
    rest.Reads initial.2 members value.2
  | .unmapped _ rest, initial, members, value =>
    value.1 = initial.1 ∧ rest.Reads initial.2 members value.2

end

mutual

/-- Every model of the type maps a key. -/
def FieldType.Populated : FieldType → Prop
  | .native _ => True
  | .model fields | .vector fields | .map fields => fields.mapped ≠ [] ∧ fields.Populated

/-- Every model inside the model maps a key. -/
def Fields.Populated : Fields → Prop
  | .nil => True
  | .field _ t rest => t.Populated ∧ rest.Populated
  | .unmapped _ rest => rest.Populated

end

mutual

def FieldType.decidablePopulated : (t : FieldType) → Decidable t.Populated
  | .native _ => .isTrue trivial
  | .model fields | .vector fields | .map fields =>
    haveI := fields.decidablePopulated
    inferInstanceAs (Decidable (_ ∧ _))

def Fields.decidablePopulated : (fields : Fields) → Decidable fields.Populated
  | .nil => .isTrue trivial
  | .field _ t rest =>
    haveI := t.decidablePopulated
    haveI := rest.decidablePopulated
    inferInstanceAs (Decidable (_ ∧ _))
  | .unmapped _ rest => rest.decidablePopulated

end

instance (fields : Fields) : Decidable fields.Populated := fields.decidablePopulated

section Containers

variable {α : Type}

theorem readMap_ok_from {read : String → Json → Except JsonError α}
    {members : List (String × Json)} {m m' : OrderedMap String α} :
    readMap read members m = .ok m' ↔ ∃ entries : List (String × α),
      List.Forall₂ (fun e e' => e'.1 = e.1 ∧ read e.1 e.2 = .ok e'.2) members entries ∧
        m' = entries.foldl (fun m e => m.assign e.1 e.2) m := by
  induction members generalizing m with
  | nil => simp [readMap, eq_comm]
  | cons e rest ih =>
    obtain ⟨k, j⟩ := e
    cases hj : read k j with
    | error e =>
      simp only [readMap, hj, reduceCtorEq, List.forall₂_cons_left_iff, false_iff]
      rintro ⟨_, ⟨⟨k', v⟩, entries, ⟨-, hv⟩, -, rfl⟩, -⟩
      exact hv
    | ok v =>
      simp only [readMap, hj, ih, List.forall₂_cons_left_iff]
      constructor
      · rintro ⟨entries, hentries, rfl⟩
        exact ⟨(k, v) :: entries, ⟨(k, v), entries, ⟨rfl, rfl⟩, hentries, rfl⟩, rfl⟩
      · rintro ⟨_, ⟨⟨k', v'⟩, entries, ⟨rfl, hv⟩, hentries, rfl⟩, rfl⟩
        cases hv
        exact ⟨entries, hentries, rfl⟩

theorem readMap_ok {read : String → Json → Except JsonError α} {members : List (String × Json)}
    {m : OrderedMap String α} :
    readMap read members .empty = .ok m ↔ Assigned (fun k j v => read k j = .ok v) members m :=
  readMap_ok_from

theorem readMap_error {read : String → Json → Except JsonError α}
    {members : List (String × Json)} {m : OrderedMap String α} {e : JsonError}
    (h : readMap read members m = .error e) : ∃ p ∈ members, read p.1 p.2 = .error e := by
  induction members generalizing m with
  | nil => cases h
  | cons p rest ih =>
    obtain ⟨k, j⟩ := p
    cases hj : read k j with
    | error e' =>
      simp only [readMap, hj, Except.error.injEq] at h
      exact ⟨(k, j), List.mem_cons_self, by rw [hj, h]⟩
    | ok v =>
      simp only [readMap, hj] at h
      obtain ⟨p, hp, he⟩ := ih h
      exact ⟨p, List.mem_cons_of_mem _ hp, he⟩

end Containers

theorem getInt_eq_some {width : ℕ} {i : ℤ} {v : IntN width} :
    (Json.int i).getInt width = some v ↔ v.val = i := by
  constructor
  · intro h
    rw [Json.getInt] at h
    split_ifs at h with hi
    cases h
    rfl
  · rintro rfl
    exact Json.getInt_int v

theorem elim_ok {α : Type} {o : Option α} {e : JsonError} {v : α} :
    o.elim (.error e) Except.ok = .ok v ↔ o = some v := by
  cases o <;> simp

theorem JsonValueAdapter_ok {t : Native} {name : String} {j : Json} {v : t.Val} :
    JsonValueAdapter t name j = .ok v ↔ t.Decodes j v := by
  induction t generalizing name j with
  | bool => cases j <;> simp [JsonValueAdapter, Native.Decodes, eq_comm]
  | int =>
    cases j with
    | int i => rw [JsonValueAdapter, elim_ok, getInt_eq_some, Native.Decodes]
    | _ => simp [JsonValueAdapter, Native.Decodes, Json.getInt]
  | int64 =>
    cases j with
    | int i => rw [JsonValueAdapter, elim_ok, getInt_eq_some, Native.Decodes]
    | _ => simp [JsonValueAdapter, Native.Decodes, Json.getInt]
  | float => cases j <;> simp [JsonValueAdapter, Native.Decodes, eq_comm]
  | double => cases j <;> simp [JsonValueAdapter, Native.Decodes, eq_comm]
  | string => cases j <;> simp [JsonValueAdapter, Native.Decodes, eq_comm]
  | vector t ih =>
    cases j with
    | array items =>
      simp only [JsonValueAdapter, Native.Decodes, mapM_ok, ih]
    | _ => simp [JsonValueAdapter, Native.Decodes]
  | map t ih =>
    cases j with
    | object members => simp only [JsonValueAdapter, Native.Decodes, readMap_ok, ih]
    | _ => simp [JsonValueAdapter, Native.Decodes]

namespace Fields

variable {members : List (String × Json)} {key : String} {t : FieldType} {rest : Fields}
  {initial value : (Fields.field key t rest).Val}

theorem reads_field_skip (h : members.lookup key = none ∨ members.lookup key = some .null) :
    (Fields.field key t rest).Reads initial members value ↔
      value.1 = initial.1 ∧ rest.Reads initial.2 members value.2 := by
  rcases h with h | h
  · simp only [Reads, h]
  · simp only [Reads, h]

theorem reads_field_read {j : Json} (h : members.lookup key = some j) (hj : j ≠ .null) :
    (Fields.field key t rest).Reads initial members value ↔
      (∃ v, value.1 = some v ∧ t.Decodes j v) ∧ rest.Reads initial.2 members value.2 := by
  cases j with
  | null => exact absurd rfl hj
  | _ => simp only [Reads, h]

/-- Only an object is read by a model that maps a key. -/
theorem exists_object_of_ok : (fields : Fields) → fields.mapped ≠ [] → {j : Json} →
    {initial value : fields.Val} → fields.jdeserialize initial j = .ok value →
    ∃ members, j = .object members
  | .field _ _ _, _, _, _, _, hok => object_of_ok hok
  | .unmapped _ rest, h, _, _, _, hok => by
    simp only [jdeserialize, bind_ok] at hok
    obtain ⟨values, hvalues, -⟩ := hok
    exact exists_object_of_ok rest h hvalues

/-- A model inside a container is an object that the model reads. -/
theorem ok_iff_object {fields : Fields} (h : fields.mapped ≠ []) {initial : fields.Val}
    (hread : ∀ members value, fields.jdeserialize initial (.object members) = .ok value ↔
      fields.Reads initial members value) (j : Json) (v : fields.Val) :
    fields.jdeserialize initial j = .ok v ↔
      ∃ members, j = .object members ∧ fields.Reads initial members v := by
  constructor
  · intro hok
    obtain ⟨members, rfl⟩ := exists_object_of_ok fields h hok
    exact ⟨members, rfl, (hread members v).mp hok⟩
  · rintro ⟨members, rfl, hv⟩
    exact (hread members v).mpr hv

end Fields

mutual

theorem FieldType.backward_ok : (t : FieldType) → t.Populated → (name : String) → (j : Json) →
    (v : t.Val) → (t.backward name j = .ok v ↔ t.Decodes j v)
  | .native t, _, _, _, _ => JsonValueAdapter_ok
  | .model fields, h, name, j, v => by
    have hread := Fields.ok_iff_object h.1 (Fields.jdeserialize_ok fields h.2 fields.fresh) j v
    rw [FieldType.backward, hread]
    cases j <;> simp [FieldType.Decodes]
  | .vector fields, h, name, j, vs => by
    have hread := Fields.ok_iff_object h.1 (Fields.jdeserialize_ok fields h.2 fields.fresh)
    cases j with
    | array items => simp only [FieldType.backward, FieldType.Decodes, mapM_ok, hread]
    | _ => simp [FieldType.backward, FieldType.Decodes]
  | .map fields, h, name, j, m => by
    have hread := Fields.ok_iff_object h.1 (Fields.jdeserialize_ok fields h.2 fields.fresh)
    cases j with
    | object members => simp only [FieldType.backward, FieldType.Decodes, readMap_ok, hread]
    | _ => simp [FieldType.backward, FieldType.Decodes]

/-- What reading an object gives. -/
theorem Fields.jdeserialize_ok : (fields : Fields) → fields.Populated → (initial : fields.Val) →
    (members : List (String × Json)) → (value : fields.Val) →
    (fields.jdeserialize initial (.object members) = .ok value ↔
      fields.Reads initial members value)
  | .nil, _, _, _, _ => by simp [Fields.jdeserialize, Fields.Reads]
  | .unmapped t rest, h, initial, members, value => by
    have ih := Fields.jdeserialize_ok rest h
    simp only [Fields.jdeserialize, Fields.Reads, bind_ok, pure, Except.pure, Except.ok.injEq, ih]
    constructor
    · rintro ⟨values, hvalues, rfl⟩
      exact ⟨rfl, hvalues⟩
    · rintro ⟨hvalue, hvalues⟩
      exact ⟨value.2, hvalues, by rw [← hvalue]⟩
  | .field key t rest, h, initial, members, value => by
    have ih := Fields.jdeserialize_ok rest h.2
    have iht := FieldType.backward_ok t h.1 key
    rcases Fields.member_cases members key with hskip | ⟨j, hj, hnull⟩
    · rw [Fields.jdeserialize_field_skip hskip, Fields.reads_field_skip hskip]
      simp only [bind_ok, pure, Except.pure, Except.ok.injEq, ih]
      constructor
      · rintro ⟨values, hvalues, rfl⟩
        exact ⟨rfl, hvalues⟩
      · rintro ⟨hvalue, hvalues⟩
        exact ⟨value.2, hvalues, by rw [← hvalue]⟩
    · rw [Fields.jdeserialize_field_read hj hnull, Fields.reads_field_read hj hnull]
      simp only [bind_ok, pure, Except.pure, Except.ok.injEq, ih, iht]
      constructor
      · rintro ⟨v, hv, values, hvalues, rfl⟩
        exact ⟨⟨v, rfl, hv⟩, hvalues⟩
      · rintro ⟨⟨v, hvalue, hv⟩, hvalues⟩
        exact ⟨v, hv, value.2, hvalues, by rw [← hvalue]⟩

end

theorem exists_forall₂_iff {α β : Type} {R : α → β → Prop} {items : List α} :
    (∃ vs, List.Forall₂ R items vs) ↔ ∀ j ∈ items, ∃ v, R j v := by
  induction items with
  | nil => simp
  | cons j items ih =>
    simp only [List.forall₂_cons_left_iff, List.forall_mem_cons, ← ih]
    constructor
    · rintro ⟨_, v, vs, hv, hvs, rfl⟩
      exact ⟨⟨v, hv⟩, vs, hvs⟩
    · rintro ⟨⟨v, hv⟩, vs, hvs⟩
      exact ⟨v :: vs, v, vs, hv, hvs, rfl⟩

theorem exists_assigned_iff {α : Type} {read : String → Json → α → Prop}
    {members : List (String × Json)} :
    (∃ m, Assigned read members m) ↔ ∀ e ∈ members, ∃ v, read e.1 e.2 v := by
  have hentries : ∀ e : String × Json,
      (∃ e' : String × α, e'.1 = e.1 ∧ read e.1 e.2 e'.2) ↔ ∃ v, read e.1 e.2 v := by
    intro e
    constructor
    · rintro ⟨e', -, hv⟩
      exact ⟨e'.2, hv⟩
    · rintro ⟨v, hv⟩
      exact ⟨(e.1, v), rfl, hv⟩
  simp only [← hentries, ← exists_forall₂_iff]
  constructor
  · rintro ⟨m, entries, h, -⟩
    exact ⟨entries, h⟩
  · rintro ⟨entries, h⟩
    exact ⟨_, entries, h, rfl⟩

theorem exists_object_iff {α : Type} {R : List (String × Json) → α → Prop} {j : Json} :
    (∃ v, ∃ members, j = .object members ∧ R members v) ↔
      ∃ members, j = .object members ∧ ∃ v, R members v := by
  rw [exists_comm]
  simp only [exists_and_left]

theorem Fields.forall_member_of_skip {members : List (String × Json)} {key : String}
    {P : Json → Prop} (h : members.lookup key = none ∨ members.lookup key = some .null) (j : Json)
    (hj : members.lookup key = some j) (hnull : j ≠ .null) : P j := by
  rcases h with h | h
  · rw [h] at hj
    cases hj
  · rw [h] at hj
    exact absurd (Option.some.inj hj).symm hnull

theorem Native.exists_decodes {t : Native} {j : Json} : (∃ v, t.Decodes j v) ↔ t.Decodable j := by
  induction t generalizing j with
  | vector t ih =>
    cases j with
    | array items => simp only [Decodes, Decodable, exists_forall₂_iff, ih]
    | _ => simp [Decodes, Decodable]
  | map t ih =>
    cases j with
    | object members => simp only [Decodes, Decodable, exists_assigned_iff, ih]
    | _ => simp [Decodes, Decodable]
  | int | int64 =>
    cases j with
    | int i =>
      constructor
      · rintro ⟨v, hv⟩
        exact hv ▸ v.2
      · intro h
        exact ⟨⟨i, h⟩, rfl⟩
    | _ => simp [Decodes, Decodable]
  | _ => cases j <;> simp [Decodes, Decodable]

mutual

theorem FieldType.exists_decodes : (t : FieldType) → (j : Json) →
    ((∃ v, t.Decodes j v) ↔ t.Decodable j)
  | .native t, _ => Native.exists_decodes
  | .model fields, j => by
    cases j with
    | object members => exact Fields.exists_reads fields fields.fresh members
    | _ => simp [FieldType.Decodes, FieldType.Decodable]
  | .vector fields, j => by
    have ih := Fields.exists_reads fields fields.fresh
    cases j with
    | array items =>
      simp only [FieldType.Decodes, FieldType.Decodable, exists_forall₂_iff, exists_object_iff, ih]
    | _ => simp [FieldType.Decodes, FieldType.Decodable]
  | .map fields, j => by
    have ih := Fields.exists_reads fields fields.fresh
    cases j with
    | object members =>
      simp only [FieldType.Decodes, FieldType.Decodable, exists_assigned_iff, exists_object_iff, ih]
    | _ => simp [FieldType.Decodes, FieldType.Decodable]

theorem Fields.exists_reads : (fields : Fields) → (initial : fields.Val) →
    (members : List (String × Json)) →
    ((∃ value, fields.Reads initial members value) ↔ fields.Accepts members)
  | .nil, _, _ => by simp [Fields.Reads, Fields.Accepts]
  | .unmapped t rest, initial, members => by
    rw [Fields.Accepts, ← Fields.exists_reads rest initial.2 members]
    simp only [Fields.Reads]
    constructor
    · rintro ⟨value, -, h⟩
      exact ⟨value.2, h⟩
    · rintro ⟨values, h⟩
      exact ⟨(initial.1, values), rfl, h⟩
  | .field key t rest, initial, members => by
    rw [Fields.Accepts, ← Fields.exists_reads rest initial.2 members]
    rcases Fields.member_cases members key with hskip | ⟨j, hj, hnull⟩
    · simp only [Fields.reads_field_skip hskip]
      constructor
      · rintro ⟨value, -, h⟩
        exact ⟨Fields.forall_member_of_skip hskip, value.2, h⟩
      · rintro ⟨-, values, h⟩
        exact ⟨(initial.1, values), rfl, h⟩
    · simp only [Fields.reads_field_read hj hnull, hj, Option.some.injEq, forall_eq',
        ← FieldType.exists_decodes t]
      constructor
      · rintro ⟨value, ⟨v, -, hv⟩, h⟩
        exact ⟨fun _ => ⟨v, hv⟩, value.2, h⟩
      · rintro ⟨hread, values, h⟩
        obtain ⟨v, hv⟩ := hread hnull
        exact ⟨(some v, values), ⟨v, rfl, hv⟩, h⟩

end

theorem Fields.accepts_iff : (fields : Fields) → {members : List (String × Json)} →
    (fields.Accepts members ↔ ∀ e ∈ fields.mapped, ∀ j, members.lookup e.1 = some j →
      j ≠ .null → e.2.Decodable j)
  | .nil, _ => by simp [Fields.Accepts, Fields.mapped]
  | .unmapped _ rest, _ => accepts_iff rest
  | .field _ _ rest, _ => by
    rw [Fields.Accepts, accepts_iff rest, Fields.mapped, List.forall_mem_cons]

/-- A model that maps a key fails on everything but the objects that it accepts. -/
theorem Fields.jdeserialize_fails_iff {fields : Fields} (hmaps : fields.mapped ≠ [])
    (h : fields.Populated) {initial : fields.Val} {j : Json} :
    (∃ e, fields.jdeserialize initial j = .error e) ↔
      (∀ members, j ≠ .object members) ∨ ∃ members, j = .object members ∧
        ∃ e ∈ fields.mapped, ∃ member, members.lookup e.1 = some member ∧
          member ≠ .null ∧ ¬ e.2.Decodable member := by
  have hok : (∃ v, fields.jdeserialize initial j = .ok v) ↔
      ∃ members, j = .object members ∧ fields.Accepts members := by
    simp only [ok_iff_object hmaps (jdeserialize_ok fields h initial), exists_object_iff,
      exists_reads]
  have hnot : (∃ e, fields.jdeserialize initial j = .error e) ↔
      ¬ ∃ v, fields.jdeserialize initial j = .ok v := by
    cases fields.jdeserialize initial j <;> simp
  rw [hnot, hok]
  constructor
  · intro hno
    by_cases hobject : ∃ members, j = .object members
    · obtain ⟨members, rfl⟩ := hobject
      right
      by_contra hall
      push Not at hall
      apply hno
      refine ⟨members, rfl, (accepts_iff fields).mpr fun e he member hm hnull => ?_⟩
      exact hall members rfl e he member hm hnull
    · exact Or.inl fun members hj => hobject ⟨members, hj⟩
  · rintro (hno | ⟨members, rfl, e, he, member, hm, hnull, hdec⟩) ⟨members', hj, haccepts⟩
    · exact hno members' hj
    · cases hj
      exact hdec ((accepts_iff fields).mp haccepts e he member hm hnull)

/-- The error of a value of the wrong kind. -/
def JsonError.IsMismatch (e : JsonError) : Prop := ∃ name, e = .typeMismatch name

theorem elim_error {α : Type} {o : Option α} {name : String} {e : JsonError}
    (h : o.elim (.error (.typeMismatch name)) Except.ok = .error e) : e.IsMismatch := by
  cases o with
  | none => exact ⟨name, (Except.error.inj h).symm⟩
  | some i => cases h

theorem JsonValueAdapter_error {t : Native} {name : String} {j : Json} {e : JsonError}
    (h : JsonValueAdapter t name j = .error e) : e.IsMismatch := by
  induction t generalizing name j with
  | vector t ih =>
    cases j with
    | array items =>
      obtain ⟨j, -, hj⟩ := mapM_error h
      exact ih hj
    | _ => exact ⟨name, (Except.error.inj h).symm⟩
  | map t ih =>
    cases j with
    | object members =>
      obtain ⟨p, -, hp⟩ := readMap_error h
      exact ih hp
    | _ => exact ⟨name, (Except.error.inj h).symm⟩
  | int | int64 => exact elim_error h
  | _ =>
    cases j <;> first
      | exact ⟨name, (Except.error.inj h).symm⟩
      | cases h

mutual

theorem FieldType.backward_error : (t : FieldType) → (name : String) → (j : Json) →
    (e : JsonError) → t.backward name j = .error e → e.IsMismatch
  | .native _, _, _, _, h => JsonValueAdapter_error h
  | .model fields, _, j, e, h => Fields.jdeserialize_error fields fields.fresh j e h
  | .vector fields, name, j, e, h => by
    cases j with
    | array items =>
      obtain ⟨j, -, hj⟩ := mapM_error h
      exact Fields.jdeserialize_error fields fields.fresh j e hj
    | _ => exact ⟨name, (Except.error.inj h).symm⟩
  | .map fields, name, j, e, h => by
    cases j with
    | object members =>
      obtain ⟨p, -, hp⟩ := readMap_error h
      exact Fields.jdeserialize_error fields fields.fresh p.2 e hp
    | _ => exact ⟨name, (Except.error.inj h).symm⟩

/-- The decoder never reports a missing key. -/
theorem Fields.jdeserialize_error : (fields : Fields) → (initial : fields.Val) → (j : Json) →
    (e : JsonError) → fields.jdeserialize initial j = .error e → e.IsMismatch
  | .nil, _, _, _, h => by cases h
  | .unmapped t rest, initial, j, e, h => by
    simp only [Fields.jdeserialize, bind_error, pure, Except.pure, reduceCtorEq, and_false,
      exists_false, or_false] at h
    exact Fields.jdeserialize_error rest initial.2 j e h
  | .field key t rest, initial, j, e, h => by
    cases j with
    | object members =>
      have ih := Fields.jdeserialize_error rest initial.2 (.object members) e
      rcases Fields.member_cases members key with hskip | ⟨j, hj, hnull⟩
      · simp only [Fields.jdeserialize_field_skip hskip, bind_error, pure, Except.pure,
          reduceCtorEq, and_false, exists_false, or_false] at h
        exact ih h
      · simp only [Fields.jdeserialize_field_read hj hnull, bind_error, pure, Except.pure,
          reduceCtorEq, and_false, exists_false, or_false] at h
        rcases h with h | ⟨v, -, h⟩
        · exact FieldType.backward_error t key j e h
        · exact ih h
    | _ => exact ⟨key, (Except.error.inj h).symm⟩

end

mutual

/-- Two values that hold the same members where a decoder looks. -/
def FieldType.Agree : FieldType → Json → Json → Prop
  | .model fields, .object members, .object members' => fields.Agree members members'
  | .vector fields, .array items, .array items' => List.Forall₂ (fun j j' => j = j' ∨
      ∃ members members', j = .object members ∧ j' = .object members' ∧
        fields.Agree members members') items items'
  | _, j, j' => j = j'

/-- Two objects whose first members with a mapped key agree. -/
def Fields.Agree : Fields → List (String × Json) → List (String × Json) → Prop
  | .nil, _, _ => True
  | .field key t rest, members, members' =>
    Option.Rel t.Agree (members.lookup key) (members'.lookup key) ∧ rest.Agree members members'
  | .unmapped _ rest, members, members' => rest.Agree members members'

end

theorem FieldType.Agree.null_iff {t : FieldType} {j j' : Json} (h : t.Agree j j') :
    j = .null ↔ j' = .null := by
  cases t <;> cases j <;> cases j' <;> simp_all [FieldType.Agree]

theorem FieldType.Agree.skip {t : FieldType} {o o' : Option Json} (h : Option.Rel t.Agree o o')
    (hskip : o = none ∨ o = some .null) : o' = none ∨ o' = some .null := by
  cases h with
  | none => exact Or.inl rfl
  | some hagree =>
    right
    rcases hskip with hskip | hskip
    · cases hskip
    · rw [hagree.null_iff.mp (Option.some.inj hskip)]

theorem FieldType.Agree.exists_of_some {t : FieldType} {o o' : Option Json} {j : Json}
    (h : Option.Rel t.Agree o o') (hj : o = some j) : ∃ j', o' = some j' ∧ t.Agree j j' := by
  cases h with
  | none => cases hj
  | some hagree =>
    cases hj
    exact ⟨_, rfl, hagree⟩

theorem mapM_congr {α β : Type} {f : α → Except JsonError β} {items items' : List α}
    (h : List.Forall₂ (fun j j' => f j = f j') items items') : items.mapM f = items'.mapM f := by
  induction h with
  | nil => rfl
  | cons hj _ ih => rw [List.mapM_cons, List.mapM_cons, hj, ih]

mutual

theorem FieldType.backward_congr : (t : FieldType) → (name : String) → (j j' : Json) →
    t.Agree j j' → t.backward name j = t.backward name j'
  | .native t, _, _, _, h => by rw [h]
  | .model fields, name, j, j', h => by
    cases j <;> cases j'
    case object.object members members' =>
      exact Fields.jdeserialize_congr fields fields.fresh members members' h
    all_goals rw [show _ = _ from h]
  | .vector fields, name, j, j', h => by
    cases j <;> cases j'
    case array.array items items' =>
      apply mapM_congr
      refine List.Forall₂.imp ?_ h
      rintro j j' (rfl | ⟨members, members', rfl, rfl, hagree⟩)
      · rfl
      · exact Fields.jdeserialize_congr fields fields.fresh members members' hagree
    all_goals rw [show _ = _ from h]
  | .map fields, name, j, j', h => by rw [show j = j' from h]

/-- The members that no field reads and the order of the members do not matter. -/
theorem Fields.jdeserialize_congr : (fields : Fields) → (initial : fields.Val) →
    (members members' : List (String × Json)) → fields.Agree members members' →
    fields.jdeserialize initial (.object members) = fields.jdeserialize initial (.object members')
  | .nil, _, _, _, _ => rfl
  | .unmapped t rest, initial, members, members', h => by
    simp only [Fields.jdeserialize, Fields.jdeserialize_congr rest initial.2 members members' h]
  | .field key t rest, initial, members, members', h => by
    have ih := Fields.jdeserialize_congr rest initial.2 members members' h.2
    rcases Fields.member_cases members key with hskip | ⟨j, hj, hnull⟩
    · rw [Fields.jdeserialize_field_skip hskip,
        Fields.jdeserialize_field_skip (FieldType.Agree.skip h.1 hskip), ih]
    · obtain ⟨j', hj', hagree⟩ := FieldType.Agree.exists_of_some h.1 hj
      rw [Fields.jdeserialize_field_read hj hnull,
        Fields.jdeserialize_field_read hj' (mt hagree.null_iff.mpr hnull), ih,
        FieldType.backward_congr t key j j' hagree]

end

mutual

theorem FieldType.agree_refl : (t : FieldType) → (j : Json) → t.Agree j j
  | .native _, _ => rfl
  | .map _, _ => rfl
  | .model fields, j => by
    cases j with
    | object members => exact Fields.agree_of_lookup fields fun _ _ => rfl
    | _ => rfl
  | .vector fields, j => by
    cases j with
    | array items => exact List.forall₂_same.mpr fun _ _ => Or.inl rfl
    | _ => rfl

/-- Objects with the same first members agree. -/
theorem Fields.agree_of_lookup : (fields : Fields) → {members members' : List (String × Json)} →
    (∀ key ∈ fields.mapped.map Prod.fst, members.lookup key = members'.lookup key) →
    fields.Agree members members'
  | .nil, _, _, _ => trivial
  | .unmapped _ rest, _, _, h => Fields.agree_of_lookup rest h
  | .field key t rest, members, members', h => by
    have ih := Fields.agree_of_lookup rest fun k hk => h k (List.mem_cons_of_mem key hk)
    have hlookup := h key List.mem_cons_self
    refine ⟨?_, ih⟩
    rw [hlookup]
    cases members'.lookup key with
    | none => exact Option.Rel.none
    | some j => exact Option.Rel.some (FieldType.agree_refl t j)

end

/-- An object whose names are distinct may list its members in any order. -/
theorem Fields.agree_of_perm {fields : Fields} {members members' : List (String × Json)}
    (hdistinct : (members.map Prod.fst).Nodup) (h : members.Perm members') :
    fields.Agree members members' := by
  apply Fields.agree_of_lookup
  intro key _
  ext j
  rw [FieldType.lookup_eq_some_iff_mem hdistinct,
    FieldType.lookup_eq_some_iff_mem ((h.map Prod.fst).nodup_iff.mp hdistinct), h.mem_iff]

/-- A member that no field reads may be left out. -/
theorem Fields.agree_of_unmapped {fields : Fields} {before after : List (String × Json)}
    {name : String} {j : Json} (h : name ∉ fields.mapped.map Prod.fst) :
    fields.Agree (before ++ (name, j) :: after) (before ++ after) := by
  apply Fields.agree_of_lookup
  intro key hkey
  have hne : key ≠ name := fun he => h (he ▸ hkey)
  rw [List.lookup_append, List.lookup_append, lookup_cons_eq_ite, if_neg hne]

end MediasoupSdk
