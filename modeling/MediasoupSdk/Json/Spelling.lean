import MediasoupSdk.Json.Document

/-! How the numbers of a document are written: as an integer or with a fraction. A field reads
one of the two only, whatever number it is. -/
namespace MediasoupSdk

open Foundation

open Document (Respelled RespelledMembers ParsedMembers)

/-- What an object has to satisfy; `other` is for the values that are none. -/
def Document.OfMembers (P : List (String × Document) → Prop) (other : Prop) : Document → Prop
  | .object members => P members
  | _ => other

/-- `P` holds of every value that is read at a native type, `other` where a container is missing. -/
def Native.Every (P : Native → Document → Prop) (other : Prop) : Native → Document → Prop
  | .vector t, .array items => ∀ d ∈ items, t.Every P other d
  | .map t, .object members => ∀ e ∈ members, t.Every P other e.2
  | .vector _, _ | .map _, _ => other
  | t, d => P t d

mutual

/-- `P` holds of every value that a decoder looks at. -/
def FieldType.Every (P : Native → Document → Prop) (other : Prop) : FieldType → Document → Prop
  | .native t, d => t.Every P other d
  | .model fields, d => d.OfMembers (fields.Every P other) other
  | .vector fields, .array items => ∀ d ∈ items, d.OfMembers (fields.Every P other) other
  | .map fields, .object members => ∀ e ∈ members, e.2.OfMembers (fields.Every P other) other
  | .vector _, _ | .map _, _ => other

def Fields.Every (P : Native → Document → Prop) (other : Prop) :
    Fields → List (String × Document) → Prop
  | .nil, _ => True
  | .field key t rest, members =>
    (∀ d, members.lookup key = some d → d ≠ .null → t.Every P other d) ∧
      rest.Every P other members
  | .unmapped _ rest, members => rest.Every P other members

end

section Every

variable {P Q : Native → Document → Prop} {other other' : Prop}

theorem Native.every_and {t : Native} {d : Document} :
    t.Every (fun t d => P t d ∧ Q t d) (other ∧ other') d ↔
      t.Every P other d ∧ t.Every Q other' d := by
  induction t generalizing d with
  | vector t ih => cases d <;> simp [Every, ih, forall_and]
  | map t ih => cases d <;> simp [Every, ih, forall_and, -Prod.forall]
  | _ => rfl

theorem Document.ofMembers_and {A B : List (String × Document) → Prop} {d : Document} :
    d.OfMembers (fun members => A members ∧ B members) (other ∧ other') ↔
      d.OfMembers A other ∧ d.OfMembers B other' := by
  cases d <;> rfl

mutual

theorem FieldType.every_and : (t : FieldType) → (d : Document) →
    (t.Every (fun t d => P t d ∧ Q t d) (other ∧ other') d ↔
      t.Every P other d ∧ t.Every Q other' d)
  | .native t, _ => Native.every_and
  | .model fields, d => by
    simp only [FieldType.Every, ← Document.ofMembers_and, funext fun members =>
      propext (Fields.every_and fields members)]
  | .vector fields, d => by
    have ih := funext fun members => propext (Fields.every_and fields members)
    cases d <;> simp [FieldType.Every, ← Document.ofMembers_and, ih, ← forall_and]
  | .map fields, d => by
    have ih := funext fun members => propext (Fields.every_and fields members)
    cases d <;> simp [FieldType.Every, ← Document.ofMembers_and, ih, ← forall_and, -Prod.forall]

theorem Fields.every_and : (fields : Fields) → (members : List (String × Document)) →
    (fields.Every (fun t d => P t d ∧ Q t d) (other ∧ other') members ↔
      fields.Every P other members ∧ fields.Every Q other' members)
  | .nil, _ => by simp [Fields.Every]
  | .unmapped _ rest, members => Fields.every_and rest members
  | .field key t rest, members => by
    simp only [Fields.Every, Fields.every_and rest members, FieldType.every_and t, imp_and,
      forall_and]
    constructor
    · rintro ⟨⟨hp, hq⟩, hrest, hrest'⟩
      exact ⟨⟨hp, hrest⟩, hq, hrest'⟩
    · rintro ⟨⟨hp, hrest⟩, hq, hrest'⟩
      exact ⟨⟨hp, hq⟩, hrest, hrest'⟩

end

theorem forall_mem_of_forall₂ {α β : Type} {R : α → β → Prop} {A : α → Prop} {B : β → Prop}
    {l : List α} {l' : List β} (h : List.Forall₂ R l l') (hA : ∀ a ∈ l, A a)
    (hstep : ∀ a b, R a b → A a → B b) : ∀ b ∈ l', B b := by
  induction h with
  | nil => simp
  | cons hab _ ih =>
    rw [List.forall_mem_cons] at hA ⊢
    exact ⟨hstep _ _ hab hA.1, ih hA.2⟩

theorem Native.every_respelled (hleaf : ∀ t d d', Respelled d d' → P t d → Q t d') {t : Native}
    {d d' : Document} (h : Respelled d d') (hP : t.Every P False d) : t.Every Q False d' := by
  induction t generalizing d d' with
  | vector t ih =>
    cases d with
    | array items =>
      obtain ⟨items', rfl, hitems⟩ := h.array_left
      exact forall_mem_of_forall₂ hitems hP fun _ _ hd hP => ih hd hP
    | _ => exact absurd hP id
  | map t ih =>
    cases d with
    | object members =>
      obtain ⟨members', rfl, hmembers⟩ := h.object_left
      exact forall_mem_of_forall₂ hmembers hP fun _ _ he hP => ih he.2 hP
    | _ => exact absurd hP id
  | _ => exact hleaf _ d d' h hP

theorem Document.ofMembers_respelled {A B : List (String × Document) → Prop}
    (hAB : ∀ members members', RespelledMembers members members' → A members → B members')
    {d d' : Document} (h : Respelled d d') (hA : d.OfMembers A False) : d'.OfMembers B False := by
  cases d with
  | object members =>
    obtain ⟨members', rfl, hmembers⟩ := h.object_left
    exact hAB members members' hmembers hA
  | _ => exact absurd hA id

mutual

/-- A property that a respelled value inherits is inherited by the whole document. -/
theorem FieldType.every_respelled (hleaf : ∀ t d d', Respelled d d' → P t d → Q t d') :
    (t : FieldType) → (d d' : Document) → Respelled d d' → t.Every P False d → t.Every Q False d'
  | .native t, _, _, h, hP => Native.every_respelled hleaf h hP
  | .model fields, d, d', h, hP =>
    Document.ofMembers_respelled (Fields.every_respelled hleaf fields) h hP
  | .vector fields, d, d', h, hP => by
    have ih := Fields.every_respelled hleaf fields
    cases d with
    | array items =>
      obtain ⟨items', rfl, hitems⟩ := h.array_left
      exact forall_mem_of_forall₂ hitems hP fun _ _ hd hP => Document.ofMembers_respelled ih hd hP
    | _ => exact absurd hP id
  | .map fields, d, d', h, hP => by
    have ih := Fields.every_respelled hleaf fields
    cases d with
    | object members =>
      obtain ⟨members', rfl, hmembers⟩ := h.object_left
      exact forall_mem_of_forall₂ hmembers hP fun _ _ he hP =>
        Document.ofMembers_respelled ih he.2 hP
    | _ => exact absurd hP id

theorem Fields.every_respelled (hleaf : ∀ t d d', Respelled d d' → P t d → Q t d') :
    (fields : Fields) → (members members' : List (String × Document)) →
    RespelledMembers members members' → fields.Every P False members →
    fields.Every Q False members'
  | .nil, _, _, _, _ => trivial
  | .unmapped _ rest, members, members', h, hP =>
    Fields.every_respelled hleaf rest members members' h hP
  | .field key t rest, members, members', h, hP => by
    refine ⟨?_, Fields.every_respelled hleaf rest members members' h hP.2⟩
    intro d' hd' hnull
    have hlookup := lookup_forall₂ h key
    rw [hd'] at hlookup
    cases hd : members.lookup key with
    | none => rw [hd] at hlookup; cases hlookup
    | some d =>
      rw [hd, Option.rel_some_some] at hlookup
      exact FieldType.every_respelled hleaf t d d' hlookup
        (hP.1 d hd (mt hlookup.null_iff.mp hnull))

end

end Every

/-- The values that a type can hold, however a number is written. -/
def Native.Admits : Native → Document → Prop
  | .bool, .bool _ => True
  | .int, .number n => ∃ i : IntN 32, n.value = i.val
  | .int64, .number n => ∃ i : IntN 64, n.value = i.val
  | .float, .number _ | .double, .number _ => True
  | .string, .string _ => True
  | _, _ => False

/-- A number is written in the way that the type reads. -/
def Native.Spelled : Native → Document → Prop
  | .int, .number n | .int64, .number n => n.IsInteger
  | .float, .number n | .double, .number n => ¬ n.IsInteger
  | _, _ => True

namespace FieldType

/-- Every value that is read is one that its type can hold, however its numbers are written. -/
def Admits (t : FieldType) (d : Document) : Prop := t.Every Native.Admits False d

/-- Every number that is read is written as an integer where an integer is read, and with a
fraction, an exponent or more than 64 bits where a float or double is. -/
def Spelled (t : FieldType) (d : Document) : Prop := t.Every Native.Spelled True d

end FieldType

theorem exists_intN_iff {width : ℕ} {i : ℤ} {q : ℚ} (h : q = i) :
    (∃ v : IntN width, q = v.val) ↔ -2 ^ (width - 1) ≤ i ∧ i < 2 ^ (width - 1) := by
  simp only [h, Int.cast_inj]
  constructor
  · rintro ⟨v, rfl⟩
    exact v.2
  · intro h
    exact ⟨⟨i, h⟩, rfl⟩

/-- A property of all stored items is one of all items. -/
theorem forall_mem_iff_of_forall₂ {α β : Type} {R : α → β → Prop} {A : α → Prop} {B : β → Prop}
    {l : List α} {l' : List β} (h : List.Forall₂ R l l') (hstep : ∀ a b, R a b → (B b ↔ A a)) :
    (∀ b ∈ l', B b) ↔ ∀ a ∈ l, A a := by
  induction h with
  | nil => simp
  | cons hab _ ih => rw [List.forall_mem_cons, List.forall_mem_cons, hstep _ _ hab, ih]

theorem Native.decodable_iff_every {t : Native} {d : Document} {j : Json} (h : d.parse = some j) :
    t.Decodable j ↔ t.Every (fun t d => t.Admits d ∧ t.Spelled d) False d := by
  induction t generalizing d j with
  | vector t ih =>
    cases Document.stored h with
    | array hjs => exact forall_mem_iff_of_forall₂ hjs fun _ _ h => ih h
    | _ => exact Iff.rfl
  | map t ih =>
    cases Document.stored h with
    | object hjs => exact forall_mem_iff_of_forall₂ hjs fun _ _ h => ih h.2
    | _ => exact Iff.rfl
  | int | int64 =>
    cases Document.stored h with
    | @int n i hinteger hi =>
      change _ ↔ (∃ v : IntN _, n.value = v.val) ∧ n.IsInteger
      rw [exists_intN_iff hi, and_iff_left hinteger]
      rfl
    | double hdouble => simp [Decodable, Every, Spelled, hdouble]
    | _ => simp [Decodable, Every, Admits]
  | float | double =>
    cases Document.stored h with
    | int hinteger => simp [Decodable, Every, Spelled, hinteger]
    | double hdouble => simp [Decodable, Every, Admits, Spelled, hdouble]
    | _ => simp [Decodable, Every, Admits]
  | bool | string => cases Document.stored h <;> simp [Decodable, Every, Admits, Spelled]

theorem Document.ofMembers_iff_object {A : List (String × Document) → Prop}
    {B : List (String × Json) → Prop}
    (h : ∀ members js, ParsedMembers members js → (B js ↔ A members)) {d : Document} {j : Json}
    (hj : d.parse = some j) :
    (∃ members, j = .object members ∧ B members) ↔ d.OfMembers A False := by
  cases Document.stored hj with
  | @object members js hjs => simp [OfMembers, h members js hjs]
  | _ => simp [OfMembers]

mutual

theorem FieldType.decodable_iff_every : (t : FieldType) → (d : Document) → (j : Json) →
    d.parse = some j →
    (t.Decodable j ↔ t.Every (fun t d => t.Admits d ∧ t.Spelled d) False d)
  | .native t, _, _, h => Native.decodable_iff_every h
  | .model fields, d, j, h => by
    have ih := Document.ofMembers_iff_object (Fields.accepts_iff_every fields) h
    rw [FieldType.Every, ← ih]
    cases j <;> simp [FieldType.Decodable]
  | .vector fields, d, j, h => by
    cases Document.stored h with
    | array hjs =>
      exact forall_mem_iff_of_forall₂ hjs fun _ _ h =>
        Document.ofMembers_iff_object (Fields.accepts_iff_every fields) h
    | _ => simp [FieldType.Decodable, FieldType.Every]
  | .map fields, d, j, h => by
    cases Document.stored h with
    | object hjs =>
      exact forall_mem_iff_of_forall₂ hjs fun _ _ h =>
        Document.ofMembers_iff_object (Fields.accepts_iff_every fields) h.2
    | _ => simp [FieldType.Decodable, FieldType.Every]

theorem Fields.accepts_iff_every : (fields : Fields) → (members : List (String × Document)) →
    (js : List (String × Json)) → ParsedMembers members js →
    (fields.Accepts js ↔ fields.Every (fun t d => t.Admits d ∧ t.Spelled d) False members)
  | .nil, _, _, _ => Iff.rfl
  | .unmapped _ rest, members, js, h => Fields.accepts_iff_every rest members js h
  | .field key t rest, members, js, h => by
    rw [Fields.Accepts, Fields.Every, Fields.accepts_iff_every rest members js h]
    refine and_congr_left fun _ => ?_
    have hlookup := h.lookup key
    cases hd : members.lookup key with
    | none =>
      rw [hd] at hlookup
      cases hj : js.lookup key with
      | none => simp
      | some j => rw [hj] at hlookup; cases hlookup
    | some d =>
      obtain ⟨j, hj, hparse⟩ := lookup_read hlookup hd
      simp only [hj, Option.some.injEq, forall_eq', ne_eq, (Document.stored hparse).null_iff,
        FieldType.decodable_iff_every t d j hparse]

end

/-- Two values of a native type are equal; floats and doubles are compared as numbers. -/
def Native.Equal : (t : Native) → t.Val → t.Val → Prop
  | .bool, v, w | .int, v, w | .int64, v, w | .string, v, w => v = w
  | .float, x, y | .double, x, y => x.Same y
  | .vector t, vs, ws => List.Forall₂ t.Equal vs ws
  | .map t, m, m' => m.Rel t.Equal m'

mutual

def FieldType.Equal : (t : FieldType) → t.Val → t.Val → Prop
  | .native t, v, w => t.Equal v w
  | .model fields, v, w => fields.Equal v w
  | .vector fields, vs, ws => List.Forall₂ fields.Equal vs ws
  | .map fields, m, m' => m.Rel fields.Equal m'

/-- Two values of a model are equal member by member. -/
def Fields.Equal : (fields : Fields) → fields.Val → fields.Val → Prop
  | .nil, _, _ => True
  | .field _ t rest, value, value' | .unmapped t rest, value, value' =>
    Option.Rel t.Equal value.1 value'.1 ∧ rest.Equal value.2 value'.2

end

theorem Native.equal_refl : (t : Native) → (v : t.Val) → t.Equal v v
  | .bool, _ | .int, _ | .int64, _ | .string, _ => rfl
  | .float, x | .double, x => x.same_refl
  | .vector t, _ => List.forall₂_same.mpr fun v _ => Native.equal_refl t v
  | .map t, m => OrderedMap.rel_refl (Native.equal_refl t) m

theorem option_rel_refl {α : Type} {R : α → α → Prop} (h : ∀ a, R a a) (o : Option α) :
    Option.Rel R o o := by
  cases o with
  | none => exact Option.Rel.none
  | some a => exact Option.Rel.some (h a)

mutual

theorem FieldType.equal_refl : (t : FieldType) → (v : t.Val) → t.Equal v v
  | .native t, v => Native.equal_refl t v
  | .model fields, v => Fields.equal_refl fields v
  | .vector fields, _ => List.forall₂_same.mpr fun v _ => Fields.equal_refl fields v
  | .map fields, m => OrderedMap.rel_refl (Fields.equal_refl fields) m

theorem Fields.equal_refl : (fields : Fields) → (v : fields.Val) → fields.Equal v v
  | .nil, _ => trivial
  | .field _ t rest, v | .unmapped t rest, v =>
    ⟨option_rel_refl (FieldType.equal_refl t) v.1, Fields.equal_refl rest v.2⟩

end

/-- The numbers that are read as a float or as a double are taken to the same value, the sign of
a zero aside. -/
def Native.ReadAlike : Native → Document → Document → Prop
  | .float, .number n, .number n' => ∀ x x', n.ParseNumber = some (.double x) →
    n'.ParseNumber = some (.double x') → (x.convert binary32).Same (x'.convert binary32)
  | .double, .number n, .number n' => ∀ x x', n.ParseNumber = some (.double x) →
    n'.ParseNumber = some (.double x') → x.Same x'
  | .vector t, .array items, .array items' => List.Forall₂ t.ReadAlike items items'
  | _, _, _ => True

/-- What two objects have to satisfy. -/
def Document.OfBoth (P : List (String × Document) → List (String × Document) → Prop) :
    Document → Document → Prop
  | .object members, .object members' => P members members'
  | _, _ => True

mutual

/-- The same for every number that is read of two documents without a map. -/
def FieldType.ReadAlike : FieldType → Document → Document → Prop
  | .native t, d, d' => t.ReadAlike d d'
  | .model fields, d, d' => d.OfBoth fields.ReadAlike d'
  | .vector fields, .array items, .array items' =>
    List.Forall₂ (fun d d' => d.OfBoth fields.ReadAlike d') items items'
  | .vector _, _, _ | .map _, _, _ => True

def Fields.ReadAlike : Fields → List (String × Document) → List (String × Document) → Prop
  | .nil, _, _ => True
  | .field key t rest, members, members' =>
    (∀ d d', members.lookup key = some d → members'.lookup key = some d' → d ≠ .null →
      t.ReadAlike d d') ∧ rest.ReadAlike members members'
  | .unmapped _ rest, members, members' => rest.ReadAlike members members'

end

def Native.mapless : Native → Bool
  | .vector t => t.mapless
  | .map _ => false
  | _ => true

mutual

/-- No value of the type is a map. -/
def FieldType.mapless : FieldType → Bool
  | .native t => t.mapless
  | .model fields | .vector fields => fields.mapless
  | .map _ => false

def Fields.mapless : Fields → Bool
  | .nil => true
  | .field _ t rest => t.mapless && rest.mapless
  | .unmapped _ rest => rest.mapless

end

/-- Values that were decoded from respelled items are equal exactly if the items are read alike. -/
theorem forall₂_decoded_iff {α : Type} {R : Json → α → Prop} {E : α → α → Prop}
    {A : Document → Document → Prop} {items items' : List Document} {js js' : List Json}
    {vs ws : List α} (h : List.Forall₂ Respelled items items')
    (hjs : List.Forall₂ (fun d j => Document.parse d = some j) items js)
    (hjs' : List.Forall₂ (fun d j => Document.parse d = some j) items' js')
    (hvs : List.Forall₂ R js vs) (hws : List.Forall₂ R js' ws)
    (hstep : ∀ d d' j j' v w, Respelled d d' → d.parse = some j → d'.parse = some j' → R j v →
      R j' w → (E v w ↔ A d d')) :
    List.Forall₂ E vs ws ↔ List.Forall₂ A items items' := by
  induction h generalizing js js' vs ws with
  | nil =>
    cases hjs
    cases hjs'
    cases hvs
    cases hws
    simp
  | cons hd _ ih =>
    obtain ⟨j, restj, hj, hrestj, rfl⟩ := List.forall₂_cons_left_iff.mp hjs
    obtain ⟨j', restj', hj', hrestj', rfl⟩ := List.forall₂_cons_left_iff.mp hjs'
    obtain ⟨v, restv, hv, hrestv, rfl⟩ := List.forall₂_cons_left_iff.mp hvs
    obtain ⟨w, restw, hw, hrestw, rfl⟩ := List.forall₂_cons_left_iff.mp hws
    rw [List.forall₂_cons, List.forall₂_cons, hstep _ _ j j' v w hd hj hj' hv hw,
      ih hrestj hrestj' hrestv hrestw]

theorem Native.equal_iff {t : Native} (ht : t.mapless) {d d' : Document} {j j' : Json}
    {v w : t.Val} (h : Respelled d d') (hj : d.parse = some j) (hj' : d'.parse = some j')
    (hv : t.Decodes j v) (hw : t.Decodes j' w) : t.Equal v w ↔ t.ReadAlike d d' := by
  induction t generalizing d d' j j' with
  | vector t ih =>
    cases Document.stored hj with
    | array hjs =>
      obtain ⟨items', rfl, hitems⟩ := h.array_left
      cases Document.stored hj' with
      | array hjs' => exact forall₂_decoded_iff hitems hjs hjs' hv hw fun _ _ _ _ _ _ => ih ht
    | _ => exact absurd hv id
  | map t => exact absurd ht Bool.false_ne_true
  | int | int64 =>
    cases Document.stored hj with
    | int _ hi =>
      obtain ⟨n', rfl, hvalue⟩ := h.number_left
      cases Document.stored hj' with
      | int _ hi' =>
        refine iff_of_true (Subtype.ext ?_) trivial
        have heq := hi.symm.trans (hvalue.trans hi')
        exact hv.trans ((Int.cast_inj.mp heq).trans hw.symm)
      | double => exact absurd hw id
    | _ => exact absurd hv id
  | float | double =>
    cases Document.stored hj with
    | double _ hx =>
      obtain ⟨n', rfl, hvalue⟩ := h.number_left
      cases Document.stored hj' with
      | double _ hx' =>
        cases hv
        cases hw
        simp [Equal, ReadAlike, hx, hx']
      | int => exact absurd hw id
    | _ => exact absurd hv id
  | bool | string =>
    cases h with
    | same =>
      cases hj.symm.trans hj'
      refine iff_of_true ?_ (by cases d <;> trivial)
      cases j <;> first | exact hv.trans hw.symm | exact absurd hv id
    | _ => cases Document.stored hj <;> exact absurd hv id

theorem object_equal_iff {α : Type} {R : List (String × Json) → α → Prop} {E : α → α → Prop}
    {A : List (String × Document) → List (String × Document) → Prop}
    (hstep : ∀ members members' js js' v w, RespelledMembers members members' →
      ParsedMembers members js → ParsedMembers members' js' → R js v → R js' w →
      (E v w ↔ A members members'))
    (d d' : Document) (j j' : Json) (v w : α) (h : Respelled d d') (hj : d.parse = some j)
    (hj' : d'.parse = some j') (hv : ∃ js, j = .object js ∧ R js v)
    (hw : ∃ js, j' = .object js ∧ R js w) : E v w ↔ d.OfBoth A d' := by
  obtain ⟨js, rfl, hv⟩ := hv
  obtain ⟨js', rfl, hw⟩ := hw
  cases Document.stored hj with
  | object hjs =>
    obtain ⟨members', rfl, hmembers⟩ := h.object_left
    cases Document.stored hj' with
    | object hjs' => exact hstep _ members' js js' v w hmembers hjs hjs' hv hw

mutual

theorem FieldType.equal_iff : (t : FieldType) → t.mapless → (d d' : Document) → (j j' : Json) →
    (v w : t.Val) → Respelled d d' → d.parse = some j → d'.parse = some j' → t.Decodes j v →
    t.Decodes j' w → (t.Equal v w ↔ t.ReadAlike d d')
  | .native _, ht, _, _, _, _, _, _, h, hj, hj', hv, hw => Native.equal_iff ht h hj hj' hv hw
  | .model fields, ht, d, d', j, j', v, w, h, hj, hj', hv, hw => by
    have hobject : ∀ {i : Json} {u : fields.Val}, (FieldType.model fields).Decodes i u →
        ∃ js, i = .object js ∧ fields.Reads fields.fresh js u := by
      intro i u hu
      cases i with
      | object js => exact ⟨js, rfl, hu⟩
      | _ => exact absurd hu id
    exact object_equal_iff (Fields.equal_iff fields ht fields.fresh) d d' j j' v w h hj hj'
      (hobject hv) (hobject hw)
  | .vector fields, ht, d, d', j, j', vs, ws, h, hj, hj', hv, hw => by
    have ih := object_equal_iff (Fields.equal_iff fields ht fields.fresh)
    cases Document.stored hj with
    | array hjs =>
      obtain ⟨items', rfl, hitems⟩ := h.array_left
      cases Document.stored hj' with
      | array hjs' => exact forall₂_decoded_iff hitems hjs hjs' hv hw ih
    | _ => exact absurd hv id
  | .map _, ht, _, _, _, _, _, _, _, _, _, _, _ => absurd ht Bool.false_ne_true

/-- Respelled objects are read into equal models exactly if their numbers are read alike. -/
theorem Fields.equal_iff : (fields : Fields) → fields.mapless → (initial : fields.Val) →
    (members members' : List (String × Document)) → (js js' : List (String × Json)) →
    (value value' : fields.Val) → RespelledMembers members members' → ParsedMembers members js →
    ParsedMembers members' js' → fields.Reads initial js value →
    fields.Reads initial js' value' → (fields.Equal value value' ↔
      fields.ReadAlike members members')
  | .nil, _, _, _, _, _, _, _, _, _, _, _, _, _ => Iff.rfl
  | .unmapped t rest, ht, initial, members, members', js, js', value, value', h, hjs, hjs', hv,
      hw => by
    have hrest := Fields.equal_iff rest ht initial.2 members members' js js' _ _ h hjs hjs' hv.2
      hw.2
    rw [Fields.Equal, Fields.ReadAlike, hrest, hv.1, hw.1]
    exact and_iff_right (option_rel_refl (FieldType.equal_refl t) initial.1)
  | .field key t rest, ht, initial, members, members', js, js', value, value', h, hjs, hjs', hv,
      hw => by
    obtain ⟨ht, htrest⟩ := Bool.and_eq_true_iff.mp ht
    have hlookup := lookup_forall₂ (R := Respelled) h key
    have hrest := fun hv hw => Fields.equal_iff rest htrest initial.2 members members' js js'
      value.2 value'.2 h hjs hjs' hv hw
    have hskip : (∀ d, members.lookup key = some d → d = .null) →
        js.lookup key = none ∨ js.lookup key = some .null →
        js'.lookup key = none ∨ js'.lookup key = some .null →
        ((Fields.field key t rest).Equal value value' ↔
          (Fields.field key t rest).ReadAlike members members') := by
      intro hnull hj hj'
      rw [Fields.reads_field_skip hj] at hv
      rw [Fields.reads_field_skip hj'] at hw
      rw [Fields.Equal, Fields.ReadAlike, hrest hv.2 hw.2, hv.1, hw.1]
      apply and_congr_left
      intro _
      exact iff_of_true (option_rel_refl (FieldType.equal_refl t) initial.1)
        fun d d' hd _ hd0 => absurd (hnull d hd) hd0
    cases hd : members.lookup key with
    | none =>
      have hd' := lookup_none hlookup hd
      refine hskip (by simp [hd]) (Or.inl ?_) (Or.inl ?_)
      · exact lookup_none (hjs.lookup key) hd
      · exact lookup_none (hjs'.lookup key) hd'
    | some d =>
      obtain ⟨d', hd', hrespelled⟩ := lookup_read hlookup hd
      obtain ⟨j, hj, hparse⟩ := lookup_read (hjs.lookup key) hd
      obtain ⟨j', hj', hparse'⟩ := lookup_read (hjs'.lookup key) hd'
      by_cases hnull : d = .null
      · have hnull' := hrespelled.null_iff.mp hnull
        rw [(Document.stored hparse).null_iff] at hnull
        rw [(Document.stored hparse').null_iff] at hnull'
        refine hskip ?_ (Or.inr (hnull ▸ hj)) (Or.inr (hnull' ▸ hj'))
        intro e he
        rw [hd, Option.some.injEq] at he
        rw [← he, (Document.stored hparse).null_iff, hnull]
      · have hnull' := mt hrespelled.null_iff.mpr hnull
        rw [Fields.reads_field_read hj (mt (Document.stored hparse).null_iff.mpr hnull)] at hv
        rw [Fields.reads_field_read hj' (mt (Document.stored hparse').null_iff.mpr hnull')] at hw
        obtain ⟨⟨v, hvalue, hv⟩, hvrest⟩ := hv
        obtain ⟨⟨w, hvalue', hw⟩, hwrest⟩ := hw
        rw [Fields.Equal, Fields.ReadAlike, hrest hvrest hwrest, hvalue, hvalue',
          Option.rel_some_some,
          FieldType.equal_iff t ht d d' j j' v w hrespelled hparse hparse' hv hw]
        simp [hd, hd', hnull]

end

/-- The document is parsed, and the struct is read from what is stored for it. -/
def Fields.decodeDocument (fields : Fields) (initial : fields.Val) (d : Document) :
    Except JsonError fields.Val :=
  match d.parse with
  | some j => fields.jdeserialize initial j
  | none => .error .parsingFailed

/-- Both documents are accepted or both are rejected, and they are decoded to equal models. -/
def Fields.DecodedAlike (fields : Fields) (initial : fields.Val) (d d' : Document) : Prop :=
  ((∃ v, fields.decodeDocument initial d = .ok v) ↔
      ∃ w, fields.decodeDocument initial d' = .ok w) ∧
    ∀ v w, fields.decodeDocument initial d = .ok v → fields.decodeDocument initial d' = .ok w →
      fields.Equal v w

section Alike

variable {fields : Fields} {initial : fields.Val} {d d' : Document} {j : Json}

theorem Fields.decodeDocument_ok {v : fields.Val} : fields.decodeDocument initial d = .ok v ↔
    ∃ j, d.parse = some j ∧ fields.jdeserialize initial j = .ok v := by
  rw [decodeDocument]
  cases d.parse <;> simp

theorem FieldType.decodable_iff {t : FieldType} (hj : d.parse = some j) :
    t.Decodable j ↔ t.Admits d ∧ t.Spelled d := by
  have hevery := @FieldType.every_and Native.Admits Native.Spelled False True t d
  rw [false_and] at hevery
  rw [FieldType.decodable_iff_every t d j hj, hevery, FieldType.Admits, FieldType.Spelled]

/-- What is accepted: values that the fields can hold, with numbers that are not too big and that
are written as the fields read them. -/
theorem Fields.exists_ok_iff (hmaps : fields.mapped ≠ []) (h : fields.Populated) :
    (∃ v, fields.decodeDocument initial d = .ok v) ↔
      (FieldType.model fields).Admits d ∧ d.InRange ∧ (FieldType.model fields).Spelled d := by
  have hstored : ∀ j, (∃ v, fields.jdeserialize initial j = .ok v) ↔
      (FieldType.model fields).Decodable j := by
    intro j
    simp only [Fields.ok_iff_object hmaps (Fields.jdeserialize_ok fields h initial),
      exists_object_iff, Fields.exists_reads]
    cases j <;> simp [FieldType.Decodable]
  simp only [decodeDocument_ok, Document.InRange, Option.isSome_iff_exists]
  constructor
  · rintro ⟨v, j, hj, hv⟩
    obtain ⟨hadmits, hspelled⟩ := (FieldType.decodable_iff hj).mp ((hstored j).mp ⟨v, hv⟩)
    exact ⟨hadmits, ⟨j, hj⟩, hspelled⟩
  · rintro ⟨hadmits, ⟨j, hj⟩, hspelled⟩
    obtain ⟨v, hv⟩ := (hstored j).mpr ((FieldType.decodable_iff hj).mpr ⟨hadmits, hspelled⟩)
    exact ⟨v, j, hj, hv⟩

theorem JsonValueAdapter_exists_ok {t : Native} {name : String} (hj : d.parse = some j) :
    (∃ v, JsonValueAdapter t name j = .ok v) ↔
      (FieldType.native t).Admits d ∧ (FieldType.native t).Spelled d := by
  rw [← FieldType.decodable_iff hj]
  simp only [JsonValueAdapter_ok, Native.exists_decodes]
  rfl

theorem Native.admits_respelled {t : Native} (h : Respelled d d') (hadmits : t.Admits d) :
    t.Admits d' := by
  cases h with
  | same => exact hadmits
  | number hvalue => cases t <;> simp_all [Admits]
  | array => cases t <;> simp [Admits] at hadmits
  | object => cases t <;> simp [Admits] at hadmits

/-- Whether the fields can hold the values of a document does not depend on the spelling. -/
theorem FieldType.admits_respelled {t : FieldType} (h : Respelled d d') :
    t.Admits d ↔ t.Admits d' := by
  have hkeeps : ∀ d d', Respelled d d' → t.Admits d → t.Admits d' :=
    FieldType.every_respelled (P := Native.Admits) (Q := Native.Admits)
      (fun _ _ _ h => Native.admits_respelled h) t
  exact ⟨hkeeps d d' h, hkeeps d' d h.symm⟩

/-- Two spellings of one document are decoded alike when the fields cannot hold its values, or
when both or neither are spelled as the fields read them, and the parser takes the floats and
doubles of the one to those of the other. -/
theorem Fields.decodedAlike_iff (hmaps : fields.mapped ≠ []) (h : fields.Populated)
    (hmapless : fields.mapless) (hrespelled : Respelled d d') :
    fields.DecodedAlike initial d d' ↔ ((FieldType.model fields).Admits d →
      (d.InRange ∧ (FieldType.model fields).Spelled d ↔
          d'.InRange ∧ (FieldType.model fields).Spelled d') ∧
        (d.InRange ∧ (FieldType.model fields).Spelled d →
          (FieldType.model fields).ReadAlike d d')) := by
  have hequal : ∀ v w, fields.decodeDocument initial d = .ok v →
      fields.decodeDocument initial d' = .ok w →
      (fields.Equal v w ↔ (FieldType.model fields).ReadAlike d d') := by
    intro v w hv hw
    obtain ⟨j, hj, hv⟩ := decodeDocument_ok.mp hv
    obtain ⟨j', hj', hw⟩ := decodeDocument_ok.mp hw
    rw [ok_iff_object hmaps (jdeserialize_ok fields h initial)] at hv hw
    exact object_equal_iff (equal_iff fields hmapless initial) d d' j j' v w hrespelled hj hj' hv hw
  have hadmits := FieldType.admits_respelled (t := .model fields) hrespelled
  have hok_iff : ∀ doc : Document, (∃ v, fields.decodeDocument initial doc = .ok v) ↔ _ :=
    fun _ => exists_ok_iff hmaps h
  rw [DecodedAlike, hok_iff, hok_iff, ← hadmits]
  constructor
  · rintro ⟨haccepted, hvalues⟩ hd
    simp only [hd, true_and] at haccepted
    refine ⟨haccepted, fun hok => ?_⟩
    obtain ⟨v, hv⟩ := (hok_iff d).mpr ⟨hd, hok⟩
    obtain ⟨w, hw⟩ := (hok_iff d').mpr ⟨hadmits.mp hd, haccepted.mp hok⟩
    exact (hequal v w hv hw).mp (hvalues v w hv hw)
  · intro hcond
    refine ⟨and_congr_right fun hd => (hcond hd).1, fun v w hv hw => ?_⟩
    obtain ⟨hd, hok⟩ := (exists_ok_iff hmaps h).mp ⟨v, hv⟩
    exact (hequal v w hv hw).mpr ((hcond hd).2 hok)

end Alike

end MediasoupSdk
