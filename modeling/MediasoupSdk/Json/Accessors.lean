import MediasoupSdk.Json.Decoder

/-! The decoder at the level of rapidjson's accessors. An accessor asserts the kind of the value
it is applied to; the decoder checks kinds in several layers, and an inner layer relies on the
checks of an outer one. -/
namespace MediasoupSdk

open Foundation

/-- How a run of the decoder may stop. -/
inductive Stop where
  | assertion
  | exception (e : JsonError)
  deriving DecidableEq

namespace Json

def isNull : Json → Bool
  | .null => true
  | _ => false

def isBool : Json → Bool
  | .bool _ => true
  | _ => false

/-- `IsInt` and `IsInt64`. -/
def isInt (width : ℕ) (j : Json) : Bool := (j.getInt width).isSome

def isDouble : Json → Bool
  | .double _ => true
  | _ => false

def isString : Json → Bool
  | .string _ => true
  | _ => false

def isArray : Json → Bool
  | .array _ => true
  | _ => false

def isObject : Json → Bool
  | .object _ => true
  | _ => false

def readBool : Json → Except Stop Bool
  | .bool b => .ok b
  | _ => .error .assertion

/-- `GetInt` and `GetInt64`. -/
def readInt (width : ℕ) (j : Json) : Except Stop (IntN width) :=
  match j.getInt width with
  | some i => .ok i
  | none => .error .assertion

/-- `GetDouble` accepts every kind of number. -/
def readDouble : Json → Except Stop binary64.Value
  | .double x => .ok x
  | .int i => .ok (binary64.ofRat i)
  | _ => .error .assertion

def readString : Json → Except Stop String
  | .string s => .ok s
  | _ => .error .assertion

/-- The range from `Begin` to `End`. -/
def elements : Json → Except Stop (List Json)
  | .array items => .ok items
  | _ => .error .assertion

/-- The range from `MemberBegin` to `MemberEnd`. -/
def memberRange : Json → Except Stop (List (String × Json))
  | .object members => .ok members
  | _ => .error .assertion

/-- `FindMember`; the end iterator is `none`. -/
def findMember (j : Json) (name : String) : Except Stop (Option Json) :=
  match j with
  | .object members => .ok (members.lookup name)
  | _ => .error .assertion

def hasMember (j : Json) (name : String) : Except Stop Bool := do
  return (← j.findMember name).isSome

/-- The value at an iterator, which must not be the end iterator. -/
def value : Option Json → Except Stop Json
  | some j => .ok j
  | none => .error .assertion

end Json

/-- `throw JsonTypeMismatch` unless the test succeeded. -/
def checkKind (test : Bool) (name : String) : Except Stop Unit :=
  if test then .ok () else .error (.exception (.typeMismatch name))

/-- The loop that assigns the members of an object. -/
def assignMembers {α : Type} (read : String → Json → Except Stop α) :
    List (String × Json) → OrderedMap String α → Except Stop (OrderedMap String α)
  | [], value => .ok value
  | (k, j) :: rest, value => do
    let v ← read k j
    assignMembers read rest (value.assign k v)

/-- `JsonValueAdapter::operator()`. -/
def Native.adapt : (t : Native) → String → Json → Except Stop t.Val
  | .bool, name, j => do
    checkKind j.isBool name
    j.readBool
  | .int, name, j => do
    checkKind (j.isInt 32) name
    j.readInt 32
  | .int64, name, j => do
    checkKind (j.isInt 64) name
    j.readInt 64
  | .float, name, j => do
    checkKind j.isDouble name
    return (← j.readDouble).convert binary32
  | .double, name, j => do
    checkKind j.isDouble name
    j.readDouble
  | .string, name, j => do
    checkKind j.isString name
    return cStr (← j.readString)
  | .vector t, name, j => do
    checkKind j.isArray name
    (← j.elements).mapM (t.adapt name)
  | .map t, name, j => do
    checkKind j.isObject name
    assignMembers t.adapt (← j.memberRange) .empty

/-- The object after `jdeserialize` returned normally. -/
def completed {α : Type} (result : α × Except Stop Unit) : Except Stop α :=
  result.2.map fun _ => result.1

/-- `backward` of an optional member. A member that is absent or null keeps its value. -/
def optionalBackward {α : Type} (decode : Json → String → Except Stop α) (value : Option α)
    (jlist : Json) (name : String) : Except Stop (Option α) := do
  checkKind jlist.isObject name
  if ← jlist.hasMember name then
    let member ← Json.value (← jlist.findMember name)
    if member.isNull then
      return value
    else
      return some (← decode jlist name)
  else
    return value

mutual

/-- `backward` of the serializer that the type selects. Each looks up its member again, and the
serializer of a native value and those of containers do not check the kind of the outer value. -/
def FieldType.decode : (t : FieldType) → Json → String → Except Stop t.Val
  | .native t, jlist, name => do
    match ← jlist.findMember name with
    | none => .error (.exception (.missingKey name))
    | some member => t.adapt name member
  | .model fields, jlist, name => do
    checkKind jlist.isObject name
    match ← jlist.findMember name with
    | none => .error (.exception (.missingKey name))
    | some member => completed (fields.decode fields.fresh member)
  | .vector fields, jlist, name => do
    match ← jlist.findMember name with
    | none => return []
    | some member =>
      checkKind member.isArray name
      (← member.elements).mapM fun j => completed (fields.decode fields.fresh j)
  | .map fields, jlist, name => do
    match ← jlist.findMember name with
    | none => return .empty
    | some member =>
      checkKind member.isObject name
      assignMembers (fun _ j => completed (fields.decode fields.fresh j))
        (← member.memberRange) .empty

/-- `jdeserialize`, with the object that is left behind when an exception is thrown. -/
def Fields.decode : (fields : Fields) → fields.Val → Json → fields.Val × Except Stop Unit
  | .nil, value, _ => (value, .ok ())
  | .field key t rest, (value, values), jlist =>
    match optionalBackward t.decode value jlist key with
    | .ok value =>
      let (values, outcome) := rest.decode values jlist
      ((value, values), outcome)
    | .error stop => ((value, values), .error stop)
  | .unmapped _ rest, (value, values), jlist =>
    let (values, outcome) := rest.decode values jlist
    ((value, values), outcome)

end

/-- `fromJsonString(data, error)`: the object and the error, with the three catch clauses. -/
def decodeText (R : Rapidjson) (fields : Fields) (initial : fields.Val) (data : String) :
    Except Stop (fields.Val × Option JsonError) :=
  match stringToJson R data with
  | .error e => .ok (initial, some e)
  | .ok json =>
    match fields.decode initial json with
    | (value, .ok ()) => .ok (value, none)
    | (value, .error (.exception e)) => .ok (value, some e)
    | (_, .error .assertion) => .error .assertion

/-- A result of the decoder, with its error as an exception. -/
def lifted {α : Type} (x : Except JsonError α) : Except Stop α := x.mapError .exception

section Lifted

variable {α β : Type}

@[simp] theorem lifted_ok (a : α) : lifted (.ok a) = .ok a := rfl

@[simp] theorem lifted_error (e : JsonError) :
    (lifted (.error e) : Except Stop α) = .error (.exception e) := rfl

theorem lifted_bind (x : Except JsonError α) (f : α → Except JsonError β) :
    lifted (x >>= f) = lifted x >>= fun a => lifted (f a) := by
  cases x <;> rfl

theorem lifted_mapM {f : Json → Except JsonError α} {g : Json → Except Stop α}
    (h : ∀ j, g j = lifted (f j)) (items : List Json) :
    items.mapM g = lifted (items.mapM f) := by
  induction items with
  | nil => rfl
  | cons j items ih =>
    rw [List.mapM_cons, List.mapM_cons, h, ih]
    cases f j with
    | error e => rfl
    | ok v => cases items.mapM f <;> rfl

theorem lifted_readMap {f : String → Json → Except JsonError α} {g : String → Json → Except Stop α}
    (h : ∀ k j, g k j = lifted (f k j)) (members : List (String × Json))
    (m : OrderedMap String α) :
    assignMembers g members m = lifted (readMap f members m) := by
  induction members generalizing m with
  | nil => rfl
  | cons e rest ih =>
    obtain ⟨k, j⟩ := e
    rw [assignMembers, readMap, h]
    cases f k j with
    | error e => rfl
    | ok v => exact ih _

end Lifted

theorem readInt_eq (width : ℕ) (name : String) (j : Json) :
    (do
      checkKind (j.isInt width) name
      j.readInt width) =
      lifted ((j.getInt width).elim (.error (.typeMismatch name)) .ok) := by
  simp only [Json.isInt, Json.readInt]
  cases j.getInt width <;> rfl

/-- The adapter checks the kind of a value before it reads it. -/
theorem Native.adapt_eq (t : Native) (name : String) (j : Json) :
    t.adapt name j = lifted (JsonValueAdapter t name j) := by
  induction t generalizing name j with
  | int => exact readInt_eq 32 name j
  | int64 => exact readInt_eq 64 name j
  | vector t ih =>
    cases j with
    | array items => exact lifted_mapM (ih name) items
    | _ => rfl
  | map t ih =>
    cases j with
    | object members => exact lifted_readMap ih members _
    | _ => rfl
  | _ => cases j <;> rfl

section Optional

variable {α : Type} {decode : Json → String → Except Stop α} {value : Option α}
  {members : List (String × Json)} {name : String}

theorem optionalBackward_skip
    (h : members.lookup name = none ∨ members.lookup name = some .null) :
    optionalBackward decode value (.object members) name = .ok value := by
  rcases h with h | h <;>
    simp [optionalBackward, checkKind, Json.isObject, Json.hasMember, Json.findMember, Json.value,
      h, Json.isNull, bind, Except.bind, pure, Except.pure]

theorem optionalBackward_read {j : Json} (h : members.lookup name = some j) (hj : j ≠ .null) :
    optionalBackward decode value (.object members) name =
      (decode (.object members) name).map some := by
  have hnull : j.isNull = false := by
    cases j with
    | null => exact absurd rfl hj
    | _ => rfl
  simp only [optionalBackward, checkKind, Json.isObject, Json.hasMember, Json.findMember,
    Json.value, h, hnull, bind, Except.bind, pure, Except.pure, if_true, Option.isSome_some]
  cases decode (.object members) name <;> rfl

end Optional

mutual

theorem FieldType.decode_eq : (t : FieldType) → (members : List (String × Json)) →
    (name : String) → (j : Json) → members.lookup name = some j →
    t.decode (.object members) name = lifted (t.backward name j)
  | .native t, members, name, j, h => by
    simp only [FieldType.decode, Json.findMember, h]
    exact Native.adapt_eq t name j
  | .model fields, members, name, j, h => by
    simp only [FieldType.decode, Json.findMember, h]
    exact Fields.decode_eq fields fields.fresh j
  | .vector fields, members, name, j, h => by
    simp only [FieldType.decode, Json.findMember, h]
    cases j with
    | array items => exact lifted_mapM (Fields.decode_eq fields fields.fresh) items
    | _ => rfl
  | .map fields, members, name, j, h => by
    simp only [FieldType.decode, Json.findMember, h]
    cases j with
    | object inner =>
      exact lifted_readMap (fun _ => Fields.decode_eq fields fields.fresh) inner .empty
    | _ => rfl

/-- No accessor is applied to a value of the wrong kind. -/
theorem Fields.decode_eq : (fields : Fields) → (initial : fields.Val) → (j : Json) →
    completed (fields.decode initial j) = lifted (fields.jdeserialize initial j)
  | .nil, _, _ => rfl
  | .unmapped t rest, initial, j => by
    have ih := Fields.decode_eq rest initial.2 j
    simp only [Fields.jdeserialize, lifted_bind, ← ih]
    simp only [Fields.decode, completed]
    cases (rest.decode initial.2 j).2 <;> rfl
  | .field key t rest, initial, j => by
    cases j with
    | object members =>
      have ih := Fields.decode_eq rest initial.2 (.object members)
      rcases Fields.member_cases members key with hskip | ⟨j, hj, hnull⟩
      · simp only [Fields.jdeserialize_field_skip hskip, lifted_bind, ← ih]
        simp only [Fields.decode, optionalBackward_skip hskip, completed]
        cases (rest.decode initial.2 (.object members)).2 <;> rfl
      · simp only [Fields.jdeserialize_field_read hj hnull, lifted_bind, ← ih]
        simp only [Fields.decode, optionalBackward_read hj hnull,
          FieldType.decode_eq t members key j hj, completed]
        cases t.backward key j with
        | error e => rfl
        | ok v => cases (rest.decode initial.2 (.object members)).2 <;> rfl
    | _ => rfl

end

theorem completed_ok {α : Type} {result : α × Except Stop Unit} {a : α} :
    completed result = .ok a ↔ result = (a, .ok ()) := by
  obtain ⟨value, outcome⟩ := result
  cases outcome <;> simp [completed, Except.map]

theorem completed_error {α : Type} {result : α × Except Stop Unit} {stop : Stop} :
    completed result = .error stop ↔ result.2 = .error stop := by
  obtain ⟨value, outcome⟩ := result
  cases outcome <;> simp [completed, Except.map]

/-- `fromJsonString` always returns an object. Its error is empty exactly when the text is a
document that the model reads, and then the object is what was read. -/
theorem decodeText_returns (R : Rapidjson) (fields : Fields) (initial : fields.Val)
    (data : String) : ∃ value error, decodeText R fields initial data = .ok (value, error) ∧
      ∀ v, fromJsonString R fields initial data = .ok v ↔ error = none ∧ value = v := by
  rw [decodeText, fromJsonString]
  cases stringToJson R data with
  | error e => exact ⟨initial, some e, rfl, by simp [bind, Except.bind]⟩
  | ok json =>
    have heq := Fields.decode_eq fields initial json
    cases hd : fields.jdeserialize initial json with
    | ok value =>
      rw [hd, lifted_ok, completed_ok] at heq
      exact ⟨value, none, by simp only [heq], by simp [bind, Except.bind, hd]⟩
    | error e =>
      rw [hd, lifted_error, completed_error] at heq
      cases hr : fields.decode initial json with
      | mk value outcome =>
        simp only [hr] at heq
        exact ⟨value, some e, by simp only [hr, heq], by simp [bind, Except.bind, hd]⟩

end MediasoupSdk
