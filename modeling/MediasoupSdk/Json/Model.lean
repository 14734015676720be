import MediasoupSdk.Foundation.OrderedMap
import MediasoupSdk.Json.Value
import Mathlib.Data.String.Basic

/-! The mapping engine behind `FIELDS_MAP`. A model is described by its fields; the
description gives the type of its values and the decoder that reads them from a document. -/
namespace MediasoupSdk

open Foundation

/-- The types that `is_native_type` accepts. -/
inductive Native where
  | bool
  | int
  | int64
  | float
  | double
  | string
  | vector (t : Native)
  | map (t : Native)
  deriving DecidableEq, Repr

abbrev Native.Val : Native → Type
  | .bool => Bool
  | .int => IntN 32
  | .int64 => IntN 64
  | .float => binary32.Value
  | .double => binary64.Value
  | .string => String
  | .vector t => List t.Val
  | .map t => OrderedMap String t.Val

/-- Decode the members in order; a repeated key keeps the last value. -/
def readMap {α : Type} (read : String → Json → Except JsonError α) :
    List (String × Json) → OrderedMap String α → Except JsonError (OrderedMap String α)
  | [], value => .ok value
  | (k, j) :: rest, value =>
    match read k j with
    | .ok v => readMap read rest (value.assign k v)
    | .error e => .error e

/-- `JsonValueAdapter::operator()`: every kind of value is checked before it is read. -/
def JsonValueAdapter : (t : Native) → String → Json → Except JsonError t.Val
  | .bool, _, .bool b => .ok b
  | .int, name, j => (j.getInt 32).elim (.error (.typeMismatch name)) .ok
  | .int64, name, j => (j.getInt 64).elim (.error (.typeMismatch name)) .ok
  | .float, _, .double x => .ok (x.convert binary32)
  | .double, _, .double x => .ok x
  | .string, _, .string s => .ok (cStr s)
  | .vector t, name, .array items => items.mapM (JsonValueAdapter t name)
  | .map t, _, .object members => readMap (JsonValueAdapter t) members .empty
  | _, name, _ => .error (.typeMismatch name)

mutual

/-- The type of a field: a native value, a model, or a container of models. -/
inductive FieldType where
  | native (t : Native)
  | model (fields : Fields)
  | vector (fields : Fields)
  | map (fields : Fields)

/-- The optional members of a model. A field of `FIELDS_MAP` has a key; a declared member
that the macro leaves out is `unmapped`. -/
inductive Fields where
  | nil
  | field (key : String) (t : FieldType) (rest : Fields)
  | unmapped (t : FieldType) (rest : Fields)

end

mutual

abbrev FieldType.Val : FieldType → Type
  | .native t => t.Val
  | .model fields => fields.Val
  | .vector fields => List fields.Val
  | .map fields => OrderedMap String fields.Val

/-- A value of a model: each member is engaged or not. -/
abbrev Fields.Val : Fields → Type
  | .nil => Unit
  | .field _ t rest => Option t.Val × rest.Val
  | .unmapped t rest => Option t.Val × rest.Val

end

/-- A fresh object whose members are all disengaged. -/
def Fields.fresh : (fields : Fields) → fields.Val
  | .nil => ()
  | .field _ _ rest => (none, rest.fresh)
  | .unmapped _ rest => (none, rest.fresh)

mutual

/-- The `backward` functions, applied to a member that is present and not null. -/
def FieldType.backward : (t : FieldType) → String → Json → Except JsonError t.Val
  | .native t, name, j => JsonValueAdapter t name j
  | .model fields, _, j => fields.jdeserialize fields.fresh j
  | .vector fields, _, .array items => items.mapM (fields.jdeserialize fields.fresh)
  | .map fields, _, .object members =>
    readMap (fun _ => fields.jdeserialize fields.fresh) members .empty
  | .vector _, name, _ => .error (.typeMismatch name)
  | .map _, name, _ => .error (.typeMismatch name)

/-- `jdeserialize`: the fields in the order of the macro. A member that is absent or null
leaves the value that the object already has. -/
def Fields.jdeserialize : (fields : Fields) → fields.Val → Json → Except JsonError fields.Val
  | .nil, _, _ => .ok ()
  | .field key t rest, (value, values), .object members =>
    match members.lookup key with
    | none | some .null => do
      let values ← rest.jdeserialize values (.object members)
      return (value, values)
    | some member => do
      let value ← t.backward key member
      let values ← rest.jdeserialize values (.object members)
      return (some value, values)
  | .field key _ _, _, _ => .error (.typeMismatch key)
  | .unmapped _ rest, (value, values), j => do
    let values ← rest.jdeserialize values j
    return (value, values)

end

/-- `fromJsonString(data, error)`; the partial object of a failed call is never used. -/
def fromJsonString (R : Rapidjson) (fields : Fields) (initial : fields.Val) (data : String) :
    Except JsonError fields.Val := do
  let json ← stringToJson R data
  fields.jdeserialize initial json

end MediasoupSdk
