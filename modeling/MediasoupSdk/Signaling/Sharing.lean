import MediasoupSdk.Json.Value

/-! The application data that names a track, with its conversions to and from `nlohmann::json`.
A conversion that throws is `none`. -/
namespace MediasoupSdk
namespace Signaling

structure Sharing where
  trackName : String := ""
  deriving DecidableEq, Repr

structure SharingAppData where
  sharing : Sharing := {}
  deriving DecidableEq, Repr

end Signaling

namespace Json

/-- `j[key] = value`: the null value becomes an object, the members stay sorted. -/
def setMember (j : Json) (key : String) (value : Json) : Option Json :=
  match j with
  | .null => some (.object [(key, value)])
  | .object members => some (.object
      (members.filter (fun e => e.1 < key) ++ (key, value) ::
        members.filter (fun e => key < e.1)))
  | _ => none

/-- `contains(key)` -/
def contains (j : Json) (key : String) : Bool :=
  match j with
  | .object members => (members.lookup key).isSome
  | _ => false

/-- `at(key)` -/
def at? (j : Json) (key : String) : Option Json :=
  match j with
  | .object members => members.lookup key
  | _ => none

/-- `get_to` at a string. -/
def getString : Json → Option String
  | .string s => some s
  | _ => none

end Json

namespace Signaling

namespace Sharing

def toJson (j : Json) (st : Sharing) : Option Json := j.setMember "trackName" (.string st.trackName)

def fromJson (j : Json) (st : Sharing) : Option Sharing :=
  if j.contains "trackName" then do
    let trackName ← (← j.at? "trackName").getString
    return { st with trackName }
  else some st

end Sharing

namespace SharingAppData

def toJson (j : Json) (st : SharingAppData) : Option Json := do
  let sharing ← st.sharing.toJson .null
  j.setMember "sharing" sharing

def fromJson (j : Json) (st : SharingAppData) : Option SharingAppData :=
  if j.contains "sharing" then do
    let sharing ← Sharing.fromJson (← j.at? "sharing") st.sharing
    return { st with sharing }
  else some st

/-- The value that the two conversions agree on. -/
def document (trackName : String) : Json :=
  .object [("sharing", .object [("trackName", .string trackName)])]

theorem toJson_eq (st : SharingAppData) :
    st.toJson .null = some (document st.sharing.trackName) := rfl

/-- Members beside `sharing`, and members beside `trackName` in it, are not read. -/
theorem fromJson_of_lookup {members inner : List (String × Json)} {trackName : String}
    (hs : members.lookup "sharing" = some (.object inner))
    (ht : inner.lookup "trackName" = some (.string trackName)) (st : SharingAppData) :
    fromJson (.object members) st = some ⟨⟨trackName⟩⟩ := by
  simp [fromJson, Sharing.fromJson, Json.contains, Json.at?, Json.getString, hs, ht]

end SharingAppData
end Signaling
end MediasoupSdk
