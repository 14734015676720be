import MediasoupSdk.Foundation.BinaryFormat
import Mathlib.Data.List.TakeWhile

/-! JSON documents as rapidjson stores them. Integers and doubles are different kinds of
number; an object keeps its members in order and may repeat a name. -/
namespace MediasoupSdk

open Foundation

inductive Json where
  | null
  | bool (b : Bool)
  | int (i : ℤ)
  | double (x : binary64.Value)
  | string (s : String)
  | array (items : List Json)
  | object (members : List (String × Json))

/-- A signed machine integer of the given width. -/
abbrev IntN (width : ℕ) := {i : ℤ // -2 ^ (width - 1) ≤ i ∧ i < 2 ^ (width - 1)}

/-- The conversion to a narrower signed integer keeps the low bits. -/
def wrap (width : ℕ) (i : ℤ) : ℤ := Int.bmod i (2 ^ width)

theorem wrap_of_mem {width : ℕ} (hw : 0 < width) {i : ℤ}
    (h : -2 ^ (width - 1) ≤ i ∧ i < 2 ^ (width - 1)) : wrap width i = i := by
  obtain ⟨w, rfl⟩ : ∃ w, width = w + 1 := ⟨width - 1, by omega⟩
  simp only [Nat.add_sub_cancel] at h
  apply Int.bmod_eq_of_le
  · push_cast
    rw [pow_succ]
    omega
  · push_cast
    rw [pow_succ]
    omega

theorem wrap_eq_self_iff {width : ℕ} (hw : 0 < width) {i : ℤ} :
    wrap width i = i ↔ -2 ^ (width - 1) ≤ i ∧ i < 2 ^ (width - 1) := by
  constructor
  · intro h
    obtain ⟨w, rfl⟩ : ∃ w, width = w + 1 := ⟨width - 1, by omega⟩
    have hpos : 0 < 2 ^ (w + 1) := by positivity
    have hlow := Int.le_bmod (x := i) hpos
    have hhigh := Int.bmod_lt (x := i) hpos
    rw [show Int.bmod i (2 ^ (w + 1)) = i from h] at hlow hhigh
    push_cast at hlow hhigh
    rw [pow_succ] at hlow hhigh
    rw [Nat.add_sub_cancel]
    omega
  · exact wrap_of_mem hw

/-- Two integers are narrowed to one exactly when their low bits agree. -/
theorem wrap_eq_wrap_iff {width : ℕ} {i j : ℤ} :
    wrap width i = wrap width j ↔ i % 2 ^ width = j % 2 ^ width := by
  have hmod : ∀ k : ℤ, wrap width k % 2 ^ width = k % 2 ^ width := by
    intro k
    have h := Int.bmod_emod (x := k) (m := 2 ^ width)
    push_cast at h
    exact h
  have hwrap : ∀ k : ℤ, wrap width (k % 2 ^ width) = wrap width k := by
    intro k
    have h := Int.emod_bmod k (2 ^ width)
    push_cast at h
    exact h
  constructor
  · intro h
    rw [← hmod i, h, hmod]
  · intro h
    rw [← hwrap i, h, hwrap]

/-- The characters before the first NUL, as `c_str` and `GetString` are read back. -/
def cStr (s : String) : String := String.ofList (s.toList.takeWhile (· ≠ '\x00'))

theorem cStr_eq_self_iff {s : String} : cStr s = s ↔ '\x00' ∉ s.toList := by
  have h : cStr s = s ↔ s.toList.takeWhile (· ≠ '\x00') = s.toList := by
    rw [cStr]
    constructor
    · intro h
      have := congrArg String.toList h
      simpa using this
    · intro h
      rw [h, String.ofList_toList]
  rw [h, List.takeWhile_eq_self_iff]
  constructor
  · intro hall hmem
    simpa using hall _ hmem
  · intro hnot c hc
    simp only [ne_eq, decide_not, Bool.not_eq_eq_eq_not, Bool.not_true, decide_eq_false_iff_not]
    rintro rfl
    exact hnot hc

theorem cStr_ofList {l : List Char} (h : '\x00' ∉ l) :
    cStr (String.ofList l) = String.ofList l :=
  cStr_eq_self_iff.mpr (by rwa [String.toList_ofList])

namespace Json

/-- `IsInt` and `GetInt`, `IsInt64` and `GetInt64`: integers of the asked width only. -/
def getInt (width : ℕ) : Json → Option (IntN width)
  | .int i => if h : -2 ^ (width - 1) ≤ i ∧ i < 2 ^ (width - 1) then some ⟨i, h⟩ else none
  | _ => none

end Json

inductive JsonError where
  | parsingFailed
  | missingKey (name : String)
  | typeMismatch (name : String)
  deriving DecidableEq, Repr

/-- The JSON text layer: rapidjson's parser as a function of the text. -/
structure Rapidjson where
  parse : String → Option Json

/-- A text is parsed up to its first NUL. -/
def stringToJson (R : Rapidjson) (data : String) : Except JsonError Json :=
  match R.parse (cStr data) with
  | some j => .ok j
  | none => .error .parsingFailed

end MediasoupSdk
