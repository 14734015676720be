import Mathlib.Data.List.TakeWhile
import Mathlib.Tactic

/-! Strings that end at their first NUL, and their comparison without case. -/
namespace Foundation

/-- The bytes before the terminator. -/
structure CString where
  bytes : List UInt8
  noNul : 0 ∉ bytes := by decide
  deriving DecidableEq

/-- `tolower` in the C locale. -/
def tolower (b : UInt8) : UInt8 := if 65 ≤ b ∧ b ≤ 90 then b + 32 else b

theorem tolower_eq_zero_iff {b : UInt8} : tolower b = 0 ↔ b = 0 := by
  unfold tolower
  split_ifs with h
  · obtain ⟨hlow, hhigh⟩ := h
    rw [UInt8.le_iff_toNat_le] at hlow hhigh
    simp only [← UInt8.toNat_inj, UInt8.toNat_add, UInt8.toNat_ofNat] at *
    omega
  · rfl

namespace CString

/-- A buffer, read as a string. -/
def ofBuffer (buffer : List UInt8) : CString where
  bytes := buffer.takeWhile (· ≠ 0)
  noNul := fun h => by simpa using List.mem_takeWhile_imp h

def strlen (s : CString) : ℕ := s.bytes.length

/-- The first two bytes that differ decide; the terminator is below every byte. -/
def compareBytes : List UInt8 → List UInt8 → ℤ
  | [], [] => 0
  | [], b :: _ => -(tolower b).toNat
  | a :: _, [] => (tolower a).toNat
  | a :: as, b :: bs =>
    if tolower a = tolower b then compareBytes as bs
    else (tolower a).toNat - (tolower b).toNat

def strcasecmp (s t : CString) : ℤ := compareBytes s.bytes t.bytes

theorem ofBuffer_bytes {buffer : List UInt8} (h : 0 ∉ buffer) :
    (ofBuffer buffer).bytes = buffer := by
  apply List.takeWhile_eq_self_iff.mpr
  intro b hb
  have hne : b ≠ 0 := by
    rintro rfl
    exact h hb
  simpa using hne

/-- The length tells whether a NUL stands inside the buffer. -/
theorem strlen_ofBuffer {buffer : List UInt8} :
    (ofBuffer buffer).strlen = buffer.length ↔ 0 ∉ buffer := by
  constructor
  · intro h hnul
    have hstarts : (ofBuffer buffer).bytes <+: buffer := List.takeWhile_prefix _
    have hsame := hstarts.eq_of_length h
    exact (ofBuffer buffer).noNul (hsame.symm ▸ hnul)
  · intro h
    rw [strlen, ofBuffer_bytes h]

theorem compareBytes_eq_zero_iff {as bs : List UInt8} (ha : 0 ∉ as) (hb : 0 ∉ bs) :
    compareBytes as bs = 0 ↔ as.map tolower = bs.map tolower := by
  induction as generalizing bs with
  | nil =>
    cases bs with
    | nil => simp [compareBytes]
    | cons b bs =>
      have hne : tolower b ≠ 0 := fun h => hb (by simp [tolower_eq_zero_iff.mp h])
      simpa [compareBytes, ← UInt8.toNat_inj] using hne
  | cons a as ih =>
    cases bs with
    | nil =>
      have hne : tolower a ≠ 0 := fun h => ha (by simp [tolower_eq_zero_iff.mp h])
      simpa [compareBytes, ← UInt8.toNat_inj] using hne
    | cons b bs =>
      rw [compareBytes, List.map_cons, List.map_cons, List.cons.injEq]
      split_ifs with h
      · rw [ih (fun hm => ha (List.mem_cons_of_mem a hm)) fun hm => hb (List.mem_cons_of_mem b hm)]
        simp [h]
      · have hne : (tolower a).toNat ≠ (tolower b).toNat := fun he => h (UInt8.toNat_inj.mp he)
        simp only [h, false_and, iff_false]
        omega

theorem strcasecmp_eq_zero_iff {s t : CString} :
    s.strcasecmp t = 0 ↔ s.bytes.map tolower = t.bytes.map tolower :=
  compareBytes_eq_zero_iff s.noNul t.noNul

end CString

end Foundation
