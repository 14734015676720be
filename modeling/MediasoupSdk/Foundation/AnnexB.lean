import Mathlib.Data.List.Infix
import Mathlib.Tactic

/-! Byte streams of units that begin with start codes: where the next start code ends. -/
namespace Foundation

/-- The code that begins a unit; a long code is a short one with a zero before it. -/
inductive StartCode where
  | three
  | four
  deriving DecidableEq, Repr

def StartCode.bytes : StartCode → List UInt8
  | .three => [0, 0, 1]
  | .four => [0, 0, 0, 1]

structure NalUnit where
  code : StartCode
  payload : List UInt8
  deriving DecidableEq, Repr

def NalUnit.bytes (u : NalUnit) : List UInt8 := u.code.bytes ++ u.payload

def annexB (us : List NalUnit) : List UInt8 := us.flatMap NalUnit.bytes

/-- A payload holds no start code, and the code after it begins where it ends. -/
structure Plain (payload : List UInt8) : Prop where
  noCode : ¬ StartCode.three.bytes <:+: payload
  noZero : payload.getLast? ≠ some 0

/-- Bytes after which a start code is first seen at its end, by one who looks at no less than five
bytes. -/
structure Scans (body : List UInt8) : Prop where
  quiet : ∀ (c : StartCode) (seen : List UInt8), seen <+: body ++ c.bytes →
    seen ≠ body ++ c.bytes → 4 < seen.length → ¬ StartCode.three.bytes <:+ seen
  noZero : body.getLast? ≠ some 0

variable {payload body seen : List UInt8} {c : StartCode}

/-- The bytes of a code before its last. -/
def StartCode.zeros : StartCode → List UInt8
  | .three => [0, 0]
  | .four => [0, 0, 0]

theorem StartCode.bytes_eq (c : StartCode) : c.bytes = c.zeros ++ [1] := by
  cases c <;> rfl

theorem StartCode.eq_zero_of_mem {b : UInt8} (h : b ∈ c.zeros) : b = 0 := by
  cases c <;> simpa [zeros] using h

theorem getLast_of_three_suffix (h : StartCode.three.bytes <:+ seen) : seen.getLast? = some 1 := by
  obtain ⟨before, rfl⟩ := h
  simp [StartCode.bytes]

/-- What comes before the last byte of a code is in the body, or ends with a zero. -/
theorem prefix_body_or_zero (hseen : seen <+: body ++ c.bytes) (hne : seen ≠ body ++ c.bytes) :
    seen <+: body ∨ seen.getLast? = some 0 := by
  rw [StartCode.bytes_eq, ← List.append_assoc] at hseen hne
  obtain ⟨rest, hrest⟩ := (List.prefix_concat_iff.mp hseen).resolve_left hne
  rcases List.append_eq_append_iff.mp hrest with ⟨more, rfl, -⟩ | ⟨zeros, rfl, hzeros⟩
  · exact Or.inl (List.prefix_append seen more)
  · rcases List.eq_nil_or_concat zeros with rfl | ⟨init, last, rfl⟩
    · exact Or.inl (by simp)
    · have hlast : last = 0 := c.eq_zero_of_mem (by simp [hzeros])
      exact Or.inr (by simp [hlast])

/-- A start code is not seen before its last byte. -/
theorem not_suffix_of_body (hbody : seen <+: body → ¬ StartCode.three.bytes <:+ seen)
    (hseen : seen <+: body ++ c.bytes) (hne : seen ≠ body ++ c.bytes) :
    ¬ StartCode.three.bytes <:+ seen := by
  rcases prefix_body_or_zero hseen hne with h | hzero
  · exact hbody h
  · intro hsuffix
    rw [getLast_of_three_suffix hsuffix] at hzero
    cases hzero

theorem Plain.scans (h : Plain payload) : Scans payload := by
  constructor
  · intro c seen hseen hne _
    refine not_suffix_of_body (fun hprefix hsuffix => ?_) hseen hne
    exact h.noCode (hsuffix.isInfix.trans hprefix.isInfix)
  · exact h.noZero

/-- A code that ends behind another lies wholly behind it. -/
theorem three_suffix_of_behind {before : List UInt8} (hne : seen ≠ [])
    (h : StartCode.three.bytes <:+ before ++ 1 :: seen) : StartCode.three.bytes <:+ seen := by
  have hbehind : seen <:+ before ++ 1 :: seen := (List.suffix_cons 1 seen).trans
    (List.suffix_append before _)
  match seen, hne with
  | [x], _ =>
    obtain ⟨front, hfront⟩ := h
    have hsplit : (front ++ [0]) ++ [0, 1] = before ++ [1, x] := by
      simpa [StartCode.bytes] using hfront
    exact absurd (List.cons.inj (List.append_inj' hsplit rfl).2).1 (by decide)
  | [x, y], _ =>
    obtain ⟨front, hfront⟩ := h
    exact absurd (List.cons.inj (List.append_inj' hfront rfl).2).1 (by decide)
  | x :: y :: z :: rest, _ =>
    exact List.suffix_of_suffix_length_le h hbehind (by simp [StartCode.bytes])

/-- The first unit of a stream is seen with its own code. -/
theorem Plain.scans_first {u : NalUnit} (h : Plain u.payload) : Scans u.bytes := by
  constructor
  · intro c seen hseen hne hlong
    refine not_suffix_of_body (fun hprefix hsuffix => ?_) hseen hne
    obtain ⟨rest, hrest⟩ := hprefix
    rw [NalUnit.bytes, StartCode.bytes_eq, List.append_assoc] at hrest
    have hshort : u.code.zeros.length ≤ 3 := by cases u.code <;> decide
    rcases List.append_eq_append_iff.mp hrest with ⟨more, hmore, -⟩ | ⟨tail, rfl, htail⟩
    · have hlength := congrArg List.length hmore
      rw [List.length_append] at hlength
      omega
    · cases tail with
      | nil =>
        rw [List.append_nil] at hlong
        omega
      | cons b tail =>
        obtain ⟨rfl, hpayload⟩ := List.cons.inj htail
        have hne : tail ≠ [] := by
          rintro rfl
          rw [List.length_append, List.length_singleton] at hlong
          omega
        have hbehind := (three_suffix_of_behind hne hsuffix).isInfix
        have hinfix := hbehind.trans (List.prefix_append tail rest).isInfix
        rw [show tail ++ rest = u.payload from hpayload.symm] at hinfix
        exact h.noCode hinfix
  · rw [NalUnit.bytes, List.getLast?_append]
    cases hlast : u.payload.getLast? with
    | none => cases u.code <;> simp [StartCode.bytes]
    | some b => simpa [hlast] using h.noZero

/-- The code at the end of a body is taken for what it is. -/
theorem Scans.four_suffix_iff (h : Scans body) :
    StartCode.four.bytes <:+ body ++ c.bytes ↔ c = .four := by
  constructor
  · rintro ⟨front, hfront⟩
    cases c with
    | three =>
      have hfront' : (front ++ [0]) ++ [0, 0, 1] = body ++ [0, 0, 1] := by
        simpa [StartCode.bytes] using hfront
      have hbody := (List.append_inj' hfront' rfl).1
      exact absurd (by simp [← hbody]) h.noZero
    | four => rfl
  · rintro rfl
    exact List.suffix_append _ _

theorem three_suffix_append (body : List UInt8) (c : StartCode) :
    StartCode.three.bytes <:+ body ++ c.bytes := by
  refine List.IsSuffix.trans ?_ (List.suffix_append body c.bytes)
  cases c with
  | three => exact List.suffix_refl _
  | four => exact ⟨[0], rfl⟩

variable {us : List NalUnit}

theorem annexB_append (us vs : List NalUnit) : annexB (us ++ vs) = annexB us ++ annexB vs :=
  List.flatMap_append

theorem annexB_cons (u : NalUnit) (us : List NalUnit) :
    annexB (u :: us) = u.code.bytes ++ (u.payload ++ annexB us) := by
  rw [annexB, List.flatMap_cons, NalUnit.bytes, List.append_assoc]
  rfl

theorem StartCode.length_le (c : StartCode) : 3 ≤ c.bytes.length ∧ c.bytes.length ≤ 4 := by
  cases c <;> decide

/-- A code that ends in the units behind some bytes lies in these units. -/
theorem three_suffix_of_units {before : List UInt8} (hseen : seen <+: annexB us) (hne : seen ≠ [])
    (h : StartCode.three.bytes <:+ before ++ seen) : StartCode.three.bytes <:+ seen := by
  by_cases hlong : 3 ≤ seen.length
  · exact List.suffix_of_suffix_length_le h (List.suffix_append before seen) hlong
  · cases us with
    | nil => exact absurd (List.prefix_nil.mp hseen) hne
    | cons u us =>
      rw [annexB_cons, StartCode.bytes_eq, List.append_assoc] at hseen
      have hzeros : seen <+: u.code.zeros := by
        refine List.prefix_of_prefix_length_le hseen (List.prefix_append _ _) ?_
        have hcode : 2 ≤ u.code.zeros.length := by cases u.code <;> decide
        omega
      have hlast := getLast_of_three_suffix h
      rw [List.getLast?_append_of_ne_nil _ hne] at hlast
      have hmem := hzeros.subset (List.mem_of_getLast? hlast)
      exact absurd (u.code.eq_zero_of_mem hmem) (by decide)

theorem StartCode.length_le_of_suffix (c : StartCode) {i : ℕ}
    (h : StartCode.three.bytes <:+ c.bytes.take i) : c.bytes.length ≤ i := by
  by_contra hlt
  have hmem := List.mem_of_getLast? (getLast_of_three_suffix h)
  rw [StartCode.bytes_eq] at hlt hmem
  rw [List.length_append, List.length_singleton] at hlt
  rw [List.take_append_of_le_length (by omega)] at hmem
  exact absurd (c.eq_zero_of_mem (List.mem_of_mem_take hmem)) (by decide)

/-- In a stream the start codes end where the payloads begin. -/
theorem three_suffix_take_iff (hus : ∀ u ∈ us, Plain u.payload) {i : ℕ}
    (hi : i ≤ (annexB us).length) :
    StartCode.three.bytes <:+ (annexB us).take i ↔
      ∃ before u after, us = before ++ u :: after ∧
        i = (annexB before ++ u.code.bytes).length := by
  constructor
  · intro h
    induction us generalizing i with
    | nil =>
      have hnil := h.length_le
      simp [annexB, StartCode.bytes] at hnil
    | cons u us ih =>
      rw [annexB_cons] at h hi
      by_cases hcode : i ≤ u.code.bytes.length
      · rw [List.take_append_of_le_length hcode] at h
        have hle := u.code.length_le_of_suffix h
        exact ⟨[], u, us, rfl, le_antisymm hcode hle⟩
      obtain ⟨j, rfl⟩ := Nat.exists_eq_add_of_le (Nat.le_of_not_le hcode)
      rw [List.take_length_add_append] at h
      have hne : (u.payload ++ annexB us).take j ≠ [] := by
        apply List.ne_nil_of_length_pos
        rw [List.length_take]
        rw [List.length_append] at hi
        omega
      rw [u.code.bytes_eq, List.append_assoc] at h
      have hbehind := three_suffix_of_behind hne h
      by_cases hpayload : j ≤ u.payload.length
      · rw [List.take_append_of_le_length hpayload] at hbehind
        have hplain := hus u List.mem_cons_self
        exact absurd (hbehind.isInfix.trans (List.take_prefix _ _).isInfix) hplain.noCode
      · obtain ⟨k, rfl⟩ := Nat.exists_eq_add_of_le (Nat.le_of_not_le hpayload)
        rw [List.take_length_add_append] at hbehind
        rw [List.length_append, List.length_append] at hi
        have hne' : (annexB us).take k ≠ [] := by
          apply List.ne_nil_of_length_pos
          rw [List.length_take]
          omega
        have hunits := three_suffix_of_units (List.take_prefix k _) hne' hbehind
        obtain ⟨before, v, after, rfl, rfl⟩ :=
          ih (fun v hv => hus v (List.mem_cons_of_mem u hv)) (by omega) hunits
        refine ⟨u :: before, v, after, rfl, ?_⟩
        rw [annexB_cons]
        simp only [List.length_append]
        omega
  · rintro ⟨before, u, after, rfl, rfl⟩
    have htake : (annexB (before ++ u :: after)).take (annexB before ++ u.code.bytes).length =
        annexB before ++ u.code.bytes := by
      rw [annexB_append, annexB_cons, ← List.append_assoc, ← List.append_assoc,
        List.append_assoc]
      exact List.take_left' rfl
    rw [htake]
    exact three_suffix_append _ _

end Foundation
