import MediasoupSdk.Json.Value

/-! Numbers as they are written in a document, and what `ParseNumber` of rapidjson makes of them
with the default flags: an integer of 64 bits, or a double that is rounded in several steps. -/
namespace MediasoupSdk

open Foundation

/-- The digits that follow `i`, read as one number. -/
def appendDigits (i : ℕ) (digits : List (Fin 10)) : ℕ :=
  digits.foldl (fun i (c : Fin 10) => i * 10 + c.val) i

theorem appendDigits_append (i : ℕ) (l l' : List (Fin 10)) :
    appendDigits i (l ++ l') = appendDigits (appendDigits i l) l' :=
  List.foldl_append

theorem le_appendDigits (i : ℕ) (l : List (Fin 10)) : i ≤ appendDigits i l := by
  induction l generalizing i with
  | nil => exact le_refl i
  | cons c rest ih => exact le_trans (by omega) (ih (i * 10 + c))

/-- The exponent of a number: a sign and at least one digit. -/
structure ExponentText where
  minus : Bool
  first : Fin 10
  rest : List (Fin 10)
  deriving DecidableEq

/-- A number as JSON writes it; no `frac` means no decimal point. -/
structure NumberText where
  minus : Bool
  first : Fin 10
  rest : List (Fin 10)
  frac : List (Fin 10)
  exp : Option ExponentText
  noLeadingZero : first = 0 → rest = []
  deriving DecidableEq

namespace ExponentText

def value (e : ExponentText) : ℤ :=
  if e.minus then -appendDigits e.first e.rest else appendDigits e.first e.rest

/-- The digits of a positive exponent; beyond `maxExp` the number is too big. -/
def takePositive (maxExp : ℤ) : ℤ → List (Fin 10) → Option ℤ
  | exp, [] => some exp
  | exp, c :: rest =>
    if maxExp < exp * 10 + c then none else takePositive maxExp (exp * 10 + c) rest

/-- The digits of a negative exponent; beyond `maxExp` the rest is skipped. -/
def takeNegative (maxExp : ℤ) : ℤ → List (Fin 10) → ℤ
  | exp, [] => exp
  | exp, c :: rest =>
    if maxExp < exp * 10 + c then exp * 10 + c else takeNegative maxExp (exp * 10 + c) rest

def parse (e : ExponentText) (expFrac : ℤ) : Option ℤ :=
  if e.minus then some (-takeNegative ((expFrac + 2147483639) / 10) e.first e.rest)
  else takePositive (308 - expFrac) e.first e.rest

end ExponentText

/-- The literal `1e+n` of the table in pow10.h. -/
def Pow10 (n : ℕ) : ℚ := binary64.nearest (10 ^ n)

def FastPath (significand : binary64.Value) (exp : ℤ) : binary64.Value :=
  if exp < -308 then binary64.ofRat 0
  else if 0 ≤ exp then significand.map (· * Pow10 exp.toNat)
  else significand.map (· / Pow10 (-exp).toNat)

def StrtodNormalPrecision (d : binary64.Value) (p : ℤ) : binary64.Value :=
  if p < -308 then FastPath (FastPath d (-308)) (p + 308) else FastPath d p

namespace NumberText

/-- The number that is written. -/
def value (n : NumberText) : ℚ :=
  (if n.minus then -1 else 1) * appendDigits n.first (n.rest ++ n.frac) *
    10 ^ ((n.exp.elim 0 ExponentText.value) - n.frac.length)

/-- The digits of the integer, until the next one does not fit 64 bits. The loop over 32 bits
that precedes it in the source takes the same digits. -/
def takeInt (bound last : ℕ) : ℕ → List (Fin 10) → ℕ × List (Fin 10)
  | i, [] => (i, [])
  | i, c :: rest =>
    if bound ≤ i ∧ (i ≠ bound ∨ last < c) then (i, c :: rest)
    else takeInt bound last (i * 10 + c) rest

/-- The integer of the number, with the limits of a negative and of a positive one. -/
def takeWhole (n : NumberText) : ℕ × List (Fin 10) :=
  if n.minus then takeInt 922337203685477580 8 n.first n.rest
  else takeInt 1844674407370955161 5 n.first n.rest

/-- The digits read so far, how many count as significant, and how many follow the point. -/
structure Significand (α : Type) where
  value : α
  significandDigit : ℕ
  expFrac : ℤ

/-- The digits after the point, while the significand has at most 53 bits. -/
def takeFrac : Significand ℕ → List (Fin 10) → Significand ℕ × List (Fin 10)
  | s, [] => (s, [])
  | s, c :: rest =>
    if 2 ^ 53 - 1 < s.value then (s, c :: rest)
    else
      let i64 := s.value * 10 + c
      takeFrac ⟨i64, if i64 ≠ 0 then s.significandDigit + 1 else s.significandDigit,
        s.expFrac - 1⟩ rest

def appendDigit (d : binary64.Value) (c : Fin 10) : binary64.Value :=
  (d.map (· * 10)).map (· + (c : ℕ))

/-- A further digit after the point; from 17 significant digits on it is skipped. -/
def roundFrac (s : Significand binary64.Value) (c : Fin 10) : Significand binary64.Value :=
  if s.significandDigit < 17 then
    let d := appendDigit s.value c
    ⟨d, if d ≠ binary64.ofRat 0 then s.significandDigit + 1 else s.significandDigit,
      s.expFrac - 1⟩
  else s

/-- The significand as a double: `i` is what was taken of the integer, `big` what was not. -/
def significand (n : NumberText) (i : ℕ) (big : List (Fin 10)) : Significand binary64.Value :=
  let significandDigit := n.rest.length - big.length
  if big = [] then
    let (s, rest) := takeFrac ⟨i, significandDigit, 0⟩ n.frac
    rest.foldl roundFrac ⟨binary64.ofRat s.value, s.significandDigit, s.expFrac⟩
  else
    n.frac.foldl roundFrac ⟨big.foldl appendDigit (binary64.ofRat i), significandDigit, 0⟩

/-- `none` is `kParseErrorNumberTooBig`. -/
def ParseNumber (n : NumberText) : Option Json :=
  let (i, big) := n.takeWhole
  if big = [] ∧ n.frac = [] ∧ n.exp = none then some (.int (if n.minus then -i else i))
  else
    let s := n.significand i big
    (n.exp.elim (some 0) (·.parse s.expFrac)).bind fun exp =>
      let d := StrtodNormalPrecision s.value (exp + s.expFrac)
      if d = .infinity false then none else some (.double (if n.minus then d.neg else d))

/-- No fraction, no exponent, and 64 bits hold the number. -/
def IsInteger (n : NumberText) : Prop :=
  n.frac = [] ∧ n.exp = none ∧ -2 ^ 63 ≤ n.value ∧ n.value < 2 ^ 64

instance (n : NumberText) : Decidable n.IsInteger := inferInstanceAs (Decidable (_ ∧ _))

/-- The digits are all taken exactly when the number stays within the limit. -/
theorem takeInt_eq_iff {bound last : ℕ} (hlast : last < 10) {i k : ℕ} {l : List (Fin 10)}
    (hi : i ≤ bound * 10 + last) :
    takeInt bound last i l = (k, []) ↔ k = appendDigits i l ∧ k ≤ bound * 10 + last := by
  induction l generalizing i with
  | nil =>
    rw [takeInt, Prod.mk.injEq, and_iff_left rfl, eq_comm]
    exact ⟨fun h => ⟨h, h ▸ hi⟩, And.left⟩
  | cons c rest ih =>
    have hc := c.isLt
    rw [takeInt]
    split_ifs with hstop
    · have hbig : bound * 10 + last < i * 10 + c := by omega
      have hle := le_appendDigits (i * 10 + c) rest
      constructor
      · intro h
        cases h
      · rintro ⟨rfl, hk⟩
        change appendDigits (i * 10 + c) rest ≤ _ at hk
        omega
    · exact ih (by omega)

theorem takeWhole_eq_iff {n : NumberText} {k : ℕ} :
    n.takeWhole = (k, []) ↔
      k = appendDigits n.first n.rest ∧ k ≤ if n.minus then 2 ^ 63 else 2 ^ 64 - 1 := by
  have hfirst := n.first.isLt
  rw [takeWhole]
  split_ifs
  · exact takeInt_eq_iff (by omega) (by omega)
  · exact takeInt_eq_iff (by omega) (by omega)

theorem value_whole {n : NumberText} (hfrac : n.frac = []) (hexp : n.exp = none) :
    n.value = ((if n.minus then -appendDigits n.first n.rest else appendDigits n.first n.rest : ℤ) :
      ℚ) := by
  rw [value, hfrac, hexp, List.append_nil]
  split_ifs <;> simp

theorem isInteger_iff {n : NumberText} (hfrac : n.frac = []) (hexp : n.exp = none) :
    n.IsInteger ↔ appendDigits n.first n.rest ≤ if n.minus then 2 ^ 63 else 2 ^ 64 - 1 := by
  have hcast : n.IsInteger ↔
      -2 ^ 63 ≤
          (if n.minus then -appendDigits n.first n.rest else appendDigits n.first n.rest : ℤ) ∧
        (if n.minus then -appendDigits n.first n.rest else appendDigits n.first n.rest : ℤ) <
          2 ^ 64 := by
    rw [IsInteger, value_whole hfrac hexp, and_iff_right hfrac, and_iff_right hexp]
    constructor
    · rintro ⟨hlow, hhigh⟩
      exact ⟨by exact_mod_cast hlow, by exact_mod_cast hhigh⟩
    · rintro ⟨hlow, hhigh⟩
      exact ⟨by exact_mod_cast hlow, by exact_mod_cast hhigh⟩
  rw [hcast]
  split_ifs <;> omega

/-- The part of `ParseNumber` that hands on a double. -/
theorem ParseNumber_double {n : NumberText} (h : ¬ n.IsInteger) :
    n.ParseNumber =
      (n.exp.elim (some 0) (·.parse (n.significand n.takeWhole.1 n.takeWhole.2).expFrac)).bind
        fun exp =>
          let d := StrtodNormalPrecision (n.significand n.takeWhole.1 n.takeWhole.2).value
            (exp + (n.significand n.takeWhole.1 n.takeWhole.2).expFrac)
          if d = .infinity false then none else some (.double (if n.minus then d.neg else d)) := by
  have hnot : ¬ (n.takeWhole.2 = [] ∧ n.frac = [] ∧ n.exp = none) := by
    rintro ⟨hbig, hfrac, hexp⟩
    obtain ⟨hi, hlimit⟩ := takeWhole_eq_iff.mp (Prod.ext rfl hbig)
    exact h ((isInteger_iff hfrac hexp).mpr (hi ▸ hlimit))
  rw [ParseNumber]
  exact if_neg hnot

theorem ParseNumber_int {n : NumberText} (h : n.IsInteger) :
    ∃ i : ℤ, n.ParseNumber = some (.int i) ∧ n.value = i := by
  obtain ⟨hfrac, hexp, -⟩ := id h
  have hwhole := takeWhole_eq_iff.mpr ⟨rfl, (isInteger_iff hfrac hexp).mp h⟩
  refine ⟨_, ?_, value_whole hfrac hexp⟩
  simp only [ParseNumber, hwhole, hfrac, hexp, and_self, if_true]

/-- A number is an integer or a double to rapidjson, if it is not too big. -/
theorem ParseNumber_cases {n : NumberText} {j : Json} (h : n.ParseNumber = some j) :
    (∃ i : ℤ, j = .int i ∧ n.IsInteger ∧ n.value = i) ∨ ∃ x, j = .double x ∧ ¬ n.IsInteger := by
  by_cases hinteger : n.IsInteger
  · obtain ⟨i, hi, hvalue⟩ := ParseNumber_int hinteger
    rw [hi, Option.some.injEq] at h
    exact Or.inl ⟨i, h.symm, hinteger, hvalue⟩
  · rw [ParseNumber_double hinteger, Option.bind_eq_some_iff] at h
    obtain ⟨exp, -, hd⟩ := h
    dsimp only at hd
    split_ifs at hd with hinfinite
    all_goals exact Or.inr ⟨_, (Option.some.inj hd).symm, hinteger⟩

/-- The power of ten of the last digit. -/
def lastExponent (n : NumberText) : ℤ := n.exp.elim 0 ExponentText.value - n.frac.length

/-- The digits as one integer. -/
def digits (n : NumberText) : ℕ := appendDigits n.first (n.rest ++ n.frac)

/-- At most 53 bits of digits, and a power of ten that a double holds exactly. -/
def Short (n : NumberText) : Prop :=
  n.digits < 2 ^ 53 ∧ -22 ≤ n.lastExponent ∧ n.lastExponent ≤ 22

instance (n : NumberText) : Decidable n.Short := inferInstanceAs (Decidable (_ ∧ _))

theorem takeFrac_short {s : Significand ℕ} {l : List (Fin 10)}
    (h : appendDigits s.value l < 2 ^ 53) :
    ∃ k, takeFrac s l = (⟨appendDigits s.value l, k, s.expFrac - l.length⟩, []) := by
  induction l generalizing s with
  | nil => exact ⟨s.significandDigit, by simp [takeFrac, appendDigits]⟩
  | cons c rest ih =>
    have hle := le_appendDigits s.value (c :: rest)
    rw [takeFrac, if_neg (by omega)]
    dsimp only
    obtain ⟨k, hk⟩ := ih (s := ⟨s.value * 10 + c, if s.value * 10 + c ≠ 0 then
      s.significandDigit + 1 else s.significandDigit, s.expFrac - 1⟩) h
    refine ⟨k, hk.trans ?_⟩
    rw [List.length_cons, Nat.cast_succ, Int.sub_sub, add_comm (rest.length : ℤ)]
    rfl

theorem takePositive_le {maxExp : ℤ} {i : ℕ} {l : List (Fin 10)}
    (h : (appendDigits i l : ℤ) ≤ maxExp) :
    ExponentText.takePositive maxExp i l = some (appendDigits i l : ℤ) := by
  induction l generalizing i with
  | nil => rfl
  | cons c rest ih =>
    have hle := le_appendDigits (i * 10 + c) rest
    change (appendDigits (i * 10 + c) rest : ℤ) ≤ maxExp at h
    rw [ExponentText.takePositive, if_neg (by omega)]
    exact_mod_cast ih h

theorem takeNegative_le {maxExp : ℤ} {i : ℕ} {l : List (Fin 10)}
    (h : (appendDigits i l : ℤ) ≤ maxExp) :
    ExponentText.takeNegative maxExp i l = (appendDigits i l : ℤ) := by
  induction l generalizing i with
  | nil => rfl
  | cons c rest ih =>
    have hle := le_appendDigits (i * 10 + c) rest
    change (appendDigits (i * 10 + c) rest : ℤ) ≤ maxExp at h
    rw [ExponentText.takeNegative, if_neg (by omega)]
    exact_mod_cast ih h

theorem exponent_short {n : NumberText} (h : n.Short) :
    n.exp.elim (some 0) (·.parse (-n.frac.length)) = some (n.exp.elim 0 ExponentText.value) := by
  obtain ⟨-, hlow, hhigh⟩ := h
  rw [lastExponent] at hlow hhigh
  cases hexp : n.exp with
  | none => rfl
  | some e =>
    rw [hexp, Option.elim_some, ExponentText.value] at hlow hhigh
    rw [Option.elim_some, Option.elim_some, ExponentText.parse, ExponentText.value]
    split_ifs at hlow hhigh ⊢
    · rw [takeNegative_le (by omega)]
    · rw [takePositive_le (by omega)]

theorem significand_short {n : NumberText} (h : n.Short) :
    ∃ k, n.significand n.takeWhole.1 n.takeWhole.2 =
      ⟨binary64.ofRat n.digits, k, -n.frac.length⟩ := by
  have hdigits : appendDigits (appendDigits n.first n.rest) n.frac < 2 ^ 53 := by
    rw [← appendDigits_append]
    exact h.1
  have hle := le_appendDigits (appendDigits n.first n.rest) n.frac
  have hwhole : n.takeWhole = (appendDigits n.first n.rest, []) :=
    takeWhole_eq_iff.mpr ⟨rfl, by split_ifs <;> omega⟩
  obtain ⟨k, hk⟩ := takeFrac_short
    (s := ⟨appendDigits n.first n.rest, n.rest.length - 0, 0⟩) hdigits
  refine ⟨k, ?_⟩
  rw [hwhole, significand, if_pos rfl]
  dsimp only [List.length_nil]
  rw [hk, List.foldl_nil, ← appendDigits_append, Int.zero_sub]
  rfl

theorem binary64_natCast_finite {m : ℕ} (h : m < 2 ^ 53) : binary64.Finite m := by
  have habs : |(m : ℚ)| < 2 ^ (53 : ℤ) := by
    rw [Nat.abs_cast]
    exact_mod_cast h
  constructor
  · apply BinaryFormat.nearest_eq_self_iff.mpr
    exact ⟨m, 0, by rw [Nat.abs_cast]; exact_mod_cast h.le, by decide, by simp⟩
  · exact habs.trans_le (zpow_le_zpow_right₀ (by norm_num) (by decide))

/-- The powers of ten up to 22 are doubles. -/
theorem Pow10_eq {k : ℕ} (h : k ≤ 22) : Pow10 k = 10 ^ k := by
  apply BinaryFormat.nearest_eq_self_iff.mpr
  refine ⟨5 ^ k, k, ?_, ?_, ?_⟩
  · rw [abs_of_pos (by positivity)]
    exact (pow_le_pow_right₀ (by norm_num) h).trans (by decide)
  · exact le_trans (by decide) (Int.natCast_nonneg k)
  · push_cast
    rw [zpow_natCast, ← mul_pow]
    norm_num

theorem StrtodNormalPrecision_short {m : ℕ} {p : ℤ} (hm : m < 2 ^ 53) (hlow : -22 ≤ p)
    (hhigh : p ≤ 22) :
    StrtodNormalPrecision (binary64.ofRat m) p = binary64.ofRat (m * 10 ^ p) := by
  rw [StrtodNormalPrecision, if_neg (by omega), FastPath, if_neg (by omega),
    BinaryFormat.ofRat_finite (binary64_natCast_finite hm)]
  split_ifs with hsign
  · rw [BinaryFormat.Value.map, Pow10_eq (by omega), ← zpow_natCast, Int.toNat_of_nonneg hsign]
  · rw [BinaryFormat.Value.map, Pow10_eq (by omega), ← zpow_natCast,
      Int.toNat_of_nonneg (by omega), zpow_neg, div_inv_eq_mul]

/-- One digit more is too many for 53 bits: the number is rounded twice, to another double. -/
example : StrtodNormalPrecision (binary64.ofRat 72830095334234490) (-14) ≠
    StrtodNormalPrecision (binary64.ofRat 7283009533423449) (-13) := by decide +kernel

theorem ofRat_short_ne_infinity {m : ℕ} {p : ℤ} (hm : m < 2 ^ 53) (hhigh : p ≤ 22) :
    binary64.ofRat (m * 10 ^ p) ≠ .infinity false := by
  have hpow : (10 : ℚ) ^ p ≤ 10 ^ (22 : ℤ) := zpow_le_zpow_right₀ (by norm_num) hhigh
  have hm' : (m : ℚ) < 2 ^ 53 := by exact_mod_cast hm
  have habs : |(m * 10 ^ p : ℚ)| < 2 ^ (150 : ℤ) := by
    rw [abs_of_nonneg (by positivity)]
    calc (m * 10 ^ p : ℚ) ≤ 2 ^ 53 * 10 ^ (22 : ℤ) := by gcongr
      _ < 2 ^ (150 : ℤ) := by norm_num
  have hlt := BinaryFormat.abs_nearest_lt (f := binary64) habs (by decide) (by decide)
  rw [BinaryFormat.ofRat, dif_pos hlt]
  split_ifs <;> simp

/-- A short number is taken to the nearest double. -/
theorem ParseNumber_short {n : NumberText} (h : n.Short) (hdouble : ¬ n.IsInteger) :
    n.ParseNumber =
      let d := binary64.ofRat (n.digits * 10 ^ n.lastExponent)
      some (.double (if n.minus then d.neg else d)) := by
  obtain ⟨k, hk⟩ := significand_short h
  rw [ParseNumber_double hdouble, hk]
  dsimp only
  rw [exponent_short h, Option.bind_some, ← Int.sub_eq_add_neg, ← lastExponent,
    StrtodNormalPrecision_short h.1 h.2.1 h.2.2, if_neg (ofRat_short_ne_infinity h.1 h.2.2)]

theorem abs_value (n : NumberText) : |n.value| = n.digits * 10 ^ n.lastExponent := by
  rw [value, mul_assoc, abs_mul]
  split_ifs <;> simp [digits, lastExponent]

theorem value_eq (n : NumberText) : n.value = if n.minus then -|n.value| else |n.value| := by
  rw [abs_value, value, mul_assoc]
  split_ifs <;> simp [digits, lastExponent]

/-- Two short numbers that are equal are taken to one double, the sign of a zero aside. -/
theorem Short.same {n n' : NumberText} (h : n.Short) (h' : n'.Short) (heq : n.value = n'.value)
    {x x' : binary64.Value} (hx : n.ParseNumber = some (.double x))
    (hx' : n'.ParseNumber = some (.double x')) : x.Same x' := by
  have hdouble : ∀ {m : NumberText} {y : binary64.Value}, m.Short →
      m.ParseNumber = some (.double y) →
      y = if m.minus then (binary64.ofRat |m.value|).neg else binary64.ofRat |m.value| := by
    intro m y hm hy
    rcases ParseNumber_cases hy with ⟨i, hi, -⟩ | ⟨z, -, hnot⟩
    · cases hi
    · rw [ParseNumber_short hm hnot, ← abs_value] at hy
      exact (Json.double.inj (Option.some.inj hy)).symm
  rw [hdouble h hx, hdouble h' hx', heq]
  by_cases hminus : n.minus = n'.minus
  · rw [hminus]
    exact BinaryFormat.Value.same_refl _
  · have hzero : |n'.value| = 0 := by
      have hn := value_eq n
      have hn' := value_eq n'
      rw [heq] at hn
      split_ifs at hn hn' with hm hm' hm'
      · exact absurd (hm.trans hm'.symm) hminus
      · linarith
      · linarith
      · exact absurd ((Bool.not_eq_true _).mp hm ▸ ((Bool.not_eq_true _).mp hm').symm) hminus
    have hnumber := BinaryFormat.Value.number_zero (f := binary64) (Or.inl rfl)
    rw [hzero]
    right
    refine ⟨0, ?_, ?_⟩ <;> split_ifs
    · exact BinaryFormat.Value.number_neg_zero hnumber
    · exact hnumber
    · exact BinaryFormat.Value.number_neg_zero hnumber
    · exact hnumber

end NumberText

end MediasoupSdk
