import Mathlib.Data.Int.Log
import Mathlib.Data.Rat.Floor
import Mathlib.Tactic

/-!
Binary floating-point formats with rounding to nearest, ties to even. A format is given by its
precision and by the exponents of its least bit and of its overflow bound. A value holds the
proof that it is representable, so widening to a larger format loses nothing.
-/
namespace Foundation

structure BinaryFormat where
  precision : ℕ
  precision_pos : 0 < precision
  minExponent : ℤ
  maxExponent : ℤ

/-- Rounding to an integer, a half to the even neighbour. -/
def roundHalfEven (q : ℚ) : ℤ :=
  let below := ⌊q⌋
  let rest := q - below
  if rest < 1 / 2 then below
  else if 1 / 2 < rest then below + 1
  else if below % 2 = 0 then below else below + 1

theorem roundHalfEven_intCast (n : ℤ) : roundHalfEven n = n := by
  norm_num [roundHalfEven]

/-- Rounding stays between the neighbouring integers. -/
theorem roundHalfEven_mem (q : ℚ) : ⌊q⌋ ≤ roundHalfEven q ∧ roundHalfEven q ≤ ⌈q⌉ := by
  by_cases h : (q - ⌊q⌋ : ℚ) < 1 / 2
  · simp only [roundHalfEven, h, if_true]
    exact ⟨le_refl _, Int.floor_le_ceil q⟩
  · have hlt : ⌊q⌋ < ⌈q⌉ := by
      apply Int.lt_ceil.mpr
      linarith [not_lt.mp h]
    simp only [roundHalfEven, h, if_false]
    split_ifs <;> omega

theorem abs_roundHalfEven_le {q : ℚ} {n : ℤ} (h : |q| ≤ n) : |roundHalfEven q| ≤ n := by
  obtain ⟨hlow, hhigh⟩ := abs_le.mp h
  obtain ⟨hfloor, hceil⟩ := roundHalfEven_mem q
  apply abs_le.mpr
  constructor
  · exact (Int.le_floor.mpr (by push_cast; exact hlow)).trans hfloor
  · exact hceil.trans (Int.ceil_le.mpr hhigh)

namespace BinaryFormat

/-- The exponent of the last bit that is kept of `q`. -/
def exponent (f : BinaryFormat) (q : ℚ) : ℤ :=
  max (Int.log 2 |q| - (f.precision - 1)) f.minExponent

def nearest (f : BinaryFormat) (q : ℚ) : ℚ :=
  roundHalfEven (q / 2 ^ f.exponent q) * 2 ^ f.exponent q

/-- A multiple of a power of two with at most `precision` digits. -/
def Representable (f : BinaryFormat) (q : ℚ) : Prop :=
  ∃ m e : ℤ, |m| ≤ 2 ^ f.precision ∧ f.minExponent ≤ e ∧ q = m * 2 ^ e

theorem abs_lt_zpow (q : ℚ) : |q| < 2 ^ (Int.log 2 |q| + 1) := by
  have h := Int.lt_zpow_succ_log_self (b := 2) (by omega) |q|
  exact_mod_cast h

variable {f : BinaryFormat}

theorem abs_div_exponent_le (q : ℚ) : |q / 2 ^ f.exponent q| ≤ ((2 ^ f.precision : ℤ) : ℚ) := by
  rw [abs_div, abs_of_pos (show (0 : ℚ) < 2 ^ f.exponent q by positivity),
    div_le_iff₀ (by positivity)]
  push_cast
  calc |q| ≤ 2 ^ (Int.log 2 |q| + 1) := (abs_lt_zpow q).le
    _ ≤ 2 ^ ((f.precision : ℤ) + f.exponent q) := by
      apply zpow_le_zpow_right₀ (by norm_num)
      unfold exponent
      omega
    _ = 2 ^ f.precision * 2 ^ f.exponent q := by
      rw [zpow_add₀ (by norm_num), zpow_natCast]

theorem nearest_representable (q : ℚ) : f.Representable (f.nearest q) :=
  ⟨roundHalfEven (q / 2 ^ f.exponent q), f.exponent q,
    abs_roundHalfEven_le (abs_div_exponent_le q), le_max_right _ _, rfl⟩

/-- A number whose last bit is kept is not changed. -/
theorem nearest_eq_self_of_le {m e : ℤ} (h : f.exponent (m * 2 ^ e) ≤ e) :
    f.nearest (m * 2 ^ e) = m * 2 ^ e := by
  obtain ⟨k, hk⟩ := Int.eq_ofNat_of_zero_le (sub_nonneg.mpr h)
  have hsplit : (2 : ℚ) ^ e = 2 ^ k * 2 ^ f.exponent (m * 2 ^ e) := by
    conv_lhs => rw [show e = k + f.exponent (m * 2 ^ e) by omega]
    rw [zpow_add₀ (by norm_num), zpow_natCast]
  have hquot : (m * 2 ^ e : ℚ) / 2 ^ f.exponent (m * 2 ^ e) = ((m * 2 ^ k : ℤ) : ℚ) := by
    rw [div_eq_iff (by positivity)]
    conv_lhs => rw [hsplit]
    push_cast
    ring
  rw [nearest, hquot, roundHalfEven_intCast]
  conv_rhs => rw [hsplit]
  push_cast
  ring

theorem exponent_le {m e : ℤ} (hm : |m| < 2 ^ f.precision) (he : f.minExponent ≤ e)
    (h0 : m ≠ 0) : f.exponent (m * 2 ^ e) ≤ e := by
  have habs : |(m * 2 ^ e : ℚ)| < 2 ^ ((f.precision : ℤ) + e) := by
    rw [abs_mul, abs_of_pos (show (0 : ℚ) < 2 ^ e by positivity), zpow_add₀ (by norm_num),
      zpow_natCast]
    gcongr
    exact_mod_cast hm
  have hpos : 0 < |(m * 2 ^ e : ℚ)| := by positivity
  have hlog := (Int.lt_zpow_iff_log_lt (b := 2) (by omega) hpos).mp (by exact_mod_cast habs)
  unfold exponent
  omega

/-- The largest significand is the half of it at the next exponent. -/
theorem exists_significand_lt {m e : ℤ} (hm : |m| ≤ 2 ^ f.precision) :
    ∃ m' e' : ℤ, |m'| < 2 ^ f.precision ∧ e ≤ e' ∧ (m * 2 ^ e : ℚ) = m' * 2 ^ e' := by
  by_cases hlt : |m| < 2 ^ f.precision
  · exact ⟨m, e, hlt, le_refl e, rfl⟩
  · obtain ⟨p, hp⟩ : ∃ p, f.precision = p + 1 := by
      have hpos := f.precision_pos
      exact ⟨f.precision - 1, by omega⟩
    rw [hp, pow_succ] at hm hlt ⊢
    obtain ⟨half, hhalf⟩ : ∃ half : ℤ, m = 2 * half ∧ |half| = 2 ^ p := by
      rcases abs_cases m with ⟨habs, -⟩ | ⟨habs, -⟩
      · exact ⟨2 ^ p, by omega, abs_of_pos (by positivity)⟩
      · exact ⟨-2 ^ p, by omega, by rw [abs_neg, abs_of_pos (by positivity)]⟩
    have hpos : (0 : ℤ) < 2 ^ p := by positivity
    refine ⟨half, e + 1, by omega, by omega, ?_⟩
    rw [hhalf.1, zpow_add_one₀ (by norm_num)]
    push_cast
    ring

theorem nearest_eq_self_iff {q : ℚ} : f.nearest q = q ↔ f.Representable q := by
  constructor
  · intro h
    exact h ▸ nearest_representable q
  · rintro ⟨m, e, hm, he, rfl⟩
    obtain ⟨m', e', hm', hee', hq⟩ := exists_significand_lt (e := e) hm
    rw [hq]
    by_cases h0 : m' = 0
    · simp [h0, nearest, roundHalfEven]
    · exact nearest_eq_self_of_le (exponent_le hm' (he.trans hee') h0)

theorem nearest_nearest (q : ℚ) : f.nearest (f.nearest q) = f.nearest q :=
  nearest_eq_self_iff.mpr (nearest_representable q)

/-- The rationals that are finite values of the format. -/
def Finite (f : BinaryFormat) (q : ℚ) : Prop := f.nearest q = q ∧ |q| < 2 ^ f.maxExponent

instance (q : ℚ) : Decidable (f.Finite q) := inferInstanceAs (Decidable (_ ∧ _))

/-- A value of the format; a zero carries its sign, and the payload of a nan is not kept. -/
inductive Value (f : BinaryFormat) where
  | finite (q : ℚ) (h : f.Finite q)
  | negZero
  | infinity (negative : Bool)
  | nan
  deriving DecidableEq

theorem abs_nearest_le (q : ℚ) : |f.nearest q| ≤ 2 ^ ((f.precision : ℤ) + f.exponent q) := by
  have hround := abs_roundHalfEven_le (abs_div_exponent_le (f := f) q)
  have hround' : (|roundHalfEven (q / 2 ^ f.exponent q)| : ℚ) ≤ 2 ^ f.precision := by
    exact_mod_cast hround
  have hpos : (0 : ℚ) < 2 ^ f.exponent q := by positivity
  rw [nearest, abs_mul, abs_of_pos hpos, zpow_add₀ (by norm_num), zpow_natCast]
  exact mul_le_mul_of_nonneg_right hround' hpos.le

/-- A number that is far from the bound stays below it. -/
theorem abs_nearest_lt {q : ℚ} {k : ℤ} (hq : |q| < 2 ^ k) (hk : k < f.maxExponent)
    (hmin : f.minExponent + f.precision < f.maxExponent) : |f.nearest q| < 2 ^ f.maxExponent := by
  rcases eq_or_ne q 0 with rfl | hq0
  · rw [show f.nearest 0 = 0 by simp [nearest, roundHalfEven], abs_zero]
    positivity
  · have hlog := (Int.lt_zpow_iff_log_lt (b := 2) (by omega) (abs_pos.mpr hq0)).mp
      (by exact_mod_cast hq)
    apply (abs_nearest_le q).trans_lt
    apply zpow_lt_zpow_right₀ (by norm_num)
    unfold exponent
    omega

/-- The value nearest to a number. -/
def ofRat (f : BinaryFormat) (q : ℚ) : f.Value :=
  if f.nearest q = 0 ∧ q < 0 then .negZero
  else if h : |f.nearest q| < 2 ^ f.maxExponent then
    .finite (f.nearest q) ⟨nearest_nearest q, h⟩
  else .infinity (q < 0)

/-- The conversion between two formats. -/
def Value.convert (g : BinaryFormat) : f.Value → g.Value
  | .finite q _ => g.ofRat q
  | .negZero => .negZero
  | .infinity negative => .infinity negative
  | .nan => .nan

theorem Finite.neg {q : ℚ} (h : f.Finite q) : f.Finite (-q) := by
  obtain ⟨m, e, hm, he, hq⟩ := nearest_eq_self_iff.mp h.1
  constructor
  · apply nearest_eq_self_iff.mpr
    exact ⟨-m, e, (abs_neg m).trans_le hm, he, by rw [hq]; push_cast; ring⟩
  · rw [abs_neg]
    exact h.2

def Value.neg : f.Value → f.Value
  | .finite q h => if q = 0 then .negZero else .finite (-q) h.neg
  | .negZero => f.ofRat 0
  | .infinity negative => .infinity (!negative)
  | .nan => .nan

/-- An operation on a value and a positive number, which leaves an infinity as it is: the result
is the value nearest to the exact one. -/
def Value.map (g : ℚ → ℚ) : f.Value → f.Value
  | .finite q _ => f.ofRat (g q)
  | .negZero => f.ofRat (g 0)
  | x => x

/-- Every finite value of `f` is one of `g`. -/
structure Narrower (f g : BinaryFormat) : Prop where
  precision : f.precision ≤ g.precision
  minExponent : g.minExponent ≤ f.minExponent
  maxExponent : f.maxExponent ≤ g.maxExponent

theorem ofRat_finite {q : ℚ} (h : f.Finite q) : f.ofRat q = .finite q h := by
  have hzero : ¬ (q = 0 ∧ q < 0) := by
    rintro ⟨h0, hneg⟩
    exact hneg.ne h0
  simp only [ofRat, h.1, h.2, if_neg hzero, dite_true]

theorem Narrower.finite {g : BinaryFormat} (h : f.Narrower g) {q : ℚ} (hq : f.Finite q) :
    g.Finite q := by
  obtain ⟨m, e, hm, he, hqe⟩ := nearest_eq_self_iff.mp hq.1
  constructor
  · apply nearest_eq_self_iff.mpr
    exact ⟨m, e, hm.trans (pow_le_pow_right₀ (by norm_num) h.precision), h.minExponent.trans he,
      hqe⟩
  · exact hq.2.trans_le (zpow_le_zpow_right₀ (by norm_num) h.maxExponent)

/-- Widening a value and narrowing it again gives the value. -/
theorem Narrower.convert_convert {g : BinaryFormat} (h : f.Narrower g) (x : f.Value) :
    (x.convert g).convert f = x := by
  cases x with
  | finite q hq => rw [Value.convert, ofRat_finite (h.finite hq), Value.convert, ofRat_finite hq]
  | negZero => rfl
  | infinity negative => rfl
  | nan => rfl

/-- The number that a value denotes; both zeros denote 0. -/
def Value.number : f.Value → Option ℚ
  | .finite q _ => some q
  | .negZero => some 0
  | .infinity _ | .nan => none

/-- The comparison of values: equal numbers are the same whatever the sign of a zero. -/
def Value.Same (x y : f.Value) : Prop := x = y ∨ ∃ q, x.number = some q ∧ y.number = some q

theorem Value.same_refl (x : f.Value) : x.Same x := Or.inl rfl

theorem Value.number_zero {x : f.Value} (h : x = f.ofRat 0 ∨ x = .negZero) :
    x.number = some 0 := by
  rcases h with rfl | rfl
  · have hfinite : f.Finite 0 := by
      constructor
      · simp [nearest, roundHalfEven]
      · rw [abs_zero]
        positivity
    rw [ofRat_finite hfinite]
    rfl
  · rfl

/-- Zeros stay zeros in another format. -/
theorem Value.number_convert_zero {g : BinaryFormat} {x : f.Value} (h : x.number = some 0) :
    (x.convert g).number = some 0 := by
  cases x with
  | finite q hq =>
    rw [Value.number, Option.some.injEq] at h
    subst h
    exact Value.number_zero (Or.inl rfl)
  | negZero => rfl
  | infinity negative => simp [Value.number] at h
  | nan => simp [Value.number] at h

theorem Value.number_neg_zero {x : f.Value} (h : x.number = some 0) : x.neg.number = some 0 := by
  cases x with
  | finite q hq =>
    rw [Value.number, Option.some.injEq] at h
    rw [Value.neg, if_pos h]
    rfl
  | negZero => exact Value.number_zero (Or.inl rfl)
  | infinity negative => simp [Value.number] at h
  | nan => simp [Value.number] at h

theorem Value.Same.convert {g : BinaryFormat} {x y : f.Value} (h : x.Same y) :
    (x.convert g).Same (y.convert g) := by
  by_cases hxy : x = y
  · exact Or.inl (by rw [hxy])
  · rcases h with h | ⟨q, hx, hy⟩
    · exact absurd h hxy
    · have hzero : q = 0 := by
        cases x <;> cases y <;> simp_all [Value.number]
      subst hzero
      exact Or.inr ⟨0, number_convert_zero hx, number_convert_zero hy⟩

end BinaryFormat

/-- IEEE single precision. -/
def binary32 : BinaryFormat := ⟨24, by omega, -149, 128⟩

/-- IEEE double precision. -/
def binary64 : BinaryFormat := ⟨53, by omega, -1074, 1024⟩

theorem binary32_narrower : binary32.Narrower binary64 := by
  constructor <;> decide

end Foundation
