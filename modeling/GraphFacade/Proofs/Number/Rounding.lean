import GraphFacade.Number.Binary64
import Mathlib.Algebra.Order.Ring.Nat
import Mathlib.Tactic.NormNum
import Mathlib.Tactic.Ring

/-!
# Rounding to doubles

Rounding sees the value of a quotient only, and leaves the doubles where they
are.  So does reading a decimal: its two shortcuts answer what rounding would,
and decimals of one value are read as one double.
-/

namespace GraphFacade

namespace Binary64

/-- A finite double as it is kept: with a full mantissa, or in the least scale. -/
def Proper : Binary64 -> Prop
  | finite _ mantissa scale =>
      mantissa < 2 ^ mantissaBits ∧ scale ≤ maxScale ∧
        (scale = 0 ∨ 2 ^ (mantissaBits - 1) ≤ mantissa)
  | _ => False

variable {negative : Bool} {num den num' den' k mantissa scale digits : Nat}

/-! ## Quotients -/

theorem roundQuotient_mul_left (positive : 0 < k) (num den : Nat) :
    roundQuotient (k * num) (k * den) = roundQuotient num den := by
  have double : k * den < 2 * (k * (num % den)) ↔ den < 2 * (num % den) := by
    rw [Nat.mul_left_comm, Nat.mul_lt_mul_left positive]
  have half : 2 * (k * (num % den)) = k * den ↔ 2 * (num % den) = den := by
    rw [Nat.mul_left_comm, Nat.mul_right_inj positive.ne']
  simp only [roundQuotient, Nat.mul_div_mul_left _ _ positive, Nat.mul_mod_mul_left, double,
    Bool.beq_eq_decide_eq, half]

theorem ofUnits_mul_left (positive : 0 < k) :
    ofUnits negative (k * num) (k * den) = ofUnits negative num den := by
  simp only [ofUnits, Nat.mul_div_mul_left _ _ positive, Nat.mul_assoc k,
    roundQuotient_mul_left positive]

theorem ofUnits_congr (positive : 0 < den) (positive' : 0 < den')
    (same : num * den' = num' * den) :
    ofUnits negative num den = ofUnits negative num' den' :=
  calc
    ofUnits negative num den = ofUnits negative (den' * num) (den' * den) :=
      (ofUnits_mul_left positive').symm
    _ = ofUnits negative (den * num') (den * den') := by
      rw [Nat.mul_comm den' num, same, Nat.mul_comm num', Nat.mul_comm den']
    _ = ofUnits negative num' den' := ofUnits_mul_left positive

theorem scale_eq (proper : (finite negative mantissa scale).Proper) :
    Nat.log2 (mantissa * 2 ^ scale) + 1 - mantissaBits = scale := by
  obtain ⟨fits, _, rfl | full⟩ := proper
  · rcases Nat.eq_zero_or_pos mantissa with rfl | nonzero
    · rfl
    · have := (Nat.log2_lt nonzero.ne').mpr fits
      simp only [Nat.pow_zero, Nat.mul_one]
      omega
  · have least : 2 ^ (mantissaBits - 1 + scale) ≤ mantissa * 2 ^ scale := by
      rw [Nat.pow_add]
      exact Nat.mul_le_mul_right _ full
    have most : mantissa * 2 ^ scale < 2 ^ (mantissaBits + scale) := by
      rw [Nat.pow_add]
      exact Nat.mul_lt_mul_of_pos_right fits (Nat.two_pow_pos scale)
    have nonzero : mantissa * 2 ^ scale ≠ 0 :=
      (Nat.lt_of_lt_of_le (Nat.two_pow_pos _) least).ne'
    have below := (Nat.le_log2 nonzero).mpr least
    have above := (Nat.log2_lt nonzero).mpr most
    simp only [mantissaBits] at below above ⊢
    omega

theorem roundQuotient_mul_self (positive : 0 < den) : roundQuotient (num * den) den = num := by
  simp [roundQuotient, Nat.mul_div_cancel _ positive, positive.ne]

theorem ofUnits_eq_finite (own : Nat.log2 (num / den) + 1 - mantissaBits = scale)
    (rounds : roundQuotient num (den * 2 ^ scale) = mantissa) (fits : mantissa < 2 ^ mantissaBits)
    (le : scale ≤ maxScale) : ofUnits negative num den = finite negative mantissa scale := by
  simp only [ofUnits, Nat.pow_eq, own, rounds]
  simp [fits.ne, Nat.not_lt.mpr le]

/-- A quotient that is a double is rounded to it. -/
theorem ofUnits_units (proper : (finite negative mantissa scale).Proper) (positive : 0 < k) :
    ofUnits negative (units mantissa scale * k) k = finite negative mantissa scale := by
  have own := scale_eq proper
  obtain ⟨fits, le, _⟩ := proper
  refine ofUnits_eq_finite ?_ ?_ fits le
  · rw [Nat.mul_div_cancel _ positive]
    exact own
  · have whole : units mantissa scale * k = mantissa * (k * 2 ^ scale) := by
      simp only [units, Nat.pow_eq]
      ring
    rw [whole]
    exact roundQuotient_mul_self (Nat.mul_pos positive (Nat.two_pow_pos scale))

theorem ofUnits_of_lt_half (small : 2 * num < den) :
    ofUnits negative num den = finite negative 0 0 := by
  have below : num < den := by omega
  refine ofUnits_eq_finite ?_ ?_ (Nat.two_pow_pos _) (Nat.zero_le _)
  · rw [Nat.div_eq_of_lt below]
    rfl
  · simp only [roundQuotient, Nat.pow_zero, Nat.mul_one, Nat.div_eq_of_lt below,
      Nat.mod_eq_of_lt below]
    simp
    omega

theorem ofUnits_of_two_pow_le (large : 2 ^ (maxScale + mantissaBits) ≤ num / den) :
    ofUnits negative num den = infinite negative := by
  have beyond : maxScale < Nat.log2 (num / den) + 1 - mantissaBits := by
    have nonzero : num / den ≠ 0 := (Nat.lt_of_lt_of_le (Nat.two_pow_pos _) large).ne'
    have := (Nat.le_log2 nonzero).mpr large
    omega
  simp only [ofUnits]
  rw [if_pos]
  split <;> omega

/-! ## Decimals -/

theorem lt_ten_pow (digits : Nat) : digits < 10 ^ (Nat.log2 digits / 3 + 1) :=
  calc
    digits < 2 ^ (Nat.log2 digits + 1) := Nat.lt_log2_self
    _ ≤ 2 ^ (3 * (Nat.log2 digits / 3 + 1)) := Nat.pow_le_pow_right (by decide) (by omega)
    _ = 8 ^ (Nat.log2 digits / 3 + 1) := Nat.pow_mul 2 3 _
    _ ≤ 10 ^ (Nat.log2 digits / 3 + 1) := Nat.pow_le_pow_left (by decide) _

theorem ten_pow_pos (n : Nat) : 0 < 10 ^ n :=
  Nat.pow_pos (by decide)

def highest : Nat := 401

theorem two_pow_le_mul_unitsInOne : 2 ^ (maxScale + mantissaBits) ≤ 10 ^ highest * unitsInOne := by
  decide +kernel

theorem ofUnits_of_high {n : Nat} (nonzero : 0 < digits) (high : highest ≤ n) :
    ofUnits negative (digits * 10 ^ n * unitsInOne) 1 = infinite negative := by
  refine ofUnits_of_two_pow_le ?_
  rw [Nat.div_one]
  calc
    2 ^ (maxScale + mantissaBits) ≤ 10 ^ highest * unitsInOne := two_pow_le_mul_unitsInOne
    _ ≤ 10 ^ n * unitsInOne := Nat.mul_le_mul_right _ (Nat.pow_le_pow_right (by decide) high)
    _ ≤ digits * 10 ^ n * unitsInOne :=
      Nat.mul_le_mul_right _ (Nat.le_mul_of_pos_left _ nonzero)

def deepest : Nat := 331

theorem two_mul_unitsInOne_lt : 2 * unitsInOne < 10 ^ deepest := by
  decide +kernel

theorem ofUnits_of_deep {n : Nat} (deep : deepest + (Nat.log2 digits / 3 + 1) ≤ n) :
    ofUnits negative (digits * unitsInOne) (10 ^ n) = finite negative 0 0 := by
  refine ofUnits_of_lt_half ?_
  calc
    2 * (digits * unitsInOne) = 2 * unitsInOne * digits := by ring
    _ < 10 ^ deepest * 10 ^ (Nat.log2 digits / 3 + 1) :=
      Nat.mul_lt_mul_of_lt_of_lt two_mul_unitsInOne_lt (lt_ten_pow digits)
    _ = 10 ^ (deepest + (Nat.log2 digits / 3 + 1)) := (Nat.pow_add ..).symm
    _ ≤ 10 ^ n := Nat.pow_le_pow_right (by decide) deep

theorem ofDecimal_eq (negative : Bool) (digits : Nat) (exponent : Int) :
    ofDecimal negative digits exponent =
      ofUnits negative (digits * 10 ^ exponent.toNat * unitsInOne) (10 ^ (-exponent).toNat) := by
  unfold ofDecimal
  split
  · rename_i zero
    rw [eq_of_beq zero, Nat.zero_mul, Nat.zero_mul]
    exact (ofUnits_of_lt_half (ten_pow_pos _)).symm
  · rename_i nonzero
    have positive : 0 < digits := Nat.pos_of_ne_zero fun zero => nonzero (by simp [zero])
    split
    · rename_i long
      have whole : (-exponent).toNat = 0 := by omega
      rw [whole, Nat.pow_zero, ofUnits_of_high positive (by simp only [highest]; omega)]
    · split
      · rename_i deep
        have fraction : exponent.toNat = 0 := by omega
        rw [fraction, Nat.pow_zero, Nat.mul_one, ofUnits_of_deep (by simp only [deepest]; omega)]
      · split
        · rename_i whole
          rw [show (-exponent).toNat = 0 by omega, Nat.pow_zero]
          rfl
        · rename_i fraction
          rw [show exponent.toNat = 0 by omega, Nat.pow_zero, Nat.mul_one]
          rfl

theorem ofDecimal_mul_ten_pow (negative : Bool) (digits n : Nat) (exponent : Int) :
    ofDecimal negative (digits * 10 ^ n) exponent = ofDecimal negative digits (exponent + n) := by
  rw [ofDecimal_eq, ofDecimal_eq]
  refine ofUnits_congr (ten_pow_pos _) (ten_pow_pos _) ?_
  have balance : n + exponent.toNat + (-(exponent + n)).toNat =
      (exponent + n).toNat + (-exponent).toNat := by omega
  calc
    digits * 10 ^ n * 10 ^ exponent.toNat * unitsInOne * 10 ^ (-(exponent + n)).toNat
    _ = digits * unitsInOne * 10 ^ (n + exponent.toNat + (-(exponent + n)).toNat) := by
      rw [Nat.pow_add, Nat.pow_add]
      ring
    _ = digits * 10 ^ (exponent + n).toNat * unitsInOne * 10 ^ (-exponent).toNat := by
      rw [balance, Nat.pow_add]
      ring

theorem ofUnits_of_false (h : ofUnits false num den = finite false mantissa scale)
    (negative : Bool) : ofUnits negative num den = finite negative mantissa scale := by
  simp only [ofUnits] at h ⊢
  generalize roundQuotient num _ = rounded at h ⊢
  generalize Nat.log2 _ + 1 - mantissaBits = place at h ⊢
  grind

theorem ofDecimal_of_false {exponent : Int}
    (h : ofDecimal false digits exponent = finite false mantissa scale) (negative : Bool) :
    ofDecimal negative digits exponent = finite negative mantissa scale := by
  rw [ofDecimal_eq] at h ⊢
  exact ofUnits_of_false h negative

end Binary64

end GraphFacade
