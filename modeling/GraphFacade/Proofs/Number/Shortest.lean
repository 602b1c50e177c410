import GraphFacade.Number.Shortest
import GraphFacade.Proofs.Number.Rounding

/-!
# The shortest decimal is read back

The search keeps to decimals that are read back as the double it started from,
and so does dropping zeros at the end.
-/

namespace GraphFacade

namespace Binary64

variable {mantissa scale : Nat} {d exact : Decimal}

theorem readsBack_iff :
    readsBack mantissa scale d = true ↔
      ofDecimal false d.digits d.exponent = finite false mantissa scale :=
  beq_iff_eq

theorem ten_pow_unitExponent :
    10 ^ unitExponent = Nat.pow 5 unitExponent * unitsInOne := by
  decide +kernel

theorem readsBack_exactDecimal (proper : (finite false mantissa scale).Proper) :
    readsBack mantissa scale (exactDecimal mantissa scale) = true := by
  rw [readsBack_iff, exactDecimal, ofDecimal_eq]
  have positive : 0 < Nat.pow 5 unitExponent * unitsInOne := by
    rw [← ten_pow_unitExponent]
    exact ten_pow_pos unitExponent
  rw [Int.neg_neg, Int.toNat_natCast, Int.toNat_neg_natCast, Nat.pow_zero, Nat.mul_one,
    ten_pow_unitExponent, Nat.mul_assoc]
  exact ofUnits_units proper positive

theorem readsBack_neighbour {dropped : Nat}
    (found : neighbour? mantissa scale exact dropped = some d) :
    readsBack mantissa scale d = true := by
  unfold neighbour? at found
  dsimp only at found
  split at found
  · rename_i below _
    exact Option.some.inj found ▸ below
  · rename_i _ above
    exact Option.some.inj found ▸ above
  · cases found
  · rename_i below above
    split at found
    · exact Option.some.inj found ▸ below
    · exact Option.some.inj found ▸ above

theorem readsBack_shortestFrom (h : readsBack mantissa scale exact = true) (width fuel kept : Nat) :
    readsBack mantissa scale (shortestFrom mantissa scale exact width fuel kept) = true := by
  induction fuel generalizing kept with
  | zero => exact h
  | succ fuel ih =>
      unfold shortestFrom
      split
      · rename_i found
        exact readsBack_neighbour found
      · exact ih (kept + 1)

theorem readsBack_strip (fuel : Nat) (h : readsBack mantissa scale d = true) :
    readsBack mantissa scale (Decimal.strip fuel d) = true := by
  induction fuel generalizing d with
  | zero => exact h
  | succ fuel ih =>
      unfold Decimal.strip
      split
      · rename_i zeros
        simp only [Bool.and_eq_true, beq_iff_eq] at zeros
        refine ih (readsBack_iff.mpr ?_)
        have shifted := ofDecimal_mul_ten_pow false (d.digits / 10) 1 d.exponent
        rw [Nat.pow_one, Nat.div_mul_cancel (Nat.dvd_of_mod_eq_zero zeros.2)] at shifted
        exact shifted.symm.trans (readsBack_iff.mp h)
      · exact h

theorem ofDecimal_shortest {negative : Bool} (proper : (finite negative mantissa scale).Proper) :
    ofDecimal negative (shortest mantissa scale).digits (shortest mantissa scale).exponent =
      finite negative mantissa scale := by
  refine ofDecimal_of_false (readsBack_iff.mp ?_) negative
  exact readsBack_strip _ (readsBack_shortestFrom (readsBack_exactDecimal proper) _ _ _)

theorem shortest_digits_pos (proper : (finite false mantissa scale).Proper)
    (nonzero : mantissa ≠ 0) : 0 < (shortest mantissa scale).digits := by
  refine Nat.pos_of_ne_zero fun none => nonzero ?_
  have read := ofDecimal_shortest proper
  rw [none] at read
  exact (finite.inj read).2.1.symm

end Binary64

end GraphFacade
