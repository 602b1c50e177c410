import GraphFacade.Text.Digit
import Mathlib.Algebra.Group.Nat.Defs
import Mathlib.Data.List.Basic

/-!
# Decimal numerals

A number in decimal digits is read as itself, unless it has more digits than a
numeral may have.
-/

namespace GraphFacade

namespace Text

variable {c : Char} {cs : List Char} {n : Nat}

theorem bounds_of_isDigit (digit : c.isDigit = true) : 48 ≤ c.toNat ∧ c.toNat ≤ 57 := by
  simp only [Char.isDigit, Bool.and_eq_true, decide_eq_true_eq] at digit
  exact digit

theorem decimalDigit?_of_isDigit (digit : c.isDigit = true) :
    decimalDigit? c = some (c.toNat - '0'.toNat) := by
  obtain ⟨low, high⟩ := bounds_of_isDigit digit
  have first : c.toNat < 48 + 10 := by omega
  simp [decimalDigit?, decimalZeros, low, first]

theorem isNumeralBlank_of_isDigit (digit : c.isDigit = true) :
    isNumeralBlank c = false := by
  obtain ⟨low, high⟩ := bounds_of_isDigit digit
  simp [isNumeralBlank, isBlank, inRanges, blankRanges]
  omega

theorem digitsValue?_of_isDigit (digits : ∀ c ∈ cs, c.isDigit = true) (value : Nat)
    (afterDigit : Bool) (some' : cs ≠ [] ∨ afterDigit = true) :
    digitsValue? value afterDigit cs = some (Nat.ofDigitChars 10 cs value) := by
  induction cs generalizing value afterDigit with
  | nil =>
      have after : afterDigit = true := some'.resolve_left fun h => h rfl
      rw [digitsValue?, after, if_pos rfl, Nat.ofDigitChars_nil]
  | cons c rest ih =>
      rw [List.forall_mem_cons] at digits
      rw [digitsValue?, decimalDigit?_of_isDigit digits.1, Nat.ofDigitChars_cons]
      exact ih digits.2 _ _ (.inr rfl)

theorem dropWhile_of_forall {drops : Char -> Bool} (kept : ∀ c ∈ cs, drops c = false) :
    cs.dropWhile drops = cs := by
  cases cs with
  | nil => rfl
  | cons c rest => exact List.dropWhile_cons_of_neg (by simp [kept c List.mem_cons_self])

theorem trimBoth_of_forall {drops : Char -> Bool} (kept : ∀ c ∈ cs, drops c = false) :
    trimBoth drops cs = cs := by
  have kept' : ∀ c ∈ cs.reverse, drops c = false :=
    fun c member => kept c (List.mem_reverse.mp member)
  rw [trimBoth, dropWhile_of_forall kept, dropWhile_of_forall kept', List.reverse_reverse]

theorem isDigit_of_mem_decimal (h : c ∈ Nat.toDigits 10 n) : c.isDigit = true :=
  Nat.isDigit_of_mem_toDigits (by decide) (by decide) h

theorem natural?_toDigits (n : Nat) :
    natural? (Nat.toDigits 10 n) = if n < 10 ^ digitLimit then some n else none := by
  have counted : (Nat.toDigits 10 n).countP (fun c => c != '_') = (Nat.toDigits 10 n).length := by
    refine List.countP_eq_length.mpr fun c member => bne_iff_ne.mpr ?_
    rintro rfl
    exact absurd (isDigit_of_mem_decimal member) (by decide)
  have short : (Nat.toDigits 10 n).length ≤ digitLimit ↔ n < 10 ^ digitLimit :=
    Nat.length_toDigits_le_iff (by decide) (by decide)
  have read : digitsValue? 0 false (Nat.toDigits 10 n) = some n := by
    have some' : Nat.toDigits 10 n ≠ [] ∨ false = true := .inl Nat.toDigits_ne_nil
    rw [digitsValue?_of_isDigit (fun c => isDigit_of_mem_decimal) 0 false some',
      Nat.ofDigitChars_ten_toDigits]
  rw [natural?, counted, read]
  by_cases h : n < 10 ^ digitLimit
  · rw [if_neg (Nat.not_lt.mpr (short.mpr h)), if_pos h]
  · rw [if_pos (Nat.lt_of_not_le (short.not.mpr h)), if_neg h]

theorem integer?_toDigits (n : Nat) :
    integer? (Nat.toDigits 10 n) = if n < 10 ^ digitLimit then some (n : Int) else none := by
  have trimmed : trimBoth isNumeralBlank (Nat.toDigits 10 n) = Nat.toDigits 10 n :=
    trimBoth_of_forall fun c member => isNumeralBlank_of_isDigit (isDigit_of_mem_decimal member)
  have some' : Nat.toDigits 10 n ≠ [] := Nat.toDigits_ne_nil
  obtain ⟨first, rest, digits⟩ := List.exists_cons_of_ne_nil some'
  have digit : first.isDigit = true := isDigit_of_mem_decimal (digits ▸ List.mem_cons_self)
  -- A digit is no sign.
  have unsigned : integer? (Nat.toDigits 10 n) =
      (natural? (Nat.toDigits 10 n)).map fun n => (n : Int) := by
    rw [integer?, trimmed, digits]
    split
    · rename_i sign
      cases sign
      simp at digit
    · rename_i sign
      cases sign
      simp at digit
    · rfl
  rw [unsigned, natural?_toDigits]
  split <;> rfl

end Text

end GraphFacade
