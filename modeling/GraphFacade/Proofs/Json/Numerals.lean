import GraphFacade.Json.Reader
import GraphFacade.Json.Writer
import GraphFacade.Proofs.Number.Shortest
import GraphFacade.Proofs.Text.Numerals

/-!
# Written numbers are read back

A whole number is its digits.  A double is written as the digits of its shortest
decimal, with a point among them or an exponent behind them, and each of these
layouts is read as that decimal.
-/

namespace GraphFacade

namespace Json

def Ended (rest : List Char) : Prop :=
  ∀ c ∈ rest.head?, c = ',' ∨ c = ']' ∨ c = '\x7d'

def DigitsEnd (rest : List Char) : Prop :=
  ∀ c ∈ rest.head?, c.isDigit = false

def signText (negative : Bool) : List Char :=
  if negative then ['-'] else []

variable {limit : Nat} {negative : Bool} {whole fraction digits text after last rest : List Char}
  {exponent : Option Int}

theorem ended_nil : Ended [] := by
  simp [Ended]

theorem Ended.digitsEnd (h : Ended rest) : DigitsEnd rest := by
  intro c first
  rcases h c first with rfl | rfl | rfl <;> rfl

theorem Ended.ne (h : Ended rest) {c : Char} (other : c ≠ ',' ∧ c ≠ ']' ∧ c ≠ '\x7d') :
    rest.head? ≠ some c := by
  intro first
  rcases h c first with rfl | rfl | rfl <;> simp at other

/-! ## Parts of a numeral -/

theorem span_digits (each : ∀ c ∈ digits, c.isDigit = true) (ends : DigitsEnd rest) :
    (digits ++ rest).takeWhile Char.isDigit = digits ∧
      (digits ++ rest).dropWhile Char.isDigit = rest := by
  rw [List.takeWhile_append_of_pos each, List.dropWhile_append_of_pos each]
  cases rest with
  | nil => simp
  | cons c more =>
      have other : c.isDigit = false := ends c rfl
      simp [other]

theorem readWhole?_digits (each : ∀ c ∈ digits, c.isDigit = true) (some' : digits ≠ [])
    (significant : digits.head? ≠ some '0') (ends : DigitsEnd rest) :
    readWhole? (digits ++ rest) = some (digits, rest) := by
  obtain ⟨taken, dropped⟩ := span_digits each ends
  unfold readWhole?
  split
  · rename_i zero
    cases digits with
    | nil => exact absurd rfl some'
    | cons c more => exact absurd (congrArg some (List.cons.inj zero).1) significant
  · rename_i c _ _ starts
    cases digits with
    | nil => exact absurd rfl some'
    | cons d more =>
        have digit : c.isDigit = true := (List.cons.inj starts).1 ▸ each d List.mem_cons_self
        rw [if_pos digit, taken, dropped]
  · rename_i empty
    exact absurd (List.append_eq_nil_iff.mp empty).1 some'

theorem readFraction_point (each : ∀ c ∈ digits, c.isDigit = true) (some' : digits ≠ [])
    (ends : DigitsEnd rest) : readFraction ('.' :: (digits ++ rest)) = (digits, rest) := by
  obtain ⟨taken, dropped⟩ := span_digits each ends
  simp [readFraction, taken, dropped, some']

theorem readFraction_of_ne (other : rest.head? ≠ some '.') : readFraction rest = ([], rest) := by
  unfold readFraction
  split
  · simp at other
  · rfl

theorem readExponent_mark (negative : Bool) (each : ∀ c ∈ digits, c.isDigit = true)
    (some' : digits ≠ []) (ends : DigitsEnd rest) :
    readExponent ('e' :: (if negative then '-' else '+') :: (digits ++ rest)) =
      (some (if negative then -(digitsToNat digits : Int) else digitsToNat digits), rest) := by
  obtain ⟨taken, dropped⟩ := span_digits each ends
  cases negative <;> simp [readExponent, taken, dropped, some']

theorem readExponent_of_ne (lower : rest.head? ≠ some 'e') (upper : rest.head? ≠ some 'E') :
    readExponent rest = (none, rest) := by
  cases rest with
  | nil => rfl
  | cons c more =>
      have other : c ≠ 'e' ∧ c ≠ 'E' :=
        ⟨fun same => lower (by rw [same]; rfl), fun same => upper (by rw [same]; rfl)⟩
      unfold readExponent
      split <;> simp_all

/-! ## Numerals -/

theorem head?_ne_minus {c : Char} (digit : c.isDigit = true) (more : List Char) :
    (c :: more).head? ≠ some '-' := by
  rintro same
  rw [Option.some.inj same] at digit
  cases digit

theorem head?_signText (negative : Bool) (unsigned : text.head? ≠ some '-') :
    ((signText negative ++ text).head? == some '-') = negative ∧
      (if negative then (signText negative ++ text).drop 1 else signText negative ++ text) =
        text := by
  cases negative
  · simpa [signText] using unsigned
  · simp [signText]

/-- A number is read from its parts. -/
theorem readNumber_float (unsigned : text.head? ≠ some '-')
    (first : readWhole? text = some (whole, after)) (second : readFraction after = (fraction, last))
    (third : readExponent last = (exponent, rest)) (double : fraction ≠ [] ∨ exponent ≠ none) :
    readNumber limit (signText negative ++ text) =
      .ok (.float (.ofDecimal negative (digitsToNat (whole ++ fraction))
        (exponent.getD 0 - fraction.length)), rest) := by
  obtain ⟨sign, behind⟩ := head?_signText negative unsigned
  have parts : (fraction.isEmpty && exponent.isNone) = false := by
    cases fraction <;> cases exponent <;> simp_all
  unfold readNumber
  simp only [sign, behind, first, second, third, parts]
  rfl

/-- A whole number is read from its digits. -/
theorem readNumber_int (negative : Bool) (unsigned : (digits ++ rest).head? ≠ some '-')
    (first : readWhole? (digits ++ rest) = some (digits, rest)) (ended : Ended rest)
    (short : digits.length ≤ limit) :
    readNumber limit (signText negative ++ (digits ++ rest)) =
      .ok (.int (if negative then -(digitsToNat digits : Int) else digitsToNat digits), rest) := by
  obtain ⟨sign, behind⟩ := head?_signText negative unsigned
  have second := readFraction_of_ne (ended.ne (c := '.') (by decide))
  have third := readExponent_of_ne (ended.ne (c := 'e') (by decide))
    (ended.ne (c := 'E') (by decide))
  unfold readNumber
  simp only [sign, behind, first, second, third]
  simp [Nat.not_lt.mpr short]

/-- What starts with no name is read as a number. -/
theorem readAtom_of_head? {cs : List Char}
    (other : ∀ c ∈ cs.head?, c ≠ 'n' ∧ c ≠ 't' ∧ c ≠ 'f' ∧ c ≠ 'N' ∧ c ≠ 'I')
    (finite : cs.head? = some '-' -> cs.tail.head? ≠ some 'I') :
    readAtom limit cs = readNumber limit cs := by
  unfold readAtom
  split
  case h_7 => rfl
  case h_6 => exact absurd rfl (finite rfl)
  all_goals exact absurd (other _ rfl) (by decide)

theorem readAtom_number {c : Char} (digit : c.isDigit = true) (more : List Char) :
    readAtom limit (signText negative ++ c :: more) =
      readNumber limit (signText negative ++ c :: more) := by
  have other : c ≠ 'n' ∧ c ≠ 't' ∧ c ≠ 'f' ∧ c ≠ 'N' ∧ c ≠ 'I' := by
    refine ⟨?_, ?_, ?_, ?_, ?_⟩ <;> rintro rfl <;> exact absurd digit (by decide)
  cases negative
  · refine readAtom_of_head? (fun d first => Option.some.inj first ▸ other) fun minus => ?_
    exact absurd minus (head?_ne_minus digit more)
  · refine readAtom_of_head? (fun d first => Option.some.inj first ▸ by decide) fun _ name => ?_
    exact other.2.2.2.2 (Option.some.inj name)

/-! ## Digits of a number -/

theorem digitsToNat_eq (digits : List Char) :
    digitsToNat digits = Nat.ofDigitChars 10 digits 0 :=
  Nat.ofDigitChars_eq_foldl.symm

theorem digitsToNat_toDigits (n : Nat) : digitsToNat (Nat.toDigits 10 n) = n := by
  rw [digitsToNat_eq, Nat.ofDigitChars_ten_toDigits]

theorem digitsToNat_zeros_append (zeros : Nat) (digits : List Char) :
    digitsToNat (List.replicate zeros '0' ++ digits) = digitsToNat digits := by
  simp only [digitsToNat_eq, Nat.ofDigitChars_append, Nat.ofDigitChars_replicate_zero, Nat.mul_zero]

theorem digitsToNat_append_zeros (digits : List Char) (zeros : Nat) :
    digitsToNat (digits ++ List.replicate zeros '0') = digitsToNat digits * 10 ^ zeros := by
  simp only [digitsToNat_eq, Nat.ofDigitChars_append, Nat.ofDigitChars_replicate_zero, Nat.mul_comm]

theorem head?_toDigits {n : Nat} (positive : 0 < n) : (Nat.toDigits 10 n).head? ≠ some '0' := by
  induction n using Nat.strongRecOn with
  | ind n ih =>
      rw [Nat.toDigits_eq_if (by decide)]
      split
      · simp [positive.ne']
      · rename_i large
        have shorter := ih (n / 10) (by omega) (by omega)
        rwa [List.head?_append_of_ne_nil _ Nat.toDigits_ne_nil]

theorem readWhole?_toDigits (n : Nat) (ends : DigitsEnd rest) :
    readWhole? (Nat.toDigits 10 n ++ rest) = some (Nat.toDigits 10 n, rest) := by
  rcases Nat.eq_zero_or_pos n with rfl | positive
  · rfl
  · exact readWhole?_digits (fun c => Text.isDigit_of_mem_decimal) Nat.toDigits_ne_nil
      (head?_toDigits positive) ends

/-! ## Whole numbers -/

theorem exists_cons_toDigits (n : Nat) :
    ∃ c more, Nat.toDigits 10 n = c :: more ∧ c.isDigit = true := by
  have some' : Nat.toDigits 10 n ≠ [] := Nat.toDigits_ne_nil
  obtain ⟨c, more, starts⟩ := List.exists_cons_of_ne_nil some'
  exact ⟨c, more, starts, Text.isDigit_of_mem_decimal (starts ▸ List.mem_cons_self)⟩

theorem signed_natAbs (i : Int) :
    (if (decide (i < 0)) = true then -(i.natAbs : Int) else i.natAbs) = i := by
  simp only [decide_eq_true_eq]
  omega

theorem writeInt_eq (i : Int) : writeInt i = signText (i < 0) ++ Nat.toDigits 10 i.natAbs := by
  unfold writeInt signText
  split <;> simp_all

theorem readAtom_writeInt {i : Int} (short : (Nat.toDigits 10 i.natAbs).length ≤ limit)
    (ended : Ended rest) : readAtom limit (writeInt i ++ rest) = .ok (.int i, rest) := by
  obtain ⟨c, more, starts, digit⟩ := exists_cons_toDigits i.natAbs
  have unsigned : (Nat.toDigits 10 i.natAbs ++ rest).head? ≠ some '-' := by
    rw [starts]
    exact head?_ne_minus digit _
  have read := readNumber_int (i < 0) unsigned
    (readWhole?_toDigits i.natAbs ended.digitsEnd) ended short
  rw [writeInt_eq, List.append_assoc]
  rw [digitsToNat_toDigits, signed_natAbs] at read
  rw [starts, List.cons_append] at read ⊢
  rw [readAtom_number digit, read]

/-! ## Doubles -/

/-- A text is read as a decimal, behind a sign or not. -/
structure Spells (text : List Char) (digits : Nat) (exponent : Int) : Prop where
  digit : ∃ c more, text = c :: more ∧ c.isDigit = true
  reads : ∀ limit negative rest, Ended rest ->
    readNumber limit (signText negative ++ (text ++ rest)) =
      .ok (.float (.ofDecimal negative digits exponent), rest)

/-- Digits that are the whole part of a number, whatever follows them but digits. -/
structure IsWhole (digits : List Char) : Prop where
  digit : ∃ c more, digits = c :: more ∧ c.isDigit = true
  reads : ∀ rest, DigitsEnd rest -> readWhole? (digits ++ rest) = some (digits, rest)

theorem isWhole_zero : IsWhole ['0'] :=
  ⟨⟨_, _, rfl, rfl⟩, fun _ _ => rfl⟩

theorem isWhole_of_significant (each : ∀ c ∈ digits, c.isDigit = true) (some' : digits ≠ [])
    (significant : digits.head? ≠ some '0') : IsWhole digits where
  digit := by
    obtain ⟨c, more, rfl⟩ := List.exists_cons_of_ne_nil some'
    exact ⟨c, more, rfl, each c List.mem_cons_self⟩
  reads _ ends := readWhole?_digits each some' significant ends

theorem IsWhole.head?_ne (h : IsWhole digits) (more : List Char) :
    (digits ++ more).head? ≠ some '-' := by
  obtain ⟨c, others, rfl, digit⟩ := h.digit
  exact head?_ne_minus digit _

theorem digitsEnd_cons {c : Char} (other : c.isDigit = false) (cs : List Char) :
    DigitsEnd (c :: cs) := by
  rintro d ⟨⟩
  exact other

theorem isDigit_zeros (zeros : Nat) : ∀ c ∈ List.replicate zeros '0', c.isDigit = true := by
  intro c among
  rw [List.eq_of_mem_replicate among]
  rfl

theorem isDigit_filled (zeros n : Nat) :
    ∀ c ∈ List.replicate zeros '0' ++ Nat.toDigits 10 n, c.isDigit = true := by
  intro c among
  rcases List.mem_append.mp among with zero | digit
  · exact isDigit_zeros zeros c zero
  · exact Text.isDigit_of_mem_decimal digit

theorem filled_ne_nil (zeros n : Nat) : List.replicate zeros '0' ++ Nat.toDigits 10 n ≠ [] :=
  List.append_ne_nil_of_right_ne_nil _ Nat.toDigits_ne_nil

section Layouts

variable {n : Nat} {e : Int}

/-- A point among digits. -/
theorem spells_point (whole' : IsWhole whole) (each : ∀ c ∈ fraction, c.isDigit = true)
    (some' : fraction ≠ [])
    (value : ∀ negative, Binary64.ofDecimal negative (digitsToNat (whole ++ fraction))
      (-(fraction.length : Int)) = .ofDecimal negative n e) :
    Spells (whole ++ '.' :: fraction) n e where
  digit := by
    obtain ⟨c, more, rfl, digit⟩ := whole'.digit
    exact ⟨c, more ++ '.' :: fraction, rfl, digit⟩
  reads limit negative rest ended := by
    have first := whole'.reads ('.' :: (fraction ++ rest)) (digitsEnd_cons rfl _)
    have second := readFraction_point each some' ended.digitsEnd
    have third := readExponent_of_ne (ended.ne (c := 'e') (by decide))
      (ended.ne (c := 'E') (by decide))
    rw [List.append_assoc, List.cons_append, readNumber_float (whole'.head?_ne _) first second
      third (.inl some')]
    rw [Option.getD_none, Int.zero_sub, value]

theorem isWhole_toDigits_append (positive : 0 < n) {more : List Char}
    (each : ∀ c ∈ more, c.isDigit = true) : IsWhole (Nat.toDigits 10 n ++ more) := by
  refine isWhole_of_significant (fun c among => ?_)
    (List.append_ne_nil_of_left_ne_nil Nat.toDigits_ne_nil _) ?_
  · rcases List.mem_append.mp among with digit | digit
    · exact Text.isDigit_of_mem_decimal digit
    · exact each c digit
  · rw [List.head?_append_of_ne_nil _ Nat.toDigits_ne_nil]
    exact head?_toDigits positive

theorem isWhole_take (positive : 0 < n) {count : Nat} (some' : 0 < count) :
    IsWhole ((Nat.toDigits 10 n).take count) := by
  refine isWhole_of_significant
    (fun c among => Text.isDigit_of_mem_decimal (List.mem_of_mem_take among)) ?_ ?_
  · simp [Nat.toDigits_ne_nil, some'.ne']
  · rw [List.head?_take, if_neg some'.ne']
    exact head?_toDigits positive

open Binary64

theorem spells_fraction (n zeros : Nat) :
    Spells ('0' :: '.' :: (List.replicate zeros '0' ++ Nat.toDigits 10 n)) n
      (-((zeros + (Nat.toDigits 10 n).length : Nat) : Int)) := by
  have zero : ['0'] ++ (List.replicate zeros '0' ++ Nat.toDigits 10 n) =
      List.replicate (zeros + 1) '0' ++ Nat.toDigits 10 n := rfl
  refine spells_point isWhole_zero (isDigit_filled zeros n) (filled_ne_nil zeros n)
    fun negative => ?_
  rw [zero, digitsToNat_zeros_append, digitsToNat_toDigits, List.length_append,
    List.length_replicate]

theorem spells_whole (positive : 0 < n) (zeros : Nat) :
    Spells (Nat.toDigits 10 n ++ List.replicate zeros '0' ++ ['.', '0']) n zeros := by
  have zero : Nat.toDigits 10 n ++ List.replicate zeros '0' ++ ['0'] =
      Nat.toDigits 10 n ++ List.replicate (zeros + 1) '0' := by
    rw [List.append_assoc, List.replicate_succ']
  have place : -((['0'].length : Nat) : Int) + (zeros + 1 : Nat) = zeros := by
    simp only [List.length_singleton]
    omega
  refine spells_point (isWhole_toDigits_append positive (isDigit_zeros zeros)) (by simp)
    (by simp) fun negative => ?_
  rw [zero, digitsToNat_append_zeros, digitsToNat_toDigits, ofDecimal_mul_ten_pow, place]

/-- The point among the digits. -/
theorem spells_mixed (positive : 0 < n) {first : Nat} (some' : 0 < first)
    (more : first < (Nat.toDigits 10 n).length) :
    Spells ((Nat.toDigits 10 n).take first ++ '.' :: (Nat.toDigits 10 n).drop first) n
      (first - (Nat.toDigits 10 n).length) := by
  have place : -((((Nat.toDigits 10 n).drop first).length : Nat) : Int) =
      first - (Nat.toDigits 10 n).length := by
    rw [List.length_drop]
    omega
  refine spells_point (isWhole_take positive some')
    (fun c among => Text.isDigit_of_mem_decimal (List.mem_of_mem_drop among)) ?_ fun negative => ?_
  · rw [ne_eq, List.drop_eq_nil_iff]
    omega
  · rw [List.take_append_drop, digitsToNat_toDigits, place]

theorem spells_plainText (positive : 0 < n) (e : Int) :
    Spells (plainText (Nat.toDigits 10 n) ((Nat.toDigits 10 n).length + e)) n e := by
  generalize count : (Nat.toDigits 10 n).length + e = point
  unfold plainText
  split
  · have place : e = -(((-point).toNat + (Nat.toDigits 10 n).length : Nat) : Int) := by omega
    rw [List.append_assoc, place]
    exact spells_fraction n _
  · split
    · have place : e = (point.toNat - (Nat.toDigits 10 n).length : Nat) := by omega
      rw [place]
      exact spells_whole positive _
    · have place : e = point.toNat - (Nat.toDigits 10 n).length := by omega
      rw [List.append_assoc, place]
      exact spells_mixed positive (by omega) (by omega)

/-- A point is read if a digit follows it, and left out if none does. -/
theorem readFraction_optional (each : ∀ c ∈ fraction, c.isDigit = true) {c : Char}
    (other : c.isDigit = false ∧ c ≠ '.') (more : List Char) :
    readFraction ((if fraction.isEmpty then [] else '.' :: fraction) ++ c :: more) =
      (fraction, c :: more) := by
  cases fraction with
  | nil => exact readFraction_of_ne fun same => other.2 (Option.some.inj same)
  | cons d others => exact readFraction_point each (by simp) (digitsEnd_cons other.1 more)

theorem readExponent_filled (x : Int) (filled : Nat) (ended : Ended rest) :
    readExponent ('e' :: (if x < 0 then '-' else '+') ::
      (List.replicate filled '0' ++ Nat.toDigits 10 x.natAbs ++ rest)) = (some x, rest) := by
  have read := readExponent_mark (x < 0) (isDigit_filled filled x.natAbs)
    (filled_ne_nil filled x.natAbs) ended.digitsEnd
  rw [digitsToNat_zeros_append, digitsToNat_toDigits, signed_natAbs] at read
  simpa only [decide_eq_true_eq] using read

theorem exponentText_append (x : Int) :
    exponentText digits x ++ rest =
      digits.take 1 ++ ((if (digits.drop 1).isEmpty then [] else '.' :: digits.drop 1) ++
        'e' :: (if x < 0 then '-' else '+') ::
          (List.replicate (layout.exponentWidth - (Nat.toDigits 10 x.natAbs).length) '0' ++
            Nat.toDigits 10 x.natAbs ++ rest)) := by
  simp [exponentText]

theorem spells_exponentText (positive : 0 < n) (e : Int) :
    Spells (exponentText (Nat.toDigits 10 n) ((Nat.toDigits 10 n).length + e - 1)) n e := by
  generalize point : ((Nat.toDigits 10 n).length : Int) + e - 1 = x
  have width : 0 < (Nat.toDigits 10 n).length := Nat.length_toDigits_pos
  have whole : IsWhole ((Nat.toDigits 10 n).take 1) := isWhole_take positive Nat.one_pos
  have each : ∀ c ∈ (Nat.toDigits 10 n).drop 1, c.isDigit = true := fun c among =>
    Text.isDigit_of_mem_decimal (List.mem_of_mem_drop among)
  constructor
  case digit =>
    obtain ⟨c, more, starts, digit⟩ := whole.digit
    have text : exponentText (Nat.toDigits 10 n) x ++ [] = _ := exponentText_append x
    rw [List.append_nil, starts, List.cons_append] at text
    exact ⟨c, _, text, digit⟩
  case reads =>
    intro limit negative rest ended
    rw [exponentText_append]
    have ends : DigitsEnd ((if ((Nat.toDigits 10 n).drop 1).isEmpty then []
        else '.' :: (Nat.toDigits 10 n).drop 1) ++ 'e' :: (if x < 0 then '-' else '+') ::
          (List.replicate (layout.exponentWidth - (Nat.toDigits 10 x.natAbs).length) '0' ++
            Nat.toDigits 10 x.natAbs ++ rest)) := by
      split
      · exact digitsEnd_cons rfl _
      · exact digitsEnd_cons rfl _
    rw [readNumber_float (whole.head?_ne _) (whole.reads _ ends)
      (readFraction_optional each (by decide) _) (readExponent_filled x _ ended)
      (.inr (by simp))]
    have place : x - (((Nat.toDigits 10 n).drop 1).length : Int) = e := by
      rw [List.length_drop]
      omega
    rw [List.take_append_drop, digitsToNat_toDigits, Option.getD_some, place]

/-- The text of a double without its sign is read as the double. -/
theorem spells_magnitudeText {mantissa scale : Nat}
    (proper : (finite false mantissa scale).Proper) :
    ∃ n e, Spells (magnitudeText mantissa scale) n e ∧
      ∀ negative, ofDecimal negative n e = finite negative mantissa scale := by
  unfold magnitudeText
  split
  · rename_i zero
    have none : mantissa = 0 := eq_of_beq zero
    subst none
    have least : scale = 0 := proper.2.2.resolve_right (by decide)
    subst least
    refine ⟨0, -1, ?_, fun _ => rfl⟩
    exact spells_point isWhole_zero (isDigit_zeros 1) (by simp) fun _ => rfl
  · rename_i nonzero
    have positive := shortest_digits_pos proper fun none => nonzero (by simp [none])
    refine ⟨_, (shortest mantissa scale).exponent, ?_, fun _ => ofDecimal_shortest proper⟩
    dsimp only
    split
    · exact spells_plainText positive _
    · exact spells_exponentText positive _

/-- A finite double is read from what it is written as. -/
theorem readAtom_writeFloat {x : Binary64} (proper : x.Proper) (ended : Ended rest) :
    readAtom limit (writeFloat x ++ rest) = .ok (.float x, rest) := by
  cases x with
  | infinite negative => exact proper.elim
  | nan => exact proper.elim
  | finite negative mantissa scale =>
      obtain ⟨n, e, spells, value⟩ := spells_magnitudeText proper
      have read := spells.reads limit negative rest ended
      obtain ⟨c, more, starts, digit⟩ := spells.digit
      have written : writeFloat (finite negative mantissa scale) =
          signText negative ++ magnitudeText mantissa scale := rfl
      rw [value, starts, List.cons_append] at read
      rw [written, starts, List.append_assoc, List.cons_append, readAtom_number digit, read]

end Layouts

end Json

end GraphFacade
