import GraphFacade.Json.Display
import GraphFacade.Json.Reader

/-!
# Written texts are read back

A text without halves is written code point by code point, each as itself, as a
letter behind a backslash or in the digits of one or two code units.  A reader
takes each of these for the code point it came from.
-/

namespace GraphFacade

def Text.Whole (s : String) : Prop :=
  ∃ t, s = Text.kept t

namespace Json

/-! ## Code units -/

theorem hexDigit?_digitChar : ∀ n < 16, Text.hexDigit? (Nat.digitChar n) = some n := by
  decide

theorem hexWidth_succ (width n : Nat) (positive : 0 < width) :
    Text.hexWidth (width + 1) n = Text.hexWidth width (n / 16) ++ [Nat.digitChar (n % 16)] := by
  simp only [Text.hexWidth]
  rw [Nat.toDigits_eq_if (by decide)]
  split
  · rename_i small
    have zeros : List.replicate width '0' = List.replicate (width - 1) '0' ++ ['0'] := by
      rw [← List.replicate_succ', Nat.sub_add_cancel positive]
    simp [Nat.div_eq_of_lt small, Nat.mod_eq_of_lt small, zeros]
  · simp

theorem hexWidth_one {n : Nat} (small : n < 16) : Text.hexWidth 1 n = [Nat.digitChar n] := by
  simp [Text.hexWidth, Nat.toDigits_of_lt_base small]

theorem hexUnit_digits {unit : Nat} (small : unit < 0x10000) :
    ∃ a b c d, hexUnit unit = [a, b, c, d] ∧ hexCode? a b c d = some unit := by
  have digits : hexUnit unit = Text.hexWidth 4 unit := rfl
  have first : unit / 16 / 16 / 16 < 16 := by omega
  rw [hexWidth_succ 3 _ (by decide), hexWidth_succ 2 _ (by decide), hexWidth_succ 1 _ (by decide),
    hexWidth_one first] at digits
  refine ⟨_, _, _, _, digits, ?_⟩
  simp only [hexCode?, hexDigit?_digitChar _ first,
    hexDigit?_digitChar _ (Nat.mod_lt _ (show 16 > 0 by decide))]
  refine congrArg some ?_
  omega

variable {opening more : List Char} {code unit : Nat}

theorem readText_codeEscape (small : unit < 0x10000) (whole : Text.isHighHalf unit = false)
    (some' : more ≠ []) :
    readText opening (codeEscape unit ++ more) = (readText opening more).cons unit := by
  obtain ⟨a, b, c, d, digits, read⟩ := hexUnit_digits small
  obtain ⟨next, after, rfl⟩ := List.exists_cons_of_ne_nil some'
  simp [codeEscape, digits, readText, read, lowHalf?, whole]

/-- The escapes of two halves are read as the code point that they make up. -/
theorem readText_halves {high low : Nat} (first : Text.isHighHalf high = true)
    (second : Text.isLowHalf low = true) (some' : more ≠ []) :
    readText opening (codeEscape high ++ codeEscape low ++ more) =
      (readText opening more).cons (Text.joinHalves high low) := by
  have small : high < 0x10000 ∧ low < 0x10000 := by
    simp only [Text.isHighHalf, Text.isLowHalf, Bool.and_eq_true, decide_eq_true_eq] at first second
    omega
  obtain ⟨a, b, c, d, digits, read⟩ := hexUnit_digits small.1
  obtain ⟨a', b', c', d', digits', read'⟩ := hexUnit_digits small.2
  obtain ⟨next, after, rfl⟩ := List.exists_cons_of_ne_nil some'
  simp [codeEscape, digits, digits', readText, read, read', lowHalf?, first, second]

theorem readText_simple {e c : Char} (stands : simpleEscape? e = some c) :
    readText opening ('\\' :: e :: more) = (readText opening more).cons c.toNat := by
  have letter : e ≠ 'u' := by
    rintro rfl
    cases stands
  rw [readText.eq_def]
  simp [letter, stands]

theorem joinHalves_div_mod (n : Nat) :
    Text.joinHalves (0xD800 + n / 0x400) (0xDC00 + n % 0x400) = 0x10000 + n := by
  unfold Text.joinHalves
  omega

theorem readText_escapeCode (valid : code.isValidChar) (some' : more ≠ []) :
    readText opening (escapeCode code ++ more) = (readText opening more).cons code := by
  have own : (Char.ofNat code).toNat = code := Text.toNat_ofNat_of_isValidChar valid
  have named : ∀ {e c : Char}, Char.ofNat code = c -> simpleEscape? e = some c ->
      readText opening ('\\' :: e :: more) = (readText opening more).cons code := by
    rintro e c rfl stands
    rw [readText_simple stands, own]
  unfold escapeCode
  dsimp only
  -- seven code points have a letter of their own
  iterate 7
    split
    · exact named (eq_of_beq ‹_›) rfl
  split
  · rename_i noQuote noBackslash _ _ _ _ _ plain
    simp only [Bool.and_eq_true, decide_eq_true_eq] at plain
    have shown : ¬ code < 0x20 := Nat.not_lt.mpr plain.1
    rw [List.singleton_append, readText.eq_def]
    simp [noQuote, noBackslash, own, shown]
  split
  · rename_i small
    refine readText_codeEscape small ?_ some'
    simp only [Nat.isValidChar] at valid
    simp [Text.isHighHalf]
    omega
  · rename_i large
    have last : code < 0x110000 := by
      simp only [Nat.isValidChar] at valid
      omega
    obtain ⟨halves, rfl⟩ := Nat.exists_eq_add_of_le (Nat.not_lt.mp large)
    rw [Nat.add_sub_cancel_left]
    have high : Text.isHighHalf (0xD800 + halves / 0x400) = true := by
      simp [Text.isHighHalf]
      omega
    have low : Text.isLowHalf (0xDC00 + halves % 0x400) = true := by
      simp [Text.isLowHalf]
      omega
    rw [readText_halves high low some', joinHalves_div_mod]

/-! ## Texts -/

/-- Code points that are no halves are read from what they are written as, up to the quote. -/
theorem readText_codes {codes : List Nat} (valid : ∀ code ∈ codes, code.isValidChar)
    (rest : List Char) :
    readText opening (codes.flatMap escapeCode ++ '"' :: rest) =
      .ok (codes.flatMap Text.ofCode, rest) := by
  induction codes with
  | nil =>
      rw [List.flatMap_nil, List.nil_append, readText.eq_def]
      rfl
  | cons code others ih =>
      rw [List.forall_mem_cons] at valid
      rw [List.flatMap_cons, List.append_assoc, readText_escapeCode valid.1 (by simp), ih valid.2]
      rfl

theorem codes_kept (s : String) : Text.codes (Text.kept s).toList = s.toList.map Char.toNat := by
  rw [Text.kept, String.toList_ofList]
  induction s.toList with
  | nil => rfl
  | cons c rest ih =>
      have valid : c.toNat.isValidChar := c.valid
      rw [List.flatMap_cons, Text.codes_ofCode_append (.inl valid), ih, List.map_cons]

theorem readText_whole {s : String} (whole : Text.Whole s) (rest : List Char) :
    readText opening ((Text.codes s.toList).flatMap escapeCode ++ '"' :: rest) =
      .ok (s.toList, rest) := by
  obtain ⟨t, rfl⟩ := whole
  have valid : ∀ code ∈ Text.codes (Text.kept t).toList, code.isValidChar := by
    rw [codes_kept]
    intro code among
    obtain ⟨c, _, rfl⟩ := List.mem_map.mp among
    exact c.valid
  rw [readText_codes valid, codes_kept, Text.kept, String.toList_ofList, List.flatMap_map]

end Json

end GraphFacade
