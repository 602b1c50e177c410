/-!
# Code points of texts

A JSON text can name half of a code point beyond the basic plane without its other
half.  No character is such a half, so each one is kept as a stand-in, and the
characters that would be taken for stand-ins are kept behind a mark.  In this way
all sequences of code points and halves are kept apart.
-/

namespace GraphFacade

namespace Text

/-- From a half to its stand-in. -/
def halfShift : Nat := 0x50000

/-- The code point of the mark before a character that would be taken for something else. -/
def markCode : Nat := 0x5E000

def mark : Char := Char.ofNat markCode

def isHighHalf (code : Nat) : Bool :=
  0xD800 <= code && code < 0xDC00

def isLowHalf (code : Nat) : Bool :=
  0xDC00 <= code && code < 0xE000

def isHalf (code : Nat) : Bool :=
  isHighHalf code || isLowHalf code

def joinHalves (high low : Nat) : Nat :=
  0x10000 + (high - 0xD800) * 0x400 + (low - 0xDC00)

/-- Whether a code point would be taken for a stand-in or for the mark. -/
def isReserved (code : Nat) : Bool :=
  0xD800 + halfShift <= code && code <= markCode

/-- The characters that a code point or a half is kept as. -/
def ofCode (code : Nat) : List Char :=
  if isHalf code then [Char.ofNat (code + halfShift)]
  else if isReserved code then [mark, Char.ofNat code]
  else [Char.ofNat code]

/-- The code point or the half that a character without a mark before it stands for. -/
def codeOf (c : Char) : Nat :=
  if isReserved c.toNat then c.toNat - halfShift else c.toNat

/-- The code points and halves of a text; the flag tells whether a mark stands before it. -/
def codesFrom : Bool -> List Char -> List Nat
  | _, [] => []
  | true, c :: rest => c.toNat :: codesFrom false rest
  | false, c :: rest =>
      if c == mark then codesFrom true rest else codeOf c :: codesFrom false rest

def codes (cs : List Char) : List Nat :=
  codesFrom false cs

def size (s : String) : Nat :=
  (codes s.toList).length

/-- The first code point or half of a text. -/
def first? (s : String) : Option String :=
  (codes s.toList).head?.map fun code => String.ofList (ofCode code)

/-- Whether a text comes before another by their code points and halves. -/
def before (s t : String) : Bool :=
  codes s.toList < codes t.toList

/-- Whether a text holds a half, and so has no bytes. -/
def hasHalf (s : String) : Bool :=
  (codes s.toList).any isHalf

/-- A text as it is kept, with marks where they are due. -/
def kept (s : String) : String :=
  String.ofList (s.toList.flatMap fun c => ofCode c.toNat)

/-- A text without marks, as it is when it leaves the program. -/
def plain (s : String) : String :=
  String.ofList ((codes s.toList).map Char.ofNat)

theorem toNat_ofNat_of_isValidChar {n : Nat} (valid : n.isValidChar) :
    (Char.ofNat n).toNat = n := by
  rw [Char.ofNat, dif_pos valid]
  rfl

theorem beq_mark_of_toNat_ne {c : Char} (other : c.toNat ≠ markCode) : (c == mark) = false := by
  refine beq_eq_false_iff_ne.mpr fun same => other ?_
  rw [same]
  exact toNat_ofNat_of_isValidChar (by decide)

theorem codes_of_forall_not_isReserved {cs : List Char}
    (plain : ∀ c ∈ cs, isReserved c.toNat = false) : codes cs = cs.map Char.toNat := by
  induction cs with
  | nil => rfl
  | cons c rest ih =>
    have own : isReserved c.toNat = false := plain c List.mem_cons_self
    have other : (c == mark) = false := beq_mark_of_toNat_ne (by
      intro same
      rw [same] at own
      exact absurd own (by decide))
    have later := ih fun d inRest => plain d (List.mem_cons_of_mem c inRest)
    simp only [codes] at later ⊢
    simp [codesFrom, other, codeOf, own, later]

theorem codes_ofCode_append {code : Nat} (valid : code.isValidChar ∨ isHalf code = true)
    (rest : List Char) : codes (ofCode code ++ rest) = code :: codes rest := by
  by_cases half : isHalf code = true
  · have bounds : 0xD800 ≤ code ∧ code < 0xE000 := by
      simp only [isHalf, isHighHalf, isLowHalf, Bool.or_eq_true, Bool.and_eq_true,
        decide_eq_true_eq] at half
      omega
    have shifted : (Char.ofNat (code + halfShift)).toNat = code + halfShift :=
      toNat_ofNat_of_isValidChar (by
        simp only [Nat.isValidChar, halfShift]
        omega)
    have reserved : isReserved (code + halfShift) = true := by
      simp [isReserved, halfShift, markCode]
      omega
    have other : (Char.ofNat (code + halfShift) == mark) = false :=
      beq_mark_of_toNat_ne (by
        rw [shifted]
        simp only [halfShift, markCode]
        omega)
    simp [ofCode, half, codes, codesFrom, other, codeOf, shifted, reserved]
  · have own := toNat_ofNat_of_isValidChar (valid.resolve_right half)
    by_cases reserved : isReserved code = true
    · simp [ofCode, half, reserved, codes, codesFrom, own]
    · have other : (Char.ofNat code == mark) = false := beq_mark_of_toNat_ne (by
        rw [own]
        rintro rfl
        exact reserved (by decide))
      simp [ofCode, half, reserved, codes, codesFrom, other, codeOf, own]

end Text

end GraphFacade
