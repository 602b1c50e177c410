import GraphFacade.Text.Ranges

/-!
# Digits and blanks

Decimal digits of every script, the digits that have no place value (such as
superscripts), and the blanks that may surround a number.
-/

namespace GraphFacade

namespace Text

/-- Code points of the digit zero in each decimal block; its other digits follow it. -/
def decimalZeros : List Nat := [
    0x30, 0x660, 0x6f0, 0x7c0, 0x966, 0x9e6, 0xa66, 0xae6, 0xb66, 0xbe6, 0xc66, 0xce6, 0xd66,
    0xde6, 0xe50, 0xed0, 0xf20, 0x1040, 0x1090, 0x17e0, 0x1810, 0x1946, 0x19d0, 0x1a80, 0x1a90,
    0x1b50, 0x1bb0, 0x1c40, 0x1c50, 0xa620, 0xa8d0, 0xa900, 0xa9d0, 0xa9f0, 0xaa50, 0xabf0,
    0xff10, 0x104a0, 0x10d30, 0x11066, 0x110f0, 0x11136, 0x111d0, 0x112f0, 0x11450, 0x114d0,
    0x11650, 0x116c0, 0x11730, 0x118e0, 0x11950, 0x11c50, 0x11d50, 0x11da0, 0x16a60, 0x16ac0,
    0x16b50, 0x1d7ce, 0x1d7d8, 0x1d7e2, 0x1d7ec, 0x1d7f6, 0x1e140, 0x1e2f0, 0x1e950, 0x1fbf0]

def placelessDigitRanges : Ranges := [
    (178, 179), (185, 185), (4969, 4977), (6618, 6618), (8304, 8304), (8308, 8313), (8320, 8329),
    (9312, 9320), (9332, 9340), (9352, 9360), (9450, 9450), (9461, 9469), (9471, 9471),
    (10102, 10110), (10112, 10120), (10122, 10130), (68160, 68163), (69216, 69224),
    (69714, 69722), (127232, 127242)]

def blankRanges : Ranges := [
    (9, 13), (28, 32), (133, 133), (160, 160), (5760, 5760), (8192, 8202), (8232, 8233),
    (8239, 8239), (8287, 8287), (12288, 12288)]

def decimalDigit? (c : Char) : Option Nat :=
  (decimalZeros.find? fun start => start <= c.toNat && c.toNat < start + 10).map (c.toNat - ·)

def hexDigit? (c : Char) : Option Nat :=
  if '0' <= c && c <= '9' then
    some (c.toNat - '0'.toNat)
  else if 'a' <= c && c <= 'f' then
    some (c.toNat - 'a'.toNat + 10)
  else if 'A' <= c && c <= 'F' then
    some (c.toNat - 'A'.toNat + 10)
  else
    none

/-- Whether a character is a digit in the wide sense, with or without place value. -/
def isDigitLike (c : Char) : Bool :=
  (decimalDigit? c).isSome || inRanges placelessDigitRanges c

def isBlank (c : Char) : Bool :=
  inRanges blankRanges c

def trimBoth (drops : Char -> Bool) (cs : List Char) : List Char :=
  ((cs.dropWhile drops).reverse.dropWhile drops).reverse

def trimBlanks (cs : List Char) : List Char :=
  trimBoth isBlank cs

/-- Whether a character may stand around a numeral: any blank but the information separators. -/
def isNumeralBlank (c : Char) : Bool :=
  isBlank c && !(0x1c <= c.toNat && c.toNat <= 0x1f)

/--
Value of a numeral's digits: at least one digit, with single underscores allowed
between two digits.  The flag says whether the character before was a digit.
-/
def digitsValue? : Nat -> Bool -> List Char -> Option Nat
  | value, afterDigit, [] => if afterDigit then some value else none
  | value, afterDigit, c :: rest =>
      match decimalDigit? c with
      | some digit => digitsValue? (10 * value + digit) true rest
      | none => if c = '_' && afterDigit then digitsValue? value false rest else none

/-- The most digits of an integer numeral; longer ones are refused whatever their value. -/
def digitLimit : Nat := 4300

/-- Value of an unsigned numeral that is not too long. -/
def natural? (cs : List Char) : Option Nat :=
  if digitLimit < cs.countP fun c => c != '_' then none else digitsValue? 0 false cs

def integer? (cs : List Char) : Option Int :=
  match trimBoth isNumeralBlank cs with
  | '-' :: digits => (natural? digits).map fun n => -(n : Int)
  | '+' :: digits => (natural? digits).map fun n => (n : Int)
  | digits => (natural? digits).map fun n => (n : Int)

end Text

end GraphFacade
