import GraphFacade.Text.CodePoint

/-!
# Percent encoding

A text as a piece of a path: letters, digits and four marks stand for
themselves, every other character is written as its UTF-8 bytes in hexadecimal.
-/

namespace GraphFacade

namespace Text

def isUnreserved (c : Char) : Bool :=
  c.isAlpha || c.isDigit || c == '_' || c == '.' || c == '-' || c == '~'

def hexDigit (n : Nat) : Char :=
  Char.ofNat (if n < 10 then '0'.toNat + n else 'A'.toNat + (n - 10))

def percentByte (byte : UInt8) : List Char :=
  ['%', hexDigit (byte.toNat / 16), hexDigit (byte.toNat % 16)]

def percentChar (c : Char) : List Char :=
  if isUnreserved c then [c] else (String.utf8EncodeChar c).flatMap percentByte

def percentEncode (cs : List Char) : List Char :=
  (codes cs).flatMap fun code => percentChar (Char.ofNat code)

end Text

end GraphFacade
