import GraphFacade.Json.Basic
import GraphFacade.Text.CodePoint
import GraphFacade.Text.Digit

/-!
# Reading JSON text

A reader over the remaining characters.  A fault carries the characters from
the place it is reported at, so its position is a difference of lengths.
Besides standard JSON the three literals for infinite numbers and
not-a-number and halves of code points are read, and the last entry of a
repeated key wins.
-/

namespace GraphFacade

namespace Json

/-- Why a text is not JSON. -/
inductive FaultCause
  | byteOrderMark
  | missingValue
  | missingName
  | missingColon
  | missingComma
  | extraData
  | openText
  | controlCharacter
  | badEscape
  | badCodeEscape
  | longInteger
  deriving DecidableEq, Repr

/-- A fault and the characters from its place on. -/
structure Stop where
  cause : FaultCause
  rest : List Char
  deriving DecidableEq, Repr

abbrev Reading (α : Type) : Type := Except Stop (α × List Char)

def Reading.cons (code : Nat) : Reading (List Char) -> Reading (List Char)
  | .ok (cs, rest) => .ok (Text.ofCode code ++ cs, rest)
  | .error stop => .error stop

def isSpace (c : Char) : Bool :=
  c == ' ' || c == '\t' || c == '\n' || c == '\r'

def skipSpace (cs : List Char) : List Char :=
  cs.dropWhile isSpace

def digitsToNat (digits : List Char) : Nat :=
  digits.foldl (fun n c => 10 * n + (c.toNat - '0'.toNat)) 0

def hexCode? (a b c d : Char) : Option Nat := do
  let a <- Text.hexDigit? a
  let b <- Text.hexDigit? b
  let c <- Text.hexDigit? c
  let d <- Text.hexDigit? d
  return ((a * 16 + b) * 16 + c) * 16 + d

def simpleEscape? : Char -> Option Char
  | '"' => some '"'
  | '\\' => some '\\'
  | '/' => some '/'
  | 'b' => some '\x08'
  | 'f' => some '\x0c'
  | 'n' => some '\n'
  | 'r' => some '\r'
  | 't' => some '\t'
  | _ => none

/--
The second half that follows the escape of a first half, if the next escape is one.
`next` and `more` are the characters after the first escape.
-/
def lowHalf? (code : Nat) (next : Char) (more : List Char) : Except Stop (Option Nat) :=
  if Text.isHighHalf code && next == '\\' then
    match more with
    | u :: h1 :: h2 :: h3 :: h4 :: _ :: _ =>
        if u == 'u' then
          match hexCode? h1 h2 h3 h4 with
          | none => .error ⟨.badCodeEscape, more⟩
          | some low => .ok (if Text.isLowHalf low then some low else none)
        else
          .ok none
    | _ => .ok none
  else
    .ok none

/--
The rest of a text after its opening quote; `opening` is where the text began.
Code escapes need a character after their four digits, as no text ends there.
-/
def readText (opening : List Char) : List Char -> Reading (List Char)
  | [] => .error ⟨.openText, opening⟩
  | c :: rest =>
      if c == '"' then
        .ok ([], rest)
      else if c == '\\' then
        match rest with
        | [] => .error ⟨.openText, opening⟩
        | e :: tail =>
            if e == 'u' then
              match tail with
              | h1 :: h2 :: h3 :: h4 :: next :: more =>
                  match hexCode? h1 h2 h3 h4 with
                  | none => .error ⟨.badCodeEscape, rest⟩
                  | some code =>
                      match lowHalf? code next more with
                      | .error stop => .error stop
                      | .ok none => (readText opening (next :: more)).cons code
                      | .ok (some low) =>
                          match more with
                          | _ :: _ :: _ :: _ :: _ :: after =>
                              (readText opening after).cons (Text.joinHalves code low)
                          | _ => .error ⟨.badCodeEscape, rest⟩
              | _ => .error ⟨.badCodeEscape, rest⟩
            else
              match simpleEscape? e with
              | some c => (readText opening tail).cons c.toNat
              | none => .error ⟨.badEscape, c :: rest⟩
      else if c.toNat < 0x20 then
        .error ⟨.controlCharacter, c :: rest⟩
      else
        (readText opening rest).cons c.toNat

def readFraction (cs : List Char) : List Char × List Char :=
  match cs with
  | '.' :: rest =>
      let digits := rest.takeWhile Char.isDigit
      if digits.isEmpty then ([], cs) else (digits, rest.dropWhile Char.isDigit)
  | _ => ([], cs)

def readExponent (cs : List Char) : Option Int × List Char :=
  let signed (negative : Bool) (rest : List Char) : Option Int × List Char :=
    let digits := rest.takeWhile Char.isDigit
    if digits.isEmpty then
      (none, cs)
    else
      let size : Int := digitsToNat digits
      (some (if negative then -size else size), rest.dropWhile Char.isDigit)
  match cs with
  | c :: '-' :: rest => if c == 'e' || c == 'E' then signed true rest else (none, cs)
  | c :: '+' :: rest => if c == 'e' || c == 'E' then signed false rest else (none, cs)
  | c :: rest => if c == 'e' || c == 'E' then signed false rest else (none, cs)
  | [] => (none, cs)

/-- The whole part of a number: a zero alone, or digits that start with another one. -/
def readWhole? (cs : List Char) : Option (List Char × List Char) :=
  match cs with
  | '0' :: rest => some (['0'], rest)
  | c :: _ =>
      if c.isDigit then some (cs.takeWhile Char.isDigit, cs.dropWhile Char.isDigit) else none
  | [] => none

/-- A number: whole without point and exponent, of at most `limit` digits then, else a double. -/
def readNumber (limit : Nat) (cs : List Char) : Reading Json :=
  let negative := cs.head? == some '-'
  match readWhole? (if negative then cs.drop 1 else cs) with
  | none => .error ⟨.missingValue, cs⟩
  | some (whole, rest) =>
      let (fraction, rest) := readFraction rest
      let (exponent, rest) := readExponent rest
      if fraction.isEmpty && exponent.isNone then
        if limit < whole.length then
          .error ⟨.longInteger, cs⟩
        else
          let size : Int := digitsToNat whole
          .ok (.int (if negative then -size else size), rest)
      else
        let digits := digitsToNat (whole ++ fraction)
        .ok (.float (.ofDecimal negative digits (exponent.getD 0 - fraction.length)), rest)

def readAtom (limit : Nat) (cs : List Char) : Reading Json :=
  match cs with
  | 'n' :: 'u' :: 'l' :: 'l' :: rest => .ok (.null, rest)
  | 't' :: 'r' :: 'u' :: 'e' :: rest => .ok (.bool true, rest)
  | 'f' :: 'a' :: 'l' :: 's' :: 'e' :: rest => .ok (.bool false, rest)
  | 'N' :: 'a' :: 'N' :: rest => .ok (.float .nan, rest)
  | 'I' :: 'n' :: 'f' :: 'i' :: 'n' :: 'i' :: 't' :: 'y' :: rest =>
      .ok (.float (.infinite false), rest)
  | '-' :: 'I' :: 'n' :: 'f' :: 'i' :: 'n' :: 'i' :: 't' :: 'y' :: rest =>
      .ok (.float (.infinite true), rest)
  | _ => readNumber limit cs

def readKey (cs : List Char) : Reading String :=
  match cs with
  | '"' :: rest =>
      match readText cs rest with
      | .error stop => .error stop
      | .ok (chars, rest) =>
          match skipSpace rest with
          | ':' :: rest => .ok (String.ofList chars, skipSpace rest)
          | rest => .error ⟨.missingColon, rest⟩
  | _ => .error ⟨.missingName, cs⟩

mutual

/-- One value; `fuel` bounds the calls below it. -/
def readValue (limit : Nat) : Nat -> List Char -> Reading Json
  | 0, cs => .error ⟨.missingValue, cs⟩
  | fuel + 1, cs =>
      match cs with
      | '"' :: rest =>
          match readText cs rest with
          | .error stop => .error stop
          | .ok (chars, rest) => .ok (.text (String.ofList chars), rest)
      | '[' :: rest =>
          match skipSpace rest with
          | ']' :: rest => .ok (.list [], rest)
          | rest =>
              match readItems limit fuel rest with
              | .error stop => .error stop
              | .ok (items, rest) => .ok (.list items, rest)
      | '\x7b' :: rest =>
          match skipSpace rest with
          | '\x7d' :: rest => .ok (.dict [], rest)
          | rest =>
              match readEntries limit fuel rest with
              | .error stop => .error stop
              | .ok (entries, rest) => .ok (.dict (Entries.ofList entries), rest)
      | _ => readAtom limit cs

def readItems (limit : Nat) : Nat -> List Char -> Reading (List Json)
  | 0, cs => .error ⟨.missingValue, cs⟩
  | fuel + 1, cs =>
      match readValue limit fuel cs with
      | .error stop => .error stop
      | .ok (item, rest) =>
          match skipSpace rest with
          | ']' :: rest => .ok ([item], rest)
          | ',' :: rest =>
              match readItems limit fuel (skipSpace rest) with
              | .error stop => .error stop
              | .ok (items, rest) => .ok (item :: items, rest)
          | rest => .error ⟨.missingComma, rest⟩

/-- The entries of a dictionary up to its closing brace. -/
def readEntries (limit : Nat) : Nat -> List Char -> Reading (List (String × Json))
  | 0, cs => .error ⟨.missingName, cs⟩
  | fuel + 1, cs =>
      match readKey cs with
      | .error stop => .error stop
      | .ok (key, rest) =>
          match readValue limit fuel rest with
          | .error stop => .error stop
          | .ok (value, rest) =>
              match skipSpace rest with
              | '\x7d' :: rest => .ok ([(key, value)], rest)
              | ',' :: rest =>
                  match readEntries limit fuel (skipSpace rest) with
                  | .error stop => .error stop
                  | .ok (entries, rest) => .ok ((key, value) :: entries, rest)
              | rest => .error ⟨.missingComma, rest⟩

end

/-- A whole text holding one value and blanks around it, its integers of at most `limit` digits. -/
def readWithin (limit : Nat) (cs : List Char) : Except Stop Json :=
  if cs.head? == some '\uFEFF' then
    .error ⟨.byteOrderMark, cs⟩
  else do
    let (value, rest) <- readValue limit (2 * cs.length + 2) (skipSpace cs)
    match skipSpace rest with
    | [] => return value
    | rest => .error ⟨.extraData, rest⟩

/-- A whole text, its integers no longer than numerals may be. -/
def read (cs : List Char) : Except Stop Json :=
  readWithin Text.digitLimit cs

def FaultCause.wording : FaultCause -> String
  | byteOrderMark => "Unexpected UTF-8 BOM (decode using utf-8-sig)"
  | missingValue => "Expecting value"
  | missingName => "Expecting property name enclosed in double quotes"
  | missingColon => "Expecting ':' delimiter"
  | missingComma => "Expecting ',' delimiter"
  | extraData => "Extra data"
  | openText => "Unterminated string starting at"
  | controlCharacter => "Invalid control character at"
  | badEscape => "Invalid \\escape"
  | badCodeEscape => "Invalid \\uXXXX escape"
  | longInteger => "Integer with too many digits"

def Stop.message (stop : Stop) (source : List Char) : String :=
  let before := source.take (source.length - stop.rest.length)
  let line := before.count '\n' + 1
  let column := (before.reverse.takeWhile (· != '\n')).length + 1
  s!"{stop.cause.wording}: line {line} column {column} (char {before.length})"

end Json

end GraphFacade
