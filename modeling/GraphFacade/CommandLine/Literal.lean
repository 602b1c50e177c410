import GraphFacade.Number.Binary64
import GraphFacade.Text.CharacterName
import GraphFacade.Text.CodePoint
import GraphFacade.Text.Split

/-!
# Literals

Which texts are literals of the small language that a tag's parameters are
written in: numbers, texts in quotes, bytes, the four named constants, tuples,
sets and dictionaries of literals.  Only whether a text is a literal matters, so
readers give the shape of what they read and the characters behind it.
-/

namespace GraphFacade

namespace Literal

/-- What the place of a literal in a larger one depends on. -/
inductive Shape
  /-- A number with a sign or without, and whether there is a double near it. -/
  | real (signed fits : Bool)
  | imaginary
  | text
  | bytes
  /-- The name that makes the empty set when it is called, which is no literal by itself. -/
  | setMaker
  /-- Anything else; sets and dictionaries are no keys. -/
  | other (isKey : Bool)
  deriving DecidableEq, Repr

def Shape.isKey : Shape -> Bool
  | other isKey => isKey
  | _ => true

abbrev Reading := Option (Shape × List Char)

def depthLimit : Nat := 200

def stepLimit : Nat := 5975

/-- How deep in a literal a part of it stands. -/
structure Place where
  /-- Brackets that are open. -/
  depth : Nat := 0
  /-- Steps from the whole literal to the part. -/
  steps : Nat := 0
  deriving DecidableEq, Repr

namespace Place

def further (place : Place) (steps : Nat) : Place :=
  { place with steps := place.steps + steps }

def inside (place : Place) (steps : Nat) : Place :=
  ⟨place.depth + 1, place.steps + steps⟩

def allowed (place : Place) : Bool :=
  place.depth <= depthLimit && place.steps <= stepLimit

def signed (place : Place) : Place := place.further 1

/-- The place of a text in quotes. -/
def quoted (place : Place) : Place := place.further 2

def called (place : Place) : Place := place.inside 24

def bracketed (place : Place) : Place := place.inside 28

def second (place : Place) : Place := place.inside 30

def later (place : Place) : Place := place.inside 31

def braced (place : Place) : Place := place.inside 29

def next (place : Place) : Place := place.inside 30

/-- The place of a literal behind a comma outside brackets. -/
def listed (place : Place) : Place := place.further 2

end Place

/--
The characters behind blanks and a comment, in some open brackets.  Inside brackets
a line may end anywhere; a backslash at its end continues a line, but not the last.
-/
def skip (depth : Nat) : Bool -> List Char -> List Char
  | _, [] => []
  | inComment, c :: rest =>
      if c == '\n' then
        if depth == 0 then c :: rest else skip depth false rest
      else if inComment || c == ' ' || c == '\t' || c == '\x0c' then
        skip depth inComment rest
      else if c == '#' then
        skip depth true rest
      else if c == '\\' then
        match rest with
        | '\n' :: next :: rest => skip depth false (next :: rest)
        | _ => c :: rest
      else
        c :: rest

def skipBlanks (depth : Nat) (cs : List Char) : List Char :=
  skip depth false cs

def isWordChar (c : Char) : Bool :=
  c.isAlphanum || c == '_' || 128 <= c.toNat

def endWord (shape : Shape) (rest : List Char) : Reading :=
  if (rest.head?.map isWordChar).getD false then none else some (shape, rest)

/-- A run of digits, with single underscores before digits, and what follows it. -/
def digits (isDigit : Char -> Bool) : List Char -> List Char × List Char
  | [] => ([], [])
  | c :: rest =>
      if isDigit c then
        let (more, after) := digits isDigit rest
        (c :: more, after)
      else if c == '_' && (rest.head?.map isDigit).getD false then
        digits isDigit rest
      else
        ([], c :: rest)

/-- An exponent, if one is there, and what follows it. -/
def exponent (cs : List Char) : Bool × List Char :=
  match cs with
  | c :: rest =>
      if c == 'e' || c == 'E' then
        let unsigned :=
          match rest with
          | '+' :: rest | '-' :: rest => rest
          | rest => rest
        if (unsigned.head?.map Char.isDigit).getD false then
          (true, (digits Char.isDigit unsigned).2)
        else
          (false, cs)
      else
        (false, cs)
  | [] => (false, cs)

def wholeNumber (base : Nat) (digits : List Char) : Shape :=
  let value := digits.foldl (fun n c => base * n + (Text.hexDigit? c).getD 0) 0
  match Binary64.ofDecimal false value 0 with
  | .infinite _ => .real false false
  | _ => .real false true

def basedNumber (base : Nat) (isDigit : Char -> Bool) (cs : List Char) : Reading :=
  match digits isDigit cs with
  | ([], _) => none
  | (found, rest) => endWord (wholeNumber base found) rest

/--
A number in decimal digits; a whole one starts with a zero only if it is zero, and
has no more digits than a numeral can have.
-/
def decimalNumber (cs : List Char) : Reading :=
  let (whole, rest) :=
    if (cs.head?.map Char.isDigit).getD false then digits Char.isDigit cs else ([], cs)
  let (fraction, rest, pointed) :=
    match rest with
    | '.' :: rest =>
        if (rest.head?.map Char.isDigit).getD false then
          let (fraction, rest) := digits Char.isDigit rest
          (fraction, rest, true)
        else
          ([], rest, true)
    | rest => ([], rest, false)
  if whole.isEmpty && fraction.isEmpty then
    none
  else
    let (raised, rest) := exponent rest
    match rest with
    | 'j' :: rest | 'J' :: rest => endWord .imaginary rest
    | rest =>
        if pointed || raised then
          endWord (.real false true) rest
        else if whole.head? == some '0' then
          if whole.all (· == '0') then endWord (.real false true) rest else none
        else if Text.digitLimit < whole.length then
          none
        else
          endWord (wholeNumber 10 whole) rest

def isBinaryDigit (c : Char) : Bool := c == '0' || c == '1'

def isOctalDigit (c : Char) : Bool := '0' <= c && c <= '7'

def isHexDigit (c : Char) : Bool := (Text.hexDigit? c).isSome

def number (cs : List Char) : Reading :=
  match cs with
  | '0' :: c :: rest =>
      if c == 'x' || c == 'X' then basedNumber 16 isHexDigit rest
      else if c == 'o' || c == 'O' then basedNumber 8 isOctalDigit rest
      else if c == 'b' || c == 'B' then basedNumber 2 isBinaryDigit rest
      else decimalNumber cs
  | cs => decimalNumber cs

/-- Whether an escape can be written: the letter behind a backslash and what follows it. -/
def isEscape (ofBytes : Bool) (c : Char) (rest : List Char) : Bool :=
  let hex (count : Nat) : Bool :=
    (rest.take count).length == count && (rest.take count).all isHexDigit
  if c == 'x' then hex 2
  else if ofBytes then true
  else if c == 'u' then hex 4
  else if c == 'U' then
    hex 8 && decide
      ((rest.take 8).foldl (fun n c => 16 * n + (Text.hexDigit? c).getD 0) 0 < 0x110000)
  else if c == 'N' then
    match rest with
    | '\x7b' :: name => name.contains '\x7d' && Text.isCharacterName (name.takeWhile (· != '\x7d'))
    | _ => false
  else true

/-- The characters behind a text in quotes, for the characters behind its opening quotes. -/
def quotedRest (raw ofBytes : Bool) (quotes : List Char) : List Char -> Option (List Char)
  | [] => none
  | '\\' :: c :: rest =>
      if (ofBytes && 128 <= c.toNat) || !(raw || isEscape ofBytes c rest) then none
      else quotedRest raw ofBytes quotes rest
  | c :: rest =>
      if quotes.isPrefixOf (c :: rest) then
        some (rest.drop (quotes.length - 1))
      else if (ofBytes && 128 <= c.toNat) || (quotes.length == 1 && c == '\n') then
        none
      else
        quotedRest raw ofBytes quotes rest

def quotedBehind (raw ofBytes : Bool) (cs : List Char) : Reading :=
  match cs with
  | c :: rest =>
      if c == '"' || c == '\'' then
        let shape := if ofBytes then Shape.bytes else .text
        if [c, c].isPrefixOf rest then
          (quotedRest raw ofBytes [c, c, c] (rest.drop 2)).map fun after => (shape, after)
        else
          (quotedRest raw ofBytes [c] rest).map fun after => (shape, after)
      else
        none
  | [] => none

/-- A text in quotes, with the letters that may stand before it. -/
def quoted (cs : List Char) : Reading :=
  let letters := (cs.takeWhile Char.isAlpha).map Char.toLower
  let rest := cs.drop letters.length
  match letters with
  | [] | ['u'] => quotedBehind false false rest
  | ['r'] => quotedBehind true false rest
  | ['b'] => quotedBehind false true rest
  | ['r', 'b'] | ['b', 'r'] => quotedBehind true true rest
  | _ => none

/-- Texts in quotes one behind the other, which must be of one kind. -/
def quotedRow (depth : Nat) : Nat -> List Char -> Reading
  | 0, _ => none
  | fuel + 1, cs =>
      match quoted cs with
      | none => none
      | some (shape, rest) =>
          match quotedRow depth fuel (skipBlanks depth rest) with
          | none =>
              let starts := (skipBlanks depth rest).dropWhile Char.isAlpha
              if starts.head? == some '"' || starts.head? == some '\'' then none
              else some (shape, rest)
          | some (next, rest) => if next == shape then some (shape, rest) else none

def setLetters : List String := [
    "sſˢₛｓ𝐬𝑠𝒔𝓈𝓼𝔰𝕤𝖘𝗌𝘀𝘴𝙨𝚜", "eᵉₑℯⅇｅ𝐞𝑒𝒆𝓮𝔢𝕖𝖊𝖾𝗲𝘦𝙚𝚎", "tᵗₜｔ𝐭𝑡𝒕𝓉𝓽𝔱𝕥𝖙𝗍𝘁𝘵𝙩𝚝"]

def isSetMaker (word : List Char) : Bool :=
  word.length == setLetters.length &&
    (word.zip setLetters).all fun (c, forms) => forms.toList.contains c

/-- A constant by its name, or the name that makes the empty set. -/
def named (cs : List Char) : Reading :=
  let word := cs.takeWhile isWordChar
  let rest := cs.dropWhile isWordChar
  let name := String.ofList word
  if name == "None" || name == "True" || name == "False" then some (.other true, rest)
  else if isSetMaker word then some (.setMaker, rest)
  else none

/-- What was read, or the empty set if that was the name for it and a call stands behind. -/
def called (place : Place) : Reading -> Reading
  | some (.setMaker, rest) =>
      match skipBlanks place.depth rest with
      | '(' :: more =>
          match skipBlanks (place.depth + 1) more with
          | ')' :: rest => if place.called.allowed then some (.other false, rest) else none
          | _ => none
      | _ => some (.setMaker, rest)
  | reading => reading

def complete : Reading -> Reading
  | some (.setMaker, _) => none
  | reading => reading

mutual

/-- A literal, or a real number and an imaginary one with a sign between them. -/
def whole (place : Place) : Nat -> List Char -> Reading
  | 0, _ => none
  | fuel + 1, cs =>
      match signed place fuel (skipBlanks place.depth cs) with
      | none => none
      | some (left, rest) =>
          match skipBlanks place.depth rest with
          | '+' :: more | '-' :: more =>
              match left, single place fuel (skipBlanks place.depth more) with
              | .real _ true, some (.imaginary, rest) => some (.other true, rest)
              | _, _ => none
          | rest => some (left, rest)

def signed (place : Place) : Nat -> List Char -> Reading
  | 0, _ => none
  | fuel + 1, cs =>
      match cs with
      | '+' :: rest | '-' :: rest =>
          match single place.signed fuel (skipBlanks place.depth rest) with
          | some (.real false fits, rest) => some (.real true fits, rest)
          | some (.imaginary, rest) => some (.other true, rest)
          | _ => none
      | cs => single place fuel cs

def single (place : Place) : Nat -> List Char -> Reading
  | 0, _ => none
  | fuel + 1, cs =>
      if !place.allowed then
        none
      else
        match cs with
        | [] => none
        | '.' :: '.' :: '.' :: rest => some (.other true, rest)
        | '(' :: rest => called place (bracketed place fuel rest)
        | '\x7b' :: rest => braced place fuel rest
        | c :: rest =>
            if c.isDigit || c == '.' then
              number (c :: rest)
            else
              match quotedRow place.depth fuel (c :: rest) with
              | some reading => if place.quoted.allowed then some reading else none
              | none => called place (named (c :: rest))

/-- A tuple or a literal in brackets, behind the opening bracket. -/
def bracketed (place : Place) : Nat -> List Char -> Reading
  | 0, _ => none
  | fuel + 1, cs =>
      if !place.bracketed.allowed then
        none
      else
        match skipBlanks place.bracketed.depth cs with
        | ')' :: rest => some (.other true, rest)
        | cs =>
            match whole place.bracketed fuel cs with
            | none => none
            | some (shape, rest) =>
                match skipBlanks place.bracketed.depth rest, shape with
                | ')' :: rest, shape => some (shape, rest)
                | ',' :: _, .setMaker => none
                | ',' :: rest, shape =>
                    members place.second place.later fuel shape.isKey (some ')') rest
                | _, _ => none

/--
The members of a tuple or a set behind a comma, up to its end: the next one at the
first place, all others at the second one.
-/
def members (place later : Place) : Nat -> Bool -> Option Char -> List Char -> Reading
  | 0, _, _, _ => none
  | fuel + 1, isKey, closing, cs =>
      let cs := skipBlanks place.depth cs
      if !place.allowed then
        none
      else if cs.head? == closing || (closing.isNone && cs.head? == some '\n') then
        some (.other isKey, if closing.isSome then cs.drop 1 else cs)
      else
        match complete (whole place fuel cs) with
        | none => none
        | some (shape, rest) =>
            let isKey := isKey && shape.isKey
            match skipBlanks place.depth rest with
            | ',' :: rest => members later later fuel isKey closing rest
            | rest =>
                if closing.isNone then some (.other isKey, rest)
                else if rest.head? == closing then some (.other isKey, rest.drop 1)
                else none

/-- A set or a dictionary, behind the opening brace. -/
def braced (place : Place) : Nat -> List Char -> Reading
  | 0, _ => none
  | fuel + 1, cs =>
      if !place.braced.allowed then
        none
      else
        match skipBlanks place.braced.depth cs with
        | '\x7d' :: rest => some (.other false, rest)
        | cs =>
            match complete (whole place.braced fuel cs) with
            | none => none
            | some (shape, rest) =>
                match shape.isKey, skipBlanks place.braced.depth rest with
                | true, '\x7d' :: rest => some (.other false, rest)
                | true, ',' :: rest =>
                    match members place.next place.next fuel true (some '\x7d') rest with
                    | some (.other true, rest) => some (.other false, rest)
                    | _ => none
                | true, ':' :: rest => entries place.braced place.next fuel rest
                | _, _ => none

/--
The value of a dictionary's entry, which stands at the first place, and the entries
behind it, which stand at the second one, up to the closing brace.
-/
def entries (place later : Place) : Nat -> List Char -> Reading
  | 0, _ => none
  | fuel + 1, cs =>
      match complete (whole place fuel cs) with
      | none => none
      | some (_, rest) =>
          match skipBlanks place.depth rest with
          | '\x7d' :: rest => some (.other false, rest)
          | ',' :: rest =>
              match later.allowed, skipBlanks place.depth rest with
              | false, _ => none
              | true, '\x7d' :: rest => some (.other false, rest)
              | true, cs =>
                  match complete (whole later fuel cs) with
                  | none => none
                  | some (shape, rest) =>
                      match shape.isKey, skipBlanks place.depth rest with
                      | true, ':' :: rest => entries later later fuel rest
                      | _, _ => none
          | _ => none

end

/-- Every reader calls at most four others before a character is read. -/
def fuelFor (cs : List Char) : Nat :=
  5 * cs.length + 10

def evenLines (cs : List Char) : List Char :=
  Text.replaceAll ['\r'] ['\n'] (Text.replaceAll ['\r', '\n'] ['\n'] cs)

/--
The characters behind lines with nothing but blanks and comments.  A line with more
is not indented: the flags tell whether blanks stand before it and whether any
stood before a backslash that continues it.
-/
def firstLine? : Bool -> Bool -> Bool -> List Char -> Option (List Char)
  | _, _, _, [] => none
  | inComment, indented, stuck, c :: rest =>
      if c == '\n' then
        firstLine? false false false rest
      else if inComment then
        firstLine? true indented stuck rest
      else if c == '#' then
        firstLine? true indented stuck rest
      else if c == ' ' || c == '\t' then
        firstLine? false true stuck rest
      else if c == '\x0c' then
        firstLine? false false stuck rest
      else
        match c, rest with
        | '\\', '\n' :: rest => firstLine? false indented (stuck || indented) rest
        | _, _ => if indented || stuck then none else some (c :: rest)

def isDone (cs : List Char) : Bool :=
  (skipBlanks 1 (skipBlanks 0 cs)).isEmpty

/-- Whether a text has a character that no literal holds anywhere. -/
def isSpoilt (cs : List Char) : Bool :=
  (Text.codes cs).any fun code => code == 0 || Text.isHalf code

/-- Whether a text is a literal, or several with commas, which are a tuple. -/
def isLiteral (cs : List Char) : Bool :=
  let cs := evenLines cs
  let fuel := fuelFor cs
  match if isSpoilt cs then none else firstLine? false false false cs with
  | none => false
  | some cs =>
      match complete (whole {} fuel cs) with
      | none => false
      | some (shape, rest) =>
          match skipBlanks 0 rest with
          | ',' :: rest =>
              match members (Place.listed {}) (Place.listed {}) fuel shape.isKey none rest with
              | some (_, rest) => isDone rest
              | none => false
          | rest => isDone rest

end Literal

end GraphFacade
