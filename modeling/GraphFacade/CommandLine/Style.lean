import GraphFacade.Fault
import GraphFacade.Text.Digit
import GraphFacade.Text.LetterCase

/-!
# Styles of the console

A style is said in words: emphases, a colour, a colour behind `on`, an address
behind `link`.  Two ways to say one style have the same normal form, which is
what a closing tag is compared by.
-/

namespace GraphFacade

/-- What a text can be besides coloured, in the order of the normal form. -/
inductive Emphasis
  | bold
  | dim
  | italic
  | underline
  | blink
  | fastBlink
  | reverse
  | conceal
  | strike
  | doubleUnderline
  | frame
  | encircle
  | overline
  deriving DecidableEq, Repr

namespace Emphasis

def all : List Emphasis :=
  [bold, dim, italic, underline, blink, fastBlink, reverse, conceal, strike, doubleUnderline,
    frame, encircle, overline]

/-- The word of an emphasis in the normal form. -/
def name : Emphasis -> String
  | bold => "bold"
  | dim => "dim"
  | italic => "italic"
  | underline => "underline"
  | blink => "blink"
  | fastBlink => "blink2"
  | reverse => "reverse"
  | conceal => "conceal"
  | strike => "strike"
  | doubleUnderline => "underline2"
  | frame => "frame"
  | encircle => "encircle"
  | overline => "overline"

def short? : Emphasis -> Option String
  | bold => some "b"
  | dim => some "d"
  | italic => some "i"
  | underline => some "u"
  | reverse => some "r"
  | conceal => some "c"
  | strike => some "s"
  | doubleUnderline => some "uu"
  | overline => some "o"
  | _ => none

def ofWord? (word : String) : Option Emphasis :=
  all.find? fun emphasis => emphasis.name == word || emphasis.short? == some word

end Emphasis

/-- Why words say no style. -/
inductive StyleFault
  | notStyle
  /-- A part of a colour that should be a number and is none. -/
  | brokenNumber
  deriving DecidableEq, Repr

namespace Color

def names : List String := [
    "black", "red", "green", "yellow", "blue", "magenta", "cyan", "white", "bright_black",
    "bright_red", "bright_green", "bright_yellow", "bright_blue", "bright_magenta",
    "bright_cyan", "bright_white", "grey0", "gray0", "navy_blue", "dark_blue", "blue3", "blue1",
    "dark_green", "deep_sky_blue4", "dodger_blue3", "dodger_blue2", "green4", "spring_green4",
    "turquoise4", "deep_sky_blue3", "dodger_blue1", "green3", "spring_green3", "dark_cyan",
    "light_sea_green", "deep_sky_blue2", "deep_sky_blue1", "spring_green2", "cyan3",
    "dark_turquoise", "turquoise2", "green1", "spring_green1", "medium_spring_green", "cyan2",
    "cyan1", "dark_red", "deep_pink4", "purple4", "purple3", "blue_violet", "orange4", "grey37",
    "gray37", "medium_purple4", "slate_blue3", "royal_blue1", "chartreuse4", "dark_sea_green4",
    "pale_turquoise4", "steel_blue", "steel_blue3", "cornflower_blue", "chartreuse3",
    "cadet_blue", "sky_blue3", "steel_blue1", "pale_green3", "sea_green3", "aquamarine3",
    "medium_turquoise", "chartreuse2", "sea_green2", "sea_green1", "aquamarine1",
    "dark_slate_gray2", "dark_magenta", "dark_violet", "purple", "light_pink4", "plum4",
    "medium_purple3", "slate_blue1", "yellow4", "wheat4", "grey53", "gray53", "light_slate_grey",
    "light_slate_gray", "medium_purple", "light_slate_blue", "dark_olive_green3",
    "dark_sea_green", "light_sky_blue3", "sky_blue2", "dark_sea_green3", "dark_slate_gray3",
    "sky_blue1", "chartreuse1", "light_green", "pale_green1", "dark_slate_gray1", "red3",
    "medium_violet_red", "magenta3", "dark_orange3", "indian_red", "hot_pink3", "medium_orchid3",
    "medium_orchid", "medium_purple2", "dark_goldenrod", "light_salmon3", "rosy_brown", "grey63",
    "gray63", "medium_purple1", "gold3", "dark_khaki", "navajo_white3", "grey69", "gray69",
    "light_steel_blue3", "light_steel_blue", "yellow3", "dark_sea_green2", "light_cyan3",
    "light_sky_blue1", "green_yellow", "dark_olive_green2", "dark_sea_green1", "pale_turquoise1",
    "deep_pink3", "magenta2", "hot_pink2", "orchid", "medium_orchid1", "orange3", "light_pink3",
    "pink3", "plum3", "violet", "light_goldenrod3", "tan", "misty_rose3", "thistle3", "plum2",
    "khaki3", "light_goldenrod2", "light_yellow3", "grey84", "gray84", "light_steel_blue1",
    "yellow2", "dark_olive_green1", "honeydew2", "light_cyan1", "red1", "deep_pink2",
    "deep_pink1", "magenta1", "orange_red1", "indian_red1", "hot_pink", "dark_orange", "salmon1",
    "light_coral", "pale_violet_red1", "orchid2", "orchid1", "orange1", "sandy_brown",
    "light_salmon1", "light_pink1", "pink1", "plum1", "gold1", "navajo_white1", "misty_rose1",
    "thistle1", "yellow1", "light_goldenrod1", "khaki1", "wheat1", "cornsilk1", "grey100",
    "gray100", "grey3", "gray3", "grey7", "gray7", "grey11", "gray11", "grey15", "gray15",
    "grey19", "gray19", "grey23", "gray23", "grey27", "gray27", "grey30", "gray30", "grey35",
    "gray35", "grey39", "gray39", "grey42", "gray42", "grey46", "gray46", "grey50", "gray50",
    "grey54", "gray54", "grey58", "gray58", "grey62", "gray62", "grey66", "gray66", "grey70",
    "gray70", "grey74", "gray74", "grey78", "gray78", "grey82", "gray82", "grey85", "gray85",
    "grey89", "gray89", "grey93", "gray93"]

def limit : Nat := 255

def inBrackets? (opening word : String) : Option (List Char) :=
  let inside := (word.toList.drop opening.length).dropLast
  if word.startsWith opening && word.toList.getLast? == some ')' then some inside else none

def isHex (word : String) : Bool :=
  match word.toList with
  | '#' :: digits => digits.length == 6 && digits.all fun c => (Text.hexDigit? c).isSome
  | _ => false

def isNumbered (word : String) : Bool :=
  match inBrackets? "color(" word with
  | some digits =>
      1 <= digits.length && digits.length <= 3 && digits.all Char.isDigit &&
        decide ((Text.natural? digits).getD 0 <= limit)
  | none => false

/-- The numbers of the three parts of a colour, as far as they are such. -/
def parts? (word : String) : Option (List (Option Nat)) :=
  match inBrackets? "rgb(" word with
  | some inside =>
      if !inside.isEmpty && inside.all fun c => c == ',' || (Text.decimalDigit? c).isSome then
        some (((String.ofList inside).splitOn ",").map fun part => Text.natural? part.toList)
      else
        none
  | none => none

def check (word : String) : Except StyleFault Unit :=
  if word == "default" || names.contains word || isHex word || isNumbered word then
    .ok ()
  else
    match parts? word with
    | some [some red, some green, some blue] =>
        if max red (max green blue) <= limit then .ok () else .error .notStyle
    | some [_, _, _] => .error .brokenNumber
    | _ => .error .notStyle

end Color

/-- What is said of a text. -/
structure Style where
  /-- Emphases that a text has or does not have; those that are not said are missing. -/
  emphases : List (Emphasis × Bool) := []
  color : Option String := none
  background : Option String := none
  link : Option String := none
  deriving Repr, Inhabited

namespace Style

def withEmphasis (style : Style) (emphasis : Emphasis) (value : Bool) : Style :=
  { style with emphases := (emphasis, value) :: style.emphases }

/-- Take the words of a style into account. -/
def ofWords (style : Style) : List String -> Except StyleFault Style
  | [] => .ok style
  | word :: rest =>
      let small := Text.smalls word
      if small == "on" then
        match rest with
        | [] => .error .notStyle
        | next :: rest =>
            match Color.check (Text.smalls next) with
            | .ok () => ofWords { style with background := some (Text.smalls next) } rest
            | .error fault => .error fault
      else if small == "not" then
        match rest with
        | [] => .error .notStyle
        | next :: rest =>
            match Emphasis.ofWord? next with
            | some emphasis => ofWords (style.withEmphasis emphasis false) rest
            | none => .error .notStyle
      else if small == "link" then
        match rest with
        | [] => .error .notStyle
        | next :: rest => ofWords { style with link := some next } rest
      else
        match Emphasis.ofWord? small with
        | some emphasis => ofWords (style.withEmphasis emphasis true) rest
        | none =>
            match Color.check small with
            | .ok () => ofWords { style with color := some small } rest
            | .error fault => .error fault

def normalWords (style : Style) : List String :=
  let emphases := Emphasis.all.flatMap fun emphasis =>
    match style.emphases.lookup emphasis with
    | some true => [emphasis.name]
    | some false => ["not", emphasis.name]
    | none => []
  let behind (word : String) (value : Option String) : List String :=
    match value with
    | some value => [word, value]
    | none => []
  emphases ++ style.color.toList ++ behind "on" style.background ++ behind "link" style.link

def nothing : String := "none"

def normalForm (style : Style) : String :=
  let words := style.normalWords
  if words.isEmpty then nothing else String.intercalate " " words

/-- The words of a text, with any blanks between them. -/
def words : List Char -> List Char -> List String
  | word, [] => if word.isEmpty then [] else [String.ofList word.reverse]
  | word, c :: rest =>
      if Text.isBlank c then
        (if word.isEmpty then [] else [String.ofList word.reverse]) ++ words [] rest
      else
        words (c :: word) rest

/-- The normal form of a name, which may be a style or anything else. -/
def normalName (name : List Char) : Except Fault String :=
  let bare := String.ofList (Text.trimBlanks name)
  if bare == nothing then
    .ok nothing
  else
    match ofWords {} (words [] name) with
    | .ok style => .ok style.normalForm
    | .error .notStyle => .ok (Text.smalls bare)
    | .error .brokenNumber => .error .badNumeral

/-- Whether a text can be read as a style, be it one or not: no number in it is broken. -/
def isReadable (cs : List Char) : Bool :=
  match ofWords {} (words [] cs) with
  | .error .brokenNumber => false
  | _ => true

end Style

end GraphFacade
