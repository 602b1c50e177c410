import GraphFacade.Fault

/-!
# Commands and options

What the words of a command line ask for.  Options may stand anywhere after the
command; a value follows its option or is joined to it; everything after two
dashes is no option.  Before the command only the option for help may stand.
-/

namespace GraphFacade

/-- What the program is asked to do. -/
inductive Command
  /-- List the endpoints of a description. -/
  | endpoints (description : String) (format : String)
  /-- Print the schema of a description, or of several under namespaces. -/
  | schema (description : Option String) (namespaces : List String) (out : Option String)
  deriving DecidableEq, Repr

/-- Why words make no command. -/
inductive UsageFault
  | help
  | missingCommand
  | unknownCommand
  | unknownOption
  | missingArgument
  | missingValue
  /-- A value joined to an option that takes none. -/
  | unexpectedValue
  | extraArgument
  /-- An argument with an unusable value. -/
  | badArgument (message : String)
  deriving DecidableEq, Repr

namespace Command

/-- Options of the commands. -/
inductive OptionName
  | format
  | realm
  | out
  | help
  deriving DecidableEq, Repr

/-- The commands by name. -/
inductive Name
  | endpoints
  | sdl
  deriving DecidableEq, Repr

def Name.ofWord? : String -> Option Name
  | "endpoints" => some endpoints
  | "sdl" => some sdl
  | _ => none

def option? (command : Name) (word : String) : Option OptionName :=
  match command, word with
  | _, "--help" => some .help
  | .endpoints, "--format" => some .format
  | .sdl, "--namespace" => some .realm
  | .sdl, "-n" => some .realm
  | .sdl, "--out" => some .out
  | _, _ => none

/-- Positional words and options with their values, in order. -/
structure Words where
  positional : List String := []
  options : List (OptionName × String) := []
  deriving Repr, Inhabited

def Words.withOption (words : Words) (name : OptionName) (value : String) : Words :=
  { words with options := (name, value) :: words.options }

def splitValue (word : String) : String × Option String :=
  let cs := word.toList
  let name := String.ofList (cs.takeWhile (· != '='))
  match cs.dropWhile (· != '=') with
  | _ :: value => (name, some (String.ofList value))
  | [] => (name, none)

def isOptionLike (word : String) : Bool :=
  word.startsWith "-" && word != "-"

/-- What an option-like word says: an option, and the value that is joined to it. -/
def readOption (command : Name) (word : String) :
    Except UsageFault (OptionName × Option String) :=
  let (name, value) := splitValue word
  match if name.length == 2 && value.isSome then none else option? command name with
  | some option => .ok (option, value)
  | none =>
      if word.startsWith "--" then
        .error .unknownOption
      else
        match option? command (String.ofList (word.toList.take 2)) with
        | none => .error .unknownOption
        | some option =>
            let value := word.toList.drop 2
            .ok (option, if value.isEmpty then none else some (String.ofList value))

/-- Sort words into positional ones and options. -/
def sortWords (command : Name) : List String -> Except UsageFault Words
  | [] => .ok {}
  | word :: rest =>
      if word == "--" then
        .ok { positional := rest }
      else if isOptionLike word then
        match readOption command word with
        | .error fault => .error fault
        | .ok (.help, some _) => .error .unexpectedValue
        | .ok (.help, none) =>
            (sortWords command rest).map fun words => words.withOption .help ""
        | .ok (option, some value) =>
            (sortWords command rest).map fun words => words.withOption option value
        | .ok (option, none) =>
            match rest with
            | value :: rest =>
                (sortWords command rest).map fun words => words.withOption option value
            | [] => .error .missingValue
      else
        (sortWords command rest).map fun words =>
          { words with positional := word :: words.positional }

def Words.values (words : Words) (name : OptionName) : List String :=
  (words.options.filter fun option => option.1 == name).map Prod.snd

def ofWords (command : Name) (words : Words) : Except UsageFault Command :=
  if !(words.values .help).isEmpty then
    .error .help
  else
    match command, words.positional with
    | .endpoints, [] => .error .missingArgument
    | .endpoints, [description] =>
        .ok (.endpoints description ((words.values .format).getLast?.getD "table"))
    | .sdl, [] => .ok (.schema none (words.values .realm) (words.values .out).getLast?)
    | .sdl, [description] =>
        .ok (.schema (some description) (words.values .realm) (words.values .out).getLast?)
    | _, _ => .error .extraArgument

/-- The words behind the options that stand before the command; help ends the reading. -/
def skipOptions (helped : Bool) (words : List String) : Except UsageFault (List String) :=
  let stop (words : List String) : Except UsageFault (List String) :=
    if helped then .error .help else .ok words
  match words with
  | [] => stop []
  | word :: rest =>
      if word == "--" then
        stop rest
      else if isOptionLike word then
        match splitValue word with
        | ("--help", none) => skipOptions true rest
        | ("--help", some _) => .error .unexpectedValue
        | _ => .error .unknownOption
      else
        stop (word :: rest)

/--
The command that some words name and the words after it.  A word that names no
command is taken for an option once more if it is written like one.
-/
def split (words : List String) : Except UsageFault (Name × List String) :=
  if words.isEmpty then
    .error .help
  else
    match skipOptions false words with
    | .error fault => .error fault
    | .ok [] => .error .missingCommand
    | .ok (word :: rest) =>
        match Name.ofWord? word with
        | some command => .ok (command, rest)
        | none =>
            match skipOptions false (word :: rest) with
            | .error fault => .error fault
            | .ok _ => .error .unknownCommand

def parse (command : Name) (words : List String) : Except UsageFault Command :=
  match sortWords command words with
  | .ok words => ofWords command words
  | .error fault => .error fault

end Command

end GraphFacade
