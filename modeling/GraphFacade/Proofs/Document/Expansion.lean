import GraphFacade.Document.Resolution

/-!
# The expansion of a document

What a document says once every reference in it is followed: from its root one
goes down by keys and places, and wherever one arrives at a reference one goes
on to the value it names, as often as needed.  The expansion of a document that
refers to itself is infinite, so it is described by the paths into it.
-/

namespace GraphFacade

namespace Resolution

/-- The reference that a value is, if it is one. -/
def referenceOf? : Json -> Option String
  | .dict entries => reference? entries
  | _ => none

def named? (document : Json) (reference : String) : Option Json :=
  match reference.toList with
  | '#' :: pointer => (Pointer.get document pointer).toOption
  | _ => none

/--
A value that is no reference stands for itself; a reference stands for what the
value it names stands for.
-/
inductive Stands (document : Json) : Json -> Json -> Prop
  | own {value : Json} (plain : referenceOf? value = none) : Stands document value value
  | follow {value target shown : Json} {reference : String}
      (refers : referenceOf? value = some reference)
      (names : named? document reference = some target)
      (rest : Stands document target shown) : Stands document value shown

/-- The references that are followed, one after another, from a value on. -/
inductive Follows (document : Json) : Json -> String -> Prop
  | first {value : Json} {reference : String} (refers : referenceOf? value = some reference) :
      Follows document value reference
  | later {value target : Json} {reference next : String}
      (refers : referenceOf? value = some reference)
      (names : named? document reference = some target)
      (rest : Follows document target next) : Follows document value next

theorem Stands.plain {document value shown : Json} (h : Stands document value shown) :
    referenceOf? shown = none := by
  induction h with
  | own plain => exact plain
  | follow _ _ _ ih => exact ih

theorem Stands.unique {document value shown other : Json} (h : Stands document value shown)
    (h' : Stands document value other) : shown = other := by
  induction h with
  | own plain =>
      cases h' with
      | own => rfl
      | follow refers => simp [plain] at refers
  | follow refers names _ ih =>
      cases h' with
      | own plain => simp [plain] at refers
      | follow refers' names' rest' =>
          rw [refers, Option.some.injEq] at refers'
          subst refers'
          rw [names, Option.some.injEq] at names'
          subst names'
          exact ih rest'

end Resolution

/-- A step from a value down to one of its parts. -/
inductive Branch
  | key (name : String)
  | place (index : Nat)
  deriving DecidableEq, Repr

/-- What a value shows without a look at its parts. -/
inductive Form
  | atom (value : Atom)
  | list (length : Nat)
  | dict (keys : List String)
  deriving DecidableEq, Repr

namespace Json

def part? : Json -> Branch -> Option Json
  | .dict entries, .key name => entries.lookup name
  | .list items, .place index => items[index]?
  | _, _ => none

def form : Json -> Form
  | .atom a => .atom a
  | .list items => .list items.length
  | .dict entries => .dict (entries.map Prod.fst)

end Json

namespace Cell

def part? : Cell -> Branch -> Option Value
  | .dict entries, .key name => entries.lookup name
  | .list items, .place index => items[index]?
  | _, _ => none

def form : Cell -> Form
  | .list items => .list items.length
  | .dict entries => .dict (entries.map Prod.fst)

end Cell

namespace Graph

def part? (g : Graph) (value : Value) (branch : Branch) : Option Value :=
  (g.cell? value).bind fun cell => cell.part? branch

/-- The value at the end of a path. -/
def at? (g : Graph) : Value -> List Branch -> Option Value
  | value, [] => some value
  | value, branch :: rest => (g.part? value branch).bind fun part => g.at? part rest

def form? (g : Graph) : Value -> Option Form
  | .atom a => some (.atom a)
  | value => (g.cell? value).map Cell.form

theorem cell?_of_entries {g : Graph} {value : Value} {entries : List (String × Value)}
    (h : g.entries? value = some entries) : g.cell? value = some (.dict entries) := by
  unfold entries? at h
  split at h
  · rename_i found
    rw [found, Option.some.inj h]
  · cases h

end Graph

namespace Resolution

/--
In the expansion of a document a path leads from a value to another one, which
may be a reference; the references on the way are followed.
-/
inductive Arrives (document : Json) : Json -> List Branch -> Json -> Prop
  | here (value : Json) : Arrives document value [] value
  | down {value shown part last : Json} {branch : Branch} {rest : List Branch}
      (stands : Stands document value shown) (step : shown.part? branch = some part)
      (further : Arrives document part rest last) : Arrives document value (branch :: rest) last

end Resolution

end GraphFacade
