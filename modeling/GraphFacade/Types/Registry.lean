import GraphFacade.Event
import GraphFacade.Types.Basic

/-!
# The registry of types

One registry serves a whole realm.  It keeps every named type it made under the
title and role it was made for, so that equal titles share a type, and sees to
it that a schema node without a title gets a name of its own.  Types are added
before their fields are known.
-/

namespace GraphFacade

/-- What a type is for: values that go out, values that come in, or either. -/
inductive Role
  | output
  | input
  | enum
  deriving DecidableEq, Repr, Inhabited

/-- What a type is registered under. -/
structure TypeKey where
  realm : Option String
  title : String
  role : Role
  deriving DecidableEq, Repr, Inhabited

/-- Where a schema stands: an operation and a number within it. -/
structure Origin where
  operation : Atom
  part : Nat
  deriving DecidableEq, Repr, Inhabited

/-- A node of a schema that stands somewhere. -/
structure NodeId where
  origin : Origin
  label : Nat
  deriving DecidableEq, Repr, Inhabited

/-- The types of one realm, and the names given out in it. -/
structure Registry where
  /-- The namespace of the realm; none and the empty one put nothing before names. -/
  realm : Option String := none
  /-- Types by key, in the order of their registration. -/
  entries : List (TypeKey × TypeRef) := []
  /-- Nodes without a title, with the names they were given. -/
  untitled : List (NodeId × String) := []
  /-- All titles handed out so far. -/
  titles : List String := []
  /-- The named types made so far. -/
  types : Array NamedType := #[]
  deriving Repr, Inhabited

namespace Registry

def size (r : Registry) : Nat :=
  r.entries.length

def key (r : Registry) (title : String) (role : Role) : TypeKey :=
  ⟨r.realm, title, role⟩

def get? (r : Registry) (key : TypeKey) : Option TypeRef :=
  r.entries.lookup key

def register (r : Registry) (key : TypeKey) (type : TypeRef) : Registry :=
  match r.get? key with
  | some _ => r
  | none => { r with entries := r.entries ++ [(key, type)] }

/-- The name of a type: its title as a name, marked as input and with the realm before it. -/
def typeName (r : Registry) (title : String) (role : Role) : String :=
  let base := Name.ofText title
  let base := if role = .input then base ++ "Input" else base
  match r.realm with
  | none => base
  | some realm => if realm.isEmpty then base else Name.ofText realm ++ "_" ++ base

def type? (r : Registry) (id : TypeId) : Option NamedType :=
  if id.realm = r.realm then r.types[id.index]? else none

def nameOf (r : Registry) : TypeRef -> String
  | .scalar kind => kind.name
  | .json => jsonScalarName
  | .named id => ((r.type? id).map NamedType.name).getD ""
  | .list item => r.nameOf item
  | .nonNull inner => r.nameOf inner

def typeNames (r : Registry) : List String :=
  (r.entries.map fun entry => r.nameOf entry.2).eraseDups

/-- Hand out a title; one that was handed out before changes nothing. -/
def handOut (r : Registry) (title : String) : Registry :=
  if r.titles.contains title then r else { r with titles := r.titles ++ [title] }

def addType (r : Registry) (type : NamedType) : Registry × TypeRef :=
  ({ r with types := r.types.push type }, .named ⟨r.realm, r.types.size⟩)

def updateType (r : Registry) (ref : TypeRef) (f : NamedType -> NamedType) : Registry :=
  match ref with
  | .named id => { r with types := r.types.modify id.index f }
  | _ => r

end Registry

/-- A registry and the log of the work on it. -/
structure Workshop where
  registry : Registry := {}
  log : Log := #[]
  deriving Repr, Inhabited

namespace Workshop

abbrev Step := EStateM Fault Workshop

def change (f : Registry -> Registry) : Step Unit := fun w =>
  .ok () { w with registry := f w.registry }

def current : Step Registry := fun w =>
  .ok w.registry w

def report (event : Event) : Step Unit := fun w =>
  .ok () { w with log := w.log.push event }

/-- The name of a node without a title: its hint the first time, made fresh if taken. -/
def untitledName (node : NodeId) (hint : String) : Step String := do
  let r <- current
  match r.untitled.lookup node with
  | some name => return name
  | none => do
      let name := Name.fresh r.titles hint
      change fun r => { r.handOut name with untitled := r.untitled ++ [(node, name)] }
      return name

/-- The title a node is kept under, which need not be a text. -/
def titleOf (origin : Origin) (label : Label) (hint : String) : Step Json := do
  match label.title with
  | none => return .text (<- untitledName ⟨origin, label.id⟩ hint)
  | some (.text title) => do
      change fun r => r.handOut title
      return .text title
  | some (.atom title) => return .atom title
  | some _ => throw .wrongKind

def makeType (key : TypeKey) (type : NamedType) : Step TypeRef := do
  if reservedTypeNames.contains type.name then
    throw (.reservedType type.name)
  else do
    let r <- current
    let (next, ref) := r.addType type
    change fun _ => next.register key ref
    return ref

end Workshop

end GraphFacade
