import GraphFacade.Types.Registry

/-!
# Facades

A finished schema of the query language: its realms of types, the fields of
its query root and of its mutation root.  The types of a facade are those that
its roots lead to, in the order in which they are met; no two have one name.
-/

namespace GraphFacade

/-- A finished schema. -/
structure Facade where
  /-- The types of each namespace. -/
  realms : List Registry
  query : Entries Field
  /-- Empty when there is no mutation root. -/
  mutation : Entries Field
  deriving Repr, Inhabited

/-- A type of a facade that is no built-in scalar. -/
inductive Member
  | query
  | mutation
  | json
  | named (id : TypeId)
  deriving DecidableEq, Repr, Inhabited

namespace Facade

def queryName : String := "Query"

def mutationName : String := "Mutation"

def type? (facade : Facade) (id : TypeId) : Option NamedType :=
  facade.realms.findSome? fun realm => realm.type? id

def nameOf (facade : Facade) : TypeRef -> String
  | .scalar kind => kind.name
  | .json => jsonScalarName
  | .named id => ((facade.type? id).map NamedType.name).getD ""
  | .list item => facade.nameOf item
  | .nonNull inner => facade.nameOf inner

def refText (facade : Facade) : TypeRef -> String
  | .list item => "[" ++ facade.refText item ++ "]"
  | .nonNull inner => facade.refText inner ++ "!"
  | ref => facade.nameOf ref

def member? (ref : TypeRef) : Option Member :=
  match ref.unwrapped with
  | .json => some .json
  | .named id => some (.named id)
  | _ => none

def memberName (facade : Facade) : Member -> String
  | .query => queryName
  | .mutation => mutationName
  | .json => jsonScalarName
  | .named id => facade.nameOf (.named id)

def memberReferences (facade : Facade) : Member -> List TypeRef
  | .named id => ((facade.type? id).map NamedType.references).getD []
  | .query => (NamedType.object queryName .null facade.query).references
  | .mutation => (NamedType.object mutationName .null facade.mutation).references
  | .json => []

/--
Add a member that was not met before, and after it what it leads to, depth
first.  `fuel` bounds the depth.
-/
def collect (facade : Facade) : Nat -> List Member -> Member -> List Member
  | 0, met, _ => met
  | fuel + 1, met, member =>
      if met.contains member then
        met
      else
        ((facade.memberReferences member).filterMap member?).foldl (collect facade fuel)
          (met ++ [member])

/-- Every step down meets a new member, so one more than there are types is deep enough. -/
def collectFuel (facade : Facade) : Nat :=
  facade.realms.foldl (fun n realm => n + realm.types.size) 4

def roots (facade : Facade) : List Member :=
  if facade.mutation.isEmpty then [.query] else [.query, .mutation]

def members (facade : Facade) : List Member :=
  facade.roots.foldl (facade.collect facade.collectFuel) []

def firstRepeated? : List String -> List String -> Option String
  | _, [] => none
  | earlier, name :: rest =>
      if earlier.contains name then some name else firstRepeated? (name :: earlier) rest

/-- A facade, unless two of its members have one name. -/
def make (realms : List Registry) (query mutation : Entries Field) : Except Fault Facade :=
  let facade : Facade := ⟨realms, query, mutation⟩
  match firstRepeated? [] (facade.members.map facade.memberName) with
  | some name => .error (.repeatedType name)
  | none => .ok facade

end Facade

end GraphFacade
