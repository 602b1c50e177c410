import GraphFacade.Proofs.Reserved
import GraphFacade.Proofs.Types.Spelling

/-!
# Reserved names in facades

Names of the right spelling may still be reserved.  Whether a facade has a reserved
name is told by the texts that its names are made of: the keys of endpoints, the names
of parameters, the titles, properties and literals of the nodes that types are made
for, and the namespaces.
-/

namespace GraphFacade

def Json.Marked (value : Json) : Prop :=
  ∃ s, value = .text s ∧ Name.Marked s

/-- Whether no field has a reserved name, and no argument of one. -/
def Entries.Unreserved (fields : Entries Field) : Prop :=
  ∀ field ∈ fields, ¬ Name.Reserved field.1 ∧
    ∀ argument ∈ field.2.arguments, ¬ Name.Reserved argument.1

/-- Whether neither a type nor what it holds has a reserved name. -/
def NamedType.Unreserved : NamedType -> Prop
  | .object name _ fields => ¬ Name.Reserved name ∧ Entries.Unreserved fields
  | .input name _ fields => ¬ Name.Reserved name ∧ ∀ field ∈ fields, ¬ Name.Reserved field.1
  | .enum name _ members => ¬ Name.Reserved name ∧ ∀ member ∈ members, ¬ Name.Reserved member.1

instance (fields : Entries Field) : Decidable fields.Unreserved :=
  inferInstanceAs (Decidable (∀ field ∈ fields, _ ∧ ∀ argument ∈ field.2.arguments, ¬ _))

instance : DecidablePred NamedType.Unreserved
  | .object .. | .input .. | .enum .. => inferInstanceAs (Decidable (_ ∧ _))

/-- A facade without reserved names. -/
structure Facade.Unreserved (facade : Facade) : Prop where
  names : ∀ member ∈ facade.members, ¬ Name.Reserved (facade.memberName member)
  query : Entries.Unreserved facade.query
  mutation : Entries.Unreserved facade.mutation
  types : ∀ id type, facade.type? id = some type -> type.Unreserved

theorem NamedType.Unreserved.name {type : NamedType} (h : type.Unreserved) :
    ¬ Name.Reserved type.name := by
  cases type <;> exact h.1

/-! ## Titles -/

/-- Whether a type that is registered under a key gets a reserved name. -/
def TypeKey.Marked (key : TypeKey) : Prop :=
  match key.realm with
  | none | some "" => Name.Marked key.title
  | some realm => Name.Marked realm ∨ Name.Lone realm

theorem Registry.reserved_typeName_iff (r : Registry) (title : String) (role : Role) :
    Name.Reserved (r.typeName title role) ↔ (r.key title role).Marked := by
  have base : Name.Reserved (if role = .input then Name.ofText title ++ "Input"
      else Name.ofText title) ↔ Name.Marked title := by
    split
    · rw [Name.reserved_append_iff (Name.valid_ofText title), Name.reserved_ofText_iff,
        or_iff_left fun h => absurd h.2 (by decide)]
    · exact Name.reserved_ofText_iff title
  unfold typeName TypeKey.Marked key
  dsimp only
  split
  · rename_i none
    rw [none]
    exact base
  · rename_i realm some'
    rw [some']
    by_cases empty : realm = ""
    · subst empty
      exact base
    · have nonempty : realm.isEmpty = false := by simpa using empty
      rw [nonempty, if_neg Bool.false_ne_true, Name.reserved_joined_iff]
      split
      · rename_i same
        cases same
      · rename_i same
        exact absurd (Option.some.inj same) empty
      · rename_i other same
        rw [Option.some.inj same]

/-! ## Types of nodes -/

namespace Mapping

open Registry

variable {r : Registry} {visit : Visit} {visits : List Visit}

/-- A node whose texts give no reserved name to the type that is made for it. -/
structure Visit.Unmarked (visit : Visit) : Prop where
  title : ¬ visit.key.Marked
  properties : ∀ property ∈ (shapeOf visit.schema visit.node).properties,
    ¬ Name.Marked property.1
  literals : ∀ label kind literals, visit.node = .enum label kind literals ->
    (∀ literal ∈ Name.distinct [] literals, ¬ Name.Marked literal.display) ∧
      Name.loneCount (Name.distinct [] literals) ≤ 1

/-- Fields are named after the properties that write them. -/
theorem unreserved_ofList_iff {α : Type} (properties : List (String × Node))
    (made : String × Node -> α) :
    (∀ field ∈ Entries.ofList (properties.map fun property =>
        (Name.ofText property.1, made property)), ¬ Name.Reserved field.1) ↔
      ∀ property ∈ properties, ¬ Name.Marked property.1 := by
  rw [← List.forall_mem_map (f := Prod.fst) (P := fun name => ¬ Name.Reserved name),
    Entries.keys_ofList, List.map_map]
  simp only [List.mem_eraseDups, List.forall_mem_map, Function.comp_apply,
    Name.reserved_ofText_iff]

theorem unreserved_members_iff (literals : List Json) :
    (∀ member ∈ Name.members literals, ¬ Name.Reserved member.1) ↔
      (∀ literal ∈ Name.distinct [] literals, ¬ Name.Marked literal.display) ∧
        Name.loneCount (Name.distinct [] literals) ≤ 1 := by
  have names := (Name.reserved_mem_members literals).not
  rw [not_or, Nat.not_lt] at names
  simpa using names

/-- The fields of properties have no arguments. -/
theorem unreserved_fields_iff (properties : List (String × Node)) (type : String × Node -> TypeRef)
    (about : String × Node -> Json) :
    Entries.Unreserved (Entries.ofList (properties.map fun property =>
        (Name.ofText property.1,
          ⟨type property, about property, [], .property property.1⟩))) ↔
      ∀ property ∈ properties, ¬ Name.Marked property.1 := by
  rw [← unreserved_ofList_iff]
  refine forall₂_congr fun field among => and_iff_left ?_
  obtain ⟨written, there, same⟩ := Entries.mem_ofList among
  obtain ⟨property, _, rfl⟩ := List.mem_map.mp there
  simp [← same]

theorem Visit.unmarked_enum_iff {label : Label} {kind : Option ScalarKind} {literals : List Json}
    (node : visit.node = .enum label kind literals) :
    visit.Unmarked ↔ ¬ visit.key.Marked ∧
      (∀ literal ∈ Name.distinct [] literals, ¬ Name.Marked literal.display) ∧
        Name.loneCount (Name.distinct [] literals) ≤ 1 := by
  constructor
  · exact fun unmarked => ⟨unmarked.title, unmarked.literals _ _ _ node⟩
  · rintro ⟨title, texts⟩
    refine ⟨title, by simp [node, shapeOf], fun _ _ _ same => ?_⟩
    obtain ⟨_, _, rfl⟩ := Node.enum.inj (node.symm.trans same)
    exact texts

theorem Visit.unmarked_object_iff {label : Label} {index : Nat}
    (node : visit.node = .object label index) :
    visit.Unmarked ↔ ¬ visit.key.Marked ∧
      ∀ property ∈ (visit.schema.shape index).properties, ¬ Name.Marked property.1 := by
  constructor
  · intro unmarked
    have properties := unmarked.properties
    rw [node] at properties
    exact ⟨unmarked.title, properties⟩
  · rintro ⟨title, texts⟩
    refine ⟨title, by rwa [node], fun _ _ _ same => ?_⟩
    rw [node] at same
    cases same

theorem Visit.unreserved_complete_iff (realm : visit.key.realm = r.realm)
    (named : role? visit.schema visit.isInput visit.node = some visit.key.role) :
    (visit.complete r).Unreserved ↔ visit.Unmarked := by
  rcases visit with ⟨schema, origin, isInput, node, realm', title, role⟩
  obtain rfl : realm' = r.realm := realm
  have titled := reserved_typeName_iff r title role
  cases node with
  | enum label kind literals =>
      obtain rfl : Role.enum = role := by
        simp only [role?] at named
        split at named
        · exact Option.some.inj named
        · cases named
      rw [Visit.unmarked_enum_iff rfl]
      exact and_congr titled.not (unreserved_members_iff literals)
  | object label index =>
      simp only [role?] at named
      split at named
      · simp at named
      · rw [Visit.unmarked_object_iff rfl]
        cases isInput with
        | false =>
            obtain rfl : Role.output = role := by simpa using named
            simp only [Visit.complete, shapeOf, blank, filled_object]
            exact and_congr titled.not (unreserved_fields_iff _ _ _)
        | true =>
            obtain rfl : Role.input = role := by simpa using named
            simp only [Visit.complete, shapeOf, blank, filled_input]
            exact and_congr titled.not (unreserved_ofList_iff _ _)
  | scalar | list | openList | any => cases named

/-! ## Mappings on a new registry -/

def Decides (visits : List Visit) (visit : Visit) : Prop :=
  visits.find? (fun other => other.key == visit.key) = some visit

variable {calls : List Call} {realm : Option String}

/-- An entry's type has a reserved name exactly if the node that decides on it has a marked text. -/
theorem History.unreserved_iff (history : History calls { realm } visits r) (orderly : Orderly r)
    {i : Nat} {key : TypeKey} {ref : TypeRef} {type : NamedType}
    (place : r.entries[i]? = some (key, ref)) (found : r.types[i]? = some type) :
    ∃ visit, visits.find? (fun other => other.key == key) = some visit ∧
      (type.Unreserved ↔ visit.Unmarked) := by
  obtain ⟨tagged, same, _⟩ := orderly.entries place
  rcases history.fresh (List.mem_of_getElem? place) with old | fresh
  · cases old
  · obtain ⟨_, visit, index, first, _, same', complete⟩ := fresh
    obtain rfl : visit.key = key := by simpa using List.find?_some first
    obtain rfl : index = i := by
      rw [same', TypeRef.named.injEq, TypeId.mk.injEq] at same
      exact same.2
    obtain rfl := Option.some.inj (found.symm.trans complete.type)
    exact ⟨visit, first, Visit.unreserved_complete_iff tagged complete.role⟩

theorem History.types_unreserved_iff (history : History calls { realm } visits r)
    (orderly : Orderly r) :
    (∀ type ∈ r.types, type.Unreserved) ↔ ∀ visit, Decides visits visit -> visit.Unmarked := by
  constructor
  · intro types visit decides
    obtain ⟨ref, registered⟩ := history.registered visit (List.mem_of_find?_eq_some decides)
    obtain ⟨i, place⟩ := List.mem_iff_getElem?.mp (Entries.mem_of_lookup registered)
    obtain ⟨_, _, type, found, _⟩ := orderly.entries place
    obtain ⟨other, first, same⟩ := history.unreserved_iff orderly place found
    obtain rfl := Option.some.inj (decides.symm.trans first)
    exact same.mp (types type (Array.mem_of_getElem? found))
  · intro unmarked type among
    obtain ⟨i, found⟩ := Array.mem_iff_getElem?.mp among
    obtain ⟨key, place, _⟩ := orderly.entry_of_type found
    obtain ⟨visit, first, same⟩ := history.unreserved_iff orderly place found
    obtain rfl : visit.key = key := by simpa using List.find?_some first
    exact same.mpr (unmarked visit first)

end Mapping

/-! ## Assembled endpoints -/

namespace Assembly

open Registry Mapping Steps

variable {r registry : Registry} {endpoints sorted : EndpointSet} {fields : RootFields}

def PlainEntry (entry : Atom × Endpoint) : Prop :=
  ¬ (Json.atom entry.1).Marked ∧ ∀ parameter ∈ entry.2.parameters, ¬ parameter.name.Marked

theorem FieldFor.unreserved_iff {entry : Atom × Endpoint} {field : String × Field}
    (h : FieldFor r entry field) :
    (¬ Name.Reserved field.1 ∧ ∀ argument ∈ field.2.arguments, ¬ Name.Reserved argument.1) ↔
      PlainEntry entry := by
  have each := forall_iff_of_forall₂ h.arguments
    (p := fun numbered => ¬ numbered.1.name.Marked) fun _ _ argument =>
      (Name.reserved_ofJson?_iff argument.name).not.symm
  have numbers := List.forall_mem_map (l := entry.2.parameters.zipIdx 1) (f := Prod.fst)
    (P := fun parameter => ¬ parameter.name.Marked)
  rw [List.zipIdx_map_fst] at numbers
  exact and_congr (Name.reserved_ofJson?_iff h.name).not (each.symm.trans numbers.symm)

theorem Made.unreserved_iff (made : Made r endpoints sorted fields) :
    Entries.Unreserved fields.query ∧ Entries.Unreserved fields.mutation ↔
      ∀ entry ∈ endpoints, PlainEntry entry := by
  have each (mutation : Bool) := forall_iff_of_forall₂ (made.each mutation) fun _ _ field =>
    field.unreserved_iff.symm
  have moved := EndpointSet.sorted_perm made.order
  refine (and_congr (each false).symm (each true).symm).trans ⟨?_, ?_⟩
  · rintro ⟨queries, mutations⟩ entry among
    have there := moved.mem_iff.mpr among
    cases kind : entry.2.mutation with
    | false => exact queries entry (List.mem_filter.mpr ⟨there, by simp [kind]⟩)
    | true => exact mutations entry (List.mem_filter.mpr ⟨there, by simp [kind]⟩)
  · intro plain
    have kept (mutation : Bool) : ∀ entry ∈ sorted.filter fun entry =>
        entry.2.mutation == mutation, PlainEntry entry :=
      fun entry there => plain entry (moved.mem_iff.mp (List.mem_filter.mp there).1)
    exact ⟨kept false, kept true⟩

/--
Endpoints that have no marked text in a place that a name is made of, when they are
assembled in a realm: neither endpoints and parameters have one nor do the nodes that
decide on the types.
-/
structure Unmarked (realm : Option String) (endpoints : EndpointSet) : Prop where
  entries : ∀ entry ∈ endpoints, PlainEntry entry
  nodes : ∃ fields registry visits, assembled realm endpoints = .ok (fields, registry) ∧
    Visited realm endpoints visits registry ∧
      ∀ visit, Decides visits visit -> visit.Unmarked

/-- What is assembled has a reserved name exactly if the endpoints have a marked text. -/
theorem assembled_unreserved_iff {realm : Option String}
    (h : assembled realm endpoints = .ok (fields, registry)) :
    (∀ type ∈ registry.types, type.Unreserved) ∧
        Entries.Unreserved fields.query ∧ Entries.Unreserved fields.mutation ↔
      Unmarked realm endpoints := by
  obtain ⟨w, ended, rfl⟩ := assembled_eq_ok.mp h
  obtain ⟨_, orderly, _⟩ := assembled_keeps h
  obtain ⟨_, made⟩ := assemble_made ended (orderly_new realm)
  obtain ⟨visits, order, moved, history⟩ := assemble_visited ended
  rw [history.types_unreserved_iff orderly, made.unreserved_iff]
  constructor
  · rintro ⟨nodes, plain⟩
    exact ⟨plain, _, _, visits, h, ⟨order, moved, history⟩, nodes⟩
  · rintro ⟨plain, fields', registry', visits', h', ⟨_, _, history'⟩, nodes⟩
    obtain ⟨rfl, rfl⟩ := Prod.mk.inj (Except.ok.inj (h.symm.trans h'))
    refine ⟨?_, plain⟩
    rwa [← history.types_unreserved_iff orderly, history'.types_unreserved_iff orderly]

/-! ## Facades -/

theorem unreserved_of_closed {facade : Facade} (closed : facade.Closed)
    (query : Entries.Unreserved facade.query) (mutation : Entries.Unreserved facade.mutation)
    (types : ∀ id type, facade.type? id = some type -> type.Unreserved) : facade.Unreserved := by
  have fixed : ∀ name ∈ [Facade.queryName, Facade.mutationName, jsonScalarName],
      ¬ Name.Reserved name := by
    decide +kernel
  refine ⟨fun member among => ?_, query, mutation, types⟩
  rcases memberName_cases closed among with own | ⟨id, type, found, same⟩
  · exact fixed _ own
  · rw [same]
    exact (types id type found).name

theorem single_unreserved_iff {facade : Facade} {log log' : Log}
    (h : single endpoints log = .ok facade log') :
    facade.Unreserved ↔ Unmarked none endpoints := by
  obtain ⟨fields, registry, result, rfl⟩ := single_assembled h
  obtain ⟨tagged, orderly, query, mutation⟩ := assembled_keeps result
  have types (id : TypeId) (type : NamedType) :
      Facade.type? ⟨[registry], fields.query, fields.mutation⟩ id = some type ↔
        id.realm = none ∧ registry.types[id.index]? = some type := by
    simp [Facade.type?, Registry.type?, tagged]
  rw [← assembled_unreserved_iff result]
  constructor
  · intro plain
    refine ⟨fun type among => ?_, plain.query, plain.mutation⟩
    obtain ⟨i, found⟩ := Array.mem_iff_getElem?.mp among
    exact plain.types ⟨none, i⟩ type ((types ⟨none, i⟩ type).mpr ⟨rfl, found⟩)
  · rintro ⟨plain, queries, mutations⟩
    refine unreserved_of_closed (closed_of_orderly orderly query mutation) queries mutations ?_
    exact fun id type found => plain type (Array.mem_of_getElem? ((types id type).mp found).2)

/-! ## Facades of several namespaces -/

namespace Part

variable {part : Part} {entry : String × EndpointSet}

/-- The wrappers of a namespace are named after it, that of its mutations with an ending. -/
theorem wrappers_unreserved_iff (assembles : Assembles entry part) :
    (∀ fields ∈ part.wrappers, (wrapper fields).Unreserved) ↔
      ¬ Name.Marked entry.1 ∧ (changes entry -> ¬ Name.Lone entry.1) ∧
        Entries.Unreserved part.fields.query ∧ Entries.Unreserved part.fields.mutation := by
  have first : Name.Reserved part.name ↔ Name.Marked entry.1 := by
    rw [name, assembles.1, Name.reserved_ofText_iff]
  have second : Name.Reserved (part.name ++ "_mutation") ↔
      Name.Marked entry.1 ∨ Name.Lone entry.1 := by
    have split' : "_mutation" = "_" ++ "mutation" := by decide
    rw [name, assembles.1, split', ← String.append_assoc, Name.reserved_joined_iff]
  rw [← assembles.mutates]
  by_cases mutates : part.mutates
  · simp only [wrappers, mutates, wrapper, NamedType.Unreserved, first, second, if_true,
      List.forall_mem_cons, List.not_mem_nil, false_imp_iff, implies_true, and_true, not_or,
      forall_const]
    constructor
    · rintro ⟨⟨plain, query⟩, ⟨_, more⟩, mutation⟩
      exact ⟨plain, more, query, mutation⟩
    · rintro ⟨plain, more, query, mutation⟩
      exact ⟨⟨plain, query⟩, ⟨plain, more⟩, mutation⟩
  · have none' : part.fields.mutation = [] := by simpa [Part.mutates] using mutates
    simp [wrappers, mutates, wrapper, NamedType.Unreserved, first, none', Entries.Unreserved]

theorem types_unreserved_iff (assembles : Assembles entry part) :
    (∀ type ∈ part.wrapped.types, type.Unreserved) ↔
      ¬ Name.Marked entry.1 ∧ (changes entry -> ¬ Name.Lone entry.1) ∧
        Unmarked (some entry.1) entry.2 := by
  have both : (∀ type ∈ part.wrapped.types, type.Unreserved) ↔
      (∀ type ∈ part.registry.types, type.Unreserved) ∧
        ∀ fields ∈ part.wrappers, (wrapper fields).Unreserved := by
    simp only [wrapped, Array.mem_append, List.mem_toArray, or_imp, forall_and,
      List.forall_mem_map]
  rw [both, wrappers_unreserved_iff assembles, ← assembled_unreserved_iff assembles.2]
  constructor
  · rintro ⟨types, plain, more, roots⟩
    exact ⟨plain, more, types, roots⟩
  · rintro ⟨plain, more, types, roots⟩
    exact ⟨types, plain, more, roots⟩

end Part

section Join

variable {parts : List Part} {namespaces : List (String × EndpointSet)}

/-- Root fields of parts are named like types, and have no arguments. -/
theorem unreserved_roots {part : Part} {entry : String × Field}
    (plain : ∀ type ∈ part.wrapped.types, type.Unreserved)
    (among : entry ∈ part.queryFields ∨ entry ∈ part.mutationFields) :
    ¬ Name.Reserved entry.1 ∧ ∀ argument ∈ entry.2.arguments, ¬ Name.Reserved argument.1 := by
  have queries : part.wrappers[0]? = some (part.name, part.fields.query) := rfl
  have named := (plain _ (Array.mem_of_getElem? (Part.type_wrapper queries))).name
  obtain ⟨_, _, _, rfl⟩ := Part.field_cases among
  exact ⟨named, nofun⟩

theorem facadeOf_unreserved_iff (admissible : Admissible parts) :
    (facadeOf parts).Unreserved ↔
      ∀ part ∈ parts, ∀ type ∈ part.wrapped.types, type.Unreserved := by
  constructor
  · intro plain part among type there
    obtain ⟨i, found⟩ := Array.mem_iff_getElem?.mp there
    exact plain.types _ type ((type?_facadeOf admissible among i).trans found)
  · intro plain
    refine unreserved_of_closed (closed_facadeOf admissible) ?_ ?_ ?_
    · intro entry query
      obtain ⟨part, among, there⟩ := List.mem_flatMap.mp query
      exact unreserved_roots (plain part among) (.inl there)
    · intro entry mutation
      obtain ⟨part, among, there⟩ := List.mem_flatMap.mp mutation
      exact unreserved_roots (plain part among) (.inr there)
    · intro id type found
      obtain ⟨part, among, _, there⟩ := part_of_type? found
      exact plain part among type (Array.mem_of_getElem? there)

theorem join_unreserved_iff {facade : Facade} {log log' : Log}
    (h : join namespaces log = .ok facade log') :
    facade.Unreserved ↔ ∀ entry ∈ namespaces,
      ¬ Name.Marked entry.1 ∧ (changes entry -> ¬ Name.Lone entry.1) ∧
        Unmarked (some entry.1) entry.2 := by
  obtain ⟨_, parts, assembles, admissible, rfl, _⟩ := joined_eq_ok.mp ((join_gives namespaces).ok h)
  have moved : (ordered namespaces).Perm namespaces := List.mergeSort_perm _ _
  have each := forall_iff_of_forall₂ assembles fun _ _ part => (Part.types_unreserved_iff part).symm
  rw [facadeOf_unreserved_iff admissible, ← each]
  exact forall_congr' fun entry => by rw [moved.mem_iff]

end Join

/--
Whatever endpoints and namespaces are given, a facade that is returned for them has
no reserved name exactly if no text begins with two marks that a name is made of:
neither the key of an endpoint, the name of a parameter or a namespace nor the title,
a property or a literal of a node that decides on a type.  There must be no more than
one literal in an enumeration that is empty or a single mark, either, and no such
namespace that has a mutation or, unless it is empty, a type of its own.
-/
theorem returned_unreserved_iff (endpoints : EndpointSet)
    (namespaces : List (String × EndpointSet)) (facade : Facade) (log log' : Log) :
    (single endpoints log = .ok facade log' ->
      (facade.Unreserved ↔ Unmarked none endpoints)) ∧
    (join namespaces log = .ok facade log' ->
      (facade.Unreserved ↔ ∀ entry ∈ namespaces,
        ¬ Name.Marked entry.1 ∧ (changes entry -> ¬ Name.Lone entry.1) ∧
          Unmarked (some entry.1) entry.2)) :=
  ⟨single_unreserved_iff, join_unreserved_iff⟩

def user : Schema :=
  ⟨.object ⟨0, some (.text "User"), .null⟩ 0, #[⟨[],
    [("name", .scalar ⟨1, none, .null⟩ .string), ("__v", .scalar ⟨2, none, .null⟩ .integer)]⟩]⟩

def hyphened : List (String × EndpointSet) :=
  [("-", kiosk ⟨colours, #[]⟩)]

/-- Goods have no reserved names, but the user gets one, and so do the colours in the namespace. -/
theorem returned_unreserved_iff_user :
    (∃ facade log, single (kiosk goods) #[] = .ok facade log ∧
      Unmarked none (kiosk goods) ∧ facade.Unreserved) ∧
    (∃ facade log, single (kiosk user) #[] = .ok facade log ∧
      ((facade.type? ⟨none, 0⟩).any fun type => type.name = "User" ∧ ¬ type.Unreserved) ∧
      ¬ facade.Unreserved ∧ ¬ Unmarked none (kiosk user)) ∧
    ∃ facade log, join hyphened #[] = .ok facade log ∧
      "__Colour__" ∈ facade.members.map facade.memberName ∧
      ¬ facade.Unreserved ∧ ¬ Unmarked (some "-") (kiosk ⟨colours, #[]⟩) := by
  refine ⟨?goods, ?user, ?hyphened⟩
  case goods =>
    have shown : (returned? (single (kiosk goods) #[])).any fun result =>
        (∀ realm ∈ result.1.realms, ∀ type ∈ realm.types, type.Unreserved) ∧
          result.1.query.Unreserved ∧ result.1.mutation.Unreserved := by
      decide +kernel
    obtain ⟨facade, log, returns, plain⟩ := ok_of_returned shown
    obtain ⟨_, _, result, rfl⟩ := single_assembled returns
    obtain ⟨types, roots⟩ := of_decide_eq_true plain
    have unmarked : Unmarked none (kiosk goods) :=
      (assembled_unreserved_iff result).mp ⟨types _ List.mem_cons_self, roots⟩
    have told := (returned_unreserved_iff (kiosk goods) [] _ #[] log).1 returns
    exact ⟨_, log, returns, unmarked, told.mpr unmarked⟩
  case user =>
    have shown : (returned? (single (kiosk user) #[])).any fun result =>
        (result.1.type? ⟨none, 0⟩).any fun type => type.name = "User" ∧ ¬ type.Unreserved := by
      decide +kernel
    obtain ⟨facade, log, returns, version⟩ := ok_of_returned shown
    have reserved : ¬ facade.Unreserved := by
      intro plain
      obtain ⟨type, found, named⟩ := Option.any_eq_true _ _ |>.mp version
      exact (of_decide_eq_true named).2 (plain.types _ type found)
    have told := (returned_unreserved_iff (kiosk user) [] facade #[] log).1 returns
    exact ⟨facade, log, returns, version, reserved, told.not.mp reserved⟩
  case hyphened =>
    have order : ordered hyphened = hyphened := List.mergeSort_of_pairwise (by decide +kernel)
    have shown : (joined hyphened).toOption.any fun facade =>
        (facade.members.map facade.memberName).contains "__Colour__" := by
      rw [joined, order]
      decide +kernel
    obtain ⟨facade, made, names⟩ := ok_of_toOption shown
    obtain ⟨log, returns⟩ := join_gives hyphened #[]
    rw [made] at returns
    have among := List.contains_iff_mem.mp names
    have reserved : ¬ facade.Unreserved := by
      intro plain
      obtain ⟨member, there, same⟩ := List.mem_map.mp among
      exact plain.names member there (same ▸ by decide +kernel)
    have told := (returned_unreserved_iff [] hyphened facade #[] log).2 returns
    refine ⟨facade, log, returns, among, reserved, fun unmarked => reserved (told.mpr ?_)⟩
    exact List.forall_mem_singleton.mpr ⟨by decide +kernel, by decide +kernel, unmarked⟩

end Assembly

end GraphFacade
