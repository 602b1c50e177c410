import GraphFacade.Proofs.Spelling
import GraphFacade.Proofs.Types.Assembling
import GraphFacade.Proofs.Types.Separation

/-!
# How the names of a facade are spelled

Whatever the texts are that endpoints and namespaces come with, all that a
facade names is spelled as the query language asks, and what stands side by side
has different names.
-/

namespace GraphFacade

/-- Fields that are well named, with arguments that are. -/
structure Entries.WellNamedFields (entries : Entries Field) : Prop extends
    Entries.WellNamed entries where
  arguments : ∀ entry ∈ entries, entry.2.arguments.WellNamed

/-- A type, what it holds and the arguments of that are well named. -/
def NamedType.WellNamed : NamedType -> Prop
  | .object name _ fields => Name.Valid name ∧ fields.WellNamedFields
  | .input name _ fields => Name.Valid name ∧ fields.WellNamed
  | .enum name _ members => Name.Valid name ∧ members.WellNamedMembers

namespace Facade

def typeNames (facade : Facade) : List String :=
  facade.members.map facade.memberName ++ reservedTypeNames

/-- A facade with valid names in all places, different ones side by side. -/
structure WellNamed (facade : Facade) : Prop where
  names : ∀ name ∈ facade.typeNames, Name.Valid name
  query : facade.query.WellNamedFields
  mutation : facade.mutation.WellNamedFields
  types : ∀ id type, facade.type? id = some type -> type.WellNamed

end Facade

theorem NamedType.WellNamed.name {type : NamedType} (h : type.WellNamed) :
    Name.Valid type.name := by
  cases type <;> exact h.1

theorem Entries.wellNamedFields_nil : WellNamedFields [] :=
  ⟨wellNamed_nil, by simp⟩

/-! ## Registries -/

namespace Registry

def WellNamed (r : Registry) : Prop :=
  ∀ type ∈ r.types, type.WellNamed

variable {r r' : Registry}

theorem WellNamed.of_types (h : r.WellNamed) (same : r'.types = r.types) : r'.WellNamed := by
  rw [WellNamed, same]
  exact h

theorem valid_typeName (r : Registry) (title : String) (role : Role) :
    Name.Valid (r.typeName title role) := by
  have base : Name.Valid (if role = .input then Name.ofText title ++ "Input"
      else Name.ofText title) := by
    split
    · exact (Name.valid_ofText title).append (by decide)
    · exact Name.valid_ofText title
  unfold typeName
  dsimp only
  split
  · exact base
  · rename_i realm _
    split
    · exact base
    · have before : Name.Valid (Name.ofText realm ++ "_") :=
        (Name.valid_ofText realm).append (by decide)
      exact before.append (Name.all_of_spelled base)

theorem WellNamed.establish (h : r.WellNamed) {key : TypeKey} {type : NamedType}
    (free : r.get? key = none) (named : type.WellNamed) : (r.establish key type).WellNamed := by
  intro other among
  rw [establish_of_free type free] at among
  rcases Array.mem_push.mp among with old | rfl
  · exact h other old
  · exact named

theorem WellNamed.updateType (h : r.WellNamed) (owner : TypeRef) {f : NamedType -> NamedType}
    (keeps : ∀ type : NamedType, type.WellNamed -> (f type).WellNamed) :
    (r.updateType owner f).WellNamed := by
  cases owner with
  | named id =>
      intro type among
      obtain ⟨i, place⟩ := Array.mem_iff_getElem?.mp among
      rw [types_updateType] at place
      split at place
      · obtain ⟨old, there, rfl⟩ := Option.map_eq_some_iff.mp place
        exact keeps old (h old (Array.mem_of_getElem? there))
      · exact h type (Array.mem_of_getElem? place)
  | _ => exact h

end Registry

/-! ## Mappings -/

namespace Mapping

open Registry

variable {schema : Schema} {origin : Origin} {isInput : Bool} {r r' : Registry}

theorem wellNamed_blank (r : Registry) (title : String) (role : Role) (node : Node) :
    (blank r title role node).WellNamed := by
  have valid := valid_typeName r title role
  unfold blank
  split
  · exact ⟨valid, Name.members_wellNamed _⟩
  · exact ⟨valid, Entries.wellNamed_nil⟩
  · exact ⟨valid, Entries.wellNamedFields_nil⟩

theorem wellNamed_fieldFor (required : List String) (property : String × Node) (ref : TypeRef)
    {type : NamedType} (h : type.WellNamed) :
    (fieldFor isInput required property ref type).WellNamed := by
  have valid := Name.valid_ofText property.1
  cases type with
  | object name about fields =>
      cases isInput with
      | true => exact h
      | false =>
          refine ⟨h.1, h.2.put valid _, fun field among => ?_⟩
          rcases Entries.mem_put among with old | new
          · exact h.2.arguments field old
          · rw [new]
            exact Entries.wellNamed_nil
  | input name about fields =>
      cases isInput with
      | true => exact ⟨h.1, h.2.put valid _⟩
      | false => exact h
  | enum => exact h

theorem Maps.wellNamed {job : Job} {visits : List Visit} {type : TypeRef}
    (h : Maps schema origin isInput job r visits type r') (named : r.WellNamed) :
    r'.WellNamed := by
  induction h with
  | direct => exact named
  | list _ ih => exact ih named
  | known _ titled _ => exact named.of_types (entitle_types titled)
  | created _ titled free _ _ ih =>
      have start := named.of_types (entitle_types titled)
      exact ih (start.establish free (wellNamed_blank _ _ _ _))
  | done => exact named
  | property _ _ ihFirst ihLater =>
      have middle := ihFirst named
      exact ihLater (middle.updateType _ fun _ => wellNamed_fieldFor _ _ _)

theorem History.wellNamed {calls : List Call} {visits : List Visit}
    (h : History calls r visits r') (named : r.WellNamed) : r'.WellNamed := by
  induction h with
  | nil => exact named
  | cons first _ ih => exact ih (first.wellNamed named)

end Mapping

/-! ## Assembled endpoints -/

namespace Assembly

open Registry Mapping Steps

theorem FieldFor.valid {r : Registry} {entry : Atom × Endpoint} {field : String × Field}
    (h : FieldFor r entry field) : Name.Valid field.1 ∧ field.2.arguments.WellNamed := by
  refine ⟨Name.valid_ofJson? h.name, ?_, h.distinct⟩
  intro name among
  obtain ⟨argument, there, rfl⟩ := List.mem_map.mp among
  obtain ⟨_, _, given⟩ := exists_of_forall₂ h.arguments.flip there
  exact Name.valid_ofJson? given.name

theorem Made.wellNamed {r : Registry} {endpoints sorted : EndpointSet} {fields : RootFields}
    (made : Made r endpoints sorted fields) (mutation : Bool) :
    (fields.under mutation).WellNamedFields := by
  have each : ∀ field ∈ fields.under mutation,
      Name.Valid field.1 ∧ field.2.arguments.WellNamed := by
    intro field among
    obtain ⟨_, _, field'⟩ := exists_of_forall₂ (made.each mutation).flip among
    exact field'.valid
  refine ⟨⟨?_, made.distinct mutation⟩, fun field among => (each field among).2⟩
  intro name among
  obtain ⟨field, there, rfl⟩ := List.mem_map.mp among
  exact (each field there).1

/-- What is assembled in a realm is well named, whatever the realm. -/
theorem assembled_wellNamed {realm : Option String} {endpoints : EndpointSet}
    {fields : RootFields} {registry : Registry}
    (h : assembled realm endpoints = .ok (fields, registry)) :
    registry.WellNamed ∧ ∀ mutation, (fields.under mutation).WellNamedFields := by
  obtain ⟨w, ended, rfl⟩ := assembled_eq_ok.mp h
  obtain ⟨visits, order, _, history⟩ := assemble_visited ended
  obtain ⟨sorted, made⟩ := assemble_made ended (orderly_new realm)
  exact ⟨history.wellNamed (by simp [WellNamed]), made.wellNamed⟩

/-! ## Facades -/

/-- The members of a facade that is closed are its roots, the JSON scalar or types of it. -/
theorem memberName_cases {facade : Facade} (closed : facade.Closed) {member : Member}
    (among : member ∈ facade.members) :
    facade.memberName member ∈ [Facade.queryName, Facade.mutationName, jsonScalarName] ∨
      ∃ id type, facade.type? id = some type ∧ facade.memberName member = type.name := by
  have known := Facade.known_of_reachable closed ((Facade.mem_members_iff closed).mp among)
  cases member with
  | named id =>
      obtain ⟨type, found⟩ := Option.isSome_iff_exists.mp known
      exact .inr ⟨id, type, found, by simp [Facade.memberName, Facade.nameOf, found]⟩
  | _ => exact .inl (by simp [Facade.memberName])

theorem valid_typeNames {facade : Facade} (closed : facade.Closed)
    (types : ∀ id type, facade.type? id = some type -> type.WellNamed) :
    ∀ name ∈ facade.typeNames, Name.Valid name := by
  have fixed : ∀ name ∈ [Facade.queryName, Facade.mutationName, jsonScalarName],
      Name.Valid name := by
    decide +kernel
  refine List.forall_mem_append.mpr ⟨?_, by decide +kernel⟩
  rintro name among
  obtain ⟨member, there, rfl⟩ := List.mem_map.mp among
  rcases memberName_cases closed there with own | ⟨id, type, found, same⟩
  · exact fixed _ own
  · rw [same]
    exact (types id type found).name

theorem single_wellNamed {endpoints : EndpointSet} {facade : Facade} {log log' : Log}
    (h : single endpoints log = .ok facade log') : facade.WellNamed := by
  obtain ⟨fields, registry, result, rfl⟩ := single_assembled h
  obtain ⟨_, orderly, query, mutation⟩ := assembled_keeps result
  obtain ⟨named, roots⟩ := assembled_wellNamed result
  have types : ∀ id type, Facade.type? ⟨[registry], fields.query, fields.mutation⟩ id = some type ->
      type.WellNamed := by
    intro id type found
    simp only [Facade.type?, List.findSome?_singleton, Registry.type?] at found
    split at found
    · exact named type (Array.mem_of_getElem? found)
    · simp at found
  exact ⟨valid_typeNames (closed_of_orderly orderly query mutation) types, roots false, roots true,
    types⟩

namespace Part

variable {part : Part} {entry : String × EndpointSet}

theorem wrapper_wellNamed (assembles : Assembles entry part) {fields : String × Entries Field}
    (among : fields ∈ part.wrappers) : (wrapper fields).WellNamed := by
  obtain ⟨_, roots⟩ := assembled_wellNamed assembles.2
  have name : Name.Valid part.name := Name.valid_ofText part.realm
  rcases List.mem_cons.mp among with rfl | later
  · exact ⟨name, roots false⟩
  · split at later
    · rw [List.mem_singleton.mp later]
      exact ⟨name.append (by decide), roots true⟩
    · simp at later

theorem type_wellNamed (assembles : Assembles entry part) {i : Nat} {type : NamedType}
    (found : part.wrapped.types[i]? = some type) : type.WellNamed := by
  rcases type_cases found with registered | ⟨_, fields, _, there, rfl⟩
  · exact (assembled_wellNamed assembles.2).1 type (Array.mem_of_getElem? registered)
  · exact wrapper_wellNamed assembles (List.mem_of_getElem? there)

end Part

/-- Root fields of a join are named after their namespaces, and have no arguments. -/
theorem wellNamed_parts {parts : List Part} (admissible : Admissible parts)
    {fields : Part -> Entries Field}
    (own : ∀ part, ∀ entry ∈ fields part, entry ∈ part.queryFields ∨ entry ∈ part.mutationFields)
    (few : ((parts.flatMap fields).map Prod.fst).Sublist (parts.map Part.name)) :
    Entries.WellNamedFields (parts.flatMap fields) := by
  refine ⟨⟨?_, admissible.names.sublist few⟩, ?_⟩
  · intro name among
    obtain ⟨part, _, rfl⟩ := List.mem_map.mp (few.subset among)
    exact Name.valid_ofText part.realm
  · intro entry among
    obtain ⟨part, _, there⟩ := List.mem_flatMap.mp among
    obtain ⟨_, _, _, rfl⟩ := Part.field_cases (own part entry there)
    exact Entries.wellNamed_nil

theorem join_wellNamed {namespaces : List (String × EndpointSet)} {facade : Facade}
    {log log' : Log} (h : join namespaces log = .ok facade log') : facade.WellNamed := by
  obtain ⟨_, parts, assembles, admissible, rfl, _⟩ := joined_eq_ok.mp ((join_gives namespaces).ok h)
  have types : ∀ id type, (facadeOf parts).type? id = some type -> type.WellNamed := by
    intro id type found
    obtain ⟨part, among, _, there⟩ := part_of_type? found
    obtain ⟨entry, _, assembles'⟩ := entry_of_part assembles among
    exact Part.type_wellNamed assembles' there
  refine ⟨valid_typeNames (closed_facadeOf admissible) types, ?_, ?_, types⟩
  · refine wellNamed_parts admissible (fun _ _ => .inl) ?_
    exact (query_keys parts) ▸ List.Sublist.refl _
  · refine wellNamed_parts admissible (fun _ _ => .inr) ?_
    have keys := mutation_keys assembles
    rw [names_of_assembles assembles]
    exact keys ▸ List.filter_sublist.map _

/--
Whatever endpoints and namespaces are given, a facade that is returned for them
has names of the right spelling for all its types, fields, arguments, input
fields and members of enumerations.  No two fields of a root or a type, no two
arguments of a field and no two members of an enumeration have one name, and no
member is true, false or null.
-/
theorem returned_wellNamed :
    (∀ endpoints log facade log', single endpoints log = .ok facade log' -> facade.WellNamed) ∧
      ∀ namespaces log facade log', join namespaces log = .ok facade log' -> facade.WellNamed :=
  ⟨fun _ _ _ _ => single_wellNamed, fun _ _ _ _ => join_wellNamed⟩

def colours : Node :=
  .enum ⟨1, some (.text "Colour é"), .null⟩ (some .string)
    [.text "true", .text "sea green", .text "sea-green", .text ""]

/-- A kiosk whose key and parameter are no names either. -/
def kiosk (response : Schema) : EndpointSet :=
  [(.text "2nd-kiosk", {
    operationId := .text "2nd-kiosk", method := some .get, path := some "/kiosk", mutation := false
    description := .null, response := some response
    parameters :=
      [⟨.text "max price", .query, ⟨.scalar ⟨0, none, .null⟩ .number, #[]⟩, true, .null⟩]
    baseUrl := .null })]

def goods : Schema :=
  ⟨.object ⟨0, none, .null⟩ 0, #[⟨[], [("on-sale", colours)]⟩]⟩

def kiosks : List (String × EndpointSet) :=
  [("", kiosk ⟨colours, #[]⟩), ("1st", kiosk ⟨colours, #[]⟩)]

/-- Kiosks that go by no names, and goods of such titles, are well named all the same. -/
theorem returned_wellNamed_kiosk :
    (∃ facade log, single (kiosk goods) #[] = .ok facade log ∧
      facade.members.map facade.memberName = ["Query", "_2nd_kiosk_response", "Colour__"] ∧
      facade.WellNamed) ∧
    ∃ facade log, join kiosks #[] = .ok facade log ∧
      facade.members.map facade.memberName =
        ["Query", "_", "Colour__", "_1st", "_1st_Colour__"] ∧
      facade.WellNamed := by
  constructor
  · have shown : (returned? (single (kiosk goods) #[])).any fun result =>
        result.1.members.map result.1.memberName ==
          ["Query", "_2nd_kiosk_response", "Colour__"] := by
      decide +kernel
    obtain ⟨facade, log, returns, names⟩ := ok_of_returned shown
    exact ⟨facade, log, returns, eq_of_beq names, returned_wellNamed.1 _ _ _ _ returns⟩
  · have order : ordered kiosks = kiosks := List.mergeSort_of_pairwise (by decide +kernel)
    have shown : (joined kiosks).toOption.any fun facade =>
        facade.members.map facade.memberName ==
          ["Query", "_", "Colour__", "_1st", "_1st_Colour__"] := by
      rw [joined, order]
      decide +kernel
    obtain ⟨facade, made, names⟩ := ok_of_toOption shown
    obtain ⟨log, returns⟩ := join_gives kiosks #[]
    rw [made] at returns
    exact ⟨facade, log, returns, eq_of_beq names, returned_wellNamed.2 _ _ _ _ returns⟩

end Assembly

end GraphFacade
