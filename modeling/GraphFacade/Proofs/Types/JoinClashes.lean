import GraphFacade.Proofs.Types.Separation

/-!
# Clashes of names when namespaces are joined

Joining claims the names of all types for their namespaces, and so finds every
clash between namespaces, with a root or with a scalar.  Two clashes it does not
find: two types of one namespace whose keys give one name, and a namespace named
like a type by which a schema describes itself.  The type system refuses these.
-/

namespace GraphFacade

namespace Assembly

open Registry

/-! ## What is refused in spite of the claims -/

theorem mutation_not_mem_introspectionNames (name : String) :
    name ++ "_mutation" ∉ introspectionNames := by
  intro member
  have apart : ∀ other ∈ introspectionNames, ¬ "_mutation".toList <:+ other.toList := by decide
  refine apart _ member ?_
  rw [String.toList_append]
  exact List.suffix_append _ _

section Parts

variable {parts : List Part} {part : Part}

theorem name_of_wrapper {wrapper : String × Entries Field} (member : wrapper ∈ part.wrappers)
    (reserved : wrapper.1 ∈ introspectionNames) : wrapper.1 = part.name := by
  rcases List.mem_cons.mp member with rfl | later
  · rfl
  · split at later
    · rw [List.mem_singleton.mp later] at reserved
      exact absurd reserved (mutation_not_mem_introspectionNames _)
    · simp at later

theorem named_of_clash (admissible : Admissible parts) {first second : Member}
    (known : (facadeOf parts).Known first) (known' : (facadeOf parts).Known second)
    (different : first ≠ second)
    (same : (facadeOf parts).memberName first = (facadeOf parts).memberName second) :
    ∃ id id' type type', first = .named id ∧ second = .named id' ∧
      (facadeOf parts).type? id = some type ∧ (facadeOf parts).type? id' = some type' ∧
      type.name = (facadeOf parts).memberName first ∧ type'.name = type.name := by
  have named : ∀ id, (facadeOf parts).Known (.named id) -> ∃ type,
      (facadeOf parts).type? id = some type ∧
        type.name = (facadeOf parts).memberName (.named id) := by
    intro id there
    obtain ⟨type, found⟩ := Option.isSome_iff_exists.mp there
    exact ⟨type, found, by simp [Facade.memberName, Facade.nameOf, found]⟩
  have owned : ∀ member : Member, (∀ id, member ≠ .named id) ->
      (facadeOf parts).memberName member ∈ firstOwners.map Prod.fst := by
    intro member plain
    cases member with
    | named id => exact absurd rfl (plain id)
    | _ => simp [Facade.memberName, firstOwners]
  cases first with
  | named id =>
      obtain ⟨type, found, name⟩ := named id known
      cases second with
      | named id' =>
          obtain ⟨type', found', name'⟩ := named id' known'
          exact ⟨id, id', type, type', rfl, rfl, found, found', name, by rw [name', name, same]⟩
      | _ => exact absurd (name ▸ same ▸ owned _ (by simp)) (type_name_free admissible found)
  | _ =>
      cases second with
      | named id' =>
          obtain ⟨type', found', name'⟩ := named id' known'
          exact absurd (name' ▸ same ▸ owned _ (by simp)) (type_name_free admissible found')
      | _ => simp_all [Facade.memberName, Facade.queryName, Facade.mutationName, jsonScalarName]

def Doubles (r : Registry) (name : String) : Prop :=
  ∃ key ∈ r.entries.map Prod.fst, ∃ other ∈ r.entries.map Prod.fst, key ≠ other ∧
    r.typeName key.title key.role = name ∧ r.typeName other.title other.role = name

/-- Two types of one name are registered under two keys of one part. -/
theorem doubles_of_clash (admissible : Admissible parts) {first second : Member}
    (known : (facadeOf parts).Known first) (known' : (facadeOf parts).Known second)
    (different : first ≠ second)
    (same : (facadeOf parts).memberName first = (facadeOf parts).memberName second) :
    ∃ part ∈ parts, Doubles part.registry ((facadeOf parts).memberName first) := by
  obtain ⟨id, id', type, type', rfl, rfl, found, found', name, name'⟩ :=
    named_of_clash admissible known known' different same
  have other : id ≠ id' := fun equal => different (congrArg Member.named equal)
  obtain ⟨part, among, realm, there⟩ := part_of_type? found
  obtain ⟨part', among', realm', there'⟩ := part_of_type? found'
  obtain rfl := part_unique admissible among among' (Part.type_name_mem_claimed there)
    (name' ▸ Part.type_name_mem_claimed there')
  have indices : id.index ≠ id'.index := by
    intro equal
    rcases id with ⟨_, index⟩
    rcases id' with ⟨_, index'⟩
    exact other (by simp_all)
  have distinct := (List.nodup_flatMap.mp (List.Nodup.of_append_right admissible.claims)).1
  -- a wrapper shares its name with no other type, so both types are registered ones
  have registered : ∀ {i j : Nat} {type type' : NamedType}, i ≠ j ->
      part.wrapped.types[i]? = some type -> part.wrapped.types[j]? = some type' ->
      type'.name = type.name -> part.registry.types[i]? = some type := by
    intro i j type type' apart here there same
    rcases Part.type_cases here with own | ⟨number, fields, rfl, wraps, rfl⟩
    · exact own
    · exact absurd (Part.wrapper_name_unique (distinct part among) wraps there same).symm apart
  obtain ⟨key, entry, named, _⟩ :=
    part.orderly.entry_of_type (registered indices there there' name')
  obtain ⟨key', entry', named', _⟩ :=
    part.orderly.entry_of_type (registered indices.symm there' there name'.symm)
  refine ⟨part, among, key, List.mem_map_of_mem (List.mem_of_getElem? entry), key',
    List.mem_map_of_mem (List.mem_of_getElem? entry'), ?_, ?_, ?_⟩
  · rintro rfl
    have inside : id.index < (part.registry.entries.map Prod.fst).length := by
      simpa using (List.getElem?_eq_some_iff.mp entry).choose
    exact indices ((List.getElem?_inj inside part.orderly.keys).mp (by simp [entry, entry']))
  · rw [← named, name]
  · rw [← named', name', name]

end Parts

/-! ## Why joining fails -/

variable {namespaces : List (String × EndpointSet)}

/-- A join whose parts can be joined fails only at two keys of one part that give one name. -/
theorem doubles_of_joined {parts : List Part} {fault : Fault}
    (assembles : List.Forall₂ Assembles (ordered namespaces) parts)
    (admissible : Admissible parts) (some' : namespaces ≠ [])
    (failed : joined namespaces = .error fault) :
    ∃ name, fault = .repeatedType name ∧ ∃ part ∈ parts, Doubles part.registry name := by
  rw [joined_of_admissible some' assembles admissible] at failed
  have closed := closed_facadeOf admissible
  obtain ⟨name, first, second, rfl, different, reached, reached', named, named'⟩ :=
    Facade.make_eq_error closed failed
  have doubles := doubles_of_clash admissible (Facade.known_of_reachable closed reached)
    (Facade.known_of_reachable closed reached') different (named.trans named'.symm)
  exact ⟨name, rfl, named ▸ doubles⟩

/--
Why joining fails with a fault that is not one of construction: at a namespace
that is refused when it is assembled, for its schemas or for an id too long to be told,
that is named like a type by which a schema describes itself, or that has two keys
that give one name.
-/
inductive Unclaimed (entry : String × EndpointSet) : Fault -> Prop
  | refused {fault : Fault} (failed : assembled (some entry.1) entry.2 = .error fault)
      (mapping : Mapping.Refuses fault) : Unclaimed entry fault
  | untold (failed : assembled (some entry.1) entry.2 = .error .badNumeral) :
      Unclaimed entry .badNumeral
  | reserved (described : Name.ofText entry.1 ∈ introspectionNames) :
      Unclaimed entry (.reservedType (Name.ofText entry.1))
  | doubled {fields : RootFields} {registry : Registry} {name : String}
      (made : assembled (some entry.1) entry.2 = .ok (fields, registry))
      (doubles : Doubles registry name) : Unclaimed entry (.repeatedType name)

theorem Declines.unclaimed {entry : String × EndpointSet} {fault : Fault}
    (h : Declines entry fault) (other : fault.family ≠ .construction) : Unclaimed entry fault := by
  rcases h with construction | failed | ⟨part, made, wrapper, member, described, rfl⟩
  · exact absurd construction other
  · rcases (assembled_fails failed).resolve_left other with rfl | mapping
    · exact .untold failed
    · exact .refused failed mapping
  · have named := (name_of_wrapper member described).trans made.name.symm
    rw [named] at described ⊢
    exact .reserved described

theorem joined_eq_error {fault : Fault} (failed : joined namespaces = .error fault)
    (other : fault.family ≠ .construction) : ∃ entry ∈ namespaces, Unclaimed entry fault := by
  by_cases some' : namespaces = []
  · rw [joined, some', List.isEmpty_nil, if_pos rfl] at failed
    cases failed
    exact absurd rfl other
  rcases joined_cases namespaces with ⟨parts, assembles, admissible⟩ | ⟨fault', failed', cause⟩
  · obtain ⟨name, rfl, part, among, doubles⟩ :=
      doubles_of_joined assembles admissible some' failed
    obtain ⟨entry, member, made⟩ := entry_of_part assembles among
    exact ⟨entry, List.mem_mergeSort.mp member, .doubled made.2 doubles⟩
  · obtain rfl : fault' = fault := Except.error.inj (failed'.symm.trans failed)
    rcases cause with rfl | ⟨entry, member, declines⟩
    · exact absurd rfl other
    · exact ⟨entry, member, declines.unclaimed other⟩

theorem assembles_unique {entry : String × EndpointSet} {part other : Part}
    (h : Assembles entry part) (h' : Assembles entry other) : part = other := by
  rcases part with ⟨realm, fields, registry⟩
  rcases other with ⟨realm', fields', registry'⟩
  obtain ⟨rfl, made⟩ := h
  obtain ⟨rfl, made'⟩ := h'
  cases made.symm.trans made'
  rfl

/-- Names that are claimed twice are found, unless a namespace is refused or reserved before. -/
theorem construction_of_clash {parts : List Part}
    (assembles : List.Forall₂ Assembles (ordered namespaces) parts)
    (plain : ∀ entry ∈ namespaces, Name.ofText entry.1 ∉ introspectionNames)
    (clash : ¬ (firstOwners.map Prod.fst ++ parts.flatMap Part.claimed).Nodup) :
    ∃ fault, joined namespaces = .error fault ∧ fault.family = .construction := by
  rcases joined_cases namespaces with ⟨parts', assembles', admissible⟩ | ⟨fault, failed, cause⟩
  · have unique : Relator.RightUnique Assembles := fun _ _ _ => assembles_unique
    obtain rfl := List.right_unique_forall₂' unique assembles' assembles
    exact absurd admissible.claims clash
  · refine ⟨fault, failed, ?_⟩
    rcases cause with rfl | ⟨entry, member, construction | refused | ⟨part, made, wrapper, found⟩⟩
    · rfl
    · exact construction
    · obtain ⟨part, _, made⟩ := part_of_entry assembles (List.mem_mergeSort.mpr member)
      cases made.2.symm.trans refused
    · have described := found.2.1
      rw [name_of_wrapper found.1 described, ← made.name] at described
      exact absurd described (plain entry member)

/--
When joining ends well, and how it fails.  It ends well if and only if all
namespaces can be assembled, their claimed names are all different and no
owner's or reserved, and the names of all types that the facade reaches are
apart.  A fault that is not one of construction has one of three causes at one
namespace, none of them a clash between namespaces.  Whenever the claimed names
of assembled namespaces, none named like a type by which a schema describes
itself, are not all different, joining fails with a fault of construction.
-/
theorem join_clashes (namespaces : List (String × EndpointSet)) (log : Log) :
    ((∃ facade log', join namespaces log = .ok facade log') ↔ namespaces ≠ [] ∧
      ∃ parts, List.Forall₂ Assembles (ordered namespaces) parts ∧ Admissible parts ∧
        (facadeOf parts).NamesApart) ∧
    (∀ facade log', join namespaces log = .ok facade log' -> facade.NamesApart) ∧
    (∀ fault log', join namespaces log = .error fault log' -> fault.family ≠ .construction ->
      ∃ entry ∈ namespaces, Unclaimed entry fault) ∧
    (∀ parts, List.Forall₂ Assembles (ordered namespaces) parts ->
      (∀ entry ∈ namespaces, Name.ofText entry.1 ∉ introspectionNames) ->
      ¬ (firstOwners.map Prod.fst ++ parts.flatMap Part.claimed).Nodup ->
      ∃ fault log', join namespaces log = .error fault log' ∧ fault.family = .construction) := by
  obtain ⟨log₁, gives⟩ := join_gives namespaces log
  refine ⟨?_, ?_, ?_, ?_⟩
  · constructor
    · rintro ⟨facade, log', returns⟩
      obtain ⟨some', parts, assembles, admissible, rfl, apart⟩ :=
        joined_eq_ok.mp ((join_gives namespaces).ok returns)
      exact ⟨some', parts, assembles, admissible, apart⟩
    · rintro ⟨some', parts, assembles, admissible, apart⟩
      rw [joined_eq_ok.mpr ⟨some', parts, assembles, admissible, rfl, apart⟩] at gives
      exact ⟨_, log₁, gives⟩
  · intro facade log' returns
    obtain ⟨_, parts, _, _, rfl, apart⟩ := joined_eq_ok.mp ((join_gives namespaces).ok returns)
    exact apart
  · intro fault log' failed other
    exact joined_eq_error ((join_gives namespaces).error failed) other
  · intro parts assembles plain clash
    obtain ⟨fault, failed, construction⟩ := construction_of_clash assembles plain clash
    rw [failed] at gives
    exact ⟨fault, log₁, gives, construction⟩

/-- An object and an enumeration of one title in a namespace are claimed as one name. -/
theorem join_clashes_zoo :
    ∃ log fields registry, join [("zoo", pets)] #[] = .error (.repeatedType "zoo_Pet") log ∧
      assembled (some "zoo") pets = .ok (fields, registry) ∧ Doubles registry "zoo_Pet" := by
  have refused : (match join [("zoo", pets)] #[] with
      | .error fault _ => decide (fault = .repeatedType "zoo_Pet")
      | .ok _ _ => false) = true := by decide +kernel
  cases result : join [("zoo", pets)] #[] with
  | ok facade log => simp [result] at refused
  | error fault log =>
      simp only [result, decide_eq_true_eq] at refused
      subst refused
      obtain ⟨entry, member, unclaimed⟩ :=
        (join_clashes [("zoo", pets)] #[]).2.2.1 _ log result (by decide)
      obtain rfl := List.mem_singleton.mp member
      cases unclaimed with
      | refused _ mapping =>
          rcases mapping with kind | endless | ⟨_, _, reserved⟩
          · cases kind
          · cases endless
          · cases reserved
      | doubled made doubles => exact ⟨log, _, _, rfl, made, doubles⟩

end Assembly

end GraphFacade
