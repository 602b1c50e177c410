import GraphFacade.Proofs.Types.Joining
import Mathlib.Data.List.Pairwise

/-!
# The facade of several parts

A part's fields lead to the types of that part and to the JSON scalar, nowhere
else, and no name is claimed by two parts.  So what is below its fields in the
facade of all parts is the same as in the facade of the part alone.
-/

namespace GraphFacade

namespace Registry

theorem Orderly.name_mem_typeNames {r : Registry} (h : Orderly r) {i : Nat} {type : NamedType}
    (found : r.types[i]? = some type) : type.name ∈ r.typeNames := by
  obtain ⟨key, place, _⟩ := h.entry_of_type found
  refine List.mem_eraseDups.mpr (List.mem_map.mpr ⟨_, List.mem_of_getElem? place, ?_⟩)
  simp [nameOf, type?, found]

end Registry

namespace Facade

def heads (fields : Entries Field) : List Member :=
  (NamedType.object "" .null fields).references.filterMap member?

/-- The fields of a name lead to a member in some number of steps. -/
def Under (facade : Facade) (name : String) (member : Member) : Prop :=
  ∃ field, ((name, field) ∈ facade.query ∨ (name, field) ∈ facade.mutation) ∧
    ∃ head ∈ heads [(name, field)], Relation.ReflTransGen facade.Leads head member

theorem mem_heads {fields : Entries Field} {head : Member} :
    head ∈ heads fields ↔ ∃ entry ∈ fields, head ∈ heads [entry] := by
  simp only [heads, NamedType.references, List.mem_filterMap, List.mem_flatMap,
    List.mem_singleton]
  constructor
  · rintro ⟨ref, ⟨entry, there, among⟩, leads⟩
    exact ⟨entry, there, ref, ⟨entry, rfl, among⟩, leads⟩
  · rintro ⟨entry, there, ref, ⟨_, rfl, among⟩, leads⟩
    exact ⟨ref, ⟨_, there, among⟩, leads⟩

theorem heads_subset {fields more : Entries Field} (h : fields ⊆ more) :
    heads fields ⊆ heads more := by
  intro head leads
  obtain ⟨entry, there, leads'⟩ := mem_heads.mp leads
  exact mem_heads.mpr ⟨entry, h there, leads'⟩

theorem mem_roots {facade : Facade} {root : Member} :
    root ∈ facade.roots ↔ root = .query ∨ root = .mutation ∧ facade.mutation ≠ [] := by
  unfold roots
  cases facade.mutation <;> simp

def Wraps (facade : Facade) (id : TypeId) : Prop :=
  ∃ entry, (entry ∈ facade.query ∨ entry ∈ facade.mutation) ∧ entry.2.type = .named id

end Facade

namespace Assembly

open Registry

namespace Part

variable {part : Part} {i : Nat} {type : NamedType}

theorem type_cases (found : part.wrapped.types[i]? = some type) :
    part.registry.types[i]? = some type ∨
      ∃ number fields, i = part.registry.types.size + number ∧
        part.wrappers[number]? = some fields ∧ type = wrapper fields := by
  simp only [wrapped, Array.getElem?_append] at found
  split at found
  · exact .inl found
  · rename_i beyond
    obtain ⟨fields, there, same⟩ : ∃ fields,
        part.wrappers[i - part.registry.types.size]? = some fields ∧ wrapper fields = type := by
      simpa using found
    exact .inr ⟨i - part.registry.types.size, fields, by omega, there, same.symm⟩

theorem type_wrapper {number : Nat} {fields : String × Entries Field}
    (there : part.wrappers[number]? = some fields) :
    part.wrapped.types[part.registry.types.size + number]? = some (wrapper fields) := by
  simp [wrapped, Array.getElem?_append, there]

theorem type_name_mem_claimed (found : part.wrapped.types[i]? = some type) :
    type.name ∈ part.claimed := by
  rcases type_cases found with registered | ⟨number, fields, _, there, rfl⟩
  · rw [claimed_eq]
    refine List.mem_append_right _ (List.mem_mergeSort.mpr ?_)
    exact part.orderly.name_mem_typeNames registered
  · exact wrapper_mem_claimed (List.mem_of_getElem? there)

theorem wrapper_name_unique (distinct : part.claimed.Nodup) {number : Nat}
    {fields : String × Entries Field} (there : part.wrappers[number]? = some fields)
    (found : part.wrapped.types[i]? = some type) (same : type.name = fields.1) :
    i = part.registry.types.size + number := by
  rw [claimed_eq, List.nodup_append] at distinct
  obtain ⟨wrappers, _, apart⟩ := distinct
  rcases type_cases found with registered | ⟨number', fields', rfl, there', rfl⟩
  · refine absurd same.symm (apart _ (List.mem_map_of_mem (List.mem_of_getElem? there)) _ ?_)
    exact List.mem_mergeSort.mpr (part.orderly.name_mem_typeNames registered)
  · have inside : number' < (part.wrappers.map Prod.fst).length := by
      simpa using (List.getElem?_eq_some_iff.mp there').choose
    have named : fields'.1 = fields.1 := same
    rw [(List.getElem?_inj (j := number) inside wrappers).mp (by simp [there, there', named])]

/-! ## What a part leads to -/

def Owns (part : Part) : Member -> Prop
  | .json => True
  | .named id => id.realm = some part.realm ∧ id.index < part.wrapped.types.size
  | _ => False

theorem owns_of_holds {ref : TypeRef} {member : Member} (holds : part.registry.Holds ref)
    (leads : Facade.member? ref = some member) : part.Owns member := by
  rcases Facade.member?_cases leads with ⟨id, rfl, named⟩ | rfl
  · obtain ⟨realm, inside⟩ := holds id named
    refine ⟨realm.trans part.tagged, ?_⟩
    simp only [wrapped, Array.size_append]
    omega
  · trivial

theorem owns_of_references {ref : TypeRef} {member : Member}
    (found : part.wrapped.types[i]? = some type) (there : ref ∈ type.references)
    (leads : Facade.member? ref = some member) : part.Owns member := by
  refine owns_of_holds ?_ leads
  rcases type_cases found with registered | ⟨number, fields, _, among, rfl⟩
  · exact part.orderly.closed registered ref there
  · simp only [wrappers] at among
    rcases List.mem_cons.mp (List.mem_of_getElem? among) with rfl | later
    · exact part.query ref there
    · split at later
      · rw [List.mem_singleton.mp later] at there
        exact part.mutation ref there
      · simp at later

theorem field_cases {entry : String × Field}
    (among : entry ∈ part.queryFields ∨ entry ∈ part.mutationFields) :
    ∃ number fields, part.wrappers[number]? = some fields ∧
      entry = (part.name, part.field number) := by
  rcases among with query | mutation
  · exact ⟨0, (part.name, part.fields.query), rfl, List.mem_singleton.mp query⟩
  · unfold mutationFields at mutation
    split at mutation
    · rename_i mutates
      exact ⟨1, (part.name ++ "_mutation", part.fields.mutation), by simp [wrappers, mutates],
        List.mem_singleton.mp mutation⟩
    · simp at mutation

theorem name_of_field {entry : String × Field}
    (among : entry ∈ part.queryFields ∨ entry ∈ part.mutationFields) : entry.1 = part.name := by
  obtain ⟨_, _, _, rfl⟩ := field_cases among
  rfl

theorem owns_of_heads {entry : String × Field} {head : Member}
    (among : entry ∈ part.queryFields ∨ entry ∈ part.mutationFields)
    (leads : head ∈ Facade.heads [entry]) : part.Owns head := by
  obtain ⟨number, fields, there, rfl⟩ := field_cases among
  obtain rfl : head = .named ⟨some part.realm, part.registry.types.size + number⟩ := by
    simpa [Facade.heads, NamedType.references, field, Facade.member?, TypeRef.unwrapped]
      using leads
  exact ⟨rfl, (Array.getElem?_eq_some_iff.mp (type_wrapper there)).choose⟩

end Part

section Facade

variable {parts : List Part} {part : Part}

theorem admissible_alone (admissible : Admissible parts) (among : part ∈ parts) :
    Admissible [part] :=
  admissible.sublist (List.singleton_sublist.mpr among)

theorem part_unique (admissible : Admissible parts) {other : Part} (among : part ∈ parts)
    (among' : other ∈ parts) {name : String} (claims : name ∈ part.claimed)
    (claims' : name ∈ other.claimed) : part = other := by
  have apart := (List.nodup_flatMap.mp (List.Nodup.of_append_right admissible.claims)).2
  have : Std.Symm (Function.onFun List.Disjoint Part.claimed) :=
    ⟨fun _ _ h _ left right => h right left⟩
  by_contra different
  exact apart.forall among among' different claims claims'

theorem part_of_realm (admissible : Admissible parts) {other : Part} (among : part ∈ parts)
    (among' : other ∈ parts) (same : part.realm = other.realm) : part = other :=
  part_unique admissible among among' part.name_mem_claimed
    (by rw [Part.name, same]; exact other.name_mem_claimed)

theorem type?_facadeOf (admissible : Admissible parts) (among : part ∈ parts) (i : Nat) :
    (facadeOf parts).type? ⟨some part.realm, i⟩ = part.wrapped.types[i]? := by
  have own : part.wrapped.type? ⟨some part.realm, i⟩ = part.wrapped.types[i]? :=
    if_pos part.tagged.symm
  -- realms are asked in turn, and no other part's registry has the realm of this one
  have others : ∀ other ∈ parts, ∀ type,
      other.wrapped.type? ⟨some part.realm, i⟩ = some type -> other = part := by
    intro other among' type found
    unfold Registry.type? at found
    split at found
    · rename_i same
      have realms : some part.realm = some other.realm := same.trans other.tagged
      exact part_of_realm admissible among' among (Option.some.inj realms).symm
    · simp at found
  unfold Facade.type? facadeOf
  cases found : (parts.map Part.wrapped).findSome? fun realm =>
      realm.type? ⟨some part.realm, i⟩ with
  | none =>
      rw [List.findSome?_eq_none_iff] at found
      rw [← own, found _ (List.mem_map_of_mem among)]
  | some type =>
      obtain ⟨realm, member, there⟩ := List.exists_of_findSome?_eq_some found
      obtain ⟨other, among', rfl⟩ := List.mem_map.mp member
      obtain rfl := others other among' type there
      rw [← own, there]

theorem part_of_type? {id : TypeId} {type : NamedType}
    (found : (facadeOf parts).type? id = some type) :
    ∃ part ∈ parts, id.realm = some part.realm ∧ part.wrapped.types[id.index]? = some type := by
  obtain ⟨realm, member, there⟩ := List.exists_of_findSome?_eq_some found
  obtain ⟨part, among, rfl⟩ := List.mem_map.mp member
  unfold Registry.type? at there
  split at there
  · rename_i same
    exact ⟨part, among, same.trans part.tagged, there⟩
  · simp at there

theorem known_of_owns (admissible : Admissible parts) (among : part ∈ parts) {member : Member}
    (owns : part.Owns member) : (facadeOf parts).Known member := by
  cases member with
  | named id =>
      rcases id with ⟨realm, index⟩
      obtain ⟨rfl, inside⟩ := owns
      simp [Facade.Known, type?_facadeOf admissible among, inside]
  | _ => trivial

theorem memberReferences_facadeOf (admissible : Admissible parts) (among : part ∈ parts)
    {member : Member} (owns : part.Owns member) :
    (facadeOf parts).memberReferences member = (facadeOf [part]).memberReferences member := by
  have alone := admissible_alone admissible among
  cases member with
  | named id =>
      rcases id with ⟨realm, index⟩
      obtain ⟨rfl, _⟩ := owns
      simp only [Facade.memberReferences, type?_facadeOf admissible among,
        type?_facadeOf alone List.mem_cons_self]
  | json => rfl
  | _ => exact owns.elim

theorem memberName_facadeOf (admissible : Admissible parts) (among : part ∈ parts)
    {member : Member} (owns : part.Owns member) :
    (facadeOf parts).memberName member = (facadeOf [part]).memberName member := by
  have alone := admissible_alone admissible among
  cases member with
  | named id =>
      rcases id with ⟨realm, index⟩
      obtain ⟨rfl, _⟩ := owns
      simp only [Facade.memberName, Facade.nameOf, type?_facadeOf admissible among,
        type?_facadeOf alone List.mem_cons_self]
  | _ => rfl

theorem leads_facadeOf (admissible : Admissible parts) (among : part ∈ parts)
    {member next : Member} (owns : part.Owns member) :
    (facadeOf parts).Leads member next ↔ (facadeOf [part]).Leads member next := by
  rw [Facade.Leads, Facade.Leads, memberReferences_facadeOf admissible among owns]

theorem owns_of_leads (admissible : Admissible parts) (among : part ∈ parts)
    {member next : Member} (owns : part.Owns member)
    (leads : (facadeOf parts).Leads member next) : part.Owns next := by
  obtain ⟨ref, there, leads'⟩ := List.mem_filterMap.mp leads
  cases member with
  | named id =>
      rcases id with ⟨realm, index⟩
      obtain ⟨rfl, inside⟩ := owns
      have found := Array.getElem?_eq_getElem inside
      simp only [Facade.memberReferences, type?_facadeOf admissible among, found, Option.map_some,
        Option.getD_some] at there
      exact Part.owns_of_references found there leads'
  | json => simp [Facade.memberReferences] at there
  | _ => exact owns.elim

theorem owns_of_path (admissible : Admissible parts) (among : part ∈ parts)
    {member next : Member} (owns : part.Owns member)
    (path : Relation.ReflTransGen (facadeOf parts).Leads member next) : part.Owns next := by
  induction path with
  | refl => exact owns
  | tail _ leads ih => exact owns_of_leads admissible among ih leads

theorem path_facadeOf (admissible : Admissible parts) (among : part ∈ parts)
    {member next : Member} (owns : part.Owns member) :
    Relation.ReflTransGen (facadeOf parts).Leads member next ↔
      Relation.ReflTransGen (facadeOf [part]).Leads member next := by
  have alone := admissible_alone admissible among
  constructor
  · intro path
    induction path with
    | refl => exact .refl
    | tail before leads ih =>
        have owns' := owns_of_path admissible among owns before
        exact ih.tail ((leads_facadeOf admissible among owns').mp leads)
  · intro path
    induction path with
    | refl => exact .refl
    | tail before leads ih =>
        have owns' := owns_of_path alone List.mem_cons_self owns before
        exact ih.tail ((leads_facadeOf admissible among owns').mpr leads)

/-! ## The roots -/

theorem part_of_field {entry : String × Field}
    (member : entry ∈ (facadeOf parts).query ∨ entry ∈ (facadeOf parts).mutation) :
    ∃ part ∈ parts, entry ∈ part.queryFields ∨ entry ∈ part.mutationFields := by
  rcases member with query | mutation
  · obtain ⟨part, among, there⟩ := List.mem_flatMap.mp query
    exact ⟨part, among, .inl there⟩
  · obtain ⟨part, among, there⟩ := List.mem_flatMap.mp mutation
    exact ⟨part, among, .inr there⟩

theorem owns_of_root {root next : Member} (isRoot : root = .query ∨ root = .mutation)
    (leads : (facadeOf parts).Leads root next) : ∃ part ∈ parts, part.Owns next := by
  have head : ∃ entry, (entry ∈ (facadeOf parts).query ∨ entry ∈ (facadeOf parts).mutation) ∧
      next ∈ Facade.heads [entry] := by
    rcases isRoot with rfl | rfl
    · obtain ⟨entry, there, leads⟩ := Facade.mem_heads.mp leads
      exact ⟨entry, .inl there, leads⟩
    · obtain ⟨entry, there, leads⟩ := Facade.mem_heads.mp leads
      exact ⟨entry, .inr there, leads⟩
  obtain ⟨entry, there, leads⟩ := head
  obtain ⟨part, among, own⟩ := part_of_field there
  exact ⟨part, among, Part.owns_of_heads own leads⟩

theorem closed_facadeOf (admissible : Admissible parts) : (facadeOf parts).Closed := by
  rintro member next leads
  have owner : ∃ part ∈ parts, part.Owns next := by
    cases member with
    | query => exact owns_of_root (.inl rfl) leads
    | mutation => exact owns_of_root (.inr rfl) leads
    | json => simp [Facade.Leads, Facade.memberReferences] at leads
    | named id =>
        cases found : (facadeOf parts).type? id with
        | none => simp [Facade.Leads, Facade.memberReferences, found] at leads
        | some type =>
            obtain ⟨part, among, realm, there⟩ := part_of_type? found
            have owns : part.Owns (.named id) :=
              ⟨realm, (Array.getElem?_eq_some_iff.mp there).choose⟩
            exact ⟨part, among, owns_of_leads admissible among owns leads⟩
  obtain ⟨part, among, owns⟩ := owner
  exact known_of_owns admissible among owns

/-! ## A part alone -/

theorem mem_flatMap_of_name (admissible : Admissible parts) (among : part ∈ parts)
    {fields : Part -> Entries Field} (named : ∀ other, ∀ entry ∈ fields other, entry.1 = other.name)
    {field : Field} :
    (part.name, field) ∈ parts.flatMap fields ↔ (part.name, field) ∈ fields part := by
  constructor
  · intro member
    obtain ⟨other, among', there⟩ := List.mem_flatMap.mp member
    have same : part.name = other.name := named other _ there
    obtain rfl := part_unique admissible among among' part.name_mem_claimed
      (same ▸ other.name_mem_claimed)
    exact there
  · exact fun there => List.mem_flatMap.mpr ⟨part, among, there⟩

theorem mem_query_facadeOf (admissible : Admissible parts) (among : part ∈ parts) {field : Field} :
    (part.name, field) ∈ (facadeOf parts).query ↔ (part.name, field) ∈ part.queryFields :=
  mem_flatMap_of_name admissible among fun _ _ there => Part.name_of_field (.inl there)

theorem mem_mutation_facadeOf (admissible : Admissible parts) (among : part ∈ parts)
    {field : Field} :
    (part.name, field) ∈ (facadeOf parts).mutation ↔
      (part.name, field) ∈ part.mutationFields :=
  mem_flatMap_of_name admissible among fun _ _ there => Part.name_of_field (.inr there)

theorem owns_of_under (admissible : Admissible parts) (among : part ∈ parts) {member : Member}
    (under : (facadeOf parts).Under part.name member) : part.Owns member := by
  obtain ⟨field, there, head, leads, path⟩ := under
  rw [mem_query_facadeOf admissible among, mem_mutation_facadeOf admissible among] at there
  exact owns_of_path admissible among (Part.owns_of_heads there leads) path

theorem under_facadeOf (admissible : Admissible parts) (among : part ∈ parts) {member : Member} :
    (facadeOf parts).Under part.name member ↔ (facadeOf [part]).Under part.name member := by
  have alone := admissible_alone admissible among
  simp only [Facade.Under, mem_query_facadeOf admissible among,
    mem_mutation_facadeOf admissible among, mem_query_facadeOf alone List.mem_cons_self,
    mem_mutation_facadeOf alone List.mem_cons_self]
  refine exists_congr fun field => and_congr_right fun there => exists_congr fun head =>
    and_congr_right fun leads => ?_
  exact path_facadeOf admissible among (Part.owns_of_heads there leads)

theorem root_of_alone (among : part ∈ parts) {root : Member}
    (member : root ∈ (facadeOf [part]).roots) :
    root ∈ (facadeOf parts).roots ∧
      ∀ next, (facadeOf [part]).Leads root next -> (facadeOf parts).Leads root next := by
  have fewer := List.singleton_sublist.mpr among
  have query : (facadeOf [part]).query ⊆ (facadeOf parts).query := (fewer.flatMap _).subset
  have mutation : (facadeOf [part]).mutation ⊆ (facadeOf parts).mutation :=
    (fewer.flatMap _).subset
  rw [Facade.mem_roots] at member ⊢
  rcases member with rfl | ⟨rfl, some'⟩
  · exact ⟨.inl rfl, fun _ leads => Facade.heads_subset query leads⟩
  · refine ⟨.inr ⟨rfl, fun none' => some' ?_⟩, fun _ leads => Facade.heads_subset mutation leads⟩
    exact List.eq_nil_of_subset_nil (none' ▸ mutation)

/-- What a part alone reaches is reached in the facade of all parts, under the same name. -/
theorem reachable_of_alone (admissible : Admissible parts) (among : part ∈ parts)
    {member : Member} (reached : (facadeOf [part]).Reachable member) :
    (facadeOf parts).Reachable member ∧
      (facadeOf parts).memberName member = (facadeOf [part]).memberName member := by
  have alone := admissible_alone admissible among
  obtain ⟨root, isRoot, path⟩ := reached
  -- the roots differ in the two facades, but not from the first step on
  obtain ⟨isRoot', leads'⟩ := root_of_alone among isRoot
  rcases path.cases_head with rfl | ⟨next, leads, later⟩
  · refine ⟨⟨root, isRoot', .refl⟩, ?_⟩
    rcases Facade.mem_roots.mp isRoot with rfl | ⟨rfl, _⟩ <;> rfl
  · have owns : part.Owns next := by
      have root' : root = .query ∨ root = .mutation :=
        (Facade.mem_roots.mp isRoot).imp_right And.left
      obtain ⟨other, among', owns⟩ := owns_of_root root' leads
      exact List.mem_singleton.mp among' ▸ owns
    have path' := (path_facadeOf admissible among owns).mpr later
    refine ⟨⟨root, isRoot', .head (leads' next leads) path'⟩, ?_⟩
    exact memberName_facadeOf admissible among (owns_of_path admissible among owns path')

theorem namesApart_alone (admissible : Admissible parts) (among : part ∈ parts)
    (apart : (facadeOf parts).NamesApart) : (facadeOf [part]).NamesApart := by
  intro first second reached reached' same
  obtain ⟨whole, named⟩ := reachable_of_alone admissible among reached
  obtain ⟨whole', named'⟩ := reachable_of_alone admissible among reached'
  exact apart first second whole whole' (by rw [named, named', same])

/-! ## Joins that end well -/

/-- A join ends well if and only if its parts can be joined and the names they reach are apart. -/
theorem joined_eq_ok {namespaces : List (String × EndpointSet)} {facade : Facade} :
    joined namespaces = .ok facade ↔ namespaces ≠ [] ∧
      ∃ parts, List.Forall₂ Assembles (ordered namespaces) parts ∧ Admissible parts ∧
        facade = facadeOf parts ∧ (facadeOf parts).NamesApart := by
  constructor
  · intro h
    have some' : namespaces ≠ [] := by
      rintro rfl
      cases h
    rcases joined_cases namespaces with ⟨parts, assembles, admissible⟩ | ⟨fault, failed, _⟩
    · rw [joined_of_admissible some' assembles admissible] at h
      exact ⟨some', parts, assembles, admissible,
        (Facade.make_eq_ok (closed_facadeOf admissible)).mp h⟩
    · rw [failed] at h
      cases h
  · rintro ⟨some', parts, assembles, admissible, same, apart⟩
    rw [joined_of_admissible some' assembles admissible]
    exact (Facade.make_eq_ok (closed_facadeOf admissible)).mpr ⟨same, apart⟩

end Facade

end Assembly

end GraphFacade
