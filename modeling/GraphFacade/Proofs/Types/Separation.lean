import GraphFacade.Proofs.Endpoint.KeyOrder
import GraphFacade.Proofs.Text.Order
import GraphFacade.Proofs.Types.Parts

/-!
# Namespaces share nothing but scalars

A facade that joining makes has the fields of each namespace under its name, in
the order of the namespaces.  No type belongs to two of them, and each namespace
gives the same when it is joined alone.
-/

namespace GraphFacade

namespace Assembly

open Registry Steps

/-! ## Which fields there are -/

theorem length_fieldsOf {fields fields' : Entries Field} {endpoints : EndpointSet}
    {w w' : Workshop} (h : fieldsOf fields endpoints w = .ok fields' w') :
    fields'.length = fields.length + endpoints.length := by
  induction endpoints generalizing fields w with
  | nil =>
      simp only [fieldsOf, pure_eq_ok] at h
      rw [h.1]
      rfl
  | cons entry rest ih =>
      rcases entry with ⟨key, endpoint⟩
      obtain ⟨name, _, _, field, w₁, _, others⟩ := fieldsOf_cons_ok.mp h
      have counted := ih others
      simp only [List.length_append, List.length_cons, List.length_nil] at counted ⊢
      omega

theorem partition_isEmpty {endpoints : EndpointSet} {mutation : Bool} {w w' : Workshop}
    {fields : Entries Field} (h : partition endpoints mutation w = .ok fields w') :
    fields.isEmpty = !endpoints.any fun entry => entry.2.mutation == mutation := by
  obtain ⟨sorted, result, made⟩ := partition_eq_ok.mp h
  have counted := length_fieldsOf made
  rw [List.length_nil, Nat.zero_add] at counted
  rw [← (EndpointSet.sorted_perm result).any_eq, Bool.eq_iff_iff, List.isEmpty_iff,
    ← List.length_eq_zero_iff, counted, List.length_eq_zero_iff, List.filter_eq_nil_iff]
  simp

def changes (entry : String × EndpointSet) : Bool :=
  entry.2.any fun endpoint => endpoint.2.mutation

variable {entry : String × EndpointSet} {part : Part}

theorem Assembles.mutates (h : Assembles entry part) : part.mutates = changes entry := by
  obtain ⟨w, ended, _⟩ := assembled_eq_ok.mp h.2
  obtain ⟨w₁, _, _, mutations⟩ := assemble_eq_ok.mp ended
  have empty := partition_isEmpty mutations
  simp only [beq_true] at empty
  rw [Part.mutates, empty, Bool.not_not, changes]

/-! ## The order of namespaces -/

section Order

variable {namespaces : List (String × EndpointSet)} {parts : List Part}

theorem ordered_strict
    (distinct : ((ordered namespaces).map fun entry => Text.codes entry.1.toList).Nodup) :
    (ordered namespaces).Pairwise fun first second => Text.before first.1 second.1 := by
  have sorted : (ordered namespaces).Pairwise fun first second =>
      !Text.before second.1 first.1 := by
    refine List.pairwise_mergeSort (fun a b c early late => ?_) (fun a b => ?_) namespaces
    · simp only [Bool.not_eq_true'] at early late ⊢
      exact Text.not_before_trans early late
    · simpa using Text.not_before_total a.1 b.1
  refine sorted.imp₂ (fun first second early different => ?_) (List.pairwise_map.mp distinct)
  by_contra late
  simp only [Bool.not_eq_true', Bool.not_eq_true] at early late
  exact different (Text.codes_eq_of_not_before early late)

theorem ordered_pairwise
    (distinct : ((ordered namespaces).map fun entry => Name.ofText entry.1).Nodup) :
    (ordered namespaces).Pairwise fun first second => Text.before first.1 second.1 := by
  have texts := (List.pairwise_map.mp distinct).imp fun different same =>
    different (Name.ofText_congr same)
  exact ordered_strict (List.pairwise_map.mpr texts)

theorem names_of_assembles (assembles : List.Forall₂ Assembles namespaces parts) :
    parts.map Part.name = namespaces.map fun entry => Name.ofText entry.1 :=
  (map_eq_of_forall₂ assembles fun _ _ => Assembles.name).symm

theorem query_keys (parts : List Part) :
    (facadeOf parts).query.map Prod.fst = parts.map Part.name :=
  Joined.query_ofParts parts

theorem mutation_keys (assembles : List.Forall₂ Assembles namespaces parts) :
    (facadeOf parts).mutation.map Prod.fst =
      (namespaces.filter changes).map fun entry => Name.ofText entry.1 := by
  induction assembles with
  | nil => rfl
  | @cons entry part rest others first _ ih =>
      simp only [facadeOf, List.flatMap_cons, List.map_append] at ih ⊢
      rw [ih, Part.mutationFields, first.mutates, List.filter_cons]
      cases changes entry <;> simp [first.name]

end Order

/-! ## What the names of types tell -/

section Names

variable {parts : List Part} {id id' : TypeId} {type type' : NamedType}

/-- Types of one name belong to one part, and neither is a wrapper. -/
theorem types_of_one_name (admissible : Admissible parts)
    (found : (facadeOf parts).type? id = some type)
    (found' : (facadeOf parts).type? id' = some type') (same : type.name = type'.name) :
    id.realm = id'.realm ∧ ((facadeOf parts).Wraps id -> id = id') := by
  obtain ⟨part, among, realm, there⟩ := part_of_type? found
  obtain ⟨other, among', realm', there'⟩ := part_of_type? found'
  obtain rfl := part_unique admissible among among' (Part.type_name_mem_claimed there)
    (same ▸ Part.type_name_mem_claimed there')
  refine ⟨realm.trans realm'.symm, ?_⟩
  rintro ⟨entry, member, leads⟩
  obtain ⟨owner, among'', own⟩ := part_of_field member
  obtain ⟨number, fields, wraps, rfl⟩ := Part.field_cases own
  obtain rfl : id = ⟨some owner.realm, owner.registry.types.size + number⟩ :=
    (TypeRef.named.inj leads).symm
  obtain rfl := part_of_realm admissible among'' among (Option.some.inj realm)
  have distinct := (List.nodup_flatMap.mp (List.Nodup.of_append_right admissible.claims)).1
  have named : type = Part.wrapper fields :=
    Option.some.inj (there.symm.trans (Part.type_wrapper wraps))
  have place := Part.wrapper_name_unique (distinct owner among) wraps there'
    (same.symm.trans (by rw [named]; rfl))
  rcases id' with ⟨realm'', index⟩
  simp only at realm' place
  rw [realm', place]

theorem type_name_free (admissible : Admissible parts)
    (found : (facadeOf parts).type? id = some type) : type.name ∉ firstOwners.map Prod.fst := by
  obtain ⟨part, among, _, there⟩ := part_of_type? found
  exact fun owned => List.disjoint_of_nodup_append admissible.claims owned
    (List.mem_flatMap.mpr ⟨part, among, Part.type_name_mem_claimed there⟩)

end Names

/-! ## One facade and many -/

/--
Under a name, two facades are the same: in its fields, in the members that these
lead to, and in the definitions of all types among them.
-/
structure SameUnder (first second : Facade) (name : String) : Prop where
  query : ∀ field, (name, field) ∈ first.query ↔ (name, field) ∈ second.query
  mutation : ∀ field, (name, field) ∈ first.mutation ↔ (name, field) ∈ second.mutation
  members : ∀ member, first.Under name member ↔ second.Under name member
  types : ∀ id, first.Under name (.named id) ->
    ∃ type, first.type? id = some type ∧ second.type? id = some type

theorem sameUnder_alone {parts : List Part} {part : Part} (admissible : Admissible parts)
    (among : part ∈ parts) : SameUnder (facadeOf parts) (facadeOf [part]) part.name := by
  have alone := admissible_alone admissible among
  refine ⟨?_, ?_, fun member => under_facadeOf admissible among, ?_⟩
  · intro field
    rw [mem_query_facadeOf admissible among, mem_query_facadeOf alone List.mem_cons_self]
  · intro field
    rw [mem_mutation_facadeOf admissible among, mem_mutation_facadeOf alone List.mem_cons_self]
  · rintro ⟨realm, index⟩ under
    obtain ⟨rfl, inside⟩ := owns_of_under admissible among under
    exact ⟨part.wrapped.types[index], by simp [type?_facadeOf admissible among, inside],
      by simp [type?_facadeOf alone List.mem_cons_self, inside]⟩

/-- A namespace whose part can be joined with others can be joined alone, after any reports. -/
theorem join_alone {parts : List Part} {part : Part} {entry : String × EndpointSet}
    (admissible : Admissible parts) (among : part ∈ parts)
    (apart : (facadeOf parts).NamesApart) (assembles : Assembles entry part) (log : Log) :
    ∃ log', join [entry] log = .ok (facadeOf [part]) log' := by
  have alone : joined [entry] = .ok (facadeOf [part]) := by
    refine joined_eq_ok.mpr ⟨by simp, [part], ?_, admissible_alone admissible among, rfl,
      namesApart_alone admissible among apart⟩
    simpa [ordered] using assembles
  obtain ⟨log', gives⟩ := join_gives [entry] log
  rw [alone] at gives
  exact ⟨log', gives⟩

/--
What holds of every facade that joining makes.  The fields of its roots are
those of the namespaces in their order, each named after its namespace; a
mutation root is there if some namespace changes something, with a field for
each such one.  What is under the name of a namespace belongs to its realm, so
two of them share nothing but the JSON scalar.  Two types of one name are of one
realm and no wrappers, and none has the name of a root or a scalar.  Each
namespace can be joined alone, after any reports, and then its fields, what they
lead to and all these types are the same.
-/
theorem join_separates {namespaces : List (String × EndpointSet)} {log log' : Log}
    {facade : Facade} (returns : join namespaces log = .ok facade log') :
    (∃ order : List (String × EndpointSet), order.Perm namespaces ∧
      (order.Pairwise fun first second => Text.before first.1 second.1) ∧
      facade.query.map Prod.fst = order.map (fun entry => Name.ofText entry.1) ∧
      facade.mutation.map Prod.fst =
        (order.filter changes).map fun entry => Name.ofText entry.1) ∧
    (facade.query.map Prod.fst).Nodup ∧ (facade.mutation.map Prod.fst).Nodup ∧
    (.mutation ∈ facade.roots ↔ ∃ entry ∈ namespaces, changes entry) ∧
    (∀ entry ∈ namespaces, ∀ id, facade.Under (Name.ofText entry.1) (.named id) ->
      id.realm = some entry.1) ∧
    (∀ first ∈ namespaces, ∀ second ∈ namespaces, first.1 ≠ second.1 -> ∀ member,
      facade.Under (Name.ofText first.1) member -> facade.Under (Name.ofText second.1) member ->
      member = .json) ∧
    (∀ id id' type type', facade.type? id = some type -> facade.type? id' = some type' ->
      type.name = type'.name -> id.realm = id'.realm ∧ (facade.Wraps id -> id = id')) ∧
    (∀ id type, facade.type? id = some type -> type.name ∉
      [Facade.queryName, Facade.mutationName, jsonScalarName] ++
        BuiltinScalar.all.map BuiltinScalar.name) ∧
    ∀ entry ∈ namespaces, ∀ log₁, ∃ alone log₂, join [entry] log₁ = .ok alone log₂ ∧
      SameUnder facade alone (Name.ofText entry.1) := by
  obtain ⟨_, parts, assembles, admissible, rfl, apart⟩ :=
    joined_eq_ok.mp ((join_gives namespaces).ok returns)
  have moved : (ordered namespaces).Perm namespaces := List.mergeSort_perm _ _
  have queryKeys : (facadeOf parts).query.map Prod.fst =
      (ordered namespaces).map fun entry => Name.ofText entry.1 :=
    (query_keys parts).trans (names_of_assembles assembles)
  have mutationKeys := mutation_keys assembles
  have distinct : ((ordered namespaces).map fun entry => Name.ofText entry.1).Nodup := by
    rw [← names_of_assembles assembles]
    exact admissible.names
  have partOf : ∀ entry ∈ namespaces, ∃ part ∈ parts, Assembles entry part := fun entry member =>
    part_of_entry assembles (moved.mem_iff.mpr member)
  have realmOf : ∀ entry ∈ namespaces, ∀ id,
      (facadeOf parts).Under (Name.ofText entry.1) (.named id) -> id.realm = some entry.1 := by
    intro entry member id under
    obtain ⟨part, among, made⟩ := partOf entry member
    rw [made.name] at under
    rw [← made.1]
    exact (owns_of_under admissible among under).1
  refine ⟨⟨ordered namespaces, moved, ordered_pairwise distinct, queryKeys, mutationKeys⟩,
    queryKeys ▸ distinct, mutationKeys ▸ distinct.sublist (List.filter_sublist.map _), ?_, realmOf,
    ?_, fun _ _ _ _ => types_of_one_name admissible, fun _ _ => type_name_free admissible, ?_⟩
  · rw [Facade.mem_roots]
    simp only [reduceCtorEq, true_and, false_or]
    rw [ne_eq, ← List.map_eq_nil_iff (f := Prod.fst), mutationKeys]
    simp [moved.mem_iff]
  · intro first member second member' different shared under under'
    cases shared with
    | json => rfl
    | named id =>
        have realms := (realmOf first member id under).symm.trans (realmOf second member' id under')
        exact absurd (Option.some.inj realms) different
    | _ =>
        obtain ⟨part, among, made⟩ := partOf first member
        rw [made.name] at under
        exact (owns_of_under admissible among under).elim
  · intro entry member log₁
    obtain ⟨part, among, made⟩ := partOf entry member
    obtain ⟨log₂, gives⟩ := join_alone admissible among apart made log₁
    exact ⟨_, log₂, gives, made.name ▸ sameUnder_alone admissible among⟩

/-- Two namespaces whose endpoints answer with different objects of one title. -/
def shops : List (String × EndpointSet) :=
  let item (property : String) (kind : ScalarKind) : EndpointSet := [(.text "item", {
    operationId := .text "item", method := some .get, path := some "/item", mutation := false
    description := .null
    response := some ⟨.object ⟨0, some (.text "Item"), .null⟩ 0,
      #[⟨[], [(property, .scalar ⟨1, none, .null⟩ kind)]⟩]⟩
    parameters := [], baseUrl := .null })]
  [("shop", item "price" .number), ("stock", item "amount" .integer)]

/-- Each of them keeps its own type of the title. -/
theorem join_separates_shops :
    ∃ facade log, join shops #[] = .ok facade log ∧
      (facade.type? ⟨some "shop", 0⟩).map NamedType.name = some "shop_Item" ∧
      (facade.type? ⟨some "stock", 0⟩).map NamedType.name = some "stock_Item" ∧
      ∀ member, facade.Under "shop" member -> facade.Under "stock" member -> member = .json := by
  have order : ordered shops = shops := List.mergeSort_of_pairwise (by decide +kernel)
  have there : (match shops.foldlM joinedOne {} >>= fun joined =>
        Facade.make joined.realms joined.query joined.mutation with
      | .ok facade =>
          (facade.type? ⟨some "shop", 0⟩).map NamedType.name = some "shop_Item" &&
            (facade.type? ⟨some "stock", 0⟩).map NamedType.name = some "stock_Item"
      | .error _ => false) = true := by decide +kernel
  obtain ⟨log, gives⟩ := join_gives shops #[]
  have plain : joined shops = shops.foldlM joinedOne {} >>= fun joined =>
      Facade.make joined.realms joined.query joined.mutation := by
    rw [joined, order]
    rfl
  rw [← plain] at there
  cases made : joined shops with
  | error fault => simp [made] at there
  | ok facade =>
      simp only [made, Bool.and_eq_true, decide_eq_true_eq] at there gives
      obtain ⟨_, _, _, _, _, apart, _⟩ := join_separates gives
      have separate := apart _ (List.mem_cons_self (l := shops.tail)) _
        (List.mem_cons_of_mem _ List.mem_cons_self) (by decide +kernel)
      rw [show Name.ofText "shop" = "shop" by decide +kernel,
        show Name.ofText "stock" = "stock" by decide +kernel] at separate
      exact ⟨facade, log, gives, there.1, there.2, separate⟩

end Assembly

end GraphFacade
