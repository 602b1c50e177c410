import GraphFacade.Proofs.Entries
import GraphFacade.Proofs.Types.Filling

/-!
# What registered types say

After any number of mappings on one registry, each object and input type in it
says what the first node that was visited under its key says: a field for each
property name, of the type that the property's node translates to.
-/

namespace GraphFacade

namespace Mapping

open Registry Steps Workshop

/-! ## Several mappings -/

/-- A schema to map, with what the mapper is told about it. -/
structure Call where
  schema : Schema
  origin : Origin
  isInput : Bool
  hint : String
  required : Bool
  deriving Repr, Inhabited

def mapAll (calls : List Call) : Step (List TypeRef) :=
  calls.mapM fun call => mapSchema call.schema call.origin call.isInput call.hint call.required

/-- The visits of several mappings, one after another. -/
inductive History : List Call -> Registry -> List Visit -> Registry -> Prop
  | nil {r : Registry} : History [] r [] r
  | cons {call : Call} {rest : List Call} {r r₁ r₂ : Registry} {visits others : List Visit}
      {type : TypeRef}
      (first : Maps call.schema call.origin call.isInput (.node call.schema.root call.hint) r visits
        type r₁)
      (later : History rest r₁ others r₂) : History (call :: rest) r (visits ++ others) r₂

variable {calls : List Call} {r r' : Registry} {visits : List Visit}

theorem mapAll_history {w w' : Workshop} {types : List TypeRef}
    (h : mapAll calls w = .ok types w') :
    ∃ visits, History calls w.registry visits w'.registry := by
  induction calls generalizing w types with
  | nil =>
      simp only [mapAll, List.mapM_nil, pure_eq_ok] at h
      rw [h.2]
      exact ⟨[], .nil⟩
  | cons call rest ih =>
      simp only [mapAll, List.mapM_cons, bind_eq_ok] at h
      obtain ⟨ref, w₁, mapped, refs, w₂, others, ended⟩ := h
      obtain ⟨_, rfl⟩ := pure_eq_ok.mp ended
      obtain ⟨visits, type, _, maps⟩ := mapSchema_maps mapped
      obtain ⟨more, later⟩ := ih others
      exact ⟨visits ++ more, .cons maps later⟩

theorem History.extends (h : History calls r visits r') : Extends r r' := by
  induction h with
  | nil => exact Extends.refl _
  | cons first _ ih => exact first.extends.trans ih

theorem History.kept (h : History calls r visits r') {index : Nat} (there : index < r.types.size) :
    r'.types[index]? = r.types[index]? := by
  induction h with
  | nil => rfl
  | cons first _ ih =>
      rw [ih (Nat.lt_of_lt_of_le there first.extends.types), first.kept there not_false]

theorem History.fresh (h : History calls r visits r') {key : TypeKey} {ref : TypeRef}
    (member : (key, ref) ∈ r'.entries) : (key, ref) ∈ r.entries ∨ Fresh r r' visits key ref := by
  induction h with
  | nil => exact .inl member
  | cons first later ih =>
      rcases ih member with old | fresh
      · rcases first.fresh old (owned_node _ _ _) with old | fresh
        · exact .inl old
        · exact .inr (fresh.mono _ later.extends fun _ _ there => later.kept there)
      · exact .inr (fresh.since first.extends _ first.registered)

/-! ## Complete types, field by field -/

def lastNamed? (shape : Shape) (name : String) : Option (String × Node) :=
  shape.properties.reverse.find? fun property => Name.ofText property.1 == name

/--
A type is faithful to an object that was visited: it is named after the title
the node was given, and has one field for each name that a property is made
into, in the order of the properties.  The last of several properties of one
name decides: its field has the type its node translates to, is never null if
the property is required, and leads to the property by its own name.
-/
def Faithful (r : Registry) (visit : Visit) (label : Label) (shape : Shape) : NamedType -> Prop
  | .object name about fields =>
      visit.key.role = .output ∧ name = r.typeName visit.key.title .output ∧
      about = describe label.description ∧
      fields.map Prod.fst =
        (shape.properties.map fun property => Name.ofText property.1).eraseDups ∧
      ∀ name property node, lastNamed? shape name = some (property, node) ->
        ∃ type, translate? r visit.schema visit.origin false node = some type ∧
          fields.lookup name = some ⟨requireIf (shape.required.contains property) type,
            describe node.label.description, [], .property property⟩
  | .input name about fields =>
      visit.key.role = .input ∧ name = r.typeName visit.key.title .input ∧
      about = describe label.description ∧
      fields.map Prod.fst =
        (shape.properties.map fun property => Name.ofText property.1).eraseDups ∧
      ∀ name property node, lastNamed? shape name = some (property, node) ->
        ∃ type, translate? r visit.schema visit.origin true node = some type ∧
          fields.lookup name = some ⟨requireIf (shape.required.contains property) type,
            describe node.label.description, property⟩
  | .enum .. => False

/-- An object type is filled with what its properties write, one after another. -/
theorem filled_object (schema : Schema) (origin : Origin) (required : List String)
    (properties : List (String × Node)) (name : String) (about : Json) :
    filled r schema origin false required properties (.object name about []) =
      .object name about (Entries.ofList (properties.map fun property =>
        (Name.ofText property.1,
          ⟨requireIf (required.contains property.1)
              ((translate? r schema origin false property.2).getD .json),
            describe property.2.label.description, [], .property property.1⟩))) := by
  rw [Entries.ofList, List.foldl_map]
  generalize ([] : Entries Field) = fields
  induction properties generalizing fields with
  | nil => rfl
  | cons property rest ih => exact ih _

theorem filled_input (schema : Schema) (origin : Origin) (required : List String)
    (properties : List (String × Node)) (name : String) (about : Json) :
    filled r schema origin true required properties (.input name about []) =
      .input name about (Entries.ofList (properties.map fun property =>
        (Name.ofText property.1,
          ⟨requireIf (required.contains property.1)
              ((translate? r schema origin true property.2).getD .json),
            describe property.2.label.description, property.1⟩))) := by
  rw [Entries.ofList, List.foldl_map]
  generalize ([] : Entries InputField) = fields
  induction properties generalizing fields with
  | nil => rfl
  | cons property rest ih => exact ih _

/-- What the last property of a name writes under it is what is found there. -/
theorem lookup_ofList_properties {α : Type} (f : String × Node -> α) {shape : Shape}
    {name property : String} {node : Node}
    (last : lastNamed? shape name = some (property, node)) :
    (Entries.ofList (shape.properties.map fun property =>
      (Name.ofText property.1, f property))).lookup name = some (f (property, node)) := by
  rw [Entries.lookup_ofList, ← List.map_reverse, List.find?_map]
  unfold lastNamed? at last
  change ((shape.properties.reverse.find? fun property => Name.ofText property.1 == name).map
    _).map _ = _
  rw [last]
  rfl

theorem mem_of_lastNamed {shape : Shape} {name : String} {property : String × Node}
    (last : lastNamed? shape name = some property) : property ∈ shape.properties :=
  List.mem_reverse.mp (List.mem_of_find?_eq_some last)

/-- A complete type is faithful to the object that was visited. -/
theorem Complete.faithful {visit : Visit} {index : Nat} (h : Complete r visit index)
    (notEnum : visit.key.role ≠ .enum) :
    ∃ label number, visit.node = .object label number ∧
      (visit.schema.shape number).properties ≠ [] ∧
      Faithful r visit label (visit.schema.shape number) (visit.complete r) := by
  rcases visit with ⟨schema, origin, isInput, node, realm, title, role⟩
  obtain ⟨named, _, translates⟩ := h
  cases node with
  | enum label kind literals =>
      simp only [role?] at named
      split at named <;> simp_all
  | object label number =>
      have nonempty : (schema.shape number).properties ≠ [] := by
        intro empty
        simp [role?, empty] at named
      have translation : ∀ name property node,
          lastNamed? (schema.shape number) name = some (property, node) ->
          ∃ type, translate? r schema origin isInput node = some type := by
        intro name property node last
        exact Option.isSome_iff_exists.mp (translates (property, node) (mem_of_lastNamed last))
      simp only [role?, List.isEmpty_iff, nonempty, ↓reduceIte, Option.some.injEq] at named
      refine ⟨label, number, rfl, nonempty, ?_⟩
      cases isInput with
      | false =>
          obtain rfl : Role.output = role := by simpa using named
          simp only [Visit.complete, shapeOf, blank, filled_object]
          refine ⟨rfl, rfl, rfl, by rw [Entries.keys_ofList, List.map_map]; rfl, ?_⟩
          intro name property node last
          obtain ⟨type, translates⟩ := translation name property node last
          exact ⟨type, translates, by rw [lookup_ofList_properties _ last, translates]; rfl⟩
      | true =>
          obtain rfl : Role.input = role := by simpa using named
          simp only [Visit.complete, shapeOf, blank, filled_input]
          refine ⟨rfl, rfl, rfl, by rw [Entries.keys_ofList, List.map_map]; rfl, ?_⟩
          intro name property node last
          obtain ⟨type, translates⟩ := translation name property node last
          exact ⟨type, translates, by rw [lookup_ofList_properties _ last, translates]; rfl⟩
  | _ => simp [role?] at named

/--
When schemas have been mapped one after another on a new registry, every object
and input type in it is complete and says what the first object that was visited
under its key says.
-/
theorem mapAll_faithful {calls : List Call} {realm : Option String} {log : Log}
    {types : List TypeRef} {w : Workshop}
    (returns : mapAll calls ⟨{ realm }, log⟩ = .ok types w) :
    (∃ visits, History calls { realm } visits w.registry) ∧
    ∀ visits, History calls { realm } visits w.registry ->
      ∀ key ref, (key, ref) ∈ w.registry.entries -> key.role ≠ .enum ->
        ∃ visit label number id type,
          visits.find? (fun visit => visit.key == key) = some visit ∧
          visit.node = .object label number ∧ (visit.schema.shape number).properties ≠ [] ∧
          ref = .named id ∧ w.registry.type? id = some type ∧
          Faithful w.registry visit label (visit.schema.shape number) type := by
  refine ⟨mapAll_history returns, ?_⟩
  intro visits history key ref member notEnum
  rcases history.fresh member with old | ⟨_, visit, index, found, _, same, complete⟩
  · simp at old
  · have under : visit.key = key := by simpa using List.find?_some found
    obtain ⟨label, number, object, nonempty, faithful⟩ :=
      complete.faithful (under ▸ notEnum)
    refine ⟨visit, label, number, _, visit.complete w.registry, found, object, nonempty, same, ?_,
      faithful⟩
    rw [Registry.type?, if_pos history.extends.realm.symm]
    exact complete.type

/-- Persons with persons below them, as answers and, in an untitled object, as arguments. -/
def persons : List Call :=
  let person : Node := .object ⟨0, some (.text "Person"), .null⟩ 0
  let shapes : Array Shape := #[
    ⟨["name"], [("name", .scalar ⟨1, none, .null⟩ .string),
      ("reports", .list ⟨2, none, .null⟩ person)]⟩,
    ⟨[], [("like", person)]⟩]
  [⟨⟨person, shapes⟩, ⟨.text "get", 0⟩, false, "get_response", true⟩,
    ⟨⟨.object ⟨3, none, .null⟩ 1, shapes⟩, ⟨.text "get", 1⟩, true, "get_search", false⟩]

/-- The type of persons is faithful to the node it was made from. -/
theorem mapAll_faithful_persons :
    ∃ types w visits, mapAll persons ⟨{ realm := none }, #[]⟩ = .ok types w ∧
      History persons { realm := none } visits w.registry ∧
      ∃ visit label number id type,
        visits.find? (fun visit => visit.key == ⟨none, "Person", .output⟩) = some visit ∧
        visit.node = .object label number ∧ w.registry.type? id = some type ∧
        Faithful w.registry visit label (visit.schema.shape number) type := by
  have there : (match mapAll persons ⟨{ realm := none }, #[]⟩ with
      | .ok _ w => w.registry.entries.contains (⟨none, "Person", .output⟩, .named ⟨none, 0⟩)
      | .error _ _ => false) = true := by decide +kernel
  cases returns : mapAll persons ⟨{ realm := none }, #[]⟩ with
  | error fault w => simp [returns] at there
  | ok types w =>
      rw [returns] at there
      obtain ⟨⟨visits, history⟩, faithful⟩ := mapAll_faithful returns
      obtain ⟨visit, label, number, id, type, found, object, _, _, known, same⟩ :=
        faithful visits history _ _ (List.contains_iff_mem.mp there) (by decide)
      exact ⟨types, w, visits, rfl, history, visit, label, number, id, type, found, object, known,
        same⟩

end Mapping

end GraphFacade
