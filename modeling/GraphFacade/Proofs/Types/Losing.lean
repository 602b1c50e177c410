import GraphFacade.Proofs.Types.Coming
import GraphFacade.Proofs.Types.Faithfulness
import GraphFacade.Proofs.Types.Renaming
import GraphFacade.Proofs.Types.Sides
import Mathlib.Data.List.Perm.Subperm

/-!
# Properties without a field

A field is written under the name that its property is made into, in place of
what was there.  So of several properties that are made into one name only the
last has a field, and the others are lost.
-/

namespace GraphFacade

namespace Entries

variable {α β : Type}

theorem mapValues_ofList (f : α -> β) (entries : Entries α) :
    mapValues f (ofList entries) = ofList (mapValues f entries) := by
  induction entries using List.reverseRecOn with
  | nil => rfl
  | append_singleton entries last ih =>
      rw [ofList_append, mapValues_append, ← put_mapValues, ih]
      exact (ofList_append (mapValues f entries) (last.1, f last.2)).symm

theorem length_ofList_eq_iff (entries : Entries α) :
    (ofList entries).length = entries.length ↔ (entries.map Prod.fst).Nodup := by
  have distinct := nodup_keys_ofList entries
  have same : ∀ key, key ∈ (ofList entries).map Prod.fst ↔ key ∈ entries.map Prod.fst := by
    intro key
    rw [keys_ofList, List.mem_eraseDups]
  have counted : ∀ list : Entries α, list.length = (list.map Prod.fst).length := by simp
  rw [counted, counted]
  constructor
  · intro all
    have within := List.subperm_of_subset distinct fun key => (same key).mp
    exact (within.perm_of_length_le (Nat.le_of_eq all.symm)).nodup_iff.mp distinct
  · intro distinct'
    exact ((List.perm_ext_iff_of_nodup distinct distinct').mpr same).length_eq

theorem mem_ofList_iff {entries : Entries α} {key : String} {value : α} :
    (key, value) ∈ ofList entries ↔
      (entries.reverse.find? fun entry => entry.1 == key).map Prod.snd = some value := by
  rw [← lookup_ofList]
  exact ⟨lookup_of_mem (nodup_keys_ofList entries), mem_of_lookup⟩

end Entries

def Source.property? : Source -> Option String
  | .property name => some name
  | _ => none

/-- The fields of a type by name, with the properties they are read from or sent as. -/
def NamedType.leads : NamedType -> Entries (Option String)
  | .object _ _ fields => fields.mapValues fun field => field.source.property?
  | .input _ _ fields => fields.mapValues fun field => some field.property
  | .enum .. => []

namespace Mapping

open Registry Steps

variable {schema : Schema} {origin : Origin} {isInput : Bool} {hint : String} {required : Bool}
  {realm : Option String} {log : Log} {type : TypeRef} {w : Workshop} {label : Label} {index : Nat}
  {r : Registry}

def written (shape : Shape) : Entries (Option String) :=
  shape.properties.map fun property => (Name.ofText property.1, some property.1)

theorem Visit.leads_complete (visit : Visit) (object : visit.node = .object label index)
    (named : role? visit.schema visit.isInput visit.node = some visit.key.role) :
    (visit.complete r).leads = Entries.ofList (written (visit.schema.shape index)) := by
  rcases visit with ⟨schema, origin, isInput, node, realm, title, role⟩
  obtain rfl : node = .object label index := object
  simp only [role?] at named
  split at named
  · simp at named
  · cases isInput with
    | false =>
        obtain rfl : Role.output = role := by simpa using named
        simp only [Visit.complete, shapeOf, blank, filled_object, NamedType.leads,
          Entries.mapValues_ofList]
        rw [Entries.mapValues, List.map_map]
        rfl
    | true =>
        obtain rfl : Role.input = role := by simpa using named
        simp only [Visit.complete, shapeOf, blank, filled_input, NamedType.leads,
          Entries.mapValues_ofList]
        rw [Entries.mapValues, List.map_map]
        rfl

theorem role_filled (required : List String) (properties : List (String × Node))
    (type : NamedType) :
    (filled r schema origin isInput required properties type).role = type.role := by
  induction properties generalizing type with
  | nil => rfl
  | cons property rest ih => exact (ih _).trans (role_fieldFor _ _ _ _)

/-- On a new registry the type of an object is made, and is complete when the mapping ends. -/
theorem mapSchema_complete (root : schema.root = .object label index)
    (nonempty : (schema.shape index).properties ≠ [])
    (returns : mapSchema schema origin isInput hint required ⟨{ realm }, log⟩ = .ok type w) :
    ∃ (key : TypeKey) (id : TypeId), type = requireIf required (.named id) ∧
      role? schema isInput (.object label index) = some key.role ∧
      w.registry.type? id = some
        (Visit.complete w.registry ⟨schema, origin, isInput, .object label index, key⟩) := by
  obtain ⟨visits, ref, rfl, maps⟩ := mapSchema_maps returns
  rw [root] at maps
  generalize start : ({ realm } : Registry) = r at maps
  cases maps with
  | direct h => simp [direct?, nonempty] at h
  | known named titled found =>
      rw [Registry.get?, entitle_entries titled, ← start] at found
      simp at found
  | @created _ _ title role _ r₁ _ visits named titled free allowed body =>
      have complete := Complete.of_body named free body
      have realm' := ((establish_extends _ free).trans body.extends).realm
      refine ⟨_, ⟨r₁.realm, r₁.types.size⟩, rfl, complete.role, ?_⟩
      rw [Registry.type?, if_pos realm'.symm]
      exact complete.type

theorem mem_written_iff {shape : Shape} {property : String} :
    (∃ name, (name, some property) ∈ Entries.ofList (written shape)) ↔
      (lastNamed? shape (Name.ofText property)).map Prod.fst = some property := by
  have last : ∀ name,
      ((written shape).reverse.find? fun entry => entry.1 == name).map Prod.snd =
        (lastNamed? shape name).map fun property => some property.1 := by
    intro name
    rw [written, ← List.map_reverse, List.find?_map, Option.map_map]
    rfl
  simp only [Entries.mem_ofList_iff, last]
  constructor
  · rintro ⟨name, found⟩
    obtain ⟨other, chosen, same⟩ := Option.map_eq_some_iff.mp found
    obtain rfl : other.1 = property := Option.some.inj same
    have under : Name.ofText other.1 = name := by simpa using List.find?_some chosen
    rw [under, chosen, Option.map_some]
  · intro found
    obtain ⟨other, chosen, same⟩ := Option.map_eq_some_iff.mp found
    exact ⟨Name.ofText property, by rw [chosen, Option.map_some, same]⟩

/--
The type that an object gets on a new registry, on either side: its properties
write its fields, one after another.  So there is one field for each property
exactly if no two of them are made into one name, and a property has a field
exactly if it is the last one that is made into its name.
-/
theorem mapSchema_leads (root : schema.root = .object label index)
    (nonempty : (schema.shape index).properties ≠ [])
    (returns : mapSchema schema origin isInput hint required ⟨{ realm }, log⟩ = .ok type w) :
    ∃ id made, type = requireIf required (.named id) ∧ w.registry.type? id = some made ∧
      made.role = side isInput ∧
      made.leads = Entries.ofList (written (schema.shape index)) ∧
      (made.leads.length = (schema.shape index).properties.length ↔
        ((schema.shape index).properties.map fun property => Name.ofText property.1).Nodup) ∧
      ∀ property, (∃ name, (name, some property) ∈ made.leads) ↔
        (lastNamed? (schema.shape index) (Name.ofText property)).map Prod.fst = some property := by
  obtain ⟨key, id, same, named, found⟩ := mapSchema_complete root nonempty returns
  have leads := Visit.leads_complete (r := w.registry)
    ⟨schema, origin, isInput, .object label index, key⟩ rfl named
  refine ⟨id, _, same, found, ?_, leads, ?_, ?_⟩
  · have ofSide : key.role = side isInput := by
      simp only [role?] at named
      split at named
      · cases named
      · exact (Option.some.inj named).symm
    rw [Visit.complete, role_filled, role_blank named, ofSide]
  · have kept := Entries.length_ofList_eq_iff (written (schema.shape index))
    rw [leads]
    simpa [written, Function.comp_def] using kept
  · intro property
    rw [leads]
    exact mem_written_iff

def reading : Schema :=
  let properties := [("a-b", .scalar ⟨1, none, .null⟩ .string),
    ("a_b", .scalar ⟨2, none, .null⟩ .integer)]
  ⟨.object ⟨0, some (.text "Reading"), .null⟩ 0, #[⟨[], properties⟩]⟩

/-- The first of the two properties has no field. -/
theorem mapSchema_leads_reading :
    ∃ type w id made, mapSchema reading ⟨.text "get", 0⟩ false "get_response" false
        ⟨{ realm := none }, #[]⟩ = .ok type w ∧
      type = requireIf false (.named id) ∧ w.registry.type? id = some made ∧
      made.leads = [("a_b", some "a_b")] := by
  have shown : (returned? (mapSchema reading ⟨.text "get", 0⟩ false "get_response" false
      ⟨{ realm := none }, #[]⟩)).any fun _ => true := by
    decide +kernel
  obtain ⟨type, w, returns, _⟩ := ok_of_returned shown
  have root : reading.root = .object ⟨0, some (.text "Reading"), .null⟩ 0 := rfl
  obtain ⟨id, made, same, found, _, leads, _⟩ := mapSchema_leads root (by decide) returns
  have only : Entries.ofList (written (reading.shape 0)) = [("a_b", some "a_b")] := by
    decide +kernel
  exact ⟨type, w, id, made, returns, same, found, leads.trans only⟩

end Mapping

end GraphFacade
