import GraphFacade.Proofs.Types.Clashes
import GraphFacade.Proofs.Types.Fields
import GraphFacade.Proofs.Types.Renaming

/-!
# Assembling in lockstep

Two runs over the same endpoints, one outside of all namespaces and one in the
realm of a namespace, make the same choices as long as both go on: titles,
shared types and types that are being made agree at every step.
-/

namespace GraphFacade

namespace Workshop

open Registry Steps

variable {realm : String} {α α' β β' : Type}

/--
A step in a realm that, whenever both end well, does to the moved registry what
another one does outside of all namespaces, and gives what that one gives, moved.
-/
def Follows (realm : String) (move : α -> α') (step : Step α) (step' : Step α') : Prop :=
  ∀ w w', Outside w.registry -> w'.registry = w.registry.within realm ->
    ∀ a v, step w = .ok a v -> ∀ a' v', step' w' = .ok a' v' ->
      a' = move a ∧ Outside v.registry ∧ v'.registry = v.registry.within realm

theorem follows_pure {move : α -> α'} {a : α} {a' : α'} (moved : a' = move a) :
    Follows realm move (pure a) (pure a') := by
  intro w w' outside same b v h b' v' h'
  obtain ⟨rfl, rfl⟩ := pure_eq_ok.mp h
  obtain ⟨rfl, rfl⟩ := pure_eq_ok.mp h'
  exact ⟨moved, outside, same⟩

theorem follows_throw {move : α -> α'} {fault : Fault} {step' : Step α'} :
    Follows realm move (throw fault) step' := by
  intro w w' _ _ a v h
  simp at h

theorem follows_ofExcept (x : Except Fault α) :
    Follows realm id (MonadExcept.ofExcept x) (MonadExcept.ofExcept x) := by
  intro w w' outside same a v h a' v' h'
  obtain ⟨found, rfl⟩ := ofExcept_eq_ok.mp h
  obtain ⟨found', rfl⟩ := ofExcept_eq_ok.mp h'
  exact ⟨Except.ok.inj (found'.symm.trans found), outside, same⟩

theorem Follows.bind {move : α -> α'} {move' : β -> β'} {step : Step α} {step' : Step α'}
    {next : α -> Step β} {next' : α' -> Step β'} (first : Follows realm move step step')
    (later : ∀ a, Follows realm move' (next a) (next' (move a))) :
    Follows realm move' (step >>= next) (step' >>= next') := by
  intro w w' outside same b v h b' v' h'
  obtain ⟨a, u, start, rest⟩ := bind_eq_ok.mp h
  obtain ⟨a', u', start', rest'⟩ := bind_eq_ok.mp h'
  obtain ⟨rfl, outside₁, same₁⟩ := first w w' outside same a u start a' u' start'
  exact later a u u' outside₁ same₁ b v rest b' v' rest'

/-- What is read is a registry outside, and the same one moved. -/
theorem Follows.current {move : β -> β'} {next : Registry -> Step β}
    {next' : Registry -> Step β'}
    (later : ∀ r, Outside r -> Follows realm move (next r) (next' (r.within realm))) :
    Follows realm move (current >>= next) (current >>= next') := by
  intro w w' outside same b v h b' v' h'
  obtain ⟨r, u, start, rest⟩ := bind_eq_ok.mp h
  obtain ⟨r', u', start', rest'⟩ := bind_eq_ok.mp h'
  simp only [Workshop.current, EStateM.Result.ok.injEq] at start start'
  obtain ⟨rfl, rfl⟩ := start
  obtain ⟨rfl, rfl⟩ := start'
  rw [same] at rest'
  exact later _ outside w w' outside same b v rest b' v' rest'

theorem follows_change {f f' : Registry -> Registry}
    (changes : ∀ r, Outside r -> Outside (f r) ∧ f' (r.within realm) = (f r).within realm) :
    Follows realm id (change f) (change f') := by
  intro w w' outside same a v h a' v' h'
  simp only [change, EStateM.Result.ok.injEq, true_and] at h h'
  obtain ⟨stays, moved⟩ := changes w.registry outside
  rw [← h, ← h', same]
  exact ⟨rfl, stays, moved⟩

theorem follows_report (event event' : Event) :
    Follows realm id (report event) (report event') := by
  intro w w' outside same a v h a' v' h'
  simp only [report, EStateM.Result.ok.injEq, true_and] at h h'
  rw [← h, ← h']
  exact ⟨rfl, outside, same⟩

theorem makeType_follows {key : TypeKey} (free : key.realm = none) (type : NamedType) :
    Follows realm (TypeRef.within realm) (makeType key type)
      (makeType (key.within realm) (type.within realm)) := by
  intro w w' outside same ref v h ref' v' h'
  rw [makeType_eq] at h h'
  split at h
  · simp at h
  · split at h'
    · simp at h'
    · simp only [EStateM.Result.ok.injEq] at h h'
      obtain ⟨rfl, rfl⟩ := h
      obtain ⟨rfl, rfl⟩ := h'
      rw [same]
      refine ⟨?_, outside.establish free type, establish_within outside free type⟩
      simp [nextRef, within, TypeRef.within]

end Workshop

namespace Mapping

open Registry Workshop Steps

variable {realm : String}

theorem textTitle_follows (origin : Origin) (label : Label) (hint : String) :
    Follows realm id (textTitle origin label hint) (textTitle origin label hint) := by
  intro w w' outside same title v h title' v' h'
  rw [textTitle_eq] at h h'
  rw [same, entitle_within] at h'
  cases titled : w.registry.entitle origin label hint with
  | none => simp [titled] at h
  | some result =>
      simp only [titled, Option.map_some, EStateM.Result.ok.injEq] at h h'
      obtain ⟨rfl, rfl⟩ := h
      obtain ⟨rfl, rfl⟩ := h'
      exact ⟨rfl, outside.entitle titled, rfl⟩

theorem degrade_follows (path reason : String) :
    Follows realm (TypeRef.within realm) (degrade path reason) (degrade path reason) :=
  (follows_report _ _).bind fun _ => follows_pure rfl

/-- What needs a name is found under its title, or made. -/
theorem titled_follows (origin : Origin) (label : Label) (hint : String) (role : Role)
    (make make' : String -> Registry -> Step TypeRef)
    (makes : ∀ title r, Outside r ->
      Follows realm (TypeRef.within realm) (make title r) (make' title (r.within realm))) :
    let found (make : String -> Registry -> Step TypeRef) : Step TypeRef := do
      let title <- textTitle origin label hint
      let r <- current
      match r.get? (r.key title role) with
      | some type => return type
      | none => make title r
    Follows realm (TypeRef.within realm) (found make) (found make') := by
  refine (textTitle_follows origin label hint).bind fun title =>
    Follows.current fun r outside => ?_
  have free : (r.key title role).realm = none := outside.realm
  rw [id, key_within, get?_within outside free]
  cases r.get? (r.key title role) with
  | some type => exact follows_pure rfl
  | none => exact makes title r outside

/-- A type without fields is the same under a namespace, but for its name. -/
theorem empty_within (isInput : Bool) (name : String) (about : Json) :
    (if isInput then NamedType.input (nameWithin realm name) about []
      else .object (nameWithin realm name) about []) =
      NamedType.within realm (if isInput then .input name about [] else .object name about []) := by
  cases isInput <;> rfl

variable (named : realm ≠ "")

include named

theorem mapEnum_follows (origin : Origin) (label : Label) (literals : List Json)
    (hint : String) :
    Follows realm (TypeRef.within realm) (mapEnum origin label literals hint)
      (mapEnum origin label literals hint) := by
  unfold mapEnum
  split
  · refine titled_follows origin label hint .enum _ _ fun title r outside => ?_
    rw [key_within, typeName_within named outside]
    exact makeType_follows outside.realm _
  · split
    · exact follows_pure rfl
    · split
      · exact follows_pure rfl
      · exact degrade_follows _ _

theorem mapNode_follows (origin : Origin) {object object' : Label -> Nat -> String -> Step TypeRef}
    (objects : ∀ label index hint,
      Follows realm (TypeRef.within realm) (object label index hint) (object' label index hint))
    (node : Node) (hint : String) :
    Follows realm (TypeRef.within realm) (mapNode origin object node hint)
      (mapNode origin object' node hint) := by
  induction node generalizing hint with
  | enum label kind literals => exact mapEnum_follows named origin label literals hint
  | list label items ih => exact (ih _).bind fun _ => follows_pure rfl
  | object label index => exact objects label index hint
  | any label reason => exact degrade_follows hint reason
  | _ => exact follows_pure rfl

omit named in
theorem mapProperties_follows (isInput : Bool) {map map' : Node -> String -> Step TypeRef}
    (maps : ∀ node hint, Follows realm (TypeRef.within realm) (map node hint) (map' node hint))
    (required : List String) (title : String) (owner : TypeRef)
    (properties : List (String × Node)) :
    Follows realm id (mapProperties isInput map required title owner properties)
      (mapProperties isInput map' required title (owner.within realm) properties) := by
  induction properties with
  | nil => exact follows_pure rfl
  | cons property rest ih =>
      refine (maps _ _).bind fun type => (follows_change fun r outside => ?_).bind fun _ => ih
      refine ⟨outside.updateType _ _, updateType_within r owner fun filled => ?_⟩
      rw [← TypeRef.within_requireIf, addField_within]

theorem mapObject_follows (schema : Schema) (origin : Origin) (isInput : Bool) (fuel : Nat)
    (label : Label) (index : Nat) (hint : String) :
    Follows realm (TypeRef.within realm) (mapObject schema origin isInput fuel label index hint)
      (mapObject schema origin isInput fuel label index hint) := by
  induction fuel generalizing label index hint with
  | zero => exact follows_throw
  | succ fuel ih =>
      unfold mapObject
      dsimp only
      split
      · exact degrade_follows _ _
      · refine titled_follows origin label hint _ _ _ fun title r outside => ?_
        rw [key_within, typeName_within named outside, empty_within]
        refine (makeType_follows outside.realm _).bind fun owner => ?_
        have filled := mapProperties_follows isInput (mapNode_follows named origin ih)
        exact (filled _ title owner _).bind fun _ => follows_pure rfl

/-- A schema maps to the same types, moved. -/
theorem mapSchema_follows (schema : Schema) (origin : Origin) (isInput : Bool) (hint : String)
    (required : Bool) :
    Follows realm (TypeRef.within realm) (mapSchema schema origin isInput hint required)
      (mapSchema schema origin isInput hint required) := by
  refine (mapNode_follows named _ (mapObject_follows named schema origin isInput _) _ _).bind
    fun type => follows_pure ?_
  rw [TypeRef.within_requireIf]

theorem mapParameters_follows (operationId : Json) (key : Atom) (part : Nat)
    (arguments : Entries Argument) (parameters : List Parameter) :
    Follows realm (Entries.mapValues (Argument.within realm))
      (mapParameters operationId key part arguments parameters)
      (mapParameters operationId key part (Entries.mapValues (Argument.within realm) arguments)
        parameters) := by
  induction parameters generalizing part arguments with
  | nil => exact follows_pure rfl
  | cons parameter rest ih =>
      unfold mapParameters
      split
      · exact follows_throw
      · rename_i name _
        rw [Entries.has_mapValues]
        split
        · exact follows_throw
        · refine (follows_ofExcept _).bind fun shown => ?_
          refine (mapSchema_follows named _ _ _ _ _).bind fun type => ?_
          have later := ih (part + 1)
            (arguments ++ [(name, ⟨type, describe parameter.description⟩)])
          rw [Entries.mapValues_append] at later
          exact later

end Mapping

namespace Assembly

open Registry Workshop Mapping Steps

section Follows

variable {realm : String} (named : realm ≠ "")

include named

theorem responseType_follows (key : Atom) (endpoint : Endpoint) :
    Follows realm (TypeRef.within realm) (responseType key endpoint)
      (responseType key endpoint) := by
  refine (follows_ofExcept _).bind fun shown => ?_
  dsimp only [id]
  split
  · exact mapSchema_follows named _ _ _ _ _
  · exact (degrade_follows _ _).bind fun _ => follows_pure rfl

theorem fieldOf_follows (key : Atom) (endpoint : Endpoint) :
    Follows realm (Field.within realm) (fieldOf key endpoint) (fieldOf key endpoint) := by
  refine (responseType_follows named key endpoint).bind fun type => ?_
  exact (mapParameters_follows named _ _ _ [] _).bind fun arguments => follows_pure rfl

theorem fieldsOf_follows (fields : Entries Field) (endpoints : EndpointSet) :
    Follows realm (Entries.mapValues (Field.within realm)) (fieldsOf fields endpoints)
      (fieldsOf (Entries.mapValues (Field.within realm) fields) endpoints) := by
  induction endpoints generalizing fields with
  | nil => exact follows_pure rfl
  | cons entry rest ih =>
      unfold fieldsOf
      split
      · exact follows_throw
      · rename_i name _
        rw [Entries.has_mapValues]
        split
        · exact follows_throw
        · refine (fieldOf_follows named _ _).bind fun field => ?_
          have later := ih (fields ++ [(name, field)])
          rw [Entries.mapValues_append] at later
          exact later

theorem partition_follows (endpoints : EndpointSet) (mutation : Bool) :
    Follows realm (Entries.mapValues (Field.within realm)) (partition endpoints mutation)
      (partition endpoints mutation) := by
  intro w w' outside same fields v h fields' v' h'
  rw [partition_eq] at h h'
  cases sorted : endpoints.sorted with
  | error fault => simp [sorted] at h
  | ok order =>
      simp only [sorted] at h h'
      exact fieldsOf_follows named [] _ w w' outside same fields v h fields' v' h'

theorem assemble_follows (endpoints : EndpointSet) :
    Follows realm (RootFields.within realm) (assemble endpoints) (assemble endpoints) := by
  refine (partition_follows named endpoints false).bind fun query => ?_
  have empty : (Entries.mapValues (Field.within realm) query).isEmpty = query.isEmpty := by
    cases query <;> rfl
  rw [empty]
  split
  · intro w w' _ _ fields v h
    simp [bind_eq_ok] at h
  · exact (partition_follows named endpoints true).bind fun mutation => follows_pure rfl

end Follows

/-- All references to types in what is assembled. -/
def references (fields : RootFields) (registry : Registry) : List TypeRef :=
  (NamedType.object "" .null (fields.query ++ fields.mutation)).references ++
    registry.types.toList.flatMap NamedType.references

theorem references_hold {fields : RootFields} {registry : Registry} (orderly : Orderly registry)
    (query : Held registry fields.query) (mutation : Held registry fields.mutation) :
    ∀ ref ∈ references fields registry, registry.Holds ref := by
  intro ref member
  rcases List.mem_append.mp member with field | type
  · simp only [NamedType.references, List.flatMap_append, List.mem_append] at field
    rcases field with first | second
    · exact query ref first
    · exact mutation ref second
  · obtain ⟨type, there, among⟩ := List.mem_flatMap.mp type
    obtain ⟨index, found⟩ := List.mem_iff_getElem?.mp there
    rw [Array.getElem?_toList] at found
    exact orderly.closed found ref among

/--
Endpoints that are assembled in the realm of a namespace, and outside of all
namespaces, give the same fields and types, except that each named type has the
namespace before its name: names of fields and arguments, their order,
descriptions, what is never null, members of enumerations with their literals,
scalars and the sources of values are the same.  Places that share a type share
it in both, and each type is the other one moved.
-/
theorem assemble_within {endpoints : EndpointSet} {realm : String} (named : realm ≠ "")
    {log log' : Log} {fields fields' : RootFields} {w w' : Workshop}
    (returns : assemble endpoints ⟨{}, log⟩ = .ok fields w)
    (returns' : assemble endpoints ⟨{ realm := some realm }, log'⟩ = .ok fields' w') :
    fields' = fields.within realm ∧ w'.registry = w.registry.within realm ∧
    (∀ index, w'.registry.type? ⟨some realm, index⟩ =
      (w.registry.type? ⟨none, index⟩).map (NamedType.within realm)) ∧
    (∀ index type, w.registry.type? ⟨none, index⟩ = some type ->
      w'.registry.nameOf (.named ⟨some realm, index⟩) = Name.ofText realm ++ "_" ++ type.name) ∧
    ∀ first ∈ references fields w.registry, ∀ second ∈ references fields w.registry,
      first.within realm = second.within realm ↔ first = second := by
  obtain ⟨moved, outside, registry⟩ :=
    assemble_follows named endpoints ⟨{}, log⟩ ⟨{ realm := some realm }, log'⟩ outside_new
      within_new.symm fields w returns fields' w' returns'
  obtain ⟨keeps, heldQuery, heldMutation⟩ := assemble_keeps returns (orderly_new none)
  have types : ∀ index, w'.registry.type? ⟨some realm, index⟩ =
      (w.registry.type? ⟨none, index⟩).map (NamedType.within realm) := by
    intro index
    simp [registry, type?, Registry.within, outside.realm]
  have held : ∀ ref ∈ references fields w.registry, ∀ id, ref.unwrapped = .named id ->
      id.realm = none := by
    intro ref member id leads
    refine (references_hold keeps.orderly heldQuery heldMutation ref member id leads).1.trans ?_
    exact outside.realm
  refine ⟨moved, registry, types, ?_, ?_⟩
  · intro index type found
    rw [nameOf, types, found]
    simp [nameWithin]
  · intro first there second there'
    constructor
    · exact TypeRef.within_injective (held first there) (held second there')
    · rintro rfl
      rfl

/-- A harbour whose ships are of some kind, and are listed by a filter on it. -/
def harbour : EndpointSet :=
  let kind : Node :=
    .enum ⟨1, some (.text "Kind"), .null⟩ (some .string) [.text "tug", .text "barge"]
  let record (title : String) : Schema :=
    ⟨.object ⟨0, some (.text title), .null⟩ 0, #[⟨["kind"], [("kind", kind)]⟩]⟩
  [(.text "ships", {
    operationId := .text "ships", method := some .get, path := some "/ships", mutation := false
    description := .text "Ships at anchor", response := some (record "Ship")
    parameters := [⟨.text "filter", .query, record "Filter", false, .null⟩], baseUrl := .null })]

/-- In a port, its types are named after the port; the kind is shared as it was. -/
theorem assemble_within_harbour :
    ∃ fields w fields' w', assemble harbour ⟨{}, #[]⟩ = .ok fields w ∧
      assemble harbour ⟨{ realm := some "old port" }, #[]⟩ = .ok fields' w' ∧
      w.registry.types.map NamedType.name = #["Ship", "Kind", "FilterInput"] ∧
      w'.registry.types.map NamedType.name =
        #["old_port_Ship", "old_port_Kind", "old_port_FilterInput"] ∧
      fields' = fields.within "old port" ∧ w'.registry = w.registry.within "old port" := by
  have outside : (match assemble harbour ⟨{}, #[]⟩ with
      | .ok _ w => decide (w.registry.types.map NamedType.name = #["Ship", "Kind", "FilterInput"])
      | .error _ _ => false) = true := by
    decide +kernel
  have within' : (match assemble harbour ⟨{ realm := some "old port" }, #[]⟩ with
      | .ok _ w => decide (w.registry.types.map NamedType.name =
          #["old_port_Ship", "old_port_Kind", "old_port_FilterInput"])
      | .error _ _ => false) = true := by
    decide +kernel
  cases returns : assemble harbour ⟨{}, #[]⟩ with
  | error fault w => simp [returns] at outside
  | ok fields w =>
      cases returns' : assemble harbour ⟨{ realm := some "old port" }, #[]⟩ with
      | error fault w' => simp [returns'] at within'
      | ok fields' w' =>
          simp only [returns, returns', decide_eq_true_eq] at outside within'
          obtain ⟨moved, registry, _⟩ := assemble_within (by decide) returns returns'
          exact ⟨fields, w, fields', w', rfl, rfl, outside, within', moved, registry⟩

end Assembly

end GraphFacade
