import GraphFacade.Proofs.Types.Growth

/-!
# How schemas are traversed

Mapping a node that needs a named type looks its key up, and only if the key is
free makes the type and goes on to the properties.  A traversal that ends well
is described by a relation without fuel, which also tells which named nodes were
visited in what order.
-/

namespace GraphFacade

namespace Mapping

open Workshop Steps

/-! ## What nodes need -/

/-- The type of a node that needs no name and has no items. -/
def direct? (schema : Schema) : Node -> Option TypeRef
  | .scalar _ kind => some (.scalar kind.builtin)
  | .enum _ _ literals =>
      if literals.all Json.isText then none
      else if literals.all Json.isWhole then some (.scalar .int)
      else if literals.all Json.isNumber then some (.scalar .float)
      else some .json
  | .list .. => none
  | .openList _ => some (.list .json)
  | .object _ index => if (schema.shape index).properties.isEmpty then some .json else none
  | .any .. => some .json

/-- What a node's type is for if it needs a name. -/
def role? (schema : Schema) (isInput : Bool) : Node -> Option Role
  | .enum _ _ literals => if literals.all Json.isText then some .enum else none
  | .object _ index =>
      if (schema.shape index).properties.isEmpty then none
      else some (if isInput then .input else .output)
  | _ => none

def shapeOf (schema : Schema) : Node -> Shape
  | .object _ index => schema.shape index
  | _ => ⟨[], []⟩

/-- The type of a named node before its fields are known. -/
def blank (r : Registry) (title : String) (role : Role) (node : Node) : NamedType :=
  let name := r.typeName title role
  let about := describe node.label.description
  match role, node with
  | .enum, .enum _ _ literals => .enum name about (Name.members literals)
  | .input, _ => .input name about []
  | _, _ => .object name about []

/--
The type a node translates to, given all that is registered: a named one is
that under the title the node was given.
-/
def translate? (r : Registry) (schema : Schema) (origin : Origin) (isInput : Bool) :
    Node -> Option TypeRef
  | .list _ items => (translate? r schema origin isInput items).map .list
  | node =>
      match role? schema isInput node with
      | some role =>
          (r.titleGiven? origin node.label).bind fun title => r.get? (r.key title role)
      | none => direct? schema node

/-! ## Traversals -/

/-- A named node that is visited, and the key that it was found to have. -/
structure Visit where
  schema : Schema
  origin : Origin
  isInput : Bool
  node : Node
  key : TypeKey
  deriving Repr, Inhabited

/-- What there is to do: a node, or the remaining properties of an object with its type. -/
inductive Job
  | node (node : Node) (hint : String)
  | properties (required : List String) (title : String) (owner : TypeRef)
      (rest : List (String × Node))
  deriving Repr, Inhabited

def fieldFor (isInput : Bool) (required : List String) (property : String × Node)
    (type : TypeRef) : NamedType -> NamedType :=
  addField isInput (Name.ofText property.1) property.1
    (requireIf (required.contains property.1) type) (describe property.2.label.description)

/--
Traversals of a schema that end well: a job done on a registry, the visits on
the way, the resulting type and registry.
-/
inductive Maps (schema : Schema) (origin : Origin) (isInput : Bool) :
    Job -> Registry -> List Visit -> TypeRef -> Registry -> Prop
  | direct {node : Node} {hint : String} {r : Registry} {type : TypeRef}
      (h : direct? schema node = some type) :
      Maps schema origin isInput (.node node hint) r [] type r
  | list {label : Label} {items : Node} {hint : String} {r r' : Registry} {visits : List Visit}
      {type : TypeRef}
      (item : Maps schema origin isInput (.node items (hint ++ "_items")) r visits type r') :
      Maps schema origin isInput (.node (.list label items) hint) r visits (.list type) r'
  | known {node : Node} {hint title : String} {role : Role} {r r' : Registry} {type : TypeRef}
      (named : role? schema isInput node = some role)
      (titled : r.entitle origin node.label hint = some (title, r'))
      (found : r'.get? (r'.key title role) = some type) :
      Maps schema origin isInput (.node node hint) r
        [⟨schema, origin, isInput, node, r'.key title role⟩] type r'
  | created {node : Node} {hint title : String} {role : Role} {r r₁ r₂ : Registry}
      {visits : List Visit}
      (named : role? schema isInput node = some role)
      (titled : r.entitle origin node.label hint = some (title, r₁))
      (free : r₁.get? (r₁.key title role) = none)
      (allowed : (blank r₁ title role node).name ∉ reservedTypeNames)
      (body : Maps schema origin isInput
        (.properties (shapeOf schema node).required title r₁.nextRef
          (shapeOf schema node).properties)
        (r₁.establish (r₁.key title role) (blank r₁ title role node)) visits r₁.nextRef r₂) :
      Maps schema origin isInput (.node node hint) r
        (⟨schema, origin, isInput, node, r₁.key title role⟩ :: visits) r₁.nextRef r₂
  | done {required : List String} {title : String} {owner : TypeRef} {r : Registry} :
      Maps schema origin isInput (.properties required title owner []) r [] owner r
  | property {required : List String} {title : String} {owner type : TypeRef}
      {property : String × Node} {rest : List (String × Node)} {r r₁ r₂ : Registry}
      {visits others : List Visit}
      (first : Maps schema origin isInput
        (.node property.2 (title ++ "_" ++ Name.ofText property.1)) r visits type r₁)
      (later : Maps schema origin isInput (.properties required title owner rest)
        (r₁.updateType owner (fieldFor isInput required property type)) others owner r₂) :
      Maps schema origin isInput (.properties required title owner (property :: rest)) r
        (visits ++ others) owner r₂

variable {schema : Schema} {origin : Origin} {isInput : Bool}

/-! ## The mapper traverses -/

theorem degrade_ok {path reason : String} {w w' : Workshop} {type : TypeRef}
    (h : degrade path reason w = .ok type w') : .json = type ∧ w'.registry = w.registry := by
  simp only [degrade, bind_eq_ok, report, EStateM.Result.ok.injEq, pure_eq_ok] at h
  obtain ⟨_, _, ⟨_, rfl⟩, rfl, rfl⟩ := h
  exact ⟨rfl, rfl⟩

/-- Properties are traversed if their nodes are. -/
theorem mapProperties_maps {map : Node -> String -> Step TypeRef} {required : List String}
    {title : String} {owner : TypeRef} {properties : List (String × Node)} {w w' : Workshop}
    (maps : ∀ {node hint w type w'}, map node hint w = .ok type w' ->
      ∃ visits, Maps schema origin isInput (.node node hint) w.registry visits type w'.registry)
    (h : mapProperties isInput map required title owner properties w = .ok () w') :
    ∃ visits, Maps schema origin isInput (.properties required title owner properties) w.registry
      visits owner w'.registry := by
  induction properties generalizing w with
  | nil =>
      simp only [mapProperties, pure_eq_ok] at h
      rw [h.2]
      exact ⟨[], .done⟩
  | cons property rest ih =>
      rcases property with ⟨name, node⟩
      simp only [mapProperties, bind_eq_ok] at h
      obtain ⟨type, w₁, mapped, _, w₂, changed, others⟩ := h
      obtain ⟨visits, first⟩ := maps mapped
      obtain ⟨more, later⟩ := ih others
      simp only [change, EStateM.Result.ok.injEq] at changed
      rw [← changed.2] at later
      exact ⟨visits ++ more, .property first later⟩

/-- A node that needs a name, as the mapper treats it once it has a title. -/
theorem named_maps (node : Node) (body : String -> TypeRef -> Step Unit) {hint : String}
    {role : Role} {w w' : Workshop} {type : TypeRef}
    (named : role? schema isInput node = some role)
    (maps : ∀ {title owner w w'}, body title owner w = .ok () w' ->
      ∃ visits, Maps schema origin isInput
        (.properties (shapeOf schema node).required title owner (shapeOf schema node).properties)
        w.registry visits owner w'.registry)
    (h : (do
      let title <- textTitle origin node.label hint
      let r <- current
      match r.get? (r.key title role) with
      | some type => return type
      | none => do
          let owner <- makeType (r.key title role) (blank r title role node)
          body title owner
          return owner : Step TypeRef) w = .ok type w') :
    ∃ visits, Maps schema origin isInput (.node node hint) w.registry visits type w'.registry := by
  simp only [bind_eq_ok, current, EStateM.Result.ok.injEq] at h
  obtain ⟨title, w₁, entitled, r, w₂, ⟨rfl, rfl⟩, h⟩ := h
  rw [textTitle_eq] at entitled
  cases titled : w.registry.entitle origin node.label hint with
  | none => simp [titled] at entitled
  | some result =>
      rcases result with ⟨title', r⟩
      simp only [titled, EStateM.Result.ok.injEq] at entitled
      obtain ⟨rfl, rfl⟩ := entitled
      cases found : r.get? (r.key title' role) with
      | some known =>
          simp only [found, pure_eq_ok] at h
          obtain ⟨rfl, rfl⟩ := h
          exact ⟨_, .known named titled found⟩
      | none =>
          simp only [found, bind_eq_ok, makeType_eq] at h
          obtain ⟨owner, w₁, made, _, w₂, filled, h⟩ := h
          split at made
          · simp at made
          · rename_i allowed
            simp only [EStateM.Result.ok.injEq] at made
            obtain ⟨rfl, rfl⟩ := made
            simp only [pure_eq_ok] at h
            obtain ⟨rfl, rfl⟩ := h
            obtain ⟨visits, body⟩ := maps filled
            exact ⟨_, .created named titled found (by simpa using allowed) body⟩

theorem mapEnum_maps {label : Label} {kind : Option ScalarKind} {literals : List Json}
    {hint : String} {w w' : Workshop} {type : TypeRef}
    (h : mapEnum origin label literals hint w = .ok type w') :
    ∃ visits, Maps schema origin isInput (.node (.enum label kind literals) hint) w.registry visits
      type w'.registry := by
  by_cases textual : literals.all Json.isText
  · have named : role? schema isInput (.enum label kind literals) = some .enum := by
      simp [role?, textual]
    refine named_maps _ (fun _ _ => pure ()) named ?_ ?_
    · intro title owner w w' h
      simp only [pure_eq_ok, true_and] at h
      rw [h]
      exact ⟨[], .done⟩
    · rw [mapEnum, if_pos textual] at h
      rw [← h]
      refine congrFun (congrArg _ (funext fun title => congrArg _ (funext fun r => ?_))) w
      dsimp only
      cases r.get? (r.key title .enum) with
      | some type => rfl
      | none => exact bind_pure _
  · rw [mapEnum, if_neg textual] at h
    by_cases whole : literals.all Json.isWhole
    · simp only [whole, ↓reduceIte, pure_eq_ok] at h
      obtain ⟨rfl, rfl⟩ := h
      exact ⟨[], .direct (by simp [direct?, textual, whole])⟩
    · by_cases number : literals.all Json.isNumber
      · simp only [whole, number, Bool.false_eq_true, ↓reduceIte, pure_eq_ok] at h
        obtain ⟨rfl, rfl⟩ := h
        exact ⟨[], .direct (by simp [direct?, textual, whole, number])⟩
      · simp only [whole, number, Bool.false_eq_true, ↓reduceIte] at h
        obtain ⟨rfl, same⟩ := degrade_ok h
        rw [same]
        exact ⟨[], .direct (by simp [direct?, textual, whole, number])⟩

theorem mapNode_maps {object : Label -> Nat -> String -> Step TypeRef}
    (objects : ∀ {label index hint w type w'}, object label index hint w = .ok type w' ->
      ∃ visits, Maps schema origin isInput (.node (.object label index) hint) w.registry visits type
        w'.registry)
    {node : Node} {hint : String} {w w' : Workshop} {type : TypeRef}
    (h : mapNode origin object node hint w = .ok type w') :
    ∃ visits, Maps schema origin isInput (.node node hint) w.registry visits type w'.registry := by
  induction node generalizing hint w type w' with
  | scalar label kind =>
      simp only [mapNode, pure_eq_ok] at h
      obtain ⟨rfl, rfl⟩ := h
      exact ⟨[], .direct rfl⟩
  | enum label kind literals => exact mapEnum_maps h
  | list label items ih =>
      simp only [mapNode, bind_eq_ok, pure_eq_ok] at h
      obtain ⟨item, w₁, mapped, rfl, rfl⟩ := h
      obtain ⟨visits, maps⟩ := ih mapped
      exact ⟨visits, .list maps⟩
  | openList label =>
      simp only [mapNode, pure_eq_ok] at h
      obtain ⟨rfl, rfl⟩ := h
      exact ⟨[], .direct rfl⟩
  | object label index => exact objects h
  | any label reason =>
      simp only [mapNode] at h
      obtain ⟨rfl, same⟩ := degrade_ok h
      rw [same]
      exact ⟨[], .direct rfl⟩

/-- Whatever the fuel, an object that is mapped is traversed. -/
theorem mapObject_maps {fuel : Nat} {label : Label} {index : Nat} {hint : String}
    {w w' : Workshop} {type : TypeRef}
    (h : mapObject schema origin isInput fuel label index hint w = .ok type w') :
    ∃ visits, Maps schema origin isInput (.node (.object label index) hint) w.registry visits type
      w'.registry := by
  induction fuel generalizing label index hint w type w' with
  | zero => simp [mapObject] at h
  | succ fuel ih =>
      by_cases empty : (schema.shape index).properties.isEmpty
      · simp only [mapObject, empty, ↓reduceIte] at h
        obtain ⟨rfl, same⟩ := degrade_ok h
        rw [same]
        exact ⟨[], .direct (by simp [direct?, empty])⟩
      · have named : role? schema isInput (.object label index) =
            some (if isInput then .input else .output) := by
          simp [role?, empty]
        refine named_maps (.object label index) (fun title owner => mapProperties isInput
          (mapNode origin (mapObject schema origin isInput fuel)) (schema.shape index).required
          title owner (schema.shape index).properties) named ?_ ?_
        · intro title owner w w' filled
          exact mapProperties_maps (mapNode_maps ih) filled
        · rw [← h]
          simp only [mapObject, empty]
          cases isInput <;> rfl

/-- A schema that is mapped is traversed from its root on. -/
theorem mapSchema_maps {hint : String} {required : Bool} {w w' : Workshop} {ref : TypeRef}
    (h : mapSchema schema origin isInput hint required w = .ok ref w') :
    ∃ visits type, ref = requireIf required type ∧
      Maps schema origin isInput (.node schema.root hint) w.registry visits type w'.registry := by
  simp only [mapSchema, bind_eq_ok, pure_eq_ok] at h
  obtain ⟨type, _, mapped, rfl, rfl⟩ := h
  obtain ⟨visits, maps⟩ := mapNode_maps mapObject_maps mapped
  exact ⟨visits, type, rfl, maps⟩

end Mapping

end GraphFacade
