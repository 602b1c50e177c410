import GraphFacade.Proofs.Types.Traversal

/-!
# How traversals stop

A mapping that fails leaves what it did before in the registry, and the next
one goes on from there.  What it visited up to the fault is described by a
relation beside that for traversals that end well.
-/

namespace GraphFacade

namespace Mapping

open Registry Workshop Steps

/--
Traversals of a schema that stop: the job, the registry it starts on, the visits
up to the fault, the fault and the registry that is left.
-/
inductive Stops (schema : Schema) (origin : Origin) (isInput : Bool) :
    Job -> Registry -> List Visit -> Fault -> Registry -> Prop
  | noTitle {node : Node} {hint : String} {role : Role} {r : Registry}
      (named : role? schema isInput node = some role)
      (refused : r.entitle origin node.label hint = none) :
      Stops schema origin isInput (.node node hint) r [] .wrongKind r
  | reserved {node : Node} {hint title : String} {role : Role} {r r' : Registry}
      (named : role? schema isInput node = some role)
      (titled : r.entitle origin node.label hint = some (title, r'))
      (free : r'.get? (r'.key title role) = none)
      (refused : (blank r' title role node).name ∈ reservedTypeNames) :
      Stops schema origin isInput (.node node hint) r
        [⟨schema, origin, isInput, node, r'.key title role⟩]
        (.reservedType (blank r' title role node).name) r'
  | endless {label : Label} {index : Nat} {hint : String} {r : Registry} :
      Stops schema origin isInput (.node (.object label index) hint) r [] .endless r
  | item {label : Label} {items : Node} {hint : String} {r r' : Registry} {visits : List Visit}
      {fault : Fault}
      (item : Stops schema origin isInput (.node items (hint ++ "_items")) r visits fault r') :
      Stops schema origin isInput (.node (.list label items) hint) r visits fault r'
  | body {node : Node} {hint title : String} {role : Role} {r r₁ r₂ : Registry}
      {visits : List Visit} {fault : Fault}
      (named : role? schema isInput node = some role)
      (titled : r.entitle origin node.label hint = some (title, r₁))
      (free : r₁.get? (r₁.key title role) = none)
      (allowed : (blank r₁ title role node).name ∉ reservedTypeNames)
      (body : Stops schema origin isInput
        (.properties (shapeOf schema node).required title r₁.nextRef
          (shapeOf schema node).properties)
        (r₁.establish (r₁.key title role) (blank r₁ title role node)) visits fault r₂) :
      Stops schema origin isInput (.node node hint) r
        (⟨schema, origin, isInput, node, r₁.key title role⟩ :: visits) fault r₂
  | first {required : List String} {title : String} {owner : TypeRef} {property : String × Node}
      {rest : List (String × Node)} {r r' : Registry} {visits : List Visit} {fault : Fault}
      (first : Stops schema origin isInput
        (.node property.2 (title ++ "_" ++ Name.ofText property.1)) r visits fault r') :
      Stops schema origin isInput (.properties required title owner (property :: rest)) r visits
        fault r'
  | later {required : List String} {title : String} {owner type : TypeRef}
      {property : String × Node} {rest : List (String × Node)} {r r₁ r₂ : Registry}
      {visits others : List Visit} {fault : Fault}
      (first : Maps schema origin isInput
        (.node property.2 (title ++ "_" ++ Name.ofText property.1)) r visits type r₁)
      (later : Stops schema origin isInput (.properties required title owner rest)
        (r₁.updateType owner (fieldFor isInput required property type)) others fault r₂) :
      Stops schema origin isInput (.properties required title owner (property :: rest)) r
        (visits ++ others) fault r₂

variable {schema : Schema} {origin : Origin} {isInput : Bool}

theorem degrade_ne_error {path reason : String} {w w' : Workshop} {fault : Fault} :
    degrade path reason w ≠ .error fault w' := by
  intro h
  simp only [degrade, bind_eq_error, report] at h
  simp at h

theorem mapProperties_stops {map : Node -> String -> Step TypeRef} {required : List String}
    {title : String} {owner : TypeRef} {properties : List (String × Node)} {w w' : Workshop}
    {fault : Fault}
    (maps : ∀ {node hint w type w'}, map node hint w = .ok type w' ->
      ∃ visits, Maps schema origin isInput (.node node hint) w.registry visits type w'.registry)
    (stops : ∀ {node hint w fault w'}, map node hint w = .error fault w' ->
      ∃ visits, Stops schema origin isInput (.node node hint) w.registry visits fault w'.registry)
    (h : mapProperties isInput map required title owner properties w = .error fault w') :
    ∃ visits, Stops schema origin isInput (.properties required title owner properties) w.registry
      visits fault w'.registry := by
  induction properties generalizing w with
  | nil => simp [mapProperties] at h
  | cons property rest ih =>
      rcases property with ⟨name, node⟩
      simp only [mapProperties] at h
      rcases bind_eq_error.mp h with failed | ⟨type, w₁, mapped, h⟩
      · obtain ⟨visits, first⟩ := stops failed
        exact ⟨visits, .first first⟩
      · rcases bind_eq_error.mp h with failed | ⟨_, w₂, changed, others⟩
        · simp [change] at failed
        · obtain ⟨visits, first⟩ := maps mapped
          obtain ⟨more, later⟩ := ih others
          simp only [change, EStateM.Result.ok.injEq] at changed
          rw [← changed.2] at later
          exact ⟨visits ++ more, .later first later⟩

/-- A node that needs a name fails for want of one, at its name, or in its body. -/
theorem named_stops (node : Node) (body : String -> TypeRef -> Step Unit) {hint : String}
    {role : Role} {w w' : Workshop} {fault : Fault}
    (named : role? schema isInput node = some role)
    (stops : ∀ {title owner w fault w'}, body title owner w = .error fault w' ->
      ∃ visits, Stops schema origin isInput
        (.properties (shapeOf schema node).required title owner (shapeOf schema node).properties)
        w.registry visits fault w'.registry)
    (h : (do
      let title <- textTitle origin node.label hint
      let r <- current
      match r.get? (r.key title role) with
      | some type => return type
      | none => do
          let owner <- makeType (r.key title role) (blank r title role node)
          body title owner
          return owner : Step TypeRef) w = .error fault w') :
    ∃ visits,
      Stops schema origin isInput (.node node hint) w.registry visits fault w'.registry := by
  rw [bind_apply, textTitle_eq] at h
  cases titled : w.registry.entitle origin node.label hint with
  | none =>
      simp only [titled, EStateM.Result.error.injEq] at h
      obtain ⟨rfl, rfl⟩ := h
      exact ⟨[], .noTitle named titled⟩
  | some result =>
      rcases result with ⟨title, r⟩
      simp only [titled, bind_apply, current] at h
      cases found : r.get? (r.key title role) with
      | some known => simp [found] at h
      | none =>
          simp only [found, bind_apply, makeType_eq] at h
          by_cases refused : (blank r title role node).name ∈ reservedTypeNames
          · simp only [List.contains_iff_mem.mpr refused, ↓reduceIte,
              EStateM.Result.error.injEq] at h
            obtain ⟨rfl, rfl⟩ := h
            exact ⟨_, .reserved named titled found refused⟩
          · simp only [List.contains_eq_mem, refused, decide_false, Bool.false_eq_true,
              ↓reduceIte] at h
            split at h
            · simp at h
            · rename_i cause w₁ failed
              simp only [EStateM.Result.error.injEq] at h
              obtain ⟨rfl, rfl⟩ := h
              obtain ⟨visits, stopped⟩ := stops failed
              exact ⟨_, .body named titled found refused stopped⟩

theorem mapEnum_stops {label : Label} {kind : Option ScalarKind} {literals : List Json}
    {hint : String} {w w' : Workshop} {fault : Fault}
    (h : mapEnum origin label literals hint w = .error fault w') :
    ∃ visits, Stops schema origin isInput (.node (.enum label kind literals) hint) w.registry visits
      fault w'.registry := by
  by_cases textual : literals.all Json.isText
  · have named : role? schema isInput (.enum label kind literals) = some .enum := by
      simp [role?, textual]
    refine named_stops _ (fun _ _ => pure ()) named ?_ ?_
    · intro title owner w fault w' h
      simp at h
    · rw [mapEnum, if_pos textual] at h
      rw [← h]
      refine congrFun (congrArg _ (funext fun title => congrArg _ (funext fun r => ?_))) w
      dsimp only
      cases r.get? (r.key title .enum) with
      | some type => rfl
      | none => exact bind_pure _
  · rw [mapEnum, if_neg textual] at h
    split at h
    · simp at h
    · split at h
      · simp at h
      · exact absurd h degrade_ne_error

theorem mapNode_stops {object : Label -> Nat -> String -> Step TypeRef}
    (objects : ∀ {label index hint w fault w'}, object label index hint w = .error fault w' ->
      ∃ visits, Stops schema origin isInput (.node (.object label index) hint) w.registry visits
        fault w'.registry)
    {node : Node} {hint : String} {w w' : Workshop} {fault : Fault}
    (h : mapNode origin object node hint w = .error fault w') :
    ∃ visits,
      Stops schema origin isInput (.node node hint) w.registry visits fault w'.registry := by
  induction node generalizing hint w w' with
  | enum label kind literals => exact mapEnum_stops h
  | list label items ih =>
      rcases bind_eq_error.mp h with failed | ⟨item, w₁, _, ended⟩
      · obtain ⟨visits, stopped⟩ := ih failed
        exact ⟨visits, .item stopped⟩
      · simp at ended
  | object label index => exact objects h
  | any label reason => exact absurd h degrade_ne_error
  | _ => simp [mapNode] at h

theorem mapObject_stops {fuel : Nat} {label : Label} {index : Nat} {hint : String}
    {w w' : Workshop} {fault : Fault}
    (h : mapObject schema origin isInput fuel label index hint w = .error fault w') :
    ∃ visits, Stops schema origin isInput (.node (.object label index) hint) w.registry visits fault
      w'.registry := by
  induction fuel generalizing label index hint w fault w' with
  | zero =>
      simp only [mapObject, throw_eq_error] at h
      obtain ⟨rfl, rfl⟩ := h
      exact ⟨[], .endless⟩
  | succ fuel ih =>
      by_cases empty : (schema.shape index).properties.isEmpty
      · simp only [mapObject, empty, ↓reduceIte] at h
        exact absurd h degrade_ne_error
      · have named : role? schema isInput (.object label index) =
            some (if isInput then .input else .output) := by
          simp [role?, empty]
        refine named_stops (.object label index) (fun title owner => mapProperties isInput
          (mapNode origin (mapObject schema origin isInput fuel)) (schema.shape index).required
          title owner (schema.shape index).properties) named ?_ ?_
        · intro title owner w fault w' failed
          exact mapProperties_stops (mapNode_maps mapObject_maps) (mapNode_stops ih) failed
        · rw [← h]
          simp only [mapObject, empty]
          cases isInput <;> rfl

/-- A schema whose mapping fails is traversed from its root up to the fault. -/
theorem mapSchema_stops {hint : String} {required : Bool} {w w' : Workshop} {fault : Fault}
    (h : mapSchema schema origin isInput hint required w = .error fault w') :
    ∃ visits, Stops schema origin isInput (.node schema.root hint) w.registry visits fault
      w'.registry := by
  rcases bind_eq_error.mp h with failed | ⟨type, w₁, _, ended⟩
  · exact mapNode_stops mapObject_stops failed
  · simp at ended

end Mapping

end GraphFacade
