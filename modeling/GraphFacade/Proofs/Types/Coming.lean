import GraphFacade.Proofs.Types.Stopping

/-!
# The nodes that a mapping comes to

Mapping a schema is doing jobs: mapping a node, or the remaining properties of
an object.  Each kind of job is opened by one equation.  On its way a job comes
to further nodes, whose mappings are jobs that it waits for, whether it ends well
itself or not.
-/

namespace GraphFacade

namespace Mapping

open Registry Workshop Steps

/-! ## Jobs -/

/-- Do a job; what is left of the properties of an object ends in its type. -/
def work (schema : Schema) (origin : Origin) (isInput : Bool) (fuel : Nat) : Job -> Step TypeRef
  | .node node hint => mapNode origin (mapObject schema origin isInput fuel) node hint
  | .properties required title owner rest => do
      mapProperties isInput (mapNode origin (mapObject schema origin isInput fuel)) required title
        owner rest
      return owner

def left {α : Type} (step : Step α) (w : Workshop) : Workshop :=
  match step w with
  | .ok _ w' | .error _ w' => w'

def propertyHint (title : String) (property : String × Node) : String :=
  title ++ "_" ++ Name.ofText property.1

variable {schema : Schema} {origin : Origin} {isInput : Bool} {fuel : Nat} {w : Workshop}
  {node : Node} {hint : String}

theorem work_direct {type : TypeRef} (h : direct? schema node = some type) :
    ∃ log, work schema origin isInput (fuel + 1) (.node node hint) w =
      .ok type ⟨w.registry, log⟩ := by
  cases node with
  | scalar label kind | openList label | any label reason =>
      rw [← Option.some.inj h]
      exact ⟨_, rfl⟩
  | list => simp [direct?] at h
  | enum label kind literals =>
      simp only [direct?] at h
      simp only [work, mapNode, mapEnum]
      split at h
      · simp at h
      · split at h
        · rename_i textual whole
          rw [← Option.some.inj h, if_neg textual, if_pos whole]
          exact ⟨_, rfl⟩
        · split at h
          · rename_i textual whole number
            rw [← Option.some.inj h, if_neg textual, if_neg whole, if_pos number]
            exact ⟨_, rfl⟩
          · rename_i textual whole number
            rw [← Option.some.inj h, if_neg textual, if_neg whole, if_neg number]
            exact ⟨_, rfl⟩
  | object label index =>
      simp only [direct?] at h
      split at h
      · rename_i empty
        rw [← Option.some.inj h]
        simp only [work, mapNode, mapObject, empty, ↓reduceIte]
        exact ⟨_, rfl⟩
      · simp at h

/-- A list waits for its items. -/
theorem work_list {label : Label} {items : Node} :
    work schema origin isInput fuel (.node (.list label items) hint) w =
      match work schema origin isInput fuel (.node items (hint ++ "_items")) w with
      | .ok item w' => .ok (.list item) w'
      | .error fault w' => .error fault w' := by
  simp only [work, mapNode, bind_apply]
  cases mapNode origin (mapObject schema origin isInput fuel) items (hint ++ "_items") w <;> rfl

/-- A node that needs a name gets a title, then its type, which is made if there is none. -/
theorem work_named {role : Role} (named : role? schema isInput node = some role) :
    work schema origin isInput (fuel + 1) (.node node hint) w =
      match w.registry.entitle origin node.label hint with
      | none => .error .wrongKind w
      | some (title, r) =>
          match r.get? (r.key title role) with
          | some type => .ok type ⟨r, w.log⟩
          | none =>
              if (blank r title role node).name ∈ reservedTypeNames then
                .error (.reservedType (blank r title role node).name) ⟨r, w.log⟩
              else
                work schema origin isInput fuel
                  (.properties (shapeOf schema node).required title r.nextRef
                    (shapeOf schema node).properties)
                  ⟨r.establish (r.key title role) (blank r title role node), w.log⟩ := by
  let body (title : String) (owner : TypeRef) : Step Unit :=
    mapProperties isInput (mapNode origin (mapObject schema origin isInput fuel))
      (shapeOf schema node).required title owner (shapeOf schema node).properties
  have block : mapNode origin (mapObject schema origin isInput (fuel + 1)) node hint = (do
      let title <- textTitle origin node.label hint
      let r <- current
      match r.get? (r.key title role) with
      | some type => return type
      | none => do
          let owner <- makeType (r.key title role) (blank r title role node)
          body title owner
          return owner : Step TypeRef) := by
    cases node with
    | enum label kind literals =>
        simp only [role?] at named
        split at named
        · rename_i textual
          obtain rfl := Option.some.inj named
          rw [mapNode, mapEnum, if_pos textual]
          refine congrArg _ (funext fun title => congrArg _ (funext fun r => ?_))
          dsimp only
          cases r.get? (r.key title .enum) with
          | some type => rfl
          | none => exact (bind_pure _).symm
        · simp at named
    | object label index =>
        simp only [role?] at named
        split at named
        · simp at named
        · rename_i some'
          obtain rfl := Option.some.inj named
          simp only [mapNode, mapObject, some']
          cases isInput <;> rfl
    | _ => simp [role?] at named
  rw [work, block, bind_apply, textTitle_eq]
  cases w.registry.entitle origin node.label hint with
  | none => rfl
  | some titled =>
      rcases titled with ⟨title, r⟩
      simp only [bind_apply, current]
      cases r.get? (r.key title role) with
      | some type => rfl
      | none =>
          simp only [bind_apply, makeType_eq, List.contains_eq_mem, decide_eq_true_eq]
          by_cases reserved : (blank r title role node).name ∈ reservedTypeNames
          · simp only [reserved, ↓reduceIte]
          · simp only [reserved, ↓reduceIte]
            rfl

theorem work_done {required : List String} {title : String} {owner : TypeRef} :
    work schema origin isInput fuel (.properties required title owner []) w = .ok owner w :=
  rfl

/-- A property is mapped and becomes a field before the others are looked at. -/
theorem work_property {required : List String} {title : String} {owner : TypeRef}
    {property : String × Node} {rest : List (String × Node)} :
    work schema origin isInput fuel (.properties required title owner (property :: rest)) w =
      match work schema origin isInput fuel (.node property.2 (propertyHint title property)) w with
      | .ok type w' =>
          work schema origin isInput fuel (.properties required title owner rest)
            ⟨w'.registry.updateType owner (fieldFor isInput required property type), w'.log⟩
      | .error fault w' => .error fault w' := by
  simp only [work, mapProperties, bind_apply, change, propertyHint]
  cases mapNode origin (mapObject schema origin isInput fuel) property.2
    (title ++ "_" ++ Name.ofText property.1) w <;> rfl

/-- Mapping a schema is mapping its root. -/
theorem mapSchema_eq {required : Bool} :
    mapSchema schema origin isInput hint required w =
      match work schema origin isInput (schema.shapes.size + 1) (.node schema.root hint) w with
      | .ok type w' => .ok (requireIf required type) w'
      | .error fault w' => .error fault w' := by
  rw [mapSchema, bind_apply, work]
  cases mapNode origin (mapObject schema origin isInput (schema.shapes.size + 1)) schema.root hint
    w <;> rfl

/-! ## Jobs and traversals -/

theorem work_maps {job : Job} {type : TypeRef} {w' : Workshop}
    (h : work schema origin isInput fuel job w = .ok type w') :
    ∃ visits, Maps schema origin isInput job w.registry visits type w'.registry := by
  cases job with
  | node node hint => exact mapNode_maps mapObject_maps h
  | properties required title owner rest =>
      obtain ⟨_, w₁, mapped, ended⟩ := bind_eq_ok.mp h
      obtain ⟨rfl, rfl⟩ := pure_eq_ok.mp ended
      exact mapProperties_maps (mapNode_maps mapObject_maps) mapped

theorem work_stops {job : Job} {fault : Fault} {w' : Workshop}
    (h : work schema origin isInput fuel job w = .error fault w') :
    ∃ visits, Stops schema origin isInput job w.registry visits fault w'.registry := by
  cases job with
  | node node hint => exact mapNode_stops mapObject_stops h
  | properties required title owner rest =>
      rcases bind_eq_error.mp h with stopped | ⟨_, w₁, _, ended⟩
      · exact mapProperties_stops (mapNode_maps mapObject_maps) (mapNode_stops mapObject_stops)
          stopped
      · simp at ended

/-! ## What a job comes to -/

/--
A job comes to a node: on its way, with that much fuel and that workshop, the
node is mapped.
-/
inductive Comes (schema : Schema) (origin : Origin) (isInput : Bool) :
    Nat -> Job -> Workshop -> Nat -> Node -> String -> Workshop -> Prop
  | here {fuel : Nat} {node : Node} {hint : String} {w : Workshop} :
      Comes schema origin isInput fuel (.node node hint) w fuel node hint w
  | item {fuel fuel' : Nat} {label : Label} {items node : Node} {hint hint' : String}
      {w w' : Workshop}
      (inside : Comes schema origin isInput fuel (.node items (hint ++ "_items")) w fuel' node
        hint' w') :
      Comes schema origin isInput fuel (.node (.list label items) hint) w fuel' node hint' w'
  | body {fuel fuel' : Nat} {owner node : Node} {hint hint' title : String} {role : Role}
      {r : Registry} {w w' : Workshop}
      (named : role? schema isInput owner = some role)
      (titled : w.registry.entitle origin owner.label hint = some (title, r))
      (free : r.get? (r.key title role) = none)
      (allowed : (blank r title role owner).name ∉ reservedTypeNames)
      (inside : Comes schema origin isInput fuel
        (.properties (shapeOf schema owner).required title r.nextRef
          (shapeOf schema owner).properties)
        ⟨r.establish (r.key title role) (blank r title role owner), w.log⟩ fuel' node hint' w') :
      Comes schema origin isInput (fuel + 1) (.node owner hint) w fuel' node hint' w'
  | first {fuel fuel' : Nat} {required : List String} {title : String} {owner : TypeRef}
      {property : String × Node} {rest : List (String × Node)} {node : Node} {hint' : String}
      {w w' : Workshop}
      (inside : Comes schema origin isInput fuel (.node property.2 (propertyHint title property)) w
        fuel' node hint' w') :
      Comes schema origin isInput fuel (.properties required title owner (property :: rest)) w
        fuel' node hint' w'
  | later {fuel fuel' : Nat} {required : List String} {title : String} {owner type : TypeRef}
      {property : String × Node} {rest : List (String × Node)} {node : Node} {hint' : String}
      {w w₁ w' : Workshop}
      (mapped : work schema origin isInput fuel (.node property.2 (propertyHint title property)) w =
        .ok type w₁)
      (inside : Comes schema origin isInput fuel (.properties required title owner rest)
        ⟨w₁.registry.updateType owner (fieldFor isInput required property type), w₁.log⟩ fuel'
        node hint' w') :
      Comes schema origin isInput fuel (.properties required title owner (property :: rest)) w
        fuel' node hint' w'

end Mapping

end GraphFacade
