import GraphFacade.Proofs.Schema.Labelling
import GraphFacade.Proofs.Schema.Trees
import GraphFacade.Proofs.Types.Coming
import GraphFacade.Proofs.Types.Order
import GraphFacade.Proofs.Unseen

/-!
# Which schemas have types

Mapping a schema fails only at a node that needs a name and cannot have one: its
title is no text, or its name is reserved.  It never runs out of fuel, since the
objects that are mapped at once are all different: an object that is met again
has its type already.
-/

namespace GraphFacade

namespace Mapping

open Registry Workshop Steps

/-! ## Refused nodes -/

/-- A node needs a name that it cannot have. -/
inductive Refused (schema : Schema) (origin : Origin) (isInput : Bool) (node : Node)
    (hint : String) (r : Registry) : Fault -> Prop
  | noText {role : Role} {title : Json} (named : role? schema isInput node = some role)
      (own : node.label.title = some title) (other : ∀ s, title ≠ .text s) :
      Refused schema origin isInput node hint r .wrongKind
  | reserved {role : Role} {title : String} {r' : Registry}
      (named : role? schema isInput node = some role)
      (titled : r.entitle origin node.label hint = some (title, r'))
      (free : r'.get? (r'.key title role) = none)
      (taken : r.typeName title role ∈ reservedTypeNames) :
      Refused schema origin isInput node hint r (.reservedType (r.typeName title role))

variable {schema : Schema} {origin : Origin} {isInput : Bool} {node : Node} {hint : String}
  {r r' : Registry} {fault : Fault} {w w' : Workshop} {labels : List Label} {fuel : Nat}

theorem Refused.fails (h : Refused schema origin isInput node hint w.registry fault) :
    ∃ w', work schema origin isInput (fuel + 1) (.node node hint) w = .error fault w' := by
  cases h with
  | @noText role title named own other =>
      have missing : w.registry.entitle origin node.label hint = none := by
        unfold entitle
        rw [own]
        split
        · rename_i absent
          simp at absent
        · rename_i s text
          exact absurd (Option.some.inj text) (other s)
        · rfl
      exact ⟨w, by rw [work_named named, missing]⟩
  | @reserved role title r' named titled free taken =>
      have same : (blank r' title role node).name = w.registry.typeName title role := by
        rw [name_blank, (entitle_extends titled).typeName]
      refine ⟨⟨r', w.log⟩, ?_⟩
      rw [work_named named, titled]
      simp only [free, same, taken, ↓reduceIte]

theorem refused_of_entitle (named : (role? schema isInput node).isSome)
    (missing : r.entitle origin node.label hint = none) :
    Refused schema origin isInput node hint r .wrongKind := by
  obtain ⟨role, named⟩ := Option.isSome_iff_exists.mp named
  unfold entitle at missing
  split at missing
  · split at missing <;> simp at missing
  · simp at missing
  · rename_i title other own
    exact .noText named own other

/-- The node that a job comes to decides over the job if its mapping fails. -/
theorem Comes.fails {job : Job} {fuel' : Nat} {w₁ w₂ : Workshop}
    (h : Comes schema origin isInput fuel job w fuel' node hint w₁)
    (failed : work schema origin isInput fuel' (.node node hint) w₁ = .error fault w₂) :
    work schema origin isInput fuel job w = .error fault w₂ := by
  induction h with
  | here => exact failed
  | item _ ih => rw [work_list, ih failed]
  | body named titled free allowed _ ih =>
      rw [work_named named, titled]
      simp only [free, allowed, ↓reduceIte]
      exact ih failed
  | first _ ih => rw [work_property, ih failed]
  | later mapped _ ih =>
      rw [work_property, mapped]
      exact ih failed

/-! ## Objects that have no type yet -/

def placed (r : Registry) (origin : Origin) (isInput : Bool) (label : Label) : Bool :=
  match r.titleGiven? origin label with
  | some title => (r.get? (r.key title (if isInput then .input else .output))).isSome
  | none => false

def placedNumbers (labels : List Label) (origin : Origin) (isInput : Bool) (r : Registry) :
    List Nat :=
  (List.range labels.length).filter fun index => labels[index]?.any (placed r origin isInput)

def pending (labels : List Label) (origin : Origin) (isInput : Bool) (r : Registry) : Nat :=
  unseen (List.range labels.length) (placedNumbers labels origin isInput r)

theorem mem_placedNumbers {index : Nat} :
    index ∈ placedNumbers labels origin isInput r ↔
      ∃ label, labels[index]? = some label ∧ placed r origin isInput label = true := by
  simp only [placedNumbers, List.mem_filter, List.mem_range, Option.any_eq_true]
  constructor
  · exact fun h => h.2
  · rintro ⟨label, listed, there⟩
    exact ⟨(List.getElem?_eq_some_iff.mp listed).choose, label, listed, there⟩

theorem placed_mono (grown : Registry.Extends r r') {label : Label}
    (h : placed r origin isInput label = true) : placed r' origin isInput label = true := by
  unfold placed at h ⊢
  split at h
  · rename_i title given
    obtain ⟨type, found⟩ := Option.isSome_iff_exists.mp h
    rw [grown.titleGiven? given]
    simp only [grown.key, grown.get? found, Option.isSome_some]
  · simp at h

theorem placedNumbers_mono (grown : Registry.Extends r r') :
    placedNumbers labels origin isInput r ⊆ placedNumbers labels origin isInput r' := by
  intro index member
  obtain ⟨label, listed, there⟩ := mem_placedNumbers.mp member
  exact mem_placedNumbers.mpr ⟨label, listed, placed_mono grown there⟩

theorem pending_le (grown : Registry.Extends r r') :
    pending labels origin isInput r' ≤ pending labels origin isInput r :=
  unseen_le (placedNumbers_mono grown)

/-- An object that gets a type is one fewer to go. -/
theorem pending_establish {label : Label} {index : Nat} {title : String} {role : Role}
    (listed : labels[index]? = some label) (isRole : role = if isInput then .input else .output)
    (titled : r.entitle origin label hint = some (title, r')) (free : r'.get? (r'.key title role) = none)
    (type : NamedType) :
    pending labels origin isInput (r'.establish (r'.key title role) type) <
      pending labels origin isInput r := by
  subst isRole
  have given := titleGiven?_of_entitle titled
  have grown := establish_extends type free
  have new : ¬ placed r origin isInput label = true := fun there => by
    have there' := placed_mono (entitle_extends titled) there
    unfold placed at there'
    rw [given] at there'
    simp [free] at there'
  have made : placed (r'.establish (r'.key title (if isInput then .input else .output)) type) origin
      isInput label = true := by
    unfold placed
    rw [grown.titleGiven? given]
    simp only [grown.key, get?_establish type free, Option.isSome_some]
  refine unseen_lt (List.mem_range.mpr (List.getElem?_eq_some_iff.mp listed).choose) ?_
    (placedNumbers_mono ((entitle_extends titled).trans grown))
    (mem_placedNumbers.mpr ⟨label, listed, made⟩)
  intro member
  obtain ⟨label', listed', there⟩ := mem_placedNumbers.mp member
  rw [listed, Option.some.injEq] at listed'
  exact new (listed' ▸ there)

def Job.Fits (labels : List Label) : Job -> Prop
  | .node node _ => node.Fits labels
  | .properties _ _ _ rest => ∀ property ∈ rest, property.2.Fits labels

/-- There is fuel for all objects that have no type yet, and one more. -/
structure Enough (labels : List Label) (origin : Origin) (isInput : Bool) (fuel : Nat) (job : Job)
    (r : Registry) : Prop where
  fits : job.Fits labels
  fuel : pending labels origin isInput r < fuel

theorem enough_root (labelled : schema.Labelled labels) :
    Enough labels origin isInput (schema.shapes.size + 1) (.node schema.root hint) r := by
  refine ⟨labelled.root, Nat.lt_succ_of_le ?_⟩
  have all : pending labels origin isInput r ≤ (List.range labels.length).length :=
    List.countP_le_length
  rwa [List.length_range, labelled.size] at all

/-- The properties of an object need less fuel than the object. -/
theorem Enough.body (labelled : schema.Labelled labels) {role : Role} {title : String}
    {hint : String} (h : Enough labels origin isInput (fuel + 1) (.node node hint) r)
    (named : role? schema isInput node = some role)
    (titled : r.entitle origin node.label hint = some (title, r'))
    (free : r'.get? (r'.key title role) = none) :
    (shapeOf schema node).properties = [] ∨
      Enough labels origin isInput fuel
        (.properties (shapeOf schema node).required title r'.nextRef
          (shapeOf schema node).properties)
        (r'.establish (r'.key title role) (blank r' title role node)) := by
  cases node with
  | object label index =>
      have isRole : role = if isInput then .input else .output := by
        simp only [role?] at named
        split at named
        · simp at named
        · exact (Option.some.inj named).symm
      have fewer := pending_establish h.fits isRole titled free
        (blank r' title role (.object label index))
      exact .inr ⟨labelled.shape index, Nat.lt_of_lt_of_le fewer (Nat.le_of_lt_succ h.fuel)⟩
  | enum => exact .inl rfl
  | _ => simp [role?] at named

theorem Enough.first {required : List String} {title : String} {owner : TypeRef}
    {property : String × Node} {rest : List (String × Node)} (hint : String)
    (h : Enough labels origin isInput fuel (.properties required title owner (property :: rest)) r) :
    Enough labels origin isInput fuel (.node property.2 hint) r :=
  ⟨h.fits property List.mem_cons_self, h.fuel⟩

theorem Enough.later {required : List String} {title : String} {owner : TypeRef}
    {property : String × Node} {rest : List (String × Node)}
    (h : Enough labels origin isInput fuel (.properties required title owner (property :: rest)) r)
    (grown : Registry.Extends r r') :
    Enough labels origin isInput fuel (.properties required title owner rest) r' :=
  ⟨fun other member => h.fits other (List.mem_cons_of_mem _ member),
    Nat.lt_of_le_of_lt (pending_le grown) h.fuel⟩

/-- Where a job comes to, there is still enough fuel. -/
theorem Comes.enough {job : Job} {fuel' : Nat}
    (h : Comes schema origin isInput fuel job w fuel' node hint w') (labelled : schema.Labelled labels)
    (enough : Enough labels origin isInput fuel job w.registry) :
    Enough labels origin isInput fuel' (.node node hint) w'.registry := by
  induction h with
  | here => exact enough
  | item _ ih => exact ih ⟨enough.fits, enough.fuel⟩
  | body named titled free _ inside ih =>
      rcases enough.body labelled named titled free with empty | less
      · rw [empty] at inside
        cases inside
      · exact ih less
  | first _ ih => exact ih (enough.first _)
  | @later fuel fuel' required title owner type property rest node hint' w w₁ w' mapped _ ih =>
      obtain ⟨visits, maps⟩ := work_maps mapped
      exact ih (enough.later (maps.extends.trans (updateType_extends _ _ _)))

/-! ## How mapping fails -/

theorem node_cases (schema : Schema) (isInput : Bool) (node : Node) :
    (∃ label items, node = .list label items) ∨ (∃ type, direct? schema node = some type) ∨
      ∃ role, role? schema isInput node = some role := by
  cases node with
  | list label items => exact .inl ⟨label, items, rfl⟩
  | enum label kind literals =>
      by_cases textual : literals.all Json.isText
      · exact .inr (.inr ⟨.enum, by simp [role?, textual]⟩)
      · refine .inr (.inl ?_)
        simp only [direct?, textual, Bool.false_eq_true, ↓reduceIte]
        split
        · exact ⟨_, rfl⟩
        · split <;> exact ⟨_, rfl⟩
  | object label index =>
      by_cases empty : (schema.shape index).properties.isEmpty
      · exact .inr (.inl ⟨.json, by simp [direct?, empty]⟩)
      · exact .inr (.inr ⟨_, by simp [role?, empty]; rfl⟩)
  | scalar | openList | any => exact .inr (.inl ⟨_, rfl⟩)

/-- A job comes to a node that is refused with a fault. -/
def Meets (schema : Schema) (origin : Origin) (isInput : Bool) (fuel : Nat) (job : Job)
    (w : Workshop) (fault : Fault) : Prop :=
  ∃ fuel' node hint w', Comes schema origin isInput fuel job w fuel' node hint w' ∧
    Refused schema origin isInput node hint w'.registry fault

section Nodes

variable (labelled : schema.Labelled labels)
  (bodies : ∀ {required title owner rest w fault w'},
    Enough labels origin isInput fuel (.properties required title owner rest) w.registry ->
    work schema origin isInput fuel (.properties required title owner rest) w = .error fault w' ->
    Meets schema origin isInput fuel (.properties required title owner rest) w fault)

include labelled bodies

/-- A node that needs a name is refused, or fails at one of its properties. -/
theorem named_meets {role : Role} (named : role? schema isInput node = some role)
    (enough : Enough labels origin isInput (fuel + 1) (.node node hint) w.registry)
    (h : work schema origin isInput (fuel + 1) (.node node hint) w = .error fault w') :
    Meets schema origin isInput (fuel + 1) (.node node hint) w fault := by
  rw [work_named named] at h
  cases titled : w.registry.entitle origin node.label hint with
  | none =>
      simp only [titled, EStateM.Result.error.injEq] at h
      rw [← h.1]
      exact ⟨_, _, _, _, .here, refused_of_entitle (by simp [named]) titled⟩
  | some entitled =>
      rcases entitled with ⟨title, r⟩
      simp only [titled] at h
      cases free : r.get? (r.key title role) with
      | some type => simp [free] at h
      | none =>
          simp only [free] at h
          by_cases reserved : (blank r title role node).name ∈ reservedTypeNames
          · simp only [reserved, ↓reduceIte, EStateM.Result.error.injEq] at h
            have same : (blank r title role node).name = w.registry.typeName title role := by
              rw [name_blank, (entitle_extends titled).typeName]
            rw [same] at reserved h
            rw [← h.1]
            exact ⟨_, _, _, _, .here, .reserved named titled free reserved⟩
          · simp only [reserved, ↓reduceIte] at h
            rcases enough.body labelled named titled free with empty | less
            · rw [empty, work_done] at h
              simp at h
            · obtain ⟨fuel', node', hint', w₂, comes, refused⟩ := bodies less h
              exact ⟨fuel', node', hint', w₂, .body named titled free reserved comes, refused⟩

/-- A node that is no list fails if it is refused, or at one of its properties. -/
theorem plain_meets (plain : ∀ label items, node ≠ .list label items)
    (enough : Enough labels origin isInput (fuel + 1) (.node node hint) w.registry)
    (h : work schema origin isInput (fuel + 1) (.node node hint) w = .error fault w') :
    Meets schema origin isInput (fuel + 1) (.node node hint) w fault := by
  rcases node_cases schema isInput node with ⟨label, items, list⟩ | ⟨type, direct⟩ | ⟨role, named⟩
  · exact absurd list (plain label items)
  · obtain ⟨log, returns⟩ : ∃ log, work schema origin isInput (fuel + 1) (.node node hint) w =
        .ok type ⟨w.registry, log⟩ := work_direct direct
    simp [returns] at h
  · exact named_meets labelled bodies named enough h

theorem node_meets (enough : Enough labels origin isInput (fuel + 1) (.node node hint) w.registry)
    (h : work schema origin isInput (fuel + 1) (.node node hint) w = .error fault w') :
    Meets schema origin isInput (fuel + 1) (.node node hint) w fault := by
  induction node generalizing hint w' with
  | list label items ih =>
      rw [work_list] at h
      cases mapped : work schema origin isInput (fuel + 1) (.node items (hint ++ "_items")) w with
      | ok item w₁ => simp [mapped] at h
      | error fault' w₁ =>
          simp only [mapped, EStateM.Result.error.injEq] at h
          obtain ⟨rfl, rfl⟩ := h
          obtain ⟨fuel', node, hint', w₂, comes, refused⟩ := ih ⟨enough.fits, enough.fuel⟩ mapped
          exact ⟨fuel', node, hint', w₂, .item comes, refused⟩
  | _ => exact plain_meets labelled bodies (by simp) enough h

end Nodes

/-- Mapping properties fails at a refused node if mapping nodes does. -/
theorem properties_meets
    (nodes : ∀ {node hint w fault w'}, Enough labels origin isInput fuel (.node node hint) w.registry ->
      work schema origin isInput fuel (.node node hint) w = .error fault w' ->
      Meets schema origin isInput fuel (.node node hint) w fault)
    {required : List String} {title : String} {owner : TypeRef} {rest : List (String × Node)}
    (enough : Enough labels origin isInput fuel (.properties required title owner rest) w.registry)
    (h : work schema origin isInput fuel (.properties required title owner rest) w =
      .error fault w') :
    Meets schema origin isInput fuel (.properties required title owner rest) w fault := by
  induction rest generalizing w with
  | nil => simp [work_done] at h
  | cons property rest ih =>
      rw [work_property] at h
      cases mapped : work schema origin isInput fuel (.node property.2 (propertyHint title property))
          w with
      | error fault' w₁ =>
          simp only [mapped, EStateM.Result.error.injEq] at h
          obtain ⟨rfl, rfl⟩ := h
          obtain ⟨fuel', node, hint', w₂, comes, refused⟩ := nodes (enough.first _) mapped
          exact ⟨fuel', node, hint', w₂, .first comes, refused⟩
      | ok type w₁ =>
          simp only [mapped] at h
          obtain ⟨visits, maps⟩ := work_maps mapped
          have grown := maps.extends.trans
            (updateType_extends w₁.registry owner (fieldFor isInput required property type))
          obtain ⟨fuel', node, hint', w₂, comes, refused⟩ :=
            ih (w := ⟨_, w₁.log⟩) (enough.later grown) h
          exact ⟨fuel', node, hint', w₂, .later mapped comes, refused⟩

/-- With enough fuel a job fails only at a node that is refused. -/
theorem work_meets (labelled : schema.Labelled labels) (job : Job)
    (enough : Enough labels origin isInput fuel job w.registry)
    (h : work schema origin isInput fuel job w = .error fault w') :
    Meets schema origin isInput fuel job w fault := by
  induction fuel generalizing job w fault w' with
  | zero => exact absurd enough.fuel (Nat.not_lt_zero _)
  | succ fuel ih =>
      cases job with
      | node node hint => exact node_meets labelled (ih _) enough h
      | properties required title owner rest =>
          exact properties_meets (node_meets labelled (ih _)) enough h

/--
A schema whose objects are told apart by their numbers is mapped to a type, on
any registry and for any hint, unless the mapping comes to a node that is
refused; then that is the fault.
-/
theorem mapSchema_fails_iff (labelled : schema.Labelled labels) {required : Bool} :
    (∃ w', mapSchema schema origin isInput hint required w = .error fault w') ↔
      Meets schema origin isInput (schema.shapes.size + 1) (.node schema.root hint) w fault := by
  have enough : Enough labels origin isInput (schema.shapes.size + 1) (.node schema.root hint)
      w.registry := enough_root labelled
  rw [mapSchema_eq]
  constructor
  · rintro ⟨w', h⟩
    cases mapped : work schema origin isInput (schema.shapes.size + 1) (.node schema.root hint) w with
    | ok type w₁ => simp [mapped] at h
    | error fault' w₁ =>
        simp only [mapped, EStateM.Result.error.injEq] at h
        obtain ⟨rfl, rfl⟩ := h
        exact work_meets labelled _ enough mapped
  · rintro ⟨fuel', node, hint', w₁, comes, refused⟩
    obtain ⟨fuel'', rfl⟩ := Nat.exists_eq_add_one_of_ne_zero
      (Nat.ne_of_gt (Nat.lt_of_le_of_lt (Nat.zero_le _) (comes.enough labelled enough).fuel))
    obtain ⟨w₂, failed⟩ := refused.fails
    exact ⟨w₂, by rw [comes.fails failed]⟩

/--
A JSON value describes a schema, and the schema has a type, on any registry, for
any hint and on either side, with these exceptions only: an object whose
properties are something else that counts as true has no schema, nor has a value
of no form whose tag holds an integer too long to be told; and mapping fails where
it comes to an enumeration or an object that needs a name and has a title that is
no text, or whose name would be a reserved one.
-/
theorem ofJson_mapped (j : Json) :
    ((∃ schema, Schema.ofValue (Document.ofJson j).graph (Document.ofJson j).root = .ok schema) ↔
      ∀ inner, Schema.Reading.Under (Document.ofJson j).graph (Document.ofJson j).root inner ->
        ¬ Schema.Reading.Malformed (Document.ofJson j).graph inner ∧
          ¬ Schema.Reading.Untold (Document.ofJson j).graph inner) ∧
    (∀ fault, Schema.ofValue (Document.ofJson j).graph (Document.ofJson j).root = .error fault ->
      ∃ inner, Schema.Reading.Under (Document.ofJson j).graph (Document.ofJson j).root inner ∧
        (fault = .noEntries ∧ Schema.Reading.Malformed (Document.ofJson j).graph inner ∨
          fault = .badNumeral ∧ Schema.Reading.Untold (Document.ofJson j).graph inner)) ∧
    ∀ schema, Schema.ofValue (Document.ofJson j).graph (Document.ofJson j).root = .ok schema ->
      ∀ origin isInput hint required w fault,
        (∃ w', mapSchema schema origin isInput hint required w = .error fault w') ↔
          Meets schema origin isInput (schema.shapes.size + 1) (.node schema.root hint) w fault := by
  obtain ⟨returns, fails⟩ := Schema.ofValue_ofJson j
  refine ⟨returns, fails, fun schema read origin isInput hint required w fault => ?_⟩
  obtain ⟨labels, labelled⟩ := Schema.ofValue_labelled read
  exact mapSchema_fails_iff labelled

def namedString : Json :=
  .dict [("type", .text "object"), ("title", .text "String"),
    ("properties", .dict [("a", .dict [("type", .text "string")])])]

/-- The object has a schema, and no type: its root is refused on a new registry. -/
theorem ofJson_mapped_namedString :
    ∃ schema w', Schema.ofValue (Document.ofJson namedString).graph
        (Document.ofJson namedString).root = .ok schema ∧
      Meets schema ⟨.null, 0⟩ false (schema.shapes.size + 1) (.node schema.root "r") {}
        (.reservedType "String") ∧
      mapSchema schema ⟨.null, 0⟩ false "r" false {} = .error (.reservedType "String") w' := by
  have shown : (Schema.ofValue (Document.ofJson namedString).graph
      (Document.ofJson namedString).root).toOption.any fun schema =>
        (failed? (mapSchema schema ⟨.null, 0⟩ false "r" false {})).any fun failed =>
          failed.1 = .reservedType "String" := by
    decide +kernel
  obtain ⟨schema, read, shown⟩ := ok_of_toOption shown
  obtain ⟨fault, w', mapped, same⟩ := error_of_failed shown
  obtain rfl := of_decide_eq_true same
  exact ⟨schema, w', read,
    ((ofJson_mapped namedString).2.2 schema read _ _ _ false _ _).mp ⟨w', mapped⟩, mapped⟩

end Mapping

end GraphFacade
