import GraphFacade.Proofs.Schema.Mirroring
import GraphFacade.Proofs.Types.Stability
import GraphFacade.Proofs.Types.Totality

/-!
# Each node is expanded once

A schema may share nodes and lead back to itself, and yet its mapping ends: the
type of a node is registered before its properties are mapped, so a node that is
come to again has its type.  What a mapping adds to a registry is one type for
each of some nodes, all different, that the schema reaches.
-/

namespace GraphFacade

/-! ## The nodes of a schema -/

/-- The nodes that are reached from the root of a schema. -/
inductive Schema.Reaches (schema : Schema) : Node -> Prop
  | root : Reaches schema schema.root
  | items {label : Label} {items : Node} (list : Reaches schema (.list label items)) :
      Reaches schema items
  | property {label : Label} {index : Nat} {property : String × Node}
      (object : Reaches schema (.object label index))
      (member : property ∈ (schema.shape index).properties) : Reaches schema property.2

namespace Schema

open Reading

variable {g : Graph} {s : State} {schema : Schema} {node : Node}

theorem Reaches.known (coherent : Coherent g [] s) (table : schema.shapes = s.shapes)
    (start : ∃ value, Known g s value schema.root) (h : schema.Reaches node) :
    ∃ value, Known g s value node := by
  induction h with
  | root => exact start
  | items _ ih =>
      obtain ⟨_, known⟩ := ih
      obtain ⟨part, _, arrived⟩ := (known.turns coherent table .items).1 _ rfl
      exact ⟨part, arrived⟩
  | property _ member ih =>
      obtain ⟨_, known⟩ := ih
      cases known with
      | cell dict seen =>
          obtain ⟨entries, _, reflects⟩ := coherent.reflects seen
          obtain ⟨_, _, complete⟩ := reflects.of_object
          obtain ⟨listed, nodes, _, shape, all⟩ := complete List.not_mem_nil
          rw [Schema.shape, table, shape] at member
          obtain ⟨part, _, _, arrived⟩ := exists_of_forall₂ all.flip member
          exact ⟨part.2, arrived⟩

/-- Objects and enumerations of a schema that was read are told apart by their numbers. -/
theorem ofValue_apart {value : Value} (read : ofValue g value = .ok schema) {other : Node}
    (reached : schema.Reaches node) (reached' : schema.Reaches other)
    (kept : node.isKept = true) (kept' : other.isKept = true)
    (same : node.label.id = other.label.id) : node = other := by
  obtain ⟨s, table, coherent, known⟩ := ofValue_known read
  obtain ⟨_, known₁⟩ := reached.known coherent table ⟨value, known⟩
  obtain ⟨_, known₂⟩ := reached'.known coherent table ⟨value, known⟩
  cases known₁ with
  | plain => cases kept
  | cell _ seen =>
      cases known₂ with
      | plain => cases kept'
      | cell _ seen' => exact (coherent.own seen seen' same).2

end Schema

namespace Mapping

open Registry Workshop Steps

/--
The visits at which a job makes a type, in this order.  The type of a node is
made if its key is free and its name allowed, and then its properties are mapped.
-/
def made (schema : Schema) (origin : Origin) (isInput : Bool) :
    Nat -> Job -> Workshop -> List Visit
  | fuel, .node (.list _ items) hint, w =>
      made schema origin isInput fuel (.node items (hint ++ "_items")) w
  | 0, .node _ _, _ => []
  | fuel + 1, .node node hint, w =>
      match role? schema isInput node, w.registry.entitle origin node.label hint with
      | some role, some (title, r) =>
          if r.get? (r.key title role) = none ∧
              (blank r title role node).name ∉ reservedTypeNames then
            ⟨schema, origin, isInput, node, r.key title role⟩ ::
              made schema origin isInput fuel
                (.properties (shapeOf schema node).required title r.nextRef
                  (shapeOf schema node).properties)
                ⟨r.establish (r.key title role) (blank r title role node), w.log⟩
          else
            []
      | _, _ => []
  | _, .properties _ _ _ [], _ => []
  | fuel, .properties required title owner (property :: rest), w =>
      made schema origin isInput fuel (.node property.2 (propertyHint title property)) w ++
        match work schema origin isInput fuel (.node property.2 (propertyHint title property))
          w with
        | .ok type w' =>
            made schema origin isInput fuel (.properties required title owner rest)
              ⟨w'.registry.updateType owner (fieldFor isInput required property type), w'.log⟩
        | .error _ _ => []
termination_by fuel job => (fuel, match job with
  | .node given _ => sizeOf given
  | .properties _ _ _ rest => sizeOf rest)
decreasing_by
  · apply Prod.Lex.right
    simp only [Node.list.sizeOf_spec]
    omega
  · apply Prod.Lex.left
    omega
  · apply Prod.Lex.right
    rcases property with ⟨name, node⟩
    simp only [List.cons.sizeOf_spec, Prod.mk.sizeOf_spec]
    omega
  · apply Prod.Lex.right
    simp only [List.cons.sizeOf_spec]
    omega

variable {schema : Schema} {origin : Origin} {isInput : Bool} {fuel : Nat} {job : Job}
  {w w' : Workshop} {node : Node} {hint : String} {r r' r'' : Registry} {labels : List Label}

/-! ## Where nothing is made -/

/-- A node whose key is taken or whose name is reserved is done with its title. -/
theorem work_refused {role : Role} {title : String}
    (named : role? schema isInput node = some role)
    (titled : w.registry.entitle origin node.label hint = some (title, r))
    (refused : ¬ (r.get? (r.key title role) = none ∧
      (blank r title role node).name ∉ reservedTypeNames)) :
    work schema origin isInput (fuel + 1) (.node node hint) w =
      match r.get? (r.key title role) with
      | some type => .ok type ⟨r, w.log⟩
      | none => .error (.reservedType (blank r title role node).name) ⟨r, w.log⟩ := by
  rw [work_named named, titled]
  cases free : r.get? (r.key title role) with
  | some type => simp only [free]
  | none =>
      have reserved : (blank r title role node).name ∈ reservedTypeNames := by
        by_contra allowed
        exact refused ⟨free, allowed⟩
      simp only [free, reserved, ↓reduceIte]

/-- A node that needs no name is done at once, and so is one that cannot have a title. -/
theorem work_unnamed (plain : ∀ label items, node = .list label items -> False)
    (missing : ∀ role title r, role? schema isInput node = some role ->
      w.registry.entitle origin node.label hint = some (title, r) -> False) :
    (left (work schema origin isInput (fuel + 1) (.node node hint)) w).registry = w.registry ∧
    ∀ fuel', work schema origin isInput (fuel' + 1) (.node node hint) w =
      work schema origin isInput (fuel + 1) (.node node hint) w := by
  rcases node_cases schema isInput node with ⟨label, items, list⟩ | ⟨type, direct⟩ | ⟨role, named⟩
  · exact absurd list (plain label items)
  · obtain ⟨log, mapped⟩ : ∃ log, work schema origin isInput (fuel + 1) (.node node hint) w =
        .ok type ⟨w.registry, log⟩ := work_direct direct
    refine ⟨by rw [left, mapped], fun fuel' => ?_⟩
    cases node with
    | object label index =>
        have empty : (schema.shape index).properties.isEmpty := by
          simp only [direct?] at direct
          split at direct
          · assumption
          · cases direct
        simp only [work, mapNode, mapObject, empty, ↓reduceIte]
    | list => cases direct
    | _ => rfl
  · cases titled : w.registry.entitle origin node.label hint with
    | none => exact ⟨by rw [left, work_named named, titled], fun fuel' => by
        rw [work_named named, work_named named, titled]⟩
    | some entitled => exact absurd titled (missing role entitled.1 entitled.2 named)

/-! ## More fuel -/

theorem work_outlasts_succ (labelled : schema.Labelled labels)
    (enough : Enough labels origin isInput fuel job w.registry) :
    work schema origin isInput (fuel + 1) job w = work schema origin isInput fuel job w := by
  fun_induction made schema origin isInput fuel job w with
  | case1 fuel label items hint w ih =>
      rw [work_list, work_list, ih ⟨enough.fits, enough.fuel⟩]
  | case2 => exact absurd enough.fuel (Nat.not_lt_zero _)
  | case3 fuel node hint w _ role title r titled named accepted ih =>
      obtain ⟨free, allowed⟩ := accepted
      rw [work_named named, work_named named, titled]
      simp only [free, allowed, ↓reduceIte]
      rcases enough.body labelled named titled free with empty | less
      · rw [empty]
        rfl
      · exact ih less
  | case4 fuel node hint w _ role title r titled named refused =>
      rw [work_refused named titled refused, work_refused named titled refused]
  | case5 fuel node hint w plain missing => exact (work_unnamed plain missing).2 _
  | case6 => rfl
  | case7 fuel required title owner property rest w ihFirst ihLater =>
      have first := ihFirst (enough.first _)
      rw [work_property, work_property, first]
      cases mapped : work schema origin isInput fuel
          (.node property.2 (propertyHint title property)) w with
      | error fault w' => rfl
      | ok type w' =>
          obtain ⟨visits, maps⟩ := work_maps mapped
          exact ihLater type w' (enough.later (maps.extends.trans (updateType_extends _ _ _)))

/-- A job that has enough fuel does the same with any more. -/
theorem work_outlasts (labelled : schema.Labelled labels)
    (enough : Enough labels origin isInput fuel job w.registry) {more : Nat} (le : fuel ≤ more) :
    work schema origin isInput more job w = work schema origin isInput fuel job w := by
  induction le with
  | refl => rfl
  | step le ih =>
      have enough' := Nat.lt_of_lt_of_le enough.fuel le
      rw [work_outlasts_succ labelled ⟨enough.fits, enough'⟩, ih]

/-! ## What is registered -/

/--
What a registry gains on the way to a later stage: a key and a type for each of
some visits, whose nodes had no type before and have one afterwards.
-/
structure Gains (schema : Schema) (origin : Origin) (isInput : Bool) (r : Registry)
    (visits : List Visit) (r' : Registry) : Prop extends Extends r r' where
  keys : r'.entries.map Prod.fst = r.entries.map Prod.fst ++ visits.map Visit.key
  size : r'.types.size = r.types.size + visits.length
  new : ∀ visit ∈ visits, translate? r schema origin isInput visit.node = none
  placed : ∀ visit ∈ visits, (translate? r' schema origin isInput visit.node).isSome
  distinct : (visits.map Visit.node).Nodup

theorem Gains.nothing (grown : Registry.Extends r r') (entries : r'.entries = r.entries)
    (types : r'.types.size = r.types.size) : Gains schema origin isInput r [] r' :=
  ⟨grown, by simp [entries], types, by simp, by simp, .nil⟩

theorem Gains.refl (r : Registry) : Gains schema origin isInput r [] r :=
  .nothing (Extends.refl r) rfl rfl

theorem Gains.trans {visits others : List Visit} (h : Gains schema origin isInput r visits r')
    (h' : Gains schema origin isInput r' others r'') :
    Gains schema origin isInput r (visits ++ others) r'' := by
  have late : ∀ visit ∈ others, translate? r schema origin isInput visit.node = none := by
    intro visit member
    cases early : translate? r schema origin isInput visit.node with
    | none => rfl
    | some type =>
        have there := translate?_mono h.toExtends early
        rw [h'.new visit member] at there
        cases there
  refine ⟨h.toExtends.trans h'.toExtends, ?_, ?_, ?_, ?_, ?_⟩
  · rw [h'.keys, h.keys, List.map_append, List.append_assoc]
  · rw [h'.size, h.size, List.length_append, Nat.add_assoc]
  · exact List.forall_mem_append.mpr ⟨h.new, late⟩
  · refine List.forall_mem_append.mpr ⟨fun visit member => ?_, h'.placed⟩
    obtain ⟨type, found⟩ := Option.isSome_iff_exists.mp (h.placed visit member)
    rw [translate?_mono h'.toExtends found]
    rfl
  · rw [List.map_append]
    refine List.nodup_append.mpr ⟨h.distinct, h'.distinct, ?_⟩
    rintro _ early _ again rfl
    obtain ⟨visit, member, same⟩ := List.mem_map.mp early
    obtain ⟨other, member', same'⟩ := List.mem_map.mp again
    have there := h.placed visit member
    rw [same, ← same', h'.new other member'] at there
    cases there

/-- A node that has a type already finds its key taken. -/
theorem translate?_of_free {role : Role} {title : String}
    (named : role? schema isInput node = some role)
    (titled : r.entitle origin node.label hint = some (title, r'))
    (free : r'.get? (r'.key title role) = none) :
    translate? r schema origin isInput node = none := by
  cases early : translate? r schema origin isInput node with
  | none => rfl
  | some type =>
      have there := translate?_mono (entitle_extends titled) early
      rw [translate?_of_role named, titleGiven?_of_entitle titled, Option.bind_some, free] at there
      cases there

/-- The type of a node is made under a free key. -/
theorem gains_establish {role : Role} {title : String}
    (named : role? schema isInput node = some role)
    (titled : r.entitle origin node.label hint = some (title, r'))
    (free : r'.get? (r'.key title role) = none) :
    Gains schema origin isInput r [⟨schema, origin, isInput, node, r'.key title role⟩]
      (r'.establish (r'.key title role) (blank r' title role node)) := by
  have grown := establish_extends (blank r' title role node) free
  refine ⟨(entitle_extends titled).trans grown, ?_, ?_, ?_, ?_, List.nodup_singleton _⟩
  · simp [establish_of_free _ free, entitle_entries titled]
  · simp [establish_of_free _ free, entitle_types titled]
  · exact List.forall_mem_singleton.mpr (translate?_of_free named titled free)
  · refine List.forall_mem_singleton.mpr ?_
    rw [translate?_of_role named, grown.titleGiven? (titleGiven?_of_entitle titled),
      Option.bind_some, grown.key, get?_establish _ free]
    rfl

/-- However a job ends, the registry has gained what the job made. -/
theorem work_gains (labelled : schema.Labelled labels)
    (enough : Enough labels origin isInput fuel job w.registry) :
    Gains schema origin isInput w.registry (made schema origin isInput fuel job w)
      (left (work schema origin isInput fuel job) w).registry := by
  fun_induction made schema origin isInput fuel job w with
  | case1 fuel label items hint w ih =>
      have gains := ih ⟨enough.fits, enough.fuel⟩
      rw [left, work_list]
      unfold left at gains
      cases mapped : work schema origin isInput fuel (.node items (hint ++ "_items")) w with
      | ok item w' => simpa only [mapped] using gains
      | error fault w' => simpa only [mapped] using gains
  | case2 => exact absurd enough.fuel (Nat.not_lt_zero _)
  | case3 fuel node hint w _ role title r titled named accepted ih =>
      obtain ⟨free, allowed⟩ := accepted
      have gains := gains_establish named titled free
      rw [left, work_named named, titled]
      simp only [free, allowed, ↓reduceIte]
      rcases enough.body labelled named titled free with empty | less
      · rw [empty, made, work_done]
        exact gains
      · exact gains.trans (ih less)
  | case4 fuel node hint w _ role title r titled named refused =>
      have nothing : Gains schema origin isInput w.registry [] r :=
        .nothing (entitle_extends titled) (entitle_entries titled) (by rw [entitle_types titled])
      rw [left, work_refused named titled refused]
      cases r.get? (r.key title role) <;> exact nothing
  | case5 fuel node hint w plain missing =>
      rw [(work_unnamed plain missing).1]
      exact .refl _
  | case6 => exact .refl _
  | case7 fuel required title owner property rest w ihFirst ihLater =>
      have first := ihFirst (enough.first _)
      rw [left, work_property]
      unfold left at first
      cases mapped : work schema origin isInput fuel
          (.node property.2 (propertyHint title property)) w with
      | error fault w' =>
          rw [mapped] at first
          simpa using first
      | ok type w' =>
          rw [mapped] at first
          let filled := w'.registry.updateType owner (fieldFor isInput required property type)
          have grown : Registry.Extends w'.registry filled := updateType_extends _ _ _
          have untouched : Gains schema origin isInput w'.registry [] filled :=
            .nothing grown (updateType_entries _ _ _) (updateType_size _ _ _)
          have others := ihLater type w' (enough.later (first.toExtends.trans grown))
          exact first.trans (untouched.trans others)

/-! ## Where types are made -/

def Job.Within (schema : Schema) : Job -> Prop
  | .node given _ => schema.Reaches given
  | .properties _ _ _ rest => ∀ property ∈ rest, schema.Reaches property.2

theorem made_reaches (within : job.Within schema) :
    ∀ visit ∈ made schema origin isInput fuel job w,
      schema.Reaches visit.node ∧ (role? schema isInput visit.node).isSome := by
  fun_induction made schema origin isInput fuel job w with
  | case1 fuel label items hint w ih => exact ih (.items within)
  | case3 fuel node hint w _ role title r titled named _ ih =>
      have visited : (role? schema isInput node).isSome := by simp [named]
      refine List.forall_mem_cons.mpr ⟨⟨within, visited⟩, ih fun property member => ?_⟩
      cases node with
      | object label index => exact .property within member
      | _ => cases member
  | case7 fuel required title owner property rest w ihFirst ihLater =>
      refine List.forall_mem_append.mpr ⟨ihFirst (within property List.mem_cons_self), ?_⟩
      split
      · exact ihLater _ _ fun other member => within other (List.mem_cons_of_mem _ member)
      · simp
  | _ => simp

theorem isKept_of_role? (named : (role? schema isInput node).isSome) : node.isKept = true := by
  cases node with
  | enum | object => rfl
  | _ => simp [role?] at named

/-- No two visits of different nodes that need types have the same number. -/
theorem numbers_nodup {g : Graph} {value : Value} (read : Schema.ofValue g value = .ok schema)
    {visits : List Visit} (reached : ∀ visit ∈ visits,
      schema.Reaches visit.node ∧ (role? schema isInput visit.node).isSome)
    (distinct : (visits.map Visit.node).Nodup) :
    (visits.map fun visit => visit.node.label.id).Nodup := by
  have numbers : ((visits.map Visit.node).map fun node => node.label.id).Nodup := by
    refine List.Nodup.map_on ?_ distinct
    intro node member other member' same
    obtain ⟨visit, among, rfl⟩ := List.mem_map.mp member
    obtain ⟨visit', among', rfl⟩ := List.mem_map.mp member'
    obtain ⟨there, named⟩ := reached visit among
    obtain ⟨there', named'⟩ := reached visit' among'
    exact Schema.ofValue_apart read there there' (isKept_of_role? named) (isKept_of_role? named')
      same
  rwa [List.map_map] at numbers

/-- The visits at which the mapping of a schema makes a type, in this order. -/
def Call.made (call : Call) (w : Workshop) : List Visit :=
  Mapping.made call.schema call.origin call.isInput (call.schema.shapes.size + 1)
    (.node call.schema.root call.hint) w

/--
The mapping of a schema that was read ends, on any registry, for any hint and on
either side, and more fuel changes nothing.  Whether it ends well or not, the
registry gains one key and one type for each visit at which a type is made,
before the properties of its node are mapped, and nothing else.  Those nodes are
all different, the schema reaches them, and they are objects with properties and
enumerations of texts.
-/
theorem attempt_ends {g : Graph} {value : Value} (call : Call)
    (read : Schema.ofValue g value = .ok call.schema) (w : Workshop) :
    (∀ w', mapSchema call.schema call.origin call.isInput call.hint call.required w ≠
      .error .endless w') ∧
    (∀ fuel, call.schema.shapes.size < fuel ->
      work call.schema call.origin call.isInput fuel (.node call.schema.root call.hint) w =
        work call.schema call.origin call.isInput (call.schema.shapes.size + 1)
          (.node call.schema.root call.hint) w) ∧
    ((call.made w).map fun visit => visit.node.label.id).Nodup ∧
    (∀ visit ∈ call.made w, call.schema.Reaches visit.node ∧
      (role? call.schema call.isInput visit.node).isSome) ∧
    (attempt w call).registry.entries.map Prod.fst =
      w.registry.entries.map Prod.fst ++ (call.made w).map Visit.key ∧
    (attempt w call).registry.types.size = w.registry.types.size + (call.made w).length := by
  obtain ⟨labels, labelled⟩ := Schema.ofValue_labelled read
  have enough : Enough labels call.origin call.isInput (call.schema.shapes.size + 1)
      (.node call.schema.root call.hint) w.registry := enough_root labelled
  have gains := work_gains labelled enough
  have reached : ∀ visit ∈ call.made w, call.schema.Reaches visit.node ∧
      (role? call.schema call.isInput visit.node).isSome := made_reaches Schema.Reaches.root
  rw [← attempt_eq] at gains
  refine ⟨?_, ?_, numbers_nodup read reached gains.distinct, reached, gains.keys, gains.size⟩
  · intro w' failed
    obtain ⟨_, _, _, _, _, refused⟩ := (mapSchema_fails_iff labelled).mp ⟨w', failed⟩
    cases refused
  · exact fun fuel le => work_outlasts labelled enough le

/-- An order whose parts are orders is mapped to a single type, made at a single visit. -/
theorem attempt_ends_orders :
    ∃ schema, Schema.ofValue Schema.orders (.cell 0) = .ok schema ∧
      let call : Call := ⟨schema, ⟨.text "get", 0⟩, false, "get_response", false⟩
      (∀ w', mapSchema schema call.origin false "get_response" false {} ≠ .error .endless w') ∧
        (attempt {} call).registry.types.size = 1 ∧ (call.made {}).length = 1 := by
  have shown : (Schema.ofValue Schema.orders (.cell 0)).toOption.any fun schema =>
      let call : Call := ⟨schema, ⟨.text "get", 0⟩, false, "get_response", false⟩
      (attempt {} call).registry.types.size = 1 := by
    decide +kernel
  obtain ⟨schema, read, one⟩ := ok_of_toOption shown
  have one' := of_decide_eq_true one
  obtain ⟨ends, _, _, _, _, size⟩ :=
    attempt_ends ⟨schema, ⟨.text "get", 0⟩, false, "get_response", false⟩ read {}
  refine ⟨schema, read, ends, one', ?_⟩
  rw [one'] at size
  simpa using size.symm

end Mapping

end GraphFacade
