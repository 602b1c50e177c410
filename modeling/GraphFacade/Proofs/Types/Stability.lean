import GraphFacade.Proofs.Types.Coming
import GraphFacade.Proofs.Types.Continuing
import GraphFacade.Proofs.Types.Naming

/-!
# Types that stay

Once the mapping of a node has ended well, the node has its type for good: it is
found again under the same title whatever was mapped in between, and asking for
it changes nothing.  This holds of every node that a mapping comes to, also when
the mapping as a whole fails.
-/

namespace GraphFacade

open Steps

/-! ## Later stages -/

namespace Registry

/-- A later stage of a registry that has no fewer titles handed out. -/
structure Later (r r' : Registry) : Prop extends Extends r r' where
  titles : r.titles ⊆ r'.titles

variable {r r₁ r₂ : Registry} {origin : Origin} {label : Label} {hint title : String}

theorem Later.refl (r : Registry) : Later r r :=
  ⟨Extends.refl r, fun _ member => member⟩

theorem Later.trans (h : Later r r₁) (h' : Later r₁ r₂) : Later r r₂ :=
  ⟨h.toExtends.trans h'.toExtends, fun _ member => h'.titles (h.titles member)⟩

theorem entitle_later (h : r.entitle origin label hint = some (title, r₁)) : Later r r₁ := by
  refine ⟨entitle_extends h, ?_⟩
  rcases entitle_cases h with ⟨_, _, rfl⟩ | ⟨_, _, _, rfl⟩ | ⟨_, rfl⟩
  · exact fun _ member => member
  · exact fun _ member => Mapping.mem_handOut.mpr (.inl member)
  · exact fun _ member => Mapping.mem_handOut.mpr (.inl member)

theorem establish_later {key : TypeKey} (type : NamedType) (free : r.get? key = none) :
    Later r (r.establish key type) :=
  ⟨establish_extends type free, by simp [establish_of_free type free]⟩

theorem updateType_later (r : Registry) (ref : TypeRef) (f : NamedType -> NamedType) :
    Later r (r.updateType ref f) :=
  ⟨updateType_extends r ref f, by cases ref <;> simp [updateType]⟩

/-- A node whose title is known gets it again, whatever its hint, and nothing is handed out. -/
structure Entitled (r : Registry) (origin : Origin) (label : Label) (title : String) : Prop where
  again : ∀ hint, r.entitle origin label hint = some (title, r)

theorem entitle_entitled (h : r.entitle origin label hint = some (title, r₁)) :
    r₁.Entitled origin label title := by
  refine ⟨fun hint' => ?_⟩
  rcases entitle_cases h with ⟨none', known, rfl⟩ | ⟨none', new, _, rfl⟩ | ⟨own, rfl⟩
  · simp [entitle, none', known]
  · simp [entitle, none', List.lookup_append, new]
  · have there : title ∈ (r.handOut title).titles := Mapping.mem_handOut.mpr (.inr rfl)
    simp only [entitle, own]
    rw [handOut, if_pos (List.contains_iff_mem.mpr there)]

theorem Entitled.mono (h : r.Entitled origin label title) (later : Later r r₁) :
    r₁.Entitled origin label title := by
  refine ⟨fun hint' => ?_⟩
  rcases entitle_cases (h.again "") with ⟨none', known, _⟩ | ⟨none', new, named, same⟩ | ⟨own, same⟩
  · simp [entitle, none', lookup_of_prefix later.untitled known]
  · have length := congrArg (fun r : Registry => r.untitled.length) same
    simp at length
  · have there : title ∈ r₁.titles := by
      refine later.titles ?_
      rw [same]
      exact Mapping.mem_handOut.mpr (.inr rfl)
    simp only [entitle, own]
    rw [handOut, if_pos (List.contains_iff_mem.mpr there)]

end Registry

namespace Mapping

open Registry Workshop

variable {schema : Schema} {origin : Origin} {isInput : Bool} {job : Job} {r r' : Registry}
  {visits : List Visit} {type : TypeRef} {fault : Fault} {fuel fuel' : Nat} {w w' : Workshop}
  {node : Node} {hint : String}

theorem Maps.later (h : Maps schema origin isInput job r visits type r') : Later r r' := by
  induction h with
  | direct => exact Later.refl _
  | list _ ih => exact ih
  | known _ titled _ => exact entitle_later titled
  | created _ titled free _ _ ih =>
      exact (entitle_later titled).trans ((establish_later _ free).trans ih)
  | done => exact Later.refl _
  | property _ _ first later => exact first.trans ((updateType_later _ _ _).trans later)

theorem Stops.later_stage (h : Stops schema origin isInput job r visits fault r') : Later r r' := by
  induction h with
  | noTitle => exact Later.refl _
  | reserved _ titled => exact entitle_later titled
  | endless => exact Later.refl _
  | item _ ih => exact ih
  | body _ titled free _ _ ih =>
      exact (entitle_later titled).trans ((establish_later _ free).trans ih)
  | first _ ih => exact ih
  | later first _ ih => exact first.later.trans ((updateType_later _ _ _).trans ih)

theorem Stops.kept (h : Stops schema origin isInput job r visits fault r') {index : Nat}
    (there : index < r.types.size) (other : ¬ job.Fills index) :
    r'.types[index]? = r.types[index]? := by
  induction h with
  | noTitle => rfl
  | reserved _ titled => rw [entitle_types titled]
  | endless => rfl
  | item _ ih => exact ih there id
  | body _ titled free _ _ ih =>
      rw [← entitle_types titled] at there ⊢
      rw [← types_establish_of_lt _ free there]
      exact ih (Nat.lt_of_lt_of_le there (establish_extends _ free).types)
        (Job.not_fills_nextRef there)
  | first _ ih => exact ih there id
  | later first _ ih =>
      have grown := Nat.lt_of_lt_of_le there first.extends.types
      rw [ih (Nat.lt_of_lt_of_le grown (updateType_extends _ _ _).types) other,
        types_updateType_of_ne other, first.kept there id]

theorem work_later : Later w.registry (left (work schema origin isInput fuel job) w).registry := by
  unfold left
  cases h : work schema origin isInput fuel job w with
  | ok type w' =>
      obtain ⟨visits, maps⟩ := work_maps h
      exact maps.later
  | error fault w' =>
      obtain ⟨visits, stops⟩ := work_stops h
      exact stops.later_stage

/-! ## Nodes that have a type -/

/-- A node has a type for good: it needs no name, or the type is found under its title. -/
inductive Settled (schema : Schema) (origin : Origin) (isInput : Bool) (r : Registry) :
    Node -> TypeRef -> Prop
  | direct {node : Node} {type : TypeRef} (h : direct? schema node = some type) :
      Settled schema origin isInput r node type
  | list {label : Label} {items : Node} {type : TypeRef}
      (item : Settled schema origin isInput r items type) :
      Settled schema origin isInput r (.list label items) (.list type)
  | known {node : Node} {role : Role} {title : String} {type : TypeRef}
      (named : role? schema isInput node = some role)
      (titled : r.Entitled origin node.label title)
      (found : r.get? (r.key title role) = some type) :
      Settled schema origin isInput r node type

theorem Settled.mono (h : Settled schema origin isInput r node type) (later : Later r r') :
    Settled schema origin isInput r' node type := by
  induction h with
  | direct h => exact .direct h
  | list _ ih => exact .list ih
  | known named titled found =>
      refine .known named (titled.mono later) ?_
      rw [later.key]
      exact later.get? found

theorem Maps.settled (h : Maps schema origin isInput (.node node hint) r visits type r') :
    Settled schema origin isInput r' node type := by
  generalize task : Job.node node hint = job at h
  induction h generalizing node hint with
  | direct h =>
      cases task
      exact .direct h
  | list _ ih =>
      cases task
      exact .list (ih rfl)
  | known named titled found =>
      cases task
      exact .known named (entitle_entitled titled) found
  | @created node hint title role r r₁ r₂ visits named titled free _ body _ =>
      cases task
      have made := (establish_later (blank r₁ title role node) free).trans body.later
      refine .known named ((entitle_entitled titled).mono made) ?_
      rw [made.key]
      exact body.extends.get? (get?_establish _ free)
  | done => cases task
  | property => cases task

def leafRole? (schema : Schema) (isInput : Bool) : Node -> Option Role
  | .list _ items => leafRole? schema isInput items
  | node => role? schema isInput node

/-- Mapping a settled node again in its role gives its type and leaves the registry as it is. -/
theorem Settled.again (h : Settled schema origin isInput w.registry node type) {isInput' : Bool}
    (same : leafRole? schema isInput' node = leafRole? schema isInput node) (fuel : Nat)
    (hint : String) : ∃ log,
      work schema origin isInput' (fuel + 1) (.node node hint) w = .ok type ⟨w.registry, log⟩ := by
  generalize stage : w.registry = r at h
  induction h generalizing hint with
  | direct h =>
      rw [← stage]
      exact work_direct h
  | list _ ih =>
      obtain ⟨log, mapped⟩ := ih same (hint ++ "_items")
      exact ⟨log, by rw [work_list, mapped]⟩
  | @known node role title type named titled found =>
      have named' : role? schema isInput' node = some role := by
        rw [← named]
        cases node with
        | list => simp [role?] at named
        | _ => exact same
      refine ⟨w.log, ?_⟩
      rw [work_named named', stage, titled.again hint]
      simp only [found]

/-! A node means the same whichever node of its schema is taken for the root. -/

theorem direct?_reroot (root : Node) : direct? ⟨root, schema.shapes⟩ node = direct? schema node := by
  cases node <;> rfl

theorem role?_reroot (root : Node) :
    role? ⟨root, schema.shapes⟩ isInput node = role? schema isInput node := by
  cases node <;> rfl

theorem leafRole?_reroot (root : Node) :
    leafRole? ⟨root, schema.shapes⟩ isInput node = leafRole? schema isInput node := by
  induction node with
  | list label items ih => exact ih
  | _ => exact role?_reroot root

theorem Settled.reroot (h : Settled schema origin isInput r node type) (root : Node) :
    Settled ⟨root, schema.shapes⟩ origin isInput r node type := by
  induction h with
  | direct h => exact .direct (by rw [direct?_reroot, h])
  | list _ ih => exact .list ih
  | known named titled found => exact .known (by rw [role?_reroot, named]) titled found

/-! ## Nodes on the way -/

theorem Comes.before_end (h : Comes schema origin isInput fuel job w fuel' node hint w') :
    Later (left (work schema origin isInput fuel' (.node node hint)) w').registry
      (left (work schema origin isInput fuel job) w).registry := by
  induction h with
  | here => exact Later.refl _
  | item _ ih =>
      refine ih.trans ?_
      unfold left
      rw [work_list]
      cases work schema origin isInput _ (.node _ _) _ <;> exact Later.refl _
  | body named titled free allowed _ ih =>
      refine ih.trans ?_
      unfold left
      rw [work_named named, titled]
      simp only [free, allowed, ↓reduceIte]
      exact Later.refl _
  | @first fuel fuel' required title owner property rest node hint' w w' _ ih =>
      refine ih.trans ?_
      unfold left
      rw [work_property]
      cases mapped : work schema origin isInput fuel (.node property.2 (propertyHint title property))
          w with
      | error fault w' => exact Later.refl _
      | ok type w₁ =>
          let filled := w₁.registry.updateType owner (fieldFor isInput required property type)
          have others : Later filled (left (work schema origin isInput fuel
              (.properties required title owner rest)) ⟨filled, w₁.log⟩).registry :=
            work_later (w := ⟨filled, w₁.log⟩)
          exact (updateType_later w₁.registry owner _).trans others
  | later mapped _ ih =>
      refine ih.trans ?_
      unfold left
      rw [work_property, mapped]
      exact Later.refl _

/-! ## Tasks -/

/-- What is asked of a registry from outside: to map a schema, or the parameters of an operation. -/
inductive Task
  | map (call : Call)
  | parameters (operationId : Json) (key : Atom) (part : Nat) (arguments : Entries Argument)
      (rest : List Parameter)
  deriving Repr, Inhabited

def Task.perform (w : Workshop) : Task -> Workshop
  | .map call => attempt w call
  | .parameters operationId key part arguments rest =>
      left (mapParameters operationId key part arguments rest) w

def performAll (tasks : List Task) (w : Workshop) : Workshop :=
  tasks.foldl Task.perform w

def parameterCall (operationId : Json) (key : Atom) (part : Nat) (name : String)
    (parameter : Parameter) : Call :=
  ⟨parameter.schema, ⟨key, part⟩, true, operationId.display ++ "_" ++ name, parameter.required⟩

/-- A parameter can be the next argument of an operation, under a name. -/
structure Admits (operationId : Json) (arguments : Entries Argument) (parameter : Parameter)
    (name : String) : Prop where
  named : parameter.argument? = some name
  new : name ∉ arguments.map Prod.fst
  /-- The hint for the parameter's types starts with the text of the operation's id. -/
  told : operationId.longest ≤ Text.digitLimit

/-- A task makes a call: on its way a schema is mapped, with that workshop. -/
inductive Task.Makes : Task -> Workshop -> Call -> Workshop -> Prop
  | map {call : Call} {w : Workshop} : Task.Makes (.map call) w call w
  | first {operationId : Json} {key : Atom} {part : Nat} {arguments : Entries Argument}
      {parameter : Parameter} {rest : List Parameter} {name : String} {w : Workshop}
      (admits : Admits operationId arguments parameter name) :
      Task.Makes (.parameters operationId key part arguments (parameter :: rest)) w
        (parameterCall operationId key part name parameter) w
  | later {operationId : Json} {key : Atom} {part : Nat} {arguments : Entries Argument}
      {parameter : Parameter} {rest : List Parameter} {name : String} {type : TypeRef} {call : Call}
      {w w₁ w' : Workshop}
      (admits : Admits operationId arguments parameter name)
      (mapped : mapSchema parameter.schema ⟨key, part⟩ true
        (operationId.display ++ "_" ++ name) parameter.required w = .ok type w₁)
      (others : Task.Makes (.parameters operationId key (part + 1)
        (arguments ++ [(name, ⟨type, describe parameter.description⟩)]) rest) w₁ call w') :
      Task.Makes (.parameters operationId key part arguments (parameter :: rest)) w call w'

/-- What is left of parameters after one that can be an argument. -/
theorem left_mapParameters {operationId : Json} {key : Atom} {part : Nat}
    {arguments : Entries Argument} {parameter : Parameter} {rest : List Parameter} {name : String}
    (admits : Admits operationId arguments parameter name) :
    left (mapParameters operationId key part arguments (parameter :: rest)) w =
      match mapSchema parameter.schema ⟨key, part⟩ true (operationId.display ++ "_" ++ name)
          parameter.required w with
      | .ok type w' =>
          left (mapParameters operationId key (part + 1)
            (arguments ++ [(name, ⟨type, describe parameter.description⟩)]) rest) w'
      | .error _ w' => w' := by
  have new := admits.new
  rw [← Entries.has_iff, Bool.not_eq_true] at new
  have told := Json.shown_eq_ok.mpr ⟨admits.told, rfl⟩
  unfold left
  rw [mapParameters, admits.named]
  simp only [new, Bool.false_eq_true, ↓reduceIte, bind_apply, ofExcept_apply, told]
  cases mapSchema parameter.schema ⟨key, part⟩ true (operationId.display ++ "_" ++ name)
    parameter.required w <;> rfl

/-- A parameter that can be no argument ends the task. -/
theorem left_mapParameters_of_refused {operationId : Json} {key : Atom} {part : Nat}
    {arguments : Entries Argument} {parameter : Parameter} {rest : List Parameter}
    (refused : ∀ name, ¬ Admits operationId arguments parameter name) :
    left (mapParameters operationId key part arguments (parameter :: rest)) w = w := by
  unfold left
  rw [mapParameters]
  cases named : parameter.argument? with
  | none => rfl
  | some name =>
      by_cases clash : Entries.has name arguments
      · simp only [clash, ↓reduceIte]
        rfl
      · have new := (Entries.has_iff name arguments).not.mp clash
        have long := Nat.lt_of_not_le fun told => refused name ⟨named, new, told⟩
        have untold := Json.shown_eq_error.mpr ⟨long, rfl⟩
        simp only [clash, Bool.false_eq_true, ↓reduceIte, bind_apply, ofExcept_apply, untold]

theorem attempt_eq (call : Call) :
    attempt w call = left (work call.schema call.origin call.isInput (call.schema.shapes.size + 1)
      (.node call.schema.root call.hint)) w := by
  unfold attempt left
  rw [mapSchema_eq]
  cases work call.schema call.origin call.isInput (call.schema.shapes.size + 1)
    (.node call.schema.root call.hint) w <;> rfl

/-- A later stage in which the types that were there are as they were. -/
structure Preserves (r r' : Registry) : Prop extends Later r r' where
  continues : Continues r r'

theorem Preserves.refl (r : Registry) : Preserves r r :=
  ⟨Later.refl r, Continues.refl r⟩

theorem Preserves.trans {r₁ r₂ : Registry} (h : Preserves r r₁) (h' : Preserves r₁ r₂) :
    Preserves r r₂ :=
  ⟨h.toLater.trans h'.toLater, h.continues.trans h'.continues⟩

theorem attempt_preserves (call : Call) : Preserves w.registry (attempt w call).registry := by
  have later : Later w.registry (attempt w call).registry := by
    rw [attempt_eq]
    exact work_later
  refine ⟨later, later.toExtends, fun index there => ?_⟩
  unfold attempt
  cases h : mapSchema call.schema call.origin call.isInput call.hint call.required w with
  | ok type w' =>
      obtain ⟨visits, _, _, maps⟩ := mapSchema_maps h
      exact maps.kept there not_false
  | error fault w' =>
      obtain ⟨visits, stops⟩ := mapSchema_stops h
      exact stops.kept there not_false

/-- What every attempt to map a schema keeps, the parameters of an operation keep. -/
theorem mapParameters_keeps {P : Registry -> Prop}
    (attempts : ∀ w call, P w.registry -> P (attempt w call).registry) {operationId : Json}
    {key : Atom} {part : Nat} {arguments : Entries Argument} {parameters : List Parameter}
    {w : Workshop} (start : P w.registry) :
    P (left (mapParameters operationId key part arguments parameters) w).registry := by
  induction parameters generalizing part arguments w with
  | nil => exact start
  | cons parameter rest ih =>
      by_cases accepted : ∃ name, Admits operationId arguments parameter name
      · obtain ⟨name, admits⟩ := accepted
        have first := attempts w (parameterCall operationId key part name parameter) start
        rw [left_mapParameters admits]
        unfold attempt parameterCall at first
        cases mapped : mapSchema parameter.schema ⟨key, part⟩ true
            (operationId.display ++ "_" ++ name) parameter.required w with
        | ok type w' =>
            rw [mapped] at first
            exact ih first
        | error fault w' =>
            rw [mapped] at first
            exact first
      · rw [left_mapParameters_of_refused (not_exists.mp accepted)]
        exact start

theorem mapParameters_preserves {operationId : Json} {key : Atom} {part : Nat}
    {arguments : Entries Argument} {parameters : List Parameter} :
    Preserves w.registry (left (mapParameters operationId key part arguments parameters) w).registry
      := by
  refine mapParameters_keeps (fun w' call before => ?_) (Preserves.refl w.registry)
  exact before.trans (attempt_preserves call)

theorem Task.perform_preserves (task : Task) : Preserves w.registry (task.perform w).registry := by
  cases task with
  | map call => exact attempt_preserves call
  | parameters => exact mapParameters_preserves

theorem performAll_preserves (tasks : List Task) :
    Preserves w.registry (performAll tasks w).registry := by
  induction tasks generalizing w with
  | nil => exact Preserves.refl _
  | cons task rest ih => exact task.perform_preserves.trans ih

theorem Task.Makes.before_end {task : Task} {call : Call} (h : task.Makes w call w') :
    Later (attempt w' call).registry (task.perform w).registry := by
  induction h with
  | map => exact Later.refl _
  | @first operationId key part arguments parameter rest name w admits =>
      rw [perform, left_mapParameters admits, attempt, parameterCall]
      cases mapSchema parameter.schema ⟨key, part⟩ true (operationId.display ++ "_" ++ name)
          parameter.required w with
      | ok type w' => exact mapParameters_preserves.toLater
      | error fault w' => exact Later.refl _
  | later admits mapped _ ih =>
      rw [perform, left_mapParameters admits, mapped]
      exact ih

/-- A node is mapped with a type while a task is performed. -/
structure Task.MapsTo (task : Task) (w : Workshop) (call : Call) (node : Node) (type : TypeRef) :
    Prop where
  found : ∃ w₁ fuel hint w₂ w₃, task.Makes w call w₁ ∧
    Comes call.schema call.origin call.isInput (call.schema.shapes.size + 1)
      (.node call.schema.root call.hint) w₁ fuel node hint w₂ ∧
    work call.schema call.origin call.isInput fuel (.node node hint) w₂ = .ok type w₃

theorem Task.MapsTo.settled {task : Task} {call : Call} (h : task.MapsTo w call node type) :
    Settled call.schema call.origin call.isInput (task.perform w).registry node type := by
  obtain ⟨w₁, fuel, hint, w₂, w₃, makes, comes, mapped⟩ := h.found
  obtain ⟨visits, maps⟩ := work_maps mapped
  have done := comes.before_end
  rw [← attempt_eq] at done
  have ended : left (work call.schema call.origin call.isInput fuel (.node node hint)) w₂ = w₃ := by
    rw [left, mapped]
  rw [ended] at done
  exact (maps.settled.mono done).mono makes.before_end

/--
Whatever tasks are performed one after another on a registry, and whether they
end well or not: a node whose mapping has ended well, that of a whole schema or
of a node inside, has its type from then on.  Mapping it again in its role, with
any hint, gives that very type and leaves the registry as it is.  No task takes
away or replaces an entry, or changes a type that was there before it.
-/
theorem performAll_stable (before : List Task) (task : Task) (after : List Task)
    (w : Workshop) :
    let start := performAll before w
    let later := performAll after (task.perform start)
    (∀ call node type, task.MapsTo start call node type ->
      ∀ isInput, leafRole? call.schema isInput node = leafRole? call.schema call.isInput node ->
        ∀ hint required, ∃ log,
          mapSchema ⟨node, call.schema.shapes⟩ call.origin isInput hint required later =
            .ok (requireIf required type) ⟨later.registry, log⟩) ∧
    start.registry.entries <+: later.registry.entries ∧
    start.registry.untitled <+: later.registry.untitled ∧
    start.registry.titles ⊆ later.registry.titles ∧
    ∀ index < start.registry.types.size,
      later.registry.types[index]? = start.registry.types[index]? := by
  intro start later
  have continued : Preserves (task.perform start).registry later.registry :=
    performAll_preserves after
  refine ⟨?_, ?_⟩
  · intro call node type mapsTo isInput same hint required
    have settled : Settled call.schema call.origin call.isInput later.registry node type :=
      mapsTo.settled.mono continued.toLater
    have same' : leafRole? ⟨node, call.schema.shapes⟩ isInput node =
        leafRole? ⟨node, call.schema.shapes⟩ call.isInput node :=
      (leafRole?_reroot node).trans (same.trans (leafRole?_reroot node).symm)
    obtain ⟨log, mapped⟩ := (settled.reroot node).again same' call.schema.shapes.size hint
    exact ⟨log, by rw [mapSchema_eq, mapped]⟩
  · have preserves := task.perform_preserves.trans continued
    exact ⟨preserves.entries, preserves.untitled, preserves.titles, preserves.continues.kept⟩

/-- The list of a person's reports keeps its type while persons are mapped as arguments, too. -/
theorem performAll_stable_persons :
    let start : Workshop := ⟨{ realm := none }, #[]⟩
    let task : Task := .map persons[0]
    let later := performAll [.map persons[1]] (task.perform start)
    let reports : Node := .list ⟨2, none, .null⟩ persons[0].schema.root
    task.MapsTo start persons[0] reports (.list (.named ⟨none, 0⟩)) ∧
      ∃ log, mapSchema ⟨reports, persons[0].schema.shapes⟩ persons[0].origin false "reports" true
        later = .ok (.nonNull (.list (.named ⟨none, 0⟩))) ⟨later.registry, log⟩ := by
  intro start task later reports
  have mapsTo : task.MapsTo start persons[0] reports (.list (.named ⟨none, 0⟩)) :=
    ⟨_, _, _, _, _, .map, .body (by rfl) (by rfl) (by rfl) (by decide) (.later (by rfl)
      (.first .here)), by rfl⟩
  exact ⟨mapsTo, (performAll_stable [] task [.map persons[1]] start).1 _ _ _ mapsTo false rfl
    "reports" true⟩

end Mapping

end GraphFacade
