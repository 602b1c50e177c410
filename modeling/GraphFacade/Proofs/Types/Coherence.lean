import GraphFacade.Proofs.Types.Sides

/-!
# Registries whose parts agree

Keys, types and titles are changed at different moments of a mapping, which may
fail between any two of them.  Yet whatever is asked of a registry, in whatever
order and however it ends, it is a sequence of mappings that end well or stop,
and after each of these the three agree; a type whose fields are not all there
yet stands under its key like any other.
-/

namespace GraphFacade

namespace Registry

/-- Keys, types and titles that agree with each other. -/
structure Coherent (r : Registry) : Prop where
  /-- No key stands twice. -/
  keys : (r.entries.map Prod.fst).Nodup
  realm : ∀ entry ∈ r.entries, entry.1.realm = r.realm
  /-- What stands under a key is a type with the key's name, made for the key's role. -/
  types : ∀ entry ∈ r.entries, ∃ id type, entry.2 = .named id ∧ r.type? id = some type ∧
    type.name = r.typeName entry.1.title entry.1.role ∧ type.role = entry.1.role
  /-- A named type that a registered one leads to stands under one key, and no other. -/
  closed : ∀ entry ∈ r.entries, ∀ ref, Relation.ReflTransGen r.Leads entry.2 ref ->
    ∀ id, ref.unwrapped = .named id -> ∃! key, (key, .named id) ∈ r.entries
  /-- Titles under which types stand were handed out. -/
  handed : ∀ entry ∈ r.entries, entry.1.title ∈ r.titles
  /-- So were the names of nodes without a title. -/
  kept : ∀ given ∈ r.untitled, given.2 ∈ r.titles
  /-- No two nodes without a title have one name. -/
  apart : (r.untitled.map Prod.snd).Nodup

variable {r : Registry} {entry : TypeKey × TypeRef} {ref next : TypeRef}

theorem Orderly.type_of_entry (h : Orderly r) (parted : Parted r) (member : entry ∈ r.entries) :
    ∃ id type, entry.2 = .named id ∧ r.type? id = some type ∧
      type.name = r.typeName entry.1.title entry.1.role ∧ type.role = entry.1.role := by
  obtain ⟨i, place⟩ := List.mem_iff_getElem?.mp member
  obtain ⟨_, same, type, there, named, _⟩ := h.entries place
  obtain ⟨id, type', same', found, role⟩ := parted.entries member
  refine ⟨id, type', same', found, ?_, role⟩
  obtain rfl : id = ⟨r.realm, i⟩ := TypeRef.named.inj (same'.symm.trans same)
  obtain rfl := Option.some.inj (there.symm.trans (index_of_type? found).2)
  exact named

theorem Orderly.holds_of_leads (h : Orderly r) (path : Relation.ReflTransGen r.Leads ref next)
    (holds : r.Holds ref) : r.Holds next := by
  cases path with
  | refl => exact holds
  | tail _ leads =>
      -- the last step starts at a definition, and these lead to types of the registry only
      obtain ⟨id, type, _, found, member⟩ := leads
      exact h.closed (index_of_type? found).2 _ member

theorem Orderly.existsUnique_key (h : Orderly r) {id : TypeId} (holds : r.Holds (.named id)) :
    ∃! key, (key, .named id) ∈ r.entries := by
  rcases id with ⟨realm, index⟩
  obtain ⟨rfl, inside⟩ : realm = r.realm ∧ index < r.types.size := holds ⟨realm, index⟩ rfl
  obtain ⟨key, place, _⟩ := h.entry_of_type (Array.getElem?_eq_getElem inside)
  have member := List.mem_of_getElem? place
  refine ⟨key, member, fun other member' => ?_⟩
  have found : r.get? key = _ := Entries.lookup_of_mem h.keys member
  have found' : r.get? other = _ := Entries.lookup_of_mem h.keys member'
  exact h.key_unique found' found

theorem Orderly.existsUnique_key_of_leads (h : Orderly r) (member : entry ∈ r.entries)
    (path : Relation.ReflTransGen r.Leads entry.2 ref) {id : TypeId}
    (named : ref.unwrapped = .named id) : ∃! key, (key, .named id) ∈ r.entries := by
  have start : r.Holds entry.2 := h.holds_get (Entries.lookup_of_mem h.keys member)
  have holds : r.Holds ref := h.holds_of_leads path start
  refine h.existsUnique_key fun other same => holds other ?_
  rw [named, ← same]
  rfl

end Registry

namespace Mapping

open Registry Workshop Steps

variable {schema : Schema} {origin : Origin} {isInput : Bool} {job : Job} {r r' r₁ r₂ : Registry}
  {visits others : List Visit} {type : TypeRef} {fault : Fault} {calls more : List Call}

/-! ## Keys and visits -/

def Accounted (r : Registry) (visits : List Visit) (entry : TypeKey × TypeRef) : Prop :=
  entry ∈ r.entries ∨ ∃ visit ∈ visits, visit.key = entry.1

variable {entry : TypeKey × TypeRef}

theorem Accounted.append (later : Accounted r₁ others entry)
    (first : entry ∈ r₁.entries -> Accounted r visits entry) :
    Accounted r (visits ++ others) entry := by
  rcases later with old | ⟨visit, among, same⟩
  · rcases first old with older | ⟨visit, among, same⟩
    · exact .inl older
    · exact .inr ⟨visit, List.mem_append_left _ among, same⟩
  · exact .inr ⟨visit, List.mem_append_right _ among, same⟩

theorem Maps.accounted {node : Node} {hint : String}
    (h : Maps schema origin isInput (.node node hint) r visits type r')
    (member : entry ∈ r'.entries) : Accounted r visits entry := by
  rcases h.fresh member (owned_node _ _ _) with old | ⟨_, visit, _, found, _⟩
  · exact .inl old
  · exact .inr ⟨visit, List.mem_of_find?_eq_some found, by simpa using List.find?_some found⟩

theorem Stops.accounted (h : Stops schema origin isInput job r visits fault r')
    (member : entry ∈ r'.entries) : Accounted r visits entry := by
  induction h with
  | noTitle => exact .inl member
  | reserved _ titled => exact .inl (entitle_entries titled ▸ member)
  | endless => exact .inl member
  | item _ ih => exact ih member
  | @body node hint title role r r₁ r₂ visits fault named titled free allowed _ ih =>
      -- the body stops in a registry that has the node's own type already
      have made : entry ∈ (r₁.establish (r₁.key title role) (blank r₁ title role node)).entries ->
          Accounted r [⟨schema, origin, isInput, node, r₁.key title role⟩] entry := by
        rw [establish_of_free _ free, List.mem_append, List.mem_singleton]
        rintro (old | rfl)
        · exact .inl (entitle_entries titled ▸ old)
        · exact .inr ⟨_, List.mem_cons_self, rfl⟩
      exact (ih member).append made
  | first _ ih => exact ih member
  | later first _ ih =>
      refine (ih member).append fun old => first.accounted ?_
      rwa [updateType_entries] at old

/-! ## What mappings keep that end well or stop -/

theorem Attempts.append (first : Attempts calls r visits r₁)
    (later : Attempts more r₁ others r₂) : Attempts (calls ++ more) r (visits ++ others) r₂ := by
  induction first with
  | nil => exact later
  | mapped maps _ ih =>
      rw [List.append_assoc]
      exact .mapped maps (ih later)
  | stopped stops _ ih =>
      rw [List.append_assoc]
      exact .stopped stops (ih later)

/-- What mappings keep that end well, and those that stop, too, is kept by any number of them. -/
theorem Attempts.keeps {P : Registry -> Prop}
    (maps : ∀ {schema origin isInput job r visits type r'},
      Maps schema origin isInput job r visits type r' -> P r -> P r')
    (stops : ∀ {schema origin isInput job r visits fault r'},
      Stops schema origin isInput job r visits fault r' -> P r -> P r')
    (h : Attempts calls r visits r') (start : P r) : P r' := by
  induction h with
  | nil => exact start
  | mapped first _ ih => exact ih (maps first start)
  | stopped first _ ih => exact ih (stops first start)

theorem Attempts.extends (h : Attempts calls r visits r') : Extends r r' :=
  h.keeps (fun maps grown => grown.trans maps.extends)
    (fun stops grown => grown.trans stops.later_stage.toExtends) (Extends.refl r)

theorem Attempts.parted (h : Attempts calls r visits r') (parted : Parted r) : Parted r' :=
  h.keeps Maps.parted Stops.parted parted

theorem Attempts.accounted (h : Attempts calls r visits r') (member : entry ∈ r'.entries) :
    Accounted r visits entry := by
  induction h with
  | nil => exact .inl member
  | mapped first _ ih => exact (ih member).append first.accounted
  | stopped first _ ih => exact (ih member).append first.accounted

/-- Whatever was mapped on a new registry, its parts agree. -/
theorem Attempts.coherent {realm : Option String} (h : Attempts calls { realm } visits r) :
    r.Coherent := by
  have orderly : Orderly r := h.orderly (orderly_new realm)
  have parted : Parted r := h.parted (parted_new realm)
  have recorded : Recorded r visits := h.recorded (recorded_new realm)
  have visited : ∀ entry ∈ r.entries, ∃ visit ∈ visits, visit.key = entry.1 := fun entry member =>
    (h.accounted member).resolve_left (by simp)
  constructor
  case keys => exact orderly.keys
  case realm =>
      intro entry member
      obtain ⟨visit, among, same⟩ := visited entry member
      exact same ▸ recorded.realm visit among
  case types => exact fun entry member => orderly.type_of_entry parted member
  case closed => exact fun entry member ref path id => orderly.existsUnique_key_of_leads member path
  case handed =>
      intro entry member
      obtain ⟨visit, among, same⟩ := visited entry member
      exact same ▸ recorded.handed visit among
  case kept => exact fun given member => recorded.kept (List.mem_map_of_mem member)
  case apart => exact recorded.apart

/-! ## Steps that are made of mappings -/

/-- What a sequence leaves is what its second step leaves, if it comes to that. -/
theorem left_bind {α β : Type} (step : Step α) (next : α -> Step β) (w : Workshop) :
    left (step >>= next) w =
      match step w with
      | .ok a w' => left (next a) w'
      | .error _ w' => w' := by
  unfold left
  rw [bind_apply]
  cases step w <;> rfl

def Attempting {α : Type} (step : Step α) : Prop :=
  ∀ w, ∃ calls visits, Attempts calls w.registry visits (left step w).registry

theorem attempting_sequences : Sequences (fun _ => True) Attempting where
  pure a w := ⟨[], [], .nil⟩
  throw _ w := ⟨[], [], .nil⟩
  bind {_ _ step _} first later w := by
    obtain ⟨calls, visits, before⟩ := first w
    rw [left_bind]
    unfold left at before
    cases ended : step w with
    | ok a w₁ =>
        rw [ended] at before
        obtain ⟨more, others, after⟩ := later a w₁
        exact ⟨_, _, before.append after⟩
    | error fault w₁ =>
        rw [ended] at before
        exact ⟨calls, visits, before⟩
  current w := ⟨[], [], .nil⟩
  report event w := ⟨[], [], .nil⟩

theorem left_mapSchema (call : Call) (w : Workshop) :
    left (mapSchema call.schema call.origin call.isInput call.hint call.required) w =
      attempt w call := by
  unfold left attempt
  cases mapSchema call.schema call.origin call.isInput call.hint call.required w <;> rfl

theorem mapSchema_attempting (schema : Schema) (origin : Origin) (isInput : Bool) (hint : String)
    (required : Bool) : Attempting (mapSchema schema origin isInput hint required) := by
  intro w
  let call : Call := ⟨schema, origin, isInput, hint, required⟩
  obtain ⟨visits, attempts⟩ := attemptAll_attempts [call] w
  exact ⟨[call], visits, left_mapSchema call w ▸ attempts⟩

end Mapping

namespace Assembly

open Registry Workshop Mapping

/-! ## Demands -/

/--
What can be asked of a registry: a task, or the fields of the endpoints of one kind.
The schema of a task may stand anywhere, among the nodes of earlier demands or apart
from them.
-/
inductive Demand
  | task (task : Task)
  | fields (endpoints : EndpointSet) (mutation : Bool)
  deriving Repr, Inhabited

def Demand.meet (w : Workshop) : Demand -> Workshop
  | .task asked => asked.perform w
  | .fields endpoints mutation => left (partition endpoints mutation) w

def meetAll (demands : List Demand) (w : Workshop) : Workshop :=
  demands.foldl Demand.meet w

/-- A demand comes down to mappings: as many as are begun before it is met or fails. -/
theorem Demand.meet_attempts (demand : Demand) (w : Workshop) :
    ∃ calls visits, Attempts calls w.registry visits (demand.meet w).registry := by
  cases demand with
  | task asked =>
      cases asked with
      | map call =>
          obtain ⟨visits, attempts⟩ := attemptAll_attempts [call] w
          exact ⟨[call], visits, attempts⟩
      | parameters operationId key part arguments rest =>
          exact mapParameters_sequences attempting_sequences (fun _ _ => trivial)
            mapSchema_attempting operationId key part arguments rest w
  | fields endpoints mutation =>
      exact partition_sequences attempting_sequences (fun _ _ => trivial) mapSchema_attempting
        endpoints mutation w

theorem meetAll_attempts (demands : List Demand) (w : Workshop) :
    ∃ calls visits, Attempts calls w.registry visits (meetAll demands w).registry := by
  induction demands generalizing w with
  | nil => exact ⟨[], [], .nil⟩
  | cons demand rest ih =>
      obtain ⟨calls, visits, first⟩ := demand.meet_attempts w
      obtain ⟨more, others, later⟩ := ih (demand.meet w)
      exact ⟨_, _, first.append later⟩

/--
Whatever is asked of a new registry, in any order and whether it is met or fails
halfway: its keys are of its realm; under each stands a type with the key's name,
made for the key's role; every named type that a registered one leads to is
registered itself, under one key; the titles of keys and the names of nodes without
a title were handed out, and no two of these nodes have one name.
-/
theorem meetAll_coherent (demands : List Demand) (realm : Option String) (log : Log) :
    let r := (meetAll demands ⟨{ realm }, log⟩).registry
    r.realm = realm ∧ r.Coherent := by
  obtain ⟨calls, visits, attempts⟩ := meetAll_attempts demands ⟨{ realm }, log⟩
  exact ⟨attempts.extends.realm, attempts.coherent⟩

/-- An endpoint that answers with an object of which one part cannot be mapped. -/
def depot : EndpointSet :=
  [(.text "depot", {
    operationId := .text "depot", method := some .get, path := some "/depot", mutation := false
    description := .null
    response := some ⟨.object ⟨0, some (.text "Depot"), .null⟩ 0,
      #[⟨[], [("size", .scalar ⟨1, none, .null⟩ .integer),
        ("kind", .enum ⟨2, some (.text "String"), .null⟩ none [.text "open"])]⟩]⟩
    parameters := [], baseUrl := .null })]

/-- The object is registered with the one field that it got; of the part only the title is known. -/
example :
    let r := (meetAll [.fields depot false] ⟨{ realm := none }, #[]⟩).registry
    r.entries.map (fun entry => entry.1.title) = ["Depot"] ∧ r.titles = ["Depot", "String"] ∧
      (r.type? ⟨none, 0⟩).map NamedType.references = some [.scalar .int] := by
  decide +kernel

end Assembly

end GraphFacade
