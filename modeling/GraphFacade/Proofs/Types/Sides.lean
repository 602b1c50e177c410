import GraphFacade.Proofs.Types.Stability
import Mathlib.Logic.Relation

/-!
# The two sides of a registry

Objects go out and inputs come in, and one registry makes both.  Yet whatever is
mapped on it, and in whatever order, the fields of an object lead to no input
and those of an input to no object; enumerations alone are on both sides.
-/

namespace GraphFacade

/-- What a named type is for. -/
def NamedType.role : NamedType -> Role
  | object .. => .output
  | input .. => .input
  | enum .. => .enum

namespace Registry

def Serves (r : Registry) (role : Role) (ref : TypeRef) : Prop :=
  ∀ id, ref.unwrapped = .named id ->
    ∃ type, r.type? id = some type ∧ (type.role = .enum ∨ type.role = role)

def Leads (r : Registry) (ref next : TypeRef) : Prop :=
  ∃ id type, ref.unwrapped = .named id ∧ r.type? id = some type ∧ next ∈ type.references

/-- Keys tell what their types are for, and no type leads to one of the other side. -/
structure Parted (r : Registry) : Prop where
  entries : ∀ {key : TypeKey} {ref : TypeRef}, (key, ref) ∈ r.entries ->
    ∃ id type, ref = .named id ∧ r.type? id = some type ∧ type.role = key.role
  types : ∀ {index : Nat} {type : NamedType}, r.types[index]? = some type ->
    ∀ ref ∈ type.references, r.Serves type.role ref

def KeepsRoles (r r' : Registry) : Prop :=
  ∀ {id : TypeId} {type : NamedType}, r.type? id = some type ->
    ∃ type', r'.type? id = some type' ∧ type'.role = type.role

variable {r r' : Registry} {role : Role} {ref next : TypeRef}

theorem Serves.mono (h : r.Serves role ref) (kept : KeepsRoles r r') : r'.Serves role ref := by
  intro id named
  obtain ⟨type, found, serves⟩ := h id named
  obtain ⟨type', found', same⟩ := kept found
  exact ⟨type', found', same ▸ serves⟩

theorem type?_of_index {index : Nat} {type : NamedType} (h : r.types[index]? = some type) :
    r.type? ⟨r.realm, index⟩ = some type := by
  rw [type?, if_pos rfl]
  exact h

theorem index_of_type? {id : TypeId} {type : NamedType} (h : r.type? id = some type) :
    id.realm = r.realm ∧ r.types[id.index]? = some type := by
  unfold type? at h
  split at h
  · rename_i same
    exact ⟨same, h⟩
  · simp at h

theorem Parted.serves_of_leads (h : Parted r) (path : Relation.ReflTransGen r.Leads ref next)
    (serves : r.Serves role ref) : r.Serves role next := by
  induction path with
  | refl => exact serves
  | @tail middle next _ leads ih =>
      obtain ⟨id, type, named, found, member⟩ := leads
      obtain ⟨type', found', sides⟩ := ih id named
      obtain rfl : type = type' := Option.some.inj (found.symm.trans found')
      have inside := h.types (index_of_type? found).2 next member
      rcases sides with enum | same
      · -- an enumeration leads nowhere
        cases type <;> simp_all [NamedType.role, NamedType.references]
      · exact same ▸ inside

theorem parted_new (realm : Option String) : Parted { realm } :=
  ⟨by simp, by simp⟩

theorem Parted.of_same (h : Parted r) (realm : r'.realm = r.realm)
    (entries : r'.entries = r.entries) (types : r'.types = r.types) : Parted r' := by
  rcases r with ⟨realm₁, entries₁, untitled₁, titles₁, types₁⟩
  rcases r' with ⟨realm₂, entries₂, untitled₂, titles₂, types₂⟩
  simp only at realm entries types
  subst realm entries types
  exact ⟨h.entries, h.types⟩

theorem keepsRoles_establish {key : TypeKey} (type : NamedType) (free : r.get? key = none) :
    KeepsRoles r (r.establish key type) := by
  intro id old found
  obtain ⟨realm, there⟩ := index_of_type? found
  have inside : id.index < r.types.size := (Array.getElem?_eq_some_iff.mp there).choose
  refine ⟨old, ?_, rfl⟩
  rw [type?, if_pos (realm.trans (establish_extends type free).realm.symm),
    types_establish_of_lt type free inside]
  exact there

theorem Parted.establish (h : Parted r) {key : TypeKey} {type : NamedType}
    (free : r.get? key = none) (same : type.role = key.role) (bare : type.references = []) :
    Parted (r.establish key type) := by
  have kept : KeepsRoles r (r.establish key type) := keepsRoles_establish type free
  rw [establish_of_free type free] at kept ⊢
  constructor
  · intro key' ref member
    rcases List.mem_append.mp member with old | new
    · obtain ⟨id, found, named, there, role⟩ := h.entries old
      obtain ⟨found', there', role'⟩ := kept there
      exact ⟨id, found', named, there', role'.trans role⟩
    · obtain ⟨rfl, rfl⟩ := Prod.mk.inj (List.mem_singleton.mp new)
      exact ⟨_, type, rfl, type?_of_index (by simp), same⟩
  · intro index found there ref member
    rw [Array.getElem?_push] at there
    split at there
    · rw [← Option.some.inj there, bare] at member
      simp at member
    · exact (h.types there ref member).mono kept

theorem keepsRoles_updateType {owner : TypeRef} {f : NamedType -> NamedType}
    (same : ∀ type, (f type).role = type.role) : KeepsRoles r (r.updateType owner f) := by
  intro id type found
  obtain ⟨realm, there⟩ := index_of_type? found
  have realm' : (r.updateType owner f).realm = r.realm := (updateType_extends r owner f).realm
  rw [type?, if_pos (realm.trans realm'.symm)]
  cases owner with
  | named owner =>
      rw [types_updateType, there]
      split
      · exact ⟨f type, rfl, same type⟩
      · exact ⟨type, rfl, rfl⟩
  | _ => exact ⟨type, there, rfl⟩

/-- A type may get references that serve its role. -/
theorem Parted.updateType (h : Parted r) {owner : TypeRef} {f : NamedType -> NamedType}
    (same : ∀ type, (f type).role = type.role)
    (serves : ∀ type, ∀ next ∈ (f type).references,
      next ∈ type.references ∨ r.Serves type.role next) : Parted (r.updateType owner f) := by
  have kept : KeepsRoles r (r.updateType owner f) := keepsRoles_updateType same
  constructor
  · intro key ref member
    rw [updateType_entries] at member
    obtain ⟨id, type, named, found, role⟩ := h.entries member
    obtain ⟨type', found', role'⟩ := kept found
    exact ⟨id, type', named, found', role'.trans role⟩
  · intro index type found next member
    cases owner with
    | named owner =>
        rw [types_updateType] at found
        split at found
        · obtain ⟨old, there, rfl⟩ := Option.map_eq_some_iff.mp found
          rw [same]
          rcases serves old next member with before | new
          · exact (h.types there next before).mono kept
          · exact new.mono kept
        · exact (h.types found next member).mono kept
    | _ => exact h.types found next member

end Registry

namespace Mapping

open Registry Workshop

variable {schema : Schema} {origin : Origin} {isInput : Bool} {job : Job} {r r' : Registry}
  {visits : List Visit} {type : TypeRef} {fault : Fault} {node : Node}

def side (isInput : Bool) : Role :=
  if isInput then .input else .output

theorem role?_cases {role : Role} (named : role? schema isInput node = some role) :
    role = .enum ∨ role = side isInput := by
  cases node with
  | enum label kind literals =>
      simp only [role?] at named
      split at named
      · exact .inl (Option.some.inj named).symm
      · simp at named
  | object label index =>
      simp only [role?] at named
      split at named
      · simp at named
      · exact .inr (Option.some.inj named).symm
  | _ => simp [role?] at named

theorem role_blank {role : Role} (named : role? schema isInput node = some role) (title : String) :
    (blank r title role node).role = role := by
  cases node with
  | enum label kind literals =>
      simp only [role?] at named
      split at named
      · rw [← Option.some.inj named]
        rfl
      · simp at named
  | object label index =>
      rcases role?_cases named with rfl | rfl
      · simp only [role?] at named
        split at named
        · simp at named
        · cases isInput <;> simp at named
      · cases isInput <;> rfl
  | _ => simp [role?] at named

theorem role_fieldFor (required : List String) (property : String × Node) (ref : TypeRef)
    (type : NamedType) : (fieldFor isInput required property ref type).role = type.role := by
  cases type <;> cases isInput <;> rfl

theorem fieldFor_of_other_side {type : NamedType} (other : type.role ≠ side isInput)
    (required : List String) (property : String × Node) (ref : TypeRef) :
    fieldFor isInput required property ref type = type := by
  cases type <;> cases isInput <;> first | rfl | exact absurd rfl other

/-- The type of a node is of the side that the node is mapped on. -/
theorem Settled.serves (h : Settled schema origin isInput r node type) (parted : Parted r) :
    r.Serves (side isInput) type := by
  induction h with
  | direct h =>
      intro id same
      have nowhere : Registry.Holds {} _ := direct?_holds h
      exact absurd (nowhere id same).2 (Nat.not_lt_zero _)
  | list _ ih => exact ih
  | @known node role title type named _ found =>
      obtain ⟨id, made, rfl, there, same⟩ := parted.entries (Entries.mem_of_lookup found)
      rintro id' ⟨⟩
      exact ⟨made, there, same ▸ role?_cases named⟩

theorem parted_fieldFor (parted : Parted r) (serves : r.Serves (side isInput) type)
    (owner : TypeRef) (required : List String) (property : String × Node) :
    Parted (r.updateType owner (fieldFor isInput required property type)) := by
  refine parted.updateType (role_fieldFor _ _ _) fun filled next member => ?_
  by_cases same : filled.role = side isInput
  · rcases references_fieldFor member with old | rfl
    · exact .inl old
    · have wrapped : r.Serves filled.role (requireIf (required.contains property.1) type) := by
        rw [same]
        cases required.contains property.1 <;> exact serves
      exact .inr wrapped
  · rw [fieldFor_of_other_side same] at member
    exact .inl member

theorem parted_entitle {label : Label} {hint title : String} (parted : Parted r)
    (titled : r.entitle origin label hint = some (title, r')) : Parted r' :=
  parted.of_same (entitle_extends titled).realm (entitle_entries titled) (entitle_types titled)

theorem parted_blank {role : Role} {title : String} (parted : Parted r)
    (named : role? schema isInput node = some role) (free : r.get? (r.key title role) = none) :
    Parted (r.establish (r.key title role) (blank r title role node)) :=
  parted.establish free (role_blank named title) (references_blank _ _ _ _)

theorem Maps.parted (h : Maps schema origin isInput job r visits type r') (parted : Parted r) :
    Parted r' := by
  induction h with
  | direct => exact parted
  | list _ ih => exact ih parted
  | known _ titled _ => exact parted_entitle parted titled
  | created named titled free _ _ ih =>
      exact ih (parted_blank (parted_entitle parted titled) named free)
  | done => exact parted
  | property first _ ihFirst ihLater =>
      have middle := ihFirst parted
      exact ihLater (parted_fieldFor middle (first.settled.serves middle) _ _ _)

/-- A mapping that stops leaves the sides apart, too, though some types lack fields. -/
theorem Stops.parted (h : Stops schema origin isInput job r visits fault r') (parted : Parted r) :
    Parted r' := by
  induction h with
  | noTitle => exact parted
  | reserved _ titled => exact parted_entitle parted titled
  | endless => exact parted
  | item _ ih => exact ih parted
  | body named titled free _ _ ih =>
      exact ih (parted_blank (parted_entitle parted titled) named free)
  | first _ ih => exact ih parted
  | later first _ ih =>
      have middle := first.parted parted
      exact ih (parted_fieldFor middle (first.settled.serves middle) _ _ _)

theorem attempt_parted (w : Workshop) (call : Call) (parted : Parted w.registry) :
    Parted (attempt w call).registry := by
  unfold attempt
  cases result : mapSchema call.schema call.origin call.isInput call.hint call.required w with
  | ok ref w' =>
      obtain ⟨visits, _, _, maps⟩ := mapSchema_maps result
      exact maps.parted parted
  | error fault w' =>
      obtain ⟨visits, stops⟩ := mapSchema_stops result
      exact stops.parted parted

/-! ## Tasks -/

theorem Task.perform_parted (task : Task) {w : Workshop} (parted : Parted w.registry) :
    Parted (task.perform w).registry := by
  cases task with
  | map call => exact attempt_parted w call parted
  | parameters => exact mapParameters_keeps attempt_parted parted

theorem performAll_parted (tasks : List Task) {w : Workshop} (parted : Parted w.registry) :
    Parted (performAll tasks w).registry := by
  induction tasks generalizing w with
  | nil => exact parted
  | cons task rest ih => exact ih (task.perform_parted parted)

/--
Whatever tasks are performed one after another on a new registry, and whether
they end well or not: a node whose mapping has ended well, that of a whole
schema or of a node inside, has a type of the side it was mapped on.  From then
on all that the type leads to, through any number of fields, lists and non-null
wrappers, is there and is a scalar, an enumeration or a type of that side: an
input below an input, an object below an object.
-/
theorem performAll_sides (before : List Task) (task : Task) (after : List Task)
    (realm : Option String) (log : Log) :
    let start := performAll before ⟨{ realm }, log⟩
    let later := (performAll after (task.perform start)).registry
    ∀ call node type, task.MapsTo start call node type ->
      ∀ required ref, Relation.ReflTransGen later.Leads (requireIf required type) ref ->
        ∀ id, ref.unwrapped = .named id -> ∃ found, later.type? id = some found ∧
          (call.isInput = true -> found.role = .input ∨ found.role = .enum) ∧
          (call.isInput = false -> found.role = .output ∨ found.role = .enum) := by
  intro start later call node type mapsTo required ref path id named
  have parted : Parted later :=
    performAll_parted after (task.perform_parted (performAll_parted before (parted_new realm)))
  have settled : Settled call.schema call.origin call.isInput later node type :=
    mapsTo.settled.mono (performAll_preserves after).toLater
  have serves : later.Serves (side call.isInput) (requireIf required type) := by
    cases required <;> exact settled.serves parted
  obtain ⟨found, there, sides⟩ := parted.serves_of_leads path serves id named
  refine ⟨found, there, fun isInput => ?_, fun isInput => ?_⟩
  · rw [isInput] at sides
    exact sides.symm
  · rw [isInput] at sides
    exact sides.symm

/-- A team led by a person, as an argument; it cannot be mapped to its end. -/
def team : Call :=
  let person : Node := .object ⟨0, some (.text "Person"), .null⟩ 0
  let kind : Node := .enum ⟨4, some (.text "String"), .null⟩ none [.text "home", .text "guest"]
  ⟨⟨.object ⟨3, some (.text "Team"), .null⟩ 1,
    #[persons[0].schema.shape 0, ⟨[], [("lead", person), ("kind", kind)]⟩]⟩,
    ⟨.text "put", 1⟩, true, "put_team", true⟩

/-- Persons that have been mapped as answers are not those that a team leads to. -/
theorem performAll_sides_team :
    let start := performAll [.map persons[0], .map team] ⟨{ realm := none }, #[]⟩
    let task : Task := .map team
    let later := (performAll [] (task.perform start)).registry
    task.MapsTo start team team.schema.root (.named ⟨none, 1⟩) ∧
      Relation.ReflTransGen later.Leads (.nonNull (.named ⟨none, 1⟩))
        (.list (.named ⟨none, 2⟩)) ∧
      ∃ found, later.type? ⟨none, 2⟩ = some found ∧ (found.role = .input ∨ found.role = .enum) := by
  intro start task later
  have mapsTo : task.MapsTo start team team.schema.root (.named ⟨none, 1⟩) :=
    ⟨_, _, _, _, _, .map, .here, by rfl⟩
  have lead : later.Leads (.nonNull (.named ⟨none, 1⟩)) (.named ⟨none, 2⟩) :=
    ⟨⟨none, 1⟩, _, rfl, by rfl, List.mem_cons_self⟩
  have reports : later.Leads (.named ⟨none, 2⟩) (.list (.named ⟨none, 2⟩)) :=
    ⟨⟨none, 2⟩, _, rfl, by rfl, by decide⟩
  have path := (Relation.ReflTransGen.single lead).tail reports
  obtain ⟨found, there, input, _⟩ := performAll_sides [.map persons[0], .map team] task [] none #[]
    team _ _ mapsTo true _ path _ rfl
  exact ⟨mapsTo, path, found, there, input rfl⟩

end Mapping

end GraphFacade
