import GraphFacade.Proofs.Endpoint.KeyOrder
import GraphFacade.Proofs.Related
import GraphFacade.Proofs.Types.Continuing
import GraphFacade.Proofs.Types.Failing
import GraphFacade.Types.Answer
import Mathlib.Data.List.Duplicate

/-!
# Fields of endpoints

Assembling gives one field for each endpoint, with one argument for each of its
parameters, and nothing else.  When it refuses, then because there is no query,
or because two fields or two arguments would have one name.
-/

namespace GraphFacade

theorem duplicate_append {α : Type} {a : α} {before after : List α} (first : a ∈ before)
    (second : a ∈ after) : List.Duplicate a (before ++ after) := by
  have parts := (List.singleton_sublist.mpr first).append (List.singleton_sublist.mpr second)
  exact List.duplicate_iff_sublist.mpr parts

theorem duplicate_perm {α : Type} {a : α} {elements elements' : List α}
    (moved : elements.Perm elements') (twice : List.Duplicate a elements) :
    List.Duplicate a elements' := by
  classical
  rw [List.duplicate_iff_two_le_count] at twice ⊢
  rwa [← moved.count_eq]

namespace Mapping

open Registry Workshop Steps

def Translates (r : Registry) (schema : Schema) (origin : Origin) (isInput required : Bool)
    (ref : TypeRef) : Prop :=
  ∃ type, translate? r schema origin isInput schema.root = some type ∧ ref = requireIf required type

/-- The argument of a parameter, which comes with its number among those of its endpoint. -/
structure ArgumentFor (r : Registry) (key : Atom) (numbered : Parameter × Nat)
    (argument : String × Argument) : Prop where
  name : numbered.1.argument? = some argument.1
  type : Translates r numbered.1.schema ⟨key, numbered.2⟩ true numbered.1.required argument.2.type
  nonNull : (∃ inner, argument.2.type = .nonNull inner) ↔ numbered.1.required
  description : argument.2.description = describe numbered.1.description

variable {schema : Schema} {origin : Origin} {isInput required : Bool} {ref : TypeRef}
  {r r' : Registry}

theorem Translates.mono (h : Translates r schema origin isInput required ref)
    (grown : Extends r r') : Translates r' schema origin isInput required ref := by
  obtain ⟨type, translates, same⟩ := h
  exact ⟨type, translate?_mono grown translates, same⟩

theorem ArgumentFor.mono {key : Atom} {numbered : Parameter × Nat} {argument : String × Argument}
    (h : ArgumentFor r key numbered argument) (grown : Extends r r') :
    ArgumentFor r' key numbered argument :=
  ⟨h.name, h.type.mono grown, h.nonNull, h.description⟩

theorem translate?_ne_nonNull (orderly : Orderly r) {node : Node} {type : TypeRef}
    (h : translate? r schema origin isInput node = some type) (inner : TypeRef) :
    type ≠ .nonNull inner := by
  rintro rfl
  have direct : direct? schema node ≠ some (.nonNull inner) := by
    unfold direct?
    split <;> (try split_ifs) <;> simp
  cases node with
  | list => simp [translate?] at h
  | _ =>
      simp only [translate?] at h
      split at h
      · rw [Option.bind_eq_some_iff] at h
        obtain ⟨title, _, found⟩ := h
        obtain ⟨i, place⟩ := List.mem_iff_getElem?.mp (Entries.mem_of_lookup found)
        obtain ⟨_, named, _⟩ := orderly.entries place
        cases named
      · exact direct h

theorem Translates.nonNull_iff (h : Translates r schema origin isInput required ref)
    (orderly : Orderly r) : (∃ inner, ref = .nonNull inner) ↔ required = true := by
  obtain ⟨type, translates, rfl⟩ := h
  cases required with
  | true => simp [requireIf]
  | false => simpa [requireIf] using translate?_ne_nonNull orderly translates

theorem mapSchema_translates {hint : String} {w w' : Workshop}
    (h : mapSchema schema origin isInput hint required w = .ok ref w') :
    Translates w'.registry schema origin isInput required ref := by
  obtain ⟨_, type, same, maps⟩ := mapSchema_maps h
  exact ⟨type, maps.done_job, same⟩

theorem mapSchema_failsWith (schema : Schema) (origin : Origin) (isInput : Bool) (hint : String)
    (required : Bool) : FailsWith Refuses (mapSchema schema origin isInput hint required) :=
  mapSchema_composes (failsWith_composes Refuses) (fun _ => id) schema origin isInput hint required

theorem Refuses.not_construction {fault : Fault} (h : Refuses fault) :
    fault.family ≠ .construction := by
  rcases h with rfl | rfl | ⟨name, _, rfl⟩ <;> simp [Fault.family]

/-! ## Arguments -/

section Parameters

variable {operationId : Json} {key : Atom} {part : Nat} {arguments arguments' : Entries Argument}
  {parameter : Parameter} {rest parameters : List Parameter} {w w' : Workshop} {fault : Fault}

/-- Parameters that are mapped have an argument each, and no two of them one name. -/
theorem mapParameters_arguments
    (h : mapParameters operationId key part arguments parameters w = .ok arguments' w')
    (orderly : Orderly w.registry) (distinct : (arguments.map Prod.fst).Nodup) :
    (arguments'.map Prod.fst).Nodup ∧ ∃ new, arguments' = arguments ++ new ∧
      List.Forall₂ (ArgumentFor w'.registry key) (parameters.zipIdx part) new := by
  induction parameters generalizing part arguments w with
  | nil =>
      simp only [mapParameters, pure_eq_ok] at h
      exact ⟨h.1 ▸ distinct, [], by simp [h.1], .nil⟩
  | cons parameter rest ih =>
      obtain ⟨name, named, free, _, type, w₁, mapped, others⟩ := mapParameters_cons_ok.mp h
      obtain ⟨_, orderly₁⟩ := mapSchema_continuing _ _ _ _ _ _ _ _ mapped orderly
      obtain ⟨later, _⟩ := Assembly.mapParameters_continuing _ _ _ _ _ _ _ _ others orderly₁
      have translates := mapSchema_translates mapped
      let argument : Argument := ⟨type, describe parameter.description⟩
      have first : ArgumentFor w₁.registry key (parameter, part) (name, argument) :=
        ⟨named, translates, translates.nonNull_iff orderly₁, rfl⟩
      have distinct₁ := Entries.nodup_keys_snoc distinct free argument
      obtain ⟨distinct', new, rfl, arguments⟩ := ih others orderly₁ distinct₁
      refine ⟨distinct', _ :: new, List.append_assoc .., ?_⟩
      rw [List.zipIdx_cons]
      exact .cons (first.mono later.grown) arguments

/-- Parameters are refused for an argument that is there already. -/
theorem mapParameters_refuses
    (h : mapParameters operationId key part arguments parameters w = .error fault w')
    (construction : fault.family = .construction) :
    ∃ name, fault = .argumentClash operationId name ∧
      List.Duplicate (some name)
        ((arguments.map fun argument => some argument.1) ++
          parameters.map Parameter.argument?) := by
  induction parameters generalizing part arguments w with
  | nil => simp [mapParameters] at h
  | cons parameter rest ih =>
      rw [mapParameters] at h
      cases named : parameter.argument? with
      | none =>
          simp only [named, throw_eq_error] at h
          rw [← h.1] at construction
          simp [Fault.family] at construction
      | some name =>
          by_cases clash : Entries.has name arguments
          · simp only [named, clash, ↓reduceIte, throw_eq_error] at h
            refine ⟨name, h.1.symm, ?_⟩
            refine duplicate_append ?_ (List.mem_map.mpr ⟨parameter, List.mem_cons_self, named⟩)
            obtain ⟨argument, there, rfl⟩ := List.mem_map.mp ((Entries.has_iff _ _).mp clash)
            exact List.mem_map.mpr ⟨argument, there, rfl⟩
          · simp only [named, clash, Bool.false_eq_true, ↓reduceIte, bind_eq_error] at h
            rcases h with failed | ⟨shown, _, _, failed | ⟨type, w₁, mapped, failed⟩⟩
            · obtain ⟨_, rfl⟩ := Json.shown_eq_error.mp (ofExcept_eq_error.mp failed).1
              cases construction
            · have mapping := mapSchema_failsWith _ _ _ _ _ _ _ _ failed
              exact absurd construction mapping.not_construction
            · obtain ⟨name', same, twice⟩ := ih failed
              refine ⟨name', same, ?_⟩
              simpa [named] using twice

end Parameters

end Mapping

/-! ## Calls -/

namespace Session

open Steps

/--
A field that gets its value from an endpoint: no call if there is no request for
the arguments, else one call with that request, whose failure is passed on and
whose answer is fitted to the type of the field, as far as it can be.
-/
structure Resolves (field : Field) (endpoint : Endpoint) : Prop where
  refused : ∀ backend arguments context s fault, endpoint.request arguments = .error fault ->
    resolveField backend field arguments context s = .error fault s
  failed : ∀ backend arguments context s request failure,
    endpoint.request arguments = .ok request -> backend context request = .error failure ->
    ∃ log, resolveField backend field arguments context s =
      .error (.backend failure) ⟨s.calls ++ [(context, request)], log⟩
  answered : ∀ backend arguments context s request raw value,
    endpoint.request arguments = .ok request -> backend context request = .ok raw ->
    Answer.fit field.type raw = .ok value ->
    resolveField backend field arguments context s =
      .ok value ⟨s.calls ++ [(context, request)], s.log⟩
  unfit : ∀ backend arguments context s request raw fault,
    endpoint.request arguments = .ok request -> backend context request = .ok raw ->
    Answer.fit field.type raw = .error fault ->
    resolveField backend field arguments context s =
      .error fault ⟨s.calls ++ [(context, request)], s.log⟩

theorem resolves_of_source {field : Field} {endpoint : Endpoint}
    (source : field.source = .endpoint endpoint) : Resolves field endpoint := by
  have opened : ∀ backend arguments context s,
      resolveField backend field arguments context s =
        resolve backend endpoint field.type arguments context s := by
    intro backend arguments context s
    simp only [resolveField, source]
  refine ⟨?_, ?_, ?_, ?_⟩
  · intro backend arguments context s fault refused
    simp only [opened, resolve, bind_apply, ofExcept_apply, refused]
  · intro backend arguments context s request failure asked failed
    simp only [opened, resolve, bind_apply, ofExcept_apply, asked, call, failed]
    exact ⟨_, rfl⟩
  · intro backend arguments context s request raw value asked answered fitted
    simp only [opened, resolve, bind_apply, ofExcept_apply, asked, call, answered, fitted]
  · intro backend arguments context s request raw fault asked answered unfit
    simp only [opened, resolve, bind_apply, ofExcept_apply, asked, call, answered, unfit]

end Session

/-! ## Fields -/

def RootFields.under (fields : RootFields) (mutation : Bool) : Entries Field :=
  if mutation then fields.mutation else fields.query

namespace Assembly

open Registry Workshop Mapping Steps

/-- The type of an endpoint's answers by what is registered. -/
def Answers (r : Registry) (key : Atom) (endpoint : Endpoint) (ref : TypeRef) : Prop :=
  ∃ type, ref = .nonNull type ∧
    match endpoint.response with
    | some schema => translate? r schema ⟨key, 0⟩ false schema.root = some type
    | none => type = .json

/-- The field of an endpoint. -/
structure FieldFor (r : Registry) (entry : Atom × Endpoint) (field : String × Field) : Prop where
  name : Name.ofJson? (.atom entry.1) = some field.1
  type : Answers r entry.1 entry.2 field.2.type
  arguments : List.Forall₂ (ArgumentFor r entry.1) (entry.2.parameters.zipIdx 1) field.2.arguments
  distinct : (field.2.arguments.map Prod.fst).Nodup
  description : field.2.description = describe entry.2.description
  source : field.2.source = .endpoint entry.2
  resolves : Session.Resolves field.2 entry.2

variable {r r' : Registry} {entry : Atom × Endpoint} {key : Atom} {endpoint : Endpoint}
  {w w' : Workshop} {fault : Fault}

theorem Answers.mono {ref : TypeRef} (h : Answers r key endpoint ref) (grown : Extends r r') :
    Answers r' key endpoint ref := by
  obtain ⟨type, same, mapped⟩ := h
  refine ⟨type, same, ?_⟩
  cases response : endpoint.response with
  | none =>
      rw [response] at mapped
      exact mapped
  | some schema =>
      rw [response] at mapped
      exact translate?_mono grown mapped

theorem FieldFor.mono {field : String × Field} (h : FieldFor r entry field)
    (grown : Extends r r') : FieldFor r' entry field :=
  { h with
    type := h.type.mono grown
    arguments := h.arguments.imp fun _ _ argument => argument.mono grown }

theorem responseType_answers {ref : TypeRef} (h : responseType key endpoint w = .ok ref w') :
    Answers w'.registry key endpoint ref := by
  obtain ⟨_, h⟩ := responseType_eq_ok.mp h
  unfold Answers
  cases response : endpoint.response with
  | some schema =>
      rw [response] at h
      obtain ⟨type, translates, same⟩ := mapSchema_translates h
      exact ⟨type, same, translates⟩
  | none =>
      rw [response] at h
      obtain ⟨type, degraded, same⟩ := h
      exact ⟨type, same.symm, (degrade_ok degraded).1.symm⟩

theorem fieldOf_field {field : Field} {name : String}
    (named : Name.ofJson? (.atom key) = some name) (h : fieldOf key endpoint w = .ok field w')
    (orderly : Orderly w.registry) : FieldFor w'.registry (key, endpoint) (name, field) := by
  simp only [fieldOf, bind_eq_ok, pure_eq_ok] at h
  obtain ⟨type, w₁, mapped, arguments, w₂, others, rfl, rfl⟩ := h
  obtain ⟨_, orderly₁⟩ := responseType_continuing _ _ _ _ _ mapped orderly
  obtain ⟨later, _⟩ := mapParameters_continuing _ _ _ _ _ _ _ _ others orderly₁
  obtain ⟨distinct, new, rfl, given⟩ :=
    mapParameters_arguments others orderly₁ List.nodup_nil
  exact {
    name := named
    type := (responseType_answers mapped).mono later.grown
    arguments := given
    distinct
    description := rfl
    source := rfl
    resolves := Session.resolves_of_source rfl }

/-- Endpoints have a field each, and no two of them one name. -/
theorem fieldsOf_fields {fields fields' : Entries Field} {endpoints : EndpointSet}
    (h : fieldsOf fields endpoints w = .ok fields' w') (orderly : Orderly w.registry)
    (distinct : (fields.map Prod.fst).Nodup) :
    (fields'.map Prod.fst).Nodup ∧ ∃ new, fields' = fields ++ new ∧
      List.Forall₂ (FieldFor w'.registry) endpoints new := by
  induction endpoints generalizing fields w with
  | nil =>
      simp only [fieldsOf, pure_eq_ok] at h
      exact ⟨h.1 ▸ distinct, [], by simp [h.1], .nil⟩
  | cons entry rest ih =>
      rcases entry with ⟨key, endpoint⟩
      obtain ⟨name, named, free, field, w₁, made, others⟩ := fieldsOf_cons_ok.mp h
      obtain ⟨_, orderly₁⟩ := fieldOf_continuing _ _ _ _ _ made orderly
      obtain ⟨later, _⟩ := fieldsOf_continuing _ _ _ _ _ others orderly₁
      have first := fieldOf_field named made orderly
      have distinct₁ := Entries.nodup_keys_snoc distinct free field
      obtain ⟨distinct', new, rfl, fields⟩ := ih others orderly₁ distinct₁
      exact ⟨distinct', _ :: new, List.append_assoc .., .cons (first.mono later.grown) fields⟩

/-! ## Refusals -/

def fieldNames (endpoints : EndpointSet) (mutation : Bool) : List (Option String) :=
  (endpoints.filter fun entry => entry.2.mutation == mutation).map fun entry =>
    Name.ofJson? (.atom entry.1)

def argumentNames (endpoint : Endpoint) : List (Option String) :=
  endpoint.parameters.map Parameter.argument?

/-- What endpoints must be like to be assembled: some query, and no name given twice. -/
structure Presentable (endpoints : EndpointSet) : Prop where
  queries : ∃ entry ∈ endpoints, entry.2.mutation = false
  fields : ∀ mutation, (fieldNames endpoints mutation).Nodup
  arguments : ∀ entry ∈ endpoints, (argumentNames entry.2).Nodup

/-- Why endpoints are not assembled, and the fault that says so. -/
inductive Objection (realm : Option String) (endpoints : EndpointSet) : Fault -> Prop
  | noQueries (changing : ∀ entry ∈ endpoints, entry.2.mutation = true) :
      Objection realm endpoints (.noQueries (realm.filter fun realm => !realm.isEmpty))
  | fieldClash {entry : Atom × Endpoint} {name : String} (among : entry ∈ endpoints)
      (named : Name.ofJson? (.atom entry.1) = some name)
      (twice : List.Duplicate (some name) (fieldNames endpoints entry.2.mutation)) :
      Objection realm endpoints (.fieldClash entry.1.display name)
  | argumentClash {entry : Atom × Endpoint} {name : String} (among : entry ∈ endpoints)
      (twice : List.Duplicate (some name) (argumentNames entry.2)) :
      Objection realm endpoints (.argumentClash entry.2.operationId name)

theorem Objection.not_presentable {realm : Option String} {endpoints : EndpointSet}
    (h : Objection realm endpoints fault) : ¬ Presentable endpoints := by
  intro presentable
  cases h with
  | noQueries changing =>
      obtain ⟨entry, among, query⟩ := presentable.queries
      rw [changing entry among] at query
      simp at query
  | fieldClash _ _ twice => exact twice.not_nodup (presentable.fields _)
  | argumentClash among twice => exact twice.not_nodup (presentable.arguments _ among)

theorem fieldOf_refuses (h : fieldOf key endpoint w = .error fault w')
    (construction : fault.family = .construction) :
    ∃ name, fault = .argumentClash endpoint.operationId name ∧
      List.Duplicate (some name) (argumentNames endpoint) := by
  simp only [fieldOf, bind_eq_error, pure_ne_error, and_false, exists_false, or_false] at h
  rcases h with failed | ⟨type, w₁, _, failed⟩
  · have known : fault = .badNumeral ∨ Mapping.Refuses fault :=
      responseType_sequences (failsWith_composes fun fault => fault = .badNumeral ∨ _).toSequences
        (mapSchema_composes (failsWith_composes _) fun _ => Or.inr) (.inl rfl) key endpoint
        w fault w' failed
    rcases known with rfl | mapping
    · cases construction
    · exact absurd construction mapping.not_construction
  · exact mapParameters_refuses failed construction

/-- Endpoints are refused for a field that is there already, or for an argument. -/
theorem fieldsOf_refuses {fields : Entries Field} {endpoints : EndpointSet}
    (h : fieldsOf fields endpoints w = .error fault w')
    (construction : fault.family = .construction) :
    ∃ entry ∈ endpoints, ∃ name,
      (Name.ofJson? (.atom entry.1) = some name ∧ fault = .fieldClash entry.1.display name ∧
        List.Duplicate (some name) ((fields.map fun field => some field.1) ++
          endpoints.map fun entry => Name.ofJson? (.atom entry.1))) ∨
      (fault = .argumentClash entry.2.operationId name ∧
        List.Duplicate (some name) (argumentNames entry.2)) := by
  induction endpoints generalizing fields w with
  | nil => simp [fieldsOf] at h
  | cons entry rest ih =>
      rcases entry with ⟨key, endpoint⟩
      rw [fieldsOf] at h
      cases named : Name.ofJson? (.atom key) with
      | none =>
          simp only [named, throw_eq_error] at h
          rw [← h.1] at construction
          simp [Fault.family] at construction
      | some name =>
          by_cases clash : Entries.has name fields
          · simp only [named, clash, ↓reduceIte, throw_eq_error] at h
            refine ⟨_, List.mem_cons_self, name, .inl ⟨named, h.1.symm, ?_⟩⟩
            refine duplicate_append ?_ (List.mem_map.mpr ⟨_, List.mem_cons_self, named⟩)
            obtain ⟨field, there, rfl⟩ := List.mem_map.mp ((Entries.has_iff _ _).mp clash)
            exact List.mem_map.mpr ⟨field, there, rfl⟩
          · simp only [named, clash, Bool.false_eq_true, ↓reduceIte, bind_eq_error] at h
            rcases h with failed | ⟨field, w₁, made, failed⟩
            · obtain ⟨name', argument⟩ := fieldOf_refuses failed construction
              exact ⟨_, List.mem_cons_self, name', .inr argument⟩
            · obtain ⟨entry, among, name', reason⟩ := ih failed
              refine ⟨entry, List.mem_cons_of_mem _ among, name', ?_⟩
              simpa [named] using reason

/-! ## Names of keys -/

theorem named_cases {key : Atom} {name : String} (named : Name.ofJson? (.atom key) = some name) :
    (∃ s, key = .text s ∧ name = Name.ofText s) ∨
      (key.key.isText = false ∧ key.truthy = false ∧ name = Name.ofText "") := by
  cases key with
  | text s => exact .inl ⟨s, rfl, (Option.some.inj named).symm⟩
  | float x =>
      simp only [Name.ofJson?, Option.ite_none_left_eq_some, Option.some.injEq] at named
      cases x <;> exact .inr ⟨rfl, Bool.eq_false_iff.mpr named.1, named.2.symm⟩
  | _ =>
      simp only [Name.ofJson?, Option.ite_none_left_eq_some, Option.some.injEq] at named
      exact .inr ⟨rfl, Bool.eq_false_iff.mpr named.1, named.2.symm⟩

theorem name_congr {a b : Atom} {name name' : String} (named : Name.ofJson? (.atom a) = some name)
    (named' : Name.ofJson? (.atom b) = some name') (same : a.key = b.key) : name = name' := by
  rcases named_cases named with ⟨s, rfl, rfl⟩ | ⟨number, _, rfl⟩ <;>
    rcases named_cases named' with ⟨t, rfl, rfl⟩ | ⟨number', _, rfl⟩
  · exact Name.ofText_congr (AtomKey.text.inj same)
  · rw [← same] at number'
    simp [Atom.key, AtomKey.isText] at number'
  · rw [same] at number
    simp [Atom.key, AtomKey.isText] at number
  · rfl

theorem key_ne_nan {key : Atom} {name : String} (named : Name.ofJson? (.atom key) = some name) :
    key.key ≠ .nan := by
  rcases named_cases named with ⟨s, rfl, _⟩ | ⟨_, missing, _⟩
  · simp [Atom.key]
  · intro same
    cases key with
    | float x =>
        cases x with
        | nan => simp [Atom.truthy, Binary64.isNonzero] at missing
        | _ => simp only [Atom.key, reduceCtorEq] at same
    | _ => simp only [Atom.key, reduceCtorEq] at same

/-! ## What is presented -/

theorem names_of_fields {order : EndpointSet} {fields : Entries Field}
    (made : List.Forall₂ (FieldFor r) order fields) :
    (order.map fun entry => Name.ofJson? (.atom entry.1)) = fields.map fun field => some field.1 :=
  map_eq_of_forall₂ made fun _ _ field => field.name

theorem argumentNames_nodup {field : String × Field} (made : FieldFor r entry field) :
    (argumentNames entry.2).Nodup := by
  have names : argumentNames entry.2 = (field.2.arguments.map Prod.fst).map some := by
    have given := map_eq_of_forall₂ made.arguments fun _ _ argument => argument.name
    rw [List.map_map, argumentNames]
    nth_rewrite 1 [← List.zipIdx_map_fst 1 entry.2.parameters]
    rw [List.map_map]
    exact given
  rw [names]
  exact made.distinct.map fun _ _ => Option.some.inj

theorem keys_nodup {order : EndpointSet} {fields : Entries Field}
    (made : List.Forall₂ (FieldFor r) order fields) (distinct : (fields.map Prod.fst).Nodup) :
    order.keys.Nodup := by
  have names : (order.map fun entry => Name.ofJson? (.atom entry.1)).Nodup := by
    rw [names_of_fields made]
    have mapped := distinct.map (f := some) fun _ _ => Option.some.inj
    rwa [List.map_map] at mapped
  refine List.pairwise_map.mpr ((List.pairwise_map.mp names).imp_of_mem ?_)
  intro a b first second different same
  obtain ⟨field, _, named⟩ := exists_of_forall₂ made first
  obtain ⟨field', _, named'⟩ := exists_of_forall₂ made second
  rw [named.name, named'.name, name_congr named.name named'.name same] at different
  exact different rfl

/-- The fields of the endpoints of one kind are in the order of their keys, one for each. -/
def Presents (r : Registry) (endpoints : EndpointSet) (mutation : Bool) (fields : Entries Field) :
    Prop :=
  ∃ order : EndpointSet,
    order.Perm (endpoints.filter fun entry => entry.2.mutation == mutation) ∧
    (order.Pairwise fun a b => EndpointSet.before a b) ∧
    List.Forall₂ (FieldFor r) order fields ∧ (fields.map Prod.fst).Nodup

theorem partition_fields {endpoints : EndpointSet} {mutation : Bool} {fields : Entries Field}
    (h : partition endpoints mutation w = .ok fields w') (orderly : Orderly w.registry) :
    ∃ sorted, endpoints.sorted = .ok sorted ∧ (fields.map Prod.fst).Nodup ∧
      List.Forall₂ (FieldFor w'.registry)
        (sorted.filter fun entry => entry.2.mutation == mutation) fields := by
  obtain ⟨sorted, result, h⟩ := partition_eq_ok.mp h
  obtain ⟨distinct, new, rfl, made⟩ := fieldsOf_fields h orderly List.nodup_nil
  exact ⟨sorted, result, distinct, made⟩

theorem partition_refuses {endpoints : EndpointSet} {mutation : Bool} {realm : Option String}
    (h : partition endpoints mutation w = .error fault w')
    (construction : fault.family = .construction) : Objection realm endpoints fault := by
  rw [partition_eq] at h
  cases result : endpoints.sorted with
  | error cause =>
      simp only [result, EStateM.Result.error.injEq] at h
      have kind : cause = .wrongKind := by
        unfold EndpointSet.sorted at result
        split at result
        · split at result <;> simp at result
        · exact (Except.error.inj result).symm
      rw [← h.1, kind] at construction
      simp [Fault.family] at construction
  | ok sorted =>
      simp only [result] at h
      have moved := (EndpointSet.sorted_perm result).filter fun entry =>
        entry.2.mutation == mutation
      obtain ⟨entry, among, name, reason⟩ := fieldsOf_refuses h construction
      obtain ⟨there, kind⟩ := List.mem_filter.mp (moved.mem_iff.mp among)
      rcases reason with ⟨named, rfl, twice⟩ | ⟨rfl, twice⟩
      · refine .fieldClash there named ?_
        rw [eq_of_beq kind]
        exact duplicate_perm (moved.map _) twice
      · exact .argumentClash there twice

/-- Sorted endpoints, and the fields that are made of them for each root. -/
structure Made (r : Registry) (endpoints sorted : EndpointSet) (fields : RootFields) : Prop where
  order : endpoints.sorted = .ok sorted
  query : fields.query ≠ []
  each : ∀ mutation, List.Forall₂ (FieldFor r)
    (sorted.filter fun entry => entry.2.mutation == mutation) (fields.under mutation)
  distinct : ∀ mutation, ((fields.under mutation).map Prod.fst).Nodup

theorem assemble_made {endpoints : EndpointSet} {fields : RootFields}
    (h : assemble endpoints w = .ok fields w') (orderly : Orderly w.registry) :
    ∃ sorted, Made w'.registry endpoints sorted fields := by
  obtain ⟨w₁, queries, some', mutations⟩ := assemble_eq_ok.mp h
  obtain ⟨_, orderly₁⟩ := partition_continuing _ _ _ _ _ queries orderly
  obtain ⟨later, _⟩ := partition_continuing _ _ _ _ _ mutations orderly₁
  obtain ⟨sorted, result, distinct, query⟩ := partition_fields queries orderly
  obtain ⟨sorted', result', distinct', mutation⟩ := partition_fields mutations orderly₁
  rw [result, Except.ok.injEq] at result'
  subst result'
  refine ⟨sorted, result, some', ?_, ?_⟩ <;> intro kind <;> cases kind
  · exact query.imp fun _ _ field => field.mono later.grown
  · exact mutation
  · exact distinct
  · exact distinct'

section Made

variable {endpoints sorted : EndpointSet} {fields : RootFields}
  (made : Made r endpoints sorted fields)

include made

theorem Made.field (among : entry ∈ endpoints) : ∃ field, FieldFor r entry field := by
  have there : entry ∈ sorted.filter fun other => other.2.mutation == entry.2.mutation :=
    List.mem_filter.mpr ⟨(EndpointSet.sorted_perm made.order).mem_iff.mpr among, by simp⟩
  obtain ⟨field, _, field'⟩ := exists_of_forall₂ (made.each _) there
  exact ⟨field, field'⟩

theorem Made.presentable : Presentable endpoints := by
  have moved := EndpointSet.sorted_perm made.order
  refine ⟨?_, fun mutation => ?_, fun entry among => ?_⟩
  · obtain ⟨field, among⟩ := List.exists_mem_of_ne_nil _ made.query
    obtain ⟨entry, there, _⟩ := exists_of_forall₂ (made.each false).flip among
    obtain ⟨there, kind⟩ := List.mem_filter.mp there
    exact ⟨entry, moved.mem_iff.mp there, eq_of_beq kind⟩
  · have names := (made.distinct mutation).map (f := some) fun _ _ => Option.some.inj
    rw [List.map_map] at names
    rw [fieldNames, ← ((moved.filter _).map _).nodup_iff, names_of_fields (made.each mutation)]
    exact names
  · obtain ⟨field, field'⟩ := made.field among
    exact argumentNames_nodup field'

theorem Made.ranked : .nan ∉ endpoints.keys := by
  intro member
  obtain ⟨entry, among, nan⟩ := List.mem_map.mp member
  obtain ⟨field, field'⟩ := made.field among
  exact key_ne_nan field'.name nan

theorem Made.presents (mutation : Bool) :
    Presents r endpoints mutation (fields.under mutation) := by
  have fields' := made.each mutation
  have distinct := made.distinct mutation
  have moved := EndpointSet.sorted_perm made.order
  refine ⟨_, moved.filter _, ?_, fields', distinct⟩
  exact EndpointSet.sorted_strict made.order made.ranked List.filter_sublist
    (keys_nodup fields' distinct)

end Made

theorem assemble_refuses {endpoints : EndpointSet} (h : assemble endpoints w = .error fault w')
    (orderly : Orderly w.registry) (construction : fault.family = .construction) :
    Objection w.registry.realm endpoints fault := by
  simp only [assemble, bind_eq_error] at h
  rcases h with failed | ⟨query, w₁, queries, h⟩
  · exact partition_refuses failed construction
  · obtain ⟨continues, _⟩ := partition_continuing _ _ _ _ _ queries orderly
    obtain ⟨sorted, result, _, made⟩ := partition_fields queries orderly
    split at h
    · rename_i empty
      simp only [bind_eq_error, current, EStateM.Result.ok.injEq, reduceCtorEq, false_or,
        throw_eq_error] at h
      obtain ⟨r, w₂, ⟨rfl, rfl⟩, rfl, _⟩ := h
      rw [continues.grown.realm]
      refine .noQueries fun entry among => ?_
      by_contra query'
      have there : entry ∈ sorted.filter fun entry => entry.2.mutation == false :=
        List.mem_filter.mpr
          ⟨(EndpointSet.sorted_perm result).mem_iff.mpr among, by simpa using query'⟩
      obtain ⟨field, among', _⟩ := exists_of_forall₂ made there
      simp [List.isEmpty_iff.mp empty] at among'
    · simp only [bind_eq_error, pure_ne_error, and_false, exists_false, or_false] at h
      exact partition_refuses h construction

/--
Endpoints are assembled only if there is a query and no two fields of a root and
no two arguments of a field have one name.  Then each root has the fields of its
endpoints, one for each, in the order of their keys, with the types that their
schemas map to, their arguments in order, and calls of those very endpoints.  A
refusal that is a fault of construction names what is missing or there twice.
-/
theorem assemble_fields (realm : Option String) (endpoints : EndpointSet) (log : Log) :
    (∀ fields w, assemble endpoints ⟨{ realm }, log⟩ = .ok fields w ->
      Presentable endpoints ∧
        ∀ mutation, Presents w.registry endpoints mutation (fields.under mutation)) ∧
    ∀ fault w, assemble endpoints ⟨{ realm }, log⟩ = .error fault w ->
      fault.family = .construction ->
        Objection realm endpoints fault ∧ ¬ Presentable endpoints := by
  constructor
  · intro fields w h
    obtain ⟨sorted, made⟩ := assemble_made h (orderly_new realm)
    exact ⟨made.presentable, made.presents⟩
  · intro fault w h construction
    have objection : Objection realm endpoints fault :=
      assemble_refuses h (orderly_new realm) construction
    exact ⟨objection, objection.not_presentable⟩

/-- An endpoint of a stall, which takes parameters of the given names. -/
def stallEndpoint (id : String) (method : Method) (parameters : List String) : Endpoint where
  operationId := .text id
  method := some method
  path := some "/prices"
  mutation := method != .get
  description := .null
  response := some ⟨.list ⟨0, none, .null⟩ (.scalar ⟨1, none, .null⟩ .number), #[]⟩
  parameters := parameters.map fun name =>
    ⟨.text name, .query, ⟨.scalar ⟨0, none, .null⟩ .number, #[]⟩, true, .null⟩
  baseUrl := .text ""

def stall : EndpointSet :=
  [(.text "prices.list", stallEndpoint "prices.list" .get ["max price"]),
    (.text "prices-set", stallEndpoint "prices-set" .put [])]

def doubledStall : EndpointSet :=
  [(.text "prices", stallEndpoint "prices" .get ["max price", "max-price"])]

/-- One stall gets its fields, the other is refused for its argument. -/
theorem assemble_fields_stall :
    (∃ fields w, assemble stall ⟨{}, #[]⟩ = .ok fields w ∧
      fields.query.map Prod.fst = ["prices_list"] ∧ fields.mutation.map Prod.fst = ["prices_set"] ∧
      Presentable stall ∧ ∀ mutation, Presents w.registry stall mutation (fields.under mutation)) ∧
    ∃ w, assemble doubledStall ⟨{}, #[]⟩ = .error (.argumentClash (.text "prices") "max_price") w ∧
      Objection none doubledStall (.argumentClash (.text "prices") "max_price") ∧
      ¬ Presentable doubledStall := by
  have order : EndpointSet.sorted stall = .ok stall.reverse := by
    rw [EndpointSet.sorted_congr (List.reverse_perm stall).symm (by decide +kernel)
      (by decide +kernel), EndpointSet.sorted_of_ranked (by decide +kernel),
      if_pos (by decide +kernel), List.mergeSort_of_pairwise (by decide +kernel)]
  have shown : (match assemble stall ⟨{}, #[]⟩ with
      | .ok fields _ => fields.query.map Prod.fst == ["prices_list"] &&
          fields.mutation.map Prod.fst == ["prices_set"]
      | .error _ _ => false) = true := by
    simp only [assemble, partition, order]
    decide +kernel
  have doubled : (match assemble doubledStall ⟨{}, #[]⟩ with
      | .ok _ _ => false
      | .error fault _ => decide (fault = .argumentClash (.text "prices") "max_price")) = true := by
    decide +kernel
  constructor
  · cases made : assemble stall ⟨{}, #[]⟩ with
    | error fault w => simp [made] at shown
    | ok fields w =>
        simp only [made, Bool.and_eq_true, beq_iff_eq] at shown
        obtain ⟨presentable, presents⟩ := (assemble_fields none stall #[]).1 fields w made
        exact ⟨fields, w, rfl, shown.1, shown.2, presentable, presents⟩
  · cases refused : assemble doubledStall ⟨{}, #[]⟩ with
    | ok fields w => simp [refused] at doubled
    | error fault w =>
        simp only [refused, decide_eq_true_eq] at doubled
        subst doubled
        obtain ⟨objection, refusal⟩ := (assemble_fields none doubledStall #[]).2 _ w refused rfl
        exact ⟨w, rfl, objection, refusal⟩

end Assembly

end GraphFacade
