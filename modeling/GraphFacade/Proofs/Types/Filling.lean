import GraphFacade.Proofs.Types.Traversal

/-!
# How types are filled

While a schema is traversed the registry holds types whose fields are not all
there yet.  Each of them is the owner of one job on the way, which alone adds to
it; every other type that a job registers is complete when the job is done, and
nothing touches it afterwards.
-/

namespace GraphFacade

namespace Mapping

open Registry

/-! ## Translations -/

section Translate

variable {r r' : Registry} {schema : Schema} {origin : Origin} {isInput : Bool} {node : Node}

theorem role?_of_direct {type : TypeRef} (h : direct? schema node = some type) :
    role? schema isInput node = none := by
  cases node with
  | enum label kind literals =>
      by_cases textual : literals.all Json.isText
      · simp [direct?, textual] at h
      · simp [role?, textual]
  | object label index =>
      by_cases empty : (schema.shape index).properties.isEmpty
      · simp [role?, empty]
      · simp [direct?, empty] at h
  | _ => rfl

theorem translate?_of_direct {type : TypeRef} (h : direct? schema node = some type) :
    translate? r schema origin isInput node = some type := by
  have unnamed : role? schema isInput node = none := role?_of_direct h
  cases node with
  | list => simp [direct?] at h
  | _ => simp only [translate?, unnamed, h]

theorem translate?_of_role {role : Role} (h : role? schema isInput node = some role) :
    translate? r schema origin isInput node =
      (r.titleGiven? origin node.label).bind fun title => r.get? (r.key title role) := by
  cases node with
  | list => simp [role?] at h
  | _ => simp only [translate?, h]

theorem translate?_mono (extends' : Extends r r') {type : TypeRef}
    (h : translate? r schema origin isInput node = some type) :
    translate? r' schema origin isInput node = some type := by
  induction node generalizing type with
  | list label items ih =>
      simp only [translate?, Option.map_eq_some_iff] at h ⊢
      obtain ⟨item, translates, rfl⟩ := h
      exact ⟨item, ih translates, rfl⟩
  | _ =>
      simp only [translate?] at h ⊢
      split at h
      · rename_i named
        rw [Option.bind_eq_some_iff] at h
        obtain ⟨title, given, found⟩ := h
        rw [extends'.titleGiven? given, Option.bind_some, extends'.key]
        exact extends'.get? found
      · exact h

end Translate

/-! ## What a traversal leaves alone -/

def Job.Fills : Job -> Nat -> Prop
  | .node .., _ => False
  | .properties _ _ owner _, index => ∃ realm, owner = .named ⟨realm, index⟩

theorem Job.not_fills_nextRef {required : List String} {title : String}
    {rest : List (String × Node)} {r : Registry} {index : Nat} (there : index < r.types.size) :
    ¬ (Job.properties required title r.nextRef rest).Fills index := by
  rintro ⟨realm, same⟩
  simp only [nextRef, TypeRef.named.injEq, TypeId.mk.injEq] at same
  omega

theorem types_updateType_of_ne {r : Registry} {owner : TypeRef} {f : NamedType -> NamedType}
    {index : Nat} (other : ¬ ∃ realm, owner = .named ⟨realm, index⟩) :
    (r.updateType owner f).types[index]? = r.types[index]? := by
  cases owner with
  | named id =>
      rw [types_updateType, if_neg]
      rintro rfl
      exact other ⟨id.realm, rfl⟩
  | _ => rfl

variable {schema : Schema} {origin : Origin} {isInput : Bool} {job : Job} {r r' : Registry}
  {visits : List Visit} {type : TypeRef}

/-- A traversal only adds to the registry. -/
theorem Maps.extends (h : Maps schema origin isInput job r visits type r') : Extends r r' := by
  induction h with
  | direct => exact Extends.refl _
  | list _ ih => exact ih
  | known _ titled _ => exact entitle_extends titled
  | created _ titled free _ _ ih =>
      exact (entitle_extends titled).trans ((establish_extends _ free).trans ih)
  | done => exact Extends.refl _
  | property _ _ first later =>
      exact first.trans ((updateType_extends _ _ _).trans later)

theorem Maps.kept (h : Maps schema origin isInput job r visits type r') {index : Nat}
    (there : index < r.types.size) (other : ¬ job.Fills index) :
    r'.types[index]? = r.types[index]? := by
  induction h with
  | direct => rfl
  | list _ ih => exact ih there id
  | known _ titled _ => rw [entitle_types titled]
  | created _ titled free _ _ ih =>
      rw [← entitle_types titled] at there ⊢
      rw [← types_establish_of_lt _ free there]
      exact ih (Nat.lt_of_lt_of_le there (establish_extends _ free).types)
        (Job.not_fills_nextRef there)
  | done => rfl
  | property first _ ihFirst ihLater =>
      have grown := Nat.lt_of_lt_of_le there first.extends.types
      rw [ihLater (Nat.lt_of_lt_of_le grown (updateType_extends _ _ _).types) other,
        types_updateType_of_ne other, ihFirst there id]

/-! ## What a traversal completes -/

/-- A type with the fields of properties added, of the types that their nodes translate to. -/
def filled (r : Registry) (schema : Schema) (origin : Origin) (isInput : Bool)
    (required : List String) (properties : List (String × Node)) (type : NamedType) : NamedType :=
  properties.foldl (fun type property =>
    fieldFor isInput required property
      ((translate? r schema origin isInput property.2).getD .json) type) type

theorem filled_nil {required : List String} :
    filled r schema origin isInput required [] = id := rfl

theorem filled_cons {required : List String} {property : String × Node}
    {rest : List (String × Node)} (h : translate? r schema origin isInput property.2 = some type) :
    filled r schema origin isInput required (property :: rest) =
      filled r schema origin isInput required rest ∘ fieldFor isInput required property type := by
  funext owner
  simp [filled, h]

/-- What a job that ends well leaves: a translation of its node, or a filled owner. -/
def Job.Done (schema : Schema) (origin : Origin) (isInput : Bool) (r r' : Registry)
    (type : TypeRef) : Job -> Prop
  | .node given _ => translate? r' schema origin isInput given = some type
  | .properties required _ owner rest =>
      (∀ property ∈ rest, (translate? r' schema origin isInput property.2).isSome) ∧
      ∀ id, owner = .named id -> id.index < r.types.size ->
        r'.types[id.index]? =
          (r.types[id.index]?).map (filled r' schema origin isInput required rest)

theorem Maps.done_job (h : Maps schema origin isInput job r visits type r') :
    job.Done schema origin isInput r r' type := by
  induction h with
  | direct h => exact translate?_of_direct h
  | list _ ih =>
      have translates : translate? _ schema origin isInput _ = some _ := ih
      simp [Job.Done, translate?, translates]
  | known named titled found =>
      simp only [Job.Done, translate?_of_role named, titleGiven?_of_entitle titled,
        Option.bind_some, found]
  | @created node hint title role r r₁ r₂ visits named titled free _ body _ =>
      have later : Extends r₁ r₂ := (establish_extends _ free).trans body.extends
      have found := body.extends.get? (get?_establish (blank r₁ title role node) free)
      rw [Job.Done, translate?_of_role named, later.titleGiven? (titleGiven?_of_entitle titled),
        Option.bind_some, later.key, found]
  | done => simp [Job.Done, filled_nil]
  | @property required title owner type property rest r r₁ r₂ visits others first later ihFirst
      ihLater =>
      have translates : translate? r₂ schema origin isInput property.2 = some type :=
        translate?_mono ((updateType_extends _ _ _).trans later.extends) ihFirst
      obtain ⟨some', fills⟩ := ihLater
      refine ⟨List.forall_mem_cons.mpr ⟨by simp [translates], some'⟩, ?_⟩
      rintro id rfl there
      have grown := Nat.lt_of_lt_of_le there first.extends.types
      rw [fills id rfl (Nat.lt_of_lt_of_le grown (updateType_extends _ _ _).types),
        types_updateType, if_pos rfl, first.kept there not_false, filled_cons translates,
        Option.map_map]

theorem Maps.registered (h : Maps schema origin isInput job r visits type r') :
    ∀ visit ∈ visits, (r'.get? visit.key).isSome := by
  induction h with
  | direct => simp
  | list _ ih => exact ih
  | known _ _ found => simp [found]
  | created _ _ free _ body ih =>
      refine List.forall_mem_cons.mpr ⟨?_, ih⟩
      simp [body.extends.get? (get?_establish _ free)]
  | done => simp
  | property _ later ihFirst ihLater =>
      refine List.forall_mem_append.mpr ⟨?_, ihLater⟩
      intro visit member
      obtain ⟨ref, found⟩ := Option.isSome_iff_exists.mp (ihFirst visit member)
      simp [later.extends.get? ((updateType_extends _ _ _).get? found)]

def Visit.complete (r : Registry) (visit : Visit) : NamedType :=
  filled r visit.schema visit.origin visit.isInput (shapeOf visit.schema visit.node).required
    (shapeOf visit.schema visit.node).properties
    (blank r visit.key.title visit.key.role visit.node)

/-- The type with a number is complete: it is that of a visited node, all of whose properties
translate. -/
structure Complete (r : Registry) (visit : Visit) (index : Nat) : Prop where
  role : role? visit.schema visit.isInput visit.node = some visit.key.role
  type : r.types[index]? = some (visit.complete r)
  translates : ∀ property ∈ (shapeOf visit.schema visit.node).properties,
    (translate? r visit.schema visit.origin visit.isInput property.2).isSome

theorem filled_mono (extends' : Extends r r') {required : List String}
    {properties : List (String × Node)}
    (translates : ∀ property ∈ properties, (translate? r schema origin isInput property.2).isSome)
    (type : NamedType) :
    filled r' schema origin isInput required properties type =
      filled r schema origin isInput required properties type := by
  induction properties generalizing type with
  | nil => rfl
  | cons property rest ih =>
      obtain ⟨first, later⟩ := List.forall_mem_cons.mp translates
      obtain ⟨ref, found⟩ := Option.isSome_iff_exists.mp first
      rw [filled_cons found, filled_cons (translate?_mono extends' found)]
      exact ih later _

theorem blank_mono (extends' : Extends r r') (title : String) (role : Role) (node : Node) :
    blank r' title role node = blank r title role node := by
  simp only [blank, extends'.typeName]

theorem Complete.mono {visit : Visit} {index : Nat} (h : Complete r visit index)
    (extends' : Extends r r') (same : r'.types[index]? = r.types[index]?) :
    Complete r' visit index := by
  refine ⟨h.role, ?_, ?_⟩
  · rw [same, h.type, Visit.complete, Visit.complete, filled_mono extends' h.translates,
      blank_mono extends']
  · intro property member
    obtain ⟨ref, found⟩ := Option.isSome_iff_exists.mp (h.translates property member)
    simp [translate?_mono extends' found]

/-- Once its properties are mapped, the type that was made for a node is complete. -/
theorem Complete.of_body {node : Node} {title : String} {role : Role}
    (named : role? schema isInput node = some role) (free : r.get? (r.key title role) = none)
    (body : Maps schema origin isInput
      (.properties (shapeOf schema node).required title r.nextRef (shapeOf schema node).properties)
      (r.establish (r.key title role) (blank r title role node)) visits r.nextRef r') :
    Complete r' ⟨schema, origin, isInput, node, r.key title role⟩ r.types.size := by
  obtain ⟨translates, fills⟩ := body.done_job
  have made : (r.establish (r.key title role) (blank r title role node)).types =
      r.types.push (blank r title role node) := by
    rw [establish_of_free _ free]
  have extends' := (establish_extends (blank r title role node) free).trans body.extends
  refine ⟨named, ?_, translates⟩
  rw [fills ⟨r.realm, r.types.size⟩ rfl (by simp [made]), made, Visit.complete,
    blank_mono extends']
  simp [Registry.key]

def Fresh (r r' : Registry) (visits : List Visit) (key : TypeKey) (ref : TypeRef) : Prop :=
  r.get? key = none ∧ ∃ visit index, visits.find? (fun visit => visit.key == key) = some visit ∧
    r.types.size ≤ index ∧ ref = .named ⟨r.realm, index⟩ ∧ Complete r' visit index

/-- Work that leaves a fresh type alone keeps it fresh. -/
theorem Fresh.mono {r₀ r₁ r₂ : Registry} {key : TypeKey} {ref : TypeRef}
    (h : Fresh r₀ r₁ visits key ref) (others : List Visit) (extends' : Extends r₁ r₂)
    (kept : ∀ index, r₀.types.size ≤ index -> index < r₁.types.size ->
      r₂.types[index]? = r₁.types[index]?) :
    Fresh r₀ r₂ (visits ++ others) key ref := by
  obtain ⟨new, visit, index, found, late, same, complete⟩ := h
  have there : index < r₁.types.size := (Array.getElem?_eq_some_iff.mp complete.type).choose
  refine ⟨new, visit, index, ?_, late, same, complete.mono extends' (kept index late there)⟩
  rw [List.find?_append, found]
  rfl

/-- What is fresh after some work, and was not visited during it, is fresh from the start. -/
theorem Fresh.since {r₀ r₁ r₂ : Registry} {key : TypeKey} {ref : TypeRef} {others : List Visit}
    (h : Fresh r₁ r₂ others key ref) (extends' : Extends r₀ r₁) (visits : List Visit)
    (registered : ∀ visit ∈ visits, (r₁.get? visit.key).isSome) :
    Fresh r₀ r₂ (visits ++ others) key ref := by
  obtain ⟨new, visit, index, found, late, same, complete⟩ := h
  have unvisited : visits.find? (fun visit => visit.key == key) = none := by
    rw [List.find?_eq_none]
    intro visit member equal
    have known := registered visit member
    rw [eq_of_beq equal, new] at known
    simp at known
  refine ⟨?_, visit, index, ?_, Nat.le_trans extends'.types late, ?_, complete⟩
  · cases old : r₀.get? key with
    | none => rfl
    | some ref => simp [extends'.get? old] at new
  · rw [List.find?_append, unvisited]
    exact found
  · rw [same, extends'.realm]

/-- The entry that is made for a node is fresh once its properties are mapped. -/
theorem Fresh.made {node : Node} {hint title : String} {role : Role} {r₁ r₂ : Registry}
    (named : role? schema isInput node = some role)
    (titled : r.entitle origin node.label hint = some (title, r₁))
    (free : r₁.get? (r₁.key title role) = none)
    (body : Maps schema origin isInput
      (.properties (shapeOf schema node).required title r₁.nextRef
        (shapeOf schema node).properties)
      (r₁.establish (r₁.key title role) (blank r₁ title role node)) visits r₁.nextRef r₂) :
    Fresh r r₂ (⟨schema, origin, isInput, node, r₁.key title role⟩ :: visits)
      (r₁.key title role) r₁.nextRef := by
  refine ⟨?_, _, r₁.types.size, ?_, ?_, ?_, Complete.of_body named free body⟩
  · rw [Registry.get?, ← entitle_entries titled]
    exact free
  · simp
  · exact Nat.le_of_eq (by rw [entitle_types titled])
  · rw [nextRef, (entitle_extends titled).realm]

def Job.Owned (job : Job) (r : Registry) : Prop :=
  ∀ index, job.Fills index -> index < r.types.size

theorem owned_node (node : Node) (hint : String) (r : Registry) :
    (Job.node node hint).Owned r :=
  nofun

theorem owned_establish {key : TypeKey} (type : NamedType) (free : r.get? key = none)
    (required : List String) (title : String) (rest : List (String × Node)) :
    (Job.properties required title r.nextRef rest).Owned (r.establish key type) := by
  rintro index ⟨realm, same⟩
  simp only [nextRef, TypeRef.named.injEq, TypeId.mk.injEq] at same
  rw [establish_of_free type free, Array.size_push]
  omega

theorem Job.Owned.later {required : List String} {title : String} {owner : TypeRef}
    {property : String × Node} {rest : List (String × Node)}
    (owned : (Job.properties required title owner (property :: rest)).Owned r)
    (extends' : Extends r r') : (Job.properties required title owner rest).Owned r' :=
  fun index fills => Nat.lt_of_lt_of_le (owned index fills) extends'.types

/-- What a traversal registers is complete when it ends. -/
theorem Maps.fresh (h : Maps schema origin isInput job r visits type r') {key : TypeKey}
    {ref : TypeRef} (member : (key, ref) ∈ r'.entries) (owned : job.Owned r) :
    (key, ref) ∈ r.entries ∨ Fresh r r' visits key ref := by
  induction h with
  | direct => exact .inl member
  | list _ ih => exact ih member (owned_node _ _ _)
  | known _ titled _ => exact .inl (entitle_entries titled ▸ member)
  | @created node hint title role r r₁ r₂ visits named titled free allowed body ih =>
      rcases ih member (owned_establish _ free _ _ _) with old | fresh
      · rw [establish_of_free _ free, List.mem_append, List.mem_singleton] at old
        rcases old with old | made
        · exact .inl (entitle_entries titled ▸ old)
        · simp only [Prod.mk.injEq] at made
          obtain ⟨rfl, rfl⟩ := made
          exact .inr (Fresh.made named titled free body)
      · have start := (entitle_extends titled).trans
          (establish_extends (blank r₁ title role node) free)
        refine .inr (fresh.since start [_] ?_)
        simp [get?_establish _ free]
  | done => exact .inl member
  | @property required title owner type property rest r r₁ r₂ visits others first later ihFirst
      ihLater =>
      have filled := updateType_extends r₁ owner (fieldFor isInput required property type)
      rcases ihLater member (owned.later (first.extends.trans filled)) with old | fresh
      · rw [updateType_entries] at old
        rcases ihFirst old (owned_node _ _ _) with old | fresh
        · exact .inl old
        · refine .inr (fresh.mono others (filled.trans later.extends) ?_)
          -- A type that is made on the way to a property is not that of the owner.
          intro index late there
          have other : ¬ ∃ realm, owner = .named ⟨realm, index⟩ := fun fills =>
            absurd (owned index fills) (Nat.not_lt.mpr late)
          rw [later.kept (by simpa using there) other, types_updateType_of_ne other]
      · refine .inr (fresh.since (first.extends.trans filled) visits ?_)
        intro visit visited
        rw [Registry.get?, updateType_entries]
        exact first.registered visit visited

end Mapping

end GraphFacade
