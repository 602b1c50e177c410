import GraphFacade.Proofs.Related
import GraphFacade.Proofs.Types.Reporting
import Mathlib.Data.List.Flatten

/-!
# What a join is made of

Each namespace of a join is assembled on its own and gives a part: its fields,
its registry and the wrappers around them.  A join that does not fail is the sum
of its parts, whose type names are all different and no owner's.
-/

namespace GraphFacade

namespace Assembly

open Registry

/-! ## Parts -/

/-- What one namespace gives: a registry in order, and fields that lead to its types. -/
structure Part where
  realm : String
  fields : RootFields
  registry : Registry
  tagged : registry.realm = some realm
  orderly : Orderly registry
  query : Held registry fields.query
  mutation : Held registry fields.mutation

namespace Part

def name (part : Part) : String :=
  Name.ofText part.realm

def mutates (part : Part) : Bool :=
  !part.fields.mutation.isEmpty

def claimed (part : Part) : List String :=
  claimedNames part.name part.fields part.registry

def wrappers (part : Part) : List (String × Entries Field) :=
  (part.name, part.fields.query) ::
    if part.mutates then [(part.name ++ "_mutation", part.fields.mutation)] else []

def wrapper (fields : String × Entries Field) : NamedType :=
  .object fields.1 .null fields.2

def wrapped (part : Part) : Registry :=
  { part.registry with types := part.registry.types ++ (part.wrappers.map wrapper).toArray }

def field (part : Part) (number : Nat) : Field :=
  ⟨.named ⟨some part.realm, part.registry.types.size + number⟩, .null, [], .placeholder⟩

def queryFields (part : Part) : Entries Field :=
  [(part.name, part.field 0)]

def mutationFields (part : Part) : Entries Field :=
  if part.mutates then [(part.name, part.field 1)] else []

def owner (part : Part) : String :=
  s!"namespace '{part.realm}'"

end Part

/-- A namespace gives a part. -/
def Assembles (entry : String × EndpointSet) (part : Part) : Prop :=
  part.realm = entry.1 ∧
    assembled (some entry.1) entry.2 = .ok (part.fields, part.registry)

/-- The sum of parts. -/
def Joined.ofParts (parts : List Part) : Joined where
  realms := parts.map Part.wrapped
  query := parts.flatMap Part.queryFields
  mutation := parts.flatMap Part.mutationFields
  owners := firstOwners ++ parts.flatMap fun part => part.claimed.map fun name => (name, part.owner)

def facadeOf (parts : List Part) : Facade :=
  ⟨parts.map Part.wrapped, parts.flatMap Part.queryFields, parts.flatMap Part.mutationFields⟩

/-- Parts that can be joined: their type names are all different, and allowed. -/
structure Admissible (parts : List Part) : Prop where
  claims : (firstOwners.map Prod.fst ++ parts.flatMap Part.claimed).Nodup
  allowed : ∀ part ∈ parts, ∀ wrapper ∈ part.wrappers, wrapper.1 ∉ reservedTypeNames

/-! ## One namespace more -/

section One

variable {realm : String} {owners owners' : List (String × String)} {names : List String}
  {joined joined' : Joined} {part : Part} {fault : Fault}

/-- Names are claimed if they are free and all different. -/
theorem claimNames_eq_ok (distinct : (owners.map Prod.fst).Nodup) :
    claimNames realm owners names = .ok owners' ↔
      (owners.map Prod.fst ++ names).Nodup ∧
        owners' = owners ++ names.map fun name => (name, s!"namespace '{realm}'") := by
  induction names generalizing owners with
  | nil => simp [claimNames, distinct, eq_comm]
  | cons name rest ih =>
      cases owned : owners.lookup name with
      | some owner =>
          have there : name ∈ owners.map Prod.fst :=
            List.mem_map_of_mem (Entries.mem_of_lookup owned)
          have clash : ¬ (owners.map Prod.fst ++ name :: rest).Nodup := fun apart =>
            List.disjoint_of_nodup_append apart there List.mem_cons_self
          simp [claimNames, owned, clash]
      | none =>
          have new : name ∉ owners.map Prod.fst := Entries.not_mem_keys owned
          have apart := Entries.nodup_keys_snoc distinct new s!"namespace '{realm}'"
          simp only [claimNames, owned, ih apart, List.map_append, List.map_cons, List.map_nil,
            List.append_assoc, List.singleton_append]

theorem claimNames_eq_error (h : claimNames realm owners names = .error fault) :
    ∃ name ∈ names, ∃ owner, fault = .typeClash realm name owner := by
  induction names generalizing owners with
  | nil => simp [claimNames] at h
  | cons name rest ih =>
      cases owned : owners.lookup name with
      | some owner =>
          simp only [claimNames, owned, Except.error.injEq] at h
          exact ⟨name, List.mem_cons_self, owner, h.symm⟩
      | none =>
          simp only [claimNames, owned] at h
          obtain ⟨other, member, owner, same⟩ := ih h
          exact ⟨other, List.mem_cons_of_mem _ member, owner, same⟩

theorem wrap_eq (registry : Registry) (name : String) (fields : Entries Field) :
    wrap registry name fields =
      if name ∈ reservedTypeNames then .error (.reservedType name)
      else .ok ({ registry with types := registry.types.push (Part.wrapper (name, fields)) },
        ⟨.named ⟨registry.realm, registry.types.size⟩, .null, [], .placeholder⟩) := by
  simp only [wrap, List.contains_iff_mem]
  rfl

theorem Part.claimed_eq (part : Part) :
    part.claimed = part.wrappers.map Prod.fst ++
      part.registry.typeNames.mergeSort fun a b => !(b < a) := by
  unfold claimed claimedNames wrappers mutates
  cases part.fields.mutation.isEmpty <;> rfl

/-- A part is attached if its wrappers may have their names. -/
theorem attach_eq (joined : Joined) (owners : List (String × String)) (part : Part) :
    attach joined owners part.name part.fields part.registry =
      match part.wrappers.find? fun wrapper => decide (wrapper.1 ∈ reservedTypeNames) with
      | some wrapper => .error (.reservedType wrapper.1)
      | none => .ok ⟨joined.realms ++ [part.wrapped], joined.query ++ part.queryFields,
          joined.mutation ++ part.mutationFields, owners⟩ := by
  unfold attach
  simp only [wrap_eq]
  by_cases reserved : part.name ∈ reservedTypeNames
  · simp only [Part.wrappers, List.find?_cons, reserved, decide_true, ↓reduceIte]
    rfl
  · rw [if_neg reserved]
    dsimp only [bind, Except.bind]
    cases empty : part.fields.mutation.isEmpty with
    | true =>
        simp [Part.wrapped, Part.wrappers, Part.mutates, empty, reserved, Part.queryFields,
          Part.mutationFields, Part.field, part.tagged, pure, Except.pure]
    | false =>
        by_cases reserved' : part.name ++ "_mutation" ∈ reservedTypeNames
        · simp [Part.wrappers, Part.mutates, empty, reserved, reserved']
        · have both : ∀ (types : Array NamedType) (first second : NamedType),
              (types.push first).push second = types ++ #[first, second] :=
            fun types first second => Array.ext' (by simp)
          simp [Part.wrapped, Part.wrappers, Part.mutates, empty, reserved, reserved',
            Part.queryFields, Part.mutationFields, Part.field, part.tagged, pure, Except.pure,
            both]

end One

/-! ## The plain functions that joining gives -/

/-- Add one namespace, without a report. -/
def joinedOne (joined : Joined) (entry : String × EndpointSet) : Except Fault Joined :=
  let name := Name.ofText entry.1
  if Entries.has name joined.query then
    throw (.namespaceClash name)
  else do
    let (fields, registry) <- assembled (some entry.1) entry.2
    let owners <- claimNames entry.1 joined.owners (claimedNames name fields registry)
    attach joined owners name fields registry

def ordered (namespaces : List (String × EndpointSet)) : List (String × EndpointSet) :=
  namespaces.mergeSort fun a b => !Text.before b.1 a.1

/-- The facade of several namespaces, without reports. -/
def joined (namespaces : List (String × EndpointSet)) : Except Fault Facade :=
  if namespaces.isEmpty then
    throw .noNamespaces
  else do
    let joined <- (ordered namespaces).foldlM joinedOne {}
    Facade.make joined.realms joined.query joined.mutation

open Run in
theorem joinOne_gives (joined : Joined) (entry : String × EndpointSet) :
    (joinOne joined entry.1 entry.2).Gives (joinedOne joined entry) := by
  unfold joinOne joinedOne
  dsimp only
  split
  · exact gives_throw _
  · refine (withRegistry_gives _ _).bind fun result => (gives_ofExcept _).bind fun owners => ?_
    have attached := (gives_ofExcept (attach joined owners (Name.ofText entry.1) result.1
      result.2)).bind fun joined => (gives_report (.namespaceJoined entry.1 result.1.query.length
        result.1.mutation.length result.2.size)).bind fun _ => gives_pure joined
    rw [show (fun joined : Joined => (pure () : Except Fault Unit) >>= fun _ => pure joined) = pure
      from rfl, bind_pure] at attached
    exact attached

open Run in
theorem joinAll_gives (joined : Joined) (entries : List (String × EndpointSet)) :
    (joinAll joined entries).Gives (entries.foldlM joinedOne joined) := by
  induction entries generalizing joined with
  | nil => exact gives_pure joined
  | cons entry rest ih => exact (joinOne_gives joined entry).bind ih

open Run in
theorem join_gives (namespaces : List (String × EndpointSet)) :
    (join namespaces).Gives (joined namespaces) := by
  unfold join joined
  split
  · exact gives_throw _
  · exact (joinAll_gives _ _).bind fun _ => gives_ofExcept _

/-! ## Sums of parts -/

section Parts

variable {parts : List Part} {entry : String × EndpointSet} {joined' : Joined} {fault : Fault}

theorem Joined.ofParts_snoc (parts : List Part) (part : Part) :
    Joined.ofParts (parts ++ [part]) =
      ⟨(Joined.ofParts parts).realms ++ [part.wrapped],
        (Joined.ofParts parts).query ++ part.queryFields,
        (Joined.ofParts parts).mutation ++ part.mutationFields,
        (Joined.ofParts parts).owners ++ part.claimed.map fun name => (name, part.owner)⟩ := by
  simp [Joined.ofParts]

theorem Joined.owners_ofParts (parts : List Part) :
    (Joined.ofParts parts).owners.map Prod.fst =
      firstOwners.map Prod.fst ++ parts.flatMap Part.claimed := by
  simp [Joined.ofParts, List.map_flatMap, Function.comp_def]

theorem Joined.query_ofParts (parts : List Part) :
    (Joined.ofParts parts).query.map Prod.fst = parts.map Part.name := by
  simp [Joined.ofParts, List.map_flatMap, Part.queryFields, ← List.map_eq_flatMap]

theorem Part.name_mem_claimed (part : Part) : part.name ∈ part.claimed := by
  simp [Part.claimed, claimedNames]

theorem Admissible.sublist {few : List Part} (h : Admissible parts) (fewer : few.Sublist parts) :
    Admissible few where
  claims := h.claims.sublist ((List.Sublist.refl _).append (fewer.flatMap _))
  allowed part member := h.allowed part (fewer.subset member)

theorem Admissible.names (h : Admissible parts) : (parts.map Part.name).Nodup := by
  refine (List.Nodup.of_append_right h.claims).sublist ?_
  rw [List.map_eq_flatMap]
  exact List.Sublist.flatMap_right _ fun part _ => List.singleton_sublist.mpr part.name_mem_claimed

theorem admissible_nil : Admissible [] :=
  ⟨by decide, nofun⟩

theorem admissible_snoc (admissible : Admissible parts) :
    Admissible (parts ++ [part]) ↔
      ((Joined.ofParts parts).owners.map Prod.fst ++ part.claimed).Nodup ∧
        ∀ wrapper ∈ part.wrappers, wrapper.1 ∉ reservedTypeNames := by
  have claims : firstOwners.map Prod.fst ++ (parts ++ [part]).flatMap Part.claimed =
      (Joined.ofParts parts).owners.map Prod.fst ++ part.claimed := by
    simp [Joined.owners_ofParts]
  constructor
  · exact fun h => ⟨claims ▸ h.claims, h.allowed part (by simp)⟩
  · rintro ⟨distinct, allowed⟩
    refine ⟨claims ▸ distinct, List.forall_mem_append.mpr ⟨admissible.allowed, ?_⟩⟩
    simpa using allowed

/--
Why a namespace is not added: a fault of construction, one that assembling its
endpoints ends in, or a wrapper named like a type by which a schema describes
itself.
-/
def Declines (entry : String × EndpointSet) (fault : Fault) : Prop :=
  fault.family = .construction ∨ assembled (some entry.1) entry.2 = .error fault ∨
    ∃ part, Assembles entry part ∧ ∃ wrapper ∈ part.wrappers,
      wrapper.1 ∈ introspectionNames ∧ fault = .reservedType wrapper.1

theorem Assembles.name (h : Assembles entry part) : Name.ofText entry.1 = part.name := by
  rw [Part.name, h.1]

theorem part_of_entry {entries : List (String × EndpointSet)}
    (assembles : List.Forall₂ Assembles entries parts) (member : entry ∈ entries) :
    ∃ part ∈ parts, Assembles entry part :=
  exists_of_forall₂ assembles member

theorem entry_of_part {entries : List (String × EndpointSet)}
    (assembles : List.Forall₂ Assembles entries parts) (member : part ∈ parts) :
    ∃ entry ∈ entries, Assembles entry part :=
  exists_of_forall₂ (List.Forall₂.flip (R := flip Assembles) assembles) member

theorem Part.wrapper_mem_claimed {part : Part} {wrapper : String × Entries Field}
    (member : wrapper ∈ part.wrappers) : wrapper.1 ∈ part.claimed := by
  rw [claimed_eq]
  exact List.mem_append_left _ (List.mem_map_of_mem member)

theorem mem_introspectionNames {name : String} (reserved : name ∈ reservedTypeNames)
    (free : name ∉ firstOwners.map Prod.fst) : name ∈ introspectionNames := by
  rcases List.mem_append.mp reserved with scalar | found
  · refine absurd ?_ free
    simp only [firstOwners, List.map_append, List.map_map]
    exact List.mem_append_right _ scalar
  · exact found

theorem joinedOne_of_assembles (assembles : Assembles entry part)
    (new : part.name ∉ parts.map Part.name) :
    joinedOne (Joined.ofParts parts) entry =
      claimNames entry.1 (Joined.ofParts parts).owners part.claimed >>= fun owners =>
        attach (Joined.ofParts parts) owners part.name part.fields part.registry := by
  have free : Entries.has part.name (Joined.ofParts parts).query = false := by
    rw [← Bool.not_eq_true, Entries.has_iff, Joined.query_ofParts]
    exact new
  simp only [joinedOne, assembles.name, free, Bool.false_eq_true, ↓reduceIte, assembles.2]
  rfl

theorem joinedOne_of_admissible (assembles : Assembles entry part)
    (admissible : Admissible (parts ++ [part])) :
    joinedOne (Joined.ofParts parts) entry = .ok (Joined.ofParts (parts ++ [part])) := by
  have before := admissible.sublist (List.sublist_append_left parts [part])
  obtain ⟨claims, allowed⟩ := (admissible_snoc before).mp admissible
  have new : part.name ∉ parts.map Part.name := fun member =>
    List.disjoint_of_nodup_append (List.map_append ▸ admissible.names) member (by simp)
  have free : part.wrappers.find? (fun wrapper => decide (wrapper.1 ∈ reservedTypeNames)) =
      none := by
    rw [List.find?_eq_none]
    exact fun wrapper member => by simpa using allowed wrapper member
  have claimed : claimNames entry.1 (Joined.ofParts parts).owners part.claimed = .ok _ :=
    (claimNames_eq_ok (List.Nodup.of_append_left claims)).mpr ⟨claims, rfl⟩
  rw [joinedOne_of_assembles assembles new, claimed, Joined.ofParts_snoc, Part.owner, assembles.1]
  dsimp only [bind, Except.bind]
  rw [attach_eq, free]

theorem joinedOne_cases (entry : String × EndpointSet) (admissible : Admissible parts) :
    (∃ part, Assembles entry part ∧ Admissible (parts ++ [part])) ∨
      ∃ fault, joinedOne (Joined.ofParts parts) entry = .error fault ∧ Declines entry fault := by
  by_cases taken : Entries.has (Name.ofText entry.1) (Joined.ofParts parts).query
  · refine .inr ⟨.namespaceClash (Name.ofText entry.1), ?_, .inl rfl⟩
    simp only [joinedOne, taken, ↓reduceIte]
    rfl
  cases made : assembled (some entry.1) entry.2 with
  | error fault =>
      refine .inr ⟨fault, ?_, .inr (.inl made)⟩
      simp only [joinedOne, taken, Bool.false_eq_true, ↓reduceIte, made]
      rfl
  | ok result =>
      obtain ⟨tagged, orderly, query, mutation⟩ := assembled_keeps made
      let part : Part := ⟨entry.1, result.1, result.2, tagged, orderly, query, mutation⟩
      have assembles : Assembles entry part := ⟨rfl, made⟩
      have new : part.name ∉ parts.map Part.name := by
        rwa [Entries.has_iff, Joined.query_ofParts] at taken
      have distinct : ((Joined.ofParts parts).owners.map Prod.fst).Nodup := by
        rw [Joined.owners_ofParts]
        exact admissible.claims
      rw [joinedOne_of_assembles assembles new]
      cases claimed : claimNames entry.1 (Joined.ofParts parts).owners part.claimed with
      | error fault =>
          obtain ⟨name, _, owner, rfl⟩ := claimNames_eq_error claimed
          exact .inr ⟨_, rfl, .inl rfl⟩
      | ok owners =>
          have claims := ((claimNames_eq_ok distinct).mp claimed).1
          cases found : part.wrappers.find? fun wrapper =>
              decide (wrapper.1 ∈ reservedTypeNames) with
          | some wrapper =>
              -- roots and scalars are owned from the start, so the name is no claim's fault
              have member := List.mem_of_find?_eq_some found
              have reserved : wrapper.1 ∈ reservedTypeNames := by
                simpa using List.find?_some found
              have free : wrapper.1 ∉ firstOwners.map Prod.fst := fun owned =>
                List.disjoint_of_nodup_append (Joined.owners_ofParts parts ▸ claims)
                  (List.mem_append_left _ owned) (Part.wrapper_mem_claimed member)
              refine .inr ⟨.reservedType wrapper.1, ?_, .inr (.inr ⟨part, assembles, wrapper,
                member, mem_introspectionNames reserved free, rfl⟩)⟩
              dsimp only [bind, Except.bind]
              rw [attach_eq, found]
          | none =>
              refine .inl ⟨part, assembles, (admissible_snoc admissible).mpr ⟨claims, ?_⟩⟩
              exact fun wrapper among => by simpa using List.find?_eq_none.mp found wrapper among

theorem joinedAll_of_admissible {entries : List (String × EndpointSet)} {more : List Part}
    (assembles : List.Forall₂ Assembles entries more) (admissible : Admissible (parts ++ more)) :
    entries.foldlM joinedOne (Joined.ofParts parts) = .ok (Joined.ofParts (parts ++ more)) := by
  induction assembles generalizing parts with
  | nil => simp [pure, Except.pure]
  | @cons entry part rest others first _ ih =>
      rw [List.append_cons] at admissible ⊢
      have added := joinedOne_of_admissible first
        (admissible.sublist (List.sublist_append_left _ others))
      rw [List.foldlM_cons, added]
      exact ih admissible

/-- Adding namespaces adds their parts, or fails at one of them. -/
theorem joinedAll_cases (entries : List (String × EndpointSet)) (admissible : Admissible parts) :
    (∃ more, List.Forall₂ Assembles entries more ∧ Admissible (parts ++ more)) ∨
      ∃ fault, entries.foldlM joinedOne (Joined.ofParts parts) = .error fault ∧
        ∃ entry ∈ entries, Declines entry fault := by
  induction entries generalizing parts with
  | nil => exact .inl ⟨[], .nil, by simpa using admissible⟩
  | cons entry rest ih =>
      rcases joinedOne_cases entry admissible with
        ⟨part, assembles, admissible'⟩ | ⟨fault, failed, declines⟩
      · rw [List.foldlM_cons, joinedOne_of_admissible assembles admissible']
        rcases ih admissible' with ⟨more, others, whole⟩ | ⟨fault, failed, later, among, declines⟩
        · refine .inl ⟨part :: more, .cons assembles others, ?_⟩
          rwa [List.append_assoc] at whole
        · exact .inr ⟨fault, failed, later, List.mem_cons_of_mem _ among, declines⟩
      · refine .inr ⟨fault, ?_, entry, List.mem_cons_self, declines⟩
        rw [List.foldlM_cons, failed]
        rfl

end Parts

/-! ## Whole joins -/

section Whole

variable {namespaces : List (String × EndpointSet)} {parts : List Part}

theorem ofParts_nil : Joined.ofParts [] = {} := by
  simp [Joined.ofParts]

theorem joined_of_admissible (some' : namespaces ≠ [])
    (assembles : List.Forall₂ Assembles (ordered namespaces) parts)
    (admissible : Admissible parts) :
    joined namespaces = Facade.make (facadeOf parts).realms (facadeOf parts).query
      (facadeOf parts).mutation := by
  have added := joinedAll_of_admissible assembles (show Admissible ([] ++ parts) from admissible)
  rw [ofParts_nil] at added
  simp only [joined, List.isEmpty_iff, some', ↓reduceIte, added]
  rfl

/-- A join comes to its parts, or fails before. -/
theorem joined_cases (namespaces : List (String × EndpointSet)) :
    (∃ parts, List.Forall₂ Assembles (ordered namespaces) parts ∧ Admissible parts) ∨
      ∃ fault, joined namespaces = .error fault ∧
        (fault = .noNamespaces ∨ ∃ entry ∈ namespaces, Declines entry fault) := by
  rcases joinedAll_cases (ordered namespaces) admissible_nil with
    added | ⟨fault, failed, entry, among, declines⟩
  · exact .inl added
  · by_cases none' : namespaces = []
    · refine .inr ⟨.noNamespaces, ?_, .inl rfl⟩
      simp only [joined, none', List.isEmpty_nil, ↓reduceIte]
      rfl
    · refine .inr ⟨fault, ?_, .inr ⟨entry, List.mem_mergeSort.mp among, declines⟩⟩
      rw [ofParts_nil] at failed
      simp only [joined, List.isEmpty_iff, none', ↓reduceIte, failed]
      rfl

end Whole

end Assembly

end GraphFacade
