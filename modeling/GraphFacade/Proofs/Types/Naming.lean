import GraphFacade.Proofs.FreshNames
import GraphFacade.Proofs.Types.Faithfulness
import GraphFacade.Proofs.Types.Order
import GraphFacade.Proofs.Types.Stopping

/-!
# Whose names types have

A node without a title is named after its hint when it is first visited, and
nothing that was visited before has that name.  What comes later may have it as
its own title, and then shares the type: nothing but such a node ever does.
-/

namespace GraphFacade

namespace Mapping

open Registry Workshop Steps

/-! ## Mappings that may fail -/

/-- What is left of a mapping, whether it ends well or not. -/
def attempt (w : Workshop) (call : Call) : Workshop :=
  match mapSchema call.schema call.origin call.isInput call.hint call.required w with
  | .ok _ w' | .error _ w' => w'

def attemptAll (calls : List Call) (w : Workshop) : Workshop :=
  calls.foldl attempt w

/-- The visits of several mappings, each of which ends well or stops. -/
inductive Attempts : List Call -> Registry -> List Visit -> Registry -> Prop
  | nil {r : Registry} : Attempts [] r [] r
  | mapped {call : Call} {rest : List Call} {r r₁ r₂ : Registry} {visits others : List Visit}
      {type : TypeRef}
      (first : Maps call.schema call.origin call.isInput (.node call.schema.root call.hint) r visits
        type r₁)
      (later : Attempts rest r₁ others r₂) : Attempts (call :: rest) r (visits ++ others) r₂
  | stopped {call : Call} {rest : List Call} {r r₁ r₂ : Registry} {visits others : List Visit}
      {fault : Fault}
      (first : Stops call.schema call.origin call.isInput (.node call.schema.root call.hint) r
        visits fault r₁)
      (later : Attempts rest r₁ others r₂) : Attempts (call :: rest) r (visits ++ others) r₂

theorem attemptAll_attempts (calls : List Call) (w : Workshop) :
    ∃ visits, Attempts calls w.registry visits (attemptAll calls w).registry := by
  induction calls generalizing w with
  | nil => exact ⟨[], .nil⟩
  | cons call rest ih =>
      obtain ⟨others, later⟩ := ih (attempt w call)
      rw [show attemptAll (call :: rest) w = attemptAll rest (attempt w call) from rfl]
      unfold attempt at later ⊢
      cases result : mapSchema call.schema call.origin call.isInput call.hint call.required w with
      | ok type w' =>
          rw [result] at later
          obtain ⟨visits, _, _, first⟩ := mapSchema_maps result
          exact ⟨visits ++ others, .mapped first later⟩
      | error fault w' =>
          rw [result] at later
          obtain ⟨visits, first⟩ := mapSchema_stops result
          exact ⟨visits ++ others, .stopped first later⟩

variable {schema : Schema} {origin : Origin} {isInput : Bool} {job : Job} {r r' : Registry}
  {visits others : List Visit} {type : TypeRef} {fault : Fault} {calls : List Call}

theorem Stops.orderly (h : Stops schema origin isInput job r visits fault r')
    (orderly : Orderly r) : Orderly r' := by
  induction h with
  | noTitle => exact orderly
  | reserved _ titled =>
      exact orderly.of_same (entitle_extends titled).realm (entitle_entries titled)
        (entitle_types titled)
  | endless => exact orderly
  | item _ ih => exact ih orderly
  | body _ titled free allowed _ ih =>
      have start := orderly.of_same (entitle_extends titled).realm (entitle_entries titled)
        (entitle_types titled)
      exact ih (start.establish free rfl (name_blank _ _ _ _) allowed (references_blank _ _ _ _))
  | first _ ih => exact ih orderly
  | later first _ ih =>
      have middle := first.orderly orderly
      exact ih (orderly_fieldFor middle (translate?_holds middle first.done_job) _ _ _)

theorem Attempts.orderly (h : Attempts calls r visits r') (orderly : Orderly r) : Orderly r' := by
  induction h with
  | nil => exact orderly
  | mapped first _ ih => exact ih (first.orderly orderly)
  | stopped first _ ih => exact ih (first.orderly orderly)

/-! ## Titles and the nodes they are given to -/

def Visit.id (visit : Visit) : NodeId :=
  ⟨visit.origin, visit.node.label.id⟩

def Visit.Untitled (visit : Visit) : Prop :=
  visit.node.label.title = none

/--
Whoever has the name of a node without a title as its own title comes after
that node was visited.
-/
def Ordered (visits : List Visit) : Prop :=
  ∀ before visit after, visits = before ++ visit :: after -> ¬ visit.Untitled ->
    ∀ owner ∈ visits, owner.Untitled -> owner.key.title = visit.key.title ->
      ∃ first ∈ before, first.Untitled ∧ first.id = owner.id ∧ first.key.title = owner.key.title

theorem Ordered.snoc (h : Ordered visits) {visit : Visit}
    (owned : visit.Untitled -> (∃ other ∈ visits, other.key.title = visit.key.title) ->
      ∃ owner ∈ visits, owner.Untitled ∧ owner.id = visit.id ∧
        owner.key.title = visit.key.title) :
    Ordered (visits ++ [visit]) := by
  intro before other after split titled owner member untitled same
  rcases List.eq_nil_or_concat after with rfl | ⟨between, last, rfl⟩
  · obtain ⟨rfl, here⟩ := List.append_inj' split rfl
    obtain rfl : visit = other := by simpa using here
    rcases List.mem_append.mp member with old | new
    · exact ⟨owner, old, untitled, rfl, rfl⟩
    · exact absurd (List.mem_singleton.mp new ▸ untitled) titled
  · obtain ⟨rfl, here⟩ := List.append_inj' (split.trans (by simp :
      before ++ other :: between.concat last = (before ++ other :: between) ++ [last])) rfl
    rcases List.mem_append.mp member with old | new
    · exact h before other between rfl titled owner old untitled same
    · obtain rfl : owner = visit := List.mem_singleton.mp new
      obtain ⟨earlier, old, untitled', id, title⟩ := owned untitled ⟨other, by simp, same.symm⟩
      obtain ⟨first, place, untitled'', id', title'⟩ :=
        h before other between rfl titled earlier old untitled' (title.trans same)
      exact ⟨first, place, untitled'', id'.trans id, title'.trans title⟩

/--
What a registry knows of the visits so far: the titles of all nodes were handed
out, and nodes without a title have names of their own.
-/
structure Recorded (r : Registry) (visits : List Visit) : Prop where
  realm : ∀ visit ∈ visits, visit.key.realm = r.realm
  given : ∀ visit ∈ visits,
    r.titleGiven? visit.origin visit.node.label = some visit.key.title
  handed : ∀ visit ∈ visits, visit.key.title ∈ r.titles
  kept : r.untitled.map Prod.snd ⊆ r.titles
  apart : (r.untitled.map Prod.snd).Nodup
  owned : ∀ id name, r.untitled.lookup id = some name ->
    ∃ owner ∈ visits, owner.Untitled ∧ owner.id = id ∧ owner.key.title = name
  ordered : Ordered visits

theorem recorded_new (realm : Option String) : Recorded { realm } [] := by
  constructor <;> simp [Ordered]

theorem Recorded.of_same (h : Recorded r visits) (realm : r'.realm = r.realm)
    (untitled : r'.untitled = r.untitled) (titles : r'.titles = r.titles) :
    Recorded r' visits := by
  rcases r with ⟨realm₁, entries₁, untitled₁, titles₁, types₁⟩
  rcases r' with ⟨realm₂, entries₂, untitled₂, titles₂, types₂⟩
  simp only at realm untitled titles
  subst realm untitled titles
  exact ⟨h.realm, h.given, h.handed, h.kept, h.apart, h.owned, h.ordered⟩

theorem Recorded.establish (h : Recorded r visits) {key : TypeKey} (type : NamedType)
    (free : r.get? key = none) : Recorded (r.establish key type) visits := by
  rw [establish_of_free type free]
  exact h.of_same rfl rfl rfl

theorem Recorded.updateType (h : Recorded r visits) (owner : TypeRef)
    (f : NamedType -> NamedType) : Recorded (r.updateType owner f) visits := by
  cases owner <;> exact h.of_same rfl rfl rfl

theorem mem_handOut {title other : String} :
    other ∈ (r.handOut title).titles ↔ other ∈ r.titles ∨ other = title := by
  unfold handOut
  split
  · rename_i known
    have there : title ∈ r.titles := List.contains_iff_mem.mp known
    constructor
    · exact .inl
    · rintro (old | rfl)
      · exact old
      · exact there
  · simp

theorem Recorded.handOut (h : Recorded r visits) (title : String) :
    Recorded (r.handOut title) visits where
  realm visit member := by rw [h.realm visit member, handOut_realm]
  given visit member := (handOut_extends r title).titleGiven? (h.given visit member)
  handed visit member := mem_handOut.mpr (.inl (h.handed visit member))
  kept := by
    rw [handOut_untitled]
    exact fun name member => mem_handOut.mpr (.inl (h.kept member))
  apart := by
    rw [handOut_untitled]
    exact h.apart
  owned := by
    rw [handOut_untitled]
    exact h.owned
  ordered := h.ordered

/-- A visit is recorded if its title is known to the registry. -/
theorem Recorded.snoc (h : Recorded r visits) {visit : Visit} (realm : visit.key.realm = r.realm)
    (given : r.titleGiven? visit.origin visit.node.label = some visit.key.title)
    (handed : visit.key.title ∈ r.titles)
    (owned : visit.Untitled -> ∃ owner ∈ visits, owner.Untitled ∧ owner.id = visit.id ∧
      owner.key.title = visit.key.title) : Recorded r (visits ++ [visit]) where
  realm := List.forall_mem_append.mpr ⟨h.realm, by simpa using realm⟩
  given := List.forall_mem_append.mpr ⟨h.given, by simpa using given⟩
  handed := List.forall_mem_append.mpr ⟨h.handed, by simpa using handed⟩
  kept := h.kept
  apart := h.apart
  owned id name found := by
    obtain ⟨owner, member, rest⟩ := h.owned id name found
    exact ⟨owner, List.mem_append_left _ member, rest⟩
  ordered := h.ordered.snoc fun untitled _ => owned untitled

/-- A node without a title that was not visited before is recorded under an unused name. -/
theorem Recorded.name (h : Recorded r visits) {visit : Visit} (realm : visit.key.realm = r.realm)
    (untitled : visit.Untitled) (new : r.untitled.lookup visit.id = none)
    (unused : visit.key.title ∉ r.titles) :
    Recorded { r.handOut visit.key.title with
      untitled := r.untitled ++ [(visit.id, visit.key.title)] } (visits ++ [visit]) where
  realm := List.forall_mem_append.mpr ⟨by simpa using h.realm, by simpa using realm⟩
  given := by
    have grown := handOut_extends r visit.key.title
    have longer : Extends r { r.handOut visit.key.title with
        untitled := r.untitled ++ [(visit.id, visit.key.title)] } :=
      ⟨grown.realm, grown.entries, List.prefix_append _ _, grown.types⟩
    refine List.forall_mem_append.mpr ⟨fun other old => longer.titleGiven? (h.given other old), ?_⟩
    have own : visit.node.label.title = none := untitled
    have fresh : r.untitled.lookup ⟨visit.origin, visit.node.label.id⟩ = none := new
    simp [titleGiven?, own, List.lookup_append, fresh, Visit.id]
  handed := List.forall_mem_append.mpr
    ⟨fun other old => mem_handOut.mpr (.inl (h.handed other old)), by simp [mem_handOut]⟩
  kept := by
    rw [List.map_append, List.map_singleton]
    intro name member
    rcases List.mem_append.mp member with old | here
    · exact mem_handOut.mpr (.inl (h.kept old))
    · exact mem_handOut.mpr (.inr (List.mem_singleton.mp here))
  apart := by
    rw [List.map_append, List.map_singleton, ← List.concat_eq_append]
    exact h.apart.concat fun member => unused (h.kept member)
  owned id name found := by
    rcases Entries.lookup_snoc found with old | ⟨same, title⟩
    · obtain ⟨owner, member, rest⟩ := h.owned id name old
      exact ⟨owner, List.mem_append_left _ member, rest⟩
    · exact ⟨visit, by simp, untitled, same, title⟩
  -- a visited node with this title would have had it handed out
  ordered := h.ordered.snoc fun _ ⟨other, member, same⟩ =>
    absurd (same ▸ h.handed other member) unused

theorem Recorded.entitle (h : Recorded r visits) {node : Node} {hint title : String} (role : Role)
    (titled : r.entitle origin node.label hint = some (title, r')) :
    Recorded r' (visits ++ [⟨schema, origin, isInput, node, r'.key title role⟩]) := by
  have given := titleGiven?_of_entitle titled
  rcases entitle_cases titled with ⟨none', known, rfl⟩ | ⟨none', new, fresh, rfl⟩ | ⟨own, rfl⟩
  · obtain ⟨owner, member, untitled, id, same⟩ := h.owned _ _ known
    have handed : title ∈ r'.titles := same ▸ h.handed owner member
    exact h.snoc rfl given handed fun _ => ⟨owner, member, untitled, id, same⟩
  · have unused : title ∉ r.titles := fresh ▸ Name.fresh_not_mem r.titles hint
    let visit : Visit := ⟨schema, origin, isInput, node, (r.handOut title).key title role⟩
    have named : Recorded _ (visits ++ [visit]) :=
      h.name (handOut_realm r title) none' new unused
    exact named
  · have titled' : node.label.title ≠ none := by simp [own]
    exact (h.handOut title).snoc rfl given (mem_handOut.mpr (.inr rfl)) fun untitled =>
      absurd untitled titled'

theorem Maps.recorded (h : Maps schema origin isInput job r visits type r') {earlier : List Visit}
    (recorded : Recorded r earlier) : Recorded r' (earlier ++ visits) := by
  induction h generalizing earlier with
  | direct => simpa using recorded
  | list _ ih => exact ih recorded
  | known _ titled _ => exact recorded.entitle _ titled
  | created _ titled free _ _ ih =>
      rw [List.append_cons]
      exact ih ((recorded.entitle _ titled).establish _ free)
  | done => simpa using recorded
  | property _ _ ihFirst ihLater =>
      rw [← List.append_assoc]
      exact ihLater ((ihFirst recorded).updateType _ _)

theorem Stops.recorded (h : Stops schema origin isInput job r visits fault r')
    {earlier : List Visit} (recorded : Recorded r earlier) : Recorded r' (earlier ++ visits) := by
  induction h generalizing earlier with
  | noTitle => simpa using recorded
  | reserved _ titled => exact recorded.entitle _ titled
  | endless => simpa using recorded
  | item _ ih => exact ih recorded
  | body _ titled free _ _ ih =>
      rw [List.append_cons]
      exact ih ((recorded.entitle _ titled).establish _ free)
  | first _ ih => exact ih recorded
  | later first _ ih =>
      rw [← List.append_assoc]
      exact ih ((first.recorded recorded).updateType _ _)

theorem Attempts.recorded (h : Attempts calls r visits r') {earlier : List Visit}
    (recorded : Recorded r earlier) : Recorded r' (earlier ++ visits) := by
  induction h generalizing earlier with
  | nil => simpa using recorded
  | mapped first _ ih =>
      rw [← List.append_assoc]
      exact ih (first.recorded recorded)
  | stopped first _ ih =>
      rw [← List.append_assoc]
      exact ih (first.recorded recorded)

/-! ## Who shares a type -/

theorem Recorded.lookup_untitled (h : Recorded r visits) {visit : Visit}
    (member : visit ∈ visits) (untitled : visit.Untitled) :
    r.untitled.lookup visit.id = some visit.key.title := by
  have given := h.given visit member
  unfold titleGiven? at given
  rw [untitled] at given
  exact given

theorem Recorded.own_title (h : Recorded r visits) {visit : Visit} (member : visit ∈ visits)
    (titled : ¬ visit.Untitled) : visit.node.label.title = some (.text visit.key.title) := by
  have given := h.given visit member
  unfold titleGiven? at given
  split at given
  · rename_i untitled
    exact absurd untitled titled
  · rename_i title own
    rw [own, Option.some.inj given]
  · simp at given

theorem Recorded.id_unique (h : Recorded r visits) {visit owner : Visit} (member : visit ∈ visits)
    (member' : owner ∈ visits) (untitled : visit.Untitled) (untitled' : owner.Untitled)
    (same : visit.key.title = owner.key.title) : visit.id = owner.id := by
  have found := Entries.mem_of_lookup (h.lookup_untitled member untitled)
  have found' := Entries.mem_of_lookup (h.lookup_untitled member' untitled')
  exact congrArg Prod.fst (List.inj_on_of_nodup_map h.apart found found' same)

/-- Nodes that were visited share a type if they have one title and serve one role. -/
theorem Recorded.shared_iff (h : Recorded r visits) (orderly : Orderly r) {visit owner : Visit}
    (member : visit ∈ visits) (member' : owner ∈ visits) {ref : TypeRef}
    (found : r.get? owner.key = some ref) :
    r.get? visit.key = some ref ↔
      visit.key.title = owner.key.title ∧ visit.key.role = owner.key.role := by
  constructor
  · intro shared
    rw [orderly.key_unique shared found]
    exact ⟨rfl, rfl⟩
  · rintro ⟨titles, roles⟩
    have realms := (h.realm visit member).trans (h.realm owner member').symm
    have same : visit.key = owner.key := by
      rcases key : visit.key with ⟨realm₁, title₁, role₁⟩
      rcases key' : owner.key with ⟨realm₂, title₂, role₂⟩
      simp only [key, key'] at realms titles roles
      rw [realms, titles, roles]
    rw [same, found]

/--
After any number of mappings on a new registry, whether they end well or not,
the type of a node without a title is shared with another node if and only if
that node has the first one's name as its own title and serves the same role;
such a node is first visited after the one without a title was given its name.
-/
theorem attemptAll_shares (calls : List Call) (realm : Option String) (log : Log) :
    let r := (attemptAll calls ⟨{ realm }, log⟩).registry
    (∃ visits, Attempts calls { realm } visits r) ∧
    ∀ visits, Attempts calls { realm } visits r ->
      ∀ before visit after owner ref, visits = before ++ visit :: after -> owner ∈ visits ->
        owner.Untitled -> (visit.Untitled -> visit.id ≠ owner.id) ->
        r.get? owner.key = some ref ->
        (r.get? visit.key = some ref ↔
          visit.node.label.title = some (.text owner.key.title) ∧
            visit.key.role = owner.key.role) ∧
        (visit.node.label.title = some (.text owner.key.title) ->
          ∃ first ∈ before, first.Untitled ∧ first.id = owner.id ∧
            first.key.title = owner.key.title) := by
  intro r
  refine ⟨attemptAll_attempts calls ⟨{ realm }, log⟩, ?_⟩
  intro visits attempts before visit after owner ref split member untitled other found
  have recorded : Recorded r visits := attempts.recorded (recorded_new realm)
  have orderly : Orderly r := attempts.orderly (orderly_new realm)
  have here : visit ∈ visits := by simp [split]
  have own_title (own : visit.node.label.title = some (.text owner.key.title)) :
      ¬ visit.Untitled ∧ visit.key.title = owner.key.title := by
    have titled : ¬ visit.Untitled := by simp [Visit.Untitled, own]
    refine ⟨titled, ?_⟩
    have given := recorded.own_title here titled
    rw [own] at given
    simpa using given.symm
  rw [recorded.shared_iff orderly here member found]
  refine ⟨⟨fun ⟨title, role⟩ => ⟨?_, role⟩, fun ⟨own, role⟩ => ⟨(own_title own).2, role⟩⟩,
    fun own => ?_⟩
  · have titled : ¬ visit.Untitled := fun untitled' =>
      other untitled' (recorded.id_unique here member untitled' untitled title)
    rw [recorded.own_title here titled, title]
  · obtain ⟨titled, title⟩ := own_title own
    exact recorded.ordered before visit after split titled owner member untitled title.symm

def record (title : Option Json) (property : String) : Schema :=
  ⟨.object ⟨0, title, .null⟩ 0, #[⟨[], [(property, .scalar ⟨1, none, .null⟩ .string)]⟩]⟩

def namesakes : List Call :=
  [⟨record none "x", ⟨.text "a", 0⟩, false, "a_response", true⟩,
    ⟨record (some (.text "a_response")) "y", ⟨.text "b", 0⟩, false, "b_response", true⟩]

/-- Both namesakes get the type of the first one. -/
theorem attemptAll_shares_namesakes :
    let r := (attemptAll namesakes ⟨{ realm := none }, #[]⟩).registry
    let visits : List Visit := namesakes.map fun call =>
      ⟨call.schema, call.origin, call.isInput, call.schema.root, ⟨none, "a_response", .output⟩⟩
    Attempts namesakes { realm := none } visits r ∧
      ∃ owner visit, visits = [owner] ++ visit :: [] ∧ owner.Untitled ∧ visit.id ≠ owner.id ∧
        r.get? owner.key = some (.named ⟨none, 0⟩) ∧ r.get? visit.key = some (.named ⟨none, 0⟩) ∧
        ∃ first ∈ [owner], first.Untitled ∧ first.id = owner.id ∧
          first.key.title = owner.key.title := by
  intro r visits
  obtain ⟨found, attempts, same⟩ :
      ∃ found, Attempts namesakes { realm := none } found r ∧ found = visits :=
    ⟨_, .mapped (.created (by rfl) (by rfl) (by rfl) (by decide) (.property (.direct rfl) .done))
      (.mapped (.known (by rfl) (by rfl) (by rfl)) .nil), rfl⟩
  rw [same] at attempts
  refine ⟨attempts, visits[0], visits[1], rfl, rfl, by decide, rfl, ?_⟩
  obtain ⟨shared, earlier⟩ := (attemptAll_shares namesakes none #[]).2 visits attempts
    [visits[0]] visits[1] [] visits[0] (.named ⟨none, 0⟩) rfl (List.getElem_mem _) rfl
    (fun _ => by decide) rfl
  exact ⟨shared.mpr ⟨rfl, rfl⟩, earlier rfl⟩

end Mapping

end GraphFacade
