import GraphFacade.Proofs.Unseen
import GraphFacade.Types.Facade
import Mathlib.Data.List.Nodup
import Mathlib.Logic.Relation

/-!
# What a facade reaches

The members of a facade are exactly the types that its roots lead to, each of
them once.  So the check of their names refuses a facade if and only if two
different types of it have one name.
-/

namespace GraphFacade

namespace Facade

def Leads (facade : Facade) (member next : Member) : Prop :=
  next ∈ (facade.memberReferences member).filterMap member?

def Reachable (facade : Facade) (member : Member) : Prop :=
  ∃ root ∈ facade.roots, Relation.ReflTransGen facade.Leads root member

def Known (facade : Facade) : Member -> Prop
  | .named id => (facade.type? id).isSome
  | _ => True

def Closed (facade : Facade) : Prop :=
  ∀ member next, facade.Leads member next -> facade.Known next

def everything (facade : Facade) : List Member :=
  [.query, .mutation, .json] ++ facade.realms.flatMap fun realm =>
    (List.range realm.types.size).map fun index => .named ⟨realm.realm, index⟩

variable {facade : Facade}

theorem member?_cases {ref : TypeRef} {member : Member} (leads : member? ref = some member) :
    (∃ id, member = .named id ∧ ref.unwrapped = .named id) ∨ member = .json := by
  unfold member? at leads
  cases kind : ref.unwrapped with
  | named id =>
      simp only [kind, Option.some.injEq] at leads
      exact .inl ⟨id, leads.symm, rfl⟩
  | json =>
      simp only [kind, Option.some.injEq] at leads
      exact .inr leads.symm
  | _ => simp [kind] at leads

theorem mem_everything {member : Member} (known : facade.Known member) :
    member ∈ facade.everything := by
  cases member with
  | named id =>
      simp only [Known, type?, List.findSome?_isSome_iff] at known
      obtain ⟨realm, member, found⟩ := known
      unfold Registry.type? at found
      split at found
      · rename_i same
        have inside : id.index < realm.types.size := by simpa using found
        refine List.mem_append_right _ (List.mem_flatMap.mpr ⟨realm, member, ?_⟩)
        refine List.mem_map.mpr ⟨id.index, List.mem_range.mpr inside, ?_⟩
        rw [← same]
      · simp at found
  | _ => simp [everything]

theorem length_everything : facade.everything.length < facade.collectFuel := by
  have total : ∀ (realms : List Registry) (start : Nat),
      realms.foldl (fun n realm => n + realm.types.size) start =
        start + (realms.flatMap fun realm => (List.range realm.types.size).map fun index =>
          Member.named ⟨realm.realm, index⟩).length := by
    intro realms
    induction realms with
    | nil => intro start; rfl
    | cons realm rest ih =>
        intro start
        simp only [List.foldl_cons, ih, List.flatMap_cons, List.length_append, List.length_map,
          List.length_range]
        omega
  rw [collectFuel, total, everything, List.length_append]
  simp

theorem known_of_mem_roots {root : Member} (among : root ∈ facade.roots) : facade.Known root := by
  unfold roots at among
  split at among <;> simp only [List.mem_cons, List.not_mem_nil, or_false] at among
  · rw [among]
    trivial
  · rcases among with rfl | rfl <;> trivial

theorem known_of_reachable (closed : facade.Closed) {member : Member}
    (reached : facade.Reachable member) : facade.Known member := by
  obtain ⟨root, among, path⟩ := reached
  cases path with
  | refl => exact known_of_mem_roots among
  | tail _ leads => exact closed _ _ leads

/-! ## Collecting members -/

/-- What collecting from some members on adds to those that were met. -/
structure Collected (facade : Facade) (met heads found : List Member) : Prop where
  kept : met ⊆ found
  included : heads ⊆ found
  closed : ∀ member ∈ found, member ∉ met -> ∀ next, facade.Leads member next -> next ∈ found
  reached : ∀ member ∈ found, member ∉ met ->
    ∃ head ∈ heads, Relation.ReflTransGen facade.Leads head member

theorem Collected.foldl {step : List Member -> Member -> List Member} {few : Nat}
    {heads met : List Member}
    (steps : ∀ head ∈ heads, ∀ met, unseen facade.everything met ≤ few ->
      Collected facade met [head] (step met head))
    (bound : unseen facade.everything met ≤ few) :
    Collected facade met heads (heads.foldl step met) := by
  induction heads generalizing met with
  | nil =>
      exact ⟨List.Subset.refl _, nofun, fun _ there new => absurd there new,
        fun _ there new => absurd there new⟩
  | cons head rest ih =>
      have first := steps head List.mem_cons_self met bound
      have later := ih (fun other member => steps other (List.mem_cons_of_mem _ member))
        (Nat.le_trans (unseen_le first.kept) bound)
      refine ⟨List.Subset.trans first.kept later.kept, ?_, ?_, ?_⟩
      · exact List.cons_subset.mpr ⟨later.kept (first.included List.mem_cons_self), later.included⟩
      · intro member there new next leads
        by_cases early : member ∈ step met head
        · exact later.kept (first.closed member early new next leads)
        · exact later.closed member there early next leads
      · intro member there new
        by_cases early : member ∈ step met head
        · obtain ⟨_, same, path⟩ := first.reached member early new
          exact ⟨head, List.mem_cons_self, List.mem_singleton.mp same ▸ path⟩
        · obtain ⟨other, among, path⟩ := later.reached member there early
          exact ⟨other, List.mem_cons_of_mem _ among, path⟩

/-- With enough fuel, collecting adds what a member leads to and nothing else. -/
theorem collect_collected (closed : facade.Closed) {fuel : Nat} {met : List Member}
    {member : Member} (known : facade.Known member)
    (fueled : unseen facade.everything met < fuel) :
    Collected facade met [member] (facade.collect fuel met member) := by
  induction fuel generalizing met member with
  | zero => omega
  | succ fuel ih =>
      by_cases seen : member ∈ met
      · simp only [collect, List.contains_eq_mem, seen, decide_true, ↓reduceIte]
        exact ⟨List.Subset.refl _, by simpa using seen, fun _ there new => absurd there new,
          fun _ there new => absurd there new⟩
      · simp only [collect, List.contains_eq_mem, seen, decide_false, Bool.false_eq_true,
          ↓reduceIte]
        have fewer : unseen facade.everything (met ++ [member]) < unseen facade.everything met :=
          unseen_lt (mem_everything known) seen (List.subset_append_left _ _) (by simp)
        have inner : Collected facade (met ++ [member])
            ((facade.memberReferences member).filterMap member?) _ :=
          Collected.foldl (fun next leads met' bound => ih (closed member next leads) (by omega))
            (Nat.le_refl _)
        refine ⟨?_, ?_, ?_, ?_⟩
        · exact List.Subset.trans (List.subset_append_left _ _) inner.kept
        · simpa using inner.kept (by simp : member ∈ met ++ [member])
        · intro other there new next leads
          by_cases same : other = member
          · exact inner.included (same ▸ leads)
          · exact inner.closed other there (by simp [new, same]) next leads
        · intro other there new
          by_cases same : other = member
          · exact ⟨member, List.mem_singleton_self _, same ▸ .refl⟩
          · obtain ⟨next, leads, path⟩ := inner.reached other there (by simp [new, same])
            exact ⟨member, List.mem_singleton_self _, .head leads path⟩

theorem nodup_foldl {step : List Member -> Member -> List Member}
    (steps : ∀ met member, met.Nodup -> (step met member).Nodup) (heads : List Member)
    {met : List Member} (distinct : met.Nodup) : (heads.foldl step met).Nodup := by
  induction heads generalizing met with
  | nil => exact distinct
  | cons head rest ih => exact ih (steps met head distinct)

theorem collect_nodup (fuel : Nat) (met : List Member) (member : Member) (distinct : met.Nodup) :
    (facade.collect fuel met member).Nodup := by
  induction fuel generalizing met member with
  | zero => exact distinct
  | succ fuel ih =>
      by_cases seen : member ∈ met
      · simp only [collect, List.contains_eq_mem, seen, decide_true, ↓reduceIte]
        exact distinct
      · simp only [collect, List.contains_eq_mem, seen, decide_false, Bool.false_eq_true,
          ↓reduceIte]
        have new : (met ++ [member]).Nodup := by
          rw [← List.concat_eq_append]
          exact distinct.concat seen
        exact nodup_foldl ih _ new

theorem members_nodup (facade : Facade) : facade.members.Nodup :=
  nodup_foldl (collect_nodup facade.collectFuel) facade.roots List.nodup_nil

theorem mem_members_iff (closed : facade.Closed) {member : Member} :
    member ∈ facade.members ↔ facade.Reachable member := by
  have fueled : unseen facade.everything [] < facade.collectFuel :=
    Nat.lt_of_le_of_lt List.countP_le_length length_everything
  have collected : Collected facade [] facade.roots facade.members :=
    Collected.foldl (fun root among met bound =>
      collect_collected closed (known_of_mem_roots among) (by omega)) (Nat.le_refl _)
  constructor
  · intro there
    exact collected.reached member there (by simp)
  · rintro ⟨root, among, path⟩
    induction path with
    | refl => exact collected.included among
    | tail _ leads ih => exact collected.closed _ ih (by simp) _ leads

/-! ## The check of names -/

/-- No two different members that the roots lead to have one name. -/
def NamesApart (facade : Facade) : Prop :=
  ∀ first second, facade.Reachable first -> facade.Reachable second ->
    facade.memberName first = facade.memberName second -> first = second

theorem firstRepeated?_eq_none {earlier names : List String} :
    firstRepeated? earlier names = none ↔ names.Nodup ∧ ∀ name ∈ names, name ∉ earlier := by
  induction names generalizing earlier with
  | nil => simp [firstRepeated?]
  | cons name rest ih =>
      by_cases repeated : name ∈ earlier
      · simp [firstRepeated?, repeated]
      · simp only [firstRepeated?, List.contains_eq_mem, repeated, decide_false,
          Bool.false_eq_true, ↓reduceIte, ih, List.nodup_cons, List.mem_cons, not_or,
          forall_eq_or_imp, not_false_eq_true, true_and]
        constructor
        · rintro ⟨distinct, apart⟩
          exact ⟨⟨fun there => (apart name there).1 rfl, distinct⟩,
            fun other there => (apart other there).2⟩
        · rintro ⟨⟨new, distinct⟩, apart⟩
          exact ⟨distinct, fun other there =>
            ⟨fun same => new (same ▸ there), apart other there⟩⟩

/-- What is found is the text of an element, and an earlier text or that of another element. -/
theorem firstRepeated?_eq_some {α : Type} {f : α -> String} {elements : List α}
    {earlier : List String} {name : String} (distinct : elements.Nodup)
    (h : firstRepeated? earlier (elements.map f) = some name) :
    ∃ element ∈ elements, f element = name ∧
      (name ∈ earlier ∨ ∃ other ∈ elements, other ≠ element ∧ f other = name) := by
  induction elements generalizing earlier with
  | nil => simp [firstRepeated?] at h
  | cons first rest ih =>
      obtain ⟨new, distinct⟩ := List.nodup_cons.mp distinct
      by_cases repeated : f first ∈ earlier
      · simp only [List.map_cons, firstRepeated?, List.contains_eq_mem, repeated, decide_true,
          ↓reduceIte, Option.some.injEq] at h
        exact ⟨first, List.mem_cons_self, h, .inl (h ▸ repeated)⟩
      · simp only [List.map_cons, firstRepeated?, List.contains_eq_mem, repeated, decide_false,
          Bool.false_eq_true, ↓reduceIte] at h
        obtain ⟨element, there, same, clash⟩ := ih distinct h
        refine ⟨element, List.mem_cons_of_mem _ there, same, ?_⟩
        rcases clash with old | ⟨other, among, different, same'⟩
        · rcases List.mem_cons.mp old with here | old
          · exact .inr ⟨first, List.mem_cons_self, fun equal => new (equal ▸ there), here.symm⟩
          · exact .inl old
        · exact .inr ⟨other, List.mem_cons_of_mem _ among, different, same'⟩

/-- A facade is made if and only if the names of what its roots lead to are apart. -/
theorem make_eq_ok {realms : List Registry} {query mutation : Entries Field}
    (closed : Closed ⟨realms, query, mutation⟩) {facade : Facade} :
    make realms query mutation = .ok facade ↔
      facade = ⟨realms, query, mutation⟩ ∧ NamesApart ⟨realms, query, mutation⟩ := by
  generalize whole : (⟨realms, query, mutation⟩ : Facade) = made at closed ⊢
  have apart : firstRepeated? [] (made.members.map made.memberName) = none ↔ made.NamesApart := by
    rw [firstRepeated?_eq_none, List.nodup_map_iff_inj_on made.members_nodup]
    simp only [NamesApart, mem_members_iff closed, List.not_mem_nil, not_false_eq_true,
      implies_true, and_true]
    exact ⟨fun h first second reached reached' => h first reached second reached',
      fun h first reached second reached' => h first second reached reached'⟩
  simp only [make, whole]
  rw [← apart]
  cases found : firstRepeated? [] (made.members.map made.memberName) with
  | none => simp [eq_comm]
  | some name => simp

/-- A facade that is not made has two types of the name that the fault tells. -/
theorem make_eq_error {realms : List Registry} {query mutation : Entries Field}
    (closed : Closed ⟨realms, query, mutation⟩) {fault : Fault}
    (h : make realms query mutation = .error fault) :
    ∃ name first second, fault = .repeatedType name ∧ first ≠ second ∧
      Reachable ⟨realms, query, mutation⟩ first ∧ Reachable ⟨realms, query, mutation⟩ second ∧
      memberName ⟨realms, query, mutation⟩ first = name ∧
      memberName ⟨realms, query, mutation⟩ second = name := by
  generalize whole : (⟨realms, query, mutation⟩ : Facade) = made at closed ⊢
  simp only [make, whole] at h
  split at h
  · rename_i name found
    simp only [Except.error.injEq] at h
    obtain ⟨first, among, named, early | ⟨second, among', different, named'⟩⟩ :=
      firstRepeated?_eq_some made.members_nodup found
    · simp at early
    · exact ⟨name, second, first, h.symm, different, (mem_members_iff closed).mp among',
        (mem_members_iff closed).mp among, named', named⟩
  · simp at h

end Facade

end GraphFacade
