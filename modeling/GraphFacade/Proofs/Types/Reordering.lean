import GraphFacade.Proofs.Endpoint.Collecting
import GraphFacade.Proofs.Types.Fields
import GraphFacade.Proofs.Types.Separation

/-!
# Order of what is given

Endpoints and namespaces are put in the order of their keys before anything is
made of them.  So the order in which a document lists its paths, or a program
its endpoints and namespaces, has no effect on a facade.
-/

namespace GraphFacade

namespace EndpointSet

variable {endpoints : EndpointSet}

theorem exists_sorted (comparable : endpoints.comparable) :
    ∃ order, endpoints.sorted = .ok order := by
  rw [sorted, if_pos comparable]
  split
  · exact ⟨_, rfl⟩
  · exact ⟨_, rfl⟩

theorem sorted_of_not_comparable (apart : ¬ endpoints.comparable) :
    endpoints.sorted = .error .wrongKind := by
  rw [sorted, if_neg apart]

theorem not_isText_of_nan (comparable : endpoints.comparable) (nan : .nan ∈ endpoints.keys)
    {entry : Atom × Endpoint} (among : entry ∈ endpoints) : entry.1.key.isText = false := by
  obtain ⟨other, among', same⟩ := List.mem_map.mp nan
  rcases comparable_cases comparable with few | text | number
  · rw [few entry among other among', same]
    rfl
  · have text' := text other among'
    rw [same] at text'
    simp [AtomKey.isText] at text'
  · exact AtomKey.isText_of_isNumber (number entry among)

end EndpointSet

namespace Assembly

open Steps

variable {endpoints endpoints' : EndpointSet}

theorem partition_congr (same : endpoints.sorted = endpoints'.sorted) (mutation : Bool) :
    partition endpoints mutation = partition endpoints' mutation := by
  simp only [partition, same]

theorem assemble_congr
    (same : ∀ mutation, partition endpoints mutation = partition endpoints' mutation) :
    assemble endpoints = assemble endpoints' := by
  simp only [assemble, same]

theorem single_congr (same : assemble endpoints = assemble endpoints') :
    single endpoints = single endpoints' := by
  simp only [single, same]

theorem assemble_perm (moved : endpoints.Perm endpoints') (distinct : endpoints.keys.Nodup)
    (ranked : .nan ∉ endpoints.keys) : assemble endpoints = assemble endpoints' :=
  assemble_congr (partition_congr (EndpointSet.sorted_congr moved distinct ranked))

/-! ## Endpoints of a document -/

/-- Endpoints none of whose keys gives a name are refused, whichever of them comes first. -/
theorem partition_unnamed (comparable : endpoints.comparable)
    (unnamed : ∀ entry ∈ endpoints, Name.ofJson? (.atom entry.1) = none) (mutation : Bool) :
    partition endpoints mutation =
      if (endpoints.filter fun entry => entry.2.mutation == mutation).isEmpty then pure []
      else throw .wrongKind := by
  obtain ⟨order, sorted⟩ := EndpointSet.exists_sorted comparable
  have moved := (EndpointSet.sorted_perm sorted).filter fun entry => entry.2.mutation == mutation
  funext w
  rw [partition_eq, sorted, ← moved.isEmpty_eq]
  dsimp only
  cases kept : order.filter fun entry => entry.2.mutation == mutation with
  | nil => rfl
  | cons entry rest =>
      rcases entry with ⟨key, endpoint⟩
      rw [kept] at moved
      have among := (List.mem_filter.mp (moved.mem_iff.mp List.mem_cons_self)).1
      rw [fieldsOf, unnamed _ among]
      rfl

/-- Endpoints of a document are assembled alike in any order, even with not-a-number as an id. -/
theorem assemble_extracted (moved : endpoints.Perm endpoints') (distinct : endpoints.keys.Nodup)
    (genuine : ∀ entry ∈ endpoints, entry.1.key.isText ∨ entry.1.truthy) :
    assemble endpoints = assemble endpoints' := by
  by_cases ranked : .nan ∈ endpoints.keys
  · have comparable' := EndpointSet.comparable_perm moved
    by_cases comparable : endpoints.comparable
    · have unnamed : ∀ entry ∈ endpoints, Name.ofJson? (.atom entry.1) = none := by
        intro entry among
        cases named : Name.ofJson? (.atom entry.1) with
        | none => rfl
        | some name =>
            have text := EndpointSet.not_isText_of_nan comparable ranked among
            rcases named_cases named with ⟨s, same, _⟩ | ⟨_, missing, _⟩
            · simp [same, Atom.key, AtomKey.isText] at text
            · have known := genuine entry among
              simp [text, missing] at known
      refine assemble_congr fun mutation => ?_
      have unnamed' : ∀ entry ∈ endpoints', Name.ofJson? (.atom entry.1) = none :=
        fun entry among => unnamed entry (moved.mem_iff.mpr among)
      rw [partition_unnamed comparable unnamed,
        partition_unnamed (comparable' ▸ comparable) unnamed', (moved.filter _).isEmpty_eq]
    · refine assemble_congr (partition_congr ?_)
      rw [EndpointSet.sorted_of_not_comparable comparable,
        EndpointSet.sorted_of_not_comparable (comparable' ▸ comparable)]
  · exact assemble_perm moved distinct ranked

/-- Namespaces of different texts are joined alike in any order. -/
theorem join_perm {namespaces namespaces' : List (String × EndpointSet)}
    (moved : namespaces.Perm namespaces')
    (distinct : (namespaces.map fun entry => Text.codes entry.1.toList).Nodup) :
    join namespaces = join namespaces' := by
  have sorted : (ordered namespaces).Perm namespaces := List.mergeSort_perm _ _
  have sorted' : (ordered namespaces').Perm namespaces' := List.mergeSort_perm _ _
  have apart : ∀ order : List (String × EndpointSet), order.Perm namespaces ->
      (order.map fun entry => Text.codes entry.1.toList).Nodup := fun order same =>
    (same.map _).nodup_iff.mpr distinct
  have same : ordered namespaces = ordered namespaces' := by
    refine (sorted.trans (moved.trans sorted'.symm)).eq_of_pairwise ?_
      (ordered_strict (apart _ sorted)) (ordered_strict (apart _ (sorted'.trans moved.symm)))
    intro first second _ _ early late
    simp only [Text.before, decide_eq_true_eq] at early late
    exact absurd late (List.lt_asymm early)
  unfold ordered at same
  simp only [join, moved.isEmpty_eq, same]

/--
The order of what is given has no effect.  If a document gives endpoints, so
does it with its paths in another order, after any reports, and the endpoints
are the same under the same ids, which are all different; the facade of them or
the fault is the same, and so are the reports.  Endpoints under different keys
that have an order, as texts do, are assembled alike however they are listed,
and so are namespaces of different names joined.
-/
theorem order_irrelevant :
    (∀ g root root', Extraction.Reordered g root root' ->
      ∀ base log log₁, ∀ endpoints : EndpointSet,
        (⟨g, root⟩ : Document).endpoints base log = .ok endpoints log₁ ->
        endpoints.keys.Nodup ∧ ∀ log', ∃ endpoints' log₁',
          (⟨g, root'⟩ : Document).endpoints base log' = .ok endpoints' log₁' ∧
            endpoints.Perm endpoints' ∧ single endpoints = single endpoints') ∧
    (∀ endpoints endpoints' : EndpointSet, endpoints.Perm endpoints' -> endpoints.keys.Nodup ->
      .nan ∉ endpoints.keys -> assemble endpoints = assemble endpoints') ∧
    ∀ namespaces namespaces' : List (String × EndpointSet), namespaces.Perm namespaces' ->
      (namespaces.map fun entry => Text.codes entry.1.toList).Nodup ->
      join namespaces = join namespaces' := by
  refine ⟨?_, fun _ _ => assemble_perm, fun _ _ => join_perm⟩
  intro g root root' reordered base log log₁ endpoints returns
  obtain ⟨distinct, genuine, again⟩ := reordered.endpoints_perm returns
  refine ⟨distinct, fun log' => ?_⟩
  obtain ⟨endpoints', log₁', returns', moved⟩ := again log'
  exact ⟨endpoints', log₁', returns', moved,
    single_congr (assemble_extracted moved distinct genuine)⟩

/-- A document of two paths, which are listed in both orders; each order has a root of its own. -/
def twoPaths : Graph :=
  ⟨#[.dict [("operationId", .atom (.text "b"))], .dict [("get", .cell 0)],
    .dict [("operationId", .atom (.text "a"))], .dict [("put", .cell 2)],
    .dict [("/b", .cell 1), ("/a", .cell 3)], .dict [("paths", .cell 4)],
    .dict [("/a", .cell 3), ("/b", .cell 1)], .dict [("paths", .cell 6)]]⟩

/-- Either order of the paths gives the endpoints of both, and the rest does not care either. -/
theorem order_irrelevant_twoPaths :
    (∃ endpoints log, ∃ endpoints' : EndpointSet, ∃ log',
      (⟨twoPaths, .cell 5⟩ : Document).endpoints none #[] = .ok endpoints log ∧
      (⟨twoPaths, .cell 7⟩ : Document).endpoints none #[] = .ok endpoints' log' ∧
      endpoints.map Prod.fst = [.text "b", .text "a"] ∧
      endpoints'.map Prod.fst = [.text "a", .text "b"] ∧ endpoints.Perm endpoints' ∧
      single endpoints = single endpoints') ∧
    assemble stall = assemble stall.reverse ∧ join shops = join shops.reverse := by
  obtain ⟨documents, sets, namespaces⟩ := order_irrelevant
  have reordered : Extraction.Reordered twoPaths (.cell 5) (.cell 7) := by
    refine ⟨⟨_, _, rfl, rfl, ?_⟩, ⟨_, _, rfl, rfl, List.Perm.swap ..⟩⟩
    intro key other
    rw [List.lookup_cons, List.lookup_cons, beq_false_of_ne other]
  have listed : (match (⟨twoPaths, .cell 5⟩ : Document).endpoints none #[] with
      | .ok endpoints _ => decide (endpoints.map Prod.fst = [.text "b", .text "a"])
      | .error _ _ => false) = true := by
    decide +kernel
  have listed' : (match (⟨twoPaths, .cell 7⟩ : Document).endpoints none #[] with
      | .ok endpoints _ => decide (endpoints.map Prod.fst = [.text "a", .text "b"])
      | .error _ _ => false) = true := by
    decide +kernel
  refine ⟨?_, sets _ _ (List.reverse_perm stall).symm (by decide +kernel) (by decide +kernel),
    namespaces _ _ (List.reverse_perm shops).symm (by decide +kernel)⟩
  cases returns : (⟨twoPaths, .cell 5⟩ : Document).endpoints none #[] with
  | error fault log => simp [returns] at listed
  | ok endpoints log =>
      obtain ⟨_, again⟩ := documents _ _ _ reordered _ _ _ _ returns
      obtain ⟨endpoints', log', returns', moved, facade⟩ := again #[]
      simp only [returns, returns', decide_eq_true_eq] at listed listed'
      exact ⟨endpoints, log, endpoints', log', rfl, returns', listed, listed', moved, facade⟩

end Assembly

end GraphFacade
