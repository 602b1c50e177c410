import GraphFacade.Building
import GraphFacade.Proofs.Document.Keys
import GraphFacade.Proofs.Endpoint.Carrying

/-!
# Endpoints and operations

The endpoints of a resolved document and its operations correspond one to one,
and each endpoint stands under the id of its operation.  A document with two
operations of equal ids has no endpoints at all: neither of the two is dropped.
-/

namespace GraphFacade

open Steps

/-- An operation of a document: an object under a method, in the item of a path that is one too. -/
def Document.Operates (d : Document) (path : String) (method : Method) (operation : Value) : Prop :=
  ∃ item, d.graph.get? (d.graph.getD d.root "paths") path = some item ∧
    d.graph.isDict item = true ∧ d.graph.get? item method.name = some operation ∧
    d.graph.isDict operation = true

namespace Extraction

def ownId (g : Graph) (path : String) (method : Method) (operation : Value) : Value :=
  orElse g (g.getD operation "operationId") (.atom (.text (fallbackId method path)))

variable {g : Graph} {d : Document} {base : Json} {operation : Operation}
  {paths : List (String × Value)} {endpoints : EndpointSet}

theorem operationId_eq_ok {path : String} {method : Method} {operation : Value} {id : Atom} :
    operationId g operation method path = .ok id ↔ ownId g path method operation = .atom id := by
  unfold operationId ownId orElse
  dsimp only
  split
  · cases g.getD operation "operationId" <;> simp
  · simp

/-! ## The operations of all paths -/

theorem Method.mem_all (method : Method) : method ∈ Method.all := by
  cases method <;> decide

theorem mem_operationsAt {path : String} {item : Value} {method : Method} :
    operation ∈ operationsAt g path item method ↔ operation = ⟨path, item, method⟩ ∧
      g.isDict (operation.value g) = true := by
  unfold operationsAt
  split
  · rename_i dict
    rw [List.mem_singleton]
    exact ⟨fun same => ⟨same, same ▸ dict⟩, And.left⟩
  · rename_i plain
    refine ⟨fun none' => absurd none' List.not_mem_nil, ?_⟩
    rintro ⟨rfl, dict⟩
    exact absurd dict plain

theorem mem_operationsOf {path : String × Value} :
    operation ∈ operationsOf g path ↔ path = (operation.path, operation.item) ∧
      g.isDict operation.item = true ∧ g.isDict (operation.value g) = true := by
  unfold operationsOf
  split
  · rename_i dict
    simp only [List.mem_flatMap, mem_operationsAt]
    constructor
    · rintro ⟨method, _, rfl, dict'⟩
      exact ⟨rfl, dict, dict'⟩
    · rintro ⟨rfl, _, dict'⟩
      exact ⟨operation.method, Method.mem_all _, rfl, dict'⟩
  · rename_i plain
    refine ⟨fun none' => absurd none' List.not_mem_nil, ?_⟩
    rintro ⟨rfl, dict, _⟩
    exact absurd dict plain

theorem mem_operations :
    operation ∈ paths.flatMap (operationsOf g) ↔ (operation.path, operation.item) ∈ paths ∧
      g.isDict operation.item = true ∧ g.isDict (operation.value g) = true := by
  simp only [List.mem_flatMap, mem_operationsOf]
  constructor
  · rintro ⟨path, listed, rfl, dict⟩
    exact ⟨listed, dict⟩
  · rintro ⟨listed, dict⟩
    exact ⟨_, listed, rfl, dict⟩

theorem operationsOf_nodup (path : String × Value) :
    (operationsOf g path).Pairwise fun first second => first.method ≠ second.method := by
  unfold operationsOf
  split
  · rw [List.pairwise_flatMap]
    refine ⟨fun method _ => ?_, ?_⟩
    · unfold operationsAt
      split <;> simp
    · have apart : Method.all.Pairwise (· ≠ ·) := by decide
      refine apart.imp fun apart first firstMem second secondMem same => apart ?_
      obtain ⟨rfl, _⟩ := mem_operationsAt.mp firstMem
      obtain ⟨rfl, _⟩ := mem_operationsAt.mp secondMem
      exact same
  · exact .nil

theorem operations_nodup (distinct : (paths.map Prod.fst).Nodup) :
    ((paths.flatMap (operationsOf g)).map fun operation =>
      (operation.path, operation.method)).Nodup := by
  rw [List.nodup_iff_pairwise_ne, List.pairwise_map, List.pairwise_flatMap]
  rw [List.nodup_iff_pairwise_ne, List.pairwise_map] at distinct
  refine ⟨fun path _ => (operationsOf_nodup path).imp fun apart same =>
    apart (Prod.mk.inj same).2, ?_⟩
  refine distinct.imp fun apart first firstMem second secondMem same => apart ?_
  obtain ⟨rfl, _⟩ := mem_operationsOf.mp firstMem
  obtain ⟨rfl, _⟩ := mem_operationsOf.mp secondMem
  exact (Prod.mk.inj same).1

/-- What the endpoint of an operation shows of it. -/
theorem Yields.shows {entry : Atom × Endpoint} (yields : Yields g base operation entry) :
    entry.2.path = some operation.path ∧ entry.2.method = some operation.method ∧
      entry.2.operationId = .atom entry.1 ∧
      (entry.2.mutation = true ↔ operation.method ≠ .get) := by
  obtain ⟨_, _, built⟩ := except_bind_eq_ok.mp yields.endpoint
  obtain ⟨_, _, built⟩ := except_bind_eq_ok.mp built
  obtain ⟨_, _, built⟩ := except_bind_eq_ok.mp built
  rw [← Except.ok.inj built]
  exact ⟨rfl, rfl, rfl, bne_iff_ne⟩

/-- Endpoints of operations that differ in path or method do so too. -/
theorem places_nodup {operations : List Operation}
    (each : List.Forall₂ (Yields g base) operations endpoints)
    (distinct : (operations.map fun operation => (operation.path, operation.method)).Nodup) :
    (endpoints.map fun entry => (entry.2.path, entry.2.method)).Nodup := by
  have same : operations.map (fun operation => (some operation.path, some operation.method)) =
      endpoints.map fun entry => (entry.2.path, entry.2.method) :=
    map_eq_of_forall₂ each fun _ _ yields => by rw [yields.shows.1, yields.shows.2.1]
  rw [← same]
  refine List.Nodup.of_map (fun place => (place.1.getD "", place.2.getD .get)) ?_
  rw [List.map_map]
  exact distinct

/-! ## The operations of a document -/

theorem lookup_section {value : Value} (listed : sectionEntries g value = .ok paths)
    (path : String) : paths.lookup path = g.get? value path := by
  unfold sectionEntries at listed
  unfold Graph.get?
  split at listed
  · rename_i found
    rw [found, ← Except.ok.inj listed]
    rfl
  · rename_i missed
    split at listed
    · simp at listed
    · rw [missed, ← Except.ok.inj listed]
      rfl

/-- The operations that a document has are those that are looked for under its paths. -/
theorem operates_iff {path : String} {method : Method} {value : Value}
    (listed : sectionEntries d.graph (d.graph.getD d.root "paths") = .ok paths)
    (distinct : (paths.map Prod.fst).Nodup) :
    d.Operates path method value ↔ ∃ operation ∈ paths.flatMap (operationsOf d.graph),
      operation.path = path ∧ operation.method = method ∧ operation.value d.graph = value := by
  have look := lookup_section listed
  constructor
  · rintro ⟨item, found, dict, there, dict'⟩
    have same : d.graph.getD item method.name = value := by rw [Graph.getD, there, Option.getD_some]
    refine ⟨⟨path, item, method⟩, mem_operations.mpr ⟨?_, dict, ?_⟩, rfl, rfl, same⟩
    · exact Entries.mem_of_lookup ((look path).trans found)
    · rw [Operation.value, same, dict']
  · rintro ⟨operation, member, rfl, rfl, rfl⟩
    obtain ⟨among, dict, dict'⟩ := mem_operations.mp member
    refine ⟨operation.item, ?_, dict, ?_, dict'⟩
    · rw [← look]
      exact Entries.lookup_of_mem distinct among
    · have object := dict'
      unfold Operation.value Graph.getD at object ⊢
      cases found : d.graph.get? operation.item operation.method.name with
      | some value => rfl
      | none => simp [found, Graph.isDict, Graph.entries?, Graph.cell?] at object

end Extraction

open Extraction

/-- The paths of a resolved document are there once. -/
theorem Document.paths_nodup {document : Json} {d : Document} (keyed : document.Keyed)
    (resolved : Document.resolve document = .ok d) {paths : List (String × Value)}
    (listed : sectionEntries d.graph (d.graph.getD d.root "paths") = .ok paths) :
    (paths.map Prod.fst).Nodup := by
  unfold sectionEntries at listed
  split at listed
  · rename_i found
    rw [← Except.ok.inj listed]
    cases there : d.graph.get? d.root "paths" with
    | none => simp [Graph.getD, there, Graph.entries?, Graph.cell?] at found
    | some value =>
        rw [Graph.getD, there, Option.getD_some] at found
        obtain ⟨entries, own, there⟩ := Option.bind_eq_some_iff.mp there
        have reached : d.graph.at? d.root [.key "paths"] = some value := by
          simp [Graph.at?, Graph.part?, Graph.cell?_of_entries own, Cell.part?, there]
        exact Document.keys_nodup keyed resolved reached found
  · split at listed
    · simp at listed
    · rw [← Except.ok.inj listed]
      exact List.nodup_nil

/-- Where extraction ends well, it yields an endpoint for every operation of the document. -/
theorem Json.Keyed.endpoints_yield {document : Json} {d : Document} (keyed : document.Keyed)
    (resolved : Document.resolve document = .ok d) {given : Option Json} {log log' : Log}
    {endpoints : EndpointSet} (returns : d.endpoints given log = .ok endpoints log') :
    ∃ base operations, List.Forall₂ (Yields d.graph base) operations endpoints ∧
      endpoints.keys.Nodup ∧
      (operations.map fun operation => (operation.path, operation.method)).Nodup ∧
      ∀ path method value, d.Operates path method value ↔ ∃ operation ∈ operations,
        operation.path = path ∧ operation.method = method ∧ operation.value d.graph = value := by
  obtain ⟨base, paths, listed, each, apart⟩ := Extraction.endpoints_yield returns
  have once := Document.paths_nodup keyed resolved listed
  exact ⟨base, _, each, apart, operations_nodup once, fun _ _ _ => operates_iff listed once⟩

/-- A description in a file, if its endpoints are built, has one for each of its operations. -/
theorem Building.endpoints_yield {settings : LazySettings} {file : String} {content : FileContent}
    {document : Json} {given : Option Json} {endpoints : EndpointSet} {log log' start loadedLog : Log}
    (loaded : Json.load file content start = .ok document loadedLog)
    (built : Building.endpoints settings document given log = .ok endpoints log') :
    ∃ titled d base operations, Title.assignAll document = .ok titled ∧
      Document.resolve titled = .ok d ∧
      List.Forall₂ (Yields d.graph base) operations endpoints ∧ endpoints.keys.Nodup ∧
      (operations.map fun operation => (operation.path, operation.method)).Nodup ∧
      ∀ path method value, d.Operates path method value ↔ ∃ operation ∈ operations,
        operation.path = path ∧ operation.method = method ∧ operation.value d.graph = value := by
  have keyed := Json.load_keyed loaded
  obtain ⟨object, _, checked, built⟩ := bind_eq_ok.mp built
  obtain ⟨titled, _, assigned, built⟩ := bind_eq_ok.mp built
  obtain ⟨d, _, resolved, built⟩ := bind_eq_ok.mp built
  obtain ⟨base, log₁, returns⟩ : ∃ base log₁, d.endpoints base log₁ = .ok endpoints log' := by
    cases given with
    | some base => exact ⟨some base, _, built⟩
    | none =>
        obtain ⟨settings, _, _, built⟩ := bind_eq_ok.mp built
        exact ⟨settings.baseUrl.map Json.text, _, built⟩
  have same : object = document := by
    have checked := (ofExcept_eq_ok.mp checked).1
    unfold Building.checkObject at checked
    split at checked
    · exact (Except.ok.inj checked).symm
    · cases checked
  have assigned := same ▸ (ofExcept_eq_ok.mp assigned).1
  have resolved := (ofExcept_eq_ok.mp resolved).1
  obtain ⟨base, operations, yields⟩ := (keyed.assignAll assigned).endpoints_yield resolved returns
  exact ⟨titled, d, base, operations, assigned, resolved, yields⟩

/--
The endpoints of a resolved document correspond to its operations one to one.
Each of them stands under the id of its operation, with its path and method, and
is a mutation unless the method is `get`.  With two operations of equal ids, or
one whose id nothing can stand under, there are no endpoints.
-/
theorem Document.endpoints_correspond {document : Json} {d : Document} (keyed : document.Keyed)
    (resolved : Document.resolve document = .ok d) (given : Option Json) (log : Log) :
    (∀ {endpoints log'}, d.endpoints given log = .ok endpoints log' ->
      endpoints.keys.Nodup ∧
      (∀ path method operation, d.Operates path method operation ->
        ∃! entry, entry ∈ endpoints ∧ entry.2.path = some path ∧ entry.2.method = some method) ∧
      ∀ entry ∈ endpoints, ∃ path method operation, d.Operates path method operation ∧
        entry.2.path = some path ∧ entry.2.method = some method ∧
        ownId d.graph path method operation = .atom entry.1 ∧
        entry.2.operationId = .atom entry.1 ∧ (entry.2.mutation = true ↔ method ≠ .get)) ∧
    ∀ path method operation path' method' operation',
      d.Operates path method operation -> d.Operates path' method' operation' ->
      (path, method) ≠ (path', method') ->
      (d.graph.tree (ownId d.graph path method operation)).same
        (d.graph.tree (ownId d.graph path' method' operation')) = true ->
      ∀ endpoints log', d.endpoints given log ≠ .ok endpoints log' := by
  refine ⟨fun {endpoints log'} returns => ?_, ?_⟩
  · obtain ⟨base, operations, each, apart, once, operates⟩ := keyed.endpoints_yield resolved returns
    refine ⟨apart, fun path method value is => ?_, fun entry among => ?_⟩
    · obtain ⟨operation, member, rfl, rfl, _⟩ := (operates _ _ _).mp is
      obtain ⟨entry, among, yields⟩ := exists_of_forall₂ each member
      obtain ⟨atPath, ofMethod, _⟩ := yields.shows
      refine ⟨entry, ⟨among, atPath, ofMethod⟩, fun other ⟨among', atPath', ofMethod'⟩ => ?_⟩
      exact List.inj_on_of_nodup_map (places_nodup each once) among' among
        (Prod.ext (atPath'.trans atPath.symm) (ofMethod'.trans ofMethod.symm))
    · obtain ⟨operation, member, yields⟩ :=
        exists_of_forall₂ (R := flip (Yields d.graph base)) each.flip among
      obtain ⟨atPath, ofMethod, id, mutation⟩ := yields.shows
      exact ⟨_, _, _, (operates _ _ _).mpr ⟨operation, member, rfl, rfl, rfl⟩, atPath, ofMethod,
        operationId_eq_ok.mp yields.id, id, mutation⟩
  · intro path method value path' method' value' is is' different same endpoints log' returns
    obtain ⟨base, operations, each, apart, once, operates⟩ := keyed.endpoints_yield resolved returns
    obtain ⟨operation, member, rfl, rfl, rfl⟩ := (operates _ _ _).mp is
    obtain ⟨operation', member', rfl, rfl, rfl⟩ := (operates _ _ _).mp is'
    obtain ⟨entry, among, yields⟩ := exists_of_forall₂ each member
    obtain ⟨entry', among', yields'⟩ := exists_of_forall₂ each member'
    rw [operationId_eq_ok.mp yields.id, operationId_eq_ok.mp yields'.id] at same
    have keys : entry.1.key = entry'.1.key := eq_of_beq same
    obtain rfl := List.inj_on_of_nodup_map apart among among' keys
    obtain ⟨atPath, ofMethod, _⟩ := yields.shows
    obtain ⟨atPath', ofMethod', _⟩ := yields'.shows
    rw [atPath, Option.some.injEq] at atPath'
    rw [ofMethod, Option.some.injEq] at ofMethod'
    exact different (Prod.ext atPath' ofMethod')

def letters (id : String) : Json :=
  .dict [("paths", .dict [("/letters", .dict [
    ("get", .dict [("operationId", .text id)]), ("post", .dict [])])])]

theorem letters_keyed (id : String) : (letters id).Keyed := by
  refine .dict (List.nodup_singleton _) (List.forall_mem_singleton.mpr ?_)
  refine .dict (List.nodup_singleton _) (List.forall_mem_singleton.mpr ?_)
  refine .dict (by simp) (List.forall_mem_cons.mpr ⟨?_, List.forall_mem_singleton.mpr ?_⟩)
  · exact .dict (List.nodup_singleton _) (List.forall_mem_singleton.mpr (.atom _))
  · exact .dict List.nodup_nil (by simp)

def resolvedLetters (id : String) : Document :=
  ⟨⟨#[.dict [("operationId", .atom (.text id))], .dict [],
    .dict [("get", .cell 0), ("post", .cell 1)], .dict [("/letters", .cell 2)],
    .dict [("paths", .cell 3)]]⟩, .cell 4⟩

theorem resolve_letters (id : String) :
    Document.resolve (letters id) = .ok (resolvedLetters id) := rfl

theorem letters_operates (id : String) :
    (resolvedLetters id).Operates "/letters" .get (.cell 0) ∧
      (resolvedLetters id).Operates "/letters" .post (.cell 1) :=
  ⟨⟨.cell 2, rfl, rfl, rfl, rfl⟩, ⟨.cell 2, rfl, rfl, rfl, rfl⟩⟩

/-- The letters have one endpoint for posting, unless that goes by the id that listing has. -/
theorem Document.endpoints_correspond_letters :
    (∃ endpoints log', (resolvedLetters "list").endpoints none #[] = .ok endpoints log' ∧
      ∃! entry, entry ∈ endpoints ∧ entry.2.path = some "/letters" ∧
        entry.2.method = some .post) ∧
    ∀ endpoints log', (resolvedLetters "post_letters").endpoints none #[] ≠ .ok endpoints log' := by
  constructor
  · have shown : (returned? ((resolvedLetters "list").endpoints none #[])).any fun _ => true := by
      decide +kernel
    obtain ⟨endpoints, log', returns, _⟩ := ok_of_returned shown
    obtain ⟨_, one, _⟩ :=
      (Document.endpoints_correspond (letters_keyed "list") (resolve_letters "list") none #[]).1
        returns
    exact ⟨endpoints, log', returns, one _ _ _ (letters_operates "list").2⟩
  · obtain ⟨lists, posts⟩ := letters_operates "post_letters"
    exact (Document.endpoints_correspond (letters_keyed _) (resolve_letters _) none #[]).2
      _ _ _ _ _ _ lists posts (by simp) (by decide +kernel)

end GraphFacade
