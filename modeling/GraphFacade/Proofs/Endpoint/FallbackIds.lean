import GraphFacade.Proofs.Endpoint.Operations
import GraphFacade.Proofs.Endpoint.PathWords
import GraphFacade.Proofs.Schema.Ending
import GraphFacade.Proofs.Spelling

/-!
# Operations without ids

Where no operation of a document has an id, extraction stops for two operations of
one id only if these have the same method and paths of the same spelling, and then
it does not end well.
-/

namespace GraphFacade

namespace Extraction

open Steps

/-! ## Faults of single operations -/

def Single {α : Type} (x : Except Fault α) : Prop :=
  ∀ id method path, x ≠ .error (.duplicateOperation id method path)

variable {g : Graph} {α β : Type}

theorem single_ok (a : α) : Single (.ok a) := nofun

theorem Single.bind {x : Except Fault α} {f : α -> Except Fault β} (first : Single x)
    (later : ∀ a, Single (f a)) : Single (x >>= f) := by
  intro id method path failed
  rcases except_bind_eq_error.mp failed with early | ⟨a, _, late⟩
  · exact first id method path early
  · exact later a id method path late

theorem Single.mapM {f : α -> Except Fault β} (each : ∀ a, Single (f a)) (list : List α) :
    Single (list.mapM f) := by
  induction list with
  | nil => exact single_ok []
  | cons a rest ih =>
      rw [List.mapM_cons]
      exact (each a).bind fun b => ih.bind fun bs => single_ok (b :: bs)

theorem single_ofValue (value : Value) : Single (Schema.ofValue g value) := by
  intro id method path failed
  unfold Schema.ofValue EStateM.run at failed
  split at failed
  · cases failed
  · rename_i failed'
    cases failed
    rcases Schema.Reading.read_error failed' with other | ⟨_, _, ⟨other, _⟩ | ⟨other, _⟩⟩
    all_goals cases other

theorem single_limited (longest : Nat) (text : String) : Single (Text.limited longest text) := by
  intro id method path failed
  cases (Text.limited_eq_error.mp failed).2

theorem single_listed (value : Value) : Single (listed g value) := by
  unfold listed
  split
  · exact nofun
  · exact nofun
  · exact nofun
  · split <;> exact nofun

theorem single_parameterSchema (declared : Value) : Single (parameterSchema g declared) := by
  unfold parameterSchema
  dsimp only
  split <;> exact single_ofValue _

theorem single_parameter (declared : Value) : Single (parameter g declared) := by
  unfold parameter
  dsimp only
  split
  · exact (single_parameterSchema declared).bind fun _ => single_ok _
  · exact (single_limited _ _).bind fun _ => nofun

theorem single_bodyParameter? (operation : Value) : Single (bodyParameter? g operation) := by
  unfold bodyParameter?
  dsimp only
  split
  · split
    · exact nofun
    · exact (single_ofValue _).bind fun _ => single_ok _
  · exact nofun

theorem single_findSchema (responses : Value) (codes : List String) :
    Single (findSchema g responses codes) := by
  induction codes with
  | nil => exact nofun
  | cons code rest ih =>
      unfold findSchema
      dsimp only
      split
      · exact nofun
      · split
        · exact ih
        · split
          · exact nofun
          · split
            · exact nofun
            · exact ih

theorem single_responseSchema? (operation : Value) : Single (responseSchema? g operation) := by
  unfold responseSchema?
  dsimp only
  split
  · exact single_findSchema _ _
  · exact (Single.mapM (fun _ => single_limited _ _) _).bind fun _ => by split <;> exact nofun
  · split <;> exact nofun
  · split <;> exact nofun

theorem single_mergeParameters (ofPath ofOperation : List Value) :
    Single (mergeParameters g ofPath ofOperation) := by
  have key : ∀ parameter, Single (parameterKey g parameter) := fun _ =>
    (single_limited _ _).bind fun _ => (single_limited _ _).bind fun _ => single_ok _
  exact (Single.mapM (fun parameter => (key parameter).bind fun _ => single_ok _) _).bind
    fun _ => single_ok _

theorem single_parameters (item operation : Value) : Single (parameters g item operation) :=
  (single_listed _).bind fun _ => (single_listed _).bind fun _ =>
    (single_mergeParameters _ _).bind fun _ => (Single.mapM single_parameter _).bind fun _ =>
      (single_bodyParameter? operation).bind fun _ => single_ok _

theorem single_endpoint (base : Json) (path : String) (item : Value) (method : Method)
    (operation : Value) (id : Atom) : Single (endpoint g base path item method operation id) := by
  refine (single_parameters item operation).bind fun _ =>
    (single_responseSchema? operation).bind fun response => ?_
  refine Single.bind ?_ fun _ => single_ok _
  cases response with
  | none => exact single_ok none
  | some value => exact (single_ofValue value).bind fun schema => single_ok (some schema)

theorem single_operationId (operation : Value) (method : Method) (path : String) :
    Single (operationId g operation method path) := by
  unfold operationId
  dsimp only
  split
  · split <;> exact nofun
  · exact nofun

theorem single_first (value : Value) : Single (first g value) := by
  unfold first
  split
  · exact nofun
  · exact nofun
  · exact nofun
  · split <;> exact nofun
  · exact nofun

theorem single_baseUrl (d : Document) : Single (baseUrl d) := by
  have host : Single (hostUrl d.graph d.root) := by
    unfold hostUrl
    dsimp only
    split
    · have rest : ∀ scheme : Value, Single (do
          let scheme <- d.graph.shown scheme
          let host <- d.graph.shown (d.graph.getD d.root "host")
          let basePath <-
            d.graph.shown (orElse d.graph (d.graph.getD d.root "basePath") (.atom (.text "")))
          return Json.text s!"{scheme}://{host}{basePath}") := fun scheme =>
        (single_limited _ _).bind fun _ => (single_limited _ _).bind fun _ =>
          (single_limited _ _).bind fun _ => single_ok _
      split
      · exact (single_first _).bind rest
      · exact (single_ok _).bind rest
    · exact single_ok _
  have server : Single (serverUrl d.graph d.root) := by
    unfold serverUrl
    dsimp only
    split
    · refine (single_first _).bind fun _ => ?_
      split <;> exact single_ok _
    · exact single_ok _
  unfold baseUrl
  split
  · split
    · exact host
    · exact server
  · exact nofun
  · exact nofun
  · exact nofun

theorem single_sectionEntries (value : Value) : Single (sectionEntries g value) := by
  unfold sectionEntries
  split
  · exact nofun
  · split <;> exact nofun

/-! ## Repeated ids -/

/-- An operation whose id is that of an endpoint that is there before it is added. -/
structure Repeated (g : Graph) (base : Json) (operations : List Operation)
    (endpoints : EndpointSet) (fault : Fault) : Prop where
  found : ∃ earlier operation later middle id, operations = earlier ++ operation :: later ∧
    Gathers g base earlier endpoints middle ∧
    operationId g (operation.value g) operation.method operation.path = .ok id ∧
    id.key ∈ EndpointSet.keys middle ∧
    fault = .duplicateOperation id.display operation.method.title operation.path

variable {base : Json} {operations others : List Operation} {endpoints middle : EndpointSet}
  {fault : Fault} {shown name place : String} {log log' : Log}

theorem Repeated.append (repeated : Repeated g base operations endpoints fault)
    (others : List Operation) : Repeated g base (operations ++ others) endpoints fault := by
  obtain ⟨earlier, operation, later, middle, id, rfl, rest⟩ := repeated.found
  exact ⟨earlier, operation, later ++ others, middle, id, by simp, rest⟩

theorem Repeated.after (gathers : Gathers g base operations endpoints middle)
    (repeated : Repeated g base others middle fault) :
    Repeated g base (operations ++ others) endpoints fault := by
  obtain ⟨earlier, operation, later, middle', id, rfl, gathers', rest⟩ := repeated.found
  exact ⟨operations ++ earlier, operation, later, middle', id, by simp,
    gathers_append.mpr ⟨middle, gathers, gathers'⟩, rest⟩

theorem addOperation_repeated {path : String} {item : Value} {method : Method}
    (h : addOperation g base path item endpoints method log =
      .error (.duplicateOperation shown name place) log') :
    Repeated g base (operationsAt g path item method) endpoints
      (.duplicateOperation shown name place) := by
  unfold addOperation at h
  split at h
  · rename_i dict
    rw [operationsAt, if_pos dict]
    rcases bind_eq_error.mp h with failed | ⟨id, log₁, named, h⟩
    · exact absurd (ofExcept_eq_error.mp failed).1 (single_operationId _ _ _ _ _ _)
    · have named := (ofExcept_eq_ok.mp named).1
      split at h
      · rename_i taken
        rcases bind_eq_error.mp h with failed | ⟨text, log₂, shows, h⟩
        · exact absurd (ofExcept_eq_error.mp failed).1 (single_limited _ _ _ _ _)
        · obtain ⟨_, rfl⟩ := Text.limited_eq_ok.mp (ofExcept_eq_ok.mp shows).1
          obtain ⟨same, _⟩ := throw_eq_error.mp h
          exact ⟨[], _, [], endpoints, id, rfl, .nil, named, EndpointSet.has_iff.mp taken,
            same.symm⟩
      · rcases bind_eq_error.mp h with failed | ⟨found, log₂, _, h⟩
        · exact absurd (ofExcept_eq_error.mp failed).1 (single_endpoint _ _ _ _ _ _ _ _ _)
        · rcases bind_eq_error.mp h with failed | ⟨_, _, _, h⟩
          · cases failed
          · exact absurd h pure_ne_error
  · exact absurd h pure_ne_error

/-- Where steps add the operations of single parts, only a repeated id stops them for one. -/
theorem foldlM_repeated {α : Type} {step : EndpointSet -> α -> Run EndpointSet}
    {parts : α -> List Operation}
    (steps : ∀ part endpoints endpoints' log,
      (∃ log', step endpoints part log = .ok endpoints' log') ↔
        Gathers g base (parts part) endpoints endpoints')
    (stops : ∀ part endpoints log log',
      step endpoints part log = .error (.duplicateOperation shown name place) log' ->
        Repeated g base (parts part) endpoints (.duplicateOperation shown name place))
    (list : List α)
    (h : list.foldlM step endpoints log = .error (.duplicateOperation shown name place) log') :
    Repeated g base (list.flatMap parts) endpoints (.duplicateOperation shown name place) := by
  induction list generalizing endpoints log with
  | nil => exact absurd h pure_ne_error
  | cons part rest ih =>
      rw [List.foldlM_cons] at h
      rw [List.flatMap_cons]
      rcases bind_eq_error.mp h with failed | ⟨middle, log₁, ended, h⟩
      · exact (stops part endpoints log log' failed).append _
      · exact Repeated.after ((steps part endpoints middle log).mp ⟨log₁, ended⟩) (ih h)

theorem addPath_repeated {path : String × Value}
    (h : addPath g base endpoints path log = .error (.duplicateOperation shown name place) log') :
    Repeated g base (operationsOf g path) endpoints (.duplicateOperation shown name place) := by
  unfold addPath at h
  split at h
  · rename_i dict
    rw [operationsOf, if_pos dict]
    have steps : ∀ method endpoints endpoints' log,
        (∃ log', addOperation g base path.1 path.2 endpoints method log = .ok endpoints' log') ↔
          Gathers g base (operationsAt g path.1 path.2 method) endpoints endpoints' :=
      fun _ _ _ _ => addOperation_ok
    exact foldlM_repeated steps (fun _ _ _ _ => addOperation_repeated) Method.all h
  · exact absurd h pure_ne_error

/-- Extraction stops for two operations of one id only where an id is repeated. -/
theorem endpoints_repeated {d : Document} {given : Option Json}
    (h : d.endpoints given log = .error (.duplicateOperation shown name place) log') :
    ∃ base paths, sectionEntries d.graph (d.graph.getD d.root "paths") = .ok paths ∧
      Repeated d.graph base (paths.flatMap (operationsOf d.graph)) []
        (.duplicateOperation shown name place) := by
  have run : ∀ base log, ((do
      if d.graph.isDict d.root then
        let paths <- MonadExcept.ofExcept (sectionEntries d.graph (d.graph.getD d.root "paths"))
        paths.foldlM (addPath d.graph base) []
      else
        throw .noEntries : Run EndpointSet) log =
          .error (.duplicateOperation shown name place) log') ->
      ∃ base paths, sectionEntries d.graph (d.graph.getD d.root "paths") = .ok paths ∧
        Repeated d.graph base (paths.flatMap (operationsOf d.graph)) []
          (.duplicateOperation shown name place) := by
    intro base log h
    split at h
    · rcases bind_eq_error.mp h with failed | ⟨paths, log₁, listed, h⟩
      · exact absurd (ofExcept_eq_error.mp failed).1 (single_sectionEntries _ _ _ _)
      · have steps : ∀ path endpoints endpoints' log,
            (∃ log', addPath d.graph base endpoints path log = .ok endpoints' log') ↔
              Gathers d.graph base (operationsOf d.graph path) endpoints endpoints' :=
          fun _ _ _ _ => addPath_ok
        exact ⟨base, paths, (ofExcept_eq_ok.mp listed).1,
          foldlM_repeated steps (fun _ _ _ _ => addPath_repeated) paths h⟩
    · cases (throw_eq_error.mp h).1
  unfold Document.endpoints at h
  cases given with
  | some base => exact run base log h
  | none =>
      rcases bind_eq_error.mp h with failed | ⟨base, log₁, _, h⟩
      · exact absurd (ofExcept_eq_error.mp failed).1 (single_baseUrl d _ _ _)
      · exact run base log₁ h

/-! ## Fallback ids -/

theorem toNat_lt_of_isNameChar {c : Char} (h : Name.isNameChar c = true) : c.toNat < 128 := by
  rw [Name.isNameChar_eq] at h
  simp only [Name.isRest, Name.isStart, Bool.or_eq_true, Bool.and_eq_true, beq_iff_eq,
    decide_eq_true_eq] at h
  rcases h with ((rfl | ⟨_, high⟩) | ⟨_, high⟩) | ⟨_, high⟩
  · decide
  all_goals
    have bound : c.toNat ≤ _ := high
    exact Nat.lt_of_le_of_lt bound (by decide)

theorem isNameChar_of_mem_collapse {inRun : Bool} {cs : List Char} {c : Char}
    (h : c ∈ collapse inRun cs) : Name.isNameChar c = true := by
  induction cs generalizing inRun with
  | nil => cases h
  | cons d rest ih =>
      unfold collapse at h
      split at h
      · rename_i own
        rcases List.mem_cons.mp h with rfl | later
        · exact own
        · exact ih later
      · split at h
        · exact ih h
        · rcases List.mem_cons.mp h with rfl | later
          · decide
          · exact ih later

theorem mem_of_mem_trim {mark c : Char} {cs : List Char} (h : c ∈ trim mark cs) : c ∈ cs := by
  rw [trim, List.mem_reverse] at h
  have inside := (List.dropWhile_sublist _).subset h
  rw [List.mem_reverse] at inside
  exact (List.dropWhile_sublist _).subset inside

theorem isNameChar_of_mem_fallbackId {method : Method} {path : String} {c : Char}
    (h : c ∈ (fallbackId method path).toList) : Name.isNameChar c = true := by
  simp only [fallbackId_eq, String.toList_append, String.toList_ofList] at h
  rcases List.mem_append.mp h with start | spelled
  · have plain : ∀ method : Method, (method.name.toList ++ ['_']).all Name.isNameChar = true := by
      intro method
      cases method <;> decide +kernel
    exact List.all_eq_true.mp (plain method) c start
  · rw [spelling] at spelled
    exact isNameChar_of_mem_collapse (mem_of_mem_trim spelled)

/-- Fallback ids are plain texts, so they are the same if their code points are. -/
theorem fallbackId_eq_of_codes {method method' : Method} {path path' : String}
    (same : Text.codes (fallbackId method path).toList =
      Text.codes (fallbackId method' path').toList) :
    fallbackId method path = fallbackId method' path' := by
  have plain : ∀ method path, ∀ c ∈ (fallbackId method path).toList,
      Text.isReserved c.toNat = false := by
    intro method path c member
    have bound := toNat_lt_of_isNameChar (isNameChar_of_mem_fallbackId member)
    have low : ¬ 0xD800 + Text.halfShift ≤ c.toNat := by
      rw [Text.halfShift]
      omega
    simp [Text.isReserved, low]
  rw [Text.codes_of_forall_not_isReserved (plain method path),
    Text.codes_of_forall_not_isReserved (plain method' path')] at same
  exact String.toList_inj.mp (List.map_injective_iff.mpr (fun _ _ => Char.toNat_inj.mp) same)

end Extraction

open Extraction Steps

namespace Document

variable {document : Json} {d : Document} {path path' : String} {method method' : Method}
  {operation operation' : Value}

/-- No operation of a document has an id of its own. -/
def Unnamed (d : Document) : Prop :=
  ∀ path method operation, d.Operates path method operation ->
    d.graph.truthy (d.graph.getD operation "operationId") = false

theorem Unnamed.ownId_eq (unnamed : d.Unnamed) (operates : d.Operates path method operation) :
    ownId d.graph path method operation = .atom (.text (fallbackId method path)) := by
  rw [ownId, orElse, unnamed path method operation operates, if_neg Bool.false_ne_true]

def operations (d : Document) : List Operation :=
  ((d.graph.entries? (d.graph.getD d.root "paths")).getD []).flatMap (operationsOf d.graph)

theorem operations_eq {paths : List (String × Value)}
    (listed : sectionEntries d.graph (d.graph.getD d.root "paths") = .ok paths) :
    d.operations = paths.flatMap (operationsOf d.graph) := by
  unfold sectionEntries at listed
  unfold operations
  split at listed
  · rename_i found
    rw [found, ← Except.ok.inj listed, Option.getD_some]
  · rename_i missed
    split at listed
    · cases listed
    · rw [missed, ← Except.ok.inj listed, Option.getD_none]

/-- Two operations of one method under different paths that are spelled alike. -/
def SpelledAlike (d : Document) (method : Method) (path path' : String) : Prop :=
  path ≠ path' ∧ spelling path = spelling path' ∧
    (∃ operation, d.Operates path method operation) ∧
    ∃ operation, d.Operates path' method operation

/-- An operation after another one of its method, under different paths that are spelled alike. -/
def Repeats (d : Document) (operation : Operation) : Prop :=
  ∃ earlier later first, d.operations = earlier ++ operation :: later ∧ first ∈ earlier ∧
    first.method = operation.method ∧ d.SpelledAlike operation.method first.path operation.path

/-- Extraction that stops for a repeated id has met an operation that is spelled like another. -/
theorem Unnamed.alike_of_repeated (unnamed : d.Unnamed) (keyed : document.Keyed)
    (resolved : Document.resolve document = .ok d) {given : Option Json} {log log' : Log}
    {shown name place : String}
    (stopped : d.endpoints given log = .error (.duplicateOperation shown name place) log') :
    ∃ operation, d.Repeats operation ∧ name = operation.method.title ∧
      place = operation.path ∧ shown = fallbackId operation.method operation.path := by
  obtain ⟨base, paths, listed, repeated⟩ := endpoints_repeated stopped
  have once := paths_nodup keyed resolved listed
  obtain ⟨earlier, operation, later, middle, id, cut, gathers, named, taken, fault⟩ :=
    repeated.found
  rw [Fault.duplicateOperation.injEq] at fault
  obtain ⟨rfl, rfl, rfl⟩ := fault
  obtain ⟨found, rfl, each, _⟩ := (gathers_iff (by simp [EndpointSet.keys])).mp gathers
  obtain ⟨entry, among, sameKey⟩ := List.mem_map.mp taken
  obtain ⟨first, member, yields⟩ :=
    exists_of_forall₂ (R := flip (Yields d.graph base)) each.flip among
  -- both operations go by their methods and their paths
  have idOf : ∀ {operation : Operation} {id : Atom},
      operation ∈ paths.flatMap (operationsOf d.graph) ->
      operationId d.graph (operation.value d.graph) operation.method operation.path = .ok id ->
      d.Operates operation.path operation.method (operation.value d.graph) ∧
        id = .text (fallbackId operation.method operation.path) := by
    intro operation id member named
    have operates := (operates_iff listed once).mpr ⟨operation, member, rfl, rfl, rfl⟩
    have own := operationId_eq_ok.mp named
    rw [unnamed.ownId_eq operates] at own
    exact ⟨operates, (Value.atom.inj own).symm⟩
  have inside : first ∈ paths.flatMap (operationsOf d.graph) := by
    rw [cut]
    exact List.mem_append_left _ member
  have inside' : operation ∈ paths.flatMap (operationsOf d.graph) := by
    rw [cut]
    exact List.mem_append_right _ List.mem_cons_self
  obtain ⟨operates, same⟩ := idOf inside yields.id
  obtain ⟨operates', same'⟩ := idOf inside' named
  subst same'
  rw [same] at sameKey
  obtain ⟨sameMethod, sameSpelling⟩ :=
    fallbackId_eq_iff.mp (fallbackId_eq_of_codes (AtomKey.text.inj sameKey))
  refine ⟨operation, ⟨earlier, later, first, (operations_eq listed).trans cut, member, sameMethod,
    fun samePath => ?_, sameSpelling, ⟨_, sameMethod ▸ operates⟩, ⟨_, operates'⟩⟩, rfl, rfl, rfl⟩
  -- no two operations have one path and one method
  have apart := operations_nodup (g := d.graph) once
  rw [cut, List.map_append, List.nodup_append] at apart
  exact apart.2.2 _ (List.mem_map_of_mem member) _ (List.mem_map_of_mem List.mem_cons_self)
    (Prod.ext samePath sameMethod)

/-- Where two operations are spelled alike, extraction does not end well. -/
theorem Unnamed.stops_of_alike (unnamed : d.Unnamed) (keyed : document.Keyed)
    (resolved : Document.resolve document = .ok d) (alike : d.SpelledAlike method path path')
    {given : Option Json} {log log' : Log} {endpoints : EndpointSet} :
    d.endpoints given log ≠ .ok endpoints log' := by
  intro returns
  obtain ⟨different, sameSpelling, ⟨value, is⟩, ⟨value', is'⟩⟩ := alike
  obtain ⟨base, operations, each, apart, _, operates⟩ := keyed.endpoints_yield resolved returns
  obtain ⟨operation, member, rfl, rfl, rfl⟩ := (operates _ _ _).mp is
  obtain ⟨operation', member', rfl, sameMethod, rfl⟩ := (operates _ _ _).mp is'
  obtain ⟨entry, among, yields⟩ := exists_of_forall₂ each member
  obtain ⟨entry', among', yields'⟩ := exists_of_forall₂ each member'
  have own := (unnamed.ownId_eq is).symm.trans (operationId_eq_ok.mp yields.id)
  have own' := operationId_eq_ok.mp yields'.id
  rw [sameMethod, unnamed.ownId_eq is', ← fallbackId_eq_iff.mpr ⟨rfl, sameSpelling⟩] at own'
  have keys : entry.1 = entry'.1 := Value.atom.inj (own.symm.trans own')
  obtain rfl := List.inj_on_of_nodup_map apart among among' (congrArg Atom.key keys)
  have atPath := yields.shows.1
  rw [yields'.shows.1, Option.some.injEq] at atPath
  exact different atPath.symm

/--
Where no operation has an id of its own, extraction stops for a repeated id only at
an operation whose method and spelling an earlier one has, and if there is such an
operation it does not end well.  Ids are the same exactly for one method and one spelling.  Paths of
one spelling have the same words, and if they are plain the same segments.
-/
theorem repeats_alike (keyed : document.Keyed) (resolved : Document.resolve document = .ok d)
    (unnamed : d.Unnamed) (given : Option Json) (log : Log) :
    (∀ shown name place log',
      d.endpoints given log = .error (.duplicateOperation shown name place) log' ->
        ∃ operation, d.Repeats operation ∧ name = operation.method.title ∧
          place = operation.path ∧ shown = fallbackId operation.method operation.path) ∧
    (∀ method path path', d.SpelledAlike method path path' ->
      ∀ endpoints log', d.endpoints given log ≠ .ok endpoints log') ∧
    (∀ method method' path path', fallbackId method path = fallbackId method' path' ↔
      method = method' ∧ spelling path = spelling path') ∧
    ∀ path path', spelling path = spelling path' -> words path = words path' ∧
      (PlainPath path -> PlainPath path' -> segments path = segments path') := by
  refine ⟨?repeated, ?alike, ?ids, ?paths⟩
  case repeated => exact fun _ _ _ _ stopped => unnamed.alike_of_repeated keyed resolved stopped
  case alike => exact fun _ _ _ alike _ _ => unnamed.stops_of_alike keyed resolved alike
  case ids => exact fun _ _ _ _ => fallbackId_eq_iff
  case paths =>
    intro path path' same
    have sameWords : words path = words path' := by rw [words_eq, words_eq, same]
    exact ⟨sameWords, fun plain plain' => plain.segments_eq plain' sameWords⟩

def groups : Json :=
  .dict [("paths", .dict [("/user-groups", .dict [("get", .dict [])]),
    ("/user_groups", .dict [("get", .dict [])])])]

def resolvedGroups : Document :=
  ⟨⟨#[.dict [], .dict [("get", .cell 0)], .dict [], .dict [("get", .cell 2)],
    .dict [("/user-groups", .cell 1), ("/user_groups", .cell 3)],
    .dict [("paths", .cell 4)]]⟩, .cell 5⟩

theorem resolve_groups : Document.resolve groups = .ok resolvedGroups := rfl

theorem groups_unnamed : resolvedGroups.Unnamed := by
  intro path method operation _
  match operation with
  | .atom _ => rfl
  | .cell 0 | .cell 1 | .cell 2 | .cell 3 | .cell 4 | .cell 5 => rfl
  | .cell (_ + 6) => rfl

theorem groups_keyed : groups.Keyed := by
  have operation : (Json.dict [("get", .dict [])]).Keyed :=
    .dict (List.nodup_singleton _) (List.forall_mem_singleton.mpr (.dict List.nodup_nil (by simp)))
  refine .dict (List.nodup_singleton _) (List.forall_mem_singleton.mpr ?_)
  exact .dict (by simp) (List.forall_mem_cons.mpr
    ⟨operation, List.forall_mem_singleton.mpr operation⟩)

/-- The groups have no endpoints, for their paths are spelled alike. -/
theorem repeats_alike_groups :
    groups.Keyed ∧ Document.resolve groups = .ok resolvedGroups ∧ resolvedGroups.Unnamed ∧
      ∀ endpoints log, resolvedGroups.endpoints none #[] ≠ .ok endpoints log := by
  refine ⟨groups_keyed, resolve_groups, groups_unnamed, ?_⟩
  refine (repeats_alike groups_keyed resolve_groups groups_unnamed none #[]).2.1
    .get "/user-groups" "/user_groups" ⟨by decide, by decide +kernel, ?_, ?_⟩
  · exact ⟨.cell 0, .cell 1, rfl, rfl, rfl, rfl⟩
  · exact ⟨.cell 2, .cell 3, rfl, rfl, rfl, rfl⟩

/-- Different operations without ids can go by one id, and then extraction stops for it. -/
theorem repeats_not_only_given_ids :
    Document.resolve groups = .ok resolvedGroups ∧ resolvedGroups.Unnamed ∧
      fallbackId .get "/user-groups" = fallbackId .get "/user_groups" ∧
      ∃ log, resolvedGroups.endpoints none #[] =
        .error (.duplicateOperation "get_user_groups" "GET" "/user_groups") log := by
  refine ⟨resolve_groups, groups_unnamed, by decide +kernel, ?_⟩
  have shown : (failed? (resolvedGroups.endpoints none #[])).any fun found =>
      found.1 = .duplicateOperation "get_user_groups" "GET" "/user_groups" := by
    decide +kernel
  obtain ⟨fault, log, failed, same⟩ := error_of_failed shown
  obtain rfl := of_decide_eq_true same
  exact ⟨log, failed⟩

end Document

end GraphFacade
