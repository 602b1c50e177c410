import GraphFacade.Proofs.Endpoint.Carrying

/-!
# Declarations of one parameter

A path declares parameters for all of its operations, and each operation declares
its own.  Declarations with the same texts of name and place are of one parameter,
which stands where it is declared first and is what the operation declares last, or
else the path.
-/

namespace GraphFacade

namespace Extraction

open Steps

variable {g : Graph} {ofPath ofOperation values : List Value} {value declared : Value}
  {key : String × String}

/-! ## Keys -/

def keyTexts (g : Graph) (parameter : Value) : String × String :=
  (g.display (g.getD parameter "name"), g.display (g.getD parameter "in"))

/-- A parameter whose name and place have texts: no integer in them is too long for one. -/
def HasKey (g : Graph) (parameter : Value) : Prop :=
  g.longest (g.getD parameter "name") ≤ Text.digitLimit ∧
    g.longest (g.getD parameter "in") ≤ Text.digitLimit

instance : Decidable (HasKey g value) := inferInstanceAs (Decidable (_ ∧ _))

theorem parameterKey_eq (g : Graph) (parameter : Value) :
    parameterKey g parameter =
      if HasKey g parameter then .ok (keyTexts g parameter) else .error .badNumeral := by
  unfold parameterKey Graph.shown Text.limited
  by_cases keyed : HasKey g parameter
  · rw [if_pos keyed, if_pos keyed.1, if_pos keyed.2]
    rfl
  · rw [if_neg keyed]
    by_cases short : g.longest (g.getD parameter "name") ≤ Text.digitLimit
    · rw [if_pos short, if_neg fun short' => keyed ⟨short, short'⟩]
      rfl
    · rw [if_neg short]
      rfl

/-! ## Declarations -/

def declaredKeys (g : Graph) (values : List Value) : List (String × String) :=
  ((values.filter g.isDict).map (keyTexts g)).eraseDups

def lastDeclared? (g : Graph) (key : String × String) (values : List Value) : Option Value :=
  values.reverse.find? fun value => g.isDict value && keyTexts g value == key

def DeclaresKey (g : Graph) (values : List Value) (key : String × String) : Prop :=
  ∃ value ∈ values, g.isDict value ∧ keyTexts g value = key

theorem mem_declaredKeys : key ∈ declaredKeys g values ↔ DeclaresKey g values key := by
  simp [declaredKeys, DeclaresKey, and_assoc]

theorem lastDeclared?_eq_none : lastDeclared? g key values = none ↔ ¬ DeclaresKey g values key := by
  simp [lastDeclared?, DeclaresKey]

theorem key_of_lastDeclared? (last : lastDeclared? g key values = some declared) :
    keyTexts g declared = key := by
  have found := List.find?_some last
  exact eq_of_beq (Bool.and_eq_true_iff.mp found).2

theorem lastDeclared?_append :
    lastDeclared? g key (ofPath ++ ofOperation) =
      (lastDeclared? g key ofOperation).or (lastDeclared? g key ofPath) := by
  rw [lastDeclared?, List.reverse_append, List.find?_append]
  rfl

/-! ## Merging -/

def declarations (g : Graph) (values : List Value) : List ((String × String) × Value) :=
  Entries.ofList ((values.filter g.isDict).map fun value => (keyTexts g value, value))

theorem mergeParameters_eq (g : Graph) (ofPath ofOperation : List Value) :
    mergeParameters g ofPath ofOperation =
      if ∀ value ∈ (ofPath ++ ofOperation).filter g.isDict, HasKey g value then
        .ok ((declarations g (ofPath ++ ofOperation)).map Prod.snd)
      else .error .badNumeral := by
  have keyed : (fun parameter => do
      let key <- parameterKey g parameter
      return (key, parameter) : Value -> Except Fault ((String × String) × Value)) =
      fun parameter => if HasKey g parameter then .ok (keyTexts g parameter, parameter)
        else .error .badNumeral := by
    funext parameter
    rw [parameterKey_eq]
    split <;> rfl
  unfold mergeParameters
  rw [keyed, except_mapM_ite]
  split <;> rfl

/-- Parameters are merged where the object entries have keys. -/
theorem mergeParameters_eq_ok {merged : List Value} :
    mergeParameters g ofPath ofOperation = .ok merged ↔
      (∀ value ∈ ofPath ++ ofOperation, g.isDict value -> HasKey g value) ∧
        (declarations g (ofPath ++ ofOperation)).map Prod.snd = merged := by
  rw [mergeParameters_eq]
  split
  · rename_i keyed
    simpa using fun _ value among dict => keyed value (List.mem_filter.mpr ⟨among, dict⟩)
  · rename_i unkeyed
    refine ⟨nofun, fun ⟨keyed, _⟩ => absurd (fun value among => ?_) unkeyed⟩
    obtain ⟨member, dict⟩ := List.mem_filter.mp among
    exact keyed value member dict

theorem mergeParameters_eq_error {fault : Fault}
    (failed : mergeParameters g ofPath ofOperation = .error fault) : fault = .badNumeral := by
  rw [mergeParameters_eq] at failed
  split at failed
  · cases failed
  · exact (Except.error.inj failed).symm

theorem lookup_declarations (key : String × String) (values : List Value) :
    (declarations g values).lookup key = lastDeclared? g key values := by
  rw [declarations, Entries.lookup_ofList, ← List.map_reverse, List.find?_map, Option.map_map,
    ← List.filter_reverse, List.find?_filter, lastDeclared?]
  simp [Function.comp_def, Bool.decide_and, beq_eq_decide]

theorem keys_declarations (g : Graph) (values : List Value) :
    (declarations g values).map Prod.fst = declaredKeys g values := by
  rw [declarations, Entries.keys_ofList, List.map_map]
  rfl

theorem nodup_declarations (g : Graph) (values : List Value) :
    ((declarations g values).map Prod.fst).Nodup :=
  Entries.nodup_keys_ofList _

theorem last_of_mem_declarations (member : (key, declared) ∈ declarations g values) :
    lastDeclared? g key values = some declared := by
  rw [← lookup_declarations]
  exact Entries.lookup_of_mem (nodup_declarations g values) member

/-- Merged parameters, one for each key that is declared. -/
structure Merges (g : Graph) (ofPath ofOperation merged : List Value) : Prop where
  keys : merged.map (keyTexts g) = declaredKeys g (ofPath ++ ofOperation)
  distinct : (merged.map (keyTexts g)).Nodup
  covers : ∀ value ∈ ofPath ++ ofOperation, g.isDict value ->
    ∃! declared, declared ∈ merged ∧ keyTexts g declared = keyTexts g value
  overrides : ∀ declared ∈ merged, DeclaresKey g ofOperation (keyTexts g declared) ->
    lastDeclared? g (keyTexts g declared) ofOperation = some declared
  inherits : ∀ declared ∈ merged, ¬ DeclaresKey g ofOperation (keyTexts g declared) ->
    lastDeclared? g (keyTexts g declared) ofPath = some declared

theorem mergeParameters_merges {merged : List Value}
    (h : mergeParameters g ofPath ofOperation = .ok merged) :
    Merges g ofPath ofOperation merged := by
  obtain ⟨_, rfl⟩ := mergeParameters_eq_ok.mp h
  have last : ∀ declared ∈ (declarations g (ofPath ++ ofOperation)).map Prod.snd,
      lastDeclared? g (keyTexts g declared) (ofPath ++ ofOperation) = some declared := by
    intro declared member
    obtain ⟨⟨key, _⟩, among, rfl⟩ := List.mem_map.mp member
    have found := last_of_mem_declarations among
    rw [key_of_lastDeclared? found]
    exact found
  have keys : ((declarations g (ofPath ++ ofOperation)).map Prod.snd).map (keyTexts g) =
      declaredKeys g (ofPath ++ ofOperation) := by
    rw [List.map_map, ← keys_declarations]
    refine List.map_congr_left fun ⟨key, declared⟩ among => ?_
    exact key_of_lastDeclared? (last_of_mem_declarations among)
  have distinct : (((declarations g (ofPath ++ ofOperation)).map Prod.snd).map
      (keyTexts g)).Nodup := by
    rw [keys, ← keys_declarations]
    exact nodup_declarations g _
  refine ⟨keys, distinct, fun value among isDict => ?_, fun declared member here => ?_,
    fun declared member elsewhere => ?_⟩
  · have listed : keyTexts g value ∈ declaredKeys g (ofPath ++ ofOperation) :=
      mem_declaredKeys.mpr ⟨value, among, isDict, rfl⟩
    rw [← keys] at listed
    obtain ⟨declared, member, same⟩ := List.mem_map.mp listed
    refine ⟨declared, ⟨member, same⟩, fun other ⟨member', same'⟩ => ?_⟩
    exact List.inj_on_of_nodup_map distinct member' member (same'.trans same.symm)
  · have found := last declared member
    rw [lastDeclared?_append] at found
    cases own : lastDeclared? g (keyTexts g declared) ofOperation with
    | none => exact absurd here (lastDeclared?_eq_none.mp own)
    | some later => rwa [own, Option.some_or] at found
  · have found := last declared member
    rwa [lastDeclared?_append, lastDeclared?_eq_none.mpr elsewhere, Option.none_or] at found

/-- Only objects declare parameters. -/
theorem mergeParameters_filter (g : Graph) (ofPath ofOperation : List Value) :
    mergeParameters g (ofPath.filter g.isDict) (ofOperation.filter g.isDict) =
      mergeParameters g ofPath ofOperation := by
  rw [mergeParameters, mergeParameters, ← List.filter_append, List.filter_filter]
  simp only [Bool.and_self]

/-! ## Extraction -/

/-- The parameters of an operation, made of merged declarations, and the one for its body. -/
def MadeOf (g : Graph) (operation : Operation) (parameters : List Parameter) : Prop :=
  ∃ ofPath ofOperation merged made body,
    listed g (g.getD operation.item "parameters") = .ok ofPath ∧
    listed g (g.getD (operation.value g) "parameters") = .ok ofOperation ∧
    mergeParameters g ofPath ofOperation = .ok merged ∧
    List.Forall₂ (fun declared made => parameter g declared = .ok made) merged made ∧
    bodyParameter? g (operation.value g) = .ok body ∧ parameters = made ++ body.toList

theorem Yields.madeOf {base : Json} {operation : Operation} {entry : Atom × Endpoint}
    (yields : Yields g base operation entry) : MadeOf g operation entry.2.parameters := by
  obtain ⟨declared, made, built⟩ := except_bind_eq_ok.mp yields.endpoint
  obtain ⟨_, _, built⟩ := except_bind_eq_ok.mp built
  obtain ⟨_, _, built⟩ := except_bind_eq_ok.mp built
  obtain ⟨ofPath, onPath, made⟩ := except_bind_eq_ok.mp made
  obtain ⟨ofOperation, onOperation, made⟩ := except_bind_eq_ok.mp made
  obtain ⟨merged, merges, made⟩ := except_bind_eq_ok.mp made
  obtain ⟨each, converted, made⟩ := except_bind_eq_ok.mp made
  obtain ⟨body, ofBody, made⟩ := except_bind_eq_ok.mp made
  refine ⟨ofPath, ofOperation, merged, each, body, onPath, onOperation, merges,
    forall₂_of_mapM converted, ofBody, ?_⟩
  rw [← Except.ok.inj built]
  exact (Except.ok.inj made).symm

/--
Merging keeps one declaration for each key, in the order in which keys come first:
the last one of the operation, if it declares the key, else the last one of the path.
It fails only where an object has no key, and what is no object makes no difference.
The parameters of every extracted endpoint are made of the declarations of its path
and its operation that are merged so.
-/
theorem endpoints_override :
    (∀ g ofPath ofOperation,
      (∀ merged, mergeParameters g ofPath ofOperation = .ok merged ->
        Merges g ofPath ofOperation merged) ∧
      ((∃ merged, mergeParameters g ofPath ofOperation = .ok merged) ↔
        ∀ value ∈ ofPath ++ ofOperation, g.isDict value -> HasKey g value) ∧
      (∀ fault, mergeParameters g ofPath ofOperation = .error fault -> fault = .badNumeral) ∧
      mergeParameters g (ofPath.filter g.isDict) (ofOperation.filter g.isDict) =
        mergeParameters g ofPath ofOperation) ∧
    ∀ (d : Document) given endpoints log log', d.endpoints given log = .ok endpoints log' ->
      ∃ base paths, sectionEntries d.graph (d.graph.getD d.root "paths") = .ok paths ∧
        List.Forall₂ (fun operation entry => Yields d.graph base operation entry ∧
            MadeOf d.graph operation entry.2.parameters)
          (paths.flatMap (operationsOf d.graph)) endpoints := by
  refine ⟨fun g ofPath ofOperation => ⟨?merges, ?returns, ?fails, ?filtered⟩, ?extracted⟩
  case merges => exact fun _ => mergeParameters_merges
  case returns =>
    exact ⟨fun ⟨_, returns⟩ => (mergeParameters_eq_ok.mp returns).1,
      fun keyed => ⟨_, mergeParameters_eq_ok.mpr ⟨keyed, rfl⟩⟩⟩
  case fails => exact fun _ => mergeParameters_eq_error
  case filtered => exact mergeParameters_filter g ofPath ofOperation
  case extracted =>
    intro d given endpoints log log' extracted
    obtain ⟨base, paths, listed, each, _⟩ := endpoints_yield extracted
    exact ⟨base, paths, listed, each.imp fun _ _ yields => ⟨yields, yields.madeOf⟩⟩

/--
A path that declares a page in the query and an id; its one operation declares the
page in the query again, and another page in the headers.
-/
def shelves : Document :=
  ⟨⟨#[.dict [("name", .atom (.text "page")), ("in", .atom (.text "query"))],
    .dict [("name", .atom (.text "id")), ("in", .atom (.text "path"))],
    .list [.cell 0, .cell 1],
    .dict [("name", .atom (.text "page")), ("in", .atom (.text "query")),
      ("type", .atom (.text "integer"))],
    .dict [("name", .atom (.text "page")), ("in", .atom (.text "header"))],
    .list [.cell 3, .atom (.text "page"), .cell 4],
    .dict [("operationId", .atom (.text "list")), ("parameters", .cell 5)],
    .dict [("parameters", .cell 2), ("get", .cell 6)],
    .dict [("/shelves/\x7bid\x7d", .cell 7)],
    .dict [("paths", .cell 8)]]⟩, .cell 9⟩

/-- The operation's page stands where the path's page was, and the other page comes last. -/
theorem endpoints_override_shelves :
    ∃ entry log, shelves.endpoints none #[] = .ok [entry] log ∧
      List.Forall₂ (fun declared made => parameter shelves.graph declared = .ok made)
        [.cell 3, .cell 1, .cell 4] entry.2.parameters := by
  have shown : (returned? (shelves.endpoints none #[])).any fun _ => true := by decide +kernel
  obtain ⟨endpoints, log, returns, _⟩ := ok_of_returned shown
  obtain ⟨base, paths, listed', each⟩ := endpoints_override.2 _ _ _ _ _ returns
  obtain rfl : [("/shelves/\x7bid\x7d", Value.cell 7)] = paths := Except.ok.inj listed'
  have operations : [("/shelves/\x7bid\x7d", Value.cell 7)].flatMap (operationsOf shelves.graph) =
      [⟨"/shelves/\x7bid\x7d", .cell 7, .get⟩] := rfl
  rw [operations] at each
  obtain ⟨entry, _, ⟨-, made⟩, none', rfl⟩ := List.forall₂_cons_left_iff.mp each
  obtain rfl := List.forall₂_nil_left_iff.mp none'
  obtain ⟨ofPath, ofOperation, merged, made, body, onPath, onOperation, merges, converted, ofBody,
    parameters⟩ := made
  obtain rfl : [Value.cell 0, .cell 1] = ofPath := Except.ok.inj onPath
  obtain rfl : [Value.cell 3, .atom (.text "page"), .cell 4] = ofOperation :=
    Except.ok.inj onOperation
  obtain rfl : none = body := Except.ok.inj ofBody
  have found : mergeParameters shelves.graph [.cell 0, .cell 1]
      [.cell 3, .atom (.text "page"), .cell 4] = .ok [.cell 3, .cell 1, .cell 4] := by
    decide +kernel
  obtain rfl := Except.ok.inj (merges.symm.trans found)
  rw [Option.toList_none, List.append_nil] at parameters
  exact ⟨entry, log, returns, parameters ▸ converted⟩

end Extraction

end GraphFacade
