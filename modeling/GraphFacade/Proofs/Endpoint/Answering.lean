import GraphFacade.Endpoint.Extraction
import GraphFacade.Proofs.Document.Expansion
import GraphFacade.Proofs.Entries
import GraphFacade.Proofs.Text.Order

/-!
# What an operation answers

The schema of an operation's answer is that of its first response that has one,
in the order of the codes of success, or of the default response if no code of
success is declared.  The order in which responses are declared decides nothing.
Only a code that looks like a numeral and is none can spoil the search, and only
when nothing is declared for it and no earlier response has a schema.
-/

namespace GraphFacade

namespace Extraction

variable {g : Graph} {operation responses response value schema : Value} {code : String}
  {contents declared declared' : List (String × Value)}

/-! ## Responses -/

/-- The media type whose schema counts: JSON if there is one and it is not null, else the first. -/
inductive Prefers (contents : List (String × Value)) : Value -> Prop
  | json {media : Value} (found : contents.lookup "application/json" = some media)
      (present : media ≠ .atom .null) : Prefers contents media
  | first {name : String} {media : Value}
      (missing : (contents.lookup "application/json").getD (.atom .null) = .atom .null)
      (starts : contents.head? = some (name, media)) : Prefers contents media

/-- The schema of a response: its own, which may be null, or one of its contents, which may not. -/
inductive Supplies (g : Graph) (response : Value) : Value -> Prop
  | own {schema : Value} (found : g.get? response "schema" = some schema) :
      Supplies g response schema
  | content {contents : List (String × Value)} {media schema : Value}
      (dict : g.isDict response = true) (missing : g.get? response "schema" = none)
      (listed : g.entries? (g.getD response "content") = some contents)
      (prefers : Prefers contents media) (found : g.get? media "schema" = some schema)
      (present : schema ≠ .atom .null) : Supplies g response schema

def Silent (g : Graph) (response : Value) : Prop :=
  ∀ schema, ¬ Supplies g response schema

theorem present?_eq_some :
    present? value = some schema ↔ value = schema ∧ schema ≠ .atom .null := by
  unfold present?
  split
  · rename_i null
    rw [beq_iff_eq] at null
    simp [null, eq_comm]
  · rename_i present
    rw [beq_iff_eq] at present
    simp only [Option.some.injEq]
    exact ⟨fun same => ⟨same, same ▸ present⟩, And.left⟩

/-- There is one media type whose schema counts, unless there is none at all. -/
theorem prefers_iff {name : String} {first media : Value}
    (starts : contents.head? = some (name, first)) :
    Prefers contents media ↔
      (present? ((contents.lookup "application/json").getD (.atom .null))).getD first = media := by
  cases json : present? ((contents.lookup "application/json").getD (.atom .null)) with
  | some found =>
      obtain ⟨same, present⟩ := present?_eq_some.mp json
      have there : contents.lookup "application/json" = some found := by
        cases listed : contents.lookup "application/json" with
        | none =>
            rw [listed] at same
            exact absurd same.symm present
        | some other =>
            rw [listed, Option.getD_some] at same
            rw [same]
      constructor
      · rintro (⟨found', _⟩ | ⟨missing, _⟩)
        · rw [there, Option.some.injEq] at found'
          exact found'
        · rw [there] at missing
          exact absurd missing present
      · rintro rfl
        exact .json there present
  | none =>
      have missing : (contents.lookup "application/json").getD (.atom .null) = .atom .null := by
        by_contra present
        have := present?_eq_some.mpr ⟨rfl, present⟩
        rw [json] at this
        cases this
      constructor
      · rintro (⟨found, present⟩ | ⟨_, starts'⟩)
        · rw [found] at missing
          exact absurd missing present
        · rw [starts, Option.some.injEq, Prod.mk.injEq] at starts'
          exact starts'.2
      · rintro rfl
        exact .first missing starts

theorem contentSchema?_eq_some {content : Value} :
    contentSchema? g content = some schema ↔
      ∃ contents media, g.entries? content = some contents ∧ Prefers contents media ∧
        g.get? media "schema" = some schema ∧ schema ≠ .atom .null := by
  -- What is no object has nothing under any key.
  have schemaOf : ∀ media, (if g.isDict media then present? (g.getD media "schema") else none) =
      some schema ↔ g.get? media "schema" = some schema ∧ schema ≠ .atom .null := by
    intro media
    cases found : g.get? media "schema" with
    | none =>
        simp [Graph.getD, found, present?]
    | some other =>
        have dict : g.isDict media = true := by
          obtain ⟨entries, own, _⟩ := Option.bind_eq_some_iff.mp found
          simp [Graph.isDict, own]
        rw [if_pos dict, Graph.getD, found, Option.getD_some, present?_eq_some,
          Option.some.injEq]
  unfold contentSchema?
  cases listed : g.entries? content with
  | none => simp
  | some contents =>
      have json : g.getD content "application/json" =
          (contents.lookup "application/json").getD (.atom .null) := by
        simp [Graph.getD, Graph.get?, listed]
      cases contents with
      | nil =>
          constructor
          · simp
          · rintro ⟨_, _, same, prefers, _⟩
            cases Option.some.inj same
            cases prefers with
            | json found => simp at found
            | first _ starts => simp at starts
      | cons entry rest =>
          have prefers := @prefers_iff (entry :: rest) entry.1 entry.2
          simp only [Option.bind_eq_bind, Option.bind_some, List.head?_cons, json, schemaOf]
          constructor
          · exact fun found => ⟨_, _, rfl, (prefers rfl).mpr rfl, found⟩
          · rintro ⟨_, media, same, chosen, found⟩
            cases Option.some.inj same
            rw [(prefers rfl).mp chosen]
            exact found

theorem Supplies.unique {schema' : Value} (h : Supplies g response schema)
    (h' : Supplies g response schema') : schema = schema' := by
  cases h with
  | own found =>
      cases h' with
      | own found' => exact Option.some.inj (found.symm.trans found')
      | content _ missing => rw [missing] at found; cases found
  | content _ missing listed prefers found present =>
      cases h' with
      | own found' => rw [missing] at found'; cases found'
      | content _ _ listed' prefers' found' present' =>
          have first := contentSchema?_eq_some.mpr ⟨_, _, listed, prefers, found, present⟩
          have second := contentSchema?_eq_some.mpr ⟨_, _, listed', prefers', found', present'⟩
          exact Option.some.inj (first.symm.trans second)

/-! ## Searching -/

def Spoiled (g : Graph) (responses : Value) (code : String) : Prop :=
  g.getD responses code = .atom .null ∧ isBrokenNumeral code = true

theorem findSchema_of_spoiled (rest : List String) (spoiled : Spoiled g responses code) :
    findSchema g responses (code :: rest) = .error .badNumeral := by
  simp [findSchema, spoiled.1, spoiled.2]

theorem findSchema_of_supplies (rest : List String)
    (supplies : Supplies g (g.getD responses code) schema) :
    findSchema g responses (code :: rest) = .ok (present? schema) := by
  have dict : ∃ entries, g.entries? (g.getD responses code) = some entries := by
    cases supplies with
    | own found =>
        obtain ⟨entries, own, _⟩ := Option.bind_eq_some_iff.mp found
        exact ⟨entries, own⟩
    | content dict => exact Option.isSome_iff_exists.mp dict
  obtain ⟨entries, dict⟩ := dict
  have present : (g.getD responses code == .atom .null) = false := by
    refine beq_eq_false_iff_ne.mpr fun null => ?_
    rw [null] at dict
    simp [Graph.entries?, Graph.cell?] at dict
  have own : g.get? (g.getD responses code) "schema" = entries.lookup "schema" := by
    rw [Graph.get?, dict, Option.bind_some]
  rw [findSchema, present, Bool.false_and, if_neg Bool.false_ne_true, dict]
  dsimp only
  cases supplies with
  | own found =>
      rw [own] at found
      rw [found]
  | content _ missing listed prefers found present =>
      rw [own] at missing
      rw [missing, contentSchema?_eq_some.mpr ⟨_, _, listed, prefers, found, present⟩]
      exact congrArg Except.ok (present?_eq_some.mpr ⟨rfl, present⟩).symm

theorem findSchema_of_silent (rest : List String) (silent : Silent g (g.getD responses code))
    (unspoiled : ¬ Spoiled g responses code) :
    findSchema g responses (code :: rest) = findSchema g responses rest := by
  have passed : (g.getD responses code == .atom .null && isBrokenNumeral code) = false := by
    rw [Bool.eq_false_iff]
    intro spoiled
    rw [Bool.and_eq_true, beq_iff_eq] at spoiled
    exact unspoiled spoiled
  rw [findSchema, passed, if_neg Bool.false_ne_true]
  cases dict : g.entries? (g.getD responses code) with
  | none => rfl
  | some entries =>
      have own : g.get? (g.getD responses code) "schema" = entries.lookup "schema" := by
        rw [Graph.get?, dict, Option.bind_some]
      dsimp only
      cases missing : entries.lookup "schema" with
      | some schema => exact absurd (.own (own.trans missing)) (silent schema)
      | none =>
          cases found : contentSchema? g (g.getD (g.getD responses code) "content") with
          | none => rfl
          | some schema =>
              obtain ⟨contents, media, listed, prefers, found, present⟩ :=
                contentSchema?_eq_some.mp found
              have isDict : g.isDict (g.getD responses code) = true := by
                simp [Graph.isDict, dict]
              exact absurd (.content isDict (own.trans missing) listed prefers found present)
                (silent schema)

theorem findSchema_append {passed rest : List String}
    (silent : ∀ code ∈ passed, Silent g (g.getD responses code))
    (unspoiled : ∀ code ∈ passed, ¬ Spoiled g responses code) :
    findSchema g responses (passed ++ rest) = findSchema g responses rest := by
  induction passed with
  | nil => rfl
  | cons code passed ih =>
      rw [List.forall_mem_cons] at silent unspoiled
      rw [List.cons_append, findSchema_of_silent _ silent.1 unspoiled.1]
      exact ih silent.2 unspoiled.2

/-- A search that comes to a spoiled code fails there, or earlier for the same reason. -/
theorem findSchema_append_of_spoiled {passed : List String} (rest : List String)
    (silent : ∀ code ∈ passed, Silent g (g.getD responses code))
    (spoiled : Spoiled g responses code) :
    findSchema g responses (passed ++ code :: rest) = .error .badNumeral := by
  induction passed with
  | nil => exact findSchema_of_spoiled rest spoiled
  | cons first passed ih =>
      rw [List.forall_mem_cons] at silent
      by_cases here : Spoiled g responses first
      · exact findSchema_of_spoiled _ here
      · rw [List.cons_append, findSchema_of_silent _ silent.1 here]
        exact ih silent.2

/-! ## Codes -/

/-- A code that is looked at: one of success, or the default where no code of success is. -/
def Considered (declared : List (String × Value)) (code : String) : Prop :=
  code ∈ declared.map Prod.fst ∧ (code.startsWith "2" = true ∨
    code = "default" ∧ ∀ other ∈ declared.map Prod.fst, other.startsWith "2" = false)

theorem mem_responseCodes :
    code ∈ responseCodes (declared.map Prod.fst) ↔ Considered declared code := by
  unfold responseCodes Considered
  dsimp only
  have sorted : ∀ code, code ∈ ((declared.map Prod.fst).filter fun code =>
      code.startsWith "2").mergeSort (fun a b => !Text.before b a) ↔
      code ∈ declared.map Prod.fst ∧ code.startsWith "2" = true := by
    intro code
    rw [List.mem_mergeSort, List.mem_filter]
  split
  · rename_i none'
    rw [List.isEmpty_iff] at none'
    have fails : ∀ other ∈ declared.map Prod.fst, other.startsWith "2" = false := by
      intro other among
      rw [Bool.eq_false_iff]
      intro success
      exact List.not_mem_nil (none' ▸ (sorted other).mpr ⟨among, success⟩)
    rw [List.mem_filter, beq_iff_eq]
    refine and_congr_right fun among => ⟨fun same => .inr ⟨same, fails⟩, ?_⟩
    rintro (success | ⟨same, _⟩)
    · rw [fails code among] at success
      cases success
    · exact same
  · rename_i some'
    rw [sorted]
    refine and_congr_right fun among => ⟨.inl, ?_⟩
    rintro (success | ⟨_, fails⟩)
    · exact success
    · refine absurd (List.isEmpty_iff.mpr (List.eq_nil_iff_forall_not_mem.mpr ?_)) some'
      intro other member
      obtain ⟨among, success⟩ := (sorted other).mp member
      rw [fails other among] at success
      cases success

theorem responseCodes_pairwise {codes : List String}
    (distinct : (codes.map fun code => Text.codes code.toList).Nodup) :
    (responseCodes codes).Pairwise fun a b => Text.before a b := by
  have apart : ∀ {kept : List String}, kept.Perm (codes.filter fun code => code.startsWith "2") ∨
      kept = codes.filter (· == "default") ->
      kept.Pairwise fun a b => Text.codes a.toList ≠ Text.codes b.toList := by
    intro kept origin
    rw [List.nodup_iff_pairwise_ne, List.pairwise_map] at distinct
    rcases origin with moved | rfl
    · exact (distinct.filter _).perm moved.symm fun different same => different same.symm
    · exact distinct.filter _
  unfold responseCodes
  dsimp only
  split
  · have one : (codes.filter (· == "default")).Pairwise fun a b => a = b := by
      rw [List.pairwise_iff_forall_sublist]
      intro a b sub
      have all : ∀ code ∈ codes.filter (· == "default"), code = "default" := fun code member =>
        eq_of_beq (List.mem_filter.mp member).2
      rw [all a (sub.subset (by simp)), all b (sub.subset (by simp))]
    exact (one.and (apart (.inr rfl))).imp fun ⟨same, different⟩ => absurd (by rw [same]) different
  · have weak : ((codes.filter fun code => code.startsWith "2").mergeSort
        fun a b => !Text.before b a).Pairwise fun a b => !Text.before b a := by
      refine List.pairwise_mergeSort (fun a b c early late => ?_) (fun a b => ?_) _
      · rw [Bool.not_eq_true'] at early late ⊢
        exact Text.not_before_trans early late
      · simpa using Text.not_before_total a b
    have different := apart (.inl (List.mergeSort_perm _ fun a b => !Text.before b a))
    refine (weak.and different).imp fun {a b} ⟨late, different⟩ => ?_
    by_contra early
    rw [Bool.not_eq_true'] at late
    rw [Bool.not_eq_true] at early
    exact different (Text.codes_eq_of_not_before late early)

/-! ## Selecting -/

def Reached (g : Graph) (declared : List (String × Value)) (code : String) : Prop :=
  Considered declared code ∧ ∀ earlier response, Considered declared earlier ->
    Text.before earlier code = true -> (earlier, response) ∈ declared -> Silent g response

/-- The first response that has a schema, with that schema. -/
def Selects (g : Graph) (declared : List (String × Value)) (code : String) (schema : Value) :
    Prop :=
  Reached g declared code ∧ ∃ response, (code, response) ∈ declared ∧ Supplies g response schema

def Spoils (g : Graph) (declared : List (String × Value)) (code : String) : Prop :=
  Reached g declared code ∧ (code, .atom .null) ∈ declared ∧ isBrokenNumeral code = true

/-- The responses that an operation declares; without a section for them it declares none. -/
inductive Declares (g : Graph) (operation : Value) : List (String × Value) -> Prop
  | section {declared : List (String × Value)}
      (listed : g.entries? (g.getD operation "responses") = some declared) :
      Declares g operation declared
  | nothing (missing : g.get? operation "responses" = none) : Declares g operation []

def DistinctCodes (declared : List (String × Value)) : Prop :=
  (declared.map fun entry => Text.codes entry.1.toList).Nodup

instance : Decidable (DistinctCodes declared) :=
  inferInstanceAs (Decidable (List.Nodup _))

theorem DistinctCodes.keys (distinct : DistinctCodes declared) :
    (declared.map Prod.fst).Nodup := by
  refine List.Nodup.of_map (fun code : String => Text.codes code.toList) ?_
  rw [List.map_map]
  exact distinct

theorem DistinctCodes.perm (distinct : DistinctCodes declared)
    (moved : declared'.Perm declared) : DistinctCodes declared' :=
  ((moved.map _).nodup_iff).mpr distinct

theorem DistinctCodes.pairwise (distinct : DistinctCodes declared) :
    (responseCodes (declared.map Prod.fst)).Pairwise fun a b => Text.before a b := by
  refine responseCodes_pairwise ?_
  rw [List.map_map]
  exact distinct

theorem Declares.responseSchema?_eq (declares : Declares g operation declared) :
    responseSchema? g operation =
      findSchema g (g.getD operation "responses") (responseCodes (declared.map Prod.fst)) := by
  cases declares with
  | «section» listed => simp only [responseSchema?, Graph.cell?_of_entries listed]
  | nothing missing =>
      have absent : g.getD operation "responses" = .atom .null := by rw [Graph.getD, missing]; rfl
      simp [responseSchema?, absent, Graph.cell?, Graph.truthy, Atom.truthy, responseCodes,
        findSchema]

theorem Declares.getD_of_mem (declares : Declares g operation declared)
    (distinct : DistinctCodes declared) (member : (code, response) ∈ declared) :
    g.getD (g.getD operation "responses") code = response := by
  cases declares with
  | «section» listed =>
      rw [Graph.getD, Graph.get?, listed, Option.bind_some,
        Entries.lookup_of_mem distinct.keys member, Option.getD_some]
  | nothing => cases member

theorem Considered.exists_mem (considered : Considered declared code) :
    ∃ response, (code, response) ∈ declared := by
  obtain ⟨entry, among, rfl⟩ := List.mem_map.mp considered.1
  exact ⟨entry.2, among⟩

/-- The responses before one that is reached are passed over, and only these are before it. -/
theorem reached_iff (declares : Declares g operation declared)
    (distinct : DistinctCodes declared) :
    Reached g declared code ↔ ∃ passed rest,
      responseCodes (declared.map Prod.fst) = passed ++ code :: rest ∧
        ∀ earlier ∈ passed, Silent g (g.getD (g.getD operation "responses") earlier) := by
  have ordered := distinct.pairwise
  constructor
  · rintro ⟨considered, silent⟩
    obtain ⟨passed, rest, cut⟩ := List.append_of_mem (mem_responseCodes.mpr considered)
    refine ⟨passed, rest, cut, fun earlier member => ?_⟩
    rw [cut, List.pairwise_append] at ordered
    have considered' : Considered declared earlier := by
      rw [← mem_responseCodes, cut]
      exact List.mem_append_left _ member
    obtain ⟨response, among⟩ := considered'.exists_mem
    rw [declares.getD_of_mem distinct among]
    exact silent _ _ considered' (ordered.2.2 _ member _ List.mem_cons_self) among
  · rintro ⟨passed, rest, cut, silent⟩
    rw [cut, List.pairwise_append, List.pairwise_cons] at ordered
    refine ⟨?_, fun earlier response considered before among => ?_⟩
    · rw [← mem_responseCodes, cut]
      exact List.mem_append_right _ List.mem_cons_self
    · rw [← declares.getD_of_mem distinct among]
      refine silent earlier ?_
      have member := mem_responseCodes.mpr considered
      rw [cut, List.mem_append, List.mem_cons] at member
      -- Nothing is before itself, and what comes later is not before.
      have asymm : ∀ later, Text.before code later = true -> earlier ≠ later := by
        rintro later after rfl
        simp only [Text.before, decide_eq_true_eq] at before after
        exact List.lt_asymm before after
      rcases member with first | same | later
      · exact first
      · exact absurd same (asymm code (same ▸ before))
      · exact absurd rfl (asymm earlier (ordered.2.1.1 earlier later))

/-- How the search through declared responses ends. -/
structure Searched (g : Graph) (declared : List (String × Value))
    (result : Except Fault (Option Value)) : Prop where
  spoils : (∃ code, Spoils g declared code) -> result = .error .badNumeral
  selects : ∀ code schema, (∀ code, ¬ Spoils g declared code) ->
    Selects g declared code schema -> result = .ok (present? schema)
  nothing : (∀ code, ¬ Spoils g declared code) ->
    (∀ code schema, ¬ Selects g declared code schema) -> result = .ok none

theorem Reached.spoils (reached : Reached g declared code)
    (declares : Declares g operation declared) (distinct : DistinctCodes declared)
    (spoiled : Spoiled g (g.getD operation "responses") code) : Spoils g declared code := by
  obtain ⟨response, among⟩ := reached.1.exists_mem
  have same := declares.getD_of_mem distinct among
  rw [spoiled.1] at same
  exact ⟨reached, same ▸ among, spoiled.2⟩

/-- Where nothing spoils the search, responses without a schema are passed over. -/
theorem Declares.responseSchema?_of_silent (declares : Declares g operation declared)
    (distinct : DistinctCodes declared) (unspoiled : ∀ code, ¬ Spoils g declared code)
    {passed rest : List String}
    (cut : responseCodes (declared.map Prod.fst) = passed ++ rest)
    (silent : ∀ code ∈ passed, Silent g (g.getD (g.getD operation "responses") code)) :
    responseSchema? g operation = findSchema g (g.getD operation "responses") rest := by
  rw [declares.responseSchema?_eq, cut]
  refine findSchema_append silent fun code member spoiled => unspoiled code ?_
  obtain ⟨before, after, rfl⟩ := List.append_of_mem member
  rw [List.append_assoc, List.cons_append] at cut
  have reached : Reached g declared code := (reached_iff declares distinct).mpr
    ⟨before, _, cut, fun earlier member => silent earlier (List.mem_append_left _ member)⟩
  exact reached.spoils declares distinct spoiled

theorem exists_first_of_mem {α : Type} {p : α -> Prop} {list : List α} {a : α} (member : a ∈ list)
    (fails : ¬ p a) :
    ∃ before first after, list = before ++ first :: after ∧ (∀ b ∈ before, p b) ∧ ¬ p first := by
  induction list with
  | nil => cases member
  | cons b rest ih =>
      by_cases here : p b
      · have later : a ∈ rest := by
          rcases List.mem_cons.mp member with rfl | later
          · exact absurd here fails
          · exact later
        obtain ⟨before, first, after, cut, holds, fails⟩ := ih later
        exact ⟨b :: before, first, after, by rw [cut, List.cons_append],
          List.forall_mem_cons.mpr ⟨here, holds⟩, fails⟩
      · exact ⟨[], b, rest, rfl, by simp, here⟩

/-- A response without a schema hides none that has one. -/
theorem Declares.exists_selected (declares : Declares g operation declared)
    (distinct : DistinctCodes declared) (considered : Considered declared code)
    (among : (code, response) ∈ declared) (supplies : Supplies g response schema) :
    ∃ code schema, Selects g declared code schema := by
  let silent := fun code => Silent g (g.getD (g.getD operation "responses") code)
  have heard : ¬ silent code := fun silent => by
    have same := declares.getD_of_mem distinct among
    exact silent schema (same ▸ supplies)
  obtain ⟨passed, first, rest, cut, silent, heard⟩ :=
    exists_first_of_mem (mem_responseCodes.mpr considered) heard
  have reached := (reached_iff declares distinct).mpr ⟨passed, rest, cut, silent⟩
  obtain ⟨response, among⟩ := reached.1.exists_mem
  obtain ⟨schema, supplies⟩ := not_forall_not.mp heard
  rw [declares.getD_of_mem distinct among] at supplies
  exact ⟨first, schema, reached, response, among, supplies⟩

theorem Declares.searched (declares : Declares g operation declared)
    (distinct : DistinctCodes declared) : Searched g declared (responseSchema? g operation) := by
  refine ⟨?spoils, ?selects, ?nothing⟩
  case spoils =>
    rintro ⟨code, reached, among, broken⟩
    obtain ⟨passed, rest, cut, silent⟩ := (reached_iff declares distinct).mp reached
    rw [declares.responseSchema?_eq, cut]
    exact findSchema_append_of_spoiled rest silent ⟨declares.getD_of_mem distinct among, broken⟩
  case selects =>
    rintro code schema unspoiled ⟨reached, response, among, supplies⟩
    obtain ⟨passed, rest, cut, silent⟩ := (reached_iff declares distinct).mp reached
    rw [declares.responseSchema?_of_silent distinct unspoiled cut silent]
    refine findSchema_of_supplies rest ?_
    rw [declares.getD_of_mem distinct among]
    exact supplies
  case nothing =>
    intro unspoiled unselected
    have silent : ∀ code ∈ responseCodes (declared.map Prod.fst),
        Silent g (g.getD (g.getD operation "responses") code) := by
      intro code member schema supplies
      have considered := mem_responseCodes.mp member
      obtain ⟨response, among⟩ := considered.exists_mem
      rw [declares.getD_of_mem distinct among] at supplies
      obtain ⟨code, schema, selected⟩ :=
        declares.exists_selected distinct considered among supplies
      exact unselected code schema selected
    exact declares.responseSchema?_of_silent distinct unspoiled (List.append_nil _).symm silent

section Order

variable (moved : declared'.Perm declared)

include moved

theorem considered_perm : Considered declared' code ↔ Considered declared code := by
  simp only [Considered, (moved.map Prod.fst).mem_iff]

theorem reached_perm : Reached g declared' code ↔ Reached g declared code := by
  simp only [Reached, considered_perm moved, moved.mem_iff]

/-- In whatever order responses are declared, the search ends in the same way. -/
theorem Searched.congr {result result' : Except Fault (Option Value)}
    (searched : Searched g declared result) (searched' : Searched g declared' result') :
    result' = result := by
  have spoils : ∀ code, Spoils g declared' code ↔ Spoils g declared code := fun code => by
    simp only [Spoils, reached_perm moved, moved.mem_iff]
  have selects : ∀ code schema, Selects g declared' code schema ↔ Selects g declared code schema :=
    fun code schema => by simp only [Selects, reached_perm moved, moved.mem_iff]
  by_cases spoiled : ∃ code, Spoils g declared code
  · rw [searched.spoils spoiled, searched'.spoils ((exists_congr spoils).mpr spoiled)]
  · have unspoiled := not_exists.mp spoiled
    have unspoiled' := fun code => (spoils code).not.mpr (unspoiled code)
    by_cases selected : ∃ code schema, Selects g declared code schema
    · obtain ⟨code, schema, selected⟩ := selected
      rw [searched.selects code schema unspoiled selected,
        searched'.selects code schema unspoiled' ((selects code schema).mpr selected)]
    · have unselected : ∀ code schema, ¬ Selects g declared code schema := fun code schema h =>
        selected ⟨code, schema, h⟩
      rw [searched.nothing unspoiled unselected, searched'.nothing unspoiled' fun code schema =>
        (selects code schema).not.mpr (unselected code schema)]

end Order

/--
The schema of an answer is that of the first response that has one, among the codes
of success in their order, or of the default response if no code of success is
declared; without such a response there is none.  The search fails only if it is
spoiled before.  The order in which responses are declared makes no difference.
-/
theorem responses_selected (declares : Declares g operation declared)
    (distinct : DistinctCodes declared) :
    Searched g declared (responseSchema? g operation) ∧
    (∀ other declared', Declares g other declared' -> declared'.Perm declared ->
      responseSchema? g other = responseSchema? g operation) ∧
    ((∃ code ∈ declared.map Prod.fst, code.startsWith "2" = true) ->
      ∀ schema, ¬ Selects g declared "default" schema) ∧
    ((∃ code response schema, Considered declared code ∧ (code, response) ∈ declared ∧
      Supplies g response schema) -> ∃ code schema, Selects g declared code schema) := by
  have searched := declares.searched distinct
  refine ⟨searched, ?order, ?default, ?hidden⟩
  case order =>
    intro other declared' declares' moved
    exact searched.congr moved (declares'.searched (distinct.perm moved))
  case default =>
    rintro ⟨code, among, success⟩ schema ⟨⟨⟨_, considered⟩, _⟩, _⟩
    rcases considered with success' | ⟨_, fails⟩
    · exact absurd success' (by decide +kernel)
    · rw [fails code among] at success
      cases success
  case hidden =>
    rintro ⟨code, response, schema, considered, among, supplies⟩
    exact declares.exists_selected distinct considered among supplies

/--
An operation whose first response of success has no schema and whose second one has
contents in two forms, the first of which is not JSON; and one with a code of success
that is no numeral and under which nothing is declared.
-/
def surveys : Graph :=
  ⟨#[.dict [("type", .atom (.text "string"))],
    .dict [("schema", .cell 0)],
    .dict [("description", .atom (.text "empty"))],
    .dict [("type", .atom (.text "object"))],
    .dict [("schema", .cell 3)],
    .dict [("text/plain", .cell 1), ("application/json", .cell 4)],
    .dict [("content", .cell 5)],
    .dict [("default", .cell 1), ("201", .cell 6), ("200", .cell 2)],
    .dict [("responses", .cell 7)],
    .dict [("default", .cell 1), ("2²", .atom .null)],
    .dict [("responses", .cell 9)]]⟩

/-- The second response gives its JSON schema; the code that is no numeral spoils the search. -/
theorem responses_selected_surveys :
    responseSchema? surveys (.cell 8) = .ok (some (.cell 3)) ∧
      responseSchema? surveys (.cell 10) = .error .badNumeral := by
  constructor
  · have distinct :
        DistinctCodes [("default", Value.cell 1), ("201", .cell 6), ("200", .cell 2)] := by
      decide +kernel
    have declares : Declares surveys (.cell 8)
        [("default", .cell 1), ("201", .cell 6), ("200", .cell 2)] := .section rfl
    have searched := (responses_selected declares distinct).1
    have considered : Considered [("default", Value.cell 1), ("201", .cell 6), ("200", .cell 2)]
        "201" := ⟨by simp, .inl (by decide +kernel)⟩
    have json : Supplies surveys (.cell 6) (.cell 3) :=
      .content rfl rfl rfl (.json rfl (by simp)) rfl (by simp)
    refine searched.selects "201" (.cell 3) ?_ ⟨⟨considered, ?_⟩, .cell 6, by simp, json⟩
    · rintro code ⟨_, among, _⟩
      simp at among
    · intro earlier response _ before among
      simp only [List.mem_cons, Prod.mk.injEq, List.not_mem_nil, or_false] at among
      rcases among with ⟨rfl, _⟩ | ⟨rfl, _⟩ | ⟨rfl, rfl⟩
      · exact absurd before (by decide +kernel)
      · exact absurd before (by decide +kernel)
      · rintro schema (⟨found⟩ | ⟨_, _, listed, _⟩)
        · cases (show none = some schema from found)
        · cases (show none = some _ from listed)
  · have distinct : DistinctCodes [("default", Value.cell 1), ("2²", .atom .null)] := by
      decide +kernel
    have declares : Declares surveys (.cell 10) [("default", .cell 1), ("2²", .atom .null)] :=
      .section rfl
    have searched := (responses_selected declares distinct).1
    have considered : Considered [("default", Value.cell 1), ("2²", .atom .null)] "2²" :=
      ⟨by simp, .inl (by decide +kernel)⟩
    refine searched.spoils ⟨"2²", ⟨considered, ?_⟩, by simp, by decide +kernel⟩
    intro earlier response _ before among
    simp only [List.mem_cons, Prod.mk.injEq, List.not_mem_nil, or_false] at among
    rcases among with ⟨rfl, _⟩ | ⟨rfl, _⟩
    · exact absurd before (by decide +kernel)
    · exact absurd before (by decide +kernel)

end Extraction

end GraphFacade
