import GraphFacade.Proofs.Document.Tour
import GraphFacade.Proofs.Schema.Mirroring
import GraphFacade.Proofs.Unseen
import Mathlib.Logic.Relation

/-!
# When reading a schema ends

An object is remembered before its properties are read, and so a cycle that goes
through an object comes back to what is there already.  A list is remembered
after its items: a list whose items lead back to it through lists alone is read
again and again, however much fuel there is.  On all other values reading ends,
and its fuel is enough.
-/

namespace GraphFacade

namespace Schema

def Coils (g : Graph) (value : Value) : Prop :=
  Relation.TransGen (fun list items => Views g list (.list items)) value value

namespace Reading

open Relation

variable {g : Graph} {value : Value} {entries : List (String × Value)} {s s' : State}

/-! ## What is read of a value -/

/-- The values that are read for the node of a dictionary. -/
def below (g : Graph) (entries : List (String × Value)) : List Value :=
  if (literals? g entries).isSome then []
  else if tag g entries == .atom (.text "object") then
    ((g.entries? (entry entries "properties")).getD []).map Prod.snd
  else if tag g entries == .atom (.text "array") then
    if g.isDict (entry entries "items") then [entry entries "items"] else []
  else []

/-- A value is read on the way to the node of another one. -/
inductive Under (g : Graph) : Value -> Value -> Prop
  | here {value : Value} : Under g value value
  | down {value part inner : Value} {entries : List (String × Value)}
      (dict : g.entries? value = some entries) (member : part ∈ below g entries)
      (inside : Under g part inner) : Under g value inner

/-- A dictionary that is an object but whose properties are something else that counts as true. -/
def Malformed (g : Graph) (value : Value) : Prop :=
  ∃ entries, g.entries? value = some entries ∧ literals? g entries = none ∧
    tag g entries = .atom (.text "object") ∧ g.entries? (entry entries "properties") = none ∧
    g.truthy (entry entries "properties") = true

/--
A dictionary of no form whose tag holds an integer that is too long for the text
that would tell it.
-/
def Untold (g : Graph) (value : Value) : Prop :=
  ∃ entries, g.entries? value = some entries ∧ view g entries = .any ∧
    Text.digitLimit < g.longest (tag g entries)

/-! ## What is read of a dictionary, by its view -/

/-- Properties are entries, there are none, or they are malformed. -/
theorem properties_cases {value : Value} {entries : List (String × Value)}
    (dict : g.entries? value = some entries) (noLiterals : literals? g entries = none)
    (object : tag g entries = .atom (.text "object")) :
    (∃ listed, properties g entries = .ok listed ∧ below g entries = listed.map Prod.snd ∧
      ¬ Malformed g value) ∨
    (properties g entries = .error .noEntries ∧ Malformed g value) := by
  have reads : below g entries =
      ((g.entries? (entry entries "properties")).getD []).map Prod.snd := by
    simp [below, noLiterals, object]
  unfold properties
  dsimp only
  cases found : g.entries? (entry entries "properties") with
  | some listed =>
      refine .inl ⟨listed, rfl, by rw [reads, found]; rfl, ?_⟩
      rintro ⟨entries', dict', _, _, missing, _⟩
      rw [dict, Option.some.injEq] at dict'
      rw [← dict', found] at missing
      simp at missing
  | none =>
      by_cases given : g.truthy (entry entries "properties")
      · exact .inr ⟨by simp [given], entries, dict, noLiterals, object, found, given⟩
      · refine .inl ⟨[], by simp [given], by rw [reads, found]; rfl, ?_⟩
        rintro ⟨entries', dict', _, _, _, given'⟩
        rw [dict, Option.some.injEq] at dict'
        exact given (dict' ▸ given')

theorem of_view_object (form : view g entries = .object) :
    literals? g entries = none ∧ tag g entries = .atom (.text "object") := by
  unfold view at form
  split at form
  · cases form
  · rename_i noLiterals
    split at form
    · rename_i object
      exact ⟨noLiterals, eq_of_beq object⟩
    · split at form
      · split at form <;> cases form
      · split at form <;> cases form

theorem below_eq (g : Graph) (entries : List (String × Value)) :
    below g entries =
      match view g entries with
      | .object => ((g.entries? (entry entries "properties")).getD []).map Prod.snd
      | .list items => [items]
      | _ => [] := by
  unfold below view
  cases literals? g entries with
  | some literals => rfl
  | none =>
      rw [if_neg (by simp)]
      dsimp only
      split
      · rfl
      · split
        · split <;> rfl
        · cases kind? (tag g entries) <;> rfl

theorem below_of_list {items : Value} (form : view g entries = .list items) :
    below g entries = [items] := by
  rw [below_eq, form]

theorem below_of_leaf (leaf : (view g entries).isLeaf = true) : below g entries = [] := by
  rw [below_eq]
  cases form : view g entries with
  | object => simp [form, View.isLeaf] at leaf
  | list items => simp [form, View.isLeaf] at leaf
  | _ => rfl

/-- Properties are read, or the value is malformed. -/
theorem properties_of_object (dict : g.entries? value = some entries)
    (form : view g entries = .object) :
    (∃ listed, properties g entries = .ok listed ∧ below g entries = listed.map Prod.snd ∧
      ¬ Malformed g value) ∨ (properties g entries = .error .noEntries ∧ Malformed g value) :=
  properties_cases dict (of_view_object form).1 (of_view_object form).2

/-! ## What was read has an end -/

theorem Known.under (coherent : Coherent g [] s) {inner : Value} (under : Under g value inner)
    {node : Node} (known : Known g s value node) : ∃ node', Known g s inner node' := by
  induction under generalizing node with
  | here => exact ⟨node, known⟩
  | @down value part inner entries dict member _ ih =>
      cases known with
      | plain noDict => simp [dict] at noDict
      | cell dict' seen =>
          obtain ⟨entries', dict'', reflects⟩ := coherent.reflects seen
          rw [dict, Option.some.injEq] at dict''
          subst dict''
          cases reflects with
          | leaf leaf => simp [below_of_leaf leaf] at member
          | list form known =>
              rw [below_of_list form, List.mem_singleton] at member
              exact ih (member ▸ known)
          | object form inside complete =>
              obtain ⟨listed, nodes, found, _, all⟩ := complete List.not_mem_nil
              rcases properties_of_object dict form with ⟨listed', found', parts, _⟩ | ⟨bad, _⟩
              · rw [found, Except.ok.injEq] at found'
                subst found'
                rw [parts] at member
                obtain ⟨property, among, rfl⟩ := List.mem_map.mp member
                obtain ⟨named, _, _, known⟩ := exists_of_forall₂ all among
                exact ih known
              · simp [found] at bad

theorem Known.formed (coherent : Coherent g [] s) {node : Node} (known : Known g s value node) :
    ¬ Malformed g value := by
  rintro ⟨entries, dict, noLiterals, object, noDict, given⟩
  cases known with
  | plain noDict' => simp [dict] at noDict'
  | cell _ seen =>
      obtain ⟨entries', dict', reflects⟩ := coherent.reflects seen
      rw [dict, Option.some.injEq] at dict'
      subst dict'
      have form : view g entries = .object := by simp [view, noLiterals, object]
      cases reflects with
      | leaf leaf => simp [form, View.isLeaf] at leaf
      | list form' => simp [form] at form'
      | object _ _ complete =>
          obtain ⟨listed, _, found, _⟩ := complete List.not_mem_nil
          simp [properties, noDict, given] at found

theorem Known.told (coherent : Coherent g [] s) {node : Node} (known : Known g s value node) :
    ¬ Untold g value := by
  rintro ⟨entries, dict, form, long⟩
  cases known with
  | plain noDict' => simp [dict] at noDict'
  | cell _ seen =>
      obtain ⟨entries', dict', reflects⟩ := coherent.reflects seen
      rw [dict, Option.some.injEq] at dict'
      subst dict'
      cases reflects with
      | leaf _ told => exact absurd (told form) (Nat.not_le_of_lt long)
      | list form' => simp [form] at form'
      | object form' => simp [form] at form'

theorem Known.items (coherent : Coherent g [] s) {items : Value} {node : Node}
    (known : Known g s value node) (form : Views g value (.list items)) :
    ∃ label inner, node = .list label inner ∧ Known g s items inner := by
  have table : (Schema.mk node s.shapes).shapes = s.shapes := rfl
  obtain ⟨inner, step, known'⟩ := (known.turns coherent table .items).2 items (.items form)
  cases node with
  | list label node =>
      cases step
      exact ⟨label, inner, rfl, known'⟩
  | _ => cases step

theorem Known.uncoiled (coherent : Coherent g [] s) {node : Node} (known : Known g s value node) :
    ¬ Coils g value := by
  intro coil
  obtain ⟨part, form, back⟩ := TransGen.head'_iff.mp coil
  induction node generalizing value part with
  | list label items ih =>
      obtain ⟨_, inner, same, known'⟩ := known.items coherent form
      cases same
      have coil' := TransGen.tail' back form
      obtain ⟨part', form', back'⟩ := TransGen.head'_iff.mp coil'
      exact ih known' coil' part' form' back'
  | _ =>
      obtain ⟨_, _, same, _⟩ := known.items coherent form
      cases same

/-! ## Faults -/

def Spoilt (g : Graph) (value : Value) (fault : Fault) : Prop :=
  fault = .noEntries ∧ Malformed g value ∨ fault = .badNumeral ∧ Untold g value

def Blames (g : Graph) (value : Value) (fault : Fault) : Prop :=
  fault = .endless ∨ ∃ inner, Under g value inner ∧ Spoilt g inner fault

theorem Blames.below {part : Value} {fault : Fault} (h : Blames g part fault)
    (dict : g.entries? value = some entries) (member : part ∈ below g entries) :
    Blames g value fault := by
  rcases h with endless | ⟨inner, under, spoilt⟩
  · exact .inl endless
  · exact .inr ⟨inner, .down dict member under, spoilt⟩

theorem readAll_error {read : Value -> Step Node} {listed : List (String × Value)} {fault : Fault}
    (h : readAll read listed s = .error fault s') :
    ∃ property ∈ listed, ∃ t t', read property.2 t = .error fault t' := by
  induction listed generalizing s with
  | nil => cases h
  | cons property rest ih =>
      rw [readAll_cons] at h
      cases first : read property.2 s with
      | error cause t =>
          simp only [first, EStateM.Result.error.injEq] at h
          exact ⟨property, List.mem_cons_self, s, t, h.1 ▸ first⟩
      | ok node t =>
          cases others : readAll read rest t with
          | ok nodes u => simp [first, others] at h
          | error cause u =>
              simp only [first, others, EStateM.Result.error.injEq] at h
              obtain ⟨rfl, rfl⟩ := h
              obtain ⟨property', among, failed⟩ := ih others
              exact ⟨property', List.mem_cons_of_mem _ among, failed⟩

theorem nodeOf_error {read : Value -> Step Node} {cell : Nat} {fault : Fault}
    (reads : ∀ {part fault t t'}, read part t = .error fault t' -> Blames g part fault)
    (dict : g.entries? (.cell cell) = some entries)
    (h : nodeOf g read cell entries s = .error fault s') : Blames g (.cell cell) fault := by
  cases form : view g entries with
  | object =>
      rw [nodeOf_object form] at h
      rcases properties_of_object dict form with ⟨listed, found, parts, _⟩ | ⟨bad, malformed⟩
      · cases others : readAll read listed (s.opened g cell entries) with
        | ok nodes t => simp [found, others] at h
        | error cause t =>
            simp only [found, others, EStateM.Result.error.injEq] at h
            obtain ⟨rfl, _⟩ := h
            obtain ⟨property, among, _, _, failed⟩ := readAll_error others
            exact (reads failed).below dict (parts ▸ List.mem_map_of_mem among)
      · simp only [bad, EStateM.Result.error.injEq] at h
        exact .inr ⟨_, .here, .inl ⟨h.1.symm, malformed⟩⟩
  | list items =>
      rw [nodeOf_list form] at h
      cases item : read items s.numbered with
      | ok node t => simp [item] at h
      | error cause t =>
          simp only [item, EStateM.Result.error.injEq] at h
          obtain ⟨rfl, _⟩ := h
          exact (reads item).below dict (by simp [below_of_list form])
  | _ =>
      have leaf : (view g entries).isLeaf = true := by rw [form]; rfl
      obtain ⟨rfl, none', long⟩ := nodeOf_leaf_error leaf h
      exact .inr ⟨_, .here, .inr ⟨rfl, entries, dict, none', long⟩⟩

theorem read_error {fuel : Nat} {fault : Fault} (h : read g fuel value s = .error fault s') :
    Blames g value fault := by
  induction fuel generalizing value fault s s' with
  | zero =>
      cases h
      exact .inl rfl
  | succ fuel ih =>
      cases dict : g.entries? value with
      | none =>
          rw [read_plain dict] at h
          cases h
      | some entries =>
          cases value with
          | atom a => cases dict
          | cell id =>
              rw [read_dict dict] at h
              cases known : s.seen.lookup id with
              | some node =>
                  rw [known] at h
                  cases h
              | none =>
                  rw [known] at h
                  exact nodeOf_error ih dict h

/-! ## Fuel -/

def Ends {α : Type} (result : EStateM.Result Fault State α) : Prop :=
  ∀ s, result ≠ .error .endless s

def Outlasts (read' read : Value -> Step Node) : Prop :=
  ∀ value s, Ends (read value s) -> read' value s = read value s

theorem readAll_outlasts {read read' : Value -> Step Node} (outlasts : Outlasts read' read)
    {listed : List (String × Value)} (ends : Ends (readAll read listed s)) :
    readAll read' listed s = readAll read listed s := by
  induction listed generalizing s with
  | nil => rfl
  | cons property rest ih =>
      rw [readAll_cons] at ends ⊢
      have first : Ends (read property.2 s) := by
        intro t failed
        rw [failed] at ends
        exact ends t rfl
      rw [readAll_cons, outlasts _ _ first]
      cases found : read property.2 s with
      | error fault t => rfl
      | ok node t =>
          rw [found] at ends
          dsimp only at ends ⊢
          rw [ih fun u failed => by rw [failed] at ends; exact ends u rfl]

theorem nodeOf_outlasts {read read' : Value -> Step Node} (outlasts : Outlasts read' read)
    {cell : Nat} (ends : Ends (nodeOf g read cell entries s)) :
    nodeOf g read' cell entries s = nodeOf g read cell entries s := by
  cases form : view g entries with
  | object =>
      rw [nodeOf_object form] at ends ⊢
      rw [nodeOf_object form]
      cases found : properties g entries with
      | error fault => rfl
      | ok listed =>
          rw [found] at ends
          dsimp only at ends ⊢
          rw [readAll_outlasts outlasts fun t failed => by rw [failed] at ends; exact ends t rfl]
  | list items =>
      rw [nodeOf_list form] at ends ⊢
      rw [nodeOf_list form,
        outlasts _ _ fun t failed => by rw [failed] at ends; exact ends t rfl]
  | _ =>
      have leaf : (view g entries).isLeaf = true := by rw [form]; rfl
      rcases told_or_long g entries with told | ⟨none', long⟩
      · rw [nodeOf_leaf leaf told, nodeOf_leaf leaf told]
      · rw [nodeOf_untold none' long, nodeOf_untold none' long]

theorem read_outlasts_succ (fuel : Nat) : Outlasts (read g (fuel + 1)) (read g fuel) := by
  induction fuel with
  | zero => exact fun value s ends => absurd rfl (ends s)
  | succ fuel ih =>
      intro value s ends
      cases dict : g.entries? value with
      | none => rw [read_plain dict, read_plain dict]
      | some entries =>
          cases value with
          | atom a => cases dict
          | cell id =>
              rw [read_dict dict] at ends ⊢
              rw [read_dict dict]
              cases known : s.seen.lookup id with
              | some node => rfl
              | none =>
                  rw [known] at ends
                  exact nodeOf_outlasts ih ends

theorem read_outlasts {fuel more : Nat} (le : fuel ≤ more) :
    Outlasts (read g more) (read g fuel) :=
  Steps.outlasts_of_le read_outlasts_succ le

theorem read_agrees {fuel fuel' : Nat} (ends : Ends (read g fuel value s))
    (ends' : Ends (read g fuel' value s)) : read g fuel value s = read g fuel' value s := by
  rcases Nat.le_total fuel fuel' with le | le
  · exact (read_outlasts le _ _ ends).symm
  · exact read_outlasts le _ _ ends'

/-! ## What has no end -/

def Awaits (g : Graph) (seen : List Nat) (value items : Value) : Prop :=
  ∃ cell, value = .cell cell ∧ cell ∉ seen ∧ Views g value (.list items)

theorem Awaits.form {seen : List Nat} {items : Value} (h : Awaits g seen value items) :
    Views g value (.list items) := by
  obtain ⟨_, rfl, _, form⟩ := h
  exact form

theorem endless_of_loop (fuel : Nat)
    (loop : TransGen (Awaits g (s.seen.map Prod.fst)) value value) :
    ∃ s', read g fuel value s = .error .endless s' := by
  induction fuel generalizing value s with
  | zero => exact ⟨s, rfl⟩
  | succ fuel ih =>
      obtain ⟨items, first, back⟩ := TransGen.head'_iff.mp loop
      obtain ⟨s', failed⟩ := ih (s := s.numbered) (TransGen.tail' back first)
      obtain ⟨cell, rfl, new, form⟩ := first
      cases dict : g.entries? (.cell cell) with
      | none => cases (views_of_no_dict dict).mp form
      | some entries =>
          rw [read_dict dict]
          cases known : s.seen.lookup cell with
          | some node => exact absurd (List.mem_map_of_mem (Entries.mem_of_lookup known)) new
          | none =>
              rw [nodeOf_list ((views_iff dict).mp form), failed]
              exact ⟨s', rfl⟩

def Lost (g : Graph) (value : Value) (s : State) : Prop :=
  (∃ inner, Under g value inner ∧ Coils g inner) ∧
    ∀ fuel, ∃ s', read g fuel value s = .error .endless s'

/-- Properties that use up the fuel do so with any fuel, if each of them does. -/
theorem readAll_lost {fuel : Nat} {busy : List Nat} {listed : List (String × Value)}
    (each : ∀ property ∈ listed, ∀ t t', Coherent g busy t -> s.seen ⊆ t.seen ->
      read g fuel property.2 t = .error .endless t' -> Lost g property.2 t)
    (coherent : Coherent g busy s) (h : readAll (read g fuel) listed s = .error .endless s') :
    (∃ property ∈ listed, ∃ inner, Under g property.2 inner ∧ Coils g inner) ∧
      ∀ fuel', ∃ s'', readAll (read g fuel') listed s = .error .endless s'' := by
  induction listed generalizing s with
  | nil => cases h
  | cons property rest ih =>
      rw [readAll_cons] at h
      cases first : read g fuel property.2 s with
      | error cause t =>
          simp only [first, EStateM.Result.error.injEq] at h
          obtain ⟨rfl, _⟩ := h
          obtain ⟨coil, always⟩ :=
            each property List.mem_cons_self s t coherent (List.Subset.refl _) first
          refine ⟨⟨property, List.mem_cons_self, coil⟩, fun fuel' => ?_⟩
          obtain ⟨s'', failed⟩ := always fuel'
          exact ⟨s'', by rw [readAll_cons, failed]⟩
      | ok node t =>
          cases others : readAll (read g fuel) rest t with
          | ok nodes u => simp [first, others] at h
          | error cause u =>
              simp only [first, others, EStateM.Result.error.injEq] at h
              obtain ⟨rfl, rfl⟩ := h
              obtain ⟨coherent', later, _⟩ := read_coherent fuel first coherent
              obtain ⟨⟨property', among, coil⟩, always⟩ :=
                ih (fun property' among t' t'' coherent'' kept =>
                  each property' (List.mem_cons_of_mem _ among) t' t'' coherent''
                    (List.Subset.trans later.seen kept)) coherent' others
              refine ⟨⟨property', List.mem_cons_of_mem _ among, coil⟩, fun fuel' => ?_⟩
              by_cases ends : Ends (read g fuel' property.2 s)
              · have ends' : Ends (read g fuel property.2 s) := fun _ failed => by
                  rw [first] at failed
                  cases failed
                obtain ⟨s'', failed⟩ := always fuel'
                exact ⟨s'', by rw [readAll_cons, read_agrees ends ends', first]; simp only [failed]⟩
              · obtain ⟨s'', failed⟩ := not_forall_not.mp ends
                exact ⟨s'', by rw [readAll_cons, failed]⟩

def room (g : Graph) (s : State) (visited : List Nat) : Nat :=
  unseen (List.range g.size) (s.seen.map Prod.fst) * (g.size + 1) + (g.size - visited.length) + 1

theorem room_of_opened {cell fuel : Nat} {visited : List Nat} (inside : cell < g.size)
    (new : cell ∉ s.seen.map Prod.fst) (kept : (s.opened g cell entries).seen ⊆ s'.seen)
    (enough : room g s visited ≤ fuel + 1) : room g s' [] ≤ fuel := by
  have fewer : unseen (List.range g.size) (s'.seen.map Prod.fst) <
      unseen (List.range g.size) (s.seen.map Prod.fst) := by
    have seen := List.map_subset Prod.fst kept
    exact unseen_lt (List.mem_range.mpr inside) new
      (fun _ old => seen (List.mem_cons_of_mem _ old)) (seen List.mem_cons_self)
  have square := Nat.mul_le_mul_right (g.size + 1) fewer
  rw [Nat.succ_mul] at square
  unfold room at *
  simp only [List.length_nil]
  omega

theorem inside_of_dict {cell : Nat} (dict : g.entries? (.cell cell) = some entries) :
    cell < g.size :=
  (Array.getElem?_eq_some_iff.mp (Graph.cell?_of_entries dict)).choose

theorem room_of_visited {cell fuel : Nat} {visited : List Nat} (distinct : (cell :: visited).Nodup)
    (inside : ∀ other ∈ cell :: visited, other < g.size) (enough : room g s visited ≤ fuel + 1) :
    room g s.numbered (cell :: visited) ≤ fuel := by
  have within : cell :: visited ⊆ List.range g.size := fun other among =>
    List.mem_range.mpr (inside other among)
  have bound := (List.subperm_of_subset distinct within).length_le
  rw [List.length_range, List.length_cons] at bound
  have same : room g s.numbered (cell :: visited) + 1 = room g s visited := by
    simp only [room, State.numbered, List.length_cons]
    omega
  omega

/-- What is lost below a dictionary that is not remembered is lost for it too. -/
theorem Lost.of_below {cell : Nat} (dict : g.entries? (.cell cell) = some entries)
    (new : s.seen.lookup cell = none) {part : Value} (member : part ∈ below g entries)
    (coil : ∃ inner, Under g part inner ∧ Coils g inner)
    (always : ∀ fuel, ∃ s', nodeOf g (read g fuel) cell entries s = .error .endless s') :
    Lost g (.cell cell) s := by
  obtain ⟨inner, under, coils⟩ := coil
  refine ⟨⟨inner, .down dict member under, coils⟩, fun fuel => ?_⟩
  cases fuel with
  | zero => exact ⟨s, rfl⟩
  | succ fuel =>
      rw [read_dict dict, new]
      exact always fuel

/--
With so much fuel it is only used up where something coils: `visited` are the
lists, all different, that are being read and of which nothing is remembered.
-/
def Suffices (g : Graph) (fuel : Nat) : Prop :=
  ∀ {value s s' busy visited}, visited.Nodup -> (∀ cell ∈ visited, cell < g.size) ->
    (∀ cell ∈ visited, TransGen (Awaits g (s.seen.map Prod.fst)) (.cell cell) value) ->
    room g s visited ≤ fuel -> Coherent g busy s -> read g fuel value s = .error .endless s' ->
    Lost g value s

section Nodes

variable {fuel cell : Nat} {busy visited : List Nat}

theorem Suffices.object (suffices' : Suffices g fuel)
    (dict : g.entries? (.cell cell) = some entries) (new : s.seen.lookup cell = none)
    (form : view g entries = .object) (enough : room g s visited ≤ fuel + 1)
    (coherent : Coherent g busy s)
    (h : nodeOf g (read g fuel) cell entries s = .error .endless s') : Lost g (.cell cell) s := by
  rw [nodeOf_object form] at h
  rcases properties_of_object dict form with ⟨listed, found, parts, _⟩ | ⟨bad, _⟩
  · cases others : readAll (read g fuel) listed (s.opened g cell entries) with
    | ok nodes t => simp [found, others] at h
    | error cause t =>
        simp only [found, others, EStateM.Result.error.injEq] at h
        obtain ⟨rfl, _⟩ := h
        have each : ∀ property ∈ listed, ∀ t t', Coherent g (s.shapes.size :: busy) t ->
            (s.opened g cell entries).seen ⊆ t.seen ->
            read g fuel property.2 t = .error .endless t' -> Lost g property.2 t :=
          fun _ _ _ _ coherent' kept => suffices' List.nodup_nil (by simp) (by simp)
            (room_of_opened (inside_of_dict dict) (Entries.not_mem_keys new) kept enough) coherent'
        obtain ⟨⟨property, among, coil⟩, always⟩ :=
          readAll_lost each (coherent.opened dict new form) others
        refine .of_below dict new (parts ▸ List.mem_map_of_mem among) coil fun fuel' => ?_
        obtain ⟨s'', failed⟩ := always fuel'
        exact ⟨s'', by rw [nodeOf_object form, found]; simp only [failed]⟩
  · simp [bad] at h

theorem Suffices.list (suffices' : Suffices g fuel) (distinct : visited.Nodup)
    (inside : ∀ cell ∈ visited, cell < g.size)
    (chain : ∀ other ∈ visited,
      TransGen (Awaits g (s.seen.map Prod.fst)) (.cell other) (.cell cell))
    (dict : g.entries? (.cell cell) = some entries) (new : s.seen.lookup cell = none)
    {items : Value} (form : view g entries = .list items) (enough : room g s visited ≤ fuel + 1)
    (coherent : Coherent g busy s)
    (h : nodeOf g (read g fuel) cell entries s = .error .endless s') : Lost g (.cell cell) s := by
  rw [nodeOf_list form] at h
  cases item : read g fuel items s.numbered with
  | ok node t => simp [item] at h
  | error cause t =>
      simp only [item, EStateM.Result.error.injEq] at h
      obtain ⟨rfl, _⟩ := h
      by_cases looped : cell ∈ visited
      · have loop := chain cell looped
        have lists : ∀ value items, Awaits g (s.seen.map Prod.fst) value items ->
            Views g value (.list items) := fun _ _ awaits => awaits.form
        have coil : Coils g (.cell cell) := TransGen.mono lists _ _ loop
        exact ⟨⟨_, .here, coil⟩, fun fuel' => endless_of_loop fuel' loop⟩
      · have awaits : Awaits g (s.seen.map Prod.fst) (.cell cell) items :=
          ⟨cell, rfl, Entries.not_mem_keys new, (views_iff dict).mpr form⟩
        have distinct' : (cell :: visited).Nodup := List.nodup_cons.mpr ⟨looped, distinct⟩
        have inside' : ∀ other ∈ cell :: visited, other < g.size :=
          List.forall_mem_cons.mpr ⟨inside_of_dict dict, inside⟩
        have chain' : ∀ other ∈ cell :: visited,
            TransGen (Awaits g (s.numbered.seen.map Prod.fst)) (.cell other) items :=
          List.forall_mem_cons.mpr
            ⟨.single awaits, fun other among => (chain other among).tail awaits⟩
        obtain ⟨coil, always⟩ := suffices' distinct' inside' chain'
          (room_of_visited distinct' inside' enough) coherent.numbered item
        refine .of_below dict new (by simp [below_of_list form]) coil fun fuel' => ?_
        obtain ⟨s'', failed⟩ := always fuel'
        exact ⟨s'', by rw [nodeOf_list form, failed]⟩

end Nodes

theorem room_start (g : Graph) : room g {} [] ≤ fuelFor g := by
  have all : unseen (List.range g.size) [] ≤ g.size :=
    Nat.le_trans List.countP_le_length (Nat.le_of_eq List.length_range)
  have square := Nat.mul_le_mul_right (g.size + 1) all
  unfold room fuelFor
  rw [Nat.succ_mul]
  simp only [List.map_nil, List.length_nil]
  omega

theorem suffices_room (fuel : Nat) : Suffices g fuel := by
  induction fuel with
  | zero => exact fun _ _ _ enough => absurd enough (Nat.not_succ_le_zero _)
  | succ fuel ih =>
      intro value s s' busy visited distinct inside chain enough coherent h
      cases dict : g.entries? value with
      | none =>
          rw [read_plain dict] at h
          cases h
      | some entries =>
          cases value with
          | atom a => cases dict
          | cell id =>
              rw [read_dict dict] at h
              cases new : s.seen.lookup id with
              | some node =>
                  rw [new] at h
                  cases h
              | none =>
                  rw [new] at h
                  cases form : view g entries with
                  | object => exact ih.object dict new form enough coherent h
                  | list items =>
                      exact ih.list distinct inside chain dict new form enough coherent h
                  | _ =>
                      have leaf : (view g entries).isLeaf = true := by rw [form]; rfl
                      exact absurd (nodeOf_leaf_error leaf h).1 nofun

end Reading

open Reading

theorem ofValue_read {g : Graph} {value : Value} {fault : Fault}
    (h : ofValue g value = .error fault) :
    ∃ s, read g (fuelFor g) value {} = .error fault s := by
  unfold ofValue EStateM.run at h
  split at h
  · cases h
  · rename_i cause s failed
    exact ⟨s, Except.error.inj h ▸ failed⟩

theorem lost_of_endless {g : Graph} {value : Value} {s : State}
    (failed : read g (fuelFor g) value {} = .error .endless s) : Lost g value {} := by
  have start : Coherent g [] {} := by constructor <;> simp
  exact suffices_room _ List.nodup_nil (by simp) (by simp) (room_start g) start failed

theorem ofValue_blames {g : Graph} {value : Value} {fault : Fault}
    (h : ofValue g value = .error fault) :
    (fault = .endless ∧ ∃ inner, Under g value inner ∧ Coils g inner) ∨
      ∃ inner, Under g value inner ∧ Spoilt g inner fault := by
  obtain ⟨s, failed⟩ := ofValue_read h
  rcases read_error failed with rfl | spoilt
  · exact .inl ⟨rfl, (lost_of_endless failed).1⟩
  · exact .inr spoilt

theorem ofValue_returns_iff {g : Graph} {value : Value} :
    (∃ schema, ofValue g value = .ok schema) ↔
      ∀ inner, Under g value inner ->
        ¬ Malformed g inner ∧ ¬ Untold g inner ∧ ¬ Coils g inner := by
  constructor
  · rintro ⟨schema, h⟩ inner under
    obtain ⟨s, _, coherent, known⟩ := ofValue_known h
    obtain ⟨node, known'⟩ := known.under coherent under
    exact ⟨known'.formed coherent, known'.told coherent, known'.uncoiled coherent⟩
  · intro sane
    cases h : ofValue g value with
    | ok schema => exact ⟨schema, rfl⟩
    | error fault =>
        rcases ofValue_blames h with ⟨_, inner, under, coils⟩ | ⟨inner, under, spoilt⟩
        · exact absurd coils (sane inner under).2.2
        · rcases spoilt with ⟨_, malformed⟩ | ⟨_, untold⟩
          · exact absurd malformed (sane inner under).1
          · exact absurd untold (sane inner under).2.1

/--
Reading a schema ends well unless below the value an object is malformed, a tag
cannot be told or a list coils, and only these are at fault when it does not.
For a list that coils no fuel is enough: where fuel is used up, any fuel would be.
-/
theorem ofValue_ends (g : Graph) (value : Value) :
    ((∃ schema, ofValue g value = .ok schema) ↔
      ∀ inner, Under g value inner ->
        ¬ Malformed g inner ∧ ¬ Untold g inner ∧ ¬ Coils g inner) ∧
    (∀ fault, ofValue g value = .error fault ->
      fault = .noEntries ∧ (∃ inner, Under g value inner ∧ Malformed g inner) ∨
      fault = .badNumeral ∧ (∃ inner, Under g value inner ∧ Untold g inner) ∨
      fault = .endless ∧ ∃ inner, Under g value inner ∧ Coils g inner) ∧
    (ofValue g value = .error .endless ↔
      ∀ fuel, ∃ s, read g fuel value {} = .error .endless s) := by
  refine ⟨ofValue_returns_iff, fun fault h => ?_, fun h => ?_, fun always => ?_⟩
  · rcases ofValue_blames h with coils | ⟨inner, under, ⟨cause, malformed⟩ | ⟨cause, untold⟩⟩
    · exact .inr (.inr coils)
    · exact .inl ⟨cause, inner, under, malformed⟩
    · exact .inr (.inl ⟨cause, inner, under, untold⟩)
  · obtain ⟨s, failed⟩ := ofValue_read h
    exact (lost_of_endless failed).2
  · obtain ⟨s, failed⟩ := always (fuelFor g)
    rw [ofValue, EStateM.run, failed]

def nested : Json :=
  .dict [("definitions", .dict [("A", .dict [("type", .text "array"),
    ("items", .dict [("$ref", .text "#/definitions/A")])])])]

/-- A list of lists of itself is resolved, but no fuel is enough to read it. -/
theorem ofValue_ends_nested :
    ∃ d list, Document.resolve nested = .ok d ∧
      d.graph.at? d.root [.key "definitions", .key "A"] = some list ∧
      ∀ fuel, ∃ s, read d.graph fuel list {} = .error .endless s := by
  let cell : Cell := .dict [("type", .atom (.text "array")), ("items", .cell 0)]
  let g : Graph := ⟨#[cell, cell, .dict [("A", .cell 1)], .dict [("definitions", .cell 2)]]⟩
  have shown : (Steps.failed? (read g (fuelFor g) (.cell 1) {})).any fun found =>
      found.1 = .endless := by
    decide +kernel
  obtain ⟨fault, s, failed, same⟩ := Steps.error_of_failed shown
  obtain rfl : fault = .endless := of_decide_eq_true same
  have endless : ofValue g (.cell 1) = .error .endless := by
    rw [ofValue, EStateM.run, failed]
  exact ⟨⟨g, .cell 3⟩, .cell 1, by rfl, rfl, (ofValue_ends g _).2.2.mp endless⟩

end Schema

end GraphFacade
