import GraphFacade.Proofs.Document.Tour
import GraphFacade.Proofs.Schema.Ending

/-!
# Reading schemas of trees

A value that was written out as a tree is read from the top down: every part
has a smaller number than what it is part of.  So no list leads back to itself,
and reading fails only where it would in any value that ends.
-/

namespace GraphFacade

/-! ## Graphs of trees -/

def Cell.values : Cell -> List Value
  | .list items => items
  | .dict entries => entries.map Prod.snd

def Value.rank : Value -> Nat
  | .atom _ => 0
  | .cell id => id + 1

namespace Graph

def Descending (g : Graph) : Prop :=
  ∀ (id : Nat) (cell : Cell), g.cells[id]? = some cell -> ∀ value ∈ cell.values, value.rank ≤ id

theorem Descending.push {g : Graph} (h : g.Descending) {cell : Cell}
    (values : ∀ value ∈ cell.values, value.rank ≤ g.size) : (g.push cell).1.Descending := by
  intro id other found
  simp only [Graph.push, Array.getElem?_push] at found
  split at found
  · rename_i last
    rw [last, ← Option.some.inj found]
    exact values
  · exact h id other found

/-- What adding a value to a graph leaves: the graph has only grown, and the value is in it. -/
structure Added (g g' : Graph) (values : List Value) : Prop where
  descending : g'.Descending
  grown : g.size ≤ g'.size
  there : ∀ value ∈ values, value.rank ≤ g'.size

theorem Added.cell {g g' : Graph} {cell : Cell} (h : Added g g' cell.values) :
    Added g (g'.push cell).1 [(g'.push cell).2] := by
  have size : (g'.push cell).1.size = g'.size + 1 := by simp [Graph.push, Graph.size]
  refine ⟨h.descending.push h.there, by have := h.grown; omega, ?_⟩
  simp [Graph.push, Value.rank, Graph.size]

theorem Added.cons {g g₁ g₂ : Graph} {value : Value} {values : List Value}
    (first : Added g g₁ [value]) (others : Added g₁ g₂ values) : Added g g₂ (value :: values) :=
  ⟨others.descending, Nat.le_trans first.grown others.grown,
    List.forall_mem_cons.mpr ⟨Nat.le_trans (first.there _ (by simp)) others.grown, others.there⟩⟩

def Adds (j : Json) : Prop :=
  ∀ g : Graph, g.Descending -> Added g (g.ofJson j).1 [(g.ofJson j).2]

theorem ofItems_added {items : List Json} (each : ∀ item ∈ items, Adds item) {g : Graph}
    (h : g.Descending) : Added g (g.ofItems items).1 (g.ofItems items).2 := by
  induction items generalizing g with
  | nil => exact ⟨h, Nat.le_refl _, by simp [Graph.ofItems]⟩
  | cons item rest ih =>
      obtain ⟨here, later⟩ := List.forall_mem_cons.mp each
      have first := here g h
      exact first.cons (ih later first.descending)

theorem ofEntries_added {entries : List (String × Json)} (each : ∀ entry ∈ entries, Adds entry.2)
    {g : Graph} (h : g.Descending) :
    Added g (g.ofEntries entries).1 ((g.ofEntries entries).2.map Prod.snd) := by
  induction entries generalizing g with
  | nil => exact ⟨h, Nat.le_refl _, by simp [Graph.ofEntries]⟩
  | cons entry rest ih =>
      obtain ⟨here, later⟩ := List.forall_mem_cons.mp each
      have first := here g h
      exact first.cons (ih later first.descending)

theorem ofJson_added (j : Json) : Adds j := by
  induction j using Json.byParts with
  | atom a => exact fun g h => ⟨h, Nat.le_refl _, by simp [Graph.ofJson, Value.rank]⟩
  | list items each => exact fun g h => Added.cell (ofItems_added each h)
  | dict entries each =>
      intro g h
      have values : Added g (g.ofEntries entries).1 (Cell.dict (g.ofEntries entries).2).values :=
        ofEntries_added each h
      exact values.cell

end Graph

theorem Document.ofJson_added (j : Json) :
    Graph.Added {} (Document.ofJson j).graph [(Document.ofJson j).root] :=
  Graph.ofJson_added j {} fun id cell found => by simp at found

namespace Schema

namespace Reading

variable {g : Graph}

theorem rank_of_below (descending : g.Descending) {cell : Nat} {entries : List (String × Value)}
    (dict : g.entries? (.cell cell) = some entries) {part : Value} (member : part ∈ below g entries) :
    part.rank ≤ cell := by
  have values : ∀ {id : Nat} {listed : List (String × Value)}, g.entries? (.cell id) = some listed ->
      ∀ value ∈ listed.map Prod.snd, value.rank ≤ id := by
    intro id listed found value among
    unfold Graph.entries? Graph.cell? at found
    split at found
    · rename_i listed' there
      rw [Option.some.injEq] at found
      exact descending id _ there value (found ▸ among)
    · simp at found
  have entry_rank : ∀ key, (entry entries key).rank ≤ cell := by
    intro key
    unfold entry
    cases found : entries.lookup key with
    | none => exact Nat.zero_le _
    | some value =>
        exact values dict value (List.mem_map_of_mem (f := Prod.snd) (Entries.mem_of_lookup found))
  unfold below at member
  split at member
  · simp at member
  · split at member
    · have owner := entry_rank "properties"
      cases place : entry entries "properties" with
      | atom a =>
          rw [place] at member
          simp [Graph.entries?, Graph.cell?] at member
      | cell id =>
          rw [place] at member owner
          cases found : g.entries? (.cell id) with
          | none => simp [found] at member
          | some listed =>
              rw [found, Option.getD_some] at member
              exact Nat.le_trans (values found part member)
                (Nat.le_trans (Nat.le_succ id) owner)
    · split at member
      · split at member
        · rw [List.mem_singleton.mp member]
          exact entry_rank "items"
        · simp at member
      · simp at member

theorem rank_of_views (descending : g.Descending) {value items : Value}
    (form : Views g value (.list items)) : items.rank < value.rank := by
  cases dict : g.entries? value with
  | none => cases (views_of_no_dict dict).mp form
  | some entries =>
      cases value with
      | atom a => cases dict
      | cell id =>
          have member : items ∈ below g entries := by
            rw [below_of_list ((views_iff dict).mp form)]
            exact List.mem_singleton.mpr rfl
          exact Nat.lt_succ_of_le (rank_of_below descending dict member)

theorem not_coils (descending : g.Descending) (value : Value) : ¬ Coils g value := by
  intro coil
  have shrinks : ∀ {value inner},
      Relation.TransGen (fun list items => Views g list (.list items)) value inner ->
        inner.rank < value.rank := by
    intro value inner chain
    induction chain with
    | single form => exact rank_of_views descending form
    | tail _ form ih => exact Nat.lt_trans (rank_of_views descending form) ih
  exact Nat.lt_irrefl _ (shrinks coil)

end Reading

open Reading

/--
A value that is written out as a tree has a schema, unless an object is inside it
whose properties are something else, or a tag that is no text and cannot be told.
-/
theorem ofValue_ofJson (j : Json) :
    ((∃ schema, ofValue (Document.ofJson j).graph (Document.ofJson j).root = .ok schema) ↔
      ∀ inner, Under (Document.ofJson j).graph (Document.ofJson j).root inner ->
        ¬ Malformed (Document.ofJson j).graph inner ∧ ¬ Untold (Document.ofJson j).graph inner) ∧
    ∀ fault, ofValue (Document.ofJson j).graph (Document.ofJson j).root = .error fault ->
      ∃ inner, Under (Document.ofJson j).graph (Document.ofJson j).root inner ∧
        (fault = .noEntries ∧ Malformed (Document.ofJson j).graph inner ∨
          fault = .badNumeral ∧ Untold (Document.ofJson j).graph inner) := by
  have descending := (Document.ofJson_added j).descending
  generalize Document.ofJson j = d at descending
  have flat := not_coils descending
  refine ⟨?_, fun fault failed => ?_⟩
  · rw [ofValue_returns_iff]
    exact ⟨fun sane inner under => ⟨(sane inner under).1, (sane inner under).2.1⟩,
      fun sane inner under => ⟨(sane inner under).1, (sane inner under).2, flat inner⟩⟩
  · rcases ofValue_blames failed with ⟨rfl, inner, _, coils⟩ | ⟨inner, under, spoilt⟩
    · exact absurd coils (flat inner)
    · exact ⟨inner, under, spoilt⟩

end Schema

end GraphFacade
