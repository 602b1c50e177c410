import GraphFacade.Proofs.Document.Expansion
import Mathlib.Logic.Relation

/-!
# Tours through the references of a document

Which references a document uses, which of them lead to which, and in which
order a depth-first tour from the root of the document leaves them again.  A
tour enters every reference once, whatever it names, and never fails.
-/

namespace GraphFacade

namespace Json

/-- A value occurs in itself and in whatever it is a part of. -/
inductive Occurs : Json -> Json -> Prop
  | here (value : Json) : Occurs value value
  | item {items : List Json} {item value : Json} (member : item ∈ items)
      (below : Occurs item value) : Occurs (.list items) value
  | entry {entries : List (String × Json)} {entry : String × Json} {value : Json}
      (member : entry ∈ entries) (below : Occurs entry.2 value) : Occurs (.dict entries) value

/-- Every value is an atom, or made of parts of which the same may be assumed. -/
@[elab_as_elim]
theorem byParts {motive : Json -> Prop} (atom : ∀ a, motive (.atom a))
    (list : ∀ items, (∀ item ∈ items, motive item) -> motive (.list items))
    (dict : ∀ entries, (∀ entry ∈ entries, motive entry.2) -> motive (.dict entries))
    (value : Json) : motive value :=
  match value with
  | .atom a => atom a
  | .list items => list items fun item _ => byParts atom list dict item
  | .dict entries => dict entries fun entry _ => byParts atom list dict entry.2
termination_by sizeOf value
decreasing_by
  · have smaller := List.sizeOf_lt_of_mem ‹item ∈ items›
    simp only [Json.list.sizeOf_spec]
    omega
  · have smaller := List.sizeOf_lt_of_mem ‹entry ∈ entries›
    rcases entry with ⟨key, part⟩
    simp only [Prod.mk.sizeOf_spec, Json.dict.sizeOf_spec] at *
    omega

theorem Occurs.trans {first second third : Json} (h : Occurs first second)
    (h' : Occurs second third) : Occurs first third := by
  induction h with
  | here => exact h'
  | item member _ ih => exact .item member (ih h')
  | entry member _ ih => exact .entry member (ih h')

theorem size_le_sizeOfItems {items : List Json} {item : Json} (member : item ∈ items) :
    item.size ≤ sizeOfItems items := by
  induction items with
  | nil => simp at member
  | cons first rest ih =>
      rcases List.mem_cons.mp member with rfl | later
      · simp [sizeOfItems]
      · have bound := ih later
        simp only [sizeOfItems]
        omega

theorem size_le_sizeOfEntries {entries : List (String × Json)} {entry : String × Json}
    (member : entry ∈ entries) : entry.2.size ≤ sizeOfEntries entries := by
  induction entries with
  | nil => simp at member
  | cons first rest ih =>
      rcases List.mem_cons.mp member with rfl | later
      · simp [sizeOfEntries]
      · have bound := ih later
        simp only [sizeOfEntries]
        omega

theorem Occurs.size_le {value part : Json} (h : Occurs value part) : part.size ≤ value.size := by
  induction h with
  | here => exact Nat.le_refl _
  | item member _ ih =>
      have bound := size_le_sizeOfItems member
      simp only [size]
      omega
  | entry member _ ih =>
      have bound := size_le_sizeOfEntries member
      simp only [size]
      omega

end Json

namespace Pointer

open Json

theorem occurs_of_step {value part : Json} {token : List Char}
    (h : step? value token = some part) : Occurs value part := by
  cases value with
  | atom => simp [step?] at h
  | list items =>
      simp only [step?, Option.bind_eq_bind, Option.bind_eq_some_iff] at h
      obtain ⟨_, _, index, _, found⟩ := h
      exact .item (List.mem_of_getElem? found) (.here part)
  | dict entries =>
      obtain ⟨before, after, rfl, _⟩ := List.lookup_eq_some_iff.mp h
      have member : (String.ofList token, part) ∈ before ++ (String.ofList token, part) :: after :=
        by simp
      exact .entry member (.here part)

theorem occurs_of_follow {value last : Json} {tokens : List (List Char)}
    (h : follow? value tokens = some last) : Occurs value last := by
  induction tokens generalizing value with
  | nil =>
      simp only [follow?, Option.some.injEq] at h
      exact h ▸ .here value
  | cons token rest ih =>
      simp only [follow?] at h
      split at h
      · exact (occurs_of_step ‹_›).trans (ih h)
      · simp at h

theorem occurs_of_get {document target : Json} {pointer : List Char}
    (h : Pointer.get document pointer = .ok target) : Occurs document target := by
  unfold Pointer.get at h
  split at h
  · simp only [Except.ok.injEq] at h
    exact h ▸ .here document
  · split at h
    · simp at h
    · split at h
      · simp only [Except.ok.injEq] at h
        subst h
        exact occurs_of_follow ‹_›
      · simp at h

end Pointer

namespace Resolution

open Json

mutual

/-- All references in a value, at any depth. -/
def references : Json -> List String
  | .atom _ => []
  | .list items => referencesOfItems items
  | .dict entries => (reference? entries).toList ++ referencesOfEntries entries

def referencesOfItems : List Json -> List String
  | [] => []
  | item :: rest => references item ++ referencesOfItems rest

def referencesOfEntries : List (String × Json) -> List String
  | [] => []
  | (_, value) :: rest => references value ++ referencesOfEntries rest

end

mutual

/-- The references that a walk through a value meets, in order, but none that stand beside one. -/
def uses : Json -> List String
  | .atom _ => []
  | .list items => usesOfItems items
  | .dict entries =>
      match reference? entries with
      | some reference => [reference]
      | none => usesOfEntries entries

def usesOfItems : List Json -> List String
  | [] => []
  | item :: rest => uses item ++ usesOfItems rest

def usesOfEntries : List (String × Json) -> List String
  | [] => []
  | (_, value) :: rest => uses value ++ usesOfEntries rest

end

theorem referencesOfItems_eq (items : List Json) :
    referencesOfItems items = items.flatMap references := by
  induction items with
  | nil => rfl
  | cons item rest ih => simp [referencesOfItems, ih]

theorem referencesOfEntries_eq (entries : List (String × Json)) :
    referencesOfEntries entries = (entries.map Prod.snd).flatMap references := by
  induction entries with
  | nil => rfl
  | cons entry rest ih => simp [referencesOfEntries, ih]

theorem usesOfItems_eq (items : List Json) : usesOfItems items = items.flatMap uses := by
  induction items with
  | nil => rfl
  | cons item rest ih => simp [usesOfItems, ih]

theorem usesOfEntries_eq (entries : List (String × Json)) :
    usesOfEntries entries = (entries.map Prod.snd).flatMap uses := by
  induction entries with
  | nil => rfl
  | cons entry rest ih => simp [usesOfEntries, ih]

theorem mem_references_dict {entries : List (String × Json)} {reference : String} :
    reference ∈ references (.dict entries) ↔
      referenceOf? (.dict entries) = some reference ∨
        ∃ entry ∈ entries, reference ∈ references entry.2 := by
  simp only [references, referencesOfEntries_eq, List.mem_append, Option.mem_toList,
    List.mem_flatMap, List.mem_map, referenceOf?]
  constructor
  · rintro (refers | ⟨_, ⟨entry, member, rfl⟩, below⟩)
    · exact .inl refers
    · exact .inr ⟨entry, member, below⟩
  · rintro (refers | ⟨entry, member, below⟩)
    · exact .inl refers
    · exact .inr ⟨entry.2, ⟨entry, member, rfl⟩, below⟩

theorem mem_references_list {items : List Json} {reference : String} :
    reference ∈ references (.list items) ↔ ∃ item ∈ items, reference ∈ references item := by
  simp [references, referencesOfItems_eq]

theorem mem_references_iff {value : Json} {reference : String} :
    reference ∈ references value ↔
      ∃ part, Occurs value part ∧ referenceOf? part = some reference := by
  constructor
  · intro h
    induction value using Json.byParts with
    | atom a => simp [references] at h
    | list items ih =>
        obtain ⟨item, member, h⟩ := mem_references_list.mp h
        obtain ⟨part, occurs, refers⟩ := ih item member h
        exact ⟨part, .item member occurs, refers⟩
    | dict entries ih =>
        rcases mem_references_dict.mp h with refers | ⟨entry, member, h⟩
        · exact ⟨_, .here _, refers⟩
        · obtain ⟨part, occurs, refers⟩ := ih entry member h
          exact ⟨part, .entry member occurs, refers⟩
  · rintro ⟨part, occurs, refers⟩
    induction occurs with
    | here value =>
        cases value with
        | dict entries => exact mem_references_dict.mpr (.inl refers)
        | _ => simp [referenceOf?] at refers
    | item member _ ih => exact mem_references_list.mpr ⟨_, member, ih refers⟩
    | entry member _ ih => exact mem_references_dict.mpr (.inr ⟨_, member, ih refers⟩)

mutual

/-- There are no more references in a value than values. -/
theorem length_references_le : (value : Json) -> (references value).length ≤ value.size
  | .atom _ => by simp [references]
  | .list items => by
      have bound := length_referencesOfItems_le items
      simp only [references, size]
      omega
  | .dict entries => by
      have bound := length_referencesOfEntries_le entries
      have one : (reference? entries).toList.length ≤ 1 := by
        cases reference? entries <;> simp
      simp only [references, size, List.length_append]
      omega

theorem length_referencesOfItems_le :
    (items : List Json) -> (referencesOfItems items).length ≤ sizeOfItems items
  | [] => by simp [referencesOfItems]
  | item :: rest => by
      have first := length_references_le item
      have others := length_referencesOfItems_le rest
      simp only [referencesOfItems, sizeOfItems, List.length_append]
      omega

theorem length_referencesOfEntries_le :
    (entries : List (String × Json)) -> (referencesOfEntries entries).length ≤ sizeOfEntries entries
  | [] => by simp [referencesOfEntries]
  | (_, value) :: rest => by
      have first := length_references_le value
      have others := length_referencesOfEntries_le rest
      simp only [referencesOfEntries, sizeOfEntries, List.length_append]
      omega

end

def usedBy (document : Json) (reference : String) : List String :=
  ((named? document reference).map uses).getD []

def Leads (document : Json) : String -> String -> Prop :=
  Relation.TransGen fun reference next => next ∈ usedBy document reference

def IsAlias (document : Json) (reference : String) : Prop :=
  ∃ target, named? document reference = some target ∧ (referenceOf? target).isSome

/-- Every reference in a document stands for a dictionary. -/
def Grounded (document : Json) : Prop :=
  ∀ value, Occurs document value -> (referenceOf? value).isSome ->
    ∃ entries, Stands document value (.dict entries)

end Resolution

/-- References entered so far, and those left again, in the order of leaving. -/
structure Tour where
  entered : List String := []
  finished : List String := []
  deriving Repr

namespace Tour

/-- Enter a reference, then those that it leads to, and leave it; `fuel` bounds the depth. -/
def enter (next : String -> List String) : Nat -> Tour -> String -> Tour
  | 0, tour, _ => tour
  | fuel + 1, tour, reference =>
      if tour.entered.contains reference then
        tour
      else
        let inner := (next reference).foldl (enter next fuel)
          { tour with entered := reference :: tour.entered }
        { inner with finished := inner.finished ++ [reference] }

def Grows (tour later : Tour) : Prop :=
  tour.entered ⊆ later.entered ∧
    ∃ new, later.finished = tour.finished ++ new ∧ ∀ reference ∈ new, reference ∉ tour.entered

theorem Grows.refl (tour : Tour) : tour.Grows tour :=
  ⟨List.Subset.refl _, [], by simp, by simp⟩

theorem Grows.trans {first second third : Tour} (h : first.Grows second)
    (h' : second.Grows third) : first.Grows third := by
  obtain ⟨entered, new, finished, fresh⟩ := h
  obtain ⟨entered', new', finished', fresh'⟩ := h'
  refine ⟨List.Subset.trans entered entered', new ++ new', by simp [finished', finished], ?_⟩
  intro reference member
  rcases List.mem_append.mp member with old | late
  · exact fresh reference old
  · exact fun before => fresh' reference late (entered before)

theorem Grows.foldl {step : Tour -> String -> Tour}
    (grows : ∀ (tour : Tour) reference, tour.Grows (step tour reference)) (references : List String)
    (tour : Tour) : tour.Grows (references.foldl step tour) := by
  induction references generalizing tour with
  | nil => exact Grows.refl tour
  | cons reference rest ih => exact (grows tour reference).trans (ih _)

theorem enter_of_mem {next : String -> List String} {tour : Tour} {reference : String}
    (known : reference ∈ tour.entered) (fuel : Nat) : enter next fuel tour reference = tour := by
  cases fuel <;> simp [enter, known]

theorem enter_of_not_mem {next : String -> List String} {tour : Tour} {reference : String}
    (new : reference ∉ tour.entered) (fuel : Nat) :
    enter next (fuel + 1) tour reference =
      let inner := (next reference).foldl (enter next fuel)
        { tour with entered := reference :: tour.entered }
      { inner with finished := inner.finished ++ [reference] } := by
  simp [enter, new]

theorem grows_enter (next : String -> List String) (fuel : Nat) (tour : Tour)
    (reference : String) : tour.Grows (enter next fuel tour reference) := by
  induction fuel generalizing tour reference with
  | zero => exact Grows.refl tour
  | succ fuel ih =>
      by_cases known : reference ∈ tour.entered
      · rw [enter_of_mem known]
        exact Grows.refl tour
      · rw [enter_of_not_mem known]
        obtain ⟨entered, new, finished, fresh⟩ := Grows.foldl ih (next reference)
          { tour with entered := reference :: tour.entered }
        refine ⟨fun other there => entered (List.mem_cons_of_mem _ there), new ++ [reference],
          by simp [finished], ?_⟩
        intro other member
        rcases List.mem_append.mp member with inside | last
        · exact fun there => fresh other inside (List.mem_cons_of_mem _ there)
        · rw [List.mem_singleton.mp last]
          exact known

end Tour

namespace Resolution

/-- The references of a document in the order in which a depth-first tour leaves them. -/
def leavingOrder (document : Json) : List String :=
  ((uses document).foldl (Tour.enter (usedBy document) ((references document).length + 1))
    {}).finished

/-- In an order of references, the aliases that a reference uses come before it. -/
def AliasesFirst (document : Json) (order : List String) : Prop :=
  ∀ before reference after, order = before ++ reference :: after ->
    ∀ used ∈ usedBy document reference, IsAlias document used -> used ∈ before

end Resolution

end GraphFacade
