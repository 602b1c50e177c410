import GraphFacade.Proofs.Steps
import GraphFacade.Schema.Reading

/-!
# Objects and their numbers

In the table of a schema that was read, the number of an object stands for one
object only: wherever a node has that number it has the same label, and the
table has a shape for it.
-/

namespace GraphFacade

def Node.Fits (labels : List Label) : Node -> Prop
  | .object label index => labels[index]? = some label
  | .list _ items => items.Fits labels
  | _ => True

def Shape.Fits (labels : List Label) (shape : Shape) : Prop :=
  ∀ property ∈ shape.properties, property.2.Fits labels

/-- A schema whose objects are told apart by their numbers, each with the label listed for it. -/
structure Schema.Labelled (schema : Schema) (labels : List Label) : Prop where
  size : labels.length = schema.shapes.size
  root : schema.root.Fits labels
  shapes : ∀ shape ∈ schema.shapes, shape.Fits labels

theorem Node.Fits.mono {node : Node} {labels : List Label} (h : node.Fits labels)
    (more : List Label) : node.Fits (labels ++ more) := by
  induction node with
  | object label index =>
      have there := (List.getElem?_eq_some_iff.mp h).choose
      rw [Fits, List.getElem?_append_left there]
      exact h
  | list label items ih => exact ih h
  | _ => trivial

theorem Shape.Fits.mono {shape : Shape} {labels : List Label} (h : shape.Fits labels)
    (more : List Label) : shape.Fits (labels ++ more) :=
  fun property member => (h property member).mono more

theorem Schema.Labelled.shape {schema : Schema} {labels : List Label}
    (h : schema.Labelled labels) (index : Nat) : (schema.shape index).Fits labels := by
  unfold Schema.shape
  cases found : schema.shapes[index]? with
  | none => exact fun property member => by simp at member
  | some shape => exact h.shapes shape (Array.mem_of_getElem? found)

namespace Schema

namespace Reading

open Steps

/-- What was read so far fits a list of labels, one for each shape. -/
structure Tidy (labels : List Label) (s : State) : Prop where
  size : labels.length = s.shapes.size
  seen : ∀ entry ∈ s.seen, entry.2.Fits labels
  shapes : ∀ shape ∈ s.shapes, shape.Fits labels

variable {g : Graph} {α β : Type} {labels : List Label} {s s' : State}

def Extends (step : Step α) (labels : List Label) (gives : List Label -> α -> Prop) : Prop :=
  ∀ s a s', step s = .ok a s' -> Tidy labels s ->
    ∃ more, Tidy (labels ++ more) s' ∧ gives (labels ++ more) a

theorem extends_pure {gives : List Label -> α -> Prop} {a : α} (given : gives labels a) :
    Extends (pure a) labels gives := by
  intro s b s' h tidy
  obtain ⟨rfl, rfl⟩ := pure_eq_ok.mp h
  exact ⟨[], by simpa using tidy, by simpa using given⟩

theorem Extends.bind {step : Step α} {next : α -> Step β} {gives : List Label -> α -> Prop}
    {gives' : List Label -> β -> Prop} (first : Extends step labels gives)
    (later : ∀ a more, gives (labels ++ more) a -> Extends (next a) (labels ++ more) gives') :
    Extends (step >>= next) labels gives' := by
  intro s b s' h tidy
  obtain ⟨a, t, ended, h⟩ := bind_eq_ok.mp h
  obtain ⟨more, tidy', given⟩ := first s a t ended tidy
  obtain ⟨more', tidy'', given'⟩ := later a more given t b s' h tidy'
  exact ⟨more ++ more', by simpa using tidy'', by simpa using given'⟩

theorem extends_of_same {step : Step α}
    (same : ∀ s a s', step s = .ok a s' -> s'.shapes = s.shapes ∧ s'.seen = s.seen) :
    Extends step labels fun _ _ => True := by
  intro s a s' h tidy
  obtain ⟨shapes, seen⟩ := same s a s' h
  exact ⟨[], by simpa using ⟨by rw [shapes, tidy.size], seen ▸ tidy.seen, shapes ▸ tidy.shapes⟩,
    trivial⟩

theorem extends_remember {cell : Nat} {node : Node} (fits : node.Fits labels) :
    Extends (remember cell node) labels fun labels node => node.Fits labels := by
  intro s a s' h tidy
  cases h
  refine ⟨[], ?_, by simpa using fits⟩
  rw [List.append_nil]
  exact ⟨tidy.size, List.forall_mem_cons.mpr ⟨fits, tidy.seen⟩, tidy.shapes⟩

theorem extends_reserve (label : Label) (required : List String) :
    Extends (reserve ⟨required, []⟩) labels fun labels index => labels[index]? = some label := by
  intro s index s' h tidy
  cases h
  refine ⟨[label], ⟨by simp [tidy.size], ?_, ?_⟩, by simp [tidy.size]⟩
  · exact fun entry member => (tidy.seen entry member).mono _
  · intro shape member
    rcases Array.mem_push.mp member with old | rfl
    · exact (tidy.shapes shape old).mono _
    · exact fun property member => by simp at member

theorem extends_complete {index : Nat} {shape : Shape} (fits : shape.Fits labels) :
    Extends (complete index shape) labels fun _ _ => True := by
  intro s a s' h tidy
  cases h
  refine ⟨[], ?_, trivial⟩
  rw [List.append_nil]
  refine ⟨by simp [tidy.size], tidy.seen, fun other member => ?_⟩
  rcases Array.mem_or_eq_of_mem_setIfInBounds member with old | rfl
  · exact tidy.shapes other old
  · exact fits

/-- Nodes that are read one after another all fit, those of earlier properties too. -/
theorem extends_properties {read : Value -> Step Node}
    (reads : ∀ value labels, Extends (read value) labels fun labels node => node.Fits labels)
    (properties : List (String × Value)) (labels : List Label) :
    Extends (properties.mapM fun property => do
      let node <- read property.2
      return (property.1, node)) labels fun labels nodes =>
        ∀ property ∈ nodes, property.2.Fits labels := by
  induction properties generalizing labels with
  | nil => exact extends_pure (by simp)
  | cons property rest ih =>
      rw [List.mapM_cons]
      have one : Extends (do
          let node <- read property.2
          return (property.1, node)) labels fun labels named => named.2.Fits labels :=
        (reads property.2 labels).bind fun node more fits => extends_pure fits
      refine one.bind fun named more fits => (ih _).bind fun nodes more' others => ?_
      exact extends_pure (List.forall_mem_cons.mpr ⟨fits.mono _, others⟩)

theorem extends_nodeOf {read : Value -> Step Node}
    (reads : ∀ value labels, Extends (read value) labels fun labels node => node.Fits labels)
    (cell : Nat) (entries : List (String × Value)) (labels : List Label) :
    Extends (nodeOf g read cell entries) labels fun labels node => node.Fits labels := by
  have labelled : Extends (label g entries) labels fun _ _ => True :=
    extends_of_same fun s a s' h => by cases h; exact ⟨rfl, rfl⟩
  unfold nodeOf
  refine labelled.bind fun label more _ => ?_
  dsimp only
  split
  · exact extends_remember trivial
  · split
    · refine (extends_reserve label _).bind fun index more listed => ?_
      have fits : (Node.object label index).Fits _ := listed
      refine (extends_remember fits).bind fun node more fits => ?_
      split
      · intro s a s' h
        cases h
      · refine (extends_properties reads _ _).bind fun nodes more others => ?_
        have fits' : (Shape.mk (required g entries) nodes).Fits _ := others
        refine (extends_complete fits').bind fun _ more _ => ?_
        exact extends_pure ((fits.mono _).mono _)
    · split
      · split
        · exact (reads _ _).bind fun items more fits => extends_remember fits
        · exact extends_remember trivial
      · split
        · exact extends_remember trivial
        · have unchanged : Extends (MonadExcept.ofExcept (g.shownInside (tag g entries)) : Step String)
              (labels ++ more) fun _ _ => True :=
            extends_of_same fun s a s' h => by rw [(ofExcept_eq_ok.mp h).2]; exact ⟨rfl, rfl⟩
          exact unchanged.bind fun shown more _ => extends_remember trivial

theorem extends_read (fuel : Nat) (value : Value) (labels : List Label) :
    Extends (read g fuel value) labels fun labels node => node.Fits labels := by
  induction fuel generalizing value labels with
  | zero =>
      intro s a s' h
      cases h
  | succ fuel ih =>
      have plain : Extends (do
          let id <- freshId
          return Node.any ⟨id, none, .text ""⟩ "not-a-mapping") labels fun labels node =>
            node.Fits labels :=
        (extends_of_same fun s a s' h => by cases h; exact ⟨rfl, rfl⟩).bind fun id more _ =>
          extends_pure trivial
      cases value with
      | atom a => exact plain
      | cell id =>
          cases found : g.entries? (.cell id) with
          | none =>
              simp only [read, found]
              exact plain
          | some entries =>
              simp only [read, found]
              intro s node s' h tidy
              simp only [bind_eq_ok, get_apply] at h
              obtain ⟨s₁, _, same, h⟩ := h
              cases same
              cases known : s.seen.lookup id with
              | some node' =>
                  simp only [known, pure_eq_ok] at h
                  obtain ⟨rfl, rfl⟩ := h
                  obtain ⟨_, _, split, _⟩ := List.lookup_eq_some_iff.mp known
                  refine ⟨[], by simpa using tidy, ?_⟩
                  rw [List.append_nil]
                  exact tidy.seen (id, _) (by rw [split]; simp)
              | none =>
                  simp only [known] at h
                  exact extends_nodeOf ih id entries labels s node s' h tidy

end Reading

theorem ofValue_labelled {g : Graph} {value : Value} {schema : Schema}
    (h : ofValue g value = .ok schema) : ∃ labels, schema.Labelled labels := by
  unfold ofValue at h
  split at h
  · rename_i root s ended
    rw [← Except.ok.inj h]
    have start : Reading.Tidy [] {} := ⟨rfl, by simp, by simp⟩
    obtain ⟨labels, tidy, fits⟩ := Reading.extends_read _ _ [] {} root s ended start
    exact ⟨_, tidy.size, fits, tidy.shapes⟩
  · simp at h

end Schema

end GraphFacade
