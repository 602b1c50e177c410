import GraphFacade.Proofs.Entries
import GraphFacade.Proofs.Steps
import GraphFacade.Schema.Reading

/-!
# What a schema says at first sight

Which form a dictionary gives its node: that of an enumeration if it lists
literals, else the one that its tag names or its keywords suggest.  Everything
that is read goes by these views, so the reader is opened here once: what it does
with each of them, and in which state it leaves what it has remembered.
-/

namespace GraphFacade

def Atom.isLiteral : Atom -> Bool
  | text _ | int _ | float _ => true
  | null | bool _ => false

namespace Schema

/-- The forms of what is read. -/
inductive View
  | enum (literals : List Json)
  | object
  | list (items : Value)
  | openList
  | scalar (kind : ScalarKind)
  | any
  deriving DecidableEq, Repr

def View.isLeaf : View -> Bool
  | object | list _ => false
  | enum _ | openList | scalar _ | any => true

def Enumerates (g : Graph) (value : Value) (literals : List Json) : Prop :=
  ∃ listed atoms, g.items? (g.getD value "enum") = some listed ∧
    listed.filter (· != .atom .null) = atoms.map Value.atom ∧ atoms ≠ [] ∧
    (∀ a ∈ atoms, a.isLiteral = true) ∧ literals = atoms.map Json.atom

/-- The tag of a value: the given one, or the form that its keywords suggest without one. -/
inductive Tagged (g : Graph) (value : Value) : String -> Prop
  | given {s : String} (type : g.getD value "type" = .atom (.text s)) : Tagged g value s
  | only {tags : List Value} {s : String} (types : g.items? (g.getD value "type") = some tags)
      (one : tags.filter (· != .atom (.text "null")) = [.atom (.text s)]) : Tagged g value s
  | properties (untyped : g.getD value "type" = .atom .null)
      (has : (g.get? value "properties").isSome) : Tagged g value "object"
  | items (untyped : g.getD value "type" = .atom .null)
      (plain : g.get? value "properties" = none) (has : (g.get? value "items").isSome) :
      Tagged g value "array"

/-- How a value is to be read. -/
inductive Views (g : Graph) (value : Value) : View -> Prop
  | enum {literals : List Json} (listed : Enumerates g value literals) :
      Views g value (.enum literals)
  | object (plain : ¬ ∃ literals, Enumerates g value literals) (tagged : Tagged g value "object") :
      Views g value .object
  | list (plain : ¬ ∃ literals, Enumerates g value literals) (tagged : Tagged g value "array")
      (dict : g.isDict (g.getD value "items") = true) :
      Views g value (.list (g.getD value "items"))
  | openList (plain : ¬ ∃ literals, Enumerates g value literals) (tagged : Tagged g value "array")
      (noDict : g.isDict (g.getD value "items") = false) : Views g value .openList
  | scalar {kind : ScalarKind} (plain : ¬ ∃ literals, Enumerates g value literals)
      (tagged : Tagged g value kind.tag) : Views g value (.scalar kind)
  | any (plain : ¬ ∃ literals, Enumerates g value literals)
      (other : ∀ tag, Tagged g value tag ->
        tag ≠ "object" ∧ tag ≠ "array" ∧ ∀ kind : ScalarKind, tag ≠ kind.tag) :
      Views g value .any

/-- The properties that a value lists; one that counts as false stands for none. -/
inductive Lists (g : Graph) (value : Value) : List (String × Value) -> Prop
  | entries {listed : List (String × Value)}
      (found : g.entries? (g.getD value "properties") = some listed) : Lists g value listed
  | nothing (noDict : g.entries? (g.getD value "properties") = none)
      (absent : g.truthy (g.getD value "properties") = false) : Lists g value []

def Requires (g : Graph) (value : Value) (name : String) : Prop :=
  ∃ listed, g.items? (g.getD value "required") = some listed ∧ .atom (.text name) ∈ listed

namespace Reading

variable {g : Graph} {value : Value} {entries : List (String × Value)}

/-! ## Tags and literals -/

theorem getD_eq_entry (dict : g.entries? value = some entries) (key : String) :
    g.getD value key = entry entries key := by
  simp [Graph.getD, Graph.get?, dict, entry]

theorem get?_eq_lookup (dict : g.entries? value = some entries) (key : String) :
    g.get? value key = entries.lookup key := by
  simp [Graph.get?, dict]

theorem literal?_eq_some {item : Value} {literal : Json} :
    literal? item = some literal ↔
      ∃ a : Atom, item = .atom a ∧ a.isLiteral = true ∧ literal = .atom a := by
  constructor
  · intro h
    unfold literal? at h
    split at h
    all_goals first | (cases h; exact ⟨_, rfl, rfl, rfl⟩) | cases h
  · rintro ⟨a, rfl, isLiteral, rfl⟩
    cases a <;> first | rfl | cases isLiteral

theorem mapM_literal? {items : List Value} {literals : List Json} :
    items.mapM literal? = some literals ↔ ∃ atoms : List Atom, items = atoms.map Value.atom ∧
      (∀ a ∈ atoms, a.isLiteral = true) ∧ literals = atoms.map Json.atom := by
  induction items generalizing literals with
  | nil =>
      rw [List.mapM_nil]
      constructor
      · intro h
        exact ⟨[], rfl, by simp, (Option.some.inj h).symm⟩
      · rintro ⟨atoms, same, _, rfl⟩
        rw [List.map_eq_nil_iff.mp same.symm]
        rfl
  | cons item rest ih =>
      rw [List.mapM_cons]
      constructor
      · intro h
        obtain ⟨literal, first, h⟩ := Option.bind_eq_some_iff.mp h
        obtain ⟨others, later, h⟩ := Option.bind_eq_some_iff.mp h
        obtain ⟨a, rfl, isLiteral, rfl⟩ := literal?_eq_some.mp first
        obtain ⟨atoms, rfl, each, rfl⟩ := ih.mp later
        exact ⟨a :: atoms, rfl, List.forall_mem_cons.mpr ⟨isLiteral, each⟩,
          (Option.some.inj h).symm⟩
      · rintro ⟨atoms, same, each, rfl⟩
        obtain ⟨a, atoms, rfl, rfl, rfl⟩ := List.map_eq_cons_iff.mp same.symm
        obtain ⟨isLiteral, each⟩ := List.forall_mem_cons.mp each
        rw [literal?_eq_some.mpr ⟨a, rfl, isLiteral, rfl⟩, ih.mpr ⟨atoms, rfl, each, rfl⟩]
        rfl

theorem literals?_eq_some (dict : g.entries? value = some entries) {literals : List Json} :
    literals? g entries = some literals ↔ Enumerates g value literals := by
  unfold literals? Enumerates
  rw [getD_eq_entry dict]
  constructor
  · intro h
    obtain ⟨listed, items, h⟩ := Option.bind_eq_some_iff.mp h
    obtain ⟨found, each, h⟩ := Option.bind_eq_some_iff.mp h
    split at h
    · cases h
    · rename_i some'
      rw [Option.some.injEq] at h
      subst h
      obtain ⟨atoms, same, literal, rfl⟩ := mapM_literal?.mp each
      exact ⟨listed, atoms, items, same, by rintro rfl; simp at some', literal, rfl⟩
  · rintro ⟨listed, atoms, items, same, some', literal, rfl⟩
    refine Option.bind_eq_some_iff.mpr ⟨listed, items, ?_⟩
    refine Option.bind_eq_some_iff.mpr ⟨_, mapM_literal?.mpr ⟨atoms, same, literal, rfl⟩, ?_⟩
    rw [if_neg (by simpa using some')]

theorem literals?_eq_none (dict : g.entries? value = some entries) :
    literals? g entries = none ↔ ¬ ∃ literals, Enumerates g value literals := by
  simp [← literals?_eq_some dict, Option.eq_none_iff_forall_ne_some]

theorem tag_eq_text (dict : g.entries? value = some entries) {s : String} :
    tag g entries = .atom (.text s) ↔ Tagged g value s := by
  have type : g.getD value "type" = entry entries "type" := getD_eq_entry dict "type"
  have has : ∀ key, Entries.has key entries = (g.get? value key).isSome := fun key => by
    rw [get?_eq_lookup dict, Entries.has_eq_isSome]
  unfold tag
  dsimp only
  rw [← type, has, has]
  constructor
  · intro h
    split at h
    · rename_i tags types
      split at h
      · rename_i one
        exact .only types (h ▸ one)
      · cases h
    · split at h
      · rename_i suggested
        obtain ⟨untyped, has⟩ := (Bool.and_eq_true _ _).mp suggested
        cases h
        exact .properties (eq_of_beq untyped) has
      · rename_i noProperties
        split at h
        · rename_i suggested
          obtain ⟨untyped, has⟩ := (Bool.and_eq_true _ _).mp suggested
          cases h
          have plain : g.get? value "properties" = none := by
            simpa [untyped] using noProperties
          exact .items (eq_of_beq untyped) plain has
        · exact .given h
  · intro h
    cases h with
    | given type => rw [type]; rfl
    | only types one =>
        rw [types]
        dsimp only
        rw [one]
    | properties untyped has =>
        rw [untyped, has]
        rfl
    | items untyped plain has =>
        rw [untyped, plain, has]
        rfl

theorem ofTag?_eq_some {s : String} {kind : ScalarKind} :
    ScalarKind.ofTag? s = some kind ↔ s = kind.tag := by
  constructor
  · intro h
    have same := List.find?_some h
    exact (eq_of_beq same).symm
  · rintro rfl
    cases kind <;> decide

/-! ## Properties -/

theorem properties_eq_ok (dict : g.entries? value = some entries)
    {listed : List (String × Value)} :
    properties g entries = .ok listed ↔ Lists g value listed := by
  unfold properties
  dsimp only
  rw [← getD_eq_entry dict]
  constructor
  · intro h
    split at h
    · rename_i found
      exact .entries (Except.ok.inj h ▸ found)
    · rename_i noDict
      split at h
      · cases h
      · rename_i absent
        rw [← Except.ok.inj h]
        exact .nothing noDict (Bool.eq_false_iff.mpr absent)
  · intro h
    cases h with
    | entries found => rw [found]
    | nothing noDict absent => simp [noDict, absent]

theorem mem_required (dict : g.entries? value = some entries) {name : String} :
    name ∈ required g entries ↔ Requires g value name := by
  unfold required Requires
  rw [← getD_eq_entry dict, List.mem_eraseDups, List.mem_filterMap]
  have text : ∀ item : Value, text? item = some name ↔ item = .atom (.text name) := by
    intro item
    unfold text?
    split
    · simp
    · rename_i other
      simp only [reduceCtorEq, false_iff]
      exact other name
  simp only [text]
  cases g.items? (g.getD value "required") with
  | none => simp
  | some listed => simp

/-! ## Views -/

/-- How a dictionary is read. -/
def view (g : Graph) (entries : List (String × Value)) : View :=
  match literals? g entries with
  | some literals => .enum literals
  | none =>
      if tag g entries == .atom (.text "object") then
        .object
      else if tag g entries == .atom (.text "array") then
        if g.isDict (entry entries "items") then .list (entry entries "items") else .openList
      else
        match kind? (tag g entries) with
        | some kind => .scalar kind
        | none => .any

theorem kind?_eq_some {tag : Value} {kind : ScalarKind} :
    kind? tag = some kind ↔ tag = .atom (.text kind.tag) := by
  unfold kind?
  split
  · simp [ofTag?_eq_some]
  · rename_i other
    simp only [reduceCtorEq, false_iff]
    exact other _

theorem views_iff (dict : g.entries? value = some entries) {v : View} :
    Views g value v ↔ view g entries = v := by
  unfold view
  constructor
  · intro h
    cases h with
    | enum listed => rw [(literals?_eq_some dict).mpr listed]
    | object plain tagged =>
        rw [(literals?_eq_none dict).mpr plain, (tag_eq_text dict).mpr tagged]
        rfl
    | list plain tagged isDict =>
        rw [(literals?_eq_none dict).mpr plain, (tag_eq_text dict).mpr tagged,
          ← getD_eq_entry dict, isDict]
        rfl
    | openList plain tagged noDict =>
        rw [(literals?_eq_none dict).mpr plain, (tag_eq_text dict).mpr tagged,
          ← getD_eq_entry dict, noDict]
        rfl
    | @scalar kind plain tagged =>
        rw [(literals?_eq_none dict).mpr plain, (tag_eq_text dict).mpr tagged]
        cases kind <;> rfl
    | any plain other =>
        rw [(literals?_eq_none dict).mpr plain]
        have noTag : ∀ s, tag g entries = .atom (.text s) ->
            s ≠ "object" ∧ s ≠ "array" ∧ ∀ kind : ScalarKind, s ≠ kind.tag :=
          fun s same => other s ((tag_eq_text dict).mp same)
        have noKind : kind? (tag g entries) = none :=
          Option.eq_none_iff_forall_ne_some.mpr fun kind same =>
            (noTag _ (kind?_eq_some.mp same)).2.2 kind rfl
        rw [if_neg fun same => (noTag _ (eq_of_beq same)).1 rfl,
          if_neg fun same => (noTag _ (eq_of_beq same)).2.1 rfl, noKind]
  · rintro rfl
    cases literals : literals? g entries with
    | some literals' => exact .enum ((literals?_eq_some dict).mp literals)
    | none =>
        have plain := (literals?_eq_none dict).mp literals
        dsimp only
        split
        · rename_i object
          exact .object plain ((tag_eq_text dict).mp (eq_of_beq object))
        · rename_i noObject
          split
          · rename_i array
            have tagged := (tag_eq_text dict).mp (eq_of_beq array)
            rw [← getD_eq_entry dict]
            split
            · rename_i isDict
              exact .list plain tagged isDict
            · rename_i noDict
              exact .openList plain tagged (Bool.eq_false_iff.mpr noDict)
          · rename_i noArray
            split
            · rename_i kind named
              exact .scalar plain ((tag_eq_text dict).mp (kind?_eq_some.mp named))
            · rename_i noKind
              refine .any plain fun s tagged => ?_
              have given := (tag_eq_text dict).mpr tagged
              refine ⟨?_, ?_, ?_⟩
              · rintro rfl
                simp [given] at noObject
              · rintro rfl
                simp [given] at noArray
              · rintro kind rfl
                rw [kind?_eq_some.mpr given] at noKind
                cases noKind

theorem views_of_no_dict (noDict : g.entries? value = none) {v : View} :
    Views g value v ↔ v = .any := by
  have missing : ∀ key, g.getD value key = .atom .null := by
    simp [Graph.getD, Graph.get?, noDict]
  have plain : ¬ ∃ literals, Enumerates g value literals := by
    rintro ⟨_, listed, _, items, _⟩
    rw [missing] at items
    simp [Graph.items?, Graph.cell?] at items
  have noTag : ∀ s, ¬ Tagged g value s := by
    intro s tagged
    cases tagged with
    | given type => simp [missing] at type
    | only types _ =>
        rw [missing] at types
        simp [Graph.items?, Graph.cell?] at types
    | properties _ has => simp [Graph.get?, noDict] at has
    | items _ _ has => simp [Graph.get?, noDict] at has
  constructor
  · intro h
    cases h with
    | enum listed => exact absurd ⟨_, listed⟩ plain
    | object _ tagged => exact absurd tagged (noTag _)
    | list _ tagged => exact absurd tagged (noTag _)
    | openList _ tagged => exact absurd tagged (noTag _)
    | scalar _ tagged => exact absurd tagged (noTag _)
    | any => rfl
  · rintro rfl
    exact .any plain fun s tagged => absurd tagged (noTag s)

/-! ## The reader, view by view -/

open Steps

def labelOf (g : Graph) (entries : List (String × Value)) (id : Nat) : Label :=
  ⟨id, title? g (entry entries "title"),
    (given? g (entry entries "description")).getD (.text "")⟩

namespace State

def numbered (s : State) : State :=
  { s with next := s.next + 1 }

def remembers (s : State) (cell : Nat) (node : Node) : State :=
  { s with seen := (cell, node) :: s.seen }

def reserved (s : State) (required : List String) : State :=
  { s with shapes := s.shapes.push ⟨required, []⟩ }

def completed (s : State) (index : Nat) (shape : Shape) : State :=
  { s with shapes := s.shapes.setIfInBounds index shape }

def opened (s : State) (g : Graph) (cell : Nat) (entries : List (String × Value)) : State :=
  (s.numbered.reserved (required g entries)).remembers cell
    (.object (labelOf g entries s.next) s.shapes.size)

end State

/-- The nodes of properties, one after another. -/
def readAll (read : Value -> Step Node) (properties : List (String × Value)) :
    Step (List (String × Node)) :=
  properties.mapM fun property => do
    let node <- read property.2
    return (property.1, node)

/-- The node of an object whose properties can be read. -/
def nodeOfObject (g : Graph) (read : Value -> Step Node) (cell : Nat)
    (entries : List (String × Value)) (label : Label) : Step Node := do
  let index <- reserve ⟨required g entries, []⟩
  let node <- remember cell (.object label index)
  let listed <- MonadExcept.ofExcept (properties g entries)
  let nodes <- readAll read listed
  complete index ⟨required g entries, nodes⟩
  return node

/-- The node of a dictionary without parts; what its view asks for besides is in its tag. -/
def leafOf (g : Graph) (entries : List (String × Value)) (label : Label) : View -> Node
  | .enum literals => .enum label (kind? (tag g entries)) literals
  | .openList => .openList label
  | .scalar kind => .scalar label kind
  | .object | .list _ | .any => .any label ("type=" ++ g.displayInside (tag g entries))

def Told (g : Graph) (entries : List (String × Value)) : Prop :=
  view g entries = .any -> g.longest (tag g entries) ≤ Text.digitLimit

section Reader

variable {read : Value -> Step Node} {cell : Nat} {s s' : State} {node : Node} {fault : Fault}

/-- What the reader does with a dictionary goes by its view. -/
theorem nodeOf_eq (read : Value -> Step Node) (cell : Nat) (entries : List (String × Value)) :
    nodeOf g read cell entries = (do
      let label <- label g entries
      match view g entries with
      | .object => nodeOfObject g read cell entries label
      | .list items => do
          let node <- read items
          remember cell (.list label node)
      | .any => do
          let shown <- MonadExcept.ofExcept (g.shownInside (tag g entries))
          remember cell (.any label ("type=" ++ shown))
      | leaf => remember cell (leafOf g entries label leaf)) := by
  unfold nodeOf view
  refine bind_congr fun label => ?_
  cases literals? g entries with
  | some literals => rfl
  | none =>
      dsimp only
      split
      · unfold nodeOfObject
        refine bind_congr fun index => bind_congr fun node => ?_
        cases properties g entries <;> rfl
      · split
        · split <;> rfl
        · cases kind? (tag g entries) <;> rfl

theorem nodeOf_leaf (leaf : (view g entries).isLeaf = true) (told : Told g entries) :
    nodeOf g read cell entries s =
      .ok (leafOf g entries (labelOf g entries s.next) (view g entries))
        (s.numbered.remembers cell
          (leafOf g entries (labelOf g entries s.next) (view g entries))) := by
  rw [nodeOf_eq]
  cases form : view g entries with
  | object => simp [form, View.isLeaf] at leaf
  | list items => simp [form, View.isLeaf] at leaf
  | any =>
      have shown : g.shownInside (tag g entries) = .ok (g.displayInside (tag g entries)) :=
        Text.limited_eq_ok.mpr ⟨told form, rfl⟩
      rw [shown]
      rfl
  | _ => rfl

theorem nodeOf_untold (form : view g entries = .any)
    (long : Text.digitLimit < g.longest (tag g entries)) :
    nodeOf g read cell entries s = .error .badNumeral s.numbered := by
  have unshown : g.shownInside (tag g entries) = .error .badNumeral :=
    Text.limited_eq_error.mpr ⟨long, rfl⟩
  rw [nodeOf_eq, form, unshown]
  rfl

/-- What has no parts is told, or its tag is too long for that. -/
theorem told_or_long (g : Graph) (entries : List (String × Value)) :
    Told g entries ∨ view g entries = .any ∧ Text.digitLimit < g.longest (tag g entries) := by
  by_cases form : view g entries = .any
  · rcases Nat.lt_or_ge Text.digitLimit (g.longest (tag g entries)) with long | short
    · exact .inr ⟨form, long⟩
    · exact .inl fun _ => short
  · exact .inl fun other => absurd other form

theorem nodeOf_leaf_ok (leaf : (view g entries).isLeaf = true)
    (h : nodeOf g read cell entries s = .ok node s') :
    Told g entries ∧ node = leafOf g entries (labelOf g entries s.next) (view g entries) ∧
      s' = s.numbered.remembers cell node := by
  rcases told_or_long g entries with told | ⟨form, long⟩
  · rw [nodeOf_leaf leaf told, EStateM.Result.ok.injEq] at h
    obtain ⟨rfl, rfl⟩ := h
    exact ⟨told, rfl, rfl⟩
  · rw [nodeOf_untold form long] at h
    cases h

theorem nodeOf_leaf_error (leaf : (view g entries).isLeaf = true)
    (h : nodeOf g read cell entries s = .error fault s') :
    fault = .badNumeral ∧ view g entries = .any ∧
      Text.digitLimit < g.longest (tag g entries) := by
  rcases told_or_long g entries with told | ⟨form, long⟩
  · rw [nodeOf_leaf leaf told] at h
    cases h
  · rw [nodeOf_untold form long, EStateM.Result.error.injEq] at h
    exact ⟨h.1.symm, form, long⟩

theorem nodeOf_list {items : Value} (list : view g entries = .list items) :
    nodeOf g read cell entries s =
      match read items s.numbered with
      | .ok node s' =>
          .ok (.list (labelOf g entries s.next) node)
            (s'.remembers cell (.list (labelOf g entries s.next) node))
      | .error fault s' => .error fault s' := by
  rw [nodeOf_eq, list, bind_apply]
  change (read items >>= fun node =>
    remember cell (.list (labelOf g entries s.next) node)) s.numbered = _
  rw [bind_apply]
  cases read items s.numbered <;> rfl

theorem nodeOf_object (object : view g entries = .object) :
    nodeOf g read cell entries s =
      match properties g entries with
      | .error fault => .error fault (s.opened g cell entries)
      | .ok listed =>
          match readAll read listed (s.opened g cell entries) with
          | .ok nodes s' =>
              .ok (.object (labelOf g entries s.next) s.shapes.size)
                (s'.completed s.shapes.size ⟨required g entries, nodes⟩)
          | .error fault s' => .error fault s' := by
  rw [nodeOf_eq, object]
  change (MonadExcept.ofExcept (properties g entries) >>= fun listed => do
    let nodes <- readAll read listed
    complete s.shapes.size ⟨required g entries, nodes⟩
    return Node.object (labelOf g entries s.next) s.shapes.size) (s.opened g cell entries) = _
  rw [bind_apply, ofExcept_apply]
  cases properties g entries with
  | error fault => rfl
  | ok listed =>
      dsimp only
      rw [bind_apply]
      cases readAll read listed (s.opened g cell entries) <;> rfl

theorem readAll_cons {property : String × Value} {rest : List (String × Value)} :
    readAll read (property :: rest) s =
      match read property.2 s with
      | .ok node s' =>
          match readAll read rest s' with
          | .ok nodes s'' => .ok ((property.1, node) :: nodes) s''
          | .error fault s'' => .error fault s''
      | .error fault s' => .error fault s' := by
  have split : readAll read (property :: rest) = (do
      let named <- (do
        let node <- read property.2
        return (property.1, node))
      let nodes <- readAll read rest
      return named :: nodes) := List.mapM_cons
  rw [split, bind_apply, bind_apply]
  cases read property.2 s with
  | error fault s' => rfl
  | ok node s' =>
      change (readAll read rest >>= fun nodes => pure ((property.1, node) :: nodes)) s' = _
      rw [bind_apply]
      dsimp only
      cases readAll read rest s' <;> rfl

theorem read_plain {fuel : Nat} (noDict : g.entries? value = none) :
    Reading.read g (fuel + 1) value s =
      .ok (.any ⟨s.next, none, .text ""⟩ "not-a-mapping") s.numbered := by
  cases value with
  | atom a => rfl
  | cell id =>
      simp only [Reading.read, noDict]
      rfl

theorem read_dict {fuel : Nat} (dict : g.entries? (.cell cell) = some entries) :
    Reading.read g (fuel + 1) (.cell cell) s =
      match s.seen.lookup cell with
      | some node => .ok node s
      | none => nodeOf g (Reading.read g fuel) cell entries s := by
  simp only [Reading.read, dict, bind_apply, get_apply]
  cases s.seen.lookup cell <;> rfl

end Reader

end Reading

end Schema

end GraphFacade
