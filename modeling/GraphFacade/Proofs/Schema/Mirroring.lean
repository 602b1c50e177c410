import GraphFacade.Proofs.Related
import GraphFacade.Proofs.Schema.Views
import Mathlib.Data.List.Forall2

/-!
# Schemas mirror what they are read from

Property by property and item by item, a schema and the value that it was read
from show the same, however long one goes on and however often one comes back.
Objects and enumerations are shared in the schema exactly as the dictionaries
are that they come from; a list may be read twice, since it is remembered after
its items only.
-/

namespace GraphFacade

/-- Whether a node is remembered before anything else is read, so that its cell has no other. -/
def Node.isKept : Node -> Bool
  | enum .. | object .. => true
  | scalar .. | list .. | openList _ | any .. => false

namespace Schema

namespace Reading

variable {g : Graph} {busy busy' : List Nat} {s s' s'' : State}

/-! ## What has been read so far -/

/-- A node is what was read of a value. -/
inductive Known (g : Graph) (s : State) : Value -> Node -> Prop
  | cell {cell : Nat} {entries : List (String × Value)} {node : Node}
      (dict : g.entries? (.cell cell) = some entries) (seen : (cell, node) ∈ s.seen) :
      Known g s (.cell cell) node
  | plain {value : Value} {label : Label} {reason : String} (noDict : g.entries? value = none) :
      Known g s value (.any label reason)

def KnownAll (g : Graph) (s : State) (listed : List (String × Value))
    (nodes : List (String × Node)) : Prop :=
  List.Forall₂ (fun property named => property.1 = named.1 ∧ Known g s property.2 named.2)
    listed nodes

/-- A node shows the entries of its dictionary; that of a busy object has no properties yet. -/
inductive Reflects (g : Graph) (busy : List Nat) (s : State) (entries : List (String × Value)) :
    Node -> Prop
  | leaf {label : Label} (leaf : (view g entries).isLeaf = true) (told : Told g entries) :
      Reflects g busy s entries (leafOf g entries label (view g entries))
  | list {label : Label} {items : Value} {node : Node} (form : view g entries = .list items)
      (known : Known g s items node) : Reflects g busy s entries (.list label node)
  | object {label : Label} {index : Nat} (form : view g entries = .object)
      (inside : index < s.shapes.size)
      (complete : index ∉ busy -> ∃ listed nodes, properties g entries = .ok listed ∧
        s.shapes[index]? = some ⟨required g entries, nodes⟩ ∧ KnownAll g s listed nodes) :
      Reflects g busy s entries (.object label index)

/-- What holds between two steps of the reader while some objects are being read. -/
structure Coherent (g : Graph) (busy : List Nat) (s : State) : Prop where
  reflects : ∀ {cell node}, (cell, node) ∈ s.seen ->
    ∃ entries, g.entries? (.cell cell) = some entries ∧ Reflects g busy s entries node
  taken : ∀ {cell node}, (cell, node) ∈ s.seen -> node.label.id < s.next
  own : ∀ {cell cell' node node'}, (cell, node) ∈ s.seen -> (cell', node') ∈ s.seen ->
    node.label.id = node'.label.id -> cell = cell' ∧ node = node'
  once : ∀ {cell node node'}, (cell, node) ∈ s.seen -> (cell, node') ∈ s.seen ->
    node.isKept = true -> node = node'
  apart : ∀ {cell cell' label label' index}, (cell, .object label index) ∈ s.seen ->
    (cell', .object label' index) ∈ s.seen -> cell = cell'

/-! ## How a state grows -/

/-- What was read stays, and so do the shapes there are. -/
structure Grows (s s' : State) : Prop where
  seen : s.seen ⊆ s'.seen
  size : s.shapes.size ≤ s'.shapes.size
  shapes : ∀ index < s.shapes.size, s'.shapes[index]? = s.shapes[index]?

/-- A state grows, and the numbers of what is remembered on the way are new. -/
structure Later (s s' : State) : Prop extends Grows s s' where
  next : s.next ≤ s'.next
  fresh : ∀ entry ∈ s'.seen, entry ∈ s.seen ∨ s.next ≤ entry.2.label.id ∧
    ∀ {label index}, entry.2 = .object label index -> s.shapes.size ≤ index

theorem Grows.trans (h : Grows s s') (h' : Grows s' s'') : Grows s s'' :=
  ⟨List.Subset.trans h.seen h'.seen, Nat.le_trans h.size h'.size, fun index inside =>
    (h'.shapes index (Nat.lt_of_lt_of_le inside h.size)).trans (h.shapes index inside)⟩

theorem Later.refl (s : State) : Later s s :=
  ⟨⟨List.Subset.refl _, Nat.le_refl _, fun _ _ => rfl⟩, Nat.le_refl _, fun _ => .inl⟩

theorem Later.trans (h : Later s s') (h' : Later s' s'') : Later s s'' := by
  refine ⟨h.toGrows.trans h'.toGrows, Nat.le_trans h.next h'.next, fun entry among => ?_⟩
  rcases h'.fresh entry among with old | ⟨new, place⟩
  · exact h.fresh entry old
  · exact .inr ⟨Nat.le_trans h.next new, fun same => Nat.le_trans h.size (place same)⟩

theorem Later.numbered (s : State) : Later s s.numbered :=
  ⟨⟨List.Subset.refl _, Nat.le_refl _, fun _ _ => rfl⟩, Nat.le_succ _, fun _ => .inl⟩

theorem Later.remembers (h : Later s s') {cell : Nat} {node : Node}
    (new : s.next ≤ node.label.id)
    (place : ∀ {label index}, node = .object label index -> s.shapes.size ≤ index) :
    Later s (s'.remembers cell node) := by
  refine ⟨⟨fun _ old => List.mem_cons_of_mem _ (h.seen old), h.size, h.shapes⟩, h.next,
    fun entry among => ?_⟩
  rcases List.mem_cons.mp among with rfl | older
  · exact .inr ⟨new, place⟩
  · exact h.fresh entry older

theorem Grows.remembers (s : State) (cell : Nat) (node : Node) :
    Grows s (s.remembers cell node) :=
  ⟨List.subset_cons_self _ _, Nat.le_refl _, fun _ _ => rfl⟩

theorem Grows.reserved (s : State) (required : List String) : Grows s (s.reserved required) := by
  refine ⟨List.Subset.refl _, by simp [State.reserved], fun index inside => ?_⟩
  simp [State.reserved, Array.getElem?_push, Nat.ne_of_lt inside]

theorem Known.mono (kept : s.seen ⊆ s'.seen) {value : Value} {node : Node}
    (h : Known g s value node) : Known g s' value node := by
  cases h with
  | cell dict seen => exact .cell dict (kept seen)
  | plain noDict => exact .plain noDict

theorem KnownAll.mono (kept : s.seen ⊆ s'.seen) {listed : List (String × Value)}
    {nodes : List (String × Node)} (h : KnownAll g s listed nodes) : KnownAll g s' listed nodes :=
  h.imp fun _ _ both => ⟨both.1, both.2.mono kept⟩

theorem Reflects.mono (grows : Grows s s') (fewer : busy ⊆ busy')
    {entries : List (String × Value)} {node : Node} (h : Reflects g busy s entries node) :
    Reflects g busy' s' entries node := by
  cases h with
  | leaf leaf told => exact .leaf leaf told
  | list form known => exact .list form (known.mono grows.seen)
  | object form inside complete =>
      refine .object form (Nat.lt_of_lt_of_le inside grows.size) fun idle => ?_
      obtain ⟨listed, nodes, found, shape, all⟩ := complete fun isBusy => idle (fewer isBusy)
      exact ⟨listed, nodes, found, (grows.shapes _ inside).trans shape, all.mono grows.seen⟩

theorem leafOf_ne_object (entries : List (String × Value)) (label label' : Label) (index : Nat)
    (v : View) : leafOf g entries label v ≠ .object label' index := by
  cases v <;> nofun

theorem Reflects.of_object {entries : List (String × Value)} {label : Label} {index : Nat}
    (h : Reflects g busy s entries (.object label index)) :
    view g entries = .object ∧ index < s.shapes.size ∧
      (index ∉ busy -> ∃ listed nodes, properties g entries = .ok listed ∧
        s.shapes[index]? = some ⟨required g entries, nodes⟩ ∧ KnownAll g s listed nodes) := by
  generalize same : Node.object label index = node at h
  cases h with
  | leaf => exact absurd same.symm (leafOf_ne_object _ _ _ _ _)
  | list => cases same
  | object form inside complete =>
      cases same
      exact ⟨form, inside, complete⟩

/-! ## The single changes -/

theorem Coherent.numbered (coherent : Coherent g busy s) : Coherent g busy s.numbered := by
  refine ⟨fun seen => ?_, fun seen => Nat.lt_succ_of_lt (coherent.taken seen), coherent.own,
    coherent.once, coherent.apart⟩
  obtain ⟨entries, dict, reflects⟩ := coherent.reflects seen
  exact ⟨entries, dict, reflects.mono (Later.numbered s).toGrows (List.Subset.refl _)⟩

theorem Coherent.reserved (coherent : Coherent g busy s) (required : List String) :
    Coherent g (s.shapes.size :: busy) (s.reserved required) := by
  refine ⟨fun seen => ?_, coherent.taken, coherent.own, coherent.once, coherent.apart⟩
  obtain ⟨entries, dict, reflects⟩ := coherent.reflects seen
  exact ⟨entries, dict, reflects.mono (Grows.reserved s required) (List.subset_cons_self _ _)⟩

/-- A node is remembered that has a number of its own and is not the second of a kept one. -/
theorem Coherent.remembers (coherent : Coherent g busy s) {cell : Nat} {node : Node}
    {entries : List (String × Value)} (dict : g.entries? (.cell cell) = some entries)
    (reflects : Reflects g busy s entries node) (taken : node.label.id < s.next)
    (own : ∀ entry ∈ s.seen, entry.2.label.id ≠ node.label.id)
    (once : ∀ {other}, (cell, other) ∈ s.seen -> node.isKept = false ∧ other.isKept = false)
    (apart : ∀ {label index}, node = .object label index ->
      ∀ entry ∈ s.seen, ∀ label', entry.2 ≠ .object label' index) :
    Coherent g busy (s.remembers cell node) := by
  have grows := Grows.remembers s cell node
  constructor
  case reflects =>
    intro cell' node' seen
    rcases List.mem_cons.mp seen with same | old
    · obtain ⟨rfl, rfl⟩ := Prod.mk.inj same
      exact ⟨entries, dict, reflects.mono grows (List.Subset.refl _)⟩
    · obtain ⟨entries', dict', reflects'⟩ := coherent.reflects old
      exact ⟨entries', dict', reflects'.mono grows (List.Subset.refl _)⟩
  case taken =>
    intro cell' node' seen
    rcases List.mem_cons.mp seen with same | old
    · obtain ⟨rfl, rfl⟩ := Prod.mk.inj same
      exact taken
    · exact coherent.taken old
  case own =>
    intro cell₁ cell₂ node₁ node₂ seen₁ seen₂ same
    rcases List.mem_cons.mp seen₁ with new₁ | old₁ <;>
      rcases List.mem_cons.mp seen₂ with new₂ | old₂
    · exact Prod.mk.inj (new₁.trans new₂.symm)
    · obtain ⟨rfl, rfl⟩ := Prod.mk.inj new₁
      exact absurd same.symm (own _ old₂)
    · obtain ⟨rfl, rfl⟩ := Prod.mk.inj new₂
      exact absurd same (own _ old₁)
    · exact coherent.own old₁ old₂ same
  case once =>
    intro cell' node₁ node₂ seen₁ seen₂ kept
    rcases List.mem_cons.mp seen₁ with new₁ | old₁ <;>
      rcases List.mem_cons.mp seen₂ with new₂ | old₂
    · exact (Prod.mk.inj (new₁.trans new₂.symm)).2
    · obtain ⟨rfl, rfl⟩ := Prod.mk.inj new₁
      simp [(once old₂).1] at kept
    · obtain ⟨rfl, rfl⟩ := Prod.mk.inj new₂
      simp [(once old₁).2] at kept
    · exact coherent.once old₁ old₂ kept
  case apart =>
    intro cell₁ cell₂ label₁ label₂ index seen₁ seen₂
    rcases List.mem_cons.mp seen₁ with new₁ | old₁ <;>
      rcases List.mem_cons.mp seen₂ with new₂ | old₂
    · exact (Prod.mk.inj new₁).1.trans (Prod.mk.inj new₂).1.symm
    · exact absurd rfl (apart (Prod.mk.inj new₁).2.symm _ old₂ label₂)
    · exact absurd rfl (apart (Prod.mk.inj new₂).2.symm _ old₁ label₁)
    · exact coherent.apart old₁ old₂

/-- The object of a cell has its properties now, and is no longer busy. -/
theorem Coherent.completed {index : Nat} (coherent : Coherent g (index :: busy) s) {cell : Nat}
    {label : Label} {entries listed : List (String × Value)} {nodes : List (String × Node)}
    (seen : (cell, .object label index) ∈ s.seen)
    (dict : g.entries? (.cell cell) = some entries) (found : properties g entries = .ok listed)
    (all : KnownAll g s listed nodes) :
    Coherent g busy (s.completed index ⟨required g entries, nodes⟩) := by
  have kept : s.seen ⊆ (s.completed index ⟨required g entries, nodes⟩).seen := List.Subset.refl _
  refine ⟨fun {cell' node} seen' => ?_, coherent.taken, coherent.own, coherent.once, coherent.apart⟩
  obtain ⟨entries', dict', reflects⟩ := coherent.reflects seen'
  refine ⟨entries', dict', ?_⟩
  cases reflects with
  | leaf leaf told => exact .leaf leaf told
  | list form known => exact .list form (known.mono kept)
  | @object _ index' form inside complete =>
      refine .object form (by simpa [State.completed] using inside) fun idle => ?_
      by_cases same : index' = index
      · subst same
        obtain rfl := coherent.apart seen' seen
        rw [dict, Option.some.injEq] at dict'
        subst dict'
        refine ⟨listed, nodes, found, ?_, all.mono kept⟩
        simp [State.completed, inside]
      · obtain ⟨listed', nodes', found', shape, all'⟩ := complete (by simp [same, idle])
        refine ⟨listed', nodes', found', ?_, all'.mono kept⟩
        simpa [State.completed, Array.getElem?_setIfInBounds_ne (Ne.symm same)] using shape

/-! ## Runs of the reader -/

theorem not_seen {cell : Nat} (new : s.seen.lookup cell = none) (node : Node) :
    (cell, node) ∉ s.seen := fun seen =>
  Entries.not_mem_keys new (List.mem_map_of_mem (f := Prod.fst) seen)

theorem leafOf_label (entries : List (String × Value)) (label : Label) (v : View) :
    (leafOf g entries label v).label = label := by
  cases v <;> rfl

theorem Coherent.leaf (coherent : Coherent g busy s) {cell : Nat} {entries : List (String × Value)}
    (dict : g.entries? (.cell cell) = some entries) (new : s.seen.lookup cell = none)
    (leaf : (view g entries).isLeaf = true) (told : Told g entries) :
    Coherent g busy (s.numbered.remembers cell
      (leafOf g entries (labelOf g entries s.next) (view g entries))) := by
  refine coherent.numbered.remembers dict (.leaf leaf told) ?_ ?_
    (fun seen => absurd seen (not_seen new _)) ?_
  · rw [leafOf_label]
    exact Nat.lt_succ_self _
  · intro entry among
    rw [leafOf_label]
    exact Nat.ne_of_lt (coherent.taken among)
  · exact fun same => absurd same (leafOf_ne_object _ _ _ _ _)

/-- The number of a list was taken before its items were read, but nothing else has it. -/
theorem Coherent.list (later : Later s.numbered s') (earlier : Coherent g busy s)
    (coherent : Coherent g busy s') {cell : Nat} {entries : List (String × Value)}
    (dict : g.entries? (.cell cell) = some entries) {items : Value} {node : Node}
    (form : view g entries = .list items) (known : Known g s' items node) :
    Coherent g busy (s'.remembers cell (.list (labelOf g entries s.next) node)) := by
  refine coherent.remembers dict (.list form known) (Nat.lt_of_succ_le later.next) ?_ ?_ nofun
  · intro entry among
    rcases later.fresh entry among with old | ⟨new, _⟩
    · exact Nat.ne_of_lt (earlier.taken old)
    · exact Nat.ne_of_gt (Nat.lt_of_succ_le new)
  · intro other seen
    obtain ⟨entries', dict', reflects⟩ := coherent.reflects seen
    rw [dict, Option.some.injEq] at dict'
    subst dict'
    cases reflects with
    | leaf leaf => simp [form, View.isLeaf] at leaf
    | list => exact ⟨rfl, rfl⟩
    | object form' => simp [form] at form'

/-- While the properties of an object are read it is busy. -/
theorem Coherent.opened (coherent : Coherent g busy s) {cell : Nat}
    {entries : List (String × Value)}
    (dict : g.entries? (.cell cell) = some entries) (new : s.seen.lookup cell = none)
    (form : view g entries = .object) :
    Coherent g (s.shapes.size :: busy) (s.opened g cell entries) := by
  have reserved := coherent.numbered.reserved (required g entries)
  refine reserved.remembers dict (.object form ?_ fun idle => absurd List.mem_cons_self idle)
    (Nat.lt_succ_self _) (fun entry among => Nat.ne_of_lt (coherent.taken among))
    (fun seen => absurd seen (not_seen new _)) ?_
  · simp [State.reserved, State.numbered]
  · intro label index same entry among label' same'
    cases same
    have seen : (entry.1, Node.object label' s.shapes.size) ∈ s.seen := same' ▸ among
    obtain ⟨_, _, reflects⟩ := coherent.reflects seen
    exact Nat.lt_irrefl _ reflects.of_object.2.1

theorem Later.opened (g : Graph) (s : State) (cell : Nat) (entries : List (String × Value)) :
    Later s (s.opened g cell entries) := by
  have reserved : Later s (s.numbered.reserved (required g entries)) :=
    ⟨(Later.numbered s).toGrows.trans (Grows.reserved _ _), Nat.le_succ _, fun _ => .inl⟩
  exact reserved.remembers (Nat.le_refl _) fun same => by cases same; exact Nat.le_refl _

theorem Later.completed (h : Later s s') {index : Nat} (new : s.shapes.size ≤ index)
    (shape : Shape) : Later s (s'.completed index shape) := by
  refine ⟨⟨h.seen, by simpa [State.completed] using h.size, fun index' inside => ?_⟩, h.next,
    h.fresh⟩
  have different : index ≠ index' := Nat.ne_of_gt (Nat.lt_of_lt_of_le inside new)
  rw [← h.shapes index' inside]
  simp [State.completed, Array.getElem?_setIfInBounds_ne different]

def ReadsCoherently (g : Graph) (read : Value -> Step Node) : Prop :=
  ∀ {busy s value node s'}, read value s = .ok node s' -> Coherent g busy s ->
    Coherent g busy s' ∧ Later s s' ∧ Known g s' value node

section Reader

variable {read : Value -> Step Node} {cell : Nat} {entries listed : List (String × Value)}
  {node : Node}

theorem readAll_coherent (reads : ReadsCoherently g read) {nodes : List (String × Node)}
    (h : readAll read listed s = .ok nodes s') (coherent : Coherent g busy s) :
    Coherent g busy s' ∧ Later s s' ∧ KnownAll g s' listed nodes := by
  induction listed generalizing nodes s with
  | nil =>
      cases h
      exact ⟨coherent, .refl _, .nil⟩
  | cons property rest ih =>
      rw [readAll_cons] at h
      cases first : read property.2 s with
      | error fault t => simp [first] at h
      | ok node t =>
          cases others : readAll read rest t with
          | error fault u => simp [first, others] at h
          | ok nodes' u =>
              simp only [first, others, EStateM.Result.ok.injEq] at h
              obtain ⟨rfl, rfl⟩ := h
              obtain ⟨coherent', later, known⟩ := reads first coherent
              obtain ⟨coherent'', later', all⟩ := ih others coherent'
              exact ⟨coherent'', later.trans later', .cons ⟨rfl, known.mono later'.seen⟩ all⟩

theorem nodeOf_coherent (reads : ReadsCoherently g read)
    (h : nodeOf g read cell entries s = .ok node s')
    (dict : g.entries? (.cell cell) = some entries) (new : s.seen.lookup cell = none)
    (coherent : Coherent g busy s) : Coherent g busy s' ∧ Later s s' ∧ (cell, node) ∈ s'.seen := by
  cases form : view g entries with
  | object =>
      rw [nodeOf_object form] at h
      cases found : properties g entries with
      | error fault => simp [found] at h
      | ok listed =>
          cases others : readAll read listed (s.opened g cell entries) with
          | error fault t => simp [found, others] at h
          | ok nodes t =>
              simp only [found, others, EStateM.Result.ok.injEq] at h
              obtain ⟨rfl, rfl⟩ := h
              obtain ⟨coherent', later, all⟩ :=
                readAll_coherent reads others (coherent.opened dict new form)
              have seen := later.seen (List.mem_cons_self (a := (cell, Node.object
                (labelOf g entries s.next) s.shapes.size)))
              exact ⟨coherent'.completed seen dict found all,
                ((Later.opened g s cell entries).trans later).completed (Nat.le_refl _) _, seen⟩
  | list items =>
      rw [nodeOf_list form] at h
      cases item : read items s.numbered with
      | error fault t => simp [item] at h
      | ok node' t =>
          simp only [item, EStateM.Result.ok.injEq] at h
          obtain ⟨rfl, rfl⟩ := h
          obtain ⟨coherent', later, known⟩ := reads item coherent.numbered
          exact ⟨Coherent.list later coherent coherent' dict form known,
            ((Later.numbered s).trans later).remembers (Nat.le_refl _) nofun, List.mem_cons_self⟩
  | _ =>
      have leaf : (view g entries).isLeaf = true := by rw [form]; rfl
      obtain ⟨told, rfl, rfl⟩ := nodeOf_leaf_ok leaf h
      refine ⟨coherent.leaf dict new leaf told, (Later.numbered s).remembers ?_ ?_,
        List.mem_cons_self⟩
      · rw [leafOf_label]
        exact Nat.le_refl _
      · exact fun same => absurd same (leafOf_ne_object _ _ _ _ _)

theorem read_coherent (fuel : Nat) : ReadsCoherently g (Reading.read g fuel) := by
  induction fuel with
  | zero => exact fun h => by cases h
  | succ fuel ih =>
      intro busy s value node s' h coherent
      cases dict : g.entries? value with
      | none =>
          rw [read_plain dict, EStateM.Result.ok.injEq] at h
          obtain ⟨rfl, rfl⟩ := h
          exact ⟨coherent.numbered, .numbered s, .plain dict⟩
      | some entries =>
          cases value with
          | atom a => cases dict
          | cell id =>
              rw [read_dict dict] at h
              cases known : s.seen.lookup id with
              | some node' =>
                  simp only [known, EStateM.Result.ok.injEq] at h
                  obtain ⟨rfl, rfl⟩ := h
                  exact ⟨coherent, .refl s, .cell dict (Entries.mem_of_lookup known)⟩
              | none =>
                  simp only [known] at h
                  obtain ⟨coherent', later, seen⟩ := nodeOf_coherent ih h dict known coherent
                  exact ⟨coherent', later, .cell dict seen⟩

end Reader

end Reading

/-! ## Paths into a value and into its schema -/

/-- A step down, of a schema as of what it was read from. -/
inductive Turn
  | property (name : String)
  | items
  deriving DecidableEq, Repr

def turn? (schema : Schema) : Node -> Turn -> Option Node
  | .object _ index, .property name => (schema.shape index).properties.lookup name
  | .list _ node, .items => some node
  | _, _ => none

/-- The node at the end of a path. -/
def at? (schema : Schema) : Node -> List Turn -> Option Node
  | node, [] => some node
  | node, turn :: rest => (schema.turn? node turn).bind fun next => schema.at? next rest

/-- A step leads from a value that is read as an object or as a list to a part of it. -/
inductive Turns (g : Graph) (value : Value) : Turn -> Value -> Prop
  | property {listed : List (String × Value)} {name : String} {part : Value}
      (form : Views g value .object) (lists : Lists g value listed)
      (found : listed.lookup name = some part) : Turns g value (.property name) part
  | items {part : Value} (form : Views g value (.list part)) : Turns g value .items part

/-- A path leads from one value to another. -/
inductive Leads (g : Graph) : Value -> List Turn -> Value -> Prop
  | here {value : Value} : Leads g value [] value
  | down {value part last : Value} {turn : Turn} {rest : List Turn}
      (step : Turns g value turn part) (further : Leads g part rest last) :
      Leads g value (turn :: rest) last

/-- A node has the form that its value is to be read in, and shows what the value says of it. -/
inductive Meets (g : Graph) (schema : Schema) (value : Value) : Node -> Prop
  | enum {label : Label} {kind : Option ScalarKind} {literals : List Json}
      (form : Views g value (.enum literals)) : Meets g schema value (.enum label kind literals)
  | object {label : Label} {index : Nat} {listed : List (String × Value)}
      (form : Views g value .object) (lists : Lists g value listed)
      (names : (schema.shape index).properties.map Prod.fst = listed.map Prod.fst)
      (required : ∀ name, name ∈ (schema.shape index).required ↔ Requires g value name) :
      Meets g schema value (.object label index)
  | list {label : Label} {items : Value} {node : Node} (form : Views g value (.list items)) :
      Meets g schema value (.list label node)
  | openList {label : Label} (form : Views g value .openList) :
      Meets g schema value (.openList label)
  | scalar {label : Label} {kind : ScalarKind} (form : Views g value (.scalar kind)) :
      Meets g schema value (.scalar label kind)
  | any {label : Label} {reason : String} (form : Views g value .any) :
      Meets g schema value (.any label reason)

namespace Reading

variable {g : Graph} {s : State} {schema : Schema} {value : Value} {node : Node}

theorem KnownAll.lookup {listed : List (String × Value)} {nodes : List (String × Node)}
    (all : KnownAll g s listed nodes) (name : String) :
    Option.Rel (Known g s) (listed.lookup name) (nodes.lookup name) := by
  induction all with
  | nil => exact .none
  | @cons property named _ _ both _ ih =>
      rcases property with ⟨key, part⟩
      rcases named with ⟨key', node⟩
      obtain ⟨rfl, known⟩ := both
      by_cases here : name = key
      · subst here
        simpa using Option.Rel.some known
      · simpa [List.lookup_cons, beq_false_of_ne here] using ih

theorem turn?_leafOf (entries : List (String × Value)) (label : Label) (v : View) (turn : Turn) :
    schema.turn? (leafOf g entries label v) turn = none := by
  cases v <;> rfl

theorem Known.meets (coherent : Coherent g [] s) (table : schema.shapes = s.shapes)
    (known : Known g s value node) : Meets g schema value node := by
  cases known with
  | plain noDict => exact .any ((views_of_no_dict noDict).mpr rfl)
  | cell _ seen =>
      obtain ⟨entries, dict, reflects⟩ := coherent.reflects seen
      cases reflects with
      | list form known => exact .list ((views_iff dict).mpr form)
      | object form inside complete =>
          obtain ⟨listed, nodes, found, shape, all⟩ := complete List.not_mem_nil
          rw [← table] at shape
          refine .object ((views_iff dict).mpr form) ((properties_eq_ok dict).mp found) ?_ ?_
          · rw [Schema.shape, shape]
            exact (map_eq_of_forall₂ all fun _ _ both => both.1).symm
          · intro name
            rw [Schema.shape, shape]
            exact mem_required dict
      | leaf leaf =>
          have form : Views g _ (view g entries) := (views_iff dict).mpr rfl
          cases v : view g entries with
          | object => simp [v, View.isLeaf] at leaf
          | list items => simp [v, View.isLeaf] at leaf
          | enum literals => exact .enum (v ▸ form)
          | openList => exact .openList (v ▸ form)
          | scalar kind => exact .scalar (v ▸ form)
          | any => exact .any (v ▸ form)

/-- From what is known a step leads to what is known, on both sides or on none. -/
theorem Known.turns (coherent : Coherent g [] s) (table : schema.shapes = s.shapes)
    (known : Known g s value node) (turn : Turn) :
    (∀ next, schema.turn? node turn = some next ->
      ∃ part, Turns g value turn part ∧ Known g s part next) ∧
    ∀ part, Turns g value turn part ->
      ∃ next, schema.turn? node turn = some next ∧ Known g s part next := by
  cases known with
  | plain noDict =>
      refine ⟨nofun, fun part turns => ?_⟩
      cases turns with
      | property form => cases (views_of_no_dict noDict).mp form
      | items form => cases (views_of_no_dict noDict).mp form
  | cell _ seen =>
      obtain ⟨entries, dict, reflects⟩ := coherent.reflects seen
      cases reflects with
      | leaf leaf =>
          refine ⟨fun next found => by simp [turn?_leafOf] at found, fun part turns => ?_⟩
          cases turns with
          | property form => simp [(views_iff dict).mp form, View.isLeaf] at leaf
          | items form => simp [(views_iff dict).mp form, View.isLeaf] at leaf
      | list form known =>
          have listed := (views_iff dict).mpr form
          refine ⟨fun next found => ?_, fun part turns => ?_⟩
          · cases turn with
            | property name => cases found
            | items =>
                cases found
                exact ⟨_, .items listed, known⟩
          · cases turns with
            | property form' => simp [(views_iff dict).mp form'] at form
            | items form' =>
                rw [(views_iff dict).mp form', View.list.injEq] at form
                exact ⟨_, rfl, form ▸ known⟩
      | @object _ index form inside complete =>
          obtain ⟨listed, nodes, found, shape, all⟩ := complete List.not_mem_nil
          rw [← table] at shape
          have lists := (properties_eq_ok dict).mp found
          have properties : (schema.shape index).properties = nodes := by
            rw [Schema.shape, shape]
            rfl
          refine ⟨fun next step => ?_, fun part turns => ?_⟩
          · cases turn with
            | items => cases step
            | property name =>
                rw [turn?, properties] at step
                have related := all.lookup name
                rw [step] at related
                cases there : listed.lookup name with
                | none => simp [there] at related
                | some part =>
                    rw [there] at related
                    cases related with
                    | some known => exact ⟨part, .property ((views_iff dict).mpr form) lists there,
                        known⟩
          · cases turns with
            | items form' => simp [(views_iff dict).mp form'] at form
            | @property listed' name _ _ lists' there =>
                have same := (properties_eq_ok dict).mpr lists'
                rw [found, Except.ok.injEq] at same
                subst same
                have related := all.lookup name
                rw [there] at related
                cases step : nodes.lookup name with
                | none => simp [step] at related
                | some next =>
                    rw [step] at related
                    cases related with
                    | some known => exact ⟨next, by rw [turn?, properties, step], known⟩

theorem Known.at? (coherent : Coherent g [] s) (table : schema.shapes = s.shapes)
    (known : Known g s value node) {path : List Turn} {last : Node}
    (found : schema.at? node path = some last) :
    ∃ inner, Leads g value path inner ∧ Known g s inner last := by
  induction path generalizing value node with
  | nil =>
      cases found
      exact ⟨value, .here, known⟩
  | cons turn rest ih =>
      obtain ⟨next, step, further⟩ := Option.bind_eq_some_iff.mp found
      obtain ⟨part, turns, known'⟩ := (known.turns coherent table turn).1 next step
      obtain ⟨inner, leads, arrived⟩ := ih known' further
      exact ⟨inner, .down turns leads, arrived⟩

theorem Known.leads (coherent : Coherent g [] s) (table : schema.shapes = s.shapes)
    {path : List Turn} {inner : Value} (leads : Leads g value path inner)
    (known : Known g s value node) :
    ∃ last, schema.at? node path = some last ∧ Known g s inner last := by
  induction leads generalizing node with
  | here => exact ⟨node, rfl, known⟩
  | down turns _ ih =>
      obtain ⟨next, step, known'⟩ := (known.turns coherent table _).2 _ turns
      obtain ⟨last, found, arrived⟩ := ih known'
      exact ⟨last, by rw [Schema.at?, step]; exact found, arrived⟩

/-- A node that is kept stands for one dictionary, and is all that was made of it. -/
theorem Known.same_iff (coherent : Coherent g [] s) {value' : Value} {node' : Node}
    (known : Known g s value node) (known' : Known g s value' node') (kept : node.isKept = true) :
    (node = node' ↔ value = value') ∧
      (g.isDict value' = true -> (node.label.id = node'.label.id ↔ value = value')) := by
  cases known with
  | plain => cases kept
  | @cell cell _ _ dict seen =>
      cases known' with
      | plain noDict =>
          refine ⟨⟨?_, ?_⟩, fun isDict => ?_⟩
          · rintro rfl
            cases kept
          · rintro rfl
            simp [dict] at noDict
          · simp [Graph.isDict, noDict] at isDict
      | @cell cell' _ _ dict' seen' =>
          have forth : node.label.id = node'.label.id -> Value.cell cell = .cell cell' :=
            fun same => congrArg Value.cell (coherent.own seen seen' same).1
          have back : Value.cell cell = .cell cell' -> node = node' := by
            intro same
            cases same
            exact coherent.once seen seen' kept
          exact ⟨⟨fun same => forth (congrArg (fun node => node.label.id) same), back⟩,
            fun _ => ⟨forth, fun same => congrArg (fun node => node.label.id) (back same)⟩⟩

end Reading

open Reading

theorem ofValue_known {g : Graph} {value : Value} {schema : Schema}
    (h : ofValue g value = .ok schema) :
    ∃ s, schema.shapes = s.shapes ∧ Coherent g [] s ∧ Known g s value schema.root := by
  unfold ofValue at h
  split at h
  · rename_i root s ended
    rw [← Except.ok.inj h]
    have start : Coherent g [] {} := by constructor <;> simp
    obtain ⟨coherent, _, known⟩ := read_coherent _ ended start
    exact ⟨s, rfl, coherent, known⟩
  · cases h

/--
A schema mirrors the value it is read from.  A path leads to a node of the schema
exactly if it leads to a value, and the two meet: in the form, the literals, the
names of the properties and those that are required.  Two paths that lead to an
object or an enumeration lead to one node exactly if they lead to one dictionary.
-/
theorem ofValue_mirrors {g : Graph} {value : Value} {schema : Schema}
    (h : ofValue g value = .ok schema) :
    (∀ path node, schema.at? schema.root path = some node ->
      ∃ inner, Leads g value path inner ∧ Meets g schema inner node) ∧
    (∀ path inner, Leads g value path inner ->
      ∃ node, schema.at? schema.root path = some node ∧ Meets g schema inner node) ∧
    ∀ path path' inner inner' node node',
      Leads g value path inner -> schema.at? schema.root path = some node ->
      Leads g value path' inner' -> schema.at? schema.root path' = some node' ->
      node.isKept = true ->
      (node = node' ↔ inner = inner') ∧
        (g.isDict inner' = true -> (node.label.id = node'.label.id ↔ inner = inner')) := by
  obtain ⟨s, table, coherent, known⟩ := ofValue_known h
  have there : ∀ {path inner node}, Leads g value path inner ->
      schema.at? schema.root path = some node -> Known g s inner node := by
    intro path inner node leads found
    obtain ⟨last, found', arrived⟩ := known.leads coherent table leads
    rw [found, Option.some.injEq] at found'
    exact found' ▸ arrived
  refine ⟨fun path node found => ?_, fun path inner leads => ?_, ?_⟩
  · obtain ⟨inner, leads, arrived⟩ := known.at? coherent table found
    exact ⟨inner, leads, arrived.meets coherent table⟩
  · obtain ⟨node, found, arrived⟩ := known.leads coherent table leads
    exact ⟨node, found, arrived.meets coherent table⟩
  · intro path path' inner inner' node node' leads found leads' found' kept
    exact (there leads found).same_iff coherent (there leads' found') kept

def orders : Graph :=
  ⟨#[.dict [("type", .atom (.text "object")), ("properties", .cell 1)],
    .dict [("parts", .cell 2)], .dict [("items", .cell 0)]]⟩

/-- The parts of the parts of an order are in the end the order itself. -/
theorem ofValue_mirrors_orders :
    ∃ schema, ofValue orders (.cell 0) = .ok schema ∧
      schema.at? schema.root [.property "parts", .items, .property "parts", .items] =
        some schema.root := by
  have form : Views orders (.cell 0) .object := (views_iff rfl).mpr (by decide +kernel)
  have list : Views orders (.cell 2) (.list (.cell 0)) := (views_iff rfl).mpr (by decide +kernel)
  have parts : Turns orders (.cell 0) (.property "parts") (.cell 2) :=
    .property form (.entries rfl) rfl
  have round : Leads orders (.cell 0)
      [.property "parts", .items, .property "parts", .items] (.cell 0) :=
    .down parts (.down (.items list) (.down parts (.down (.items list) .here)))
  have shown : (ofValue orders (.cell 0)).toOption.any fun schema => schema.root.isKept := by
    decide +kernel
  obtain ⟨schema, read, kept⟩ := Steps.ok_of_toOption shown
  obtain ⟨_, reached, shared⟩ := ofValue_mirrors read
  obtain ⟨node, found, _⟩ := reached _ _ round
  have same := ((shared [] _ _ _ _ _ .here rfl round found kept).1).mpr rfl
  exact ⟨schema, read, same ▸ found⟩

end Schema

end GraphFacade
