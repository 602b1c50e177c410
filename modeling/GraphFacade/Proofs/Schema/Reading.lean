import GraphFacade.Proofs.Entries
import GraphFacade.Proofs.Steps
import GraphFacade.Schema.Reading

/-!
# Nodes carry the titles of what they are read from

Whichever way a dictionary of a graph is met while a schema is being read, its
node has the title that the dictionary holds, and no other.
-/

namespace GraphFacade

namespace Schema

namespace Reading

open Steps

variable {g : Graph} {α β : Type}

def Carries (g : Graph) (cell : Nat) (node : Node) : Prop :=
  ∃ entries, g.entries? (.cell cell) = some entries ∧
    node.label.title = title? g (entry entries "title")

def Faithful (g : Graph) (s : State) : Prop :=
  ∀ cell node, (cell, node) ∈ s.seen -> Carries g cell node

def Keeps (g : Graph) (step : Step α) (gives : α -> Prop) : Prop :=
  ∀ s a s', step s = .ok a s' -> Faithful g s -> Faithful g s' ∧ gives a

theorem keeps_pure {gives : α -> Prop} {a : α} (given : gives a) : Keeps g (pure a) gives := by
  intro s b s' h faithful
  obtain ⟨rfl, rfl⟩ := pure_eq_ok.mp h
  exact ⟨faithful, given⟩

theorem Keeps.bind {step : Step α} {next : α -> Step β} {gives : α -> Prop} {gives' : β -> Prop}
    (first : Keeps g step gives) (later : ∀ a, gives a -> Keeps g (next a) gives') :
    Keeps g (step >>= next) gives' := by
  intro s b s' h faithful
  obtain ⟨a, t, ended, h⟩ := bind_eq_ok.mp h
  obtain ⟨faithful', given⟩ := first s a t ended faithful
  exact later a given t b s' h faithful'

theorem Keeps.mono {step : Step α} {gives gives' : α -> Prop} (h : Keeps g step gives)
    (weaker : ∀ a, gives a -> gives' a) : Keeps g step gives' :=
  fun s a s' ended faithful => (h s a s' ended faithful).imp_right (weaker a)

theorem keeps_mapM {f : α -> Step β} (steps : ∀ a, Keeps g (f a) fun _ => True) (list : List α) :
    Keeps g (list.mapM f) fun _ => True := by
  induction list with
  | nil => exact keeps_pure trivial
  | cons a rest ih =>
      rw [List.mapM_cons]
      exact (steps a).bind fun _ _ => ih.bind fun _ _ => keeps_pure trivial

theorem keeps_of_seen {step : Step α} {gives : α -> Prop}
    (h : ∀ s a s', step s = .ok a s' -> s'.seen = s.seen ∧ gives a) : Keeps g step gives := by
  intro s a s' ended faithful
  obtain ⟨same, given⟩ := h s a s' ended
  exact ⟨fun cell node member => faithful cell node (same ▸ member), given⟩

theorem keeps_label (entries : List (String × Value)) :
    Keeps g (label g entries) fun label => label.title = title? g (entry entries "title") := by
  refine keeps_of_seen fun s a s' h => ?_
  cases h
  exact ⟨rfl, rfl⟩

theorem keeps_reserve (shape : Shape) : Keeps g (reserve shape) fun _ => True :=
  keeps_of_seen fun s a s' h => by cases h; exact ⟨rfl, trivial⟩

theorem keeps_complete (index : Nat) (shape : Shape) :
    Keeps g (complete index shape) fun _ => True :=
  keeps_of_seen fun s a s' h => by cases h; exact ⟨rfl, trivial⟩

theorem keeps_freshId : Keeps g freshId fun _ => True :=
  keeps_of_seen fun s a s' h => by cases h; exact ⟨rfl, trivial⟩

theorem keeps_remember {cell : Nat} {node : Node} (carries : Carries g cell node) :
    Keeps g (remember cell node) (Carries g cell) := by
  intro s a s' h faithful
  cases h
  refine ⟨?_, carries⟩
  intro cell' node' member
  rcases List.mem_cons.mp member with same | old
  · obtain ⟨rfl, rfl⟩ := Prod.mk.inj same
    exact carries
  · exact faithful cell' node' old

theorem keeps_nodeOf {read : Value -> Step Node}
    (reads : ∀ value, Keeps g (read value) fun _ => True)
    {cell : Nat} {entries : List (String × Value)}
    (found : g.entries? (.cell cell) = some entries) :
    Keeps g (nodeOf g read cell entries) (Carries g cell) := by
  unfold nodeOf
  refine (keeps_label entries).bind fun label titled => ?_
  have carries : ∀ node : Node, node.label = label -> Carries g cell node :=
    fun node same => ⟨entries, found, same ▸ titled⟩
  dsimp only
  split
  · exact keeps_remember (carries _ rfl)
  · split
    · -- an object is remembered before its properties are read, which may lead back to it
      refine (keeps_reserve _).bind fun index _ => ?_
      refine (keeps_remember (carries (.object label index) rfl)).bind fun node carried => ?_
      split
      · intro s a s' h
        cases h
      · refine (keeps_mapM (fun property => ?_) _).bind fun nodes _ => ?_
        · exact (reads _).bind fun _ _ => keeps_pure trivial
        · exact (keeps_complete _ _).bind fun _ _ => keeps_pure carried
    · split
      · split
        · exact (reads _).bind fun node _ => keeps_remember (carries _ rfl)
        · exact keeps_remember (carries _ rfl)
      · split
        · exact keeps_remember (carries _ rfl)
        · have unchanged : Keeps g (MonadExcept.ofExcept (g.shownInside (tag g entries)) : Step String)
              fun _ => True :=
            keeps_of_seen fun s a s' h => by rw [(ofExcept_eq_ok.mp h).2]; exact ⟨rfl, trivial⟩
          exact unchanged.bind fun shown _ => keeps_remember (carries _ rfl)

theorem keeps_read (fuel : Nat) (value : Value) :
    Keeps g (read g fuel value) fun node =>
      ∀ cell, value = .cell cell -> (g.entries? value).isSome -> Carries g cell node := by
  induction fuel generalizing value with
  | zero =>
      intro s a s' h
      cases h
  | succ fuel ih =>
      have plain : Keeps g (do
          let id <- freshId
          return Node.any ⟨id, none, .text ""⟩ "not-a-mapping") fun _ => True :=
        keeps_freshId.bind fun id _ => keeps_pure trivial
      cases value with
      | atom a => exact plain.mono nofun
      | cell id =>
          cases found : g.entries? (.cell id) with
          | none =>
              simp only [read, found]
              exact plain.mono fun _ _ _ _ => nofun
          | some entries =>
              simp only [read, found]
              intro s node s' h faithful
              simp only [bind_eq_ok, get_apply] at h
              obtain ⟨s₁, _, same, h⟩ := h
              cases same
              cases known : s.seen.lookup id with
              | some node' =>
                  simp only [known, pure_eq_ok] at h
                  obtain ⟨rfl, rfl⟩ := h
                  refine ⟨faithful, fun cell same _ => ?_⟩
                  cases same
                  exact faithful id _ (Entries.mem_of_lookup known)
              | none =>
                  simp only [known] at h
                  have made := keeps_nodeOf (fun value => (ih value).mono fun _ _ => trivial) found
                  obtain ⟨faithful', carries⟩ := made s node s' h faithful
                  refine ⟨faithful', fun cell same _ => ?_⟩
                  cases same
                  exact carries

end Reading

def Reads (g : Graph) (cell : Nat) (node : Node) : Prop :=
  ∃ value root s, (Reading.read g (Reading.fuelFor g) value).run {} = .ok root s ∧
    (cell, node) ∈ s.seen

theorem Reads.carries {g : Graph} {cell : Nat} {node : Node} (h : Reads g cell node) :
    Reading.Carries g cell node := by
  obtain ⟨value, root, s, ended, member⟩ := h
  exact (Reading.keeps_read _ _ {} root s ended nofun).1 cell node member

end Schema

end GraphFacade
