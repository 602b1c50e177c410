import GraphFacade.Proofs.Document.Resolving
import Mathlib.Data.List.Forall2

/-!
# Origins of cells

A resolved document is a finite graph, and the document it comes from expands
to a tree that may be infinite.  While the graph is being made, each of its
cells has an origin, the value it is made from; a cell whose entries are still
being visited is empty, and yet references to it count as resolved.  The
invariant therefore speaks of values that *show* others by their origin alone,
and asks for contents only where a cell is not busy.
-/

namespace GraphFacade

namespace Resolution

open Steps

/-! ## The invariant -/

/--
A value of a graph shows what a value of the document stands for: an atom
itself, a cell its origin, and the shared value of a reference what the
reference names.
-/
inductive Shows (document : Json) (origins : List Json) (known : List (String × Value)) :
    Json -> Value -> Prop
  | atom (a : Atom) : Shows document origins known (.atom a) (.atom a)
  | cell {shown : Json} {id : Nat} (origin : origins[id]? = some shown)
      (plain : referenceOf? shown = none) : Shows document origins known shown (.cell id)
  | shared {shown target : Json} {reference : String} {value : Value}
      (refers : referenceOf? shown = some reference)
      (names : named? document reference = some target)
      (found : known.lookup reference = some value)
      (rest : Shows document origins known target value) :
      Shows document origins known shown value

/-- The contents of a cell show, part by part, the value it was made from. -/
inductive Mirrors (document : Json) (origins : List Json) (known : List (String × Value)) :
    Json -> Cell -> Prop
  | list {items : List Json} {values : List Value}
      (parts : List.Forall₂ (Shows document origins known) items values) :
      Mirrors document origins known (.list items) (.list values)
  | dict {entries : List (String × Json)} {filled : List (String × Value)}
      (keys : filled.map Prod.fst = entries.map Prod.fst)
      (parts : List.Forall₂ (Shows document origins known) (entries.map Prod.snd)
        (filled.map Prod.snd)) :
      Mirrors document origins known (.dict entries) (.dict filled)

/-- What holds between two steps; the contents of busy cells are not there yet. -/
structure Sound (document : Json) (origins : List Json) (busy : List Nat) (s : State) : Prop where
  sized : origins.length = s.graph.cells.size
  mirrored : ∀ {id shown}, origins[id]? = some shown -> id ∉ busy ->
    ∃ cell, s.graph.cells[id]? = some cell ∧ Mirrors document origins s.resolved shown cell
  known : ∀ {reference value}, s.resolved.lookup reference = some value ->
    ∃ target, named? document reference = some target ∧
      Shows document origins s.resolved target value
  waiting : ∀ reference ∈ s.pending, s.resolved.lookup reference = none

def Keeps (known known' : List (String × Value)) : Prop :=
  ∀ ⦃reference value⦄, known.lookup reference = some value ->
    known'.lookup reference = some value

theorem Keeps.refl (known : List (String × Value)) : Keeps known known :=
  fun _ _ found => found

theorem Keeps.cons {known : List (String × Value)} {reference : String} (value : Value)
    (new : known.lookup reference = none) : Keeps known ((reference, value) :: known) := by
  intro other old found
  have different : other ≠ reference := by
    rintro rfl
    simp [new] at found
  simp [List.lookup_cons, beq_false_of_ne different, found]

/-- What a visit keeps: cells and their origins, resolved references, pending references. -/
structure Later (origins : List Json) (s : State) (origins' : List Json) (s' : State) :
    Prop where
  grown : origins <+: origins'
  kept : Keeps s.resolved s'.resolved
  pending : s'.pending = s.pending

theorem Later.refl (origins : List Json) (s : State) : Later origins s origins s :=
  ⟨List.prefix_rfl, Keeps.refl _, rfl⟩

theorem Later.trans {origins₁ origins₂ origins₃ : List Json} {s₁ s₂ s₃ : State}
    (h : Later origins₁ s₁ origins₂ s₂) (h' : Later origins₂ s₂ origins₃ s₃) :
    Later origins₁ s₁ origins₃ s₃ :=
  ⟨h.grown.trans h'.grown, fun _ _ found => h'.kept (h.kept found),
    h'.pending.trans h.pending⟩

variable {document : Json} {origins origins' : List Json} {known known' : List (String × Value)}

theorem getElem?_of_grown {α : Type} {xs ys : List α} (h : xs <+: ys) {i : Nat} {x : α}
    (found : xs[i]? = some x) : ys[i]? = some x := by
  obtain ⟨more, rfl⟩ := h
  have inside : i < xs.length := (List.getElem?_eq_some_iff.mp found).choose
  rw [List.getElem?_append_left inside, found]

theorem Shows.mono {shown : Json} {value : Value} (h : Shows document origins known shown value)
    (grown : origins <+: origins') (kept : Keeps known known') :
    Shows document origins' known' shown value := by
  induction h with
  | atom a => exact .atom a
  | cell origin plain => exact .cell (getElem?_of_grown grown origin) plain
  | shared refers names found _ ih => exact .shared refers names (kept found) ih

theorem Mirrors.mono {shown : Json} {cell : Cell} (h : Mirrors document origins known shown cell)
    (grown : origins <+: origins') (kept : Keeps known known') :
    Mirrors document origins' known' shown cell := by
  cases h with
  | list parts => exact .list (parts.imp fun _ _ part => part.mono grown kept)
  | dict keys parts => exact .dict keys (parts.imp fun _ _ part => part.mono grown kept)

theorem lookup_cons_of_ne {known : List (String × Value)} {reference other : String}
    (value : Value) (different : other ≠ reference) :
    ((reference, value) :: known).lookup other = known.lookup other := by
  simp [List.lookup_cons, beq_false_of_ne different]

/-! ## How the single steps keep the invariant -/

section Steps

variable {busy : List Nat} {s : State}

theorem Sound.push (sound : Sound document origins busy s) (shown : Json) (cell : Cell) :
    Sound document (origins ++ [shown]) (origins.length :: busy)
      { s with graph := ⟨s.graph.cells.push cell⟩ } := by
  have grown : origins <+: origins ++ [shown] := List.prefix_append ..
  refine ⟨by simp [sound.sized], ?_, ?_, sound.waiting⟩
  · intro id origin found free
    simp only [List.mem_cons, not_or] at free
    obtain ⟨old, free⟩ := free
    have inside : id < origins.length := by
      have bound := (List.getElem?_eq_some_iff.mp found).choose
      simp only [List.length_append, List.length_singleton] at bound
      omega
    rw [List.getElem?_append_left inside] at found
    obtain ⟨contents, there, mirrors⟩ := sound.mirrored found free
    refine ⟨contents, ?_, mirrors.mono grown (Keeps.refl _)⟩
    rw [Array.getElem?_push, if_neg (by rw [← sound.sized]; exact old)]
    exact there
  · intro reference value found
    obtain ⟨target, names, shows'⟩ := sound.known found
    exact ⟨target, names, shows'.mono grown (Keeps.refl _)⟩

/-- A busy cell whose contents show its origin is busy no longer. -/
theorem Sound.release {id : Nat} (sound : Sound document origins (id :: busy) s) {shown : Json}
    {cell : Cell} (origin : origins[id]? = some shown) (there : s.graph.cells[id]? = some cell)
    (mirrors : Mirrors document origins s.resolved shown cell) :
    Sound document origins busy s := by
  refine ⟨sound.sized, ?_, sound.known, sound.waiting⟩
  intro other origin' found free
  by_cases same : other = id
  · subst same
    rw [origin, Option.some.injEq] at found
    subst found
    exact ⟨cell, there, mirrors⟩
  · exact sound.mirrored found (by simp [same, free])

theorem Sound.set {id : Nat} (sound : Sound document origins (id :: busy) s) (cell : Cell) :
    Sound document origins (id :: busy)
      { s with graph := ⟨s.graph.cells.setIfInBounds id cell⟩ } := by
  refine ⟨by simp [sound.sized], ?_, sound.known, sound.waiting⟩
  intro other shown found free
  obtain ⟨contents, there, mirrors⟩ := sound.mirrored found free
  have different : id ≠ other := by
    rintro rfl
    simp at free
  exact ⟨contents, by simp [Array.getElem?_setIfInBounds_ne different, there], mirrors⟩

theorem Sound.record (sound : Sound document origins busy s) (reference : String)
    {target : Json} {value : Value} (names : named? document reference = some target)
    (shows' : Shows document origins s.resolved target value)
    (new : s.resolved.lookup reference = none) (free : reference ∉ s.pending) :
    Sound document origins busy { s with resolved := (reference, value) :: s.resolved } := by
  have kept := Keeps.cons value new
  refine ⟨sound.sized, ?_, ?_, ?_⟩
  · intro id shown found free
    obtain ⟨cell, there, mirrors⟩ := sound.mirrored found free
    exact ⟨cell, there, mirrors.mono List.prefix_rfl kept⟩
  · intro other found there
    by_cases same : other = reference
    · subst same
      simp only [List.lookup_cons_self, Option.some.injEq] at there
      subst there
      exact ⟨target, names, shows'.mono List.prefix_rfl kept⟩
    · rw [lookup_cons_of_ne value same] at there
      obtain ⟨old, names', showsOld⟩ := sound.known there
      exact ⟨old, names', showsOld.mono List.prefix_rfl kept⟩
  · intro other waits
    have different : other ≠ reference := by
      rintro rfl
      exact free waits
    rw [lookup_cons_of_ne value different]
    exact sound.waiting other waits

theorem Sound.enter (sound : Sound document origins busy s) {reference : String}
    (new : s.resolved.lookup reference = none) :
    Sound document origins busy { s with pending := reference :: s.pending } := by
  refine ⟨sound.sized, sound.mirrored, sound.known, ?_⟩
  intro other waits
  rcases List.mem_cons.mp waits with rfl | waits
  · exact new
  · exact sound.waiting other waits

theorem Sound.leave (sound : Sound document origins busy s) (reference : String) :
    Sound document origins busy { s with pending := s.pending.erase reference } :=
  ⟨sound.sized, sound.mirrored, sound.known,
    fun other waits => sound.waiting other (List.mem_of_mem_erase waits)⟩

end Steps

/-! ## What a whole visit keeps -/

/-- A visit that returns keeps the invariant, and its value shows what was visited. -/
def Faithful (document : Json) (walk : Json -> Step Value) : Prop :=
  ∀ ⦃origins : List Json⦄ ⦃busy : List Nat⦄ ⦃s s' : State⦄ ⦃shown : Json⦄ ⦃value : Value⦄,
    Sound document origins busy s -> walk shown s = .ok value s' ->
      ∃ origins', Later origins s origins' s' ∧ Sound document origins' busy s' ∧
        Shows document origins' s'.resolved shown value

variable {walk : Json -> Step Value} {busy : List Nat} {s s' : State}

theorem mapM_shows (faithful : Faithful document walk) {items : List Json}
    {values : List Value} (sound : Sound document origins busy s)
    (h : items.mapM walk s = .ok values s') :
    ∃ origins', Later origins s origins' s' ∧ Sound document origins' busy s' ∧
      List.Forall₂ (Shows document origins' s'.resolved) items values := by
  induction items generalizing origins s values with
  | nil =>
      simp only [List.mapM_nil, pure_eq_ok] at h
      obtain ⟨rfl, rfl⟩ := h
      exact ⟨origins, Later.refl _ _, sound, .nil⟩
  | cons item rest ih =>
      simp only [List.mapM_cons, bind_eq_ok, pure_eq_ok] at h
      obtain ⟨value, t, visited, values, _, more, rfl, rfl⟩ := h
      obtain ⟨origins₁, later₁, sound₁, shows₁⟩ := faithful sound visited
      obtain ⟨origins₂, later₂, sound₂, shows₂⟩ := ih sound₁ more
      exact ⟨origins₂, later₁.trans later₂, sound₂,
        .cons (shows₁.mono later₂.grown later₂.kept) shows₂⟩

theorem visitEntries_shows (faithful : Faithful document walk)
    {entries : List (String × Json)} {filled : List (String × Value)}
    (sound : Sound document origins busy s) (h : visitEntries walk entries s = .ok filled s') :
    ∃ origins', Later origins s origins' s' ∧ Sound document origins' busy s' ∧
      Mirrors document origins' s'.resolved (.dict entries) (.dict filled) := by
  rw [visitEntries_eq, map_eq_ok] at h
  obtain ⟨values, visited, rfl⟩ := h
  obtain ⟨origins', later, sound', shows'⟩ := mapM_shows faithful sound visited
  have length : entries.length = values.length := by simpa using shows'.length_eq
  refine ⟨origins', later, sound', .dict ?_ ?_⟩
  · rw [List.map_fst_zip (by simp [length])]
  · rw [List.map_snd_zip (by simp [length])]
    exact shows'

/-- A cell made after its parts were visited. -/
theorem make_shows (shown : Json) {cell : Cell} (sound : Sound document origins busy s)
    (plain : referenceOf? shown = none)
    (mirrors : Mirrors document origins s.resolved shown cell) :
    ∃ origins', Later origins s origins' { s with graph := ⟨s.graph.cells.push cell⟩ } ∧
      Sound document origins' busy { s with graph := ⟨s.graph.cells.push cell⟩ } ∧
      Shows document origins' s.resolved shown (.cell s.graph.cells.size) := by
  have grown : origins <+: origins ++ [shown] := List.prefix_append ..
  have origin : (origins ++ [shown])[origins.length]? = some shown := by simp
  refine ⟨origins ++ [shown], ⟨grown, Keeps.refl _, rfl⟩, ?_, ?_⟩
  · exact (sound.push shown cell).release origin (by simp [sound.sized])
      (mirrors.mono grown (Keeps.refl _))
  · exact .cell (by rw [← sound.sized]; exact origin) plain

/-- What resolving a reference keeps, and what is known of the reference afterwards. -/
def Resolved (document : Json) (origins : List Json) (busy : List Nat) (s s' : State)
    (reference : String) (value : Value) : Prop :=
  ∃ origins' target, Later origins s origins' s' ∧ Sound document origins' busy s' ∧
    named? document reference = some target ∧ s'.resolved.lookup reference = some value ∧
    Shows document origins' s'.resolved target value

/-- The new cell is busy while its entries are visited, and resolved all the same. -/
theorem resolveOwn_shows (faithful : Faithful document walk) {reference : String}
    {entries : List (String × Json)} {value : Value} (sound : Sound document origins busy s)
    (names : named? document reference = some (.dict entries))
    (plain : referenceOf? (.dict entries) = none) (new : s.resolved.lookup reference = none)
    (free : reference ∉ s.pending) (h : resolveOwn walk reference entries s = .ok value s') :
    Resolved document origins busy s s' reference value := by
  rw [resolveOwn_eq] at h
  split at h
  · rename_i filled t visited
    simp only [EStateM.Result.ok.injEq] at h
    obtain ⟨rfl, rfl⟩ := h
    have origin : (origins ++ [.dict entries])[origins.length]? = some (.dict entries) := by simp
    have opened := sound.push (.dict entries) (.dict [])
    have recorded := opened.record reference names (.cell origin plain) new free
    rw [sound.sized] at recorded
    obtain ⟨origins', later, sound', mirrors⟩ := visitEntries_shows faithful recorded visited
    have origin' : origins'[s.graph.cells.size]? = some (.dict entries) := by
      rw [← sound.sized]
      exact getElem?_of_grown later.grown origin
    have inside : s.graph.cells.size < t.graph.cells.size := by
      rw [← sound'.sized]
      exact (List.getElem?_eq_some_iff.mp origin').choose
    have resolved : t.resolved.lookup reference = some (.cell s.graph.cells.size) :=
      later.kept (by simp)
    refine ⟨origins', .dict entries, ⟨?_, ?_, later.pending⟩, ?_, names, resolved, ?_⟩
    · exact (List.prefix_append ..).trans later.grown
    · exact fun _ _ found => later.kept (Keeps.cons _ new found)
    · exact (sound'.set _).release origin' (by simp [inside]) mirrors
    · exact .cell origin' plain
  · simp at h

/-- The value of an alias is that of its target. -/
theorem resolveAlias_shows (faithful : Faithful document walk) {reference : String}
    {target : Json} {value : Value} (sound : Sound document origins busy s)
    (names : named? document reference = some target) (new : s.resolved.lookup reference = none)
    (free : reference ∉ s.pending) (h : resolveAlias walk reference target s = .ok value s') :
    Resolved document origins busy s s' reference value := by
  rw [resolveAlias_eq] at h
  split at h
  · rename_i old t visited
    simp only [EStateM.Result.ok.injEq] at h
    obtain ⟨rfl, rfl⟩ := h
    obtain ⟨origins', later, sound', shows'⟩ := faithful (sound.enter new) visited
    have erased : t.pending.erase reference = s.pending := by
      rw [later.pending, List.erase_cons_head]
    have unresolved : t.resolved.lookup reference = none :=
      sound'.waiting reference (by simp [later.pending])
    have kept := Keeps.cons old unresolved
    refine ⟨origins', target, ⟨later.grown, ?_, erased⟩, ?_, names, by simp, ?_⟩
    · exact fun _ _ found => kept (later.kept found)
    · refine (sound'.leave reference).record reference names shows' unresolved ?_
      rw [erased]
      exact free
    · exact shows'.mono List.prefix_rfl kept
  · simp at h

/-- A reference that is resolved has its value, which shows what it names. -/
theorem resolve_shows (faithful : Faithful document walk) {reference : String} {value : Value}
    (sound : Sound document origins busy s)
    (h : resolve document walk reference s = .ok value s') :
    Resolved document origins busy s s' reference value := by
  by_cases isLocal : ∃ pointer, reference.toList = '#' :: pointer
  · obtain ⟨pointer, isLocal⟩ := isLocal
    rw [resolve_eq document walk isLocal] at h
    cases known : s.resolved.lookup reference with
    | some old =>
        simp only [known, EStateM.Result.ok.injEq] at h
        obtain ⟨rfl, rfl⟩ := h
        obtain ⟨target, names, shows'⟩ := sound.known known
        exact ⟨origins, target, Later.refl _ _, sound, names, known, shows'⟩
    | none =>
        simp only [known] at h
        split at h
        · simp at h
        · rename_i notPending
          have free : reference ∉ s.pending := by simpa using notPending
          cases found : Pointer.get document pointer with
          | error fault => simp [found] at h
          | ok target =>
              have names := named?_of_local isLocal found
              simp only [found] at h
              cases own : ownEntries? target with
              | some entries =>
                  obtain ⟨rfl, plain⟩ := ownEntries?_eq_some.mp own
                  simp only [own] at h
                  exact resolveOwn_shows faithful sound names plain known free h
              | none =>
                  simp only [own] at h
                  exact resolveAlias_shows faithful sound names known free h
  · rw [resolve_remote document walk (fun pointer isLocal' => isLocal ⟨pointer, isLocal'⟩)] at h
    simp at h

/-- Every visit that returns keeps the invariant. -/
theorem visit_faithful (document : Json) (fuel : Nat) :
    Faithful document (visit document fuel) := by
  induction fuel with
  | zero =>
      intro origins busy s s' shown value sound h
      simp [visit] at h
  | succ fuel ih =>
      intro origins busy s s' shown value sound h
      cases shown with
      | atom a =>
          simp only [visit, pure_eq_ok] at h
          obtain ⟨rfl, rfl⟩ := h
          exact ⟨origins, Later.refl _ _, sound, .atom a⟩
      | list items =>
          simp only [visit, bind_eq_ok, make_eq, EStateM.Result.ok.injEq] at h
          obtain ⟨values, t, visited, rfl, rfl⟩ := h
          obtain ⟨origins₁, later₁, sound₁, parts⟩ := mapM_shows ih sound visited
          obtain ⟨origins₂, later₂, sound₂, shows₂⟩ :=
            make_shows (.list items) sound₁ rfl (.list parts)
          exact ⟨origins₂, later₁.trans later₂, sound₂, shows₂⟩
      | dict entries =>
          cases refers : reference? entries with
          | some reference =>
              simp only [visit, refers] at h
              obtain ⟨origins', target, later, sound', names, found, shows'⟩ :=
                resolve_shows ih sound h
              exact ⟨origins', later, sound', .shared refers names found shows'⟩
          | none =>
              simp only [visit, refers, bind_eq_ok, make_eq, EStateM.Result.ok.injEq] at h
              obtain ⟨filled, t, visited, rfl, rfl⟩ := h
              obtain ⟨origins₁, later₁, sound₁, mirrors⟩ := visitEntries_shows ih sound visited
              obtain ⟨origins₂, later₂, sound₂, shows₂⟩ :=
                make_shows (.dict entries) sound₁ refers mirrors
              exact ⟨origins₂, later₁.trans later₂, sound₂, shows₂⟩

end Resolution

end GraphFacade
