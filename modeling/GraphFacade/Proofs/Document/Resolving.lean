import GraphFacade.Proofs.Document.Expansion
import GraphFacade.Proofs.Steps

/-!
# How references are resolved

The resolver's steps as equations: what each does to the cells, to the resolved
and to the pending references.
-/

namespace GraphFacade

namespace Resolution

open Steps

theorem make_eq (cell : Cell) (s : State) :
    make cell s = .ok (.cell s.graph.cells.size)
      { s with graph := ⟨s.graph.cells.push cell⟩ } := rfl

theorem record_eq (reference : String) (value : Value) (s : State) :
    record reference value s = .ok () { s with resolved := (reference, value) :: s.resolved } := rfl

theorem enter_eq (reference : String) (s : State) :
    enter reference s = .ok () { s with pending := reference :: s.pending } := rfl

theorem leave_eq (reference : String) (s : State) :
    leave reference s = .ok () { s with pending := s.pending.erase reference } := rfl

theorem visitEntries_cons (visit : Json -> Step Value) (entry : String × Json)
    (rest : List (String × Json)) :
    visitEntries visit (entry :: rest) = (do
      let value <- visit entry.2
      let filled <- visitEntries visit rest
      return (entry.1, value) :: filled) := by
  simp [visitEntries]

theorem visitEntries_eq (visit : Json -> Step Value) (entries : List (String × Json)) :
    visitEntries visit entries =
      (fun values => (entries.map Prod.fst).zip values) <$> (entries.map Prod.snd).mapM visit := by
  induction entries with
  | nil => simp [visitEntries]
  | cons entry rest ih => simp [visitEntries_cons, ih]

/-- A dictionary of its own is recorded before its entries are visited, and filled afterwards. -/
def resolveOwn (walk : Json -> Step Value) (reference : String)
    (entries : List (String × Json)) : Step Value := do
  let value <- make (.dict [])
  record reference value
  let filled <- visitEntries walk entries
  fill value (.dict filled)
  return value

/-- Any other target is pending while it is visited, and recorded afterwards. -/
def resolveAlias (walk : Json -> Step Value) (reference : String) (target : Json) :
    Step Value := do
  enter reference
  let value <- walk target
  leave reference
  record reference value
  return value

theorem resolveOwn_eq (walk : Json -> Step Value) (reference : String)
    (entries : List (String × Json)) (s : State) :
    resolveOwn walk reference entries s =
      match visitEntries walk entries ⟨⟨s.graph.cells.push (.dict [])⟩,
          (reference, .cell s.graph.cells.size) :: s.resolved, s.pending⟩ with
      | .ok filled t => .ok (.cell s.graph.cells.size)
          { t with graph := t.graph.fill (.cell s.graph.cells.size) (.dict filled) }
      | .error fault t => .error fault t := by
  simp only [resolveOwn, bind_apply, make_eq, record_eq]
  cases visitEntries walk entries ⟨⟨s.graph.cells.push (.dict [])⟩,
    (reference, .cell s.graph.cells.size) :: s.resolved, s.pending⟩ <;> rfl

theorem resolveAlias_eq (walk : Json -> Step Value) (reference : String) (target : Json)
    (s : State) :
    resolveAlias walk reference target s =
      match walk target ⟨s.graph, s.resolved, reference :: s.pending⟩ with
      | .ok value t => .ok value ⟨t.graph, (reference, value) :: t.resolved,
          t.pending.erase reference⟩
      | .error fault t => .error fault t := by
  simp only [resolveAlias, bind_apply, enter_eq, leave_eq, record_eq]
  cases walk target ⟨s.graph, s.resolved, reference :: s.pending⟩ <;> rfl

theorem resolve_eq (document : Json) (walk : Json -> Step Value) {reference : String}
    {pointer : List Char} (isLocal : reference.toList = '#' :: pointer) (s : State) :
    resolve document walk reference s =
      match s.resolved.lookup reference with
      | some value => .ok value s
      | none =>
          if s.pending.contains reference then
            .error (.circularReference reference) s
          else
            match Pointer.get document pointer with
            | .error fault => .error fault s
            | .ok found =>
                match ownEntries? found with
                | some entries => resolveOwn walk reference entries s
                | none => resolveAlias walk reference found s := by
  unfold resolve
  rw [isLocal]
  change EStateM.bind get _ s = _
  simp only [EStateM.bind, get_apply]
  cases known : s.resolved.lookup reference with
  | some value => rfl
  | none =>
      dsimp only
      split
      · rfl
      · change EStateM.bind (target document pointer) _ s = _
        unfold target
        cases Pointer.get document pointer with
        | error fault => rfl
        | ok found =>
            change EStateM.bind (EStateM.pure found) _ s = _
            simp only [EStateM.bind, EStateM.pure]
            cases ownEntries? found <;> rfl

theorem resolve_remote (document : Json) (walk : Json -> Step Value) {reference : String}
    (remote : ∀ pointer, reference.toList ≠ '#' :: pointer) :
    resolve document walk reference = throw (.remoteReference reference) := by
  unfold resolve
  split
  · rename_i pointer isLocal
    exact absurd isLocal (remote pointer)
  · rfl

theorem named?_of_local {document : Json} {reference : String} {pointer : List Char}
    (isLocal : reference.toList = '#' :: pointer) {target : Json}
    (found : Pointer.get document pointer = .ok target) :
    named? document reference = some target := by
  simp [named?, isLocal, found, Except.toOption]

theorem ownEntries?_eq_some {value : Json} {entries : List (String × Json)} :
    ownEntries? value = some entries ↔ value = .dict entries ∧ referenceOf? value = none := by
  cases value <;> simp [ownEntries?, referenceOf?, and_comm]

end Resolution

end GraphFacade
