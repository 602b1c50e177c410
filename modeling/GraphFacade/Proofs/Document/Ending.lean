import GraphFacade.Proofs.Document.Resolving
import GraphFacade.Proofs.Document.Tour
import GraphFacade.Proofs.Entries
import GraphFacade.Proofs.Unseen
import Mathlib.Data.List.Perm.Basic

/-!
# Resolving ends

Whatever its references are, a document is resolved or refused: each reference
is looked up once at most, since it is resolved or pending from then on, and
between two of them a visit only goes down.  So the fuel is enough, and what is
refused is refused for one of the references.
-/

namespace GraphFacade

theorem Pointer.family_of_get {document : Json} {pointer : List Char} {fault : Fault}
    (failed : Pointer.get document pointer = .error fault) : fault.family = .loading := by
  unfold Pointer.get at failed
  split at failed
  · cases failed
  · split at failed
    · cases failed
      rfl
    · split at failed
      · cases failed
      · cases failed
        rfl

namespace Resolution

open Json Steps

variable {document : Json} {s t : State} {reference : String}

/-! ## What is looked up -/

def State.known (s : State) : List String :=
  s.resolved.map Prod.fst ++ s.pending

def State.owning (s : State) (reference : String) : State :=
  ⟨⟨s.graph.cells.push (.dict [])⟩, (reference, .cell s.graph.cells.size) :: s.resolved,
    s.pending⟩

def State.awaiting (s : State) (reference : String) : State :=
  ⟨s.graph, s.resolved, reference :: s.pending⟩

/-- What is looked up while values are visited, each from where the one before it ended. -/
def lookupsAlong (walk : Json -> Step Value) (looks : Json -> State -> List String) :
    List Json -> State -> List String
  | [], _ => []
  | item :: rest, s =>
      looks item s ++
        match walk item s with
        | .ok _ t => lookupsAlong walk looks rest t
        | .error _ _ => []

/-- What is looked up for a reference: nothing where it is known, else itself and all below it. -/
def lookupsOf (document : Json) (walk : Json -> Step Value) (looks : Json -> State -> List String)
    (reference : String) (s : State) : List String :=
  match reference.toList with
  | '#' :: pointer =>
      if reference ∈ s.known then
        []
      else
        reference ::
          match Pointer.get document pointer with
          | .error _ => []
          | .ok found =>
              match ownEntries? found with
              | some entries => lookupsAlong walk looks (entries.map Prod.snd) (s.owning reference)
              | none => looks found (s.awaiting reference)
  | _ => []

/-- The references whose targets are looked up while a value is visited, in this order. -/
def lookups (document : Json) : Nat -> Json -> State -> List String
  | 0, _, _ => []
  | _ + 1, .atom _, _ => []
  | fuel + 1, .list items, s => lookupsAlong (visit document fuel) (lookups document fuel) items s
  | fuel + 1, .dict entries, s =>
      match reference? entries with
      | some reference =>
          lookupsOf document (visit document fuel) (lookups document fuel) reference s
      | none =>
          lookupsAlong (visit document fuel) (lookups document fuel) (entries.map Prod.snd) s

/-! ## What a visit leaves behind -/

/-- What can be wrong with a reference of the document. -/
inductive Unresolvable (document : Json) : Fault -> Prop
  /-- It names a value of another document. -/
  | remote {reference : String} (member : reference ∈ references document)
      (elsewhere : ∀ pointer, reference.toList ≠ '#' :: pointer) :
      Unresolvable document (.remoteReference reference)
  /-- It names nothing in this document. -/
  | dangling {reference : String} {pointer : List Char} {fault : Fault}
      (member : reference ∈ references document) (isLocal : reference.toList = '#' :: pointer)
      (failed : Pointer.get document pointer = .error fault) : Unresolvable document fault
  /-- It stands for nothing but itself. -/
  | circular {reference : String} (member : reference ∈ references document) :
      Unresolvable document (.circularReference reference)

theorem Unresolvable.family {fault : Fault} (h : Unresolvable document fault) :
    fault.family = .loading := by
  cases h with
  | remote => rfl
  | dangling _ _ failed => exact Pointer.family_of_get failed
  | circular => rfl

/--
Where a run ends that looked some references up: in the end all of them are
resolved; after a failure all are known, but perhaps the last one.
-/
def Ends (document : Json) (s : State) (looked : List String) {α : Type} :
    EStateM.Result Fault State α -> Prop
  | .ok _ t => t.pending = s.pending ∧
      (t.resolved.map Prod.fst).Perm (looked ++ s.resolved.map Prod.fst)
  | .error fault t => Unresolvable document fault ∧
      ∃ more last, looked = more ++ last ∧ last.length ≤ 1 ∧ t.known.Perm (more ++ s.known)

/-- Each reference of the document is looked up once at most, and only if it is not known. -/
structure Once (document : Json) (s : State) (looked : List String) {α : Type}
    (result : EStateM.Result Fault State α) : Prop where
  distinct : looked.Nodup
  new : ∀ reference ∈ looked, reference ∉ s.known
  within : looked ⊆ references document
  ends : Ends document s looked result

variable {α β : Type} {looked : List String}

theorem known_perm (same : t.pending = s.pending)
    (resolved : (t.resolved.map Prod.fst).Perm (looked ++ s.resolved.map Prod.fst)) :
    t.known.Perm (looked ++ s.known) := by
  rw [State.known, State.known, same, ← List.append_assoc]
  exact resolved.append_right s.pending

theorem not_mem_known :
    reference ∉ s.known ↔ s.resolved.lookup reference = none ∧ reference ∉ s.pending := by
  rw [State.known, List.mem_append, not_or]
  refine and_congr_left fun _ => ⟨fun absent => ?_, Entries.not_mem_keys⟩
  cases found : s.resolved.lookup reference with
  | none => rfl
  | some value => exact absurd (List.mem_map_of_mem (Entries.mem_of_lookup found)) absent

theorem known_owning : (s.owning reference).known = reference :: s.known := rfl

theorem known_awaiting : (s.awaiting reference).known.Perm (reference :: s.known) :=
  List.perm_middle

theorem Once.nothing {a : α} : Once document s [] (.ok a s : EStateM.Result Fault State α) :=
  ⟨.nil, by simp, by simp, rfl, .refl _⟩

theorem Once.fails {fault : Fault} (cause : Unresolvable document fault) :
    Once document s [] (.error fault s : EStateM.Result Fault State α) :=
  ⟨.nil, by simp, by simp, cause, [], [], rfl, by simp, .refl _⟩

/-- What is made of the value of a run and of its cells does not matter. -/
theorem Once.of_eq {result : EStateM.Result Fault State α}
    {result' : EStateM.Result Fault State β} (h : Once document s looked result)
    (ok : ∀ a t, result = .ok a t ->
      ∃ b t', result' = .ok b t' ∧ t'.resolved = t.resolved ∧ t'.pending = t.pending)
    (error : ∀ fault t, result = .error fault t -> result' = .error fault t) :
    Once document s looked result' := by
  refine ⟨h.distinct, h.new, h.within, ?_⟩
  have ends := h.ends
  cases result with
  | ok a t =>
      obtain ⟨b, t', rfl, resolved, pending⟩ := ok a t rfl
      rw [Ends, resolved, pending]
      exact ends
  | error fault t =>
      rw [error fault t rfl]
      exact ends

theorem Once.make {walk : Step α} (h : Once document s looked (walk s)) (cell : α -> Cell) :
    Once document s looked
      ((do let values <- walk; Resolution.make (cell values) : Step Value) s) := by
  refine h.of_eq ?_ ?_
  · intro values t ended
    exact ⟨_, _, bind_eq_ok.mpr ⟨values, t, ended, make_eq _ _⟩, rfl, rfl⟩
  · intro fault t failed
    exact bind_eq_error.mpr (.inl failed)

theorem Once.map {walk : Step α} (h : Once document s looked (walk s)) (f : α -> β) :
    Once document s looked ((f <$> walk) s) := by
  refine h.of_eq ?_ ?_
  · intro values t ended
    exact ⟨f values, t, map_eq_ok.mpr ⟨values, ended, rfl⟩, rfl, rfl⟩
  · intro fault t failed
    change EStateM.map f walk s = _
    simp only [EStateM.map, failed]

/-! ## Visits -/

variable {walk : Json -> Step Value} {looks : Json -> State -> List String}

theorem Once.trans {earlier later : List String} {a : α} {result : EStateM.Result Fault State β}
    (first : Once document s earlier (.ok a t : EStateM.Result Fault State α))
    (second : Once document t later result) : Once document s (earlier ++ later) result := by
  obtain ⟨same, resolved⟩ := first.ends
  have grown := known_perm same resolved
  have apart : ∀ reference ∈ later, reference ∉ earlier ∧ reference ∉ s.known := by
    intro reference member
    have new := second.new reference member
    rwa [grown.mem_iff, List.mem_append, not_or] at new
  refine ⟨?_, ?_, List.append_subset.mpr ⟨first.within, second.within⟩, ?_⟩
  · refine List.nodup_append.mpr ⟨first.distinct, second.distinct, ?_⟩
    rintro reference early _ late rfl
    exact (apart reference late).1 early
  · intro reference member
    rcases List.mem_append.mp member with early | late
    · exact first.new reference early
    · exact (apart reference late).2
  · have ends := second.ends
    cases result with
    | ok b u =>
        refine ⟨ends.1.trans same, (ends.2.trans (resolved.append_left later)).trans ?_⟩
        rw [← List.append_assoc]
        exact List.perm_append_comm.append_right _
    | error fault u =>
        obtain ⟨cause, more, last, rfl, few, known⟩ := ends
        refine ⟨cause, earlier ++ more, last, (List.append_assoc _ _ _).symm, few, ?_⟩
        refine (known.trans (grown.append_left more)).trans ?_
        rw [← List.append_assoc]
        exact List.perm_append_comm.append_right _

/-- Values are visited one after another, and each knows what the ones before it looked up. -/
theorem mapM_once {items : List Json}
    (walks : ∀ item ∈ items, ∀ t, s.known ⊆ t.known ->
      Once document t (looks item t) (walk item t)) :
    Once document s (lookupsAlong walk looks items s) (items.mapM walk s) := by
  induction items generalizing s with
  | nil => exact Once.nothing
  | cons item rest ih =>
      have first := walks item List.mem_cons_self s (List.Subset.refl _)
      simp only [List.mapM_cons, bind_pure_comp, lookupsAlong, bind_apply]
      cases ended : walk item s with
      | error fault t =>
          rw [ended] at first
          simpa using first.of_eq (by simp) (by simp)
      | ok value t =>
          rw [ended] at first
          have grown := known_perm first.ends.1 first.ends.2
          have kept : s.known ⊆ t.known := fun reference old =>
            grown.mem_iff.mpr (List.mem_append_right _ old)
          have others := ih fun item member u later =>
            walks item (List.mem_cons_of_mem _ member) u (List.Subset.trans kept later)
          exact first.trans (others.map (value :: ·))

/-! ## References -/

/-- An object of its own is resolved from the start. -/
theorem resolveOwn_once {entries : List (String × Json)}
    (member : reference ∈ references document) (new : reference ∉ s.known)
    (below : Once document (s.owning reference) looked
      ((entries.map Prod.snd).mapM walk (s.owning reference))) :
    Once document s (reference :: looked) (resolveOwn walk reference entries s) := by
  have entered : Once document s [reference]
      (.ok () (s.owning reference) : EStateM.Result Fault State Unit) :=
    ⟨by simp, by simpa using new, by simpa using member, rfl, .refl _⟩
  have visited := entered.trans (below.map ((entries.map Prod.fst).zip ·))
  rw [← visitEntries_eq] at visited
  refine visited.of_eq ?_ ?_
  · intro filled t ended
    rw [State.owning] at ended
    simp only [resolveOwn_eq, ended]
    exact ⟨_, _, rfl, rfl, rfl⟩
  · intro fault t failed
    rw [State.owning] at failed
    simp only [resolveOwn_eq, failed]

/-- Any other target is pending while it is visited. -/
theorem resolveAlias_once {target : Json} (member : reference ∈ references document)
    (new : reference ∉ s.known)
    (below : Once document (s.awaiting reference) looked (walk target (s.awaiting reference))) :
    Once document s (reference :: looked) (resolveAlias walk reference target s) := by
  have apart : ∀ other ∈ looked, other ∉ reference :: s.known := fun other looked' =>
    known_awaiting.mem_iff.not.mp (below.new other looked')
  refine ⟨?_, ?_, List.cons_subset.mpr ⟨member, below.within⟩, ?_⟩
  · exact List.nodup_cons.mpr ⟨fun again => apart reference again List.mem_cons_self,
      below.distinct⟩
  · intro other met
    rcases List.mem_cons.mp met with rfl | later
    · exact new
    · exact fun old => apart other later (List.mem_cons_of_mem _ old)
  · have ends := below.ends
    rw [resolveAlias_eq]
    change Ends document s _ (match walk target (s.awaiting reference) with
      | .ok value t => .ok value ⟨t.graph, (reference, value) :: t.resolved,
          t.pending.erase reference⟩
      | .error fault t => .error fault t)
    cases ended : walk target (s.awaiting reference) with
    | ok value t =>
        rw [ended] at ends
        refine ⟨?_, ends.2.cons reference⟩
        rw [ends.1]
        exact List.erase_cons_head ..
    | error fault t =>
        rw [ended] at ends
        obtain ⟨cause, more, last, rfl, few, known⟩ := ends
        refine ⟨cause, reference :: more, last, rfl, few, ?_⟩
        exact (known.trans (known_awaiting.append_left more)).trans List.perm_middle

/-- A reference is looked up if it is not known; what it names occurs in the document. -/
theorem resolve_once (member : reference ∈ references document)
    (walks : reference ∉ s.known -> ∀ part, Occurs document part ->
      ∀ t, s.known ⊆ t.known -> reference ∈ t.known ->
        Once document t (looks part t) (walk part t)) :
    Once document s (lookupsOf document walk looks reference s)
      (resolve document walk reference s) := by
  by_cases here : ∃ pointer, reference.toList = '#' :: pointer
  · obtain ⟨pointer, isLocal⟩ := here
    rw [resolve_eq document walk isLocal]
    simp only [lookupsOf, isLocal]
    by_cases known : reference ∈ s.known
    · rw [if_pos known]
      cases found : s.resolved.lookup reference with
      | some value => exact Once.nothing
      | none =>
          have waits : reference ∈ s.pending := by
            by_contra absent
            exact not_mem_known.mpr ⟨found, absent⟩ known
          simp only [List.contains_eq_mem, waits, decide_true, ↓reduceIte]
          exact Once.fails (.circular member)
    · obtain ⟨unresolved, free⟩ := not_mem_known.mp known
      simp only [if_neg known, unresolved, List.contains_eq_mem, free, decide_false,
        Bool.false_eq_true, ↓reduceIte]
      cases found : Pointer.get document pointer with
      | error fault =>
          exact ⟨by simp, by simpa using known, by simpa using member,
            .dangling member isLocal found, [], [reference], rfl, by simp, .refl _⟩
      | ok target =>
          have occurs := Pointer.occurs_of_get found
          dsimp only
          cases own : ownEntries? target with
          | some entries =>
              refine resolveOwn_once member known (mapM_once ?_)
              intro item part t later
              obtain ⟨rfl, _⟩ := ownEntries?_eq_some.mp own
              obtain ⟨entry, inside, rfl⟩ := List.mem_map.mp part
              rw [known_owning, List.cons_subset] at later
              exact walks known entry.2 (occurs.trans (.entry inside (.here _))) t later.2 later.1
          | none =>
              refine resolveAlias_once member known (walks known target occurs _ ?_ ?_)
              · exact fun old there =>
                  known_awaiting.mem_iff.mpr (List.mem_cons_of_mem _ there)
              · exact known_awaiting.mem_iff.mpr List.mem_cons_self
  · have elsewhere : ∀ pointer, reference.toList ≠ '#' :: pointer := fun pointer isLocal =>
      here ⟨pointer, isLocal⟩
    rw [resolve_remote document walk elsewhere]
    have nothing : lookupsOf document walk looks reference s = [] := by
      unfold lookupsOf
      split
      · exact absurd ‹_› (elsewhere _)
      · rfl
    rw [nothing]
    exact Once.fails (.remote member elsewhere)

/--
A visit looks each reference up once at most, and its fuel lasts: one reference
less to know pays for a way down through the whole document.
-/
theorem visit_once {fuel : Nat} {value : Json} (occurs : Occurs document value)
    (fueled : unseen (references document) s.known * (document.size + 1) + value.size ≤ fuel) :
    Once document s (lookups document fuel value s) (visit document fuel value s) := by
  induction fuel generalizing value s with
  | zero =>
      have positive : 0 < value.size := by cases value <;> simp [size]
      omega
  | succ fuel ih =>
      have kept : ∀ {t : State}, s.known ⊆ t.known ->
          unseen (references document) t.known ≤ unseen (references document) s.known :=
        unseen_le
      cases value with
      | atom a => exact Once.nothing
      | list items =>
          refine (mapM_once ?_).make .list
          intro item member t later
          have smaller := size_le_sizeOfItems member
          have scaled := Nat.mul_le_mul_right (document.size + 1) (kept later)
          simp only [size] at fueled
          exact ih (occurs.trans (.item member (.here _))) (by omega)
      | dict entries =>
          cases refers : reference? entries with
          | none =>
              simp only [visit, lookups, refers, visitEntries_eq]
              refine ((mapM_once ?_).map _).make .dict
              intro item part t later
              obtain ⟨entry, inside, rfl⟩ := List.mem_map.mp part
              have smaller := size_le_sizeOfEntries inside
              have scaled := Nat.mul_le_mul_right (document.size + 1) (kept later)
              simp only [size] at fueled
              exact ih (occurs.trans (.entry inside (.here _))) (by omega)
          | some reference =>
              have member : reference ∈ references document :=
                mem_references_iff.mpr ⟨_, occurs, refers⟩
              simp only [visit, lookups, refers]
              refine resolve_once member ?_
              intro new part occurs' t later found
              have fewer := unseen_lt member new later found
              have smaller := occurs'.size_le
              have scaled := Nat.mul_le_mul_right (document.size + 1) (Nat.succ_le_of_lt fewer)
              have positive : 0 < (Json.dict entries).size := by simp [size]
              rw [Nat.succ_mul] at scaled
              exact ih occurs' (by omega)

/-! ## More fuel -/

variable {walk' : Json -> Step Value}

theorem mapM_outlasts (outlasts : Outlasts .endless walk' walk) {items : List Json}
    (ends : ∀ t, items.mapM walk s ≠ .error .endless t) :
    items.mapM walk' s = items.mapM walk s := by
  induction items generalizing s with
  | nil => rfl
  | cons item rest ih =>
      rw [List.mapM_cons] at ends ⊢
      rw [List.mapM_cons]
      refine bind_outlasts ends (outlasts item s) fun value t ends' => ?_
      exact bind_outlasts ends' ih fun _ _ _ => rfl

theorem visitEntries_outlasts (outlasts : Outlasts .endless walk' walk)
    {entries : List (String × Json)}
    (ends : ∀ t, visitEntries walk entries s ≠ .error .endless t) :
    visitEntries walk' entries s = visitEntries walk entries s := by
  rw [visitEntries_eq, map_eq_pure_bind] at ends ⊢
  rw [visitEntries_eq, map_eq_pure_bind]
  exact bind_outlasts ends (mapM_outlasts outlasts) fun _ _ _ => rfl

theorem resolveOwn_outlasts (outlasts : Outlasts .endless walk' walk)
    {entries : List (String × Json)}
    (ends : ∀ t, resolveOwn walk reference entries s ≠ .error .endless t) :
    resolveOwn walk' reference entries s = resolveOwn walk reference entries s := by
  refine bind_outlasts ends (fun _ => rfl) fun value t ends' => ?_
  refine bind_outlasts ends' (fun _ => rfl) fun _ u ends'' => ?_
  exact bind_outlasts ends'' (visitEntries_outlasts outlasts) fun _ _ _ => rfl

theorem resolveAlias_outlasts (outlasts : Outlasts .endless walk' walk) {target : Json}
    (ends : ∀ t, resolveAlias walk reference target s ≠ .error .endless t) :
    resolveAlias walk' reference target s = resolveAlias walk reference target s := by
  refine bind_outlasts ends (fun _ => rfl) fun _ t ends' => ?_
  exact bind_outlasts ends' (outlasts target t) fun _ _ _ => rfl

theorem resolve_outlasts (outlasts : Outlasts .endless walk' walk)
    (ends : ∀ t, resolve document walk reference s ≠ .error .endless t) :
    resolve document walk' reference s = resolve document walk reference s := by
  by_cases here : ∃ pointer, reference.toList = '#' :: pointer
  · obtain ⟨pointer, isLocal⟩ := here
    simp only [resolve_eq document _ isLocal] at ends ⊢
    cases known : s.resolved.lookup reference with
    | some value => rfl
    | none =>
        simp only [known] at ends ⊢
        split
        · rfl
        · rename_i free
          rw [if_neg free] at ends
          cases found : Pointer.get document pointer with
          | error fault => rfl
          | ok target =>
              simp only [found] at ends ⊢
              cases own : ownEntries? target with
              | some entries =>
                  simp only [own] at ends
                  exact resolveOwn_outlasts outlasts ends
              | none =>
                  simp only [own] at ends
                  exact resolveAlias_outlasts outlasts ends
  · rw [resolve_remote document walk' fun pointer isLocal => here ⟨pointer, isLocal⟩,
      resolve_remote document walk fun pointer isLocal => here ⟨pointer, isLocal⟩]

theorem visit_outlasts_succ (fuel : Nat) :
    Outlasts .endless (visit document (fuel + 1)) (visit document fuel) := by
  induction fuel with
  | zero => exact fun value s ends => absurd rfl (ends s)
  | succ fuel ih =>
      intro value s ends
      cases value with
      | atom a => rfl
      | list items =>
          rw [visit] at ends ⊢
          rw [visit]
          exact bind_outlasts ends (mapM_outlasts ih) fun _ _ _ => rfl
      | dict entries =>
          cases refers : reference? entries with
          | some reference =>
              simp only [visit, refers] at ends ⊢
              exact resolve_outlasts ih ends
          | none =>
              simp only [visit, refers] at ends ⊢
              exact bind_outlasts ends (visitEntries_outlasts ih) fun _ _ _ => rfl

/-- The fuel of a document is enough for it. -/
theorem visit_document_once (document : Json) :
    Once document {} (lookups document (fuelFor document) document {})
      (visit document (fuelFor document) document {}) := by
  have few : unseen (references document) (State.known {}) ≤ document.size :=
    Nat.le_trans List.countP_le_length (length_references_le document)
  have scaled := Nat.mul_le_mul_right (document.size + 1) few
  refine visit_once (.here document) ?_
  rw [fuelFor, Nat.succ_mul]
  omega

end Resolution

open Resolution Steps

/--
Every document is resolved, or refused for one of its references, and more fuel
changes nothing.  The target of each reference is looked up once at most: those
that were looked up are the resolved ones, except that a failure leaves some
pending and perhaps the last one without a target.
-/
theorem Document.resolve_ends (document : Json) :
    ((∃ resolved, Document.resolve document = .ok resolved) ∨
      ∃ fault, Document.resolve document = .error fault ∧ Unresolvable document fault ∧
        fault.family = .loading) ∧
    (∀ fuel, fuelFor document ≤ fuel ->
      visit document fuel document {} = visit document (fuelFor document) document {}) ∧
    (lookups document (fuelFor document) document {}).Nodup ∧
    lookups document (fuelFor document) document {} ⊆ references document ∧
    (∀ root s, visit document (fuelFor document) document {} = .ok root s ->
      s.pending = [] ∧
      (s.resolved.map Prod.fst).Perm (lookups document (fuelFor document) document {})) ∧
    ∀ fault s, visit document (fuelFor document) document {} = .error fault s ->
      ∃ more last, lookups document (fuelFor document) document {} = more ++ last ∧
        last.length ≤ 1 ∧ (s.resolved.map Prod.fst ++ s.pending).Perm more := by
  have once := visit_document_once document
  have ends := once.ends
  refine ⟨?_, ?_, once.distinct, once.within, ?_, ?_⟩
  · rw [Document.resolve, EStateM.run]
    cases result : visit document (fuelFor document) document {} with
    | ok root s => exact .inl ⟨_, rfl⟩
    | error fault s =>
        rw [result] at ends
        exact .inr ⟨fault, rfl, ends.1, ends.1.family⟩
  · intro fuel le
    refine outlasts_of_le visit_outlasts_succ le document {} fun t failed => ?_
    rw [failed] at ends
    have family : Fault.endless.family = .loading := ends.1.family
    cases family
  · intro root s result
    rw [result] at ends
    exact ⟨ends.1, by simpa using ends.2⟩
  · intro fault s result
    rw [result] at ends
    obtain ⟨_, more, last, same, few, known⟩ := ends
    exact ⟨more, last, same, few, by simpa [State.known] using known⟩

def Document.signposts : Json :=
  .dict [("a", .dict [("$ref", .text "#/b")]), ("b", .dict [("$ref", .text "#/c")]),
    ("c", .dict []), ("d", .dict [("$ref", .text "#/b")])]

def Document.roundabout : Json :=
  .dict [("a", .dict [("$ref", .text "#/b")]), ("b", .dict [("$ref", .text "#/a")]),
    ("c", .dict [("$ref", .text "#/a")])]

/-- All signposts are followed once, and those that lead round are found out. -/
theorem Document.resolve_ends_signposts :
    (∃ root s, visit signposts (fuelFor signposts) signposts {} = .ok root s ∧
      (s.resolved.map Prod.fst).Perm ["#/b", "#/c"]) ∧
    ∃ fault, Document.resolve roundabout = .error fault ∧ Unresolvable roundabout fault ∧
      lookups roundabout (fuelFor roundabout) roundabout {} = ["#/b", "#/a"] ∧
      ∃ s more last, visit roundabout (fuelFor roundabout) roundabout {} = .error fault s ∧
        ["#/b", "#/a"] = more ++ last ∧ last.length ≤ 1 ∧
        (s.resolved.map Prod.fst ++ s.pending).Perm more := by
  constructor
  · have followed : lookups signposts (fuelFor signposts) signposts {} = ["#/b", "#/c"] := by
      decide +kernel
    have shown : (returned? (visit signposts (fuelFor signposts) signposts {})).any
        fun _ => true := by
      decide +kernel
    obtain ⟨root, s, resolves, _⟩ := ok_of_returned shown
    obtain ⟨_, _, _, _, resolved, _⟩ := resolve_ends signposts
    exact ⟨root, s, resolves, followed ▸ (resolved root s resolves).2⟩
  · have followed : lookups roundabout (fuelFor roundabout) roundabout {} = ["#/b", "#/a"] := by
      decide +kernel
    have shown : (failed? (visit roundabout (fuelFor roundabout) roundabout {})).any
        fun _ => true := by
      decide +kernel
    obtain ⟨fault, s, fails, _⟩ := error_of_failed shown
    obtain ⟨ends, _, _, _, _, failed⟩ := resolve_ends roundabout
    have refused : Document.resolve roundabout = .error fault := by
      rw [Document.resolve, EStateM.run, fails]
    obtain ⟨more, last, same, few, known⟩ := failed fault s fails
    rcases ends with ⟨resolved, resolves⟩ | ⟨fault', refused', reason, _⟩
    · rw [refused] at resolves
      cases resolves
    · rw [refused, Except.error.injEq] at refused'
      subst refused'
      exact ⟨fault, refused, reason, followed, s, more, last, fails, followed ▸ same, few, known⟩

end GraphFacade
