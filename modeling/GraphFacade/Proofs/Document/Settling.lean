import GraphFacade.Proofs.Document.Resolving
import GraphFacade.Proofs.Document.Tour
import GraphFacade.Proofs.Unseen

/-!
# When resolving ends well

In a document whose references all stand for dictionaries, resolving follows
the tour of its references: what was entered is resolved or pending.  Only
aliases are ever pending, and meeting a pending one is the only fault.  It
happens exactly when a reference is left before an alias that it uses.
-/

namespace GraphFacade

namespace Resolution

open Json Steps

variable {document : Json}

/-! ## Orders of references -/

theorem aliasesFirst_nil : AliasesFirst document [] := by
  intro before reference after same
  simp at same

theorem AliasesFirst.of_append {order more : List String}
    (h : AliasesFirst document (order ++ more)) : AliasesFirst document order := by
  intro before reference after same
  refine h before reference (after ++ more) ?_
  simp [same]

/-- A last reference adds only the demand that its own aliases have come. -/
theorem aliasesFirst_snoc {order : List String} {last : String} :
    AliasesFirst document (order ++ [last]) ↔
      AliasesFirst document order ∧
        ∀ used ∈ usedBy document last, IsAlias document used -> used ∈ order := by
  constructor
  · intro h
    exact ⟨h.of_append, h order last [] rfl⟩
  · rintro ⟨earlier, fits⟩ before reference after same
    rcases List.eq_nil_or_concat after with rfl | ⟨after, final, rfl⟩
    · obtain ⟨rfl, ends⟩ := List.append_inj' same rfl
      rw [List.cons.injEq] at ends
      rw [← ends.1]
      exact fits
    · have regrouped : order ++ [last] = (before ++ reference :: after) ++ [final] := by
        simpa using same
      obtain ⟨rfl, _⟩ := List.append_inj' regrouped rfl
      exact earlier before reference after rfl

/-! ## The run and the tour -/

/-- Resolved and pending references are those that the tour has entered. -/
structure Agrees (document : Json) (s : State) (tour : Tour) : Prop where
  entered : ∀ reference, reference ∈ tour.entered ↔
    (s.resolved.lookup reference).isSome ∨ reference ∈ s.pending
  finished : ∀ reference ∈ tour.finished, (s.resolved.lookup reference).isSome
  settled : ∀ reference, IsAlias document reference ->
    (s.resolved.lookup reference).isSome -> reference ∈ tour.finished
  waiting : ∀ reference ∈ s.pending,
    IsAlias document reference ∧ s.resolved.lookup reference = none

/-- What a visit needs to meet the references in `used`: pending ones lead to them. -/
structure Ready (document : Json) (s : State) (tour : Tour) (used : List String) : Prop where
  agrees : Agrees document s tour
  ordered : AliasesFirst document tour.finished
  leads : ∀ waiting ∈ s.pending, ∀ reference ∈ used, Leads document waiting reference

/--
How a visit ends that meets the references in `used`: with all of them resolved,
or at a pending alias, and then the tour leaves something too early.
-/
def Settles (document : Json) (used : List String) (s : State) (tour : Tour) {α : Type} :
    EStateM.Result Fault State α -> Prop
  | .ok _ s' => Agrees document s' tour ∧ s'.pending = s.pending ∧
      AliasesFirst document tour.finished ∧
      ∀ reference ∈ used, (s'.resolved.lookup reference).isSome
  | .error fault _ => ∃ reference, fault = .circularReference reference ∧
      IsAlias document reference ∧ Leads document reference reference ∧
      (¬ AliasesFirst document tour.finished ∨ ∃ waiting ∈ used, waiting ∈ s.pending)

theorem Ready.leads_on {s : State} {tour : Tour} {reference : String}
    (ready : Ready document s tour [reference]) :
    ∀ waiting ∈ s.pending, ∀ used ∈ usedBy document reference, Leads document waiting used :=
  fun waiting waits _ member => (ready.leads waiting waits reference (by simp)).tail member

theorem Agrees.not_finished {s : State} {tour later : Tour} {reference : String}
    (agrees : Agrees document s tour) (grows : tour.Grows later)
    (waits : reference ∈ s.pending) : reference ∉ later.finished := by
  obtain ⟨_, new, finished, fresh⟩ := grows
  rw [finished, List.mem_append]
  rintro (old | late)
  · have known := agrees.finished reference old
    rw [(agrees.waiting reference waits).2] at known
    simp at known
  · exact fresh reference late ((agrees.entered reference).mpr (.inr waits))

/-- What is resolved stays so while the tour goes on and the pending references are the same. -/
theorem Agrees.keeps {s s' : State} {tour later : Tour} {reference : String}
    (agrees : Agrees document s tour) (agrees' : Agrees document s' later)
    (grows : tour.Grows later) (same : s'.pending = s.pending)
    (known : (s.resolved.lookup reference).isSome) : (s'.resolved.lookup reference).isSome := by
  have entered := grows.1 ((agrees.entered reference).mpr (.inl known))
  rcases (agrees'.entered reference).mp entered with known' | waits
  · exact known'
  · rw [same] at waits
    rw [(agrees.waiting reference waits).2] at known
    simp at known

theorem isSome_lookup_cons {known : List (String × Value)} {reference other : String}
    {value : Value} : (((reference, value) :: known).lookup other).isSome ↔
      other = reference ∨ (known.lookup other).isSome := by
  by_cases same : other = reference
  · simp [same]
  · simp only [List.lookup_cons, beq_false_of_ne same, same, false_or]

/-- A dictionary of its own is resolved as soon as it is entered. -/
theorem Agrees.enter_own {s s' : State} {tour : Tour} {reference : String} {value : Value}
    (agrees : Agrees document s tour) (own : ¬ IsAlias document reference)
    (new : reference ∉ tour.entered) (resolved : s'.resolved = (reference, value) :: s.resolved)
    (pending : s'.pending = s.pending) :
    Agrees document s' { tour with entered := reference :: tour.entered } where
  entered other := by
    rw [resolved, pending, isSome_lookup_cons, List.mem_cons, agrees.entered other, or_assoc]
  finished other left := by
    rw [resolved, isSome_lookup_cons]
    exact .inr (agrees.finished other left)
  settled other aliased known := by
    rw [resolved, isSome_lookup_cons] at known
    rcases known with rfl | old
    · exact absurd aliased own
    · exact agrees.settled other aliased old
  waiting other waits := by
    rw [pending] at waits
    have different : other ≠ reference := by
      rintro rfl
      exact new ((agrees.entered other).mpr (.inr waits))
    rw [resolved, List.lookup_cons, beq_false_of_ne different]
    exact agrees.waiting other waits

/-- An alias is pending while its target is visited. -/
theorem Agrees.enter_alias {s s' : State} {tour : Tour} {reference : String}
    (agrees : Agrees document s tour) (aliased : IsAlias document reference)
    (new : reference ∉ tour.entered) (resolved : s'.resolved = s.resolved)
    (pending : s'.pending = reference :: s.pending) :
    Agrees document s' { tour with entered := reference :: tour.entered } where
  entered other := by
    rw [resolved, pending, List.mem_cons, List.mem_cons, agrees.entered other]
    exact or_left_comm
  finished other left := by
    rw [resolved]
    exact agrees.finished other left
  settled other aliased known := by
    rw [resolved] at known
    exact agrees.settled other aliased known
  waiting other waits := by
    rw [pending, List.mem_cons] at waits
    rw [resolved]
    rcases waits with rfl | waits
    · refine ⟨aliased, ?_⟩
      rw [agrees.entered, not_or] at new
      exact Option.not_isSome_iff_eq_none.mp new.1
    · exact agrees.waiting other waits

/-- A dictionary of its own is left. -/
theorem Agrees.leave_own {s s' : State} {tour : Tour} {reference : String}
    (agrees : Agrees document s tour) (known : (s.resolved.lookup reference).isSome)
    (resolved : s'.resolved = s.resolved) (pending : s'.pending = s.pending) :
    Agrees document s' { tour with finished := tour.finished ++ [reference] } where
  entered other := by
    rw [resolved, pending]
    exact agrees.entered other
  finished other left := by
    rw [resolved]
    rcases List.mem_append.mp left with old | last
    · exact agrees.finished other old
    · rw [List.mem_singleton.mp last]
      exact known
  settled other aliased known := by
    rw [resolved] at known
    exact List.mem_append_left _ (agrees.settled other aliased known)
  waiting other waits := by
    rw [pending] at waits
    rw [resolved]
    exact agrees.waiting other waits

/-- An alias is left: it is resolved and no longer pending. -/
theorem Agrees.leave_alias {s s' : State} {tour : Tour} {reference : String} {value : Value}
    (agrees : Agrees document s tour) (first : s.pending = reference :: s'.pending)
    (once : reference ∉ s'.pending) (resolved : s'.resolved = (reference, value) :: s.resolved) :
    Agrees document s' { tour with finished := tour.finished ++ [reference] } where
  entered other := by
    rw [resolved, isSome_lookup_cons, agrees.entered other, first, List.mem_cons, or_assoc]
    exact or_left_comm
  finished other left := by
    rw [resolved, isSome_lookup_cons]
    rcases List.mem_append.mp left with old | last
    · exact .inr (agrees.finished other old)
    · exact .inl (List.mem_singleton.mp last)
  settled other aliased known := by
    rw [resolved, isSome_lookup_cons] at known
    rcases known with rfl | old
    · simp
    · exact List.mem_append_left _ (agrees.settled other aliased old)
  waiting other waits := by
    have different : other ≠ reference := by
      rintro rfl
      exact once waits
    rw [resolved, List.lookup_cons, beq_false_of_ne different]
    exact agrees.waiting other (first ▸ List.mem_cons_of_mem _ waits)

/-- A failure stays one, whatever the tour would do next. -/
theorem Settles.of_error {used more : List String} {s s₀ state : State} {tour later : Tour}
    {fault : Fault} {α β : Type}
    (h : Settles document used s tour (.error fault state : EStateM.Result Fault State α))
    (same : s.pending = s₀.pending) (grows : tour.Grows later) (included : used ⊆ more) :
    Settles document more s₀ later (.error fault state : EStateM.Result Fault State β) := by
  obtain ⟨reference, circular, aliased, leads, reason⟩ := h
  refine ⟨reference, circular, aliased, leads, ?_⟩
  rcases reason with early | ⟨waiting, member, waits⟩
  · obtain ⟨_, new, finished, _⟩ := grows
    refine .inl fun ordered => early ?_
    rw [finished] at ordered
    exact ordered.of_append
  · exact .inr ⟨waiting, included member, same ▸ waits⟩

/-- A step that only makes a cell of what a visit gives changes nothing here. -/
theorem Settles.make {used : List String} {s : State} {tour : Tour} {α : Type}
    {walk : Step α} (h : Settles document used s tour (walk s)) (cell : α -> Cell) :
    Settles document used s tour
      ((do let values <- walk; Resolution.make (cell values) : Step Value) s) := by
  rw [bind_apply]
  cases result : walk s with
  | error fault state =>
      rw [result] at h
      exact h.of_error rfl (Tour.Grows.refl tour) (List.Subset.refl used)
  | ok values s' =>
      rw [result] at h
      obtain ⟨agrees, same, ordered, known⟩ := h
      exact ⟨⟨agrees.entered, agrees.finished, agrees.settled, agrees.waiting⟩, same, ordered,
        known⟩

theorem Settles.map {used : List String} {s : State} {tour : Tour} {α β : Type} {walk : Step α}
    (h : Settles document used s tour (walk s)) (f : α -> β) :
    Settles document used s tour ((f <$> walk) s) := by
  change Settles document used s tour (EStateM.map f walk s)
  cases result : walk s with
  | error fault state =>
      rw [result] at h
      simp only [EStateM.map, result]
      exact h.of_error rfl (Tour.Grows.refl tour) (List.Subset.refl used)
  | ok values s' =>
      rw [result] at h
      simp only [EStateM.map, result]
      exact h

/-! ## Visits -/

def missing (document : Json) (tour : Tour) : Nat :=
  unseen (references document) tour.entered

theorem missing_le {tour later : Tour} (grows : tour.Grows later) :
    missing document later ≤ missing document tour :=
  unseen_le grows.1

theorem missing_lt {tour : Tour} {reference : String} (member : reference ∈ references document)
    (new : reference ∉ tour.entered) :
    missing document { tour with entered := reference :: tour.entered } <
      missing document tour :=
  unseen_lt member new (List.subset_cons_self _ _) List.mem_cons_self

abbrev tourThrough (document : Json) (depth : Nat) (tour : Tour) (used : List String) : Tour :=
  used.foldl (Tour.enter (usedBy document) depth) tour

theorem grows_tourThrough (document : Json) (depth : Nat) (tour : Tour) (used : List String) :
    tour.Grows (tourThrough document depth tour used) :=
  Tour.Grows.foldl (Tour.grows_enter _ depth) used tour

/-- Values are visited one after another. -/
theorem mapM_settles {walk : Json -> Step Value} {depth few : Nat} {items : List Json} {s : State}
    {tour : Tour}
    (walks : ∀ item ∈ items, ∀ s tour, Ready document s tour (uses item) ->
      missing document tour ≤ few ->
      Settles document (uses item) s (tourThrough document depth tour (uses item)) (walk item s))
    (ready : Ready document s tour (items.flatMap uses)) (bound : missing document tour ≤ few) :
    Settles document (items.flatMap uses) s
      (tourThrough document depth tour (items.flatMap uses)) (items.mapM walk s) := by
  induction items generalizing s tour with
  | nil => exact ⟨ready.agrees, rfl, ready.ordered, by simp⟩
  | cons item rest ih =>
      have readyFirst : Ready document s tour (uses item) :=
        ⟨ready.agrees, ready.ordered, fun waiting waits reference member =>
          ready.leads waiting waits reference (by simp [member])⟩
      have first := walks item (by simp) s tour readyFirst bound
      have grows := grows_tourThrough document depth tour (uses item)
      rw [List.flatMap_cons, List.mapM_cons, bind_apply, tourThrough, List.foldl_append]
      have onwards := grows_tourThrough document depth
        (tourThrough document depth tour (uses item)) (rest.flatMap uses)
      cases result : walk item s with
      | error fault state =>
          rw [result] at first
          exact first.of_error rfl onwards (List.subset_append_left _ _)
      | ok value s₁ =>
          rw [result] at first
          obtain ⟨agrees, same, ordered, known⟩ := first
          have readyRest : Ready document s₁ (tourThrough document depth tour (uses item))
              (rest.flatMap uses) :=
            ⟨agrees, ordered, fun waiting waits reference member =>
              ready.leads waiting (same ▸ waits) reference (by
                rw [List.flatMap_cons]
                exact List.mem_append_right _ member)⟩
          have others := ih (fun item member => walks item (by simp [member])) readyRest
            (Nat.le_trans (missing_le grows) bound)
          cases resultRest : rest.mapM walk s₁ with
          | error fault state =>
              rw [resultRest] at others
              simp only [bind_apply, resultRest]
              exact others.of_error same (Tour.Grows.refl _) (List.subset_append_right _ _)
          | ok values s₂ =>
              rw [resultRest] at others
              obtain ⟨agrees', same', ordered', known'⟩ := others
              simp only [bind_apply, resultRest]
              refine ⟨agrees', same'.trans same, ordered', ?_⟩
              intro reference member
              rcases List.mem_append.mp member with old | late
              · exact agrees.keeps agrees' onwards same' (known reference old)
              · exact known' reference late

/-- In a grounded document each reference names something that stands for a dictionary. -/
theorem grounded_iff :
    Grounded document ↔ ∀ reference ∈ references document, ∃ target entries,
      named? document reference = some target ∧ Stands document target (.dict entries) := by
  constructor
  · intro grounded reference member
    obtain ⟨part, occurs, refers⟩ := mem_references_iff.mp member
    obtain ⟨entries, stands⟩ := grounded part occurs (by simp [refers])
    cases stands with
    | own plain => simp [plain] at refers
    | follow refers' names rest =>
        rw [refers, Option.some.injEq] at refers'
        exact ⟨_, entries, refers' ▸ names, rest⟩
  · intro named value occurs refers
    obtain ⟨reference, refers⟩ := Option.isSome_iff_exists.mp refers
    obtain ⟨target, entries, names, rest⟩ :=
      named reference (mem_references_iff.mpr ⟨value, occurs, refers⟩)
    exact ⟨entries, .follow refers names rest⟩

/-- In a grounded document a reference names a dictionary of its own or a reference. -/
theorem Grounded.target (grounded : Grounded document) {reference : String}
    (member : reference ∈ references document) :
    ∃ pointer target, reference.toList = '#' :: pointer ∧
      Pointer.get document pointer = .ok target ∧
      ((∃ entries, ownEntries? target = some entries) ∨ (referenceOf? target).isSome) := by
  obtain ⟨target, entries, names, stands⟩ := grounded_iff.mp grounded reference member
  unfold named? at names
  split at names
  · rename_i pointer isLocal
    cases found : Pointer.get document pointer with
    | error fault => simp [found, Except.toOption] at names
    | ok value =>
        rw [found] at names
        simp only [Except.toOption, Option.some.injEq] at names
        subst names
        refine ⟨pointer, value, isLocal, found, ?_⟩
        cases stands with
        | own plain => exact .inl ⟨entries, ownEntries?_eq_some.mpr ⟨rfl, plain⟩⟩
        | follow again => exact .inr (by simp [again])
  · simp at names

theorem Settles.leaves {reference : String} {s s' : State} {inner : Tour} {α : Type} {a : α}
    (h : Settles document (usedBy document reference) s inner (.ok a s')) :
    AliasesFirst document (inner.finished ++ [reference]) := by
  obtain ⟨agrees, _, ordered, known⟩ := h
  refine aliasesFirst_snoc.mpr ⟨ordered, ?_⟩
  intro used member aliased
  exact agrees.settled used aliased (known used member)

/-- If a reference uses an alias that is pending, it is left too early. -/
theorem Settles.leaves_early {reference : String} {s s₀ state : State} {tour inner : Tour}
    {fault : Fault} {α β : Type}
    (h : Settles document (usedBy document reference) s inner
      (.error fault state : EStateM.Result Fault State α))
    (agrees : Agrees document s tour) (grows : tour.Grows inner) :
    Settles document [reference] s₀ { inner with finished := inner.finished ++ [reference] }
      (.error fault state : EStateM.Result Fault State β) := by
  obtain ⟨circular, same, aliased, leads, reason⟩ := h
  refine ⟨circular, same, aliased, leads, .inl fun ordered => ?_⟩
  obtain ⟨earlier, fits⟩ := aliasesFirst_snoc.mp ordered
  rcases reason with early | ⟨waiting, member, waits⟩
  · exact early earlier
  · exact agrees.not_finished grows waits (fits waiting member (agrees.waiting waiting waits).1)

def tourPast (document : Json) (depth : Nat) (tour : Tour) (reference : String) : Tour :=
  let inner := tourThrough document depth { tour with entered := reference :: tour.entered }
    (usedBy document reference)
  { inner with finished := inner.finished ++ [reference] }

/--
What a reference uses is visited from a state that agrees with the tour; then
the reference is left if what follows resolves it and pends nothing new.
-/
theorem settles_of_entered {α : Type} {result : EStateM.Result Fault State α}
    {last : EStateM.Result Fault State Value} {depth : Nat} {reference : String} {s s₁ : State}
    {tour : Tour} (agrees : Agrees document s₁ { tour with entered := reference :: tour.entered })
    (visited : Settles document (usedBy document reference) s₁
      (tourThrough document depth { tour with entered := reference :: tour.entered }
        (usedBy document reference)) result)
    (leaves : ∀ a s₂ inner, result = .ok a s₂ -> Agrees document s₂ inner ->
      s₂.pending = s₁.pending ->
      ((s₁.resolved.lookup reference).isSome -> (s₂.resolved.lookup reference).isSome) ->
      ∃ value s₃, last = .ok value s₃ ∧ s₃.pending = s.pending ∧
        (s₃.resolved.lookup reference).isSome ∧
        Agrees document s₃ { inner with finished := inner.finished ++ [reference] })
    (fails : ∀ fault state, result = .error fault state -> last = .error fault state) :
    Settles document [reference] s (tourPast document depth tour reference) last := by
  have grows := grows_tourThrough document depth
    { tour with entered := reference :: tour.entered } (usedBy document reference)
  cases result with
  | error fault state =>
      rw [fails fault state rfl]
      exact visited.leaves_early agrees grows
  | ok a s₂ =>
      obtain ⟨value, s₃, rfl, pending, known, agrees'⟩ :=
        leaves a s₂ _ rfl visited.1 visited.2.1 (agrees.keeps visited.1 grows visited.2.1)
      refine ⟨agrees', pending, visited.leaves, ?_⟩
      intro other same
      rw [List.mem_singleton.mp same]
      exact known

/-- A dictionary of its own: its parts are visited when it is resolved already. -/
theorem resolveOwn_settles {walk : Json -> Step Value} {depth : Nat} {reference : String}
    {entries : List (String × Json)} {s : State} {tour : Tour}
    (names : named? document reference = some (.dict entries))
    (plain : referenceOf? (.dict entries) = none) (new : reference ∉ tour.entered)
    (walks : ∀ item ∈ entries.map Prod.snd, ∀ s' tour', Ready document s' tour' (uses item) ->
      missing document tour' ≤
        missing document { tour with entered := reference :: tour.entered } ->
      Settles document (uses item) s' (tourThrough document depth tour' (uses item))
        (walk item s'))
    (ready : Ready document s tour [reference]) :
    Settles document [reference] s (tourPast document depth tour reference)
      (resolveOwn walk reference entries s) := by
  have used : usedBy document reference = (entries.map Prod.snd).flatMap uses := by
    have met : uses (.dict entries) = usesOfEntries entries := by
      simp only [referenceOf?] at plain
      simp only [uses, plain]
    simp [usedBy, names, met, usesOfEntries_eq]
  have own : ¬ IsAlias document reference := by
    rintro ⟨target, names', refers⟩
    rw [names, Option.some.injEq] at names'
    rw [← names', plain] at refers
    simp at refers
  rw [resolveOwn_eq]
  generalize start : State.mk ⟨s.graph.cells.push (.dict [])⟩
    ((reference, .cell s.graph.cells.size) :: s.resolved) s.pending = s₁
  have resolved : s₁.resolved = (reference, .cell s.graph.cells.size) :: s.resolved := by
    rw [← start]
  have pending : s₁.pending = s.pending := by rw [← start]
  have agrees : Agrees document s₁ { tour with entered := reference :: tour.entered } :=
    ready.agrees.enter_own own new resolved pending
  have ready₁ : Ready document s₁ { tour with entered := reference :: tour.entered }
      (usedBy document reference) :=
    ⟨agrees, ready.ordered, fun waiting waits => ready.leads_on waiting (pending ▸ waits)⟩
  have visited : Settles document (usedBy document reference) s₁
      (tourThrough document depth { tour with entered := reference :: tour.entered }
        (usedBy document reference)) (visitEntries walk entries s₁) := by
    rw [visitEntries_eq]
    rw [used] at ready₁ ⊢
    exact (mapM_settles walks ready₁ (Nat.le_refl _)).map _
  refine settles_of_entered agrees visited ?_ ?_
  · intro filled s₂ inner result agrees₂ same kept
    have known := kept (by simp [resolved])
    rw [result]
    exact ⟨_, _, rfl, same.trans pending, known, agrees₂.leave_own known rfl rfl⟩
  · intro fault state result
    rw [result]

/-- An alias: it is pending while the reference it names is visited. -/
theorem resolveAlias_settles {walk : Json -> Step Value} {depth : Nat} {reference : String}
    {target : Json} {s : State} {tour : Tour}
    (names : named? document reference = some target)
    (refers : (referenceOf? target).isSome) (new : reference ∉ tour.entered)
    (walks : ∀ s' tour', Ready document s' tour' (uses target) ->
      missing document tour' ≤
        missing document { tour with entered := reference :: tour.entered } ->
      Settles document (uses target) s' (tourThrough document depth tour' (uses target))
        (walk target s'))
    (ready : Ready document s tour [reference]) :
    Settles document [reference] s (tourPast document depth tour reference)
      (resolveAlias walk reference target s) := by
  have used : usedBy document reference = uses target := by
    simp [usedBy, names]
  have aliased : IsAlias document reference := ⟨target, names, refers⟩
  have once : reference ∉ s.pending := fun waits =>
    new ((ready.agrees.entered reference).mpr (.inr waits))
  rw [resolveAlias_eq]
  generalize start : State.mk s.graph s.resolved (reference :: s.pending) = s₁
  have pending : s₁.pending = reference :: s.pending := by rw [← start]
  have agrees : Agrees document s₁ { tour with entered := reference :: tour.entered } :=
    ready.agrees.enter_alias aliased new (by rw [← start]) pending
  have ready₁ : Ready document s₁ { tour with entered := reference :: tour.entered }
      (usedBy document reference) := by
    refine ⟨agrees, ready.ordered, ?_⟩
    intro waiting waits other member
    rw [pending, List.mem_cons] at waits
    rcases waits with rfl | waits
    · exact .single member
    · exact ready.leads_on waiting waits other member
  have visited : Settles document (usedBy document reference) s₁
      (tourThrough document depth { tour with entered := reference :: tour.entered }
        (usedBy document reference)) (walk target s₁) := by
    rw [used] at ready₁ ⊢
    exact walks s₁ _ ready₁ (Nat.le_refl _)
  refine settles_of_entered agrees visited ?_ ?_
  · intro value s₂ inner result agrees₂ same _
    have waits : s₂.pending = reference :: s.pending := same.trans pending
    have erased : s₂.pending.erase reference = s.pending := by
      rw [waits, List.erase_cons_head]
    rw [result]
    dsimp only
    rw [erased]
    exact ⟨_, _, rfl, rfl, by simp, agrees₂.leave_alias waits once rfl⟩
  · intro fault state result
    rw [result]

/--
A reference.  One that the tour has not entered is entered, and what its target
uses is met before it is left; so an alias that is still pending then is too late.
-/
theorem resolve_settles (grounded : Grounded document) {walk : Json -> Step Value} {depth : Nat}
    {reference : String} (member : reference ∈ references document) {s : State} {tour : Tour}
    (walks : ∀ value, Occurs document value -> ∀ s' tour', Ready document s' tour' (uses value) ->
      missing document tour' < missing document tour ->
      Settles document (uses value) s' (tourThrough document depth tour' (uses value))
        (walk value s'))
    (ready : Ready document s tour [reference]) :
    Settles document [reference] s (tourThrough document (depth + 1) tour [reference])
      (resolve document walk reference s) := by
  obtain ⟨pointer, target, isLocal, found, shape⟩ := grounded.target member
  have agrees := ready.agrees
  have occurs := Pointer.occurs_of_get found
  rw [resolve_eq document walk isLocal]
  cases known : s.resolved.lookup reference with
  | some value =>
      have resolved : (s.resolved.lookup reference).isSome := by
        rw [known]
        rfl
      have entered := (agrees.entered reference).mpr (.inl resolved)
      simp only [tourThrough, List.foldl_cons, List.foldl_nil, Tour.enter_of_mem entered]
      refine ⟨agrees, rfl, ready.ordered, ?_⟩
      intro other same
      rw [List.mem_singleton.mp same]
      exact resolved
  | none =>
      by_cases waits : reference ∈ s.pending
      · simp only [List.contains_eq_mem, waits, decide_true, ↓reduceIte]
        exact ⟨reference, rfl, (agrees.waiting reference waits).1,
          ready.leads reference waits reference (by simp), .inr ⟨reference, by simp, waits⟩⟩
      · -- Neither resolved nor pending, so the tour enters it here as well.
        have new : reference ∉ tour.entered := by
          rw [agrees.entered, known]
          simpa using waits
        have fewer := missing_lt member new
        have names := named?_of_local isLocal found
        simp only [List.contains_eq_mem, waits, decide_false, Bool.false_eq_true, ↓reduceIte, found,
          tourThrough, List.foldl_cons, List.foldl_nil, Tour.enter_of_not_mem new]
        cases ownTarget : ownEntries? target with
        | some entries =>
            obtain ⟨rfl, plain⟩ := ownEntries?_eq_some.mp ownTarget
            refine resolveOwn_settles names plain new ?_ ready
            intro item part s' tour' ready' few
            obtain ⟨entry, inside, rfl⟩ := List.mem_map.mp part
            exact walks entry.2 (occurs.trans (.entry inside (.here _))) s' tour' ready'
              (Nat.lt_of_le_of_lt few fewer)
        | none =>
            have refers : (referenceOf? target).isSome := by
              rcases shape with ⟨entries, own⟩ | refers
              · simp [own] at ownTarget
              · exact refers
            refine resolveAlias_settles names refers new ?_ ready
            intro s' tour' ready' few
            exact walks target occurs s' tour' ready' (Nat.lt_of_le_of_lt few fewer)

/-- Every visit follows the tour: it meets all that it uses, or fails where the tour is early. -/
theorem visit_settles (grounded : Grounded document) {fuel depth : Nat} {value : Json} {s : State}
    {tour : Tour} (occurs : Occurs document value) (ready : Ready document s tour (uses value))
    (fueled : missing document tour * (document.size + 1) + value.size ≤ fuel)
    (deep : missing document tour < depth) :
    Settles document (uses value) s (tourThrough document depth tour (uses value))
      (visit document fuel value s) := by
  induction fuel generalizing depth value s tour with
  | zero =>
      have positive : 0 < value.size := by cases value <;> simp [size]
      omega
  | succ fuel ih =>
      cases value with
      | atom a => exact ⟨ready.agrees, rfl, ready.ordered, by simp [uses]⟩
      | list items =>
          simp only [uses, usesOfItems_eq] at ready ⊢
          refine (mapM_settles ?_ ready (Nat.le_refl _)).make .list
          intro item member s' tour' ready' few
          have smaller := size_le_sizeOfItems member
          have scaled := Nat.mul_le_mul_right (document.size + 1) few
          simp only [size] at fueled
          exact ih (occurs.trans (.item member (.here _))) ready' (by omega) (by omega)
      | dict entries =>
          cases refers : reference? entries with
          | none =>
              have met : uses (.dict entries) = (entries.map Prod.snd).flatMap uses := by
                simp only [uses, refers, usesOfEntries_eq]
              rw [met] at ready ⊢
              simp only [visit, refers, visitEntries_eq]
              refine ((mapM_settles ?_ ready (Nat.le_refl _)).map _).make .dict
              intro item part s' tour' ready' few
              obtain ⟨entry, inside, rfl⟩ := List.mem_map.mp part
              have smaller := size_le_sizeOfEntries inside
              have scaled := Nat.mul_le_mul_right (document.size + 1) few
              simp only [size] at fueled
              exact ih (occurs.trans (.entry inside (.here _))) ready' (by omega) (by omega)
          | some reference =>
              have met : uses (.dict entries) = [reference] := by simp only [uses, refers]
              have member : reference ∈ references document :=
                mem_references_iff.mpr ⟨_, occurs, refers⟩
              rw [met] at ready ⊢
              simp only [visit, refers]
              obtain ⟨depth, rfl⟩ : ∃ less, depth = less + 1 := ⟨depth - 1, by omega⟩
              refine resolve_settles grounded member ?_ ready
              -- One reference less to enter pays for a target as large as the document.
              intro target occurs' s' tour' ready' fewer
              have smaller := occurs'.size_le
              have scaled := Nat.mul_le_mul_right (document.size + 1) fewer
              have positive : 0 < (Json.dict entries).size := by simp [size]
              rw [Nat.succ_mul] at scaled
              exact ih occurs' ready' (by omega) (by omega)

end Resolution

open Resolution

/--
In a document whose references all stand for dictionaries, resolving ends well
if and only if no reference is left by the tour before an alias that it uses.
If it fails, then at an alias that leads back to itself.
-/
theorem Document.resolve_returns_iff {document : Json} (grounded : Grounded document) :
    ((∃ resolved, Document.resolve document = .ok resolved) ↔
      AliasesFirst document (leavingOrder document)) ∧
    ∀ fault, Document.resolve document = .error fault ->
      ∃ reference, fault = .circularReference reference ∧ IsAlias document reference ∧
        Leads document reference reference := by
  have few : missing document {} ≤ document.size :=
    Nat.le_trans List.countP_le_length (length_references_le document)
  have scaled := Nat.mul_le_mul_right (document.size + 1) few
  have ready : Ready document {} {} (uses document) := by
    refine ⟨⟨?_, ?_, ?_, ?_⟩, aliasesFirst_nil, ?_⟩ <;> simp
  have fueled : missing document {} * (document.size + 1) + document.size ≤ fuelFor document := by
    rw [fuelFor, Nat.succ_mul]
    omega
  have settles := visit_settles grounded (.here document) ready fueled
    (Nat.lt_succ_of_le List.countP_le_length)
  -- Nothing is pending at the start, so a failure means that the tour left something too early.
  change Settles document _ {} { entered := _, finished := leavingOrder document } _ at settles
  rw [Document.resolve, EStateM.run]
  cases result : visit document (fuelFor document) document {} with
  | ok value s =>
      rw [result] at settles
      exact ⟨⟨fun _ => settles.2.2.1, fun _ => ⟨_, rfl⟩⟩, by simp⟩
  | error fault s =>
      rw [result] at settles
      obtain ⟨reference, rfl, aliased, leads, early | ⟨_, _, waits⟩⟩ := settles
      · refine ⟨⟨by simp, fun ordered => absurd ordered early⟩, ?_⟩
        intro fault same
        simp only [Except.error.injEq] at same
        exact ⟨reference, same.symm, aliased, leads⟩
      · simp at waits

def aliased : List (String × Json) :=
  [("A", .dict [("$ref", .text "#/definitions/B")]),
    ("B", .dict [("x", .dict [("$ref", .text "#/definitions/A")])])]

/-- Two documents that differ only in the order of two definitions: one resolves, one fails. -/
theorem Document.resolve_returns_iff_aliased :
    (∃ resolved, Document.resolve (.dict [("definitions", .dict aliased)]) = .ok resolved) ∧
    ¬ ∃ resolved,
      Document.resolve (.dict [("definitions", .dict aliased.reverse)]) = .ok resolved := by
  have grounded : Grounded (.dict [("definitions", .dict aliased)]) := by
    refine grounded_iff.mpr (List.forall_mem_cons.mpr ⟨?_, List.forall_mem_singleton.mpr ?_⟩)
    · exact ⟨_, _, rfl, .own rfl⟩
    · exact ⟨_, _, rfl, .follow rfl rfl (.own rfl)⟩
  have grounded' : Grounded (.dict [("definitions", .dict aliased.reverse)]) := by
    refine grounded_iff.mpr (List.forall_mem_cons.mpr ⟨?_, List.forall_mem_singleton.mpr ?_⟩)
    · exact ⟨_, _, rfl, .follow rfl rfl (.own rfl)⟩
    · exact ⟨_, _, rfl, .own rfl⟩
  rw [(Document.resolve_returns_iff grounded).1, (Document.resolve_returns_iff grounded').1]
  have order : leavingOrder (.dict [("definitions", .dict aliased)]) =
      ["#/definitions/A", "#/definitions/B"] := by decide +kernel
  have order' : leavingOrder (.dict [("definitions", .dict aliased.reverse)]) =
      ["#/definitions/B", "#/definitions/A"] := by decide +kernel
  rw [order, order']
  constructor
  · change AliasesFirst _ (([] ++ ["#/definitions/A"]) ++ ["#/definitions/B"])
    refine aliasesFirst_snoc.mpr ⟨aliasesFirst_snoc.mpr ⟨aliasesFirst_nil, ?_⟩, ?_⟩
    · rintro used member ⟨target, names, refers⟩
      obtain rfl := List.mem_singleton.mp member
      obtain rfl := Option.some.inj names
      exact absurd refers (by decide)
    · intro used member _
      exact member
  · intro ordered
    have early := ordered [] "#/definitions/B" ["#/definitions/A"] rfl "#/definitions/A"
      (List.mem_singleton.mpr rfl) ⟨_, rfl, rfl⟩
    simp at early

end GraphFacade
