import GraphFacade.Run

/-!
# Opening steps

Steps that change a state and may fail are opened one bind at a time: a
sequence that ends well has a state in the middle, and one that fails does so
in its first part or after it.  Where fuel bounds them, more of it changes
nothing once there is enough.
-/

namespace GraphFacade

namespace Steps

variable {ε σ α β : Type} {s s' : σ}

/-- The second step starts where the first ended, if it ended well. -/
theorem bind_apply {x : EStateM ε σ α} {f : α -> EStateM ε σ β} :
    (x >>= f) s =
      match x s with
      | .ok a t => f a t
      | .error e t => .error e t := by
  change EStateM.bind x f s = _
  cases h : x s <;> simp [EStateM.bind, h]

theorem bind_eq_ok {x : EStateM ε σ α} {f : α -> EStateM ε σ β} {b : β} :
    (x >>= f) s = .ok b s' ↔ ∃ a t, x s = .ok a t ∧ f a t = .ok b s' := by
  change EStateM.bind x f s = .ok b s' ↔ _
  cases h : x s <;> simp [EStateM.bind, h, and_assoc]

theorem bind_eq_error {x : EStateM ε σ α} {f : α -> EStateM ε σ β} {e : ε} :
    (x >>= f) s = .error e s' ↔
      x s = .error e s' ∨ ∃ a t, x s = .ok a t ∧ f a t = .error e s' := by
  change EStateM.bind x f s = .error e s' ↔ _
  cases h : x s <;> simp [EStateM.bind, h, and_assoc]

theorem map_eq_ok {x : EStateM ε σ α} {f : α -> β} {b : β} :
    (f <$> x) s = .ok b s' ↔ ∃ a, x s = .ok a s' ∧ f a = b := by
  change EStateM.map f x s = .ok b s' ↔ _
  cases h : x s <;> simp [EStateM.map, h, and_comm, and_assoc]

@[simp]
theorem get_apply : (get : EStateM ε σ σ) s = .ok s s := rfl

@[simp]
theorem pure_eq_ok {a b : α} : (pure a : EStateM ε σ α) s = .ok b s' ↔ a = b ∧ s = s' := by
  change EStateM.Result.ok a s = .ok b s' ↔ _
  simp

@[simp]
theorem pure_ne_error {a : α} {e : ε} : (pure a : EStateM ε σ α) s ≠ .error e s' := by
  change EStateM.Result.ok a s ≠ .error e s'
  simp

@[simp]
theorem throw_ne_ok {e : ε} {b : β} : (throw e : EStateM ε σ β) s ≠ .ok b s' := by
  change EStateM.Result.error e s ≠ .ok b s'
  simp

@[simp]
theorem throw_eq_error {e e' : ε} :
    (throw e : EStateM ε σ β) s = .error e' s' ↔ e = e' ∧ s = s' := by
  change EStateM.Result.error e s = .error e' s' ↔ _
  simp

/-- A plain computation leaves the state alone. -/
theorem ofExcept_apply {x : Except ε α} :
    (MonadExcept.ofExcept x : EStateM ε σ α) s =
      match x with
      | .ok a => .ok a s
      | .error e => .error e s := by
  cases x <;> rfl

theorem ofExcept_eq_ok {x : Except ε α} {a : α} :
    (MonadExcept.ofExcept x : EStateM ε σ α) s = .ok a s' ↔ x = .ok a ∧ s = s' := by
  rw [ofExcept_apply]
  cases x <;> simp

theorem ofExcept_eq_error {x : Except ε α} {e : ε} :
    (MonadExcept.ofExcept x : EStateM ε σ α) s = .error e s' ↔ x = .error e ∧ s = s' := by
  rw [ofExcept_apply]
  cases x <;> simp

theorem except_bind_eq_ok {x : Except ε α} {f : α -> Except ε β} {b : β} :
    (x >>= f) = .ok b ↔ ∃ a, x = .ok a ∧ f a = .ok b := by
  change Except.bind x f = .ok b ↔ _
  cases x <;> simp [Except.bind]

theorem except_bind_eq_error {x : Except ε α} {f : α -> Except ε β} {e : ε} :
    (x >>= f) = .error e ↔ x = .error e ∨ ∃ a, x = .ok a ∧ f a = .error e := by
  change Except.bind x f = .error e ↔ _
  cases x <;> simp [Except.bind]

/-- What fails for some elements of a list fails for the list, unless it has none of them. -/
theorem except_mapM_ite {holds : α -> Prop} [DecidablePred holds] (f : α -> β) (e : ε)
    (list : List α) :
    (list.mapM fun a => if holds a then Except.ok (f a) else Except.error e) =
      if ∀ a ∈ list, holds a then .ok (list.map f) else .error e := by
  induction list with
  | nil => simp [pure, Except.pure]
  | cons a rest ih =>
      rw [List.mapM_cons, ih]
      by_cases first : holds a
      · by_cases others : ∀ b ∈ rest, holds b
        · rw [if_pos first, if_pos others, if_pos (List.forall_mem_cons.mpr ⟨first, others⟩)]
          rfl
        · rw [if_pos first, if_neg others, if_neg fun all => others (List.forall_mem_cons.mp all).2]
          rfl
      · rw [if_neg first, if_neg fun all => first (List.forall_mem_cons.mp all).1]
        rfl

/-! ## Fuel -/

def Outlasts {ι : Type} (lack : ε) (walk' walk : ι -> EStateM ε σ α) : Prop :=
  ∀ value s, (∀ t, walk value s ≠ .error lack t) -> walk' value s = walk value s

theorem outlasts_of_le {ι : Type} {lack : ε} {walk : Nat -> ι -> EStateM ε σ α}
    (step : ∀ fuel, Outlasts lack (walk (fuel + 1)) (walk fuel)) {fuel more : Nat}
    (le : fuel ≤ more) : Outlasts lack (walk more) (walk fuel) := by
  induction le with
  | refl => exact fun _ _ _ => rfl
  | step _ ih =>
      intro value s ends
      have same := ih value s ends
      rw [← same]
      exact step _ value s (same ▸ ends)

/-- A step and what follows it last as long as each of them does. -/
theorem bind_outlasts {lack : ε} {first first' : EStateM ε σ α} {next next' : α -> EStateM ε σ β}
    (ends : ∀ t, (first >>= next) s ≠ .error lack t)
    (same : (∀ t, first s ≠ .error lack t) -> first' s = first s)
    (others : ∀ a t, (∀ u, next a t ≠ .error lack u) -> next' a t = next a t) :
    (first' >>= next') s = (first >>= next) s := by
  rw [bind_apply, bind_apply, same fun t failed => ends t (bind_eq_error.mpr (.inl failed))]
  cases ended : first s with
  | error fault t => rfl
  | ok a t =>
      exact others a t fun u failed => ends u (bind_eq_error.mpr (.inr ⟨a, t, ended, failed⟩))

/-! ## Runs on fixed inputs -/

def returned? : EStateM.Result ε σ α -> Option (α × σ)
  | .ok a s => some (a, s)
  | .error _ _ => none

def failed? : EStateM.Result ε σ α -> Option (ε × σ)
  | .ok _ _ => none
  | .error e s => some (e, s)

theorem ok_of_returned {result : EStateM.Result ε σ α} {p : α × σ -> Bool}
    (h : (returned? result).any p) : ∃ a s, result = .ok a s ∧ p (a, s) := by
  cases result with
  | ok a s => exact ⟨a, s, rfl, h⟩
  | error e s => cases h

theorem error_of_failed {result : EStateM.Result ε σ α} {p : ε × σ -> Bool}
    (h : (failed? result).any p) : ∃ e s, result = .error e s ∧ p (e, s) := by
  cases result with
  | ok a s => cases h
  | error e s => exact ⟨e, s, rfl, h⟩

theorem ok_of_toOption {x : Except ε α} {p : α -> Bool} (h : x.toOption.any p) :
    ∃ a, x = .ok a ∧ p a := by
  cases x with
  | ok a => exact ⟨a, rfl, h⟩
  | error e => cases h

end Steps

end GraphFacade
