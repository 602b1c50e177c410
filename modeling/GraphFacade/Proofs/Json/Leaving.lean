import GraphFacade.Json.Reader
import GraphFacade.Proofs.Steps

/-!
# What readers leave

A reader leaves an end of the characters it was given.  It stops for the length
of an integer only where too long an integer stands.
-/

namespace GraphFacade

namespace Json

def StartsTooLong (limit : Nat) (cs : List Char) : Prop :=
  ∃ sign digits rest, cs = sign ++ digits ++ rest ∧ (sign = [] ∨ sign = ['-']) ∧
    (∀ c ∈ digits, c.isDigit = true) ∧ limit < digits.length

def Reading.Leaves {α : Type} (limit : Nat) (cs : List Char) : Reading α -> Prop
  | .ok (_, rest) => rest <:+ cs
  | .error stop =>
      stop.cause = .longInteger -> stop.rest <:+ cs ∧ StartsTooLong limit stop.rest

section Leaves

variable {α β : Type} {limit : Nat} {cs ds : List Char}

theorem Reading.Leaves.mono {reading : Reading α} (h : reading.Leaves limit cs) (le : cs <:+ ds) :
    reading.Leaves limit ds := by
  cases reading with
  | ok found => exact List.IsSuffix.trans h le
  | error stop => exact fun long => ⟨(h long).1.trans le, (h long).2⟩

theorem Reading.Leaves.suffix {reading : Reading α} (h : reading.Leaves limit cs) {found : α}
    {rest : List Char} (ended : reading = .ok (found, rest)) : rest <:+ cs := by
  subst ended
  exact h

theorem Reading.Leaves.stop {reading : Reading α} (h : reading.Leaves limit cs) {stop : Stop}
    (stopped : reading = .error stop) (le : cs <:+ ds) :
    Reading.Leaves limit ds (.error stop : Reading β) := by
  subst stopped
  exact h.mono le

theorem Reading.leaves_of_cause {stop : Stop} (other : stop.cause ≠ .longInteger) :
    Reading.Leaves limit cs (.error stop : Reading α) :=
  fun long => absurd long other

theorem Reading.Leaves.cons {reading : Reading (List Char)} (h : reading.Leaves limit cs)
    (le : cs <:+ ds) (code : Nat) : (reading.cons code).Leaves limit ds := by
  have wider := h.mono le
  cases reading with
  | ok found => exact wider
  | error stop => exact wider

end Leaves

section Leaving

variable {limit : Nat}

theorem skipSpace_suffix (cs : List Char) : skipSpace cs <:+ cs :=
  List.dropWhile_suffix isSpace

theorem suffix_of_skipSpace {c : Char} {cs rest : List Char} (h : skipSpace cs = c :: rest) :
    rest <:+ cs :=
  (List.suffix_cons c rest).trans (h ▸ skipSpace_suffix cs)

/-! ## Texts -/

theorem lowHalf?_cause {code : Nat} {next : Char} {more : List Char} {stop : Stop}
    (h : lowHalf? code next more = .error stop) : stop.cause = .badCodeEscape := by
  unfold lowHalf? at h
  split at h
  · split at h
    · split at h
      · split at h
        · rw [← Except.error.inj h]
        · cases h
      · cases h
    · cases h
  · cases h

theorem readText_leaves (limit : Nat) (opening cs : List Char) :
    (readText opening cs).Leaves limit cs := by
  fun_induction readText opening cs with
  | case2 => exact List.suffix_cons _ _
  | case5 =>
      rename_i half
      exact Reading.leaves_of_cause (by simp [lowHalf?_cause half])
  | case6 =>
      rename_i ih
      exact ih.cons (List.suffix_append [_, _, _, _, _, _] _) _
  | case7 =>
      rename_i ih
      exact ih.cons (List.suffix_append [_, _, _, _, _, _, _, _, _, _, _, _] _) _
  | case10 =>
      rename_i ih
      exact ih.cons (List.suffix_append [_, _] _) _
  | case13 =>
      rename_i ih
      exact ih.cons (List.suffix_cons _ _) _
  | _ => exact Reading.leaves_of_cause (by simp)

/-! ## Numbers -/

theorem readFraction_suffix (cs : List Char) : (readFraction cs).2 <:+ cs := by
  unfold readFraction
  split
  · dsimp only
    split
    · exact List.suffix_rfl
    · exact (List.dropWhile_suffix _).trans (List.suffix_cons _ _)
  · exact List.suffix_rfl

theorem readExponent_suffix (cs : List Char) : (readExponent cs).2 <:+ cs := by
  unfold readExponent
  dsimp only
  split
  all_goals try exact List.suffix_rfl
  all_goals
    split
    · split
      · exact List.suffix_rfl
      · first
        | exact (List.dropWhile_suffix _).trans (List.suffix_append [_, _] _)
        | exact (List.dropWhile_suffix _).trans (List.suffix_cons _ _)
    · exact List.suffix_rfl

theorem readWhole?_eq_some {cs whole rest : List Char} (h : readWhole? cs = some (whole, rest)) :
    cs = whole ++ rest ∧ ∀ c ∈ whole, c.isDigit = true := by
  unfold readWhole? at h
  split at h
  · obtain ⟨rfl, rfl⟩ := Prod.mk.inj (Option.some.inj h)
    exact ⟨rfl, by simp⟩
  · split at h
    · obtain ⟨rfl, rfl⟩ := Prod.mk.inj (Option.some.inj h)
      exact ⟨List.takeWhile_append_dropWhile.symm, List.all_eq_true.mp List.all_takeWhile⟩
    · cases h
  · cases h

theorem sign_append (cs : List Char) :
    ∃ sign, (sign = [] ∨ sign = ['-']) ∧
      cs = sign ++ (if cs.head? == some '-' then cs.drop 1 else cs) := by
  cases cs with
  | nil => exact ⟨[], by simp⟩
  | cons c rest =>
      by_cases minus : c = '-'
      · exact ⟨['-'], by simp [minus]⟩
      · exact ⟨[], by simp [minus]⟩

theorem readNumber_leaves (cs : List Char) : (readNumber limit cs).Leaves limit cs := by
  obtain ⟨sign, signed, cut⟩ := sign_append cs
  unfold readNumber
  dsimp only
  split
  · exact Reading.leaves_of_cause (by simp)
  · rename_i whole rest found
    obtain ⟨split, digits⟩ := readWhole?_eq_some found
    rw [split, ← List.append_assoc] at cut
    have after : rest <:+ cs := ⟨_, cut.symm⟩
    have leaves : (readExponent (readFraction rest).2).2 <:+ cs :=
      ((readExponent_suffix _).trans (readFraction_suffix _)).trans after
    split
    · split
      · rename_i long
        exact fun _ => ⟨List.suffix_rfl, sign, whole, rest, cut, signed, digits, long⟩
      · exact leaves
    · exact leaves

theorem readAtom_leaves (cs : List Char) : (readAtom limit cs).Leaves limit cs := by
  unfold readAtom
  split
  · exact List.suffix_append [_, _, _, _] _
  · exact List.suffix_append [_, _, _, _] _
  · exact List.suffix_append [_, _, _, _, _] _
  · exact List.suffix_append [_, _, _] _
  · exact List.suffix_append [_, _, _, _, _, _, _, _] _
  · exact List.suffix_append [_, _, _, _, _, _, _, _, _] _
  · exact readNumber_leaves _

/-! ## Values -/

theorem readKey_leaves (limit : Nat) (cs : List Char) : (readKey cs).Leaves limit cs := by
  unfold readKey
  split
  · rename_i rest
    have text := readText_leaves limit ('"' :: rest) rest
    split
    · rename_i stopped
      exact text.stop stopped (List.suffix_cons _ _)
    · rename_i ended
      split
      · rename_i colon
        exact (skipSpace_suffix _).trans ((suffix_of_skipSpace colon).trans
          ((text.suffix ended).trans (List.suffix_cons _ _)))
      · exact Reading.leaves_of_cause (by simp)
  · exact Reading.leaves_of_cause (by simp)

/-- What is read with some fuel leaves an end of what was given. -/
structure ReadsLeaving (limit fuel : Nat) : Prop where
  value : ∀ cs, (readValue limit fuel cs).Leaves limit cs
  items : ∀ cs, (readItems limit fuel cs).Leaves limit cs
  entries : ∀ cs, (readEntries limit fuel cs).Leaves limit cs

variable {fuel : Nat}

theorem ReadsLeaving.value_succ (below : ReadsLeaving limit fuel) (cs : List Char) :
    (readValue limit (fuel + 1) cs).Leaves limit cs := by
  unfold readValue
  split
  · rename_i rest
    have text := readText_leaves limit ('"' :: rest) rest
    split
    · rename_i stopped
      exact text.stop stopped (List.suffix_cons _ _)
    · rename_i ended
      exact (text.suffix ended).trans (List.suffix_cons _ _)
  · rename_i rest
    have inner : skipSpace rest <:+ '[' :: rest :=
      (skipSpace_suffix rest).trans (List.suffix_cons _ _)
    split
    · rename_i closed
      exact (suffix_of_skipSpace closed).trans (List.suffix_cons _ _)
    · have items := below.items (skipSpace rest)
      split
      · rename_i stopped
        exact items.stop stopped inner
      · rename_i ended
        exact (items.suffix ended).trans inner
  · rename_i rest
    have inner : skipSpace rest <:+ '\x7b' :: rest :=
      (skipSpace_suffix rest).trans (List.suffix_cons _ _)
    split
    · rename_i closed
      exact (suffix_of_skipSpace closed).trans (List.suffix_cons _ _)
    · have entries := below.entries (skipSpace rest)
      split
      · rename_i stopped
        exact entries.stop stopped inner
      · rename_i ended
        exact (entries.suffix ended).trans inner
  · exact readAtom_leaves _

theorem ReadsLeaving.items_succ (below : ReadsLeaving limit fuel) (cs : List Char) :
    (readItems limit (fuel + 1) cs).Leaves limit cs := by
  unfold readItems
  have value := below.value cs
  split
  · rename_i stopped
    exact value.stop stopped List.suffix_rfl
  · rename_i rest first
    have after := value.suffix first
    split
    · rename_i closed
      exact (suffix_of_skipSpace closed).trans after
    · rename_i more comma
      have items := below.items (skipSpace more)
      have later := (skipSpace_suffix more).trans ((suffix_of_skipSpace comma).trans after)
      split
      · rename_i stopped
        exact items.stop stopped later
      · rename_i ended
        exact (items.suffix ended).trans later
    · exact Reading.leaves_of_cause (by simp)

theorem ReadsLeaving.entries_succ (below : ReadsLeaving limit fuel) (cs : List Char) :
    (readEntries limit (fuel + 1) cs).Leaves limit cs := by
  unfold readEntries
  have key := readKey_leaves limit cs
  split
  · rename_i stopped
    exact key.stop stopped List.suffix_rfl
  · rename_i behind named
    have value := below.value behind
    have within := key.suffix named
    split
    · rename_i stopped
      exact value.stop stopped within
    · rename_i rest first
      have after := (value.suffix first).trans within
      split
      · rename_i closed
        exact (suffix_of_skipSpace closed).trans after
      · rename_i more comma
        have entries := below.entries (skipSpace more)
        have later := (skipSpace_suffix more).trans ((suffix_of_skipSpace comma).trans after)
        split
        · rename_i stopped
          exact entries.stop stopped later
        · rename_i ended
          exact (entries.suffix ended).trans later
      · exact Reading.leaves_of_cause (by simp)

theorem readsLeaving (limit fuel : Nat) : ReadsLeaving limit fuel := by
  induction fuel with
  | zero => constructor <;> intro cs <;> exact Reading.leaves_of_cause (by simp)
  | succ fuel ih => exact ⟨ih.value_succ, ih.items_succ, ih.entries_succ⟩

/-- A whole text that is not read for the length of an integer has too long an integer in it. -/
theorem readWithin_stops {cs : List Char} {stop : Stop} (h : readWithin limit cs = .error stop)
    (long : stop.cause = .longInteger) : stop.rest <:+ cs ∧ StartsTooLong limit stop.rest := by
  unfold readWithin at h
  split at h
  · rw [← Except.error.inj h] at long
    cases long
  · have leaves := ((readsLeaving limit (2 * cs.length + 2)).value (skipSpace cs)).mono
      (skipSpace_suffix cs)
    rcases Steps.except_bind_eq_error.mp h with stopped | ⟨⟨value, rest⟩, _, h⟩
    · rw [stopped] at leaves
      exact leaves long
    · dsimp only at h
      split at h
      · cases h
      · rw [← Except.error.inj h] at long
        cases long

end Leaving

end Json

end GraphFacade
