import GraphFacade.Proofs.Json.RoundTrip
import GraphFacade.Types.Answer

/-!
# Answers in fields of texts

Fitting an answer to its field changes it only in a field of texts, and only
when it is neither null nor a text.  If it has a JSON text, that is what it
becomes, and it is read from it again, so nothing of it is lost.
-/

namespace GraphFacade

namespace Answer

variable {type type' : TypeRef} {raw raw' result : Json} {text : String} {fault : Fault}

theorem holdsText_iff : holdsText type = true ↔ type.nullable = .scalar .string :=
  beq_iff_eq

theorem fit_nonNull (bare : ∀ inner, type ≠ .nonNull inner) (raw : Json) :
    fit (.nonNull type) raw = fit type raw := by
  have same : (TypeRef.nonNull type).nullable = type.nullable := by
    cases type with
    | nonNull inner => exact absurd rfl (bare inner)
    | _ => rfl
  unfold fit holdsText
  rw [same]

/-! ## Texts of answers -/

/-- An answer that JSON cannot hold for its numbers does not show otherwise either. -/
theorem textOf_eq (raw : Json) : textOf raw = raw.dumped := by
  unfold textOf
  cases written : raw.dumped with
  | ok text => rfl
  | error fault =>
      obtain ⟨long, rfl⟩ := Json.dumped_eq_error.mp written
      exact Json.shown_eq_error.mpr ⟨long, rfl⟩

theorem read_dumped (standard : raw.Standard) (written : raw.dumped = .ok text) :
    Json.read text.toList = .ok raw := by
  obtain ⟨short, rfl⟩ := Json.dumped_eq_ok.mp written
  rw [Json.oneLine, String.toList_ofList]
  exact standard.readWithin short

/-! ## Answers that change -/

def Retold (type : TypeRef) (raw : Json) : Prop :=
  type.nullable = .scalar .string ∧ raw ≠ .null ∧ ∀ s, raw ≠ .text s

theorem fit_of_retold (retold : Retold type raw) :
    fit type raw = raw.dumped.map fun text => .text text := by
  obtain ⟨holds, notNull, noText⟩ := retold
  unfold fit
  rw [if_pos (holdsText_iff.mpr holds)]
  split
  · exact absurd rfl notNull
  · rename_i s
    exact absurd rfl (noText s)
  · rw [textOf_eq]

theorem fit_of_not_retold (kept : ¬ Retold type raw) : fit type raw = .ok raw := by
  unfold fit
  split
  · rename_i holds
    split
    · rfl
    · rfl
    · rename_i notNull noText
      exact absurd ⟨holdsText_iff.mp holds, notNull, noText⟩ kept
  · rfl

theorem fit_eq_text (retold : Retold type raw) :
    fit type raw = .ok result ↔ ∃ text, raw.dumped = .ok text ∧ result = .text text := by
  rw [fit_of_retold retold]
  cases raw.dumped <;> simp [Except.map, eq_comm]

theorem fit_ne_iff : fit type raw ≠ .ok raw ↔ Retold type raw := by
  constructor
  · intro changed
    by_contra kept
    exact changed (fit_of_not_retold kept)
  · intro retold same
    obtain ⟨text, _, isText⟩ := (fit_eq_text retold).mp same
    exact retold.2.2 _ isText

theorem fit_eq_error (retold : Retold type raw) :
    fit type raw = .error fault ↔ raw.dumped = .error fault := by
  rw [fit_of_retold retold]
  cases raw.dumped <;> simp [Except.map]

/-- A fitted answer stays as it is, and a fault is one again. -/
theorem fit_fit (type : TypeRef) (raw : Json) :
    (fit type raw).bind (fit type) = fit type raw := by
  by_cases retold : Retold type raw
  · cases fitted : fit type raw with
    | error fault => rfl
    | ok result =>
        obtain ⟨text, _, rfl⟩ := (fit_eq_text retold).mp fitted
        exact fit_of_not_retold fun again => again.2.2 _ rfl
  · rw [fit_of_not_retold retold]
    exact fit_of_not_retold retold

def letter : Json :=
  .dict [("from", .text "Ana 😀"),
    ("weights", .list [.float (.finite true 7205759403792794 1018), .int 1]), ("stamps", .dict [])]

theorem letter_standard : letter.Standard := by
  have weight : (Binary64.finite true 7205759403792794 1018).Proper := by
    simp [Binary64.Proper, Binary64.mantissaBits, Binary64.maxScale]
  have whole : Text.Whole "from" ∧ Text.Whole "weights" ∧ Text.Whole "stamps" ∧
      Text.Whole "Ana 😀" :=
    ⟨⟨"from", by decide +kernel⟩, ⟨"weights", by decide +kernel⟩, ⟨"stamps", by decide +kernel⟩,
      ⟨"Ana 😀", by decide +kernel⟩⟩
  refine .dict (by decide +kernel) ?_ ?_
  · simp only [List.forall_mem_cons]
    exact ⟨whole.1, whole.2.1, whole.2.2.1, by simp⟩
  · simp only [List.forall_mem_cons]
    refine ⟨.text whole.2.2.2, .list ?_, .dict (by simp) (by simp) (by simp), by simp⟩
    simp only [List.forall_mem_cons]
    exact ⟨.float weight, .int 1, by simp⟩

/-- The text that the letter becomes. -/
example : letter.oneLine =
    "\x7b\"from\": \"Ana \\ud83d\\ude00\", \"weights\": [-0.1, 1], \"stamps\": \x7b\x7d\x7d" := by
  decide +kernel

/-- One digit more than the limit is no text any more. -/
example : fit (.scalar .string) (.int (10 ^ Text.digitLimit)) = .error .badNumeral :=
  (fit_eq_error ⟨rfl, by simp, by simp⟩).mpr (Json.dumped_eq_error.mpr ⟨by decide +kernel, rfl⟩)

end Answer

end GraphFacade
