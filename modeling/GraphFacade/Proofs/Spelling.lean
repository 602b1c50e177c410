import GraphFacade.Proofs.Entries
import GraphFacade.Proofs.FreshNames

/-!
# How names are spelled

Every text is made into a name, and what is put behind a name to tell it from
others leaves it one.  The members of an enumeration have different names, and
none of them is one that is kept for a literal.
-/

namespace GraphFacade

namespace Name

def isStart (c : Char) : Bool :=
  c == '_' || ('A' <= c && c <= 'Z') || ('a' <= c && c <= 'z')

def isRest (c : Char) : Bool :=
  isStart c || ('0' <= c && c <= '9')

def spelled : List Char -> Bool
  | [] => false
  | c :: rest => isStart c && rest.all isRest

def Valid (s : String) : Prop :=
  spelled s.toList = true

instance (s : String) : Decidable (Valid s) :=
  inferInstanceAs (Decidable (_ = true))

theorem isNameChar_eq (c : Char) : isNameChar c = isRest c := by
  have upper : c.isUpper = (decide ('A' ≤ c) && decide (c ≤ 'Z')) := Bool.decide_and ..
  have letter : c.isAlpha = (c.isUpper || c.isLower) := rfl
  rw [isNameChar, letter, upper, ← Bool.or_assoc]
  rfl

theorem isStart_of_isRest {c : Char} (h : isRest c = true) (letter : c.isDigit = false) :
    isStart c = true := by
  refine (Bool.or_eq_true _ _ ▸ h).resolve_right fun digit => ?_
  have digit' : c.isDigit = true := digit
  rw [letter] at digit'
  simp at digit'

theorem all_of_spelled {cs : List Char} (h : spelled cs = true) : cs.all isRest = true := by
  cases cs with
  | nil => rfl
  | cons c rest =>
      obtain ⟨start, others⟩ := Bool.and_eq_true_iff.mp h
      simp [isRest, start, others]

theorem spelled_append {cs ds : List Char} (h : spelled cs = true) (more : ds.all isRest = true) :
    spelled (cs ++ ds) = true := by
  cases cs with
  | nil => simp [spelled] at h
  | cons c rest => simpa [spelled, more] using h

/-! ## Texts as names -/

theorem all_replaceForeign (cs : List Char) : (replaceForeign cs).all isRest = true := by
  rw [replaceForeign, List.all_map, List.all_eq_true]
  intro code _
  simp only [Function.comp_apply]
  split
  · rename_i allowed
    rwa [← isNameChar_eq]
  · decide

theorem spelled_fixStart {cs : List Char} (h : cs.all isRest = true) :
    spelled (fixStart cs) = true := by
  cases cs with
  | nil => decide
  | cons c rest =>
      cases digit : c.isDigit with
      | true =>
          have under : isStart '_' = true := by decide
          simp only [fixStart, digit, ↓reduceIte, spelled, under, h, Bool.and_self]
      | false =>
          obtain ⟨first, others⟩ := Bool.and_eq_true_iff.mp h
          simp [fixStart, digit, spelled, isStart_of_isRest first digit, others]

theorem valid_ofText (s : String) : Valid (ofText s) := by
  rw [Valid, ofText, String.toList_ofList]
  exact spelled_fixStart (all_replaceForeign _)

example : ¬ Valid "2 shops" ∧ ofText "2 shops" = "_2_shops" := by decide +kernel

theorem valid_ofJson? {value : Json} {name : String} (named : ofJson? value = some name) :
    Valid name := by
  unfold ofJson? at named
  split at named
  · exact Option.some.inj named ▸ valid_ofText _
  · split at named
    · simp at named
    · exact Option.some.inj named ▸ valid_ofText _

theorem Valid.append {s t : String} (h : Valid s) (more : t.toList.all isRest = true) :
    Valid (s ++ t) := by
  rw [Valid, String.toList_append]
  exact spelled_append h more

/-! ## Names made fresh -/

theorem candidate_cases (base : String) (n : Nat) :
    candidate base n = base ∨ ∃ more, candidate base n = base ++ more ∧
      more.toList.all isRest = true ∧ '_' ∈ more.toList := by
  unfold candidate
  split
  · exact .inl rfl
  · refine .inr ⟨"_" ++ String.ofList (Nat.toDigits 10 n), String.append_assoc .., ?_, by simp⟩
    have digits : (String.ofList (Nat.toDigits 10 n)).toList.all isRest = true := by
      rw [String.toList_ofList]
      refine List.all_eq_true.mpr fun c among => ?_
      have digit : c.isDigit = true := Nat.isDigit_of_mem_toDigits (by omega) (by omega) among
      rw [← isNameChar_eq, isNameChar, digit, Bool.or_true]
    rw [String.toList_append, List.all_append, digits, Bool.and_true]
    decide

theorem fresh_eq_candidate (taken : List String) (base : String) :
    ∃ n, fresh taken base = candidate base n := by
  have tried : ∀ fuel n, ∃ k, freshFrom taken base fuel n = candidate base k := by
    intro fuel
    induction fuel with
    | zero => exact fun n => ⟨n, rfl⟩
    | succ fuel ih =>
        intro n
        unfold freshFrom
        split
        · exact ih (n + 1)
        · exact ⟨n, rfl⟩
  exact tried _ _

theorem valid_fresh (taken : List String) {base : String} (h : Valid base) :
    Valid (fresh taken base) := by
  obtain ⟨n, same⟩ := fresh_eq_candidate taken base
  rw [same]
  rcases candidate_cases base n with same | ⟨more, same, rest, _⟩ <;> rw [same]
  · exact h
  · exact h.append rest

end Name

/-! ## Keyed entries -/

namespace Entries

/-- All keys are spelled as names, and no two are alike. -/
structure WellNamed {α : Type} (entries : Entries α) : Prop where
  valid : ∀ name ∈ entries.map Prod.fst, Name.Valid name
  distinct : (entries.map Prod.fst).Nodup

/-- Members of an enumeration: beside that, none is true, false or null. -/
structure WellNamedMembers {α : Type} (entries : Entries α) : Prop extends WellNamed entries where
  free : ∀ name ∈ entries.map Prod.fst, name ∉ ["true", "false", "null"]

variable {α : Type} {entries : Entries α} {name : String}

theorem wellNamed_nil : WellNamed ([] : Entries α) :=
  ⟨by simp, List.nodup_nil⟩

theorem WellNamed.snoc (h : WellNamed entries) (valid : Name.Valid name)
    (new : name ∉ entries.map Prod.fst) (value : α) : WellNamed (entries ++ [(name, value)]) where
  valid := by
    rw [List.map_append, List.forall_mem_append]
    exact ⟨h.valid, by simpa using valid⟩
  distinct := nodup_keys_snoc h.distinct new value

theorem WellNamed.put (h : WellNamed entries) (valid : Name.Valid name) (value : α) :
    WellNamed (put name value entries) where
  valid := by
    rw [keys_put]
    split
    · exact h.valid
    · rw [List.forall_mem_append]
      exact ⟨h.valid, by simpa using valid⟩
  distinct := nodup_keys_put h.distinct value

end Entries

/-! ## Members of enumerations -/

namespace Name

theorem not_reserved_append {s t : String} (marked : '_' ∈ t.toList) :
    s ++ t ∉ reservedMembers := by
  have plain : ∀ name ∈ reservedMembers, '_' ∉ name.toList := by decide
  intro reserved
  refine plain _ reserved ?_
  rw [String.toList_append]
  exact List.mem_append_right _ marked

theorem memberBase_valid (literal : Json) :
    Valid (memberBase literal) ∧ memberBase literal ∉ reservedMembers := by
  have valid := valid_ofText literal.display
  unfold memberBase
  dsimp only
  split
  · exact ⟨valid.append (by decide), not_reserved_append (by decide)⟩
  · rename_i free
    exact ⟨valid, by simpa using free⟩

theorem fresh_not_reserved (taken : List String) {base : String} (free : base ∉ reservedMembers) :
    fresh taken base ∉ reservedMembers := by
  obtain ⟨n, same⟩ := fresh_eq_candidate taken base
  rw [same]
  rcases candidate_cases base n with same | ⟨more, same, _, marked⟩ <;> rw [same]
  · exact free
  · exact not_reserved_append marked

theorem wellNamedMembers_snoc {made : Entries Json} (h : made.WellNamedMembers) (literal : Json) :
    Entries.WellNamedMembers
      (made ++ [(fresh (made.map Prod.fst) (memberBase literal), literal)]) := by
  obtain ⟨valid, free⟩ := memberBase_valid literal
  refine ⟨h.snoc (valid_fresh _ valid) (fresh_not_mem _ _) literal, ?_⟩
  rw [List.map_append, List.forall_mem_append]
  exact ⟨h.free, List.forall_mem_singleton.mpr (fresh_not_reserved _ free)⟩

theorem members_wellNamed (literals : List Json) : (members literals).WellNamedMembers := by
  have added : ∀ (rest : List Json) (made : Entries Json), made.WellNamedMembers ->
      Entries.WellNamedMembers (rest.foldl (fun made literal =>
        made ++ [(fresh (made.map Prod.fst) (memberBase literal), literal)]) made) := by
    intro rest
    induction rest with
    | nil => exact fun made h => h
    | cons literal rest ih => exact fun made h => ih _ (wellNamedMembers_snoc h literal)
  exact added _ _ ⟨Entries.wellNamed_nil, by simp⟩

example : (members [.text "true", .text "sea green", .text "sea-green", .text ""]).map Prod.fst =
    ["true_", "sea_green", "sea_green_2", "_"] := by decide +kernel

end Name

end GraphFacade
