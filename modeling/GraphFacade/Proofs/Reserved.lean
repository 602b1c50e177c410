import GraphFacade.Proofs.Spelling

/-!
# Reserved names

Names that begin with two underscores are reserved by the query language.  A text is
made into one of them if it begins with two marks, that is, characters which are
neither letters nor digits; and so is a single mark when an underscore is put behind
it to join it with another name or to tell it from one.
-/

namespace GraphFacade

namespace Name

variable {s t name base : String} {value : Json}

def Reserved (name : String) : Prop :=
  ['_', '_'] <+: name.toList

instance (name : String) : Decidable (Reserved name) :=
  inferInstanceAs (Decidable (_ <+: _))

def isMark (code : Nat) : Bool :=
  !(Char.ofNat code).isAlphanum

def beginsMarked : List Nat -> Bool
  | c :: d :: _ => isMark c && isMark d
  | _ => false

def isLone : List Nat -> Bool
  | [] => true
  | [c] => isMark c
  | _ => false

def Marked (s : String) : Prop :=
  beginsMarked (Text.codes s.toList) = true

def Lone (s : String) : Prop :=
  isLone (Text.codes s.toList) = true

instance (s : String) : Decidable (Marked s) :=
  inferInstanceAs (Decidable (_ = true))

instance (s : String) : Decidable (Lone s) :=
  inferInstanceAs (Decidable (_ = true))

/-! ## Texts as names -/

def charOf (code : Nat) : Char :=
  if isNameChar (Char.ofNat code) then Char.ofNat code else '_'

theorem charOf_eq_underscore_iff (code : Nat) : charOf code = '_' ↔ isMark code = true := by
  unfold charOf isMark
  by_cases letter : (Char.ofNat code).isAlphanum = true
  · have allowed : isNameChar (Char.ofNat code) = true := by
      rw [isNameChar, Bool.or_assoc]
      exact (Bool.or_eq_true _ _).mpr (.inr letter)
    have other : Char.ofNat code ≠ '_' := by
      intro same
      rw [same] at letter
      cases letter
    simp [allowed, letter, other]
  · have plain : isNameChar (Char.ofNat code) = true -> Char.ofNat code = '_' := by
      intro allowed
      rw [isNameChar, Bool.or_assoc] at allowed
      exact eq_of_beq (((Bool.or_eq_true _ _).mp allowed).resolve_right letter)
    simpa [letter] using plain

theorem isMark_of_isDigit {code : Nat} (digit : (charOf code).isDigit = true) :
    isMark code = false := by
  rw [Bool.eq_false_iff, ne_eq, ← charOf_eq_underscore_iff]
  intro same
  rw [same] at digit
  cases digit

theorem toList_ofText (s : String) :
    (ofText s).toList = fixStart ((Text.codes s.toList).map charOf) :=
  String.toList_ofList

theorem reserved_ofText_iff (s : String) : Reserved (ofText s) ↔ Marked s := by
  rw [Reserved, toList_ofText, Marked]
  cases Text.codes s.toList with
  | nil => decide
  | cons c rest =>
      cases digit : (charOf c).isDigit with
      | true =>
          have other : charOf c ≠ '_' := by
            rw [ne_eq, charOf_eq_underscore_iff, isMark_of_isDigit digit]
            exact Bool.false_ne_true
          cases rest <;>
            simp [fixStart, digit, beginsMarked, List.cons_prefix_cons, Ne.symm other,
              isMark_of_isDigit digit]
      | false =>
          cases rest <;>
            simp [fixStart, digit, beginsMarked, List.cons_prefix_cons,
              ← charOf_eq_underscore_iff, @eq_comm Char '_']

theorem ofText_eq_underscore_iff (s : String) : ofText s = "_" ↔ Lone s := by
  rw [← String.toList_inj, toList_ofText, Lone]
  cases Text.codes s.toList with
  | nil => decide
  | cons c rest =>
      cases digit : (charOf c).isDigit with
      | true => cases rest <;> simp [fixStart, digit, isLone, isMark_of_isDigit digit]
      | false =>
          cases rest <;> simp [fixStart, digit, isLone, ← charOf_eq_underscore_iff]

/-- With something behind it a name is reserved if it was, or if it is one underscore and another
follows. -/
theorem reserved_append_iff (valid : Valid name) (more : String) :
    Reserved (name ++ more) ↔ Reserved name ∨ name = "_" ∧ more.toList.head? = some '_' := by
  rw [Reserved, Reserved, String.toList_append, ← String.toList_inj]
  rcases cs : name.toList with _ | ⟨c, _ | ⟨d, rest⟩⟩
  · rw [Valid, cs] at valid
    cases valid
  · cases more.toList <;> simp [List.cons_prefix_cons, @eq_comm Char '_', and_comm]
  · simp [List.cons_prefix_cons]

theorem reserved_joined_iff (s more : String) :
    Reserved (ofText s ++ "_" ++ more) ↔ Marked s ∨ Lone s := by
  have head : ("_" ++ more).toList.head? = some '_' := by
    rw [String.toList_append]
    rfl
  rw [String.append_assoc, reserved_append_iff (valid_ofText s), reserved_ofText_iff,
    ofText_eq_underscore_iff, and_iff_left head]

theorem reserved_ofJson?_iff (named : ofJson? value = some name) :
    Reserved name ↔ ∃ s, value = .text s ∧ Marked s := by
  unfold ofJson? at named
  split at named
  · rename_i s
    rw [← Option.some.inj named, reserved_ofText_iff]
    simp
  · rename_i untold
    split at named
    · cases named
    · have plain : ¬ Reserved (ofText "") := (reserved_ofText_iff "").not.mpr (by decide)
      rw [← Option.some.inj named]
      exact iff_of_false plain fun ⟨s, same, _⟩ => untold s same

/-! ## Members of enumerations -/

theorem reserved_memberBase_iff (literal : Json) :
    Reserved (memberBase literal) ↔ Marked literal.display := by
  rw [← reserved_ofText_iff, memberBase]
  split
  · rename_i kept
    have other : ofText literal.display ≠ "_" := by
      rintro same
      rw [same] at kept
      exact absurd kept (by decide)
    rw [reserved_append_iff (valid_ofText _), or_iff_left fun h => other h.1]
  · rfl

theorem memberBase_eq_underscore_iff (literal : Json) :
    memberBase literal = "_" ↔ Lone literal.display := by
  rw [← ofText_eq_underscore_iff, memberBase]
  split
  · rename_i kept
    rw [List.contains_iff_mem] at kept
    simp only [reservedMembers, List.mem_cons, List.not_mem_nil, or_false] at kept
    rcases kept with kept | kept | kept <;> rw [kept] <;> decide
  · rfl

theorem fresh_of_not_mem {taken : List String} (free : base ∉ taken) : fresh taken base = base := by
  have first : candidate base 1 = base := if_pos (Nat.le_refl 1)
  unfold fresh
  cases taken with
  | nil => exact first
  | cons name rest =>
      rw [List.length_cons, freshFrom, first, if_neg]
      simpa using free

theorem fresh_of_mem {taken : List String} (used : base ∈ taken) :
    ∃ number, fresh taken base = base ++ "_" ++ number := by
  obtain ⟨n, same⟩ := fresh_eq_candidate taken base
  have other : candidate base n ≠ base := by
    intro equal
    exact fresh_not_mem taken base (same ▸ equal.symm ▸ used)
  rw [same]
  unfold candidate at other ⊢
  split at other
  · exact absurd rfl other
  · rename_i later
    rw [if_neg later]
    exact ⟨_, rfl⟩

theorem reserved_fresh_iff (taken : List String) (literal : Json) :
    Reserved (fresh taken (memberBase literal)) ↔
      Marked literal.display ∨ Lone literal.display ∧ "_" ∈ taken := by
  have valid := (memberBase_valid literal).1
  by_cases used : memberBase literal ∈ taken
  · obtain ⟨number, numbered⟩ := fresh_of_mem used
    have head : ("_" ++ number).toList.head? = some '_' := by
      rw [String.toList_append]
      rfl
    rw [numbered, String.append_assoc, reserved_append_iff valid, and_iff_left head,
      reserved_memberBase_iff, memberBase_eq_underscore_iff]
    refine or_congr_right (iff_self_and.mpr fun lone => ?_)
    rwa [(memberBase_eq_underscore_iff literal).mpr lone] at used
  · rw [fresh_of_not_mem used, reserved_memberBase_iff, or_iff_left]
    rintro ⟨lone, there⟩
    rw [(memberBase_eq_underscore_iff literal).mpr lone] at used
    exact used there

theorem underscore_fresh_iff (taken : List String) (literal : Json) :
    "_" ∈ taken ∨ "_" = fresh taken (memberBase literal) ↔
      "_" ∈ taken ∨ Lone literal.display := by
  rw [← memberBase_eq_underscore_iff]
  by_cases used : memberBase literal ∈ taken
  · obtain ⟨number, numbered⟩ := fresh_of_mem used
    have longer : "_" ≠ fresh taken (memberBase literal) := by
      intro same
      have valid := (memberBase_valid literal).1
      have chars := congrArg String.toList (same.trans numbered)
      rw [String.append_assoc, String.toList_append, String.toList_append] at chars
      cases base : (memberBase literal).toList with
      | nil =>
          rw [Valid, base] at valid
          cases valid
      | cons c rest => simp [base] at chars
    rw [or_iff_left longer, or_iff_left_of_imp]
    intro same
    rwa [same] at used
  · rw [fresh_of_not_mem used, @eq_comm _ "_"]

def membersOf (literals : List Json) : Entries Json :=
  literals.foldl (fun made literal =>
    made ++ [(fresh (made.map Prod.fst) (memberBase literal), literal)]) []

theorem membersOf_snoc (literals : List Json) (literal : Json) :
    (membersOf (literals ++ [literal])).map Prod.fst = (membersOf literals).map Prod.fst ++
      [fresh ((membersOf literals).map Prod.fst) (memberBase literal)] := by
  simp [membersOf]

def loneCount (literals : List Json) : Nat :=
  literals.countP fun literal => Lone literal.display

theorem loneCount_snoc (literals : List Json) (literal : Json) :
    loneCount (literals ++ [literal]) =
      loneCount literals + if Lone literal.display then 1 else 0 := by
  simp [loneCount, List.countP_append]

theorem underscore_mem_membersOf (literals : List Json) :
    "_" ∈ (membersOf literals).map Prod.fst ↔ 0 < loneCount literals := by
  induction literals using List.reverseRecOn with
  | nil => simp [membersOf, loneCount]
  | append_singleton literals last ih =>
      rw [membersOf_snoc, loneCount_snoc, List.mem_append, List.mem_singleton,
        underscore_fresh_iff, ih]
      by_cases lone : Lone last.display <;> simp [lone]

theorem reserved_mem_membersOf (literals : List Json) :
    (∃ name ∈ (membersOf literals).map Prod.fst, Reserved name) ↔
      (∃ literal ∈ literals, Marked literal.display) ∨ 1 < loneCount literals := by
  induction literals using List.reverseRecOn with
  | nil => simp [membersOf, loneCount]
  | append_singleton literals last ih =>
      simp only [membersOf_snoc, loneCount_snoc, List.mem_append, List.mem_singleton,
        or_and_right, exists_or, exists_eq_left, ih, reserved_fresh_iff,
        underscore_mem_membersOf]
      by_cases lone : Lone last.display
      · simp only [lone, true_and, if_true]
        have more : 1 < loneCount literals + 1 ↔ 0 < loneCount literals := by omega
        have fewer : 1 < loneCount literals -> 0 < loneCount literals := by omega
        rw [more, or_assoc, or_assoc]
        exact or_congr_right (or_iff_right_of_imp fun many => .inr (fewer many))
      · simp only [lone, false_and, if_false, or_false, Nat.add_zero]
        exact or_right_comm

/-- A member of an enumeration is reserved exactly if a literal begins with two marks, or if two
of the distinct literals are empty or a single mark. -/
theorem reserved_mem_members (literals : List Json) :
    (∃ name ∈ (members literals).map Prod.fst, Reserved name) ↔
      (∃ literal ∈ distinct [] literals, Marked literal.display) ∨
        1 < loneCount (distinct [] literals) :=
  reserved_mem_membersOf (distinct [] literals)

example : (members [.text "-", .text "+"]).map Prod.fst = ["_", "__2"] := by decide +kernel

end Name

end GraphFacade
