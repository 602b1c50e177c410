import GraphFacade.Json.Shown
import GraphFacade.Proofs.Entries
import GraphFacade.Proofs.Json.Numerals
import GraphFacade.Proofs.Json.Texts

/-!
# Written values are read back

A value that standard JSON has a text for is read from the text it is written
as.  Integers of any length are written, and read by a reader whose limit they
keep to.
-/

namespace GraphFacade

namespace Json

/-! ## Standard values -/

/--
A value of standard JSON: its doubles are finite, its texts and keys are of
characters, without halves, and each dictionary has each of its keys once.
-/
inductive Standard : Json -> Prop
  | null : Standard .null
  | bool (b : Bool) : Standard (.bool b)
  | int (i : Int) : Standard (.int i)
  | float {x : Binary64} (proper : x.Proper) : Standard (.float x)
  | text {s : String} (whole : Text.Whole s) : Standard (.text s)
  | list {items : List Json} (each : ∀ item ∈ items, Standard item) : Standard (.list items)
  | dict {entries : List (String × Json)} (distinct : (entries.map Prod.fst).Nodup)
      (names : ∀ entry ∈ entries, Text.Whole entry.1)
      (each : ∀ entry ∈ entries, Standard entry.2) : Standard (.dict entries)

theorem longest_le_of_mem {items : List Json} {item : Json} (among : item ∈ items) :
    item.longest ≤ longestOfItems items := by
  induction items with
  | nil => cases among
  | cons first rest ih =>
      rw [longestOfItems]
      rcases List.mem_cons.mp among with rfl | later
      · exact Nat.le_max_left _ _
      · exact Nat.le_trans (ih later) (Nat.le_max_right _ _)

theorem longest_le_of_mem_entries {entries : List (String × Json)} {entry : String × Json}
    (among : entry ∈ entries) : entry.2.longest ≤ longestOfEntries entries := by
  induction entries with
  | nil => cases among
  | cons first rest ih =>
      rw [longestOfEntries]
      rcases List.mem_cons.mp among with rfl | later
      · exact Nat.le_max_left _ _
      · exact Nat.le_trans (ih later) (Nat.le_max_right _ _)

/-! ## How values begin -/

def Begins (cs : List Char) : Prop :=
  ∃ c more, cs = c :: more ∧ isSpace c = false ∧ c ≠ ']' ∧ c ≠ '\x7d' ∧ c ≠ '\uFEFF'

variable {limit fuel : Nat} {rest more : List Char}

theorem Begins.skipSpace {cs : List Char} (h : Begins cs) : skipSpace cs = cs := by
  obtain ⟨c, more, rfl, solid, _⟩ := h
  exact List.dropWhile_cons_of_neg (by simp [solid])

theorem Begins.append {cs : List Char} (h : Begins cs) (rest : List Char) :
    Begins (cs ++ rest) := by
  obtain ⟨c, more, rfl, solid⟩ := h
  exact ⟨c, more ++ rest, rfl, solid⟩

theorem begins_digit {c : Char} (digit : c.isDigit = true) (more : List Char) :
    Begins (c :: more) := by
  have solid : isSpace c = false := by
    have other : c ≠ ' ' ∧ c ≠ '\t' ∧ c ≠ '\n' ∧ c ≠ '\r' := by
      refine ⟨?_, ?_, ?_, ?_⟩ <;> rintro rfl <;> exact absurd digit (by decide)
    simp [isSpace, other]
  refine ⟨c, more, rfl, solid, ?_, ?_, ?_⟩ <;> rintro rfl <;> exact absurd digit (by decide)

theorem begins_signText {text : List Char} {negative : Bool} (h : Begins text) :
    Begins (signText negative ++ text) := by
  cases negative
  · exact h
  · exact ⟨'-', text, rfl, by decide⟩

theorem Standard.begins {value : Json} (standard : value.Standard) : Begins value.write := by
  cases standard with
  | null => exact ⟨_, _, rfl, by decide⟩
  | bool b => cases b <;> exact ⟨_, _, rfl, by decide⟩
  | int i =>
      obtain ⟨c, more, starts, digit⟩ := exists_cons_toDigits i.natAbs
      rw [write, writeAtom, writeInt_eq, starts]
      exact begins_signText (begins_digit digit more)
  | float proper =>
      rename_i x
      cases x with
      | infinite negative => exact proper.elim
      | nan => exact proper.elim
      | finite negative mantissa scale =>
          obtain ⟨_, _, spells, _⟩ := spells_magnitudeText proper
          obtain ⟨c, more, starts, digit⟩ := spells.digit
          rw [write, writeAtom, writeFloat, starts]
          exact begins_signText (begins_digit digit more)
  | text whole => exact ⟨_, _, rfl, by decide⟩
  | list each => exact ⟨_, _, rfl, by decide⟩
  | dict distinct names each => exact ⟨_, _, rfl, by decide⟩

/-! ## Reading values -/

def ReadBack (limit : Nat) (value : Json) : Prop :=
  ∀ fuel rest, value.write.length ≤ fuel -> Ended rest ->
    readValue limit fuel (value.write ++ rest) = .ok (value, rest)

theorem readValue_atom {c : Char} (other : c ≠ '"' ∧ c ≠ '[' ∧ c ≠ '\x7b') :
    readValue limit (fuel + 1) (c :: more) = readAtom limit (c :: more) := by
  unfold readValue
  split <;> simp_all

/-- An atom that does not begin like a text or a container is read as a value. -/
theorem readBack_atom {a : Atom} {c : Char} (starts : writeAtom a = c :: more)
    (other : c ≠ '"' ∧ c ≠ '[' ∧ c ≠ '\x7b')
    (reads : ∀ rest, Ended rest -> readAtom limit (writeAtom a ++ rest) = .ok (.atom a, rest)) :
    ReadBack limit (.atom a) := by
  intro fuel rest enough ended
  have read := reads rest ended
  rw [write, starts] at enough ⊢
  rw [starts] at read
  obtain ⟨fuel, rfl⟩ := Nat.exists_eq_add_one.mpr (Nat.lt_of_lt_of_le (Nat.succ_pos _) enough)
  rw [List.cons_append] at read ⊢
  rw [readValue_atom other, read]

theorem readBack_null : ReadBack limit .null :=
  readBack_atom rfl (by decide) fun _ _ => rfl

theorem readBack_bool (b : Bool) : ReadBack limit (.bool b) := by
  cases b
  · exact readBack_atom rfl (by decide) fun _ _ => rfl
  · exact readBack_atom rfl (by decide) fun _ _ => rfl

theorem exists_cons_number (negative : Bool) {c : Char} (digit : c.isDigit = true)
    (more : List Char) :
    ∃ d others, signText negative ++ c :: more = d :: others ∧ d ≠ '"' ∧ d ≠ '[' ∧ d ≠ '\x7b' := by
  cases negative
  · refine ⟨c, more, rfl, ?_, ?_, ?_⟩ <;> rintro rfl <;> exact absurd digit (by decide)
  · exact ⟨'-', c :: more, rfl, by decide⟩

theorem readBack_int {i : Int} (short : (Nat.toDigits 10 i.natAbs).length ≤ limit) :
    ReadBack limit (.int i) := by
  obtain ⟨c, more, starts, digit⟩ := exists_cons_toDigits i.natAbs
  obtain ⟨d, others, begins, other⟩ := exists_cons_number (i < 0) digit more
  have written : writeAtom (.int i) = d :: others := by
    rw [writeAtom, writeInt_eq, starts, begins]
  exact readBack_atom written other fun rest => readAtom_writeInt short

theorem readBack_float {x : Binary64} (proper : x.Proper) : ReadBack limit (.float x) := by
  cases x with
  | infinite negative => exact proper.elim
  | nan => exact proper.elim
  | finite negative mantissa scale =>
      obtain ⟨_, _, spells, _⟩ := spells_magnitudeText proper
      obtain ⟨c, more, starts, digit⟩ := spells.digit
      obtain ⟨d, others, begins, other⟩ := exists_cons_number negative digit more
      have written : writeAtom (.float (.finite negative mantissa scale)) = d :: others := by
        rw [← begins, ← starts]
        rfl
      exact readBack_atom written other fun rest => readAtom_writeFloat proper

theorem writeText_append (s : String) (rest : List Char) :
    writeText s ++ rest = '"' :: ((Text.codes s.toList).flatMap escapeCode ++ '"' :: rest) := by
  simp [writeText]

theorem readBack_text {s : String} (whole : Text.Whole s) : ReadBack limit (.text s) := by
  intro fuel rest enough ended
  obtain ⟨fuel, rfl⟩ := Nat.exists_eq_add_one.mpr (Nat.lt_of_lt_of_le (Nat.succ_pos _) enough)
  rw [write, writeAtom, writeText_append, readValue]
  simp only [readText_whole whole, String.ofList_toList]

/-! ## Lists -/

theorem ended_comma (more : List Char) : Ended (',' :: more) := by
  simp [Ended]

theorem ended_bracket (more : List Char) : Ended (']' :: more) := by
  simp [Ended]

theorem ended_brace (more : List Char) : Ended ('\x7d' :: more) := by
  simp [Ended]

theorem readValue_list {cs : List Char} (begins : Begins cs) {items : List Json}
    (reads : readItems limit fuel cs = .ok (items, rest)) :
    readValue limit (fuel + 1) ('[' :: cs) = .ok (.list items, rest) := by
  have same := begins.skipSpace
  obtain ⟨c, more, rfl, _, open', _, _⟩ := begins
  rw [readValue]
  split
  · rename_i closed
    rw [same] at closed
    exact absurd (List.cons.inj closed).1 open'
  · rw [same, reads]

theorem readItems_last {cs : List Char} {item : Json}
    (first : readValue limit fuel cs = .ok (item, ']' :: rest)) :
    readItems limit (fuel + 1) cs = .ok ([item], rest) := by
  rw [readItems, first]
  rfl

theorem readItems_next {cs : List Char} {item : Json} {items : List Json}
    (first : readValue limit fuel cs = .ok (item, ',' :: ' ' :: more)) (begins : Begins more)
    (later : readItems limit fuel more = .ok (items, rest)) :
    readItems limit (fuel + 1) cs = .ok (item :: items, rest) := by
  have comma : skipSpace (',' :: ' ' :: more) = ',' :: ' ' :: more := rfl
  have blank : skipSpace (' ' :: more) = more := begins.skipSpace
  simp only [readItems, first, comma, blank, later]

theorem writeItems_cons (item : Json) {others : List Json} (some' : others ≠ []) :
    writeItems (item :: others) = item.write ++ ',' :: ' ' :: writeItems others := by
  obtain ⟨second, more, rfl⟩ := List.exists_cons_of_ne_nil some'
  rfl

theorem begins_writeItems {items : List Json} (some' : items ≠ [])
    (begins : ∀ item ∈ items, Begins item.write) : Begins (writeItems items) := by
  obtain ⟨item, others, rfl⟩ := List.exists_cons_of_ne_nil some'
  have first := begins item List.mem_cons_self
  cases others with
  | nil => exact first.append _
  | cons second more => exact first.append _

/-- Items are read one after another up to the closing bracket. -/
theorem readItems_written {items : List Json} (some' : items ≠ [])
    (begins : ∀ item ∈ items, Begins item.write) (each : ∀ item ∈ items, ReadBack limit item)
    (enough : (writeItems items).length ≤ fuel) (rest : List Char) :
    readItems limit fuel (writeItems items ++ rest) = .ok (items, rest) := by
  induction items generalizing fuel with
  | nil => exact absurd rfl some'
  | cons item others ih =>
      rw [List.forall_mem_cons] at begins each
      by_cases last : others = []
      · subst last
        rw [writeItems, List.length_append, List.length_singleton] at enough
        obtain ⟨fuel, rfl⟩ := Nat.exists_eq_add_one.mpr (Nat.zero_lt_of_lt enough)
        rw [writeItems, List.append_assoc]
        exact readItems_last (each.1 fuel _ (by omega) (ended_bracket rest))
      · rw [writeItems_cons item last] at enough ⊢
        rw [List.length_append, List.length_cons, List.length_cons] at enough
        obtain ⟨fuel, rfl⟩ := Nat.exists_eq_add_one.mpr (Nat.zero_lt_of_lt enough)
        rw [List.append_assoc]
        exact readItems_next (each.1 fuel _ (by omega) (ended_comma _))
          ((begins_writeItems last begins.2).append rest) (ih last begins.2 each.2 (by omega))

theorem readBack_list {items : List Json} (begins : ∀ item ∈ items, Begins item.write)
    (each : ∀ item ∈ items, ReadBack limit item) : ReadBack limit (.list items) := by
  intro fuel rest enough _
  rw [write, List.length_cons] at enough
  obtain ⟨fuel, rfl⟩ := Nat.exists_eq_add_one.mpr (Nat.zero_lt_of_lt enough)
  rw [write, List.cons_append]
  by_cases empty : items = []
  · subst empty
    rfl
  · have starts := (begins_writeItems empty begins).append rest
    exact readValue_list starts (readItems_written empty begins each (by omega) rest)

/-! ## Dictionaries -/

theorem readValue_dict {cs : List Char} (begins : Begins cs) {entries : List (String × Json)}
    (reads : readEntries limit fuel cs = .ok (entries, rest)) :
    readValue limit (fuel + 1) ('\x7b' :: cs) = .ok (.dict (Entries.ofList entries), rest) := by
  have same := begins.skipSpace
  obtain ⟨c, more, rfl, _, _, open', _⟩ := begins
  rw [readValue]
  split
  · rename_i closed
    rw [same] at closed
    exact absurd (List.cons.inj closed).1 open'
  · rw [same, reads]

theorem readKey_written {key : String} (whole : Text.Whole key) (begins : Begins more) :
    readKey (writeText key ++ ':' :: ' ' :: more) = .ok (key, more) := by
  have colon : skipSpace (':' :: ' ' :: more) = ':' :: ' ' :: more := rfl
  have blank : skipSpace (' ' :: more) = more := begins.skipSpace
  rw [writeText_append, readKey]
  simp only [readText_whole whole, colon, blank, String.ofList_toList]

theorem readEntries_last {cs cs' : List Char} {key : String} {value : Json}
    (named : readKey cs = .ok (key, cs'))
    (first : readValue limit fuel cs' = .ok (value, '\x7d' :: rest)) :
    readEntries limit (fuel + 1) cs = .ok ([(key, value)], rest) := by
  rw [readEntries, named]
  dsimp only
  rw [first]
  rfl

theorem readEntries_next {cs cs' : List Char} {key : String} {value : Json}
    {entries : List (String × Json)} (named : readKey cs = .ok (key, cs'))
    (first : readValue limit fuel cs' = .ok (value, ',' :: ' ' :: more)) (begins : Begins more)
    (later : readEntries limit fuel more = .ok (entries, rest)) :
    readEntries limit (fuel + 1) cs = .ok ((key, value) :: entries, rest) := by
  have comma : skipSpace (',' :: ' ' :: more) = ',' :: ' ' :: more := rfl
  have blank : skipSpace (' ' :: more) = more := begins.skipSpace
  simp only [readEntries, named, first, comma, blank, later]

theorem writeEntries_cons (entry : String × Json) {others : List (String × Json)}
    (some' : others ≠ []) :
    writeEntries (entry :: others) =
      writeText entry.1 ++ ':' :: ' ' :: (entry.2.write ++ ',' :: ' ' :: writeEntries others) := by
  obtain ⟨second, more, rfl⟩ := List.exists_cons_of_ne_nil some'
  rfl

theorem begins_writeText (s : String) (more : List Char) : Begins (writeText s ++ more) := by
  rw [writeText_append]
  exact ⟨_, _, rfl, by decide⟩

theorem begins_writeEntries {entries : List (String × Json)} (some' : entries ≠ []) :
    Begins (writeEntries entries) := by
  obtain ⟨entry, others, rfl⟩ := List.exists_cons_of_ne_nil some'
  cases others with
  | nil => exact begins_writeText _ _
  | cons second more => exact begins_writeText _ _

/-- Entries are read one after another up to the closing brace. -/
theorem readEntries_written {entries : List (String × Json)} (some' : entries ≠ [])
    (names : ∀ entry ∈ entries, Text.Whole entry.1)
    (begins : ∀ entry ∈ entries, Begins entry.2.write)
    (each : ∀ entry ∈ entries, ReadBack limit entry.2)
    (enough : (writeEntries entries).length ≤ fuel) (rest : List Char) :
    readEntries limit fuel (writeEntries entries ++ rest) = .ok (entries, rest) := by
  induction entries generalizing fuel with
  | nil => exact absurd rfl some'
  | cons entry others ih =>
      rw [List.forall_mem_cons] at names begins each
      obtain ⟨key, value⟩ := entry
      have name : Text.Whole key := names.1
      have starts : Begins value.write := begins.1
      have back : ReadBack limit value := each.1
      by_cases last : others = []
      · subst last
        simp only [writeEntries, List.length_append, List.length_cons] at enough
        obtain ⟨fuel, rfl⟩ := Nat.exists_eq_add_one.mpr (show 0 < fuel by omega)
        simp only [writeEntries, List.append_assoc, List.cons_append]
        exact readEntries_last (readKey_written name (starts.append _))
          (back fuel _ (by omega) (ended_brace rest))
      · rw [writeEntries_cons _ last] at enough ⊢
        simp only [List.length_append, List.length_cons] at enough
        obtain ⟨fuel, rfl⟩ := Nat.exists_eq_add_one.mpr (show 0 < fuel by omega)
        simp only [List.append_assoc, List.cons_append]
        exact readEntries_next (readKey_written name (starts.append _))
          (back fuel _ (by omega) (ended_comma _)) ((begins_writeEntries last).append rest)
          (ih last names.2 begins.2 each.2 (by omega))

/-- A dictionary of values that are read back is read back. -/
theorem readBack_dict {entries : List (String × Json)}
    (distinct : (entries.map Prod.fst).Nodup)
    (names : ∀ entry ∈ entries, Text.Whole entry.1)
    (begins : ∀ entry ∈ entries, Begins entry.2.write)
    (each : ∀ entry ∈ entries, ReadBack limit entry.2) : ReadBack limit (.dict entries) := by
  intro fuel rest enough _
  rw [write, List.length_cons] at enough
  obtain ⟨fuel, rfl⟩ := Nat.exists_eq_add_one.mpr (Nat.zero_lt_of_lt enough)
  rw [write, List.cons_append]
  by_cases empty : entries = []
  · subst empty
    rfl
  · have starts := (begins_writeEntries empty).append rest
    have read := readValue_dict starts
      (readEntries_written empty names begins each (Nat.le_of_succ_le_succ enough) rest)
    rwa [Entries.ofList_of_nodup distinct] at read

/-! ## Whole texts -/

/-- A standard value is read back by every reader whose limit its integers keep to. -/
theorem Standard.readBack {value : Json} (standard : value.Standard)
    (short : value.longest ≤ limit) : ReadBack limit value := by
  induction standard with
  | null => exact readBack_null
  | bool b => exact readBack_bool b
  | int i => exact readBack_int short
  | float proper => exact readBack_float proper
  | text whole => exact readBack_text whole
  | list each ih =>
      refine readBack_list (fun item among => (each item among).begins) fun item among => ?_
      exact ih item among (Nat.le_trans (longest_le_of_mem among) short)
  | dict distinct names each ih =>
      refine readBack_dict distinct names (fun entry among => (each entry among).begins)
        fun entry among => ?_
      exact ih entry among (Nat.le_trans (longest_le_of_mem_entries among) short)

theorem Standard.readWithin {value : Json} (standard : value.Standard)
    (short : value.longest ≤ limit) : Json.readWithin limit value.write = .ok value := by
  have begins := standard.begins
  have read := standard.readBack short (2 * value.write.length + 2) [] (by omega) ended_nil
  have unmarked : (value.write.head? == some '\uFEFF') = false := by
    obtain ⟨c, more, starts, _, _, _, other⟩ := begins
    simp [starts, other]
  rw [List.append_nil] at read
  rw [Json.readWithin, if_neg (by simp [unmarked]), begins.skipSpace, read]
  rfl

end Json

end GraphFacade
