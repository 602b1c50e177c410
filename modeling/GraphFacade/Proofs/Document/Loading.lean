import GraphFacade.Document.Loading
import GraphFacade.Proofs.Json.Leaving

/-!
# How loading ends

A file of bytes that are no object in UTF-8 is refused, with three exceptions
that no caller is prepared for: bytes that are not UTF-8, an integer with more
digits than are read, and paths without a size.  How deep values are nested does
not matter here.
-/

namespace GraphFacade

namespace Loading

open Steps

def Holds (bytes : ByteArray) (text : List Char) : Prop :=
  ∃ s : String, s.toUTF8 = bytes ∧ unifyLines s.toList = text

/-- The faults of a description that its reader is told of, with the path of the file. -/
inductive Refused (path : String) (bytes : ByteArray) : Fault -> Prop
  /-- The text breaks off being JSON, or breaks the rules of JSON. -/
  | notJson {text : List Char} {stop : Json.Stop} (holds : Holds bytes text)
      (stops : Json.read text = .error stop) (other : stop.cause ≠ .longInteger) :
      Refused path bytes (.notJson path (stop.message text))
  /-- The text is JSON, but that of a list, a text, a number or a name. -/
  | notObject {text : List Char} {value : Json} (holds : Holds bytes text)
      (reads : Json.read text = .ok value) (other : ∀ entries, value ≠ .dict entries) :
      Refused path bytes (.notObject path)

/-- The faults of a description that are none of loading. -/
inductive Escapes (bytes : ByteArray) : Fault -> Prop
  | notUtf8 (broken : ∀ s : String, s.toUTF8 ≠ bytes) : Escapes bytes .notUtf8
  /-- Reading stops where an integer of too many digits stands. -/
  | longInteger {text before number : List Char} (holds : Holds bytes text)
      (cut : text = before ++ number) (long : Json.StartsTooLong Text.digitLimit number)
      (stops : Json.read text = .error ⟨.longInteger, number⟩) : Escapes bytes .badNumeral
  /-- The paths are the name for what is true or a number other than zero. -/
  | sizeless {text : List Char} {entries : Entries Json} {paths : Atom} (holds : Holds bytes text)
      (reads : Json.read text = .ok (.dict entries))
      (found : entries.lookup "paths" = some (.atom paths)) (truthy : paths.truthy = true)
      (noText : ∀ s, paths ≠ .text s) : Escapes bytes .wrongKind

variable {path : String} {bytes : ByteArray} {text : List Char} {entries : Entries Json}
  {fault : Fault}

/-! ## Faults -/

theorem Refused.family (h : Refused path bytes fault) : fault.family = .loading := by
  cases h <;> rfl

theorem Escapes.family (h : Escapes bytes fault) : fault.family = .other := by
  cases h <;> rfl

/-! ## Bytes -/

theorem fromUTF8?_eq_some {s : String} : String.fromUTF8? bytes = some s ↔ s.toUTF8 = bytes := by
  constructor
  · intro h
    obtain ⟨valid, h⟩ := Option.dite_none_right_eq_some.mp h
    exact (congrArg String.toUTF8 (Option.some.inj h)).symm
  · rintro rfl
    exact dif_pos s.isValidUTF8

theorem document_of_holds (holds : Holds bytes text) :
    document path (.bytes bytes) = parse path text := by
  obtain ⟨s, same, rfl⟩ := holds
  simp [document, fromUTF8?_eq_some.mpr same]

theorem document_of_broken (broken : ∀ s : String, s.toUTF8 ≠ bytes) :
    document path (.bytes bytes) = .error .notUtf8 := by
  have undecoded : String.fromUTF8? bytes = none :=
    Option.eq_none_iff_forall_ne_some.mpr fun s decoded => broken s (fromUTF8?_eq_some.mp decoded)
  simp [document, undecoded]

theorem holds_or_broken (bytes : ByteArray) :
    (∃ text, Holds bytes text) ∨ ∀ s : String, s.toUTF8 ≠ bytes := by
  by_cases decodes : ∃ s : String, s.toUTF8 = bytes
  · obtain ⟨s, same⟩ := decodes
    exact .inl ⟨_, s, same, rfl⟩
  · exact .inr (not_exists.mp decodes)

/-! ## Sizes -/

/-- Only what has no size and does not count as false is no paths. -/
theorem pathCount_eq_error :
    pathCount entries = .error fault ↔
      fault = .wrongKind ∧ ∃ paths, entries.lookup "paths" = some (.atom paths) ∧
        paths.truthy = true ∧ ∀ s, paths ≠ .text s := by
  unfold pathCount
  cases found : entries.lookup "paths" with
  | none => simp [Atom.truthy]
  | some value =>
      cases value with
      | list items => simp
      | dict below => simp
      | atom a =>
          cases a with
          | text s => simp
          | _ =>
              simp only [Option.getD_some, Option.some.injEq, Json.atom.injEq, exists_eq_left']
              split
              · rename_i truthy
                simp [truthy, eq_comm]
              · rename_i falsy
                simp [falsy]

/-! ## Texts -/

theorem parse_eq_ok : parse path text = .ok entries ↔ Json.read text = .ok (.dict entries) := by
  unfold parse
  split
  · rename_i stop stops
    split <;> simp [stops]
  · rename_i reads
    simp [reads]
  · rename_i value other reads
    simp only [reads, reduceCtorEq, Except.ok.injEq, false_iff]
    exact other entries

theorem document_eq_ok :
    document path (.bytes bytes) = .ok entries ↔
      ∃ text, Holds bytes text ∧ Json.read text = .ok (.dict entries) := by
  constructor
  · intro parsed
    rcases holds_or_broken bytes with ⟨text, holds⟩ | broken
    · rw [document_of_holds holds] at parsed
      exact ⟨text, holds, parse_eq_ok.mp parsed⟩
    · rw [document_of_broken broken] at parsed
      cases parsed
  · rintro ⟨text, holds, reads⟩
    exact (document_of_holds holds).trans (parse_eq_ok.mpr reads)

theorem Refused.document (h : Refused path bytes fault) :
    Loading.document path (.bytes bytes) = .error fault := by
  cases h with
  | notJson holds stops other =>
      simp [document_of_holds holds, parse, stops, other]
  | notObject holds reads other =>
      rw [document_of_holds holds, parse, reads]
      split
      · cases ‹_›
      · rename_i entries same
        exact absurd (Except.ok.inj same) (other entries)
      · rfl

theorem document_error (failed : document path (.bytes bytes) = .error fault) :
    Refused path bytes fault ∨ Escapes bytes fault := by
  rcases holds_or_broken bytes with ⟨text, holds⟩ | broken
  · rw [document_of_holds holds, parse] at failed
    split at failed
    · rename_i stop stops
      split at failed
      · rename_i long
        have long := eq_of_beq long
        obtain ⟨⟨before, cut⟩, tooLong⟩ := Json.readWithin_stops stops long
        rw [← Except.error.inj failed]
        exact .inr (.longInteger holds cut.symm tooLong (by rw [stops, ← long]))
      · rename_i other
        rw [← Except.error.inj failed]
        exact .inl (.notJson holds stops fun long => other (by simp [long]))
    · cases failed
    · rename_i value other reads
      rw [← Except.error.inj failed]
      exact .inl (.notObject holds reads other)
  · rw [document_of_broken broken] at failed
    rw [← Except.error.inj failed]
    exact .inr (.notUtf8 broken)

/-! ## Loading -/

section Opening

variable {content : FileContent} {log log' : Log}

/-- An object is loaded once its paths are counted, and then this is reported. -/
theorem load_ok_iff {document : Json} :
    Json.load path content log = .ok document log' ↔
      ∃ entries paths, Loading.document path content = .ok entries ∧
        pathCount entries = .ok paths ∧ document = .dict entries ∧
        log' = log.push (.documentLoaded path paths) := by
  constructor
  · intro ended
    obtain ⟨entries, _, first, ended⟩ := bind_eq_ok.mp ended
    obtain ⟨parsed, rfl⟩ := ofExcept_eq_ok.mp first
    obtain ⟨paths, _, second, ended⟩ := bind_eq_ok.mp ended
    obtain ⟨counted, rfl⟩ := ofExcept_eq_ok.mp second
    obtain ⟨_, _, reported, ended⟩ := bind_eq_ok.mp ended
    obtain ⟨rfl, rfl⟩ := pure_eq_ok.mp ended
    exact ⟨entries, paths, parsed, counted, rfl, (EStateM.Result.ok.inj reported).2.symm⟩
  · rintro ⟨entries, paths, parsed, counted, rfl, rfl⟩
    refine bind_eq_ok.mpr ⟨entries, log, ofExcept_eq_ok.mpr ⟨parsed, rfl⟩, ?_⟩
    exact bind_eq_ok.mpr ⟨paths, log, ofExcept_eq_ok.mpr ⟨counted, rfl⟩, rfl⟩

/-- Loading fails in its first part or in its second one, before anything is reported. -/
theorem load_error_iff :
    Json.load path content log = .error fault log' ↔
      log' = log ∧ (document path content = .error fault ∨
        ∃ entries, document path content = .ok entries ∧ pathCount entries = .error fault) := by
  constructor
  · intro failed
    rcases bind_eq_error.mp failed with first | ⟨entries, _, first, failed⟩
    · obtain ⟨unread, rfl⟩ := ofExcept_eq_error.mp first
      exact ⟨rfl, .inl unread⟩
    · obtain ⟨parsed, rfl⟩ := ofExcept_eq_ok.mp first
      rcases bind_eq_error.mp failed with second | ⟨paths, _, second, failed⟩
      · obtain ⟨uncounted, rfl⟩ := ofExcept_eq_error.mp second
        exact ⟨rfl, .inr ⟨entries, parsed, uncounted⟩⟩
      · rcases bind_eq_error.mp failed with reported | ⟨_, _, _, failed⟩
        · cases reported
        · exact absurd failed pure_ne_error
  · rintro ⟨rfl, unread | ⟨entries, parsed, uncounted⟩⟩
    · exact bind_eq_error.mpr (.inl (ofExcept_eq_error.mpr ⟨unread, rfl⟩))
    · refine bind_eq_error.mpr (.inr ⟨entries, log', ofExcept_eq_ok.mpr ⟨parsed, rfl⟩, ?_⟩)
      exact bind_eq_error.mpr (.inl (ofExcept_eq_error.mpr ⟨uncounted, rfl⟩))

end Opening

/-- An object is loaded, unless its paths have no size. -/
theorem load_eq_ok {document : Json} {log log' : Log} :
    Json.load path (.bytes bytes) log = .ok document log' ↔
      ∃ text entries paths, Holds bytes text ∧ Json.read text = .ok (.dict entries) ∧
        pathCount entries = .ok paths ∧ document = .dict entries ∧
        log' = log.push (.documentLoaded path paths) := by
  rw [load_ok_iff]
  constructor
  · rintro ⟨entries, paths, parsed, loaded⟩
    obtain ⟨text, holds, reads⟩ := document_eq_ok.mp parsed
    exact ⟨text, entries, paths, holds, reads, loaded⟩
  · rintro ⟨text, entries, paths, holds, reads, loaded⟩
    exact ⟨entries, paths, document_eq_ok.mpr ⟨text, holds, reads⟩, loaded⟩

theorem load_eq_error {log log' : Log} :
    Json.load path (.bytes bytes) log = .error fault log' ↔
      log' = log ∧ (Refused path bytes fault ∨ Escapes bytes fault) := by
  rw [load_error_iff]
  refine and_congr_right fun _ => ⟨?_, ?_⟩
  · rintro (failed | ⟨entries, parsed, failed⟩)
    · exact document_error failed
    · obtain ⟨rfl, paths, found, truthy, noText⟩ := pathCount_eq_error.mp failed
      obtain ⟨text, holds, reads⟩ := document_eq_ok.mp parsed
      exact .inr (.sizeless holds reads found truthy noText)
  · rintro (refused | escapes)
    · exact .inl refused.document
    · cases escapes with
      | notUtf8 broken => exact .inl (document_of_broken broken)
      | longInteger holds _ _ stops => exact .inl (by simp [document_of_holds holds, parse, stops])
      | sizeless holds reads found truthy noText =>
          exact .inr ⟨_, document_eq_ok.mpr ⟨_, holds, reads⟩,
            pathCount_eq_error.mpr ⟨rfl, _, found, truthy, noText⟩⟩

end Loading

/--
Loading the bytes of a file returns an object, or refuses the file and says why, or
ends in one of three faults that are none of loading.  Nothing is reported if it fails.
-/
theorem Json.load_ends (path : String) (bytes : ByteArray) (log : Log) :
    (∀ document log', Json.load path (.bytes bytes) log = .ok document log' ↔
      ∃ text entries paths, Loading.Holds bytes text ∧ Json.read text = .ok (.dict entries) ∧
        Loading.pathCount entries = .ok paths ∧ document = .dict entries ∧
        log' = log.push (.documentLoaded path paths)) ∧
    (∀ fault log', Json.load path (.bytes bytes) log = .error fault log' ↔
      log' = log ∧ (Loading.Refused path bytes fault ∨ Loading.Escapes bytes fault)) ∧
    (∀ fault, Loading.Refused path bytes fault -> fault.family = .loading) ∧
    (∀ fault, Loading.Escapes bytes fault -> fault.family = .other) :=
  ⟨fun _ _ => Loading.load_eq_ok, fun _ _ => Loading.load_eq_error,
    fun _ => Loading.Refused.family, fun _ => Loading.Escapes.family⟩

/-- A byte that stands in no text. -/
example : Json.load "a" (.bytes ⟨#[0xff]⟩) #[] = .error .notUtf8 #[] := rfl

end GraphFacade
