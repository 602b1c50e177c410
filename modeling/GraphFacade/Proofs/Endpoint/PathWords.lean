import GraphFacade.Endpoint.Extraction
import GraphFacade.Proofs.Text.Replacing
import Mathlib.Data.List.Basic

/-!
# Words of paths

An operation without an id goes by its method and by how its path is spelled.  The
spelling keeps the words of a path in their order, with a word of its own before
each placeholder, but not what stands between them: so paths of different words
are spelled differently, and paths of the same words may be spelled alike.
-/

namespace GraphFacade

namespace Extraction

variable {c : Char} {cs segment name : List Char} {path path' : String}

/-! ## Words -/

def isWordChar (c : Char) : Bool :=
  Name.isNameChar c && c != '_'

def wordsOf (cs : List Char) : List (List Char) :=
  (cs.splitOnP fun c => !isWordChar c).filter fun word => !word.isEmpty

theorem wordsOf_word (nonempty : cs ≠ []) (chars : ∀ c ∈ cs, isWordChar c = true) :
    wordsOf cs = [cs] := by
  have whole : cs.splitOnP (fun c => !isWordChar c) = [cs] :=
    List.splitOnP_eq_singleton fun c member => by rw [chars c member]; rfl
  rw [wordsOf, whole]
  simp [nonempty]

theorem wordsOf_append_cons (before after : List Char) (break' : isWordChar c = false) :
    wordsOf (before ++ c :: after) = wordsOf before ++ wordsOf after := by
  rw [wordsOf, List.splitOnP_append_cons before after (by rw [break']; rfl), List.filter_append]
  rfl

theorem wordsOf_cons (after : List Char) (break' : isWordChar c = false) :
    wordsOf (c :: after) = wordsOf after :=
  wordsOf_append_cons [] after break'

theorem wordsOf_snoc (before : List Char) (break' : isWordChar c = false) :
    wordsOf (before ++ [c]) = wordsOf before := by
  rw [wordsOf_append_cons before [] break']
  exact List.append_nil _

theorem wordsOf_dropWhile (cs : List Char) : wordsOf (cs.dropWhile (· == '_')) = wordsOf cs := by
  induction cs with
  | nil => rfl
  | cons c rest ih =>
      by_cases mark : c = '_'
      · subst mark
        rw [List.dropWhile_cons_of_pos (by decide), ih, wordsOf_cons rest (by decide)]
      · rw [List.dropWhile_cons_of_neg (by simpa using mark)]

theorem wordsOf_reverse_dropWhile (cs : List Char) :
    wordsOf (cs.dropWhile (· == '_')).reverse = wordsOf cs.reverse := by
  induction cs with
  | nil => rfl
  | cons c rest ih =>
      by_cases mark : c = '_'
      · subst mark
        rw [List.dropWhile_cons_of_pos (by decide), ih, List.reverse_cons,
          wordsOf_snoc _ (by decide)]
      · rw [List.dropWhile_cons_of_neg (by simpa using mark)]

theorem wordsOf_trim (cs : List Char) : wordsOf (trim '_' cs) = wordsOf cs := by
  rw [trim, wordsOf_reverse_dropWhile, List.reverse_reverse, wordsOf_dropWhile]

theorem isWordChar_of_foreign (foreign : Name.isNameChar c = false) : isWordChar c = false := by
  rw [isWordChar, foreign, Bool.false_and]

theorem wordsOf_collapse (cs : List Char) :
    (∀ before, wordsOf (before ++ collapse false cs) = wordsOf (before ++ cs)) ∧
      wordsOf (collapse true cs) = wordsOf cs := by
  induction cs with
  | nil => exact ⟨fun _ => rfl, rfl⟩
  | cons c rest ih =>
      obtain ⟨behind, inRun⟩ := ih
      by_cases own : Name.isNameChar c = true
      · refine ⟨fun before => ?_, ?_⟩
        · have later := behind (before ++ [c])
          rw [List.append_assoc, List.append_assoc] at later
          rw [collapse, if_pos own]
          exact later
        · rw [collapse, if_pos own]
          exact behind [c]
      · rw [Bool.not_eq_true] at own
        have break' := isWordChar_of_foreign own
        refine ⟨fun before => ?_, ?_⟩
        · rw [collapse, own, if_neg Bool.false_ne_true, if_neg Bool.false_ne_true,
            wordsOf_append_cons _ _ (by decide), wordsOf_append_cons _ _ break', inRun]
        · rw [collapse, own, if_neg Bool.false_ne_true, if_pos rfl, inRun,
            wordsOf_cons rest break']

theorem wordsOf_joinParts (parts : List (List Char)) :
    wordsOf (joinParts parts) = parts.flatMap wordsOf := by
  induction parts with
  | nil => rfl
  | cons part rest ih =>
      cases rest with
      | nil => simp [joinParts]
      | cons next rest =>
          have joined :
              joinParts (part :: next :: rest) = part ++ '_' :: joinParts (next :: rest) :=
            rfl
          rw [joined, wordsOf_append_cons _ _ (by decide), ih]
          rfl

/-! ## Paths -/

def segments (path : String) : List (List Char) :=
  (Text.splitAt '/' (trim '/' path.toList)).filter fun segment => !segment.isEmpty

/-- The name in a segment that is a placeholder. -/
def placeholder? (segment : List Char) : Option (List Char) :=
  if segment.head? == some '\x7b' && segment.getLast? == some '\x7d' then
    some (segment.drop 1).dropLast
  else
    none

def segmentWords (segment : List Char) : List (List Char) :=
  match placeholder? segment with
  | some name => "by".toList :: wordsOf name
  | none => wordsOf segment

def words (path : String) : List (List Char) :=
  if segments path = [] then ["root".toList] else (segments path).flatMap segmentWords

/-- How a path is spelled in an id. -/
def spelling (path : String) : List Char :=
  trim '_' (collapse false
    (if (segments path).isEmpty then "root".toList
     else joinParts ((segments path).map segmentPart)))

theorem fallbackId_eq (method : Method) (path : String) :
    fallbackId method path = method.name ++ "_" ++ String.ofList (spelling path) := rfl

theorem wordsOf_segmentPart (segment : List Char) :
    wordsOf (segmentPart segment) = segmentWords segment := by
  unfold segmentPart segmentWords placeholder?
  split
  · exact (wordsOf_append_cons "by".toList _ (by decide)).trans rfl
  · rfl

theorem words_eq (path : String) : words path = wordsOf (spelling path) := by
  have behind := fun cs => (wordsOf_collapse cs).1 []
  rw [spelling, wordsOf_trim]
  refine Eq.trans ?_ (behind _).symm
  rw [List.nil_append, words]
  by_cases none' : segments path = []
  · rw [none']
    rfl
  · rw [if_neg none', if_neg (by simpa using none'), wordsOf_joinParts, List.flatMap_map]
    simp only [wordsOf_segmentPart]

/-! ## Ids -/

theorem not_mem_methodName (method : Method) : '_' ∉ method.name.toList := by
  cases method <;> decide

theorem methodName_injective {method method' : Method} (same : method.name = method'.name) :
    method = method' := by
  revert same
  cases method <;> cases method' <;> decide

/-- Operations without ids go by one id if they have one method and paths of one spelling. -/
theorem fallbackId_eq_iff {method method' : Method} :
    fallbackId method path = fallbackId method' path' ↔
      method = method' ∧ spelling path = spelling path' := by
  constructor
  · intro same
    have chars : method.name.toList ++ '_' :: spelling path =
        method'.name.toList ++ '_' :: spelling path' := by
      have chars := congrArg String.toList same
      simpa [fallbackId_eq] using chars
    have nameOf : ∀ (method : Method) (rest : List Char),
        (method.name.toList ++ '_' :: rest).takeWhile (· != '_') = method.name.toList := by
      intro method rest
      have inside : ∀ c ∈ method.name.toList, (c != '_') = true := by
        intro c member
        refine bne_iff_ne.mpr ?_
        rintro rfl
        exact not_mem_methodName method member
      rw [List.takeWhile_append_of_pos inside]
      simp
    have names := congrArg (List.takeWhile (· != '_')) chars
    rw [nameOf, nameOf] at names
    obtain rfl := methodName_injective (String.toList_inj.mp names)
    exact ⟨rfl, (List.cons.inj (List.append_cancel_left chars)).2⟩
  · rintro ⟨rfl, same⟩
    rw [fallbackId_eq, fallbackId_eq, same]

/-! ## Plain paths -/

/-- A segment that is a word, but not the one before a placeholder, or a placeholder for a word. -/
inductive PlainSegment : List Char -> Prop
  | word {word : List Char} (nonempty : word ≠ []) (chars : ∀ c ∈ word, isWordChar c = true)
      (other : word ≠ "by".toList) : PlainSegment word
  | placeholder {name : List Char} (nonempty : name ≠ [])
      (chars : ∀ c ∈ name, isWordChar c = true) :
      PlainSegment ('\x7b' :: (name ++ ['\x7d']))

/-- A path of plain segments, but not the one that is spelled as the path without segments. -/
structure PlainPath (path : String) : Prop where
  each : ∀ segment ∈ segments path, PlainSegment segment
  rooted : segments path ≠ ["root".toList]

theorem segmentWords_word (nonempty : cs ≠ []) (chars : ∀ c ∈ cs, isWordChar c = true) :
    segmentWords cs = [cs] := by
  have literal : placeholder? cs = none := by
    obtain ⟨first, rest, rfl⟩ := List.exists_cons_of_ne_nil nonempty
    have own := chars first List.mem_cons_self
    have other : first ≠ '\x7b' := by
      rintro rfl
      exact absurd own (by decide)
    simp [placeholder?, other]
  rw [segmentWords, literal]
  exact wordsOf_word nonempty chars

theorem segmentWords_placeholder (nonempty : name ≠ []) (chars : ∀ c ∈ name, isWordChar c = true) :
    segmentWords ('\x7b' :: (name ++ ['\x7d'])) = ["by".toList, name] := by
  have within : placeholder? ('\x7b' :: (name ++ ['\x7d'])) = some name := by
    simp [placeholder?, List.getLast?_cons]
  rw [segmentWords, within]
  exact congrArg _ (wordsOf_word nonempty chars)

/-- Plain segments can be told by their words. -/
theorem eq_of_flatMap_segmentWords {first second : List (List Char)}
    (plain : ∀ segment ∈ first, PlainSegment segment)
    (plain' : ∀ segment ∈ second, PlainSegment segment)
    (same : first.flatMap segmentWords = second.flatMap segmentWords) : first = second := by
  have some' : ∀ {segment}, PlainSegment segment -> segmentWords segment ≠ [] := by
    rintro segment (⟨nonempty, chars, _⟩ | ⟨nonempty, chars⟩)
    · simp [segmentWords_word nonempty chars]
    · simp [segmentWords_placeholder nonempty chars]
  induction first generalizing second with
  | nil =>
      cases second with
      | nil => rfl
      | cons segment rest =>
          rw [List.flatMap_nil, List.flatMap_cons, eq_comm, List.append_eq_nil_iff] at same
          exact absurd same.1 (some' (plain' segment List.mem_cons_self))
  | cons segment rest ih =>
      cases second with
      | nil =>
          rw [List.flatMap_nil, List.flatMap_cons, List.append_eq_nil_iff] at same
          exact absurd same.1 (some' (plain segment List.mem_cons_self))
      | cons segment' rest' =>
          rw [List.forall_mem_cons] at plain plain'
          rw [List.flatMap_cons, List.flatMap_cons] at same
          rcases plain.1 with ⟨nonempty, chars, other⟩ | ⟨nonempty, chars⟩ <;>
            rcases plain'.1 with ⟨nonempty', chars', other'⟩ | ⟨nonempty', chars'⟩
          · rw [segmentWords_word nonempty chars, segmentWords_word nonempty' chars'] at same
            obtain ⟨rfl, later⟩ := List.cons.inj same
            rw [ih plain.2 plain'.2 later]
          · rw [segmentWords_word nonempty chars,
              segmentWords_placeholder nonempty' chars'] at same
            exact absurd (List.cons.inj same).1 other
          · rw [segmentWords_placeholder nonempty chars,
              segmentWords_word nonempty' chars'] at same
            exact absurd (List.cons.inj same).1.symm other'
          · rw [segmentWords_placeholder nonempty chars,
              segmentWords_placeholder nonempty' chars'] at same
            obtain ⟨rfl, later⟩ := List.cons.inj (List.cons.inj same).2
            rw [ih plain.2 plain'.2 later]

theorem PlainPath.words_ne_root (plain : PlainPath path) (some' : segments path ≠ []) :
    words path ≠ ["root".toList] := by
  intro same
  refine plain.rooted (eq_of_flatMap_segmentWords plain.each ?_ ?_)
  · intro segment member
    rw [List.mem_singleton.mp member]
    exact .word (by decide) (List.all_eq_true.mp (by decide)) (by decide)
  · rw [words, if_neg some'] at same
    rw [same]
    decide +kernel

/-- Plain paths of the same words have the same segments. -/
theorem PlainPath.segments_eq (plain : PlainPath path) (plain' : PlainPath path')
    (same : words path = words path') : segments path = segments path' := by
  by_cases none' : segments path = [] <;> by_cases none'' : segments path' = []
  · rw [none', none'']
  · have root : words path = ["root".toList] := by rw [words, if_pos none']
    exact absurd (same.symm.trans root) (plain'.words_ne_root none'')
  · have root : words path' = ["root".toList] := by rw [words, if_pos none'']
    exact absurd (same.trans root) (plain.words_ne_root none')
  · rw [words, words, if_neg none', if_neg none''] at same
    exact eq_of_flatMap_segmentWords plain.each plain'.each same

end Extraction

end GraphFacade
