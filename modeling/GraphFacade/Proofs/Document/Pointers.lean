import GraphFacade.Document.Pointer
import GraphFacade.Proofs.Document.Expansion
import GraphFacade.Proofs.Text.Numerals
import GraphFacade.Proofs.Text.Replacing

/-!
# Pointers to locations

The pointer to a location has a token for each key and index that leads there.  A
key is written with every tilde and then every slash replaced, so its token has no
slash to be cut at.  A token is read by undoing both in the other order: the slash
that stands for `~1` cannot complete another escape, and a tilde that was written
comes back only after that.
-/

namespace GraphFacade

/-- The value at the end of a path of keys and indices. -/
def Json.at? : Json -> List Branch -> Option Json
  | value, [] => some value
  | value, branch :: rest => (value.part? branch).bind fun part => part.at? rest

namespace Text

theorem replaceAll_singleton (old : Char) (new cs : List Char) :
    replaceAll [old] new cs = cs.flatMap fun c => if c = old then new else [c] := by
  induction cs with
  | nil => rfl
  | cons c rest ih =>
      rw [List.flatMap_cons, ← ih]
      by_cases same : c = old
      · subst same
        rw [if_pos rfl]
        exact replaceAll_self_append (List.cons_ne_nil c []) new rest
      · rw [if_neg same]
        refine replaceAll_cons fun h => same ?_
        exact (List.cons_prefix_cons.mp h).1.symm

end Text

namespace Pointer

variable {c first second new : Char} {cs rest : List Char} {name : String}
  {document value : Json} {location : List Branch}

/-! ## Tokens -/

def escape (text : List Char) : List Char :=
  Text.replaceAll ['/'] ['~', '1'] (Text.replaceAll ['~'] ['~', '0'] text)

/-- The two replacements do not meet, as the first one brings no slash. -/
theorem escape_eq_encodeToken (text : List Char) : escape text = encodeToken text := by
  rw [escape, Text.replaceAll_singleton, Text.replaceAll_singleton, List.flatMap_assoc, encodeToken]
  refine List.flatMap_congr fun c _ => ?_
  by_cases tilde : c = '~'
  · simp [tilde]
  · by_cases slash : c = '/' <;> simp [tilde, slash]

theorem replacePair_self (first second new : Char) (rest : List Char) :
    replacePair first second new (first :: second :: rest) =
      new :: replacePair first second new rest := by
  simp [replacePair]

theorem replacePair_cons (starts : ¬ [first, second] <+: c :: rest) :
    replacePair first second new (c :: rest) = c :: replacePair first second new rest := by
  cases rest with
  | nil => rfl
  | cons d rest =>
      rw [replacePair, if_neg]
      rw [Bool.and_eq_true, beq_iff_eq, beq_iff_eq]
      rintro ⟨rfl, rfl⟩
      exact starts (List.prefix_append [c, d] rest)

theorem replacePair_encodeToken (text : List Char) :
    replacePair '~' '1' '/' (encodeToken text) =
      text.flatMap fun c => if c = '~' then ['~', '0'] else [c] := by
  induction text with
  | nil => rfl
  | cons c rest ih =>
      rw [List.flatMap_cons, ← ih]
      by_cases tilde : c = '~'
      · subst tilde
        -- The zero behind a tilde completes no slash.
        have first : ¬ ['~', '1'] <+: '~' :: '0' :: encodeToken rest := by
          simp [List.cons_prefix_cons]
        have second : ¬ ['~', '1'] <+: '0' :: encodeToken rest := by
          simp [List.cons_prefix_cons]
        exact (replacePair_cons first).trans (congrArg ('~' :: ·) (replacePair_cons second))
      · by_cases slash : c = '/'
        · subst slash
          exact replacePair_self '~' '1' '/' (encodeToken rest)
        · have kept : encodeToken (c :: rest) = c :: encodeToken rest := by
            simp [encodeToken, tilde, slash]
          rw [kept, if_neg tilde]
          refine replacePair_cons fun h => tilde ?_
          exact (List.cons_prefix_cons.mp h).1.symm

theorem replacePair_tildes (text : List Char) :
    replacePair '~' '0' '~' (text.flatMap fun c => if c = '~' then ['~', '0'] else [c]) = text := by
  induction text with
  | nil => rfl
  | cons c rest ih =>
      rw [List.flatMap_cons]
      by_cases tilde : c = '~'
      · subst tilde
        exact (replacePair_self '~' '0' '~' _).trans (congrArg ('~' :: ·) ih)
      · rw [if_neg tilde]
        refine (replacePair_cons fun h => tilde ?_).trans (congrArg (c :: ·) ih)
        exact (List.cons_prefix_cons.mp h).1.symm

theorem decodeToken_encodeToken (text : List Char) : decodeToken (encodeToken text) = text := by
  rw [decodeToken, replacePair_encodeToken, replacePair_tildes]

theorem slash_not_mem_encodeToken (text : List Char) : '/' ∉ encodeToken text := by
  intro h
  obtain ⟨c, _, inside⟩ := List.mem_flatMap.mp h
  by_cases tilde : c = '~'
  · simp [tilde] at inside
  · by_cases slash : c = '/'
    · simp [slash] at inside
    · simp [tilde, slash, Ne.symm slash] at inside

theorem encodeToken_eq_self (plain : ∀ c ∈ cs, c ≠ '~' ∧ c ≠ '/') : encodeToken cs = cs := by
  have single : ∀ c ∈ cs,
      (if c == '~' then ['~', '0'] else if c == '/' then ['~', '1'] else [c]) = [c] := by
    intro c member
    simp [plain c member]
  rw [encodeToken, List.flatMap_congr single, List.flatMap_singleton']

/-! ## Locations -/

def branchText : Branch -> List Char
  | .key name => name.toList
  | .place index => Nat.toDigits 10 index

def token : Branch -> List Char
  | .key name => escape name.toList
  | .place index => Nat.toDigits 10 index

def toLocation (location : List Branch) : List Char :=
  location.flatMap fun branch => '/' :: token branch

theorem token_eq (branch : Branch) : token branch = encodeToken (branchText branch) := by
  cases branch with
  | key name => exact escape_eq_encodeToken _
  | place index =>
      refine (encodeToken_eq_self fun c member => ?_).symm
      have digit := Text.isDigit_of_mem_decimal member
      constructor <;> (rintro rfl; simp at digit)

theorem toLocation_cons (branch : Branch) (rest : List Branch) :
    toLocation (branch :: rest) = '/' :: ['/'].intercalate ((branch :: rest).map token) := by
  induction rest generalizing branch with
  | nil => simp [toLocation]
  | cons next rest ih =>
      rw [toLocation, List.flatMap_cons, ← toLocation, ih, List.map_cons, List.map_cons,
        List.map_cons, List.intercalate_cons_cons]
      simp

theorem splitAt_intercalate_tokens (some' : location ≠ []) :
    (Text.splitAt '/' (['/'].intercalate (location.map token))).map decodeToken =
      location.map branchText := by
  have free : ∀ piece ∈ location.map token, '/' ∉ piece := by
    intro piece member
    obtain ⟨branch, _, rfl⟩ := List.mem_map.mp member
    exact token_eq branch ▸ slash_not_mem_encodeToken _
  rw [Text.splitAt_eq_splitOn, List.splitOn_intercalate '/' free (by simpa using some'),
    List.map_map]
  refine List.map_congr_left fun branch _ => ?_
  rw [Function.comp_apply, token_eq, decodeToken_encodeToken]

theorem place?_natCast (length index : Nat) :
    place? length (index : Int) = if index < length then some index else none := by
  have forward : ¬ (index : Int) < 0 := by omega
  rw [place?, if_neg forward]
  simp

theorem step?_branchText {part : Json} {branch : Branch} (found : value.part? branch = some part)
    (short : ∀ index, branch = .place index -> index < 10 ^ Text.digitLimit) :
    step? value (branchText branch) = some part := by
  cases value with
  | atom a => cases branch <;> cases found
  | list items =>
      cases branch with
      | key name => cases found
      | place index =>
          obtain ⟨inside, _⟩ := List.getElem?_eq_some_iff.mp found
          simpa [step?, branchText, Text.integer?_toDigits, short index rfl, place?_natCast,
            inside, Json.part?] using found
  | dict entries =>
      cases branch with
      | key name => simpa [step?, branchText, Json.part?] using found
      | place index => cases found

theorem follow?_location (found : document.at? location = some value)
    (short : ∀ index, .place index ∈ location -> index < 10 ^ Text.digitLimit) :
    follow? document (location.map branchText) = some value := by
  induction location generalizing document with
  | nil => exact found
  | cons branch rest ih =>
      obtain ⟨part, here, below⟩ := Option.bind_eq_some_iff.mp found
      have step := step?_branchText here fun index same =>
        short index (same ▸ List.mem_cons_self)
      rw [List.map_cons, follow?, step]
      exact ih below fun index member => short index (List.mem_cons_of_mem _ member)

/--
The pointer to a location of a document names the value there, whatever its keys
are, empty ones and those with slashes, tildes and escapes among them.  Reading a
token undoes the escaping of every text.  An index may have as many digits as a
numeral may have, which are more than a list in any memory needs.
-/
theorem get_toLocation (found : document.at? location = some value)
    (short : ∀ index, .place index ∈ location -> index < 10 ^ Text.digitLimit) :
    get document (toLocation location) = .ok value ∧
      ∀ text, decodeToken (escape text) = text := by
  constructor
  · cases location with
    | nil => exact congrArg Except.ok (Option.some.inj found)
    | cons branch rest =>
        rw [toLocation_cons, get, if_neg (by decide),
          splitAt_intercalate_tokens (List.cons_ne_nil _ _), follow?_location found short]
  · intro text
    rw [escape_eq_encodeToken, decodeToken_encodeToken]

def crossroads : Json :=
  .dict [("", .dict [("~1", .list [.bool true, .dict [("a/b~", .text "here")]]),
    ("/", .bool false)])]

/-- The key that looks like an escaped slash is not taken for a slash. -/
theorem get_toLocation_crossroads :
    get crossroads "//~01/1/a~1b~0".toList = .ok (.text "here") := by
  have found : crossroads.at? [.key "", .key "~1", .place 1, .key "a/b~"] =
      some (.text "here") := by
    decide +kernel
  have written : toLocation [.key "", .key "~1", .place 1, .key "a/b~"] =
      "//~01/1/a~1b~0".toList := by
    decide +kernel
  rw [← written]
  refine (get_toLocation found fun index member => ?_).1
  have one : index = 1 := by simpa using member
  exact one ▸ Nat.one_lt_pow (by decide) (by decide)

end Pointer

end GraphFacade
