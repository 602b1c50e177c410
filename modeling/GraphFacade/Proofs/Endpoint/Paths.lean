import GraphFacade.Proofs.Endpoint.Placing
import GraphFacade.Proofs.Text.Percent
import GraphFacade.Proofs.Text.Replacing

/-!
# Paths of requests

The parameters of a path are filled in one after another, each by replacing its
placeholder in all places.  In a template of plain texts and placeholders that
is the same as filling all placeholders at once: what is inserted holds no
brace, so no placeholder comes up or is lost on the way.
-/

namespace GraphFacade

namespace Request

open Steps

variable {arguments : Entries Json} {parameters parameters' : List Parameter}
  {parameter : Parameter} {draft draft' : Draft} {name path : String} {value : Json}

def placeholder (name : String) : List Char :=
  '\x7b' :: (name.toList ++ ['\x7d'])

def inserted (value : Json) : List Char :=
  Text.percentEncode value.display.toList

def fillIn (path : List Char) (given : String × Json) : List Char :=
  Text.replaceAll (placeholder given.1) (inserted given.2) path

def Encodable (value : Json) : Prop :=
  value.longest ≤ Text.digitLimit ∧ Text.hasHalf value.display = false

def Writable (value : Json) : Location -> Prop
  | .path => Encodable value
  | .header | .cookie => value.longest ≤ Text.digitLimit
  | .query | .formData | .body => True

/-! ## One parameter after another -/

theorem argument_of_text (called : parameter.name = .text name) :
    parameter.argument? = some (Name.ofText name) := by
  rw [Parameter.argument?, called, Name.ofJson?]

/-- A value for the path is filled in, if the name is a text and the value has one with bytes. -/
theorem Draft.place_path {argument : String} (here : parameter.location = .path)
    (template : draft.path = some path) :
    draft.place parameter argument value = .ok draft' ↔
      ∃ name, parameter.name = .text name ∧ Encodable value ∧
        { draft with path := some (String.ofList (fillIn path.toList (name, value))) } = draft' := by
  rcases parameter with ⟨called, location, schema, required, description⟩
  subst here
  change draft.fillPath called value = .ok draft' ↔ _
  unfold fillPath
  rw [template]
  match called with
  | .text name =>
      constructor
      · intro h
        obtain ⟨shown, shows, h⟩ := except_bind_eq_ok.mp h
        obtain ⟨short, rfl⟩ := Json.shown_eq_ok.mp shows
        split at h
        · cases h
        · rename_i whole
          exact ⟨name, rfl, ⟨short, Bool.eq_false_iff.mpr whole⟩, Except.ok.inj h⟩
      · rintro ⟨_, named, ⟨short, whole⟩, rfl⟩
        cases named
        refine except_bind_eq_ok.mpr ⟨_, Json.shown_eq_ok.mpr ⟨short, rfl⟩, ?_⟩
        rw [if_neg (Bool.eq_false_iff.mp whole)]
        rfl
  | .atom (.null) | .atom (.bool _) | .atom (.int _) | .atom (.float _) | .list _ | .dict _ =>
      exact ⟨nofun, nofun⟩

theorem Draft.place_path_of_ne {argument : String} (elsewhere : parameter.location ≠ .path)
    (h : draft.place parameter argument value = .ok draft') : draft'.path = draft.path := by
  rcases parameter with ⟨name, location, schema, required, description⟩
  cases location with
  | path => exact absurd rfl elsewhere
  | body =>
      cases h
      rfl
  | cookie =>
      obtain ⟨_, _, rfl⟩ := (place_cookie rfl).mp h
      rfl
  | header =>
      obtain ⟨_, added⟩ := (place_header rfl).mp h
      cases name with
      | atom a => cases a <;> cases added <;> rfl
      | list | dict => cases added
  | query | formData =>
      cases name with
      | atom a => cases a <;> cases h <;> rfl
      | list | dict => cases h

/-- A value that goes by a text is placed just where it can be written. -/
theorem Draft.place_ok_iff {argument : String} (called : parameter.name = .text name)
    (template : draft.path = some path) :
    (∃ draft', draft.place parameter argument value = .ok draft') ↔
      Writable value parameter.location := by
  by_cases here : parameter.location = .path
  · rw [here]
    refine ⟨fun ⟨draft', h⟩ => ?_, fun bytes => ?_⟩
    · obtain ⟨_, _, bytes, _⟩ := (place_path here template).mp h
      exact bytes
    · exact ⟨_, (place_path here template).mpr ⟨name, called, bytes, rfl⟩⟩
  · rcases parameter with ⟨_, location, schema, required, description⟩
    subst called
    cases location with
    | path => exact absurd rfl here
    | query | formData | body => exact ⟨fun _ => trivial, fun _ => ⟨_, rfl⟩⟩
    | header =>
        exact ⟨fun ⟨_, h⟩ => ((place_header rfl).mp h).1,
          fun short => ⟨_, (place_header rfl).mpr ⟨short, rfl⟩⟩⟩
    | cookie =>
        exact ⟨fun ⟨_, h⟩ => ((place_cookie rfl).mp h).2.1,
          fun short => ⟨_, (place_cookie rfl).mpr ⟨Nat.zero_le _, short, rfl⟩⟩⟩

/-- What a parameter is given for the path is filled in. -/
theorem Draft.step_path (h : draft.step arguments parameter = .ok draft')
    (template : draft.path = some path) :
    draft'.path =
      some (String.ofList ((givenAt .path arguments [parameter]).foldl fillIn path.toList)) := by
  have unfilled : some path = some (String.ofList path.toList) := by rw [String.ofList_toList]
  unfold step at h
  split at h
  · cases h
  · rename_i argument named
    -- A value that is missing or null is not given.
    have missing (absent : ∀ value, arguments.lookup argument = some value -> value = .null) :
        givenAt .path arguments [parameter] = [] := by
      cases given : given? arguments parameter with
      | none => exact givenAt_cons_of_none given _
      | some taken =>
          obtain ⟨called, found, present⟩ := given?_eq_some.mp given
          rw [argument_of_text called, Option.some.injEq] at named
          exact absurd (absent _ (named ▸ found)) present
    split at h
    · rename_i absent
      rw [missing (by simp [absent]), ← Except.ok.inj h, template, unfilled]
      rfl
    · rename_i null
      rw [missing (by simp [null]), ← Except.ok.inj h, template, unfilled]
      rfl
    · rename_i value present given
      by_cases here : parameter.location = .path
      · obtain ⟨name, called, _, rfl⟩ := (place_path here template).mp h
        rw [argument_of_text called, Option.some.injEq] at named
        have taken : given? arguments parameter = some (name, value) :=
          given?_eq_some.mpr ⟨called, named ▸ given, fun null => present (by rw [null])⟩
        rw [givenAt_cons_of_some taken, if_pos here]
        rfl
      · have none : givenAt .path arguments [parameter] = [] := by simp [givenAt, here]
        rw [place_path_of_ne here h, none, template, unfilled]
        rfl

/-- What the parameters are given for the path is filled in, in their order. -/
theorem Draft.fill_path (h : Draft.fill arguments parameters draft = .ok draft')
    (template : draft.path = some path) :
    draft'.path =
      some (String.ofList ((givenAt .path arguments parameters).foldl fillIn path.toList)) := by
  induction parameters generalizing draft path with
  | nil =>
      rw [← Except.ok.inj h, template]
      exact congrArg some String.ofList_toList.symm
  | cons parameter rest ih =>
      obtain ⟨middle, step, later⟩ := fill_cons.mp h
      have first := step_path step template
      rw [ih later first, String.toList_ofList, ← List.foldl_append, ← givenAt_append,
        List.singleton_append]

/-- If its name is a text, a parameter is in the way only with a value that cannot be written. -/
theorem Draft.step_ok_iff (called : parameter.name = .text name)
    (template : draft.path = some path) :
    (∃ draft', draft.step arguments parameter = .ok draft') ↔
      ∀ name value, given? arguments parameter = some (name, value) ->
        Writable value parameter.location := by
  unfold step
  rw [argument_of_text called]
  dsimp only
  split
  · rename_i missing
    exact ⟨fun _ => by simp [given?_of_text called, missing], fun _ => ⟨draft, rfl⟩⟩
  · rename_i null
    exact ⟨fun _ => by simp [given?_of_text called, null], fun _ => ⟨draft, rfl⟩⟩
  · rename_i value present found
    have given : given? arguments parameter = some (name, value) :=
      given?_eq_some.mpr ⟨called, found, fun null => present (by rw [null])⟩
    rw [place_ok_iff called template, given]
    simp

theorem Draft.fill_ok_iff (named : Named parameters) (template : draft.path = some path) :
    (∃ draft', Draft.fill arguments parameters draft = .ok draft') ↔
      ∀ parameter ∈ parameters, ∀ name value, given? arguments parameter = some (name, value) ->
        Writable value parameter.location := by
  induction parameters generalizing draft path with
  | nil => exact ⟨fun _ => by simp, fun _ => ⟨draft, rfl⟩⟩
  | cons parameter rest ih =>
      obtain ⟨name, called⟩ := named _ List.mem_cons_self
      have others : Named rest := fun _ among => named _ (List.mem_cons_of_mem _ among)
      rw [List.forall_mem_cons, ← step_ok_iff called template]
      constructor
      · rintro ⟨draft', filled⟩
        obtain ⟨middle, step, later⟩ := fill_cons.mp filled
        exact ⟨⟨middle, step⟩, (ih others (step_path step template)).mp ⟨draft', later⟩⟩
      · rintro ⟨⟨middle, step⟩, writable⟩
        obtain ⟨draft', later⟩ := (ih others (step_path step template)).mpr writable
        exact ⟨draft', fill_cons.mpr ⟨middle, step, later⟩⟩

/-- The path of a request is its template with the values filled in one after another. -/
theorem path_eq {endpoint : Endpoint} {request : Request}
    (h : endpoint.request arguments = .ok request) (template : endpoint.path = some path) :
    request.path =
      String.ofList ((givenAt .path arguments endpoint.parameters).foldl fillIn path.toList) := by
  obtain ⟨draft, filled, done, _⟩ := request_ok h
  rw [Draft.fill_path filled template] at done
  exact (Option.some.inj done).symm

/-! ## The order of parameters -/

theorem lookup_givenAt (location : Location) :
    (givenAt location arguments parameters).lookup name = some value ↔
      (name, value) ∈ givenAt location arguments parameters := by
  refine ⟨Entries.mem_of_lookup, fun member => ?_⟩
  cases found : (givenAt location arguments parameters).lookup name with
  | none => exact absurd (List.mem_map_of_mem member) (Entries.not_mem_keys found)
  | some other =>
      obtain ⟨_, _, _, given⟩ := mem_givenAt.mp member
      obtain ⟨_, _, _, given'⟩ := mem_givenAt.mp (Entries.mem_of_lookup found)
      have value' := (given?_eq_some.mp given).2.1
      rw [(given?_eq_some.mp given').2.1] at value'
      exact value'

theorem lookup_givenAt_perm (location : Location) (arguments : Entries Json) (name : String)
    (perm : parameters'.Perm parameters) :
    (givenAt location arguments parameters').lookup name =
      (givenAt location arguments parameters).lookup name := by
  refine Option.ext fun value => ?_
  rw [lookup_givenAt, lookup_givenAt, givenAt, givenAt]
  exact ((perm.filter _).filterMap _).mem_iff

end Request

/-! ## Templates -/

namespace Template

open Request

/-- A piece of a path template: a text, or the place for a value. -/
inductive Piece
  | literal (text : String)
  | placeholder (name : String)
  deriving DecidableEq, Repr, Inhabited

def BraceFree (s : String) : Prop :=
  '\x7b' ∉ s.toList ∧ '\x7d' ∉ s.toList

instance (s : String) : Decidable (BraceFree s) :=
  inferInstanceAs (Decidable (_ ∧ _))

namespace Piece

def text : Piece -> List Char
  | literal s => s.toList
  | placeholder name => Request.placeholder name

def Plain : Piece -> Prop
  | literal s | placeholder s => BraceFree s

instance : (piece : Piece) -> Decidable piece.Plain
  | literal s | placeholder s => inferInstanceAs (Decidable (BraceFree s))

/-- A placeholder with its value inserted, if it has one; everything else as it is. -/
def fill (given : Entries Json) : Piece -> Piece
  | literal s => literal s
  | placeholder name =>
      match given.lookup name with
      | some value => literal (String.ofList (inserted value))
      | none => placeholder name

end Piece

def text (template : List Piece) : List Char :=
  template.flatMap Piece.text

def fill (given : Entries Json) (template : List Piece) : List Piece :=
  template.map (Piece.fill given)

variable {name other : String} {value : Json} {given later : Entries Json} {piece : Piece}
  {template : List Piece} {new rest : List Char}

theorem braceFree_inserted (value : Json) : BraceFree (String.ofList (inserted value)) := by
  rw [BraceFree, String.toList_ofList]
  exact ⟨Text.not_mem_percentEncode _ (by decide) (by decide),
    Text.not_mem_percentEncode _ (by decide) (by decide)⟩

theorem Piece.Plain.fill (h : piece.Plain) (given : Entries Json) : (piece.fill given).Plain := by
  cases piece with
  | literal s => exact h
  | placeholder name =>
      rw [Piece.fill]
      split
      · exact braceFree_inserted _
      · exact h

theorem Piece.fill_fill (piece : Piece) (given later : Entries Json) :
    (piece.fill given).fill later = piece.fill (given ++ later) := by
  cases piece with
  | literal s => rfl
  | placeholder name =>
      simp only [Piece.fill, List.lookup_append]
      cases found : given.lookup name with
      | some value => rfl
      | none => simp only [Option.none_or]

theorem fill_congr (same : ∀ name, given.lookup name = later.lookup name) :
    fill given template = fill later template := by
  refine List.map_congr_left fun piece _ => ?_
  cases piece with
  | literal s => rfl
  | placeholder name => rw [Piece.fill, Piece.fill, same]

theorem eq_of_placeholder_prefix_append (free : BraceFree name) (free' : BraceFree other)
    (h : placeholder name <+: placeholder other ++ rest) : name = other := by
  obtain ⟨more, same⟩ := h
  simp only [placeholder, List.cons_append, List.append_assoc, List.nil_append,
    List.cons.injEq, true_and] at same
  have names := congrArg (List.splitOn '\x7d') same
  rw [List.splitOn_append_cons_self_of_not_mem free.2,
    List.splitOn_append_cons_self_of_not_mem free'.2] at names
  exact String.toList_inj.mp (List.cons.inj names).1

theorem not_placeholder_prefix_cons {c : Char} (noBrace : c ≠ '\x7b') (rest : List Char) :
    ¬ placeholder name <+: c :: rest := by
  rw [placeholder, List.cons_prefix_cons]
  exact fun h => noBrace h.1.symm

/-- A piece is filled in, or stays as it is, whatever comes behind it. -/
theorem replaceAll_piece (free : BraceFree name) (plain : piece.Plain) (rest : List Char) :
    Text.replaceAll (placeholder name) (inserted value) (piece.text ++ rest) =
      (piece.fill [(name, value)]).text ++
        Text.replaceAll (placeholder name) (inserted value) rest := by
  cases piece with
  | literal s =>
      refine Text.replaceAll_append fun later behind nonempty => ?_
      obtain ⟨c, more, rfl⟩ := List.exists_cons_of_ne_nil nonempty
      have noBrace : c ≠ '\x7b' := ne_of_mem_of_not_mem (behind.mem List.mem_cons_self) plain.1
      exact not_placeholder_prefix_cons noBrace _
  | placeholder other =>
      by_cases same : other = name
      · subst same
        have filled : ((Piece.placeholder other).fill [(other, value)]).text = inserted value := by
          simp [Piece.fill, Piece.text]
        rw [filled]
        exact Text.replaceAll_self_append (List.cons_ne_nil _ _) _ rest
      · have kept : (Piece.placeholder other).fill [(name, value)] = .placeholder other := by
          simp [Piece.fill, List.lookup_cons, beq_false_of_ne same]
        rw [kept]
        refine Text.replaceAll_append fun later behind nonempty => ?_
        -- An occurrence starts with a brace, and only the first character here is one.
        rcases List.suffix_cons_iff.mp behind with whole | inner
        · subst whole
          exact fun h => same (eq_of_placeholder_prefix_append free plain h).symm
        · obtain ⟨c, more, rfl⟩ := List.exists_cons_of_ne_nil nonempty
          have inside : c ∈ other.toList ++ ['\x7d'] := inner.mem List.mem_cons_self
          refine not_placeholder_prefix_cons ?_ _
          rintro rfl
          simp [plain.1] at inside

theorem fillIn_text (free : BraceFree name) (plain : ∀ piece ∈ template, piece.Plain) :
    fillIn (text template) (name, value) = text (fill [(name, value)] template) := by
  induction template with
  | nil => rfl
  | cons piece rest ih =>
      rw [List.forall_mem_cons] at plain
      rw [text, List.flatMap_cons, fillIn, replaceAll_piece free plain.1]
      exact congrArg (_ ++ ·) (ih plain.2)

/-- Values are filled in one after another as if all placeholders were filled at once. -/
theorem foldl_fillIn_text (named : ∀ entry ∈ given, BraceFree entry.1)
    (plain : ∀ piece ∈ template, piece.Plain) :
    given.foldl fillIn (text template) = text (fill given template) := by
  induction given generalizing template with
  | nil =>
      have unfilled : ∀ piece ∈ template, Piece.fill [] piece = piece := by
        intro piece _
        cases piece <;> rfl
      rw [fill, List.map_congr_left unfilled, List.map_id']
      rfl
  | cons entry rest ih =>
      rw [List.forall_mem_cons] at named
      -- What was inserted has no brace, so the template stays one for the later values.
      have plain' : ∀ piece ∈ fill [entry] template, piece.Plain := by
        intro piece filled
        obtain ⟨old, among, rfl⟩ := List.mem_map.mp filled
        exact (plain old among).fill _
      rw [List.foldl_cons, fillIn_text named.1 plain, ih named.2 plain', fill, fill, fill,
        List.map_map]
      refine congrArg text (List.map_congr_left fun piece _ => ?_)
      exact piece.fill_fill [entry] rest

end Template

/-! ## Whole requests -/

namespace Request

open Template Steps

/--
The path of a request is its template with every placeholder of a parameter that
is given a value filled in at once, and nothing else changed; in which order the
parameters are declared makes no difference.  All parameters are filled in just if
what they are given can be written.  What is inserted is decoded to the text of its
value and holds letters, digits, four marks and percent signs only, so no slash,
question mark, number sign or brace.
-/
theorem request_path {endpoint : Endpoint} {arguments : Entries Json} {template : List Piece}
    (plain : ∀ piece ∈ template, piece.Plain)
    (written : endpoint.path = some (String.ofList (text template)))
    (named : ∀ parameter ∈ endpoint.parameters,
      ∃ name, parameter.name = .text name ∧ BraceFree name) :
    (∀ parameters, parameters.Perm endpoint.parameters ->
      ((∃ draft, Draft.fill arguments parameters { path := endpoint.path } = .ok draft) ↔
        ∀ location, ∀ given ∈ givenAt location arguments endpoint.parameters,
          Writable given.2 location) ∧
      (∀ draft, Draft.fill arguments parameters { path := endpoint.path } = .ok draft ->
        draft.path = some (String.ofList
          (text (fill (givenAt .path arguments endpoint.parameters) template)))) ∧
      ∀ request, { endpoint with parameters }.request arguments = .ok request ->
        request.path = String.ofList
          (text (fill (givenAt .path arguments endpoint.parameters) template))) ∧
    ∀ given ∈ givenAt .path arguments endpoint.parameters,
      Text.percentDecode? (inserted given.2) = some (Text.plain given.2.display).toList ∧
      (∀ c ∈ inserted given.2, Text.isUnreserved c = true ∨ c = '%') ∧
      ∀ c ∈ ['/', '?', '#', '\x7b', '\x7d'], (inserted given.2).count c = 0 := by
  refine ⟨fun parameters perm => ?_, fun given _ => ⟨?_, fun c => ?_, fun c reserved => ?_⟩⟩
  · have texts : Named parameters := fun parameter among => by
      obtain ⟨name, called, _⟩ := named parameter (perm.subset among)
      exact ⟨name, called⟩
    have same : ∀ name, (givenAt .path arguments parameters).lookup name =
        (givenAt .path arguments endpoint.parameters).lookup name :=
      fun name => lookup_givenAt_perm .path arguments name perm
    have free : ∀ entry ∈ givenAt .path arguments parameters, BraceFree entry.1 := by
      intro entry among
      obtain ⟨parameter, there, _, given⟩ := mem_givenAt.mp among
      obtain ⟨name, called, free⟩ := named parameter (perm.subset there)
      rw [(given?_eq_some.mp given).1, Json.atom.injEq, Atom.text.injEq] at called
      exact called ▸ free
    have filled : (givenAt .path arguments parameters).foldl fillIn
        (String.ofList (text template)).toList =
          text (fill (givenAt .path arguments endpoint.parameters) template) := by
      rw [String.toList_ofList, foldl_fillIn_text free plain, fill_congr same]
    refine ⟨(Draft.fill_ok_iff texts written).trans ?_, fun draft returned => ?_,
      fun request made => ?_⟩
    · constructor
      · rintro writable location ⟨name, value⟩ among
        obtain ⟨parameter, there, rfl, given⟩ := mem_givenAt.mp among
        exact writable parameter (perm.symm.subset there) name value given
      · intro writable parameter there name value given
        exact writable parameter.location (name, value)
          (mem_givenAt.mpr ⟨parameter, perm.subset there, rfl, given⟩)
    · rw [Draft.fill_path returned written, filled]
    · rw [path_eq made written, filled]
  · exact Text.percentDecode?_percentEncode _
  · exact Text.mem_percentEncode
  · have special : ['/', '?', '#', '\x7b', '\x7d'].all
        (fun c => !Text.isUnreserved c && c != '%') = true := by decide
    have kind := List.all_eq_true.mp special c reserved
    simp only [Bool.and_eq_true, Bool.not_eq_true', bne_iff_ne] at kind
    exact List.count_eq_zero.mpr (Text.not_mem_percentEncode _ kind.1 kind.2)

/-- A parameter for the path that is a text. -/
def pathParameter (name : String) : Parameter where
  name := .text name
  location := .path
  schema := ⟨.scalar ⟨0, none, .text ""⟩ .string, #[]⟩
  required := true
  description := .text ""

def itemTemplate : List Piece :=
  [.literal "/shops/", .placeholder "shop", .literal "/items/", .placeholder "item",
    .literal "-", .placeholder "shop", .literal "/", .placeholder "page"]

def items : Endpoint where
  operationId := .text "item"
  method := some .get
  path := some (String.ofList (text itemTemplate))
  mutation := false
  description := .text ""
  response := none
  parameters := [pathParameter "shop", pathParameter "item", pathParameter "page"]
  baseUrl := .text ""

def itemArguments : Entries Json :=
  [("item", .text "né"), ("shop", .text "a/b \x7bitem\x7d"), ("page", .null)]

/-- Both arguments of the items arrive whole, and the placeholder inside one is not filled. -/
theorem request_path_items :
    ∃ request, items.request itemArguments = .ok request ∧
      request.path = "/shops/a%2Fb%20%7Bitem%7D/items/n%C3%A9-a%2Fb%20%7Bitem%7D/\x7bpage\x7d" ∧
      Text.percentDecode? (inserted (.text "a/b \x7bitem\x7d")) =
        some "a/b \x7bitem\x7d".toList := by
  have shown : (items.request itemArguments).toOption.any fun _ => true := by decide +kernel
  obtain ⟨request, made, _⟩ := ok_of_toOption shown
  have named : ∀ parameter ∈ items.parameters, ∃ name, parameter.name = .text name ∧
      BraceFree name := by
    intro parameter among
    simp only [items, List.mem_cons, List.not_mem_nil, or_false] at among
    rcases among with rfl | rfl | rfl <;> exact ⟨_, rfl, by decide⟩
  have given : givenAt .path itemArguments items.parameters =
      [("shop", .text "a/b \x7bitem\x7d"), ("item", .text "né")] := by decide +kernel
  have plain : ∀ piece ∈ itemTemplate, piece.Plain := by decide
  obtain ⟨each, texts⟩ := request_path plain rfl named
  have path := (each items.parameters (.refl _)).2.2 request made
  rw [given] at path texts
  refine ⟨request, made, path.trans (by decide +kernel), ?_⟩
  exact (texts _ List.mem_cons_self).1.trans (by decide +kernel)

end Request

end GraphFacade
