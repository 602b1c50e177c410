import GraphFacade.Endpoint.Request
import GraphFacade.Proofs.Endpoint.Collecting
import GraphFacade.Proofs.Types.Returning

/-!
# Where arguments go

The parameters of an endpoint share one query, one set of headers, one form and
one body.  What a whole list of parameters leaves in each of them is told by the
values that the parameters of one location are given, in their order.
-/

namespace GraphFacade

open Steps

/-! ## Entries under keys that are all different -/

namespace Entries

variable {κ α : Type} [BEq κ] [LawfulBEq κ]

theorem lookup_ofList_of_mem {entries : List (κ × α)} (distinct : (entries.map Prod.fst).Nodup)
    {key : κ} {value : α} (member : (key, value) ∈ entries) :
    (ofList entries).lookup key = some value := by
  rw [lookup_ofList]
  cases found : entries.reverse.find? fun entry => entry.1 == key with
  | none =>
      have missed := List.find?_eq_none.mp found (key, value) (List.mem_reverse.mpr member)
      simp at missed
  | some entry =>
      have same : entry.1 = key := by simpa using List.find?_some found
      have among : entry ∈ entries := List.mem_reverse.mp (List.mem_of_find?_eq_some found)
      rw [List.inj_on_of_nodup_map distinct among member same, Option.map_some]

end Entries

namespace Atom

variable {α : Type}

theorem put_of_new {key : Atom} {value : α} {entries : List (Atom × α)}
    (new : key.key ∉ entries.map fun entry => entry.1.key) :
    put key value entries = entries ++ [(key, value)] := by
  induction entries with
  | nil => rfl
  | cons entry rest ih =>
      rw [List.map_cons, List.mem_cons, not_or] at new
      have other : entry.1.same key = false := by
        simpa [same] using Ne.symm new.1
      rw [put, other, if_neg Bool.false_ne_true, ih new.2, List.cons_append]

theorem foldl_put {entries added : List (Atom × α)}
    (distinct : ((entries ++ added).map fun entry => entry.1.key).Nodup) :
    added.foldl (fun entries entry => put entry.1 entry.2 entries) entries = entries ++ added := by
  induction added generalizing entries with
  | nil => rw [List.foldl_nil, List.append_nil]
  | cons entry rest ih =>
      have new : entry.1.key ∉ entries.map fun entry => entry.1.key := by
        rw [List.map_append, List.nodup_append] at distinct
        exact fun old => distinct.2.2 _ old _ (List.mem_map_of_mem List.mem_cons_self) rfl
      rw [List.append_cons] at distinct
      rw [List.foldl_cons, put_of_new new, ih distinct, List.append_assoc, List.singleton_append]

end Atom

namespace Request

/-! ## What parameters are given -/

/-- The name of a parameter and its value, if the one is a text and the other not null. -/
def given? (arguments : Entries Json) (parameter : Parameter) : Option (String × Json) :=
  match parameter.name with
  | .text name =>
      ((List.lookup (Name.ofText name) arguments).filter fun value => value ≠ .null).map
        fun value => (name, value)
  | _ => none

/-- What the parameters of a location are given, in their order. -/
def givenAt (location : Location) (arguments : Entries Json) (parameters : List Parameter) :
    Entries Json :=
  (parameters.filter fun parameter => parameter.location == location).filterMap (given? arguments)

def cookieText (cookie : String × Json) : String :=
  cookie.1 ++ "=" ++ headerText cookie.2

def cookies (arguments : Entries Json) (parameters : List Parameter) : List String :=
  (givenAt .cookie arguments parameters).map cookieText

def formEntry (given : String × Json) : Atom × FormValue :=
  (.text given.1, ⟨Name.ofText given.1, given.2⟩)

variable {arguments : Entries Json} {parameters rest before after : List Parameter}
  {parameter : Parameter} {draft draft' : Draft} {name argument : String} {value : Json}

theorem given?_of_text (named : parameter.name = .text name) :
    given? arguments parameter =
      ((arguments.lookup (Name.ofText name)).filter fun value => value ≠ .null).map
        fun value => (name, value) := by
  rw [given?, named]

theorem given?_eq_some :
    given? arguments parameter = some (name, value) ↔
      parameter.name = .text name ∧ arguments.lookup (Name.ofText name) = some value ∧
        value ≠ .null := by
  unfold given?
  split
  · rename_i called named
    simp only [named, Option.map_eq_some_iff, Option.filter_eq_some_iff, decide_eq_true_eq,
      Prod.mk.injEq, Json.atom.injEq, Atom.text.injEq]
    constructor
    · rintro ⟨_, ⟨given, present⟩, rfl, rfl⟩
      exact ⟨rfl, given, present⟩
    · rintro ⟨rfl, given, present⟩
      exact ⟨value, ⟨given, present⟩, rfl, rfl⟩
  · rename_i unnamed
    simp only [reduceCtorEq, false_iff]
    exact fun h => unnamed name h.1

theorem givenAt_append (location : Location) :
    givenAt location arguments (before ++ after) =
      givenAt location arguments before ++ givenAt location arguments after := by
  simp [givenAt]

/-- A parameter adds what it is given to its own location. -/
theorem givenAt_cons_of_some (h : given? arguments parameter = some (name, value))
    (location : Location) :
    givenAt location arguments (parameter :: rest) =
      if parameter.location = location then (name, value) :: givenAt location arguments rest
      else givenAt location arguments rest := by
  by_cases here : parameter.location = location <;> simp [givenAt, here, h]

theorem givenAt_cons_of_none (h : given? arguments parameter = none) (location : Location) :
    givenAt location arguments (parameter :: rest) = givenAt location arguments rest := by
  by_cases here : parameter.location = location <;> simp [givenAt, here, h]

theorem mem_givenAt {location : Location} :
    (name, value) ∈ givenAt location arguments parameters ↔
      ∃ parameter ∈ parameters, parameter.location = location ∧
        given? arguments parameter = some (name, value) := by
  simp [givenAt, and_assoc]

/-! ## One parameter -/

theorem Draft.place_header (here : parameter.location = .header) :
    draft.place parameter argument value = .ok draft' ↔
      value.longest ≤ Text.digitLimit ∧
        draft.addHeader parameter.name (headerText value) = .ok draft' := by
  rcases parameter with ⟨called, location, schema, required, description⟩
  cases here
  constructor
  · intro h
    obtain ⟨_, shown, added⟩ := except_bind_eq_ok.mp h
    obtain ⟨short, rfl⟩ := shownHeader_eq_ok.mp shown
    exact ⟨short, added⟩
  · rintro ⟨short, added⟩
    exact except_bind_eq_ok.mpr ⟨_, shownHeader_eq_ok.mpr ⟨short, rfl⟩, added⟩

theorem Draft.place_cookie (here : parameter.location = .cookie) :
    draft.place parameter argument value = .ok draft' ↔
      parameter.name.longest ≤ Text.digitLimit ∧ value.longest ≤ Text.digitLimit ∧
        draft.addCookie (parameter.name.display ++ "=" ++ headerText value) = draft' := by
  rcases parameter with ⟨called, location, schema, required, description⟩
  cases here
  constructor
  · intro h
    obtain ⟨_, shownName, h⟩ := except_bind_eq_ok.mp h
    obtain ⟨_, shown, h⟩ := except_bind_eq_ok.mp h
    obtain ⟨shortName, rfl⟩ := Json.shown_eq_ok.mp shownName
    obtain ⟨short, rfl⟩ := shownHeader_eq_ok.mp shown
    exact ⟨shortName, short, Except.ok.inj h⟩
  · rintro ⟨shortName, short, rfl⟩
    exact except_bind_eq_ok.mpr ⟨_, Json.shown_eq_ok.mpr ⟨shortName, rfl⟩,
      except_bind_eq_ok.mpr ⟨_, shownHeader_eq_ok.mpr ⟨short, rfl⟩, rfl⟩⟩

/-- What becomes of a draft when a value goes to a location under a name. -/
structure Draft.Takes (draft : Draft) (location : Location) (name : String) (value : Json)
    (draft' : Draft) : Prop where
  query : draft'.query =
    if location = .query then Entries.put name value draft.query else draft.query
  form : draft'.form =
    if location = .formData then
      Atom.put (formEntry (name, value)).1 (formEntry (name, value)).2 draft.form
    else draft.form
  body : draft'.body = if location = .body then value else draft.body
  headers : draft'.headers =
    if location = .header then Entries.put name (headerText value) draft.headers
    else if location = .cookie then (draft.addCookie (cookieText (name, value))).headers
    else draft.headers

theorem Draft.place_takes (named : parameter.name = .text name)
    (h : draft.place parameter (Name.ofText name) value = .ok draft') :
    draft.Takes parameter.location name value draft' := by
  rcases parameter with ⟨called, location, schema, required, description⟩
  subst named
  cases location with
  | path =>
      simp only [Draft.place, Draft.fillPath] at h
      cases template : draft.path with
      | none => simp [template] at h
      | some path =>
          obtain ⟨shown, _, h⟩ := except_bind_eq_ok.mp (template ▸ h)
          split at h
          · simp at h
          · rw [← Except.ok.inj h]
            constructor <;> rfl
  | header =>
      obtain ⟨_, added⟩ := (place_header rfl).mp h
      rw [← Except.ok.inj added]
      constructor <;> rfl
  | cookie =>
      obtain ⟨_, _, rfl⟩ := (place_cookie rfl).mp h
      constructor <;> rfl
  | query | body | formData =>
      rw [← Except.ok.inj h]
      constructor <;> rfl

/-- A parameter leaves a draft as it is, or places what it is given. -/
theorem Draft.step_cases (named : parameter.name = .text name)
    (h : draft.step arguments parameter = .ok draft') :
    (given? arguments parameter = none ∧ draft' = draft) ∨
      ∃ value, given? arguments parameter = some (name, value) ∧
        draft.Takes parameter.location name value draft' := by
  have argument : parameter.argument? = some (Name.ofText name) := by
    simp [Parameter.argument?, Name.ofJson?, named]
  unfold Draft.step at h
  rw [argument] at h
  simp only at h
  split at h
  · rename_i missing
    exact .inl ⟨by simp [given?_of_text named, missing], (Except.ok.inj h).symm⟩
  · rename_i null
    exact .inl ⟨by simp [given?_of_text named, null], (Except.ok.inj h).symm⟩
  · rename_i value present given
    refine .inr ⟨value, given?_eq_some.mpr ⟨named, given, fun null => ?_⟩, place_takes named h⟩
    exact present (by rw [null])

/-! ## All parameters -/

def Named (parameters : List Parameter) : Prop :=
  ∀ parameter ∈ parameters, ∃ name, parameter.name = .text name

theorem Draft.fill_cons :
    Draft.fill arguments (parameter :: rest) draft = .ok draft' ↔
      ∃ middle, draft.step arguments parameter = .ok middle ∧
        Draft.fill arguments rest middle = .ok draft' := by
  rw [Draft.fill]
  cases draft.step arguments parameter <;> simp

theorem Draft.fill_append :
    Draft.fill arguments (before ++ after) draft = .ok draft' ↔
      ∃ middle, Draft.fill arguments before draft = .ok middle ∧
        Draft.fill arguments after middle = .ok draft' := by
  induction before generalizing draft with
  | nil => simp [Draft.fill]
  | cons parameter rest ih =>
      simp only [List.cons_append, fill_cons, ih]
      exact ⟨fun ⟨first, step, middle, h, h'⟩ => ⟨middle, ⟨first, step, h⟩, h'⟩,
        fun ⟨middle, ⟨first, step, h⟩, h'⟩ => ⟨first, step, middle, h, h'⟩⟩

/--
A part of a draft that changes by the values of one location gets all of these,
one after another.
-/
theorem Draft.fill_part {α : Type} {part : Draft -> α} {location : Location}
    {add : α -> String × Json -> α}
    (takes : ∀ {draft draft' place name value}, draft.Takes place name value draft' ->
      part draft' = if place = location then add (part draft) (name, value) else part draft)
    (named : Named parameters) (h : Draft.fill arguments parameters draft = .ok draft') :
    part draft' = (givenAt location arguments parameters).foldl add (part draft) := by
  induction parameters generalizing draft with
  | nil =>
      rw [← Except.ok.inj h]
      rfl
  | cons parameter rest ih =>
      obtain ⟨middle, step, h⟩ := fill_cons.mp h
      obtain ⟨name, called⟩ := named _ List.mem_cons_self
      rw [ih (fun _ later => named _ (List.mem_cons_of_mem _ later)) h]
      rcases step_cases called step with ⟨none, rfl⟩ | ⟨value, given, placed⟩
      · rw [givenAt_cons_of_none none]
      · rw [givenAt_cons_of_some given, takes placed]
        split <;> rfl

/-- The query gets the values of all query parameters, one after another. -/
theorem Draft.fill_query (named : Named parameters)
    (h : Draft.fill arguments parameters draft = .ok draft') :
    draft'.query = (givenAt .query arguments parameters).foldl
      (fun query given => Entries.put given.1 given.2 query) draft.query :=
  fill_part Takes.query named h

/-- The form gets the values of all form parameters, one after another. -/
theorem Draft.fill_form (named : Named parameters)
    (h : Draft.fill arguments parameters draft = .ok draft') :
    draft'.form = ((givenAt .formData arguments parameters).map formEntry).foldl
      (fun form entry => Atom.put entry.1 entry.2 form) draft.form := by
  rw [List.foldl_map]
  exact fill_part Takes.form named h

/-- The body is the value of the last body parameter. -/
theorem Draft.fill_body (named : Named parameters)
    (h : Draft.fill arguments parameters draft = .ok draft') :
    draft'.body =
      (givenAt .body arguments parameters).foldl (fun _ given => given.2) draft.body :=
  fill_part Takes.body named h

/-- A cookie comes behind the cookies that are there. -/
theorem Draft.lookup_addCookie (draft : Draft) (cookie : String) {items : List String}
    (some' : items ≠ [])
    (h : draft.headers.lookup cookieHeader = some ("; ".intercalate items)) :
    (draft.addCookie cookie).headers.lookup cookieHeader =
      some ("; ".intercalate (items ++ [cookie])) := by
  have joined := String.intercalate_append_of_ne_nil (s := "; ") some'
    (List.cons_ne_nil cookie [])
  rw [String.intercalate_singleton] at joined
  simp only [Draft.addCookie, h, Entries.lookup_put_self, joined]

/--
A header stays as it is unless a later parameter sets it again; that of the
cookies gets the later ones.
-/
theorem Draft.fill_headers (named : Named parameters)
    (h : Draft.fill arguments parameters draft = .ok draft') {items : List String}
    (some' : items ≠ []) (set : draft.headers.lookup name = some ("; ".intercalate items))
    (unset : name ∉ (givenAt .header arguments parameters).map Prod.fst) :
    draft'.headers.lookup name = some ("; ".intercalate
      (items ++ if name = cookieHeader then cookies arguments parameters else [])) := by
  induction parameters generalizing draft items with
  | nil =>
      rw [← Except.ok.inj h]
      simp [cookies, givenAt, set]
  | cons parameter rest ih =>
      obtain ⟨middle, step, later⟩ := fill_cons.mp h
      obtain ⟨called, isCalled⟩ := named _ List.mem_cons_self
      have others : Named rest := fun _ later => named _ (List.mem_cons_of_mem _ later)
      rcases step_cases isCalled step with ⟨none, rfl⟩ | ⟨value, given, takes⟩
      · rw [givenAt_cons_of_none none] at unset
        rw [cookies, givenAt_cons_of_none none]
        exact ih others later some' set unset
      · have headers := takes.headers
        have texts : cookies arguments (parameter :: rest) =
            if parameter.location = .cookie then
              cookieText (called, value) :: cookies arguments rest
            else cookies arguments rest := by
          rw [cookies, givenAt_cons_of_some given]
          split <;> rfl
        rw [givenAt_cons_of_some given] at unset
        rw [texts]
        cases place : parameter.location with
        | header =>
            rw [place] at headers unset
            rw [if_pos rfl, List.map_cons, List.mem_cons, not_or] at unset
            refine ih others later some' ?_ unset.2
            rw [headers, if_pos rfl, Entries.lookup_put_of_ne unset.1, set]
        | cookie =>
            rw [place] at headers unset
            rw [if_neg (by decide), if_pos rfl] at headers
            rw [if_neg (by decide)] at unset
            by_cases isCookie : name = cookieHeader
            · subst isCookie
              have added := draft.lookup_addCookie (cookieText (called, value)) some' set
              rw [← headers] at added
              simpa using ih others later (by simp) added unset
            · have kept : middle.headers.lookup name = some ("; ".intercalate items) := by
                rw [headers, Draft.addCookie, Entries.lookup_put_of_ne isCookie, set]
              simpa [isCookie] using ih others later some' kept unset
        | path | query | body | formData =>
            rw [place] at headers unset
            rw [if_neg (by decide)] at unset
            refine ih others later some' ?_ unset
            rw [headers, if_neg (by decide), if_neg (by decide), set]

/-! ## Whole requests -/

theorem request_ok {endpoint : Endpoint} {request : Request}
    (h : endpoint.request arguments = .ok request) :
    ∃ draft, Draft.fill arguments endpoint.parameters { path := endpoint.path } = .ok draft ∧
      draft.path = some request.path ∧ request.query = draft.query ∧
      request.headers = draft.headers ∧
      request.body = if draft.form.isEmpty then .json draft.body else .form draft.form := by
  unfold Endpoint.request at h
  split at h
  · rename_i draft filled
    unfold Draft.finish at h
    split at h
    · rename_i template
      split at h
      · simp at h
      · rw [← Except.ok.inj h]
        exact ⟨draft, filled, template, rfl, rfl, rfl⟩
    · simp at h
  · simp at h

end Request

end GraphFacade
