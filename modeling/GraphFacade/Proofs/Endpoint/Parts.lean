import GraphFacade.Proofs.Endpoint.Carrying
import GraphFacade.Proofs.Endpoint.Paths
import GraphFacade.Proofs.Types.Fields

/-!
# Parts of requests

A request has a path, a query, headers, among them that of all cookies, and a form
or a body.  Every parameter that is supplied with a value changes one of them, which
its location tells, and leaves the others alone.  So each part is told by the
parameters of its own location, whatever names the parameters have.
-/

namespace GraphFacade

namespace Request

open Steps

variable {arguments arguments' : Entries Json} {parameters : List Parameter}
  {parameter : Parameter} {draft draft' : Draft} {argument : String} {value : Json}
  {mine : Parameter -> Bool} {location : Location}

/-! ## Supplied parameters -/

/-- The value of a parameter's argument, unless it is missing or null. -/
def supplied? (arguments : Entries Json) (parameter : Parameter) : Option Json :=
  (parameter.argument?.bind fun argument => List.lookup argument arguments).filter
    fun value => value ≠ .null

def suppliedTo (mine : Parameter -> Bool) (arguments : Entries Json)
    (parameters : List Parameter) : List (Parameter × Json) :=
  (parameters.filter mine).filterMap fun parameter =>
    (supplied? arguments parameter).map fun value => (parameter, value)

def suppliedAt (location : Location) (arguments : Entries Json) (parameters : List Parameter) :
    List (Json × Json) :=
  (suppliedTo (fun parameter => parameter.location == location) arguments parameters).map
    fun (parameter, value) => (parameter.name, value)

theorem mem_suppliedTo :
    (parameter, value) ∈ suppliedTo mine arguments parameters ↔
      (parameter ∈ parameters ∧ mine parameter) ∧ supplied? arguments parameter = some value := by
  simp only [suppliedTo, List.mem_filterMap, List.mem_filter, Option.map_eq_some_iff,
    Prod.mk.injEq]
  constructor
  · rintro ⟨_, among, _, given, rfl, rfl⟩
    exact ⟨among, given⟩
  · rintro ⟨among, given⟩
    exact ⟨_, among, _, given, rfl, rfl⟩

theorem suppliedTo_congr (same : ∀ parameter ∈ parameters, mine parameter ->
      supplied? arguments' parameter = supplied? arguments parameter) :
    suppliedTo mine arguments' parameters = suppliedTo mine arguments parameters := by
  refine List.filterMap_congr fun parameter among => ?_
  obtain ⟨there, isMine⟩ := List.mem_filter.mp among
  rw [same parameter there isMine]

theorem suppliedTo_and (keep : Parameter -> Bool) :
    suppliedTo (fun parameter => mine parameter && keep parameter) arguments parameters =
      (suppliedTo mine arguments parameters).filter fun given => keep given.1 := by
  induction parameters with
  | nil => rfl
  | cons parameter rest ih =>
      unfold suppliedTo at ih ⊢
      cases isMine : mine parameter <;> cases kept : keep parameter <;>
        cases given : supplied? arguments parameter <;> simp [isMine, kept, given, ih]

/-- Parameters with arguments of their own stay apart when some are left out. -/
theorem suppliedTo_pairwise (arguments : Entries Json) (mine : Parameter -> Bool)
    (distinct : (parameters.map Parameter.argument?).Nodup) :
    (suppliedTo mine arguments parameters).Pairwise fun first second =>
      first.1.argument? ≠ second.1.argument? := by
  refine List.Pairwise.filterMap _ ?_ ((List.pairwise_map.mp distinct).filter mine)
  intro first second apart
  simp only [Option.map_eq_some_iff]
  rintro _ ⟨_, _, rfl⟩ _ ⟨_, _, rfl⟩
  exact apart

/-! ## One parameter -/

/-- What becomes of a draft when a value is placed for a parameter. -/
inductive Draft.Places (draft : Draft) (parameter : Parameter) (argument : String)
    (value : Json) : Draft -> Prop
  | path {name path : String} (here : parameter.location = .path)
      (called : parameter.name = .text name) (template : draft.path = some path) :
      Places draft parameter argument value
        { draft with path := some (String.ofList (fillIn path.toList (name, value))) }
  | query {name : String} (here : parameter.location = .query)
      (called : parameter.name = .text name) :
      Places draft parameter argument value
        { draft with query := Entries.put name value draft.query }
  | header {name : String} (here : parameter.location = .header)
      (called : parameter.name = .text name) :
      Places draft parameter argument value
        { draft with headers := Entries.put name (headerText value) draft.headers }
  | misnamed (here : parameter.location = .query ∨ parameter.location = .header)
      (uncalled : ∀ name, parameter.name ≠ .text name) :
      Places draft parameter argument value { draft with misnamed := true }
  | cookie (here : parameter.location = .cookie) :
      Places draft parameter argument value
        (draft.addCookie (parameter.name.display ++ "=" ++ headerText value))
  | form {name : Atom} (here : parameter.location = .formData)
      (called : parameter.name = .atom name) :
      Places draft parameter argument value
        { draft with form := Atom.put name ⟨argument, value⟩ draft.form }
  | body (here : parameter.location = .body) :
      Places draft parameter argument value { draft with body := value }

theorem Draft.place_places (h : draft.place parameter argument value = .ok draft') :
    draft.Places parameter argument value draft' := by
  rcases parameter with ⟨name, location, schema, required, description⟩
  cases location with
  | path =>
      cases template : draft.path with
      | none => simp [place, fillPath, template] at h
      | some path =>
          obtain ⟨name, called, _, rfl⟩ := (place_path rfl template).mp h
          exact .path rfl called template
  | query =>
      cases name with
      | atom a =>
          cases a with
          | text name =>
              cases h
              exact .query rfl rfl
          | null | bool | int | float =>
              cases h
              exact .misnamed (.inl rfl) fun name called => by cases called
      | list | dict => cases h
  | header =>
      obtain ⟨_, h⟩ := (place_header rfl).mp h
      cases name with
      | atom a =>
          cases a with
          | text name =>
              cases h
              exact .header rfl rfl
          | null | bool | int | float =>
              cases h
              exact .misnamed (.inr rfl) fun name called => by cases called
      | list | dict => cases h
  | cookie =>
      obtain ⟨_, _, rfl⟩ := (place_cookie rfl).mp h
      exact .cookie rfl
  | formData =>
      cases name with
      | atom name =>
          cases h
          exact .form rfl rfl
      | list | dict => cases h
  | body =>
      cases h
      exact .body rfl

/-- A step does nothing for a parameter that is not supplied, else places what is supplied. -/
theorem Draft.step_eq : draft.step arguments parameter =
    match parameter.argument?, supplied? arguments parameter with
    | none, _ => .error .wrongKind
    | some _, none => .ok draft
    | some argument, some value => draft.place parameter argument value := by
  unfold step supplied?
  cases parameter.argument? with
  | none => rfl
  | some argument =>
      rw [Option.bind_some]
      dsimp only
      split
      · rename_i missing
        rw [missing]
        rfl
      · rename_i null
        rw [null]
        rfl
      · rename_i value present given
        rw [given, Option.filter_some_pos]
        simpa using present

theorem Draft.step_places (h : draft.step arguments parameter = .ok draft') :
    (supplied? arguments parameter = none ∧ draft' = draft) ∨
      ∃ argument value, parameter.argument? = some argument ∧
        supplied? arguments parameter = some value ∧
        draft.Places parameter argument value draft' := by
  rw [step_eq] at h
  split at h
  · cases h
  · rename_i missing
    exact .inl ⟨missing, (Except.ok.inj h).symm⟩
  · rename_i argument value named given
    exact .inr ⟨argument, value, named, given, place_places h⟩

/-! ## All parameters -/

/-- A part of drafts that some parameters change, by what they are supplied with, and no others. -/
def Draft.Told {α : Type} (part : Draft -> α) (mine : Parameter -> Bool)
    (add : α -> Parameter × Json -> α) : Prop :=
  ∀ ⦃draft draft' parameter argument value⦄, parameter.argument? = some argument ->
    draft.Places parameter argument value draft' ->
      part draft' = if mine parameter then add (part draft) (parameter, value) else part draft

section Telling

variable {α : Type} {part : Draft -> α} {add : α -> Parameter × Json -> α}

/-- A part gets what its parameters are supplied with, one after another. -/
theorem Draft.Told.fill (told : Told part mine add)
    (h : Draft.fill arguments parameters draft = .ok draft') :
    part draft' = (suppliedTo mine arguments parameters).foldl add (part draft) := by
  induction parameters generalizing draft with
  | nil =>
      rw [← Except.ok.inj h]
      rfl
  | cons parameter rest ih =>
      obtain ⟨middle, step, later⟩ := fill_cons.mp h
      rw [ih later, suppliedTo, suppliedTo, List.filter_cons]
      rcases step_places step with ⟨missing, rfl⟩ | ⟨argument, value, named, given, places⟩
      · cases mine parameter <;> simp [missing]
      · rw [told named places]
        cases mine parameter <;> simp [given]

theorem Draft.Told.agrees (told : Told part mine add) {other : Draft}
    (h : Draft.fill arguments parameters draft = .ok draft')
    (h' : Draft.fill arguments' parameters draft = .ok other)
    (same : ∀ parameter ∈ parameters, mine parameter ->
      supplied? arguments' parameter = supplied? arguments parameter) :
    part other = part draft' := by
  rw [told.fill h, told.fill h', suppliedTo_congr same]

end Telling

/-- Whatever is supplied was placed in some draft. -/
theorem Draft.fill_places (h : Draft.fill arguments parameters draft = .ok draft')
    (among : parameter ∈ parameters) (given : supplied? arguments parameter = some value) :
    ∃ argument before after, parameter.argument? = some argument ∧
      Places before parameter argument value after := by
  induction parameters generalizing draft with
  | nil => cases among
  | cons first rest ih =>
      obtain ⟨middle, step, later⟩ := fill_cons.mp h
      rcases List.mem_cons.mp among with rfl | among
      · rcases step_places step with ⟨missing, _⟩ | ⟨argument, value', named, given', places⟩
        · rw [missing] at given
          cases given
        · rw [given', Option.some.injEq] at given
          exact ⟨argument, draft, middle, named, given ▸ places⟩
      · exact ih later among

/-! ## Parts -/

section Adding

variable {α : Type} {shown : Json -> α} {given : List (Parameter × Json)}

def underText? (shown : Json -> α) (given : Parameter × Json) : Option (String × α) :=
  match given.1.name with
  | .text name => some (name, shown given.2)
  | _ => none

def addText (shown : Json -> α) (entries : Entries α) (given : Parameter × Json) : Entries α :=
  match underText? shown given with
  | some entry => Entries.put entry.1 entry.2 entries
  | none => entries

def underAtom? (given : Parameter × Json) : Option (Atom × FormValue) :=
  match given.1.argument?, given.1.name with
  | some argument, .atom name => some (name, ⟨argument, given.2⟩)
  | _, _ => none

def addForm (form : List (Atom × FormValue)) (given : Parameter × Json) :
    List (Atom × FormValue) :=
  match underAtom? given with
  | some entry => Atom.put entry.1 entry.2 form
  | none => form

/-- Values of parameters with different arguments are all kept, in their order. -/
theorem map_foldl_addText (called : ∀ each ∈ given, ∃ name, each.1.name = .text name)
    (apart : given.Pairwise fun first second => first.1.argument? ≠ second.1.argument?) :
    (given.foldl (addText shown) []).map (fun entry => (Json.text entry.1, entry.2)) =
      given.map fun each => (each.1.name, shown each.2) := by
  have texts : ∀ {each : Parameter × Json} {entry : String × α},
      underText? shown each = some entry -> each.1.argument? = some (Name.ofText entry.1) := by
    intro each entry found
    unfold underText? at found
    split at found
    · rename_i name named
      rw [← Option.some.inj found, argument_of_text named]
    · cases found
  have distinct : ((given.filterMap (underText? shown)).map Prod.fst).Nodup := by
    refine List.pairwise_map.mpr (apart.filterMap _ ?_)
    intro first second apart entry found entry' found' same
    exact apart ((texts found).trans (same ▸ (texts found').symm))
  have written : given.foldl (addText shown) [] = given.filterMap (underText? shown) := by
    rw [← Entries.ofList_of_nodup distinct, Entries.ofList, List.foldl_filterMap]
    refine List.foldl_ext _ _ _ fun entries each _ => ?_
    unfold addText
    cases underText? shown each <;> rfl
  rw [written, List.map_filterMap, ← List.filterMap_eq_map]
  refine List.filterMap_congr fun each among => ?_
  obtain ⟨name, named⟩ := called each among
  simp [underText?, named]

theorem map_foldl_addForm (called : ∀ each ∈ given, ∃ argument name,
      each.1.argument? = some argument ∧ each.1.name = .atom name)
    (apart : given.Pairwise fun first second => first.1.argument? ≠ second.1.argument?) :
    (given.foldl addForm []).map (fun entry => (Json.atom entry.1, entry.2.value)) =
      given.map fun each => (each.1.name, each.2) := by
  have atoms : ∀ {each : Parameter × Json} {entry : Atom × FormValue},
      underAtom? each = some entry -> each.1.name = .atom entry.1 ∧
        each.1.argument? = some entry.2.argument := by
    intro each entry found
    unfold underAtom? at found
    split at found
    · rename_i argument name named called
      rw [← Option.some.inj found, called]
      exact ⟨rfl, named⟩
    · cases found
  have distinct : ((given.filterMap underAtom?).map fun entry => entry.1.key).Nodup := by
    refine List.pairwise_map.mpr (apart.filterMap _ ?_)
    intro first second apart entry found entry' found' same
    obtain ⟨named, argument⟩ := atoms found
    obtain ⟨named', argument'⟩ := atoms found'
    refine apart ?_
    rw [argument, argument']
    rw [Parameter.argument?, named] at argument
    rw [Parameter.argument?, named'] at argument'
    rw [Assembly.name_congr argument argument' same]
  have written : given.foldl addForm [] = given.filterMap underAtom? := by
    rw [← List.nil_append (given.filterMap _), ← Atom.foldl_put (by simpa using distinct),
      List.foldl_filterMap]
    refine List.foldl_ext _ _ _ fun form each _ => ?_
    unfold addForm
    cases underAtom? each <;> rfl
  rw [written, List.map_filterMap, ← List.filterMap_eq_map]
  refine List.filterMap_congr fun each among => ?_
  obtain ⟨argument, name, named, called⟩ := called each among
  simp [underAtom?, named, called]

end Adding

/-- Whether a value for a parameter is put under a name that must be a text and is none. -/
def isMisnamed (parameter : Parameter) : Bool :=
  match parameter.location, parameter.name with
  | .query, .text _ | .header, .text _ => false
  | .query, _ | .header, _ => true
  | _, _ => false

def addPath (path : Option String) (given : Parameter × Json) : Option String :=
  match path, given.1.name with
  | some path, .text name => some (String.ofList (fillIn path.toList (name, given.2)))
  | path, _ => path

/-- Headers with another header or cookie. -/
def addGiven (headers : Entries String) (given : Parameter × Json) : Entries String :=
  match given.1.location with
  | .cookie =>
      (({ path := none, headers } : Draft).addCookie
        (given.1.name.display ++ "=" ++ headerText given.2)).headers
  | _ => addText headerText headers given

/-- The header of all cookies, if there is one, with another cookie in it, or set anew. -/
def addCookieText (cookies : Option String) (given : Parameter × Json) : Option String :=
  match given.1.location, cookies with
  | .cookie, some cookies =>
      some (cookies ++ "; " ++ (given.1.name.display ++ "=" ++ headerText given.2))
  | .cookie, none => some (given.1.name.display ++ "=" ++ headerText given.2)
  | _, _ => some (headerText given.2)

def plainHeaders (headers : Entries String) : Entries String :=
  headers.filter fun header => header.1 ≠ cookieHeader

theorem plainHeaders_put (name text : String) (headers : Entries String) :
    plainHeaders (Entries.put name text headers) =
      if name = cookieHeader then plainHeaders headers
      else Entries.put name text (plainHeaders headers) := by
  rw [plainHeaders, Entries.filter_put fun key => decide (key ≠ cookieHeader)]
  by_cases isCookie : name = cookieHeader <;> simp [isCookie, plainHeaders]

namespace Draft

theorem told_path : Told path (fun parameter => parameter.location == .path) addPath := by
  intro draft draft' parameter argument value _ places
  cases places <;> simp [addPath, addCookie, *]

theorem told_query :
    Told query (fun parameter => parameter.location == .query) (addText id) := by
  intro draft draft' parameter argument value _ places
  cases places <;> simp [addText, underText?, addCookie, *]

theorem told_headers :
    Told headers (fun parameter => parameter.location == .header || parameter.location == .cookie)
      addGiven := by
  intro draft draft' parameter argument value _ places
  cases places with
  | misnamed here => rcases here with here | here <;> simp [addGiven, addText, underText?, *]
  | _ => simp [addGiven, addText, underText?, addCookie, *]

theorem told_plainHeaders :
    Told (fun draft => plainHeaders draft.headers)
      (fun parameter => parameter.location == .header && parameter.name ≠ .text cookieHeader)
      (addText headerText) := by
  intro draft draft' parameter argument value _ places
  cases places with
  | header here called =>
      dsimp only
      rw [plainHeaders_put]
      split <;> simp [addText, underText?, *]
  | cookie here => simp [addCookie, plainHeaders_put, here]
  | misnamed here => rcases here with here | here <;> simp [plainHeaders, addText, underText?, *]
  | _ => simp [*]

theorem told_cookies :
    Told (fun draft => draft.headers.lookup cookieHeader)
      (fun parameter => parameter.location == .cookie ||
        parameter.location == .header && parameter.name = .text cookieHeader)
      addCookieText := by
  intro draft draft' parameter argument value _ places
  cases places with
  | header here called =>
      rename_i name
      by_cases isCookie : name = cookieHeader
      · simp [addCookieText, here, called, isCookie]
      · simp [here, called, isCookie, Entries.lookup_put_of_ne (Ne.symm isCookie)]
  | cookie here =>
      cases found : draft.headers.lookup cookieHeader <;>
        simp [addCookieText, addCookie, here, found]
  | misnamed here uncalled => rcases here with here | here <;> simp [here, uncalled]
  | _ => simp [*]

theorem told_form : Told form (fun parameter => parameter.location == .formData) addForm := by
  intro draft draft' parameter argument value named places
  cases places with
  | misnamed here => rcases here with here | here <;> simp [here]
  | _ => simp [addForm, underAtom?, addCookie, *]

theorem told_body :
    Told body (fun parameter => parameter.location == .body) fun _ given => given.2 := by
  intro draft draft' parameter argument value _ places
  cases places with
  | misnamed here => rcases here with here | here <;> simp [here]
  | _ => simp [addCookie, *]

theorem told_misnamed : Told misnamed isMisnamed fun _ _ => true := by
  intro draft draft' parameter argument value _ places
  cases places with
  | misnamed here uncalled => rcases here with here | here <;> simp [isMisnamed, *]
  | _ => simp [isMisnamed, addCookie, *]

end Draft

/-! ## Whole requests -/

variable {endpoint : Endpoint} {request request' : Request}

/-- A request has the parts of a finished draft, in which every name is a text that must be one. -/
theorem Draft.finish_ok {method : Option Method} {baseUrl : Json}
    (h : draft.finish method baseUrl = .ok request) :
    method = some request.method ∧ baseUrl = .text request.baseUrl ∧ draft.misnamed = false ∧
      draft.path = some request.path ∧ request.query = draft.query ∧
      request.headers = draft.headers ∧
      request.body = if draft.form.isEmpty then .json draft.body else .form draft.form := by
  unfold finish at h
  split at h
  · rename_i template
    split at h
    · cases h
    · rename_i valid
      cases h
      simp only [Bool.or_eq_true, not_or, Bool.not_eq_true] at valid
      exact ⟨rfl, rfl, valid.1.1, template, rfl, rfl, rfl⟩
  · cases h

theorem request_finish (h : endpoint.request arguments = .ok request) :
    ∃ draft, Draft.fill arguments endpoint.parameters { path := endpoint.path } = .ok draft ∧
      draft.finish endpoint.method endpoint.baseUrl = .ok request := by
  unfold Endpoint.request at h
  split at h
  · rename_i draft filled
    exact ⟨draft, filled, h⟩
  · cases h

/-- The parts of a request as they are told by the parameters that are supplied. -/
structure Parts (request : Request) (arguments : Entries Json) (parameters : List Parameter) :
    Prop where
  query : request.query.map (fun entry => (Json.text entry.1, entry.2)) =
    suppliedAt .query arguments parameters
  form : suppliedAt .formData arguments parameters ≠ [] ->
    ∃ entries, request.body = .form entries ∧
      entries.map (fun entry => (Json.atom entry.1, entry.2.value)) =
        suppliedAt .formData arguments parameters
  body : suppliedAt .formData arguments parameters = [] ->
    request.body =
      .json (((suppliedAt .body arguments parameters).getLast?.map Prod.snd).getD .null)
  headers : (plainHeaders request.headers).map (fun entry => (Json.text entry.1, entry.2)) =
    ((suppliedAt .header arguments parameters).filter fun given =>
      given.1 ≠ .text cookieHeader).map fun given => (given.1, headerText given.2)

/-- Requests that differ at most in the part that the location of a parameter tells. -/
structure AgreeBesides (parameter : Parameter) (request request' : Request) : Prop where
  target : request'.method = request.method ∧ request'.baseUrl = request.baseUrl
  path : parameter.location ≠ .path -> request'.path = request.path
  query : parameter.location ≠ .query -> request'.query = request.query
  headers : parameter.location ≠ .header -> parameter.location ≠ .cookie ->
    request'.headers = request.headers
  plain : parameter.location ≠ .header ->
    plainHeaders request'.headers = plainHeaders request.headers
  cookies : parameter.location ≠ .cookie ->
    (parameter.location = .header -> parameter.name ≠ .text cookieHeader) ->
      request'.headers.lookup cookieHeader = request.headers.lookup cookieHeader
  bodyType : parameter.location ≠ .formData -> request'.body.type = request.body.type
  body : parameter.location ≠ .formData ->
    (parameter.location = .body -> request.body.type = .form) -> request'.body = request.body

/-- If no value was misnamed, what is supplied for the query and for headers has texts as names. -/
theorem Draft.fill_named (h : Draft.fill arguments parameters draft = .ok draft')
    (valid : draft'.misnamed = false) (here : location = .query ∨ location = .header) :
    ∀ given ∈ suppliedTo (fun parameter => parameter.location == location) arguments parameters,
      ∃ name, given.1.name = .text name := by
  rintro ⟨parameter, value⟩ member
  obtain ⟨⟨among, placed⟩, given⟩ := mem_suppliedTo.mp member
  have misnamed := told_misnamed.fill h
  by_contra uncalled
  have listed : (parameter, value) ∈ suppliedTo isMisnamed arguments parameters := by
    refine mem_suppliedTo.mpr ⟨⟨among, ?_⟩, given⟩
    rw [not_exists] at uncalled
    rcases here with rfl | rfl <;> simp [isMisnamed, eq_of_beq placed]
  rcases List.eq_nil_or_concat (suppliedTo isMisnamed arguments parameters) with
    none | ⟨before, last, all⟩
  · rw [none] at listed
    cases listed
  · rw [all, List.concat_eq_append, List.foldl_append, valid] at misnamed
    cases misnamed

theorem Draft.fill_congr (same : ∀ parameter ∈ parameters,
      supplied? arguments' parameter = supplied? arguments parameter) (draft : Draft) :
    Draft.fill arguments' parameters draft = Draft.fill arguments parameters draft := by
  induction parameters generalizing draft with
  | nil => rfl
  | cons parameter rest ih =>
      rw [List.forall_mem_cons] at same
      rw [fill, fill, step_eq, step_eq, same.1]
      split
      · exact ih same.2 _
      · rfl

theorem Draft.fill_formed (h : Draft.fill arguments parameters draft = .ok draft') :
    ∀ given ∈ suppliedTo (fun parameter => parameter.location == .formData) arguments parameters,
      ∃ argument name, given.1.argument? = some argument ∧ given.1.name = .atom name := by
  rintro ⟨parameter, value⟩ member
  obtain ⟨⟨among, here⟩, given⟩ := mem_suppliedTo.mp member
  obtain ⟨argument, _, _, named, places⟩ := fill_places h among given
  cases places with
  | form _ called => exact ⟨argument, _, named, called⟩
  | misnamed elsewhere => rcases elsewhere with elsewhere | elsewhere <;> simp [elsewhere] at here
  | _ => simp [*] at here

theorem Parts.of_request (distinct : (endpoint.parameters.map Parameter.argument?).Nodup)
    (made : endpoint.request arguments = .ok request) :
    request.Parts arguments endpoint.parameters := by
  obtain ⟨draft, filled, finished⟩ := request_finish made
  obtain ⟨_, _, valid, _, query, headers, body⟩ := Draft.finish_ok finished
  have entries : draft.form.map (fun entry => (Json.atom entry.1, entry.2.value)) =
      suppliedAt .formData arguments endpoint.parameters := by
    rw [Draft.told_form.fill filled]
    exact map_foldl_addForm (Draft.fill_formed filled) (suppliedTo_pairwise arguments _ distinct)
  have formed : draft.form.isEmpty ↔ suppliedAt .formData arguments endpoint.parameters = [] := by
    rw [← entries, List.map_eq_nil_iff, List.isEmpty_iff]
  constructor
  · have texts := Draft.fill_named filled valid (.inl rfl)
    rw [query, Draft.told_query.fill filled]
    exact map_foldl_addText texts (suppliedTo_pairwise arguments _ distinct)
  · intro some'
    exact ⟨draft.form, by rw [body, if_neg (formed.not.mpr some')], entries⟩
  · intro none
    rw [body, if_pos (formed.mpr none), Draft.told_body.fill filled, suppliedAt]
    rcases List.eq_nil_or_concat (suppliedTo (fun parameter => parameter.location == .body)
      arguments endpoint.parameters) with none | ⟨before, last, all⟩
    · rw [none]
      rfl
    · rw [all]
      simp
  · have texts := Draft.fill_named filled valid (.inr rfl)
    have plain := Draft.told_plainHeaders.fill filled
    rw [headers, plain]
    refine (map_foldl_addText ?_ (suppliedTo_pairwise arguments _ distinct)).trans ?_
    · rintro ⟨parameter, value⟩ member
      obtain ⟨⟨among, here⟩, given⟩ := mem_suppliedTo.mp member
      refine texts _ (mem_suppliedTo.mpr ⟨⟨among, ?_⟩, given⟩)
      exact (Bool.and_eq_true_iff.mp here).1
    · rw [suppliedAt, List.filter_map, List.map_map, suppliedTo_and]
      rfl

/-- Requests for arguments that differ in one parameter's only. -/
theorem AgreeBesides.of_requests (distinct : (endpoint.parameters.map Parameter.argument?).Nodup)
    (made : endpoint.request arguments = .ok request)
    (made' : endpoint.request arguments' = .ok request')
    (among : parameter ∈ endpoint.parameters)
    (others : ∀ other ∈ endpoint.parameters, other.argument? ≠ parameter.argument? ->
      supplied? arguments' other = supplied? arguments other) :
    AgreeBesides parameter request request' := by
  obtain ⟨draft, filled, finished⟩ := request_finish made
  obtain ⟨draft', filled', finished'⟩ := request_finish made'
  obtain ⟨method, baseUrl, _, path, query, headers, body⟩ := Draft.finish_ok finished
  obtain ⟨method', baseUrl', _, path', query', headers', body'⟩ := Draft.finish_ok finished'
  -- What the parameter does not take part in is told by the others.
  have same : ∀ mine : Parameter -> Bool, mine parameter = false -> ∀ other ∈ endpoint.parameters,
      mine other -> supplied? arguments' other = supplied? arguments other := by
    intro mine aside other there isMine
    refine others other there fun clash => ?_
    rw [List.inj_on_of_nodup_map distinct there among clash, aside] at isMine
    cases isMine
  have form (elsewhere : parameter.location ≠ .formData) : draft'.form = draft.form :=
    Draft.told_form.agrees filled filled' (same _ (by simpa using elsewhere))
  constructor
  · rw [method, Option.some.injEq] at method'
    rw [baseUrl, Json.atom.injEq, Atom.text.injEq] at baseUrl'
    exact ⟨method'.symm, baseUrl'.symm⟩
  · intro elsewhere
    have paths := Draft.told_path.agrees filled filled' (same _ (by simpa using elsewhere))
    rw [path, path', Option.some.injEq] at paths
    exact paths
  · intro elsewhere
    rw [query, query']
    exact Draft.told_query.agrees filled filled' (same _ (by simpa using elsewhere))
  · intro noHeader noCookie
    rw [headers, headers']
    exact Draft.told_headers.agrees filled filled'
      (same _ (by simp [noHeader, noCookie]))
  · intro noHeader
    rw [headers, headers']
    exact Draft.told_plainHeaders.agrees filled filled' (same _ (by simp [noHeader]))
  · intro noCookie otherHeader
    rw [headers, headers']
    exact Draft.told_cookies.agrees filled filled'
      (same _ (by simpa [noCookie] using otherHeader))
  · intro elsewhere
    rw [body, body', form elsewhere]
    split <;> rfl
  · intro elsewhere isForm
    rw [body, body', form elsewhere]
    by_cases here : parameter.location = .body
    · have formed := isForm here
      rw [body] at formed
      split at formed
      · cases formed
      · rename_i entries
        rw [if_neg entries, if_neg entries]
    · have bodies := Draft.told_body.agrees filled filled' (same _ (by simpa using here))
      rw [bodies]

/--
With arguments that are all different, and so with names that are, each part of a
request is what the parameters of its location are supplied with, in their order: the
query; the form if there is any value for it, else the body, which is the last value
for it or null; and the headers besides that of all cookies.  Arguments that differ
in what one parameter is supplied with give requests that agree besides the part of
its location, and arguments that no parameter is supplied with make no difference.
-/
theorem request_parts (distinct : (endpoint.parameters.map Parameter.argument?).Nodup)
    (made : endpoint.request arguments = .ok request) :
    request.Parts arguments endpoint.parameters ∧
    (∀ parameter ∈ endpoint.parameters, ∀ arguments' request',
      endpoint.request arguments' = .ok request' ->
      (∀ other ∈ endpoint.parameters, other.argument? ≠ parameter.argument? ->
        supplied? arguments' other = supplied? arguments other) ->
      AgreeBesides parameter request request') ∧
    ∀ arguments', (∀ parameter ∈ endpoint.parameters,
        supplied? arguments' parameter = supplied? arguments parameter) ->
      endpoint.request arguments' = .ok request := by
  refine ⟨.of_request distinct made, ?_, ?_⟩
  · intro parameter among arguments' request' made' others
    exact .of_requests distinct made made' among others
  · intro arguments' same
    rw [← made, Endpoint.request, Draft.fill_congr same, Endpoint.request]

/-- A parameter that is a text. -/
def textParameter (name : String) (location : Location) : Parameter where
  name := .text name
  location
  schema := ⟨.scalar ⟨0, none, .text ""⟩ .string, #[]⟩
  required := false
  description := .text ""

/-- A parameter for each location, and one for the header of all cookies. -/
def upload : Endpoint where
  operationId := .text "upload"
  method := some .post
  path := some "/files/\x7bid\x7d"
  mutation := true
  description := .text ""
  response := none
  parameters := [textParameter "note" .formData, textParameter "id" .path,
    textParameter "Cookie" .header, textParameter "X-Trace" .header,
    textParameter "session" .cookie, textParameter "page" .query, textParameter "data" .body]
  baseUrl := .text "/v1"

def uploadArguments : Entries Json :=
  [("data", .text "bytes"), ("X_Trace", .bool true), ("page", .null), ("id", .text "a b"),
    ("session", .text "s"), ("Cookie", .text "old")]

/-- A value for the form takes the body's place and leaves everything else alone. -/
theorem request_parts_upload :
    ∃ request request', upload.request uploadArguments = .ok request ∧
      upload.request (("note", .text "n") :: uploadArguments) = .ok request' ∧
      request.query = [] ∧ request.body = .json (.text "bytes") ∧
      plainHeaders request.headers = [("X-Trace", "true")] ∧
      (∃ value, request'.body = .form [(.text "note", value)]) ∧
      request'.path = request.path ∧ request'.headers = request.headers ∧
      upload.request (uploadArguments ++ [("stray", .bool true)]) = .ok request := by
  have shown : (upload.request uploadArguments).toOption.any fun _ => true := by decide +kernel
  have shown' : (upload.request (("note", .text "n") :: uploadArguments)).toOption.any
      fun _ => true := by decide +kernel
  obtain ⟨request, made, _⟩ := Steps.ok_of_toOption shown
  obtain ⟨request', made', _⟩ := Steps.ok_of_toOption shown'
  have distinct : (upload.parameters.map Parameter.argument?).Nodup := by decide +kernel
  obtain ⟨parts, others, strays⟩ := request_parts distinct made
  have parts' := (request_parts distinct made').1
  have same : ∀ other ∈ upload.parameters, other.argument? ≠ some "note" ->
      supplied? (("note", .text "n") :: uploadArguments) other =
        supplied? uploadArguments other := by
    intro other _ elsewhere
    unfold supplied?
    cases named : other.argument? with
    | none => rfl
    | some argument =>
        rw [named, ne_eq, Option.some.injEq] at elsewhere
        rw [Option.bind_some, Option.bind_some, List.lookup_cons, beq_false_of_ne elsewhere]
  have unknown : ∀ parameter ∈ upload.parameters,
      supplied? (uploadArguments ++ [("stray", .bool true)]) parameter =
        supplied? uploadArguments parameter := by
    decide +kernel
  have agree := others _ List.mem_cons_self _ request' made' same
  have query : suppliedAt .query uploadArguments upload.parameters = [] := by decide +kernel
  have bodies : suppliedAt .body uploadArguments upload.parameters =
      [(.text "data", .text "bytes")] := by decide +kernel
  have headers : suppliedAt .header uploadArguments upload.parameters =
      [(.text "Cookie", .text "old"), (.text "X-Trace", .bool true)] := by decide +kernel
  have notes : suppliedAt .formData (("note", .text "n") :: uploadArguments) upload.parameters =
      [(.text "note", .text "n")] := by decide +kernel
  obtain ⟨entries, form, values⟩ := parts'.form (notes ▸ List.cons_ne_nil _ _)
  refine ⟨request, request', made, made', ?_, ?_, ?_, ?_, agree.path (by decide),
    agree.headers (by decide) (by decide), strays _ unknown⟩
  · exact List.map_eq_nil_iff.mp (parts.query.trans query)
  · rw [parts.body (by decide +kernel), bodies]
    rfl
  · have plain := parts.headers
    rw [headers] at plain
    have one : (plainHeaders request.headers).map (fun entry => (Json.text entry.1, entry.2)) =
        [(.text "X-Trace", "true")] := plain.trans (by decide +kernel)
    obtain ⟨header, alone, told⟩ := List.map_eq_singleton_iff.mp one
    rw [alone]
    simp only [Prod.mk.injEq, Json.atom.injEq, Atom.text.injEq] at told
    rw [← told.1, ← told.2]
  · rw [notes] at values
    obtain ⟨entry, rfl, told⟩ := List.map_eq_singleton_iff.mp values
    simp only [Prod.mk.injEq, Json.atom.injEq] at told
    exact ⟨entry.2, by rw [form, ← told.1]⟩

end Request

end GraphFacade
