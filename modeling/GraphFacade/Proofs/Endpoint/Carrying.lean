import GraphFacade.Proofs.Endpoint.Placing

/-!
# Requests carry what they are given

The parameters that a document declares and that can be arguments have texts as
names, and no two of them give one argument.  So what one of them is given is
not lost to another one of its location, and only a form takes the place of a
body and only a header the place of the cookies.
-/

namespace GraphFacade

open Steps

/-! ## Names of parameters -/

namespace Extraction

variable {g : Graph} {d : Document}

theorem forall₂_of_mapM {α β : Type} {f : α -> Except Fault β} {list : List α} {made : List β}
    (h : list.mapM f = .ok made) : List.Forall₂ (fun a b => f a = .ok b) list made := by
  induction list generalizing made with
  | nil =>
      rw [List.mapM_nil] at h
      rw [← Except.ok.inj h]
      exact .nil
  | cons a rest ih =>
      rw [List.mapM_cons] at h
      obtain ⟨b, first, h⟩ := except_bind_eq_ok.mp h
      obtain ⟨bs, others, h⟩ := except_bind_eq_ok.mp h
      rw [← Except.ok.inj h]
      exact .cons first (ih others)

theorem ne_nil_of_mapM {α β : Type} {f : α -> Option β} {a : α} {rest : List α} {made : List β}
    (h : (a :: rest).mapM f = some made) : made ≠ [] := by
  rw [List.mapM_cons] at h
  cases first : f a with
  | none => simp [first] at h
  | some b =>
      cases others : rest.mapM f with
      | none => simp [first, others] at h
      | some bs =>
          simp only [first, others, Option.bind_eq_bind, Option.bind_some, Option.pure_def,
            Option.some.injEq] at h
          rw [← h]
          exact List.cons_ne_nil b bs

theorem truthy_tree {value : Value} (h : g.truthy value) :
    (∃ s, g.tree value = .text s) ∨ (g.tree value).truthy := by
  unfold Graph.tree
  cases finite : g.tree? value with
  | none => exact .inl ⟨_, rfl⟩
  | some tree =>
      refine .inr ?_
      cases value with
      | atom a =>
          rw [Graph.tree?, Graph.treeWithin?] at finite
          rw [← Option.some.inj finite]
          exact h
      | cell id =>
          rw [Graph.tree?, Graph.treeWithin?, if_neg (by simp)] at finite
          unfold Graph.truthy at h
          cases found : g.cells[id]? with
          | none => simp [found] at h
          | some cell =>
              simp only [found] at h finite
              cases cell with
              | list items =>
                  cases items with
                  | nil => simp at h
                  | cons item rest =>
                      obtain ⟨trees, made, rfl⟩ := Option.map_eq_some_iff.mp finite
                      simpa [Json.truthy] using ne_nil_of_mapM made
              | dict entries =>
                  cases entries with
                  | nil => simp at h
                  | cons entry rest =>
                      obtain ⟨trees, made, rfl⟩ := Option.map_eq_some_iff.mp finite
                      simpa [Json.truthy] using ne_nil_of_mapM made

theorem parameter_named {declared : Value} {made : Parameter} {argument : String}
    (h : parameter g declared = .ok made) (named : made.argument? = some argument) :
    ∃ name, made.name = .text name := by
  unfold parameter at h
  dsimp only at h
  split at h
  · rename_i location _ true'
    obtain ⟨schema, _, h⟩ := except_bind_eq_ok.mp h
    rw [← Except.ok.inj h] at named ⊢
    rcases truthy_tree true' with text | truthy
    · exact text
    · simp only [Parameter.argument?, Name.ofJson?] at named
      split at named
      · rename_i s text
        exact ⟨s, text⟩
      · simp [truthy] at named
  · obtain ⟨_, _, h⟩ := except_bind_eq_ok.mp h
    cases h

theorem bodyParameter_named {operation : Value} {made : Parameter}
    (h : bodyParameter? g operation = .ok (some made)) : made.name = .text "body" := by
  unfold bodyParameter? at h
  dsimp only at h
  split at h
  · split at h
    · simp at h
    · obtain ⟨schema, _, h⟩ := except_bind_eq_ok.mp h
      rw [← Option.some.inj (Except.ok.inj h)]
  · simp at h

/-- Parameters of an operation are declared, or one stands for its request body. -/
theorem mem_parameters {item operation : Value} {made : List Parameter}
    (h : parameters g item operation = .ok made) {parameter' : Parameter}
    (member : parameter' ∈ made) :
    (∃ declared, parameter g declared = .ok parameter') ∨
      bodyParameter? g operation = .ok (some parameter') := by
  unfold parameters at h
  obtain ⟨ofPath, _, h⟩ := except_bind_eq_ok.mp h
  obtain ⟨ofOperation, _, h⟩ := except_bind_eq_ok.mp h
  obtain ⟨merged, _, h⟩ := except_bind_eq_ok.mp h
  obtain ⟨declared, each, h⟩ := except_bind_eq_ok.mp h
  obtain ⟨body, ofBody, h⟩ := except_bind_eq_ok.mp h
  rw [← Except.ok.inj h] at member
  rcases List.mem_append.mp member with among | isBody
  · obtain ⟨value, _, made⟩ := exists_of_forall₂
      (R := flip fun value made => parameter g value = .ok made) (forall₂_of_mapM each).flip among
    exact .inl ⟨value, made⟩
  · rw [Option.mem_toList] at isBody
    exact .inr (isBody ▸ ofBody)

/-- Extracted endpoints are those of the operations of the document, all of different ids. -/
theorem endpoints_yield {given : Option Json} {endpoints : EndpointSet} {log log' : Log}
    (h : d.endpoints given log = .ok endpoints log') :
    ∃ base paths, sectionEntries d.graph (d.graph.getD d.root "paths") = .ok paths ∧
      List.Forall₂ (Yields d.graph base) (paths.flatMap (operationsOf d.graph)) endpoints ∧
      endpoints.keys.Nodup := by
  have run : ∀ base log, ((do
      if d.graph.isDict d.root then
        let paths <- MonadExcept.ofExcept (sectionEntries d.graph (d.graph.getD d.root "paths"))
        paths.foldlM (addPath d.graph base) []
      else
        throw .noEntries : Run EndpointSet) log = .ok endpoints log') ->
      ∃ base paths, sectionEntries d.graph (d.graph.getD d.root "paths") = .ok paths ∧
        List.Forall₂ (Yields d.graph base) (paths.flatMap (operationsOf d.graph)) endpoints ∧
        endpoints.keys.Nodup := by
    intro base log h
    split at h
    · obtain ⟨paths, log₁, listed, h⟩ := bind_eq_ok.mp h
      exact ⟨base, paths, (ofExcept_eq_ok.mp listed).1, addPaths_ok.mp ⟨log', h⟩⟩
    · simp at h
  unfold Document.endpoints at h
  cases given with
  | some base => exact run base log h
  | none =>
      obtain ⟨base, log₁, _, h⟩ := bind_eq_ok.mp h
      exact run base log₁ h

/-- An extracted endpoint has the parameters and the answers of an operation. -/
theorem endpoints_parts {given : Option Json} {endpoints : EndpointSet} {log log' : Log}
    (h : d.endpoints given log = .ok endpoints log') {entry : Atom × Endpoint}
    (among : entry ∈ endpoints) :
    ∃ item operation response, parameters d.graph item operation = .ok entry.2.parameters ∧
      responseSchema? d.graph operation = .ok response ∧
      response.mapM (Schema.ofValue d.graph) = .ok entry.2.response := by
  obtain ⟨base, paths, _, each, _⟩ := endpoints_yield h
  obtain ⟨operation, _, yields⟩ :=
    exists_of_forall₂ (R := flip (Yields d.graph base)) each.flip among
  obtain ⟨declared, made, built⟩ := except_bind_eq_ok.mp yields.endpoint
  obtain ⟨response, found, built⟩ := except_bind_eq_ok.mp built
  obtain ⟨schema, read, built⟩ := except_bind_eq_ok.mp built
  rw [← Except.ok.inj built]
  exact ⟨_, _, response, made, found, read⟩

/-- Every parameter of an extracted endpoint that can be an argument has a text as its name. -/
theorem endpoints_named {given : Option Json} {endpoints : EndpointSet} {log log' : Log}
    (h : d.endpoints given log = .ok endpoints log') {entry : Atom × Endpoint}
    (among : entry ∈ endpoints) {parameter' : Parameter} (member : parameter' ∈ entry.2.parameters)
    {argument : String} (named : parameter'.argument? = some argument) :
    ∃ name, parameter'.name = .text name := by
  obtain ⟨item, operation, _, made, _, _⟩ := endpoints_parts h among
  rcases mem_parameters made member with ⟨value, declared⟩ | isBody
  · exact parameter_named declared named
  · exact ⟨_, bodyParameter_named isBody⟩

end Extraction

/-- Mapped parameters give arguments, no two of them the same. -/
theorem Mapping.mapParameters_distinct {operationId : Json} {key : Atom} {part : Nat}
    {arguments' : Entries Argument} {parameters : List Parameter} {w w' : Workshop}
    (h : mapParameters operationId key part arguments parameters w = .ok arguments' w')
    (apart : (arguments.map Prod.fst).Nodup) :
    ∃ names, parameters.map Parameter.argument? = names.map some ∧
      (arguments.map Prod.fst ++ names).Nodup := by
  induction parameters generalizing part arguments w with
  | nil => exact ⟨[], rfl, by rwa [List.append_nil]⟩
  | cons parameter rest ih =>
      obtain ⟨name, named, new, _, type, w₁, _, h⟩ := mapParameters_cons_ok.mp h
      have apart' := apart.concat new
      obtain ⟨names, others, distinct⟩ := ih h (by simpa using apart')
      refine ⟨name :: names, by rw [List.map_cons, named, others, List.map_cons], ?_⟩
      simpa using distinct

namespace Request

variable {arguments : Entries Json} {parameters : List Parameter} {endpoint : Endpoint}
  {request : Request}

/-! ## Whole requests -/

theorem givenAt_nodup (arguments : Entries Json)
    (distinct : (parameters.map Parameter.argument?).Nodup) (location : Location) :
    ((givenAt location arguments parameters).map fun given => Name.ofText given.1).Nodup := by
  have argument : ∀ {parameter : Parameter} {name : String} {value : Json},
      given? arguments parameter = some (name, value) ->
        parameter.argument? = some (Name.ofText name) := by
    intro parameter name value given
    rw [Parameter.argument?, (given?_eq_some.mp given).1, Name.ofJson?]
  induction parameters with
  | nil => exact List.nodup_nil
  | cons parameter rest ih =>
      rw [List.map_cons, List.nodup_cons] at distinct
      cases given : given? arguments parameter with
      | none =>
          rw [givenAt_cons_of_none given]
          exact ih distinct.2
      | some nameAndValue =>
          rcases nameAndValue with ⟨name, value⟩
          rw [givenAt_cons_of_some given]
          split
          · refine List.nodup_cons.mpr ⟨fun again => distinct.1 ?_, ih distinct.2⟩
            obtain ⟨⟨other, value'⟩, among, same⟩ := List.mem_map.mp again
            replace same : Name.ofText other = Name.ofText name := same
            obtain ⟨parameter', later, _, given'⟩ := mem_givenAt.mp among
            rw [argument given, ← same, ← argument given']
            exact List.mem_map_of_mem later
          · exact ih distinct.2

theorem names_nodup (arguments : Entries Json)
    (distinct : (parameters.map Parameter.argument?).Nodup) (location : Location) :
    ((givenAt location arguments parameters).map Prod.fst).Nodup :=
  List.pairwise_map.mpr <|
    (List.pairwise_map.mp (givenAt_nodup arguments distinct location)).imp
      fun apart same => apart (congrArg Name.ofText same)

theorem formKeys_nodup (arguments : Entries Json)
    (distinct : (parameters.map Parameter.argument?).Nodup) :
    (((givenAt .formData arguments parameters).map formEntry).map fun entry =>
      entry.1.key).Nodup := by
  rw [List.map_map]
  exact List.pairwise_map.mpr <|
    (List.pairwise_map.mp (givenAt_nodup arguments distinct .formData)).imp
      fun apart same => apart (Name.ofText_congr (AtomKey.text.inj same))

theorem query_eq (named : Named endpoint.parameters) (h : endpoint.request arguments = .ok request) :
    request.query = Entries.ofList (givenAt .query arguments endpoint.parameters) := by
  obtain ⟨draft, filled, _, query, _⟩ := request_ok h
  rw [query, Draft.fill_query named filled]
  rfl

/-- A request has a form if form parameters are given something, else a body. -/
theorem body_eq (named : Named endpoint.parameters)
    (distinct : (endpoint.parameters.map Parameter.argument?).Nodup)
    (h : endpoint.request arguments = .ok request) :
    request.body =
      if givenAt .formData arguments endpoint.parameters = [] then
        .json ((givenAt .body arguments endpoint.parameters).foldl (fun _ given => given.2) .null)
      else .form ((givenAt .formData arguments endpoint.parameters).map formEntry) := by
  obtain ⟨draft, filled, _, _, _, body⟩ := request_ok h
  have form : draft.form = (givenAt .formData arguments endpoint.parameters).map formEntry := by
    rw [Draft.fill_form named filled]
    exact Atom.foldl_put (by simpa using formKeys_nodup arguments distinct)
  rw [body, Draft.fill_body named filled, form]
  simp only [List.isEmpty_iff, List.map_eq_nil_iff]

theorem form_value {given : Entries Json} (distinct : (given.map Prod.fst).Nodup) {name : String}
    {value : Json} (member : (name, value) ∈ given) :
    (Body.form (given.map formEntry)).value.get? name = some value := by
  have shown : (given.map formEntry).map (fun entry => (entry.1.display, entry.2.value)) = given := by
    rw [List.map_map]
    exact (List.map_congr_left fun _ _ => rfl).trans (List.map_id _)
  simp only [Body.value, Json.get?]
  rw [shown]
  exact Entries.lookup_ofList_of_mem distinct member

/-- A parameter that is given something places it in a draft that later ones fill further. -/
theorem request_opens (h : endpoint.request arguments = .ok request)
    {before after : List Parameter} {parameter : Parameter} (place : endpoint.parameters = before ++ parameter :: after)
    {name : String} {value : Json} (given : given? arguments parameter = some (name, value)) :
    ∃ draft middle last, Draft.Takes draft parameter.location name value middle ∧
      Draft.fill arguments after middle = .ok last ∧ request.headers = last.headers := by
  obtain ⟨last, filled, _, _, headers, _⟩ := request_ok h
  rw [place] at filled
  obtain ⟨draft, _, filled⟩ := Draft.fill_append.mp filled
  obtain ⟨middle, step, later⟩ := Draft.fill_cons.mp filled
  rcases Draft.step_cases (given?_eq_some.mp given).1 step with ⟨none, _⟩ | ⟨value', again, takes⟩
  · simp [none] at given
  · rw [given, Option.some.injEq, Prod.mk.injEq] at again
    exact ⟨draft, middle, last, again.2 ▸ takes, later, headers⟩

/--
What a parameter is given arrives in the request, wherever the parameter stands
among the others: in the query or the form under its name, as a header, to which
only cookies may be added if it has their name, as one of the cookies, unless a
later parameter sets their header anew, or as the body, unless there is a form
or a later body.
-/
theorem request_carries {d : Document} {base : Option Json} {log log' : Log}
    {endpoints : EndpointSet} (extracted : d.endpoints base log = .ok endpoints log')
    {entry : Atom × Endpoint} (among : entry ∈ endpoints) {operationId : Json} {key : Atom}
    {part : Nat} {w w' : Workshop} {taken : Entries Argument}
    (mapped : Mapping.mapParameters operationId key part [] entry.2.parameters w = .ok taken w')
    (made : entry.2.request arguments = .ok request) {before after : List Parameter}
    {parameter : Parameter} (place : entry.2.parameters = before ++ parameter :: after)
    {argument : String} {value : Json} (named : parameter.argument? = some argument)
    (supplied : arguments.lookup argument = some value) (present : value ≠ .null) :
    ∃ name, parameter.name = .text name ∧
      (parameter.location = .query -> request.query.lookup name = some value) ∧
      (parameter.location = .formData ->
        request.body.type = .form ∧ request.body.value.get? name = some value) ∧
      (parameter.location = .body -> givenAt .formData arguments entry.2.parameters = [] ->
        givenAt .body arguments after = [] -> request.body = .json value) ∧
      (parameter.location = .header ->
        request.headers.lookup name = some ("; ".intercalate
          (headerText value :: if name = cookieHeader then cookies arguments after else []))) ∧
      (parameter.location = .cookie ->
        cookieHeader ∉ (givenAt .header arguments after).map Prod.fst ->
          ∃ earlier, request.headers.lookup cookieHeader = some ("; ".intercalate
            (earlier ++ cookieText (name, value) :: cookies arguments after))) := by
  obtain ⟨names, all, distinct⟩ := Mapping.mapParameters_distinct mapped List.nodup_nil
  replace distinct : (entry.2.parameters.map Parameter.argument?).Nodup := by
    rw [all]
    exact List.Nodup.map (fun _ _ => Option.some.inj) distinct
  have texts : Named entry.2.parameters := by
    intro other member
    have listed : other.argument? ∈ names.map some := all ▸ List.mem_map_of_mem member
    obtain ⟨argument, _, isNamed⟩ := List.mem_map.mp listed
    exact Extraction.endpoints_named extracted among member isNamed.symm
  obtain ⟨name, called⟩ := texts parameter (by rw [place]; simp)
  have given : given? arguments parameter = some (name, value) := by
    rw [Parameter.argument?, called, Name.ofJson?] at named
    exact given?_eq_some.mpr ⟨called, by rw [Option.some.inj named, supplied], present⟩
  have there : ∀ {location}, parameter.location = location ->
      (name, value) ∈ givenAt location arguments entry.2.parameters := fun isThere =>
    mem_givenAt.mpr ⟨parameter, by rw [place]; simp, isThere, given⟩
  have body := body_eq texts distinct made
  obtain ⟨draft, middle, last, takes, later, headers⟩ := request_opens made place given
  have laterTexts : Named after := fun other member => texts other (by rw [place]; simp [member])
  refine ⟨name, called, fun inQuery => ?_, fun inForm => ?_, fun inBody noForm noLater => ?_,
    fun inHeader => ?_, fun inCookie unset => ?_⟩
  · rw [query_eq texts made]
    exact Entries.lookup_ofList_of_mem (names_nodup arguments distinct .query) (there inQuery)
  · rw [body, if_neg (List.ne_nil_of_mem (there inForm))]
    exact ⟨rfl, form_value (names_nodup arguments distinct .formData) (there inForm)⟩
  · rw [body, if_pos noForm, place, givenAt_append, givenAt_cons_of_some given, if_pos inBody,
      noLater, List.foldl_append]
    rfl
  · have apart := names_nodup arguments distinct .header
    rw [place, givenAt_append, givenAt_cons_of_some given, if_pos inHeader, List.map_append,
      List.map_cons, List.nodup_middle, List.nodup_cons, List.mem_append, not_or] at apart
    have set : middle.headers.lookup name = some ("; ".intercalate [headerText value]) := by
      rw [takes.headers, if_pos inHeader, Entries.lookup_put_self, String.intercalate_singleton]
    rw [headers, Draft.fill_headers laterTexts later (by simp) set apart.1.2]
    rfl
  · have moved := takes.headers
    rw [if_neg (by simp [inCookie]), if_pos inCookie] at moved
    have set : ∃ earlier, middle.headers.lookup cookieHeader =
        some ("; ".intercalate (earlier ++ [cookieText (name, value)])) := by
      rw [moved]
      cases old : draft.headers.lookup cookieHeader with
      | none =>
          refine ⟨[], ?_⟩
          simp only [Draft.addCookie, old, Entries.lookup_put_self, List.nil_append,
            String.intercalate_singleton]
      | some text =>
          have old' : draft.headers.lookup cookieHeader = some ("; ".intercalate [text]) := by
            rw [old, String.intercalate_singleton]
          exact ⟨[text], draft.lookup_addCookie _ (List.cons_ne_nil _ _) old'⟩
    obtain ⟨earlier, set⟩ := set
    refine ⟨earlier, ?_⟩
    rw [headers, Draft.fill_headers laterTexts later (by simp) set unset, if_pos rfl]
    simp

def declared (name location : String) : Json :=
  .dict [("name", .text name), ("in", .text location), ("type", .text "string")]

/-- An operation that takes a parcel as its body or by its label, and two cookies. -/
def parcels : Document :=
  .ofJson (.dict [("paths", .dict [("/parcels", .dict [("post", .dict [
    ("operationId", .text "send"),
    ("parameters", .list [declared "session" "cookie", declared "parcel" "body",
      declared "label" "formData", declared "theme" "cookie"])])])])])

def parcelArguments (label : Json) : Entries Json :=
  [("theme", .text "dark"), ("label", label), ("session", .text "s1"),
    ("parcel", .dict [("label", .text "x"), ("weight", .int 2)])]

/-- The operation has four parameters, and its requests are made with a label and without. -/
theorem parcels_returns :
    ∃ entry log, parcels.endpoints none #[] = .ok [entry] log ∧
      (∃ taken w, Mapping.mapParameters entry.2.operationId entry.1 1 [] entry.2.parameters {} =
        .ok taken w) ∧
      (∃ session parcel label theme, entry.2.parameters = [session, parcel, label, theme] ∧
        [session, parcel, label, theme].map (fun parameter =>
          (parameter.name, parameter.location)) = [(.text "session", .cookie),
            (.text "parcel", .body), (.text "label", .formData), (.text "theme", .cookie)]) ∧
      ∀ label, label = .null ∨ label = .text "x" -> ∃ request,
        entry.2.request (parcelArguments label) = .ok request := by
  have shown : (returned? (parcels.endpoints none #[])).any fun found =>
      found.1.length = 1 && found.1.all fun entry =>
        (returned? (Mapping.mapParameters entry.2.operationId entry.1 1 [] entry.2.parameters
          {})).any fun _ =>
            entry.2.parameters.map (fun parameter => (parameter.name, parameter.location)) =
              [(.text "session", .cookie), (.text "parcel", .body), (.text "label", .formData),
                (.text "theme", .cookie)] &&
            [Json.null, .text "x"].all fun label =>
              (entry.2.request (parcelArguments label)).toOption.any fun _ => true := by
    decide +kernel
  obtain ⟨endpoints, log, returns, shown⟩ := ok_of_returned shown
  obtain ⟨one, shown⟩ := (Bool.and_eq_true _ _).mp shown
  obtain ⟨entry, rfl⟩ := List.length_eq_one_iff.mp (of_decide_eq_true one)
  obtain ⟨taken, w, mapped, shown⟩ := ok_of_returned
    (List.all_eq_true.mp shown entry List.mem_cons_self)
  obtain ⟨places, requests⟩ := (Bool.and_eq_true _ _).mp shown
  replace places := of_decide_eq_true places
  refine ⟨entry, log, returns, ⟨taken, w, mapped⟩, ?_, fun label given => ?_⟩
  · have listed := places
    simp only [List.map_eq_cons_iff, List.map_eq_nil_iff] at listed
    obtain ⟨session, _, listed, _, parcel, _, rfl, _, label, _, rfl, _, theme, _, rfl, _, rfl⟩ :=
      listed
    exact ⟨session, parcel, label, theme, listed, listed ▸ places⟩
  · have among : label ∈ [Json.null, .text "x"] := by simpa using given
    obtain ⟨request, made, _⟩ := ok_of_toOption (List.all_eq_true.mp requests label among)
    exact ⟨request, made⟩

/-- Without a label the parcel itself is sent. -/
theorem request_carries_parcel :
    ∃ entry log request, parcels.endpoints none #[] = .ok [entry] log ∧
      entry.2.request (parcelArguments .null) = .ok request ∧
      request.body = .json (.dict [("label", .text "x"), ("weight", .int 2)]) := by
  obtain ⟨entry, log, returns, ⟨taken, w, mapped⟩, ⟨session, parcel, label, theme, place, places⟩,
    requests⟩ := parcels_returns
  obtain ⟨request, made⟩ := requests .null (.inl rfl)
  simp only [List.map_cons, List.map_nil, List.cons.injEq, Prod.mk.injEq, and_true] at places
  obtain ⟨⟨_, atSession⟩, ⟨isParcel, atParcel⟩, ⟨isLabel, atLabel⟩, _, atTheme⟩ := places
  have noForm : givenAt .formData (parcelArguments .null) entry.2.parameters = [] := by
    have null : given? (parcelArguments .null) label = none := by
      rw [given?_of_text isLabel]
      decide +kernel
    simp [place, givenAt, atSession, atParcel, atLabel, atTheme, null]
  have amid : entry.2.parameters = [session] ++ parcel :: [label, theme] := place
  have called : parcel.argument? = some "parcel" := by
    rw [Parameter.argument?, isParcel]
    decide +kernel
  obtain ⟨_, _, _, _, body, _⟩ := request_carries returns (List.mem_singleton.mpr rfl) mapped made
    amid called rfl (by simp)
  exact ⟨entry, log, request, returns, made,
    body atParcel noForm (by simp [givenAt, atLabel, atTheme])⟩

/-- With a label the parcel itself is not sent, although it is given. -/
theorem request_carries_no_body_besides_form :
    ¬ ∀ (d : Document) (base : Option Json) (log log' : Log) (endpoints : EndpointSet)
      (entry : Atom × Endpoint) (w w' : Workshop) (taken : Entries Argument)
      (arguments : Entries Json) (request : Request) (parameter : Parameter) (argument : String)
      (value : Json), d.endpoints base log = .ok endpoints log' -> entry ∈ endpoints ->
      Mapping.mapParameters entry.2.operationId entry.1 1 [] entry.2.parameters w = .ok taken w' ->
      entry.2.request arguments = .ok request -> parameter ∈ entry.2.parameters ->
      parameter.argument? = some argument -> arguments.lookup argument = some value ->
      value ≠ .null -> parameter.location = .body -> request.body = .json value := by
  intro claim
  obtain ⟨entry, log, returns, ⟨taken, w, mapped⟩, ⟨session, parcel, label, theme, place, places⟩,
    requests⟩ := parcels_returns
  obtain ⟨request, made⟩ := requests (.text "x") (.inr rfl)
  simp only [List.map_cons, List.map_nil, List.cons.injEq, Prod.mk.injEq, and_true] at places
  obtain ⟨⟨isSession, _⟩, ⟨isParcel, atParcel⟩, ⟨isLabel, atLabel⟩, isTheme, _⟩ := places
  have sent := claim parcels none #[] log [entry] entry {} w taken (parcelArguments (.text "x"))
    request parcel "parcel" _ returns (List.mem_singleton.mpr rfl) mapped made
    (by rw [place]; simp) (by rw [Parameter.argument?, isParcel]; decide +kernel) rfl (by simp)
    atParcel
  have named : Named entry.2.parameters := by
    simp [place, Named, isSession, isParcel, isLabel, isTheme]
  have distinct : (entry.2.parameters.map Parameter.argument?).Nodup := by
    rw [place]
    simp only [List.map_cons, List.map_nil, Parameter.argument?, isSession, isParcel, isLabel,
      isTheme]
    decide +kernel
  have labelled : ("label", .text "x") ∈
      givenAt .formData (parcelArguments (.text "x")) entry.2.parameters :=
    mem_givenAt.mpr ⟨label, by rw [place]; simp, atLabel,
      given?_eq_some.mpr ⟨isLabel, by decide +kernel, by simp⟩⟩
  rw [body_eq named distinct made, if_neg (List.ne_nil_of_mem labelled)] at sent
  simp at sent

end Request

end GraphFacade
