import GraphFacade.Proofs.Endpoint.Paths

/-!
# Segments of paths

A value that fills a whole segment stays in it: what is inserted holds no slash.
It is not kept from being a segment that has a meaning of its own for a client,
since a text that is empty or made of dots is inserted as it is.
-/

namespace GraphFacade

namespace Request

variable {arguments given : Entries Json} {name path : String} {value : Json}
  {cs : List Char}

def segments (path : List Char) : List (List Char) :=
  Text.splitAt '/' path

def dotSegments : List (List Char) :=
  [[], ['.'], ['.', '.']]

/-- Whether the places of a placeholder among segments are whole segments. -/
structure WholeSegment (segments : List (List Char)) (name : String) : Prop where
  slash : '/' ∉ name.toList
  whole : ∀ segment ∈ segments, placeholder name <:+: segment -> segment = placeholder name

/-- A segment with the value of its placeholder, if it is one that is given a value. -/
def fillSegment (given : Entries Json) (segment : List Char) : List Char :=
  match given.find? fun entry => placeholder entry.1 == segment with
  | some entry => inserted entry.2
  | none => segment

/-! ## Placeholders and values -/

theorem placeholder_inj {other : String} (h : placeholder name = placeholder other) :
    name = other := by
  rw [placeholder, placeholder, List.cons.injEq, List.append_cancel_right_eq] at h
  exact String.toList_inj.mp h.2

theorem not_placeholder_infix_inserted (name : String) (value : Json) :
    ¬ placeholder name <:+: inserted value := by
  intro h
  have brace : '\x7b' ∈ inserted value := h.mem List.mem_cons_self
  exact Text.not_mem_percentEncode _ (by decide) (by decide) brace

theorem slash_not_mem_inserted (value : Json) : '/' ∉ inserted value :=
  Text.not_mem_percentEncode _ (by decide) (by decide)

theorem inserted_mem_dotSegments (value : Json) :
    inserted value ∈ dotSegments ↔ Text.plain value.display ∈ ["", ".", ".."] := by
  have marks : dotSegments.all (fun cs => cs.all Text.isUnreserved) = true := by decide
  have same : ∀ cs ∈ dotSegments, ∀ c ∈ cs, Text.isUnreserved c = true := fun cs among =>
    List.all_eq_true.mp (List.all_eq_true.mp marks cs among)
  have texts : ["", ".", ".."].map String.toList = dotSegments := rfl
  rw [← List.mem_map_of_injective fun _ _ => String.toList_inj.mp, texts]
  constructor
  · intro h
    rwa [(Text.percentEncode_eq_iff (same _ h)).mp rfl]
  · intro h
    rwa [inserted, (Text.percentEncode_eq_iff (same _ h)).mpr rfl]

/-! ## One value -/

theorem fillSegment_singleton (name : String) (value : Json) :
    fillSegment [(name, value)] = fun segment =>
      if segment = placeholder name then inserted value else segment := by
  funext segment
  by_cases same : segment = placeholder name
  · simp [fillSegment, same]
  · simp [fillSegment, same, Ne.symm same]

theorem segments_fillIn (whole : WholeSegment (segments cs) name) (value : Json) :
    segments (fillIn cs (name, value)) = (segments cs).map (fillSegment [(name, value)]) := by
  have free : '/' ∉ placeholder name := by
    simp [placeholder, whole.slash]
  have split := whole.whole
  rw [segments, Text.splitAt_eq_splitOn] at split
  rw [segments, segments, Text.splitAt_eq_splitOn, Text.splitAt_eq_splitOn, fillSegment_singleton]
  exact Text.splitOn_replaceAll (List.cons_ne_nil _ _) free (slash_not_mem_inserted value) split

/-- Filling brings up no placeholder, so other places stay whole segments. -/
theorem WholeSegment.fill {other : String} {segments : List (List Char)}
    (whole : WholeSegment segments other) (given : Entries Json) :
    WholeSegment (segments.map (fillSegment given)) other where
  slash := whole.slash
  whole := by
    intro segment among there
    obtain ⟨old, member, rfl⟩ := List.mem_map.mp among
    unfold fillSegment at there ⊢
    split at there
    · exact absurd there (not_placeholder_infix_inserted _ _)
    · exact whole.whole old member there

/-! ## All values -/

theorem fillSegment_fillSegment (first later : Entries Json) (segment : List Char) :
    fillSegment later (fillSegment first segment) = fillSegment (first ++ later) segment := by
  -- A filled segment is no placeholder, so no later value goes there.
  have kept (value : Json) : fillSegment later (inserted value) = inserted value := by
    have other : ∀ entry ∈ later, ¬ (placeholder entry.1 == inserted value) = true := by
      intro entry _ same
      refine not_placeholder_infix_inserted entry.1 value ?_
      rw [beq_iff_eq.mp same]
    rw [fillSegment, List.find?_eq_none.mpr other]
  simp only [fillSegment, List.find?_append]
  cases found : first.find? fun entry => placeholder entry.1 == segment with
  | some entry => exact kept entry.2
  | none => rfl

/-- All values fill the segments that are their placeholders. -/
theorem segments_foldl_fillIn (whole : ∀ entry ∈ given, WholeSegment (segments cs) entry.1) :
    segments (given.foldl fillIn cs) = (segments cs).map (fillSegment given) := by
  induction given generalizing cs with
  | nil =>
      have unfilled : fillSegment [] = id := rfl
      rw [unfilled, List.map_id]
      rfl
  | cons entry rest ih =>
      rw [List.forall_mem_cons] at whole
      have first := segments_fillIn whole.1 entry.2
      have whole' : ∀ later ∈ rest, WholeSegment (segments (fillIn cs entry)) later.1 := by
        intro later among
        rw [first]
        exact (whole.2 later among).fill [entry]
      rw [List.foldl_cons, ih whole', first, List.map_map]
      exact List.map_congr_left fun segment _ => fillSegment_fillSegment [entry] rest segment

theorem fillSegment_placeholder {parameters : List Parameter}
    (member : (name, value) ∈ givenAt .path arguments parameters) :
    fillSegment (givenAt .path arguments parameters) (placeholder name) = inserted value := by
  unfold fillSegment
  split
  · rename_i entry found
    -- The value that is found first may be another parameter's of this name, which has the same.
    have among := List.mem_of_find?_eq_some found
    have called : entry.1 = name := placeholder_inj (by simpa using List.find?_some found)
    have value' := (lookup_givenAt .path).mpr among
    rw [called, (lookup_givenAt .path).mpr member] at value'
    rw [Option.some.inj value']
  · rename_i missed
    exact absurd BEq.rfl (List.find?_eq_none.mp missed _ member)

/--
If every place for the value of a path parameter is a whole segment of the
template, the path of a request has the segments of the template, with those
filled in that are given a value.  A segment that was filled in is empty, one
dot or two dots if and only if the text of the value is just that.
-/
theorem request_segments {endpoint : Endpoint} {request : Request}
    (template : endpoint.path = some path)
    (whole : ∀ parameter ∈ endpoint.parameters, parameter.location = .path ->
      ∀ name, parameter.name = .text name -> WholeSegment (segments path.toList) name)
    (made : endpoint.request arguments = .ok request) :
    (segments request.path.toList).length = (segments path.toList).length ∧
    segments request.path.toList =
      (segments path.toList).map (fillSegment (givenAt .path arguments endpoint.parameters)) ∧
    ∀ name value, (name, value) ∈ givenAt .path arguments endpoint.parameters ->
      fillSegment (givenAt .path arguments endpoint.parameters) (placeholder name) =
        inserted value ∧
      (inserted value ∈ dotSegments ↔ Text.plain value.display ∈ ["", ".", ".."]) := by
  have places : ∀ entry ∈ givenAt .path arguments endpoint.parameters,
      WholeSegment (segments path.toList) entry.1 := by
    intro entry among
    obtain ⟨parameter, there, here, given⟩ := mem_givenAt.mp among
    exact whole parameter there here entry.1 (given?_eq_some.mp given).1
  have filled : segments request.path.toList = (segments path.toList).map
      (fillSegment (givenAt .path arguments endpoint.parameters)) := by
    rw [path_eq made template, String.toList_ofList, segments_foldl_fillIn places]
  refine ⟨by rw [filled, List.length_map], filled, fun name value member => ⟨?_, ?_⟩⟩
  · exact fillSegment_placeholder member
  · exact inserted_mem_dotSegments value

/-- The keys of one user. -/
def userKeys : Endpoint where
  operationId := .text "keys"
  method := some .get
  path := some "/users/\x7bid\x7d/keys"
  mutation := false
  description := .text ""
  response := none
  parameters := [pathParameter "id"]
  baseUrl := .text ""

/-- Two dots for the user lead a client out of the users. -/
theorem request_segments_parent :
    ∃ request, userKeys.request [("id", .text "..")] = .ok request ∧
      request.path = "/users/../keys" ∧
      (segments request.path.toList).length = 4 ∧
      fillSegment [("id", .text "..")] (placeholder "id") ∈ dotSegments := by
  have shown : (userKeys.request [("id", .text "..")]).toOption.any fun request =>
      request.path == "/users/../keys" := by decide +kernel
  obtain ⟨request, made, path⟩ := Steps.ok_of_toOption shown
  have given : givenAt .path [("id", .text "..")] userKeys.parameters = [("id", .text "..")] := by
    decide +kernel
  have whole : ∀ parameter ∈ userKeys.parameters, parameter.location = .path ->
      ∀ name, parameter.name = .text name ->
        WholeSegment (segments "/users/\x7bid\x7d/keys".toList) name := by
    intro parameter among _ name called
    rw [List.mem_singleton.mp among] at called
    cases called
    exact ⟨by decide, by decide⟩
  obtain ⟨count, _, each⟩ := request_segments rfl whole made
  rw [given] at each
  obtain ⟨filled, dots⟩ := each "id" (.text "..") List.mem_cons_self
  refine ⟨request, made, beq_iff_eq.mp path, count, ?_⟩
  rw [filled]
  exact dots.mpr (by decide)

end Request

end GraphFacade
