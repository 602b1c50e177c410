import GraphFacade.Proofs.Endpoint.Placing
import GraphFacade.Proofs.Text.Replacing

/-!
# The header of all cookies

The header is cut into items at each semicolon with a blank behind it, and each
item at its first equals sign.  What is read from it is what is read from the text
of each cookie by itself, one after another.  Names and values are written as they
are, so a cookie is read as it was given only if it holds no such cut itself.
-/

namespace GraphFacade

namespace Cookie

open Request

variable {c : Char} {cs before behind rest : List Char} {name value : String}
  {cookie : String × Json}

/-! ## Reading -/

def separator : List Char :=
  [';', ' ']

def items : List Char -> List (List Char)
  | [] => [[]]
  | ';' :: ' ' :: rest => [] :: items rest
  | c :: rest => (items rest).modifyHead (c :: ·)

def ofItem (item : List Char) : String × Option String :=
  (String.ofList (Text.splitFirst '=' item).1,
    (Text.splitFirst '=' item).2.map String.ofList)

def ofHeader (header : String) : List (String × Option String) :=
  (items header.toList).map ofItem

def sent (cookie : String × Json) : String × Option String :=
  (cookie.1, some (headerText cookie.2))

/-- Whether a cookie is cut in two nowhere but behind its name. -/
def Uncut (cookie : String × Json) : Prop :=
  '=' ∉ cookie.1.toList ∧ ¬ separator <:+: cookie.1.toList ∧
    ¬ separator <:+: (headerText cookie.2).toList

instance : Decidable (Uncut cookie) :=
  inferInstanceAs (Decidable (_ ∧ _ ∧ _))

/-! ## Items -/

theorem exists_items_eq_cons (cs : List Char) : ∃ first others, items cs = first :: others := by
  refine List.exists_cons_of_ne_nil ?_
  fun_induction items cs with
  | case1 => exact List.cons_ne_nil _ _
  | case2 => exact List.cons_ne_nil _ _
  | case3 c rest _ ih => exact List.modifyHead_eq_nil_iff.not.mpr ih

theorem items_cons (free : ¬ separator <+: c :: rest) :
    items (c :: rest) = (items rest).modifyHead (c :: ·) := by
  rw [items]
  rintro later rfl rfl
  exact free ⟨later, rfl⟩

theorem items_append (before behind : List Char) :
    items (before ++ separator ++ behind) = items before ++ items behind := by
  fun_induction items before with
  | case1 => rfl
  | case2 rest ih => exact congrArg ([] :: ·) ih
  | case3 c rest other ih =>
      -- A semicolon at the end of the text before meets another one, and no blank.
      have free : ¬ separator <+: c :: (rest ++ separator ++ behind) := by
        rintro ⟨later, same⟩
        cases rest with
        | nil => simp [separator] at same
        | cons d rest =>
            simp only [separator, List.cons_append, List.cons.injEq] at same
            exact other rest same.1.symm (same.2.1 ▸ rfl)
      obtain ⟨first, others, found⟩ := exists_items_eq_cons rest
      rw [List.cons_append, List.cons_append, items_cons free, ih, found]
      rfl

theorem intercalate_items (cs : List Char) : separator.intercalate (items cs) = cs := by
  fun_induction items cs with
  | case1 => rfl
  | case2 rest ih =>
      obtain ⟨first, others, found⟩ := exists_items_eq_cons rest
      rw [found] at ih ⊢
      rw [List.intercalate_cons_cons, ih]
      rfl
  | case3 c rest _ ih =>
      obtain ⟨first, others, found⟩ := exists_items_eq_cons rest
      rw [found] at ih ⊢
      rw [← ih]
      cases others <;> rfl

theorem items_eq_singleton_iff : items cs = [cs] ↔ ¬ separator <:+: cs := by
  fun_induction items cs with
  | case1 => simp [separator]
  | case2 rest _ =>
      have there : separator <:+: ';' :: ' ' :: rest := ⟨[], rest, rfl⟩
      simp [there]
  | case3 c rest other ih =>
      have free : ¬ separator <+: c :: rest := by
        rintro ⟨later, same⟩
        simp only [separator, List.cons_append, List.cons.injEq] at same
        exact other later same.1.symm same.2.symm
      rw [List.infix_cons_iff, not_or, ← ih]
      obtain ⟨first, others, found⟩ := exists_items_eq_cons rest
      simp [found, free]

/-! ## Cookies -/

theorem ofItem_eq_iff :
    ofItem (name.toList ++ '=' :: value.toList) = (name, some value) ↔ '=' ∉ name.toList := by
  constructor
  · intro read member
    have first : String.ofList (Text.splitFirst '=' _).1 = name := congrArg Prod.fst read
    have kept := congrArg String.toList first
    rw [String.toList_ofList, Text.splitFirst] at kept
    rw [← kept] at member
    simpa using List.all_eq_true.mp List.all_takeWhile _ member
  · intro free
    have other : ∀ c ∈ name.toList, (c != '=') = true := by
      intro c member
      exact bne_iff_ne.mpr fun same => free (same ▸ member)
    rw [ofItem, Text.splitFirst, List.takeWhile_append_of_pos other,
      List.dropWhile_append_of_pos other]
    simp

/-- A cookie is read as it was given if it is cut in two nowhere but behind its name. -/
theorem ofHeader_cookieText_iff : ofHeader (cookieText cookie) = [sent cookie] ↔ Uncut cookie := by
  have written : (cookieText cookie).toList =
      cookie.1.toList ++ '=' :: (headerText cookie.2).toList := by
    simp [cookieText]
  have sides : separator <:+: (cookieText cookie).toList ↔
      separator <:+: cookie.1.toList ∨ separator <:+: (headerText cookie.2).toList := by
    rw [written]
    exact Text.infix_append_cons_iff (by decide) (by decide)
  rw [Uncut, ← not_or, ← sides, ← items_eq_singleton_iff, ofHeader]
  constructor
  · intro h
    obtain ⟨item, alone, read⟩ := List.map_eq_singleton_iff.mp h
    have whole := intercalate_items (cookieText cookie).toList
    rw [alone, List.intercalate_singleton] at whole
    rw [whole, written] at read
    exact ⟨ofItem_eq_iff.mp read, whole ▸ alone⟩
  · rintro ⟨free, alone⟩
    rw [alone, List.map_singleton, written]
    exact congrArg ([·]) (ofItem_eq_iff.mpr free)

theorem ofHeader_intercalate {texts : List String} (some' : texts ≠ []) :
    ofHeader ("; ".intercalate texts) = texts.flatMap ofHeader := by
  induction texts with
  | nil => exact absurd rfl some'
  | cons text rest ih =>
      cases rest with
      | nil => simp
      | cons next others =>
          have joined : ("; ".intercalate (text :: next :: others)).toList =
              text.toList ++ separator ++ ("; ".intercalate (next :: others)).toList := by
            simp only [String.toList_intercalate, List.map_cons, List.intercalate_cons_cons]
            rfl
          rw [ofHeader, joined, items_append, List.map_append, List.flatMap_cons,
            ← ih (List.cons_ne_nil _ _)]
          rfl

theorem ofHeader_ne_nil (header : String) : ofHeader header ≠ [] := by
  obtain ⟨first, others, found⟩ := exists_items_eq_cons header.toList
  rw [ofHeader, found]
  exact List.cons_ne_nil _ _

section Counting

variable {α β : Type} {f : α -> List β}

theorem length_le_length_flatMap (some' : ∀ a, f a ≠ []) (as : List α) :
    as.length ≤ (as.flatMap f).length := by
  induction as with
  | nil => exact Nat.le_refl 0
  | cons a rest ih =>
      have first := List.length_pos_iff.mpr (some' a)
      rw [List.flatMap_cons, List.length_cons, List.length_append]
      omega

theorem flatMap_eq_map_iff (some' : ∀ a, f a ≠ []) (g : α -> β) (as : List α) :
    as.flatMap f = as.map g ↔ ∀ a ∈ as, f a = [g a] := by
  constructor
  · intro h
    induction as with
    | nil => simp
    | cons a rest ih =>
        obtain ⟨b, more, first⟩ := List.exists_cons_of_ne_nil (some' a)
        rw [List.flatMap_cons, List.map_cons, first, List.cons_append, List.cons.injEq] at h
        -- The rest gives as many already as are left, so the first gives no more than one.
        have longer : rest.length ≤ (rest.flatMap f).length :=
          length_le_length_flatMap some' rest
        have lengths := congrArg List.length h.2
        rw [List.length_append, List.length_map] at lengths
        have none : more = [] := List.eq_nil_of_length_eq_zero (by omega)
        rw [none, List.nil_append] at h
        rw [List.forall_mem_cons, first, none, h.1]
        exact ⟨rfl, ih h.2⟩
  · intro h
    rw [List.flatMap_def, List.map_congr_left h, ← List.flatMap_def, ← List.map_eq_flatMap]

end Counting

end Cookie

namespace Request

open Cookie

variable {arguments : Entries Json} {parameters : List Parameter} {draft draft' : Draft}

/-! ## Writing -/

/-- Without cookies there is no header for them, else all of them are in it, in their order. -/
theorem Draft.fill_cookies (named : Named parameters)
    (h : Draft.fill arguments parameters draft = .ok draft')
    (unset : draft.headers.lookup cookieHeader = none)
    (others : cookieHeader ∉ (givenAt .header arguments parameters).map Prod.fst) :
    draft'.headers.lookup cookieHeader =
      if cookies arguments parameters = [] then none
      else some ("; ".intercalate (cookies arguments parameters)) := by
  induction parameters generalizing draft with
  | nil =>
      rw [← Except.ok.inj h, unset]
      rfl
  | cons parameter rest ih =>
      obtain ⟨middle, step, later⟩ := fill_cons.mp h
      obtain ⟨called, isCalled⟩ := named _ List.mem_cons_self
      have named' : Named rest := fun _ later => named _ (List.mem_cons_of_mem _ later)
      rcases step_cases isCalled step with ⟨none, rfl⟩ | ⟨value, given, takes⟩
      · rw [givenAt_cons_of_none none] at others
        rw [cookies, givenAt_cons_of_none none]
        exact ih named' later unset others
      · have headers := takes.headers
        rw [givenAt_cons_of_some given] at others
        rw [cookies, givenAt_cons_of_some given]
        cases place : parameter.location with
        | cookie =>
            rw [place] at headers others
            rw [if_neg (by decide), if_pos rfl] at headers
            rw [if_neg (by decide)] at others
            -- Later cookies come behind the first one.
            have first : middle.headers.lookup cookieHeader =
                some ("; ".intercalate [cookieText (called, value)]) := by
              rw [headers, Draft.addCookie, unset, Entries.lookup_put_self]
              rw [String.intercalate_singleton]
            rw [fill_headers named' later (List.cons_ne_nil _ _) first others, if_pos rfl]
            rfl
        | header =>
            rw [place] at headers others
            rw [if_pos rfl, List.map_cons, List.mem_cons, not_or] at others
            refine ih named' later ?_ others.2
            rw [headers, if_pos rfl, Entries.lookup_put_of_ne others.1, unset]
        | path | query | body | formData =>
            rw [place] at headers others
            rw [if_neg (by decide)] at others
            refine ih named' later ?_ others
            rw [headers, if_neg (by decide), if_neg (by decide), unset]

/--
The header of all cookies is there if and only if a cookie is given, and what is
read from it is what is read from each given cookie by itself, in the order of the
parameters.  It is the list of their names and texts if and only if no name has an
equals sign and no name or text has a semicolon with a blank behind it.
-/
theorem request_cookies {endpoint : Endpoint} {request : Request}
    (named : Named endpoint.parameters)
    (others : ∀ parameter ∈ endpoint.parameters, parameter.location = .header ->
      parameter.name ≠ .text cookieHeader)
    (made : endpoint.request arguments = .ok request) :
    (request.headers.lookup cookieHeader = none ↔
      givenAt .cookie arguments endpoint.parameters = []) ∧
    ∀ header, request.headers.lookup cookieHeader = some header ->
      ofHeader header =
        (givenAt .cookie arguments endpoint.parameters).flatMap
          (fun cookie => ofHeader (cookieText cookie)) ∧
      (ofHeader header = (givenAt .cookie arguments endpoint.parameters).map sent ↔
        ∀ cookie ∈ givenAt .cookie arguments endpoint.parameters, Uncut cookie) := by
  obtain ⟨draft, filled, _, _, headers, _⟩ := request_ok made
  have free : cookieHeader ∉ (givenAt .header arguments endpoint.parameters).map Prod.fst := by
    intro member
    obtain ⟨⟨name, value⟩, among, called⟩ := List.mem_map.mp member
    obtain ⟨parameter, there, here, given⟩ := mem_givenAt.mp among
    exact others parameter there here ((given?_eq_some.mp given).1.trans (by rw [← called]))
  have written := Draft.fill_cookies named filled rfl free
  rw [← headers, cookies] at written
  refine ⟨?_, fun header found => ?_⟩
  · rw [written]
    simp
  · rw [written] at found
    split at found
    · cases found
    · rename_i some'
      have read : ofHeader header = (givenAt .cookie arguments endpoint.parameters).flatMap
          fun cookie => ofHeader (cookieText cookie) := by
        rw [← Option.some.inj found, ofHeader_intercalate some', List.flatMap_map]
      refine ⟨read, ?_⟩
      rw [read, flatMap_eq_map_iff fun _ => ofHeader_ne_nil _]
      simp only [ofHeader_cookieText_iff]

/-- A parameter for a cookie that is a text. -/
def cookieParameter (name : String) : Parameter where
  name := .text name
  location := .cookie
  schema := ⟨.scalar ⟨0, none, .text ""⟩ .string, #[]⟩
  required := false
  description := .text ""

def account : Endpoint where
  operationId := .text "account"
  method := some .get
  path := some "/account"
  mutation := false
  description := .text ""
  response := none
  parameters := [cookieParameter "theme", cookieParameter "session"]
  baseUrl := .text ""

/-- The value of one cookie brings another one along, which no parameter stands for. -/
theorem request_cookies_account :
    ∃ request header,
      account.request [("session", .text "1; admin=1"), ("theme", .text "a=b")] = .ok request ∧
      request.headers.lookup cookieHeader = some header ∧
      ofHeader header = [("theme", some "a=b"), ("session", some "1"), ("admin", some "1")] ∧
      ofHeader header ≠ [("theme", some "a=b"), ("session", some "1; admin=1")] := by
  have shown : (account.request [("session", .text "1; admin=1"),
      ("theme", .text "a=b")]).toOption.any fun request =>
        request.headers == [(cookieHeader, "theme=a=b; session=1; admin=1")] := by decide +kernel
  obtain ⟨request, made, headers⟩ := Steps.ok_of_toOption shown
  have found : request.headers.lookup cookieHeader = some "theme=a=b; session=1; admin=1" := by
    rw [beq_iff_eq.mp headers]
    rfl
  have named : Named account.parameters := by
    intro parameter among
    simp only [account, List.mem_cons, List.not_mem_nil, or_false] at among
    rcases among with rfl | rfl <;> exact ⟨_, rfl⟩
  have others : ∀ parameter ∈ account.parameters, parameter.location = .header ->
      parameter.name ≠ .text cookieHeader := by
    intro parameter among
    simp only [account, List.mem_cons, List.not_mem_nil, or_false] at among
    rcases among with rfl | rfl <;> exact nofun
  have given : givenAt .cookie [("session", .text "1; admin=1"), ("theme", .text "a=b")]
      account.parameters = [("theme", .text "a=b"), ("session", .text "1; admin=1")] := by
    decide +kernel
  obtain ⟨read, whole⟩ := (request_cookies named others made).2 _ found
  rw [given] at read whole
  refine ⟨request, _, made, found, read.trans (by decide +kernel), fun same => ?_⟩
  exact absurd (whole.mp same) (by decide +kernel)

end Request

end GraphFacade
