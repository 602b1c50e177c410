import GraphFacade.Proofs.Document.Origins

/-!
# Resolved documents are their expansions

Along every path, of any length, a resolved document and the expansion of the
document it was made from show the same; and wherever one reference was
followed stands one and the same value.
-/

namespace GraphFacade

namespace Resolution

variable {document : Json} {origins : List Json} {s : State}

/-! ## From origins to paths -/

theorem lookup_rel {α β : Type} {R : α -> β -> Prop} {entries : List (String × α)}
    {filled : List (String × β)} (keys : filled.map Prod.fst = entries.map Prod.fst)
    (parts : List.Forall₂ R (entries.map Prod.snd) (filled.map Prod.snd)) (name : String) :
    Option.Rel R (entries.lookup name) (filled.lookup name) := by
  induction entries generalizing filled with
  | nil =>
      cases filled with
      | nil => exact .none
      | cons => simp at keys
  | cons entry rest ih =>
      cases filled with
      | nil => simp at keys
      | cons other others =>
          rcases entry with ⟨key, part⟩
          rcases other with ⟨key', part'⟩
          simp only [List.map_cons, List.cons.injEq] at keys
          obtain ⟨rfl, keys⟩ := keys
          simp only [List.map_cons, List.forall₂_cons] at parts
          by_cases here : name = key'
          · subst here
            simpa using Option.Rel.some parts.1
          · simpa [List.lookup_cons, beq_false_of_ne here] using ih keys parts.2

theorem getElem?_rel {α β : Type} {R : α -> β -> Prop} {items : List α} {values : List β}
    (parts : List.Forall₂ R items values) (index : Nat) :
    Option.Rel R items[index]? values[index]? := by
  induction parts generalizing index with
  | nil => exact .none
  | cons part _ ih =>
      cases index with
      | zero => exact .some part
      | succ index => simpa using ih index

theorem Mirrors.form {known : List (String × Value)} {shown : Json} {cell : Cell}
    (h : Mirrors document origins known shown cell) : cell.form = shown.form := by
  cases h with
  | list parts => simp [Cell.form, Json.form, parts.length_eq]
  | dict keys _ => simp [Cell.form, Json.form, keys]

theorem Mirrors.part? {known : List (String × Value)} {shown : Json} {cell : Cell}
    (h : Mirrors document origins known shown cell) (branch : Branch) :
    Option.Rel (Shows document origins known) (shown.part? branch) (cell.part? branch) := by
  cases h with
  | list parts =>
      cases branch with
      | key name => exact .none
      | place index => exact getElem?_rel parts index
  | dict keys parts =>
      cases branch with
      | key name => exact lookup_rel keys parts name
      | place index => exact .none

/-- A value shows what its origin stands for: by its form, and part by part. -/
theorem Shows.stands (sound : Sound document origins [] s) {value : Json} {shown : Value}
    (h : Shows document origins s.resolved value shown) :
    ∃ target, Stands document value target ∧ s.graph.form? shown = some target.form ∧
      ∀ branch, Option.Rel (Shows document origins s.resolved) (target.part? branch)
        (s.graph.part? shown branch) := by
  induction h with
  | atom a => exact ⟨.atom a, .own rfl, rfl, fun branch => by cases branch <;> exact .none⟩
  | @cell target id origin plain =>
      obtain ⟨cell, there, mirrors⟩ := sound.mirrored origin List.not_mem_nil
      refine ⟨target, .own plain, ?_, fun branch => ?_⟩
      · simp [Graph.form?, Graph.cell?, there, mirrors.form]
      · simpa [Graph.part?, Graph.cell?, there] using mirrors.part? branch
  | shared refers names _ _ ih =>
      obtain ⟨target, stands, looks⟩ := ih
      exact ⟨target, .follow refers names stands, looks⟩

theorem Follows.found {value : Json} {reference : String} (h : Follows document value reference)
    {shown : Value} (shows' : Shows document origins s.resolved value shown) :
    s.resolved.lookup reference = some shown := by
  induction h with
  | first refers =>
      cases shows' with
      | atom => simp [referenceOf?] at refers
      | cell _ plain => simp [plain] at refers
      | shared refers' _ found _ =>
          rw [refers, Option.some.injEq] at refers'
          rw [refers']
          exact found
  | later refers names _ ih =>
      cases shows' with
      | atom => simp [referenceOf?] at refers
      | cell _ plain => simp [plain] at refers
      | shared refers' names' _ rest =>
          rw [refers, Option.some.injEq] at refers'
          subst refers'
          rw [names, Option.some.injEq] at names'
          subst names'
          exact ih rest

/-- A path into the expansion leads to a value of the graph that shows the one arrived at. -/
theorem Arrives.at? (sound : Sound document origins [] s) {value last : Json}
    {path : List Branch} (h : Arrives document value path last) {shown : Value}
    (shows' : Shows document origins s.resolved value shown) :
    ∃ found, s.graph.at? shown path = some found ∧
      Shows document origins s.resolved last found := by
  induction h generalizing shown with
  | here => exact ⟨shown, rfl, shows'⟩
  | @down _ target part _ branch _ stands step _ ih =>
      obtain ⟨target', stands', _, parts⟩ := shows'.stands sound
      obtain rfl := stands.unique stands'
      have related := parts branch
      rw [step] at related
      cases found : s.graph.part? shown branch with
      | none => simp [found] at related
      | some below =>
          rw [found] at related
          cases related with
          | some related =>
              obtain ⟨last', reached, showsLast⟩ := ih related
              exact ⟨last', by simp [Graph.at?, found, reached], showsLast⟩

/-- A path into the graph leads into the expansion as well. -/
theorem arrives_of_at? (sound : Sound document origins [] s) {path : List Branch}
    {value : Json} {shown found : Value}
    (shows' : Shows document origins s.resolved value shown)
    (h : s.graph.at? shown path = some found) :
    ∃ last, Arrives document value path last ∧
      Shows document origins s.resolved last found := by
  induction path generalizing value shown with
  | nil =>
      simp only [Graph.at?, Option.some.injEq] at h
      subst h
      exact ⟨value, .here value, shows'⟩
  | cons branch rest ih =>
      obtain ⟨target, stands, _, parts⟩ := shows'.stands sound
      have related := parts branch
      simp only [Graph.at?, Option.bind_eq_some_iff] at h
      obtain ⟨below, step, further⟩ := h
      rw [step] at related
      cases there : target.part? branch with
      | none => simp [there] at related
      | some part =>
          rw [there] at related
          cases related with
          | some related =>
              obtain ⟨last, arrives, showsLast⟩ := ih related further
              exact ⟨last, .down stands there arrives, showsLast⟩

/-! ## The resolved document -/

/-- What a resolved document comes with: origins of its cells, none of them busy. -/
theorem resolve_sound {resolved : Document} (h : Document.resolve document = .ok resolved) :
    ∃ origins s, s.graph = resolved.graph ∧ Sound document origins [] s ∧
      Shows document origins s.resolved document resolved.root := by
  unfold Document.resolve at h
  split at h
  case h_2 => simp at h
  rename_i root s visited
  simp only [Except.ok.injEq] at h
  subst h
  have start : Sound document [] [] {} := by
    refine ⟨rfl, ?_, ?_, ?_⟩ <;> simp
  obtain ⟨origins, _, sound, shows'⟩ := visit_faithful document _ start visited
  exact ⟨origins, s, rfl, sound, shows'⟩

end Resolution

open Resolution

/--
A resolved document is the full expansion of the document it was made from.
Every path into the expansion is a path into the graph and shows the same at its
end, every path into the graph is one into the expansion, and two paths at whose
ends the same reference is followed end at one and the same value.
-/
theorem Document.resolve_expands {document : Json} {resolved : Document}
    (h : Document.resolve document = .ok resolved) :
    (∀ path last, Arrives document document path last ->
      ∃ shown target, resolved.graph.at? resolved.root path = some shown ∧
        Stands document last target ∧ resolved.graph.form? shown = some target.form) ∧
    (∀ path shown, resolved.graph.at? resolved.root path = some shown ->
      ∃ last target, Arrives document document path last ∧
        Stands document last target ∧ resolved.graph.form? shown = some target.form) ∧
    (∀ path path' last last' reference,
      Arrives document document path last -> Arrives document document path' last' ->
      Follows document last reference -> Follows document last' reference ->
      ∃ shown, resolved.graph.at? resolved.root path = some shown ∧
        resolved.graph.at? resolved.root path' = some shown) := by
  obtain ⟨origins, s, same, sound, root⟩ := resolve_sound h
  rw [← same]
  refine ⟨?_, ?_, ?_⟩
  · intro path last arrives
    obtain ⟨shown, reached, shows'⟩ := arrives.at? sound root
    obtain ⟨target, stands, form, _⟩ := shows'.stands sound
    exact ⟨shown, target, reached, stands, form⟩
  · intro path shown reached
    obtain ⟨last, arrives, shows'⟩ := arrives_of_at? sound root reached
    obtain ⟨target, stands, form, _⟩ := shows'.stands sound
    exact ⟨last, target, arrives, stands, form⟩
  · intro path path' last last' reference arrives arrives' follows follows'
    obtain ⟨shown, reached, shows'⟩ := arrives.at? sound root
    obtain ⟨other, reached', showsOther⟩ := arrives'.at? sound root
    have found := follows.found shows'
    rw [follows'.found showsOther, Option.some.injEq] at found
    exact ⟨shown, reached, found ▸ reached'⟩

/-- Two schemas that lead to each other, one of them through a name of its own and a list. -/
def ring : Json :=
  .dict [
    ("start", .dict [("$ref", .text "#/A")]),
    ("A", .dict [("next", .dict [("$ref", .text "#/also B")])]),
    ("also B", .dict [("$ref", .text "#/B")]),
    ("B", .dict [("all", .dict [("$ref", .text "#/L")])]),
    ("L", .list [.dict [("$ref", .text "#/A")], .null])]

/-- A round through the ring ends where it began. -/
theorem Document.resolve_expands_ring :
    ∃ resolved, Document.resolve ring = .ok resolved ∧
      ∃ shown, resolved.graph.at? resolved.root [.key "start"] = some shown ∧
        resolved.graph.at? resolved.root
          [.key "start", .key "next", .key "all", .place 0] = some shown := by
  have again : Stands ring (.dict [("$ref", .text "#/A")])
      (.dict [("next", .dict [("$ref", .text "#/also B")])]) :=
    .follow rfl rfl (.own rfl)
  have next : Stands ring (.dict [("$ref", .text "#/also B")])
      (.dict [("all", .dict [("$ref", .text "#/L")])]) :=
    .follow rfl rfl (.follow rfl rfl (.own rfl))
  have all : Stands ring (.dict [("$ref", .text "#/L")])
      (.list [.dict [("$ref", .text "#/A")], .null]) :=
    .follow rfl rfl (.own rfl)
  have here : Follows ring (.dict [("$ref", .text "#/A")]) "#/A" := .first rfl
  obtain ⟨resolved, returns⟩ : ∃ resolved, Document.resolve ring = .ok resolved := by
    have isOk : (Document.resolve ring).isOk = true := by decide +kernel
    cases result : Document.resolve ring with
    | ok resolved => exact ⟨resolved, rfl⟩
    | error fault => simp [result, Except.isOk, Except.toBool] at isOk
  refine ⟨resolved, returns, (Document.resolve_expands returns).2.2 _ _ _ _ "#/A" ?_ ?_ here here⟩
  · exact .down (.own rfl) rfl (.here _)
  · exact .down (.own rfl) rfl (.down again rfl (.down next rfl (.down all rfl (.here _))))

end GraphFacade
