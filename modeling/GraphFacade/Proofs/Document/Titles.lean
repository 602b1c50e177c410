import GraphFacade.Document.Title
import GraphFacade.Proofs.Document.Sharing
import GraphFacade.Proofs.Entries

/-!
# Which titles definitions get

A definition that is an object keeps its own title if that counts as true, and
is else given its key.  Nothing compares a key with the titles of the other
definitions, so two of them may end up with one title.
-/

namespace GraphFacade

namespace Title

/-! ## The definitions of a document -/

def schemas : Option Json -> Entries Json
  | some (.dict entries) => entries
  | _ => []

def componentSchemas : Option Json -> Entries Json
  | some (.dict entries) => schemas (entries.lookup "schemas")
  | _ => []

/-- The named definitions of a document. -/
def definitions : Json -> Entries Json
  | .dict entries =>
      if Entries.has "definitions" entries then
        schemas (entries.lookup "definitions")
      else
        componentSchemas (entries.lookup "components")
  | _ => []

def own? (entries : Entries Json) : Option Json :=
  (entries.lookup "title").filter Json.truthy

def titleOf (key : String) (entries : Entries Json) : Json :=
  (own? entries).getD (.text key)

variable {key : String} {entries entries' : Entries Json} {document titled : Json}

theorem own?_eq_some {title : Json} :
    own? entries = some title ↔ entries.lookup "title" = some title ∧ title.truthy := by
  simp [own?, Option.filter_eq_some_iff]

theorem assign_eq (key : String) (entries : Entries Json) :
    assign key (.dict entries) =
      match own? entries with
      | some _ => .dict entries
      | none => .dict (Entries.put "title" (.text key) entries) := by
  simp only [assign, own?]
  cases entries.lookup "title" with
  | none => rfl
  | some title => cases counts : title.truthy <;> simp [counts, Option.filter]

theorem assign_dict (key : String) (entries : Entries Json) :
    ∃ entries', assign key (.dict entries) = .dict entries' ∧
      entries'.lookup "title" = some (titleOf key entries) ∧
      ∀ other, other ≠ "title" -> entries'.lookup other = entries.lookup other := by
  rw [assign_eq]
  cases own : own? entries with
  | some title =>
      refine ⟨entries, rfl, ?_, fun _ _ => rfl⟩
      rw [titleOf, own]
      exact (own?_eq_some.mp own).1
  | none =>
      refine ⟨Entries.put "title" (.text key) entries, rfl, ?_, ?_⟩
      · rw [titleOf, own, Entries.lookup_put_self]
        rfl
      · exact fun other different => Entries.lookup_put_of_ne different _ _

/-! ## Giving titles to a whole document -/

def assignEach (definitions : Entries Json) : Entries Json :=
  definitions.map fun entry => (entry.1, assign entry.1 entry.2)

theorem update_eq_ok {f : Json -> Except Fault Json} (h : update key f entries = .ok entries') :
    entries'.map Prod.fst = entries.map Prod.fst ∧
      (entries.lookup key = none ∧ entries'.lookup key = none ∨
        ∃ value value', entries.lookup key = some value ∧ f value = .ok value' ∧
          entries'.lookup key = some value') := by
  unfold update at h
  cases found : entries.lookup key with
  | none =>
      rw [found] at h
      obtain rfl := Except.ok.inj h
      exact ⟨rfl, .inl ⟨rfl, found⟩⟩
  | some value =>
      rw [found] at h
      cases changed : f value with
      | error fault => simp [changed, bind, Except.bind] at h
      | ok value' =>
          simp only [changed, bind, Except.bind, pure, Except.pure, Except.ok.injEq] at h
          subst h
          have there : Entries.has key entries = true :=
            (Entries.has_iff _ _).mpr (List.mem_map_of_mem (Entries.mem_of_lookup found))
          have keys : (Entries.put key value' entries).map Prod.fst = entries.map Prod.fst := by
            rw [Entries.keys_put, there, if_pos rfl]
          exact ⟨keys, .inr ⟨value, value', rfl, changed, Entries.lookup_put_self _ _ _⟩⟩

/-- What is seen of an updated value is seen with its titles. -/
theorem view_update {f : Json -> Except Fault Json} {view : Option Json -> Entries Json}
    (nothing : view none = [])
    (step : ∀ {value value'}, f value = .ok value' ->
      view (some value') = assignEach (view (some value)))
    (h : update key f entries = .ok entries') :
    view (entries'.lookup key) = assignEach (view (entries.lookup key)) := by
  rcases (update_eq_ok h).2 with ⟨before, after⟩ | ⟨value, value', before, changed, after⟩
  · rw [before, after, nothing]
    rfl
  · rw [before, after, step changed]

theorem schemas_assignSection {value value' : Json} (h : assignSection value = .ok value') :
    schemas (some value') = assignEach (schemas (some value)) := by
  cases value with
  | dict entries =>
      rw [← Except.ok.inj h]
      rfl
  | _ =>
      simp only [assignSection] at h
      split at h
      · cases h
      · rw [← Except.ok.inj h]
        rfl

theorem componentSchemas_assignComponents {value value' : Json}
    (h : assignComponents value = .ok value') :
    componentSchemas (some value') = assignEach (componentSchemas (some value)) := by
  cases value with
  | dict entries =>
      cases changed : update "schemas" assignSection entries with
      | error fault => simp [assignComponents, changed, bind, Except.bind] at h
      | ok entries' =>
          simp only [assignComponents, changed, bind, Except.bind, pure, Except.pure,
            Except.ok.injEq] at h
          rw [← h]
          exact view_update rfl schemas_assignSection changed
  | _ =>
      simp only [assignComponents] at h
      split at h
      · cases h
      · rw [← Except.ok.inj h]
        rfl

theorem definitions_assignAll (h : assignAll document = .ok titled) :
    definitions titled = assignEach (definitions document) := by
  cases document with
  | list items => cases h
  | atom value => cases value <;> cases h
  | dict entries =>
      have kept : ∀ {key f entries'}, update key f entries = .ok entries' ->
          Entries.has "definitions" entries' = Entries.has "definitions" entries := by
        intro key f entries' changed
        rw [Bool.eq_iff_iff, Entries.has_iff, Entries.has_iff, (update_eq_ok changed).1]
      cases there : Entries.has "definitions" entries with
      | true =>
          cases changed : update "definitions" assignSection entries with
          | error fault => simp [assignAll, there, changed, bind, Except.bind] at h
          | ok entries' =>
              simp only [assignAll, there, ↓reduceIte, changed, bind, Except.bind, pure,
                Except.pure, Except.ok.injEq] at h
              rw [← h, definitions, definitions, kept changed, there]
              exact view_update rfl schemas_assignSection changed
      | false =>
          cases changed : update "components" assignComponents entries with
          | error fault => simp [assignAll, there, changed, bind, Except.bind] at h
          | ok entries' =>
              simp only [assignAll, there, Bool.false_eq_true, ↓reduceIte, changed, bind,
                Except.bind, pure, Except.pure, Except.ok.injEq] at h
              rw [← h, definitions, definitions, kept changed, there]
              exact view_update rfl componentSchemas_assignComponents changed

/-! ## Which titles are equal -/

theorem truthy_titleOf (key : String) (entries : Entries Json) :
    (titleOf key entries).truthy ↔ own? entries ≠ none ∨ key ≠ "" := by
  unfold titleOf
  cases own : own? entries with
  | some title => simp [(own?_eq_some.mp own).2]
  | none => simp [Json.truthy, Atom.truthy]

/--
Two definitions have one title if they have it of their own, or if it is the key
of one of them, which has none, and the other's own.
-/
theorem titleOf_eq_iff {first second : String} {entries entries' : Entries Json}
    (different : first ≠ second) :
    titleOf first entries = titleOf second entries' ↔
      (own? entries ≠ none ∧ own? entries = own? entries') ∨
      (own? entries = some (.text second) ∧ own? entries' = none) ∨
      (own? entries = none ∧ own? entries' = some (.text first)) := by
  unfold titleOf
  cases own? entries <;> cases own? entries' <;> simp [different, eq_comm]

end Title

theorem Graph.eq_atom_of_form? {g : Graph} {value : Value} {a : Atom}
    (h : g.form? value = some (.atom a)) : value = .atom a := by
  cases value with
  | atom b =>
      simp only [Graph.form?, Option.some.injEq, Form.atom.injEq] at h
      rw [h]
  | cell id =>
      obtain ⟨cell, _, same⟩ := Option.map_eq_some_iff.mp h
      cases cell <;> cases same

namespace Resolution

variable {document : Json} {resolved : Document}

/--
Wherever a document arrives at what stands for a dictionary, the resolved
document has a cell there that has, under the same keys, what the dictionary's
values stand for.
-/
theorem resolve_lookup (h : Document.resolve document = .ok resolved) {path : List Branch}
    {last : Json} {entries : Entries Json} (arrives : Arrives document document path last)
    (stands : Stands document last (.dict entries)) {key : String} {value : Json}
    (found : entries.lookup key = some value) {shown : Value}
    (there : resolved.graph.at? resolved.root path = some shown) :
    ∃ filled below target, resolved.graph.entries? shown = some filled ∧
      filled.lookup key = some below ∧ Stands document value target ∧
      resolved.graph.form? below = some target.form := by
  obtain ⟨origins, s, same, sound, root⟩ := resolve_sound h
  obtain ⟨shown', reached, shows'⟩ := arrives.at? sound root
  rw [same, there, Option.some.injEq] at reached
  subst reached
  obtain ⟨target, stands', _, parts⟩ := shows'.stands sound
  obtain rfl := stands.unique stands'
  have related := parts (.key key)
  simp only [Json.part?, found, Graph.part?, same] at related
  cases cell : resolved.graph.cell? shown with
  | none => simp [cell] at related
  | some found' =>
      cases found' with
      | list items => simp [cell, Cell.part?] at related
      | dict filled =>
          simp only [cell, Option.bind_some, Cell.part?] at related
          cases under : filled.lookup key with
          | none => simp [under] at related
          | some below =>
              rw [under] at related
              cases related with
              | some shows'' =>
                  obtain ⟨target, stands'', form, _⟩ := shows''.stands sound
                  exact ⟨filled, below, target, by simp [Graph.entries?, cell], under, stands'',
                    same ▸ form⟩

/-- Atoms are the same there. -/
theorem resolve_entry (h : Document.resolve document = .ok resolved) {path : List Branch}
    {last : Json} {entries : Entries Json} (arrives : Arrives document document path last)
    (stands : Stands document last (.dict entries)) {key : String} {a : Atom}
    (found : entries.lookup key = some (.atom a)) {shown : Value}
    (there : resolved.graph.at? resolved.root path = some shown) :
    ∃ filled, resolved.graph.entries? shown = some filled ∧
      filled.lookup key = some (.atom a) := by
  obtain ⟨filled, below, target, cell, under, stands', form⟩ :=
    resolve_lookup h arrives stands found there
  obtain rfl : target = .atom a := stands'.unique (.own rfl)
  obtain rfl := Graph.eq_atom_of_form? form
  exact ⟨filled, cell, under⟩

end Resolution

end GraphFacade
