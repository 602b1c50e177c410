import GraphFacade.Building
import GraphFacade.Proofs.Endpoint.Describing
import GraphFacade.Proofs.Types.Assembling
import GraphFacade.Proofs.Types.Merging

/-!
# One type for all uses of a definition

Every endpoint and every parameter has a schema of its own, so the nodes that
are read from one definition have nothing in common but the title that the
definition was given.  That is enough, unless the title turns out to count as
false only after references are resolved.
-/

namespace GraphFacade

open Steps

/-! ## Titles of nodes -/

/-- Whether a value of a form counts as true. -/
def Form.truthy : Form -> Bool
  | atom a => a.truthy
  | list length => length != 0
  | dict keys => !keys.isEmpty

theorem Json.truthy_form (j : Json) : j.form.truthy = j.truthy := by
  cases j with
  | atom a => rfl
  | list items => cases items <;> rfl
  | dict entries => cases entries <;> rfl

theorem Graph.truthy_of_form? {g : Graph} {value : Value} {form : Form}
    (h : g.form? value = some form) : g.truthy value = form.truthy := by
  cases value with
  | atom a =>
      rw [← Option.some.inj h]
      rfl
  | cell id =>
      obtain ⟨cell, there, rfl⟩ := Option.map_eq_some_iff.mp h
      replace there : g.cells[id]? = some cell := there
      rw [Graph.truthy, there]
      cases cell with
      | list items => cases items <;> rfl
      | dict entries => cases entries <;> rfl

theorem Graph.tree?_cell (g : Graph) (id : Nat) (a : Atom) : g.tree? (.cell id) ≠ some (.atom a) := by
  intro h
  rw [Graph.tree?, Graph.treeWithin?, if_neg (by simp)] at h
  split at h
  · obtain ⟨_, _, same⟩ := Option.map_eq_some_iff.mp h
    cases same
  · obtain ⟨_, _, same⟩ := Option.map_eq_some_iff.mp h
    cases same
  · cases h

namespace Schema

namespace Reading

variable {g : Graph} {shown : Value} {target : Json}

theorem title?_of_form? (h : g.form? shown = some target.form) :
    (title? g shown = none ↔ target.truthy = false) ∧
      ∀ title, title? g shown = some (.text title) -> target = .text title := by
  have counts : g.truthy shown = target.truthy := by
    rw [Graph.truthy_of_form? h, Json.truthy_form]
  unfold title?
  rw [counts]
  refine ⟨by cases target.truthy <;> simp, fun title given => ?_⟩
  split at given
  · rw [Option.some.injEq] at given
    cases shown with
    | atom a =>
        obtain rfl : a = .text title := by simpa [Graph.tree?, Graph.treeWithin?] using given
        cases target <;> cases h
        rfl
    | cell id =>
        cases finite : g.tree? (.cell id) with
        | none => simp [finite] at given
        | some tree =>
            rw [finite, Option.getD_some] at given
            exact absurd (given ▸ finite) (g.tree?_cell id _)
  · cases given

end Reading

def ReadAt (g : Graph) (schema : Schema) (cell : Nat) (node : Node) : Prop :=
  ∃ value s, (Reading.read g (Reading.fuelFor g) value).run {} = .ok schema.root s ∧
    s.shapes = schema.shapes ∧ (cell, node) ∈ s.seen

theorem ReadAt.carries {g : Graph} {schema : Schema} {cell : Nat} {node : Node}
    (h : ReadAt g schema cell node) : Reading.Carries g cell node := by
  obtain ⟨value, s, ended, _, member⟩ := h
  exact Reads.carries ⟨value, schema.root, s, ended, member⟩

end Schema

namespace Title

open Resolution Mapping Registry

variable {document titled : Json} {resolved : Document} {key : String} {entries : Entries Json}

/--
A node that was visited is a use of a definition: at a place of the document that
stands for the definition, the resolved document has the cell that the node was
read from.
-/
def Uses (titled : Json) (resolved : Document) (definition : Json) (visit : Visit) : Prop :=
  ∃ path last cell g, Arrives titled titled path last ∧ Stands titled last definition ∧
    resolved.graph.at? resolved.root path = some (.cell cell) ∧ resolved.Offers g ∧
    visit.schema.ReadAt g cell visit.node

/-- The title of a use is what the title of the definition stands for. -/
theorem Uses.title {visit : Visit} (h : Uses titled resolved (assign key (.dict entries)) visit)
    (resolves : Document.resolve titled = .ok resolved) :
    ∃ target, Stands titled (titleOf key entries) target ∧
      (visit.Untitled ↔ target.truthy = false) ∧
      ∀ title, visit.node.label.title = some (.text title) -> target = .text title := by
  obtain ⟨path, last, cell, g, arrives, stands, there, offers, read⟩ := h
  obtain ⟨entries', assigned, found, _⟩ := assign_dict key entries
  rw [assigned] at stands
  obtain ⟨filled, shown, target, cellOf, under, stands', form⟩ :=
    resolve_lookup resolves arrives stands found there
  obtain ⟨filled', cellOf', carries⟩ := read.carries
  obtain rfl := Option.some.inj ((offers.entries? cellOf).symm.trans cellOf')
  rw [Schema.Reading.entry, under, Option.getD_some] at carries
  rw [Visit.Untitled, carries]
  exact ⟨target, stands', Schema.Reading.title?_of_form? (offers.form? form)⟩

/-- Uses of one definition share a type if its title counts as true, or if they are one node. -/
theorem Uses.shared_iff {r : Registry} {visits : List Visit} {visit other : Visit} {ref : TypeRef}
    (recorded : Recorded r visits) (orderly : Orderly r)
    (resolves : Document.resolve titled = .ok resolved) (member : visit ∈ visits)
    (member' : other ∈ visits) (uses : Uses titled resolved (assign key (.dict entries)) visit)
    (uses' : Uses titled resolved (assign key (.dict entries)) other)
    (role : other.key.role = visit.key.role) (found : r.get? visit.key = some ref) :
    r.get? other.key = some ref ↔
      (∃ target, Stands titled (titleOf key entries) target ∧ target.truthy) ∨
        other.id = visit.id := by
  obtain ⟨target, stands, untitled, text⟩ := uses.title resolves
  obtain ⟨target', stands', untitled', text'⟩ := uses'.title resolves
  obtain rfl := stands.unique stands'
  rw [recorded.shared_iff orderly member' member found, and_iff_left role]
  cases counts : target.truthy with
  | true =>
      have own := text _ (recorded.own_title member (by simp [untitled, counts]))
      have own' := text' _ (recorded.own_title member' (by simp [untitled', counts]))
      have same : Json.text other.key.title = .text visit.key.title := own'.symm.trans own
      refine iff_of_true ?_ (.inl ⟨target, stands, counts⟩)
      simpa using same
  | false =>
      have none' := untitled.mpr counts
      have none'' := untitled'.mpr counts
      constructor
      · exact fun same => .inr (recorded.id_unique member' member none'' none' same)
      · rintro (⟨other', stands'', truthy⟩ | same)
        · rw [← stands.unique stands'', counts] at truthy
          cases truthy
        · have names := recorded.lookup_untitled member none'
          rw [← same, recorded.lookup_untitled member' none''] at names
          exact Option.some.inj names

end Title

/-- Endpoints are extracted from a document with its titles given and its references resolved. -/
theorem Building.endpoints_ok {settings : LazySettings} {document : Json} {base : Option Json}
    {endpoints : EndpointSet} {log log' : Log}
    (h : Building.endpoints settings document base log = .ok endpoints log') :
    ∃ titled resolved given log₀, Title.assignAll document = .ok titled ∧
      Document.resolve titled = .ok resolved ∧
      resolved.endpoints given log₀ = .ok endpoints log' := by
  unfold Building.endpoints at h
  obtain ⟨checked, log₁, object, h⟩ := bind_eq_ok.mp h
  obtain ⟨titled, log₂, titles, h⟩ := bind_eq_ok.mp h
  obtain ⟨resolved, log₃, resolves, h⟩ := bind_eq_ok.mp h
  have same : checked = document := by
    replace object := (ofExcept_eq_ok.mp object).1
    cases document <;> cases object
    rfl
  obtain ⟨given, log₄, h⟩ : ∃ given log₀, resolved.endpoints given log₀ = .ok endpoints log' := by
    cases base with
    | some base => exact ⟨some base, log₃, h⟩
    | none =>
        obtain ⟨chosen, log₄, _, h⟩ := bind_eq_ok.mp h
        exact ⟨_, log₄, h⟩
  exact ⟨titled, resolved, given, log₄, same ▸ (ofExcept_eq_ok.mp titles).1,
    (ofExcept_eq_ok.mp resolves).1, h⟩

namespace Title

open Resolution Mapping

/--
When a facade is made of a document, every schema that is mapped is read from the
resolved document.  All uses of a named definition that serve one role have one
and the same type, provided that the title of the definition counts as true;
else only a node and itself do.  A title that was not given as a reference counts
as true, as does that of a definition which had none, unless its key is empty.
-/
theorem definition_shared {settings : Building.LazySettings} {document : Json}
    {base : Option Json} {endpoints : EndpointSet} {facade : Facade} {log log₁ log₂ : Log}
    (found : Building.endpoints settings document base log = .ok endpoints log₁)
    (made : Assembly.single endpoints log₁ = .ok facade log₂) :
    ∃ titled resolved r, assignAll document = .ok titled ∧
      Document.resolve titled = .ok resolved ∧ facade.realms = [r] ∧
      (∀ entry ∈ endpoints, ∀ call ∈ Assembly.callsOf entry, resolved.Describes call.schema) ∧
      (∃ visits, Assembly.Visited none endpoints visits r) ∧
      ∀ visits, Assembly.Visited none endpoints visits r ->
        ∀ key entries, (key, .dict entries) ∈ definitions document ->
          ∀ visit ∈ visits, ∀ other ∈ visits,
            Uses titled resolved (assign key (.dict entries)) visit ->
            Uses titled resolved (assign key (.dict entries)) other ->
            other.key.role = visit.key.role ->
            ∃ ref, visit.type? r = some ref ∧
              (other.type? r = some ref ↔
                (∃ target, Stands titled (titleOf key entries) target ∧ target.truthy) ∨
                  other.id = visit.id) ∧
              (key ≠ "" -> referenceOf? (titleOf key entries) = none ->
                other.type? r = some ref) := by
  obtain ⟨r, visits, realm, visited⟩ := Assembly.single_visited made
  obtain ⟨titled, resolved, given, log₀, titles, resolves, found⟩ := Building.endpoints_ok found
  refine ⟨titled, resolved, r, titles, resolves, realm, ?_, ⟨visits, visited⟩, ?_⟩
  · intro entry among
    obtain ⟨response, parameters⟩ := Extraction.endpoints_describe found among
    exact Assembly.forall_mem_callsOf response parameters
  · rintro visits ⟨order, moved, history⟩ key entries _ visit member other member' uses uses' role
    have recorded := history.attempts.recorded (recorded_new none)
    have orderly := history.attempts.orderly (Registry.orderly_new none)
    obtain ⟨ref, registered⟩ := history.registered visit member
    rw [recorded.type?_eq member (history.roles visit member),
      recorded.type?_eq member' (history.roles other member')]
    have shared := Uses.shared_iff recorded orderly resolves member member' uses uses' role registered
    refine ⟨ref, registered, shared, fun nonempty plain => shared.mpr (.inl ⟨_, .own plain, ?_⟩)⟩
    exact (truthy_titleOf key entries).mpr (.inr nonempty)

def person (title : Json) : Entries Json :=
  [("type", .text "object"), ("title", title),
    ("properties", .dict [("name", .dict [("type", .text "string")])])]

def refer (reference : String) : Json :=
  .dict [("$ref", .text reference)]

def byPerson (name reference : String) : Json :=
  .dict [("name", .text name), ("in", .text "query"), ("schema", refer reference)]

/--
Four persons to search by.  An author and an editor, who is one by another name,
have a title; a reader and a lender have one that is said elsewhere to be empty.
-/
def searches : List Json :=
  [byPerson "author" "#/definitions/Person", byPerson "editor" "#/definitions/Editor",
    byPerson "reader" "#/definitions/Reader", byPerson "lender" "#/definitions/Reader"]

def library : Json :=
  .dict [
    ("paths", .dict [("/books", .dict [("get", .dict [
      ("operationId", .text "search"), ("parameters", .list searches)])])]),
    ("definitions", .dict [("Person", .dict (person (.text "Human"))),
      ("Editor", refer "#/definitions/Person"),
      ("Reader", .dict (person (refer "#/info/title")))]),
    ("info", .dict [("title", .text "")])]

def sought (index : Nat) : String × Entries Json :=
  if index < 2 then ("Person", person (.text "Human"))
  else ("Reader", person (refer "#/info/title"))

def searchedBy (index : Nat) : List Branch :=
  [.key "paths", .key "/books", .key "get", .key "parameters", .place index, .key "schema"]

/-- Whether a schema is what is read at a place of a document. -/
def readThere (d : Document) (path : List Branch) (schema : Schema) : Bool :=
  match d.graph.at? d.root path with
  | some (.cell cell) =>
      (returned? ((Schema.Reading.read d.graph (Schema.Reading.fuelFor d.graph) (.cell cell)).run
        {})).any fun found =>
          found.1 = schema.root && found.2.shapes = schema.shapes &&
            (cell, schema.root) ∈ found.2.seen
  | _ => false

theorem readAt_of_readThere {d : Document} {path : List Branch} {schema : Schema}
    (h : readThere d path schema) :
    ∃ cell, d.graph.at? d.root path = some (.cell cell) ∧
      schema.ReadAt d.graph cell schema.root := by
  unfold readThere at h
  split at h
  · rename_i cell there
    obtain ⟨root, s, ended, same⟩ := ok_of_returned h
    simp only [Bool.and_eq_true, decide_eq_true_eq] at same
    obtain ⟨⟨rfl, shapes⟩, member⟩ := same
    exact ⟨cell, there, _, s, ended, shapes, member⟩
  · cases h

/-- The search becomes a facade, and its schemas are read where they stand. -/
theorem library_returns :
    ∃ titled resolved entry log facade log', assignAll library = .ok titled ∧
      Document.resolve titled = .ok resolved ∧
      Building.endpoints (.ok {}) library none #[] = .ok [entry] log ∧
      Assembly.single [entry] log = .ok facade log' ∧
      ∀ index < 4, ∃ parameter, entry.2.parameters[index]? = some parameter ∧
        role? parameter.schema true parameter.schema.root = some .input ∧
        readThere resolved (searchedBy index) parameter.schema := by
  have shown : (assignAll library).toOption.any fun titled =>
      (Document.resolve titled).toOption.any fun resolved =>
        (returned? (Building.endpoints (.ok {}) library none #[])).any fun found =>
          found.1.length = 1 && (returned? (Assembly.single found.1 found.2)).any fun _ =>
            found.1.all fun entry => (List.range 4).all fun index =>
              entry.2.parameters[index]?.any fun parameter =>
                role? parameter.schema true parameter.schema.root = some .input &&
                  readThere resolved (searchedBy index) parameter.schema := by
    decide +kernel
  obtain ⟨titled, titles, shown⟩ := ok_of_toOption shown
  obtain ⟨resolved, resolves, shown⟩ := ok_of_toOption shown
  obtain ⟨endpoints, log, found, shown⟩ := ok_of_returned shown
  obtain ⟨one, shown⟩ := (Bool.and_eq_true _ _).mp shown
  obtain ⟨facade, log', made, each⟩ := ok_of_returned shown
  obtain ⟨entry, rfl⟩ := List.length_eq_one_iff.mp (of_decide_eq_true one)
  refine ⟨titled, resolved, entry, log, facade, log', titles, resolves, found, made, ?_⟩
  intro index inside
  have there := List.all_eq_true.mp (List.all_eq_true.mp each entry List.mem_cons_self) index
    (List.mem_range.mpr inside)
  simpa [Option.any_eq_true] using there

/-- Every parameter of the search refers to a definition, one of them in two steps. -/
theorem library_arrives {titled : Json} (titles : assignAll library = .ok titled) {index : Nat}
    (inside : index < 4) :
    ∃ last, Arrives titled titled (searchedBy index) last ∧
      Stands titled last (assign (sought index).1 (.dict (sought index).2)) := by
  have path : ∀ {index : Nat} {name reference : String},
      searches[index]? = some (byPerson name reference) ->
      Arrives titled titled (searchedBy index) (refer reference) := by
    intro index name reference among
    obtain rfl := Except.ok.inj (titles.symm.trans rfl)
    have schema : (byPerson name reference).part? (.key "schema") = some (refer reference) := rfl
    have declared : (Json.list searches).part? (.place index) = some (byPerson name reference) :=
      among
    exact .down (.own rfl) rfl <| .down (.own rfl) rfl <| .down (.own rfl) rfl <|
      .down (.own rfl) rfl <| .down (.own rfl) declared <| .down (.own rfl) schema (.here _)
  have author : Stands titled (refer "#/definitions/Person")
      (assign (sought 0).1 (.dict (sought 0).2)) := by
    obtain rfl := Except.ok.inj (titles.symm.trans rfl)
    exact .follow rfl rfl (.own rfl)
  have editor : Stands titled (refer "#/definitions/Editor")
      (assign (sought 1).1 (.dict (sought 1).2)) := by
    obtain rfl := Except.ok.inj (titles.symm.trans rfl)
    exact .follow rfl rfl (.follow rfl rfl (.own rfl))
  have reader : Stands titled (refer "#/definitions/Reader")
      (assign (sought 2).1 (.dict (sought 2).2)) := by
    obtain rfl := Except.ok.inj (titles.symm.trans rfl)
    exact .follow rfl rfl (.own rfl)
  match index, inside with
  | 0, _ => exact ⟨_, path rfl, author⟩
  | 1, _ => exact ⟨_, path rfl, editor⟩
  | 2, _ | 3, _ => exact ⟨_, path rfl, reader⟩

/-- A use of the definition of a person is behind every parameter of the search. -/
theorem library_uses {titled : Json} {resolved : Document} {entry : Atom × Endpoint} {r : Registry}
    {visits : List Visit} (titles : assignAll library = .ok titled)
    (each : ∀ index < 4, ∃ parameter, entry.2.parameters[index]? = some parameter ∧
      role? parameter.schema true parameter.schema.root = some .input ∧
      readThere resolved (searchedBy index) parameter.schema)
    (visited : Assembly.Visited none [entry] visits r) :
    ∀ index < 4, ∃ visit ∈ visits, visit.origin.part = index + 1 ∧ visit.key.role = .input ∧
      Uses titled resolved (assign (sought index).1 (.dict (sought index).2)) visit := by
  intro index inside
  obtain ⟨parameter, among, named, there⟩ := each index inside
  obtain ⟨order, moved, history⟩ := visited
  obtain rfl := List.perm_singleton.mp moved
  have called : parameterCall entry.2.operationId entry.1 (index + 1)
      (parameter.argument?.getD "") parameter ∈ [entry].flatMap Assembly.callsOf := by
    rw [List.flatMap_singleton]
    refine List.mem_append_right _ (List.mem_map.mpr ⟨(parameter, index + 1), ?_, rfl⟩)
    rw [Nat.add_comm]
    exact List.mk_add_mem_zipIdx_iff_getElem?.mpr among
  obtain ⟨key, role, member⟩ := history.visits_root called named
  obtain ⟨cell, place, read⟩ := readAt_of_readThere there
  obtain ⟨last, arrives, stands⟩ := library_arrives titles inside
  exact ⟨_, member, rfl, role, _, last, cell, _, arrives, stands, place, .inl rfl, read⟩

/-- The author and the editor are of one type, and the two readers are not. -/
theorem definition_shared_library :
    ∃ endpoints log facade log' r visits,
      Building.endpoints (.ok {}) library none #[] = .ok endpoints log ∧
      Assembly.single endpoints log = .ok facade log' ∧ facade.realms = [r] ∧
      Assembly.Visited none endpoints visits r ∧
      ∃ author ∈ visits, ∃ editor ∈ visits, ∃ reader ∈ visits, ∃ lender ∈ visits,
        [author, editor, reader, lender].map (fun visit => visit.origin.part) = [1, 2, 3, 4] ∧
        author.type? r = editor.type? r ∧ reader.type? r ≠ lender.type? r := by
  obtain ⟨titled, resolved, entry, log, facade, log', titles, resolves, found, made, each⟩ :=
    library_returns
  obtain ⟨titled', resolved', r, titles', resolves', realm, _, ⟨visits, visited⟩, shares⟩ :=
    definition_shared found made
  obtain rfl := Except.ok.inj (titles.symm.trans titles')
  obtain rfl := Except.ok.inj (resolves.symm.trans resolves')
  have uses := library_uses titles each visited
  obtain ⟨author, member, part, role, use⟩ := uses 0 (by decide)
  obtain ⟨editor, member', part', role', use'⟩ := uses 1 (by decide)
  obtain ⟨reader, among, place, serves, reads⟩ := uses 2 (by decide)
  obtain ⟨lender, among', place', serves', reads'⟩ := uses 3 (by decide)
  refine ⟨_, log, facade, log', r, visits, found, made, realm, visited, author, member, editor,
    member', reader, among, lender, among', by simp [part, part', place, place'], ?_, ?_⟩
  · obtain ⟨ref, type, _, shared⟩ := shares visits visited _ _ (by decide +kernel) author
      member editor member' use use' (role'.trans role.symm)
    rw [type, shared (by decide) (by decide +kernel)]
  · obtain ⟨ref, type, shared, _⟩ := shares visits visited _ _ (by decide +kernel) reader
      among lender among' reads reads' (serves'.trans serves.symm)
    rw [type]
    intro same
    rcases shared.mp same.symm with ⟨target, stands, counts⟩ | one
    · have empty : Stands titled (titleOf (sought 2).1 (sought 2).2) (.text "") := by
        obtain rfl := Except.ok.inj (titles.symm.trans rfl)
        exact .follow rfl rfl (.own rfl)
      rw [stands.unique empty] at counts
      exact absurd counts (by decide)
    · have parts := congrArg (fun id : NodeId => id.origin.part) one
      simp only [Visit.id, place, place'] at parts
      omega

end Title

end GraphFacade
