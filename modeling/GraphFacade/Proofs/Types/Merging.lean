import GraphFacade.Proofs.Document.Titles
import GraphFacade.Proofs.Schema.Reading
import GraphFacade.Proofs.Types.Naming

/-!
# Definitions that share a type

Types are shared by title.  So two definitions of a document have one type
exactly when they were given one title, which their keys do not rule out.
-/

namespace GraphFacade

namespace Schema.Reading

theorem title?_text (g : Graph) {title : String} (given : title ≠ "") :
    title? g (.atom (.text title)) = some (.text title) := by
  simp [title?, Graph.truthy, Atom.truthy, Graph.tree?, Graph.treeWithin?, given]

end Schema.Reading

namespace Title

open Resolution Mapping

/--
A node is read from a definition: at a place of the document that stands for
the definition, the resolved document has the cell that it is read from.
-/
def Describes (titled : Json) (resolved : Document) (definition : Json) (node : Node) : Prop :=
  ∃ path last cell, Arrives titled titled path last ∧ Stands titled last definition ∧
    resolved.graph.at? resolved.root path = some (.cell cell) ∧
    Schema.Reads resolved.graph cell node

variable {document titled : Json} {resolved : Document} {key title : String}
  {entries : Entries Json}

theorem title_of_describes {node : Node}
    (h : Describes titled resolved (assign key (.dict entries)) node)
    (resolves : Document.resolve titled = .ok resolved) (text : titleOf key entries = .text title)
    (given : title ≠ "") : node.label.title = some (.text title) := by
  obtain ⟨path, last, cell, arrives, stands, there, reads⟩ := h
  obtain ⟨entries', assigned, found, _⟩ := assign_dict key entries
  rw [assigned] at stands
  rw [text] at found
  obtain ⟨filled, cellOf, holds⟩ := resolve_entry resolves arrives stands found there
  obtain ⟨filled', cellOf', carries⟩ := reads.carries
  obtain rfl := Option.some.inj (cellOf.symm.trans cellOf')
  rw [carries, Schema.Reading.entry, holds]
  exact Schema.Reading.title?_text _ given

/--
What titles do for the definitions of a document.  Each one that is an object
gets its own title if that counts as true and else its key, and nothing else
about it changes; the title is empty only for an empty key.  Two definitions of
different keys get one title in two cases: both have it of their own, or one has
none and its key is the other's.  After any mappings, nodes that are read from
two definitions share a type if and only if the titles are equal and the nodes
serve the same role.
-/
theorem assignAll_titles (returns : assignAll document = .ok titled) :
    definitions titled = assignEach (definitions document) ∧
    (∀ key entries,
      (∃ entries', assign key (.dict entries) = .dict entries' ∧
        entries'.lookup "title" = some (titleOf key entries) ∧
        ∀ other, other ≠ "title" -> entries'.lookup other = entries.lookup other) ∧
      ((titleOf key entries).truthy ↔ own? entries ≠ none ∨ key ≠ "")) ∧
    (∀ first second entries entries', first ≠ second ->
      (titleOf first entries = titleOf second entries' ↔
        (own? entries ≠ none ∧ own? entries = own? entries') ∨
        (own? entries = some (.text second) ∧ own? entries' = none) ∨
        (own? entries = none ∧ own? entries' = some (.text first)))) ∧
    ∀ resolved, Document.resolve titled = .ok resolved -> ∀ calls realm log visits,
      Attempts calls { realm } visits (attemptAll calls ⟨{ realm }, log⟩).registry ->
      ∀ first entries title second entries' title',
        titleOf first entries = .text title -> title ≠ "" ->
        titleOf second entries' = .text title' -> title' ≠ "" ->
        ∀ visit ∈ visits, ∀ other ∈ visits,
          Describes titled resolved (assign first (.dict entries)) visit.node ->
          Describes titled resolved (assign second (.dict entries')) other.node ->
          ∀ ref, (attemptAll calls ⟨{ realm }, log⟩).registry.get? visit.key = some ref ->
            ((attemptAll calls ⟨{ realm }, log⟩).registry.get? other.key = some ref ↔
              title' = title ∧ other.key.role = visit.key.role) := by
  refine ⟨definitions_assignAll returns, fun key entries => ⟨assign_dict key entries,
    truthy_titleOf key entries⟩, fun first second entries entries' => titleOf_eq_iff, ?_⟩
  intro resolved resolves calls realm log visits attempts first entries title second entries'
    title' text given text' given' visit member other member' describes describes' ref found
  have recorded : Recorded _ visits := attempts.recorded (recorded_new realm)
  have orderly := attempts.orderly (Registry.orderly_new realm)
  have own := title_of_describes describes resolves text given
  have own' := title_of_describes describes' resolves text' given'
  have titled : ∀ {visit : Visit} {title : String}, visit ∈ visits ->
      visit.node.label.title = some (.text title) -> visit.key.title = title := by
    intro visit title member own
    have named := recorded.own_title member (by simp [Visit.Untitled, own])
    simpa [own] using named.symm
  rw [recorded.shared_iff orderly member' member found, titled member own, titled member' own']

/-- Two definitions, one of which has the other's key as its title. -/
def twins : Json :=
  let schema (property : String) : Entries Json :=
    [("type", .text "object"), ("properties", .dict [(property, .dict [("type", .text "string")])])]
  .dict [("definitions", .dict [("A", .dict (schema "x" ++ [("title", .text "B")])),
    ("B", .dict (schema "y"))])]

/-- Both twins get the same title. -/
theorem assignAll_titles_twins :
    ∃ titled, assignAll twins = .ok titled ∧
      ∃ first second entries entries', first ≠ second ∧
        definitions titled = [(first, assign first (.dict entries)),
          (second, assign second (.dict entries'))] ∧
        titleOf first entries = titleOf second entries' := by
  obtain ⟨titled, returns⟩ : ∃ titled, assignAll twins = .ok titled := ⟨_, rfl⟩
  obtain ⟨each, _, equal, _⟩ := assignAll_titles returns
  refine ⟨titled, returns, "A", "B", _, _, by decide, each, ?_⟩
  exact (equal "A" "B" _ _ (by decide)).mpr (.inr (.inl ⟨rfl, rfl⟩))

end Title

end GraphFacade
