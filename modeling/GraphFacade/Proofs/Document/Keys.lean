import GraphFacade.Document.Title
import GraphFacade.Proofs.Document.Loading
import GraphFacade.Proofs.Document.Sharing
import GraphFacade.Proofs.Entries
import GraphFacade.Proofs.Steps

/-!
# Keys of dictionaries

A dictionary of a document that was read has each of its keys once.  It still
has after titles are given, and so has every dictionary of the document once its
references are resolved.
-/

namespace GraphFacade

namespace Json

/-- Every dictionary in a value has each of its keys once. -/
inductive Keyed : Json -> Prop
  | atom (a : Atom) : Keyed (.atom a)
  | list {items : List Json} (each : ∀ item ∈ items, Keyed item) : Keyed (.list items)
  | dict {entries : List (String × Json)} (distinct : (entries.map Prod.fst).Nodup)
      (each : ∀ entry ∈ entries, Keyed entry.2) : Keyed (.dict entries)

/-! ## Reading -/

theorem readNumber_keyed {limit : Nat} {cs rest : List Char} {value : Json}
    (h : readNumber limit cs = .ok (value, rest)) : value.Keyed := by
  unfold readNumber at h
  dsimp only at h
  split at h
  · simp at h
  · split at h
    · split at h
      · simp at h
      · rw [← (Prod.mk.inj (Except.ok.inj h)).1]
        exact .atom _
    · rw [← (Prod.mk.inj (Except.ok.inj h)).1]
      exact .atom _

theorem readAtom_keyed {limit : Nat} {cs rest : List Char} {value : Json}
    (h : readAtom limit cs = .ok (value, rest)) : value.Keyed := by
  unfold readAtom at h
  split at h
  case h_7 => exact readNumber_keyed h
  all_goals
    rw [← (Prod.mk.inj (Except.ok.inj h)).1]
    exact .atom _

/-- What is read with some fuel has its keys once. -/
structure ReadsKeyed (limit fuel : Nat) : Prop where
  value : ∀ {cs rest value}, readValue limit fuel cs = .ok (value, rest) -> value.Keyed
  items : ∀ {cs rest items}, readItems limit fuel cs = .ok (items, rest) ->
    ∀ item ∈ items, item.Keyed
  entries : ∀ {cs rest entries}, readEntries limit fuel cs = .ok (entries, rest) ->
    ∀ entry ∈ entries, entry.2.Keyed

section Reading

variable {limit fuel : Nat} {cs rest : List Char}

theorem ReadsKeyed.value_succ (below : ReadsKeyed limit fuel) {value : Json}
    (h : readValue limit (fuel + 1) cs = .ok (value, rest)) : value.Keyed := by
  unfold readValue at h
  split at h
  · split at h
    · simp at h
    · rw [← (Prod.mk.inj (Except.ok.inj h)).1]
      exact .atom _
  · split at h
    · rw [← (Prod.mk.inj (Except.ok.inj h)).1]
      exact .list (by simp)
    · split at h
      · simp at h
      · rename_i read
        rw [← (Prod.mk.inj (Except.ok.inj h)).1]
        exact .list (below.items read)
  · split at h
    · rw [← (Prod.mk.inj (Except.ok.inj h)).1]
      exact .dict List.nodup_nil (by simp)
    · split at h
      · simp at h
      · rename_i written _ read
        rw [← (Prod.mk.inj (Except.ok.inj h)).1]
        refine .dict (Entries.nodup_keys_ofList written) fun entry member => ?_
        obtain ⟨other, among, same⟩ := Entries.mem_ofList member
        exact same ▸ below.entries read other among
  · exact readAtom_keyed h

theorem ReadsKeyed.items_succ (below : ReadsKeyed limit fuel) {items : List Json}
    (h : readItems limit (fuel + 1) cs = .ok (items, rest)) : ∀ item ∈ items, item.Keyed := by
  unfold readItems at h
  split at h
  · simp at h
  · rename_i first
    split at h
    · rw [← (Prod.mk.inj (Except.ok.inj h)).1]
      simpa using below.value first
    · split at h
      · simp at h
      · rename_i others
        rw [← (Prod.mk.inj (Except.ok.inj h)).1]
        exact List.forall_mem_cons.mpr ⟨below.value first, below.items others⟩
    · simp at h

theorem ReadsKeyed.entries_succ (below : ReadsKeyed limit fuel) {entries : List (String × Json)}
    (h : readEntries limit (fuel + 1) cs = .ok (entries, rest)) :
    ∀ entry ∈ entries, entry.2.Keyed := by
  unfold readEntries at h
  split at h
  · simp at h
  · split at h
    · simp at h
    · rename_i first
      split at h
      · rw [← (Prod.mk.inj (Except.ok.inj h)).1]
        simpa using below.value first
      · split at h
        · simp at h
        · rename_i others
          rw [← (Prod.mk.inj (Except.ok.inj h)).1]
          exact List.forall_mem_cons.mpr ⟨below.value first, below.entries others⟩
      · simp at h

theorem readsKeyed (limit fuel : Nat) : ReadsKeyed limit fuel := by
  induction fuel with
  | zero => constructor <;> simp [readValue, readItems, readEntries]
  | succ fuel ih => exact ⟨ih.value_succ, ih.items_succ, ih.entries_succ⟩

theorem readWithin_keyed {value : Json} (h : readWithin limit cs = .ok value) : value.Keyed := by
  unfold readWithin at h
  split at h
  · simp at h
  · obtain ⟨⟨found, rest⟩, first, h⟩ := Steps.except_bind_eq_ok.mp h
    dsimp only at h
    split at h
    · rw [← Except.ok.inj h]
      exact (readsKeyed limit _).value first
    · simp at h

end Reading

/-- The dictionaries of a loaded document have each of their keys once. -/
theorem load_keyed {path : String} {content : FileContent} {document : Json} {log log' : Log}
    (h : Json.load path content log = .ok document log') : document.Keyed := by
  obtain ⟨entries, _, found, _, rfl, _⟩ := Loading.load_ok_iff.mp h
  cases content with
  | unreadable reason => cases found
  | bytes bytes =>
      obtain ⟨_, _, reads⟩ := Loading.document_eq_ok.mp found
      exact readWithin_keyed reads

/-! ## Giving titles -/

variable {document value : Json} {entries entries' : Entries Json}

theorem Keyed.put (h : (Json.dict entries).Keyed) (key : String) (new : value.Keyed) :
    (Json.dict (Entries.put key value entries)).Keyed := by
  cases h with
  | dict distinct each =>
      refine .dict (Entries.nodup_keys_put distinct _) fun entry member => ?_
      rcases Entries.mem_put member with old | same
      · exact each entry old
      · exact same ▸ new

theorem Keyed.assign (h : value.Keyed) (name : String) : (Title.assign name value).Keyed := by
  unfold Title.assign
  split
  · split
    · exact h
    · exact h.put "title" (Keyed.atom _)
  · exact h

theorem Keyed.update {key : String} {f : Json -> Except Fault Json}
    (keeps : ∀ {value value'}, value.Keyed -> f value = .ok value' -> value'.Keyed)
    (h : (Json.dict entries).Keyed) (changed : Title.update key f entries = .ok entries') :
    (Json.dict entries').Keyed := by
  unfold Title.update at changed
  split at changed
  · exact Except.ok.inj changed ▸ h
  · rename_i value found
    obtain ⟨value', made, changed⟩ := Steps.except_bind_eq_ok.mp changed
    rw [← Except.ok.inj changed]
    cases h with
    | dict distinct each =>
        exact Keyed.put (.dict distinct each) key
          (keeps (each _ (Entries.mem_of_lookup found)) made)

theorem Keyed.assignSection (h : value.Keyed) {value' : Json}
    (assigned : Title.assignSection value = .ok value') : value'.Keyed := by
  cases h with
  | dict distinct each =>
      rw [← Except.ok.inj assigned]
      refine .dict (by rwa [List.map_map]) fun entry member => ?_
      obtain ⟨old, among, rfl⟩ := List.mem_map.mp member
      exact (each old among).assign old.1
  | _ =>
      simp only [Title.assignSection] at assigned
      split at assigned
      · cases assigned
      · rw [← Except.ok.inj assigned]
        constructor <;> assumption

theorem Keyed.assignComponents (h : value.Keyed) {value' : Json}
    (assigned : Title.assignComponents value = .ok value') : value'.Keyed := by
  cases value with
  | dict entries =>
      obtain ⟨entries', changed, assigned⟩ := Steps.except_bind_eq_ok.mp assigned
      rw [← Except.ok.inj assigned]
      exact h.update (fun keyed made => keyed.assignSection made) changed
  | _ =>
      simp only [Title.assignComponents] at assigned
      split at assigned
      · cases assigned
      · exact Except.ok.inj assigned ▸ h

theorem Keyed.assignAll (h : document.Keyed) {titled : Json}
    (assigned : Title.assignAll document = .ok titled) : titled.Keyed := by
  cases document with
  | list items => cases assigned
  | atom a => cases a <;> cases assigned
  | dict entries =>
      simp only [Title.assignAll] at assigned
      split at assigned
      · obtain ⟨entries', changed, assigned⟩ := Steps.except_bind_eq_ok.mp assigned
        rw [← Except.ok.inj assigned]
        exact h.update (fun keyed made => keyed.assignSection made) changed
      · obtain ⟨entries', changed, assigned⟩ := Steps.except_bind_eq_ok.mp assigned
        rw [← Except.ok.inj assigned]
        exact h.update (fun keyed made => keyed.assignComponents made) changed

/-! ## Resolving -/

theorem Keyed.part (h : value.Keyed) {branch : Branch} {part : Json}
    (found : value.part? branch = some part) : part.Keyed := by
  cases h with
  | atom => simp [part?] at found
  | list each =>
      cases branch with
      | key name => simp [part?] at found
      | place index => exact each part (List.mem_of_getElem? found)
  | dict _ each =>
      cases branch with
      | key name => exact each (name, part) (Entries.mem_of_lookup found)
      | place index => simp [part?] at found

theorem branch_of_step {token : List Char} {part : Json}
    (h : Pointer.step? value token = some part) : ∃ branch, value.part? branch = some part := by
  unfold Pointer.step? at h
  split at h
  · obtain ⟨index, _, h⟩ := Option.bind_eq_some_iff.mp h
    obtain ⟨place, _, h⟩ := Option.bind_eq_some_iff.mp h
    exact ⟨.place place, h⟩
  · exact ⟨.key _, h⟩
  · simp at h

theorem Keyed.follow (h : value.Keyed) {tokens : List (List Char)} {found : Json}
    (follows : Pointer.follow? value tokens = some found) : found.Keyed := by
  induction tokens generalizing value with
  | nil => exact Option.some.inj follows ▸ h
  | cons token rest ih =>
      unfold Pointer.follow? at follows
      split at follows
      · rename_i step
        obtain ⟨branch, down⟩ := branch_of_step step
        exact ih (h.part down) follows
      · simp at follows

theorem Keyed.get (h : document.Keyed) {pointer : List Char} {target : Json}
    (found : Pointer.get document pointer = .ok target) : target.Keyed := by
  unfold Pointer.get at found
  split at found
  · exact Except.ok.inj found ▸ h
  · split at found
    · simp at found
    · split at found
      · rename_i follows
        exact Except.ok.inj found ▸ h.follow follows
      · simp at found

theorem Keyed.named (h : document.Keyed) {reference : String} {target : Json}
    (names : Resolution.named? document reference = some target) : target.Keyed := by
  unfold Resolution.named? at names
  split at names
  · rename_i pointer _
    cases found : Pointer.get document pointer with
    | error fault => simp [found, Except.toOption] at names
    | ok target' =>
        rw [found, Except.toOption, Option.some.injEq] at names
        exact names ▸ h.get found
  · simp at names

theorem Keyed.stands (h : document.Keyed) {shown : Json} (keyed : value.Keyed)
    (stands : Resolution.Stands document value shown) : shown.Keyed := by
  induction stands with
  | own => exact keyed
  | follow _ names _ ih => exact ih (h.named names)

theorem Keyed.arrives (h : document.Keyed) {path : List Branch} {last : Json}
    (keyed : value.Keyed) (arrives : Resolution.Arrives document value path last) :
    last.Keyed := by
  induction arrives with
  | here => exact keyed
  | down stands step _ ih => exact ih ((h.stands keyed stands).part step)

end Json

/-- Wherever a path leads in a resolved document, a dictionary has each of its keys once. -/
theorem Document.keys_nodup {document : Json} {d : Document} (keyed : document.Keyed)
    (resolved : Document.resolve document = .ok d) {path : List Branch} {value : Value}
    (reached : d.graph.at? d.root path = some value) {entries : List (String × Value)}
    (listed : d.graph.entries? value = some entries) : (entries.map Prod.fst).Nodup := by
  obtain ⟨last, target, arrives, stands, form⟩ :=
    (Document.resolve_expands resolved).2.1 path value reached
  have shown := keyed.stands (keyed.arrives keyed arrives) stands
  have own : d.graph.form? value = some (.dict (entries.map Prod.fst)) := by
    cases value with
    | atom a => simp [Graph.entries?, Graph.cell?] at listed
    | cell id => exact Option.map_eq_some_iff.mpr ⟨_, Graph.cell?_of_entries listed, rfl⟩
  rw [own, Option.some.injEq] at form
  cases shown with
  | atom => simp [Json.form] at form
  | list => simp [Json.form] at form
  | dict distinct _ =>
      rw [Json.form, Form.dict.injEq] at form
      exact form ▸ distinct

end GraphFacade
