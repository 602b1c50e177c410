import GraphFacade.Proofs.Steps
import GraphFacade.Types.Mapping

/-!
# Growing registries

What the steps on a registry do to it, as functions: handing out a title,
making a type.  Both only add to a registry, and so does all mapping; what was
registered and the names of untitled nodes stay as they are.
-/

namespace GraphFacade

namespace Registry

/--
The title a node is kept under, and the registry after it was asked for; a title
that is no text is none.
-/
def entitle (r : Registry) (origin : Origin) (label : Label) (hint : String) :
    Option (String × Registry) :=
  match label.title with
  | none =>
      match r.untitled.lookup ⟨origin, label.id⟩ with
      | some name => some (name, r)
      | none =>
          let name := Name.fresh r.titles hint
          let untitled := r.untitled ++ [(⟨origin, label.id⟩, name)]
          some (name, { r.handOut name with untitled })
  | some (.text title) => some (title, r.handOut title)
  | some _ => none

/-- The title that a node was given. -/
def titleGiven? (r : Registry) (origin : Origin) (label : Label) : Option String :=
  match label.title with
  | none => r.untitled.lookup ⟨origin, label.id⟩
  | some (.text title) => some title
  | some _ => none

def nextRef (r : Registry) : TypeRef :=
  .named ⟨r.realm, r.types.size⟩

def establish (r : Registry) (key : TypeKey) (type : NamedType) : Registry :=
  (r.addType type).1.register key r.nextRef

/-! ## Stages of a registry -/

/-- A later stage of a registry; only the fields of its types may differ. -/
structure Extends (r r' : Registry) : Prop where
  realm : r'.realm = r.realm
  entries : r.entries <+: r'.entries
  untitled : r.untitled <+: r'.untitled
  types : r.types.size ≤ r'.types.size

theorem Extends.refl (r : Registry) : Extends r r :=
  ⟨rfl, List.prefix_rfl, List.prefix_rfl, Nat.le_refl _⟩

theorem Extends.trans {r₁ r₂ r₃ : Registry} (h : Extends r₁ r₂) (h' : Extends r₂ r₃) :
    Extends r₁ r₃ :=
  ⟨h'.realm.trans h.realm, h.entries.trans h'.entries, h.untitled.trans h'.untitled,
    Nat.le_trans h.types h'.types⟩

theorem lookup_of_prefix {κ α : Type} [BEq κ] {entries entries' : List (κ × α)} {key : κ}
    {value : α} (h : entries <+: entries') (found : entries.lookup key = some value) :
    entries'.lookup key = some value := by
  obtain ⟨more, rfl⟩ := h
  simp [List.lookup_append, found]

theorem Extends.key {r r' : Registry} (h : Extends r r') (title : String) (role : Role) :
    r'.key title role = r.key title role := by
  simp [Registry.key, h.realm]

theorem Extends.typeName {r r' : Registry} (h : Extends r r') (title : String) (role : Role) :
    r'.typeName title role = r.typeName title role := by
  simp [Registry.typeName, h.realm]

theorem Extends.get? {r r' : Registry} (h : Extends r r') {key : TypeKey} {ref : TypeRef}
    (found : r.get? key = some ref) : r'.get? key = some ref :=
  lookup_of_prefix h.entries found

theorem Extends.titleGiven? {r r' : Registry} (h : Extends r r') {origin : Origin} {label : Label}
    {title : String} (given : r.titleGiven? origin label = some title) :
    r'.titleGiven? origin label = some title := by
  unfold Registry.titleGiven? at given ⊢
  split at given
  · exact lookup_of_prefix h.untitled given
  · exact given
  · simp at given

theorem handOut_extends (r : Registry) (title : String) : Extends r (r.handOut title) := by
  unfold handOut
  split
  · exact Extends.refl r
  · exact ⟨rfl, List.prefix_rfl, List.prefix_rfl, Nat.le_refl _⟩

@[simp]
theorem handOut_types (r : Registry) (title : String) : (r.handOut title).types = r.types := by
  unfold handOut
  split <;> rfl

@[simp]
theorem handOut_entries (r : Registry) (title : String) :
    (r.handOut title).entries = r.entries := by
  unfold handOut
  split <;> rfl

@[simp]
theorem handOut_realm (r : Registry) (title : String) : (r.handOut title).realm = r.realm := by
  unfold handOut
  split <;> rfl

@[simp]
theorem handOut_untitled (r : Registry) (title : String) :
    (r.handOut title).untitled = r.untitled := by
  unfold handOut
  split <;> rfl

section Entitle

variable {r r' : Registry} {origin : Origin} {label : Label} {hint title : String}

/-- A title was given to the node before, is made for it, or is its own. -/
theorem entitle_cases (h : r.entitle origin label hint = some (title, r')) :
    (label.title = none ∧ r.untitled.lookup ⟨origin, label.id⟩ = some title ∧ r' = r) ∨
    (label.title = none ∧ r.untitled.lookup ⟨origin, label.id⟩ = none ∧
      title = Name.fresh r.titles hint ∧
      r' = { r.handOut title with untitled := r.untitled ++ [(⟨origin, label.id⟩, title)] }) ∨
    (label.title = some (.text title) ∧ r' = r.handOut title) := by
  unfold entitle at h
  split at h
  · rename_i untitled
    split at h <;> simp only [Option.some.injEq, Prod.mk.injEq] at h
    · rename_i known
      exact .inl ⟨untitled, h.1 ▸ known, h.2.symm⟩
    · rename_i new
      obtain ⟨rfl, rfl⟩ := h
      exact .inr (.inl ⟨untitled, new, rfl, rfl⟩)
  · rename_i own
    simp only [Option.some.injEq, Prod.mk.injEq] at h
    obtain ⟨rfl, rfl⟩ := h
    exact .inr (.inr ⟨own, rfl⟩)
  · simp at h

theorem entitle_types (h : r.entitle origin label hint = some (title, r')) :
    r'.types = r.types := by
  rcases entitle_cases h with ⟨_, _, rfl⟩ | ⟨_, _, _, rfl⟩ | ⟨_, rfl⟩ <;> simp

theorem entitle_entries (h : r.entitle origin label hint = some (title, r')) :
    r'.entries = r.entries := by
  rcases entitle_cases h with ⟨_, _, rfl⟩ | ⟨_, _, _, rfl⟩ | ⟨_, rfl⟩ <;> simp

theorem entitle_extends (h : r.entitle origin label hint = some (title, r')) : Extends r r' := by
  rcases entitle_cases h with ⟨_, _, rfl⟩ | ⟨_, _, _, rfl⟩ | ⟨_, rfl⟩
  · exact Extends.refl _
  · have grown := handOut_extends r title
    exact ⟨grown.realm, grown.entries, List.prefix_append _ _, grown.types⟩
  · exact handOut_extends r title

theorem titleGiven?_of_entitle (h : r.entitle origin label hint = some (title, r')) :
    r'.titleGiven? origin label = some title := by
  rcases entitle_cases h with ⟨none', known, rfl⟩ | ⟨none', new, _, rfl⟩ | ⟨own, rfl⟩
  · simpa [titleGiven?, none'] using known
  · simp [titleGiven?, none', List.lookup_append, new]
  · simp [titleGiven?, own]

end Entitle

/-! ## Making types -/

section Establish

variable {r : Registry} {key : TypeKey} (type : NamedType)

theorem establish_of_free (free : r.get? key = none) :
    r.establish key type =
      { r with entries := r.entries ++ [(key, r.nextRef)], types := r.types.push type } := by
  have free' : (r.addType type).1.get? key = none := free
  rw [establish, register, free']
  rfl

theorem establish_extends (free : r.get? key = none) : Extends r (r.establish key type) := by
  rw [establish_of_free type free]
  exact ⟨rfl, List.prefix_append _ _, List.prefix_rfl, by simp⟩

theorem types_establish_of_lt (free : r.get? key = none) {index : Nat}
    (there : index < r.types.size) : (r.establish key type).types[index]? = r.types[index]? := by
  rw [establish_of_free type free]
  simp [Array.getElem?_push, Nat.ne_of_lt there]

theorem get?_establish (free : r.get? key = none) :
    (r.establish key type).get? key = some r.nextRef := by
  have absent : r.entries.lookup key = none := free
  simp [get?, establish_of_free type free, List.lookup_append, absent]

end Establish

theorem updateType_extends (r : Registry) (ref : TypeRef) (f : NamedType -> NamedType) :
    Extends r (r.updateType ref f) := by
  unfold updateType
  split
  · exact ⟨rfl, List.prefix_rfl, List.prefix_rfl, by simp⟩
  · exact Extends.refl r

@[simp]
theorem updateType_entries (r : Registry) (ref : TypeRef) (f : NamedType -> NamedType) :
    (r.updateType ref f).entries = r.entries := by
  cases ref <;> rfl

@[simp]
theorem updateType_size (r : Registry) (ref : TypeRef) (f : NamedType -> NamedType) :
    (r.updateType ref f).types.size = r.types.size := by
  cases ref <;> simp [updateType]

theorem types_updateType (r : Registry) (id : TypeId) (f : NamedType -> NamedType) (i : Nat) :
    (r.updateType (.named id) f).types[i]? =
      if id.index = i then (r.types[i]?).map f else r.types[i]? := by
  simp [updateType, Array.getElem?_modify]

end Registry

namespace Workshop

open Steps

/-- A named type is made unless its name is reserved. -/
theorem makeType_eq (key : TypeKey) (type : NamedType) (w : Workshop) :
    makeType key type w =
      if reservedTypeNames.contains type.name then
        .error (.reservedType type.name) w
      else
        .ok w.registry.nextRef { w with registry := w.registry.establish key type } := by
  unfold makeType
  split <;> rfl

end Workshop

namespace Mapping

open Workshop Steps

/-- A node gets its title, unless it has one that is no text. -/
theorem textTitle_eq (origin : Origin) (label : Label) (hint : String) (w : Workshop) :
    textTitle origin label hint w =
      match w.registry.entitle origin label hint with
      | some (title, r) => .ok title { w with registry := r }
      | none => .error .wrongKind w := by
  unfold textTitle titleOf Registry.entitle
  cases own : label.title with
  | none =>
      simp only [bind_apply, untitledName, current]
      cases known : w.registry.untitled.lookup ⟨origin, label.id⟩ <;> rfl
  | some value =>
      cases value with
      | atom a => cases a <;> rfl
      | list => rfl
      | dict => rfl

end Mapping

end GraphFacade
