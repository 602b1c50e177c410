import GraphFacade.Proofs.Types.Filling
import GraphFacade.Proofs.Types.Returning
import Mathlib.Data.List.Nodup

/-!
# Registries in order

The types of a registry stand in the order of its keys, each under one key and
named after it, and lead to types of the same registry only.  Mapping keeps a
registry in order, and what it gives is a type of that registry.
-/

namespace GraphFacade

namespace Registry

def Holds (r : Registry) (ref : TypeRef) : Prop :=
  ∀ id, ref.unwrapped = .named id -> id.realm = r.realm ∧ id.index < r.types.size

/-- What always holds of a registry: keys and types belong together, and types lead to types. -/
structure Orderly (r : Registry) : Prop where
  size : r.entries.length = r.types.size
  keys : (r.entries.map Prod.fst).Nodup
  entries : ∀ {i : Nat} {key : TypeKey} {ref : TypeRef}, r.entries[i]? = some (key, ref) ->
    key.realm = r.realm ∧ ref = .named ⟨r.realm, i⟩ ∧
      ∃ type, r.types[i]? = some type ∧ type.name = r.typeName key.title key.role ∧
        type.name ∉ reservedTypeNames
  closed : ∀ {i : Nat} {type : NamedType}, r.types[i]? = some type ->
    ∀ ref ∈ type.references, r.Holds ref

variable {r r' : Registry}

theorem Holds.mono {ref : TypeRef} (h : r.Holds ref) (extends' : Extends r r') : r'.Holds ref := by
  intro id same
  obtain ⟨realm, inside⟩ := h id same
  exact ⟨realm.trans extends'.realm.symm, Nat.lt_of_lt_of_le inside extends'.types⟩

theorem orderly_new (realm : Option String) : Orderly { realm } :=
  ⟨rfl, List.nodup_nil, by simp, by simp⟩

theorem Orderly.of_same (h : Orderly r) (realm : r'.realm = r.realm)
    (entries : r'.entries = r.entries) (types : r'.types = r.types) : Orderly r' := by
  rcases r with ⟨realm₁, entries₁, untitled₁, titles₁, types₁⟩
  rcases r' with ⟨realm₂, entries₂, untitled₂, titles₂, types₂⟩
  simp only at realm entries types
  subst realm entries types
  exact ⟨h.size, h.keys, h.entries, h.closed⟩

/-- A type without fields may be made under a free key that it is named after. -/
theorem Orderly.establish (h : Orderly r) {key : TypeKey} {type : NamedType}
    (free : r.get? key = none) (realm : key.realm = r.realm)
    (named : type.name = r.typeName key.title key.role)
    (allowed : type.name ∉ reservedTypeNames) (bare : type.references = []) :
    Orderly (r.establish key type) := by
  have grown := establish_extends type free
  have absent : key ∉ r.entries.map Prod.fst := Entries.not_mem_keys free
  rw [establish_of_free type free] at grown ⊢
  refine ⟨by simp [h.size], ?_, ?_, ?_⟩
  · exact Entries.nodup_keys_snoc h.keys absent _
  · intro i key' ref found
    rcases Nat.lt_trichotomy i r.entries.length with before | here | beyond
    · rw [List.getElem?_append_left before] at found
      obtain ⟨realm', same, old, there, named', allowed'⟩ := h.entries found
      refine ⟨realm', same, old, ?_, named', allowed'⟩
      rw [Array.getElem?_push_lt (h.size ▸ before)]
      rw [Array.getElem?_eq_getElem (h.size ▸ before)] at there
      exact there
    · subst here
      simp only [List.getElem?_concat_length, Option.some.injEq, Prod.mk.injEq] at found
      obtain ⟨rfl, rfl⟩ := found
      refine ⟨realm, by rw [h.size]; rfl, type, ?_, named, allowed⟩
      rw [h.size]
      exact Array.getElem?_push_size
    · rw [List.getElem?_eq_none (by simp; omega)] at found
      simp at found
  · intro i other found ref member
    by_cases last : i = r.types.size
    · subst last
      rw [Array.getElem?_push_size, Option.some.injEq] at found
      rw [← found, bare] at member
      simp at member
    · rw [Array.getElem?_push, if_neg last] at found
      exact (h.closed found ref member).mono grown

/-- A type may be changed as long as it keeps its name and leads to types of the registry. -/
theorem Orderly.updateType (h : Orderly r) {ref : TypeRef} {f : NamedType -> NamedType}
    (named : ∀ type, (f type).name = type.name)
    (holds : ∀ type, ∀ next ∈ (f type).references, next ∈ type.references ∨ r.Holds next) :
    Orderly (r.updateType ref f) := by
  have grown := updateType_extends r ref f
  cases ref with
  | named id =>
      refine ⟨?_, ?_, ?_, ?_⟩
      · rw [updateType_entries, updateType_size]
        exact h.size
      · rw [updateType_entries]
        exact h.keys
      · intro i key ref found
        rw [updateType_entries] at found
        obtain ⟨realm, same, type, there, named', allowed⟩ := h.entries found
        refine ⟨realm, same, ?_⟩
        rw [types_updateType, there]
        by_cases changed : id.index = i
        · exact ⟨f type, if_pos changed, (named type).trans named', by rw [named]; exact allowed⟩
        · exact ⟨type, if_neg changed, named', allowed⟩
      · intro i type found next member
        rw [types_updateType] at found
        split at found
        · obtain ⟨old, there, rfl⟩ := Option.map_eq_some_iff.mp found
          rcases holds old next member with before | new
          · exact (h.closed there next before).mono grown
          · exact new.mono grown
        · exact (h.closed found next member).mono grown
  | _ => exact h

theorem Orderly.holds_get (h : Orderly r) {key : TypeKey} {ref : TypeRef}
    (found : r.get? key = some ref) : r.Holds ref := by
  obtain ⟨before, after, same, _⟩ := List.lookup_eq_some_iff.mp found
  have place : r.entries[before.length]? = some (key, ref) := by simp [same]
  obtain ⟨_, rfl, type, there, _⟩ := h.entries place
  rintro id same
  simp only [TypeRef.unwrapped, TypeRef.named.injEq] at same
  subst same
  exact ⟨rfl, (Array.getElem?_eq_some_iff.mp there).choose⟩

/-- A type stands where its key does, and is named after it. -/
theorem Orderly.entry_of_type (h : Orderly r) {i : Nat} {type : NamedType}
    (found : r.types[i]? = some type) :
    ∃ key, r.entries[i]? = some (key, .named ⟨r.realm, i⟩) ∧
      type.name = r.typeName key.title key.role ∧ type.name ∉ reservedTypeNames := by
  have inside : i < r.entries.length := by
    rw [h.size]
    exact (Array.getElem?_eq_some_iff.mp found).choose
  obtain ⟨⟨key, ref⟩, entry⟩ : ∃ entry, r.entries[i]? = some entry :=
    ⟨_, List.getElem?_eq_getElem inside⟩
  obtain ⟨_, rfl, other, there, named, allowed⟩ := h.entries entry
  rw [found, Option.some.injEq] at there
  subst there
  exact ⟨key, entry, named, allowed⟩

theorem Orderly.key_unique (h : Orderly r) {key other : TypeKey} {ref : TypeRef}
    (found : r.get? key = some ref) (found' : r.get? other = some ref) : key = other := by
  obtain ⟨i, place⟩ := List.mem_iff_getElem?.mp (Entries.mem_of_lookup found)
  obtain ⟨j, place'⟩ := List.mem_iff_getElem?.mp (Entries.mem_of_lookup found')
  obtain ⟨_, rfl, _⟩ := h.entries place
  obtain ⟨_, same, _⟩ := h.entries place'
  simp only [TypeRef.named.injEq, TypeId.mk.injEq, true_and] at same
  subst same
  rw [place, Option.some.injEq, Prod.mk.injEq] at place'
  exact place'.1

end Registry

namespace Mapping

open Registry Workshop Steps

variable {schema : Schema} {origin : Origin} {isInput : Bool} {r r' : Registry}

theorem direct?_holds {node : Node} {type : TypeRef} (h : direct? schema node = some type) :
    r.Holds type := by
  have plain : ∀ id, type.unwrapped ≠ .named id := by
    intro id same
    cases node with
    | list => cases h
    | enum =>
        simp only [direct?] at h
        split_ifs at h <;> cases h <;> cases same
    | object =>
        simp only [direct?] at h
        split_ifs at h
        cases h
        cases same
    | _ =>
        cases h
        cases same
  exact fun id same => absurd same (plain id)

theorem translate?_holds (orderly : Orderly r) {node : Node} {type : TypeRef}
    (h : translate? r schema origin isInput node = some type) : r.Holds type := by
  induction node generalizing type with
  | list label items ih =>
      simp only [translate?, Option.map_eq_some_iff] at h
      obtain ⟨item, translates, rfl⟩ := h
      have holds : r.Holds item := ih translates
      exact holds
  | _ =>
      simp only [translate?] at h
      split at h
      · rw [Option.bind_eq_some_iff] at h
        obtain ⟨title, _, found⟩ := h
        exact orderly.holds_get found
      · exact direct?_holds h

theorem holds_requireIf {required : Bool} {type : TypeRef} :
    r.Holds (requireIf required type) ↔ r.Holds type := by
  cases required <;> rfl

@[simp]
theorem name_blank (r : Registry) (title : String) (role : Role) (node : Node) :
    (blank r title role node).name = r.typeName title role := by
  unfold blank
  split <;> rfl

theorem references_blank (r : Registry) (title : String) (role : Role) (node : Node) :
    (blank r title role node).references = [] := by
  unfold blank
  split <;> rfl

theorem name_fieldFor (isInput : Bool) (required : List String) (property : String × Node)
    (ref : TypeRef) (type : NamedType) :
    (fieldFor isInput required property ref type).name = type.name := by
  cases type <;> cases isInput <;> rfl

/-- A field that is added leads to its type and, unlike endpoints' fields, nowhere else. -/
theorem references_fieldFor {required : List String} {property : String × Node}
    {ref next : TypeRef} {type : NamedType}
    (member : next ∈ (fieldFor isInput required property ref type).references) :
    next ∈ type.references ∨ next = requireIf (required.contains property.1) ref := by
  cases type with
  | object name about fields =>
      cases isInput with
      | true => exact .inl member
      | false =>
          obtain ⟨field, there, leads⟩ := List.mem_flatMap.mp member
          rcases Entries.mem_put there with old | new
          · exact .inl (List.mem_flatMap.mpr ⟨field, old, leads⟩)
          · rw [new] at leads
            exact .inr (by simpa using leads)
  | input name about fields =>
      cases isInput with
      | false => exact .inl member
      | true =>
          obtain ⟨field, there, rfl⟩ := List.mem_map.mp member
          rcases Entries.mem_put there with old | new
          · exact .inl (List.mem_map.mpr ⟨field, old, rfl⟩)
          · exact .inr (by rw [new])
  | enum => exact .inl member

theorem orderly_fieldFor (orderly : Orderly r) {type : TypeRef} (holds : r.Holds type)
    (owner : TypeRef) (required : List String) (property : String × Node) :
    Orderly (r.updateType owner (fieldFor isInput required property type)) := by
  refine orderly.updateType (name_fieldFor _ _ _ _) ?_
  intro filled next member
  rcases references_fieldFor member with old | rfl
  · exact .inl old
  · exact .inr (holds_requireIf.mpr holds)

theorem Maps.orderly {job : Job} {visits : List Visit} {type : TypeRef}
    (h : Maps schema origin isInput job r visits type r') (orderly : Orderly r) : Orderly r' := by
  induction h with
  | direct => exact orderly
  | list _ ih => exact ih orderly
  | known _ titled _ =>
      exact orderly.of_same (entitle_extends titled).realm (entitle_entries titled)
        (entitle_types titled)
  | created _ titled free allowed _ ih =>
      have start := orderly.of_same (entitle_extends titled).realm (entitle_entries titled)
        (entitle_types titled)
      exact ih (start.establish free rfl (name_blank _ _ _ _) allowed (references_blank _ _ _ _))
  | done => exact orderly
  | property first _ ihFirst ihLater =>
      have middle := ihFirst orderly
      exact ihLater (orderly_fieldFor middle (translate?_holds middle first.done_job) _ _ _)

/-- Mapping a schema keeps the registry in order and gives a type of it. -/
theorem mapSchema_orderly {hint : String} {required : Bool} {w w' : Workshop} {type : TypeRef}
    (h : mapSchema schema origin isInput hint required w = .ok type w')
    (orderly : Orderly w.registry) :
    Extends w.registry w'.registry ∧ Orderly w'.registry ∧ w'.registry.Holds type := by
  obtain ⟨visits, inner, rfl, maps⟩ := mapSchema_maps h
  have orderly' := maps.orderly orderly
  exact ⟨maps.extends, orderly', holds_requireIf.mpr (translate?_holds orderly' maps.done_job)⟩

theorem mapParameters_orderly {operationId : Json} {key : Atom} {part : Nat}
    {arguments arguments' : Entries Argument} {parameters : List Parameter} {w w' : Workshop}
    (h : mapParameters operationId key part arguments parameters w = .ok arguments' w')
    (orderly : Orderly w.registry)
    (holds : ∀ argument ∈ arguments, w.registry.Holds argument.2.type) :
    Extends w.registry w'.registry ∧ Orderly w'.registry ∧
      ∀ argument ∈ arguments', w'.registry.Holds argument.2.type := by
  induction parameters generalizing part arguments w with
  | nil =>
      simp only [mapParameters, pure_eq_ok] at h
      obtain ⟨rfl, rfl⟩ := h
      exact ⟨Extends.refl _, orderly, holds⟩
  | cons parameter rest ih =>
      obtain ⟨name, _, _, _, type, w₁, mapped, others⟩ := mapParameters_cons_ok.mp h
      obtain ⟨grown, orderly₁, holds₁⟩ := mapSchema_orderly mapped orderly
      have held : ∀ argument ∈ arguments ++ [(name, ⟨type, describe parameter.description⟩)],
          w₁.registry.Holds argument.2.type := by
        intro argument member
        rcases List.mem_append.mp member with old | new
        · exact (holds argument old).mono grown
        · rw [List.mem_singleton.mp new]
          exact holds₁
      obtain ⟨grown', orderly', holds'⟩ := ih others orderly₁ held
      exact ⟨grown.trans grown', orderly', holds'⟩

end Mapping

end GraphFacade
