import GraphFacade.Proofs.Types.Growth
import GraphFacade.Proofs.Types.Traversal
import GraphFacade.Types.Assembly

/-!
# Types under a namespace

The same types in the realm of a namespace: each is named after the namespace
and what it was named before, and everything else about it stays.  Whatever is
done to a registry can be done before or after it is moved there.
-/

namespace GraphFacade

namespace Entries

variable {α β : Type} {f : α -> β}

def mapValues (f : α -> β) (entries : Entries α) : Entries β :=
  entries.map fun entry => (entry.1, f entry.2)

@[simp]
theorem has_mapValues (key : String) (entries : Entries α) :
    has key (mapValues f entries) = has key entries := by
  simp [has, mapValues, Function.comp_def]

theorem mapValues_append (entries others : Entries α) :
    mapValues f (entries ++ others) = mapValues f entries ++ mapValues f others :=
  List.map_append

theorem put_mapValues (key : String) (value : α) (entries : Entries α) :
    put key (f value) (mapValues f entries) = mapValues f (put key value entries) := by
  induction entries with
  | nil => rfl
  | cons entry rest ih =>
      rcases entry with ⟨k, v⟩
      by_cases here : k = key
      · simp [mapValues, put, here]
      · simp only [mapValues, List.map_cons, put, beq_false_of_ne here, Bool.false_eq_true,
          ↓reduceIte, List.cons.injEq, true_and]
        exact ih

end Entries

/-! ## Moving types to a namespace -/

def nameWithin (realm name : String) : String :=
  Name.ofText realm ++ "_" ++ name

/-- The reference to the same type under a namespace. -/
def TypeRef.within (realm : String) : TypeRef -> TypeRef
  | .scalar kind => .scalar kind
  | .json => .json
  | .named id => .named ⟨some realm, id.index⟩
  | .list item => .list (item.within realm)
  | .nonNull inner => .nonNull (inner.within realm)

def Argument.within (realm : String) (argument : Argument) : Argument :=
  { argument with type := argument.type.within realm }

def Field.within (realm : String) (field : Field) : Field :=
  { field with
    type := field.type.within realm
    arguments := Entries.mapValues (Argument.within realm) field.arguments }

def InputField.within (realm : String) (field : InputField) : InputField :=
  { field with type := field.type.within realm }

/-- A type under a namespace; members of enumerations and their literals stay. -/
def NamedType.within (realm : String) : NamedType -> NamedType
  | .object name about fields =>
      .object (nameWithin realm name) about (Entries.mapValues (Field.within realm) fields)
  | .input name about fields =>
      .input (nameWithin realm name) about (Entries.mapValues (InputField.within realm) fields)
  | .enum name about members => .enum (nameWithin realm name) about members

def RootFields.within (realm : String) (fields : RootFields) : RootFields :=
  ⟨Entries.mapValues (Field.within realm) fields.query,
    Entries.mapValues (Field.within realm) fields.mutation⟩

def TypeKey.within (realm : String) (key : TypeKey) : TypeKey :=
  { key with realm := some realm }

/-- A registry under a namespace: the same titles for the same nodes, the types moved. -/
def Registry.within (realm : String) (r : Registry) : Registry where
  realm := some realm
  entries := r.entries.map fun entry => (entry.1.within realm, entry.2.within realm)
  untitled := r.untitled
  titles := r.titles
  types := r.types.map (NamedType.within realm)

variable {realm : String}

@[simp]
theorem NamedType.name_within (type : NamedType) :
    (type.within realm).name = nameWithin realm type.name := by
  cases type <;> rfl

/-- References that lead to types outside of all namespaces are told apart under one. -/
theorem TypeRef.within_injective {first second : TypeRef}
    (outside : ∀ id, first.unwrapped = .named id -> id.realm = none)
    (outside' : ∀ id, second.unwrapped = .named id -> id.realm = none)
    (same : first.within realm = second.within realm) : first = second := by
  induction first generalizing second with
  | scalar kind =>
      cases second with
      | scalar kind' => exact same
      | _ => simp [within] at same
  | json => cases second <;> simp_all [within]
  | named id =>
      cases second with
      | named id' =>
          have realms := (outside id rfl).trans (outside' id' rfl).symm
          rcases id with ⟨realm₁, index⟩
          rcases id' with ⟨realm₂, index'⟩
          simp only [within, TypeRef.named.injEq, TypeId.mk.injEq, true_and] at same realms
          rw [same, realms]
      | _ => simp [within] at same
  | list item ih =>
      cases second with
      | list item' =>
          simp only [within, TypeRef.list.injEq] at same
          have items : item = item' := ih outside outside' same
          rw [items]
      | _ => simp [within] at same
  | nonNull inner ih =>
      cases second with
      | nonNull inner' =>
          simp only [within, TypeRef.nonNull.injEq] at same
          have inners : inner = inner' := ih outside outside' same
          rw [inners]
      | _ => simp [within] at same

theorem TypeRef.within_requireIf (required : Bool) (type : TypeRef) :
    (Mapping.requireIf required type).within realm =
      Mapping.requireIf required (type.within realm) := by
  cases required <;> rfl

/-- Adding a field commutes with moving. -/
theorem Mapping.addField_within (isInput : Bool) (name property : String) (ref : TypeRef)
    (about : Json) (type : NamedType) :
    addField isInput name property (ref.within realm) about (type.within realm) =
      (addField isInput name property ref about type).within realm := by
  cases type with
  | object =>
      cases isInput with
      | true => rfl
      | false =>
          simp only [NamedType.within, addField, Bool.false_eq_true, ↓reduceIte,
            ← Entries.put_mapValues]
          rfl
  | input =>
      cases isInput with
      | true =>
          simp only [NamedType.within, addField, ↓reduceIte, ← Entries.put_mapValues]
          rfl
      | false => rfl
  | enum => rfl

/-! ## Registries outside of all namespaces -/

namespace Registry

/-- A registry that belongs to no namespace, as do all keys in it. -/
structure Outside (r : Registry) : Prop where
  realm : r.realm = none
  keys : ∀ entry ∈ r.entries, entry.1.realm = none

variable {r : Registry}

theorem outside_new : Outside {} :=
  ⟨rfl, by simp⟩

theorem within_new : Registry.within realm {} = { realm := some realm } := by
  simp [within]

theorem key_within (title : String) (role : Role) :
    (r.within realm).key title role = (r.key title role).within realm := rfl

theorem typeName_within (named : realm ≠ "") (outside : Outside r) (title : String)
    (role : Role) :
    (r.within realm).typeName title role = nameWithin realm (r.typeName title role) := by
  have full : realm.isEmpty = false := by simpa using named
  simp [typeName, within, outside.realm, full, nameWithin]

theorem key_injective {key other : TypeKey} (free : key.realm = none) (free' : other.realm = none)
    (same : key.within realm = other.within realm) : key = other := by
  rcases key with ⟨realm₁, title₁, role₁⟩
  rcases other with ⟨realm₂, title₂, role₂⟩
  simp only [TypeKey.within, TypeKey.mk.injEq, true_and] at free free' same
  rw [free, free', same.1, same.2]

theorem get?_within (outside : Outside r) {key : TypeKey} (free : key.realm = none) :
    (r.within realm).get? (key.within realm) = (r.get? key).map (TypeRef.within realm) := by
  have keys := outside.keys
  unfold get? within
  dsimp only
  generalize r.entries = entries at keys
  induction entries with
  | nil => rfl
  | cons entry rest ih =>
      rcases entry with ⟨other, ref⟩
      obtain ⟨first, later⟩ := List.forall_mem_cons.mp keys
      rw [List.map_cons, List.lookup_cons, List.lookup_cons]
      by_cases same : key = other
      · simp [same]
      · have apart : key.within realm ≠ other.within realm := fun moved =>
          same (key_injective free first moved)
        rw [beq_false_of_ne same, beq_false_of_ne apart]
        exact ih later

theorem register_within (outside : Outside r) {key : TypeKey} (free : key.realm = none)
    (ref : TypeRef) :
    (r.within realm).register (key.within realm) (ref.within realm) =
      (r.register key ref).within realm := by
  unfold register
  rw [get?_within outside free]
  cases r.get? key with
  | some other => rfl
  | none => simp [within]

/-- A type may be made before or after the registry is moved. -/
theorem establish_within (outside : Outside r) {key : TypeKey} (free : key.realm = none)
    (type : NamedType) :
    (r.within realm).establish (key.within realm) (type.within realm) =
      (r.establish key type).within realm := by
  have added : Outside (r.addType type).1 := ⟨outside.realm, outside.keys⟩
  have moved : ((r.within realm).addType (type.within realm)).1 =
      (r.addType type).1.within realm := by
    simp [addType, within]
  have next : (r.within realm).nextRef = r.nextRef.within realm := by
    simp [nextRef, within, TypeRef.within]
  rw [establish, establish, moved, next, register_within added free]

theorem Outside.establish (outside : Outside r) {key : TypeKey} (free : key.realm = none)
    (type : NamedType) : Outside (r.establish key type) := by
  have added : Outside (r.addType type).1 := ⟨outside.realm, outside.keys⟩
  unfold Registry.establish register
  split
  · exact added
  · refine ⟨added.realm, List.forall_mem_append.mpr ⟨added.keys, ?_⟩⟩
    simpa using free

theorem handOut_within (r : Registry) (title : String) :
    (r.within realm).handOut title = (r.handOut title).within realm := by
  unfold handOut
  by_cases known : r.titles.contains title
  · rw [if_pos known]
    exact if_pos known
  · rw [if_neg known]
    exact if_neg known

theorem entitle_within (r : Registry) (origin : Origin) (label : Label) (hint : String) :
    (r.within realm).entitle origin label hint =
      (r.entitle origin label hint).map fun result => (result.1, result.2.within realm) := by
  have untitled : (r.within realm).untitled = r.untitled := rfl
  have titles : (r.within realm).titles = r.titles := rfl
  unfold entitle
  rw [untitled, titles]
  split
  · split
    · rfl
    · simp only [handOut_within, Option.map_some]
      rfl
  · simp only [handOut_within, Option.map_some]
  · rfl

theorem Outside.entitle (outside : Outside r) {r' : Registry} {origin : Origin} {label : Label}
    {hint title : String} (titled : r.entitle origin label hint = some (title, r')) :
    Outside r' := by
  have same := (entitle_extends titled).realm
  exact ⟨same.trans outside.realm, by
    rw [entitle_entries titled]
    exact outside.keys⟩

theorem updateType_within (r : Registry) (ref : TypeRef) {f f' : NamedType -> NamedType}
    (same : ∀ type, f' (type.within realm) = (f type).within realm) :
    (r.within realm).updateType (ref.within realm) f' = (r.updateType ref f).within realm := by
  cases ref with
  | named id =>
      have types : (r.types.map (NamedType.within realm)).modify id.index f' =
          (r.types.modify id.index f).map (NamedType.within realm) := by
        refine Array.ext_getElem? fun i => ?_
        rw [Array.getElem?_modify, Array.getElem?_map, Array.getElem?_map, Array.getElem?_modify]
        split
        · cases r.types[i]? <;> simp [same]
        · rfl
      simp [updateType, within, TypeRef.within, types]
  | _ => rfl

theorem Outside.updateType (outside : Outside r) (ref : TypeRef) (f : NamedType -> NamedType) :
    Outside (r.updateType ref f) := by
  cases ref <;> exact ⟨outside.realm, outside.keys⟩

end Registry

end GraphFacade
