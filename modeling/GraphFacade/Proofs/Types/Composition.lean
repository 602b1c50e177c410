import GraphFacade.Proofs.Steps
import GraphFacade.Types.Assembly

/-!
# What mapping and assembling are made of

All steps on a registry are made of a few primitive ones.  A property that these
have, and that sequences of steps keep, is one of mapping a schema and of
assembling endpoints, however long they run.
-/

namespace GraphFacade

namespace Workshop

/--
A property that primitive steps have which do not change the registry, faults of
a certain kind among them, and that sequences of steps keep.
-/
structure Sequences (kind : Fault -> Prop) (P : ∀ {α : Type}, Step α -> Prop) : Prop where
  pure : ∀ {α : Type} (a : α), P (pure a : Step α)
  throw : ∀ {α : Type} {fault : Fault}, kind fault -> P (throw fault : Step α)
  bind : ∀ {α β : Type} {step : Step α} {next : α -> Step β},
    P step -> (∀ a, P (next a)) -> P (step >>= next)
  current : P current
  report : ∀ event : Event, P (report event)

/-- A property of all primitive steps that sequences of steps keep. -/
structure Composes (kind : Fault -> Prop) (P : ∀ {α : Type}, Step α -> Prop) : Prop
    extends Sequences kind P where
  change : ∀ f : Registry -> Registry, P (change f)

end Workshop

namespace Mapping

open Workshop

/--
How mapping fails: at a title that is no text, at a reserved name, or because
the schema is nested deeper than it has objects.
-/
def Refuses (fault : Fault) : Prop :=
  fault = .wrongKind ∨ fault = .endless ∨ ∃ name ∈ reservedTypeNames, fault = .reservedType name

section Composes

variable {kind : Fault -> Prop} {P : ∀ {α : Type}, Step α -> Prop}

theorem degrade_sequences (h : Sequences kind P) (path reason : String) :
    P (degrade path reason) :=
  h.bind (h.report _) fun _ => h.pure _

variable (h : Composes kind P) (refuses : ∀ fault, Refuses fault -> kind fault)

include h

theorem degrade_composes (path reason : String) : P (degrade path reason) :=
  degrade_sequences h.toSequences path reason

include refuses

theorem textTitle_composes (origin : Origin) (label : Label) (hint : String) :
    P (textTitle origin label hint) := by
  have wrongKind : ∀ {α : Type}, P (throw .wrongKind : Step α) := h.throw (refuses _ (.inl rfl))
  have untitled : P (untitledName ⟨origin, label.id⟩ hint) := by
    refine h.bind h.current fun r => ?_
    split
    · exact h.pure _
    · exact h.bind (h.change _) fun _ => h.pure _
  have titled : P (titleOf origin label hint) := by
    unfold titleOf
    split
    · exact h.bind untitled fun _ => h.pure _
    · exact h.bind (h.change _) fun _ => h.pure _
    · exact h.pure _
    · exact wrongKind
  refine h.bind titled fun title => ?_
  split
  · exact h.pure _
  · exact wrongKind

theorem makeType_composes (key : TypeKey) (type : NamedType) : P (makeType key type) := by
  unfold makeType
  split
  · rename_i reserved
    exact h.throw (refuses _ (.inr (.inr ⟨type.name, by simpa using reserved, rfl⟩)))
  · exact h.bind h.current fun r => h.bind (h.change _) fun _ => h.pure _

theorem mapEnum_composes (origin : Origin) (label : Label) (literals : List Json)
    (hint : String) : P (mapEnum origin label literals hint) := by
  unfold mapEnum
  split
  · refine h.bind (textTitle_composes h refuses _ _ _) fun title => h.bind h.current fun r => ?_
    dsimp only
    split
    · exact h.pure _
    · exact makeType_composes h refuses _ _
  · split
    · exact h.pure _
    · split
      · exact h.pure _
      · exact degrade_composes h _ _

theorem mapNode_composes {origin : Origin} {object : Label -> Nat -> String -> Step TypeRef}
    (objects : ∀ label index hint, P (object label index hint)) (node : Node) (hint : String) :
    P (mapNode origin object node hint) := by
  induction node generalizing hint with
  | enum label kind literals => exact mapEnum_composes h refuses origin label literals hint
  | list label items ih => exact h.bind (ih _) fun _ => h.pure _
  | object label index => exact objects label index hint
  | any label reason => exact degrade_composes h hint reason
  | _ => exact h.pure _

omit refuses in
theorem mapProperties_composes {isInput : Bool} {map : Node -> String -> Step TypeRef}
    (maps : ∀ node hint, P (map node hint)) (required : List String) (title : String)
    (owner : TypeRef) (properties : List (String × Node)) :
    P (mapProperties isInput map required title owner properties) := by
  induction properties with
  | nil => exact h.pure _
  | cons property rest ih => exact h.bind (maps _ _) fun _ => h.bind (h.change _) fun _ => ih

theorem mapObject_composes (schema : Schema) (origin : Origin) (isInput : Bool) (fuel : Nat)
    (label : Label) (index : Nat) (hint : String) :
    P (mapObject schema origin isInput fuel label index hint) := by
  induction fuel generalizing label index hint with
  | zero => exact h.throw (refuses _ (.inr (.inl rfl)))
  | succ fuel ih =>
      unfold mapObject
      dsimp only
      split
      · exact degrade_composes h _ _
      · refine h.bind (textTitle_composes h refuses _ _ _) fun title => h.bind h.current fun r => ?_
        split
        · exact h.pure _
        · refine h.bind (makeType_composes h refuses _ _) fun owner => ?_
          exact h.bind (mapProperties_composes h (mapNode_composes h refuses ih) _ _ _ _)
            fun _ => h.pure _

/-- Mapping a schema is made of primitive steps. -/
theorem mapSchema_composes (schema : Schema) (origin : Origin) (isInput : Bool) (hint : String)
    (required : Bool) : P (mapSchema schema origin isInput hint required) :=
  h.bind (mapNode_composes h refuses (mapObject_composes h refuses schema origin isInput _) _ _)
    fun _ => h.pure _

end Composes

end Mapping

namespace Assembly

open Workshop Mapping Steps

/--
How assembling fails: with a fault of its own, at an operation id that has no
text, or as mapping does.
-/
def Refuses (fault : Fault) : Prop :=
  fault.family = .construction ∨ fault = .badNumeral ∨ Mapping.Refuses fault

section Sequences

variable {kind : Fault -> Prop} {P : ∀ {α : Type}, Step α -> Prop} (h : Sequences kind P)
  (refuses : ∀ fault, Refuses fault -> kind fault)
  (maps : ∀ schema origin isInput hint required,
    P (mapSchema schema origin isInput hint required))

include h

theorem shown_sequences (long : kind .badNumeral) (j : Json) :
    P (MonadExcept.ofExcept j.shown : Step String) := by
  unfold Json.shown Text.limited
  split
  · exact h.pure _
  · exact h.throw long

include maps

theorem responseType_sequences (long : kind .badNumeral) (key : Atom) (endpoint : Endpoint) :
    P (responseType key endpoint) := by
  refine h.bind (shown_sequences h long _) fun shown => ?_
  dsimp only
  split
  · exact maps _ _ _ _ _
  · exact h.bind (degrade_sequences h _ _) fun _ => h.pure _

include refuses

theorem mapParameters_sequences (operationId : Json) (key : Atom) (part : Nat)
    (arguments : Entries Argument) (parameters : List Parameter) :
    P (mapParameters operationId key part arguments parameters) := by
  induction parameters generalizing part arguments with
  | nil => exact h.pure _
  | cons parameter rest ih =>
      unfold mapParameters
      split
      · exact h.throw (refuses _ (.inr (.inr (.inl rfl))))
      · split
        · exact h.throw (refuses _ (.inl rfl))
        · refine h.bind (shown_sequences h (refuses _ (.inr (.inl rfl))) _) fun shown => ?_
          exact h.bind (maps _ _ _ _ _) fun _ => ih _ _

theorem fieldOf_sequences (key : Atom) (endpoint : Endpoint) : P (fieldOf key endpoint) := by
  refine h.bind (responseType_sequences h maps (refuses _ (.inr (.inl rfl))) key endpoint)
    fun _ => ?_
  exact h.bind (mapParameters_sequences h refuses maps _ _ _ _ _) fun _ => h.pure _

theorem fieldsOf_sequences (fields : Entries Field) (endpoints : EndpointSet) :
    P (fieldsOf fields endpoints) := by
  induction endpoints generalizing fields with
  | nil => exact h.pure _
  | cons entry rest ih =>
      unfold fieldsOf
      split
      · exact h.throw (refuses _ (.inr (.inr (.inl rfl))))
      · split
        · exact h.throw (refuses _ (.inl rfl))
        · exact h.bind (fieldOf_sequences h refuses maps _ _) fun _ => ih _

theorem partition_sequences (endpoints : EndpointSet) (mutation : Bool) :
    P (partition endpoints mutation) := by
  have sorts : P (MonadExcept.ofExcept endpoints.sorted : Step EndpointSet) := by
    unfold EndpointSet.sorted
    split
    · split <;> exact h.pure _
    · exact h.throw (refuses _ (.inr (.inr (.inl rfl))))
  exact h.bind sorts fun _ => fieldsOf_sequences h refuses maps _ _

theorem assemble_sequences (endpoints : EndpointSet) : P (assemble endpoints) := by
  refine h.bind (partition_sequences h refuses maps _ _) fun query => ?_
  split
  · exact h.bind h.current fun _ => h.throw (refuses _ (.inl rfl))
  · exact h.bind (partition_sequences h refuses maps _ _) fun _ => h.pure _

end Sequences

theorem assemble_composes {kind : Fault -> Prop} {P : ∀ {α : Type}, Step α -> Prop}
    (h : Composes kind P) (refuses : ∀ fault, Refuses fault -> kind fault)
    (endpoints : EndpointSet) : P (assemble endpoints) :=
  assemble_sequences h.toSequences refuses
    (mapSchema_composes h fun _ => refuses _ ∘ .inr ∘ .inr) endpoints

end Assembly

end GraphFacade
