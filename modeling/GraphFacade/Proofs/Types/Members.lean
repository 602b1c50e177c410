import GraphFacade.Proofs.Spelling
import GraphFacade.Proofs.Steps
import GraphFacade.Proofs.Types.Coming
import GraphFacade.Types.Answer
import Mathlib.Data.List.Pairwise

/-!
# Members stand for their literals

An enumeration has one member for each of its literals that does not equal an
earlier one, under a name of its own.  So a literal goes out under one name, and
what comes back under that name is the literal.
-/

namespace GraphFacade

theorem Json.same_text {s t : String} :
    (Json.text s).same (.text t) = true ↔ Text.codes s.toList = Text.codes t.toList := by
  rw [Json.same, Atom.same, beq_iff_eq]
  exact AtomKey.text.injEq _ _ ▸ Iff.rfl

namespace Name

/-! ## Distinct literals -/

theorem loop_eq_distinct (seen literals : List Json) :
    List.eraseDupsBy.loop Json.same literals seen.reverse = seen ++ distinct seen literals := by
  induction literals generalizing seen with
  | nil => simp [List.eraseDupsBy.loop, distinct]
  | cons literal rest ih =>
      rw [List.eraseDupsBy.loop.eq_2, List.any_reverse, distinct]
      cases known : seen.any literal.same with
      | true => exact ih seen
      | false =>
          have longer := ih (seen ++ [literal])
          rw [List.reverse_append, List.reverse_singleton, List.singleton_append] at longer
          rw [if_neg Bool.false_ne_true, longer, List.append_assoc, List.singleton_append]

theorem distinct_eq_eraseDupsBy (literals : List Json) :
    distinct [] literals = literals.eraseDupsBy Json.same :=
  (loop_eq_distinct [] literals).symm

theorem mem_of_mem_distinct {seen literals : List Json} {literal : Json}
    (h : literal ∈ distinct seen literals) :
    literal ∈ literals ∧ seen.any literal.same = false := by
  induction literals generalizing seen with
  | nil => simp [distinct] at h
  | cons first rest ih =>
      rw [distinct] at h
      split at h
      · exact ⟨List.mem_cons_of_mem _ (ih h).1, (ih h).2⟩
      · rename_i new
        rcases List.mem_cons.mp h with rfl | later
        · exact ⟨List.mem_cons_self, by simpa using new⟩
        · obtain ⟨member, apart⟩ := ih later
          rw [List.any_append, Bool.or_eq_false_iff] at apart
          exact ⟨List.mem_cons_of_mem _ member, apart.1⟩

theorem distinct_pairwise (seen literals : List Json) :
    (distinct seen literals).Pairwise fun a b => b.same a = false := by
  induction literals generalizing seen with
  | nil => exact .nil
  | cons literal rest ih =>
      rw [distinct]
      split
      · exact ih seen
      · refine .cons (fun later among => ?_) (ih _)
        have apart := (mem_of_mem_distinct among).2
        rw [List.any_append, Bool.or_eq_false_iff] at apart
        simpa using apart.2

theorem same_of_mem (seen : List Json) {literals : List Json} {literal : Json}
    (member : literal ∈ literals) (itself : literal.same literal = true) :
    ∃ kept ∈ seen ++ distinct seen literals, literal.same kept = true := by
  induction literals generalizing seen with
  | nil => simp at member
  | cons first rest ih =>
      rw [distinct]
      split
      · rename_i known
        rcases List.mem_cons.mp member with rfl | later
        · obtain ⟨kept, there, same⟩ := List.any_eq_true.mp known
          exact ⟨kept, List.mem_append_left _ there, same⟩
        · exact ih seen later
      · rcases List.mem_cons.mp member with rfl | later
        · exact ⟨literal, by simp, itself⟩
        · obtain ⟨kept, there, same⟩ := ih (seen ++ [first]) later
          exact ⟨kept, by simpa using there, same⟩

/-! ## Members of distinct literals -/

/-- The members are made of the literals that are kept, in their order. -/
theorem values_members (literals : List Json) :
    (members literals).map Prod.snd = distinct [] literals := by
  have added : ∀ (rest : List Json) (made : Entries Json),
      (rest.foldl (fun made literal =>
        made ++ [(fresh (made.map Prod.fst) (memberBase literal), literal)]) made).map Prod.snd =
          made.map Prod.snd ++ rest := by
    intro rest
    induction rest with
    | nil => exact fun made => (List.append_nil _).symm
    | cons literal rest ih =>
        intro made
        rw [List.foldl_cons, ih, List.map_append, List.map_singleton, List.append_assoc,
          List.singleton_append]
  exact added _ []

variable {texts : List String} {member other : String × Json}

/-- Literals have members if those that are kept have texts. -/
theorem shownMembers_eq (literals : List Json) :
    shownMembers literals =
      if ∀ literal ∈ distinct [] literals, literal.longest ≤ Text.digitLimit then
        .ok (members literals)
      else .error .badNumeral := by
  have shown : Json.shown = fun literal =>
      if literal.longest ≤ Text.digitLimit then .ok literal.display else .error .badNumeral := rfl
  unfold shownMembers
  rw [shown, Steps.except_mapM_ite]
  split <;> rfl

theorem shownMembers_texts (texts : List String) :
    shownMembers (texts.map .text) = .ok (members (texts.map .text)) := by
  rw [shownMembers_eq, if_pos]
  intro literal kept
  obtain ⟨text, _, rfl⟩ := List.mem_map.mp (mem_of_mem_distinct kept).1
  exact Nat.zero_le _

theorem text_of_mem_members (h : member ∈ members (texts.map .text)) :
    ∃ text ∈ texts, member.2 = .text text := by
  have value : member.2 ∈ (members (texts.map .text)).map Prod.snd := List.mem_map_of_mem h
  rw [values_members] at value
  obtain ⟨text, among, same⟩ := List.mem_map.mp (mem_of_mem_distinct value).1
  exact ⟨text, among, same.symm⟩

theorem eq_of_same (h : member ∈ members (texts.map .text))
    (h' : other ∈ members (texts.map .text)) (same : member.2.same other.2 = true) :
    member = other := by
  have later : (members (texts.map .text)).Pairwise fun a b => b.2.same a.2 = false := by
    have values := distinct_pairwise [] (texts.map .text)
    rwa [← values_members, List.pairwise_map] at values
  have earlier : (members (texts.map .text)).Pairwise fun a b => a.2.same b.2 = false := by
    refine later.imp_of_mem fun {a b} there there' apart => ?_
    obtain ⟨s, _, isText⟩ := text_of_mem_members there
    obtain ⟨t, _, isText'⟩ := text_of_mem_members there'
    rw [isText, isText', ← Bool.not_eq_true, Json.same_text] at apart ⊢
    exact Ne.symm apart
  refine List.Pairwise.forall_of_forall_of_flip (R := fun a b => a.2.same b.2 = true -> a = b)
    (fun _ _ _ => rfl) (earlier.imp fun apart same => ?_) (later.imp fun apart same => ?_) h h' same
  · simp [apart] at same
  · simp [apart] at same

end Name

/-! ## There and back -/

namespace Answer

/--
Each literal goes out under a name that comes back as the literal, and each name
comes back as something that goes out under it.
-/
structure Exchanges (literals : List String) (members : Entries Json) : Prop where
  literal : ∀ text ∈ literals, ∃ name, ∃ back ∈ literals,
    serialize? members (.text text) = some (.text name) ∧
      parse? members (.text name) = some (.text back) ∧
      Text.codes back.toList = Text.codes text.toList
  name : ∀ name value, parse? members (.text name) = some value ->
    serialize? members value = some (.text name)

theorem serialize?_of_mem {texts : List String} {text : String} {member : String × Json}
    (h : member ∈ Name.members (texts.map .text)) (same : member.2.same (.text text) = true) :
    serialize? (Name.members (texts.map .text)) (.text text) = some (.text member.1) := by
  cases found : (Name.members (texts.map .text)).find? fun other =>
      other.2.same (.text text) with
  | none => exact absurd same (List.find?_eq_none.mp found member h)
  | some other =>
      have there := List.mem_of_find?_eq_some found
      have same' : other.2.same (.text text) = true := by simpa using List.find?_some found
      obtain ⟨s, _, isText⟩ := Name.text_of_mem_members h
      obtain ⟨t, _, isText'⟩ := Name.text_of_mem_members there
      have one : member = other := by
        refine Name.eq_of_same h there ?_
        rw [isText, Json.same_text] at same
        rw [isText', Json.same_text] at same'
        rw [isText, isText', Json.same_text, same, same']
      rw [serialize?, found, one, Option.map_some]

theorem exchanges_members (texts : List String) :
    Exchanges texts (Name.members (texts.map .text)) where
  literal := by
    intro text among
    obtain ⟨kept, there, same⟩ := Name.same_of_mem []
      (List.mem_map_of_mem (f := Json.text) among) (Json.same_text.mpr rfl)
    rw [List.nil_append, ← Name.values_members] at there
    obtain ⟨member, isMember, rfl⟩ := List.mem_map.mp there
    obtain ⟨back, among', isText⟩ := Name.text_of_mem_members isMember
    rw [isText, Json.same_text] at same
    refine ⟨member.1, back, among', ?_, ?_, same.symm⟩
    · exact serialize?_of_mem isMember (by rw [isText, Json.same_text, same])
    · have distinct := (Name.members_wellNamed (texts.map .text)).distinct
      exact Entries.lookup_of_mem distinct (isText ▸ isMember)
  name := by
    intro name value comes
    have isMember := Entries.mem_of_lookup comes
    obtain ⟨back, _, isText⟩ := Name.text_of_mem_members isMember
    replace isText : value = .text back := isText
    rw [isText] at isMember ⊢
    exact serialize?_of_mem isMember (Json.same_text.mpr rfl)

end Answer

/-! ## Enumerations of texts -/

namespace Mapping

open Registry Workshop Steps

variable {origin : Origin} {label : Label} {hint title : String} {realm : Option String}

theorem title_of_new {r : Registry}
    (h : ({ realm } : Registry).entitle origin label hint = some (title, r)) :
    label.title.getD (.text hint) = .text title := by
  rcases entitle_cases h with ⟨_, known, _⟩ | ⟨untitled, _, rfl, _⟩ | ⟨own, _⟩
  · simp at known
  · rw [untitled]
    rfl
  · rw [own]
    rfl

theorem no_title_of_new (h : ({ realm } : Registry).entitle origin label hint = none) :
    label.title.getD (.text hint) ≠ .text title := by
  unfold entitle at h
  split at h
  · simp at h
  · simp at h
  · rename_i value noText own
    rw [own]
    exact noText title

/--
An enumeration of texts that is mapped first has a type, unless its title is no
text or its name is reserved; the members of the type are made of the texts.
-/
theorem mapSchema_enum {schema : Schema} {kind : Option ScalarKind} {texts : List String}
    (root : schema.root = .enum label kind (texts.map .text)) (origin : Origin)
    (isInput required : Bool) (hint : String) (realm : Option String) :
    (∃ title w', label.title.getD (.text hint) = .text title ∧
      ({ realm } : Registry).typeName title .enum ∉ reservedTypeNames ∧
      mapSchema schema origin isInput hint required { registry := { realm } } =
        .ok (requireIf required (.named ⟨realm, 0⟩)) w' ∧
      w'.registry.type? ⟨realm, 0⟩ = some (.enum (({ realm } : Registry).typeName title .enum)
        (describe label.description) (Name.members (texts.map .text)))) ∨
    ((∀ title, label.title.getD (.text hint) = .text title ->
      ({ realm } : Registry).typeName title .enum ∈ reservedTypeNames) ∧
      ∃ fault w', mapSchema schema origin isInput hint required { registry := { realm } } =
        .error fault w') := by
  have named : role? schema isInput (.enum label kind (texts.map .text)) = some .enum := by
    simp [role?, Json.isText]
  rw [mapSchema_eq, root, work_named named]
  cases entitled : ({ realm } : Registry).entitle origin label hint with
  | none =>
      simp only [Node.label, entitled]
      exact .inr ⟨fun title text => absurd text (no_title_of_new entitled), _, _, rfl⟩
  | some result =>
      rcases result with ⟨title, r⟩
      have text := title_of_new entitled
      have same := (entitle_extends entitled).typeName title .enum
      have realm' : r.realm = realm := (entitle_extends entitled).realm
      have types : r.types = #[] := entitle_types entitled
      have free : r.get? (r.key title .enum) = none := by
        rw [Registry.get?, entitle_entries entitled]
        rfl
      simp only [Node.label, entitled, free, blank, NamedType.name, same, shapeOf, work_done]
      by_cases reserved : ({ realm } : Registry).typeName title .enum ∈ reservedTypeNames
      · rw [if_pos reserved]
        refine .inr ⟨fun title' text' => ?_, _, _, rfl⟩
        rw [text, Json.atom.injEq, Atom.text.injEq] at text'
        exact text' ▸ reserved
      · rw [if_neg reserved]
        have made : r.nextRef = .named ⟨realm, 0⟩ := by
          rw [nextRef, realm', types]
          rfl
        refine .inl ⟨title, _, text, reserved, by rw [made], ?_⟩
        simp [establish_of_free _ free, type?, realm', types]

/--
The members of any texts are named apart, by valid names that are none of true,
false and null, and stand for the texts that equal no earlier one, in their
order.  An enumeration of these texts that is mapped first, in any realm and on
either side, has a type with these members, unless its title is no text or its
name is reserved; what goes out of that type comes back, and the other way round.
-/
theorem mapSchema_exchanges (texts : List String) :
    (Name.members (texts.map .text)).WellNamedMembers ∧
    (Name.members (texts.map .text)).map Prod.snd = (texts.map .text).eraseDupsBy Json.same ∧
    ∀ (schema : Schema) (label : Label) (kind : Option ScalarKind),
      schema.root = .enum label kind (texts.map .text) ->
      ∀ (origin : Origin) (isInput required : Bool) (hint : String) (realm : Option String),
        ((∃ type w', mapSchema schema origin isInput hint required { registry := { realm } } =
            .ok type w') ↔
          ∃ title, label.title.getD (.text hint) = .text title ∧
            ({ realm } : Registry).typeName title .enum ∉ reservedTypeNames) ∧
        ∀ type w', mapSchema schema origin isInput hint required { registry := { realm } } =
            .ok type w' ->
          ∃ id name about, type.nullable = .named id ∧
            w'.registry.type? id = some (.enum name about (Name.members (texts.map .text))) ∧
            Answer.Exchanges texts (Name.members (texts.map .text)) := by
  refine ⟨Name.members_wellNamed _, ?_, ?_⟩
  · rw [Name.values_members, Name.distinct_eq_eraseDupsBy]
  · intro schema label kind root origin isInput required hint realm
    rcases mapSchema_enum root origin isInput required hint realm with
      ⟨title, w', text, allowed, mapped, made⟩ | ⟨reserved, fault, w', failed⟩
    · refine ⟨⟨fun _ => ⟨title, text, allowed⟩, fun _ => ⟨_, _, mapped⟩⟩, fun type w'' again => ?_⟩
      rw [mapped, EStateM.Result.ok.injEq] at again
      obtain ⟨rfl, rfl⟩ := again
      refine ⟨_, _, _, ?_, made, Answer.exchanges_members texts⟩
      cases required <;> rfl
    · refine ⟨⟨fun ⟨_, _, mapped⟩ => ?_, fun ⟨title, text, allowed⟩ => ?_⟩, fun _ _ mapped => ?_⟩
      · simp [failed] at mapped
      · exact absurd (reserved title text) allowed
      · simp [failed] at mapped

def shades : List String :=
  ["sea-green", "sea green", "sea_green_2", "true", "sea-green"]

/-- Four of the five shades have a name of their own, and the enumeration has a type. -/
theorem mapSchema_exchanges_shades :
    (Name.members (shades.map .text)).map Prod.fst =
      ["sea_green", "sea_green_2", "sea_green_2_2", "true_"] ∧
    ∃ type w' id name about,
      mapSchema ⟨.enum ⟨0, some (.text "Shade"), .null⟩ (some .string) (shades.map .text), #[]⟩
        ⟨.text "paint", 1⟩ true "paint_shade" true { registry := { realm := some "shop" } } =
          .ok type w' ∧
      type.nullable = .named id ∧
      w'.registry.type? id = some (.enum name about (Name.members (shades.map .text))) ∧
      Answer.Exchanges shades (Name.members (shades.map .text)) := by
  refine ⟨by decide +kernel, ?_⟩
  obtain ⟨_, _, mapped⟩ := mapSchema_exchanges shades
  obtain ⟨returns, given⟩ := mapped
    ⟨.enum ⟨0, some (.text "Shade"), .null⟩ (some .string) (shades.map .text), #[]⟩ _ _ rfl
    ⟨.text "paint", 1⟩ true true "paint_shade" (some "shop")
  obtain ⟨type, w', h⟩ := returns.mpr ⟨"Shade", rfl, by decide +kernel⟩
  obtain ⟨id, name, about, nullable, made, exchanges⟩ := given type w' h
  exact ⟨type, w', id, name, about, h, nullable, made, exchanges⟩

end Mapping

end GraphFacade
