import GraphFacade.Endpoint.Basic
import Mathlib.Data.List.Nodup

/-!
# The order of keys

Keys of one kind, texts or numbers, are in a linear order; only not-a-number is
in none.  So endpoints whose keys are all different can be sorted in one way
only, however they were listed before.
-/

namespace GraphFacade

namespace Name

theorem ofText_congr {s t : String} (same : Text.codes s.toList = Text.codes t.toList) :
    ofText s = ofText t := by
  simp only [ofText, replaceForeign, same]

end Name

namespace AtomKey

variable {a b c : AtomKey}

def Alike (a b : AtomKey) : Prop :=
  (a.isText ∧ b.isText) ∨ (a.isNumber ∧ b.isNumber ∧ a ≠ .nan ∧ b ≠ .nan)

theorem isText_of_isNumber (number : a.isNumber) : a.isText = false := by
  cases a with
  | text => simp [isNumber] at number
  | _ => rfl

theorem less_asymm (h : a.less b = true) : b.less a = false := by
  cases a with
  | number m =>
      cases b with
      | number n =>
          simp only [less, decide_eq_true_eq, decide_eq_false_iff_not] at h ⊢
          omega
      | infinite negative => simpa [less] using h
      | _ => rfl
  | infinite negative =>
      cases b with
      | number n => simpa [less] using h
      | infinite negative' => cases negative <;> cases negative' <;> simp_all [less]
      | _ => rfl
  | text s =>
      cases b with
      | text t =>
          simp only [less, decide_eq_true_eq, decide_eq_false_iff_not] at h ⊢
          exact List.lt_asymm h
      | _ => rfl
  | _ => cases b <;> simp [less] at h

theorem less_text {s t : List Nat} : (text s).less (text t) = false ↔ ¬ s < t := by
  simp only [less, decide_eq_false_iff_not]

/-- Where a number stands: its sign if it is infinite, else its size. -/
def place : AtomKey -> Int × Int
  | number units => (0, units)
  | infinite negative => (if negative then -1 else 1, 0)
  | _ => (0, 0)

/-- Numbers compare as their places do, one after the other. -/
theorem less_number (number : a.isNumber) (number' : b.isNumber) (ranked : a ≠ .nan)
    (ranked' : b ≠ .nan) :
    a.less b = false ↔
      b.place.1 < a.place.1 ∨ b.place.1 = a.place.1 ∧ b.place.2 ≤ a.place.2 := by
  cases a with
  | number m =>
      cases b with
      | number n => simp [less, place]
      | infinite negative => cases negative <;> simp [less, place]
      | _ => simp_all [isNumber]
  | infinite negative =>
      cases b with
      | number n => cases negative <;> simp [less, place]
      | infinite negative' => cases negative <;> cases negative' <;> simp [less, place]
      | _ => simp_all [isNumber]
  | _ => simp_all [isNumber]

theorem place_injective (number : a.isNumber) (number' : b.isNumber) (ranked : a ≠ .nan)
    (ranked' : b ≠ .nan) (same : a.place = b.place) : a = b := by
  cases a <;> cases b <;> simp_all [isNumber, place]
  · rename_i m negative
    cases negative <;> simp at same
  · rename_i negative n
    cases negative <;> simp at same
  · rename_i negative negative'
    cases negative <;> cases negative' <;> simp at same ⊢

theorem Alike.eq_of_not_less (alike : Alike a b) (h : a.less b = false) (h' : b.less a = false) :
    a = b := by
  rcases alike with ⟨text, text'⟩ | ⟨number, number', ranked, ranked'⟩
  · cases a <;> cases b <;> simp only [isText, Bool.false_eq_true] at text text'
    rw [less_text] at h h'
    rw [List.le_antisymm (List.not_lt.mp h') (List.not_lt.mp h)]
  · rw [less_number number number' ranked ranked'] at h
    rw [less_number number' number ranked' ranked] at h'
    refine place_injective number number' ranked ranked' (Prod.ext ?_ ?_) <;> omega

theorem Alike.not_less_trans (first : Alike a b) (second : Alike b c) (h : b.less a = false)
    (h' : c.less b = false) : c.less a = false := by
  rcases first with ⟨text, text'⟩ | ⟨number, number', ranked, ranked'⟩
  · rcases second with ⟨_, text''⟩ | ⟨other, _⟩
    · cases a <;> cases b <;> cases c <;>
        simp only [isText, Bool.false_eq_true] at text text' text''
      rw [less_text] at h h' ⊢
      exact List.not_lt.mpr (List.le_trans (List.not_lt.mp h) (List.not_lt.mp h'))
    · simp [isText_of_isNumber other] at text'
  · rcases second with ⟨other, _⟩ | ⟨_, number'', _, ranked''⟩
    · simp [isText_of_isNumber number'] at other
    · rw [less_number number' number ranked' ranked] at h
      rw [less_number number'' number' ranked'' ranked'] at h'
      rw [less_number number'' number ranked'' ranked]
      omega

end AtomKey

/-! ## Sorting what can be sorted -/

/-- Sorting puts the elements of a list in order if these are in one, whatever else is in none. -/
theorem pairwise_mergeSort_of_mem {α : Type} {le : α -> α -> Bool} {elements : List α}
    (trans : ∀ a ∈ elements, ∀ b ∈ elements, ∀ c ∈ elements, le a b -> le b c -> le a c)
    (total : ∀ a ∈ elements, ∀ b ∈ elements, le a b || le b a) :
    (elements.mergeSort le).Pairwise fun a b => le a b := by
  have within : (elements.attach.mergeSort fun a b => le a.1 b.1).Pairwise fun a b =>
      le a.1 b.1 := by
    refine List.pairwise_mergeSort (fun a b c => ?_) (fun a b => ?_) elements.attach
    · exact trans a.1 a.2 b.1 b.2 c.1 c.2
    · exact total a.1 a.2 b.1 b.2
  have same : (elements.attach.mergeSort fun a b => le a.1 b.1).map Subtype.val =
      elements.mergeSort le := by
    rw [List.map_mergeSort (s := le) fun _ _ _ _ => rfl, List.attach_map_subtype_val]
  rw [← same, List.pairwise_map]
  exact within

namespace EndpointSet

variable {endpoints endpoints' order : EndpointSet}

def keys (endpoints : EndpointSet) : List AtomKey :=
  endpoints.map fun entry => entry.1.key

theorem sorted_perm (h : endpoints.sorted = .ok order) : order.Perm endpoints := by
  unfold sorted at h
  split at h
  · split at h
    · rw [← Except.ok.inj h]
      exact Ranking.sort_perm _ _
    · rw [← Except.ok.inj h]
      exact List.mergeSort_perm _ _
  · simp at h

/-- Without not-a-number, endpoints are sorted if their keys can be compared. -/
theorem sorted_of_ranked (ranked : .nan ∉ endpoints.keys) :
    endpoints.sorted =
      if endpoints.comparable then .ok (endpoints.mergeSort fun a b => !before b a)
      else .error .wrongKind := by
  have none' : (endpoints.any fun entry => entry.1.key == .nan) = false := by
    rw [List.any_eq_false]
    intro entry member same
    exact ranked (List.mem_map.mpr ⟨entry, member, eq_of_beq same⟩)
  rw [sorted, none']
  rfl

theorem comparable_of_sorted (h : endpoints.sorted = .ok order) : endpoints.comparable := by
  unfold sorted at h
  split at h
  · assumption
  · simp at h

theorem comparable_perm (moved : endpoints.Perm endpoints') :
    endpoints.comparable = endpoints'.comparable := by
  simp only [EndpointSet.comparable, moved.length_eq, moved.all_eq]

/-- Endpoints that can be compared are one, or have keys of one kind. -/
theorem comparable_cases (comparable : endpoints.comparable) :
    (∀ a ∈ endpoints, ∀ b ∈ endpoints, a = b) ∨
      (∀ entry ∈ endpoints, entry.1.key.isText = true) ∨
        ∀ entry ∈ endpoints, entry.1.key.isNumber = true := by
  simp only [EndpointSet.comparable, Bool.or_eq_true, List.all_eq_true, decide_eq_true_eq,
    or_assoc] at comparable
  refine comparable.imp_left fun few => ?_
  cases endpoints with
  | nil => simp
  | cons first rest =>
      have only : rest = [] := by simpa using few
      simp [only]

theorem alike_of_comparable (comparable : endpoints.comparable)
    (ranked : .nan ∉ endpoints.keys) {a b : Atom × Endpoint} (first : a ∈ endpoints)
    (second : b ∈ endpoints) : a = b ∨ AtomKey.Alike a.1.key b.1.key := by
  have notNan : ∀ entry ∈ endpoints, entry.1.key ≠ .nan := fun entry member same =>
    ranked (List.mem_map.mpr ⟨entry, member, same⟩)
  rcases comparable_cases comparable with few | text | number
  · exact .inl (few a first b second)
  · exact .inr (.inl ⟨text a first, text b second⟩)
  · exact .inr (.inr ⟨number a first, number b second, notNan a first, notNan b second⟩)

theorem sorted_pairwise (h : endpoints.sorted = .ok order) (ranked : .nan ∉ endpoints.keys) :
    order.Pairwise fun a b => before b a = false := by
  have comparable := comparable_of_sorted h
  have alike := @alike_of_comparable _ comparable ranked
  rw [sorted_of_ranked ranked, if_pos comparable] at h
  rw [← Except.ok.inj h]
  have inOrder : (endpoints.mergeSort fun a b => !before b a).Pairwise fun a b =>
      !before b a := by
    refine pairwise_mergeSort_of_mem ?_ ?_
    · intro a first b second c third early late
      simp only [before, Bool.not_eq_true'] at early late ⊢
      rcases alike first second with rfl | alike₁
      · exact late
      · rcases alike second third with rfl | alike₂
        · exact early
        · exact alike₁.not_less_trans alike₂ early late
    · intro a _ b _
      cases early : before a b with
      | true => simp [before, AtomKey.less_asymm early]
      | false => simp
  simpa using inOrder

theorem sorted_strict {some' : EndpointSet} (h : endpoints.sorted = .ok order)
    (ranked : .nan ∉ endpoints.keys) (fewer : some'.Sublist order) (distinct : some'.keys.Nodup) :
    some'.Pairwise fun a b => before a b := by
  have comparable := comparable_of_sorted h
  have weak := (sorted_pairwise h ranked).sublist fewer
  have apart : some'.Pairwise fun a b => a.1.key ≠ b.1.key := List.pairwise_map.mp distinct
  have among : ∀ entry ∈ some', entry ∈ endpoints := fun entry member =>
    (sorted_perm h).subset (fewer.subset member)
  refine (weak.and apart).imp_of_mem fun {a b} first second => ?_
  rintro ⟨late, different⟩
  by_contra early
  rw [Bool.not_eq_true] at early
  rcases alike_of_comparable comparable ranked (among a first) (among b second) with rfl | alike
  · exact different rfl
  · exact different (alike.eq_of_not_less early late)

theorem eq_of_strict {first second : EndpointSet} (same : first.Perm second)
    (strict : first.Pairwise fun a b => before a b)
    (strict' : second.Pairwise fun a b => before a b) : first = second := by
  refine same.eq_of_pairwise (fun a b _ _ early late => ?_) strict strict'
  have never : before b a = false := AtomKey.less_asymm early
  rw [never] at late
  exact absurd late (by simp)

theorem keys_perm (same : endpoints.Perm endpoints') : endpoints.keys.Perm endpoints'.keys :=
  same.map _

theorem sorted_congr (same : endpoints.Perm endpoints') (distinct : endpoints.keys.Nodup)
    (ranked : .nan ∉ endpoints.keys) : endpoints.sorted = endpoints'.sorted := by
  have comparable := (comparable_perm same).symm
  have ranked' : .nan ∉ endpoints'.keys := fun member =>
    ranked ((keys_perm same).mem_iff.mpr member)
  -- the keys of a sorted list are different if those of the endpoints are
  have strict : ∀ {listed order : EndpointSet}, listed.Perm endpoints' -> .nan ∉ listed.keys ->
      listed.sorted = .ok order -> order.Pairwise fun a b => before a b := by
    intro listed order perm ranked sorted
    refine sorted_strict sorted ranked (List.Sublist.refl _) ?_
    have moved := (sorted_perm sorted).trans (perm.trans same.symm)
    exact (keys_perm moved).nodup_iff.mpr distinct
  by_cases compared : endpoints.comparable
  · have first := sorted_of_ranked ranked
    have second := sorted_of_ranked ranked'
    rw [comparable, if_pos compared] at second
    rw [if_pos compared] at first
    have moved := (sorted_perm first).trans (same.trans (sorted_perm second).symm)
    rw [first, second,
      eq_of_strict moved (strict same ranked first) (strict (List.Perm.refl _) ranked' second)]
  · rw [sorted_of_ranked ranked, sorted_of_ranked ranked', comparable]
    simp only [compared, Bool.false_eq_true, ↓reduceIte]

end EndpointSet

end GraphFacade
