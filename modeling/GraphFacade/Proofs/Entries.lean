import GraphFacade.Entries
import Mathlib.Data.List.Induction
import Mathlib.Data.List.Nodup

/-!
# Entries written one after another

Which keys a list of written entries has, and in what order, and which of
several values written under one key is kept.
-/

namespace GraphFacade

namespace Entries

variable {κ α : Type} [BEq κ]

theorem ofList_append (entries : List (κ × α)) (entry : κ × α) :
    ofList (entries ++ [entry]) = put entry.1 entry.2 (ofList entries) := by
  simp [ofList]

theorem mem_put {key : κ} {value : α} {entries : List (κ × α)} {entry : κ × α}
    (h : entry ∈ put key value entries) : entry ∈ entries ∨ entry.2 = value := by
  induction entries with
  | nil =>
      rw [List.mem_singleton.mp h]
      exact .inr rfl
  | cons first rest ih =>
      simp only [put] at h
      split at h <;> rcases List.mem_cons.mp h with rfl | later
      · exact .inr rfl
      · exact .inl (List.mem_cons_of_mem _ later)
      · exact .inl List.mem_cons_self
      · rcases ih later with old | new
        · exact .inl (List.mem_cons_of_mem _ old)
        · exact .inr new

theorem mem_ofList {entries : List (κ × α)} {entry : κ × α} (h : entry ∈ ofList entries) :
    ∃ written ∈ entries, written.2 = entry.2 := by
  induction entries using List.reverseRecOn with
  | nil => simp [ofList] at h
  | append_singleton entries last ih =>
      rw [ofList_append] at h
      rcases mem_put h with old | new
      · obtain ⟨written, among, same⟩ := ih old
        exact ⟨written, List.mem_append_left _ among, same⟩
      · exact ⟨last, List.mem_append_right _ List.mem_cons_self, new.symm⟩

omit [BEq κ] in
theorem nodup_keys_snoc {key : κ} {entries : List (κ × α)}
    (distinct : (entries.map Prod.fst).Nodup) (new : key ∉ entries.map Prod.fst) (value : α) :
    ((entries ++ [(key, value)]).map Prod.fst).Nodup := by
  rw [List.map_append, List.map_singleton, ← List.concat_eq_append]
  exact distinct.concat new

variable [LawfulBEq κ]

theorem mem_of_lookup {entries : List (κ × α)} {key : κ} {value : α}
    (found : entries.lookup key = some value) : (key, value) ∈ entries := by
  obtain ⟨before, after, rfl, _⟩ := List.lookup_eq_some_iff.mp found
  simp

theorem lookup_of_mem {entries : List (κ × α)} (distinct : (entries.map Prod.fst).Nodup)
    {key : κ} {value : α} (member : (key, value) ∈ entries) :
    entries.lookup key = some value := by
  obtain ⟨before, after, rfl⟩ := List.append_of_mem member
  rw [List.map_append, List.map_cons, List.nodup_middle, List.nodup_cons] at distinct
  refine List.lookup_eq_some_iff.mpr ⟨before, after, rfl, fun entry earlier => ?_⟩
  refine bne_iff_ne.mpr fun same => distinct.1 (List.mem_append_left _ ?_)
  exact List.mem_map.mpr ⟨entry, earlier, same.symm⟩

theorem lookup_snoc {entries : List (κ × α)} {key other : κ} {value found : α}
    (h : (entries ++ [(key, value)]).lookup other = some found) :
    entries.lookup other = some found ∨ key = other ∧ value = found := by
  rw [List.lookup_append] at h
  cases old : entries.lookup other with
  | some first =>
      rw [old, Option.some_or] at h
      exact .inl h
  | none =>
      rw [old, Option.none_or, List.lookup_cons] at h
      split at h
      · rename_i same
        exact .inr ⟨(eq_of_beq same).symm, Option.some.inj h⟩
      · simp at h

theorem not_mem_keys {entries : List (κ × α)} {key : κ} (missed : entries.lookup key = none) :
    key ∉ entries.map Prod.fst := by
  intro member
  obtain ⟨entry, there, same⟩ := List.mem_map.mp member
  have absent := List.lookup_eq_none_iff.mp missed entry there
  simp [same] at absent

theorem has_eq_isSome (key : κ) (entries : List (κ × α)) :
    has key entries = (entries.lookup key).isSome := by
  rw [Bool.eq_iff_iff, has_iff]
  cases found : entries.lookup key with
  | none => simpa using not_mem_keys found
  | some value => simpa using List.mem_map_of_mem (f := Prod.fst) (mem_of_lookup found)

theorem nodup_keys_put {key : κ} {entries : List (κ × α)}
    (distinct : (entries.map Prod.fst).Nodup) (value : α) :
    ((put key value entries).map Prod.fst).Nodup := by
  rw [keys_put]
  split
  · exact distinct
  · rename_i new
    rw [has_iff] at new
    rw [← List.concat_eq_append]
    exact distinct.concat new

theorem nodup_keys_ofList (entries : List (κ × α)) : ((ofList entries).map Prod.fst).Nodup := by
  induction entries using List.reverseRecOn with
  | nil => exact List.nodup_nil
  | append_singleton entries last ih =>
      rw [ofList_append]
      exact nodup_keys_put ih _

theorem keys_ofList (entries : List (κ × α)) :
    (ofList entries).map Prod.fst = (entries.map Prod.fst).eraseDups := by
  induction entries using List.reverseRecOn with
  | nil => rfl
  | append_singleton entries entry ih =>
      rw [ofList_append, keys_put, List.map_append, List.eraseDups_append, ← ih]
      by_cases known : has entry.1 (ofList entries)
      · have member : entry.1 ∈ entries.map Prod.fst := by
          rw [has_iff, ih, List.mem_eraseDups] at known
          exact known
        simp [known, List.removeAll, member]
      · have new : entry.1 ∉ entries.map Prod.fst := by
          rw [has_iff, ih, List.mem_eraseDups] at known
          exact known
        simp only [known, Bool.false_eq_true, ↓reduceIte]
        simp [List.removeAll, new, List.eraseDups_cons]

theorem put_of_new {key : κ} {entries : List (κ × α)} (new : key ∉ entries.map Prod.fst)
    (value : α) : put key value entries = entries ++ [(key, value)] := by
  induction entries with
  | nil => rfl
  | cons entry rest ih =>
      rw [List.map_cons, List.mem_cons, not_or] at new
      rw [put, beq_false_of_ne (Ne.symm new.1), if_neg Bool.false_ne_true, ih new.2,
        List.cons_append]

theorem ofList_of_nodup {entries : List (κ × α)} (distinct : (entries.map Prod.fst).Nodup) :
    ofList entries = entries := by
  induction entries using List.reverseRecOn with
  | nil => rfl
  | append_singleton entries last ih =>
      rw [List.map_append, List.map_singleton, ← List.concat_eq_append,
        List.nodup_concat] at distinct
      rw [ofList_append, ih distinct.2, put_of_new distinct.1]

/-- Keys that are dropped may as well not be written. -/
theorem filter_put (keep : κ -> Bool) (key : κ) (value : α) (entries : List (κ × α)) :
    (put key value entries).filter (fun entry => keep entry.1) =
      if keep key then put key value (entries.filter fun entry => keep entry.1)
      else entries.filter fun entry => keep entry.1 := by
  induction entries with
  | nil => cases kept : keep key <;> simp [put, kept]
  | cons entry rest ih =>
      rcases entry with ⟨k, v⟩
      by_cases same : k = key
      · subst same
        cases kept : keep k <;> simp [put, kept]
      · rw [put, beq_false_of_ne same, if_neg Bool.false_ne_true]
        simp only [List.filter_cons, ih]
        cases keep k <;> cases keep key <;> simp [put, beq_false_of_ne same]

theorem lookup_ofList (entries : List (κ × α)) (key : κ) :
    (ofList entries).lookup key =
      (entries.reverse.find? fun entry => entry.1 == key).map Prod.snd := by
  induction entries using List.reverseRecOn with
  | nil => rfl
  | append_singleton entries entry ih =>
      rw [ofList_append, List.reverse_append, List.reverse_singleton, List.singleton_append,
        List.find?_cons]
      by_cases same : entry.1 = key
      · subst same
        simp
      · rw [lookup_put_of_ne (Ne.symm same), ih, beq_false_of_ne same]

end Entries

end GraphFacade
