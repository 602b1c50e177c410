/-!
# Keyed entries

Association lists in insertion order: a key that is written again keeps its
place and takes the new value.
-/

namespace GraphFacade

abbrev Entries (α : Type) := List (String × α)

namespace Entries

/-- Write a value under a key: in place when the key is there, else at the end. -/
def put {κ α : Type} [BEq κ] (key : κ) (value : α) : List (κ × α) -> List (κ × α)
  | [] => [(key, value)]
  | (k, v) :: rest =>
      if k == key then (k, value) :: rest else (k, v) :: put key value rest

def ofList {κ α : Type} [BEq κ] (entries : List (κ × α)) : List (κ × α) :=
  entries.foldl (fun acc entry => put entry.1 entry.2 acc) []

def has {κ α : Type} [BEq κ] (key : κ) (entries : List (κ × α)) : Bool :=
  entries.any fun entry => entry.1 == key

section Laws

variable {κ α : Type} [BEq κ] [LawfulBEq κ]

@[simp]
theorem lookup_put_self (key : κ) (value : α) (entries : List (κ × α)) :
    (put key value entries).lookup key = some value := by
  induction entries with
  | nil => simp [put]
  | cons entry rest ih =>
      rcases entry with ⟨k, v⟩
      by_cases h : k = key
      · simp [put, h]
      · simp [put, h, List.lookup_cons, ih, beq_false_of_ne (Ne.symm h)]

theorem lookup_put_of_ne {key other : κ} (different : other ≠ key) (value : α)
    (entries : List (κ × α)) :
    (put key value entries).lookup other = entries.lookup other := by
  induction entries with
  | nil => simp [put, List.lookup_cons, beq_false_of_ne different]
  | cons entry rest ih =>
      rcases entry with ⟨k, v⟩
      by_cases h : k = key
      · simp [put, h, List.lookup_cons, beq_false_of_ne different]
      · simp [put, h, List.lookup_cons, ih]

theorem has_iff (key : κ) (entries : List (κ × α)) :
    has key entries = true ↔ key ∈ entries.map Prod.fst := by
  simp only [has, List.any_eq_true, List.mem_map, beq_iff_eq]

theorem keys_put (key : κ) (value : α) (entries : List (κ × α)) :
    (put key value entries).map Prod.fst =
      if has key entries then entries.map Prod.fst else entries.map Prod.fst ++ [key] := by
  induction entries with
  | nil => simp [put, has]
  | cons entry rest ih =>
      rcases entry with ⟨k, v⟩
      by_cases h : k = key
      · simp [put, has, h]
      · have missed : has key ((k, v) :: rest) = has key rest := by simp [has, h]
        rw [missed]
        cases hr : has key rest <;> simp_all [put]

end Laws

end Entries

end GraphFacade
