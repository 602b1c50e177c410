import GraphFacade.Entries
import GraphFacade.Number.Binary64
import GraphFacade.Text.CodePoint

/-!
# JSON values

Values as trees, with dictionaries in the order they were written.  Numbers are
whole numbers of any size or doubles.
-/

namespace GraphFacade

/-- A value without parts. -/
inductive Atom
  | null
  | bool (value : Bool)
  | int (value : Int)
  | float (value : Binary64)
  | text (value : String)
  deriving DecidableEq, Repr, Inhabited

/--
What comparison sees of an atom.  Truth values are the numbers zero and one,
finite numbers are counted in units of the smallest double, what is not finite
is kept apart from every count, and a text is its code points and halves.
-/
inductive AtomKey
  | null
  | number (units : Int)
  | infinite (negative : Bool)
  | nan
  | text (codes : List Nat)
  deriving DecidableEq, Repr

namespace AtomKey

def isNumber : AtomKey -> Bool
  | null | text _ => false
  | _ => true

def isText : AtomKey -> Bool
  | text _ => true
  | _ => false

/--
Whether a key is less than another: numbers by size, texts by code points.
Nothing is less than not-a-number, and it is less than nothing.
-/
def less : AtomKey -> AtomKey -> Bool
  | number m, number n => m < n
  | number _, infinite negative => !negative
  | infinite negative, number _ => negative
  | infinite true, infinite false => true
  | text s, text t => s < t
  | _, _ => false

end AtomKey

namespace Atom

/-- The part of an atom on which equality and order depend. -/
def key : Atom -> AtomKey
  | null => .null
  | bool b => .number (if b then Binary64.unitsInOne else 0)
  | int i => .number (i * Binary64.unitsInOne)
  | float (.finite negative mantissa scale) =>
      let size : Int := Binary64.units mantissa scale
      .number (if negative then -size else size)
  | float (.infinite negative) => .infinite negative
  | float .nan => .nan
  | text s => .text (Text.codes s.toList)

/-- Equality of atoms across the kinds of numbers; there is one not-a-number, equal to itself. -/
def same (a b : Atom) : Bool :=
  a.key == b.key

/-- Write a value under an atom: in place of that of an equal atom, which stays, else at the end. -/
def put {α : Type} (key : Atom) (value : α) : List (Atom × α) -> List (Atom × α)
  | [] => [(key, value)]
  | (k, v) :: rest =>
      if k.same key then (k, value) :: rest else (k, v) :: put key value rest

/-- Null, false, zero and the empty text count as false. -/
def truthy : Atom -> Bool
  | null => false
  | bool b => b
  | int i => i != 0
  | float x => x.isNonzero
  | text s => !s.isEmpty

end Atom

/-- A JSON value. -/
inductive Json
  | atom (value : Atom)
  | list (items : List Json)
  | dict (entries : List (String × Json))
  deriving Repr, Inhabited

namespace Json

@[match_pattern] abbrev null : Json := atom .null
@[match_pattern] abbrev bool (b : Bool) : Json := atom (.bool b)
@[match_pattern] abbrev int (i : Int) : Json := atom (.int i)
@[match_pattern] abbrev float (x : Binary64) : Json := atom (.float x)
@[match_pattern] abbrev text (s : String) : Json := atom (.text s)

mutual

def decEq : (x y : Json) -> Decidable (x = y)
  | atom a, atom b =>
      if h : a = b then isTrue (by rw [h]) else isFalse fun e => h (by injection e)
  | list xs, list ys =>
      match decEqItems xs ys with
      | isTrue h => isTrue (by rw [h])
      | isFalse h => isFalse fun e => h (by injection e)
  | dict xs, dict ys =>
      match decEqEntries xs ys with
      | isTrue h => isTrue (by rw [h])
      | isFalse h => isFalse fun e => h (by injection e)
  | atom _, list _ | atom _, dict _ | list _, atom _ | list _, dict _ | dict _, atom _
  | dict _, list _ => isFalse (by simp)

def decEqItems : (xs ys : List Json) -> Decidable (xs = ys)
  | [], [] => isTrue rfl
  | x :: xs, y :: ys =>
      match decEq x y, decEqItems xs ys with
      | isTrue h, isTrue t => isTrue (by rw [h, t])
      | isFalse h, _ => isFalse fun e => h (by injection e)
      | _, isFalse t => isFalse fun e => t (by injection e)
  | [], _ :: _ | _ :: _, [] => isFalse (by simp)

def decEqEntries : (xs ys : List (String × Json)) -> Decidable (xs = ys)
  | [], [] => isTrue rfl
  | (j, x) :: xs, (k, y) :: ys =>
      if name : j = k then
        match decEq x y, decEqEntries xs ys with
        | isTrue h, isTrue t => isTrue (by rw [name, h, t])
        | isFalse h, _ => isFalse fun e => h (by simp_all)
        | _, isFalse t => isFalse fun e => t (by injection e)
      else
        isFalse fun e => name (by simp_all)
  | [], _ :: _ | _ :: _, [] => isFalse (by simp)

end

instance : DecidableEq Json := decEq

/-- Besides the false atoms, the empty list and the empty dictionary count as false. -/
def truthy : Json -> Bool
  | atom a => a.truthy
  | list items => !items.isEmpty
  | dict entries => !entries.isEmpty

/-- The value under a key of a dictionary. -/
def get? (j : Json) (key : String) : Option Json :=
  match j with
  | dict entries => entries.lookup key
  | _ => none

def isNull : Json -> Bool
  | null => true
  | _ => false

mutual

/-- Number of values in a value, itself included. -/
def size : Json -> Nat
  | atom _ => 1
  | list items => sizeOfItems items + 1
  | dict entries => sizeOfEntries entries + 1

def sizeOfItems : List Json -> Nat
  | [] => 0
  | item :: rest => item.size + sizeOfItems rest

def sizeOfEntries : List (String × Json) -> Nat
  | [] => 0
  | (_, value) :: rest => value.size + sizeOfEntries rest

end

mutual

/-- Equality of values: numbers by size, dictionaries without regard to order. -/
def same : Json -> Json -> Bool
  | atom a, atom b => a.same b
  | list xs, list ys => sameItems xs ys
  | dict xs, dict ys => xs.length == ys.length && sameEntries xs ys
  | _, _ => false

def sameItems : List Json -> List Json -> Bool
  | [], [] => true
  | x :: xs, y :: ys => x.same y && sameItems xs ys
  | _, _ => false

/-- Every entry of the first list has an equal one under its key in the second. -/
def sameEntries : List (String × Json) -> List (String × Json) -> Bool
  | [], _ => true
  | (key, x) :: xs, ys =>
      (match ys.lookup key with
        | some y => x.same y
        | none => false) && sameEntries xs ys

end

end Json

end GraphFacade
