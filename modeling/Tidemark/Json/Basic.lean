import Tidemark.Number.Binary64

/-!
# JSON values

A number is an integer or a double.  The members of an object are a list of pairs whose keys ascend
by code points, each key once (`Members.Ascending`); `Members.insert` keeps that order.
-/

namespace Tidemark

/-- A JSON number. -/
inductive Json.Numeral where
  | integer (n : Int)
  | real (x : Number.Binary64)
  deriving DecidableEq, Repr

/-- A JSON value. -/
inductive Json where
  | null
  | bool (b : Bool)
  | number (n : Json.Numeral)
  | string (s : String)
  | array (items : List Json)
  | object (members : List (String × Json))
  deriving Repr

/-! ### Members by key -/

namespace Members

variable {α : Type}

/-- Puts a value under a key, in key order; a value that was there is replaced. -/
def insert (k : String) (v : α) : List (String × α) → List (String × α)
  | [] => [(k, v)]
  | (l, w) :: rest =>
    if k < l then (k, v) :: (l, w) :: rest
    else if k = l then (k, v) :: rest
    else (l, w) :: insert k v rest

/-- The value under a key. -/
def find? (k : String) : List (String × α) → Option α
  | [] => none
  | (l, w) :: rest => if k = l then some w else find? k rest

/-- Changes the value under a key where there is one. -/
def modify (k : String) (f : α → α) : List (String × α) → List (String × α)
  | [] => []
  | (l, w) :: rest => if k = l then (l, f w) :: rest else (l, w) :: modify k f rest

/-- Removes a key. -/
def erase (k : String) (ms : List (String × α)) : List (String × α) :=
  ms.filter fun m => m.1 ≠ k

/-- Collects pairs in key order; of two pairs with one key the later one counts. -/
def ofPairs (ps : List (String × α)) : List (String × α) :=
  ps.foldl (fun ms p => insert p.1 p.2 ms) []

/-- The keys ascend. -/
def Ascending (ms : List (String × α)) : Prop :=
  (ms.map Prod.fst).Pairwise (· < ·)

@[simp] theorem find?_insert_self (k : String) (v : α) (ms : List (String × α)) :
    find? k (insert k v ms) = some v := by
  induction ms with
  | nil => simp [insert, find?]
  | cons m ms ih =>
    obtain ⟨l, w⟩ := m
    simp only [insert]
    split
    · simp [find?]
    · split
      · simp [find?]
      · next hne => simp [find?, hne, ih]

theorem find?_insert_of_ne {k l : String} (h : l ≠ k) (v : α) (ms : List (String × α)) :
    find? l (insert k v ms) = find? l ms := by
  induction ms with
  | nil => simp [insert, find?, h]
  | cons m ms ih =>
    obtain ⟨j, w⟩ := m
    simp only [insert]
    split
    · simp [find?, h]
    · split
      · next heq => subst heq; simp [find?, h]
      · simp [find?, ih]

@[simp] theorem find?_erase_self (k : String) (ms : List (String × α)) :
    find? k (erase k ms) = none := by
  induction ms with
  | nil => rfl
  | cons m ms ih =>
    by_cases h : m.1 = k
    · simpa [erase, h] using ih
    · simpa [erase, h, find?, Ne.symm h] using ih

theorem find?_erase_of_ne {k l : String} (h : l ≠ k) (ms : List (String × α)) :
    find? l (erase k ms) = find? l ms := by
  induction ms with
  | nil => rfl
  | cons m ms ih =>
    by_cases hk : m.1 = k
    · simpa [erase, hk, find?, h] using ih
    · by_cases hl : l = m.1
      · simp [erase, hk, find?, hl]
      · simpa [erase, hk, find?, hl] using ih

theorem find?_modify_self (k : String) (f : α → α) (ms : List (String × α)) :
    find? k (modify k f ms) = (find? k ms).map f := by
  induction ms with
  | nil => rfl
  | cons m ms ih =>
    obtain ⟨l, w⟩ := m
    by_cases h : k = l
    · simp [modify, find?, h]
    · simp [modify, find?, h, ih]

theorem find?_modify_of_ne {k l : String} (h : l ≠ k) (f : α → α) (ms : List (String × α)) :
    find? l (modify k f ms) = find? l ms := by
  induction ms with
  | nil => rfl
  | cons m ms ih =>
    obtain ⟨j, w⟩ := m
    by_cases hk : k = j
    · subst hk; simp [modify, find?, h]
    · simp [modify, find?, hk, ih]

end Members

namespace Json

/-- An object with the given members, put in key order. -/
def ofMembers (ps : List (String × Json)) : Json :=
  .object (Members.ofPairs ps)

/-- The integer `n`. -/
def ofInt (n : Int) : Json :=
  .number (.integer n)

/-- The value under a key of an object. -/
def member? (k : String) : Json → Option Json
  | .object ms => Members.find? k ms
  | _ => none

/-- Whether a value is an object. -/
def isObject : Json → Bool
  | .object _ => true
  | _ => false

end Json

end Tidemark
