/-!
# Finite maps listed in key order

A finite map is the list of its entries in strictly increasing key order, so two maps with the
same entries are the same list and printing a map never depends on how it was built.

* `SortedMap.get? key m` is the value stored under `key`.
* `SortedMap.alter key f m` replaces the value under `key` by `f` of what was there.
* `SortedMap.insert` and `SortedMap.increment` are the two instances the library uses.
-/

namespace LoadProbe

/-- The entries of a finite map; the operations below keep them in strictly increasing key
order. -/
abbrev SortedMap (κ α : Type) : Type := List (κ × α)

namespace SortedMap

variable {κ α : Type} [Ord κ]

/-- The value under `key`, if there is one.  The search stops at the first greater key. -/
def get? (key : κ) : SortedMap κ α → Option α
  | [] => none
  | (k, a) :: rest =>
      match compare key k with
      | .lt => none
      | .eq => some a
      | .gt => get? key rest

/-- Replaces the value under `key` by `f` of what was stored there, or adds `f none`. -/
def alter (key : κ) (f : Option α → α) : SortedMap κ α → SortedMap κ α
  | [] => [(key, f none)]
  | (k, a) :: rest =>
      match compare key k with
      | .lt => (key, f none) :: (k, a) :: rest
      | .eq => (k, f (some a)) :: rest
      | .gt => (k, a) :: alter key f rest

/-- Stores `a` under `key`, whatever was there before. -/
def insert (key : κ) (a : α) (m : SortedMap κ α) : SortedMap κ α :=
  alter key (fun _ => a) m

/-- The map that holds the given pairs; of two pairs with one key the later one counts. -/
def ofList (pairs : List (κ × α)) : SortedMap κ α :=
  pairs.foldl (fun m p => insert p.1 p.2 m) []

/-- Counts one more occurrence of `key`. -/
def increment (key : κ) (m : SortedMap κ Nat) : SortedMap κ Nat :=
  alter key (fun n => n.getD 0 + 1) m

/-- The number stored under `key`, zero if there is none. -/
def count (key : κ) (m : SortedMap κ Nat) : Nat :=
  (get? key m).getD 0

/-- The sum of all values. -/
def total (m : SortedMap κ Nat) : Nat :=
  m.foldl (fun sum entry => sum + entry.2) 0

/-- What was stored last under a key is found there, and nothing else changes. -/
theorem lookup_insert [BEq κ] [LawfulBEq κ] [Std.LawfulEqOrd κ] (key k : κ) (a : α)
    (m : SortedMap κ α) :
    (insert key a m).lookup k = if k == key then some a else m.lookup k := by
  -- Sorted or not, the entries in front of the new one have other keys.
  induction m with
  | nil =>
      simp only [insert, alter, List.lookup_cons, List.lookup_nil]
      cases k == key <;> rfl
  | cons entry rest ih =>
      obtain ⟨k', b⟩ := entry
      cases horder : compare key k' with
      | lt =>
          simp only [insert, alter, horder, List.lookup_cons]
          cases k == key <;> rfl
      | eq =>
          obtain rfl := Std.LawfulEqOrd.eq_of_compare horder
          simp only [insert, alter, horder, List.lookup_cons]
          cases k == key <;> rfl
      | gt =>
          have hne : key ≠ k' := by
            rintro rfl
            simp [Std.ReflCmp.compare_self] at horder
          have hinsert : insert key a ((k', b) :: rest) = (k', b) :: insert key a rest := by
            simp [insert, alter, horder]
          rw [hinsert, List.lookup_cons, List.lookup_cons, ih]
          cases hk : k == k' with
          | false => rfl
          | true =>
              obtain rfl := eq_of_beq hk
              have hother : (k == key) = false := beq_eq_false_iff_ne.mpr (Ne.symm hne)
              rw [hother]
              rfl

/-- Of the pairs with one key the last one counts. -/
theorem lookup_ofList [BEq κ] [LawfulBEq κ] [Std.LawfulEqOrd κ] (pairs : List (κ × α)) (k : κ) :
    (ofList pairs).lookup k = pairs.reverse.lookup k := by
  have hfold : ∀ m : SortedMap κ α,
      (pairs.foldl (fun m p => insert p.1 p.2 m) m).lookup k =
        (pairs.reverse.lookup k).or (m.lookup k) := by
    induction pairs with
    | nil => exact fun m => rfl
    | cons p pairs ih =>
        intro m
        rw [List.foldl_cons, ih, List.reverse_cons, List.lookup_append, lookup_insert,
          Option.or_assoc, List.lookup_cons, List.lookup_nil]
        cases k == p.1 <;> rfl
  rw [ofList, hfold, List.lookup_nil, Option.or_none]

end SortedMap

end LoadProbe
