import Mathlib

/-!
# Partial maps along a list

A function that need not give a result is applied to every item of a list.  There is a list of
results if and only if every item has one, and it has the results in the order of the items.

* `LoadProbe.isSome_mapM_iff` says when there are results.
* `LoadProbe.exists_of_mapM_cons` is the first item with the others, `LoadProbe.mem_iff_of_mapM` any
  of them.
-/

namespace LoadProbe

variable {α β : Type} {f : α → Option β}

/-- If all items have results, then the first has one and the others have. -/
theorem exists_of_mapM_cons {item : α} {items : List α} {results : List β}
    (h : (item :: items).mapM f = some results) :
    ∃ first later, f item = some first ∧ items.mapM f = some later ∧ results = first :: later := by
  rw [List.mapM_cons] at h
  obtain ⟨first, hfirst, h⟩ := Option.bind_eq_some_iff.mp h
  obtain ⟨later, hlater, h⟩ := Option.bind_eq_some_iff.mp h
  exact ⟨first, later, hfirst, hlater, (Option.some.inj h).symm⟩

theorem isSome_mapM_iff {items : List α} :
    (items.mapM f).isSome = true ↔ ∀ item ∈ items, (f item).isSome = true := by
  induction items with
  | nil => simp
  | cons item items ih =>
      rw [List.mapM_cons, List.forall_mem_cons, ← ih]
      cases f item <;> cases items.mapM f <;> simp

/-- If each item has the result that another function gives, so has the list. -/
theorem mapM_eq_some_map {items : List α} {g : α → β} (h : ∀ item ∈ items, f item = some (g item)) :
    items.mapM f = some (items.map g) := by
  induction items with
  | nil => rfl
  | cons item items ih =>
      obtain ⟨hfirst, hlater⟩ := List.forall_mem_cons.mp h
      rw [List.mapM_cons, hfirst, ih hlater]
      rfl

theorem mapM_flatMap_eq_some {γ : Type} {parts : List γ} {items : γ → List α} {results : γ → List β}
    (h : ∀ part ∈ parts, (items part).mapM f = some (results part)) :
    (parts.flatMap items).mapM f = some (parts.flatMap results) := by
  induction parts with
  | nil => rfl
  | cons part parts ih =>
      obtain ⟨hfirst, hlater⟩ := List.forall_mem_cons.mp h
      rw [List.flatMap_cons, List.mapM_append, hfirst, ih hlater]
      rfl

theorem exists_of_mem_mapM {items : List α} {results : List β} (h : items.mapM f = some results)
    {item : α} (hitem : item ∈ items) : ∃ b, f item = some b :=
  Option.isSome_iff_exists.mp (isSome_mapM_iff.mp (Option.isSome_of_eq_some h) item hitem)

/-- The results are those of the items. -/
theorem mem_iff_of_mapM {items : List α} {results : List β} (h : items.mapM f = some results)
    {b : β} : b ∈ results ↔ ∃ item ∈ items, f item = some b := by
  induction items generalizing results with
  | nil =>
      obtain rfl : results = [] := by simpa using h.symm
      simp
  | cons item items ih =>
      obtain ⟨first, later, hfirst, hlater, rfl⟩ := exists_of_mapM_cons h
      simp [ih hlater, hfirst, eq_comm]

end LoadProbe
