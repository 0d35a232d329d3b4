import LoadProbe.Proofs.Maps.Counts

/-!
# Maps with other values

A map whose keys strictly increase is known by what is found in it.  So replacing its values leaves
nothing to know but the new values, and a map that counts every key so many times as often is the
map with every number multiplied.

* `SortedMap.Sorted.ext`: maps in which the same is found are the same.
* `SortedMap.mapValues` replaces the values; `SortedMap.get?_mapValues` says what is found then.
* `SortedMap.mem_ofList_iff`: pairs with different keys are the entries of their map.
* `SortedMap.Sorted.ofList_eq`: the map of the entries of a map is that map.
* `SortedMap.Counts.eq_mapValues`: the map of the occurrences, all repeated.
-/

namespace LoadProbe.SortedMap

variable {κ α β : Type} [Ord κ]

/-- The map with `f` of each value. -/
def mapValues (f : α → β) (m : SortedMap κ α) : SortedMap κ β :=
  m.map fun entry => (entry.1, f entry.2)

theorem Sorted.mapValues {m : SortedMap κ α} (h : Sorted m) (f : α → β) :
    Sorted (mapValues f m) :=
  List.pairwise_map.mpr h

/-- Under each key there is `f` of what was there. -/
theorem get?_mapValues (f : α → β) (k : κ) (m : SortedMap κ α) :
    get? k (mapValues f m) = (get? k m).map f := by
  induction m with
  | nil => rfl
  | cons entry rest ih =>
      obtain ⟨k', a⟩ := entry
      have hcons : mapValues f ((k', a) :: rest) = (k', f a) :: mapValues f rest := rfl
      rw [hcons, get?, get?]
      cases compare k k' with
      | lt => rfl
      | eq => rfl
      | gt => exact ih

theorem mapValues_insert (f : α → β) (key : κ) (a : α) (m : SortedMap κ α) :
    mapValues f (insert key a m) = insert key (f a) (mapValues f m) := by
  induction m with
  | nil => rfl
  | cons entry rest ih =>
      obtain ⟨k, b⟩ := entry
      have hcons : mapValues f ((k, b) :: rest) = (k, f b) :: mapValues f rest := rfl
      rw [hcons]
      simp only [insert, alter] at ih ⊢
      cases compare key k with
      | lt => rfl
      | eq => rfl
      | gt => exact congrArg ((k, f b) :: ·) ih

/-- The values can be replaced before they are stored. -/
theorem mapValues_ofList (f : α → β) (pairs : List (κ × α)) :
    mapValues f (ofList pairs) = ofList (pairs.map fun p => (p.1, f p.2)) := by
  induction pairs using List.reverseRecOn with
  | nil => rfl
  | append_singleton pairs p ih =>
      simp only [ofList, List.map_append, List.foldl_append] at ih ⊢
      exact (mapValues_insert f p.1 p.2 _).trans (congrArg _ ih)

variable [Std.LawfulEqOrd κ] [Std.TransOrd κ]

/-- Under other keys nothing changes. -/
theorem get?_insert_of_ne [DecidableEq κ] {key k : κ} (hne : k ≠ key) (a : α)
    (m : SortedMap κ α) : get? k (insert key a m) = get? k m :=
  (get?_alter key k (fun _ => a) m).trans (if_neg hne)

/-- Pairs with different keys are the entries of their map. -/
theorem mem_ofList_iff [DecidableEq κ] {pairs : List (κ × α)} (hnodup : (pairs.map (·.1)).Nodup)
    (p : κ × α) : p ∈ ofList pairs ↔ p ∈ pairs := by
  rw [← get?_eq_some_iff_mem (sorted_ofList pairs), get?_ofList_eq_some_iff hnodup]

/-- Pairs with different keys are only put into order. -/
theorem ofList_perm [DecidableEq κ] {pairs : List (κ × α)}
    (hnodup : (pairs.map (·.1)).Nodup) : (ofList pairs).Perm pairs := by
  refine (List.perm_ext_iff_of_nodup (List.Nodup.of_map _ (sorted_ofList pairs).nodup_keys)
    (List.Nodup.of_map _ hnodup)).mpr ?_
  exact mem_ofList_iff hnodup

/-- Maps in which the same is found are the same. -/
theorem Sorted.ext {m m' : SortedMap κ α} (h : Sorted m) (h' : Sorted m')
    (hget : ∀ k, get? k m = get? k m') : m = m' := by
  have hperm : m.Perm m' := by
    refine (List.perm_ext_iff_of_nodup (List.Nodup.of_map _ h.nodup_keys)
      (List.Nodup.of_map _ h'.nodup_keys)).mpr ?_
    rintro ⟨k, a⟩
    rw [← get?_eq_some_iff_mem h, ← get?_eq_some_iff_mem h', hget]
  refine hperm.eq_of_pairwise ?_ h h'
  intro a b _ _ hab hba
  have hself := Std.TransCmp.lt_trans hab hba
  simp at hself

/-- A sorted map is made of its own entries. -/
theorem Sorted.ofList_eq [DecidableEq κ] {m : SortedMap κ α} (h : Sorted m) : ofList m = m := by
  refine (sorted_ofList m).ext h fun k => ?_
  ext a
  rw [get?_ofList_eq_some_iff h.nodup_keys, get?_eq_some_iff_mem h]

/-- If every key occurs `factor` times as often, it is counted `factor` times as often. -/
theorem Counts.eq_mapValues [DecidableEq κ] {m m' : SortedMap κ Nat} {keys keys' : List κ}
    (h : Counts m keys) (h' : Counts m' keys') {factor : Nat} (hpos : 0 < factor)
    (hcount : ∀ k, keys'.count k = factor * keys.count k) : m' = mapValues (factor * ·) m := by
  refine h'.sorted.ext (h.sorted.mapValues _) fun k => ?_
  have hmem : k ∈ keys' ↔ k ∈ keys := by
    rw [← List.count_pos_iff, ← List.count_pos_iff, hcount, Nat.mul_pos_iff_of_pos_left hpos]
  rw [get?_mapValues, h.get?_eq, h'.get?_eq, hcount]
  simp only [hmem]
  split
  · rfl
  · rfl

end LoadProbe.SortedMap
