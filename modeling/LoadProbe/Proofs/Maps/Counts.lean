import Mathlib
import LoadProbe.SortedMap

/-!
# Maps that count

A map that counts is built by adding one occurrence of a key after another.  What it holds in the
end depends on how often each key occurred and on nothing else.

* `SortedMap.get?_alter`: what changes under one key changes under no other.
* `SortedMap.Sorted` says that the keys strictly increase, which every operation keeps; the entries
  of such a map are what is found in it (`SortedMap.get?_eq_some_iff_mem`).
* `SortedMap.Counts` ties a map to the list of the keys that occurred.  `Counts.increment` is one
  more occurrence, `Counts.ofList_map` gives the keys other names, and `Counts.sum_filter` adds up
  what is counted under some of the keys.
-/

namespace LoadProbe.SortedMap

variable {κ κ' α : Type} [Ord κ] [Ord κ']

/-- The keys strictly increase. -/
def Sorted (m : SortedMap κ α) : Prop := m.Pairwise fun a b => compare a.1 b.1 = .lt

/-- The map holds, for each key of the list, how often the key occurs in it, and nothing else. -/
structure Counts [DecidableEq κ] (m : SortedMap κ Nat) (keys : List κ) : Prop where
  sorted : Sorted m
  get?_eq : ∀ k, get? k m = if k ∈ keys then some (keys.count k) else none

theorem counts_nil [DecidableEq κ] : Counts ([] : SortedMap κ Nat) [] :=
  ⟨List.Pairwise.nil, by simp [get?]⟩

/-- The order of the occurrences does not matter. -/
theorem Counts.perm [DecidableEq κ] {m : SortedMap κ Nat} {keys keys' : List κ}
    (h : Counts m keys) (hperm : keys.Perm keys') : Counts m keys' := by
  refine ⟨h.sorted, ?_⟩
  intro k
  rw [h.get?_eq, hperm.count_eq]
  simp only [hperm.mem_iff]

/-- The number under a key, zero if the key did not occur. -/
theorem Counts.count_eq [DecidableEq κ] {m : SortedMap κ Nat} {keys : List κ}
    (h : Counts m keys) (key : κ) : count key m = keys.count key := by
  rw [count, h.get?_eq]
  split
  case isTrue => rfl
  case isFalse hmem => simp [List.count_eq_zero_of_not_mem hmem]

/-- The number under a key is that of the items with that name. -/
theorem Counts.count_eq_countP [DecidableEq κ] {m : SortedMap κ Nat} {items : List α}
    {name : α → κ} (h : Counts m (items.map name)) (key : κ) :
    count key m = items.countP fun item => name item = key := by
  rw [h.count_eq, List.count, List.countP_map]
  rfl

/-- The number under the name of an item is that of its occurrences, if no other is named so. -/
theorem Counts.count_name [DecidableEq κ] [DecidableEq α] {m : SortedMap κ Nat} {items : List α}
    {name : α → κ} (h : Counts m (items.map name)) (hname : Function.Injective name) (item : α) :
    count (name item) m = items.count item := by
  rw [h.count_eq, List.count_map_of_injective items name hname]

/-! ## What is found in a map -/

variable [Std.LawfulEqOrd κ] [Std.LawfulEqOrd κ']

theorem eq_or_mem_of_mem_alter {key : κ} {f : Option α → α} {m : SortedMap κ α} {entry : κ × α}
    (h : entry ∈ alter key f m) : entry.1 = key ∨ entry ∈ m := by
  induction m with
  | nil =>
      obtain rfl := List.mem_singleton.mp h
      exact .inl rfl
  | cons first rest ih =>
      obtain ⟨k, a⟩ := first
      unfold alter at h
      split at h
      · rcases List.mem_cons.mp h with rfl | h
        · exact .inl rfl
        · exact .inr h
      · rename_i horder
        rcases List.mem_cons.mp h with rfl | h
        · exact .inl (Std.LawfulEqOrd.eq_of_compare horder).symm
        · exact .inr (List.mem_cons_of_mem _ h)
      · rcases List.mem_cons.mp h with rfl | h
        · exact .inr List.mem_cons_self
        · exact (ih h).imp_right (List.mem_cons_of_mem _)

theorem Sorted.nodup_keys {m : SortedMap κ α} (h : Sorted m) : (m.map (·.1)).Nodup := by
  refine List.pairwise_map.mpr (h.imp ?_)
  intro first second horder heq
  rw [heq] at horder
  simp at horder

variable [Std.TransOrd κ] [Std.TransOrd κ']

/-- Nothing but the value under the key itself is replaced. -/
theorem get?_alter [DecidableEq κ] (key k : κ) (f : Option α → α) (m : SortedMap κ α) :
    get? k (alter key f m) = if k = key then some (f (get? key m)) else get? k m := by
  -- The search for another key passes the new entry by, or stops at it as it would behind it.
  induction m with
  | nil =>
      by_cases hk : k = key
      · subst hk
        simp [alter, get?]
      · cases horder : compare k key with
        | eq => exact absurd (Std.LawfulEqOrd.eq_of_compare horder) hk
        | lt => simp [alter, get?, horder, hk]
        | gt => simp [alter, get?, horder, hk]
  | cons entry rest ih =>
      obtain ⟨k', a⟩ := entry
      cases hkey : compare key k' with
      | lt =>
          by_cases hk : k = key
          · subst hk
            simp [alter, get?, hkey]
          · cases horder : compare k key with
            | eq => exact absurd (Std.LawfulEqOrd.eq_of_compare horder) hk
            | lt => simp [alter, get?, hkey, horder, hk, Std.TransCmp.lt_trans horder hkey]
            | gt => simp [alter, get?, hkey, horder, hk]
      | eq =>
          obtain rfl := Std.LawfulEqOrd.eq_of_compare hkey
          by_cases hk : k = key
          · subst hk
            simp [alter, get?]
          · cases horder : compare k key with
            | eq => exact absurd (Std.LawfulEqOrd.eq_of_compare horder) hk
            | lt => simp [alter, get?, horder, hk]
            | gt => simp [alter, get?, horder, hk]
      | gt =>
          -- The first entry stays, and only a key behind it is searched in the rest.
          have hne : k' ≠ key := by
            rintro rfl
            simp at hkey
          have hstep : alter key f ((k', a) :: rest) = (k', a) :: alter key f rest := by
            simp [alter, hkey]
          rw [hstep]
          cases horder : compare k k' with
          | eq =>
              obtain rfl := Std.LawfulEqOrd.eq_of_compare horder
              simp [get?, hne]
          | lt =>
              have hk : k ≠ key := by
                rintro rfl
                simp [hkey] at horder
              simp [get?, horder, hk]
          | gt =>
              simp only [get?, horder, hkey]
              exact ih

theorem Sorted.alter {m : SortedMap κ α} (h : Sorted m) (key : κ) (f : Option α → α) :
    Sorted (alter key f m) := by
  induction m with
  | nil => exact List.pairwise_singleton _ _
  | cons first rest ih =>
      obtain ⟨k, a⟩ := first
      obtain ⟨hfirst, hrest⟩ := List.pairwise_cons.mp h
      unfold SortedMap.alter
      split
      · rename_i horder
        refine List.pairwise_cons.mpr ⟨?_, h⟩
        intro entry hentry
        rcases List.mem_cons.mp hentry with rfl | hentry
        · exact horder
        · exact Std.TransCmp.lt_trans horder (hfirst entry hentry)
      · exact List.pairwise_cons.mpr ⟨hfirst, hrest⟩
      · rename_i horder
        refine List.pairwise_cons.mpr ⟨?_, ih hrest⟩
        intro entry hentry
        rcases eq_or_mem_of_mem_alter hentry with hkey | hentry
        · rw [hkey]
          exact Std.OrientedCmp.lt_of_gt horder
        · exact hfirst entry hentry

theorem sorted_ofList (pairs : List (κ × α)) : Sorted (ofList pairs) := by
  induction pairs using List.reverseRecOn with
  | nil => exact List.Pairwise.nil
  | append_singleton pairs p ih =>
      rw [ofList, List.foldl_append]
      exact ih.alter p.1 _

/-- The entries of a sorted map are what is found in it. -/
theorem get?_eq_some_iff_mem {m : SortedMap κ α} (h : Sorted m) (k : κ) (a : α) :
    get? k m = some a ↔ (k, a) ∈ m := by
  induction m with
  | nil => simp [get?]
  | cons first rest ih =>
      obtain ⟨k', b⟩ := first
      obtain ⟨hfirst, hrest⟩ := List.pairwise_cons.mp h
      -- An entry further back has a greater key than the first one.
      have hlater : (k, a) ∈ rest → compare k' k = .lt := fun hmem => hfirst (k, a) hmem
      cases horder : compare k k' with
      | lt =>
          have hnot : (k, a) ∉ rest := by
            intro hmem
            have hself := Std.TransCmp.lt_trans horder (hlater hmem)
            simp at hself
          have hne : k ≠ k' := by
            rintro rfl
            simp at horder
          simp [get?, horder, hnot, hne]
      | eq =>
          obtain rfl := Std.LawfulEqOrd.eq_of_compare horder
          have hnot : (k, a) ∉ rest := by
            intro hmem
            have hself := hlater hmem
            simp at hself
          simp [get?, hnot, eq_comm]
      | gt =>
          have hne : k ≠ k' := by
            rintro rfl
            simp at horder
          simp [get?, horder, hne, ih hrest]

/-- Looking through all entries of a sorted map finds what the search for the key finds. -/
theorem find?_eq_get? [DecidableEq κ] {m : SortedMap κ α} (h : Sorted m) (k : κ) :
    m.find? (fun entry => entry.1 = k) = (get? k m).map fun a => (k, a) := by
  cases hfind : m.find? (fun entry => entry.1 = k) with
  | none =>
      cases hget : get? k m with
      | none => rfl
      | some a =>
          have hmem := (get?_eq_some_iff_mem h k a).mp hget
          have hnone := List.find?_eq_none.mp hfind _ hmem
          simp at hnone
  | some entry =>
      obtain ⟨key, a⟩ := entry
      obtain rfl : key = k := by simpa using List.find?_some hfind
      rw [(get?_eq_some_iff_mem h key a).mpr (List.mem_of_find?_eq_some hfind)]
      rfl

/-- In a sorted map the first entry with a key is the one that the search for the key finds. -/
theorem Sorted.lookup_eq_get? [BEq κ] [LawfulBEq κ] {m : SortedMap κ α} (h : Sorted m) (k : κ) :
    m.lookup k = get? k m := by
  ext a
  rw [get?_eq_some_iff_mem h, List.lookup_eq_some_iff]
  constructor
  · rintro ⟨before, after, rfl, -⟩
    simp
  · intro hmem
    obtain ⟨before, after, rfl⟩ := List.append_of_mem hmem
    refine ⟨before, after, rfl, fun p hp => ?_⟩
    -- All keys in front are smaller.
    have hlt := (List.pairwise_append.mp h).2.2 p hp (k, a) List.mem_cons_self
    rw [bne_iff_ne]
    rintro rfl
    simp at hlt

/-- Of pairs with different keys each is found in their map. -/
theorem get?_ofList_eq_some_iff [DecidableEq κ] {pairs : List (κ × α)}
    (hnodup : (pairs.map (·.1)).Nodup) (k : κ) (a : α) :
    get? k (ofList pairs) = some a ↔ (k, a) ∈ pairs := by
  induction pairs using List.reverseRecOn with
  | nil => simp [ofList, get?]
  | append_singleton pairs p ih =>
      obtain ⟨key, b⟩ := p
      rw [List.map_append, List.nodup_append] at hnodup
      obtain ⟨hbefore, -, hfresh⟩ := hnodup
      have hinsert : ofList (pairs ++ [(key, b)]) = alter key (fun _ => b) (ofList pairs) := by
        rw [ofList, List.foldl_append]
        rfl
      rw [hinsert, get?_alter, List.mem_append, List.mem_singleton, Prod.mk.injEq]
      split
      case isTrue hk =>
          subst hk
          have hnot : (k, a) ∉ pairs := fun hmem =>
            hfresh k (List.mem_map_of_mem hmem) k (by simp) rfl
          simp [hnot, eq_comm]
      case isFalse hk => simp [hk, ih hbefore]

/-! ## Occurrences -/

variable [DecidableEq κ] [DecidableEq κ'] {m : SortedMap κ Nat} {keys : List κ}

theorem Counts.increment (h : Counts m keys) (key : κ) :
    Counts (increment key m) (keys ++ [key]) := by
  refine ⟨h.sorted.alter key _, ?_⟩
  intro k
  rw [SortedMap.increment, get?_alter, h.get?_eq, h.get?_eq]
  by_cases hk : k = key
  · subst hk
    by_cases hmem : k ∈ keys
    · simp [hmem]
    · simp [hmem, List.count_eq_zero_of_not_mem hmem]
  · simp [hk, Ne.symm hk]

theorem Counts.mem_iff (h : Counts m keys) (k : κ) (n : Nat) :
    (k, n) ∈ m ↔ k ∈ keys ∧ n = keys.count k := by
  rw [← get?_eq_some_iff_mem h.sorted, h.get?_eq]
  split
  case isTrue hmem => simp [hmem, eq_comm]
  case isFalse hmem => simp [hmem]

theorem Counts.eq_nil (h : Counts m []) : m = [] := by
  refine List.eq_nil_iff_forall_not_mem.mpr ?_
  rintro ⟨k, n⟩ hmem
  exact List.not_mem_nil ((h.mem_iff k n).mp hmem).1

/-- Counting goes on under other names if different keys have different names. -/
theorem Counts.ofList_map (h : Counts m keys) {name : κ → κ'} (hname : Function.Injective name) :
    Counts (ofList (m.map fun (key, n) => (name key, n))) (keys.map name) := by
  have hnodup : ((m.map fun (key, n) => (name key, n)).map (·.1)).Nodup := by
    have hkeys := h.sorted.nodup_keys.map hname
    rw [List.map_map] at hkeys ⊢
    exact hkeys
  refine ⟨sorted_ofList _, ?_⟩
  intro k
  ext n
  rw [get?_ofList_eq_some_iff hnodup]
  by_cases hk : k ∈ keys.map name
  · obtain ⟨key, hkey, rfl⟩ := List.mem_map.mp hk
    rw [if_pos hk, List.count_map_of_injective keys name hname]
    simp [h.mem_iff, hname.eq_iff, hkey, eq_comm]
  · rw [if_neg hk]
    simp only [List.mem_map, Prod.mk.injEq, Prod.exists, h.mem_iff, reduceCtorEq, iff_false]
    rintro ⟨key, _, ⟨hkey, _⟩, rfl, _⟩
    exact hk (List.mem_map_of_mem hkey)

/-- What is counted under some of the keys adds up to the number of their occurrences. -/
theorem Counts.sum_filter (h : Counts m keys) (p : κ → Bool) :
    ((m.filter fun entry => p entry.1).map (·.2)).sum = keys.countP p := by
  have hkeys : (m.map (·.1)).Perm keys.dedup := by
    refine (List.perm_ext_iff_of_nodup h.sorted.nodup_keys (List.nodup_dedup keys)).mpr ?_
    intro k
    simp [h.mem_iff]
  have hcounts : (m.filter fun entry => p entry.1).map (·.2) =
      ((m.map (·.1)).filter p).map (keys.count ·) := by
    rw [List.filter_map, List.map_map]
    apply List.map_congr_left
    rintro ⟨k, n⟩ hmem
    exact ((h.mem_iff k n).mp (List.mem_filter.mp hmem).1).2
  rw [hcounts, ((hkeys.filter p).map _).sum_eq]
  exact List.sum_map_count_dedup_filter_eq_countP p keys

theorem Counts.sum_eq (h : Counts m keys) : (m.map (·.2)).sum = keys.length := by
  simpa using h.sum_filter fun _ => true

end LoadProbe.SortedMap
