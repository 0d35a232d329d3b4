import LoadProbe.Proofs.Settings.Keys

/-!
# Layers over each other

The entries of a source give a layer.  Put over a tree that holds another layer they replace the
values that they set and no others, whatever sections these stand in.

* `Settings.Within` says that one entry sets values of a layer, `Settings.Gives` that the entries of
  a source set all of them.
* `Settings.Tree.Holds.store` is one entry, `Settings.Tree.Holds.overlay` a whole source.
-/

namespace LoadProbe.Settings

/-! ## Entries of a source -/

/-- The path to a key. -/
def Key.path (k : Key) : String := k.sectionName ++ "." ++ k.name

theorem path?_path (k : Key) :
    Step.path? k.path = some [.key k.sectionName, .key k.name] := by
  cases k <;> decide

theorem path?_of_mem_sectionNames {name : String} (h : name ∈ sectionNames) :
    Step.path? name = some [.key name] := by
  revert name
  decide

theorem path_injective : Function.Injective Key.path := by
  intro k k'
  cases k <;> cases k' <;> decide

theorem path_ne_of_mem_sectionNames {name : String} (h : name ∈ sectionNames) (k : Key) :
    name ≠ k.path := by
  revert name
  cases k <;> decide

/-- The entry of a source sets values of the layer and nothing else: one value at its path, or some
values in their section. -/
inductive Within (l : Layer) : String × Tree → Prop where
  | ofValue (k : Key) (t : Tree) (v : k.kind.Value) (hstands : k.StandsFor t v)
      (hvalue : l k = some v) : Within l (k.path, t)
  | ofSection (name : String) (members : List (String × Tree)) (hname : name ∈ sectionNames)
      (hmembers : ∀ member ∈ members, ∃ (k : Key) (v : k.kind.Value), k.sectionName = name ∧
        k.name = member.1 ∧ k.StandsFor member.2 v ∧ l k = some v) :
      Within l (name, .table members)

/-- Whether the entry of a source sets a value for the key. -/
def mentions (k : Key) (entry : String × Tree) : Bool :=
  entry.1 = k.path || (entry.1 = k.sectionName && (entry.2.members.map (·.1)).contains k.name)

/-- The entries of a source set the values of the layer, all of them and nothing else. -/
structure Gives (entries : List (String × Tree)) (l : Layer) : Prop where
  within : ∀ entry ∈ entries, Within l entry
  mentioned : ∀ k, (l k).isSome = true → ∃ entry ∈ entries, mentions k entry = true

variable {l : Layer} {k : Key}

theorem mentions_path {k' : Key} {t : Tree} : mentions k (k'.path, t) = decide (k = k') := by
  have hsection : k'.path ≠ k.sectionName :=
    (path_ne_of_mem_sectionNames (sectionName_mem k) k').symm
  have hpath : k'.path = k.path ↔ k = k' := path_injective.eq_iff.trans eq_comm
  simp [mentions, hsection, hpath]

theorem mentions_section {name : String} {members : List (String × Tree)}
    (hname : name ∈ sectionNames) :
    mentions k (name, .table members) =
      (decide (name = k.sectionName) && (members.map (·.1)).contains k.name) := by
  have hpath := path_ne_of_mem_sectionNames hname k
  simp [mentions, hpath, Tree.members]

/-- What an entry sets is in the layer. -/
theorem Within.isSome_of_mentions {entry : String × Tree} (h : Within l entry)
    (hmentions : mentions k entry = true) : (l k).isSome = true := by
  cases h with
  | ofValue k' t v hstands hvalue =>
      rw [mentions_path, decide_eq_true_iff] at hmentions
      rw [hmentions, hvalue]
      rfl
  | ofSection name members hname hmembers =>
      rw [mentions_section hname, Bool.and_eq_true, decide_eq_true_iff, List.contains_iff_mem,
        List.mem_map] at hmentions
      obtain ⟨hsection, member, hmember, hkey⟩ := hmentions
      obtain ⟨k', v, hsection', hname', -, hvalue⟩ := hmembers member hmember
      obtain rfl : k' = k := key_eq_of_names (hsection'.trans hsection) (hname'.trans hkey)
      rw [hvalue]
      rfl

namespace Tree

variable {root t : Tree} {base : Layer} {name : String}

/-- The tree with one section replaced. -/
def withSection (root : Tree) (name : String) (t : Tree) : Tree :=
  table (SortedMap.insert name t root.members)

theorem sectionAt_withSection (root : Tree) (name name' : String) (t : Tree) :
    (root.withSection name t).sectionAt name' =
      if name' = name then t else root.sectionAt name' := by
  simp only [withSection, sectionAt, members, SortedMap.insert, SortedMap.get?_alter]
  split <;> rfl

/-- What is held depends on the keys of the section only. -/
theorem SectionHolds.congr (h : SectionHolds name t base)
    (heq : ∀ k : Key, k.sectionName = name → l k = base k) : SectionHolds name t l := by
  refine ⟨h.isTable, fun k hk => ?_⟩
  rw [heq k hk]
  exact h.rel k hk

theorem Holds.congr (h : root.Holds base) (heq : ∀ k, l k = base k) : root.Holds l :=
  (funext heq : l = base) ▸ h

theorem Holds.withSection (h : root.Holds base) (ht : SectionHolds name t l)
    (hother : ∀ k : Key, k.sectionName ≠ name → l k = base k) :
    (root.withSection name t).Holds l := by
  refine ⟨⟨_, rfl, ?_⟩, fun name' => ?_⟩
  · obtain ⟨pairs, rfl, hsorted⟩ := h.isTable
    exact hsorted.alter name _
  · rw [sectionAt_withSection]
    split
    case isTrue hname => exact hname ▸ ht
    case isFalse hname =>
        exact (h.sectionHolds name').congr fun k hk => hother k (hk ▸ hname)

/-- A value is no table, so it is stored as it is. -/
theorem assign_of_standsFor {x : Tree} {v : k.kind.Value} (h : k.StandsFor x v) (name : String)
    (t : Tree) : assign name t x = table (SortedMap.insert name x t.members) := by
  cases x with
  | table members => cases k <;> simp [Key.StandsFor, Kind.StandsFor] at h
  | _ => rfl

/-- Storing one value changes that value alone. -/
theorem SectionHolds.assign (h : SectionHolds name t base) {x : Tree} {v : k.kind.Value}
    (hname : k.sectionName = name) (hstands : k.StandsFor x v) (hvalue : l k = some v) :
    SectionHolds name (assign k.name t x) fun k' => if k' = k then l k' else base k' := by
  rw [assign_of_standsFor hstands]
  obtain ⟨⟨pairs, rfl, hsorted⟩, hrel⟩ := h
  refine ⟨⟨_, rfl, hsorted.alter k.name _⟩, fun k' hk' => ?_⟩
  simp only [Tree.members, SortedMap.insert, SortedMap.get?_alter]
  by_cases hk : k' = k
  · subst hk
    simp only [if_true, hvalue]
    exact .some hstands
  · have hother : k'.name ≠ k.name := fun heq => hk (key_eq_of_names (hk'.trans hname.symm) heq)
    rw [if_neg hother, if_neg hk]
    exact hrel k' hk'

/-- Storing the members of a section changes their values alone. -/
theorem SectionHolds.assignAll {members : List (String × Tree)} (h : SectionHolds name t base)
    (hmembers : ∀ member ∈ members, ∃ (k : Key) (v : k.kind.Value), k.sectionName = name ∧
      k.name = member.1 ∧ k.StandsFor member.2 v ∧ l k = some v) :
    SectionHolds name (assignAll t members) fun k =>
      if (members.map (·.1)).contains k.name then l k else base k := by
  -- Each member is stored over what the members before it have left.
  induction members generalizing t base with
  | nil => exact h
  | cons member members ih =>
      obtain ⟨key, x⟩ := member
      obtain ⟨k, v, hname, rfl, hstands, hvalue⟩ := hmembers _ List.mem_cons_self
      have hfirst := h.assign hname hstands hvalue
      have hrest := ih hfirst fun member hmember => hmembers member (List.mem_cons_of_mem _ hmember)
      refine hrest.congr fun k' hk' => ?_
      have hkey : k'.name = k.name ↔ k' = k :=
        ⟨key_eq_of_names (hk'.trans hname.symm), congrArg Key.name⟩
      rw [List.map_cons, List.contains_cons]
      by_cases hk : k' = k
      · simp [hk]
      · have hother : (k'.name == k.name) = false := beq_eq_false_iff_ne.mpr (mt hkey.mp hk)
        rw [hother, Bool.false_or, if_neg hk]

/-- Storing an entry of a source changes the values that it sets, and no others. -/
theorem Holds.store {entry : String × Tree} (h : root.Holds base) (hentry : Within l entry) :
    (root.store entry).Holds fun k => if mentions k entry then l k else base k := by
  -- A value is put into its section; a section gets the members one by one.
  obtain ⟨pairs, rfl, hsorted⟩ := h.isTable
  cases hentry with
  | ofValue k x v hstands hvalue =>
      have hstore : (table pairs).store (k.path, x) = (table pairs).withSection k.sectionName
          (Tree.assign k.name ((table pairs).sectionAt k.sectionName) x) := by
        simp only [store, path?_path, Option.getD_some, put, SortedMap.alter_eq_insert,
          assign_of_standsFor hstands, sectionAt]
        cases SortedMap.get? k.sectionName (table pairs).members <;> rfl
      rw [hstore]
      refine h.withSection (((h.sectionHolds _).assign rfl hstands hvalue).congr fun k' _ => ?_)
        fun k' hk' => ?_
      · simp [mentions_path]
      · have hk : k' ≠ k := fun heq => hk' (congrArg Key.sectionName heq)
        simp [mentions_path, hk]
  | ofSection name members hname hmembers =>
      have hstore : (table pairs).store (name, table members) = (table pairs).withSection name
          (Tree.assignAll ((table pairs).sectionAt name) members) := by
        simp only [store, path?_of_mem_sectionNames hname, Option.getD_some, put, Tree.assign]
        rfl
      rw [hstore]
      refine h.withSection (((h.sectionHolds name).assignAll hmembers).congr fun k' hk' => ?_)
        fun k' hk' => ?_
      · rw [mentions_section hname, decide_eq_true hk'.symm, Bool.true_and]
      · rw [mentions_section hname, decide_eq_false (Ne.symm hk'), Bool.false_and,
          if_neg Bool.false_ne_true]

/-- A source put over a tree changes the values that it sets, and no others. -/
theorem Holds.overlay {entries : List (String × Tree)} (h : root.Holds base)
    (hentries : Gives entries l) :
    (Tree.overlay entries root).Holds fun k => (l k).or (base k) := by
  -- Of the entries stored so far, those that mention a key decide whether the layer holds for it.
  have hfold : ∀ done : List (String × Tree), (∀ entry ∈ done, Within l entry) →
      (Tree.overlay done root).Holds fun k =>
        if done.any (mentions k) then l k else base k := by
    intro done
    induction done using List.reverseRecOn with
    | nil => exact fun _ => h
    | append_singleton done entry ih =>
        intro hdone
        have hbefore := ih fun e he => hdone e (List.mem_append_left _ he)
        have hafter := hbefore.store (hdone entry (by simp))
        rw [Tree.overlay, List.foldl_append]
        refine hafter.congr fun k => ?_
        rw [List.any_append, List.any_cons, List.any_nil, Bool.or_false]
        cases mentions k entry with
        | true => rw [Bool.or_true, if_pos rfl, if_pos rfl]
        | false => rw [Bool.or_false, if_neg Bool.false_ne_true]
  refine (hfold entries hentries.within).congr fun k => ?_
  by_cases hmentioned : entries.any (mentions k) = true
  · obtain ⟨entry, hentry, hmentions⟩ := List.any_eq_true.mp hmentioned
    have hsome := (hentries.within entry hentry).isSome_of_mentions hmentions
    rw [if_pos hmentioned, Option.or_of_isSome hsome]
  · have hnone : l k = none := by
      by_contra hset
      obtain ⟨entry, hentry, hmentions⟩ := hentries.mentioned k (Option.isSome_iff_ne_none.mpr hset)
      exact hmentioned (List.any_eq_true.mpr ⟨entry, hentry, hmentions⟩)
    rw [if_neg hmentioned, hnone, Option.none_or]

/-- An empty tree holds nothing. -/
theorem holds_empty : (table []).Holds fun _ => none :=
  ⟨⟨[], rfl, .nil⟩, fun _ => ⟨⟨[], rfl, .nil⟩, fun _ _ => .none⟩⟩

end Tree

end LoadProbe.Settings
