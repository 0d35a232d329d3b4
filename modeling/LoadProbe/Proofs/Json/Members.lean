import LoadProbe.Proofs.Json.Lookup

/-!
# Records by their members

A record is read from an object whose keys are all texts, and of its members only those that were
asked for have to mean something.  What is read under a name depends on the member with that key
alone.

* `Json.Written.parts` are the numbers and texts in a document, `Json.Written.Means` says that all
  of them mean something and that the document is not nested too deeply;
  `Json.valueWithin?_isSome_iff`: these are the documents that mean something.
* `Json.ReadsFields` says that a record can be read from the members of an object, and
  `Json.fields?_object_isSome_iff` that it is then read and not otherwise.
* `Json.EditOf` replaces or removes one member; `Json.EditOf.member?_eq`: the others stay.
-/

namespace LoadProbe.Json

/-! ## Parts of a document -/

/-- What has to be given a meaning: a number or a text. -/
inductive Part where
  | number (n : Numeral)
  | text (s : List Piece)

/-- The number is not too large, and the text holds no half of a surrogate pair. -/
def Part.Means : Part → Prop
  | .number n => n.value?.isSome = true
  | .text s => (text? s).isSome = true

mutual

/-- All numbers and texts in a document, keys included. -/
def Written.parts : Written → List Part
  | .null => []
  | .bool _ => []
  | .number n => [.number n]
  | .string s => [.text s]
  | .array items => partsOfItems items
  | .object members => partsOfMembers members

def partsOfItems : List Written → List Part
  | [] => []
  | item :: items => item.parts ++ partsOfItems items

def partsOfMembers : List (List Piece × Written) → List Part
  | [] => []
  | (key, item) :: members => .text key :: (item.parts ++ partsOfMembers members)

end

mutual

/-- A document means something if all its parts do. -/
theorem value?_isSome_iff (document : Written) :
    document.value?.isSome = true ↔ ∀ part ∈ document.parts, part.Means := by
  cases document with
  | null => simp [Written.value?, Written.parts]
  | bool b => simp [Written.value?, Written.parts]
  | number n => simp [Written.value?, Written.parts, Part.Means]
  | string s => simp [Written.value?, Written.parts, Part.Means]
  | array items => simp [Written.value?, Written.parts, valuesOfItems?_isSome_iff items]
  | object members => simp [Written.value?, Written.parts, valuesOfMembers?_isSome_iff members]

theorem valuesOfItems?_isSome_iff (items : List Written) :
    (valuesOfItems? items).isSome = true ↔ ∀ part ∈ partsOfItems items, part.Means := by
  cases items with
  | nil => simp [valuesOfItems?, partsOfItems]
  | cons item items =>
      rw [partsOfItems, List.forall_mem_append, ← value?_isSome_iff item,
        ← valuesOfItems?_isSome_iff items, valuesOfItems?]
      cases item.value? <;> cases valuesOfItems? items <;> simp

theorem valuesOfMembers?_isSome_iff (members : List (List Piece × Written)) :
    (valuesOfMembers? members).isSome = true ↔ ∀ part ∈ partsOfMembers members, part.Means := by
  cases members with
  | nil => simp [valuesOfMembers?, partsOfMembers]
  | cons member members =>
      obtain ⟨key, item⟩ := member
      rw [partsOfMembers, List.forall_mem_cons, List.forall_mem_append, ← value?_isSome_iff item,
        ← valuesOfMembers?_isSome_iff members, valuesOfMembers?, Part.Means]
      cases text? key <;> cases item.value? <;> cases valuesOfMembers? members <;> simp

end

/-- A document that stands inside others means something: it is not nested too deeply with them, and
every number and every text in it means something. -/
structure Written.Means (outer : Nat) (document : Written) : Prop where
  depth_le : outer + document.depth ≤ maxDepth
  parts : ∀ part ∈ document.parts, part.Means

theorem valueWithin?_isSome_iff {outer : Nat} {document : Written} :
    (document.valueWithin? outer).isSome = true ↔ document.Means outer := by
  unfold Written.valueWithin?
  split
  case isTrue hdepth =>
      rw [value?_isSome_iff]
      exact ⟨fun h => ⟨hdepth, h⟩, fun h => h.parts⟩
  case isFalse hdepth => exact ⟨nofun, fun h => absurd h.depth_le hdepth⟩

/-! ## Members -/

variable {names : List String} {name : String} {members : List (List Piece × Written)}
  {all : List (String × Written)}

/-- What stands under a key, if anything does. -/
def Written.member? (name : String) : Written → Option Written
  | .object members =>
      members.findSome? fun member => if text? member.1 = some name then some member.2 else none
  | _ => none

/-- All keys are texts, and what stands under one of the names means something inside the object. -/
structure ReadsFields (names : List String) (members : List (List Piece × Written)) : Prop where
  keys : ∀ member ∈ members, (text? member.1).isSome = true
  values : ∀ member ∈ members, ∀ name ∈ names, text? member.1 = some name → member.2.Means 1

theorem lookup_of_mapM_keyed? (h : members.mapM keyed? = some all) (name : String) :
    all.lookup name = (Written.object members).member? name := by
  induction members generalizing all with
  | nil =>
      obtain rfl : all = [] := by simpa using h.symm
      rfl
  | cons member members ih =>
      obtain ⟨key, item⟩ := member
      obtain ⟨first, later, hfirst, hlater, rfl⟩ := exists_of_mapM_cons h
      obtain ⟨k, hk, rfl⟩ := Option.map_eq_some_iff.mp hfirst
      have hkey : text? key = some k := hk
      have hrest := ih hlater
      simp only [Written.member?] at hrest
      rw [List.lookup_cons, hrest]
      by_cases hname : name = k
      · simp [Written.member?, hkey, hname]
      · have hother : (name == k) = false := beq_eq_false_iff_ne.mpr hname
        simp [Written.member?, hkey, hother, Ne.symm hname]

theorem lookup_of_mapM_valued? {pairs : List (String × Value)} (h : all.mapM valued? = some pairs)
    (name : String) : pairs.lookup name = (all.lookup name).bind (Written.valueWithin? 1) := by
  induction all generalizing pairs with
  | nil =>
      obtain rfl : pairs = [] := by simpa using h.symm
      rfl
  | cons member all ih =>
      obtain ⟨key, item⟩ := member
      obtain ⟨first, later, hfirst, hlater, rfl⟩ := exists_of_mapM_cons h
      obtain ⟨v, hv, rfl⟩ := Option.map_eq_some_iff.mp hfirst
      have hvalue : item.valueWithin? 1 = some v := hv
      rw [List.lookup_cons, List.lookup_cons, ih hlater]
      cases name == key with
      | true => exact hvalue.symm
      | false => rfl

/-- Members with keys that were asked for, all keys being texts. -/
theorem mem_known_iff (h : members.mapM keyed? = some all) {key : String} {item : Written} :
    (key, item) ∈ all.filter (fun member => names.contains member.1) ↔
      key ∈ names ∧ ∃ member ∈ members, text? member.1 = some key ∧ member.2 = item := by
  have hkeyed : ∀ member : List Piece × Written, keyed? member = some (key, item) ↔
      text? member.1 = some key ∧ member.2 = item := by
    intro member
    simp only [keyed?, Option.map_eq_some_iff, Prod.mk.injEq]
    constructor
    · rintro ⟨k, hk, rfl, hitem⟩
      exact ⟨hk, hitem⟩
    · rintro ⟨hk, hitem⟩
      exact ⟨key, hk, rfl, hitem⟩
  rw [List.mem_filter, mem_iff_of_mapM h, and_comm]
  simp only [hkeyed, List.contains_iff_mem]

/-- Where the keys are different texts, the fields that were asked for are read one by one. -/
theorem fields?_object_eq (hdistinct : (Written.object members).keys.Nodup)
    (h : members.mapM keyed? = some all) :
    (Written.object members).fields? names =
      ((all.filter fun member => names.contains member.1).mapM valued?).map Fields.ofMembers := by
  have hknown : ((all.filter fun member => names.contains member.1).map Prod.fst).Nodup := by
    have hfilter : (all.filter fun member => names.contains member.1).map Prod.fst =
        (Written.object members).keys.filter names.contains := by
      rw [← keys_of_keyed h, List.filter_map]
      rfl
    rw [hfilter]
    exact hdistinct.filter _
  simp only [Written.fields?, h, Option.bind_eq_bind, Option.bind_some, if_pos hknown]

/-- A record is read from an object with different keys if its members allow for it, and not
otherwise. -/
theorem fields?_object_isSome_iff (hdistinct : (Written.object members).keys.Nodup) :
    ((Written.object members).fields? names).isSome = true ↔ ReadsFields names members := by
  have hkeys : (members.mapM keyed?).isSome = true ↔
      ∀ member ∈ members, (text? member.1).isSome = true := by
    simp only [isSome_mapM_iff, keyed?, Option.isSome_map]
  cases hall : members.mapM keyed? with
  | none =>
      have hnone : ¬∀ member ∈ members, (text? member.1).isSome = true := by
        rw [← hkeys, hall]
        decide
      simp only [Written.fields?, hall]
      exact ⟨fun h => absurd h Bool.false_ne_true, fun h => absurd h.keys hnone⟩
  | some all =>
      rw [hall] at hkeys
      rw [fields?_object_eq hdistinct hall, Option.isSome_map, isSome_mapM_iff]
      constructor
      · intro h
        refine ⟨hkeys.mp rfl, fun member hmember name hname hkey => ?_⟩
        have hknown := (mem_known_iff hall).mpr ⟨hname, member, hmember, hkey, rfl⟩
        have hvalue := h _ hknown
        rw [valued?, Option.isSome_map] at hvalue
        exact valueWithin?_isSome_iff.mp hvalue
      · rintro h ⟨key, item⟩ hknown
        obtain ⟨hname, member, hmember, hkey, rfl⟩ := (mem_known_iff hall).mp hknown
        rw [valued?, Option.isSome_map]
        exact valueWithin?_isSome_iff.mpr (h.values member hmember key hname hkey)

/-- What a record holds under a name is the meaning of the member with that key. -/
theorem eq_of_fields?_object {fields : Fields}
    (hdistinct : (Written.object members).keys.Nodup)
    (h : (Written.object members).fields? names = some fields) (hname : name ∈ names) :
    fields name = ((Written.object members).member? name).bind (Written.valueWithin? 1) := by
  cases hall : members.mapM keyed? with
  | none =>
      simp only [Written.fields?, hall] at h
      cases h
  | some all =>
      rw [fields?_object_eq hdistinct hall] at h
      obtain ⟨pairs, hpairs, rfl⟩ := Option.map_eq_some_iff.mp h
      rw [Fields.ofMembers, lookup_of_mapM_valued? hpairs,
        lookup_filter _ all (by simpa using hname), lookup_of_mapM_keyed? hall]

/-! ## Edits -/

/-- One member is given another value that means something, or is removed. -/
inductive EditOf (name : String) :
    List (List Piece × Written) → List (List Piece × Written) → Prop where
  | replaced (before : List (List Piece × Written)) (key : List Piece) (old new : Written)
      (after : List (List Piece × Written)) (hkey : text? key = some name) (hnew : new.Means 1) :
      EditOf name (before ++ (key, old) :: after) (before ++ (key, new) :: after)
  | removed (before : List (List Piece × Written)) (key : List Piece) (old : Written)
      (after : List (List Piece × Written)) (hkey : text? key = some name) :
      EditOf name (before ++ (key, old) :: after) (before ++ after)

variable {members' : List (List Piece × Written)}

theorem keys_append (before after : List (List Piece × Written)) :
    (Written.object (before ++ after)).keys =
      (Written.object before).keys ++ (Written.object after).keys :=
  List.filterMap_append

theorem keys_cons_of_text? {key : List Piece} (hkey : text? key = some name) (item : Written) :
    (Written.object ((key, item) :: members)).keys = name :: (Written.object members).keys := by
  simp [Written.keys, hkey]

theorem EditOf.keys_sublist (h : EditOf name members members') :
    (Written.object members').keys.Sublist (Written.object members).keys := by
  cases h with
  | replaced before key old new after hkey =>
      simp only [keys_append, keys_cons_of_text? hkey]
      exact List.Sublist.refl _
  | removed before key old after hkey =>
      simp only [keys_append, keys_cons_of_text? hkey]
      exact (List.sublist_cons_self _ _).append_left _

/-- The members under other keys stay. -/
theorem EditOf.member?_eq (h : EditOf name members members') {other : String}
    (hother : name ≠ other) :
    (Written.object members').member? other = (Written.object members).member? other := by
  cases h with
  | replaced before key old new after hkey =>
      simp [Written.member?, List.findSome?_append, hkey, hother]
  | removed before key old after hkey =>
      simp [Written.member?, List.findSome?_append, hkey, hother]

/-- A record can still be read. -/
theorem EditOf.readsFields (h : EditOf name members members') (hreads : ReadsFields names members) :
    ReadsFields names members' := by
  obtain ⟨hkeys, hvalues⟩ := hreads
  cases h with
  | replaced before key old new after hkey hnew =>
      simp only [List.forall_mem_append, List.forall_mem_cons] at hkeys hvalues
      constructor
      · simpa only [List.forall_mem_append, List.forall_mem_cons] using hkeys
      · simp only [List.forall_mem_append, List.forall_mem_cons]
        exact ⟨hvalues.1, fun _ _ _ => hnew, hvalues.2.2⟩
  | removed before key old after hkey =>
      simp only [List.forall_mem_append, List.forall_mem_cons] at hkeys hvalues
      constructor
      · exact List.forall_mem_append.mpr ⟨hkeys.1, hkeys.2.2⟩
      · exact List.forall_mem_append.mpr ⟨hvalues.1, hvalues.2.2⟩

end LoadProbe.Json
