import LoadProbe.Json.Record
import LoadProbe.Proofs.Maps.Partial

/-!
# Fields by lookup

A record is read straight from a document: members that nobody asked for are skipped, and the
others are read one by one.  Where the document as a whole has a meaning, this comes to the same as
a plain lookup in that meaning.

* `Json.Value.field?` is the plain lookup, by name in an object and by position in an array.
* `Json.fields?_bind_eq_field?`: taking a record out of a value and then a field out of the record
  is the lookup.
* `Json.fields?_of_value?`: reading a record from a document whose fields are not repeated succeeds
  exactly if its meaning is an object or a short array, and then the fields are those of the lookup.
-/

namespace LoadProbe.Json

/-! ## Lists of pairs -/

/-- If there is only one pair with a key, it does not matter from which end it is looked up. -/
theorem lookup_reverse {κ α : Type} [BEq κ] [LawfulBEq κ] {pairs : List (κ × α)} {key : κ}
    (honce : (pairs.map Prod.fst).count key ≤ 1) :
    pairs.reverse.lookup key = pairs.lookup key := by
  induction pairs with
  | nil => rfl
  | cons p pairs ih =>
      -- Seen from the other end the first pair is the last, so it must not be hidden by another.
      rw [List.map_cons, List.count_cons] at honce
      rw [List.reverse_cons, List.lookup_append, List.lookup_cons, List.lookup_nil,
        List.lookup_cons]
      cases hkey : key == p.1 with
      | false =>
          rw [ih (by omega)]
          simp
      | true =>
          obtain rfl := eq_of_beq hkey
          have habsent : p.1 ∉ pairs.map Prod.fst := by
            rw [← List.count_eq_zero]
            simpa using honce
          have hnone : pairs.reverse.lookup p.1 = none := by
            rw [List.lookup_eq_none_iff]
            intro q hq
            have hne : p.1 ≠ q.1 := by
              intro heq
              exact habsent (heq ▸ List.mem_map_of_mem (List.mem_reverse.mp hq))
            simpa using hne
          simp [hnone]

/-- Leaving out pairs with other keys does not change a lookup. -/
theorem lookup_filter {κ α : Type} [BEq κ] [LawfulBEq κ] (kept : κ → Bool)
    (pairs : List (κ × α)) {key : κ} (hkept : kept key = true) :
    (pairs.filter fun p => kept p.1).lookup key = pairs.lookup key := by
  induction pairs with
  | nil => rfl
  | cons p pairs ih =>
      rw [List.filter_cons, List.lookup_cons]
      cases hkey : key == p.1 with
      | true =>
          obtain rfl := eq_of_beq hkey
          rw [if_pos hkept, List.lookup_cons, hkey]
      | false =>
          split
          case isTrue => rw [List.lookup_cons, hkey, ih]
          case isFalse => exact ih

/-- A name is looked up at its position. -/
theorem lookup_zip {α : Type} (names : List String) (items : List α) {name : String}
    (hname : name ∈ names) : (names.zip items).lookup name = items[names.idxOf name]? := by
  induction names generalizing items with
  | nil => simp at hname
  | cons first names ih =>
      cases items with
      | nil => simp
      | cons item items =>
          rw [List.zip_cons_cons, List.lookup_cons, List.idxOf_cons]
          cases hfirst : name == first with
          | true =>
              obtain rfl := eq_of_beq hfirst
              simp
          | false =>
              have hne : name ≠ first := ne_of_beq_false hfirst
              have hother : (first == name) = false := beq_eq_false_iff_ne.mpr (Ne.symm hne)
              have hmem : name ∈ names := (List.mem_cons.mp hname).resolve_left hne
              rw [ih items hmem, hother]
              simp

/-! ## Fields of values -/

/-- What a value holds in a field of a record: in an object the member with its name, and in an
array that is not too long the item at its position. -/
def Value.field? (names : List String) (name : String) : Value → Option Value
  | .object members => members.lookup name
  | .array items => if items.length ≤ names.length then items[names.idxOf name]? else none
  | _ => none

/-- The value is an object or an array of at most `size` items. -/
def Value.IsRecord (size : Nat) : Value → Prop
  | .object _ => True
  | .array items => items.length ≤ size
  | _ => False

/-- A field of the record in a value is found by the lookup. -/
theorem fields?_bind_eq_field? {names : List String} {name : String} (hname : name ∈ names)
    (v : Value) : (v.fields? names).bind (· name) = v.field? names name := by
  cases v with
  | object members => rfl
  | array items =>
      simp only [Value.fields?, Value.field?]
      split
      case isTrue => exact lookup_zip names items hname
      case isFalse => rfl
  | null => rfl
  | bool b => rfl
  | integer n => rfl
  | float x => rfl
  | string s => rfl

/-! ## Fields of documents -/

/-- The keys of an object in the order of the text, as far as they are texts. -/
def Written.keys : Written → List String
  | .object members => members.filterMap fun member => text? member.1
  | _ => []

/-- Members whose keys are all texts keep them. -/
theorem keys_of_keyed {members : List (List Piece × Written)} {all : List (String × Written)}
    (h : members.mapM keyed? = some all) : all.map Prod.fst = (Written.object members).keys := by
  induction members generalizing all with
  | nil =>
      obtain rfl : all = [] := by simpa using h.symm
      rfl
  | cons member members ih =>
      obtain ⟨key, item⟩ := member
      obtain ⟨first, later, hfirst, hlater, rfl⟩ := exists_of_mapM_cons h
      obtain ⟨k, hk, rfl⟩ := Option.map_eq_some_iff.mp hfirst
      have hkey : text? key = some k := hk
      simp only [List.map_cons, ih hlater, Written.keys, List.filterMap_cons, hkey]

/-- A number is not a record. -/
theorem not_isRecord_of_numeral {n : Numeral} {v : Value} {size : Nat} (h : n.value? = some v) :
    ¬v.IsRecord size := by
  unfold Numeral.value? at h
  simp only at h
  split at h
  · obtain rfl := Option.some.inj h
    exact id
  split at h
  · obtain rfl := Option.some.inj h
    exact id
  · obtain ⟨x, -, rfl⟩ := Option.map_eq_some_iff.mp h
    exact id

/-- A document means something inside others if it does on its own and is not nested too deeply. -/
theorem valueWithin?_eq_some_iff {outer : Nat} {document : Written} {v : Value} :
    document.valueWithin? outer = some v ↔
      outer + document.depth ≤ maxDepth ∧ document.value? = some v := by
  unfold Written.valueWithin?
  split
  case isTrue hdepth => simp [hdepth]
  case isFalse hdepth => simp [hdepth]

theorem valuesOfItems?_cons_eq_some_iff {item : Written} {items : List Written}
    {values : List Value} :
    valuesOfItems? (item :: items) = some values ↔
      ∃ v vs, item.value? = some v ∧ valuesOfItems? items = some vs ∧ values = v :: vs := by
  simp only [valuesOfItems?, Option.bind_eq_bind, Option.bind_eq_some_iff]
  constructor
  · rintro ⟨v, hv, vs, hvs, hvalues⟩
    exact ⟨v, vs, hv, hvs, (Option.some.inj hvalues).symm⟩
  · rintro ⟨v, vs, hv, hvs, rfl⟩
    exact ⟨v, hv, vs, hvs, rfl⟩

theorem valuesOfMembers?_cons_eq_some_iff {key : List Piece} {item : Written}
    {members : List (List Piece × Written)} {values : List (String × Value)} :
    valuesOfMembers? ((key, item) :: members) = some values ↔
      ∃ k v pairs, text? key = some k ∧ item.value? = some v ∧
        valuesOfMembers? members = some pairs ∧ values = (k, v) :: pairs := by
  simp only [valuesOfMembers?, Option.bind_eq_bind, Option.bind_eq_some_iff]
  constructor
  · rintro ⟨k, hk, v, hv, pairs, hpairs, hvalues⟩
    exact ⟨k, v, pairs, hk, hv, hpairs, (Option.some.inj hvalues).symm⟩
  · rintro ⟨k, v, pairs, hk, hv, hpairs, rfl⟩
    exact ⟨k, hk, v, hv, pairs, hpairs, rfl⟩

/-- The items of an array that means something mean something each, at their depth. -/
theorem mapM_valueWithin?_of_items {items : List Written} {values : List Value}
    (hvalues : valuesOfItems? items = some values) (hdepth : 1 + depthOfItems items ≤ maxDepth) :
    items.mapM (Written.valueWithin? 1) = some values := by
  induction items generalizing values with
  | nil => simpa [valuesOfItems?] using hvalues
  | cons item items ih =>
      obtain ⟨v, vs, hv, hvs, rfl⟩ := valuesOfItems?_cons_eq_some_iff.mp hvalues
      unfold depthOfItems at hdepth
      have hitem : item.valueWithin? 1 = some v :=
        valueWithin?_eq_some_iff.mpr ⟨by omega, hv⟩
      rw [List.mapM_cons, hitem, ih hvs (by omega)]
      rfl

theorem length_of_items {items : List Written} {values : List Value}
    (hvalues : valuesOfItems? items = some values) : items.length = values.length := by
  induction items generalizing values with
  | nil =>
      obtain rfl : values = [] := by simpa [valuesOfItems?] using hvalues.symm
      rfl
  | cons item items ih =>
      obtain ⟨v, vs, -, hvs, rfl⟩ := valuesOfItems?_cons_eq_some_iff.mp hvalues
      rw [List.length_cons, List.length_cons, ih hvs]

/-- Where every member means something, the members can be picked by their keys first and read
afterwards. -/
theorem mapM_valued?_of_members {members : List (List Piece × Written)}
    {pairs : List (String × Value)} (hvalues : valuesOfMembers? members = some pairs)
    (hdepth : 1 + depthOfMembers members ≤ maxDepth) :
    ∃ all, members.mapM keyed? = some all ∧ all.map Prod.fst = pairs.map Prod.fst ∧
      ∀ kept : String → Bool, (all.filter fun member => kept member.1).mapM valued? =
        some (pairs.filter fun pair => kept pair.1) := by
  induction members generalizing pairs with
  | nil =>
      obtain rfl : pairs = [] := by simpa [valuesOfMembers?] using hvalues.symm
      exact ⟨[], rfl, rfl, fun _ => rfl⟩
  | cons member members ih =>
      obtain ⟨key, item⟩ := member
      obtain ⟨k, v, later, hk, hv, hlater, rfl⟩ := valuesOfMembers?_cons_eq_some_iff.mp hvalues
      unfold depthOfMembers at hdepth
      obtain ⟨all, hall, hkeys, hkept⟩ := ih hlater (by omega)
      have hkeyed : keyed? (key, item) = some (k, item) := by
        simp [keyed?, hk]
      have hvalued : valued? (k, item) = some (k, v) := by
        have hitem : item.valueWithin? 1 = some v :=
          valueWithin?_eq_some_iff.mpr ⟨by omega, hv⟩
        simp [valued?, hitem]
      refine ⟨(k, item) :: all, ?_, by simp [hkeys], ?_⟩
      · rw [List.mapM_cons, hkeyed, hall]
        rfl
      · intro kept
        cases hchosen : kept k with
        | true =>
            rw [List.filter_cons_of_pos (by simpa using hchosen),
              List.filter_cons_of_pos (by simpa using hchosen), List.mapM_cons, hvalued, hkept]
            rfl
        | false =>
            rw [List.filter_cons_of_neg (by simpa using hchosen),
              List.filter_cons_of_neg (by simpa using hchosen), hkept]

/-- Where every member means something, all keys are texts. -/
theorem keys_of_members {members : List (List Piece × Written)} {pairs : List (String × Value)}
    (hvalues : valuesOfMembers? members = some pairs) :
    (Written.object members).keys = pairs.map Prod.fst := by
  induction members generalizing pairs with
  | nil =>
      obtain rfl : pairs = [] := by simpa [valuesOfMembers?] using hvalues.symm
      rfl
  | cons member members ih =>
      obtain ⟨key, item⟩ := member
      obtain ⟨k, v, later, hk, -, hlater, rfl⟩ := valuesOfMembers?_cons_eq_some_iff.mp hvalues
      have hkeys : (Written.object ((key, item) :: members)).keys =
          k :: (Written.object members).keys := by
        simp [Written.keys, hk]
      rw [hkeys, ih hlater, List.map_cons]

/-- Reading a record from an object comes to the lookup of each field. -/
theorem fields?_of_object {members : List (List Piece × Written)} {v : Value}
    {names : List String} (hvalue : (Written.object members).valueWithin? 0 = some v)
    (honce : ∀ name ∈ names, (Written.object members).keys.count name ≤ 1) :
    v.IsRecord names.length ∧ ∃ fields, (Written.object members).fields? names = some fields ∧
      ∀ name ∈ names, fields name = v.field? names name := by
  obtain ⟨hdepth, hmeaning⟩ := valueWithin?_eq_some_iff.mp hvalue
  obtain ⟨pairs, hpairs, rfl⟩ := Option.map_eq_some_iff.mp hmeaning
  have hdepth : 1 + depthOfMembers members ≤ maxDepth := by
    unfold Written.depth at hdepth
    omega
  obtain ⟨all, hall, hkeys, hkept⟩ := mapM_valued?_of_members hpairs hdepth
  rw [keys_of_members hpairs] at honce
  -- A key that was asked for stands in the document once, and all others are filtered out.
  have hknown : ((all.filter fun member => names.contains member.1).map Prod.fst).Nodup := by
    have hfilter : (all.filter fun member => names.contains member.1).map Prod.fst =
        (pairs.map Prod.fst).filter names.contains := by
      rw [← hkeys, List.filter_map]
      rfl
    rw [hfilter, List.nodup_iff_count_le_one]
    intro name
    by_cases hname : names.contains name = true
    · rw [List.count_filter hname]
      exact honce name (by simpa using hname)
    · have habsent : name ∉ (pairs.map Prod.fst).filter names.contains :=
        fun hmem => hname (List.mem_filter.mp hmem).2
      rw [List.count_eq_zero.mpr habsent]
      exact Nat.zero_le 1
  refine ⟨trivial, Fields.ofMembers (pairs.filter fun pair => names.contains pair.1), ?_, ?_⟩
  · simp only [Written.fields?, hall, Option.bind_eq_bind, Option.bind_some]
    rw [if_pos hknown, hkept]
    rfl
  · intro name hname
    rw [Fields.ofMembers, lookup_filter _ pairs (by simpa using hname), Value.field?,
      SortedMap.lookup_ofList, lookup_reverse (honce name hname)]

/-- Reading a record from an array comes to the lookup of each field if the array is not too long,
and fails if it is. -/
theorem fields?_of_array {items : List Written} {v : Value} {names : List String}
    (hvalue : (Written.array items).valueWithin? 0 = some v) :
    (¬v.IsRecord names.length ∧ (Written.array items).fields? names = none) ∨
      v.IsRecord names.length ∧ ∃ fields, (Written.array items).fields? names = some fields ∧
        ∀ name ∈ names, fields name = v.field? names name := by
  obtain ⟨hdepth, hmeaning⟩ := valueWithin?_eq_some_iff.mp hvalue
  obtain ⟨vs, hvs, rfl⟩ := Option.map_eq_some_iff.mp hmeaning
  have hdepth : 1 + depthOfItems items ≤ maxDepth := by
    unfold Written.depth at hdepth
    omega
  have hitems := mapM_valueWithin?_of_items hvs hdepth
  have hlength := length_of_items hvs
  by_cases hshort : vs.length ≤ names.length
  · refine .inr ⟨hshort, Fields.ofItems names vs, ?_, ?_⟩
    · rw [Written.fields?, if_pos (by omega), hitems]
      rfl
    · intro name hname
      rw [Fields.ofItems, lookup_zip names vs hname, Value.field?, if_pos hshort]
  · refine .inl ⟨hshort, ?_⟩
    rw [Written.fields?, if_neg (by omega)]

/-- Reading a record from a document that means something succeeds if and only if the meaning is an
object or an array that is not too long, and then every field is found by the lookup. -/
theorem fields?_of_value? {document : Written} {v : Value} {names : List String}
    (hvalue : document.valueWithin? 0 = some v)
    (honce : ∀ name ∈ names, document.keys.count name ≤ 1) :
    (¬v.IsRecord names.length ∧ document.fields? names = none) ∨
      v.IsRecord names.length ∧ ∃ fields, document.fields? names = some fields ∧
        ∀ name ∈ names, fields name = v.field? names name := by
  have hmeaning : document.value? = some v := (valueWithin?_eq_some_iff.mp hvalue).2
  cases document with
  | object members => exact .inr (fields?_of_object hvalue honce)
  | array items => exact fields?_of_array hvalue
  | number n => exact .inl ⟨not_isRecord_of_numeral hmeaning, rfl⟩
  | null =>
      obtain rfl := Option.some.inj hmeaning
      exact .inl ⟨id, rfl⟩
  | bool b =>
      obtain rfl := Option.some.inj hmeaning
      exact .inl ⟨id, rfl⟩
  | string s =>
      obtain ⟨text, -, rfl⟩ := Option.map_eq_some_iff.mp hmeaning
      exact .inl ⟨id, rfl⟩

end LoadProbe.Json
