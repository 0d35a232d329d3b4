import LoadProbe.Proofs.Maps.Partial
import LoadProbe.Proofs.Maps.Values
import LoadProbe.Proofs.Toml.Values

/-!
# Written documents

A document that is written is read back, section by section and line by line.

* `Toml.IsWord` says of a name that it needs no quotes, `Toml.Document.WellFormed` of a document
  that its names are such words, that no name is there twice and that its numbers are read back.
* `Toml.pairLine?_entry` reads a line, `Toml.header?_title` a header.
* `Toml.lines?_section` reads a section and `Toml.parse?_write?` a whole document.
-/

namespace LoadProbe.Toml

open LoadProbe.Settings LoadProbe.Text

/-! ## Names -/

/-- The name can stand without quotes. -/
structure IsWord (name : String) : Prop where
  ne_nil : name.toList ≠ []
  isWordCharacter : ∀ c ∈ name.toList, isWordCharacter c = true

/-- The character starts something: it is no blank, and no comment begins with it. -/
def StartsItem (c : Char) : Prop := c ≠ ' ' ∧ c ≠ '\t' ∧ c ≠ '#' ∧ c ≠ '\n'

theorem startsItem_of_isWordCharacter {c : Char} (h : isWordCharacter c = true) : StartsItem c :=
  ⟨ne_of_isWordCharacter h (by decide), ne_of_isWordCharacter h (by decide),
    ne_of_isWordCharacter h (by decide), ne_of_isWordCharacter h (by decide)⟩

variable {c : Char} {cs rest next : List Char} {name : String}

theorem exists_cons_of_isWord (h : IsWord name) :
    ∃ c w, name.toList = c :: w ∧ isWordCharacter c = true := by
  obtain ⟨c, w, hw⟩ := List.exists_cons_of_ne_nil h.ne_nil
  exact ⟨c, w, hw, h.isWordCharacter c (by simp [hw])⟩

theorem skipSpaces_of_startsItem (h : StartsItem c) : skipSpaces (c :: cs) = c :: cs := by
  simp [skipSpaces, h.1, h.2.1]

theorem skipComment_of_startsItem (h : StartsItem c) : skipComment (c :: cs) = c :: cs := by
  unfold skipComment
  split
  case h_1 heq => exact absurd (List.cons.inj heq).1 h.2.2.1
  case h_2 => rfl

theorem skipLines_of_startsItem (h : StartsItem c) (fuel : Nat) :
    skipLines (fuel + 1) (c :: cs) = c :: cs := by
  unfold skipLines
  rw [skipSpaces_of_startsItem h, skipComment_of_startsItem h]
  split
  case h_1 heq => exact absurd (List.cons.inj heq).1 h.2.2.2
  case h_2 => rfl

theorem skipBlank_of_startsItem (h : StartsItem c) : skipBlank (c :: cs) = c :: cs :=
  skipLines_of_startsItem h cs.length

/-- An empty line is skipped. -/
theorem skipBlank_emptyLine (h : StartsItem c) : skipBlank ('\n' :: c :: cs) = c :: cs :=
  skipLines_of_startsItem h cs.length

/-- A name without a point after it is a path of its own. -/
theorem path?_word (hname : IsWord name) (hrest : EndsWord rest)
    (hnext : skipSpaces rest = next) (hdot : next.head? ≠ some '.') (fuel : Nat) :
    path? (fuel + 1) (name.toList ++ rest) = some ([name], next) := by
  have hword := word?_append hname.ne_nil hname.isWordCharacter hrest
  have hkey : key? (name.toList ++ rest) = some (name, rest) := by
    obtain ⟨c, w, hw, hc⟩ := exists_cons_of_isWord hname
    have hquote : ¬(c = '"' ∨ c = '\'') := not_or.mpr
      ⟨ne_of_isWordCharacter hc (by decide), ne_of_isWordCharacter hc (by decide)⟩
    rw [hw, List.cons_append] at hword ⊢
    simp only [key?, if_neg hquote, hword, Option.map_some, ← hw, String.ofList_toList]
  simp only [path?, hkey, bind, Option.bind, hnext]
  split
  case h_1 => exact absurd rfl hdot
  case h_2 => rfl

theorem endLine?_lineEnd (rest : List Char) : endLine? ('\n' :: rest) = some rest := rfl

/-- The rest of a header line. -/
theorem header?_title (hname : IsWord name) (rest : List Char) :
    header? (name.toList ++ ']' :: '\n' :: rest) = some (false, [name], rest) := by
  obtain ⟨c, w, hw, hc⟩ := exists_cons_of_isWord hname
  have hbracket : c ≠ '[' := ne_of_isWordCharacter hc (by decide)
  have hspaces : skipSpaces (c :: (w ++ ']' :: '\n' :: rest)) = c :: (w ++ ']' :: '\n' :: rest) :=
    skipSpaces_of_startsItem (startsItem_of_isWordCharacter hc)
  have hnext : skipSpaces (']' :: '\n' :: rest) = ']' :: '\n' :: rest := rfl
  have hpath := fun fuel =>
    path?_word hname (endsWord_cons (by decide) _) hnext (by simp) fuel
  rw [hw, List.cons_append] at hpath ⊢
  unfold header?
  split
  rename_i isArray cs hopening
  split at hopening
  case h_1 heq => exact absurd (List.cons.inj heq).1 hbracket
  case h_2 =>
      cases hopening
      simp only [hspaces, hpath, bind, Option.bind, mark?, if_true, Bool.false_eq_true, if_false,
        endLine?_lineEnd]
      rfl

/-- A value does not start with a blank. -/
theorem skipSpaces_of_value? {t : Tree} {fuel : Nat} (h : value? (fuel + 1) cs = some (t, rest)) :
    skipSpaces cs = cs := by
  cases cs with
  | nil => rfl
  | cons c cs =>
      refine List.dropWhile_cons_of_neg fun hblank => ?_
      have hblank : c = ' ' ∨ c = '\t' := by simpa using hblank
      rcases hblank with rfl | rfl <;> simp [value?, word?, splitWord, isWordCharacter] at h

/-- A line with a value. -/
theorem pairLine?_entry (hname : IsWord name) {value : String} {t : Tree} (rest : List Char)
    (hvalue : ∀ fuel, value? (fuel + 1) (value.toList ++ '\n' :: rest) = some (t, '\n' :: rest)) :
    pairLine? (name.toList ++ ' ' :: '=' :: ' ' :: (value.toList ++ '\n' :: rest)) =
      some ([name], t, rest) := by
  have hspaces := skipSpaces_of_value? (hvalue 0)
  have hnext : skipSpaces (' ' :: '=' :: ' ' :: (value.toList ++ '\n' :: rest)) =
      '=' :: ' ' :: (value.toList ++ '\n' :: rest) := rfl
  have hafter : skipSpaces (' ' :: (value.toList ++ '\n' :: rest)) =
      value.toList ++ '\n' :: rest := hspaces
  have hpath := fun fuel => path?_word hname (endsWord_cons (by decide) _) hnext (by simp) fuel
  have hassign : assignment? (name.toList ++ ' ' :: '=' :: ' ' :: (value.toList ++ '\n' :: rest)) =
      some ([name], value.toList ++ '\n' :: rest) := by
    simp only [assignment?, hpath, bind, Option.bind, mark?, if_true, hafter]
    rfl
  simp only [pairLine?, hassign, bind, Option.bind, hvalue, endLine?_lineEnd]
  rfl

/-! ## Lines -/

variable {d : Draft} {fuel : Nat}

theorem lines?_pair (hc : isWordCharacter c = true) {path : List String} {t : Tree} {body : Members}
    (hpair : pairLine? (c :: cs) = some (path, t, rest))
    (hadd : addPair t path d.body = some body) :
    lines? (fuel + 1) d (c :: cs) = lines? fuel { d with body } rest := by
  have hbracket : c ≠ '[' := ne_of_isWordCharacter hc (by decide)
  rw [lines?, skipBlank_of_startsItem (startsItem_of_isWordCharacter hc)]
  split
  case h_1 heq => cases heq
  case h_2 heq => exact absurd (List.cons.inj heq).1 hbracket
  case h_3 => simp only [hpair, bind, Option.bind, hadd]

theorem lines?_header (hcs : skipBlank cs = '[' :: rest) {complete : Members}
    (hclose : d.close = some complete) {isArray : Bool} {path : List String}
    (hheader : header? rest = some (isArray, path, next)) :
    lines? (fuel + 1) d cs = lines? fuel { complete, isArray, path } next := by
  rw [lines?, hcs]
  simp only [hclose, bind, Option.bind, hheader]

/-- The entries of a section, stored one after another. -/
def addEntries (entries : List (String × Scalar)) (body : Members) : Members :=
  entries.foldl (fun body entry => SortedMap.insert entry.1 (.value entry.2.tree) body) body

/-- The entry can be written and read back. -/
structure Entry.WellFormed (entry : String × Scalar) : Prop where
  isWord : IsWord entry.1
  readsBack : entry.2.ReadsBack

/-- The line of an entry adds its value. -/
theorem lines?_entry {entry : String × Scalar} (hentry : Entry.WellFormed entry) {line : String}
    (hline : entryLine? entry = some line) (hfresh : SortedMap.get? entry.1 d.body = none)
    (rest : List Char) :
    rest.length < (line.toList ++ rest).length ∧
      lines? (fuel + 1) d (line.toList ++ rest) =
        lines? fuel { d with body := SortedMap.insert entry.1 (.value entry.2.tree) d.body }
          rest := by
  obtain ⟨value, hvalue, rfl⟩ := Option.map_eq_some_iff.mp hline
  have hsplit : (entry.1 ++ " = " ++ value ++ "\n").toList ++ rest =
      entry.1.toList ++ ' ' :: '=' :: ' ' :: (value.toList ++ '\n' :: rest) := by simp
  have hpair := pairLine?_entry hentry.isWord rest fun fuel =>
    value?_write? hvalue hentry.readsBack fuel rest
  have hadd : addPair entry.2.tree [entry.1] d.body =
      some (SortedMap.insert entry.1 (.value entry.2.tree) d.body) := by
    simp [addPair, hfresh]
  rw [hsplit]
  refine ⟨by simp; omega, ?_⟩
  obtain ⟨c, w, hw, hc⟩ := exists_cons_of_isWord hentry.isWord
  rw [hw, List.cons_append] at hpair ⊢
  exact lines?_pair hc hpair hadd

/-- The lines of some entries add their values; each takes a part of the fuel and leaves enough for
what follows. -/
theorem lines?_entries {entries : List (String × Scalar)}
    (hentries : ∀ entry ∈ entries, Entry.WellFormed entry) (hnodup : (entries.map (·.1)).Nodup)
    {lines : List String} (hlines : entries.mapM entryLine? = some lines)
    (hfresh : ∀ entry ∈ entries, SortedMap.get? entry.1 d.body = none) (rest : List Char)
    (hfuel : (lines.flatMap String.toList ++ rest).length < fuel) :
    ∃ fuel', rest.length < fuel' ∧ lines? fuel d (lines.flatMap String.toList ++ rest) =
      lines? fuel' { d with body := addEntries entries d.body } rest := by
  induction entries generalizing lines d fuel with
  | nil =>
      obtain rfl : [] = lines := by simpa using hlines
      exact ⟨fuel, hfuel, rfl⟩
  | cons entry entries ih =>
      obtain ⟨line, later, hline, hlater, rfl⟩ := exists_of_mapM_cons hlines
      obtain ⟨hnew, hnodup⟩ := List.nodup_cons.mp hnodup
      obtain ⟨hfirst, hothers⟩ := List.forall_mem_cons.mp hentries
      obtain ⟨fuel, rfl⟩ := Nat.exists_eq_succ_of_ne_zero (Nat.ne_of_gt (Nat.zero_lt_of_lt hfuel))
      rw [List.flatMap_cons, List.append_assoc] at hfuel ⊢
      obtain ⟨hshorter, hline⟩ := lines?_entry hfirst hline (hfresh entry List.mem_cons_self) _
      rw [hline]
      refine ih hothers hnodup hlater (fun other hother => ?_) (by omega)
      -- The names differ, so no later entry is there already.
      have hkey : other.1 ≠ entry.1 := fun heq => hnew (List.mem_map.mpr ⟨other, hother, heq⟩)
      rw [SortedMap.get?_insert_of_ne hkey]
      exact hfresh other (List.mem_cons_of_mem _ hother)

/-! ## Sections -/

/-- The section can be written and read back. -/
structure Section.WellFormed (s : Section) : Prop where
  isWord : IsWord s.title
  entries : ∀ entry ∈ s.entries, Entry.WellFormed entry
  nodup : (s.entries.map (·.1)).Nodup

/-- The members of a section. -/
def Section.members (s : Section) : Members := addEntries s.entries []

/-- A header closes the section before it, and the lines below it make the next one.  There may be
an empty line before the header. -/
theorem lines?_section {s : Section} (hs : s.WellFormed) {text : String}
    (htext : s.write? = some text) {complete : Members} (hclose : d.close = some complete)
    {opening : List Char} (hopening : opening = [] ∨ opening = ['\n']) (rest : List Char)
    (hfuel : (opening ++ (text.toList ++ rest)).length < fuel) :
    ∃ fuel', rest.length < fuel' ∧ lines? fuel d (opening ++ (text.toList ++ rest)) =
      lines? fuel' { complete, path := [s.title], body := s.members } rest := by
  obtain ⟨lines, hlines, rfl⟩ := Option.map_eq_some_iff.mp htext
  obtain ⟨fuel, rfl⟩ := Nat.exists_eq_succ_of_ne_zero (Nat.ne_of_gt (Nat.zero_lt_of_lt hfuel))
  have hsplit : ("[" ++ s.title ++ "]\n" ++ String.join lines).toList ++ rest =
      '[' :: (s.title.toList ++ ']' :: '\n' :: (lines.flatMap String.toList ++ rest)) := by simp
  rw [hsplit] at hfuel ⊢
  -- The header takes one unit of fuel, and what is left still exceeds the lines below it.
  have hskip : skipBlank (opening ++
      '[' :: (s.title.toList ++ ']' :: '\n' :: (lines.flatMap String.toList ++ rest))) =
      '[' :: (s.title.toList ++ ']' :: '\n' :: (lines.flatMap String.toList ++ rest)) := by
    have hitem : StartsItem '[' := by unfold StartsItem; decide
    rcases hopening with rfl | rfl
    · exact skipBlank_of_startsItem hitem
    · exact skipBlank_emptyLine hitem
  rw [lines?_header hskip hclose (header?_title hs.isWord _)]
  refine lines?_entries hs.entries hs.nodup hlines (fun _ _ => rfl) rest ?_
  simp only [List.length_append, List.length_cons] at hfuel ⊢
  omega

/-- A section with a new title is closed by storing its members. -/
theorem close_section {complete body : Members} (hnew : SortedMap.get? name complete = none) :
    ({ complete, path := [name], body } : Draft).close =
      some (SortedMap.insert name (.table true body) complete) := by
  simp [Draft.close, addSection, hnew]

/-! ## Documents -/

/-- The sections of a document, stored one after another. -/
def addSections (sections : List Section) (complete : Members) : Members :=
  sections.foldl (fun complete s => SortedMap.insert s.title (.table true s.members) complete)
    complete

/-- The document can be written and read back. -/
structure Document.WellFormed (document : Document) : Prop where
  sections : ∀ s ∈ document, s.WellFormed
  nodup : (document.map (·.title)).Nodup

/-- Sections with an empty line before each. -/
theorem lines?_sections {sections : List Section} (hsections : Document.WellFormed sections)
    {texts : List String} (htexts : sections.mapM Section.write? = some texts) {complete : Members}
    (hclose : d.close = some complete)
    (hfresh : ∀ s ∈ sections, SortedMap.get? s.title complete = none)
    (hfuel : (texts.flatMap fun text => '\n' :: text.toList).length < fuel) :
    lines? fuel d (texts.flatMap fun text => '\n' :: text.toList) =
      some (addSections sections complete) := by
  induction sections generalizing texts d complete fuel with
  | nil =>
      obtain rfl : [] = texts := by simpa using htexts
      obtain ⟨fuel, rfl⟩ := Nat.exists_eq_succ_of_ne_zero (Nat.ne_of_gt (Nat.zero_lt_of_lt hfuel))
      exact hclose
  | cons s sections ih =>
      obtain ⟨text, later, htext, hlater, rfl⟩ := exists_of_mapM_cons htexts
      obtain ⟨hnew, hnodup⟩ := List.nodup_cons.mp hsections.nodup
      obtain ⟨hfirst, hothers⟩ := List.forall_mem_cons.mp hsections.sections
      rw [List.flatMap_cons] at hfuel ⊢
      obtain ⟨fuel', hfuel', hsection⟩ := lines?_section hfirst htext hclose (.inr rfl)
        (later.flatMap fun text => '\n' :: text.toList) hfuel
      refine hsection.trans ?_
      refine ih ⟨hothers, hnodup⟩ hlater (close_section (hfresh s List.mem_cons_self))
        (fun other hother => ?_) hfuel'
      have htitle : other.title ≠ s.title := fun heq => hnew (List.mem_map.mpr ⟨other, hother, heq⟩)
      rw [SortedMap.get?_insert_of_ne htitle]
      exact hfresh other (List.mem_cons_of_mem _ hother)

theorem toList_intercalate_cons (text : String) (texts : List String) :
    ("\n".intercalate (text :: texts)).toList =
      text.toList ++ texts.flatMap fun text => '\n' :: text.toList := by
  induction texts generalizing text with
  | nil => simp
  | cons next texts ih =>
      rw [String.intercalate_cons_cons, String.toList_append, ih]
      simp

/-- In a document that is written every value has a text. -/
theorem exists_write? {document : Document} {text : String} (h : document.write? = some text)
    {s : Section} (hs : s ∈ document) {entry : String × Scalar} (hentry : entry ∈ s.entries) :
    ∃ value, entry.2.write? = some value := by
  obtain ⟨texts, htexts, -⟩ := Option.map_eq_some_iff.mp h
  obtain ⟨sectionText, hsection⟩ := exists_of_mem_mapM htexts hs
  obtain ⟨lines, hlines, -⟩ := Option.map_eq_some_iff.mp hsection
  obtain ⟨line, hline⟩ := exists_of_mem_mapM hlines hentry
  obtain ⟨value, hvalue, -⟩ := Option.map_eq_some_iff.mp hline
  exact ⟨value, hvalue⟩

/-! ## Whole texts -/

theorem unifyLines_of_not_mem (h : '\r' ∉ cs) : unifyLines cs = cs := by
  induction cs with
  | nil => rfl
  | cons c cs ih =>
      have hc : c ≠ '\r' := fun heq => h (heq ▸ List.mem_cons_self)
      have hrest : '\r' ∉ cs := fun hmem => h (List.mem_cons_of_mem c hmem)
      unfold unifyLines
      split
      case h_1 heq => exact absurd (List.cons.inj heq).1 hc
      case h_2 heq =>
          obtain ⟨rfl, rfl⟩ := List.cons.inj heq
          rw [ih hrest]
      case h_3 heq => cases heq

theorem IsWord.not_mem_return (h : IsWord name) : '\r' ∉ name.toList := fun hmem =>
  absurd (h.isWordCharacter '\r' hmem) (by decide)

theorem not_mem_return_of_entryLine? {entry : String × Scalar} (hentry : Entry.WellFormed entry)
    {line : String} (hline : entryLine? entry = some line) : '\r' ∉ line.toList := by
  obtain ⟨value, hvalue, rfl⟩ := Option.map_eq_some_iff.mp hline
  simp [hentry.isWord.not_mem_return, not_mem_return_of_write? hvalue hentry.readsBack]

/-- Where no item has a carriage return in its text, neither have the texts of all items. -/
theorem not_mem_return_of_mapM {α : Type} {write? : α → Option String} {items : List α}
    {texts : List String} (htexts : items.mapM write? = some texts)
    (h : ∀ item ∈ items, ∀ text, write? item = some text → '\r' ∉ text.toList) :
    ∀ text ∈ texts, '\r' ∉ text.toList := by
  induction items generalizing texts with
  | nil =>
      obtain rfl : [] = texts := by simpa using htexts
      exact List.forall_mem_nil _
  | cons item items ih =>
      obtain ⟨text, later, htext, hlater, rfl⟩ := exists_of_mapM_cons htexts
      refine List.forall_mem_cons.mpr ⟨h item List.mem_cons_self text htext, ?_⟩
      exact ih hlater fun other hother => h other (List.mem_cons_of_mem _ hother)

theorem Section.WellFormed.not_mem_return {s : Section} (hs : s.WellFormed) {text : String}
    (htext : s.write? = some text) : '\r' ∉ text.toList := by
  obtain ⟨lines, hlines, rfl⟩ := Option.map_eq_some_iff.mp htext
  have hreturn := not_mem_return_of_mapM hlines fun entry hentry line =>
    not_mem_return_of_entryLine? (hs.entries entry hentry)
  simpa [hs.isWord.not_mem_return] using hreturn

/-- The tree that a section is read as. -/
def Section.tree (s : Section) : Tree :=
  .table (SortedMap.ofList (s.entries.map fun entry => (entry.1, entry.2.tree)))

/-- The tree that a document is read as. -/
def Document.tree (document : Document) : Tree :=
  .table (SortedMap.ofList (document.map fun s => (s.title, s.tree)))

theorem treesOfMembers_eq (members : Members) :
    treesOfMembers members = SortedMap.mapValues Node.tree members := by
  induction members with
  | nil => rfl
  | cons member members ih =>
      rw [treesOfMembers, ih]
      rfl

theorem tree_members (s : Section) : (Node.table true s.members).tree = s.tree := by
  have hmembers : s.members =
      SortedMap.ofList (s.entries.map fun entry => (entry.1, Node.value entry.2.tree)) := by
    rw [SortedMap.ofList, List.foldl_map]
    rfl
  have htree : ∀ t, (Node.value t).tree = t := fun t => by rw [Node.tree]
  rw [Node.tree, treesOfMembers_eq, hmembers, SortedMap.mapValues_ofList, List.map_map,
    Section.tree]
  simp [Function.comp_def, htree]

theorem tree_sections (document : Document) :
    Tree.table (treesOfMembers (addSections document [])) = document.tree := by
  have hsections : addSections document [] =
      SortedMap.ofList (document.map fun s => (s.title, Node.table true s.members)) := by
    rw [SortedMap.ofList, List.foldl_map]
    rfl
  rw [treesOfMembers_eq, hsections, SortedMap.mapValues_ofList, List.map_map, Document.tree]
  simp [Function.comp_def, tree_members]

/-- A document that is written is read back. -/
theorem parse?_write? {document : Document} (h : Document.WellFormed document) {text : String}
    (htext : document.write? = some text) : parse? text = some document.tree := by
  obtain ⟨texts, htexts, rfl⟩ := Option.map_eq_some_iff.mp htext
  cases document with
  | nil =>
      obtain rfl : [] = texts := by simpa using htexts
      rfl
  | cons s sections =>
      -- The first section opens the document; each of the others has an empty line before it.
      have hreturns :=
        not_mem_return_of_mapM htexts fun s hs text => (h.sections s hs).not_mem_return
      obtain ⟨first, later, hfirst, hlater, rfl⟩ := exists_of_mapM_cons htexts
      obtain ⟨hnew, hnodup⟩ := List.nodup_cons.mp h.nodup
      obtain ⟨hs, hsections⟩ := List.forall_mem_cons.mp h.sections
      have hchars := toList_intercalate_cons first later
      have hreturn : '\r' ∉ ("\n".intercalate (first :: later)).toList := by
        obtain ⟨hone, hmore⟩ := List.forall_mem_cons.mp hreturns
        simpa [hchars, hone] using hmore
      obtain ⟨fuel, hfuel, hread⟩ := lines?_section (d := {}) hs hfirst rfl (.inl rfl)
        (later.flatMap fun text => '\n' :: text.toList) (Nat.lt_add_one _)
      rw [List.nil_append, ← hchars] at hread
      have hclose : ({ complete := [], path := [s.title], body := s.members } : Draft).close =
          some (SortedMap.insert s.title (.table true s.members) []) := close_section rfl
      have hfresh : ∀ other ∈ sections, SortedMap.get? other.title
          (SortedMap.insert s.title (Node.table true s.members) []) = none := by
        intro other hother
        have htitle : other.title ≠ s.title := fun heq =>
          hnew (List.mem_map.mpr ⟨other, hother, heq⟩)
        rw [SortedMap.get?_insert_of_ne htitle]
        rfl
      have hlines := hread.trans (lines?_sections ⟨hsections, hnodup⟩ hlater hclose hfresh hfuel)
      have hhead : ("\n".intercalate (first :: later)).toList.head? = some '[' := by
        obtain ⟨lines, -, rfl⟩ := Option.map_eq_some_iff.mp hfirst
        simp
      unfold parse?
      split
      case h_1 heq => simp [heq] at hhead
      case h_2 =>
          simp only [unifyLines_of_not_mem hreturn, hlines, Option.map_some]
          exact congrArg some (tree_sections (s :: sections))

end LoadProbe.Toml
