import LoadProbe.Proofs.Maps.Partial
import LoadProbe.Proofs.Metrics.Bookkeeping
import LoadProbe.Proofs.Metrics.Readings

/-!
# The export read back

The export of a run loses nothing.  Whatever texts were recorded, whoever splits the export into
lines and reads those that are no comments gets the counters of the run: one reading for each check,
request or iteration that occurred, with the number of its occurrences.

* `Metrics.Register` is a family with its counters and with the occurrences that they count.
* `Metrics.linesOf_registers` says what the lines are; `Metrics.filter_concerns` picks out those
  about one family.
* `Metrics.exposition_lossless` says what is read.
-/

namespace LoadProbe.Metrics

open LoadProbe.Job LoadProbe.Run

/-! ## What is read -/

/-- The lines of a text. -/
def linesOf (text : String) : List (List Char) := text.toList.splitOn '\n'

/-- Whether a line shows a counter; an empty line does not, and a comment does not. -/
def isSampleLine (line : List Char) : Bool := line ≠ [] ∧ line.head? ≠ some '#'

/-- Reads all lines that show a counter. -/
def readings? (text : String) : Option (List Reading) :=
  ((linesOf text).filter isSampleLine).mapM line?

/-- What a reading is about: a family, and labels with their values. -/
abbrev Series : Type := String × List (String × String)

def Reading.series (r : Reading) : Series := (r.family, r.labels)

/-- The values of the labels in the series of a family. -/
def Family.series (f : Family) (values : List String) : Series := (f.name, f.labels.zip values)

/-- The readings of the counters of a family. -/
def Family.readings (f : Family) (counters : Counters) : List Reading :=
  counters.map fun (values, count) => ⟨f.name, f.labels.zip values, count⟩

/-- The readings of all counters of a run. -/
def Aggregate.readings (m : Aggregate) : List Reading :=
  checkFamily.readings m.checkCounters ++ requestFamily.readings m.requestCounters ++
    iterationFamily.readings m.iterationCounters

/-- The series of each check, request and iteration that some reports bring. -/
def seriesOf (reports : List Report) : List Series :=
  (reportedChecks reports).map (fun c => checkFamily.series (checkKey c)) ++
    (reportedSamples reports).map (fun s => requestFamily.series (requestKey s)) ++
    reports.map fun r => iterationFamily.series (outcomeKey r.outcome)

/-! ## The lines of a family -/

/-- The line of help. -/
def Family.helpLine (f : Family) : List Char :=
  "# HELP ".toList ++ (f.name.toList ++ ' ' :: f.help.toList)

/-- The line with the type. -/
def Family.typeLine (f : Family) : List Char :=
  "# TYPE ".toList ++ (f.name.toList ++ ' ' :: "counter".toList)

/-- The lines of a family with samples. -/
def Family.rows (f : Family) (counters : Counters) : List (List Char) :=
  if counters.isEmpty then []
  else f.helpLine :: f.typeLine :: counters.map fun (values, count) => f.row values count

/-- Whether a line is about a family: it helps with the family, gives its type, or shows one of its
counters. -/
def Family.concerns (f : Family) (line : List Char) : Bool :=
  ("# HELP ".toList ++ (f.name.toList ++ [' '])).isPrefixOf line ||
    ("# TYPE ".toList ++ (f.name.toList ++ [' '])).isPrefixOf line ||
    (f.name.toList ++ ['\x7b']).isPrefixOf line

theorem Family.toList_text (f : Family) (counters : Counters) :
    (f.text counters).toList = (f.rows counters).flatMap (· ++ ['\n']) := by
  have hcounters : (String.join (counters.map fun (values, count) => f.line values count)).toList =
      (counters.map fun (values, count) => f.row values count).flatMap (· ++ ['\n']) := by
    rw [String.toList_join, List.flatMap_map, List.flatMap_map]
    exact List.flatMap_congr fun counter _ => f.toList_line counter.1 counter.2
  have hcomments : ∀ name help rest : String,
      ("# HELP " ++ name ++ " " ++ help ++ "\n# TYPE " ++ name ++ " counter\n" ++ rest).toList =
        "# HELP ".toList ++ (name.toList ++ ' ' :: help.toList) ++ ['\n'] ++
          ("# TYPE ".toList ++ (name.toList ++ ' ' :: "counter".toList) ++ ['\n'] ++
            rest.toList) := by
    intro name help rest
    simp
  unfold Family.text Family.rows
  split
  · rfl
  · rw [hcomments, hcounters, List.flatMap_cons, List.flatMap_cons]
    rfl

theorem Family.WellNamed.not_mem_helpLine {f : Family} (h : f.WellNamed) : '\n' ∉ f.helpLine := by
  unfold Family.helpLine
  simp [h.isName.not_mem (c := '\n') rfl, h.not_mem_help]

theorem Family.WellNamed.not_mem_typeLine {f : Family} (h : f.WellNamed) : '\n' ∉ f.typeLine := by
  unfold Family.typeLine
  simp [h.isName.not_mem (c := '\n') rfl]

/-- A line that shows a counter is one. -/
theorem isSampleLine_row {f : Family} (h : f.WellNamed) (values : List String) (count : Nat) :
    isSampleLine (f.row values count) = true := by
  have hfirst : '#' ∉ f.name.toList := h.isName.not_mem rfl
  unfold isSampleLine Family.row
  cases hname : f.name.toList with
  | nil => simp
  | cons c cs =>
      rw [hname] at hfirst
      have hc : c ≠ '#' := fun heq => hfirst (heq ▸ List.mem_cons_self)
      simp [hc]

/-! ## Lines about a family -/

theorem concerns_iff {f : Family} {line : List Char} :
    f.concerns line = true ↔ "# HELP ".toList ++ (f.name.toList ++ [' ']) <+: line ∨
      "# TYPE ".toList ++ (f.name.toList ++ [' ']) <+: line ∨
      f.name.toList ++ ['\x7b'] <+: line := by
  unfold Family.concerns
  rw [Bool.or_eq_true, Bool.or_eq_true, List.isPrefixOf_iff_prefix, List.isPrefixOf_iff_prefix,
    List.isPrefixOf_iff_prefix, or_assoc]

/-- All lines of a family are about it. -/
theorem concerns_of_mem_rows {f : Family} {counters : Counters} {line : List Char}
    (h : line ∈ f.rows counters) : f.concerns line = true := by
  unfold Family.rows at h
  split at h
  · cases h
  · rw [concerns_iff]
    rcases List.mem_cons.mp h with rfl | h
    · refine .inl ⟨f.help.toList, ?_⟩
      unfold Family.helpLine
      rw [List.append_assoc, List.append_assoc]
      rfl
    · rcases List.mem_cons.mp h with rfl | h
      · refine .inr (.inl ⟨"counter".toList, ?_⟩)
        unfold Family.typeLine
        rw [List.append_assoc, List.append_assoc]
        rfl
      · obtain ⟨⟨values, count⟩, -, rfl⟩ := List.mem_map.mp h
        refine .inr (.inr ?_)
        unfold Family.row
        exact ⟨_, by rw [List.append_assoc]; rfl⟩

/-- A line that starts with a name is no comment. -/
theorem append_ne_comment {name : String} (h : IsName name) (rest rest' : List Char) :
    name.toList ++ '\x7b' :: rest ≠ '#' :: rest' := by
  intro heq
  have hfirst : '#' ∉ name.toList := h.not_mem rfl
  cases hname : name.toList with
  | nil => simp [hname] at heq
  | cons c cs =>
      rw [hname, List.cons_append, List.cons.injEq] at heq
      rw [hname, heq.1] at hfirst
      exact hfirst List.mem_cons_self

/-- A line is about one family only. -/
theorem name_eq_of_concerns {f g : Family} (hf : IsName f.name) (hg : IsName g.name)
    {line : List Char} (h : f.concerns line = true) (h' : g.concerns line = true) :
    f.name = g.name := by
  have hkinds : ∀ a b : List Char, "# HELP ".toList ++ a ≠ "# TYPE ".toList ++ b := by
    intro a b heq
    simp at heq
  rcases concerns_iff.mp h with ⟨rest, rfl⟩ | ⟨rest, rfl⟩ | ⟨rest, rfl⟩
  · rcases concerns_iff.mp h' with ⟨rest', heq⟩ | ⟨rest', heq⟩ | ⟨rest', heq⟩
    · simp only [List.append_assoc, List.singleton_append, List.append_cancel_left_eq] at heq
      exact (hg.eq_of_append_eq hf rfl heq).symm
    · simp only [List.append_assoc] at heq
      exact absurd heq.symm (hkinds _ _)
    · simp only [List.append_assoc, List.singleton_append] at heq
      exact absurd heq (append_ne_comment hg _ _)
  · rcases concerns_iff.mp h' with ⟨rest', heq⟩ | ⟨rest', heq⟩ | ⟨rest', heq⟩
    · simp only [List.append_assoc] at heq
      exact absurd heq (hkinds _ _)
    · simp only [List.append_assoc, List.singleton_append, List.append_cancel_left_eq] at heq
      exact (hg.eq_of_append_eq hf rfl heq).symm
    · simp only [List.append_assoc, List.singleton_append] at heq
      exact absurd heq (append_ne_comment hg _ _)
  · rcases concerns_iff.mp h' with ⟨rest', heq⟩ | ⟨rest', heq⟩ | ⟨rest', heq⟩
    · simp only [List.append_assoc, List.singleton_append] at heq
      exact absurd heq.symm (append_ne_comment hf _ _)
    · simp only [List.append_assoc, List.singleton_append] at heq
      exact absurd heq.symm (append_ne_comment hf _ _)
    · simp only [List.append_assoc, List.singleton_append] at heq
      exact (hg.eq_of_append_eq hf rfl heq).symm

/-! ## Registers -/

/-- A family with its counters, and the values of the labels for each occurrence that they count. -/
structure Register where
  family : Family
  counters : Counters
  keys : List (List String)

/-- The counters count the occurrences, and no number is too great to be written down. -/
structure Register.Sound (r : Register) : Prop where
  wellNamed : r.family.WellNamed
  counts : r.counters.Counts r.keys
  length_eq : ∀ key ∈ r.keys, key.length = r.family.labels.length
  lt_limit : ∀ key ∈ r.keys, r.keys.count key < 2 ^ 53

/-- The readings of the counters of a register. -/
def Register.readings (r : Register) : List Reading := r.family.readings r.counters

/-- The lines of a register. -/
def Register.rows (r : Register) : List (List Char) := r.family.rows r.counters

section Register

variable {r : Register}

/-- There is a counter for each occurrence, and it counts how often the values occurred. -/
theorem Register.Sound.mem_counters_iff (h : r.Sound) (values : List String) (count : Nat) :
    (values, count) ∈ r.counters ↔ values ∈ r.keys ∧ count = r.keys.count values := by
  -- The map compares lists of values by deciding whether they are equal.
  have hcompare : (instBEqOfDecidableEq : BEq (List String)) = List.instBEq :=
    lawful_beq_subsingleton _ _
  rw [h.counts.mem_iff, hcompare]

theorem Register.Sound.of_mem (h : r.Sound) {values : List String} {count : Nat}
    (hmem : (values, count) ∈ r.counters) :
    values.length = r.family.labels.length ∧ 1 ≤ count ∧ count < 2 ^ 53 := by
  obtain ⟨hkey, rfl⟩ := (h.mem_counters_iff values count).mp hmem
  exact ⟨h.length_eq values hkey, List.count_pos_iff.mpr hkey, h.lt_limit values hkey⟩

theorem Register.Sound.not_mem_rows (h : r.Sound) : ∀ line ∈ r.rows, '\n' ∉ line := by
  intro line hline
  unfold Register.rows Family.rows at hline
  split at hline
  · cases hline
  · rcases List.mem_cons.mp hline with rfl | hline
    · exact h.wellNamed.not_mem_helpLine
    rcases List.mem_cons.mp hline with rfl | hline
    · exact h.wellNamed.not_mem_typeLine
    obtain ⟨⟨values, count⟩, hmem, rfl⟩ := List.mem_map.mp hline
    obtain ⟨-, hpos, hlimit⟩ := h.of_mem hmem
    exact not_mem_row h.wellNamed hpos hlimit

/-- The lines of the counters are read as what the counters hold. -/
theorem Register.Sound.mapM_rows (h : r.Sound) :
    (r.counters.map fun (values, count) => r.family.row values count).mapM line? =
      some r.readings := by
  rw [List.mapM_map]
  refine mapM_eq_some_map fun ⟨values, count⟩ hmem => ?_
  obtain ⟨hlength, hpos, hlimit⟩ := h.of_mem hmem
  exact line?_row h.wellNamed hlength hpos hlimit

/-- The comments are dropped, and what is left is the lines of the counters. -/
theorem Register.Sound.filter_rows (h : r.Sound) :
    r.rows.filter isSampleLine =
      r.counters.map fun (values, count) => r.family.row values count := by
  have hall : ∀ line ∈ r.counters.map (fun (values, count) => r.family.row values count),
      isSampleLine line = true := by
    intro line hline
    obtain ⟨⟨values, count⟩, -, rfl⟩ := List.mem_map.mp hline
    exact isSampleLine_row h.wellNamed values count
  have hhelp : isSampleLine r.family.helpLine = false := rfl
  have htype : isSampleLine r.family.typeLine = false := rfl
  unfold Register.rows Family.rows
  split
  case isTrue hempty => rw [List.isEmpty_iff.mp hempty]; rfl
  case isFalse =>
      rw [List.filter_cons_of_neg (by simp [hhelp]), List.filter_cons_of_neg (by simp [htype]),
        List.filter_eq_self.mpr hall]

/-- Values of the right number are found again in their series. -/
theorem series_eq_iff {f : Family} {values values' : List String}
    (h : values.length = f.labels.length) (h' : values'.length = f.labels.length) :
    f.series values = f.series values' ↔ values = values' := by
  constructor
  · intro heq
    have hzip := congrArg (fun s : Series => s.2.map (·.2)) heq
    simpa [Family.series, List.map_snd_zip, h, h'] using hzip
  · rintro rfl
    rfl

theorem Register.Sound.nodup_series (h : r.Sound) : (r.readings.map Reading.series).Nodup := by
  have hseries : r.readings.map Reading.series =
      (r.counters.map (·.1)).map r.family.series := by
    simp [Register.readings, Family.readings, Reading.series, Family.series, Function.comp_def]
  rw [hseries]
  refine List.Nodup.map_on ?_ h.counts.sorted.nodup_keys
  intro values hvalues values' hvalues' heq
  obtain ⟨⟨_, count⟩, hmem, rfl⟩ := List.mem_map.mp hvalues
  obtain ⟨⟨_, count'⟩, hmem', rfl⟩ := List.mem_map.mp hvalues'
  exact (series_eq_iff (h.of_mem hmem).1 (h.of_mem hmem').1).mp heq

/-- A reading of a register is about a series that occurred, and says how often. -/
theorem Register.Sound.mem_readings_iff (h : r.Sound) (reading : Reading) :
    reading ∈ r.readings ↔ reading.series ∈ r.keys.map r.family.series ∧
      reading.count = (r.keys.map r.family.series).count reading.series := by
  have hcount : ∀ values ∈ r.keys,
      (r.keys.map r.family.series).count (r.family.series values) = r.keys.count values := by
    intro values hvalues
    rw [List.count, List.countP_map, List.count]
    refine List.countP_congr fun key hkey => ?_
    simp [series_eq_iff (h.length_eq key hkey) (h.length_eq values hvalues)]
  constructor
  · intro hmem
    obtain ⟨⟨values, count⟩, hcounter, rfl⟩ := List.mem_map.mp hmem
    obtain ⟨hkey, rfl⟩ := (h.mem_counters_iff values count).mp hcounter
    have hnumber := (hcount values hkey).symm
    exact ⟨List.mem_map_of_mem hkey, hnumber⟩
  · rintro ⟨hseries, hnumber⟩
    obtain ⟨values, hkey, hvalues⟩ := List.mem_map.mp hseries
    obtain ⟨family, labels, count⟩ := reading
    obtain ⟨rfl, rfl⟩ : r.family.name = family ∧ r.family.labels.zip values = labels :=
      Prod.mk.inj hvalues
    have hnumber : count = r.keys.count values := hnumber.trans (hcount values hkey)
    exact List.mem_map.mpr
      ⟨(values, count), (h.mem_counters_iff values count).mpr ⟨hkey, hnumber⟩, rfl⟩

end Register

/-! ## Several registers -/

section Registers

variable {rs : List Register}

/-- What is told apart by the names of the families belongs to one register. -/
theorem filter_flatMap_eq {α : Type} {p : α → Bool} {items : Register → List α}
    (hnodup : (rs.map (·.family.name)).Nodup) {r : Register} (hr : r ∈ rs)
    (hp : ∀ s ∈ rs, ∀ item ∈ items s, p item = true ↔ s.family.name = r.family.name) :
    (rs.flatMap items).filter p = items r := by
  obtain ⟨before, after, rfl⟩ := List.append_of_mem hr
  have hother : ∀ s ∈ before ++ after, (items s).filter p = [] := by
    intro s hs
    refine List.filter_eq_nil_iff.mpr fun item hitem hpitem => ?_
    have hname := (hp s (by simp at hs ⊢; tauto) item hitem).mp hpitem
    have hperm : (before ++ r :: after).Perm (r :: (before ++ after)) := List.perm_middle
    have hfresh := (List.nodup_cons.mp ((hperm.map _).nodup hnodup)).1
    exact hfresh (List.mem_map.mpr ⟨s, hs, hname⟩)
  have hown : (items r).filter p = items r :=
    List.filter_eq_self.mpr fun item hitem => (hp r hr item hitem).mpr rfl
  have hnone : ∀ part : List Register, part ⊆ before ++ after →
      part.flatMap (fun s => (items s).filter p) = [] := fun part hpart =>
    List.flatMap_eq_nil_iff.mpr fun s hs => hother s (hpart hs)
  rw [List.filter_flatMap, List.flatMap_append, List.flatMap_cons, hown,
    hnone before (List.subset_append_left _ _), hnone after (List.subset_append_right _ _),
    List.nil_append, List.append_nil]

variable (hsound : ∀ r ∈ rs, r.Sound)
include hsound

/-- The lines of a text are those of the registers, if these are written one after the other. -/
theorem linesOf_registers {text : String}
    (htext : text.toList = (rs.flatMap Register.rows).flatMap (· ++ ['\n'])) :
    linesOf text = rs.flatMap Register.rows ++ [[]] := by
  have hrows : ∀ line ∈ rs.flatMap Register.rows, '\n' ∉ line := by
    intro line hline
    obtain ⟨r, hr, hline⟩ := List.mem_flatMap.mp hline
    exact (hsound r hr).not_mem_rows line hline
  rw [linesOf, htext]
  clear htext
  generalize rs.flatMap Register.rows = rows at hrows
  induction rows with
  | nil => rfl
  | cons line rows ih =>
      obtain ⟨hline, hrows⟩ := List.forall_mem_cons.mp hrows
      rw [List.flatMap_cons, List.append_assoc, List.singleton_append,
        List.splitOn_append_cons_self_of_not_mem hline, ih hrows, List.cons_append]

theorem readings?_registers {text : String}
    (htext : text.toList = (rs.flatMap Register.rows).flatMap (· ++ ['\n'])) :
    readings? text = some (rs.flatMap Register.readings) := by
  have hsamples : (rs.flatMap Register.rows ++ [[]]).filter isSampleLine =
      rs.flatMap fun r => r.counters.map fun (values, count) => r.family.row values count := by
    have hlast : ([[]] : List (List Char)).filter isSampleLine = [] := rfl
    rw [List.filter_append, hlast, List.append_nil, List.filter_flatMap]
    exact List.flatMap_congr fun r hr => (hsound r hr).filter_rows
  rw [readings?, linesOf_registers hsound htext, hsamples]
  exact mapM_flatMap_eq_some fun r hr => (hsound r hr).mapM_rows

variable (hnodup : (rs.map (·.family.name)).Nodup)
include hnodup

omit hsound in
/-- What is picked out of the readings by a family is what the register of that family holds. -/
theorem filter_readings {r : Register} (hr : r ∈ rs) :
    (rs.flatMap Register.readings).filter (·.family = r.family.name) = r.readings := by
  refine filter_flatMap_eq hnodup hr fun s hs reading hreading => ?_
  obtain ⟨⟨values, count⟩, -, rfl⟩ := List.mem_map.mp hreading
  exact decide_eq_true_iff

/-- What is picked out of the lines as being about a family are the lines of its register. -/
theorem filter_concerns {r : Register} (hr : r ∈ rs) {text : String}
    (htext : text.toList = (rs.flatMap Register.rows).flatMap (· ++ ['\n'])) :
    (linesOf text).filter r.family.concerns = r.rows := by
  have hname := (hsound r hr).wellNamed.isName
  have hlast : ([[]] : List (List Char)).filter r.family.concerns = [] := by
    refine List.filter_eq_nil_iff.mpr fun line hline hconcerns => ?_
    obtain rfl := List.mem_singleton.mp hline
    rcases concerns_iff.mp hconcerns with h | h | h <;> simp at h
  rw [linesOf_registers hsound htext, List.filter_append, hlast, List.append_nil]
  refine filter_flatMap_eq hnodup hr fun s hs line hline => ?_
  have hown : s.family.concerns line = true := concerns_of_mem_rows hline
  constructor
  · intro hconcerns
    exact name_eq_of_concerns (hsound s hs).wellNamed.isName hname hown hconcerns
  · intro heq
    rw [concerns_iff, heq, ← concerns_iff] at hown
    exact hown

/-- No two readings are about the same series. -/
theorem nodup_readings : ((rs.flatMap Register.readings).map Reading.series).Nodup := by
  rw [List.map_flatMap, List.nodup_flatMap]
  refine ⟨fun r hr => (hsound r hr).nodup_series, (List.pairwise_map.mp hnodup).imp ?_⟩
  intro r s hne series hseries hseries'
  obtain ⟨reading, hreading, rfl⟩ := List.mem_map.mp hseries
  obtain ⟨reading', hreading', heq⟩ := List.mem_map.mp hseries'
  obtain ⟨counter, -, rfl⟩ := List.mem_map.mp hreading
  obtain ⟨counter', -, rfl⟩ := List.mem_map.mp hreading'
  exact hne (Prod.mk.inj heq).1.symm

/-- The readings are those of the series that occurred, each with the number of occurrences. -/
theorem mem_readings_iff (reading : Reading) :
    reading ∈ rs.flatMap Register.readings ↔
      reading.series ∈ (rs.flatMap fun r => r.keys.map r.family.series) ∧
      reading.count = (rs.flatMap fun r => r.keys.map r.family.series).count reading.series := by
  have hcount : ∀ r ∈ rs, reading.series ∈ r.keys.map r.family.series →
      (rs.flatMap fun r => r.keys.map r.family.series).count reading.series =
        (r.keys.map r.family.series).count reading.series := by
    intro r hr hseries
    obtain ⟨values, -, hvalues⟩ := List.mem_map.mp hseries
    have hown : decide (reading.series.1 = r.family.name) = true :=
      decide_eq_true (congrArg Prod.fst hvalues).symm
    have hfilter : (rs.flatMap fun r => r.keys.map r.family.series).filter
        (fun series => series.1 = r.family.name) = r.keys.map r.family.series := by
      refine filter_flatMap_eq hnodup hr fun s hs series hseries => ?_
      obtain ⟨values, -, rfl⟩ := List.mem_map.mp hseries
      exact decide_eq_true_iff
    rw [← hfilter]
    exact (List.count_filter (p := fun series : Series => series.1 = r.family.name) hown).symm
  constructor
  · intro hmem
    obtain ⟨r, hr, hmem⟩ := List.mem_flatMap.mp hmem
    obtain ⟨hseries, hnumber⟩ := ((hsound r hr).mem_readings_iff reading).mp hmem
    exact ⟨List.mem_flatMap.mpr ⟨r, hr, hseries⟩, hnumber.trans (hcount r hr hseries).symm⟩
  · rintro ⟨hseries, hnumber⟩
    obtain ⟨r, hr, hseries⟩ := List.mem_flatMap.mp hseries
    refine List.mem_flatMap.mpr ⟨r, hr, ((hsound r hr).mem_readings_iff reading).mpr ?_⟩
    exact ⟨hseries, hnumber.trans (hcount r hr hseries)⟩

end Registers

/-! ## The export of a run -/

/-- The registers of a run, in the order in which they are exported. -/
def registersOf (m : Aggregate) (reports : List Report) : List Register :=
  [⟨checkFamily, m.checkCounters, (reportedChecks reports).map checkKey⟩,
    ⟨requestFamily, m.requestCounters, (reportedSamples reports).map requestKey⟩,
    ⟨iterationFamily, m.iterationCounters, reports.map fun r => outcomeKey r.outcome⟩]

variable {m : Aggregate} {reports : List Report}

theorem toList_exposition (m : Aggregate) (reports : List Report) :
    m.exposition.toList =
      ((registersOf m reports).flatMap Register.rows).flatMap (· ++ ['\n']) := by
  simp only [Aggregate.exposition, String.toList_append, Family.toList_text, registersOf,
    Register.rows, List.flatMap_cons, List.flatMap_nil, List.append_nil, List.flatMap_append,
    List.append_assoc]

theorem readings_eq (m : Aggregate) (reports : List Report) :
    (registersOf m reports).flatMap Register.readings = m.readings := by
  simp only [registersOf, Register.readings, Aggregate.readings, List.flatMap_cons,
    List.flatMap_nil, List.append_nil, List.append_assoc]

theorem seriesOf_eq (m : Aggregate) (reports : List Report) :
    ((registersOf m reports).flatMap fun r => r.keys.map r.family.series) = seriesOf reports := by
  simp only [registersOf, seriesOf, List.flatMap_cons, List.flatMap_nil, List.append_nil,
    List.append_assoc, List.map_map, Function.comp_def]

theorem nodup_names : ((registersOf m reports).map (·.family.name)).Nodup := by
  show [checkFamily.name, requestFamily.name, iterationFamily.name].Nodup
  decide

theorem wellNamed_families :
    checkFamily.WellNamed ∧ requestFamily.WellNamed ∧ iterationFamily.WellNamed := by
  refine ⟨⟨?_, ?_, ?_, ?_⟩, ⟨?_, ?_, ?_, ?_⟩, ⟨?_, ?_, ?_, ?_⟩⟩ <;>
    simp [checkFamily, requestFamily, iterationFamily, IsName, isNameCharacter]

/-- The registers of a run count what the reports say. -/
theorem sound_registersOf
    (h : m.Tallies (reports.map (·.outcome)) (reportedChecks reports) (reportedSamples reports))
    (hcount : ∀ series, (seriesOf reports).count series < 2 ^ 53) :
    ∀ r ∈ registersOf m reports, r.Sound := by
  obtain ⟨hcheck, hrequest, hiteration⟩ := wellNamed_families
  have hlimit : ∀ r ∈ registersOf m reports, ∀ key ∈ r.keys, r.keys.count key < 2 ^ 53 := by
    intro r hr key hkey
    calc r.keys.count key ≤ (r.keys.map r.family.series).count (r.family.series key) :=
          List.count_le_count_map
      _ ≤ (seriesOf reports).count (r.family.series key) := by
        rw [← seriesOf_eq m reports, List.flatMap_def]
        have hpart := List.mem_map_of_mem (f := fun r => r.keys.map r.family.series) hr
        exact (List.sublist_flatten_of_mem hpart).count_le _
      _ < 2 ^ 53 := hcount _
  intro r hr
  have hlimit := hlimit r hr
  simp only [registersOf, List.mem_cons, List.not_mem_nil, or_false] at hr
  rcases hr with rfl | rfl | rfl
  · refine ⟨hcheck, h.checkCounters_counts, ?_, hlimit⟩
    intro key hkey
    obtain ⟨c, -, rfl⟩ := List.mem_map.mp hkey
    rfl
  · refine ⟨hrequest, h.requestCounters_counts, ?_, hlimit⟩
    intro key hkey
    obtain ⟨s, -, rfl⟩ := List.mem_map.mp hkey
    rfl
  · refine ⟨hiteration, ?_, ?_, hlimit⟩
    · have hcounts := h.iterationCounters_counts
      rwa [List.map_map] at hcounts
    · intro key hkey
      obtain ⟨r, -, rfl⟩ := List.mem_map.mp hkey
      rfl

/-- How a family shows in a text: not at all if there are no readings of it, or else by a line of
help, a line with its type, and after these the lines that are read so, with nothing about it
elsewhere. -/
def Family.ShownIn (f : Family) (text : String) (readings : List Reading) : Prop :=
  (readings = [] ∧ (linesOf text).filter f.concerns = []) ∨
    ∃ rows, readings ≠ [] ∧ (linesOf text).filter f.concerns = f.helpLine :: f.typeLine :: rows ∧
      rows.mapM line? = some readings

theorem Register.Sound.shownIn {r : Register} (h : r.Sound) {text : String}
    (hlines : (linesOf text).filter r.family.concerns = r.rows) :
    r.family.ShownIn text r.readings := by
  have hreadings : r.readings = [] ↔ r.counters = [] := List.map_eq_nil_iff
  by_cases hempty : r.counters = []
  · refine .inl ⟨hreadings.mpr hempty, ?_⟩
    rw [hlines, Register.rows, Family.rows, hempty]
    rfl
  · refine .inr ⟨_, fun hnone => hempty (hreadings.mp hnone), ?_, h.mapM_rows⟩
    rw [hlines, Register.rows, Family.rows, if_neg (by simpa using hempty)]

/-- After any updates, with checks of any labels, as long as nothing occurred `2 ^ 53` times:
reading the export gives the counters of the totals.  There is one reading for each series that
occurred, with the number of its occurrences, and none for any other; and each family shows by its
help and its type, once and in front of its samples, if it has samples, and not at all if it has
none. -/
theorem exposition_lossless (users : Nat) (updates : List Update)
    (hcount : ∀ series, (seriesOf (reportsOf updates)).count series < 2 ^ 53) :
    readings? (Aggregate.after users updates).exposition =
        some (Aggregate.after users updates).readings ∧
      ((Aggregate.after users updates).readings.map Reading.series).Nodup ∧
      (∀ reading, reading ∈ (Aggregate.after users updates).readings ↔
        reading.series ∈ seriesOf (reportsOf updates) ∧
          reading.count = (seriesOf (reportsOf updates)).count reading.series) ∧
      ∀ f ∈ [checkFamily, requestFamily, iterationFamily],
        f.ShownIn (Aggregate.after users updates).exposition
          ((Aggregate.after users updates).readings.filter (·.family = f.name)) := by
  have htallies := tallies_after users updates
  generalize Aggregate.after users updates = m at htallies ⊢
  generalize reportsOf updates = reports at htallies hcount ⊢
  have hsound := sound_registersOf htallies hcount
  have htext := toList_exposition m reports
  have hread := readings?_registers hsound htext
  have honce := nodup_readings hsound nodup_names
  have hmem := mem_readings_iff hsound nodup_names
  rw [readings_eq] at hread honce
  rw [readings_eq, seriesOf_eq] at hmem
  refine ⟨hread, honce, hmem, ?_⟩
  have hshown : ∀ r ∈ registersOf m reports,
      r.family.ShownIn m.exposition (m.readings.filter (·.family = r.family.name)) := by
    intro r hr
    rw [← readings_eq m reports, filter_readings nodup_names hr]
    exact (hsound r hr).shownIn (filter_concerns hsound nodup_names hr htext)
  intro f hf
  have hfamilies : (registersOf m reports).map (·.family) =
      [checkFamily, requestFamily, iterationFamily] := rfl
  rw [← hfamilies] at hf
  obtain ⟨r, hr, rfl⟩ := List.mem_map.mp hf
  exact hshown r hr

/-- A label made of what lines are made of. -/
def awkwardLabel : String := "no \\n,\"\x7d 7\n# é=\x7b"

/-- A report with an awkward label and an empty one. -/
def awkwardReport : Report :=
  ⟨0, 0, .errored, [.check ⟨awkwardLabel, true⟩, .check ⟨"", false⟩, .check ⟨awkwardLabel, true⟩]⟩

/-- The awkward label is found again with its number, and there are no requests to show. -/
theorem exposition_lossless_awkward :
    (∀ series, (seriesOf [awkwardReport]).count series < 2 ^ 53) ∧
      ∃ readings,
        readings? (Aggregate.after 1 [.record awkwardReport]).exposition = some readings ∧
        ⟨"chatload_checks_total", [("check", awkwardLabel), ("result", "pass")], 2⟩ ∈ readings ∧
        requestFamily.ShownIn (Aggregate.after 1 [.record awkwardReport]).exposition [] := by
  have hcount : ∀ series, (seriesOf [awkwardReport]).count series < 2 ^ 53 := by
    intro series
    have hlength : (seriesOf [awkwardReport]).length = 4 := rfl
    have hle := List.count_le_length (a := series) (l := seriesOf [awkwardReport])
    omega
  obtain ⟨hread, -, hmem, hshown⟩ := exposition_lossless 1 [.record awkwardReport] hcount
  refine ⟨hcount, _, hread, (hmem _).mpr ?_, ?_⟩
  · show _ ∈ seriesOf [awkwardReport] ∧ _ = (seriesOf [awkwardReport]).count _
    decide +kernel
  · have hnone : (Aggregate.after 1 [.record awkwardReport]).readings.filter
        (·.family = requestFamily.name) = [] := by decide +kernel
    have hrequests := hshown requestFamily (by simp)
    rwa [hnone] at hrequests

end LoadProbe.Metrics
