import LoadProbe.Http.Client
import LoadProbe.Proofs.Text.Runs

/-!
# Status URLs

However many slashes a base URL ends with and a path begins with, there is one slash between them
when they are joined, and nothing else is changed.  URLs that are absolute are left alone, also
those that come out of a join.

* `Url.IsAbsolute`, `Url.StartsWithSlash` and `Url.EndsWithSlash` say what a text looks like, and
  `Url.slashes` are slashes only.
* `Url.exists_root` and `Url.exists_name` split slashes off a base and a path; `Url.trimBase_eq` and
  `Url.trimPath_eq` say that this is what is left after trimming.
* `Url.join_eq`: a root and a name are joined by one slash.
* `Url.statusUrl_joined`: what is joined, and which URLs a client asks for.
-/

namespace LoadProbe.Url

open LoadProbe.Text

variable {text root name url : String}

/-! ## The looks of a text -/

/-- Nothing but slashes. -/
def slashes (n : Nat) : String := String.ofList (List.replicate n '/')

/-- The text starts like an absolute URL of the web. -/
def IsAbsolute (url : String) : Prop := ∃ rest, url = "http://" ++ rest ∨ url = "https://" ++ rest

def StartsWithSlash (text : String) : Prop := ∃ rest, text = "/" ++ rest

def EndsWithSlash (text : String) : Prop := ∃ rest, text = rest ++ "/"

theorem startsWithSlash_iff : StartsWithSlash text ↔ text.toList.head? = some '/' := by
  constructor
  · rintro ⟨rest, rfl⟩
    simp
  · intro h
    obtain ⟨cs, hcs⟩ := List.head?_eq_some_iff.mp h
    exact ⟨String.ofList cs, String.toList_injective (by simp [hcs])⟩

theorem endsWithSlash_iff : EndsWithSlash text ↔ text.toList.reverse.head? = some '/' := by
  rw [List.head?_reverse]
  constructor
  · rintro ⟨rest, rfl⟩
    simp
  · intro h
    obtain ⟨cs, hcs⟩ := List.getLast?_eq_some_iff.mp h
    exact ⟨String.ofList cs, String.toList_injective (by simp [hcs])⟩

theorem isPrefixOf_iff {start : String} :
    start.toList.isPrefixOf url.toList = true ↔ ∃ rest, url = start ++ rest := by
  rw [List.isPrefixOf_iff_prefix]
  constructor
  · rintro ⟨cs, hcs⟩
    exact ⟨String.ofList cs, String.toList_injective (by simp [hcs])⟩
  · rintro ⟨rest, rfl⟩
    exact ⟨rest.toList, by simp⟩

theorem isAbsolute_iff : isAbsolute url = true ↔ IsAbsolute url := by
  rw [isAbsolute, Bool.or_eq_true, isPrefixOf_iff, isPrefixOf_iff, ← exists_or]
  rfl

/-! ## Slashes at the ends -/

theorem slashes_add (m n : Nat) : slashes (m + n) = slashes m ++ slashes n := by
  rw [slashes, slashes, slashes, List.replicate_add, String.ofList_append]

/-- A path is a name behind slashes. -/
theorem exists_name (path : String) :
    ∃ n name, path = slashes n ++ name ∧ ¬StartsWithSlash name := by
  obtain ⟨n, hpath, hrest⟩ := exists_copies '/' path.toList
  refine ⟨n, trimPath path, String.toList_injective ?_, ?_⟩
  · simpa [slashes, trimPath] using hpath
  · rwa [startsWithSlash_iff, trimPath, String.toList_ofList]

/-- A base URL is a root in front of slashes. -/
theorem exists_root (base : String) :
    ∃ n root, base = root ++ slashes n ∧ ¬EndsWithSlash root := by
  obtain ⟨n, hbase, hrest⟩ := exists_copies '/' base.toList.reverse
  refine ⟨n, trimBase base, String.toList_injective ?_, ?_⟩
  · rw [← List.reverse_inj]
    simpa [slashes, trimBase, dropEnd] using hbase
  · rwa [endsWithSlash_iff, trimBase, String.toList_ofList, dropEnd, List.reverse_reverse]

theorem trimPath_eq (h : ¬StartsWithSlash name) (n : Nat) :
    trimPath (slashes n ++ name) = name := by
  rw [startsWithSlash_iff] at h
  rw [trimPath, String.toList_append, slashes, String.toList_ofList, dropWhile_copies h n,
    String.ofList_toList]

theorem trimBase_eq (h : ¬EndsWithSlash root) (n : Nat) : trimBase (root ++ slashes n) = root := by
  rw [endsWithSlash_iff] at h
  rw [trimBase, dropEnd, String.toList_append, slashes, String.toList_ofList, List.reverse_append,
    List.reverse_replicate, dropWhile_copies h n, List.reverse_reverse, String.ofList_toList]

/-- Trimming twice is trimming once. -/
theorem trimBase_trimBase (base : String) : trimBase (trimBase base) = trimBase base := by
  obtain ⟨n, root, rfl, hroot⟩ := exists_root base
  have hself : trimBase root = root := by simpa [slashes] using trimBase_eq hroot 0
  rw [trimBase_eq hroot, hself]

/-! ## Joining -/

theorem join_of_isAbsolute (h : IsAbsolute url) (base : String) : join base url = url := by
  rw [join, if_pos (isAbsolute_iff.mpr h)]

/-- A root and a name are joined by one slash, whatever slashes are between them. -/
theorem join_eq (hroot : ¬EndsWithSlash root) (hname : ¬StartsWithSlash name) {m n : Nat}
    (h : ¬IsAbsolute (slashes n ++ name)) :
    join (root ++ slashes m) (slashes n ++ name) = root ++ "/" ++ name := by
  rw [join, if_neg (mt isAbsolute_iff.mp h), trimBase_eq hroot, trimPath_eq hname]

theorem IsAbsolute.head? (h : IsAbsolute url) : url.toList.head? = some 'h' := by
  obtain ⟨rest, rfl | rfl⟩ := h
  · simp
  · simp

/-- Slashes in front do not make a URL absolute. -/
theorem not_isAbsolute_slashes (h : ¬IsAbsolute url) (n : Nat) :
    ¬IsAbsolute (slashes n ++ url) := by
  cases n with
  | zero => simpa [slashes] using h
  | succ n =>
      intro habsolute
      simpa [slashes, List.replicate_succ] using habsolute.head?

/-- A base that is trimmed already is joined as it was before. -/
theorem join_trimBase (base url : String) : join (trimBase base) url = join base url := by
  rw [join, join, trimBase_trimBase]

/-- The chat URL of a trimmed base is a join. -/
theorem chatUrl_trimBase (base : String) : chatUrl (trimBase base) = join base "chat" := by
  have hrelative : isAbsolute "chat" = false := by decide
  have hname : trimPath "chat" = "chat" := by decide
  rw [chatUrl, join, hrelative, hname, if_neg Bool.false_ne_true, String.append_assoc]
  rfl

/-- A URL that is not absolute is joined to a base by one slash between what is left of the two
without the slashes there, however many there are, and nothing else is changed.  An absolute URL is
the same after a join, also one that a join has made.  A client, which trims its base at the start,
asks for the joins of the base that it was given. -/
theorem statusUrl_joined (base url : String) :
    (¬IsAbsolute url → ∃ root name m n,
      base = root ++ slashes m ∧ ¬EndsWithSlash root ∧
      url = slashes n ++ name ∧ ¬StartsWithSlash name ∧
      join base url = root ++ "/" ++ name ∧
      ∀ i j, join (base ++ slashes i) (slashes j ++ url) = join base url) ∧
    (IsAbsolute url → join base url = url) ∧
    (IsAbsolute (join base url) → ∀ other, join other (join base url) = join base url) ∧
    ∀ target : Settings.Target, target.baseUrl = base →
      ((Http.Client.ofTarget target).poll url).url = join base url ∧
      (Http.Client.ofTarget target).chatUrl = join base "chat" := by
  refine ⟨fun hrelative => ?relative, fun habsolute => join_of_isAbsolute habsolute base,
    fun habsolute other => join_of_isAbsolute habsolute other, ?client⟩
  case relative =>
      obtain ⟨m, root, rfl, hroot⟩ := exists_root base
      obtain ⟨n, name, rfl, hname⟩ := exists_name url
      have hjoin := join_eq hroot hname (m := m) hrelative
      refine ⟨root, name, m, n, rfl, hroot, rfl, hname, hjoin, fun i j => ?_⟩
      have hbase : root ++ slashes m ++ slashes i = root ++ slashes (m + i) := by
        rw [slashes_add, String.append_assoc]
      have hurl : slashes j ++ (slashes n ++ name) = slashes (j + n) ++ name := by
        rw [slashes_add, String.append_assoc]
      have hmore := not_isAbsolute_slashes hrelative j
      rw [hurl] at hmore
      rw [hbase, hurl, hjoin, join_eq hroot hname hmore]
  case client =>
      rintro target rfl
      exact ⟨join_trimBase target.baseUrl url, chatUrl_trimBase target.baseUrl⟩

/-- Behind a slash even the start of an absolute URL is the name of a path. -/
theorem statusUrl_joined_hidden :
    (¬IsAbsolute "/http://x" ∧ ∀ i j,
      join ("http://localhost:3000//" ++ slashes i) (slashes j ++ "/http://x") =
        "http://localhost:3000/http://x") ∧
    (IsAbsolute "https://x/" ∧ join "http://localhost:3000//" "https://x/" = "https://x/") ∧
    (IsAbsolute (join "http://localhost:3000//" "/http://x") ∧
      join "/" (join "http://localhost:3000//" "/http://x") = "http://localhost:3000/http://x") ∧
    (Http.Client.ofTarget { baseUrl := "http://localhost:3000//" }).chatUrl =
      "http://localhost:3000/chat" := by
  have hrelative : ¬IsAbsolute "/http://x" := by
    rw [← isAbsolute_iff]
    decide
  have habsolute : IsAbsolute "https://x/" := isAbsolute_iff.mp (by decide)
  have hjoined : join "http://localhost:3000//" "/http://x" = "http://localhost:3000/http://x" := by
    decide +kernel
  have hchat : join "http://localhost:3000//" "chat" = "http://localhost:3000/chat" := by
    decide +kernel
  have hagain : IsAbsolute (join "http://localhost:3000//" "/http://x") := by
    rw [hjoined]
    exact isAbsolute_iff.mp (by decide)
  obtain ⟨hpath, -, hrejoin, hclient⟩ := statusUrl_joined "http://localhost:3000//" "/http://x"
  obtain ⟨-, -, -, -, -, -, -, -, -, hslashes⟩ := hpath hrelative
  refine ⟨⟨hrelative, fun i j => (hslashes i j).trans hjoined⟩, ⟨habsolute, ?_⟩,
    ⟨hagain, (hrejoin hagain "/").trans hjoined⟩, (hclient _ rfl).2.trans hchat⟩
  exact (statusUrl_joined "http://localhost:3000//" "https://x/").2.1 habsolute

end LoadProbe.Url
