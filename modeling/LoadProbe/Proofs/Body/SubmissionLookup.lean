import LoadProbe.Job.Submission
import LoadProbe.Proofs.Json.Lookup

/-!
# Submissions by lookup

What the answer to a submission means depends on its status first.  Only the body of an accepting
answer is read at all, and whatever that body is, reading it never fails: a handle that cannot be
found is absent.

* `Job.IdText` says which values name a job, and how; by `Json.isWord_of_field?` the integers among
  them fit into 64 bits.
* `Job.FindsHandles` says of the handles that they are lookups in the meaning of the body.
* `Job.Interpreted` says what an answer comes to, and `Job.submission_interpreted` that every
  answer, of any status and with any body, comes to that.
-/

namespace LoadProbe

namespace Text

/-- An integer is written as usual. -/
theorem integer_eq_toString (n : Int) : integer n = toString n := by
  cases n with
  | ofNat n => rfl
  | negSucc n => exact if_pos (Int.negSucc_lt_zero n)

end Text

namespace Json

/-! ## Integers in a document -/

theorem appendDigits_lt {n : Nat} (hn : n < Word.limit64) (digits : List Char) :
    (appendDigits n digits).1 < Word.limit64 := by
  induction digits generalizing n with
  | nil => exact hn
  | cons c digits ih =>
      unfold appendDigits
      simp only
      split
      case isTrue hfits => exact ih hfits
      case isFalse => exact hn

/-- The value may be any but an integer beyond 64 bits. -/
def Value.IsWord (v : Value) : Prop :=
  ∀ n, v = .integer n → -2 ^ 63 ≤ n ∧ n < 2 ^ 64

theorem isWord_of_numeral {n : Numeral} {v : Value} (h : n.value? = some v) : v.IsWord := by
  -- Digits that would go beyond 64 bits are not taken into an integer, with or without a sign.
  have hwhole : (appendDigits 0 n.whole).1 < Word.limit64 := appendDigits_lt (by decide) _
  unfold Numeral.value? at h
  simp only [Word.limit64, Word.signedLimit64] at h hwhole
  rintro k rfl
  split at h
  · obtain rfl := Value.integer.inj (Option.some.inj h)
    omega
  split at h
  case isTrue hsmall =>
      obtain rfl := Value.integer.inj (Option.some.inj h)
      omega
  case isFalse =>
      obtain ⟨x, -, hfloat⟩ := Option.map_eq_some_iff.mp h
      cases hfloat

/-- An integer that a document means fits into 64 bits, unsigned or negative. -/
theorem isWord_of_value? {document : Written} {v : Value} (h : document.value? = some v) :
    v.IsWord := by
  cases document with
  | number n => exact isWord_of_numeral h
  | null =>
      obtain rfl := Option.some.inj h
      exact fun n hn => nomatch hn
  | bool b =>
      obtain rfl := Option.some.inj h
      exact fun n hn => nomatch hn
  | string s =>
      obtain ⟨text, -, rfl⟩ := Option.map_eq_some_iff.mp h
      exact fun n hn => nomatch hn
  | array items =>
      obtain ⟨values, -, rfl⟩ := Option.map_eq_some_iff.mp h
      exact fun n hn => nomatch hn
  | object members =>
      obtain ⟨pairs, -, rfl⟩ := Option.map_eq_some_iff.mp h
      exact fun n hn => nomatch hn

theorem isWord_of_items {items : List Written} {values : List Value}
    (hvalues : valuesOfItems? items = some values) : ∀ v ∈ values, v.IsWord := by
  induction items generalizing values with
  | nil =>
      obtain rfl : values = [] := by simpa [valuesOfItems?] using hvalues.symm
      exact List.forall_mem_nil _
  | cons item items ih =>
      obtain ⟨first, later, hfirst, hlater, rfl⟩ := valuesOfItems?_cons_eq_some_iff.mp hvalues
      intro v hv
      rcases List.mem_cons.mp hv with rfl | hv
      · exact isWord_of_value? hfirst
      · exact ih hlater v hv

theorem isWord_of_members {members : List (List Piece × Written)} {pairs : List (String × Value)}
    (hvalues : valuesOfMembers? members = some pairs) : ∀ pair ∈ pairs, pair.2.IsWord := by
  induction members generalizing pairs with
  | nil =>
      obtain rfl : pairs = [] := by simpa [valuesOfMembers?] using hvalues.symm
      exact List.forall_mem_nil _
  | cons member members ih =>
      obtain ⟨key, item⟩ := member
      obtain ⟨k, v, later, -, hv, hlater, rfl⟩ := valuesOfMembers?_cons_eq_some_iff.mp hvalues
      intro pair hpair
      rcases List.mem_cons.mp hpair with rfl | hpair
      · exact isWord_of_value? hv
      · exact ih hlater pair hpair

/-- Only records have fields. -/
theorem isRecord_of_field? {v w : Value} {names : List String} {name : String}
    (h : v.field? names name = some w) : v.IsRecord names.length := by
  cases v with
  | object members => trivial
  | array items =>
      unfold Value.field? at h
      by_cases hlong : items.length ≤ names.length
      · exact hlong
      · simp [hlong] at h
  | null => cases h
  | bool b => cases h
  | integer n => cases h
  | float x => cases h
  | string s => cases h

/-- An integer in a field of what a document means fits into 64 bits, unsigned or negative. -/
theorem isWord_of_field? {document : Written} {v w : Value} {names : List String} {name : String}
    (hvalue : document.value? = some v) (hfield : v.field? names name = some w) : w.IsWord := by
  have hrecord := isRecord_of_field? hfield
  cases document with
  | object members =>
      obtain ⟨pairs, hpairs, rfl⟩ := Option.map_eq_some_iff.mp hvalue
      rw [Value.field?, SortedMap.lookup_ofList, List.lookup_eq_some_iff] at hfield
      obtain ⟨before, after, heq, -⟩ := hfield
      have hmem : (name, w) ∈ pairs.reverse := by simp [heq]
      exact isWord_of_members hpairs _ (List.mem_reverse.mp hmem)
  | array items =>
      obtain ⟨values, hvalues, rfl⟩ := Option.map_eq_some_iff.mp hvalue
      have hshort : values.length ≤ names.length := hrecord
      rw [Value.field?, if_pos hshort] at hfield
      exact isWord_of_items hvalues w (List.mem_of_getElem? hfield)
  | number n => exact absurd hrecord (not_isRecord_of_numeral hvalue)
  | null =>
      obtain rfl := Option.some.inj hvalue
      exact hrecord.elim
  | bool b =>
      obtain rfl := Option.some.inj hvalue
      exact hrecord.elim
  | string s =>
      obtain ⟨text, -, rfl⟩ := Option.map_eq_some_iff.mp hvalue
      exact hrecord.elim

/-- A record in which a field that is asked for stands twice is spoiled. -/
theorem fields?_eq_none_of_repeated {document : Written} {names : List String} {name : String}
    (hname : name ∈ names) (htwice : 2 ≤ document.keys.count name) :
    document.fields? names = none := by
  cases document with
  | object members =>
      simp only [Written.fields?, Option.bind_eq_bind, Option.bind_eq_none_iff]
      intro all hall
      refine if_neg fun hnodup => ?_
      have hfilter : (all.filter fun member => names.contains member.1).map Prod.fst =
          (Written.object members).keys.filter names.contains := by
        rw [← keys_of_keyed hall, List.filter_map]
        rfl
      rw [hfilter, List.nodup_iff_count_le_one] at hnodup
      have honce := hnodup name
      rw [List.count_filter (by simpa using hname)] at honce
      omega
  | array items => simp [Written.keys] at htwice
  | number n => rfl
  | null => rfl
  | bool b => rfl
  | string s => rfl

end Json

namespace Job

open LoadProbe.Json

/-! ## The handles -/

def handleFields : List String := ["id", "status_url"]

/-- The values that name a job, each with its text: a text is the name itself, and a number is
taken for its text, which for an integer is the usual one. -/
inductive IdText : Value → String → Prop where
  | text (id : String) : IdText (.string id) id
  | integer (n : Int) (hlow : -2 ^ 63 ≤ n) (hhigh : n < 2 ^ 64) : IdText (.integer n) (toString n)
  | float (x : Binary64) : IdText (.float x) (floatText x)

theorem jobIdOf?_eq_some_iff {w : Value} (hword : w.IsWord) (id : String) :
    jobIdOf? w = some id ↔ IdText w id := by
  constructor
  · intro h
    cases w with
    | string s =>
        obtain rfl := Option.some.inj h
        exact .text s
    | integer n =>
        obtain rfl := Option.some.inj h
        obtain ⟨hlow, hhigh⟩ := hword n rfl
        rw [Value.compact, Text.integer_eq_toString]
        exact .integer n hlow hhigh
    | float x =>
        obtain rfl := Option.some.inj h
        rw [Value.compact]
        exact .float x
    | null => cases h
    | bool b => cases h
    | array items => cases h
    | object members => cases h
  · intro h
    cases h with
    | text => rfl
    | integer n => rw [jobIdOf?, Value.compact, Text.integer_eq_toString]
    | float x => rw [jobIdOf?, Value.compact]

theorem string?_eq_some_iff (w : Value) (text : String) :
    w.string? = some text ↔ w = .string text := by
  cases w <;> simp [Value.string?]

/-- The handles are found in a body, each without regard to the other.  In a body whose meaning
repeats neither of them they are what is looked up there; a body that is no JSON, or in which one of
them stands twice, has none. -/
structure FindsHandles (body : String) (jobId statusUrl : Option String) : Prop where
  jobId_iff : ∀ v document, Json.parse? body = some v → read? body = some document →
    (∀ name ∈ handleFields, document.keys.count name ≤ 1) →
    ∀ id, jobId = some id ↔ ∃ w, v.field? handleFields "id" = some w ∧ IdText w id
  statusUrl_iff : ∀ v document, Json.parse? body = some v → read? body = some document →
    (∀ name ∈ handleFields, document.keys.count name ≤ 1) →
    ∀ url, statusUrl = some url ↔ v.field? handleFields "status_url" = some (.string url)
  unreadable : read? body = none → jobId = none ∧ statusUrl = none
  repeated : ∀ document, read? body = some document →
    (∃ name ∈ handleFields, 2 ≤ document.keys.count name) → jobId = none ∧ statusUrl = none

/-- Each handle is taken from its field, if the body is a record at all. -/
theorem ofResponse_accepted (body : String) :
    SubmissionResponse.ofResponse ⟨statusAccepted, body⟩ =
      let field? := (read? body).bind (Written.fields? handleFields)
      { status := statusAccepted
        jobId := (field?.bind (· "id")).bind jobIdOf?
        statusUrl := (field?.bind (· "status_url")).bind Value.string? } :=
  rfl

/-- In a body whose meaning repeats no handle each field is found by the lookup. -/
theorem fields?_bind_of_parse? {body : String} {v : Value} {document : Written}
    (hvalue : Json.parse? body = some v) (hread : read? body = some document)
    (honce : ∀ name ∈ handleFields, document.keys.count name ≤ 1) {name : String}
    (hname : name ∈ handleFields) :
    ((read? body).bind (Written.fields? handleFields)).bind (· name) =
      v.field? handleFields name := by
  have hmeaning : document.valueWithin? 0 = some v := by
    simpa [Json.parse?, hread] using hvalue
  rw [hread, Option.bind_some]
  rcases fields?_of_value? hmeaning honce with ⟨hlong, hnone⟩ | ⟨-, fields, hfields, hlookup⟩
  · rw [hnone, Option.bind_none]
    cases hfield : v.field? handleFields name with
    | none => rfl
    | some w => exact absurd (isRecord_of_field? hfield) hlong
  · rw [hfields, Option.bind_some, hlookup name hname]

/-- The handles of an accepting answer are found in its body. -/
theorem findsHandles_ofResponse (body : String) :
    FindsHandles body (SubmissionResponse.ofResponse ⟨statusAccepted, body⟩).jobId
      (SubmissionResponse.ofResponse ⟨statusAccepted, body⟩).statusUrl := by
  rw [ofResponse_accepted]
  constructor
  case jobId_iff =>
      intro v document hvalue hread honce id
      -- An integer in a field has 64 bits, so its text is the one that names a job.
      have hmeaning : document.value? = some v := by
        have hwithin : document.valueWithin? 0 = some v := by
          simpa [Json.parse?, hread] using hvalue
        exact (valueWithin?_eq_some_iff.mp hwithin).2
      have hname : "id" ∈ handleFields := by decide
      simp only [fields?_bind_of_parse? hvalue hread honce hname, Option.bind_eq_some_iff]
      refine exists_congr fun w => and_congr_right fun hfield => ?_
      exact jobIdOf?_eq_some_iff (isWord_of_field? hmeaning hfield) id
  case statusUrl_iff =>
      intro v document hvalue hread honce url
      have hname : "status_url" ∈ handleFields := by decide
      simp only [fields?_bind_of_parse? hvalue hread honce hname, Option.bind_eq_some_iff,
        string?_eq_some_iff]
      exact ⟨fun ⟨w, hfield, hw⟩ => hw ▸ hfield, fun hfield => ⟨_, hfield, rfl⟩⟩
  case unreadable =>
      intro hread
      rw [hread]
      exact ⟨rfl, rfl⟩
  case repeated =>
      rintro document hread ⟨name, hname, htwice⟩
      rw [hread, Option.bind_some, fields?_eq_none_of_repeated hname htwice]
      exact ⟨rfl, rfl⟩

/-! ## The answer -/

/-- What the answer to a submission comes to: the handles `r` that are read from it, and what is
noted and decided.  Only an accepting answer is searched for handles; it is checked for each of
them, and there is a job to poll if and only if it has both. -/
structure Interpreted (status : Nat) (body : String) (r : SubmissionResponse)
    (noted : Noted Submission) : Prop where
  rateLimited : status = 429 → noted.value = .rateLimited ∧
    checksOf noted.entries = [⟨"rate limit hit", true⟩]
  unexpected : status ≠ 202 → status ≠ 429 → noted.value = .unexpected status ∧
    checksOf noted.entries = []
  unread : status ≠ 202 → r.jobId = none ∧ r.statusUrl = none
  checked : status = 202 → checksOf noted.entries = [⟨"job accepted", true⟩,
    ⟨"has job_id", r.jobId.isSome⟩, ⟨"has status url", r.statusUrl.isSome⟩]
  accepted_iff : ∀ job, noted.value = .accepted job ↔
    status = 202 ∧ r.jobId = some job.jobId ∧ r.statusUrl = some job.statusUrl
  incomplete : status = 202 → (r.jobId = none ∨ r.statusUrl = none) →
    noted.value = .incomplete r.jobId r.statusUrl
  findsHandles : status = 202 → FindsHandles body r.jobId r.statusUrl

theorem interpreted_accepting (body : String) :
    Interpreted 202 body (.ofResponse ⟨202, body⟩) (classify (.ofResponse ⟨202, body⟩)) := by
  have hfinds := findsHandles_ofResponse body
  have hstatus : (SubmissionResponse.ofResponse ⟨202, body⟩).status = 202 := rfl
  generalize hr : SubmissionResponse.ofResponse ⟨202, body⟩ = r at hstatus
  have hfound : FindsHandles body r.jobId r.statusUrl := hr ▸ hfinds
  obtain ⟨status, jobId, statusUrl⟩ := r
  obtain rfl : status = 202 := hstatus
  refine ⟨nofun, fun h => absurd rfl h, fun h => absurd rfl h, fun _ => ?_, fun job => ?_,
    fun _ hmissing => ?_, fun _ => hfound⟩
  · cases jobId <;> cases statusUrl <;> rfl
  · obtain ⟨id, url⟩ := job
    cases jobId <;> cases statusUrl <;>
      simp [classify, ofHandles, statusAccepted, statusTooManyRequests]
  · cases jobId <;> cases statusUrl <;> simp at hmissing <;> rfl

/-- Every answer to a submission, whatever its status and its body, is interpreted in full. -/
theorem submission_interpreted (status : Nat) (body : String) :
    Interpreted status body (.ofResponse ⟨status, body⟩)
      (classify (.ofResponse ⟨status, body⟩)) := by
  by_cases haccepted : status = 202
  · subst haccepted
    exact interpreted_accepting body
  · have hunread : SubmissionResponse.ofResponse ⟨status, body⟩ = ⟨status, none, none⟩ := by
      have hstatus : ¬status = statusAccepted := haccepted
      simp [SubmissionResponse.ofResponse, hstatus]
    rw [hunread]
    by_cases hthrottled : status = 429
    · subst hthrottled
      exact ⟨fun _ => ⟨rfl, rfl⟩, fun _ h => absurd rfl h, fun _ => ⟨rfl, rfl⟩, nofun,
        fun job => ⟨nofun, nofun⟩, nofun, nofun⟩
    · have hunexpected : classify ⟨status, none, none⟩ =
          ⟨[.event (.submitUnexpected status)], .unexpected status⟩ := by
        have hstatus : ¬status = statusAccepted := haccepted
        have hstatus' : ¬status = statusTooManyRequests := hthrottled
        simp [classify, hstatus, hstatus']
      rw [hunexpected]
      exact ⟨fun h => absurd h hthrottled, fun _ _ => ⟨rfl, rfl⟩, fun _ => ⟨rfl, rfl⟩,
        fun h => absurd h haccepted, fun job => ⟨nofun, fun h => absurd h.1 haccepted⟩,
        fun h => absurd h haccepted, fun h => absurd h haccepted⟩

/-- A body that gives its handles by position, the job id as the greatest number there is. -/
def positionalBody : String := "[18446744073709551615, \"status/7\"]"

theorem submission_interpreted_positional :
    ∃ v document, Json.parse? positionalBody = some v ∧ read? positionalBody = some document ∧
      (∀ name ∈ handleFields, document.keys.count name ≤ 1) ∧
      v.field? handleFields "id" = some (.integer 18446744073709551615) ∧
      (classify (.ofResponse ⟨202, positionalBody⟩)).value =
        .accepted ⟨"18446744073709551615", "status/7"⟩ := by
  have hmeaning : Json.parse? positionalBody =
      some (.array [.integer 18446744073709551615, .string "status/7"]) := by cbv
  obtain ⟨document, hread, -⟩ := Option.bind_eq_some_iff.mp hmeaning
  have honce : ∀ name ∈ handleFields, document.keys.count name ≤ 1 := by
    have hkeys : (read? positionalBody).all (fun document => document.keys.isEmpty) = true := by
      decide +kernel
    intro name _
    have hnone : document.keys = [] := by simpa [hread] using hkeys
    simp [hnone]
  have hfinds := (submission_interpreted 202 positionalBody).findsHandles rfl
  have hid := (hfinds.jobId_iff _ document hmeaning hread honce "18446744073709551615").mpr
    ⟨_, rfl, .integer 18446744073709551615 (by decide) (by decide)⟩
  have hurl := (hfinds.statusUrl_iff _ document hmeaning hread honce "status/7").mpr rfl
  exact ⟨_, document, hmeaning, hread, honce, rfl,
    ((submission_interpreted 202 positionalBody).accepted_iff ⟨_, _⟩).mpr ⟨rfl, hid, hurl⟩⟩

end Job

end LoadProbe
