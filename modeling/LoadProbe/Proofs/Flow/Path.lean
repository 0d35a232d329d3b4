import Mathlib
import LoadProbe.Run.Iteration
import LoadProbe.Run.Service

/-!
# Paths through flows

A flow is a tree that branches over the answers to its calls.  A path is one way from its root to
one of its results: the moves on the way, each call with the answer it got.  Which service gave the
answers, and what other users it served in between, does not matter to a path, so what is proved of
all paths of a flow holds for a user on a quiet service and for one user among many.

* `Run.Flow.Path` relates a flow to its paths; `Run.path_bind_iff` and `Run.path_noteAll_iff` take
  the paths of a composed flow apart.
* `Run.Service.Steady` says that no call is left without a reply, now or later; canned answers
  make a steady service (`Run.scripted_steady`).
* `Run.perform_eq_some` and `Run.path_of_perform`: on a steady service performing a flow gives a
  result, and whenever it gives one it has followed a path and recorded the entries of that path.
-/

namespace LoadProbe.Run

open LoadProbe.Job

/-- One thing that happens on the way through a flow.  A call comes with its answer. -/
inductive Move where
  | note (entry : Entry)
  | wait (duration : Duration)
  | submit (request : Request) (answer : Answer)
  | fetch (url : String) (answer : Answer)

namespace Move

/-- What a move records. -/
def recorded? : Move → Option Entry
  | note entry => some entry
  | _ => none

end Move

/-- What was recorded on a way, in order. -/
def entriesOf (moves : List Move) : List Entry := moves.filterMap Move.recorded?

@[simp] theorem entriesOf_nil : entriesOf [] = [] := rfl

@[simp] theorem entriesOf_note (entry : Entry) (moves : List Move) :
    entriesOf (.note entry :: moves) = entry :: entriesOf moves := rfl

@[simp] theorem entriesOf_wait (duration : Duration) (moves : List Move) :
    entriesOf (.wait duration :: moves) = entriesOf moves := rfl

@[simp] theorem entriesOf_submit (request : Request) (answer : Answer) (moves : List Move) :
    entriesOf (.submit request answer :: moves) = entriesOf moves := rfl

@[simp] theorem entriesOf_fetch (url : String) (answer : Answer) (moves : List Move) :
    entriesOf (.fetch url answer :: moves) = entriesOf moves := rfl

@[simp] theorem entriesOf_append (first second : List Move) :
    entriesOf (first ++ second) = entriesOf first ++ entriesOf second := by
  simp [entriesOf]

@[simp] theorem entriesOf_map_note (entries : List Entry) :
    entriesOf (entries.map .note) = entries := by
  induction entries with
  | nil => rfl
  | cons entry entries ih => simp [ih]

namespace Flow

variable {α β : Type}

/-- The flow may go through the given moves and end with the given result. -/
inductive Path : Flow α → List Move → α → Prop where
  | done (result : α) : Path (.done result) [] result
  | note {rest : Flow α} {moves : List Move} {result : α} (entry : Entry)
      (hrest : Path rest moves result) : Path (.note entry rest) (.note entry :: moves) result
  | wait {rest : Flow α} {moves : List Move} {result : α} (duration : Duration)
      (hrest : Path rest moves result) : Path (.wait duration rest) (.wait duration :: moves) result
  | submit {rest : Answer → Flow α} {moves : List Move} {result : α} (request : Request)
      (answer : Answer) (hrest : Path (rest answer) moves result) :
      Path (.submit request rest) (.submit request answer :: moves) result
  | fetch {rest : Answer → Flow α} {moves : List Move} {result : α} (url : String)
      (answer : Answer) (hrest : Path (rest answer) moves result) :
      Path (.fetch url rest) (.fetch url answer :: moves) result

end Flow

variable {σ α β : Type}

@[simp] theorem path_done_iff {value result : α} {moves : List Move} :
    (Flow.done value).Path moves result ↔ moves = [] ∧ result = value := by
  constructor
  · rintro ⟨⟩
    exact ⟨rfl, rfl⟩
  · rintro ⟨rfl, rfl⟩
    exact .done result

@[simp] theorem path_note_iff {entry : Entry} {rest : Flow α} {moves : List Move} {result : α} :
    (Flow.note entry rest).Path moves result ↔
      ∃ later, moves = .note entry :: later ∧ rest.Path later result := by
  constructor
  · intro h
    cases h with
    | note _ hrest => exact ⟨_, rfl, hrest⟩
  · rintro ⟨later, rfl, hrest⟩
    exact .note entry hrest

@[simp] theorem path_wait_iff {duration : Duration} {rest : Flow α} {moves : List Move}
    {result : α} :
    (Flow.wait duration rest).Path moves result ↔
      ∃ later, moves = .wait duration :: later ∧ rest.Path later result := by
  constructor
  · intro h
    cases h with
    | wait _ hrest => exact ⟨_, rfl, hrest⟩
  · rintro ⟨later, rfl, hrest⟩
    exact .wait duration hrest

@[simp] theorem path_submit_iff {request : Request} {rest : Answer → Flow α} {moves : List Move}
    {result : α} :
    (Flow.submit request rest).Path moves result ↔
      ∃ answer later, moves = .submit request answer :: later ∧
        (rest answer).Path later result := by
  constructor
  · intro h
    cases h with
    | submit _ answer hrest => exact ⟨answer, _, rfl, hrest⟩
  · rintro ⟨answer, later, rfl, hrest⟩
    exact .submit request answer hrest

@[simp] theorem path_fetch_iff {url : String} {rest : Answer → Flow α} {moves : List Move}
    {result : α} :
    (Flow.fetch url rest).Path moves result ↔
      ∃ answer later, moves = .fetch url answer :: later ∧
        (rest answer).Path later result := by
  constructor
  · intro h
    cases h with
    | fetch _ answer hrest => exact ⟨answer, _, rfl, hrest⟩
  · rintro ⟨answer, later, rfl, hrest⟩
    exact .fetch url answer hrest

/-- A way through a composed flow is a way through its first part and then one through the second
part that the result of the first selects. -/
theorem path_bind_iff {f : α → Flow β} {flow : Flow α} {moves : List Move} {result : β} :
    (flow.bind f).Path moves result ↔
      ∃ first second middle, moves = first ++ second ∧ flow.Path first middle ∧
        (f middle).Path second result := by
  -- A move at the root of the composed flow is the first move of the first part.
  induction flow generalizing moves with
  | done value => simp [Flow.bind]
  | note entry rest ih =>
      simp only [Flow.bind, path_note_iff, ih]
      constructor
      · rintro ⟨_, rfl, first, second, middle, rfl, hfirst, hsecond⟩
        exact ⟨.note entry :: first, second, middle, rfl, ⟨first, rfl, hfirst⟩, hsecond⟩
      · rintro ⟨_, second, middle, rfl, ⟨first, rfl, hfirst⟩, hsecond⟩
        exact ⟨first ++ second, rfl, first, second, middle, rfl, hfirst, hsecond⟩
  | wait duration rest ih =>
      simp only [Flow.bind, path_wait_iff, ih]
      constructor
      · rintro ⟨_, rfl, first, second, middle, rfl, hfirst, hsecond⟩
        exact ⟨.wait duration :: first, second, middle, rfl, ⟨first, rfl, hfirst⟩, hsecond⟩
      · rintro ⟨_, second, middle, rfl, ⟨first, rfl, hfirst⟩, hsecond⟩
        exact ⟨first ++ second, rfl, first, second, middle, rfl, hfirst, hsecond⟩
  | submit request rest ih =>
      simp only [Flow.bind, path_submit_iff, ih]
      constructor
      · rintro ⟨answer, _, rfl, first, second, middle, rfl, hfirst, hsecond⟩
        exact ⟨.submit request answer :: first, second, middle, rfl,
          ⟨answer, first, rfl, hfirst⟩, hsecond⟩
      · rintro ⟨_, second, middle, rfl, ⟨answer, first, rfl, hfirst⟩, hsecond⟩
        exact ⟨answer, first ++ second, rfl, first, second, middle, rfl, hfirst, hsecond⟩
  | fetch url rest ih =>
      simp only [Flow.bind, path_fetch_iff, ih]
      constructor
      · rintro ⟨answer, _, rfl, first, second, middle, rfl, hfirst, hsecond⟩
        exact ⟨.fetch url answer :: first, second, middle, rfl,
          ⟨answer, first, rfl, hfirst⟩, hsecond⟩
      · rintro ⟨_, second, middle, rfl, ⟨answer, first, rfl, hfirst⟩, hsecond⟩
        exact ⟨answer, first ++ second, rfl, first, second, middle, rfl, hfirst, hsecond⟩

theorem path_noteAll_iff {entries : List Entry} {rest : Flow α} {moves : List Move} {result : α} :
    (Flow.noteAll entries rest).Path moves result ↔
      ∃ later, moves = entries.map .note ++ later ∧ rest.Path later result := by
  induction entries generalizing moves with
  | nil => simp [Flow.noteAll]
  | cons entry entries ih =>
      have hfold : Flow.noteAll (entry :: entries) rest = .note entry (.noteAll entries rest) := rfl
      rw [hfold, path_note_iff]
      constructor
      · rintro ⟨_, rfl, hrest⟩
        obtain ⟨later, rfl, hlater⟩ := ih.mp hrest
        exact ⟨later, rfl, hlater⟩
      · rintro ⟨later, rfl, hlater⟩
        exact ⟨entries.map .note ++ later, rfl, ih.mpr ⟨later, rfl, hlater⟩⟩

/-! ## Performing a flow -/

/-- The states to which calls can bring a service. -/
inductive Service.Reaches (service : Service σ) (start : σ) : σ → Prop where
  | start : Reaches service start start
  | submit {state : σ} (request : Request) (h : Reaches service start state) :
      Reaches service start (service.submit request state).2
  | fetch {state : σ} (url : String) (h : Reaches service start state) :
      Reaches service start (service.fetch url state).2

/-- Whatever is called from here on, in whatever order, there is a reply. -/
def Service.Steady (service : Service σ) (start : σ) : Prop :=
  ∀ state, service.Reaches start state →
    (∀ request, (service.submit request state).1.reply.isSome) ∧
      ∀ url, (service.fetch url state).1.reply.isSome

theorem Service.Reaches.trans {service : Service σ} {first second third : σ}
    (h : service.Reaches first second) (hnext : service.Reaches second third) :
    service.Reaches first third := by
  induction hnext with
  | start => exact h
  | submit request _ ih => exact .submit request ih
  | fetch url _ ih => exact .fetch url ih

/-- A steady service stays steady. -/
theorem Service.Steady.of_reaches {service : Service σ} {start state : σ}
    (hsteady : service.Steady start) (h : service.Reaches start state) : service.Steady state :=
  fun _ hlater => hsteady _ (h.trans hlater)

/-- Every call that takes its answer from the script gets a reply. -/
def Script.Replies (s : Script) : Prop :=
  (∀ x ∈ s.queue, x.reply.isSome) ∧ ∀ x ∈ s.fallback, x.reply.isSome

theorem Script.Replies.next {s : Script} (h : s.Replies) :
    s.next.1.reply.isSome ∧ s.next.2.Replies := by
  obtain ⟨queue, fallback⟩ := s
  obtain ⟨hqueue, hfallback⟩ := h
  cases queue with
  | nil =>
      refine ⟨?_, by simp [Script.next], hfallback⟩
      cases fallback with
      | none => rfl
      | some x => exact hfallback x rfl
  | cons x queue =>
      exact ⟨hqueue x List.mem_cons_self, fun y hy => hqueue y (List.mem_cons_of_mem x hy),
        hfallback⟩

/-- Canned answers make a steady service. -/
theorem scripted_steady {s : Scripts} (hsubmits : s.submits.Replies)
    (hstatuses : s.statuses.Replies) : scripted.Steady s := by
  have hkept : ∀ state, scripted.Reaches s state →
      state.submits.Replies ∧ state.statuses.Replies := by
    intro state h
    induction h with
    | start => exact ⟨hsubmits, hstatuses⟩
    | submit request _ ih => exact ⟨ih.1.next.2, ih.2⟩
    | fetch url _ ih => exact ⟨ih.1, ih.2.next.2⟩
  intro state h
  exact ⟨fun _ => (hkept state h).1.next.1, fun _ => (hkept state h).2.next.1⟩

/-- On a steady service nobody is lost on the way. -/
theorem perform_eq_some (service : Service σ) (flow : Flow α) (w : World σ)
    (hsteady : service.Steady w.state) :
    ∃ result w', flow.perform service w = (some result, w') := by
  induction flow generalizing w with
  | done result => exact ⟨result, w, rfl⟩
  | note entry rest ih => exact ih _ hsteady
  | wait duration rest ih => exact ih _ hsteady
  | submit request rest ih =>
      have hreply := (hsteady _ .start).1 request
      obtain ⟨reply, hreply⟩ := Option.isSome_iff_exists.mp hreply
      simp only [Flow.perform, hreply]
      exact ih _ _ (hsteady.of_reaches (.submit request .start))
  | fetch url rest ih =>
      have hreply := (hsteady _ .start).2 url
      obtain ⟨reply, hreply⟩ := Option.isSome_iff_exists.mp hreply
      simp only [Flow.perform, hreply]
      exact ih _ _ (hsteady.of_reaches (.fetch url .start))

/-- Whoever gets a result has followed a path to it. -/
theorem path_of_perform (service : Service σ) (flow : Flow α) (w : World σ) {result : α}
    {w' : World σ} (h : flow.perform service w = (some result, w')) :
    ∃ moves, flow.Path moves result ∧ w'.entries = (entriesOf moves).reverse ++ w.entries := by
  induction flow generalizing w with
  | done value =>
      simp only [Flow.perform, Prod.mk.injEq, Option.some.injEq] at h
      obtain ⟨rfl, rfl⟩ := h
      exact ⟨[], .done value, by simp⟩
  | note entry rest ih =>
      obtain ⟨moves, hpath, hentries⟩ := ih _ h
      exact ⟨.note entry :: moves, .note entry hpath, by simp [hentries]⟩
  | wait duration rest ih =>
      obtain ⟨moves, hpath, hentries⟩ := ih _ h
      exact ⟨.wait duration :: moves, .wait duration hpath, by simp [hentries]⟩
  | submit request rest ih =>
      simp only [Flow.perform] at h
      split at h
      · obtain ⟨moves, hpath, hentries⟩ := ih _ _ h
        exact ⟨_, .submit request _ hpath, by simp [hentries]⟩
      · simp at h
  | fetch url rest ih =>
      simp only [Flow.perform] at h
      split at h
      · obtain ⟨moves, hpath, hentries⟩ := ih _ _ h
        exact ⟨_, .fetch url _ hpath, by simp [hentries]⟩
      · simp at h

end LoadProbe.Run
