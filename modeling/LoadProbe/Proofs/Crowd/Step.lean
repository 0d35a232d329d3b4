import LoadProbe.Proofs.Flow.Moves
import LoadProbe.Run.Crowd

/-!
# What a step of a user can do

Users meet only in the service and in the order of their steps, so what holds of a run with many
users comes from what one step of one user can do.

* `Run.User.move?` is the move that a user is about to make.
* `Run.Stepped` lists the six kinds of steps with their conditions; `Run.step_stepped` says that
  there are no others.
* `Run.Underway` ties the activity of a user to the paths through its iteration, and
  `Run.Report.Genuine` says that a report tells of such a path.
-/

namespace LoadProbe.Run

open LoadProbe.Job

variable {σ : Type}

/-- The user was lost in a call. -/
def User.isLost (u : User) : Bool :=
  match u.activity with
  | .aborted => true
  | _ => false

/-- The user was admitted to an iteration that it has not reported. -/
def User.isBusy (u : User) : Bool :=
  match u.activity with
  | .working .. | .aborted => true
  | _ => false

/-- Whether the user asks the gate now and is admitted. -/
def User.admittedBy (gate : Gate) (now : Duration) (u : User) : Bool :=
  match u.activity with
  | .deciding => gate.mayStart now u.completed
  | _ => false

theorem hasLeft_iff {u : User} :
    u.hasLeft = true ↔ u.activity = .stopped ∨ u.activity = .aborted := by
  unfold User.hasLeft
  cases u.activity <;> simp

/-- A user who has left and was not lost was refused by the gate. -/
theorem stopped_of_hasLeft {u : User} (hleft : u.hasLeft = true) (hlost : u.isLost = false) :
    u.activity = .stopped := by
  rcases hasLeft_iff.mp hleft with hactivity | hactivity
  · exact hactivity
  · simp [User.isLost, hactivity] at hlost

/-- Of those who have left, only the lost ones owe a report. -/
theorem isBusy_eq_isLost {u : User} (hleft : u.hasLeft = true) : u.isBusy = u.isLost := by
  rcases hasLeft_iff.mp hleft with hactivity | hactivity
  · simp [User.isBusy, User.isLost, hactivity]
  · simp [User.isBusy, User.isLost, hactivity]

/-! ## Kinds of steps -/

/-- The move that the user is about to make if the service is in the given state.  A call that gets
no reply is none. -/
def User.move? (service : Service σ) (state : σ) (u : User) : Option Move :=
  match u.activity with
  | .working flow _ =>
      match flow with
      | .done _ => none
      | .note entry _ => some (.note entry)
      | .wait duration _ => some (.wait duration)
      | .submit request _ =>
          let x := (service.submit request state).1
          x.reply.map fun result => .submit request ⟨result, x.delay⟩
      | .fetch url _ =>
          let x := (service.fetch url state).1
          x.reply.map fun result => .fetch url ⟨result, x.delay⟩
  | _ => none

/-- What a step of a user can come to, and the move that it makes. -/
inductive Stepped (load : Load) (service : Service σ) (now : Duration) (state : σ) (u : User) :
    Option Move → Turn σ → Prop where
  | admitted (hactivity : u.activity = .deciding)
      (hgate : load.gate.mayStart now u.completed = true) :
      Stepped load service now state u none
        ⟨{ u with activity := .working load.plan.iteration [] }, 0, state, none, none⟩
  | refused (hactivity : u.activity = .deciding)
      (hgate : load.gate.mayStart now u.completed = false) :
      Stepped load service now state u none
        ⟨{ u with activity := .stopped }, 0, state, some (.userStopped u.id u.completed), none⟩
  | moved (flow rest : Flow Outcome) (entries : List Entry) (move : Move) (after : σ)
      (event : Option Event) (hactivity : u.activity = .working flow entries)
      (hpath : ∀ later outcome, rest.Path later outcome → flow.Path (move :: later) outcome)
      (hthrough : move.Through service state after) :
      Stepped load service now state u (some move)
        ⟨{ u with activity := .working rest (move.recorded?.toList ++ entries) }, move.time, after,
          event, none⟩
  | lost (flow : Flow Outcome) (entries : List Entry) (sleep : Duration) (after : σ)
      (hactivity : u.activity = .working flow entries) (hservice : ¬service.Steady state) :
      Stepped load service now state u none
        ⟨{ u with activity := .aborted }, sleep, after, none, none⟩
  | reported (outcome : Outcome) (entries : List Entry)
      (hactivity : u.activity = .working (.done outcome) entries) :
      Stepped load service now state u none
        ⟨{ u with completed := u.completed + 1, activity := .deciding },
          if outcome.pausesAfter then load.pause.asleep else 0, state,
          some (.iterationEnded u.id u.completed outcome),
          some ⟨u.id, u.completed, outcome, entries.reverse⟩⟩
  | idle (hleft : u.hasLeft = true) :
      Stepped load service now state u none ⟨u, 0, state, none, none⟩

variable {load : Load} {service : Service σ} {now : Duration} {state : σ} {u : User}
  {move : Option Move} {turn : Turn σ}

/-- A call moves the user on with its answer, or the user is lost in it. -/
theorem await_stepped {flow : Flow Outcome} {entries : List Entry} {rest : Answer → Flow Outcome}
    (call : Answer → Move) (x : Exchange × σ) (hactivity : u.activity = .working flow entries)
    (hentry : ∀ answer, (call answer).recorded? = none)
    (htime : ∀ answer, (call answer).time = answer.latency)
    (hpath : ∀ answer later outcome, (rest answer).Path later outcome →
      flow.Path (call answer :: later) outcome)
    (hthrough : ∀ answer, x.1 = answer.exchange → (call answer).Through service state x.2)
    (hservice : x.1.reply = none → ¬service.Steady state) :
    Stepped load service now state u (x.1.reply.map fun result => call ⟨result, x.1.delay⟩)
      (u.await entries rest x) := by
  obtain ⟨⟨delay, reply⟩, after⟩ := x
  cases reply with
  | none => exact .lost flow entries delay after hactivity (hservice rfl)
  | some result =>
      have hmoved : Stepped load service now state u _ _ :=
        .moved flow (rest ⟨result, delay⟩) entries (call ⟨result, delay⟩) after none
          hactivity (hpath ⟨result, delay⟩) (hthrough ⟨result, delay⟩ rfl)
      rw [hentry, htime] at hmoved
      exact hmoved

/-- Every step is of one of the six kinds. -/
theorem step_stepped (load : Load) (service : Service σ) (now : Duration) (state : σ) (u : User) :
    Stepped load service now state u (u.move? service state) (u.step load service now state) := by
  unfold User.step User.move?
  cases hactivity : u.activity with
  | deciding =>
      simp only
      split
      case isTrue hgate => exact .admitted hactivity hgate
      case isFalse hgate => exact .refused hactivity (by simpa using hgate)
  | stopped => exact .idle (by simp [User.hasLeft, hactivity])
  | aborted => exact .idle (by simp [User.hasLeft, hactivity])
  | working flow entries =>
      cases flow with
      | done outcome => exact .reported outcome entries hactivity
      | note entry rest =>
          exact .moved _ rest entries (.note entry) state entry.event? hactivity
            (fun _ _ hrest => .note entry hrest) rfl
      | wait duration rest =>
          exact .moved _ rest entries (.wait duration) state none hactivity
            (fun _ _ hrest => .wait duration hrest) rfl
      | submit request rest =>
          refine await_stepped (.submit request) _ hactivity (fun _ => rfl) (fun _ => rfl)
            (fun answer _ _ hrest => .submit request answer hrest)
            (fun _ hanswer => Prod.ext hanswer rfl) ?_
          intro hreply hsteady
          simpa [hreply] using (hsteady state .start).1 request
      | fetch url rest =>
          refine await_stepped (.fetch url) _ hactivity (fun _ => rfl) (fun _ => rfl)
            (fun answer _ _ hrest => .fetch url answer hrest)
            (fun _ hanswer => Prod.ext hanswer rfl) ?_
          intro hreply hsteady
          simpa [hreply] using (hsteady state .start).2 url

theorem Stepped.id_eq (h : Stepped load service now state u move turn) : turn.user.id = u.id := by
  cases h <;> rfl

/-! ## Iterations that are under way -/

/-- The iteration of which the report tells went along a path of the plan. -/
def Report.Genuine (plan : Plan) (r : Report) : Prop :=
  ∃ moves, plan.iteration.Path moves r.outcome ∧ r.entries = entriesOf moves

/-- What the user has done of its iteration and any way through the rest of it make up a path of
the plan. -/
def Underway (plan : Plan) (u : User) : Prop :=
  ∀ flow entries, u.activity = .working flow entries →
    ∃ moves, entries = (entriesOf moves).reverse ∧
      ∀ later outcome, flow.Path later outcome → plan.iteration.Path (moves ++ later) outcome

/-- A user keeps to its plan, and what it reports is genuine. -/
theorem Stepped.underway (h : Stepped load service now state u move turn)
    (hunderway : Underway load.plan u) :
    Underway load.plan turn.user ∧ ∀ r ∈ turn.report, r.Genuine load.plan := by
  cases h with
  | admitted =>
      refine ⟨?_, by simp⟩
      rintro flow entries ⟨⟩
      exact ⟨[], rfl, fun _ _ hpath => hpath⟩
  | refused => exact ⟨by rintro flow entries ⟨⟩, by simp⟩
  | moved flow rest entries move after event hactivity hpath =>
      refine ⟨?_, by simp⟩
      rintro _ _ ⟨⟩
      obtain ⟨moves, rfl, hmoves⟩ := hunderway flow entries hactivity
      refine ⟨moves ++ [move], ?_, ?_⟩
      · cases hentry : move.recorded? with
        | none => simp [entriesOf, hentry]
        | some entry => simp [entriesOf, hentry]
      · intro later outcome hlater
        simpa using hmoves (move :: later) outcome (hpath later outcome hlater)
  | lost => exact ⟨by rintro flow entries ⟨⟩, by simp⟩
  | reported outcome entries hactivity =>
      refine ⟨by rintro flow entries ⟨⟩, ?_⟩
      rintro _ ⟨⟩
      obtain ⟨moves, rfl, hmoves⟩ := hunderway (.done outcome) entries hactivity
      have hpath := hmoves [] outcome (.done outcome)
      rw [List.append_nil] at hpath
      exact ⟨moves, hpath, by simp⟩
  | idle => exact ⟨hunderway, by simp⟩

end LoadProbe.Run
