import Provision.Run

/-! Polling observes an object again and again until it is
decided, or until a deadline has passed. -/

namespace Provision

/-- What one look at an object found; an object may be there without a status. -/
inductive Observation (α : Type) where
  | found (status : Option String) (content : α)
  | notFound

/-- Which states end a poll, and how long it goes on. -/
structure PollSpec where
  pending : List String := []
  target : List String := []
  failure : List String := []
  interval : Nat := Duration.ofSeconds 10
  initialDelay : Nat := 0
  timeout : Nat := Duration.ofMinutes 10
  /-- Absence is what the poll waits for. -/
  notFoundIsTarget : Bool := false
  /-- How many observations of absence in a row are tolerated otherwise. -/
  notFoundChecks : Nat := 0
deriving DecidableEq

namespace PollSpec

/-- Why a poll cannot be run. -/
inductive Fault where
  | ambiguous (state : String)
  | noTarget
  | noInterval
deriving DecidableEq

/-- The text of a fault. -/
def Fault.message : Fault → String
  | ambiguous state => s!"state '{state}' is both pending and target"
  | noTarget => "no target state and not-found is not a target"
  | noInterval => "poll interval must be positive"

/-- The smallest of some states. -/
def smallest? : List String → Option String
  | [] => none
  | s :: rest =>
    match smallest? rest with
    | none => some s
    | some t => if t < s then some t else some s

/-- The first fault of a specification. -/
def fault? (spec : PollSpec) : Option Fault :=
  match smallest? (spec.target.filter spec.pending.contains) with
  | some state => some (.ambiguous state)
  | none =>
    if spec.target.isEmpty ∧ ¬spec.notFoundIsTarget then some .noTarget
    else if spec.interval = 0 then some .noInterval
    else none

/-- A specification without fault has a positive interval. -/
theorem interval_pos {spec : PollSpec} (sound : spec.fault? = none) : 0 < spec.interval := by
  -- An interval of nothing is the last of the faults that are looked for.
  unfold fault? at sound
  split at sound
  · cases sound
  · split at sound
    · cases sound
    · split at sound
      · cases sound
      · rename_i positive
        exact Nat.pos_of_ne_zero positive

end PollSpec

/-- How a poll ended; a success carries what was found, unless absence was the target. -/
inductive Verdict (α : Type) where
  | succeeded (content : Option α)
  | failed (status : String)
  | timedOut

/-- The end of a poll and what it took. -/
structure Report (α : Type) where
  verdict : Verdict α
  /-- How often the object was looked at, in 32 bits. The count starts anew behind the last number
  that these hold. -/
  ticks : UInt32
  elapsed : Nat
  lastStatus : Option String

/-- A poll that did not succeed is a failure to reach the target. -/
def Report.result (report : Report α) (label : String) : Except Failure (Option α) :=
  match report.verdict with
  | .succeeded content => .ok content
  | .failed status => .error (.pollFailure label status report.elapsed)
  | .timedOut => .error (.pollTimeout label report.lastStatus report.elapsed)

/-- The status that an observation shows. -/
def Observation.status? : Observation α → Option String
  | .found status _ => status
  | .notFound => none

/-- What an observation decides: the end, or to look again after so many misses in a row. -/
inductive Decision (α : Type) where
  | done (verdict : Verdict α)
  | again (misses : Nat)

namespace PollSpec

/-- What an observation decides after a number of misses in a row; targets come before failures. -/
def decide (spec : PollSpec) (misses : Nat) : Observation α → Decision α
  | .notFound =>
    if spec.notFoundIsTarget then .done (.succeeded none)
    else if misses < spec.notFoundChecks then .again (misses + 1)
    else .done (.failed "not found")
  | .found none _ => .again 0
  | .found (some status) content =>
    if status ∈ spec.target then .done (.succeeded (some content))
    else if status ∈ spec.failure then .done (.failed status)
    else .again 0

/-- Looks at an object until it is decided or a look ends at the deadline or later. -/
def watch (spec : PollSpec) (positive : 0 < spec.interval) (look : Run σ (Observation α))
    (start deadline : Nat) (ticks : UInt32) (misses : Nat) (env : σ) (now : Nat) :
    Outcome σ (Report α) :=
  let tick := look env now
  let after := now + tick.elapsed
  match tick.answer with
  | .error failure => ⟨.error failure, tick.env, tick.elapsed, tick.events⟩
  | .ok observation =>
    let report verdict : Report α := ⟨verdict, ticks + 1, after - start, observation.status?⟩
    match spec.decide misses observation with
    | .done verdict => ⟨.ok (report verdict), tick.env, tick.elapsed, tick.events⟩
    | .again misses =>
      -- Whether time is up is asked behind each look, so that even a late one may decide.
      if deadline ≤ after then ⟨.ok (report .timedOut), tick.env, tick.elapsed, tick.events⟩
      else
        -- The last pause is cut off, and one more look is taken at the deadline.
        let wake := min (Instant.after after spec.interval) deadline
        (watch spec positive look start deadline (ticks + 1) misses tick.env wake).delayed
          (wake - now) (tick.events ++ [.sleep after wake])
termination_by deadline - now
decreasing_by
  -- A pause ends later than it starts, and never after the deadline.
  have horizon : 0 < Duration.horizon := by decide
  simp only [Instant.after]
  omega

/-- The deadline of a poll that starts at an instant: its own,
or the caller's if that is earlier. -/
def deadline (spec : PollSpec) (caller : Option Nat) (start : Nat) : Nat :=
  match caller with
  | some instant => min instant (Instant.after start spec.timeout)
  | none => Instant.after start spec.timeout

/-- The instant of the first look, which the initial delay never puts behind the deadline. -/
def firstLook (spec : PollSpec) (deadline start : Nat) : Nat :=
  if spec.initialDelay = 0 then start
  -- The deadline may have passed already, and no look comes before the start.
  else max start (min (Instant.after start spec.initialDelay) deadline)

/-- A poll; a specification with a fault is refused before the first look. -/
def run (spec : PollSpec) (look : Run σ (Observation α)) (caller : Option Nat) :
    Run σ (Report α) := fun env start =>
  match sound : spec.fault? with
  | some fault => Run.fail (.invalidPollSpec fault.message) env start
  | none =>
    let deadline := spec.deadline caller start
    let first := spec.firstLook deadline start
    let pause := if spec.initialDelay = 0 then [] else [.sleep start first]
    let watched := spec.watch (interval_pos sound) look start deadline 0 0 env first
    watched.delayed (first - start) pause

end PollSpec

end Provision
