import Provision.Poll

/-! A poll follows a course of looks, and the first look that ends it decides what it reports. -/

namespace Provision

variable {σ α : Type}

/-- One look of a poll: the instant at which it began, and how it ended. -/
structure Tick (σ α : Type) where
  begun : Nat
  outcome : Outcome σ (Observation α)

/-- The instant at which a look ended. -/
def Tick.ended (tick : Tick σ α) : Nat := tick.begun + tick.outcome.elapsed

namespace PollSpec

/-- A specification under which a poll is carried out. -/
structure Sound (spec : PollSpec) : Prop where
  disjoint : ∀ state ∈ spec.target, state ∉ spec.pending
  attainable : spec.target ≠ [] ∨ spec.notFoundIsTarget = true
  positive : 0 < spec.interval

/-- Only an empty list of states has no smallest one. -/
theorem smallest?_eq_none_iff {states : List String} : smallest? states = none ↔ states = [] := by
  -- A first state is either the smallest itself or larger than one that was found behind it.
  cases states with
  | nil => simp [smallest?]
  | cons state rest =>
    simp only [smallest?, reduceCtorEq, iff_false]
    -- The head is found, or the smaller one behind it.
    split
    · simp
    · split <;> simp

/-- The specifications without fault are those under which a poll is carried out. -/
theorem fault?_eq_none_iff {spec : PollSpec} : spec.fault? = none ↔ spec.Sound := by
  -- The three faults are looked for one after the other, and each denies one of the conditions.
  have overlap : smallest? (spec.target.filter spec.pending.contains) = none ↔
      ∀ state ∈ spec.target, state ∉ spec.pending := by
    rw [smallest?_eq_none_iff]
    simp [List.filter_eq_nil_iff]
  have unattainable : (spec.target.isEmpty = true ∧ ¬spec.notFoundIsTarget = true) ↔
      ¬(spec.target ≠ [] ∨ spec.notFoundIsTarget = true) := by
    rw [List.isEmpty_iff, not_or, Classical.not_not]
  unfold fault?
  split
  · -- A state that is both pending and a target is the first fault.
    rename_i shared
    have refused : ¬∀ state ∈ spec.target, state ∉ spec.pending := by
      rw [← overlap, shared]
      simp
    exact iff_of_false (by simp) fun sound => refused sound.disjoint
  · rename_i apart
    split
    · -- Nothing to wait for is the second one.
      rename_i missing
      exact iff_of_false (by simp) fun sound => unattainable.mp missing sound.attainable
    · rename_i present
      split
      · -- And an interval without length is the last.
        rename_i standing
        exact iff_of_false (by simp) fun sound => by have := sound.positive; omega
      · rename_i moving
        exact iff_of_true rfl ⟨overlap.mp apart, Classical.not_not.mp (mt unattainable.mpr present),
          Nat.pos_of_ne_zero moving⟩

/-- What an observation decides after some earlier answers, of which the latest comes first. -/
inductive Decides (spec : PollSpec) (earlier : List (Except Failure (Observation α))) :
    Observation α → Verdict α → Prop where
  | gone : spec.notFoundIsTarget = true → Decides spec earlier .notFound (.succeeded none)
  /-- The tolerated number of misses came directly before this one. -/
  | missing : spec.notFoundIsTarget = false →
      List.replicate spec.notFoundChecks (.ok .notFound) <+: earlier →
      Decides spec earlier .notFound (.failed "not found")
  | reached {status : String} {content : α} : status ∈ spec.target →
      Decides spec earlier (.found (some status) content) (.succeeded (some content))
  | failed {status : String} {content : α} : status ∈ spec.failure → status ∉ spec.target →
      Decides spec earlier (.found (some status) content) (.failed status)

/-- Whether an answer ends a poll at any time, as failures and decided observations do. -/
def Decisive (spec : PollSpec) (earlier : List (Except Failure (Observation α))) :
    Except Failure (Observation α) → Prop
  | .error _ => True
  | .ok observation => ∃ verdict, spec.Decides earlier observation verdict

/-- Whether a look ends a poll: its answer does, or it ends at the deadline or later. -/
def Ends (spec : PollSpec) (deadline : Nat) (earlier : List (Except Failure (Observation α)))
    (tick : Tick σ α) : Prop :=
  spec.Decisive earlier tick.outcome.answer ∨ deadline ≤ tick.ended

/-- What a poll answers that ends with an answer after some earlier ones, of which there
was one for each look. Looks are counted in 32 bits. -/
inductive Concludes (spec : PollSpec) (earlier : List (Except Failure (Observation α)))
    (elapsed : Nat) : Except Failure (Observation α) → Except Failure (Report α) → Prop where
  | failure (failure : Failure) : Concludes spec earlier elapsed (.error failure) (.error failure)
  | decision {observation : Observation α} {verdict : Verdict α} :
      spec.Decides earlier observation verdict →
      Concludes spec earlier elapsed (.ok observation)
        (.ok ⟨verdict, .ofNat (earlier.length + 1), elapsed, observation.status?⟩)
  | late {observation : Observation α} : ¬spec.Decisive earlier (.ok observation) →
      Concludes spec earlier elapsed (.ok observation)
        (.ok ⟨.timedOut, .ofNat (earlier.length + 1), elapsed, observation.status?⟩)

/-- The looks that a poll makes one after the other for as long as none ends it: each
begins an interval after the one before, but not after the deadline. -/
def course (spec : PollSpec) (look : Run σ (Observation α)) (deadline : Nat) (env : σ)
    (first : Nat) : Nat → Tick σ α
  | 0 => ⟨first, look env first⟩
  | n + 1 =>
    let before := spec.course look deadline env first n
    let wake := min (before.ended + spec.interval) deadline
    ⟨wake, look before.outcome.env wake⟩

end PollSpec

/-- What was answered before a look of a course, the latest first. -/
def answersBefore (ticks : Nat → Tick σ α) (n : Nat) : List (Except Failure (Observation α)) :=
  ((List.range n).map fun i => (ticks i).outcome.answer).reverse

/-- There is one answer for each earlier look. -/
@[simp] theorem length_answersBefore (ticks : Nat → Tick σ α) (n : Nat) :
    (answersBefore ticks n).length = n := by
  simp [answersBefore]

/-- All that happens in a course up to a look: the looks, and the pauses between them. -/
def trail (ticks : Nat → Tick σ α) (n : Nat) : List Event :=
  (List.range n).flatMap (fun i =>
    (ticks i).outcome.events ++ [.sleep (ticks i).ended (ticks (i + 1)).begun])
    ++ (ticks n).outcome.events

namespace PollSpec

/-- How many misses in a row came last. -/
def streak : List (Except Failure (Observation α)) → Nat
  | .ok .notFound :: earlier => streak earlier + 1
  | _ => 0

/-- Some misses in a row came last when the last misses are at least as many. -/
theorem replicate_prefix_iff {earlier : List (Except Failure (Observation α))} {count : Nat} :
    List.replicate count (.ok .notFound) <+: earlier ↔ count ≤ streak earlier := by
  -- The misses are taken off one by one, and any other answer ends the streak.
  induction count generalizing earlier with
  | zero => simp
  | succ count ih =>
    rw [List.replicate_succ]
    match earlier with
    | [] => simp [streak]
    | .error _ :: _ => simp [streak, List.cons_prefix_cons]
    | .ok (.found _ _) :: _ => simp [streak, List.cons_prefix_cons]
    | .ok .notFound :: earlier => simp [streak, List.cons_prefix_cons, ih]

/-- The decision of a poll that counts misses is the one by its earlier answers. -/
theorem decide_done_iff {spec : PollSpec} {earlier : List (Except Failure (Observation α))}
    {observation : Observation α} {verdict : Verdict α} :
    spec.decide (streak earlier) observation = .done verdict ↔
      spec.Decides earlier observation verdict := by
  -- Of what is found only the status matters, and of misses how many came in a row.
  constructor
  · intro decided
    cases observation with
    -- Absence decides as a target, or when the tolerated misses are used up.
    | notFound =>
      simp only [decide] at decided
      split at decided
      · rename_i target
        cases decided
        exact .gone target
      · rename_i noTarget
        split at decided
        · cases decided
        · rename_i exhausted
          cases decided
          exact .missing (by simpa using noTarget) (replicate_prefix_iff.mpr (by omega))
    | found status content =>
      cases status with
      | none => cases decided
      | some status =>
        simp only [decide] at decided
        split at decided
        · rename_i target
          cases decided
          exact .reached target
        · rename_i noTarget
          split at decided
          · rename_i failure
            cases decided
            exact .failed failure noTarget
          · cases decided
  · intro decided
    -- Each decision is read off the answers that it needs.
    cases decided with
    | gone target => simp [decide, target]
    | missing noTarget misses =>
      have exhausted := Nat.not_lt.mpr (replicate_prefix_iff.mp misses)
      simp [decide, noTarget, exhausted]
    | reached target => simp [decide, target]
    | failed failure noTarget => simp [decide, failure, noTarget]

/-- A poll that looks again has counted the misses up to the last answer. -/
theorem decide_again {spec : PollSpec} {earlier : List (Except Failure (Observation α))}
    {observation : Observation α} {misses : Nat}
    (again : spec.decide (streak earlier) observation = .again misses) :
    misses = streak (.ok observation :: earlier) := by
  -- A miss is one more, and whatever is found starts the count anew.
  cases observation with
  | notFound =>
    simp only [decide] at again
    split at again
    · cases again
    · split at again
      · cases again
        rfl
      · cases again
  | found status content =>
    cases status with
    | none =>
      cases again
      rfl
    | some status =>
      simp only [decide] at again
      split at again
      · cases again
      · split at again
        · cases again
        · cases again
          rfl

/-- Every look of a course is one in some environment, at the instant at which it began. -/
theorem course_outcome (spec : PollSpec) (look : Run σ (Observation α)) (deadline : Nat)
    (env : σ) (first n : Nat) :
    ∃ before, (spec.course look deadline env first n).outcome =
      look before (spec.course look deadline env first n).begun := by
  -- The first look is made in the given environment, and any other where the last one left it.
  cases n with
  | zero => exact ⟨env, rfl⟩
  | succ n => exact ⟨_, rfl⟩

/-- A course goes on from its second look like one that begins there. -/
theorem course_succ (spec : PollSpec) (look : Run σ (Observation α)) (deadline : Nat) (env : σ)
    (first n : Nat) :
    let tick : Tick σ α := ⟨first, look env first⟩
    spec.course look deadline env first (n + 1) =
      spec.course look deadline tick.outcome.env
        (min (tick.ended + spec.interval) deadline) n := by
  -- The induction is on the number of the look, and both courses make the same step.
  induction n with
  | zero => rfl
  | succ n ih =>
    rw [course, ih]
    rfl

end PollSpec

/-- The answers of a course begin with that of its first look. -/
theorem answersBefore_succ (ticks : Nat → Tick σ α) (n : Nat) :
    answersBefore ticks (n + 1) =
      answersBefore (fun i => ticks (i + 1)) n ++ [(ticks 0).outcome.answer] := by
  -- The first number of a range is split off.
  simp [answersBefore, List.range_succ_eq_map, Function.comp_def]

/-- The events of a course begin with those of its first look and the pause after it. -/
theorem trail_succ (ticks : Nat → Tick σ α) (n : Nat) :
    trail ticks (n + 1) =
      (ticks 0).outcome.events ++ [.sleep (ticks 0).ended (ticks 1).begun]
        ++ trail (fun i => ticks (i + 1)) n := by
  -- The first number of a range is split off here as well.
  simp [trail, List.range_succ_eq_map, List.flatMap_map]

namespace PollSpec

/-- What a poll leaves that ends at a look of its course, which no earlier look does. -/
structure EndsAt (spec : PollSpec) (start deadline : Nat)
    (earlier : List (Except Failure (Observation α))) (ticks : Nat → Tick σ α) (n : Nat)
    (o : Outcome σ (Report α)) : Prop where
  last : spec.Ends deadline (answersBefore ticks n ++ earlier) (ticks n)
  undecided : ∀ m < n, ¬spec.Ends deadline (answersBefore ticks m ++ earlier) (ticks m)
  env : o.env = (ticks n).outcome.env
  elapsed : (ticks 0).begun + o.elapsed = (ticks n).ended
  events : o.events = trail ticks n
  answer : spec.Concludes (answersBefore ticks n ++ earlier) ((ticks n).ended - start)
    (ticks n).outcome.answer o.answer

/-- A first look that ends a poll is its last one. -/
theorem EndsAt.here {spec : PollSpec} {look : Run σ (Observation α)} {start deadline now : Nat}
    {env : σ} {earlier : List (Except Failure (Observation α))}
    {answer : Except Failure (Report α)} (last : spec.Ends deadline earlier ⟨now, look env now⟩)
    (concludes : spec.Concludes earlier (now + (look env now).elapsed - start)
      (look env now).answer answer) :
    spec.EndsAt start deadline earlier (spec.course look deadline env now) 0
      ⟨answer, (look env now).env, (look env now).elapsed, (look env now).events⟩ where
  last := by simpa [answersBefore, course] using last
  undecided := fun m below => absurd below (Nat.not_lt_zero m)
  env := rfl
  elapsed := rfl
  events := by simp [trail, course]
  answer := by simpa [answersBefore, course, Tick.ended] using concludes

/-- A poll whose first look does not end it goes on like one that begins at the second. -/
theorem EndsAt.later {spec : PollSpec} {start deadline n : Nat}
    {earlier : List (Except Failure (Observation α))} {ticks : Nat → Tick σ α}
    {o : Outcome σ (Report α)} (open_ : ¬spec.Ends deadline earlier (ticks 0))
    (rest : spec.EndsAt start deadline ((ticks 0).outcome.answer :: earlier)
      (fun i => ticks (i + 1)) n o) (forward : (ticks 0).begun ≤ (ticks 1).begun) :
    spec.EndsAt start deadline earlier ticks (n + 1)
      (o.delayed ((ticks 1).begun - (ticks 0).begun)
        ((ticks 0).outcome.events ++ [.sleep (ticks 0).ended (ticks 1).begun])) := by
  -- The answers before a later look are those of the shorter course behind the first answer.
  have answers : ∀ m, answersBefore ticks (m + 1) ++ earlier =
      answersBefore (fun i => ticks (i + 1)) m ++ ((ticks 0).outcome.answer :: earlier) := by
    intro m
    simp [answersBefore_succ]
  refine ⟨?_, ?_, rest.env, ?_, ?_, ?_⟩
  · rw [answers]
    exact rest.last
  · intro m below
    cases m with
    | zero => simpa [answersBefore] using open_
    | succ m =>
      rw [answers]
      exact rest.undecided m (by omega)
  · -- The first look and the pause behind it take up to the second look.
    have elapsed : (ticks 1).begun + o.elapsed = (ticks (n + 1)).ended := rest.elapsed
    simp only [Outcome.delayed]
    omega
  · simp only [Outcome.delayed, rest.events, trail_succ]
  · rw [answers]
    exact rest.answer

/-- A poll under way ends at the first look of its course that ends it. -/
theorem watch_endsAt {spec : PollSpec} (positive : 0 < spec.interval)
    (look : Run σ (Observation α)) {start deadline : Nat}
    (near : deadline ≤ start + Duration.horizon)
    (earlier : List (Except Failure (Observation α))) (env : σ) (now : Nat) (begun : start ≤ now) :
    ∃ n, spec.EndsAt start deadline earlier (spec.course look deadline env now) n
      (spec.watch positive look start deadline (.ofNat earlier.length) (streak earlier) env
        now) := by
  -- The induction is on the time left, which every pause shortens.
  induction left : deadline - now using Nat.strongRecOn
    generalizing earlier env now with
  | ind _ ih =>
    -- One more look is one more in 32 bits too, wherever these start anew.
    have counted : UInt32.ofNat earlier.length + 1 = .ofNat (earlier.length + 1) :=
      (UInt32.ofNat_add _ _).symm
    rw [watch, counted]
    cases answered : (look env now).answer with
    | error failure =>
      -- A failure of the look ends the poll with this look.
      refine ⟨0, .here (.inl ?_) ?_⟩
      · simp only [answered, Decisive]
      · rw [answered]
        exact .failure failure
    | ok observation =>
      dsimp only
      cases decided : spec.decide (streak earlier) observation with
      | done verdict =>
        -- So does a decision.
        have decides := decide_done_iff.mp decided
        refine ⟨0, .here (.inl ?_) ?_⟩
        · simp only [answered, Decisive]
          exact ⟨verdict, decides⟩
        · rw [answered]
          exact .decision decides
      | again misses =>
        -- A poll that would look again has decided nothing yet.
        have undecided : ¬spec.Decisive earlier (.ok observation) := by
          rintro ⟨verdict, decides⟩
          rw [decide_done_iff.mpr decides] at decided
          cases decided
        dsimp only
        split
        · -- At the deadline or later there is no further look.
          rename_i late
          refine ⟨0, .here (.inr late) ?_⟩
          rw [answered]
          exact .late undecided
        · rename_i early
          -- The deadline lies within the horizon, so nothing else cuts the pause short.
          have pause : min (Instant.after (now + (look env now).elapsed) spec.interval) deadline =
              min (now + (look env now).elapsed + spec.interval) deadline := by
            simp only [Instant.after]
            omega
          rw [pause, decide_again decided]
          -- The next look is later than this one, so the hypothesis holds of it.
          let wake := min (now + (look env now).elapsed + spec.interval) deadline
          have forward : now < wake := by omega
          obtain ⟨n, rest⟩ := ih (deadline - wake) (by omega) (.ok observation :: earlier)
            (look env now).env wake (by omega) rfl
          refine ⟨n + 1, .later ?_ ?_ (Nat.le_of_lt forward)⟩
          · rintro (decisive | late)
            · exact undecided (by simpa [course, answered] using decisive)
            · exact early late
          · have shifted : (fun i => spec.course look deadline env now (i + 1)) =
                spec.course look deadline (look env now).env wake := by
              funext i
              exact course_succ spec look deadline env now i
            rw [shifted]
            simpa [course, answered] using rest

end PollSpec

end Provision
