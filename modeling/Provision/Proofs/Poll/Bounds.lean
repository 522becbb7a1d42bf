import Mathlib.Algebra.Order.Floor.Div
import Provision.Proofs.Poll.Run
import Provision.Proofs.Run

/-! The deadline of a poll bounds how often it looks, how far it sleeps and when it gives up, and a
poll does and preserves what its looks do. -/

namespace Provision.PollSpec

variable {σ τ α : Type}

/-- Every look of a course begins at least its intervals after the first, or at the deadline. -/
theorem le_course_begun (spec : PollSpec) (look : Run σ (Observation α)) (deadline : Nat)
    (env : σ) (first n : Nat) :
    min (first + n * spec.interval) deadline ≤ (spec.course look deadline env first n).begun := by
  -- A look takes time or none, and the pause after it is an interval unless the deadline cuts it.
  induction n with
  | zero => simp [course]
  | succ n ih =>
    simp only [course, Tick.ended]
    rw [Nat.succ_mul]
    omega

/-- No look of a course begins after the deadline, except for a first one that does. -/
theorem course_begun_le (spec : PollSpec) (look : Run σ (Observation α)) (deadline : Nat)
    (env : σ) (first n : Nat) :
    (spec.course look deadline env first n).begun ≤ max first deadline := by
  -- Every look but the first follows a pause, which the deadline cuts short.
  cases n with
  | zero => simp [course]
  | succ n =>
    simp only [course]
    omega

/-- The opening pause ends at the deadline at the latest, unless the deadline has passed. -/
theorem firstLook_le (spec : PollSpec) (deadline start : Nat) :
    spec.firstLook deadline start ≤ max start deadline := by
  -- The opening pause, if there is one, is cut short by the deadline.
  unfold firstLook
  split <;> omega

/-- A poll that has looked so often without an end has not filled the time it was given. -/
theorem EndsAt.looks_le {spec : PollSpec} (positive : 0 < spec.interval)
    {look : Run σ (Observation α)} {start deadline n : Nat} {env : σ} {o : Outcome σ (Report α)}
    (ends : spec.EndsAt start deadline []
      (spec.course look deadline env (spec.firstLook deadline start)) n o) :
    n ≤ (deadline - start) ⌈/⌉ spec.interval := by
  -- Only the looks before the last one have to fit.
  cases n with
  | zero => exact Nat.zero_le _
  | succ n =>
    -- The last look but one was over in time, and had begun after all the intervals before it.
    have early : ¬deadline ≤ Tick.ended _ := fun late => ends.undecided n (by omega) (.inr late)
    have begun := spec.le_course_begun look deadline env (spec.firstLook deadline start) n
    have opened := spec.start_le_firstLook deadline start
    by_contra more
    have filled : (deadline - start) ⌈/⌉ spec.interval ≤ n := by omega
    rw [ceilDiv_le_iff_le_mul positive, Nat.mul_comm] at filled
    simp only [Tick.ended] at early
    omega

/-- What happens in a course is part of a look, or a pause that ends by the deadline. -/
theorem mem_trail_course {spec : PollSpec} {look : Run σ (Observation α)} {deadline : Nat}
    {env : σ} {first n : Nat} {event : Event}
    (member : event ∈ trail (spec.course look deadline env first) n) :
    (∃ env now, event ∈ (look env now).events) ∨
      ∃ asleep wake, event = .sleep asleep wake ∧ wake ≤ deadline := by
  -- Each pause of a course leads to the next look, which begins at the deadline or earlier.
  have looked : ∀ i, event ∈ (spec.course look deadline env first i).outcome.events →
      ∃ env now, event ∈ (look env now).events := by
    intro i here
    obtain ⟨before, outcome⟩ := course_outcome spec look deadline env first i
    exact ⟨before, _, outcome ▸ here⟩
  simp only [trail, List.mem_append, List.mem_flatMap, List.mem_range,
    List.mem_singleton] at member
  rcases member with ⟨i, -, here | paused⟩ | here
  · exact .inl (looked i here)
  · exact .inr ⟨_, _, paused, Nat.min_le_right _ _⟩
  · exact .inl (looked n here)

/-- A poll that reports to have run out of time had its last look end at the deadline or later. -/
theorem EndsAt.late {spec : PollSpec} {start deadline n : Nat}
    {earlier : List (Except Failure (Observation α))} {ticks : Nat → Tick σ α}
    {o : Outcome σ (Report α)} (ends : spec.EndsAt start deadline earlier ticks n o)
    {report : Report α} (answered : o.answer = .ok report) (late : report.verdict = .timedOut) :
    deadline ≤ (ticks n).ended ∧ report.elapsed = (ticks n).ended - start := by
  -- No decision is to run out of time, so the last look decided nothing and came too late.
  have concludes := ends.answer
  rw [answered] at concludes
  obtain ⟨-, elapsed, observation, -, decides | ⟨-, undecided⟩⟩ := concludes.of_ok
  · rw [late] at decides
    cases decides
  · exact ⟨ends.last.resolve_left undecided, elapsed⟩

/-- Running out of time takes all of the time, and no more when the looks take none. -/
theorem EndsAt.elapsed_of_late {spec : PollSpec} {look : Run σ (Observation α)}
    {start deadline n : Nat} {env : σ} {o : Outcome σ (Report α)}
    (ends : spec.EndsAt start deadline []
      (spec.course look deadline env (spec.firstLook deadline start)) n o)
    {report : Report α} (answered : o.answer = .ok report) (late : report.verdict = .timedOut) :
    deadline - start ≤ report.elapsed ∧
      ((∀ env now, (look env now).elapsed = 0) → report.elapsed = deadline - start) := by
  obtain ⟨past, elapsed⟩ := ends.late answered late
  refine ⟨by omega, fun instant => ?_⟩
  -- A look without duration ends when it begins, which is never after the deadline.
  obtain ⟨before, outcome⟩ :=
    course_outcome spec look deadline env (spec.firstLook deadline start) n
  have begun := course_begun_le spec look deadline env (spec.firstLook deadline start) n
  have opened := spec.firstLook_le deadline start
  simp only [Tick.ended, outcome, instant] at past elapsed
  omega

/-- What happens in a poll is part of a look, or a pause that ends by the deadline
unless that has passed already. -/
theorem mem_run_events {spec : PollSpec} (sound : spec.Sound) {look : Run σ (Observation α)}
    {caller : Option Nat} {env : σ} {start : Nat} {event : Event}
    (member : event ∈ (spec.run look caller env start).events) :
    (∃ env now, event ∈ (look env now).events) ∨
      ∃ asleep wake, event = .sleep asleep wake ∧
        wake ≤ max start (spec.deadline caller start) := by
  -- The events of a poll are its opening and then the trail of its looks.
  obtain ⟨n, ends⟩ := run_endsAt sound look caller env start
  rw [run_of_sound sound] at member
  simp only [Outcome.delayed, ends.events, List.mem_append] at member
  rcases member with paused | walked
  · unfold opening at paused
    split at paused
    · simp at paused
    · exact .inr ⟨_, _, List.mem_singleton.mp paused, spec.firstLook_le _ start⟩
  · rcases mem_trail_course walked with looked | ⟨asleep, wake, paused, inTime⟩
    · exact .inl looked
    · exact .inr ⟨asleep, wake, paused, by omega⟩

/-- A poll does what its looks do, and pauses. -/
theorem run_does (spec : PollSpec) {look : Run σ (Observation α)} {sort : Event → Prop}
    (looks : look.Does sort) (pauses : ∀ asleep wake, sort (.sleep asleep wake))
    (caller : Option Nat) : (spec.run look caller).Does sort := by
  -- What happens in a poll that is carried out is a pause or happens in a look.
  intro env start event member
  by_cases sound : spec.Sound
  · rcases mem_run_events sound member with ⟨before, last, looked⟩ | ⟨asleep, wake, rfl, -⟩
    · exact looks before last event looked
    · exact pauses asleep wake
  · -- A poll that is refused does nothing.
    obtain ⟨fault, -, refused⟩ := run_of_not_sound sound look caller env start
    rw [refused] at member
    cases member

/-- The looks of a course preserve what each look does. -/
theorem course_preserves {look : Run σ (Observation α)} {view : σ → τ}
    (looks : look.Preserves view) (spec : PollSpec) (deadline : Nat) (env : σ) (first n : Nat) :
    view (spec.course look deadline env first n).outcome.env = view env := by
  -- Each look hands on the environment that the next one starts from.
  induction n with
  | zero => exact looks env first
  | succ n ih => exact (looks _ _).trans ih

/-- A poll preserves what its looks do. -/
theorem run_preserves {look : Run σ (Observation α)} {view : σ → τ} (looks : look.Preserves view)
    (spec : PollSpec) (caller : Option Nat) : (spec.run look caller).Preserves view := by
  -- A poll leaves the environment of its last look, or the one it is refused in.
  intro env start
  by_cases sound : spec.Sound
  · obtain ⟨n, ends⟩ := run_endsAt sound look caller env start
    rw [run_of_sound sound]
    exact (congrArg view ends.env).trans (course_preserves looks spec _ env _ n)
  · obtain ⟨fault, -, refused⟩ := run_of_not_sound sound look caller env start
    rw [refused]

/--
A poll looks at least once, and at most once more than its interval fits into the time it has.

Its pauses end by the deadline, unless that has passed already. It never runs out of time early,
and does so exactly on time when its looks take none.
-/
theorem run_bounded {spec : PollSpec} (sound : spec.Sound) (look : Run σ (Observation α))
    (caller : Option Nat) (env : σ) (start : Nat) :
    let o := spec.run look caller env start
    let deadline := spec.deadline caller start
    let looks := (spec.run look.counted caller (0, env) start).env.1
    1 ≤ looks ∧ looks ≤ (deadline - start) ⌈/⌉ spec.interval + 1 ∧
    (∀ event ∈ o.events, (∃ env now, event ∈ (look env now).events) ∨
      ∃ asleep wake, event = .sleep asleep wake ∧ wake ≤ max start deadline) ∧
    (∀ report, o.answer = .ok report → report.verdict = .timedOut →
      deadline - start ≤ report.elapsed ∧
      ((∀ env now, (look env now).elapsed = 0) → report.elapsed = deadline - start)) := by
  -- The number of looks and of the last look in the course tell each other.
  intro o deadline looks
  obtain ⟨n, ends⟩ := run_endsAt sound look caller env start
  have counted : looks = n + 1 := run_counted sound look caller env start ends
  have few : n ≤ (deadline - start) ⌈/⌉ spec.interval := ends.looks_le sound.positive
  refine ⟨by omega, by omega, fun event member => mem_run_events sound member, ?_⟩
  intro report answered late
  rw [show o = _ from run_of_sound sound look caller env start] at answered
  exact ends.elapsed_of_late answered late

/-- A poll whose caller leaves it less time than its own timeout looks no more often than fits
into what is left. -/
theorem run_bounded_by_caller :
    let spec : PollSpec :=
      { target := ["ready"], interval := 10, initialDelay := 5, timeout := 25 }
    let look : Run Unit (Observation Unit) := fun env _ =>
      ⟨.ok (.found (some "making") ()), env, 3, []⟩
    let looks := (spec.run look.counted (some 20) (0, ()) 4).env.1
    spec.Sound ∧ 1 ≤ looks ∧ looks ≤ 16 ⌈/⌉ 10 + 1 := by
  -- The caller leaves 16 of the 25 that the poll would take.
  intro spec look looks
  have sound : spec.Sound := ⟨by simp [spec], by simp [spec], by simp [spec]⟩
  have bounded := run_bounded sound look (some 20) () 4
  exact ⟨sound, bounded.1, bounded.2.1⟩

/-- At intervals of 221 milliseconds or more, no poll is given the time for more looks than 32 bits
can count, so its report counts them all. -/
theorem run_counts_all {spec : PollSpec} (sound : spec.Sound)
    (slow : Duration.ofMillis 221 ≤ spec.interval) (look : Run σ (Observation α))
    (caller : Option Nat) (env : σ) (start : Nat) {report : Report α}
    (answered : (spec.run look caller env start).answer = .ok report) :
    report.ticks.toNat = (spec.run look.counted caller (0, env) start).env.1 := by
  -- The count is the number of looks, if 32 bits are enough for it.
  obtain ⟨n, ends⟩ := run_endsAt sound look caller env start
  rw [run_of_sound sound, Outcome.delayed_answer] at answered
  rw [ends.ticks_eq answered, run_counted sound look caller env start ends]
  refine UInt32.toNat_ofNat_of_lt ?_
  -- The horizon is filled by fewer such intervals than that.
  have few : n ≤ (spec.deadline caller start - start) ⌈/⌉ spec.interval :=
    ends.looks_le sound.positive
  have short : (spec.deadline caller start - start) ⌈/⌉ spec.interval ≤ 4294967294 := by
    rw [ceilDiv_le_iff_le_mul sound.positive]
    have near := spec.deadline_le caller start
    have filled : Duration.horizon ≤ Duration.ofMillis 221 * 4294967294 := by decide
    have wide := Nat.mul_le_mul_right 4294967294 slow
    omega
  have size : UInt32.size = 4294967296 := rfl
  omega

end Provision.PollSpec
