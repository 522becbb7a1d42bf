import Provision.Proofs.Poll.Course

/-! A poll ends at the first look of its course that ends it, and counts the looks that it made. -/

namespace Provision

variable {σ α : Type}

/-- The same run with a count, beside the environment, of how often it was made. -/
def Run.counted (run : Run σ α) : Run (Nat × σ) α := fun env now =>
  let o := run env.2 now
  ⟨o.answer, (env.1 + 1, o.env), o.elapsed, o.events⟩

namespace PollSpec

/-- The pause before the first look, if there is one. -/
def opening (spec : PollSpec) (start first : Nat) : List Event :=
  if spec.initialDelay = 0 then [] else [.sleep start first]

/-- The first look is never before the start. -/
theorem start_le_firstLook (spec : PollSpec) (deadline start : Nat) :
    start ≤ spec.firstLook deadline start := by
  -- There is no opening pause, or it leads from the start up to some later instant.
  unfold firstLook
  split <;> omega

/-- The deadline of a poll lies within the horizon. -/
theorem deadline_le (spec : PollSpec) (caller : Option Nat) (start : Nat) :
    spec.deadline caller start ≤ start + Duration.horizon := by
  -- The timeout counts up to the horizon, and the caller can only leave less.
  unfold deadline Instant.after
  cases caller <;> simp only <;> omega

/-- With a sound specification a poll begins its course after the opening pause. -/
theorem run_of_sound {spec : PollSpec} (sound : spec.Sound) (look : Run σ (Observation α))
    (caller : Option Nat) (env : σ) (start : Nat) :
    let deadline := spec.deadline caller start
    let first := spec.firstLook deadline start
    spec.run look caller env start =
      (spec.watch sound.positive look start deadline 0 0 env first).delayed (first - start)
        (spec.opening start first) := by
  -- Without a fault the run goes on to its opening pause.
  unfold run
  split
  · rename_i fault faulty
    rw [fault?_eq_none_iff.mpr sound] at faulty
    cases faulty
  · rfl

/-- A poll with a sound specification ends at the first look of its course that ends it. -/
theorem run_endsAt {spec : PollSpec} (sound : spec.Sound) (look : Run σ (Observation α))
    (caller : Option Nat) (env : σ) (start : Nat) :
    let deadline := spec.deadline caller start
    let first := spec.firstLook deadline start
    ∃ n, spec.EndsAt start deadline [] (spec.course look deadline env first) n
      (spec.watch sound.positive look start deadline 0 0 env first) :=
  watch_endsAt sound.positive look (spec.deadline_le caller start) [] env _
    (spec.start_le_firstLook _ start)

/-- Counting the looks changes nothing else in a course. -/
theorem course_counted (spec : PollSpec) (look : Run σ (Observation α)) (deadline made : Nat)
    (env : σ) (first n : Nat) :
    let tick := spec.course look deadline env first n
    spec.course look.counted deadline (made, env) first n =
      ⟨tick.begun, tick.outcome.answer, (made + n + 1, tick.outcome.env),
        tick.outcome.elapsed, tick.outcome.events⟩ := by
  -- Each look adds one to the count and is otherwise the look that is counted.
  induction n with
  | zero => rfl
  | succ n ih =>
    simp only [course, ih, Run.counted, Tick.ended]
    congr 3

/-- A course ends at one look only. -/
theorem EndsAt.unique {spec : PollSpec} {τ : Type} {start deadline n m : Nat}
    {earlier : List (Except Failure (Observation α))} {ticks : Nat → Tick σ α}
    {others : Nat → Tick τ α} {o : Outcome σ (Report α)} {p : Outcome τ (Report α)}
    (ends : spec.EndsAt start deadline earlier ticks n o)
    (endsToo : spec.EndsAt start deadline earlier others m p)
    (answers : ∀ i, (ticks i).outcome.answer = (others i).outcome.answer)
    (times : ∀ i, (ticks i).ended = (others i).ended) : n = m := by
  -- Whether a look ends the course is the same on both sides, so neither side ends earlier.
  have same : ∀ i, spec.Ends deadline (answersBefore ticks i ++ earlier) (ticks i) ↔
      spec.Ends deadline (answersBefore others i ++ earlier) (others i) := by
    intro i
    simp only [Ends, answersBefore, answers, times]
  rcases Nat.lt_trichotomy n m with less | equal | more
  · exact absurd ((same n).mp ends.last) (endsToo.undecided n less)
  · exact equal
  · exact absurd ((same m).mpr endsToo.last) (ends.undecided m more)

/-- The looks of a poll are those of its course up to the one that ends it. -/
theorem run_counted {spec : PollSpec} (sound : spec.Sound) (look : Run σ (Observation α))
    (caller : Option Nat) (env : σ) (start : Nat) {n : Nat} {o : Outcome σ (Report α)}
    (ends :
      let deadline := spec.deadline caller start
      spec.EndsAt start deadline []
        (spec.course look deadline env (spec.firstLook deadline start)) n o) :
    (spec.run look.counted caller (0, env) start).env.1 = n + 1 := by
  -- The counted course ends at the same look, after as many steps.
  obtain ⟨m, counted⟩ := run_endsAt sound look.counted caller (0, env) start
  have same : n = m := by
    apply ends.unique counted <;> intro i <;> simp only [course_counted, Tick.ended]
  rw [run_of_sound sound]
  simp only [Outcome.delayed, counted.env, course_counted]
  omega

/-- A report counts the answers before the last look and that look itself, and either has what
that look decides, or ran out of time without a decision. -/
theorem Concludes.of_ok {spec : PollSpec} {earlier : List (Except Failure (Observation α))}
    {elapsed : Nat} {answer : Except Failure (Observation α)} {report : Report α}
    (concludes : spec.Concludes earlier elapsed answer (.ok report)) :
    report.ticks = .ofNat (earlier.length + 1) ∧ report.elapsed = elapsed ∧
      ∃ observation, answer = .ok observation ∧
        (spec.Decides earlier observation report.verdict ∨
          report.verdict = .timedOut ∧ ¬spec.Decisive earlier answer) := by
  -- A failure is no report, so a decision and the end of the time are left.
  cases concludes with
  | decision decides => exact ⟨rfl, rfl, _, rfl, .inl decides⟩
  | late undecided => exact ⟨rfl, rfl, _, rfl, .inr ⟨rfl, undecided⟩⟩

/-- The report of a poll that ends at a look counts all looks up to that one, in 32 bits. -/
theorem EndsAt.ticks_eq {spec : PollSpec} {start deadline n : Nat} {ticks : Nat → Tick σ α}
    {o : Outcome σ (Report α)} (ends : spec.EndsAt start deadline [] ticks n o)
    {report : Report α} (answered : o.answer = .ok report) : report.ticks = .ofNat (n + 1) := by
  -- There is one answer for each look before the last one.
  have concludes := ends.answer
  rw [List.append_nil, answered] at concludes
  rw [concludes.of_ok.1, length_answersBefore]

/-- Without a sound specification a poll is refused before it looks or waits. -/
theorem run_of_not_sound {spec : PollSpec} (unsound : ¬spec.Sound)
    (look : Run σ (Observation α)) (caller : Option Nat) (env : σ) (start : Nat) :
    ∃ fault, spec.fault? = some fault ∧
      spec.run look caller env start = ⟨.error (.invalidPollSpec fault.message), env, 0, []⟩ := by
  -- The run asks for the fault first, and there is one.
  cases faulty : spec.fault? with
  | none => exact absurd (fault?_eq_none_iff.mp faulty) unsound
  | some fault =>
    refine ⟨fault, rfl, ?_⟩
    unfold run
    split
    · rename_i found
      rw [faulty] at found
      cases found
      rfl
    · rename_i found
      rw [faulty] at found
      cases found

/-- What the first look of a poll does is part of the poll. -/
theorem firstLook_events_subset {spec : PollSpec} (sound : spec.Sound)
    (look : Run σ (Observation α)) (caller : Option Nat) (env : σ) (start : Nat) :
    (look env (spec.firstLook (spec.deadline caller start) start)).events ⊆
      (spec.run look caller env start).events := by
  -- Whatever the first look decides, its events come first behind the opening pause.
  rw [run_of_sound sound]
  refine List.subset_append_of_subset_right _ ?_
  rw [watch]
  split
  · exact fun _ member => member
  · dsimp only
    split
    · exact fun _ member => member
    · split
      · exact fun _ member => member
      · simp only [Outcome.delayed, List.append_assoc]
        exact List.subset_append_left _ _

/-- A poll for absence that sees it at its first look succeeds at once. -/
theorem run_of_gone {spec : PollSpec} (sound : spec.Sound) (target : spec.notFoundIsTarget = true)
    {look : Run σ (Observation α)} {caller : Option Nat} {env : σ} {start : Nat}
    (gone : (look env (spec.firstLook (spec.deadline caller start) start)).answer =
      .ok .notFound) :
    ∃ report, (spec.run look caller env start).answer = .ok report ∧
      report.verdict = .succeeded none := by
  -- Absence is the target, whatever has been counted before.
  rw [run_of_sound sound]
  simp only [Outcome.delayed]
  rw [watch]
  simp only [gone, decide, target, if_true]
  exact ⟨_, rfl, rfl⟩

/-- A poll that does not run out of time decides by its last look, after which nothing happens. -/
theorem run_decided {spec : PollSpec} {look : Run σ (Observation α)} {caller : Option Nat}
    {env : σ} {start : Nat} {report : Report α}
    (answered : (spec.run look caller env start).answer = .ok report)
    (inTime : report.verdict ≠ .timedOut) :
    ∃ before last observation earlier, (look before last).answer = .ok observation ∧
      spec.Decides earlier observation report.verdict ∧
      (look before last).events <:+ (spec.run look caller env start).events := by
  -- A poll that is refused answers nothing, and any other ends at its last look.
  by_cases sound : spec.Sound
  · obtain ⟨n, ends⟩ := run_endsAt sound look caller env start
    rw [run_of_sound sound] at answered ⊢
    have concludes := ends.answer
    simp only [Outcome.delayed] at answered
    rw [answered] at concludes
    obtain ⟨-, -, observation, shown, decides | ⟨late, -⟩⟩ := concludes.of_ok
    · obtain ⟨before, outcome⟩ := course_outcome spec look (spec.deadline caller start) env
        (spec.firstLook (spec.deadline caller start) start) n
      refine ⟨before, _, observation, _, outcome ▸ shown, decides, ?_⟩
      rw [← outcome, Outcome.delayed, ends.events, trail]
      exact (List.suffix_append _ _).trans (List.suffix_append _ _)
    · exact absurd late inTime
  · obtain ⟨fault, -, refused⟩ := run_of_not_sound sound look caller env start
    rw [refused] at answered
    cases answered

end PollSpec

end Provision
