import Provision.Proofs.Poll.Bounds

/-! More time for a poll never turns a decision into another one: two polls that are shown the
same look at the same instants until the earlier deadline, and only the later one looks on. -/

namespace Provision

variable {σ τ α : Type}

/-- A deadline that lies no later than another; without one there is time for ever. -/
def NoLater (sooner later : Option Nat) : Prop :=
  ∀ instant ∈ later, ∃ earlier ∈ sooner, earlier ≤ instant

/-- Two looks that found the same and took as long, at whatever instants they began. -/
structure Tick.Agrees (tick : Tick σ α) (other : Tick τ α) : Prop where
  answer : tick.outcome.answer = other.outcome.answer
  elapsed : tick.outcome.elapsed = other.outcome.elapsed

/-- Looks that agree are preceded by the same answers. -/
theorem answersBefore_congr {ticks : Nat → Tick σ α} {others : Nat → Tick τ α} {n : Nat}
    (agree : ∀ i < n, (ticks i).Agrees (others i)) :
    answersBefore ticks n = answersBefore others n := by
  -- Answer by answer, for each of the looks before.
  unfold answersBefore
  congr 1
  exact List.map_congr_left fun i below => (agree i (List.mem_range.mp below)).answer

namespace PollSpec

/-- The looks of a poll that starts at an instant, one after the other as long as none ends it. -/
def ticks (spec : PollSpec) (look : Run σ (Observation α)) (caller : Option Nat) (env : σ)
    (start : Nat) : Nat → Tick σ α :=
  let deadline := spec.deadline caller start
  spec.course look deadline env (spec.firstLook deadline start)

/-- How often a poll that starts at an instant looks. -/
def looks (spec : PollSpec) (look : Run σ (Observation α)) (caller : Option Nat) (env : σ)
    (start : Nat) : Nat :=
  (spec.run look.counted caller (0, env) start).env.1

/-- A caller that leaves more time never puts the deadline of a poll earlier. -/
theorem deadline_mono (spec : PollSpec) {sooner later : Option Nat} (order : NoLater sooner later)
    (start : Nat) : spec.deadline sooner start ≤ spec.deadline later start := by
  -- The poll has a deadline of its own, which the caller's can only bring forward.
  unfold deadline
  cases later with
  | none => cases sooner <;> simp only <;> omega
  | some instant =>
    obtain ⟨earlier, present, before⟩ := order instant rfl
    cases present
    simp only
    omega

/-- A later deadline puts off the first look only from an instant that is not before the other. -/
theorem firstLook_eq_or_le (spec : PollSpec) {sooner later : Nat} (order : sooner ≤ later)
    (start : Nat) :
    spec.firstLook sooner start = spec.firstLook later start ∨
      sooner ≤ spec.firstLook sooner start := by
  -- The initial delay is the same in both, but for the deadline that may cut it short.
  unfold firstLook
  split <;> omega

/--
Two courses of looks that agree keep pace until the earlier deadline.

The pause that this deadline cuts short is the first after which they are apart, and it leads to a
look that begins at the deadline.
-/
theorem course_keepsPace {spec : PollSpec} {look : Run σ (Observation α)}
    {other : Run τ (Observation α)} {sooner later : Nat} (order : sooner ≤ later) {env : σ}
    {env' : τ} {first first' n : Nat} (opened : first = first' ∨ sooner ≤ first)
    (agree : ∀ i < n, (spec.course look sooner env first i).Agrees
      (spec.course other later env' first' i))
    (early : ∀ i < n, (spec.course look sooner env first i).ended < sooner) :
    (spec.course look sooner env first n).begun = (spec.course other later env' first' n).begun ∨
      sooner ≤ (spec.course look sooner env first n).begun := by
  -- The induction is on the number of the look.
  induction n with
  | zero => exact opened
  | succ n ih =>
    have pace := ih (fun i below => agree i (by omega)) (fun i below => early i (by omega))
    have elapsed := (agree n (by omega)).elapsed
    have before := early n (by omega)
    -- The look before was over in time, so it had begun in time and ended at one instant in both.
    simp only [course, Tick.ended] at before ⊢
    omega

/-- A decision follows from the answers alone, so a poll has no two of them. -/
theorem Decides.unique {spec : PollSpec} {earlier : List (Except Failure (Observation α))}
    {observation : Observation α} {verdict verdict' : Verdict α}
    (decides : spec.Decides earlier observation verdict)
    (decidesToo : spec.Decides earlier observation verdict') : verdict = verdict' := by
  -- A decision is what the poll computes from the answers.
  have decided := decide_done_iff.mpr decides
  rw [decide_done_iff.mpr decidesToo] at decided
  cases decided
  rfl

/-- What a poll answers when its last look is decisive depends on the time only in how long it
took. -/
theorem Concludes.of_decisive {spec : PollSpec} {earlier : List (Except Failure (Observation α))}
    {elapsed elapsed' : Nat} {answer : Except Failure (Observation α)}
    {result result' : Except Failure (Report α)}
    (concludes : spec.Concludes earlier elapsed answer result)
    (concludesToo : spec.Concludes earlier elapsed' answer result')
    (decisive : spec.Decisive earlier answer) :
    result' = result.map fun report => { report with elapsed := elapsed' } := by
  -- A decisive look fails or decides, and neither depends on how much time has passed.
  cases concludes with
  | failure failure =>
    cases concludesToo with
    | failure => rfl
  | decision decides =>
    cases concludesToo with
    | decision decidesToo => rw [decides.unique decidesToo]; rfl
    | late undecided => exact absurd decisive undecided
  | late undecided => exact absurd decisive undecided

/-- A poll that does not run out of time is ended by what its last look found. -/
theorem Concludes.decisive {spec : PollSpec} {earlier : List (Except Failure (Observation α))}
    {elapsed : Nat} {answer : Except Failure (Observation α)} {result : Except Failure (Report α)}
    (concludes : spec.Concludes earlier elapsed answer result)
    (inTime : ∀ report, result = .ok report → report.verdict ≠ .timedOut) :
    spec.Decisive earlier answer := by
  -- Only a poll that runs out of time has a last look that is not.
  cases concludes with
  | failure failure => exact trivial
  | decision decides => exact ⟨_, decides⟩
  | late undecided => exact absurd rfl (inTime _ rfl)

/-- Two polls that are shown agreeing looks: the one with less time ends at no later look, and one
that a decisive look ends is ended by it however much time there is. -/
theorem EndsAt.le_of_agrees {spec : PollSpec} {look : Run σ (Observation α)}
    {other : Run τ (Observation α)} {sooner later start : Nat} (order : sooner ≤ later) {env : σ}
    {env' : τ} {first first' n m : Nat} (opened : first = first' ∨ sooner ≤ first)
    {o : Outcome σ (Report α)} {p : Outcome τ (Report α)}
    (ends : spec.EndsAt start sooner [] (spec.course look sooner env first) n o)
    (endsToo : spec.EndsAt start later [] (spec.course other later env' first') m p)
    (agree : ∀ i ≤ n, i ≤ m → (spec.course look sooner env first i).Agrees
      (spec.course other later env' first' i)) :
    n ≤ m ∧ (spec.Decisive (answersBefore (spec.course look sooner env first) n)
      (spec.course look sooner env first n).outcome.answer → n = m) := by
  -- As long as looks agree, the same has been answered before them.
  have before : ∀ k ≤ n, k ≤ m → answersBefore (spec.course look sooner env first) k =
      answersBefore (spec.course other later env' first') k := fun k within withinToo =>
    answersBefore_congr fun i below => agree i (by omega) (by omega)
  have ordered : n ≤ m := by
    by_contra fewer
    have less : m < n := by omega
    -- No look of the shorter time ends its poll before the last, so all of them are in time.
    have early : ∀ i ≤ m, (spec.course look sooner env first i).ended < sooner := by
      intro i within
      have undecided := ends.undecided i (by omega)
      simp only [Ends, not_or] at undecided
      omega
    have pace := course_keepsPace order opened (fun i below => agree i (by omega) (by omega))
      (fun i below => early i (by omega)) (n := m)
    have agrees := agree m (by omega) (Nat.le_refl m)
    have inTime := early m (Nat.le_refl m)
    -- The last look of the longer time is then neither decisive nor late.
    have undecided := ends.undecided m less
    simp only [Ends, List.append_nil, not_or] at undecided
    have last := endsToo.last
    rw [List.append_nil, ← before m (by omega) (Nat.le_refl m), Ends, ← agrees.answer] at last
    rcases last with decisive | late
    · exact undecided.1 decisive
    · have elapsed := agrees.elapsed
      simp only [Tick.ended] at late inTime pace
      omega
  refine ⟨ordered, fun decisive => ?_⟩
  -- A look that decides one poll decides the other, which cannot go on from it either.
  by_contra different
  rw [before n (Nat.le_refl n) ordered, (agree n (Nat.le_refl n) ordered).answer] at decisive
  exact endsToo.undecided n (by omega) (.inl (by rwa [List.append_nil]))

/--
More time for a poll never turns a decision into another one.

Given looks that find the same and take as long, one by one, a poll with an earlier deadline looks
no more often than one with a later deadline. If it ends with a decision or with the failure of a
look, rather than by running out of time, then the other ends at the same look and reports the same
but for how long it took.
-/
theorem run_extended {spec : PollSpec} (sound : spec.Sound) {look : Run σ (Observation α)}
    {other : Run τ (Observation α)} {sooner later : Option Nat} (order : NoLater sooner later)
    {env : σ} {env' : τ} {start : Nat}
    (agree : ∀ i, i < spec.looks look sooner env start → i < spec.looks other later env' start →
      (spec.ticks look sooner env start i).Agrees (spec.ticks other later env' start i)) :
    let o := spec.run look sooner env start
    let p := spec.run other later env' start
    spec.looks look sooner env start ≤ spec.looks other later env' start ∧
    ((∀ report, o.answer = .ok report → report.verdict ≠ .timedOut) →
      spec.looks other later env' start = spec.looks look sooner env start ∧
      ∃ elapsed, p.answer = o.answer.map fun report => { report with elapsed := elapsed }) := by
  intro o p
  -- Each poll is a course of looks, and the count of them tells which one was the last.
  obtain ⟨n, ends⟩ := run_endsAt sound look sooner env start
  obtain ⟨m, endsToo⟩ := run_endsAt sound other later env' start
  have counted : spec.looks look sooner env start = n + 1 :=
    run_counted sound look sooner env start ends
  have countedToo : spec.looks other later env' start = m + 1 :=
    run_counted sound other later env' start endsToo
  obtain ⟨ordered, same⟩ := ends.le_of_agrees (spec.deadline_mono order start)
    (spec.firstLook_eq_or_le (spec.deadline_mono order start) start) endsToo
    fun i within withinToo => agree i (by omega) (by omega)
  -- The extended poll looks at least as often; it looks no more than that if time did not run out.
  refine ⟨by omega, fun inTime => ?_⟩
  have answered : o.answer = _ := congrArg Outcome.answer (run_of_sound sound look sooner env start)
  have answeredToo : p.answer = _ :=
    congrArg Outcome.answer (run_of_sound sound other later env' start)
  -- The last look is decisive, so it is the last one of both, behind the same answers.
  have concludes := ends.answer
  have concludesToo := endsToo.answer
  rw [List.append_nil] at concludes concludesToo
  rw [answered] at inTime
  have decisive := concludes.decisive inTime
  have last := same decisive
  subst last
  have before : answersBefore (spec.ticks look sooner env start) n =
      answersBefore (spec.ticks other later env' start) n :=
    answersBefore_congr fun i below => agree i (by omega) (by omega)
  have agrees := agree n (by omega) (by omega)
  refine ⟨by omega, (spec.ticks other later env' start n).ended - start, ?_⟩
  rw [answered, answeredToo]
  refine concludes.of_decisive ?_ decisive
  simp only [ticks] at before agrees
  rw [before, agrees.answer]
  exact concludesToo

/-- An object that is ready at its second look is found ready by a poll that the caller cuts off
before its interval is over, and so it is by one that is left all of its time. -/
theorem run_extended_beyond_interval :
    let spec : PollSpec :=
      { target := ["ready"], interval := 10, initialDelay := 5, timeout := 25 }
    let look : Run Nat (Observation Unit) := fun env _ =>
      ⟨.ok (.found (some (if env = 0 then "making" else "ready")) ()), env + 1, 3, []⟩
    let o := spec.run look (some 20) 0 4
    let p := spec.run look none 0 4
    o.elapsed = 19 ∧ p.elapsed = 21 ∧
      ∃ elapsed, p.answer = o.answer.map fun report => { report with elapsed := elapsed } := by
  -- The caller ends the first poll sooner, so its last pause is cut short.
  intro spec look o p
  have sound : spec.Sound := ⟨by simp [spec], by simp [spec], by simp [spec]⟩
  have order : NoLater (some 20) none := nofun
  have lasted : o.elapsed = 19 ∧ p.elapsed = 21 := by decide +kernel
  have looked : spec.looks look (some 20) 0 4 = 2 := by decide +kernel
  have answered : o.answer = .ok ⟨.succeeded (some ()), 2, 19, some "ready"⟩ := by
    with_unfolding_all rfl
  -- The first poll looks twice, and the other one sees the same at those looks.
  have agree : ∀ i, i < spec.looks look (some 20) 0 4 → i < spec.looks look none 0 4 →
      (spec.ticks look (some 20) 0 4 i).Agrees (spec.ticks look none 0 4 i) := by
    intro i within _
    rw [looked] at within
    have first : i = 0 ∨ i = 1 := by omega
    rcases first with rfl | rfl
    · exact ⟨rfl, rfl⟩
    · exact ⟨rfl, rfl⟩
  have extended := run_extended sound order agree
  refine ⟨lasted.1, lasted.2, (extended.2 ?_).2⟩
  -- The first poll succeeds in time, so it did not run out of it.
  intro report same late
  rw [answered] at same
  cases same
  cases late

end PollSpec

end Provision
