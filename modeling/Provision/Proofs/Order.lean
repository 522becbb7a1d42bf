import Provision.Order
import Provision.Proofs.Poll.Single
import Provision.Proofs.Run

/-! An order is looked up again and again until it has a name, or until there is no time left; only
then is it waited for, once. -/

namespace Provision.Order

variable {σ : Type}

/-- One lookup of a search: the instant at which it began, and how it ended. -/
structure Lookup (σ : Type) where
  begun : Nat
  outcome : Outcome σ (Option String)

namespace Lookup

/-- The instant at which a lookup ended. -/
def ended (made : Lookup σ) : Nat := made.begun + made.outcome.elapsed

/-- A lookup found no order, or one without a name. -/
def Misses (made : Lookup σ) : Prop :=
  made.outcome.answer = .ok none ∨ made.outcome.answer = .ok (some "")

end Lookup

/-- The lookups of a search one after the other, for as long as they miss: each begins half a second
after the end of the one before, but not after the limit. -/
def lookups (lookup : Run σ (Option String)) (limit : Nat) (env : σ) (start : Nat) :
    Nat → Lookup σ
  | 0 => ⟨start, lookup env start⟩
  | n + 1 =>
    let before := lookups lookup limit env start n
    let wake := min (before.ended + Duration.ofMillis 500) limit
    ⟨wake, lookup before.outcome.env wake⟩

/-- All that happens up to a lookup: the lookups, and the pauses between them. -/
def done (made : Nat → Lookup σ) (n : Nat) : List Event :=
  (List.range n).flatMap (fun i =>
    (made i).outcome.events ++ [.sleep (made i).ended (made (i + 1)).begun])
    ++ (made n).outcome.events

/-- What a search answers after its last lookup: the order that this found, or its failure, or that
no order appeared. -/
inductive Concludes (label : String) (start limit : Nat) (last : Lookup σ) :
    Except Failure OrderRecord → Prop where
  | found {order : String} : last.outcome.answer = .ok (some order) → order ≠ "" →
      Concludes label start limit last (.ok ⟨order, false⟩)
  | failed {failure : Failure} : last.outcome.answer = .error failure →
      Concludes label start limit last (.error failure)
  | late : last.Misses → limit ≤ last.ended →
      Concludes label start limit last (.error (.orderNeverAppeared label (last.ended - start)))

/-- A search that ends with a lookup: all earlier ones missed in time, and the last one decides. -/
structure Searches (label : String) (start limit : Nat) (made : Nat → Lookup σ) (n : Nat)
    (o : Outcome σ OrderRecord) : Prop where
  missed : ∀ m < n, (made m).Misses ∧ (made m).ended < limit
  answer : Concludes label start limit (made n) o.answer
  env : o.env = (made n).outcome.env
  elapsed : start + o.elapsed = (made n).ended
  events : o.events = done made n

/-- The look of the poll for an order. -/
def sight (lookup : Run σ (Option String)) : Run σ (Observation String) := do
  return observe (← lookup)

/-- A lookup as the poll for an order sees it. -/
def Lookup.tick (made : Lookup σ) : Tick σ String :=
  ⟨made.begun, made.outcome.answer.map observe, made.outcome.env, made.outcome.elapsed,
    made.outcome.events⟩

/-- A look is a lookup whose answer is observed. -/
theorem sight_apply (lookup : Run σ (Option String)) (env : σ) (now : Nat) :
    sight lookup env now = ⟨(lookup env now).answer.map observe, (lookup env now).env,
      (lookup env now).elapsed, (lookup env now).events⟩ :=
  Run.bind_map lookup observe env now

/-- The course of that poll is the lookups. -/
theorem course_eq (lookup : Run σ (Option String)) (left limit : Nat) (env : σ) (start n : Nat) :
    (appearance left).course (sight lookup) limit env start n =
      (lookups lookup limit env start n).tick := by
  -- Each look starts from the instant and the environment that the one before has left.
  induction n with
  | zero => rw [PollSpec.course, sight_apply]; rfl
  | succ n ih =>
    rw [PollSpec.course, ih, sight_apply]
    rfl

/-- The poll for an order is carried out. -/
theorem appearance_sound (left : Nat) : (appearance left).Sound where
  -- The order is awaited in one state and seen in one other.
  disjoint := by
    intro state target
    cases List.mem_singleton.mp target
    show present ∉ [absent]
    decide
  attainable := .inl (List.cons_ne_nil _ _)
  positive := by
    show 0 < interval
    decide

/-- The poll for an order ends at the deadline, or with the horizon if that is earlier. -/
theorem appearance_deadline (deadline start : Nat) :
    (appearance (deadline - start)).deadline (some deadline) start =
      min deadline (start + Duration.horizon) := by
  -- The time that is left may be more than a poll ever takes, so either limit can be the earlier.
  have timeout : (appearance (deadline - start)).timeout = deadline - start := rfl
  simp only [PollSpec.deadline, Instant.after, timeout]
  omega

/-- The poll for an order is for a single state. -/
theorem appearance_awaitsOnly (left : Nat) : (appearance left).AwaitsOnly present := ⟨rfl, rfl, rfl⟩

/-- The two states of an order are different. -/
theorem absent_ne_present : absent ≠ present := by decide

/-- A lookup fails, finds an order with a name, or misses; a miss is seen as an absent order. -/
theorem Lookup.cases (made : Lookup σ) :
    (∃ failure, made.outcome.answer = .error failure) ∨
      (∃ order, made.outcome.answer = .ok (some order) ∧ order ≠ "" ∧
        made.tick.outcome.answer = .ok (.found (some present) order)) ∨
      made.Misses ∧ made.tick.outcome.answer = .ok (.found (some absent) "") := by
  -- What the lookup answers decides, and a name that is empty counts as none.
  unfold Lookup.tick Lookup.Misses
  dsimp only
  cases made.outcome.answer with
  | error failure => exact .inl ⟨failure, rfl⟩
  | ok found =>
    cases found with
    | none => exact .inr (.inr ⟨.inl rfl, rfl⟩)
    | some order =>
      -- An empty name is seen as if there were none.
      by_cases empty : order = ""
      · subst empty
        exact .inr (.inr ⟨.inr rfl, rfl⟩)
      · exact .inr (.inl ⟨order, rfl, empty, by simp [Except.map, observe, empty]⟩)

/-- A lookup decides a search unless it misses. -/
theorem decisive_iff {left : Nat} {earlier : List (Except Failure (Observation String))}
    {made : Lookup σ} :
    (appearance left).Decisive earlier made.tick.outcome.answer ↔ ¬made.Misses := by
  have awaits := appearance_awaitsOnly left
  rcases made.cases with ⟨failure, failed⟩ | ⟨order, found, named, seen⟩ | ⟨misses, seen⟩
  · -- A failure ends any poll.
    refine iff_of_true ?_ ?_
    · simp only [Lookup.tick, failed, Except.map, PollSpec.Decisive]
    · simp [Lookup.Misses, failed]
  · -- An order with a name is what the poll waits for.
    rw [seen, awaits.decisive_iff]
    exact iff_of_true rfl (by simp [Lookup.Misses, found, named])
  · -- A miss leaves it waiting.
    rw [seen, awaits.decisive_iff]
    exact iff_of_false absent_ne_present (not_not_intro misses)

/-- What a search makes of the report on its poll. -/
def record (label : String) (report : Report String) : Except Failure OrderRecord :=
  match report.verdict with
  | .succeeded (some order) => .ok ⟨order, false⟩
  | _ => .error (.orderNeverAppeared label report.elapsed)

/-- A search is the poll for the order, whose report decides. -/
theorem awaitOrder_apply (label : String) (lookup : Run σ (Option String)) (deadline : Nat)
    (env : σ) (start : Nat) :
    let polled := (appearance (deadline - start)).run (sight lookup) (some deadline) env start
    awaitOrder label lookup deadline env start =
      ⟨polled.answer >>= record label, polled.env, polled.elapsed, polled.events⟩ := by
  -- The time that is left is taken when the search starts.
  have polls : awaitOrder label lookup deadline = (do
      let start ← Run.now
      let report ← (appearance (deadline - start)).run (sight lookup) (some deadline)
      record label report) := by
    unfold awaitOrder
    congr 1
    funext start
    dsimp only
    -- What differs is how the verdict is told apart.
    refine congrArg (_ >>= ·) (funext fun report => ?_)
    unfold record
    cases report.verdict with
    | succeeded content => cases content <;> rfl
    | failed | timedOut => rfl
  rw [polls, Run.now_bind, Run.bind_monadLift]

/-- What the poll for an order concludes from its last look is what the search concludes from its
last lookup. -/
theorem concludes_of_poll {label : String} {left start limit : Nat} {last : Lookup σ}
    {earlier : List (Except Failure (Observation String))} {answer : Except Failure (Report String)}
    (ends : (appearance left).Ends limit earlier last.tick)
    (concludes : (appearance left).Concludes earlier (last.ended - start) last.tick.outcome.answer
      answer) : Concludes label start limit last (answer >>= record label) := by
  -- The last lookup fails, finds an order or misses.
  have awaits := appearance_awaitsOnly left
  rcases last.cases with ⟨failure, failed⟩ | ⟨order, found, named, seen⟩ | ⟨misses, seen⟩
  · -- The poll hands a failure on.
    have seen : last.tick.outcome.answer = .error failure := by
      simp only [Lookup.tick, failed, Except.map]
    rw [seen] at concludes
    cases concludes with
    | failure => exact .failed failed
  · -- An order that is found is recorded, not yet complete.
    rw [seen] at concludes
    obtain ⟨report, rfl, reached⟩ := awaits.concludes_of_reached concludes
    have recorded : record label report = .ok ⟨order, false⟩ := by simp only [record, reached]
    show Concludes label start limit last (record label report)
    rw [recorded]
    exact .found found named
  · -- A miss only ends a search that has no time left.
    have late : limit ≤ last.ended := ends.resolve_left fun decisive =>
      decisive_iff.mp decisive misses
    rw [seen] at concludes
    rw [awaits.concludes_of_other absent_ne_present concludes]
    exact .late misses late

/-- Counting lookups counts the looks of the poll. -/
theorem sight_counted (lookup : Run σ (Option String)) :
    sight lookup.counted = (sight lookup).counted := by
  -- Observing an answer takes no further lookup.
  funext env now
  rw [sight_apply, Run.counted, Run.counted, sight_apply]

/-- Every search ends like that, within the time that was left when it started. -/
theorem awaitOrder_searches (label : String) (lookup : Run σ (Option String)) (deadline : Nat)
    (env : σ) (start : Nat) :
    let limit := min deadline (start + Duration.horizon)
    ∃ n, Searches label start limit (lookups lookup limit env start) n
        (awaitOrder label lookup deadline env start) ∧
      (awaitOrder label lookup.counted deadline (0, env) start).env.1 = n + 1 := by
  -- The search is a poll for a single state, so it ends with some look.
  intro limit
  have sound := appearance_sound (deadline - start)
  obtain ⟨n, ends⟩ := (appearance_awaitsOnly (deadline - start)).run_endsAt sound (sight lookup)
    (some deadline) env start
  have counted := PollSpec.run_counted sound (sight lookup) (some deadline) env start ends
  refine ⟨n, ?_, ?_⟩
  · -- The looks of the poll are the lookups, one by one.
    have ticks : (appearance (deadline - start)).course (sight lookup) limit env start =
        fun i => (lookups lookup limit env start i).tick :=
      funext fun i => course_eq lookup _ limit env start i
    rw [appearance_deadline] at ends
    simp only [ticks, limit] at ends
    rw [awaitOrder_apply]
    refine ⟨fun m below => ?_, concludes_of_poll ends.last ends.answer, ends.env, ends.elapsed,
      ends.events⟩
    -- A look that the poll goes on from was neither decisive nor late.
    obtain ⟨undecisive, early⟩ := not_or.mp (ends.undecided m below)
    exact ⟨Classical.not_not.mp (mt decisive_iff.mpr undecisive), Nat.lt_of_not_le early⟩
  · rw [awaitOrder_apply, sight_counted]
    exact counted

/-- A search fails as its last lookup does, or because all the time that was left has passed. -/
theorem Searches.failure {label : String} {start deadline n : Nat} {made : Nat → Lookup σ}
    {o : Outcome σ OrderRecord}
    (searches : Searches label start (min deadline (start + Duration.horizon)) made n o)
    {failure : Failure} (failed : o.answer = .error failure) :
    (made n).outcome.answer = .error failure ∨
      ∃ elapsed, failure = .orderNeverAppeared label elapsed ∧
        min (deadline - start) Duration.horizon ≤ elapsed := by
  -- The last lookup ended at the limit or later, so as much time as that has passed.
  have concludes := searches.answer
  rw [failed] at concludes
  cases concludes with
  | failed failed => exact .inl failed
  | late _ late => exact .inr ⟨_, rfl, by omega⟩

/-- A lookup that misses in time concludes nothing. -/
theorem Lookup.Misses.not_concludes {label : String} {start limit : Nat} {made : Lookup σ}
    (misses : made.Misses) (early : made.ended < limit) (answer : Except Failure OrderRecord) :
    ¬Concludes label start limit made answer := by
  -- It has neither an order with a name nor a failure, and there is time for another one.
  intro concludes
  cases concludes with
  | found found named =>
    rcases misses with none | empty
    · cases none.symm.trans found
    · cases empty.symm.trans found
      exact named rfl
  | failed failed =>
    rcases misses with none | empty
    · cases none.symm.trans failed
    · cases empty.symm.trans failed
  | late _ late => exact Nat.not_lt.mpr late early

/-- A search ends with the first lookup that finds an order, if all before that miss in time. -/
theorem Searches.of_found {label : String} {start limit n k : Nat} {made : Nat → Lookup σ}
    {o : Outcome σ OrderRecord} (searches : Searches label start limit made n o) {order : String}
    (missed : ∀ m < k, (made m).Misses ∧ (made m).ended < limit)
    (found : (made k).outcome.answer = .ok (some order)) (named : order ≠ "") :
    o.answer = .ok ⟨order, false⟩ ∧ start + o.elapsed = (made k).ended ∧
      o.events = done made k := by
  -- The last lookup neither comes before the hit nor after it.
  have hits : ¬(made k).Misses := by
    simp [Lookup.Misses, found, named]
  have last : n = k := by
    rcases Nat.lt_trichotomy n k with early | same | later
    · obtain ⟨misses, inTime⟩ := missed n early
      exact absurd searches.answer (misses.not_concludes inTime _)
    · exact same
    · -- A later lookup would come after a miss.
      exact absurd (searches.missed k later).1 hits
  subst last
  refine ⟨?_, searches.elapsed, searches.events⟩
  have concludes := searches.answer
  generalize o.answer = answer at concludes
  cases concludes with
  | found same => exact (by cases found.symm.trans same; rfl)
  | failed failed => cases found.symm.trans failed
  | late misses => exact absurd misses hits

/-- How a wait goes on after the search: it fails as that did, or the order that was found is
completed, once and with the time that is left. -/
theorem await_apply (client : BillingClient σ) (label : String) (lookup : Run σ (Option String))
    (deadline : Nat) (env : σ) (start : Nat) :
    let search := awaitOrder label lookup deadline env start
    let o := await client label lookup deadline env start
    (∀ failure, search.answer = .error failure →
      o.answer = .error failure ∧ o.events = search.events) ∧
    ∀ record, search.answer = .ok record →
      let later := start + search.elapsed
      let left := deadline - later
      let call := client.waitOrder record.order left search.env later
      o.answer = call.answer.map (fun _ => ⟨record.order, true⟩) ∧
        ∃ failure, o.events =
          search.events ++ [.billing later (.waitOrder record.order left) failure call.events] := by
  -- The wait for completion only begins with what the search has found.
  intro search o
  constructor
  · intro failure failed
    rw [show o = _ from Run.bind_of_error failed _]
    exact ⟨rfl, rfl⟩
  · intro record found later left call
    have ended : o = _ := Run.bind_of_ok found _
    rw [ended, awaitCompletion, Run.now_bind, Run.bind_map]
    exact ⟨rfl, _, rfl⟩

end Provision.Order
