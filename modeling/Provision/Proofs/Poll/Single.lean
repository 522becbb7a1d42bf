import Provision.Proofs.Poll.Run

/-! A poll for a single state begins at once, and goes on until a look shows this state or fails. -/

namespace Provision.PollSpec

variable {σ α : Type} {spec : PollSpec} {state status : String} {content : α}
  {earlier : List (Except Failure (Observation α))}

/-- A poll is for a single state: it begins without a delay, and no state is a failure. -/
structure AwaitsOnly (spec : PollSpec) (state : String) : Prop where
  target : spec.target = [state]
  failure : spec.failure = []
  atOnce : spec.initialDelay = 0

namespace AwaitsOnly

/-- A status decides such a poll if it is the state, and the poll succeeds then. -/
theorem decides_iff (awaits : spec.AwaitsOnly state) {verdict : Verdict α} :
    spec.Decides earlier (.found (some status) content) verdict ↔
      status = state ∧ verdict = .succeeded (some content) := by
  -- Without states that are failures, to reach the target is the only decision a status can make.
  constructor
  · intro decides
    cases decides with
    | reached target =>
      rw [awaits.target] at target
      exact ⟨List.mem_singleton.mp target, rfl⟩
    | failed failure =>
      rw [awaits.failure] at failure
      cases failure
  · rintro ⟨rfl, rfl⟩
    exact .reached (by rw [awaits.target]; exact List.mem_singleton_self _)

/-- A status is decisive for such a poll exactly if it is the state. -/
theorem decisive_iff (awaits : spec.AwaitsOnly state) :
    spec.Decisive earlier (.ok (.found (some status) content)) ↔ status = state := by
  -- Some verdict is decided exactly if the status is the state.
  simp only [Decisive, awaits.decides_iff, exists_and_left, exists_eq, and_true]

/-- From a look that shows the state such a poll concludes what was found. -/
theorem concludes_of_reached (awaits : spec.AwaitsOnly state) {elapsed : Nat}
    {answer : Except Failure (Report α)}
    (concludes : spec.Concludes earlier elapsed (.ok (.found (some state) content)) answer) :
    ∃ report, answer = .ok report ∧ report.verdict = .succeeded (some content) := by
  -- A look that shows the state cannot be the one at which the time runs out undecided.
  cases concludes with
  | decision decides => exact ⟨_, rfl, (awaits.decides_iff.mp decides).2⟩
  | late undecided => exact absurd (awaits.decisive_iff.mpr rfl) undecided

/-- From a look that shows any other state such a poll concludes that its time is up. -/
theorem concludes_of_other (awaits : spec.AwaitsOnly state) (other : status ≠ state) {elapsed : Nat}
    {answer : Except Failure (Report α)}
    (concludes : spec.Concludes earlier elapsed (.ok (.found (some status) content)) answer) :
    answer = .ok ⟨.timedOut, .ofNat (earlier.length + 1), elapsed, some status⟩ := by
  -- No other state decides anything.
  cases concludes with
  | decision decides => exact absurd (awaits.decides_iff.mp decides).1 other
  | late => rfl

/-- Such a poll ends at a look of the course that begins at its start. -/
theorem run_endsAt (awaits : spec.AwaitsOnly state) (sound : spec.Sound)
    (look : Run σ (Observation α)) (caller : Option Nat) (env : σ) (start : Nat) :
    let limit := spec.deadline caller start
    ∃ n, spec.EndsAt start limit [] (spec.course look limit env start) n
      (spec.run look caller env start) := by
  intro limit
  -- Without a delay there is no pause before the first look.
  have first : spec.firstLook limit start = start := if_pos awaits.atOnce
  have opening : spec.opening start start = [] := if_pos awaits.atOnce
  obtain ⟨n, ends⟩ := PollSpec.run_endsAt sound look caller env start
  rw [first] at ends
  rw [run_of_sound sound, first, opening, Nat.sub_self]
  exact ⟨n, by simpa [Outcome.delayed] using ends⟩

end AwaitsOnly

end Provision.PollSpec
