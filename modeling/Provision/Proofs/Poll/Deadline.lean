import Provision.Proofs.Clock
import Provision.Proofs.Poll.Run

/-! A poll keeps to every deadline that its own lies before, if its looks do. -/

namespace Provision.PollSpec

variable {σ α : Type} {spec : PollSpec} {look : Run σ (Observation α)}
  {limit deadline start : Nat}

/-- A poll under way keeps to the deadline: it only pauses until its own limit. -/
theorem watch_keepsTo (positive : 0 < spec.interval) (looks : look.KeepsTo deadline)
    (bounded : limit ≤ max start deadline) (ticks : UInt32) (misses : Nat) (env : σ) (now : Nat)
    (begun : start ≤ now) :
    (spec.watch positive look start limit ticks misses env now).KeepsTo deadline now := by
  -- The induction is on the time left until the limit, which every pause shortens.
  induction left : limit - now using Nat.strongRecOn generalizing ticks misses env now with
  | ind _ ih =>
    have looked : (look env now).KeepsTo deadline now := looks env now
    rw [watch]
    cases answered : (look env now).answer with
    -- A look that ends the poll is all there is.
    | error failure => exact looked.of_eq rfl rfl
    | ok observation =>
      dsimp only
      cases decided : spec.decide misses observation with
      | done verdict => exact looked.of_eq rfl rfl
      | again missed =>
        dsimp only
        split
        · exact looked.of_eq rfl rfl
        · rename_i early
          have horizon : 0 < Duration.horizon := by decide
          let after := now + (look env now).elapsed
          let wake := min (Instant.after after spec.interval) limit
          -- The pause begins before the limit and ends there at the latest.
          have forward : after < wake := by
            simp only [wake, Instant.after]
            omega
          have inTime : wake ≤ after ∨ wake ≤ deadline := by omega
          have rest : (spec.watch positive look start limit (ticks + 1) missed
              (look env now).env wake).KeepsTo deadline wake :=
            ih (limit - wake) (by omega) (ticks + 1) missed (look env now).env wake (by omega) rfl
          have paused := looked.delayed
            (.pause (Nat.le_of_lt forward) inTime (.ok ()) (look env now).env)
          have resumed : now + ((look env now).elapsed + (wake - after)) = wake := by omega
          refine (paused.delayed (resumed.symm ▸ rest)).of_eq ?_ rfl
          -- The look and the pause together take the time from now until the poll wakes.
          have span : wake - now = (look env now).elapsed + (wake - after) := by omega
          exact congrArg (· + _) span

/-- A poll keeps to a deadline that its own lies before, unless that has passed already. -/
theorem run_keepsTo (looks : look.KeepsTo deadline) (caller : Option Nat)
    (bounded : spec.deadline caller start ≤ max start deadline) (env : σ) :
    (spec.run look caller env start).KeepsTo deadline start := by
  -- The opening pause ends at the poll's own limit at the latest.
  by_cases sound : spec.Sound
  · rw [run_of_sound sound]
    let first := spec.firstLook (spec.deadline caller start) start
    have begun : start ≤ first := spec.start_le_firstLook _ start
    have watched := watch_keepsTo sound.positive looks bounded 0 0 env first begun
    have resumed : start + (first - start) = first := by omega
    by_cases delayed : spec.initialDelay = 0
    · -- Without an opening pause the first look comes at once.
      have atOnce : spec.firstLook (spec.deadline caller start) start = start := by
        simp only [firstLook, if_pos delayed]
      rw [opening, if_pos delayed, atOnce, Nat.sub_self, Outcome.delayed_zero]
      exact atOnce ▸ watched
    · have opened : first ≤ start ∨ first ≤ deadline := by
        simp only [first, firstLook, if_neg delayed]
        omega
      rw [opening, if_neg delayed]
      exact (Outcome.KeepsTo.pause begun opened (.ok ()) env).delayed (resumed.symm ▸ watched)
  · -- A poll that is refused takes no time.
    obtain ⟨fault, -, refused⟩ := run_of_not_sound sound look caller env start
    rw [refused]
    exact .instant _ env

end Provision.PollSpec
