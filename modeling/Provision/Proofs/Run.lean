import Provision.Run

/-! Runs in sequence leave their events in sequence, up to the first failure, and what each of them
preserves or changes of the environment adds up. -/

namespace Provision

variable {σ τ α β : Type}

/-- An answer of which something is left as an option was no failure. -/
theorem exists_ok_of_isSome {ε : Type} {answer : Except ε α}
    (answered : answer.toOption.isSome = true) : ∃ found, answer = .ok found := by
  -- Of a failure nothing would be left.
  cases answer with
  | error failure => cases answered
  | ok found => exact ⟨found, rfl⟩

/-- An answer that passes a test was no failure, and what it found passes the test. -/
theorem exists_ok_of_any {ε : Type} {answer : Except ε α} {test : α → Bool}
    (passed : answer.toOption.any test = true) :
    ∃ found, answer = .ok found ∧ test found = true := by
  -- A failure passes no test.
  cases answer with
  | error failure => cases passed
  | ok found => exact ⟨found, rfl, passed⟩

/-- What is answered does not change when failures are given another form. -/
theorem eq_ok_of_mapError {ε δ : Type} {answer : Except ε α} {form : ε → δ} {found : α}
    (mapped : answer.mapError form = .ok found) : answer = .ok found := by
  -- A failure would still be one.
  cases answer with
  | error failure => cases mapped
  | ok other =>
    cases mapped
    rfl

/-- Two computations in sequence answer when both of them do. -/
theorem exists_of_bind_eq_ok {ε : Type} {first : Except ε α} {next : α → Except ε β} {answer : β}
    (answered : (first >>= next) = .ok answer) :
    ∃ between, first = .ok between ∧ next between = .ok answer := by
  -- The first one has answered, or else its failure would be the result.
  cases first with
  | error failure => cases answered
  | ok between => exact ⟨between, rfl, answered⟩

namespace Event

/-- An event is a call to the billing side. -/
def IsBilling : Event → Prop
  | billing .. => True
  | call .. | sleep .. => False

/-- No billing calls are among events of which none is one. -/
theorem billingCalls_eq_nil {events : List Event}
    (others : ∀ event ∈ events, ¬event.IsBilling) : billingCalls events = [] := by
  -- The calls are picked out of the events, so an event that is none adds nothing.
  rw [billingCalls, List.filterMap_eq_nil_iff]
  intro event member
  cases event with
  | billing => exact absurd trivial (others _ member)
  | call | sleep => rfl

end Event

namespace Outcome

/-- Without a span and events before it, an end is the same. -/
@[simp] theorem delayed_zero (o : Outcome σ α) : o.delayed 0 [] = o := by
  simp [delayed]

/-- What comes before an end does not change its answer. -/
@[simp] theorem delayed_answer (o : Outcome σ α) (span : Nat) (before : List Event) :
    (o.delayed span before).answer = o.answer := rfl

/-- Earlier events come first. -/
@[simp] theorem delayed_events (o : Outcome σ α) (span : Nat) (before : List Event) :
    (o.delayed span before).events = before ++ o.events := rfl

end Outcome

namespace Run

/-- A run that does nothing leaves everything as it was. -/
@[simp] theorem pure_apply (answer : α) (env : σ) (now : Nat) :
    (Pure.pure answer : Run σ α) env now = ⟨.ok answer, env, 0, []⟩ := rfl

/-- A run that fails at once leaves everything as it was. -/
@[simp] theorem fail_apply (failure : Failure) (env : σ) (now : Nat) :
    (fail failure : Run σ α) env now = ⟨.error failure, env, 0, []⟩ := rfl

/-- A computation answers in a run as it does by itself. -/
@[simp] theorem monadLift_apply (answer : Except Failure α) (env : σ) (now : Nat) :
    (liftM answer : Run σ α) env now = ⟨answer, env, 0, []⟩ := by
  cases answer <;> rfl

/-- After an answer, the next run starts from what the first left. -/
theorem bind_of_ok {first : Run σ α} {env : σ} {now : Nat} {answer : α}
    (answered : (first env now).answer = .ok answer) (next : α → Run σ β) :
    (first >>= next) env now =
      (next answer (first env now).env (now + (first env now).elapsed)).delayed
        (first env now).elapsed (first env now).events := by
  simp only [Bind.bind, bind, answered]

/-- After a failure, the next run does not start. -/
theorem bind_of_error {first : Run σ α} {env : σ} {now : Nat} {failure : Failure}
    (failed : (first env now).answer = .error failure) (next : α → Run σ β) :
    (first >>= next) env now =
      ⟨.error failure, (first env now).env, (first env now).elapsed, (first env now).events⟩ := by
  simp only [Bind.bind, bind, failed]

/-- Three runs in sequence can be grouped either way. -/
theorem bind_assoc {γ : Type} (first : Run σ α) (second : α → Run σ β) (third : β → Run σ γ) :
    (first >>= second) >>= third = first >>= fun answer => second answer >>= third := by
  -- The first failure ends both groupings, and without one their spans and events add up alike.
  funext env now
  cases answered : (first env now).answer with
  | error failure =>
    have failed : ((first >>= second) env now).answer = .error failure := by
      rw [bind_of_error answered]
    rw [bind_of_error failed, bind_of_error answered, bind_of_error answered]
  | ok between =>
    rw [bind_of_ok answered]
    cases followed :
        (second between (first env now).env (now + (first env now).elapsed)).answer with
    | error failure =>
      have failed : ((first >>= second) env now).answer = .error failure := by
        rw [bind_of_ok answered, Outcome.delayed_answer, followed]
      rw [bind_of_error failed, bind_of_error followed, bind_of_ok answered]
      rfl
    | ok last =>
      -- All three runs answer, so the spans and events of all three count.
      have lasted : ((first >>= second) env now).answer = .ok last := by
        rw [bind_of_ok answered, Outcome.delayed_answer, followed]
      rw [bind_of_ok lasted, bind_of_ok followed, bind_of_ok answered]
      simp [Outcome.delayed, Nat.add_assoc]

/-- A run after one that does nothing starts at once. -/
theorem pure_bind (answer : α) (next : α → Run σ β) :
    (Pure.pure answer >>= next) = next answer := by
  funext env now
  exact Outcome.delayed_zero _

/-- Handing on the answer of a run adds nothing to it. -/
theorem bind_pure (run : Run σ α) : (run >>= Pure.pure) = run := by
  -- The second run takes no time and adds no event, whether or not it starts.
  funext env now
  cases answered : (run env now).answer with
  | error failure => rw [bind_of_error answered, ← answered]
  | ok answer => simp [bind_of_ok answered, Outcome.delayed, ← answered]

/-- A function of the answer is all that changes when a run is followed by it. -/
theorem bind_map (run : Run σ α) (f : α → β) (env : σ) (now : Nat) :
    (run >>= fun answer => Pure.pure (f answer)) env now =
      ⟨(run env now).answer.map f, (run env now).env, (run env now).elapsed,
        (run env now).events⟩ := by
  -- A failure passes the function by.
  cases answered : (run env now).answer with
  | error failure => rw [bind_of_error answered, Except.map]
  | ok answer => simp [bind_of_ok answered, Outcome.delayed, Except.map]

/-- A computation on the answer of a run changes nothing else. -/
theorem bind_monadLift (run : Run σ α) (f : α → Except Failure β) (env : σ) (now : Nat) :
    (run >>= fun answer => (liftM (f answer) : Run σ β)) env now =
      ⟨(run env now).answer >>= f, (run env now).env, (run env now).elapsed,
        (run env now).events⟩ := by
  -- The computation takes no time, and what it answers is the answer of both.
  cases answered : (run env now).answer with
  | error failure =>
    rw [bind_of_error answered]
    rfl
  | ok answer =>
    rw [bind_of_ok answered, monadLift_apply]
    simp [Outcome.delayed, Bind.bind, Except.bind]

/-- Two runs in sequence answer when both of them do. -/
theorem bind_answer_eq_ok {first : Run σ α} {next : α → Run σ β} {env : σ} {now : Nat}
    {answer : β} :
    ((first >>= next) env now).answer = .ok answer ↔
      ∃ between, (first env now).answer = .ok between ∧
        (next between (first env now).env (now + (first env now).elapsed)).answer = .ok answer := by
  -- A first failure leaves no answer to the second run.
  cases answered : (first env now).answer with
  | error failure => simp [bind_of_error answered]
  | ok between => simp [bind_of_ok answered]

/-- Two runs in sequence fail when one of them does, the second one after the first has answered. -/
theorem bind_answer_eq_error {first : Run σ α} {next : α → Run σ β} {env : σ} {now : Nat}
    {failure : Failure} :
    ((first >>= next) env now).answer = .error failure ↔
      (first env now).answer = .error failure ∨ ∃ between, (first env now).answer = .ok between ∧
        (next between (first env now).env (now + (first env now).elapsed)).answer =
          .error failure := by
  -- The second run can only fail after the first one has answered.
  cases answered : (first env now).answer with
  | error other => simp [bind_of_error answered]
  | ok between => simp [bind_of_ok answered]

/-- The later of two runs that both answer does what is done last. -/
theorem bind_suffix {first : Run σ α} {next : α → Run σ β} {env : σ} {now : Nat} {answer : β}
    (answered : ((first >>= next) env now).answer = .ok answer) :
    ∃ between after later, (first env now).answer = .ok between ∧
      (next between after later).answer = .ok answer ∧
      (next between after later).events <:+ ((first >>= next) env now).events := by
  -- What the second run does comes behind what the first did.
  obtain ⟨between, began, ended⟩ := bind_answer_eq_ok.mp answered
  refine ⟨between, _, _, began, ended, ?_⟩
  rw [bind_of_ok began]
  exact List.suffix_append _ _

/-- Reading the clock before a run gives it the instant at which it starts. -/
@[simp] theorem now_bind (next : Nat → Run σ α) (env : σ) (instant : Nat) :
    (now >>= next) env instant = next instant env instant :=
  Outcome.delayed_zero _

/-- A computation that answers lets the next run start at once. -/
@[simp] theorem monadLift_ok_bind (answer : α) (next : α → Run σ β) :
    ((liftM (Except.ok answer : Except Failure α) : Run σ α) >>= next) = next answer := by
  funext env now
  exact Outcome.delayed_zero _

/-- A computation that fails ends a sequence at once. -/
@[simp] theorem monadLift_error_bind (failure : Failure) (next : α → Run σ β) :
    ((liftM (Except.error failure : Except Failure α) : Run σ α) >>= next) = fail failure := rfl

/-- Computations in sequence are one computation. -/
theorem monadLift_bind (first : Except Failure α) (next : α → Except Failure β) :
    (liftM (first >>= next) : Run σ β) = liftM first >>= fun answer => liftM (next answer) := by
  -- Either way the first failure is the result.
  cases first with
  | error failure => rfl
  | ok answer => exact (monadLift_ok_bind answer fun answer => liftM (next answer)).symm

/-- A run whose failure is caught is followed by the next one in any case. -/
theorem attempt_bind (run : Run σ α) (next : Except Failure α → Run σ β) (env : σ) (now : Nat) :
    (run.attempt >>= next) env now =
      (next (run env now).answer (run env now).env (now + (run env now).elapsed)).delayed
        (run env now).elapsed (run env now).events := rfl

/-- All that a run does, in every environment and at every instant, is of one sort. -/
def Does (run : Run σ α) (sort : Event → Prop) : Prop :=
  ∀ env now, ∀ event ∈ (run env now).events, sort event

/-- A computation does nothing. -/
theorem Does.monadLift (answer : Except Failure α) (sort : Event → Prop) :
    (liftM answer : Run σ α).Does sort := by
  -- There is no event that could be of another sort.
  intro env now event member
  rw [monadLift_apply] at member
  cases member

/-- A run that does nothing does nothing of another sort. -/
theorem Does.pure (answer : α) (sort : Event → Prop) : (Pure.pure answer : Run σ α).Does sort := by
  intro env now event member
  rw [pure_apply] at member
  cases member

/-- A run that fails at once does nothing. -/
theorem Does.fail (failure : Failure) (sort : Event → Prop) :
    (Run.fail failure : Run σ α).Does sort := by
  intro env now event member
  rw [fail_apply] at member
  cases member

/-- Reading the clock does nothing. -/
theorem Does.now_bind {next : Nat → Run σ α} {sort : Event → Prop}
    (does : ∀ instant, (next instant).Does sort) : (Run.now >>= next).Does sort := by
  -- The run that follows starts at the instant that was read.
  intro env now
  rw [Run.now_bind]
  exact does now env now

/-- Catching the failure of a run does not change what it does. -/
theorem Does.attempt {run : Run σ α} {sort : Event → Prop} (does : run.Does sort) :
    run.attempt.Does sort := does

/-- Runs in sequence do what each of them does. -/
theorem Does.bind {first : Run σ α} {next : α → Run σ β} {sort : Event → Prop}
    (early : first.Does sort) (late : ∀ between, (next between).Does sort) :
    (first >>= next).Does sort := by
  -- Whether the second run starts is up to the first, and its events come behind.
  intro env now event member
  cases answered : (first env now).answer with
  | error failure =>
    rw [bind_of_error answered] at member
    exact early env now event member
  | ok between =>
    rw [bind_of_ok answered, Outcome.delayed_events] at member
    rcases List.mem_append.mp member with here | later
    · exact early env now event here
    · exact late between _ _ event later

/-- A run leaves a view of the environment as it was, whatever it answers. -/
def Preserves (run : Run σ α) (view : σ → τ) : Prop :=
  ∀ env now, view (run env now).env = view env

/-- A computation preserves all of the environment. -/
theorem Preserves.monadLift (answer : Except Failure α) (view : σ → τ) :
    (liftM answer : Run σ α).Preserves view := by
  -- The environment is handed through.
  intro env now
  rw [monadLift_apply]

/-- A run that does nothing preserves all of the environment. -/
theorem Preserves.pure (answer : α) (view : σ → τ) :
    (Pure.pure answer : Run σ α).Preserves view := fun _ _ => rfl

/-- Runs in sequence preserve what each of them does. -/
theorem Preserves.bind {first : Run σ α} {next : α → Run σ β} {view : σ → τ}
    (early : first.Preserves view) (late : ∀ between, (next between).Preserves view) :
    (first >>= next).Preserves view := by
  -- If the first run fails, the second one has no part in it.
  intro env now
  cases answered : (first env now).answer with
  | error failure =>
    rw [bind_of_error answered]
    exact early env now
  | ok between =>
    rw [bind_of_ok answered]
    exact (late between _ _).trans (early env now)

/-- A run that answers has changed a view of the environment in one way. -/
def Moves (run : Run σ α) (view : σ → τ) (change : τ → τ) : Prop :=
  ∀ env now answer, (run env now).answer = .ok answer →
    view (run env now).env = change (view env)

/-- A run that preserves a view moves it nowhere. -/
theorem Preserves.moves {run : Run σ α} {view : σ → τ} (preserves : run.Preserves view) :
    run.Moves view id := fun env now _ _ => preserves env now

/-- Runs in sequence that both answer have made both changes. -/
theorem Moves.bind {first : Run σ α} {next : α → Run σ β} {view : σ → τ} {change further : τ → τ}
    (early : first.Moves view change) (late : ∀ between, (next between).Moves view further) :
    (first >>= next).Moves view (further ∘ change) := by
  -- The second change is made to what the first one has left.
  intro env now answer answered
  obtain ⟨between, began, ended⟩ := bind_answer_eq_ok.mp answered
  rw [bind_of_ok began]
  exact (late between _ _ answer ended).trans (congrArg further (early env now between began))

end Run

end Provision
