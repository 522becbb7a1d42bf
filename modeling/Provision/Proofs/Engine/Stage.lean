import Provision.Proofs.Engine.State

/-! Changes of an object are carried out in stages: a request each, and a poll that has to reach its
target before the next stage begins. -/

namespace Provision

/-- A request that changes an object, if it can be formed, and the poll that may follow it. -/
structure Stage where
  request : Except Failure Request
  poll : Option PollSpec := none

namespace Engine

variable {σ : Type} {e : Engine σ} {identifier : String} {deadline : Nat}

/-- The last event, if a poll is asked for, is a read of the object that shows its target. -/
def Reached (e : Engine σ) (spec : Option PollSpec) (identifier : String) (events : List Event) :
    Prop :=
  ∀ wanted ∈ spec, ∃ shown event, events.getLast? = some event ∧
    e.IsRead identifier shown event ∧ e.ShowsTarget wanted identifier shown

/-- What is done last is not changed by anything that is done before. -/
theorem Reached.of_suffix {spec : Option PollSpec} {events last : List Event}
    (reached : e.Reached spec identifier last) (suffix : last <:+ events) :
    e.Reached spec identifier events := by
  -- The last event of the suffix is the last event of the whole.
  intro wanted asked
  obtain ⟨shown, event, final, read, target⟩ := reached wanted asked
  obtain ⟨before, rfl⟩ := suffix
  exact ⟨shown, event, by rw [List.getLast?_append, final, Option.some_or], read, target⟩

/-- What the poll that may follow a step answers and does: it is carried out as such, it only
watches the object, and its success shows the target. -/
structure Polls (e : Engine σ) (spec : Option PollSpec) (identifier : String) (deadline : Nat)
    (answer : Except Failure Unit) (events : List Event) : Prop
    extends Watched e spec identifier answer events where
  polled : ∃ env now, (e.pollIfAny spec identifier deadline env now).answer = answer ∧
    (e.pollIfAny spec identifier deadline env now).events = events

/-- The poll that may follow a step goes like that. -/
theorem pollIfAny_obeys (e : Engine σ) (spec : Option PollSpec) (identifier : String)
    (deadline : Nat) : (e.pollIfAny spec identifier deadline).Obeys
      (e.Polls spec identifier deadline) :=
  fun env now => ⟨e.pollIfAny_watched spec identifier deadline env now, env, now, rfl, rfl⟩

/-- How one stage goes, and which request is sent in it: none if it cannot be formed, and else one,
after whose answer the object is polled. -/
inductive Performs (e : Engine σ) (identifier : String) (deadline : Nat) (stage : Stage) :
    List Request → Protocol Unit where
  | unformed {failure : Failure} : stage.request = .error failure →
      Performs e identifier deadline stage [] (.error failure) []
  | failed {start finish : Nat} {request : Request} {failure : Failure} :
      stage.request = .ok request →
      Performs e identifier deadline stage [request] (.error failure)
        [.call start finish request (.error failure)]
  | sent {start finish : Nat} {request : Request} {response : Response}
      {answer : Except Failure Unit} {watched : List Event} : stage.request = .ok request →
      e.Polls stage.poll identifier deadline answer watched →
      Performs e identifier deadline stage [request] answer
        (.call start finish request (.ok response) :: watched)

/-- How stages go one after the other, and which requests are sent in them: the first stage that
fails ends all, and each later one begins only after the poll of the one before has succeeded. -/
inductive CarriesOut (e : Engine σ) (identifier : String) (deadline : Nat) :
    List Stage → List Request → Protocol Unit where
  | done : CarriesOut e identifier deadline [] [] (.ok ()) []
  | stopped {stage : Stage} {rest : List Stage} {sent : List Request} {failure : Failure}
      {events : List Event} :
      e.Performs identifier deadline stage sent (.error failure) events →
      CarriesOut e identifier deadline (stage :: rest) sent (.error failure) events
  | passed {stage : Stage} {rest : List Stage} {sent more : List Request}
      {answer : Except Failure Unit} {before after : List Event} :
      e.Performs identifier deadline stage sent (.ok ()) before →
      CarriesOut e identifier deadline rest more answer after →
      CarriesOut e identifier deadline (stage :: rest) (sent ++ more) answer (before ++ after)

/-- Sends the request of a stage and waits until it has taken effect. -/
def perform (e : Engine σ) (identifier : String) (deadline : Nat) (stage : Stage) :
    Run σ Unit := do
  let request ← stage.request
  let _ ← e.remote.send request
  e.pollIfAny stage.poll identifier deadline

/-- Performs stages in order. -/
def carryOut (e : Engine σ) (identifier : String) (deadline : Nat) : List Stage → Run σ Unit
  | [] => return ()
  | stage :: rest => do
    e.perform identifier deadline stage
    e.carryOut identifier deadline rest

/-- A stage goes one of the ways there are. -/
theorem perform_performs (e : Engine σ) (identifier : String) (deadline : Nat) (stage : Stage)
    (env : σ) (now : Nat) :
    ∃ sent, e.Performs identifier deadline stage sent
      (e.perform identifier deadline stage env now).answer
      (e.perform identifier deadline stage env now).events := by
  -- A stage ends early if its request cannot be formed, or is answered by a failure.
  unfold perform
  cases formed : stage.request with
  | error failure => exact ⟨[], .unformed formed⟩
  | ok request =>
    rw [Run.monadLift_ok_bind]
    -- Whether the object is polled is up to the answer to the request.
    cases answered : (e.remote.send request env now).answer with
    | error failure =>
      rw [Run.bind_of_error answered]
      have same : (e.remote.reply request env).answer = .error failure := answered
      refine ⟨[request], ?_⟩
      simp only [Remote.send, same]
      exact .failed formed
    | ok response =>
      rw [Run.bind_of_ok answered]
      have same : (e.remote.reply request env).answer = .ok response := answered
      refine ⟨[request], ?_⟩
      simp only [Remote.send, same]
      exact .sent formed (e.pollIfAny_obeys stage.poll identifier deadline _ _)

/-- Stages go one after the other. -/
theorem carryOut_carriesOut (e : Engine σ) (identifier : String) (deadline : Nat)
    (stages : List Stage) (env : σ) (now : Nat) :
    ∃ sent, e.CarriesOut identifier deadline stages sent
      (e.carryOut identifier deadline stages env now).answer
      (e.carryOut identifier deadline stages env now).events := by
  -- The induction is on the stages, and the first one decides whether the others begin.
  induction stages generalizing env now with
  | nil => exact ⟨[], .done⟩
  | cons stage rest ih =>
    obtain ⟨sent, performs⟩ := e.perform_performs identifier deadline stage env now
    rw [carryOut]
    cases answered : (e.perform identifier deadline stage env now).answer with
    | error failure =>
      rw [Run.bind_of_error answered]
      exact ⟨sent, .stopped (answered ▸ performs)⟩
    | ok =>
      rw [Run.bind_of_ok answered]
      obtain ⟨more, carries⟩ := ih (e.perform identifier deadline stage env now).env
        (now + (e.perform identifier deadline stage env now).elapsed)
      exact ⟨sent ++ more, .passed (answered ▸ performs) carries⟩

/-- A stage sends nothing but its own request, and sends that before it succeeds. -/
theorem Performs.sent_eq {stage : Stage} {sent : List Request} {answer : Except Failure Unit}
    {events : List Event} (performs : e.Performs identifier deadline stage sent answer events) :
    sent.map .ok = [stage.request] ∨ sent = [] ∧ ∃ failure, answer = .error failure := by
  -- Only a stage whose request cannot be formed sends nothing, and that one fails.
  cases performs with
  | unformed => exact .inr ⟨rfl, _, rfl⟩
  | failed formed => exact .inl (by rw [formed]; rfl)
  | sent formed => exact .inl (by rw [formed]; rfl)

/-- A stage that succeeds has sent its request. -/
theorem Performs.sent_of_ok {stage : Stage} {sent : List Request} {events : List Event}
    (performs : e.Performs identifier deadline stage sent (.ok ()) events) :
    sent.map .ok = [stage.request] := by
  -- The other way for a stage to go is to fail.
  rcases performs.sent_eq with same | ⟨-, _, failed⟩
  · exact same
  · cases failed

/-- The requests that are sent in stages are the first ones of those that belong to the stages. -/
theorem CarriesOut.sent_planned {stages : List Stage} {sent : List Request}
    {answer : Except Failure Unit} {events : List Event}
    (carries : e.CarriesOut identifier deadline stages sent answer events) :
    sent.map .ok <+: stages.map (·.request) := by
  -- The induction is on the stages: only the last one begun may have sent nothing.
  induction carries with
  | done => exact List.nil_prefix
  | stopped performs =>
    rcases performs.sent_eq with same | ⟨empty, -⟩
    · rw [same, List.map_cons]
      exact List.prefix_append [_] _
    · rw [empty]
      exact List.nil_prefix
  | passed performs _ ih =>
    rw [List.map_append, performs.sent_of_ok, List.map_cons]
    exact (List.prefix_append_right_inj [_]).mpr ih

/-- Where all stages succeed, all their requests are sent. -/
theorem CarriesOut.sent_of_ok {stages : List Stage} {sent : List Request} {events : List Event}
    (carries : e.CarriesOut identifier deadline stages sent (.ok ()) events) :
    sent.map .ok = stages.map (·.request) := by
  -- The answer is kept as an equation, so that the induction sees where the stages stopped.
  generalize answered : (Except.ok () : Except Failure Unit) = answer at carries
  induction carries with
  | done => rfl
  | stopped => cases answered
  | passed performs _ ih =>
    rw [List.map_append, performs.sent_of_ok, ih answered, List.map_cons]
    rfl

/-- What happens in stages is a request of one of them, or part of watching the object. -/
theorem CarriesOut.does {stages : List Stage} {sent : List Request} {answer : Except Failure Unit}
    {events : List Event}
    (carries : e.CarriesOut identifier deadline stages sent answer events) :
    ∀ event ∈ events, e.IsWatch identifier event ∨
      ∃ stage ∈ stages, ∃ start finish request reply, stage.request = .ok request ∧
        event = .call start finish request reply := by
  -- What one stage does is told apart first, and the induction finds it among the others.
  have performed {stage : Stage} {sent : List Request} {answer : Except Failure Unit}
      {events : List Event} (performs : e.Performs identifier deadline stage sent answer events) :
      ∀ event ∈ events, e.IsWatch identifier event ∨
        ∃ start finish request reply, stage.request = .ok request ∧
          event = .call start finish request reply := by
    cases performs with
    | unformed => simp
    | failed formed => simpa using .inr formed
    | sent formed polls =>
      intro event member
      rcases List.mem_cons.mp member with rfl | watched
      · exact .inr ⟨_, _, _, _, formed, rfl⟩
      · exact .inl (polls.watches event watched)
  induction carries with
  | done => simp
  | stopped performs =>
    intro event member
    exact (performed performs event member).imp_right fun own => ⟨_, List.mem_cons_self, own⟩
  | passed performs _ ih =>
    intro event member
    rcases List.mem_append.mp member with here | later
    · exact (performed performs event here).imp_right fun own => ⟨_, List.mem_cons_self, own⟩
    · refine (ih event later).imp_right ?_
      rintro ⟨stage, listed, own⟩
      exact ⟨stage, List.mem_cons_of_mem _ listed, own⟩

/-- The request of a stage is the first thing that happens in it, whichever way it goes. -/
theorem Performs.sends_first {stage : Stage} {sent : List Request} {answer : Except Failure Unit}
    {events : List Event} {request : Request}
    (performs : e.Performs identifier deadline stage sent answer events)
    (member : request ∈ sent) :
    ∃ start finish reply after, events = .call start finish request reply :: after := by
  -- A failed call and an answered one both stand at the head of the events.
  cases performs with
  | unformed => cases member
  | failed | sent =>
    cases List.mem_singleton.mp member
    exact ⟨_, _, _, _, rfl⟩

/-- The requests that are sent in stages are among what happens. -/
theorem CarriesOut.exists_call {stages : List Stage} {sent : List Request}
    {answer : Except Failure Unit} {events : List Event} {request : Request}
    (carries : e.CarriesOut identifier deadline stages sent answer events)
    (member : request ∈ sent) :
    ∃ start finish reply, .call start finish request reply ∈ events := by
  -- The induction is on the stages: a request is sent in this one or in a later one.
  induction carries with
  | done => cases member
  | stopped performs =>
    obtain ⟨_, _, _, _, rfl⟩ := performs.sends_first member
    exact ⟨_, _, _, List.mem_cons_self⟩
  | passed performs _ ih =>
    rcases List.mem_append.mp member with here | later
    · obtain ⟨_, _, _, _, rfl⟩ := performs.sends_first here
      exact ⟨_, _, _, List.mem_append_left _ List.mem_cons_self⟩
    · obtain ⟨_, _, _, happened⟩ := ih later
      exact ⟨_, _, _, List.mem_append_right _ happened⟩

/-- A stage that succeeds sends its request first, and where it is followed by a poll, that ends
with a read that shows the target. -/
theorem Performs.of_ok {stage : Stage} {sent : List Request} {events : List Event}
    (performs : e.Performs identifier deadline stage sent (.ok ()) events) :
    ∃ start finish request reply watched, sent = [request] ∧
      events = .call start finish request reply :: watched ∧
      e.Reached stage.poll identifier events := by
  -- Of the three ways only the one that polls can succeed.
  generalize answered : (Except.ok () : Except Failure Unit) = answer at performs
  cases performs with
  | unformed | failed => cases answered
  | sent _ polls =>
    have reached : e.Reached stage.poll identifier _ := polls.reached answered.symm
    exact ⟨_, _, _, _, _, rfl, rfl, reached.of_suffix (List.suffix_cons _ _)⟩

/-- The first request of some stages is sent before anything else happens. -/
theorem CarriesOut.first {stages : List Stage} {sent : List Request}
    {answer : Except Failure Unit} {events : List Event} {request : Request}
    (carries : e.CarriesOut identifier deadline stages sent answer events)
    (first : sent[0]? = some request) :
    ∃ start finish reply after, events = .call start finish request reply :: after := by
  -- A stage that succeeds has sent its request, so the first request is the first event.
  cases carries with
  | done => cases first
  | stopped performs => exact performs.sends_first (List.mem_of_getElem? first)
  | passed performs _ =>
    obtain ⟨_, _, _, _, _, rfl, rfl, -⟩ := performs.of_ok
    cases first
    exact ⟨_, _, _, _, rfl⟩

/-- Before the request of a later stage is sent, the last thing that happened is a read of the
object that shows the target of the poll before it. -/
theorem CarriesOut.awaits {stages : List Stage} {sent : List Request}
    {answer : Except Failure Unit} {events : List Event}
    (carries : e.CarriesOut identifier deadline stages sent answer events) {i : Nat}
    {stage : Stage} {request : Request} (here : stages[i]? = some stage)
    (next : sent[i + 1]? = some request) :
    ∃ before start finish reply after,
      events = before ++ .call start finish request reply :: after ∧
      e.Reached stage.poll identifier before := by
  -- The induction follows the stages until the one in question is the first of those left.
  induction carries generalizing i with
  | done => cases next
  | stopped performs => cases performs <;> cases next
  | @passed first rest sent more answer earlier later performs carries ih =>
    obtain ⟨_, _, made, _, _, rfl, -, reached⟩ := performs.of_ok
    cases i with
    | zero =>
      cases here
      obtain ⟨start, finish, reply, after, rfl⟩ := carries.first next
      exact ⟨earlier, start, finish, reply, after, rfl, reached⟩
    | succ i =>
      obtain ⟨before, start, finish, reply, after, rfl, reached⟩ := ih here next
      refine ⟨earlier ++ before, start, finish, reply, after, by simp, ?_⟩
      exact reached.of_suffix (List.suffix_append _ _)

/-- Stages in two parts are performed part by part. -/
theorem carryOut_append (e : Engine σ) (identifier : String) (deadline : Nat)
    (first second : List Stage) :
    e.carryOut identifier deadline (first ++ second) = (do
      e.carryOut identifier deadline first
      e.carryOut identifier deadline second) := by
  -- The induction is on the first part, and binding is associative.
  induction first with
  | nil => rw [List.nil_append, carryOut, Run.pure_bind]
  | cons stage rest ih =>
    rw [List.cons_append, carryOut, carryOut, ih, Run.bind_assoc]

/-- The stage of an update group: its request with the body that the kind builds for it. -/
def groupStage (e : Engine σ) (identifier : String) (wanted : Resource) (group : UpdateGroup) :
    Stage where
  request := do
    let request ← e.request group.endpoint (some identifier)
    return withBody request (← e.kind.body (.update group.attributes) wanted)
  poll := group.poll

/-- The request of a tag action. -/
def tagRequest (e : Engine σ) (tagging : Tagging) (identifier action : String)
    (tags : List Document) : Except Failure Request := do
  -- The endpoint is the same for every kind but for its path.
  let endpoint : Endpoint :=
    { method := .post, path := tagging.actionPath, successCodes := [200, 204] }
  let request ← e.request endpoint (some identifier)
  return { request with body := some (tagBody action tags) }

/-- The stage of a tag action, unless there is nothing to act on. -/
def tagStages (e : Engine σ) (tagging : Tagging) (identifier action : String)
    (tags : List Document) : List Stage :=
  if tags.isEmpty then [] else [{ request := e.tagRequest tagging identifier action tags }]

/-- A stage of a tag action has the request of that. -/
theorem request_of_mem_tagStages {tagging : Tagging} {action : String} {tags : List Document}
    {stage : Stage} (member : stage ∈ e.tagStages tagging identifier action tags) :
    stage.request = e.tagRequest tagging identifier action tags := by
  -- There is one stage at most.
  unfold tagStages at member
  split at member
  · cases member
  · cases List.mem_singleton.mp member
    rfl

/-- The request of a group is sent as its stage. -/
theorem updateGroup_eq (e : Engine σ) (identifier : String) (wanted : Resource) (deadline : Nat)
    (group : UpdateGroup) : e.updateGroup identifier wanted deadline group =
      e.perform identifier deadline (e.groupStage identifier wanted group) := by
  -- A stage forms its request with the body, and only then sends it.
  rw [updateGroup, perform, groupStage, Run.monadLift_bind, Run.bind_assoc]
  congr 1
  funext request
  rw [Run.monadLift_bind, Run.bind_assoc]
  congr 1
  funext body
  exact (Run.monadLift_ok_bind _ _).symm

/-- The requests of groups are sent as their stages. -/
theorem updateGroups_eq (e : Engine σ) (identifier : String) (wanted : Resource) (deadline : Nat)
    (groups : List UpdateGroup) : e.updateGroups identifier wanted deadline groups =
      e.carryOut identifier deadline (groups.map (e.groupStage identifier wanted)) := by
  -- Each group has one stage, in the order of the groups.
  induction groups with
  | nil => rfl
  | cons group rest ih => rw [updateGroups, updateGroup_eq, ih, List.map_cons, carryOut]

/-- A tag action sends its request, unless there is nothing to act on. -/
theorem tagAction_eq_ite (e : Engine σ) (tagging : Tagging) (identifier action : String)
    (tags : List Document) : e.tagAction tagging identifier action tags =
      if tags.isEmpty then pure () else (do
        let _ ← (do
          let request ← e.tagRequest tagging identifier action tags
          e.remote.send request)
        return ()) := by
  -- The request is formed with its body at once, and sent after that.
  rw [tagAction]
  split
  · rfl
  · rw [tagRequest, Run.bind_assoc]
    dsimp only
    rw [Run.monadLift_bind, Run.bind_assoc]
    congr 1
    funext request
    exact (Run.monadLift_ok_bind _ _).symm

/-- A tag action is sent as its stage, which no poll follows. -/
theorem tagAction_eq (e : Engine σ) (tagging : Tagging) (identifier action : String)
    (tags : List Document) (deadline : Nat) : e.tagAction tagging identifier action tags =
      e.carryOut identifier deadline (e.tagStages tagging identifier action tags) := by
  -- A single stage is carried out with nothing behind it.
  rw [tagAction_eq_ite, tagStages]
  split
  · rfl
  · rw [carryOut, carryOut, Run.bind_pure, perform, Run.bind_assoc]
    rfl

/-- Tags are changed by two tag actions in order. -/
theorem applyTags_eq (e : Engine σ) (tagging : Tagging) (identifier : String)
    (old new : Option Value) (deadline : Nat) : e.applyTags tagging identifier old new =
      e.carryOut identifier deadline
        (e.tagStages tagging identifier "delete" (Tags.diff old new).1 ++
          e.tagStages tagging identifier "create" (Tags.diff old new).2) := by
  -- The removals are the first part of the stages, and the additions the second.
  rw [carryOut_append, ← tagAction_eq, ← tagAction_eq]
  rfl

end Engine

end Provision
