import Provision.Catalogue.Volume
import Provision.Proofs.Catalogue
import Provision.Proofs.Engine.Update
import Provision.Script

/-! An update that is rejected is rejected before anything is sent, and nothing that goes wrong
later is taken for a rejection. -/

namespace Provision

variable {σ α β : Type}

/-- The failures by which an operation is refused, as opposed to what goes wrong on the way. -/
def Failure.isRefusal : Failure → Bool
  | resourceGone _ | requiresReplacement _ | invalidConfiguration _ | notUpdatable _ => true
  | _ => false

/-- The failures that a call has by itself: it does not get through, or its answer is no success
or cannot be decoded. -/
inductive Failure.IsPlain : Failure → Prop where
  | transport {message : String} : IsPlain (.transport message)
  | status {code : Nat} {body : String} : IsPlain (.unexpectedStatus code body)
  | decode {message : String} : IsPlain (.decode message)

/-- The calls of a service fail by themselves only. -/
def Remote.FailsPlainly (remote : Remote σ) : Prop :=
  ∀ request env failure, (remote.reply request env).answer = .error failure → failure.IsPlain

/-- An answer that cannot be taken is a failure of the call itself. -/
theorem Response.isPlain_of_decode {request : Request} {status : Nat} {raw : List UInt8}
    {failure : Failure} (failed : decode request status raw = .error failure) :
    failure.IsPlain := by
  unfold decode at failed
  split at failed
  · cases failed
    exact .status
  · -- A blank body is no failure, and neither is one that is a document.
    split at failed
    · cases failed
    · split at failed
      · cases failed
      · cases failed
        exact .decode

/-- The calls of a script fail by themselves only, also where it has no line for them. -/
theorem Script.remote_failsPlainly : Script.remote.FailsPlainly := by
  -- A line gives an answer or no connection, and without a line there is no connection.
  intro request script failure failed
  simp only [remote] at failed
  split at failed
  · rename_i line _
    cases reaction : line.reaction with
    | noConnection message =>
      rw [reaction] at failed
      cases failed
      exact .transport
    | answer status raw =>
      rw [reaction] at failed
      exact Response.isPlain_of_decode failed
  · cases failed
    exact .transport

/-- A computation that never refuses anything. -/
def Unrefusing (formed : Except Failure α) : Prop :=
  ∀ failure, formed = .error failure → failure.isRefusal = false

namespace Run

/-- A run that never refuses anything, whatever else goes wrong in it. -/
def Unrefusing (run : Run σ α) : Prop :=
  ∀ env now, Provision.Unrefusing (run env now).answer

/-- A run that answers at once does not refuse. -/
theorem Unrefusing.pure (answer : α) : (Pure.pure answer : Run σ α).Unrefusing :=
  fun _ _ _ failed => nomatch failed

/-- A computation in a run refuses as little as by itself. -/
theorem Unrefusing.monadLift {formed : Except Failure α} (quiet : Provision.Unrefusing formed) :
    (liftM formed : Run σ α).Unrefusing := by
  intro env now
  rw [monadLift_apply]
  exact quiet

/-- Runs in sequence refuse nothing when none of them does. -/
theorem Unrefusing.bind {first : Run σ α} {next : α → Run σ β} (quiet : first.Unrefusing)
    (later : ∀ between, (next between).Unrefusing) : (first >>= next).Unrefusing := by
  -- A failure comes from the first run or from what follows it.
  intro env now failure failed
  rcases bind_answer_eq_error.mp failed with early | ⟨between, -, late⟩
  · exact quiet env now failure early
  · exact later between _ _ failure late

/-- What follows a caught failure refuses nothing when it does not for answers without refusal. -/
theorem Unrefusing.attempt_bind {run : Run σ α} {next : Except Failure α → Run σ β}
    (quiet : run.Unrefusing) (later : ∀ answer, Provision.Unrefusing answer →
      (next answer).Unrefusing) : (run.attempt >>= next).Unrefusing := by
  -- The caught answer is one that refuses nothing.
  intro env now
  rw [Run.attempt_bind, Outcome.delayed_answer]
  exact later _ (quiet env now) _ _

end Run

/-- Sending a request to a service that fails plainly refuses nothing. -/
theorem Remote.FailsPlainly.send {remote : Remote σ} (plain : remote.FailsPlainly)
    (request : Request) : (remote.send request).Unrefusing := by
  -- None of the plain failures is a refusal.
  intro env now failure failed
  cases plain request env failure failed <;> rfl

/-- A poll refuses nothing when its looks do not. -/
theorem PollSpec.run_unrefusing (spec : PollSpec) {look : Run σ (Observation α)}
    (quiet : look.Unrefusing) (caller : Option Nat) : (spec.run look caller).Unrefusing := by
  intro env start failure failed
  by_cases sound : spec.Sound
  · -- A poll that is carried out fails only with its last look.
    obtain ⟨n, ends⟩ := run_endsAt sound look caller env start
    rw [run_of_sound sound, Outcome.delayed_answer] at failed
    have concludes := ends.answer
    rw [failed] at concludes
    obtain ⟨before, outcome⟩ := course_outcome spec look (spec.deadline caller start) env
      (spec.firstLook (spec.deadline caller start) start) n
    generalize answered : (spec.course look (spec.deadline caller start) env
      (spec.firstLook (spec.deadline caller start) start) n).outcome.answer = last at concludes
    cases concludes
    exact quiet before _ failure (outcome ▸ answered)
  · -- A poll that is refused fails as a poll.
    obtain ⟨fault, -, refused⟩ := run_of_not_sound sound look caller env start
    rw [refused] at failed
    cases failed
    rfl

namespace Engine

variable {e : Engine σ} {identifier : String} {current : State} {wanted : Resource}

/-- A request that cannot be formed is no refusal. -/
theorem request_unrefusing (e : Engine σ) (endpoint : Endpoint) (target : Option String) :
    Unrefusing (e.request endpoint target) := by
  -- A name that is missing in a path is another sort of failure.
  intro failure failed
  obtain ⟨template, placeholder, rfl⟩ := request_eq_error failed
  rfl

/-- A path expression that is malformed is no refusal. -/
theorem unrefusing_of_path (found : Except Path.Error α) :
    Unrefusing (found.mapError Failure.path) := by
  -- It is reported as a failure of the path.
  intro failure failed
  cases found with
  | error malformed =>
    cases failed
    rfl
  | ok => cases failed

/-- Computations in sequence refuse nothing when none of them does. -/
theorem unrefusing_bind {first : Except Failure α} {next : α → Except Failure β}
    (quiet : Unrefusing first) (later : ∀ between, Unrefusing (next between)) :
    Unrefusing (first >>= next) := by
  -- The first computation that fails gives its own failure.
  intro failure failed
  cases answered : first with
  | error other =>
    rw [answered] at failed
    cases failed
    exact quiet failure answered
  | ok between =>
    rw [answered] at failed
    exact later between failure failed

/-- The status of a document is never a refusal. -/
theorem status_unrefusing (e : Engine σ) (document : Document) :
    Unrefusing (e.status? document) := by
  -- At most the path of the status is malformed.
  intro failure failed
  unfold status? at failed
  split at failed
  · exact unrefusing_of_path _ failure failed
  · cases failed

/-- The attributes that a document shows are never a refusal. -/
theorem attributesOf_unrefusing (e : Engine σ) (document : Document) :
    Unrefusing (e.attributesOf document) := by
  -- The attributes fail over a path, and so do the tags.
  unfold attributesOf
  refine unrefusing_bind (unrefusing_of_path _) fun attributes => ?_
  split
  · exact unrefusing_bind (unrefusing_of_path _) fun path failure failed => nomatch failed
  · exact fun failure failed => nomatch failed

/-- What an answer without refusal says about an object is no refusal either. -/
theorem judge_unrefusing {answer : Except Failure Response} (quiet : Unrefusing answer) :
    Unrefusing (e.judge identifier answer) := by
  -- Besides the failure of the answer itself, only paths can be malformed.
  intro failure failed
  unfold judge at failed
  split at failed
  · split at failed
    · cases failed
    · cases failed
      exact quiet _ rfl
  · split at failed
    · -- The paths of the selector may be malformed.
      rename_i unselected
      cases failed
      unfold select at unselected
      split at unselected
      · exact unrefusing_of_path _ _ unselected
      · cases unselected
    · cases failed
    · split at failed
      · -- So may the path of the status.
        rename_i unread
        cases failed
        exact status_unrefusing e _ _ unread
      · cases failed
      · split at failed <;> cases failed

/-- What such an answer lets a look see is none. -/
theorem sight_unrefusing {answer : Except Failure Response} (quiet : Unrefusing answer) :
    Unrefusing (e.sight identifier answer) := by
  -- The judgement and the status are all that can fail.
  unfold sight
  refine unrefusing_bind (judge_unrefusing quiet) fun found => ?_
  cases found with
  | none => exact fun failure failed => nomatch failed
  | some document =>
    exact unrefusing_bind (status_unrefusing e document) fun status failure failed => nomatch failed

/-- The state that such an answer shows is none. -/
theorem recognise_unrefusing {id : ResourceId} {answer : Except Failure Response}
    (quiet : Unrefusing answer) : Unrefusing (e.recognise id identifier answer) := by
  -- Here it is the judgement and the attributes.
  unfold recognise
  refine unrefusing_bind (judge_unrefusing quiet) fun found => ?_
  cases found with
  | none => exact fun failure failed => nomatch failed
  | some document =>
    exact unrefusing_bind (attributesOf_unrefusing e document) fun shown failure failed =>
      nomatch failed

/-- What is made of the answer to a read refuses nothing when it does not for such answers. -/
theorem unrefusing_of_read {next : Except Failure Response → Except Failure α}
    (plain : e.remote.FailsPlainly)
    (later : ∀ answer, Unrefusing answer → Unrefusing (next answer)) :
    (do
      let request ← e.request e.blueprint.read (some identifier)
      let answer ← (e.remote.send request).attempt
      next answer : Run σ α).Unrefusing := by
  -- Behind the request only its answer is looked at.
  refine (Run.Unrefusing.monadLift (request_unrefusing e _ _)).bind fun request => ?_
  exact (plain.send request).attempt_bind fun answer quiet => .monadLift (later answer quiet)

/-- Looking at an object refuses nothing. -/
theorem look_unrefusing (plain : e.remote.FailsPlainly) : (e.look identifier).Unrefusing := by
  rw [look_eq]
  exact unrefusing_of_read plain fun answer => sight_unrefusing

/-- Reading the state of an object refuses nothing. -/
theorem read_unrefusing {id : ResourceId} (plain : e.remote.FailsPlainly) :
    (e.read id identifier).Unrefusing := by
  rw [read_eq]
  exact unrefusing_of_read plain fun answer => recognise_unrefusing

/-- The poll that may follow a step refuses nothing. -/
theorem pollIfAny_unrefusing {spec : Option PollSpec} {deadline : Nat}
    (plain : e.remote.FailsPlainly) : (e.pollIfAny spec identifier deadline).Unrefusing := by
  -- Without a poll nothing can fail.
  cases spec with
  | none => exact .pure ()
  | some spec =>
    have polled : (e.poll spec identifier deadline).Unrefusing := by
      refine (spec.run_unrefusing (look_unrefusing plain) _).bind fun report => ?_
      refine .monadLift fun failure failed => ?_
      -- A verdict fails as a poll, which is no refusal.
      unfold Report.result at failed
      split at failed <;> cases failed <;> rfl
    exact polled.bind fun _ => .pure ()

/-- Stages refuse nothing when none of their requests does. -/
theorem carryOut_unrefusing {deadline : Nat} {stages : List Stage} (plain : e.remote.FailsPlainly)
    (quiet : ∀ stage ∈ stages, Unrefusing stage.request) :
    (e.carryOut identifier deadline stages).Unrefusing := by
  -- The induction is on the stages: a request, its answer and a poll each, and then the others.
  induction stages with
  | nil => exact .pure ()
  | cons stage rest ih =>
    obtain ⟨here, later⟩ := List.forall_mem_cons.mp quiet
    have performed : (e.perform identifier deadline stage).Unrefusing := by
      refine (Run.Unrefusing.monadLift here).bind fun request => ?_
      exact (plain.send request).bind fun _ => pollIfAny_unrefusing plain
    exact performed.bind fun _ => ih later

/-- The request of a tag action is no refusal. -/
theorem tagRequest_unrefusing (e : Engine σ) (tagging : Tagging) (identifier action : String)
    (tags : List Document) : Unrefusing (e.tagRequest tagging identifier action tags) :=
  -- The body of a tag action cannot fail, so only its path can.
  unrefusing_bind (request_unrefusing e _ _) fun _ _ failed => nomatch failed

/-- No request of an accepted update is a refusal if the kind can build the body of every update. -/
theorem updateStages_unrefusing {changed : List String}
    (accepts : e.Accepts current wanted changed) (builds : e.kind.BuildsUpdates) :
    ∀ stage ∈ e.updateStages identifier current wanted changed, Unrefusing stage.request := by
  -- A group has a body that can be built, and a tag action has one that cannot fail.
  intro stage member
  rcases of_mem_updateStages member with ⟨group, -, touches, rfl⟩ | ⟨tagging, action, tags, own⟩
  · refine unrefusing_bind (request_unrefusing e _ _) fun request => ?_
    obtain ⟨body, built⟩ := builds group.attributes wanted (accepts.sound_of_touches touches)
    rw [built]
    exact fun failure failed => nomatch failed
  · rw [own]
    exact tagRequest_unrefusing e tagging identifier action tags

/-- An accepted update refuses nothing later on. -/
theorem update_unrefusing {changed : List String} (accepts : e.Accepts current wanted changed)
    (builds : e.kind.BuildsUpdates) (plain : e.remote.FailsPlainly) (id : ResourceId)
    (identifier : String) : (e.update id identifier current wanted).Unrefusing := by
  -- The plan of an accepted update does not fail, and nothing behind it refuses.
  intro env now
  rw [update_eq, Run.now_bind, accepts.plan identifier, Run.monadLift_ok_bind]
  have changes : (e.carryOut identifier (Instant.after now e.timeouts.update)
      (e.updateStages identifier current wanted changed)).Unrefusing :=
    carryOut_unrefusing plain (updateStages_unrefusing accepts builds)
  exact (changes.bind fun _ => (read_unrefusing plain).bind fun _ => .pure _) env now

/-- A rejected update does nothing but fail. -/
theorem Rejects.update {failure : Failure} (rejects : e.Rejects identifier current wanted failure)
    (id : ResourceId) (env : σ) (now : Nat) :
    e.update id identifier current wanted env now = ⟨.error failure, env, 0, []⟩ := by
  -- The plan comes first, and fails.
  rw [update_eq, Run.now_bind, rejects.plan, Run.monadLift_error_bind, Run.fail_apply]

/-- No reason to reject it speaks against an accepted update. -/
theorem Accepts.without_reason {changed : List String}
    (accepts : e.Accepts current wanted changed) :
    ¬(current.present = false ∨
      (∃ name, Differs e.kind.schema wanted current name ∧ IsFixed e.kind.schema name) ∨
      ((∃ name, Differs e.kind.schema wanted current name) ∧
        e.kind.schema.faults wanted.attributes ≠ []) ∨
      ∃ name, Differs e.kind.schema wanted current name ∧ ¬e.IsCovered name) := by
  -- Each reason contradicts one part of the acceptance.
  rintro (absent | ⟨name, differs, fixed⟩ | ⟨⟨name, differs⟩, faulty⟩ | ⟨name, differs, uncovered⟩)
  · exact Bool.false_ne_true (absent.symm.trans accepts.present)
  · exact accepts.movable name differs fixed
  · have changes : changed ≠ [] := List.ne_nil_of_mem ((accepts.listed.mem_iff name).mpr differs)
    exact faulty (accepts.valid changes)
  · exact uncovered (accepts.covered name differs)

/--
An update is rejected before anything is sent, or not at all.

There are four reasons, of which the first that applies counts, and each of them is enough. Where
bodies cannot fail and calls fail only by themselves, no later failure looks like a rejection.
-/
theorem update_rejected_at_once (e : Engine σ) (id : ResourceId) (identifier : String)
    (current : State) (wanted : Resource) (env : σ) (now : Nat) :
    let o := e.update id identifier current wanted env now
    (∀ failure, e.Rejects identifier current wanted failure →
      o = ⟨.error failure, env, 0, []⟩) ∧
    (current.present = false ∨
        (∃ name, Differs e.kind.schema wanted current name ∧ IsFixed e.kind.schema name) ∨
        ((∃ name, Differs e.kind.schema wanted current name) ∧
          e.kind.schema.faults wanted.attributes ≠ []) ∨
        (∃ name, Differs e.kind.schema wanted current name ∧ ¬e.IsCovered name) →
      ∃ failure, e.Rejects identifier current wanted failure) ∧
    (e.kind ∈ Catalogue.kinds ∨ e.kind.IsSchemaDriven → e.remote.FailsPlainly →
      ∀ failure, o.answer = .error failure → failure.isRefusal = true →
        e.Rejects identifier current wanted failure ∧ o.events = []) := by
  intro o
  -- An update that is not accepted is rejected with one of the failures.
  refine ⟨fun failure rejects => rejects.update id env now, fun reason => ?_, ?_⟩
  · rcases e.accepts_or_rejects identifier current wanted with ⟨changed, accepts⟩ | rejected
    · exact absurd reason accepts.without_reason
    · exact rejected
  · intro known plain failure failed refusal
    -- An accepted update never refuses anything, so this one was rejected at once.
    rcases e.accepts_or_rejects identifier current wanted with
      ⟨changed, accepts⟩ | ⟨other, rejects⟩
    · have builds : e.kind.BuildsUpdates :=
        known.elim Catalogue.buildsUpdates Kind.IsSchemaDriven.buildsUpdates
      have quiet := update_unrefusing accepts builds plain id identifier env now failure failed
      rw [quiet] at refusal
      cases refusal
    · have same : o = ⟨.error other, env, 0, []⟩ := rejects.update id env now
      rw [same] at failed
      cases failed
      exact ⟨rejects, by rw [same]⟩

/-- A volume does not move to another zone by an update, and the remote side, which would have
taken it, is not even asked to. -/
theorem update_rejected_at_once_volume :
    let e : Engine Script :=
      { kind := Catalogue.Volume.kind
        remote := Script.remote
        params := Dict.empty.insert "project_id" "p1" }
    let id : ResourceId := ⟨"hcs_evs_volume", "data"⟩
    let script : Script := [("PUT v2/p1/cloudvolumes/v-1", [⟨.answer 200 [], 0⟩])]
    let current : State :=
      .found id "v-1" (Dict.empty.insert "availability_zone" (.string "az1"))
    let wanted : Resource := ⟨id, Dict.empty.insert "availability_zone" (.string "az2")⟩
    let refusal : Failure := .requiresReplacement ["availability_zone"]
    e.Rejects "v-1" current wanted refusal ∧ e.kind ∈ Catalogue.kinds ∧ e.remote.FailsPlainly ∧
      e.update id "v-1" current wanted script 0 = ⟨.error refusal, script, 0, []⟩ ∧
      ∀ failure, (e.update id "v-1" current wanted script 0).answer = .error failure →
        failure.isRefusal = true → e.Rejects "v-1" current wanted failure := by
  -- The zone is fixed at the creation, which is the first thing an update asks about.
  intro e id script current wanted refusal
  have rejects : e.Rejects "v-1" current wanted refusal :=
    plan_eq_error_iff.mp (by decide +kernel)
  have listed : e.kind ∈ Catalogue.kinds := by simp [e, Catalogue.kinds]
  have plain : e.remote.FailsPlainly := Script.remote_failsPlainly
  obtain ⟨atOnce, -, later⟩ := update_rejected_at_once e id "v-1" current wanted script 0
  refine ⟨rejects, listed, plain, atOnce refusal rejects, fun failure failed refuses => ?_⟩
  exact (later (.inl listed) plain failure failed refuses).1

end Engine

end Provision
