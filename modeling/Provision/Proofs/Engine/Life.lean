import Provision.Catalogue.Volume
import Provision.Proofs.Engine.Delete
import Provision.Proofs.Engine.State
import Provision.Script

/-! The life of an object that was created prepaid, and how its last state decides its end. -/

namespace Provision.Engine

variable {σ : Type} {e : Engine σ} {identifier : String}

/-- What a step in the life of an object gave and did, and the resource that it was given. -/
structure Known where
  state : State
  events : List Event
  given : Option Resource

/-- The life of an object from its prepaid creation on: it is read and updated any number of
times, each update from the state before, at any instants and in any environments. -/
inductive Lives (e : Engine σ) (identifier : String) : Known → Prop where
  | created {wanted : Resource} {env : σ} {now : Nat} {state : State} :
      e.isPrepaid (e.completed wanted).attributes = true →
      (e.create wanted env now).answer = .ok state → state.identifier = some identifier →
      Lives e identifier ⟨state, (e.create wanted env now).events, some (e.completed wanted)⟩
  | read {known : Known} {id : ResourceId} {env : σ} {now : Nat} {state : State} :
      Lives e identifier known → (e.read id identifier env now).answer = .ok state →
      Lives e identifier ⟨state, (e.read id identifier env now).events, none⟩
  | updated {known : Known} {id : ResourceId} {wanted : Resource} {env : σ} {now : Nat}
      {state : State} : Lives e identifier known →
      (e.update id identifier known.state wanted env now).answer = .ok state →
      Lives e identifier
        ⟨state, (e.update id identifier known.state wanted env now).events, some wanted⟩

/-- All its life, an object that was created prepaid has a billing side. -/
theorem Lives.billing {known : Known} (lives : e.Lives identifier known) :
    e.billing.isSome = true := by
  -- The creation needed one, and no later step changes the engine.
  induction lives with
  | created prepaid answered => exact (create_ends answered).1 prepaid
  | read _ _ billed => exact billed
  | updated _ _ billed => exact billed

/-- A state of an object that is there has what the last read showed, and what is carried over
from the resource that the last step was given. -/
theorem Lives.shows {known : Known} (lives : e.Lives identifier known)
    (present : known.state.present = true) :
    ∃ shown, e.LastShows identifier known.events shown ∧
      ∀ name, known.state.attributes.get? name =
        (shown.get? name).or (known.given.bind fun resource => e.carried resource name) := by
  -- Every step ends with a read and keeps nothing of the state before, so the last one decides.
  cases lives with
  | created prepaid answered named =>
    obtain ⟨-, other, read, before, last, looked, there, rfl, suffix⟩ := create_ends answered
    obtain ⟨shown, shows, rfl⟩ := read_of_present looked there
    cases named
    exact ⟨shown, shows.of_suffix suffix, fun name => e.carryOver_get? _ _ name⟩
  | read _ answered =>
    obtain ⟨shown, shows, rfl⟩ := read_of_present answered present
    exact ⟨shown, shows, fun name => by simp [State.found]⟩
  | updated _ answered =>
    obtain ⟨read, before, last, looked, rfl, suffix⟩ := update_ends answered
    obtain ⟨shown, shows, rfl⟩ := read_of_present looked present
    exact ⟨shown, shows.of_suffix suffix, fun name => e.carryOver_get? _ _ name⟩

/-- How a step leaves a charging mode in advance: its last read showed that mode, or it showed
none and the resource that the step was given sets a mode that is never read. -/
inductive KeepsPrepaid (e : Engine σ) (mode : String) (shown : Attributes)
    (given : Option Resource) : Prop where
  | shown : shown.get? mode = some (.string prepaid) → KeepsPrepaid e mode shown given
  | carried {a : Attribute} {resource : Resource} : shown.get? mode = none →
      e.kind.schema.find? mode = some a → a.readPath = none → a.computed = false →
      given = some resource → resource.get? mode = some (.string prepaid) →
      KeepsPrepaid e mode shown given

/-- A value is the text of a charging mode when it is that string. -/
theorem string?_bind_eq_some {value : Option Value} {text : String} :
    value.bind Value.string? = some text ↔ value = some (.string text) := by
  -- Only a string has a text, which is itself.
  cases value with
  | none => simp
  | some value => cases value <;> simp [Value.string?]

/-- A state is prepaid when the step that gave it left the mode. -/
theorem isPrepaid_iff {terms : BillingTerms} (priced : e.blueprint.billing = some terms)
    {attributes shown : Attributes} {given : Option Resource}
    (known : ∀ name, attributes.get? name =
      (shown.get? name).or (given.bind fun resource => e.carried resource name)) :
    e.isPrepaid attributes = true ↔ e.KeepsPrepaid terms.modeAttribute shown given := by
  -- What was shown counts first, and what was given only where nothing was shown.
  rw [isPrepaid, priced]
  simp only [decide_eq_true_eq]
  rw [string?_bind_eq_some, known]
  cases there : shown.get? terms.modeAttribute with
  -- A mode that was shown keeps anything else from being carried over.
  | some value =>
    rw [Option.some_or]
    constructor
    · intro same
      exact .shown (there.trans same)
    · intro keeps
      cases keeps with
      | shown same => exact there.symm.trans same
      | carried missing =>
        rw [there] at missing
        cases missing
  -- A mode that was not shown is carried over if it is set and never read.
  | none =>
    rw [Option.none_or]
    constructor
    · intro same
      obtain ⟨resource, given, carried⟩ := Option.bind_eq_some_iff.mp same
      obtain ⟨a, unread, set⟩ := Option.bind_eq_some_iff.mp carried
      obtain ⟨listed, plain⟩ := Option.filter_eq_some_iff.mp unread
      simp only [isUnread, Bool.not_eq_true', Bool.or_eq_false_iff, Option.isSome_eq_false_iff,
        Option.isNone_iff_eq_none] at plain
      exact .carried there listed plain.1 plain.2 given set
    · intro keeps
      cases keeps with
      | shown same =>
        rw [there] at same
        cases same
      | carried _ listed unread plain given set =>
        simp [given, carried, listed, isUnread, unread, plain, set, Option.filter]

/-- So is a state that a life has led to, whatever its last step has shown. -/
theorem Lives.keepsPrepaid_iff {known : Known} (lives : e.Lives identifier known)
    {terms : BillingTerms} (priced : e.blueprint.billing = some terms)
    (present : known.state.present = true) {shown : Attributes}
    (shows : e.LastShows identifier known.events shown) :
    e.isPrepaid known.state.attributes = true ↔
      e.KeepsPrepaid terms.modeAttribute shown known.given := by
  -- The last event shows one set of attributes only.
  obtain ⟨other, same, holds⟩ := lives.shows present
  rw [shows.unique same]
  exact isPrepaid_iff priced holds

/-- What a read of a volume shows. -/
def volumeShown (name : String) : Document :=
  .object [("volume", .object
    [ ("availability_zone", .string "az1"), ("volume_type", .string "SSD")
    , ("size", .ofInt 40), ("name", .string name), ("status", .string "available") ])]

/-- Volumes at a remote side that has room for one of them, and keeps the name it was given last. -/
def namedVolumes : Engine String where
  kind := Catalogue.Volume.kind
  remote := ⟨fun request name =>
    match request.method with
    | .post =>
      let ordered : Document :=
        .object [("order_id", .string "CS1"), ("volume_ids", .array [.string "v-1"])]
      ⟨.ok ⟨200, ordered⟩, 0, "data"⟩
    | .put => ⟨.ok ⟨200, .null⟩, 0, "archive"⟩
    | .get => ⟨.ok ⟨200, volumeShown name⟩, 0, name⟩
    | .delete => ⟨.ok ⟨202, .null⟩, 0, name⟩⟩
  billing := some (CannedBilling.client {})
  params := Dict.empty.insert "project_id" "p1"

/-- That volume under a name, with what is said about how it is charged. -/
def namedVolume (name : String) (charging : List (String × Value)) : Resource :=
  ⟨⟨"hcs_evs_volume", "data"⟩, Dict.ofList <|
    [ ("availability_zone", .string "az1"), ("volume_type", .string "SSD"), ("size", .int 40)
    , ("name", .string name) ] ++ charging⟩

/-- The charging of what is prepaid by the month. -/
def monthly : List (String × Value) :=
  [("charging_mode", .string prepaid), ("period_unit", .string "month"), ("period", .int 1)]

/-- The volume is created prepaid and then renamed, and it stays prepaid if the resource of the
renaming repeats that. -/
theorem namedVolume_lives (charging : List (String × Value)) (either : charging ∈ [[], monthly]) :
    ∃ renamed, namedVolumes.Lives "v-1" renamed ∧ renamed.state.present = true ∧
      renamed.given = some (namedVolume "archive" charging) ∧
      namedVolumes.isPrepaid renamed.state.attributes = !charging.isEmpty := by
  -- Both steps are computed, the second from the state that the first one gave.
  have made : ∀ charging ∈ [[], monthly],
      (namedVolumes.create (namedVolume "data" monthly) "" 0).answer.toOption.any (fun state =>
        state.identifier == some "v-1" &&
          (namedVolumes.update state.id "v-1" state (namedVolume "archive" charging) "data"
            0).answer.toOption.any fun last =>
              last.present && namedVolumes.isPrepaid last.attributes == !charging.isEmpty) =
        true := by decide +kernel
  obtain ⟨state, created, made⟩ := exists_ok_of_any (made charging either)
  obtain ⟨named, made⟩ := Bool.and_eq_true_iff.mp made
  obtain ⟨last, updated, made⟩ := exists_ok_of_any made
  obtain ⟨present, charged⟩ := Bool.and_eq_true_iff.mp made
  -- The creation begins the life, and the renaming is its next step.
  have lives : namedVolumes.Lives "v-1" ⟨state, _, _⟩ :=
    .created (by decide +kernel) created (by simpa using named)
  exact ⟨_, lives.updated updated, present, rfl, by simpa using charged⟩

/--
The end of an object that was created prepaid is decided by the step that gave its last state.

Its subscription is taken back if that step left the charging mode, and the request of its kind
deletes it otherwise, as after a plain read or an update by a resource without the mode.
-/
theorem Lives.delete_decided {known : Known} (lives : e.Lives identifier known)
    {terms : BillingTerms} (priced : e.blueprint.billing = some terms)
    (present : known.state.present = true) (env : σ) (now : Nat) :
    let o := e.delete identifier known.state env now
    ∃ shown, e.LastShows identifier known.events shown ∧
      ((e.KeepsPrepaid terms.modeAttribute shown known.given ∧
          e.TakesBack identifier o.answer o.events) ∨
        (¬e.KeepsPrepaid terms.modeAttribute shown known.given ∧
          e.Removes identifier o.answer o.events)) := by
  -- The state is prepaid exactly if the last step left the mode, and deletion asks just that.
  obtain ⟨shown, shows, holds⟩ := lives.shows present
  have kept := isPrepaid_iff priced holds
  refine ⟨shown, shows, ?_⟩
  cases prepaid : e.isPrepaid known.state.attributes with
  | true =>
    exact .inl ⟨kept.mp prepaid, (delete_withdraws prepaid env now).takesBack lives.billing⟩
  | false =>
    refine .inr ⟨fun keeps => ?_, delete_removes prepaid identifier env now⟩
    rw [kept.mpr keeps] at prepaid
    cases prepaid

/-- A volume that was renamed with its charging mode is deleted by way of its subscription, but
after one more read, which shows no mode, by the request of its kind. -/
theorem Lives.delete_decided_after_renaming :
    ∃ renamed again, namedVolumes.Lives "v-1" renamed ∧ namedVolumes.Lives "v-1" again ∧
      renamed.given = some (namedVolume "archive" monthly) ∧ again.given = none ∧
      (let o := namedVolumes.delete "v-1" renamed.state "archive" 0
      ∃ shown, namedVolumes.LastShows "v-1" renamed.events shown ∧
        namedVolumes.KeepsPrepaid "charging_mode" shown renamed.given ∧
          namedVolumes.TakesBack "v-1" o.answer o.events) ∧
      let o := namedVolumes.delete "v-1" again.state "archive" 0
      ∃ shown, namedVolumes.LastShows "v-1" again.events shown ∧
        ¬namedVolumes.KeepsPrepaid "charging_mode" shown again.given ∧
          namedVolumes.Removes "v-1" o.answer o.events := by
  -- The life has two more steps, an update that repeats the mode and then a read.
  obtain ⟨renamed, lives, present, given, paid⟩ := namedVolume_lives monthly (by simp)
  have looked : (namedVolumes.read ⟨"hcs_evs_volume", "data"⟩ "v-1" "archive"
      0).answer.toOption.any (fun state =>
        state.present && !namedVolumes.isPrepaid state.attributes) = true := by decide +kernel
  obtain ⟨state, read, looked⟩ := exists_ok_of_any looked
  obtain ⟨there, unpaid⟩ := Bool.and_eq_true_iff.mp looked
  have livesOn := lives.read read
  refine ⟨renamed, _, lives, livesOn, given, rfl, ?_, ?_⟩
  · obtain ⟨shown, shows, kept | ⟨lost, -⟩⟩ := lives.delete_decided rfl present "archive" 0
    · exact ⟨shown, shows, kept⟩
    · -- The state has the mode, so the renaming left it.
      exact absurd ((lives.keepsPrepaid_iff rfl present shows).mp paid) lost
  · obtain ⟨shown, shows, ⟨kept, -⟩ | lost⟩ := livesOn.delete_decided rfl there "archive" 0
    · -- The state has no mode, so the read left none.
      rw [(livesOn.keepsPrepaid_iff rfl there shows).mpr kept] at unpaid
      cases unpaid
    · exact ⟨shown, shows, lost⟩

/-- A prepaid volume that was renamed by a resource without a charging mode is deleted by the
request of its kind, and its subscription goes on. -/
theorem Lives.removed_after_renaming :
    ∃ known, namedVolumes.Lives "v-1" known ∧ known.state.present = true ∧
      ∀ env now,
        let o := namedVolumes.delete "v-1" known.state env now
        (∃ start finish request reply, request.method = .delete ∧
          .call start finish request reply ∈ o.events) ∧
        ∀ start call failure inner, .billing start call failure inner ∉ o.events := by
  obtain ⟨renamed, lives, present, -, unpaid⟩ := namedVolume_lives [] (by simp)
  -- Without the mode in its state, the volume is deleted by a request that can be formed.
  have formed : (namedVolumes.request namedVolumes.blueprint.delete
      (some "v-1")).toOption.isSome = true := by decide +kernel
  exact ⟨renamed, lives, present, fun env now =>
    (delete_removes unpaid "v-1" env now).sends formed⟩

end Provision.Engine
