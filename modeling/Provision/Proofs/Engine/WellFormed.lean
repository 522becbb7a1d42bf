import Provision.Catalogue.Vpc
import Provision.Proofs.Engine.Create

/-! A state that an operation answers is that of an object under its identifier, or of no object. -/

namespace Provision

/-- A state is well formed when it shows an object under its identifier, or no object and then
nothing of one. -/
inductive State.WellFormed (id : ResourceId) (identifier : String) : State → Prop where
  | found (attributes : Attributes) : WellFormed id identifier (.found id identifier attributes)
  | missing : WellFormed id identifier (.notFound id)

namespace Engine

variable {σ : Type} {e : Engine σ} {id : ResourceId} {identifier : String} {env : σ} {now : Nat}

/-- A state that was read is well formed. -/
theorem read_wellFormed {state : State}
    (answered : (e.read id identifier env now).answer = .ok state) :
    state.WellFormed id identifier := by
  -- What the fetch found decides which of the two states is made.
  obtain ⟨found, -, made⟩ := Run.bind_answer_eq_ok.mp answered
  cases found with
  | none =>
    cases made
    exact .missing
  | some document =>
    obtain ⟨shown, -, made⟩ := Run.bind_answer_eq_ok.mp made
    cases made
    exact .found shown

/-- A state of an object stays one whatever it carries over. -/
theorem carryOver_wellFormed {state : State} (wellFormed : state.WellFormed id identifier)
    (present : state.present = true) (resource : Resource) :
    (e.carryOver state resource).WellFormed id identifier := by
  -- Only attributes are carried over, so the object and its identifier stay.
  cases wellFormed with
  | found attributes => exact .found _
  | missing => cases present

/-- What is carried over to the state of no object is all that it has. -/
theorem carryOver_notFound_get? (e : Engine σ) (id : ResourceId) (resource : Resource)
    (name : String) :
    (e.carryOver (.notFound id) resource).attributes.get? name = e.carried resource name := by
  -- There is nothing that what is carried over would have to give way to.
  have nothing : (State.notFound id).attributes.get? name = none := rfl
  rw [carryOver_get?, nothing, Option.none_or]

/-- The state of no object stays one exactly when nothing is carried over to it. -/
theorem carryOver_notFound_wellFormed_iff (resource : Resource) :
    (e.carryOver (.notFound id) resource).WellFormed id identifier ↔
      ∀ name, e.carried resource name = none := by
  -- The state has what is carried over and nothing besides.
  constructor
  · intro wellFormed name
    rw [← carryOver_notFound_get? e id]
    -- Only the state without attributes is well formed, as there is no object.
    generalize whole : e.carryOver (.notFound id) resource = state at wellFormed
    cases wellFormed with
    | found attributes => cases congrArg State.present whole
    | missing => rfl
  · intro nothing
    have empty : (e.carryOver (.notFound id) resource).attributes = Dict.empty := by
      rw [Dict.eq_empty_iff]
      intro name
      rw [carryOver_notFound_get?, nothing]
    have same : e.carryOver (.notFound id) resource = .notFound id := by
      change State.mk id none (e.carryOver (.notFound id) resource).attributes false = _
      rw [empty]
      rfl
    rw [same]
    exact .missing

/-- A creation answers the state of an object, under the identifier that it obtained. -/
theorem create_wellFormed {wanted : Resource} {state : State}
    (answered : (e.create wanted env now).answer = .ok state) :
    state.present = true ∧ ∃ obtained,
      (e.make (e.completed wanted) (Instant.after now e.timeouts.create) env now).answer =
        .ok obtained ∧
      state.WellFormed wanted.id obtained := by
  -- The last phase refuses the state of no object.
  rw [create_eq, Run.now_bind] at answered
  obtain ⟨obtained, made, answered⟩ := Run.bind_answer_eq_ok.mp answered
  obtain ⟨_, -, answered⟩ := Run.bind_answer_eq_ok.mp answered
  obtain ⟨_, -, answered⟩ := Run.bind_answer_eq_ok.mp answered
  obtain ⟨read, shown, carried⟩ := Run.bind_answer_eq_ok.mp answered
  by_cases present : read.present = true
  · rw [if_pos present] at carried
    cases carried
    exact ⟨present, obtained, made, carryOver_wellFormed (read_wellFormed shown) present _⟩
  · rw [if_neg present] at carried
    cases carried

/-- An update answers a well formed state exactly when its last read found the object, or there is
nothing that the resource carries over. -/
theorem update_wellFormed_iff {current state : State} {wanted : Resource}
    (answered : (e.update id identifier current wanted env now).answer = .ok state) :
    (state.WellFormed id identifier ↔
      state.present = true ∨ ∀ name, e.carried wanted name = none) ∧
    (state.present = false → state.id = id ∧ state.identifier = none ∧
      ∀ name, state.attributes.get? name = e.carried wanted name) := by
  -- The state is the one read last, with what the resource carries over.
  obtain ⟨read, _, _, shown, rfl, -⟩ := update_ends answered
  cases read_wellFormed shown with
  | found attributes =>
    refine ⟨iff_of_true (carryOver_wellFormed (.found attributes) rfl wanted) (.inl rfl), ?_⟩
    intro absent
    cases absent
  | missing =>
    refine ⟨?_, fun _ => ⟨rfl, rfl, carryOver_notFound_get? e id wanted⟩⟩
    rw [carryOver_notFound_wellFormed_iff]
    exact ⟨.inr, fun either => either.resolve_left Bool.false_ne_true⟩

/--
The states that operations answer are well formed, unless an update finds its object gone.

A read makes either of the two well formed states, and a creation only that of an object under the
identifier that it obtained. An update does not look at whether its last read found the object. If
it did not, the state has exactly what the resource carries over.
-/
theorem answers_wellFormed_iff (e : Engine σ) (env : σ) (now : Nat) :
    (∀ id identifier state, (e.read id identifier env now).answer = .ok state →
      state.WellFormed id identifier) ∧
    (∀ wanted state, (e.create wanted env now).answer = .ok state →
      state.present = true ∧ ∃ obtained,
        (e.make (e.completed wanted) (Instant.after now e.timeouts.create) env now).answer =
          .ok obtained ∧
        state.WellFormed wanted.id obtained) ∧
    ∀ id identifier current wanted state,
      (e.update id identifier current wanted env now).answer = .ok state →
        (state.WellFormed id identifier ↔
          state.present = true ∨ ∀ name, e.carried wanted name = none) ∧
        (state.present = false → state.id = id ∧ state.identifier = none ∧
          ∀ name, state.attributes.get? name = e.carried wanted name) :=
  ⟨fun _ _ _ => read_wellFormed, fun _ _ => create_wellFormed,
    fun _ _ _ _ _ => update_wellFormed_iff⟩

/-- A network is created under the identifier that it obtained, and its update finds it there. -/
theorem answers_wellFormed_iff_vpc :
    let network : Document :=
      .object [("vpc", .object [("id", .string "vpc-1"), ("status", .string "OK")])]
    let e : Engine Unit :=
      { kind := Catalogue.Vpc.kind
        remote := ⟨fun _ env => ⟨.ok ⟨200, network⟩, 0, env⟩⟩
        params := Dict.empty.insert "project_id" "p1" }
    let id : ResourceId := ⟨"hcs_vpc", "main"⟩
    let wanted : Resource := ⟨id, Dict.ofList
      [("name", .string "net"), ("cidr", .string "192.168.0.0/16")]⟩
    ∃ created obtained updated,
      (e.create wanted () 0).answer = .ok created ∧ created.WellFormed id obtained ∧
      (e.update id obtained created wanted () 0).answer = .ok updated ∧
      updated.present = true ∧ updated.WellFormed id obtained := by
  intro network e id wanted
  -- The whole run is evaluated once, and the theorem says what it is evidence of.
  have made : (e.create wanted () 0).answer.toOption.any (fun state =>
      state.identifier == some "vpc-1" &&
        (e.update id "vpc-1" state wanted () 0).answer.toOption.any (·.present)) = true := by
    decide +kernel
  -- Both operations answer, and what they answer shows the object under one identifier.
  obtain ⟨-, creates, updates⟩ := answers_wellFormed_iff e () 0
  obtain ⟨created, answered, named⟩ := exists_ok_of_any made
  obtain ⟨named, again⟩ := Bool.and_eq_true_iff.mp named
  obtain ⟨updated, changed, there⟩ := exists_ok_of_any again
  obtain ⟨present, obtained, -, wellFormed⟩ := creates wanted created answered
  have same : obtained = "vpc-1" := by
    cases wellFormed with
    | found attributes => simpa [State.found] using named
    | missing => cases present
  subst same
  have stays := (updates id "vpc-1" created wanted updated changed).1.mpr (.inl there)
  exact ⟨created, "vpc-1", updated, answered, wellFormed, changed, there, stays⟩

/-- A network that is gone when its update reads it still has its tags in the state. -/
theorem update_not_wellFormed_of_gone :
    let e : Engine Unit :=
      { kind := Catalogue.Vpc.kind
        remote := ⟨fun request env =>
          match request.method with
          | .get => ⟨.error (.unexpectedStatus 404 ""), 0, env⟩
          | _ => ⟨.ok ⟨200, .object []⟩, 0, env⟩⟩
        params := Dict.empty.insert "project_id" "p1" }
    let id : ResourceId := ⟨"hcs_vpc", "main"⟩
    let settings (name : String) : Attributes := Dict.ofList
      [ ("name", .string name), ("cidr", .string "192.168.0.0/16")
      , ("tags", .map [("env", .string "test")]) ]
    let current : State := .found id "vpc-1" (settings "net")
    ∃ state, (e.update id "vpc-1" current ⟨id, settings "office"⟩ () 0).answer = .ok state ∧
      state.present = false ∧ (state.attributes.get? "tags").isSome = true ∧
      ¬state.WellFormed id "vpc-1" := by
  intro e id settings current
  -- The update renames the network, and its last read is answered by 404.
  have kept : (e.update id "vpc-1" current ⟨id, settings "office"⟩ () 0).answer.toOption.any
      (fun state => !state.present && (state.attributes.get? "tags").isSome) = true := by
    decide +kernel
  obtain ⟨state, answered, kept⟩ := exists_ok_of_any kept
  obtain ⟨absent, tagged⟩ := Bool.and_eq_true_iff.mp kept
  refine ⟨state, answered, by simpa using absent, tagged, fun wellFormed => ?_⟩
  -- A well formed state is of an object, or has no tags.
  cases wellFormed with
  | found attributes => cases absent
  | missing => cases tagged

end Engine

end Provision
