import Provision.Engine.Create
import Provision.Engine.Update
import Provision.Proofs.Dict
import Provision.Proofs.Engine.Look
import Provision.Proofs.Protocol

/-! A state shows what the last read of an object showed, and what it carries over. -/

namespace Provision.Engine

variable {σ : Type} {e : Engine σ} {identifier : String}

/-- Whether an attribute is set on the remote side but never read from there. -/
def isUnread (a : Attribute) : Bool := !(a.readPath.isSome || a.computed)

/-- Attributes with one more carried over, if it is set and never read. -/
def carry (resource : Resource) (attributes : Attributes) (a : Attribute) : Attributes :=
  if a.readPath.isSome || a.computed then attributes
  else
    match resource.get? a.name with
    | some value => attributes.insertNew a.name value
    | none => attributes

/-- One attribute that is carried over is found under its own name only. -/
theorem carry_get? (resource : Resource) (attributes : Attributes) (a : Attribute)
    (name : String) :
    (carry resource attributes a).get? name =
      (attributes.get? name).or
        (if isUnread a ∧ a.name = name then resource.get? name else none) := by
  -- Nothing is inserted for what is read or unset, and never in place of what is there.
  unfold carry isUnread
  split
  · rename_i read
    simp [read]
  · rename_i unread
    cases set : resource.get? a.name with
    | none =>
      simp only
      split
      · rename_i own
        rw [← own.2, set, Option.or_none]
      · rw [Option.or_none]
    | some value =>
      simp only [Dict.get?_insertNew]
      by_cases own : a.name = name
      · subst own
        simp [unread, set]
      · simp [own]

/-- The value that a state carries over from a resource under a name. -/
def carried (e : Engine σ) (resource : Resource) (name : String) : Option Value :=
  ((e.kind.schema.find? name).filter isUnread).bind fun _ => resource.get? name

/-- Attributes of distinct names are carried over one by one. -/
theorem foldl_carry_get? (resource : Resource) (name : String)
    {entries : List (String × Attribute)} (ordered : Entries.Ordered entries)
    (named : ∀ entry ∈ entries, entry.2.name = entry.1) (attributes : Attributes) :
    ((entries.map (·.2)).foldl (carry resource) attributes).get? name =
      (attributes.get? name).or
        (((Entries.get? name entries).filter isUnread).bind fun _ => resource.get? name) := by
  -- Only the entry of the name counts, and no later entry has the same name.
  induction entries generalizing attributes with
  | nil => simp [Entries.get?]
  | cons head rest ih =>
    obtain ⟨key, a⟩ := head
    obtain ⟨below, tail⟩ := List.pairwise_cons.mp ordered
    have own : a.name = key := named (key, a) (by simp)
    rw [List.map_cons, List.foldl_cons,
      ih tail fun entry member => named entry (List.mem_cons_of_mem _ member), carry_get?,
      Option.or_assoc, own]
    congr 1
    by_cases here : key = name
    · have missing : Entries.get? name rest = none := here ▸ Entries.get?_of_below below
      rw [missing, Entries.get?, if_pos here]
      by_cases unread : isUnread a = true <;> simp [Option.filter, unread, here]
    · rw [Entries.get?, if_neg here, if_neg fun both => here both.2, Option.none_or]

/-- A state with values carried over shows them where it showed nothing. -/
theorem carryOver_get? (e : Engine σ) (state : State) (resource : Resource) (name : String) :
    (e.carryOver state resource).attributes.get? name =
      (state.attributes.get? name).or (e.carried resource name) :=
  foldl_carry_get? resource name e.kind.schema.attributes.ordered e.kind.schema.named
    state.attributes

/-- What the last event showed of an object, if that was a read which found it. -/
def LastShows (e : Engine σ) (identifier : String) (events : List Event) (shown : Attributes) :
    Prop :=
  ∃ answer event document, events.getLast? = some event ∧ e.IsRead identifier answer event ∧
    e.judge identifier answer = .ok (some document) ∧ e.attributesOf document = .ok shown

/-- What is done last is not changed by anything that is done before. -/
theorem LastShows.of_suffix {events last : List Event} {shown : Attributes}
    (shows : e.LastShows identifier last shown) (suffix : last <:+ events) :
    e.LastShows identifier events shown := by
  -- The last event of the suffix is the last event of the whole.
  obtain ⟨answer, event, document, final, read, judged, flat⟩ := shows
  obtain ⟨before, joined⟩ := suffix
  refine ⟨answer, event, document, ?_, read, judged, flat⟩
  rw [← joined, List.getLast?_append, final, Option.some_or]

/-- The last event shows one set of attributes at most. -/
theorem LastShows.unique {events : List Event} {shown other : Attributes}
    (shows : e.LastShows identifier events shown)
    (showsToo : e.LastShows identifier events other) : shown = other := by
  -- The event has one answer, this lets one document be seen, and that has one set of attributes.
  obtain ⟨answer, event, document, final, ⟨_, _, _, _, rfl⟩, judged, flat⟩ := shows
  obtain ⟨_, _, _, finalToo, ⟨_, _, _, _, rfl⟩, judgedToo, flatToo⟩ := showsToo
  cases final.symm.trans finalToo
  cases judged.symm.trans judgedToo
  cases flat.symm.trans flatToo
  rfl

/-- A state of an object that is there has what its last read showed. -/
theorem read_of_present {id : ResourceId} {env : σ} {now : Nat} {state : State}
    (answered : (e.read id identifier env now).answer = .ok state)
    (present : state.present = true) :
    ∃ shown, e.LastShows identifier (e.read id identifier env now).events shown ∧
      state = .found id identifier shown := by
  -- A read that finds nothing gives a state of no object, so this one found a document.
  obtain ⟨found, fetched, rest⟩ := Run.bind_answer_eq_ok.mp answered
  cases found with
  | none =>
    cases rest
    cases present
  | some document =>
    obtain ⟨shown, flat, made⟩ := Run.bind_answer_eq_ok.mp rest
    cases made
    simp only [Run.monadLift_apply] at flat
    obtain ⟨answer, event, read, judged, single⟩ :=
      (fetched ▸ e.fetch_reads identifier env now).of_ok
    refine ⟨shown, ⟨answer, event, document, ?_, read, judged, flat⟩, rfl⟩
    rw [Engine.read, Run.bind_of_ok fetched]
    simp [flat, single]

/-- The state that the answer to a read shows. -/
def recognise (e : Engine σ) (id : ResourceId) (identifier : String)
    (answer : Except Failure Response) : Except Failure State := do
  match ← e.judge identifier answer with
  | some document => return .found id identifier (← e.attributesOf document)
  | none => return .notFound id

/-- What reading the state of an object answers and does: it is a single read, unless there is
nowhere to read the object from. -/
inductive Shows (e : Engine σ) (id : ResourceId) (identifier : String) : Protocol State where
  | nowhere {failure : Failure} :
      e.request e.blueprint.read (some identifier) = .error failure →
      Shows e id identifier (.error failure) []
  | once {answer : Except Failure Response} {event : Event} :
      e.IsRead identifier answer event →
      Shows e id identifier (e.recognise id identifier answer) [event]

/-- A state that was shown was shown by a single read. -/
theorem Shows.of_ok {id : ResourceId} {state : State} {looked : List Event}
    (shows : e.Shows id identifier (.ok state) looked) :
    ∃ answer event, e.IsRead identifier answer event ∧
      e.recognise id identifier answer = .ok state ∧ looked = [event] := by
  -- Where there is nowhere to read from, the answer is a failure.
  generalize answered : (Except.ok state : Except Failure State) = shown at shows
  cases shows with
  | nowhere => cases answered
  | once read => exact ⟨_, _, read, rfl, rfl⟩

/-- Reading a state is part of watching the object. -/
theorem Shows.isWatch {id : ResourceId} {shown : Except Failure State} {looked : List Event}
    (shows : e.Shows id identifier shown looked) :
    ∀ event ∈ looked, e.IsWatch identifier event := by
  -- At most one event is there, and it is a read.
  cases shows with
  | nowhere => simp
  | once read => simpa using .inl ⟨_, read⟩

/-- A state is read by one request, and is what the answer to that shows. -/
theorem read_eq (e : Engine σ) (id : ResourceId) (identifier : String) :
    e.read id identifier = (do
      let request ← e.request e.blueprint.read (some identifier)
      let answer ← (e.remote.send request).attempt
      e.recognise id identifier answer) := by
  -- What a fetch finds becomes a state without another request.
  rw [Engine.read, fetch_eq, Run.bind_assoc]
  congr 1
  funext request
  rw [Run.bind_assoc]
  congr 1
  funext answer
  rw [recognise, Run.monadLift_bind]
  congr 1
  funext found
  cases found with
  | none => rfl
  | some document =>
    exact (Run.monadLift_bind (e.attributesOf document)
      fun shown => .ok (State.found id identifier shown)).symm

/-- Reading a state goes like that. -/
theorem read_obeys (e : Engine σ) (id : ResourceId) (identifier : String) :
    (e.read id identifier).Obeys (e.Shows id identifier) := by
  -- Without a request there is no read, and with one its answer alone decides.
  intro env now
  rw [read_eq]
  cases resolved : e.request e.blueprint.read (some identifier) with
  | error failure =>
    rw [Run.monadLift_error_bind, Run.fail_apply]
    exact .nowhere resolved
  | ok request =>
    rw [Run.monadLift_ok_bind, Run.attempt_bind, Run.monadLift_apply]
    exact .once ⟨now, _, request, resolved, rfl⟩

/-- An update ends with a read, and carries over from the resource that it was given. -/
theorem update_ends {id : ResourceId} {current state : State} {wanted : Resource} {env : σ}
    {now : Nat} (answered : (e.update id identifier current wanted env now).answer = .ok state) :
    ∃ read before last, (e.read id identifier before last).answer = .ok read ∧
      state = e.carryOver read wanted ∧
      (e.read id identifier before last).events <:+
        (e.update id identifier current wanted env now).events := by
  -- The plan, the groups and the tags come first, and each has to succeed.
  rw [update, Run.now_bind] at answered ⊢
  obtain ⟨changed, _, _, -, answered, planned⟩ := Run.bind_suffix answered
  obtain ⟨_, _, _, -, answered, grouped⟩ := Run.bind_suffix answered
  obtain ⟨_, before, last, -, answered, tagged⟩ := Run.bind_suffix answered
  obtain ⟨read, shown, carried⟩ := Run.bind_answer_eq_ok.mp answered
  cases carried
  refine ⟨read, before, last, shown, rfl, ?_⟩
  rw [Run.bind_of_ok shown, Run.pure_apply, Outcome.delayed_events, List.append_nil] at tagged
  exact tagged.trans (grouped.trans planned)

/-- A resource with the defaults of its kind, as it is created. -/
def completed (e : Engine σ) (wanted : Resource) : Resource :=
  { wanted with attributes := e.kind.schema.applyDefaults wanted.attributes }

/-- Only with a billing side does a prepaid creation come to an identifier. -/
theorem billing_of_identify {resource : Resource} {answer : Document} {deadline : Nat} {env : σ}
    {now : Nat} (prepaid : e.isPrepaid resource.attributes = true)
    (identified : (e.identify resource answer deadline env now).answer = .ok identifier) :
    e.billing.isSome = true := by
  -- The order has to be waited for, and the first thing that takes is a billing side.
  obtain ⟨created, -, awaited⟩ := Run.bind_answer_eq_ok.mp identified
  rw [if_pos prepaid, awaitOrder] at awaited
  cases billing : e.billing with
  | none =>
    rw [billing] at awaited
    cases awaited
  | some client => rfl

/-- A creation ends with a read of a new object that is there, and carries over from the
resource with its defaults; a prepaid one has a billing side. -/
theorem create_ends {state : State} {wanted : Resource} {env : σ} {now : Nat}
    (answered : (e.create wanted env now).answer = .ok state) :
    (e.isPrepaid (e.completed wanted).attributes = true → e.billing.isSome = true) ∧
    ∃ identifier read before last, (e.read wanted.id identifier before last).answer = .ok read ∧
      read.present = true ∧ state = e.carryOver read (e.completed wanted) ∧
      (e.read wanted.id identifier before last).events <:+ (e.create wanted env now).events := by
  -- Each part has to succeed for the next to start, so the read comes behind all others.
  rw [create, Run.now_bind] at answered ⊢
  obtain ⟨request, _, _, -, answered, requested⟩ := Run.bind_suffix answered
  obtain ⟨response, _, _, -, answered, sent⟩ := Run.bind_suffix answered
  obtain ⟨identifier, _, _, named, answered, identified⟩ := Run.bind_suffix answered
  obtain ⟨_, _, _, -, answered, ready⟩ := Run.bind_suffix answered
  obtain ⟨_, before, last, -, answered, tagged⟩ := Run.bind_suffix answered
  obtain ⟨read, shown, carried⟩ := Run.bind_answer_eq_ok.mp answered
  by_cases present : read.present = true
  · rw [Run.bind_of_ok shown, if_pos present, Run.pure_apply, Outcome.delayed_events,
      List.append_nil] at tagged
    rw [if_pos present] at carried
    cases carried
    have whole := tagged.trans (ready.trans (identified.trans (sent.trans requested)))
    exact ⟨fun prepaid => billing_of_identify prepaid named, identifier, read, before, last,
      shown, present, rfl, whole⟩
  · -- The state of no object is refused, so the creation would have failed.
    rw [if_neg present] at carried
    cases carried

end Provision.Engine
