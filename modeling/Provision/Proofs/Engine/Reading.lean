import Provision.Catalogue.RocketMq
import Provision.Proofs.Engine.Unread

/-! What the answer to a read has of an object decides alone what is read and what a poll sees. -/

namespace Provision

namespace Path

/-- An expression is well formed. -/
def IsWellFormed (expression : String) : Prop := ∃ path, parse expression = .ok path

instance : DecidablePred IsWellFormed := fun expression =>
  decidable_of_iff ((parse expression).toOption.isSome = true) <| by
    cases parsed : parse expression <;> simp [IsWellFormed, parsed, Except.toOption]

/-- What an expression selects from a document; one that is malformed selects nothing. -/
def select? (d : Document) (expression : String) : Option Document :=
  (parse expression).toOption.bind fun path => path.evaluate d

/-- The text of the scalar that an expression selects from a document. -/
def textAt? (d : Document) (expression : String) : Option String :=
  (select? d expression).bind Document.scalarText?

/-- The list that an expression selects from a document, which is empty if there is none. -/
def listAt (d : Document) (expression : String) : List Document :=
  ((select? d expression).bind Document.array?).getD []

variable {expression : String}

/-- The text at a well-formed expression is extracted. -/
theorem extractText_of_wellFormed (sound : IsWellFormed expression) (d : Document) :
    extractText d expression = .ok (textAt? d expression) := by
  -- Both evaluate the same path.
  obtain ⟨path, parsed⟩ := sound
  simp only [extractText, textAt?, select?, parsed, Bind.bind, Except.bind, Except.toOption,
    Option.bind_some]
  rfl

end Path

namespace Selector

/-- The items of a listing; where the path of the selector leads to no list, there are none. -/
def items (s : Selector) (listing : Document) : List Document := Path.listAt listing s.listPath

/-- An item is the object of an identifier, by the text of its field. -/
def Matches (s : Selector) (identifier : String) (item : Document) : Prop :=
  Path.textAt? item s.idField = some identifier

instance (s : Selector) (identifier : String) : DecidablePred (s.Matches identifier) :=
  fun _ => inferInstanceAs (Decidable (_ = _))

variable {s : Selector}

/-- The first match among items is the first of them that is the object. -/
theorem firstMatch_eq (sound : Path.IsWellFormed s.idField) (identifier : String)
    (items : List Document) :
    firstMatch s.idField identifier items =
      .ok (items.find? fun item => s.Matches identifier item) := by
  -- The induction is on the items: no text of them fails to be read, so each is told apart.
  induction items with
  | nil => rfl
  | cons item rest ih =>
    have text := Path.extractText_of_wellFormed sound item
    simp only [firstMatch, text, Bind.bind, Except.bind, ih, List.find?_cons]
    change (if s.Matches identifier item then _ else _) = _
    by_cases own : s.Matches identifier item
    · rw [if_pos own, decide_eq_true own]
      rfl
    · rw [if_neg own, decide_eq_false own]

/-- A selector selects the first item of a listing that is the object. -/
theorem select_eq (list : Path.IsWellFormed s.listPath) (field : Path.IsWellFormed s.idField)
    (listing : Document) (identifier : String) :
    s.select listing identifier =
      .ok ((s.items listing).find? fun item => s.Matches identifier item) := by
  -- Where there is no listing the whole answer is the part.
  obtain ⟨path, parsed⟩ := list
  have selects : Path.select? listing s.listPath = path.evaluate listing := by
    rw [Path.select?, parsed]
    rfl
  simp only [select, parsed, Bind.bind, Except.bind, items, Path.listAt, selects]
  -- Whatever is no list has no items.
  split
  · rename_i items found
    rw [firstMatch_eq field, found]
    rfl
  · rename_i other
    cases found : path.evaluate listing with
    | none => rfl
    | some d =>
      cases d with
      | array items => exact (other items found).elim
      | null | bool | number | string | object => rfl

end Selector

/-- All expressions by which objects of a kind are read are well formed. -/
structure Kind.ReadsWellFormed (k : Kind) : Prop where
  listing : ∀ s ∈ k.blueprint.selector,
    Path.IsWellFormed s.listPath ∧ Path.IsWellFormed s.idField
  status : ∀ expression ∈ k.blueprint.statusPath, Path.IsWellFormed expression
  attributes : ∀ a ∈ k.schema.list, ∀ expression ∈ a.readPath, Path.IsWellFormed expression
  tags : ∀ tagging ∈ k.blueprint.tagging, ∀ expression ∈ tagging.readPath,
    Path.IsWellFormed expression

namespace Engine

variable {σ : Type} {e : Engine σ} {identifier : String}

/-- What the answer to a read has of an object: all of it, or the first item of the listing that is
the object. -/
inductive Selects (e : Engine σ) (identifier : String) (answer : Document) : Document → Prop where
  | whole : e.blueprint.selector = none → Selects e identifier answer answer
  | first {s : Selector} {before after : List Document} {document : Document} :
      e.blueprint.selector = some s → s.items answer = before ++ document :: after →
      s.Matches identifier document → (∀ item ∈ before, ¬s.Matches identifier item) →
      Selects e identifier answer document

/-- The status that a document shows, if the kind has one. -/
def statusOf? (e : Engine σ) (document : Document) : Option String :=
  e.blueprint.statusPath.bind (Path.textAt? document)

/-- How the answer to a read denies that there is an object: the rule of the kind covers it, the
listing has no such item, or the object is in a state that is as good as gone. -/
inductive Denies (e : Engine σ) (identifier : String) : Except Failure Response → Prop where
  | covered {failure : Failure} : e.blueprint.notFound.covers failure = true →
      Denies e identifier (.error failure)
  | unlisted {response : Response} {s : Selector} : e.blueprint.selector = some s →
      (∀ item ∈ s.items response.body, ¬s.Matches identifier item) →
      Denies e identifier (.ok response)
  | gone {response : Response} {document : Document} {status : String} :
      e.Selects identifier response.body document → e.statusOf? document = some status →
      status ∈ e.blueprint.goneStates → Denies e identifier (.ok response)

/-- Attributes are those of a document alone: the tags are what is parsed of their list, if they are
read, and every other attribute is what the document shows of it. -/
structure AreOf (e : Engine σ) (document : Document) (shown : Attributes) : Prop where
  tags : ∀ tagging ∈ e.blueprint.tagging, ∀ expression ∈ tagging.readPath,
    shown.get? tagging.name =
      some (.map (Tags.parse (Path.listAt document expression)).entries)
  others : ∀ name, ¬e.ReadsTags name →
    shown.get? name = (e.kind.schema.find? name).bind (Path.shown? document)

/-- The part of an answer that is about an object, if it has one. -/
def part? (e : Engine σ) (identifier : String) (answer : Document) : Option Document :=
  match e.blueprint.selector with
  | some s => (s.items answer).find? fun item => s.Matches identifier item
  | none => some answer

/-- The part of an answer that is about an object is selected without failure. -/
theorem select_eq (sound : e.kind.ReadsWellFormed) (answer : Document) (identifier : String) :
    e.select answer identifier = .ok (e.part? identifier answer) := by
  -- Without a selector the whole answer is the part.
  rw [select, part?]
  cases selector : e.blueprint.selector with
  | none => rfl
  | some s =>
    obtain ⟨list, field⟩ := sound.listing s selector
    change (s.select answer identifier).mapError Failure.path = _
    rw [Selector.select_eq list field]
    rfl

/-- The part of an answer that is about an object is what the answer has of it. -/
theorem select_eq_some_iff (sound : e.kind.ReadsWellFormed) {answer document : Document} :
    e.select answer identifier = .ok (some document) ↔ e.Selects identifier answer document := by
  -- The first item that matches is one in front of which no other does.
  rw [select_eq sound, Except.ok.injEq, part?]
  cases selector : e.blueprint.selector with
  | none =>
    constructor
    · intro same
      cases same
      exact .whole selector
    · intro selects
      cases selects with
      | whole => rfl
      | first other => cases selector.symm.trans other
  | some s =>
    simp only [List.find?_eq_some_iff_append, decide_eq_true_eq, Bool.not_eq_true',
      decide_eq_false_iff_not]
    constructor
    · rintro ⟨own, before, after, items, others⟩
      exact .first selector items own others
    · intro selects
      cases selects with
      | whole other => cases selector.symm.trans other
      | first same items own others =>
        cases selector.symm.trans same
        exact ⟨own, _, _, items, others⟩

/-- An answer has no part about an object exactly when it is a listing without the object. -/
theorem select_eq_none_iff (sound : e.kind.ReadsWellFormed) {answer : Document} :
    e.select answer identifier = .ok none ↔
      ∃ s, e.blueprint.selector = some s ∧
        ∀ item ∈ s.items answer, ¬s.Matches identifier item := by
  -- Only a listing can lack the object.
  rw [select_eq sound, Except.ok.injEq, part?]
  cases e.blueprint.selector with
  | none => simp
  | some s => simp

/-- The status of a document is what it shows. -/
theorem status?_eq (sound : e.kind.ReadsWellFormed) (document : Document) :
    e.status? document = .ok (e.statusOf? document) := by
  -- A kind without a path for it has no status.
  rw [status?, statusOf?]
  cases path : e.blueprint.statusPath with
  | none => rfl
  | some expression =>
    change (Path.extractText document expression).mapError Failure.path = _
    rw [Path.extractText_of_wellFormed (sound.status expression path)]
    rfl

/-- An answer finds nothing exactly when it denies the object. -/
theorem judge_eq_none_iff_denies (sound : e.kind.ReadsWellFormed)
    {answer : Except Failure Response} :
    e.judge identifier answer = .ok none ↔ e.Denies identifier answer := by
  -- Each way to show that the object is not there is one way to deny it.
  rw [judge_eq_none_iff]
  constructor
  · intro absent
    cases absent with
    | missing covered => exact .covered covered
    | unlisted selected =>
      obtain ⟨s, selector, others⟩ := (select_eq_none_iff sound).mp selected
      exact .unlisted selector others
    | gone selected shown gone =>
      rw [status?_eq sound] at shown
      exact .gone ((select_eq_some_iff sound).mp selected) (Except.ok.inj shown) gone
  · intro denies
    cases denies with
    | covered covered => exact .missing covered
    | unlisted selector others =>
      exact .unlisted ((select_eq_none_iff sound).mpr ⟨_, selector, others⟩)
    | gone selects shown gone =>
      exact .gone ((select_eq_some_iff sound).mpr selects) (by rw [status?_eq sound, shown]) gone

/-- An answer that does not deny the object has a document of it. -/
theorem judge_of_not_denies (sound : e.kind.ReadsWellFormed) {response : Response}
    (there : ¬e.Denies identifier (.ok response)) :
    ∃ document, e.Selects identifier response.body document ∧
      e.judge identifier (.ok response) = .ok (some document) := by
  -- The answer has a part, whose status would deny the object if it were a gone one.
  have selected := select_eq sound response.body identifier
  cases part : e.part? identifier response.body with
  | none =>
    rw [part] at selected
    obtain ⟨s, selector, others⟩ := (select_eq_none_iff sound).mp selected
    exact absurd (.unlisted selector others) there
  | some document =>
    rw [part] at selected
    have selects := (select_eq_some_iff sound).mp selected
    refine ⟨document, selects, judge_eq_some_iff.mpr ?_⟩
    refine ⟨response, e.statusOf? document, rfl, selected, status?_eq sound document, ?_⟩
    exact fun status shown gone => there (.gone selects shown gone)

/-- The attributes of a document are read from it without failure. -/
theorem attributesOf_areOf (sound : e.kind.ReadsWellFormed) (document : Document) :
    ∃ shown, e.attributesOf document = .ok shown ∧ e.AreOf document shown := by
  -- The expressions of all attributes are well formed, so the document is flattened.
  obtain ⟨flat, flattened⟩ := (Path.flatten_isOk_iff _ document).mpr sound.attributes
  have mapped : (Path.flatten e.kind.schema document).mapError Failure.path = .ok flat := by
    rw [flattened]
    rfl
  -- The tags are entered last, if they are read at all.
  have read : ∃ shown, e.attributesOf document = .ok shown ∧
      ∀ tagging ∈ e.blueprint.tagging, ∀ expression ∈ tagging.readPath,
        shown.get? tagging.name =
          some (.map (Tags.parse (Path.listAt document expression)).entries) := by
    simp only [attributesOf, mapped, Bind.bind, Except.bind]
    cases tags : e.blueprint.tagging with
    | none =>
      refine ⟨flat, rfl, ?_⟩
      rintro _ ⟨⟩
    | some tagging =>
      obtain ⟨name, actionPath, readPath⟩ := tagging
      cases readPath with
      | none =>
        refine ⟨flat, rfl, ?_⟩
        rintro _ ⟨⟩ _ ⟨⟩
      | some expression =>
        obtain ⟨path, parsed⟩ := sound.tags _ tags expression rfl
        have list : Path.listAt document expression =
            ((path.evaluate document).bind Document.array?).getD [] := by
          rw [Path.listAt, Path.select?, parsed]
          rfl
        simp only [parsed, Except.mapError, ← list]
        refine ⟨_, rfl, ?_⟩
        rintro _ ⟨⟩ _ ⟨⟩
        rw [Dict.get?_insert, if_pos rfl]
  obtain ⟨shown, read, tags⟩ := read
  exact ⟨shown, read, tags, fun name => (attributesOf_get? read name).2⟩

/-- A run that computes from the answer to one read answers what it computes. -/
theorem answer_of_read {α : Type} {run : Run σ α}
    {compute : Except Failure Response → Except Failure α}
    (computes : run = (do
      let request ← e.request e.blueprint.read (some identifier)
      let answer ← (e.remote.send request).attempt
      compute answer)) {request : Request}
    (resolved : e.request e.blueprint.read (some identifier) = .ok request) (env : σ) (now : Nat) :
    (run env now).answer = compute (e.remote.reply request env).answer := by
  -- The request is resolved, so the answer is all there is to compute from.
  rw [computes, resolved, Run.monadLift_ok_bind, Run.attempt_bind, Run.monadLift_apply]
  rfl

/-- An object that the answer denies is missing to a read and to a look. -/
theorem missing_of_denies (sound : e.kind.ReadsWellFormed) (id : ResourceId)
    {answer : Except Failure Response} (denies : e.Denies identifier answer) :
    e.recognise id identifier answer = .ok (.notFound id) ∧
      e.sight identifier answer = .ok .notFound := by
  -- Both begin with the judgement of the answer.
  rw [recognise, sight, (judge_eq_none_iff_denies sound).mpr denies]
  exact ⟨rfl, rfl⟩

/-- A failure that does not stand for the absence of an object fails a read and a look. -/
theorem failing_of_not_covers (id : ResourceId) {failure : Failure}
    (uncovered : e.blueprint.notFound.covers failure = false) :
    e.recognise id identifier (.error failure) = .error failure ∧
      e.sight identifier (.error failure) = .error failure := by
  -- A failure that is not covered is judged to be itself.
  have judged : e.judge identifier (.error failure) = .error failure := by
    rw [judge, if_neg (Bool.not_eq_true _ ▸ uncovered)]
  rw [recognise, sight, judged]
  exact ⟨rfl, rfl⟩

/-- A read and a look find the document of an object that the answer does not deny. -/
theorem found_of_not_denies (sound : e.kind.ReadsWellFormed) (id : ResourceId)
    {response : Response} (there : ¬e.Denies identifier (.ok response)) :
    ∃ document shown, e.Selects identifier response.body document ∧ e.AreOf document shown ∧
      e.recognise id identifier (.ok response) = .ok (.found id identifier shown) ∧
      e.sight identifier (.ok response) = .ok (.found (e.statusOf? document) document) := by
  -- The answer has a document, and every part of reading that goes well.
  obtain ⟨document, selects, judged⟩ := judge_of_not_denies sound there
  obtain ⟨shown, attributes, areOf⟩ := attributesOf_areOf sound document
  refine ⟨document, shown, selects, areOf, ?_, ?_⟩
  · simp only [recognise, judged, attributes, Bind.bind, Except.bind]
    rfl
  · simp only [sight, judged, status?_eq sound, Bind.bind, Except.bind]
    rfl

/-- An object is missing exactly when the answer denies it. -/
theorem missing_iff_denies (sound : e.kind.ReadsWellFormed) (id : ResourceId)
    (answer : Except Failure Response) :
    (e.recognise id identifier answer = .ok (.notFound id) ↔ e.Denies identifier answer) ∧
      (e.sight identifier answer = .ok .notFound ↔ e.Denies identifier answer) := by
  -- An answer that does not deny the object is read as a failure or as something there.
  by_cases denies : e.Denies identifier answer
  · obtain ⟨read, seen⟩ := missing_of_denies sound id denies
    exact ⟨iff_of_true read denies, iff_of_true seen denies⟩
  · cases answer with
    | error failure =>
      have uncovered : e.blueprint.notFound.covers failure = false :=
        Bool.eq_false_iff.mpr fun covered => denies (.covered covered)
      rw [(failing_of_not_covers id uncovered).1, (failing_of_not_covers id uncovered).2]
      simp [denies]
    | ok response =>
      obtain ⟨document, shown, -, -, read, seen⟩ := found_of_not_denies sound id denies
      rw [read, seen]
      simp [denies, State.found, State.notFound]

end Engine

end Provision
