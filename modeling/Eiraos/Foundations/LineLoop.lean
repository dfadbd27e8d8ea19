import Mathlib.Data.List.Basic

/-! # Loops over the lines of a response

The body of such a loop emits events and then goes on, breaks or raises.  Two loops that
read the same lines are compared line by line: as long as both do the same they stay
together, and from the first line on which only one of them stops, the other one is alone.
`agree_iff` says exactly when they still agree.
-/

namespace LineLoop

inductive LineEnding (Error : Type*) where
  | continues
  | breaks
  | raises (error : Error)

structure LineEffect (State Event Error : Type*) where
  state : State
  events : List Event
  ending : LineEnding Error

/-- `read` are the lines taken from the response, `failure` is the exception that ended the loop. -/
structure Transcript (Line Event Error : Type*) where
  read : List Line
  events : List Event
  failure : Option Error

section Loop

variable {State Line Event Text Error : Type*}

/-- What a line adds in front of the rest. -/
def Transcript.prepend (line : Line) (events : List Event) (rest : Transcript Line Event Error) :
    Transcript Line Event Error :=
  ⟨line :: rest.read, events ++ rest.events, rest.failure⟩

/-- The loop, and what follows it when it was not left by an exception. -/
def loop (body : State → Line → LineEffect State Event Error) (finish : State → List Event) :
    State → List Line → Transcript Line Event Error
  | state, [] => ⟨[], finish state, none⟩
  | state, line :: lines =>
    let effect := body state line
    match effect.ending with
    | .continues => (loop body finish effect.state lines).prepend line effect.events
    | .breaks => ⟨[line], effect.events ++ finish effect.state, none⟩
    | .raises error => ⟨[line], effect.events, some error⟩

/-- The events that are texts. -/
def Transcript.erase (text? : Event → Option Text) (transcript : Transcript Line Event Error) :
    Transcript Line Text Error :=
  { transcript with events := transcript.events.filterMap text? }

variable {body : State → Line → LineEffect State Event Error} {finish : State → List Event}
  {state : State} {line : Line} {lines : List Line}

theorem loop_of_continues (going : (body state line).ending = .continues) :
    loop body finish state (line :: lines) =
      (loop body finish (body state line).state lines).prepend line (body state line).events := by
  simp only [loop, going]

theorem loop_of_breaks (broke : (body state line).ending = .breaks) :
    loop body finish state (line :: lines) =
      ⟨[line], (body state line).events ++ finish (body state line).state, none⟩ := by
  simp only [loop, broke]

theorem loop_of_raises {error : Error} (raised : (body state line).ending = .raises error) :
    loop body finish state (line :: lines) = ⟨[line], (body state line).events, some error⟩ := by
  simp only [loop, raised]

@[simp] theorem erase_prepend (text? : Event → Option Text) (events : List Event)
    (rest : Transcript Line Event Error) :
    (rest.prepend line events).erase text? = (rest.erase text?).prepend line (events.filterMap text?) := by
  simp [Transcript.erase, Transcript.prepend]

@[simp] theorem erase_failure (text? : Event → Option Text) (transcript : Transcript Line Event Error) :
    (transcript.erase text?).failure = transcript.failure := rfl

/-- A line that is rejected without a text. -/
theorem erase_loop_of_raises {text? : Event → Option Text} {error : Error}
    (quiet : (body state line).events.filterMap text? = [])
    (raised : (body state line).ending = .raises error) :
    (loop body finish state (line :: lines)).erase text? = ⟨[line], [], some error⟩ := by
  rw [loop_of_raises raised, Transcript.erase, quiet]

theorem erase_some (transcript : Transcript Line Text Error) : transcript.erase some = transcript := by
  simp [Transcript.erase]

/-- The line is read first, whatever becomes of it. -/
theorem mem_read_loop : line ∈ (loop body finish state (line :: lines)).read := by
  cases ended : (body state line).ending with
  | continues => rw [loop_of_continues ended]; exact List.mem_cons_self
  | breaks => rw [loop_of_breaks ended]; exact List.mem_cons_self
  | raises error => rw [loop_of_raises ended]; exact List.mem_cons_self

/-- A loop fails with what its body raised on some line. -/
theorem failure_raised {error : Error} (failed : (loop body finish state lines).failure = some error) :
    ∃ state line, (body state line).ending = .raises error := by
  induction lines generalizing state with
  | nil => cases failed
  | cons line lines inductionHypothesis =>
    cases ended : (body state line).ending with
    | continues =>
      rw [loop_of_continues ended] at failed
      exact inductionHypothesis failed
    | breaks =>
      rw [loop_of_breaks ended] at failed
      cases failed
    | raises raised =>
      rw [loop_of_raises ended] at failed
      cases failed
      exact ⟨state, line, ended⟩

end Loop

/-! ## Kinds of lines -/

/-- What one loop does with a line: nothing, it emits a text, it breaks, it raises, or it
meets a reported error. -/
inductive Aspect where
  | silent
  | speaks
  | breaks
  | rejects
  | reports
  deriving DecidableEq, Repr

/-- What two loops do with a line.  Both go on, or raise, or only the first one breaks; a
reported error; or only one of them raises and the other one emits something and goes on. -/
inductive LineKind (Text : Type*) where
  | texts (emitted : List Text)
  | rejected
  | breaks
  | reported
  | firstRejects (emitted : List Text)
  | secondRejects (emitted : List Text)

namespace LineKind

variable {Text : Type*}

def ofTexts : List Text → Aspect
  | [] => .silent
  | _ => .speaks

def first : LineKind Text → Aspect
  | .texts emitted | .secondRejects emitted => ofTexts emitted
  | .rejected | .firstRejects _ => .rejects
  | .breaks => .breaks
  | .reported => .reports

def second : LineKind Text → Aspect
  | .texts emitted | .firstRejects emitted => ofTexts emitted
  | .rejected | .secondRejects _ => .rejects
  | .breaks => .silent
  | .reported => .reports

/-- The first thing a loop does that is left alone. -/
def alone (aspect : LineKind Text → Aspect) (kinds : List (LineKind Text)) : Option Aspect :=
  (kinds.map aspect).find? fun done => done ≠ .silent

/-- No error is reported while one of the loops reads, the second loop does nothing once the
first one broke, and a line that one of them rejects is followed, before anything else, by a
line that the other one rejects. -/
def Agreeable : List (LineKind Text) → Prop
  | [] => True
  | .texts _ :: kinds => Agreeable kinds
  | .rejected :: _ => True
  | .breaks :: kinds => alone second kinds = none
  | .reported :: _ => False
  | .firstRejects emitted :: kinds => emitted = [] ∧ alone second kinds = some .rejects
  | .secondRejects emitted :: kinds => emitted = [] ∧ alone first kinds = some .rejects

end LineKind

section Agreement

variable {State Line Event Text Error : Type*}

/-- The texts and the ending of a line are what its aspect says. -/
def Aspect.Of (texts : List Text) (ending : LineEnding Error) : Aspect → Prop
  | .silent => texts = [] ∧ ending = .continues
  | .speaks => texts ≠ [] ∧ ending = .continues
  | .breaks => texts = [] ∧ ending = .breaks
  | .rejects => texts = [] ∧ ∃ error, ending = .raises error
  | .reports => True

/-- The texts and the ending of a line in the first loop are what its kind says. -/
def LineKind.First (texts : List Text) (ending : LineEnding Error) : LineKind Text → Prop
  | .texts emitted | .secondRejects emitted => texts = emitted ∧ ending = .continues
  | .rejected | .firstRejects _ => texts = [] ∧ ∃ error, ending = .raises error
  | .breaks => texts = [] ∧ ending = .breaks
  | .reported => True

def LineKind.Second (texts : List Text) (ending : LineEnding Error) : LineKind Text → Prop
  | .texts emitted | .firstRejects emitted => texts = emitted ∧ ending = .continues
  | .rejected | .secondRejects _ => texts = [] ∧ ∃ error, ending = .raises error
  | .breaks => texts = [] ∧ ending = .continues
  | .reported => True

/-- Two loops agree: the same texts, one ends normally if the other does, and an error that
is reported to either makes both fail with one of the expected exceptions. -/
structure Agree (reports : Line → Prop) (expected : Error → Prop)
    (first second : Transcript Line Text Error) : Prop where
  texts : first.events = second.events
  normal : first.failure = none ↔ second.failure = none
  reported : ∀ line, line ∈ first.read ∨ line ∈ second.read → reports line →
    (∃ error, first.failure = some error ∧ expected error) ∧
      ∃ error, second.failure = some error ∧ expected error

variable {reports : Line → Prop} {expected : Error → Prop} {line : Line}
  {first second : Transcript Line Text Error}

theorem agree_prepend {texts : List Text} (unreported : ¬reports line) :
    Agree reports expected (first.prepend line texts) (second.prepend line texts) ↔
      Agree reports expected first second := by
  constructor
  · rintro ⟨same, normal, reported⟩
    refine ⟨List.append_cancel_left same, normal, fun other member => reported other ?_⟩
    exact member.imp (List.mem_cons_of_mem _) (List.mem_cons_of_mem _)
  · rintro ⟨same, normal, reported⟩
    refine ⟨congrArg (texts ++ ·) same, normal, fun other member told => ?_⟩
    rcases member with member | member <;> rcases List.mem_cons.mp member with rfl | member
    · exact absurd told unreported
    · exact reported other (.inl member) told
    · exact absurd told unreported
    · exact reported other (.inr member) told

/-! ### One loop alone -/

/-- What comes of a loop, by the first thing it does. -/
inductive Alone (reports : Line → Prop) (transcript : Transcript Line Text Error) :
    Option Aspect → Prop where
  | finishes (texts : transcript.events = []) (normal : transcript.failure = none)
      (unreported : ∀ line ∈ transcript.read, ¬reports line) : Alone reports transcript none
  | speaks (texts : transcript.events ≠ []) : Alone reports transcript (some .speaks)
  | breaks (texts : transcript.events = []) (normal : transcript.failure = none) :
      Alone reports transcript (some .breaks)
  | rejects (texts : transcript.events = []) (failed : transcript.failure ≠ none)
      (unreported : ∀ line ∈ transcript.read, ¬reports line) : Alone reports transcript (some .rejects)
  | reports (line : Line) (member : line ∈ transcript.read) (told : reports line) :
      Alone reports transcript (some .reports)

theorem Alone.prepend {rest : Transcript Line Text Error} {aspect : Option Aspect}
    (later : Alone reports rest aspect) (unreported : ¬reports line) :
    Alone reports (rest.prepend line []) aspect := by
  have fresh (earlier : ∀ other ∈ rest.read, ¬reports other) :
      ∀ other ∈ (rest.prepend line []).read, ¬reports other :=
    List.forall_mem_cons.mpr ⟨unreported, earlier⟩
  cases later with
  | finishes texts normal earlier => exact .finishes texts normal (fresh earlier)
  | speaks texts => exact .speaks texts
  | breaks texts normal => exact .breaks texts normal
  | rejects texts failed earlier => exact .rejects texts failed (fresh earlier)
  | reports other member told => exact .reports other (List.mem_cons_of_mem _ member) told

variable {body : State → Line → LineEffect State Event Error} {finish : State → List Event}
  {text? : Event → Option Text}

theorem loop_alone {kind : Line → LineKind Text} {aspect : LineKind Text → Aspect}
    (does : ∀ state line, (aspect (kind line)).Of ((body state line).events.filterMap text?)
      (body state line).ending)
    (reported : ∀ line, reports line ↔ aspect (kind line) = .reports)
    (finished : ∀ state, (finish state).filterMap text? = []) (state : State) (lines : List Line) :
    Alone reports ((loop body finish state lines).erase text?)
      (LineKind.alone aspect (lines.map kind)) := by
  induction lines generalizing state with
  | nil => exact .finishes (finished state) rfl fun _ member => absurd member List.not_mem_nil
  | cons line lines inductionHypothesis =>
    have done := does state line
    have told := reported line
    simp only [LineKind.alone, List.map_cons, List.find?_cons] at inductionHypothesis ⊢
    generalize aspect (kind line) = which at done told ⊢
    cases which with
    | silent =>
      obtain ⟨quiet, going⟩ := done
      rw [loop_of_continues going, erase_prepend, quiet]
      exact (inductionHypothesis _).prepend fun reporting => by cases told.mp reporting
    | speaks =>
      obtain ⟨heard, going⟩ := done
      rw [loop_of_continues going, erase_prepend]
      exact .speaks fun none => heard (List.append_eq_nil_iff.mp none).1
    | breaks =>
      obtain ⟨quiet, broke⟩ := done
      rw [loop_of_breaks broke]
      refine .breaks ?_ rfl
      simp [Transcript.erase, quiet, finished]
    | rejects =>
      obtain ⟨quiet, error, raised⟩ := done
      rw [loop_of_raises raised]
      refine .rejects quiet (Option.some_ne_none error) fun other member => ?_
      rw [List.mem_singleton.mp member]
      exact fun reporting => by cases told.mp reporting
    | reports =>
      have read : line ∈ (loop body finish state (line :: lines)).read := mem_read_loop
      exact .reports line read (told.mpr rfl)

/-! ### Two loops -/

theorem LineKind.First.of {kind : LineKind Text} {texts : List Text} {ending : LineEnding Error}
    (does : kind.First texts ending) : kind.first.Of texts ending := by
  cases kind with
  | texts emitted =>
    obtain ⟨rfl, going⟩ := does
    cases texts with
    | nil => exact ⟨rfl, going⟩
    | cons => exact ⟨List.cons_ne_nil _ _, going⟩
  | secondRejects emitted =>
    obtain ⟨rfl, going⟩ := does
    cases texts with
    | nil => exact ⟨rfl, going⟩
    | cons => exact ⟨List.cons_ne_nil _ _, going⟩
  | rejected => exact does
  | firstRejects => exact does
  | breaks => exact does
  | reported => trivial

theorem LineKind.Second.of {kind : LineKind Text} {texts : List Text} {ending : LineEnding Error}
    (does : kind.Second texts ending) : kind.second.Of texts ending := by
  cases kind with
  | texts emitted =>
    obtain ⟨rfl, going⟩ := does
    cases texts with
    | nil => exact ⟨rfl, going⟩
    | cons => exact ⟨List.cons_ne_nil _ _, going⟩
  | firstRejects emitted =>
    obtain ⟨rfl, going⟩ := does
    cases texts with
    | nil => exact ⟨rfl, going⟩
    | cons => exact ⟨List.cons_ne_nil _ _, going⟩
  | rejected => exact does
  | secondRejects => exact does
  | breaks => exact does
  | reported => trivial

theorem LineKind.ofTexts_ne_reports (emitted : List Text) : ofTexts emitted ≠ .reports := by
  cases emitted <;> exact fun same => by cases same

theorem LineKind.first_eq_reports {kind : LineKind Text} : kind.first = .reports ↔ kind = .reported := by
  cases kind <;> simp [first, ofTexts_ne_reports]

theorem LineKind.second_eq_reports {kind : LineKind Text} : kind.second = .reports ↔ kind = .reported := by
  cases kind <;> simp [second, ofTexts_ne_reports]

theorem LineKind.second_ne_breaks (kind : LineKind Text) : kind.second ≠ .breaks := by
  cases kind with
  | texts emitted => cases emitted <;> simp [second, ofTexts]
  | firstRejects emitted => cases emitted <;> simp [second, ofTexts]
  | _ => simp [second]

theorem LineKind.alone_second_ne_breaks (kinds : List (LineKind Text)) :
    alone LineKind.second kinds ≠ some .breaks := by
  intro broke
  obtain ⟨kind, _, same⟩ := List.mem_map.mp (List.mem_of_find?_eq_some broke)
  exact second_ne_breaks kind same

/-- After a break of the first loop. -/
theorem agree_broken {rest : Transcript Line Text Error} {aspect : Option Aspect}
    (unreported : ¬reports line) (later : Alone reports rest aspect) (unbroken : aspect ≠ some .breaks) :
    Agree reports expected ⟨[line], [], none⟩ (rest.prepend line []) ↔ aspect = none := by
  constructor
  · rintro ⟨texts, normal, reported⟩
    cases later with
    | finishes => rfl
    | speaks heard => exact absurd texts.symm heard
    | breaks => exact absurd rfl unbroken
    | rejects _ failed => exact absurd (normal.mp rfl) failed
    | reports other member told =>
      obtain ⟨⟨_, failed, _⟩, _⟩ := reported other (.inr (List.mem_cons_of_mem _ member)) told
      cases failed
  · rintro rfl
    cases later with
    | finishes texts normal earlier =>
      refine ⟨texts.symm, iff_of_true rfl normal, fun other member told => ?_⟩
      have read : other ∈ line :: rest.read :=
        member.elim (fun here => List.mem_cons.mpr (.inl (List.mem_singleton.mp here))) id
      rcases List.mem_cons.mp read with rfl | member
      · exact absurd told unreported
      · exact absurd told (earlier other member)

/-- After an exception of one of the loops. -/
theorem agree_raised {rest : Transcript Line Text Error} {aspect : Option Aspect} {emitted : List Text}
    {error : Error} (unreported : ¬reports line) (later : Alone reports rest aspect)
    (unmet : ¬(expected error ∧ ∃ other, rest.failure = some other ∧ expected other)) :
    Agree reports expected ⟨[line], [], some error⟩ (rest.prepend line emitted) ↔
      emitted = [] ∧ aspect = some .rejects := by
  constructor
  · rintro ⟨texts, normal, reported⟩
    obtain ⟨quiet, restQuiet⟩ := List.append_eq_nil_iff.mp texts.symm
    refine ⟨quiet, ?_⟩
    cases later with
    | finishes _ ended => cases normal.mpr ended
    | speaks heard => exact absurd restQuiet heard
    | breaks _ ended => cases normal.mpr ended
    | rejects => rfl
    | reports other member told =>
      obtain ⟨⟨_, failed, isExpected⟩, restFailed⟩ :=
        reported other (.inr (List.mem_cons_of_mem _ member)) told
      cases failed
      exact absurd ⟨isExpected, restFailed⟩ unmet
  · rintro ⟨rfl, rfl⟩
    cases later with
    | rejects texts failed earlier =>
      refine ⟨texts.symm, iff_of_false (Option.some_ne_none error) failed, fun other member told => ?_⟩
      have read : other ∈ line :: rest.read :=
        member.elim (fun here => List.mem_cons.mpr (.inl (List.mem_singleton.mp here))) id
      rcases List.mem_cons.mp read with rfl | member
      · exact absurd told unreported
      · exact absurd told (earlier other member)

theorem Agree.symm (agree : Agree reports expected first second) : Agree reports expected second first :=
  ⟨agree.texts.symm, agree.normal.symm, fun line read told => (agree.reported line read.symm told).symm⟩

section Two

variable {FirstState FirstEvent : Type*} {kind : Line → LineKind Text}
  {firstBody : FirstState → Line → LineEffect FirstState FirstEvent Error}
  {firstFinish : FirstState → List FirstEvent} {firstText? : FirstEvent → Option Text}

/-- Two loops agree exactly on the agreeable lines, when the second never fails as expected. -/
theorem agree_iff
    (firstDoes : ∀ state line, (kind line).First ((firstBody state line).events.filterMap firstText?)
      (firstBody state line).ending)
    (secondDoes : ∀ state line, (kind line).Second ((body state line).events.filterMap text?)
      (body state line).ending)
    (firstFinished : ∀ state, (firstFinish state).filterMap firstText? = [])
    (secondFinished : ∀ state, (finish state).filterMap text? = [])
    (unexpected : ∀ state line error, (body state line).ending = .raises error → ¬expected error)
    (firstState : FirstState) (state : State) (lines : List Line) :
    Agree (fun line => kind line = .reported) expected
        ((loop firstBody firstFinish firstState lines).erase firstText?)
        ((loop body finish state lines).erase text?) ↔
      LineKind.Agreeable (lines.map kind) := by
  induction lines generalizing firstState state with
  | nil =>
    refine ⟨fun _ => trivial, fun _ => ⟨?_, Iff.rfl, fun line read => ?_⟩⟩
    · exact (firstFinished firstState).trans (secondFinished state).symm
    · rcases read with read | read <;> exact absurd read List.not_mem_nil
  | cons line lines inductionHypothesis =>
    have first := firstDoes firstState line
    have second := secondDoes state line
    -- What one loop does on its own once the other has ended.
    have firstAlone (later : FirstState) :=
      @loop_alone _ _ _ _ _ (fun line => kind line = .reported) _ _ _ kind LineKind.first
        (fun state line => (firstDoes state line).of) (fun _ => LineKind.first_eq_reports.symm)
        firstFinished later lines
    have secondAlone (later : State) :=
      @loop_alone _ _ _ _ _ (fun line => kind line = .reported) _ _ _ kind LineKind.second
        (fun state line => (secondDoes state line).of) (fun _ => LineKind.second_eq_reports.symm)
        secondFinished later lines
    -- The second loop raises nothing expected, so the two cannot fail alike that way.
    have unmet (later : State) (error : Error) : ¬(expected error ∧ ∃ other,
        ((loop body finish later lines).erase text?).failure = some other ∧ expected other) := by
      rintro ⟨_, other, failed, isExpected⟩
      rw [erase_failure] at failed
      obtain ⟨_, _, raised⟩ := failure_raised failed
      exact unexpected _ _ _ raised isExpected
    cases known : kind line with
    | texts emitted =>
      rw [known] at first second
      rw [loop_of_continues first.2, loop_of_continues second.2, erase_prepend, erase_prepend, first.1,
        second.1, agree_prepend (by simp [known]), List.map_cons, known]
      exact inductionHypothesis _ _
    | rejected =>
      rw [known] at first second
      obtain ⟨firstQuiet, _, firstRaised⟩ := first
      obtain ⟨secondQuiet, _, secondRaised⟩ := second
      rw [erase_loop_of_raises firstQuiet firstRaised, erase_loop_of_raises secondQuiet secondRaised,
        List.map_cons, known]
      refine iff_of_true ⟨rfl, by simp, ?_⟩ trivial
      intro other member told
      -- Both have read this line only, and it is not a reported one.
      have same : other = line := member.elim List.mem_singleton.mp List.mem_singleton.mp
      rw [same, known] at told
      cases told
    | breaks =>
      rw [known] at first second
      rw [loop_of_breaks first.2, loop_of_continues second.2, erase_prepend, second.1, List.map_cons, known]
      -- The first loop ends here without a text, the second reads on.
      have broke : Transcript.erase firstText? ⟨[line], (firstBody firstState line).events ++
          firstFinish (firstBody firstState line).state, none⟩ =
          (⟨[line], [], none⟩ : Transcript Line Text Error) := by
        simp [Transcript.erase, first.1, firstFinished]
      rw [broke]
      exact agree_broken (by simp [known]) (secondAlone _) (LineKind.alone_second_ne_breaks _)
    | reported =>
      rw [List.map_cons, known]
      -- A reported line asks for an expected error, which the second loop never raises.
      refine iff_of_false (fun agree => ?_) not_false
      have read : line ∈ (loop body finish state (line :: lines)).read := mem_read_loop
      obtain ⟨_, error, failed, isExpected⟩ := agree.reported line (.inr read) known
      rw [erase_failure] at failed
      obtain ⟨_, _, raised⟩ := failure_raised failed
      exact unexpected _ _ _ raised isExpected
    | firstRejects emitted =>
      rw [known] at first second
      obtain ⟨quiet, error, raised⟩ := first
      rw [erase_loop_of_raises quiet raised, loop_of_continues second.2, erase_prepend, second.1,
        List.map_cons, known]
      exact agree_raised (by simp [known]) (secondAlone _) (unmet _ _)
    | secondRejects emitted =>
      rw [known] at first second
      obtain ⟨quiet, error, raised⟩ := second
      rw [erase_loop_of_raises quiet raised, loop_of_continues first.2, erase_prepend, first.1,
        List.map_cons, known]
      have unexpectedHere : ¬expected error := unexpected _ _ _ raised
      exact Iff.trans ⟨Agree.symm, Agree.symm⟩
        (agree_raised (by simp [known]) (firstAlone _) fun met => unexpectedHere met.1)

end Two

end Agreement

end LineLoop
