import Eiraos.Foundations.LineLoop

/-! # What a loop reads in its lines

Often the state of a loop over lines decides nothing but the events after the last line.
What such a loop does with a line is then read off the line alone, and the loop is the
`play` of these readings: its texts, and whether it ends without an exception.
-/

namespace LineLoop

inductive Reading (Text : Type*) where
  | emits (texts : List Text)
  | breaks
  | fails
  deriving DecidableEq

namespace Reading

variable {Text Error : Type*}

/-- The texts and the ending of a line are what its reading says. -/
def Of (texts : List Text) (ending : LineEnding Error) : Reading Text → Prop
  | .emits emitted => texts = emitted ∧ ending = .continues
  | .breaks => texts = [] ∧ ending = .breaks
  | .fails => texts = [] ∧ ∃ error, ending = .raises error

/-- The texts of the readings, and whether none of those that are played fails. -/
def play : List (Reading Text) → List Text × Bool
  | [] => ([], true)
  | .emits texts :: rest => (texts ++ (play rest).1, (play rest).2)
  | .breaks :: _ => ([], true)
  | .fails :: _ => ([], false)

/-- A reading that is put in changes nothing exactly when it is never played or emits nothing. -/
theorem play_insert {before after : List (Reading Text)} {reading : Reading Text}
    (finished : (play (before ++ after)).2 = true) (unbroken : reading ≠ .breaks) :
    play (before ++ reading :: after) = play (before ++ after) ↔
      .breaks ∈ before ∨ reading = .emits [] := by
  induction before with
  | nil =>
    simp only [List.nil_append, List.not_mem_nil, false_or] at finished ⊢
    cases reading with
    | emits texts => simp [play, Prod.ext_iff]
    | breaks => exact absurd rfl unbroken
    | fails => simp [play, Prod.ext_iff, finished]
  | cons first before inductionHypothesis =>
    cases first with
    | emits texts =>
      have later := inductionHypothesis finished
      simpa [play, Prod.ext_iff] using later
    | breaks => simp [play]
    | fails => cases finished

end Reading

section Loop

variable {State Line Event Text Error : Type*} {body : State → Line → LineEffect State Event Error}
  {finish : State → List Event} {text? : Event → Option Text} {reading : Line → Reading Text}

/-- A loop plays the readings of its lines. -/
theorem loop_plays
    (does : ∀ state line, (reading line).Of ((body state line).events.filterMap text?)
      (body state line).ending)
    (finished : ∀ state, (finish state).filterMap text? = []) (state : State) (lines : List Line) :
    ((loop body finish state lines).erase text?).events = (Reading.play (lines.map reading)).1 ∧
      ((loop body finish state lines).failure = none ↔
        (Reading.play (lines.map reading)).2 = true) := by
  induction lines generalizing state with
  | nil => exact ⟨finished state, iff_of_true rfl rfl⟩
  | cons line lines inductionHypothesis =>
    have done := does state line
    rw [List.map_cons]
    generalize reading line = read at done
    cases read with
    | emits texts =>
      obtain ⟨heard, going⟩ := done
      have later := inductionHypothesis (body state line).state
      rw [loop_of_continues going, erase_prepend, heard]
      exact ⟨congrArg (texts ++ ·) later.1, later.2⟩
    | breaks =>
      obtain ⟨quiet, broke⟩ := done
      rw [loop_of_breaks broke]
      refine ⟨?_, iff_of_true rfl rfl⟩
      simp [Transcript.erase, Reading.play, quiet, finished]
    | fails =>
      obtain ⟨quiet, error, raised⟩ := done
      rw [loop_of_raises raised]
      exact ⟨quiet, iff_of_false (Option.some_ne_none error) Bool.false_ne_true⟩

/-- A line that is put into a finished loop changes neither its texts nor its ending exactly
when it is not reached or read as nothing. -/
theorem insert_unnoticed_iff
    (does : ∀ state line, (reading line).Of ((body state line).events.filterMap text?)
      (body state line).ending)
    (finished : ∀ state, (finish state).filterMap text? = []) (state : State)
    {before after : List Line} {line : Line}
    (normal : (loop body finish state (before ++ after)).failure = none)
    (unbroken : reading line ≠ .breaks) :
    ((loop body finish state (before ++ line :: after)).failure = none ∧
        ((loop body finish state (before ++ line :: after)).erase text?).events =
          ((loop body finish state (before ++ after)).erase text?).events) ↔
      (∃ earlier ∈ before, reading earlier = .breaks) ∨ reading line = .emits [] := by
  have inserted := loop_plays does finished state (before ++ line :: after)
  have original := loop_plays does finished state (before ++ after)
  have ended := original.2.mp normal
  rw [inserted.1, inserted.2, original.1]
  simp only [List.map_append, List.map_cons] at ended ⊢
  rw [← List.mem_map, ← Reading.play_insert ended unbroken, Prod.ext_iff, ended]
  exact and_comm

end Loop

/-! ## Readings and kinds -/

namespace LineKind

variable {Text Error : Type*} {kind : LineKind Text} {reading : Reading Text} {texts : List Text}
  {ending : LineEnding Error}

/-- What the first of two loops reads in a line of the kind. -/
def FirstReads (reading : Reading Text) : LineKind Text → Prop
  | .texts emitted | .secondRejects emitted => reading = .emits emitted
  | .rejected | .firstRejects _ => reading = .fails
  | .breaks => reading = .breaks
  | .reported => True

def SecondReads (reading : Reading Text) : LineKind Text → Prop
  | .texts emitted | .firstRejects emitted => reading = .emits emitted
  | .rejected | .secondRejects _ => reading = .fails
  | .breaks => reading = .emits []
  | .reported => True

theorem first_of_reads (done : reading.Of texts ending) (reads : kind.FirstReads reading) :
    kind.First texts ending := by
  cases kind with
  | reported => trivial
  | _ =>
    cases reads
    exact done

theorem second_of_reads (done : reading.Of texts ending) (reads : kind.SecondReads reading) :
    kind.Second texts ending := by
  cases kind with
  | reported => trivial
  | _ =>
    cases reads
    exact done

end LineKind

end LineLoop
