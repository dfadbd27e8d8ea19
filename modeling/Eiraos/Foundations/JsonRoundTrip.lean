import Eiraos.Foundations.JsonText

/-! # What `json.dumps` writes, `json.loads` reads

A value without floats is read back from its text, and the text is a line of printable ASCII.
-/

namespace JsonText

open PythonJson (JsonValue)

/-! ## Values that are read back -/

/-- Without floats, and no key stands twice in a dictionary. -/
inductive Plain : JsonValue → Prop where
  | null : Plain .null
  | bool (value : Bool) : Plain (.bool value)
  | int (value : Int) : Plain (.int value)
  | string (text : String) : Plain (.string text)
  | array {items : List JsonValue} (plain : ∀ item ∈ items, Plain item) : Plain (.array items)
  | object {members : List (String × JsonValue)} (keys : (members.map Prod.fst).Nodup)
      (plain : ∀ member ∈ members, Plain member.2) : Plain (.object members)

section RoundTrip

variable {float : String → JsonValue} {rest : List Char}

theorem endsNumber_cons {mark : Char} (ends : mark = ',' ∨ mark = ']' ∨ mark = '}') :
    EndsNumber (mark :: rest) := by
  intro character first
  cases first
  rcases ends with rfl | rfl | rfl <;> decide

theorem isDigit_ne {character other : Char} (digit : character.isDigit = true) (symbol : other.isDigit = false) :
    character ≠ other := fun same => by
  rw [same, symbol] at digit
  cases digit

theorem readConstant_digit {digit : Char} (isDigit : digit.isDigit = true) :
    readConstant float (digit :: rest) = none := by
  have others : ∀ (other : Char), other.isDigit = false → (other == digit) = false :=
    fun _ symbol => beq_eq_false_iff_ne.mpr (isDigit_ne isDigit symbol).symm
  simp [readConstant, CONSTANTS, List.isPrefixOf, others 'n' rfl, others 't' rfl,
    others 'f' rfl, others 'N' rfl, others 'I' rfl, others '-' rfl]

theorem readConstant_negative {digit : Char} (isDigit : digit.isDigit = true) :
    readConstant float ('-' :: digit :: rest) = none := by
  have differs : ('I' == digit) = false := beq_eq_false_iff_ne.mpr (isDigit_ne isDigit rfl).symm
  simp [readConstant, CONSTANTS, List.isPrefixOf, differs]

/-- What is written of an integer is no constant, and opens nothing. -/
theorem writeInt_head (float : String → JsonValue) (rest : List Char) (value : Int) :
    ∃ head tail, writeInt value = head :: tail ∧ (head = '-' ∨ head.isDigit = true) ∧
      readConstant float (writeInt value ++ rest) = none := by
  obtain ⟨digit, digits, written⟩ := List.exists_cons_of_ne_nil (Nat.toDigits_ne_nil (n := value.natAbs) (b := 10))
  have isDigit := isDigit_toDigits value.natAbs digit (written ▸ List.mem_cons_self)
  unfold writeInt
  rw [written]
  split
  · exact ⟨_, _, rfl, .inl rfl, readConstant_negative isDigit⟩
  · exact ⟨_, _, rfl, .inr isDigit, readConstant_digit isDigit⟩

theorem read_writeInt (value : Int) (ends : EndsNumber rest) {fuel : Nat} (enough : 0 < fuel) :
    read float fuel (writeInt value ++ rest) = some (.int value, rest) := by
  cases fuel with
  | zero => cases enough
  | succ fuel =>
    obtain ⟨head, tail, written, first, unread⟩ := writeInt_head float rest value
    have number := readNumber_writeInt float value ends
    have other : ∀ {mark : Char}, mark.isDigit = false → mark ≠ '-' → head ≠ mark := by
      rintro mark symbol differs rfl
      rcases first with rfl | digit
      · exact differs rfl
      · exact isDigit_ne digit symbol rfl
    rw [written, List.cons_append] at unread number ⊢
    rw [read, if_neg (other rfl (by decide)), if_neg (other rfl (by decide)), if_neg (other rfl (by decide)),
      unread, number]

theorem skip_cons {head : Char} (solid : isSpace head = false) : skip (head :: rest) = head :: rest :=
  List.dropWhile_cons_of_neg (by simp [solid])

theorem after_self (mark : Char) (solid : isSpace mark = false) : after mark (mark :: rest) = some rest := by
  rw [after, skip_cons solid]
  exact if_pos rfl

theorem after_other (mark next : Char) (solid : isSpace next = false) (differs : next ≠ mark) :
    after mark (next :: rest) = none := by
  rw [after, skip_cons solid]
  exact if_neg differs

/-- The text begins with a character that is no white space and closes nothing. -/
def Opens (text : List Char) : Prop :=
  ∃ head tail, text = head :: tail ∧ isSpace head = false ∧ head ≠ ']' ∧ head ≠ '\x7d'

theorem opens_write {value : JsonValue} (plain : Plain value) : Opens (write value) := by
  cases plain with
  | bool value =>
    cases value
    · exact ⟨_, _, rfl, rfl, by decide, by decide⟩
    · exact ⟨_, _, rfl, rfl, by decide, by decide⟩
  | int value =>
    obtain ⟨head, tail, written, first, _⟩ := writeInt_head (fun _ => .null) [] value
    refine ⟨head, tail, written, ?_⟩
    rcases first with rfl | digit
    · exact ⟨rfl, by decide, by decide⟩
    · refine ⟨?_, isDigit_ne digit rfl, isDigit_ne digit rfl⟩
      simp only [isSpace, decide_eq_false_iff_not, not_or]
      exact ⟨isDigit_ne digit rfl, isDigit_ne digit rfl, isDigit_ne digit rfl, isDigit_ne digit rfl⟩
  | _ => exact ⟨_, _, rfl, rfl, by decide, by decide⟩

theorem Opens.skip {text : List Char} (opens : Opens text) : skip (text ++ rest) = text ++ rest := by
  obtain ⟨head, tail, rfl, solid, _⟩ := opens
  exact skip_cons solid

theorem Opens.after {text : List Char} (opens : Opens text) {mark : Char} (closes : mark = ']' ∨ mark = '\x7d') :
    after mark (text ++ rest) = none := by
  obtain ⟨head, tail, rfl, solid, array, object⟩ := opens
  rcases closes with rfl | rfl
  · exact after_other _ _ solid array
  · exact after_other _ _ solid object

theorem Opens.length_pos {text : List Char} (opens : Opens text) : 0 < text.length := by
  obtain ⟨head, tail, rfl, _⟩ := opens
  exact Nat.succ_pos _

/-- A value that was written is read back where no more of a number follows. -/
def RoundTrips (float : String → JsonValue) (value : JsonValue) : Prop :=
  ∀ (fuel : Nat) (rest : List Char), (write value).length ≤ fuel → EndsNumber rest →
    read float fuel (write value ++ rest) = some (value, rest)

theorem writeItems_cons (lead : List Char) (item : JsonValue) (items : List JsonValue) :
    writeItems lead (item :: items) = lead ++ writeItems [] (item :: items) := rfl

theorem writeMembers_cons (lead : List Char) (member : String × JsonValue) (members : List (String × JsonValue)) :
    writeMembers lead (member :: members) = lead ++ writeMembers [] (member :: members) := rfl

theorem opens_writeItems {item : JsonValue} {items : List JsonValue} (opens : Opens (write item)) :
    Opens (writeItems [] (item :: items)) := by
  obtain ⟨head, tail, written, closed⟩ := opens
  refine ⟨head, tail ++ writeItems [',', ' '] items, ?_, closed⟩
  rw [writeItems, written]
  rfl

theorem readItems_writeItems {item : JsonValue} {items : List JsonValue}
    (back : ∀ other ∈ item :: items, RoundTrips float other ∧ Opens (write other)) {fuel : Nat}
    (enough : (writeItems [] (item :: items)).length < fuel) :
    readItems float fuel (writeItems [] (item :: items) ++ ']' :: rest) = some (item :: items, rest) := by
  induction items generalizing item fuel with
  | nil =>
    cases fuel with
    | zero => cases enough
    | succ fuel =>
      have first := (back item List.mem_cons_self).1 fuel (']' :: rest)
      simp only [writeItems, List.nil_append, List.append_nil] at enough ⊢
      rw [readItems, first (Nat.le_of_lt_succ enough) (endsNumber_cons (.inr (.inl rfl)))]
      simp only [Option.bind_eq_bind, Option.bind_some, after_self ']' rfl]
  | cons next items inductionHypothesis =>
    cases fuel with
    | zero => cases enough
    | succ fuel =>
      obtain ⟨trips, opens⟩ := back item List.mem_cons_self
      obtain ⟨_, nextOpens⟩ := back next (List.mem_cons_of_mem _ List.mem_cons_self)
      have positive := opens.length_pos
      have written : writeItems [] (item :: next :: items) =
          write item ++ ',' :: ' ' :: writeItems [] (next :: items) := by
        rw [writeItems, List.nil_append, writeItems_cons [',', ' ']]
        rfl
      rw [written] at enough ⊢
      simp only [List.length_append, List.length_cons] at enough
      have others : readItems float fuel (writeItems [] (next :: items) ++ ']' :: rest) =
          some (next :: items, rest) :=
        inductionHypothesis (fun other present => back other (List.mem_cons_of_mem _ present)) (by omega)
      have spaced : skip (' ' :: (writeItems [] (next :: items) ++ ']' :: rest)) =
          writeItems [] (next :: items) ++ ']' :: rest :=
        (opens_writeItems nextOpens).skip
      rw [readItems, List.append_assoc, List.cons_append, trips _ _ (by omega) (endsNumber_cons (.inl rfl))]
      simp only [Option.bind_eq_bind, Option.bind_some, List.cons_append, after_other ']' ','
        rfl (by decide), after_self ',' rfl, spaced, others, Option.pure_def]

theorem opens_writeMembers {member : String × JsonValue} {members : List (String × JsonValue)} :
    Opens (writeMembers [] (member :: members)) := by
  obtain ⟨key, value⟩ := member
  exact ⟨'"', _, rfl, rfl, by decide, by decide⟩

theorem readMember_written {key : String} {value : JsonValue} {fuel : Nat} {tail : List Char}
    (trips : RoundTrips float value) (opens : Opens (write value)) (enough : (write value).length ≤ fuel)
    (ends : EndsNumber tail) :
    readMember (read float fuel) (writeString key ++ ':' :: ' ' :: (write value ++ tail)) =
      some ((key, value), tail) := by
  have quoted : writeString key ++ ':' :: ' ' :: (write value ++ tail) =
      '"' :: (escapeText key.toList ++ '"' :: ':' :: ' ' :: (write value ++ tail)) := by
    simp [writeString]
  have spaced : skip (' ' :: (write value ++ tail)) = write value ++ tail := opens.skip
  simp only [readMember, quoted, after_self '"' rfl, Option.bind_eq_bind, Option.bind_some,
    readString_escapeText, after_self ':' rfl, spaced, trips _ _ enough ends, Option.pure_def]

theorem readMembers_writeMembers {member : String × JsonValue} {members : List (String × JsonValue)}
    (back : ∀ other ∈ member :: members, RoundTrips float other.2 ∧ Opens (write other.2)) {fuel : Nat}
    (enough : (writeMembers [] (member :: members)).length < fuel) :
    readMembers float fuel (writeMembers [] (member :: members) ++ '\x7d' :: rest) =
      some (member :: members, rest) := by
  induction members generalizing member fuel with
  | nil =>
    cases fuel with
    | zero => cases enough
    | succ fuel =>
      obtain ⟨trips, opens⟩ := back member List.mem_cons_self
      have written : writeMembers [] [member] = writeString member.1 ++ ':' :: ' ' :: write member.2 := by
        rw [writeMembers, writeMembers, List.append_nil, List.nil_append]
        rfl
      rw [written] at enough ⊢
      simp only [List.length_append, List.length_cons] at enough
      rw [readMembers, List.append_assoc, List.cons_append, List.cons_append,
        readMember_written trips opens (by omega) (endsNumber_cons (.inr (.inr rfl)))]
      simp only [Option.bind_eq_bind, Option.bind_some, after_self '\x7d' rfl]
  | cons next members inductionHypothesis =>
    cases fuel with
    | zero => cases enough
    | succ fuel =>
      obtain ⟨trips, opens⟩ := back member List.mem_cons_self
      have written : writeMembers [] (member :: next :: members) =
          writeString member.1 ++ ':' :: ' ' :: (write member.2 ++ ',' :: ' ' :: writeMembers [] (next :: members)) := by
        rw [writeMembers, List.nil_append, writeMembers_cons [',', ' ']]
        rfl
      rw [written] at enough ⊢
      simp only [List.length_append, List.length_cons] at enough
      have others : readMembers float fuel (writeMembers [] (next :: members) ++ '\x7d' :: rest) =
          some (next :: members, rest) :=
        inductionHypothesis (fun other present => back other (List.mem_cons_of_mem _ present)) (by omega)
      have spaced : skip (' ' :: (writeMembers [] (next :: members) ++ '\x7d' :: rest)) =
          writeMembers [] (next :: members) ++ '\x7d' :: rest :=
        opens_writeMembers.skip
      rw [readMembers, List.append_assoc, List.cons_append, List.cons_append, List.append_assoc, List.cons_append,
        readMember_written trips opens (by omega) (endsNumber_cons (.inl rfl))]
      simp only [Option.bind_eq_bind, Option.bind_some, List.cons_append, after_other '\x7d'
        ',' rfl (by decide), after_self ',' rfl, spaced, others, Option.pure_def]

/-- Members with different keys are a dictionary. -/
theorem dictionary_of_nodup {members : List (String × JsonValue)} (keys : (members.map Prod.fst).Nodup) :
    dictionary members = members := by
  have grows : ∀ known rest : List (String × JsonValue), ((known ++ rest).map Prod.fst).Nodup →
      rest.foldl (fun known member =>
        if known.any (·.1 = member.1) then known.map fun other => if other.1 = member.1 then member else other
        else known ++ [member]) known = known ++ rest := by
    intro known rest distinct
    induction rest generalizing known with
    | nil => exact (List.append_nil known).symm
    | cons member rest inductionHypothesis =>
      have fresh : known.any (fun other => decide (other.1 = member.1)) = false := by
        rw [List.map_append, List.map_cons, List.nodup_append] at distinct
        refine List.any_eq_false.mpr fun other present same => ?_
        exact distinct.2.2 _ (List.mem_map_of_mem present) _ List.mem_cons_self (of_decide_eq_true same)
      rw [List.foldl_cons, fresh, if_neg Bool.false_ne_true, inductionHypothesis, List.append_assoc]
      · rfl
      · rw [List.append_assoc]
        exact distinct
  exact grows [] members keys

theorem roundTrips {value : JsonValue} (plain : Plain value) : RoundTrips float value := by
  induction plain with
  | null =>
    intro fuel rest enough ends
    cases fuel with
    | zero => cases enough
    | succ fuel => rfl
  | bool value =>
    intro fuel rest enough ends
    cases fuel with
    | zero => cases value <;> cases enough
    | succ fuel => cases value <;> rfl
  | int value =>
    intro fuel rest enough ends
    exact read_writeInt value ends (Nat.lt_of_lt_of_le (opens_write (.int value)).length_pos enough)
  | string text =>
    intro fuel rest enough ends
    cases fuel with
    | zero => cases enough
    | succ fuel =>
      show read float (fuel + 1) ('"' :: (escapeText text.toList ++ ['"'] ++ rest)) = _
      rw [read, if_pos rfl, List.append_assoc, List.singleton_append, readString_escapeText]
      rfl
  | array plain inductionHypothesis =>
    rename_i items
    intro fuel rest enough ends
    cases fuel with
    | zero => cases enough
    | succ fuel =>
      cases items with
      | nil => rfl
      | cons item items =>
        have bound : (writeItems [] (item :: items)).length < fuel := by
          simp only [write, List.length_cons, List.length_append, List.length_nil] at enough
          omega
        have opens : Opens (writeItems [] (item :: items)) :=
          opens_writeItems (opens_write (plain item List.mem_cons_self))
        have back : readItems float fuel (writeItems [] (item :: items) ++ ']' :: rest) =
            some (item :: items, rest) := readItems_writeItems
          (fun other present => ⟨inductionHypothesis other present, opens_write (plain other present)⟩) bound
        show read float (fuel + 1) ('[' :: (writeItems [] (item :: items) ++ [']'] ++ rest)) = _
        rw [read, if_neg (by decide), if_pos rfl, List.append_assoc, List.singleton_append,
          opens.after (.inl rfl), opens.skip, back]
        rfl
  | object keys plain inductionHypothesis =>
    rename_i members
    intro fuel rest enough ends
    cases fuel with
    | zero => cases enough
    | succ fuel =>
      cases members with
      | nil => rfl
      | cons member members =>
        have bound : (writeMembers [] (member :: members)).length < fuel := by
          simp only [write, List.length_cons, List.length_append, List.length_nil] at enough
          omega
        have opens : Opens (writeMembers [] (member :: members)) := opens_writeMembers
        have back : readMembers float fuel (writeMembers [] (member :: members) ++ '\x7d' :: rest) =
            some (member :: members, rest) := readMembers_writeMembers
          (fun other present => ⟨inductionHypothesis other present, opens_write (plain other present)⟩) bound
        show read float (fuel + 1) ('\x7b' :: (writeMembers [] (member :: members) ++ ['\x7d'] ++ rest)) = _
        rw [read, if_neg (by decide), if_neg (by decide), if_pos rfl, List.append_assoc, List.singleton_append,
          opens.after (.inr rfl), opens.skip, back]
        simp only [Option.map_some, dictionary_of_nodup keys]

/-- What `json.dumps` writes, `json.loads` reads. -/
theorem loads_dumps {value : JsonValue} (plain : Plain value) : loads float (dumps value) = some value := by
  have opens := opens_write plain
  have skipped : skip (write value) = write value := by
    have same : skip (write value ++ []) = write value ++ [] := opens.skip
    rwa [List.append_nil] at same
  have trips : RoundTrips float value := roundTrips plain
  have back := trips ((dumps value).length + 1) [] (by simp [dumps]) (fun _ absent => nomatch absent)
  rw [List.append_nil] at back
  simp only [loads, dumps, String.toList_ofList, skipped] at back ⊢
  rw [back]
  rfl

/-! ## Printable ASCII -/

theorem printable_digit {character : Char} (digit : character.isDigit = true) : Printable character := by
  obtain ⟨above, below⟩ := Char.isDigit_iff_toNat.mp digit
  exact ⟨Nat.le_trans (by decide) above, Nat.le_trans below (by decide)⟩

theorem printable_writeInt (value : Int) : ∀ character ∈ writeInt value, Printable character := by
  have digits : ∀ digit ∈ Nat.toDigits 10 value.natAbs, Printable digit :=
    fun digit present => printable_digit (isDigit_toDigits _ digit present)
  unfold writeInt
  split
  · exact List.forall_mem_cons.mpr ⟨by decide, digits⟩
  · exact digits

theorem printable_writeItems {items : List JsonValue} {lead : List Char}
    (printable : ∀ item ∈ items, ∀ character ∈ write item, Printable character)
    (separated : ∀ character ∈ lead, Printable character) :
    ∀ character ∈ writeItems lead items, Printable character := by
  induction items generalizing lead with
  | nil => exact fun _ absent => nomatch absent
  | cons item items inductionHypothesis =>
    rw [writeItems]
    refine List.forall_mem_append.mpr ⟨separated, List.forall_mem_append.mpr
      ⟨printable item List.mem_cons_self, inductionHypothesis ?_ (printable_of_all rfl)⟩⟩
    exact fun other present => printable other (List.mem_cons_of_mem _ present)

theorem printable_writeMembers {members : List (String × JsonValue)} {lead : List Char}
    (printable : ∀ member ∈ members, ∀ character ∈ write member.2, Printable character)
    (separated : ∀ character ∈ lead, Printable character) :
    ∀ character ∈ writeMembers lead members, Printable character := by
  induction members generalizing lead with
  | nil => exact fun _ absent => nomatch absent
  | cons member members inductionHypothesis =>
    rw [writeMembers]
    refine List.forall_mem_append.mpr ⟨separated, List.forall_mem_append.mpr ⟨printable_writeString _,
      List.forall_mem_append.mpr ⟨printable_of_all rfl, List.forall_mem_append.mpr
        ⟨printable member List.mem_cons_self, inductionHypothesis ?_ (printable_of_all rfl)⟩⟩⟩⟩
    exact fun other present => printable other (List.mem_cons_of_mem _ present)

theorem printable_write {value : JsonValue} (plain : Plain value) :
    ∀ character ∈ write value, Printable character := by
  induction plain with
  | null => exact printable_of_all rfl
  | bool value => cases value <;> exact printable_of_all rfl
  | int value => exact printable_writeInt value
  | string text => exact printable_writeString text
  | array plain inductionHypothesis =>
    refine List.forall_mem_cons.mpr ⟨by decide, List.forall_mem_append.mpr ⟨?_, printable_of_all rfl⟩⟩
    exact printable_writeItems inductionHypothesis fun _ absent => nomatch absent
  | object keys plain inductionHypothesis =>
    refine List.forall_mem_cons.mpr ⟨by decide, List.forall_mem_append.mpr ⟨?_, printable_of_all rfl⟩⟩
    exact printable_writeMembers inductionHypothesis fun _ absent => nomatch absent

end RoundTrip

end JsonText
