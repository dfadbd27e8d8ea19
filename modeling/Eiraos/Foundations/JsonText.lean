import Mathlib.Data.List.Nodup
import Eiraos.Foundations.Json

/-! # JSON as text

`dumps` writes a value in ASCII, as `json.dumps` does with its defaults, and `loads` reads a text as
`json.loads` does.  A lone surrogate is no character: a text that escapes one is refused.
-/

namespace JsonText

open PythonJson (JsonValue)

/-! ## Characters -/

def ESCAPES : List (Char × Char) :=
  [('"', '"'), ('\\', '\\'), ('\n', 'n'), ('\r', 'r'), ('\t', 't'), ('\x0c', 'f'), ('\x08', 'b')]

def BACKSLASH : List (Char × Char) :=
  [('"', '"'), ('\\', '\\'), ('/', '/'), ('b', '\x08'), ('f', '\x0c'), ('n', '\n'), ('r', '\r'), ('t', '\t')]

def Printable (character : Char) : Prop := 0x20 ≤ character.toNat ∧ character.toNat ≤ 0x7e

instance (character : Char) : Decidable (Printable character) := inferInstanceAs (Decidable (_ ∧ _))

theorem printable_of_all {text : List Char} (checked : text.all (fun character => decide (Printable character)) = true) :
    ∀ character ∈ text, Printable character :=
  fun character present => of_decide_eq_true (List.all_eq_true.mp checked character present)

/-- `\uXXXX`. -/
def unicodeEscape (unit : Nat) : List Char :=
  ['\\', 'u', Nat.digitChar (unit / 0x1000), Nat.digitChar (unit / 0x100 % 0x10),
    Nat.digitChar (unit / 0x10 % 0x10), Nat.digitChar (unit % 0x10)]

/-- What is no printable ASCII is escaped, beyond the first plane as two surrogates. -/
def escapeCharacter (character : Char) : List Char :=
  match ESCAPES.lookup character with
  | some letter => ['\\', letter]
  | none =>
    if Printable character then [character]
    else if character.toNat < 0x10000 then unicodeEscape character.toNat
    else
      unicodeEscape (0xd800 + (character.toNat - 0x10000) / 0x400) ++
        unicodeEscape (0xdc00 + (character.toNat - 0x10000) % 0x400)

def hexValue? (character : Char) : Option Nat :=
  if '0' ≤ character ∧ character ≤ '9' then some (character.toNat - 0x30)
  else if 'a' ≤ character ∧ character ≤ 'f' then some (character.toNat - 0x57)
  else if 'A' ≤ character ∧ character ≤ 'F' then some (character.toNat - 0x37)
  else none

def readUnit : List Char → Option (Nat × List Char)
  | first :: second :: third :: fourth :: rest => do
    let first ← hexValue? first
    let second ← hexValue? second
    let third ← hexValue? third
    let fourth ← hexValue? fourth
    return (first * 0x1000 + second * 0x100 + third * 0x10 + fourth, rest)
  | _ => none

/-- A pair of surrogates, of which the first one is read. -/
def readSurrogate (high : Nat) : List Char → Option (Char × List Char)
  | '\\' :: 'u' :: text => do
    let (low, rest) ← readUnit text
    if 0xdc00 ≤ low ∧ low < 0xe000 then
      some (Char.ofNat (0x10000 + (high - 0xd800) * 0x400 + (low - 0xdc00)), rest)
    else none
  | _ => none

/-- What follows `\u`. -/
def readEscape (text : List Char) : Option (Char × List Char) := do
  let (unit, rest) ← readUnit text
  if 0xd800 ≤ unit ∧ unit < 0xdc00 then readSurrogate unit rest
  else if 0xdc00 ≤ unit ∧ unit < 0xe000 then none
  else some (Char.ofNat unit, rest)

def readBackslash : List Char → Option (Char × List Char)
  | [] => none
  | letter :: rest =>
    if letter = 'u' then readEscape rest
    else (BACKSLASH.lookup letter).map fun character => (character, rest)

/-- A control character stands in no string. -/
def readCharacter : List Char → Option (Char × List Char)
  | [] => none
  | character :: rest =>
    if character = '\\' then readBackslash rest
    else if character.toNat < 0x20 then none
    else some (character, rest)

section Characters

variable {unit : Nat} {rest : List Char}

theorem hexValue?_digitChar : ∀ digit < 0x10, hexValue? (Nat.digitChar digit) = some digit := by decide

theorem printable_digitChar : ∀ digit < 0x10, Printable (Nat.digitChar digit) := by decide

theorem readUnit_unicodeEscape (bound : unit < 0x10000) :
    readUnit ((unicodeEscape unit).drop 2 ++ rest) = some (unit, rest) := by
  have first := hexValue?_digitChar (unit / 0x1000) (by omega)
  have second := hexValue?_digitChar (unit / 0x100 % 0x10) (by omega)
  have third := hexValue?_digitChar (unit / 0x10 % 0x10) (by omega)
  have fourth := hexValue?_digitChar (unit % 0x10) (by omega)
  simp only [unicodeEscape, List.drop_succ_cons, List.drop_zero, List.cons_append, List.nil_append, readUnit,
    first, second, third, fourth, Option.bind_eq_bind, Option.bind_some, Option.pure_def, Option.some.injEq,
    Prod.mk.injEq, and_true]
  omega

theorem unicodeEscape_eq (unit : Nat) : unicodeEscape unit = '\\' :: 'u' :: (unicodeEscape unit).drop 2 := rfl

/-- A character is never a surrogate. -/
theorem toNat_range (character : Char) :
    character.toNat < 0xd800 ∨ (0xe000 ≤ character.toNat ∧ character.toNat < 0x110000) := by
  have valid := character.valid
  have same : character.val.toNat = character.toNat := rfl
  simp only [UInt32.isValidChar, Nat.isValidChar, same] at valid
  omega

theorem readEscape_plane {character : Char} (low : character.toNat < 0x10000) :
    readEscape ((unicodeEscape character.toNat).drop 2 ++ rest) = some (character, rest) := by
  have range := toNat_range character
  have notHigh : ¬(0xd800 ≤ character.toNat ∧ character.toNat < 0xdc00) := by omega
  have notLow : ¬(0xdc00 ≤ character.toNat ∧ character.toNat < 0xe000) := by omega
  simp only [readEscape, readUnit_unicodeEscape low, Option.bind_eq_bind, Option.bind_some, if_neg notHigh,
    if_neg notLow, Char.ofNat_toNat]

theorem readEscape_pair {high low : Nat} (isHigh : 0xd800 ≤ high ∧ high < 0xdc00)
    (isLow : 0xdc00 ≤ low ∧ low < 0xe000) :
    readEscape ((unicodeEscape high).drop 2 ++ (unicodeEscape low ++ rest)) =
      some (Char.ofNat (0x10000 + (high - 0xd800) * 0x400 + (low - 0xdc00)), rest) := by
  rw [unicodeEscape_eq low]
  simp only [readEscape, readUnit_unicodeEscape (show high < 0x10000 by omega), Option.bind_eq_bind,
    Option.bind_some, if_pos isHigh, readSurrogate, List.cons_append,
    readUnit_unicodeEscape (show low < 0x10000 by omega), if_pos isLow]

theorem readEscape_beyond {character : Char} (beyond : 0x10000 ≤ character.toNat) :
    readEscape ((unicodeEscape (0xd800 + (character.toNat - 0x10000) / 0x400)).drop 2 ++
        (unicodeEscape (0xdc00 + (character.toNat - 0x10000) % 0x400) ++ rest)) = some (character, rest) := by
  have range := toNat_range character
  have joined : ∀ offset : Nat,
      0x10000 + (0xd800 + offset / 0x400 - 0xd800) * 0x400 + (0xdc00 + offset % 0x400 - 0xdc00) =
        0x10000 + offset := by omega
  rw [readEscape_pair (by omega) (by omega), joined, Nat.add_sub_cancel' beyond, Char.ofNat_toNat]

theorem escaped_letter {character letter : Char} (escaped : ESCAPES.lookup character = some letter) :
    letter ≠ 'u' ∧ BACKSLASH.lookup letter = some character ∧ Printable letter := by
  have all : ∀ entry ∈ ESCAPES,
      entry.2 ≠ 'u' ∧ BACKSLASH.lookup entry.2 = some entry.1 ∧ Printable entry.2 := by decide
  obtain ⟨before, after, entries, _⟩ := List.lookup_eq_some_iff.mp escaped
  exact all (character, letter) (entries ▸ List.mem_append_right _ List.mem_cons_self)

/-- An escaped character is read back, whatever follows. -/
theorem readCharacter_escapeCharacter (character : Char) :
    readCharacter (escapeCharacter character ++ rest) = some (character, rest) := by
  unfold escapeCharacter
  split
  · rename_i letter escaped
    obtain ⟨differs, back, _⟩ := escaped_letter escaped
    simp only [List.cons_append, List.nil_append, readCharacter, if_pos, readBackslash, if_neg differs, back,
      Option.map_some]
  · rename_i plain
    have differs : character ≠ '\\' := fun same => by
      rw [same] at plain
      cases plain
    split
    · rename_i printable
      simp only [List.singleton_append, readCharacter, if_neg differs, if_neg (Nat.not_lt.mpr printable.1)]
    · split
      · rename_i low
        exact readEscape_plane low
      · rename_i beyond
        rw [List.append_assoc]
        exact readEscape_beyond (Nat.le_of_not_lt beyond)

theorem printable_unicodeEscape (bound : unit < 0x10000) :
    ∀ character ∈ unicodeEscape unit, Printable character := by
  have digits := printable_digitChar
  simp only [unicodeEscape, List.forall_mem_cons]
  exact ⟨by decide, by decide, digits _ (by omega), digits _ (by omega), digits _ (by omega), digits _ (by omega),
    fun _ absent => nomatch absent⟩

theorem printable_escapeCharacter (character : Char) :
    ∀ written ∈ escapeCharacter character, Printable written := by
  unfold escapeCharacter
  split
  · rename_i letter escaped
    obtain ⟨_, _, printable⟩ := escaped_letter escaped
    simp only [List.forall_mem_cons]
    exact ⟨by decide, printable, fun _ absent => nomatch absent⟩
  · split
    · rename_i printable
      simpa using printable
    · split
      · rename_i low
        exact printable_unicodeEscape low
      · have range := toNat_range character
        refine List.forall_mem_append.mpr ⟨printable_unicodeEscape ?_, printable_unicodeEscape ?_⟩ <;> omega

/-- No escaped character begins as the end of a string does. -/
theorem escapeCharacter_head (character : Char) :
    ∃ head tail, escapeCharacter character = head :: tail ∧ head ≠ '"' := by
  unfold escapeCharacter
  split
  · exact ⟨_, _, rfl, by decide⟩
  · rename_i plain
    split
    · refine ⟨_, _, rfl, fun same => ?_⟩
      rw [same] at plain
      cases plain
    · split
      · exact ⟨_, _, rfl, by decide⟩
      · exact ⟨_, _, rfl, by decide⟩

end Characters

/-! ## Strings -/

/-- The characters of a string without its quotes. -/
def escapeText (text : List Char) : List Char := text.flatMap escapeCharacter

def writeString (text : String) : List Char := '"' :: escapeText text.toList ++ ['"']

/-- What follows the opening quote, in at most so many characters. -/
def readText : Nat → List Char → Option (List Char × List Char)
  | 0, _ => none
  | _ + 1, [] => none
  | fuel + 1, character :: rest =>
    if character = '"' then some ([], rest)
    else do
      let (first, rest) ← readCharacter (character :: rest)
      let (others, rest) ← readText fuel rest
      return (first :: others, rest)

def readString (text : List Char) : Option (String × List Char) :=
  (readText (text.length + 1) text).map fun (characters, rest) => (String.ofList characters, rest)

theorem readText_escapeText (text rest : List Char) {fuel : Nat} (enough : text.length < fuel) :
    readText fuel (escapeText text ++ '"' :: rest) = some (text, rest) := by
  induction text generalizing fuel with
  | nil =>
    cases fuel with
    | zero => cases enough
    | succ fuel => rfl
  | cons character text inductionHypothesis =>
    cases fuel with
    | zero => cases enough
    | succ fuel =>
      obtain ⟨head, tail, written, differs⟩ := escapeCharacter_head character
      have back : readCharacter (head :: (tail ++ (escapeText text ++ '"' :: rest))) =
          some (character, escapeText text ++ '"' :: rest) := by
        rw [← List.cons_append, ← written]
        exact readCharacter_escapeCharacter character
      show readText (fuel + 1) (escapeCharacter character ++ escapeText text ++ '"' :: rest) = _
      rw [written, List.append_assoc, List.cons_append, readText, if_neg differs, back]
      simp only [Option.bind_eq_bind, Option.bind_some, inductionHypothesis (Nat.lt_of_succ_lt_succ enough),
        Option.pure_def]

theorem length_le_escapeText (text : List Char) : text.length ≤ (escapeText text).length := by
  induction text with
  | nil => exact Nat.le_refl 0
  | cons character text inductionHypothesis =>
    obtain ⟨head, tail, written, _⟩ := escapeCharacter_head character
    simp only [escapeText, List.flatMap_cons, List.length_append, List.length_cons, written] at inductionHypothesis ⊢
    omega

/-- A string that was written is read back, whatever follows. -/
theorem readString_escapeText (text : String) (rest : List Char) :
    readString (escapeText text.toList ++ '"' :: rest) = some (text, rest) := by
  have enough : text.toList.length < (escapeText text.toList ++ '"' :: rest).length + 1 := by
    have grown := length_le_escapeText text.toList
    simp only [List.length_append]
    omega
  simp only [readString, readText_escapeText _ _ enough, Option.map_some, String.ofList_toList]

theorem printable_writeString (text : String) : ∀ character ∈ writeString text, Printable character := by
  unfold writeString escapeText
  simp only [List.cons_append, List.forall_mem_cons, List.forall_mem_append, List.mem_flatMap,
    forall_exists_index, and_imp]
  refine ⟨by decide, fun written character _ present => ?_, by decide, fun _ absent => nomatch absent⟩
  exact printable_escapeCharacter character written present

/-! ## Numbers -/

def writeInt (value : Int) : List Char :=
  if value < 0 then '-' :: Nat.toDigits 10 value.natAbs else Nat.toDigits 10 value.natAbs

def readNumeral (text : List Char) : Option (List Char × List Char) :=
  match text with
  | '0' :: rest => some (['0'], rest)
  | _ =>
    let numeral := text.takeWhile Char.isDigit
    if numeral = [] then none else some (numeral, text.dropWhile Char.isDigit)

/-- The digits behind a mark, with the mark; nothing is taken where there are none. -/
def readDigits (mark text : List Char) : List Char × List Char :=
  let digits := (text.drop mark.length).takeWhile Char.isDigit
  if digits = [] then ([], text) else (mark ++ digits, (text.drop mark.length).dropWhile Char.isDigit)

def readFraction (text : List Char) : List Char × List Char :=
  match text with
  | '.' :: _ => readDigits ['.'] text
  | _ => ([], text)

def readExponent (text : List Char) : List Char × List Char :=
  match text with
  | mark :: sign :: _ =>
    if mark = 'e' ∨ mark = 'E' then
      readDigits (if sign = '+' ∨ sign = '-' then [mark, sign] else [mark]) text
    else ([], text)
  | _ => ([], text)

/-- `float` reads a numeral with a fraction or an exponent. -/
def readNumber (float : String → JsonValue) (text : List Char) : Option (JsonValue × List Char) := do
  let negative := text.head? = some '-'
  let (numeral, rest) ← readNumeral (if negative then text.tail else text)
  let (fraction, rest) := readFraction rest
  let (exponent, rest) := readExponent rest
  if fraction = [] ∧ exponent = [] then
    let magnitude : Int := Nat.ofDigitChars 10 numeral 0
    some (.int (if negative then -magnitude else magnitude), rest)
  else
    some (float (String.ofList ((if negative then ['-'] else []) ++ numeral ++ fraction ++ exponent)), rest)

/-- What may follow a number: nothing that would make it longer. -/
def EndsNumber (rest : List Char) : Prop :=
  ∀ character ∈ rest.head?, character.isDigit = false ∧ character ≠ '.' ∧ character ≠ 'e' ∧ character ≠ 'E'

section Numbers

variable {rest : List Char}

theorem toDigits_head (number : Nat) (positive : 0 < number) :
    ∃ digit digits, Nat.toDigits 10 number = digit :: digits ∧ digit ≠ '0' := by
  induction number using Nat.strongRecOn with
  | _ number inductionHypothesis =>
    by_cases small : number < 10
    · refine ⟨_, [], Nat.toDigits_of_lt_base small, ?_⟩
      have all : ∀ digit < 10, 0 < digit → Nat.digitChar digit ≠ '0' := by decide
      exact all number small positive
    · obtain ⟨digit, digits, leading, nonzero⟩ :=
        inductionHypothesis (number / 10) (by omega) (by omega)
      rw [Nat.toDigits_of_base_le (by omega) (by omega), leading]
      exact ⟨digit, _, rfl, nonzero⟩

theorem isDigit_toDigits (number : Nat) : ∀ digit ∈ Nat.toDigits 10 number, digit.isDigit = true :=
  fun _ present => Nat.isDigit_of_mem_toDigits (by omega) (by omega) present

theorem span_digits {digits : List Char} (all : ∀ digit ∈ digits, digit.isDigit = true)
    (ends : EndsNumber rest) :
    (digits ++ rest).takeWhile Char.isDigit = digits ∧ (digits ++ rest).dropWhile Char.isDigit = rest := by
  rw [List.takeWhile_append_of_pos all, List.dropWhile_append_of_pos all]
  cases rest with
  | nil => simp
  | cons character rest =>
    have stops : ¬character.isDigit = true := by simp [(ends character rfl).1]
    rw [List.takeWhile_cons_of_neg stops, List.dropWhile_cons_of_neg stops, List.append_nil]
    exact ⟨rfl, rfl⟩

theorem readNumeral_toDigits (number : Nat) (ends : EndsNumber rest) :
    readNumeral (Nat.toDigits 10 number ++ rest) = some (Nat.toDigits 10 number, rest) := by
  rcases Nat.eq_zero_or_pos number with rfl | positive
  · rfl
  · obtain ⟨digit, digits, leading, nonzero⟩ := toDigits_head number positive
    obtain ⟨taken, dropped⟩ := span_digits (isDigit_toDigits number) ends
    rw [leading] at taken dropped ⊢
    unfold readNumeral
    split
    · simp_all
    · simp only [taken, dropped]
      rfl

theorem readFraction_none (ends : EndsNumber rest) : readFraction rest = ([], rest) := by
  unfold readFraction
  split
  · exact absurd rfl (ends '.' rfl).2.1
  · rfl

theorem readExponent_none (ends : EndsNumber rest) : readExponent rest = ([], rest) := by
  unfold readExponent
  split
  · rename_i mark sign _
    obtain ⟨_, _, lower, upper⟩ := ends mark rfl
    rw [if_neg (by simp [lower, upper])]
  · rfl

/-- An integer that was written is read back where no more of a number follows. -/
theorem readNumber_writeInt (float : String → JsonValue) (value : Int) (ends : EndsNumber rest) :
    readNumber float (writeInt value ++ rest) = some (.int value, rest) := by
  have magnitude : ((Nat.ofDigitChars 10 (Nat.toDigits 10 value.natAbs) 0 : Nat) : Int) = value.natAbs :=
    congrArg Nat.cast Nat.ofDigitChars_ten_toDigits
  unfold readNumber writeInt
  by_cases negative : value < 0
  · simp only [if_pos negative, List.cons_append, List.head?_cons, if_true, List.tail_cons,
      readNumeral_toDigits _ ends, Option.bind_eq_bind, Option.bind_some, readFraction_none ends,
      readExponent_none ends, and_self, magnitude]
    congr 3
    omega
  · have unsigned : ¬(Nat.toDigits 10 value.natAbs ++ rest).head? = some '-' := by
      cases digits : Nat.toDigits 10 value.natAbs with
      | nil => exact absurd digits Nat.toDigits_ne_nil
      | cons digit others =>
        intro same
        have isDigit := isDigit_toDigits value.natAbs digit (digits ▸ List.mem_cons_self)
        rw [Option.some.inj same] at isDigit
        cases isDigit
    simp only [if_neg negative, if_neg unsigned, readNumeral_toDigits _ ends, Option.bind_eq_bind,
      Option.bind_some, readFraction_none ends, readExponent_none ends, and_self, if_true, magnitude]
    congr 3
    omega

end Numbers

/-! ## Values -/

/-- The text of a float is that of `repr`. -/
def writeFloat (text : String) : List Char :=
  if text = "nan" then "NaN".toList
  else if text = "inf" then "Infinity".toList
  else if text = "-inf" then "-Infinity".toList
  else text.toList

mutual

def write : JsonValue → List Char
  | .null => ['n', 'u', 'l', 'l']
  | .bool true => ['t', 'r', 'u', 'e']
  | .bool false => ['f', 'a', 'l', 's', 'e']
  | .int value => writeInt value
  | .float _ text => writeFloat text
  | .string text => writeString text
  | .array items => '[' :: (writeItems [] items ++ [']'])
  | .object members => '{' :: (writeMembers [] members ++ ['}'])

/-- The items, the first one after `lead`. -/
def writeItems (lead : List Char) : List JsonValue → List Char
  | [] => []
  | item :: items => lead ++ (write item ++ writeItems [',', ' '] items)

def writeMembers (lead : List Char) : List (String × JsonValue) → List Char
  | [] => []
  | (key, value) :: members =>
    lead ++ (writeString key ++ ([':', ' '] ++ (write value ++ writeMembers [',', ' '] members)))

end

def isSpace (character : Char) : Bool :=
  character = ' ' ∨ character = '\t' ∨ character = '\n' ∨ character = '\r'

def skip (text : List Char) : List Char := text.dropWhile isSpace

/-- The text behind the mark that comes next. -/
def after (mark : Char) (text : List Char) : Option (List Char) :=
  match skip text with
  | [] => none
  | next :: rest => if next = mark then some rest else none

/-- `dict(pairs)`: of two members with one key the last value counts, in the place of the first. -/
def dictionary (members : List (String × JsonValue)) : List (String × JsonValue) :=
  members.foldl (fun known member =>
    if known.any (·.1 = member.1) then known.map fun other => if other.1 = member.1 then member else other
    else known ++ [member]) []

def CONSTANTS (float : String → JsonValue) : List (List Char × JsonValue) :=
  [(['n', 'u', 'l', 'l'], .null), (['t', 'r', 'u', 'e'], .bool true),
    (['f', 'a', 'l', 's', 'e'], .bool false), ("NaN".toList, float "nan"),
    ("Infinity".toList, float "inf"), ("-Infinity".toList, float "-inf")]

def readConstant (float : String → JsonValue) (text : List Char) : Option (JsonValue × List Char) :=
  ((CONSTANTS float).find? (·.1.isPrefixOf text)).map fun (word, value) => (value, text.drop word.length)

/-- A key, its colon and its value. -/
def readMember (read : List Char → Option (JsonValue × List Char)) (text : List Char) :
    Option ((String × JsonValue) × List Char) := do
  let text ← after '"' text
  let (key, rest) ← readString text
  let rest ← after ':' rest
  let (value, rest) ← read (skip rest)
  return ((key, value), rest)

mutual

/-- A value at the start of the text, nested at most so deep. -/
def read (float : String → JsonValue) : Nat → List Char → Option (JsonValue × List Char)
  | 0, _ => none
  | _ + 1, [] => none
  | fuel + 1, head :: text =>
    if head = '"' then (readString text).map fun (value, rest) => (.string value, rest)
    else if head = '[' then
      match after ']' text with
      | some rest => some (.array [], rest)
      | none => (readItems float fuel (skip text)).map fun (items, rest) => (.array items, rest)
    else if head = '{' then
      match after '}' text with
      | some rest => some (.object [], rest)
      | none =>
        (readMembers float fuel (skip text)).map fun (members, rest) => (.object (dictionary members), rest)
    else
      match readConstant float (head :: text) with
      | some constant => some constant
      | none => readNumber float (head :: text)

def readItems (float : String → JsonValue) : Nat → List Char → Option (List JsonValue × List Char)
  | 0, _ => none
  | fuel + 1, text => do
    let (item, rest) ← read float fuel text
    match after ']' rest with
    | some rest => some ([item], rest)
    | none =>
      let rest ← after ',' rest
      let (items, rest) ← readItems float fuel (skip rest)
      return (item :: items, rest)

def readMembers (float : String → JsonValue) :
    Nat → List Char → Option (List (String × JsonValue) × List Char)
  | 0, _ => none
  | fuel + 1, text => do
    let (member, rest) ← readMember (read float fuel) text
    match after '}' rest with
    | some rest => some ([member], rest)
    | none =>
      let rest ← after ',' rest
      let (members, rest) ← readMembers float fuel (skip rest)
      return (member :: members, rest)

end

def dumps (value : JsonValue) : String := String.ofList (write value)

/-- Nothing but white space may follow the value. -/
def loads (float : String → JsonValue) (text : String) : Option JsonValue := do
  let (value, rest) ← read float (text.length + 1) (skip text.toList)
  if skip rest = [] then some value else none

end JsonText
