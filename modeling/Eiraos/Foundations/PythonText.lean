import Mathlib.Data.List.DropRight
import Mathlib.Data.List.Infix

/-! # Python text

`str.strip`, `str.lower` and `str.split` on strings of any characters.  The letter case of
a character outside ASCII, which may depend on its neighbours, is a table of the Unicode
database and stays a parameter.
-/

namespace PythonText

/-- The lowercase of a non-ASCII character between the characters before and after it. -/
abbrev CaseTable := List Char → Char → List Char → List Char

/-- `str.isspace` of one character. -/
def isSpace (character : Char) : Bool :=
  let code := character.toNat
  (9 ≤ code ∧ code ≤ 13) ∨ (28 ≤ code ∧ code ≤ 32) ∨ code = 0x85 ∨ code = 0xA0 ∨ code = 0x1680 ∨
    (0x2000 ≤ code ∧ code ≤ 0x200A) ∨ code = 0x2028 ∨ code = 0x2029 ∨ code = 0x202F ∨
    code = 0x205F ∨ code = 0x3000

def strip (text : String) : String :=
  String.ofList ((text.toList.dropWhile isSpace).rdropWhile isSpace)

def rstrip (text : String) : String := String.ofList (text.toList.rdropWhile isSpace)

/-- `separator.join(parts)`. -/
def join (separator : String) (parts : List String) : String :=
  String.ofList (separator.toList.intercalate (parts.map String.toList))

theorem strip_strip (text : String) : strip (strip text) = strip text := by
  have leading : ((text.toList.dropWhile isSpace).rdropWhile isSpace).dropWhile isSpace =
      (text.toList.dropWhile isSpace).rdropWhile isSpace := by
    have starts := List.head?_dropWhile_not isSpace text.toList
    obtain ⟨rest, split⟩ := List.rdropWhile_prefix isSpace (text.toList.dropWhile isSpace)
    cases stripped : (text.toList.dropWhile isSpace).rdropWhile isSpace with
    | nil => rfl
    | cons head tail =>
      -- what is left on the right starts as what was left on the left
      rw [← split, stripped] at starts
      have visible : isSpace head = false := by simpa using starts
      simp [visible]
  rw [strip, strip, String.toList_ofList, leading, List.rdropWhile_idempotent]

def lowerFrom (table : CaseTable) : List Char → List Char → List Char
  | _, [] => []
  | before, character :: after =>
    (if character.toNat < 128 then [character.toLower] else table before character after) ++
      lowerFrom table (before ++ [character]) after

def lower (table : CaseTable) (text : String) : String :=
  String.ofList (lowerFrom table [] text.toList)

/-- An ASCII character that is no letter stays where it is. -/
theorem mem_lowerFrom {table : CaseTable} {character : Char} (ascii : character.toNat < 128)
    (caseless : character.toLower = character) {before text : List Char} (mem : character ∈ text) :
    character ∈ lowerFrom table before text := by
  induction text generalizing before with
  | nil => cases mem
  | cons head rest inductionHypothesis =>
    rw [lowerFrom, List.mem_append]
    cases List.mem_cons.mp mem with
    | inl here =>
      subst here
      simp [ascii, caseless]
    | inr later => exact .inr (inductionHypothesis later)

/-- `(text or "").strip().lower()`. -/
def tidied (table : CaseTable) (text : Option String) : String := lower table (strip (text.getD ""))

/-- `str.upper`; outside ASCII the uppercase of a character is a table of the Unicode database. -/
def upper (table : Char → List Char) (text : String) : String :=
  String.ofList (text.toList.flatMap fun character =>
    if character.toNat < 128 then [character.toUpper] else table character)

/-- `str.split` at one character. -/
def splitFrom (separator : Char) : List Char → List Char → List (List Char)
  | item, [] => [item]
  | item, character :: rest =>
    if character = separator then item :: splitFrom separator [] rest
    else splitFrom separator (item ++ [character]) rest

def split (separator : Char) (text : String) : List String :=
  (splitFrom separator [] text.toList).map String.ofList

theorem splitFrom_append (separator : Char) (item left right : List Char) :
    splitFrom separator item (left ++ separator :: right) =
      splitFrom separator item left ++ splitFrom separator [] right := by
  induction left generalizing item with
  | nil => simp [splitFrom]
  | cons character rest inductionHypothesis =>
    rw [List.cons_append, splitFrom, splitFrom]
    split
    · rw [inductionHypothesis, List.cons_append]
    · exact inductionHypothesis _

/-- The items of two texts joined by the separator. -/
theorem split_append {separator : Char} {text left right : String}
    (joined : text.toList = left.toList ++ separator :: right.toList) :
    split separator text = split separator left ++ split separator right := by
  rw [split, joined, splitFrom_append, List.map_append]
  rfl

/-! ## Integers -/

/-- What `int` skips around a number of Latin-1 characters. -/
def isIntSpace (byte : UInt8) : Bool :=
  (9 ≤ byte ∧ byte ≤ 13) ∨ byte = 32 ∨ byte = 0x85 ∨ byte = 0xA0

/-- The digits of a number, with single underscores between them; `after` tells that a digit came
last. -/
def digitsFrom : Bool → List UInt8 → Option (List Nat)
  | after, [] => if after then some [] else none
  | after, byte :: rest =>
    if 48 ≤ byte ∧ byte ≤ 57 then (digitsFrom true rest).map ((byte.toNat - 48) :: ·)
    else if byte = 95 ∧ after then digitsFrom false rest
    else none

/-- A number of at most 4300 digits. -/
def natural? (bytes : List UInt8) : Option Nat := do
  let digits ← digitsFrom false bytes
  if digits.length ≤ 4300 then some (digits.foldl (fun number digit => 10 * number + digit) 0) else none

/-- `int(text)` of Latin-1 text; `none` is a `ValueError`. -/
def intOfLatin1 (bytes : List UInt8) : Option Int :=
  match (bytes.dropWhile isIntSpace).rdropWhile isIntSpace with
  | 43 :: rest => (natural? rest).map Int.ofNat
  | 45 :: rest => (natural? rest).map fun number => -Int.ofNat number
  | bytes => (natural? bytes).map Int.ofNat

/-- The ASCII character that `int` reads for a character: a space for white space, a digit for a
decimal of any script, and a character that no number holds for the rest. -/
def asciiByte (decimals : Char → Option Nat) (character : Char) : UInt8 :=
  if character.toNat < 128 then character.toNat.toUInt8
  else if isSpace character then 32
  else
    match decimals character with
    | some digit => (48 + digit).toUInt8
    | none => 63

/-- `int(text)`; which characters outside ASCII are decimals is a table of the Unicode database. -/
def intOf (decimals : Char → Option Nat) (text : String) : Option Int :=
  intOfLatin1 (text.toList.map (asciiByte decimals))

/-! ## Strings with lone surrogates -/

/-- A Python string as its code points; a lone surrogate may be among them. -/
structure PythonStr where
  codePoints : List Nat
  deriving DecidableEq, Repr

namespace PythonStr

def ofText (text : String) : PythonStr := ⟨text.toList.map Char.toNat⟩

instance : Coe String PythonStr := ⟨ofText⟩

def length (text : PythonStr) : Nat := text.codePoints.length

def append (left right : PythonStr) : PythonStr := ⟨left.codePoints ++ right.codePoints⟩

/-- `text[:length]`. -/
def upTo (length : Nat) (text : PythonStr) : PythonStr := ⟨text.codePoints.take length⟩

/-- The lowercase of a code point outside ASCII between those before and after it. -/
abbrev CaseTable := List Nat → Nat → List Nat → List Nat

def lowerFrom (table : CaseTable) : List Nat → List Nat → List Nat
  | _, [] => []
  | before, codePoint :: after =>
    (if codePoint < 128 then [(Char.ofNat codePoint).toLower.toNat] else table before codePoint after) ++
      lowerFrom table (before ++ [codePoint]) after

/-- `str.lower`. -/
def lower (table : CaseTable) (text : PythonStr) : PythonStr := ⟨lowerFrom table [] text.codePoints⟩

/-- `part in text`. -/
def contains (text part : PythonStr) : Bool := part.codePoints <:+: text.codePoints

/-- `text.encode("utf-8")`, as the text that the bytes stand for; a surrogate is refused. -/
def encode? (text : PythonStr) : Option String :=
  (text.codePoints.mapM fun (codePoint : Nat) =>
    if codePoint.isValidChar then some (Char.ofNat codePoint) else none).map String.ofList

end PythonStr

end PythonText
