import Eiraos.Foundations.PythonText

/-! # Internet addresses (`ipaddress`)

Address literals of both families, their canonical texts, and networks given by a prefix.
Each definition follows the function of Python's `ipaddress` that it is named after; `none`
is an `AddressValueError`.
-/

namespace InternetAddress

open PythonText

/-- The zone of an IPv6 address, after the only percent sign. -/
structure ScopeId where
  text : String
  nonempty : text ≠ ""
  single : '%' ∉ text.toList
  deriving DecidableEq

inductive Address where
  | v4 (value : BitVec 32)
  | v6 (value : BitVec 128) (scopeId : Option ScopeId)
  deriving DecidableEq

/-! ## Reading -/

/-- `int.from_bytes` of digits in some base, the highest first. -/
def fromDigits (base : Nat) (digits : List Nat) : Nat :=
  digits.foldl (fun value digit => base * value + digit) 0

def parseOctet (text : String) : Option Nat :=
  let characters := text.toList
  if characters = [] then none
  else if !characters.all Char.isDigit then none
  else if characters.length > 3 then none
  -- some readers take a leading zero for octal
  else if text ≠ "0" ∧ characters.head? = some '0' then none
  else
    let octet := fromDigits 10 (characters.map fun digit => digit.toNat - 48)
    if octet > 255 then none else some octet

/-- `_BaseV4._ip_int_from_string`. -/
def ipv4FromString (text : String) : Option (BitVec 32) :=
  let octets := split '.' text
  if octets.length ≠ 4 then none
  else (octets.mapM parseOctet).map fun values => BitVec.ofNat 32 (fromDigits 256 values)

/-- `IPv4Address(text)`. -/
def ipv4Address (text : String) : Option (BitVec 32) :=
  if '/' ∈ text.toList then none else ipv4FromString text

def hexValue (digit : Char) : Nat :=
  if digit.isDigit then digit.toNat - 48 else digit.toLower.toNat - 87

def isHexDigit (character : Char) : Bool :=
  character.isDigit ∨ ('a' ≤ character ∧ character ≤ 'f') ∨ ('A' ≤ character ∧ character ≤ 'F')

def parseHextet (text : String) : Option Nat :=
  let characters := text.toList
  if !characters.all isHexDigit then none
  else if characters.length > 4 then none
  else if characters = [] then none
  else some (fromDigits 16 (characters.map hexValue))

/-- `'%x' % value`. -/
def hexText (value : Nat) : String := String.ofList (Nat.toDigits 16 value)

/-- The parts of an address whose last part is an IPv4 address, with two hextets in its place. -/
def withIpv4Suffix (parts : List String) : Option (List String) :=
  match parts.getLast? with
  | none => some parts
  | some suffix =>
    if '.' ∈ suffix.toList then
      (ipv4Address suffix).map fun value =>
        parts.dropLast ++ [hexText (value.toNat / 65536), hexText (value.toNat % 65536)]
    else some parts

/-- Where `::` stands: the empty parts that are no endpoint. -/
def skipIndices (parts : List String) : List Nat :=
  (List.range parts.length).filter fun index =>
    1 ≤ index ∧ index + 1 < parts.length ∧ parts[index]? = some ""

/-- The parts before and after the skipped ones, and how many are skipped. -/
def partition (parts : List String) : Option (List String × Nat × List String) :=
  match skipIndices parts with
  | [] =>
    -- without `::` nothing is skipped, and an address may not start or end with a colon
    if parts.length ≠ 8 ∨ parts.head? = some "" ∨ parts.getLast? = some "" then none
    else some (parts, 0, [])
  | [skipIndex] =>
    let leading := parts.head? = some ""
    let trailing := parts.getLast? = some ""
    let high := if leading then skipIndex - 1 else skipIndex
    let low := if trailing then parts.length - skipIndex - 2 else parts.length - skipIndex - 1
    -- a colon at an end is part of `::`, which stands for one hextet at least
    if leading ∧ high ≠ 0 ∨ trailing ∧ low ≠ 0 ∨ 8 < high + low + 1 then none
    else some (parts.take high, 8 - (high + low), parts.drop (parts.length - low))
  -- more than one `::`
  | _ => none

/-- `_BaseV6._ip_int_from_string`. -/
def ipv6FromString (text : String) : Option (BitVec 128) := do
  let parts := split ':' text
  if parts.length < 3 then none
  else
    let parts ← withIpv4Suffix parts
    if parts.length > 9 then none
    else
      let (high, skipped, low) ← partition parts
      let before ← high.mapM parseHextet
      let after ← low.mapM parseHextet
      some (BitVec.ofNat 128 (fromDigits 65536 (before ++ List.replicate skipped 0 ++ after)))

/-- `_split_scope_id`: what stands before a percent sign, and the zone behind it. -/
def splitScopeId (text : String) : Option (String × Option ScopeId) :=
  match text.toList.dropWhile (· ≠ '%') with
  | [] => some (text, none)
  | _ :: scope =>
    if valid : String.ofList scope ≠ "" ∧ '%' ∉ (String.ofList scope).toList then
      some (String.ofList (text.toList.takeWhile (· ≠ '%')), some ⟨String.ofList scope, valid.1, valid.2⟩)
    else none

/-- `IPv6Address(text)`. -/
def ipv6Address (text : String) : Option (BitVec 128 × Option ScopeId) :=
  if '/' ∈ text.toList then none
  else do
    let (literal, scopeId) ← splitScopeId text
    let value ← ipv6FromString literal
    some (value, scopeId)

/-- `ip_address(text)`. -/
def ipAddress (text : String) : Option Address :=
  match ipv4Address text with
  | some value => some (.v4 value)
  | none => (ipv6Address text).map fun (value, scopeId) => .v6 value scopeId

/-! ## Writing -/

/-- The digits of a value in some base, the highest first. -/
def toDigits (base : Nat) : Nat → Nat → List Nat
  | 0, _ => []
  | count + 1, value => toDigits base count (value / base) ++ [value % base]

/-- The start and the length of the first longest run of `"0"`, given the run that ends
before `index` and the best one so far. -/
def longestZeros (index : Nat) (run best : Nat × Nat) : List String → Nat × Nat
  | [] => best
  | hextet :: rest =>
    if hextet = "0" then
      -- only a longer run replaces the best one, so that the first of equals stays
      let run := (if run.2 = 0 then index else run.1, run.2 + 1)
      longestZeros (index + 1) run (if run.2 > best.2 then run else best) rest
    else longestZeros (index + 1) (0, 0) best rest

def compressHextets (hextets : List String) : List String :=
  let (start, length) := longestZeros 0 (0, 0) (0, 0) hextets
  if length > 1 then
    (if start = 0 then [""] else []) ++ hextets.take start ++ [""] ++ hextets.drop (start + length) ++
      (if start + length = hextets.length then [""] else [])
  else hextets

/-- `str(address)`. -/
def Address.str : Address → String
  | .v4 value => join "." ((toDigits 256 4 value.toNat).map Nat.repr)
  | .v6 value scopeId =>
    let literal := join ":" (compressHextets ((toDigits 65536 8 value.toNat).map hexText))
    match scopeId with
    | none => literal
    | some scope => literal ++ "%" ++ scope.text

/-! ## Networks -/

/-- The mask of a prefix: `_ALL_ONES ^ (_ALL_ONES >> prefixlen)`. -/
def netmask (width prefixLength : Nat) : BitVec width :=
  BitVec.allOnes width ^^^ (BitVec.allOnes width >>> prefixLength)

/-- A network address has no bit outside its mask. -/
structure Block (width : Nat) where
  networkAddress : BitVec width
  prefixLength : Nat
  bounded : prefixLength ≤ width
  aligned : networkAddress &&& netmask width prefixLength = networkAddress
  deriving DecidableEq

/-- `ip_network((value, prefixLength), strict=False)`: the network around an address. -/
def Block.around {width : Nat} (value : BitVec width) (prefixLength : Nat)
    (bounded : prefixLength ≤ width) : Block width :=
  ⟨value &&& netmask width prefixLength, prefixLength, bounded, by rw [BitVec.and_assoc, BitVec.and_self]⟩

inductive Network where
  | v4 (block : Block 32)
  | v6 (block : Block 128)
  deriving DecidableEq

def Block.contains {width : Nat} (block : Block width) (value : BitVec width) : Bool :=
  value &&& netmask width block.prefixLength == block.networkAddress

/-- `address.version == network.version and address in network`. -/
def Network.contains : Network → Address → Bool
  | .v4 block, .v4 value => block.contains value
  | .v6 block, .v6 value _ => block.contains value
  | _, _ => false

end InternetAddress
