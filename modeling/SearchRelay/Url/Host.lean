import SearchRelay.Url.Domain
import SearchRelay.Url.Percent

/-!
# SearchRelay.Url.Host

The host of a URL: a name, an IPv4 address or an IPv6 address.

A name whose last label is a number is an IPv4 address, of one to four numbers
in base 8, 10 or 16, the last of which fills the bytes that are left.  An IPv6
address stands in brackets.
-/

namespace SearchRelay.Url

/-- Why a text is no URL. -/
inductive Fault where
  | relative
  | emptyHost
  | invalidPort
  | invalidIpv4
  | invalidIpv6
  | invalidDomain
  | invalidDomainCharacter
  deriving DecidableEq

/-- The wording of a fault. -/
def Fault.reason : Fault → String
  | .relative => "relative URL without a base"
  | .emptyHost => "empty host"
  | .invalidPort => "invalid port number"
  | .invalidIpv4 => "invalid IPv4 address"
  | .invalidIpv6 => "invalid IPv6 address"
  | .invalidDomain => "invalid international domain name"
  | .invalidDomainCharacter => "invalid domain character"

/-- A host. -/
inductive Host where
  | domain (name : List Char)
  | ipv4 (address : Nat)
  | ipv6 (pieces : List Nat)
  deriving DecidableEq

namespace Host

open Text

/-! ## IPv4 -/

/-- A number in a base, if all characters are digits of it. -/
def inBase? (base : Nat) (cs : List Char) : Option Nat :=
  cs.foldlM (fun n c => do
    let d ← if c.isDigit ∨ ('a' ≤ c ∧ c ≤ 'f') ∨ ('A' ≤ c ∧ c ≤ 'F') then
      some (Table.digitValue c) else none
    if d < base then some (n * base + d) else none) 0

/-- A part of an IPv4 address: `0x` and `0` in front name the base. -/
def ipv4Number? : List Char → Option Nat
  | [] => none
  | '0' :: 'x' :: cs | '0' :: 'X' :: cs => inBase? 16 cs
  | '0' :: c :: cs => inBase? 8 (c :: cs)
  | cs => inBase? 10 cs

/-- The parts of a name, without an empty one at its end. -/
def ipv4Parts (name : List Char) : List (List Char) :=
  let parts := splitBy (· = '.') name
  if 1 < parts.length ∧ parts.getLast? = some [] then parts.dropLast else parts

/-- Whether the last part of a name is a number. -/
def endsInNumber (name : List Char) : Bool :=
  match (ipv4Parts name).getLast? with
  | some last => (!last.isEmpty && last.all Char.isDigit) || (ipv4Number? last).isSome
  | none => false

/-- The IPv4 address of a name. -/
def ipv4? (name : List Char) : Option Nat := do
  let parts := ipv4Parts name
  guard (parts.length ≤ 4)
  let numbers ← parts.mapM ipv4Number?
  let last ← numbers.getLast?
  let front := numbers.dropLast
  guard (front.all (· ≤ 255))
  let room := Nat.pow 256 (4 - front.length)
  guard (last < room)
  return front.foldl (fun n b => n * 256 + b) 0 * room + last

/-! ## IPv6 -/

/-- A byte of an address in decimal digits, without zeros in front. -/
def decimalByte? (cs : List Char) : Option Nat := do
  guard (!cs.isEmpty && cs.all Char.isDigit && (cs.length = 1 || cs.head? ≠ some '0'))
  let n ← inBase? 10 cs
  if n ≤ 255 then some n else none

/-- The two pieces of an IPv4 address in dotted form. -/
def dottedPieces? (cs : List Char) : Option (List Nat) := do
  match ← (splitBy (· = '.') cs).mapM decimalByte? with
  | [a, b, c, d] => some [a * 256 + b, c * 256 + d]
  | _ => none

/-- A piece of up to four hexadecimal digits. -/
def piece? (cs : List Char) : Option Nat :=
  if cs.isEmpty ∨ 4 < cs.length then none else inBase? 16 cs

/-- Pieces of an IPv6 address; the last one may be an IPv4 address. -/
def pieces? (dotted : Bool) : List (List Char) → Option (List Nat)
  | [] => some []
  | [last] =>
    if dotted ∧ last.contains '.' then dottedPieces? last else (piece? last).map ([·])
  | p :: rest => do
    let n ← piece? p
    let ns ← pieces? dotted rest
    return n :: ns

/-- The pieces of a text between colons; none if the text is empty. -/
def colonPieces? (dotted : Bool) (cs : List Char) : Option (List Nat) :=
  if cs.isEmpty then some [] else pieces? dotted (splitBy (· = ':') cs)

/-- The parts of a text around its first `::`. -/
def splitGap : List Char → Option (List Char × List Char)
  | ':' :: ':' :: cs => some ([], cs)
  | c :: cs => (splitGap cs).map fun (before, after) => (c :: before, after)
  | [] => none

/-- The pieces of an IPv6 address. -/
def ipv6? (cs : List Char) : Option (List Nat) :=
  match splitGap cs with
  | none => do
    let pieces ← colonPieces? true cs
    if pieces.length = 8 then some pieces else none
  | some (before, after) => do
    let front ← colonPieces? false before
    let back ← colonPieces? true after
    if front.length + back.length ≤ 7 then
      some (front ++ List.replicate (8 - front.length - back.length) 0 ++ back)
    else none

/-- The length of the run of zeros at the front. -/
def zeroRun (pieces : List Nat) : Nat := (pieces.takeWhile (· = 0)).length

/-- The place and the length of the longest run of zeros, the first of
several. -/
def longestRun (place : Nat) : List Nat → Nat × Nat
  | [] => (place, 0)
  | p :: ps =>
    let here := zeroRun (p :: ps)
    let later := longestRun (place + 1) ps
    if later.2 ≤ here then (place, here) else later

def piecesText (pieces : List Nat) : List Char :=
  List.intercalate [':'] (pieces.map (Nat.toDigits 16))

/-- An IPv6 address as text, the longest run of zeros left out. -/
def ipv6Text (pieces : List Nat) : List Char :=
  let (place, length) := longestRun 0 pieces
  if length ≤ 1 then piecesText pieces
  else piecesText (pieces.take place) ++ [':', ':'] ++ piecesText (pieces.drop (place + length))

/-! ## Hosts -/

/-- What stands in brackets; nothing if they are not closed at the end. -/
def bracketed? : List Char → Option (List Char)
  | '[' :: cs => if cs.getLast? = some ']' then some cs.dropLast else none
  | _ => none

/-- The IPv6 address in brackets. -/
def inBrackets (cs : List Char) : Except Fault Host :=
  match (bracketed? cs).bind ipv6? with
  | some pieces => .ok (.ipv6 pieces)
  | none => .error .invalidIpv6

/-- Reads a host. -/
def parse (cs : List Char) : Except Fault Host :=
  if cs.head? = some '[' then inBrackets cs
  else match Domain.toAscii? (Utf8.decodeLossy (decode (Utf8.encode cs))) with
    | none => .error .invalidDomain
    | some name =>
      if name.isEmpty then .error .emptyHost
      else if endsInNumber name then
        match ipv4? name with
        | some address => .ok (.ipv4 address)
        | none => .error .invalidIpv4
      else .ok (.domain name)

/-- Characters that the host of a scheme without a meaning of its own may not
hold. -/
def isForbiddenOpaque (c : Char) : Bool :=
  ['\x00', '\t', '\n', '\r', ' ', '#', '/', ':', '<', '>', '?', '@', '[', '\\', ']', '^',
    '|'].contains c

/-- Checks the host of a scheme without a meaning of its own. -/
def checkOpaque (cs : List Char) : Except Fault Unit :=
  if cs.head? = some '[' then (inBrackets cs).map fun _ => ()
  else if cs.any isForbiddenOpaque then .error .invalidDomainCharacter
  else .ok ()

def ipv4Bytes (address : Nat) : List Nat :=
  [3, 2, 1, 0].map fun place => address / Nat.pow 256 place % 256

/-- A host as text. -/
def text : Host → List Char
  | .domain name => name
  | .ipv4 address => List.intercalate ['.'] ((ipv4Bytes address).map (Nat.toDigits 10))
  | .ipv6 pieces => '[' :: (ipv6Text pieces ++ [']'])

end Host

end SearchRelay.Url
