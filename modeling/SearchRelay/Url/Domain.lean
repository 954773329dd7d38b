import SearchRelay.Text.Canonical
import SearchRelay.Text.Mark
import SearchRelay.Text.Table
import SearchRelay.Url.Domain.Table
import SearchRelay.Url.Punycode

/-!
# SearchRelay.Url.Domain

Domain names of any characters as names of ASCII characters.

1. Each character is replaced as the table says; the result is composed and
   cut into labels at the dots.
2. A label in ASCII that encodes another one has to encode a label that needs
   it; any label has to consist of allowed characters, must not begin with a
   mark, and must join and be ordered as the rules for its script say.
3. Labels beyond ASCII are encoded.  No character may be left that has a
   meaning in a URL.
-/

namespace SearchRelay.Url.Domain

open Text

/-! ## Replacement -/

/-- What becomes of a character. -/
inductive Fate where
  | stays
  | becomes (chars : List Char)
  | refused

/-- The entry of the table of replacements. -/
def readFate (word : List Char) : Fate :=
  match word with
  | ['!'] => .refused
  | ['_'] => .becomes []
  | _ => .becomes ((Table.points word).map Char.ofNat)

/-- The table of replacements. -/
def fates : Array (Table.Entry Fate) := Table.entries readFate mappingTable

def isAscii (c : Char) : Bool := c.toNat < Punycode.initialPoint

/-- What becomes of a character.  Of those in ASCII only the capital letters are
replaced, by the small ones. -/
def fate (c : Char) : Fate :=
  if isAscii c then if c.isUpper then .becomes [c.toLower] else .stays
  else (Table.find? fates c.toNat).getD .stays

/-- A text with its characters replaced; nothing if one is refused. -/
def replaced? : List Char → Option (List Char)
  | [] => some []
  | c :: cs => do
    let rest ← replaced? cs
    match fate c with
    | .stays => return c :: rest
    | .becomes chars => return chars ++ rest
    | .refused => none

/-- Whether a character may stand in a label. -/
def isAllowed (c : Char) : Bool :=
  match fate c with
  | .stays => true
  | _ => false

/-! ## Joiners -/

def joiningTypes : Array (Table.Entry Char) := Table.entries (·.headD ' ') joiningTable

/-- Whether a character has one of some joining types. -/
def joins (types : List Char) (c : Char) : Bool :=
  (Table.find? joiningTypes c.toNat).any types.contains

/-- The combining class of a virama. -/
def viramaClass : Nat := 9

/-- Whether a text ends with a virama; it is given in reverse. -/
def endsWithVirama : List Char → Bool
  | [] => false
  | c :: _ => Canonical.combiningClass c = viramaClass

/-- Whether the first character that is not transparent has one of some
joining types. -/
def meetsJoining (types : List Char) (cs : List Char) : Bool :=
  match cs.dropWhile (joins ['T']) with
  | [] => false
  | c :: _ => joins types c

/-- Whether joiners stand where they may; `before` is the text in front, in
reverse. -/
def joinersFit (before : List Char) : List Char → Bool
  | [] => true
  | c :: cs =>
    (if c = '\u200d' then endsWithVirama before
    else if c = '\u200c' then
      endsWithVirama before || (meetsJoining ['L', 'D'] before && meetsJoining ['R', 'D'] cs)
    else true) && joinersFit (c :: before) cs

/-! ## Direction -/

def directions : Array (Table.Entry String) := Table.entries String.ofList bidiTable

/-- The bidirectional class of a character.  Those of the letters and digits of
ASCII are not in the table. -/
def direction (c : Char) : String :=
  if c.isDigit then "EN" else if c.isAlpha then "L"
  else (Table.find? directions c.toNat).getD "L"

/-- Whether a name holds characters that are written from right to left. -/
def isBidi (cs : List Char) : Bool := cs.any fun c => ["R", "AL", "AN"].contains (direction c)

/-- The last class of a label that is not that of a mark. -/
def lastDirection? (classes : List String) : Option String :=
  classes.reverse.find? (· ≠ "NSM")

/-- Whether the characters of a label may stand together, in a name with
characters that are written from right to left. -/
def directionsFit (label : List Char) : Bool :=
  let classes := label.map direction
  match classes with
  | [] => true
  | first :: _ =>
    if ["R", "AL"].contains first then
      classes.all ["R", "AL", "AN", "EN", "ES", "CS", "ET", "ON", "BN", "NSM"].contains &&
        (lastDirection? classes).any ["R", "AL", "EN", "AN"].contains &&
        !(classes.contains "EN" && classes.contains "AN")
    else
      first = "L" && classes.all ["L", "EN", "ES", "CS", "ET", "ON", "BN", "NSM"].contains &&
        (lastDirection? classes).any ["L", "EN"].contains

/-! ## Labels -/

/-- What a label begins with that encodes another one. -/
def encodedMark : List Char := ['x', 'n', '-', '-']

/-- A label as its characters; nothing if it does not encode what it should. -/
def unfolded? (label : List Char) : Option (List Char) :=
  if encodedMark.isPrefixOf label then do
    let chars ← Punycode.decode? (label.drop encodedMark.length)
    if chars.all isAscii ∨ Canonical.nfc chars ≠ chars ∨ ¬ chars.all isAllowed then none
    else some chars
  else some label

/-- Whether a label may stand in a name, but for its direction. -/
def isValid (label : List Char) : Bool :=
  !(label.head?.any isMark) && !label.contains '.' && label.all isAllowed && joinersFit [] label

def encoded (label : List Char) : List Char :=
  if label.all isAscii then label else encodedMark ++ Punycode.encode label

/-- Characters that no name may hold. -/
def isForbidden (c : Char) : Bool :=
  c.toNat ≤ 0x20 || c.toNat = 0x7f ||
    ['%', '#', '/', ':', '<', '>', '?', '@', '[', '\\', ']', '^', '|'].contains c

/-- A name in ASCII; nothing if it is not valid. -/
def toAscii? (name : List Char) : Option (List Char) := do
  let chars ← replaced? name
  let labels ← (splitBy (· = '.') (Canonical.nfc chars)).mapM unfolded?
  if labels.all isValid ∧ (¬ labels.any isBidi ∨ labels.all directionsFit) then
    let ascii := List.intercalate ['.'] (labels.map encoded)
    if ascii.any isForbidden then none else some ascii
  else none

end SearchRelay.Url.Domain
