import SearchRelay.Json.Token

/-!
# SearchRelay.Toml.Quoted

Quoted texts of a TOML document.

1. There are four forms: a text in double quotes may hold escapes, a text in
   single quotes may not; three quotes make it a text of several lines.
2. A text of several lines loses a line feed right behind its opening quotes.
   A backslash at the end of a line drops all blanks up to the next text.  Up to
   two quotes may stand in front of the closing ones.
3. A text is written in the plainest form that needs no escapes: double quotes,
   single quotes, three double quotes, three single quotes.  If there is none it
   is written with escapes, in three double quotes if it has several lines.

Reading assumes that a line ends with a line feed, and that no other control
character than tab stands in the document.
-/

namespace SearchRelay.Toml.Quoted

/-! ## Reading: where a text ends -/

/-- The raw characters of a text on one line, and what follows its closing
quote. -/
def splitLine (quote : Char) (escapes : Bool) :
    (escaped : Bool) → List Char → Option (List Char × List Char)
  | _, [] => none
  | escaped, c :: cs =>
    if c = '\n' then none
    else if c = quote ∧ ¬ escaped then some ([], cs)
    else (splitLine quote escapes (escapes && c = '\\' && !escaped) cs).map fun (raw, rest) =>
      (c :: raw, rest)

/-- How many quotes open and close a text of several lines. -/
def quoteCount : Nat := 3

/-- How many quotes a text of several lines may end with, the closing ones
included. -/
def longestEnd : Nat := 5

/-- The raw characters of a text of several lines with its closing quotes, and
what follows.  `run` counts the quotes in front. -/
def splitLines (quote : Char) (escapes : Bool) :
    (run : Nat) → (escaped : Bool) → List Char → Option (List Char × List Char)
  | run, _, [] => if quoteCount ≤ run then some ([], []) else none
  | run, escaped, c :: cs =>
    if c = quote ∧ ¬ escaped then
      if run + 1 = longestEnd then some ([c], cs)
      else (splitLines quote escapes (run + 1) false cs).map fun (raw, rest) => (c :: raw, rest)
    else if quoteCount ≤ run then some ([], c :: cs)
    else (splitLines quote escapes 0 (escapes && c = '\\' && !escaped) cs).map fun (raw, rest) =>
      (c :: raw, rest)

/-- A text without the line feed that may stand in front. -/
def dropLineFeed : List Char → List Char
  | '\n' :: cs => cs
  | cs => cs

/-! ## Reading: escapes -/

/-- What came before the next character. -/
inductive Pending where
  | nothing
  | backslash
  /-- Hexadecimal digits: how many are to come, and the value so far. -/
  | digits (left : Nat) (value : Nat)
  /-- Blanks behind a backslash. -/
  | lineEnd
  /-- Blanks behind a backslash and a line feed. -/
  | nextLine

/-- The character that an escape of one letter stands for. -/
def letter? : Char → Option Char
  | 'b' => some '\x08'
  | 't' => some '\t'
  | 'n' => some '\n'
  | 'f' => some '\x0c'
  | 'r' => some '\r'
  | '"' => some '"'
  | '\\' => some '\\'
  | _ => none

def character? (n : Nat) : Option Char := if n.isValidChar then some (Char.ofNat n) else none

def isGap (c : Char) : Bool := c = ' ' || c = '\t'

/-- Goes on behind an escape of one letter. -/
def afterBackslash (several : Bool) (c : Char) : Option (List Char × Pending) :=
  if c = 'u' then some ([], .digits 4 0)
  else if c = 'U' then some ([], .digits 8 0)
  else if several ∧ c = '\n' then some ([], .nextLine)
  else if several ∧ isGap c then some ([], .lineEnd)
  else (letter? c).map fun d => ([d], .nothing)

/-- Goes on behind a hexadecimal digit. -/
def afterDigit (left value : Nat) (c : Char) : Option (List Char × Pending) := do
  let value := value * 16 + (← Json.hexValue? c)
  if left ≤ 1 then return ([← character? value], .nothing)
  else return ([], .digits (left - 1) value)

/-- A character that begins no pending part. -/
def plainStep (c : Char) : List Char × Pending :=
  if c = '\\' then ([], .backslash) else ([c], .nothing)

/-- One character of a text with escapes. -/
def step (several : Bool) (p : Pending) (c : Char) : Option (List Char × Pending) :=
  match p with
  | .nothing => some (plainStep c)
  | .backslash => afterBackslash several c
  | .digits left value => afterDigit left value c
  | .lineEnd =>
    if c = '\n' then some ([], .nextLine) else if isGap c then some ([], .lineEnd) else none
  | .nextLine => if c = '\n' ∨ isGap c then some ([], .nextLine) else some (plainStep c)

/-- The text of raw characters with escapes. -/
def unescape (several : Bool) : Pending → List Char → Option (List Char)
  | .nothing, [] | .nextLine, [] => some []
  | _, [] => none
  | p, c :: cs => do
    let (out, next) ← step several p c
    return out ++ (← unescape several next cs)

/-! ## Reading: texts -/

/-- A quoted text in front, whether it may have several lines, and what
follows. -/
def read? (cs : List Char) : Option (List Char × Bool × List Char) :=
  match cs with
  | '"' :: '"' :: '"' :: rest => do
    let (raw, rest) ← splitLines '"' true 0 false (dropLineFeed rest)
    return (← unescape true .nothing (raw.take (raw.length - quoteCount)), true, rest)
  | '\'' :: '\'' :: '\'' :: rest => do
    let (raw, rest) ← splitLines '\'' false 0 false (dropLineFeed rest)
    return (raw.take (raw.length - quoteCount), true, rest)
  | '"' :: rest => do
    let (raw, rest) ← splitLine '"' true false rest
    return (← unescape false .nothing raw, false, rest)
  | '\'' :: rest => do
    let (raw, rest) ← splitLine '\'' false false rest
    return (raw, false, rest)
  | _ => none

/-! ## Writing -/

def longestRun (c : Char) (cs : List Char) : Nat :=
  (cs.foldl (fun (longest, run) d =>
    if d = c then (max longest (run + 1), run + 1) else (longest, 0)) (0, 0)).1

/-- Whether a character can only be written as an escape. -/
def needsEscape (c : Char) : Bool := (c.toNat < 0x20 && c != '\t' && c != '\n') || c = '\x7f'

def capitalDigit (n : Nat) : Char := (Nat.digitChar n).toUpper

/-- A character by its code point. -/
def pointEscape (c : Char) : List Char :=
  ['\\', 'u', '0', '0', capitalDigit (c.toNat / 16), capitalDigit (c.toNat % 16)]

/-- A character other than a quote in a text with escapes. -/
def escapeChar (several : Bool) (c : Char) : List Char :=
  match c with
  | '\x08' => ['\\', 'b']
  | '\t' => ['\\', 't']
  | '\x0c' => ['\\', 'f']
  | '\r' => ['\\', 'r']
  | '\\' => ['\\', '\\']
  | '\n' => if several then ['\n'] else ['\\', 'n']
  | c => if needsEscape c then pointEscape c else [c]

/-- A text with escapes.  Of its double quotes, `allowed` may stand one behind
the other; `run` counts those in front. -/
def escape (several : Bool) (allowed : Nat) : (run : Nat) → List Char → List Char
  | _, [] => []
  | run, c :: cs =>
    if c = '"' then
      if run < allowed then '"' :: escape several allowed (run + 1) cs
      else '\\' :: '"' :: escape several allowed 0 cs
    else escapeChar several c ++ escape several allowed 0 cs

def onLine (quote : Char) (body : List Char) : List Char := quote :: (body ++ [quote])

/-- A text between three quotes; it begins on a line of its own if it has
several lines. -/
def onLines (quote : Char) (text body : List Char) : List Char :=
  let quotes := List.replicate quoteCount quote
  quotes ++ (if text.contains '\n' then ['\n'] else []) ++ body ++ quotes

/-- A text in its plainest form. -/
def write (text : List Char) : List Char :=
  let coded := text.any needsEscape
  let slashed := text.contains '\\'
  let broken := text.contains '\n'
  let double := longestRun '"' text
  let single := longestRun '\'' text
  if ¬ coded ∧ ¬ slashed ∧ double = 0 ∧ ¬ broken then onLine '"' (escape false 0 0 text)
  else if ¬ coded ∧ single = 0 ∧ ¬ broken then onLine '\'' text
  else if ¬ coded ∧ ¬ slashed ∧ double ≤ 2 then onLines '"' text (escape true 2 0 text)
  else if ¬ coded ∧ single ≤ 2 then onLines '\'' text text
  else if broken then onLines '"' text (escape true 2 0 text)
  else onLine '"' (escape false 0 0 text)

/-! ## Keys -/

/-- Whether a character may stand in a key without quotes. -/
def isKeyChar (c : Char) : Bool := c.isAlphanum || c = '-' || c = '_'

/-- A key in its plainest form. -/
def writeKey (key : List Char) : List Char :=
  let coded := key.any fun c => needsEscape c || c = '\n'
  if ¬ key.isEmpty ∧ key.all isKeyChar then key
  else if ¬ coded ∧ ¬ key.contains '\\' ∧ ¬ key.contains '"' then onLine '"' (escape false 0 0 key)
  else if ¬ coded ∧ ¬ key.contains '\'' then onLine '\'' key
  else onLine '"' (escape false 0 0 key)

end SearchRelay.Toml.Quoted
