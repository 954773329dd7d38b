import SearchRelay.Toml.Quoted

/-!
# SearchRelay.Toml.Token

The tokens of a TOML document.

1. A document may begin with a byte order mark.  Its lines end with a line
   feed, which may follow a carriage return; no other control character than
   tab may stand anywhere.
2. A run of letters, digits and the marks of numbers and dates is one word.
   What a word means depends on where it stands: as part of a key it is cut at
   its points, as a value it is read as a whole.
3. A comment is no token; it ends with its line.
-/

namespace SearchRelay.Toml

/-- A token of a document. -/
inductive Token where
  /-- Blanks on a line; `single` if it is just one space. -/
  | gap (single : Bool)
  | lineFeed
  | word (characters : List Char)
  | text (characters : List Char) (several : Bool)
  | openBracket
  | closeBracket
  | openBrace
  | closeBrace
  | comma
  | equals
  deriving DecidableEq

namespace Token

/-! ## Lines -/

/-- The document with line feeds as line ends; nothing if a carriage return
stands alone. -/
def unifyLines? : List Char → Option (List Char)
  | [] => some []
  | '\r' :: '\n' :: cs => (unifyLines? cs).map ('\n' :: ·)
  | c :: cs => if c = '\r' then none else (unifyLines? cs).map (c :: ·)

/-- Whether a character may stand in a document. -/
def isAllowed (c : Char) : Bool := c = '\n' || c = '\t' || (0x20 ≤ c.toNat && c != '\x7f')

/-- The document without its byte order mark. -/
def dropMark : List Char → List Char
  | '\ufeff' :: cs => cs
  | cs => cs

/-- The characters of a document to cut into tokens. -/
def characters? (text : String) : Option (List Char) := do
  let cs ← unifyLines? (dropMark text.toList)
  if cs.all isAllowed then some cs else none

/-! ## Tokens -/

/-- Whether a character belongs to a word. -/
def isWordChar (c : Char) : Bool := Quoted.isKeyChar c || c = '.' || c = '+' || c = ':'

/-- A token that is one mark. -/
def mark? : Char → Option Token
  | '\n' => some .lineFeed
  | '[' => some .openBracket
  | ']' => some .closeBracket
  | '\x7b' => some .openBrace
  | '\x7d' => some .closeBrace
  | ',' => some .comma
  | '=' => some .equals
  | _ => none

/-- The first token of a text, if it is not a comment, and what follows. -/
def next? (c : Char) (cs : List Char) : Option (Option Token × List Char) :=
  if c = '#' then some (none, cs.dropWhile (· ≠ '\n'))
  else if Quoted.isGap c then
    let more := cs.takeWhile Quoted.isGap
    some (some (.gap (c = ' ' ∧ more.isEmpty)), cs.drop more.length)
  else if isWordChar c then
    let more := cs.takeWhile isWordChar
    some (some (.word (c :: more)), cs.drop more.length)
  else if c = '"' ∨ c = '\'' then
    (Quoted.read? (c :: cs)).map fun (shown, several, rest) => (some (.text shown several), rest)
  else (mark? c).map fun token => (some token, cs)

/-- The tokens of characters; `fuel` is at least their number. -/
def cut? : (fuel : Nat) → List Char → Option (List Token)
  | _, [] => some []
  | 0, _ :: _ => none
  | fuel + 1, c :: cs => do
    let (token?, rest) ← next? c cs
    return token?.toList ++ (← cut? fuel rest)

end Token

def tokens? (text : String) : Option (List Token) := do
  let cs ← Token.characters? text
  Token.cut? cs.length cs

end SearchRelay.Toml
