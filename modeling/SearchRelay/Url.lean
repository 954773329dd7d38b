import SearchRelay.Url.Host

/-!
# SearchRelay.Url

Absolute URLs of the web.

1. `Url.parse` reads a text the lenient way of the web: blanks around it are
   dropped, slashes may lean either way, and a path is freed from its dot
   segments.  A URL of another scheme is only checked for a valid authority.
2. `Url.text` writes a URL; `Url.target` is the part of it that a request
   names.
3. A path is a list of segments; that it begins with a slash goes without
   saying.
4. Not every URL can be sent: `Url.isSendable` tells which.
-/

namespace SearchRelay

/-- A URL of the scheme `http` or `https`.  All parts are encoded. -/
structure Url where
  scheme : String
  /-- What stands before the host, with its `@`. -/
  user : List Char
  host : Url.Host
  /-- The port, unless it is that of the scheme. -/
  port : Option Nat
  path : List (List Char)
  query : Option (List Char)
  fragment : Option (List Char)
  deriving DecidableEq

namespace Url

/-! ## Schemes -/

/-- How the URLs of a scheme are read. -/
inductive Form where
  | web
  | file
  | opaqueHost
  deriving DecidableEq

/-- The form of a scheme. -/
def formOf (scheme : String) : Form :=
  if ["http", "https", "ws", "wss", "ftp"].contains scheme then .web
  else if scheme = "file" then .file
  else .opaqueHost

def defaultPort? (scheme : String) : Option Nat :=
  [("http", 80), ("https", 443), ("ws", 80), ("wss", 443), ("ftp", 21)].lookup scheme

def isSchemeChar (c : Char) : Bool := c.isAlphanum || c = '+' || c = '-' || c = '.'

/-- The scheme in front of a text, in lower case, and what follows its
colon. -/
def splitScheme? (cs : List Char) : Option (String × List Char) :=
  let name := cs.takeWhile isSchemeChar
  match cs.drop name.length with
  | ':' :: rest =>
    if name.head?.any Char.isAlpha then some (String.ofList (name.map Char.toLower), rest) else none
  | _ => none

/-! ## Authority -/

/-- Whether a character separates the parts of a path. -/
def isSlash (form : Form) (c : Char) : Bool := c = '/' || (c = '\\' && form ≠ .opaqueHost)

def endsAuthority (form : Form) (c : Char) : Bool := isSlash form c || c = '?' || c = '#'

/-- What stands before the host, encoded; a password that is empty has no
colon. -/
def userText (cs : List Char) : List Char :=
  let name := cs.takeWhile (· ≠ ':')
  let password := (cs.drop name.length).drop 1
  let shown := encodeWith inUserSet name ++
    (if password.isEmpty then [] else ':' :: encodeWith inUserSet password)
  if shown.isEmpty then [] else shown ++ ['@']

/-- The parts of an authority around its last `@`. -/
def splitUser? (cs : List Char) : Option (List Char × List Char) :=
  if cs.contains '@' then
    let host := (cs.reverse.takeWhile (· ≠ '@')).reverse
    some (cs.take (cs.length - host.length - 1), host)
  else none

/-- The host of an authority, and what follows it.  A colon in brackets does
not end the host. -/
def splitHost (inBrackets : Bool) : List Char → List Char × List Char
  | [] => ([], [])
  | c :: cs =>
    if c = ':' ∧ ¬ inBrackets then ([], c :: cs)
    else
      let within := if c = '[' then true else if c = ']' then false else inBrackets
      let (host, rest) := splitHost within cs
      (c :: host, rest)

def largestPort : Nat := 65535

/-- Reads a port; that of the scheme counts as none. -/
def readPort (scheme : String) (digits : List Char) : Except Fault (Option Nat) :=
  if digits.all Char.isDigit then
    let n := digits.foldl (fun n c => n * 10 + Text.Table.digitValue c) 0
    if largestPort < n then .error .invalidPort
    else .ok (if digits.isEmpty ∨ defaultPort? scheme = some n then none else some n)
  else .error .invalidPort

/-- An authority: what stands before the host, the host, and the port. -/
structure Authority where
  user : List Char
  host : Host
  port : Option Nat

/-- Reads the authority of a web URL. -/
def authority (scheme : String) (cs : List Char) : Except Fault Authority := do
  let (user, rest) := (splitUser? cs).getD ([], cs)
  let (hostText, after) := splitHost false rest
  if hostText.isEmpty then throw .emptyHost
  let host ← Host.parse hostText
  return ⟨userText user, host, ← readPort scheme (after.drop 1)⟩

/-- Checks the authority of a scheme without a meaning of its own.  It may be
empty, but then nothing may belong to it. -/
def checkOpaqueAuthority (scheme : String) (cs : List Char) (followed : Bool) :
    Except Fault Unit := do
  let (user, rest) := (splitUser? cs).getD ([], cs)
  let (hostText, after) := splitHost false rest
  if cs = ['@'] ∧ followed then throw .emptyHost
  Host.checkOpaque hostText
  if hostText.isEmpty ∧ (¬ after.isEmpty ∨ ¬ (userText user).isEmpty) then throw .emptyHost
  let _ ← readPort scheme (after.drop 1)

/-- Whether a text is a letter and a colon or bar. -/
def isDriveLetter : List Char → Bool
  | [a, b] => a.isAlpha && (b = ':' || b = '|')
  | _ => false

/-- Checks the host of a file URL. -/
def checkFile (cs : List Char) : Except Fault Unit :=
  match cs with
  | a :: b :: rest =>
    let host := rest.takeWhile fun c => !endsAuthority .file c
    if isSlash .file a ∧ isSlash .file b ∧ ¬ host.isEmpty ∧ ¬ isDriveLetter host then
      (Host.parse host).map fun _ => ()
    else .ok ()
  | _ => .ok ()

/-! ## Path -/

/-- Whether a segment stands for the one before it. -/
def isDoubleDot (segment : List Char) : Bool :=
  ["..", "%2e%2e", "%2e.", ".%2e"].contains (String.ofList (segment.map Char.toLower))

/-- Whether a segment stands for nothing. -/
def isSingleDot (segment : List Char) : Bool :=
  [".", "%2e"].contains (String.ofList (segment.map Char.toLower))

/-- The segments without the last one.  A drive letter stays. -/
def dropSegment (done : List (List Char)) : List (List Char) :=
  match done.getLast? with
  | some last => if isDriveLetter last then done else done.dropLast
  | none => []

/-- Goes through the segments of a path; `done` are those in front. -/
def resolve (done : List (List Char)) : List (List Char) → List (List Char)
  | [] => done
  | segment :: rest =>
    let next :=
      if isDoubleDot segment then dropSegment done
      else if isSingleDot segment then done
      else done ++ [segment]
    if rest.isEmpty ∧ (isDoubleDot segment ∨ isSingleDot segment) then next ++ [[]]
    else resolve next rest

/-- The path of a text that begins behind the authority. -/
def pathOf (cs : List Char) : List (List Char) :=
  let body := match cs with
    | c :: rest => if isSlash .web c then rest else c :: rest
    | [] => []
  resolve [] ((Text.splitBy (isSlash .web) body).map (encodeWith inPathSet))

/-! ## URLs -/

/-- Whether a character is dropped at the ends of a text. -/
def isOuterBlank (c : Char) : Bool := c.toNat ≤ 0x20

/-- Whether a character is dropped wherever it stands. -/
def isLineBreak (c : Char) : Bool := c = '\t' || c = '\n' || c = '\r'

/-- A text without what is dropped. -/
def cleaned (text : String) : List Char :=
  let cs := text.toList.dropWhile isOuterBlank
  (cs.reverse.dropWhile isOuterBlank).reverse.filter fun c => !isLineBreak c

/-- The parts of a text in front of a character and behind it. -/
def splitAtChar (mark : Char) (cs : List Char) : List Char × Option (List Char) :=
  let front := cs.takeWhile (· ≠ mark)
  match cs.drop front.length with
  | [] => (front, none)
  | _ :: rest => (front, some rest)

/-- Reads a web URL behind its scheme. -/
def parseWeb (scheme : String) (cs : List Char) : Except Fault Url := do
  let cs := cs.dropWhile (isSlash .web)
  let authorityText := cs.takeWhile fun c => !endsAuthority .web c
  let (rest, fragment) := splitAtChar '#' (cs.drop authorityText.length)
  let (path, query) := splitAtChar '?' rest
  let a ← authority scheme authorityText
  return {
    scheme
    user := a.user
    host := a.host
    port := a.port
    path := pathOf path
    query := query.map (encodeWith inQuerySet)
    fragment := fragment.map (encodeWith inFragmentSet) }

/-- Checks a URL of a scheme without a meaning of its own. -/
def checkOther (scheme : String) : List Char → Except Fault Unit
  | '/' :: '/' :: cs =>
    let authorityText := cs.takeWhile fun c => !endsAuthority .opaqueHost c
    checkOpaqueAuthority scheme authorityText (authorityText.length < cs.length)
  | _ => .ok ()

/-- Reads a URL; nothing if it is a valid one of a scheme other than `http` and
`https`. -/
def parse (text : String) : Except Fault (Option Url) :=
  match splitScheme? (cleaned text) with
  | none => .error .relative
  | some (scheme, rest) => match formOf scheme with
    | .web => (parseWeb scheme rest).map fun url =>
      if scheme = "http" ∨ scheme = "https" then some url else none
    | .file => (checkFile rest).map fun _ => none
    | .opaqueHost => (checkOther scheme rest).map fun _ => none

/-- The path and the query of a URL. -/
def target (u : Url) : List Char :=
  '/' :: List.intercalate ['/'] u.path ++ u.query.elim [] ('?' :: ·)

/-- A URL as text. -/
def text (u : Url) : List Char :=
  u.scheme.toList ++ [':', '/', '/'] ++ u.user ++ u.host.text ++
    u.port.elim [] (fun n => ':' :: Nat.toDigits 10 n) ++ u.target ++
    u.fragment.elim [] ('#' :: ·)

/-! ## Sending -/

/- What sends a URL takes name and password out of it, which go into a header, and then
reads its text by a stricter grammar.  Paths and queries are encoded so far that they
pass, but a host may hold characters that do not, and the text may be too long. -/

/-- Whether encoded characters stand for a text. -/
def isText (cs : List Char) : Bool :=
  let bytes := decode (Text.Utf8.encode cs)
  Text.Utf8.encode (Text.Utf8.decodeLossy bytes) = bytes

/-- The name and the password before the host, encoded. -/
def credentials (u : Url) : List Char × List Char :=
  let shown := u.user.dropLast
  let name := shown.takeWhile (· ≠ ':')
  (name, (shown.drop name.length).drop 1)

/-- A URL without its name and password.  They stay if the name is no text, or if
there is nothing that is one. -/
def bare (u : Url) : Url :=
  let (name, password) := u.credentials
  if isText name ∧ (name ≠ [] ∨ password ≠ [] ∧ isText password) then { u with user := [] } else u

/-- The most bytes that the text of a URL may have when it is sent. -/
def mostBytes : Nat := 65534

/-- Characters of hosts that cannot be sent. -/
def unsendableChars : List Char := ['"', '`', '{', '}']

def isSendable (u : Url) : Bool :=
  (Text.Utf8.encode u.bare.text).length ≤ mostBytes && !u.host.text.any unsendableChars.contains

end Url

end SearchRelay
