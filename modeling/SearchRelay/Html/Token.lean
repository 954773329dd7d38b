import SearchRelay.Html.Entity

/-!
# SearchRelay.Html.Token

The tokens of an HTML text.

1. The text is read one token at a time, since what a tag means decides how
   the text behind it is read: `Reading` says how.
2. `next` gives the tokens at the front of a text, how to go on, and what is
   left.  A tag comes alone; several tokens come only as characters.
3. Tags that the text does not finish are dropped.
-/

namespace SearchRelay.Html

/-! ## Tokens -/

/-- A tag: its name and attributes in lower case, of attributes of one name
the first. -/
structure Tag where
  name : String
  attributes : List (String × String)
  selfClosing : Bool
  deriving DecidableEq

/-- A token. -/
inductive Token where
  | startTag (tag : Tag)
  | endTag (tag : Tag)
  | char (c : Char)
  /-- The character U+0000. -/
  | null
  | comment
  /-- A document type, or a flaw that leaves nothing behind. -/
  | trifle
  deriving DecidableEq

/-- Where in a script the text stands, as far as comments and nested scripts
in it matter.  The number counts the dashes just read, up to two. -/
inductive ScriptState where
  | plain
  | opening
  | openingDash
  | escaped (dashes : Nat)
  | nested (dashes : Nat)
  deriving DecidableEq

/-- How text is read.  The name is that of the element whose end tag ends it. -/
inductive Reading where
  /-- Markup. -/
  | data
  /-- Text of a marked section. -/
  | cdata
  /-- Text with character references. -/
  | rcdata (name : String)
  /-- Text only. -/
  | rawtext (name : String)
  /-- A script. -/
  | script (state : ScriptState)
  /-- Text only, to the end. -/
  | plaintext
  deriving DecidableEq

/-! ## Tags -/

/-- Whether a character separates the parts of a tag. -/
def isSpace (c : Char) : Bool := c = ' ' || c = '\t' || c = '\n' || c = '\x0c'

/-- An ASCII letter in lower case; NUL becomes the replacement character. -/
def nameChar (c : Char) : Char := if c = '\x00' then Entity.replacement else c.toLower

def valueChar (c : Char) : Char := if c = '\x00' then Entity.replacement else c

/-- Where in a tag the text stands. -/
inductive TagPlace where
  | name
  | beforeAttribute
  | attributeName
  | afterAttributeName
  | beforeValue
  | value (quote : Option Char)
  | afterValue
  | selfClosing
  deriving DecidableEq

/-- A tag under way.  Its name, and the name and the value of the attribute at
hand, stand in reverse. -/
structure PartialTag where
  place : TagPlace
  name : List Char
  attributes : List (String × String) := []
  current : Option (List Char × List Char) := none
  selfClosing : Bool := false

namespace PartialTag

/-- Takes over the attribute at hand, unless there is one of that name. -/
def finishAttribute (t : PartialTag) : PartialTag :=
  match t.current with
  | none => t
  | some (name, value) =>
    let key := String.ofList name.reverse
    let text := String.ofList (Entity.resolve value.length value.reverse)
    { t with
      current := none
      attributes :=
        if (t.attributes.lookup key).isSome then t.attributes else t.attributes ++ [(key, text)] }

def startAttribute (t : PartialTag) (c : Char) : PartialTag :=
  { t.finishAttribute with place := .attributeName, current := some ([nameChar c], []) }

def extendName (t : PartialTag) (c : Char) : PartialTag :=
  { t with current := t.current.map fun (name, value) => (nameChar c :: name, value) }

def extendValue (t : PartialTag) (c : Char) : PartialTag :=
  { t with current := t.current.map fun (name, value) => (name, valueChar c :: value) }

def goTo (t : PartialTag) (place : TagPlace) : PartialTag := { t with place }

/-- A character before an attribute; nothing if it ends the tag. -/
def beforeAttribute? (t : PartialTag) (c : Char) : Option PartialTag :=
  if isSpace c then some (t.goTo .beforeAttribute)
  else if c = '/' then some (t.goTo .selfClosing)
  else if c = '>' then none
  else some (t.startAttribute c)

/-- Takes one character; nothing if it ends the tag. -/
def step? (t : PartialTag) (c : Char) : Option PartialTag :=
  match t.place with
  | .name =>
    if isSpace c ∨ c = '/' ∨ c = '>' then t.beforeAttribute? c
    else some { t with name := nameChar c :: t.name }
  | .beforeAttribute => t.beforeAttribute? c
  | .attributeName =>
    if isSpace c then some (t.goTo .afterAttributeName)
    else if c = '/' then some (t.goTo .selfClosing)
    else if c = '=' then some (t.goTo .beforeValue)
    else if c = '>' then none
    else some (t.extendName c)
  | .afterAttributeName =>
    if isSpace c then some t
    else if c = '=' then some (t.goTo .beforeValue)
    else t.beforeAttribute? c
  | .beforeValue =>
    if isSpace c then some t
    else if c = '"' ∨ c = '\'' then some (t.goTo (.value (some c)))
    else if c = '>' then none
    else some ((t.goTo (.value none)).extendValue c)
  | .value (some quote) => if c = quote then some (t.goTo .afterValue) else some (t.extendValue c)
  | .value none =>
    if isSpace c then some (t.goTo .beforeAttribute)
    else if c = '>' then none
    else some (t.extendValue c)
  | .afterValue => t.beforeAttribute? c
  | .selfClosing =>
    if c = '>' then none else t.beforeAttribute? c

def finish (t : PartialTag) : Tag :=
  let t' := t.finishAttribute
  ⟨String.ofList t.name.reverse, t'.attributes, t.place = .selfClosing⟩

/-- Reads to the end of a tag; nothing if the text ends before. -/
def scan? (t : PartialTag) : List Char → Option (Tag × List Char)
  | [] => none
  | c :: cs => match t.step? c with
    | some t' => scan? t' cs
    | none => some (t.finish, cs)

end PartialTag

/-- What is read at a place: tokens, how to go on, and what is left. -/
structure Step where
  tokens : List Token
  reading : Reading
  rest : List Char

/-- The tag whose name is at the front of a text. -/
def tagStep (make : Tag → Token) (reading : Reading) (cs : List Char) : Step :=
  match PartialTag.scan? ⟨.name, [], [], none, false⟩ cs with
  | some (tag, rest) => ⟨[make tag], reading, rest⟩
  | none => ⟨[], reading, []⟩

/-! ## Markup that is no tag -/

/-- What follows the next `>`. -/
def behindBracket (cs : List Char) : List Char := (cs.dropWhile (· ≠ '>')).drop 1

/-- What follows the end of a comment. -/
def behindComment : List Char → List Char
  | [] => []
  | '-' :: '-' :: '>' :: cs => cs
  | '-' :: '-' :: '!' :: '>' :: cs => cs
  | _ :: cs => behindComment cs

/-- Whether a text begins with a word, whatever the case of ASCII letters. -/
def beginsWith (word cs : List Char) : Bool := (cs.take word.length).map Char.toLower == word

/-- The word that begins a marked section. -/
def sectionStart : List Char := ['[', 'C', 'D', 'A', 'T', 'A', '[']

/-- The markup behind `<!`.  Marked sections exist in foreign elements only. -/
def declarationStep (foreign : Bool) : List Char → Step
  | '-' :: '-' :: '>' :: cs => ⟨[.comment], .data, cs⟩
  | '-' :: '-' :: '-' :: '>' :: cs => ⟨[.comment], .data, cs⟩
  | '-' :: '-' :: cs => ⟨[.comment], .data, behindComment cs⟩
  | cs =>
    if beginsWith ['d', 'o', 'c', 't', 'y', 'p', 'e'] cs then ⟨[.trifle], .data, behindBracket cs⟩
    else if foreign ∧ sectionStart.isPrefixOf cs then ⟨[], .cdata, cs.drop sectionStart.length⟩
    else ⟨[.comment], .data, behindBracket cs⟩

/-! ## References -/

def charToken (c : Char) : Token := if c = '\x00' then .null else .char c

/-- The token of a character where U+0000 is text. -/
def textToken (c : Char) : Token := .char (valueChar c)

/-- The reference behind an ampersand. -/
def referenceStep (reading : Reading) (cs : List Char) : Step :=
  match Entity.reference? false cs with
  | some r =>
    ⟨(if r.unfinished then [.trifle] else []) ++ r.chars.map .char, reading, r.rest⟩
  | none => ⟨[.char '&'], reading, cs⟩

/-! ## Text that only its end tag ends -/

def endsName (c : Char) : Bool := isSpace c || c = '/' || c = '>'

/-- Whether the word of letters at the front of a text is this one, and a
character that ends a name follows it. -/
def beginsWithName (name : List Char) (cs : List Char) : Bool :=
  beginsWith name cs && match cs.drop name.length with
    | [] => false
    | c :: _ => endsName c

/-- The end tag of a name, if it is at the front of a text. -/
def endTagStep? (name : String) : List Char → Option Step
  | '<' :: '/' :: cs =>
    if beginsWithName name.toList cs then some (tagStep .endTag .data cs) else none
  | _ => none

def scriptName : String := "script"

/-- Reads one character of a script. -/
def scriptStep (state : ScriptState) (c : Char) (cs : List Char) : Step :=
  let go (next : ScriptState) : Step := ⟨[textToken c], .script next, cs⟩
  let ended := endTagStep? scriptName (c :: cs)
  let begins (word : List Char) : Bool := beginsWithName scriptName.toList word
  let plain : Step := match c, cs, ended with
    | _, _, some step => step
    | '<', '!' :: rest, _ => ⟨[.char '<', .char '!'], .script .opening, rest⟩
    | _, _, _ => go .plain
  match state with
  | .plain => plain
  | .opening => if c = '-' then go .openingDash else plain
  | .openingDash => if c = '-' then go (.escaped 2) else plain
  | .escaped dashes =>
    match ended with
    | some step => step
    | none =>
      if c = '-' then go (.escaped (min 2 (dashes + 1)))
      else if c = '>' ∧ dashes = 2 then go .plain
      else if c = '<' ∧ begins cs then
        ⟨(c :: cs.take (scriptName.length + 1)).map textToken, .script (.nested 0),
          cs.drop (scriptName.length + 1)⟩
      else go (.escaped 0)
  | .nested dashes =>
    if c = '-' then go (.nested (min 2 (dashes + 1)))
    else if c = '>' ∧ dashes = 2 then go .plain
    else if c = '<' ∧ cs.head? = some '/' ∧ begins (cs.drop 1) then
      ⟨(c :: cs.take (scriptName.length + 2)).map textToken, .script (.escaped 0),
        cs.drop (scriptName.length + 2)⟩
    else go (.nested 0)

/-! ## One step -/

/-- Reads markup. -/
def dataStep (foreign : Bool) : List Char → Step
  | [] => ⟨[], .data, []⟩
  | '&' :: cs => referenceStep .data cs
  | '<' :: '!' :: cs => declarationStep foreign cs
  | '<' :: '?' :: cs => ⟨[.comment], .data, behindBracket cs⟩
  | '<' :: '/' :: '>' :: cs => ⟨[.trifle], .data, cs⟩
  | '<' :: '/' :: c :: cs =>
    if c.isAlpha then tagStep .endTag .data (c :: cs)
    else ⟨[.comment], .data, behindBracket (c :: cs)⟩
  | '<' :: c :: cs =>
    if c.isAlpha then tagStep .startTag .data (c :: cs) else ⟨[.char '<'], .data, c :: cs⟩
  | c :: cs => ⟨[charToken c], .data, cs⟩

/-- Reads a marked section. -/
def sectionStep : List Char → Step
  | [] => ⟨[], .data, []⟩
  | ']' :: ']' :: '>' :: cs => ⟨[], .data, cs⟩
  | c :: cs => ⟨[charToken c], .cdata, cs⟩

/-- Reads on in a text; `foreign` says whether the element at hand is a foreign
one. -/
def next (reading : Reading) (foreign : Bool) (cs : List Char) : Step :=
  match reading, cs with
  | _, [] => ⟨[], reading, []⟩
  | .data, cs => dataStep foreign cs
  | .cdata, cs => sectionStep cs
  | .rcdata name, c :: rest => match endTagStep? name cs with
    | some step => step
    | none => if c = '&' then referenceStep reading rest else ⟨[textToken c], reading, rest⟩
  | .rawtext name, c :: rest => (endTagStep? name cs).getD ⟨[textToken c], reading, rest⟩
  | .script state, c :: rest => scriptStep state c rest
  | .plaintext, c :: rest => ⟨[textToken c], reading, rest⟩

/-! ## Line ends -/

/-- A line ends with one line feed, and a byte order mark is no text. -/
def normalizeLines : List Char → List Char
  | [] => []
  | '\r' :: '\n' :: cs => '\n' :: normalizeLines cs
  | '\r' :: cs => '\n' :: normalizeLines cs
  | c :: cs => c :: normalizeLines cs

/-- A text as it is read: without the byte order mark at its front, and with
line feeds as the only ends of lines. -/
def prepare : List Char → List Char
  | '\ufeff' :: cs => normalizeLines cs
  | cs => normalizeLines cs

end SearchRelay.Html
