import SearchRelay.Html.Element

/-!
# SearchRelay.Html.Builder

A document under construction: the tree so far, the elements that are open,
and the formatting that text still to come has to be wrapped in.

1. *Open elements* stand innermost first; the last one is the root.
2. *Active formatting* stands newest first.  A marker shields what is older.
3. New nodes become the last child of the innermost element, except that
   while misplaced content of a table is put in front of that table.
4. `closeFormatting` ends a formatting element that other elements were opened
   in, by splitting it around them.
-/

namespace SearchRelay.Html

/-- What kind of content is expected next. -/
inductive Insertion where
  | body
  | text
  | table
  | tableText
  | caption
  | columnGroup
  | tableBody
  | row
  | cell
  | select
  | selectInTable
  | template
  deriving DecidableEq

/-- Formatting that text still to come is wrapped in. -/
inductive Formatting where
  | marker
  | element (id : Nat) (tag : Tag)
  deriving DecidableEq

def Formatting.isFor (id : Nat) : Formatting → Bool
  | .marker => false
  | .element other _ => other = id

/-- Whether two tags have the same name and attributes, in any order. -/
def sameTag (s t : Tag) : Bool :=
  s.name = t.name && s.attributes.length = t.attributes.length &&
    s.attributes.all t.attributes.contains

/-- Whether an entry was made by such a tag. -/
def Formatting.isLike (tag : Tag) : Formatting → Bool
  | .marker => false
  | .element _ other => sameTag tag other

/-- A document under construction. -/
structure Builder where
  tree : Tree
  stack : List OpenElement
  formatting : List Formatting := []
  insertion : Insertion := .body
  templates : List Insertion := []
  /-- What is expected when the text of an element or a table is over. -/
  resume : Insertion := .body
  /-- Text of a table that was not placed yet, in reverse. -/
  tableText : List Char := []
  form : Option Nat := none
  /-- Whether a line feed that comes next is dropped. -/
  skipLineFeed : Bool := false
  /-- Whether content is put in front of the table that it is misplaced in. -/
  fostering : Bool := false

namespace Builder

def rootElement : OpenElement := ⟨0, .html, "html"⟩

/-- A document with its root only. -/
def initial : Builder where
  tree := Tree.empty.create (.element .html "html")
  stack := [rootElement]

/-! ## Open elements -/

def current (b : Builder) : OpenElement := b.stack.headD rootElement

def pop (b : Builder) : Builder := { b with stack := b.stack.drop 1 }

def push (b : Builder) (e : OpenElement) : Builder := { b with stack := e :: b.stack }

/-- Closes elements up to and including the first that satisfies a test. -/
def popThrough (test : OpenElement → Bool) (b : Builder) : Builder :=
  { b with stack := (b.stack.dropWhile fun e => !test e).drop 1 }

/-- Closes elements up to and including the first HTML element of a name. -/
def popNamed (b : Builder) (name : String) : Builder := b.popThrough (·.named name)

/-- Closes elements in front of the first that satisfies a test. -/
def popBefore (test : OpenElement → Bool) (b : Builder) : Builder :=
  { b with stack := b.stack.dropWhile fun e => !test e }

/-- Closes elements whose end is implied, except those of a name. -/
def implyEnds (b : Builder) (names : List String) (except : Option String := none) : Builder :=
  { b with stack := b.stack.dropWhile fun e => e.among names && some e.name != except }

def hasInScope (b : Builder) (name : String) : Bool := inScope endsScope (·.named name) b.stack

def hasInTable (b : Builder) (name : String) : Bool :=
  inScope endsTableScope (·.named name) b.stack

def inTemplate (b : Builder) : Bool := b.stack.any (·.named "template")

def isOpen (b : Builder) (id : Nat) : Bool := b.stack.any fun e => e.id = id

def removeOpen (b : Builder) (id : Nat) : Builder :=
  { b with stack := b.stack.filter fun e => e.id ≠ id }

/-! ## Placing nodes -/

/-- Puts a node in front of the innermost table. -/
def fosterIn (t : Tree) (id : Nat) : List OpenElement → Tree
  | [] => t.append rootElement.id id
  | e :: es =>
    if e.named "template" then t.append e.id id
    else if e.named "table" then
      if (t.parent? e.id).isSome then t.insertBefore e.id id
      else t.append (es.headD rootElement).id id
    else fosterIn t id es

/-- Puts a node where content of an element belongs. -/
def place (b : Builder) (target : OpenElement) (id : Nat) : Builder :=
  if b.fostering ∧ target.among tableParts then { b with tree := fosterIn b.tree id b.stack }
  else { b with tree := b.tree.append target.id id }

/-- Adds a node where content of the innermost element belongs. -/
def insert (b : Builder) (content : Content) : Builder :=
  let id := b.tree.size
  { b with tree := b.tree.create content }.place b.current id

def insertChar (b : Builder) (c : Char) : Builder := b.insert (.text c)

def insertClosed (b : Builder) (vocabulary : Namespace) (name : String) : Builder :=
  b.insert (.element vocabulary name)

def insertOpen (b : Builder) (vocabulary : Namespace) (name : String) : Builder :=
  (b.insertClosed vocabulary name).push ⟨b.tree.size, vocabulary, name⟩

def openHtml (b : Builder) (name : String) : Builder := b.insertOpen .html name

/-! ## Formatting -/

/-- Whether an entry needs no element of its own for text to come. -/
def settled (b : Builder) : Formatting → Bool
  | .marker => true
  | .element id _ => b.isOpen id

/-- Opens the formatting of some entries, oldest first, and gives the entries
with their new elements, newest first. -/
def reopen (b : Builder) (done : List Formatting) : List Formatting → Builder × List Formatting
  | [] => (b, done)
  | .marker :: rest => reopen b (.marker :: done) rest
  | .element _ tag :: rest =>
    reopen (b.openHtml tag.name) (.element b.tree.size tag :: done) rest

/-- Opens all formatting that is active and not open. -/
def reconstruct (b : Builder) : Builder :=
  let missing := b.formatting.takeWhile fun entry => !b.settled entry
  let older := b.formatting.drop missing.length
  let (b, entries) := reopen b older missing.reverse
  { b with formatting := entries }

/-- The entries in front of the newest marker. -/
def unshielded (b : Builder) : List Formatting := b.formatting.takeWhile (· ≠ .marker)

/-- Drops the entries up to and including the newest marker. -/
def clearToMarker (b : Builder) : Builder :=
  { b with formatting := (b.formatting.dropWhile (· ≠ .marker)).drop 1 }

def dropFormatting (b : Builder) (id : Nat) : Builder :=
  { b with formatting := b.formatting.filter fun entry => !Formatting.isFor id entry }

/-- How many entries of one kind may be active behind a marker. -/
def mostAlike : Nat := 3

/-- Adds a formatting element.  Of too many alike the oldest is dropped. -/
def openFormatting (b : Builder) (tag : Tag) : Builder :=
  let alike := b.unshielded.filter (Formatting.isLike tag)
  let b := if mostAlike ≤ alike.length then
      match alike.getLast? with
      | some (.element id _) => b.dropFormatting id
      | _ => b
    else b
  let entry := Formatting.element b.tree.size tag
  let b := b.openHtml tag.name
  { b with formatting := entry :: b.formatting }

/-! ## Ends of elements -/

/-- Closes a paragraph, as if its end were there. -/
def closeParagraph (b : Builder) : Builder := (b.implyEnds impliedEnds (some "p")).popNamed "p"

/-- Closes a paragraph that is in scope of the nearest button. -/
def closeOpenParagraph (b : Builder) : Builder :=
  if inScope endsButtonScope (·.named "p") b.stack then b.closeParagraph else b

/-- The elements behind the nearest one of a name, if no special element is
nearer. -/
def behindNamed? (name : String) : List OpenElement → Option (List OpenElement)
  | [] => none
  | e :: es =>
    if e.named name then some es
    else if e.among special then none
    else behindNamed? name es

/-- Closes the nearest element of a name, if no special element is nearer. -/
def closeNamed (b : Builder) (name : String) : Builder :=
  match behindNamed? name b.stack with
  | some outer => { b with stack := outer }
  | none => b

/-- Where the entry of a split formatting element goes. -/
inductive Bookmark where
  /-- In the place of its old entry. -/
  | same
  /-- Just behind the entry of a node. -/
  | newerThan (id : Nat)

/-- The state while elements between a formatting element and a block in it
are split. -/
structure Split where
  builder : Builder
  /-- The node to be put into the next one. -/
  last : Nat
  bookmark : Bookmark := .same
  /-- The elements that stay open, outermost first. -/
  kept : List OpenElement := []
  /-- How many elements were passed. -/
  passed : Nat := 0

/-- How many elements between are split at most. -/
def mostSplit : Nat := 3

/-- Splits one element between. -/
def Split.step (block : Nat) (s : Split) (e : OpenElement) : Split :=
  let s := { s with passed := s.passed + 1 }
  match s.builder.formatting.find? (Formatting.isFor e.id) with
  | some (.element _ tag) =>
    if mostSplit < s.passed then { s with builder := s.builder.dropFormatting e.id }
    else
      let b := s.builder
      let id := b.tree.size
      let formatting := b.formatting.map fun entry =>
        if Formatting.isFor e.id entry then .element id tag else entry
      let tree := (b.tree.create (.element .html tag.name)).append id s.last
      { s with
        builder := { b with tree, formatting }
        bookmark := if s.last = block then .newerThan id else s.bookmark
        last := id
        kept := ⟨id, .html, tag.name⟩ :: s.kept }
  | _ => s

/-- Puts the entry of a split formatting element into its place. -/
def moveEntry (old : Nat) (entry : Formatting) (bookmark : Bookmark)
    (formatting : List Formatting) : List Formatting :=
  match bookmark with
  | .same => formatting.map fun e => if Formatting.isFor old e then entry else e
  | .newerThan id =>
    (formatting.flatMap fun e => if Formatting.isFor id e then [entry, e] else [e]).filter
      fun e => !Formatting.isFor old e

/-- The open elements around a formatting element with a block in it: those
inside the block, the block, those between, and those outside. -/
structure Around where
  inside : List OpenElement
  block : OpenElement
  between : List OpenElement
  outside : List OpenElement

/-- Splits a formatting element around the outermost block in it. -/
def splitAround (b : Builder) (id : Nat) (tag : Tag) (around : Around) : Builder :=
  let block := around.block
  let s := around.between.foldl (Split.step block.id) { builder := b, last := block.id }
  let ancestor := around.outside.headD rootElement
  let b := { s.builder with tree := s.builder.tree.detach s.last }.place ancestor s.last
  let new := b.tree.size
  let tree := (b.tree.create (.element .html tag.name)).moveChildren block.id new
  { b with
    tree := tree.append block.id new
    formatting := moveEntry id (.element new tag) s.bookmark b.formatting
    stack := around.inside ++ ⟨new, .html, tag.name⟩ :: block :: s.kept.reverse ++ around.outside }

/-- What is open around a formatting element: the elements in it, and those
outside. -/
def partsAround (id : Nat) (stack : List OpenElement) : List OpenElement × List OpenElement :=
  (stack.takeWhile (·.id ≠ id), (stack.dropWhile (·.id ≠ id)).drop 1)

/-- The outermost special element among the elements in a formatting
element. -/
def around? (inner outside : List OpenElement) : Option Around :=
  let between := (inner.reverse.takeWhile fun e => !e.among special).reverse
  match inner.reverse.drop between.length with
  | [] => none
  | block :: inside => some ⟨inside.reverse, block, between, outside⟩

/-- Ends a formatting element, splitting it at most `rounds` times. -/
def closeFormattingRounds (name : String) : (rounds : Nat) → Builder → Builder
  | 0, b => b
  | rounds + 1, b =>
    match b.unshielded.find? fun
        | .element _ tag => tag.name = name
        | .marker => false with
    | some (.element id tag) =>
      if !b.isOpen id then b.dropFormatting id
      else if !inScope endsScope (·.id = id) b.stack then b
      else
        let (inner, outside) := partsAround id b.stack
        match around? inner outside with
        | none => { b with stack := outside }.dropFormatting id
        | some around => closeFormattingRounds name rounds (b.splitAround id tag around)
    | _ => b.closeNamed name

/-- How often a formatting element is split at most. -/
def mostRounds : Nat := 8

/-- Ends the formatting element of a name. -/
def closeFormatting (b : Builder) (name : String) : Builder :=
  if b.current.named name ∧ ¬ b.formatting.any (Formatting.isFor b.current.id) then b.pop
  else closeFormattingRounds name mostRounds b

/-- Ends a link that another link begins in. -/
def closeLink (b : Builder) : Builder :=
  match b.unshielded.find? fun
      | .element _ tag => tag.name = "a"
      | .marker => false with
  | some (.element id _) => ((b.closeFormatting "a").dropFormatting id).removeOpen id
  | _ => b

end Builder

end SearchRelay.Html
