import SearchRelay.Html.Builder

/-!
# SearchRelay.Html.Insertion

What a token does to a document under construction.

1. There is a function for each kind of content that may be expected:
   `Builder.inBody`, `Builder.inTable`, and so on.  A token that the expected
   content has no rule of its own for is handed on to another function, or
   handled again after something was closed.
2. Tokens inside foreign elements follow `Builder.inForeign`.
3. `Builder.take` handles one token of the text.
-/

namespace SearchRelay.Html

/-- What follows from handling a token. -/
inductive After where
  /-- Nothing more. -/
  | done
  /-- The same token is handled again. -/
  | again
  /-- The text behind the token is read in another way. -/
  | read (reading : Reading)

namespace Builder

def done (b : Builder) : Builder × After := (b, .done)

def expecting (b : Builder) (insertion : Insertion) : Builder := { b with insertion }

def again (b : Builder) (insertion : Insertion) : Builder × After := (b.expecting insertion, .again)

/-- Opens an element that holds text only. -/
def openText (b : Builder) (name : String) (reading : Reading) : Builder × After :=
  ({ b.openHtml name with resume := b.insertion, insertion := .text }, .read reading)

def mark (b : Builder) : Builder := { b with formatting := .marker :: b.formatting }

/-- What is expected in a selection, given the elements around it. -/
def insertionInSelect : List OpenElement → Insertion
  | [] => .select
  | e :: es =>
    if e.named "template" then .select
    else if e.named "table" then .selectInTable
    else insertionInSelect es

/-- What is expected in the innermost of some open elements.  The root stands
for the element that the text is the content of. -/
def insertionIn (templates : List Insertion) : List OpenElement → Insertion
  | [] | [_] => .body
  | e :: es =>
    if e.vocabulary ≠ .html then insertionIn templates es
    else match e.name with
      | "select" => insertionInSelect es
      | "td" | "th" => .cell
      | "tr" => .row
      | "tbody" | "thead" | "tfoot" => .tableBody
      | "caption" => .caption
      | "colgroup" => .columnGroup
      | "table" => .table
      | "template" => templates.headD .body
      | _ => insertionIn templates es

/-- Expects what the open elements call for. -/
def reset (b : Builder) : Builder := b.expecting (insertionIn b.templates b.stack)

/-! ## Body -/

/-- Ends a template. -/
def closeTemplate (b : Builder) : Builder :=
  if b.inTemplate then
    let b := ((b.implyEnds templateImpliedEnds).popNamed "template").clearToMarker
    { b with templates := b.templates.drop 1 }.reset
  else b

/-- A start tag of the kind that may stand in a head, or the end tag of a
template; nothing if the token is neither. -/
def inHead? (b : Builder) : Token → Option (Builder × After)
  | .startTag tag => match tag.name with
    | "base" | "basefont" | "bgsound" | "link" | "meta" => some (b.insertClosed .html tag.name).done
    | "title" => some (b.openText tag.name (.rcdata tag.name))
    | "noframes" | "style" => some (b.openText tag.name (.rawtext tag.name))
    | "script" => some (b.openText tag.name (.script .plain))
    | "template" =>
      some { (b.openHtml tag.name).mark with
        insertion := .template, templates := .template :: b.templates }.done
    | _ => none
  | .endTag tag => if tag.name = "template" then some b.closeTemplate.done else none
  | _ => none

/-- Closes the list item that a new one ends.  The search for it ends at an
element that may hold a list of its own. -/
def closeItem (b : Builder) (names : List String) : List OpenElement → Builder
  | [] => b
  | e :: es =>
    if e.among names then (b.implyEnds impliedEnds (some e.name)).popNamed e.name
    else if e.among special ∧ ¬ e.among ["address", "div", "p"] then b
    else closeItem b names es

/-- Expects a selection. -/
def enterSelect (b : Builder) : Builder :=
  b.expecting <|
    if b.insertion ∈ [Insertion.table, .caption, .tableBody, .row, .cell] then .selectInTable
    else .select

def insertForeign (b : Builder) (vocabulary : Namespace) (tag : Tag) : Builder :=
  if tag.selfClosing then b.insertClosed vocabulary tag.name else b.insertOpen vocabulary tag.name

/-- Closes an element of a name together with what is open in it. -/
def closeThrough (b : Builder) (name : String) : Builder :=
  if b.hasInScope name then (b.implyEnds impliedEnds).popNamed name else b

/-- Begins a form, unless one is open. -/
def openForm (b : Builder) : Builder :=
  if b.form.isSome ∧ ¬ b.inTemplate then b
  else
    let b := b.closeOpenParagraph
    let id := b.tree.size
    let b := b.openHtml "form"
    if b.inTemplate then b else { b with form := some id }

/-- Ends a form. -/
def closeForm (b : Builder) : Builder :=
  if b.inTemplate then b.closeThrough "form"
  else match b.form with
    | none => b
    | some id =>
      let b := { b with form := none }
      if inScope endsScope (·.id = id) b.stack then (b.implyEnds impliedEnds).removeOpen id else b

/-- A start tag in a body. -/
def startInBody (b : Builder) (tag : Tag) : Builder × After :=
  let name := tag.name
  if blocks.contains name then (b.closeOpenParagraph.openHtml name).done
  else if headings.contains name then
    let b := b.closeOpenParagraph
    ((if b.current.among headings then b.pop else b).openHtml name).done
  else if formattingNames.contains name then (b.reconstruct.openFormatting tag).done
  else match name with
    | "html" | "body" | "frameset" => b.done
    | "caption" | "col" | "colgroup" | "frame" | "head" | "tbody" | "td" | "tfoot" | "th"
    | "thead" | "tr" => b.done
    | "pre" | "listing" =>
      { b.closeOpenParagraph.openHtml name with skipLineFeed := true }.done
    | "form" => b.openForm.done
    | "li" => ((b.closeItem ["li"] b.stack).closeOpenParagraph.openHtml name).done
    | "dd" | "dt" => ((b.closeItem ["dd", "dt"] b.stack).closeOpenParagraph.openHtml name).done
    | "plaintext" => (b.closeOpenParagraph.openHtml name, .read .plaintext)
    | "button" => ((b.closeThrough name).reconstruct.openHtml name).done
    | "a" => (b.closeLink.reconstruct.openFormatting tag).done
    | "nobr" =>
      let b := b.reconstruct
      ((if b.hasInScope name then (b.closeFormatting name).reconstruct else b).openFormatting
        tag).done
    | "applet" | "marquee" | "object" => (b.reconstruct.openHtml name).mark.done
    | "table" => ((b.closeOpenParagraph.openHtml name).expecting .table).done
    | "area" | "br" | "embed" | "img" | "keygen" | "wbr" | "input" =>
      (b.reconstruct.insertClosed .html name).done
    | "image" => (b.reconstruct.insertClosed .html "img").done
    | "param" | "source" | "track" => (b.insertClosed .html name).done
    | "hr" => (b.closeOpenParagraph.insertClosed .html name).done
    | "textarea" => { b with skipLineFeed := true }.openText name (.rcdata name)
    | "xmp" => b.closeOpenParagraph.reconstruct.openText name (.rawtext name)
    | "iframe" | "noembed" | "noscript" => b.openText name (.rawtext name)
    | "select" => (b.reconstruct.openHtml name).enterSelect.done
    | "optgroup" | "option" =>
      ((if b.current.named "option" then b.pop else b).reconstruct.openHtml name).done
    | "rb" | "rtc" =>
      ((if b.hasInScope "ruby" then b.implyEnds impliedEnds else b).openHtml name).done
    | "rp" | "rt" =>
      ((if b.hasInScope "ruby" then b.implyEnds impliedEnds (some "rtc") else b).openHtml name).done
    | "math" => (b.insertForeign .mathml tag).done
    | "svg" => (b.insertForeign .svg tag).done
    | _ => (b.reconstruct.openHtml name).done

/-- An end tag in a body. -/
def endInBody (b : Builder) (name : String) : Builder :=
  if closable.contains name then b.closeThrough name
  else if headings.contains name then
    if inScope endsScope (·.among headings) b.stack then
      (b.implyEnds impliedEnds).popThrough (·.among headings)
    else b
  else if formattingNames.contains name then b.closeFormatting name
  else match name with
    | "body" | "html" => b
    | "form" => b.closeForm
    | "p" =>
      (if inScope endsButtonScope (·.named "p") b.stack then b else b.openHtml "p").closeParagraph
    | "li" =>
      if inScope endsListScope (·.named name) b.stack then
        (b.implyEnds impliedEnds (some name)).popNamed name
      else b
    | "dd" | "dt" =>
      if b.hasInScope name then (b.implyEnds impliedEnds (some name)).popNamed name else b
    | "a" | "nobr" => b.closeFormatting name
    | "applet" | "marquee" | "object" =>
      if b.hasInScope name then ((b.implyEnds impliedEnds).popNamed name).clearToMarker else b
    | "br" => b.reconstruct.insertClosed .html "br"
    | _ => b.closeNamed name

/-- A token in a body. -/
def inBody (b : Builder) (token : Token) : Builder × After :=
  match b.inHead? token, token with
  | some result, _ => result
  | none, .char c => (b.reconstruct.insertChar c).done
  | none, .startTag tag => b.startInBody tag
  | none, .endTag tag => (b.endInBody tag.name).done
  | none, .null | none, .comment | none, .trifle => b.done

/-! ## Text -/

/-- A token in an element that holds text only. -/
def inText (b : Builder) : Token → Builder × After
  | .char c => (b.insertChar c).done
  | .endTag _ => (b.pop.expecting b.resume).done
  | _ => b.done

/-! ## Tables -/

/-- A token that is misplaced in a table, put in front of it. -/
def misplaced (b : Builder) (token : Token) : Builder × After :=
  let (b, after) := { b with fostering := true }.inBody token
  ({ b with fostering := false }, after)

/-- A start tag in a table. -/
def startInTable (b : Builder) (tag : Tag) : Builder × After :=
  let toTable := b.popBefore endsTableScope
  match tag.name with
  | "caption" => ((toTable.mark.openHtml tag.name).expecting .caption).done
  | "colgroup" => ((toTable.openHtml tag.name).expecting .columnGroup).done
  | "col" => (toTable.openHtml "colgroup").again .columnGroup
  | "tbody" | "tfoot" | "thead" => ((toTable.openHtml tag.name).expecting .tableBody).done
  | "td" | "th" | "tr" => (toTable.openHtml "tbody").again .tableBody
  | "table" =>
    if b.hasInTable "table" then ((b.popNamed "table").reset, .again) else b.done
  | "style" | "script" | "template" => (b.inHead? (.startTag tag)).getD b.done
  | "input" =>
    if (tag.attributes.lookup "type").any fun v => v.toList.map Char.toLower = "hidden".toList then
      (b.insertClosed .html tag.name).done
    else b.misplaced (.startTag tag)
  | "form" =>
    if b.inTemplate ∨ b.form.isSome then b.done
    else { b.insertClosed .html tag.name with form := some b.tree.size }.done
  | _ => b.misplaced (.startTag tag)

/-- An end tag in a table. -/
def endInTable (b : Builder) (tag : Tag) : Builder × After :=
  match tag.name with
  | "table" => (if b.hasInTable "table" then (b.popNamed "table").reset else b).done
  | "body" | "caption" | "col" | "colgroup" | "html" | "tbody" | "td" | "tfoot" | "th" | "thead"
  | "tr" => b.done
  | "template" => b.closeTemplate.done
  | _ => b.misplaced (.endTag tag)

/-- A token in a table. -/
def inTable (b : Builder) (token : Token) : Builder × After :=
  match token with
  | .char _ | .null =>
    if b.current.among tableParts then { b with resume := b.insertion }.again .tableText
    else b.misplaced token
  | .startTag tag => b.startInTable tag
  | .endTag tag => b.endInTable tag
  | .comment | .trifle => b.done

/-- Whether a character is blank in a table. -/
def isTableBlank (c : Char) : Bool := isSpace c || c = '\r'

/-- Places the text of a table: blanks where they are, other text in front. -/
def flushTableText (b : Builder) : Builder :=
  let chars := b.tableText.reverse
  let b := { b with tableText := [] }
  if chars.all isTableBlank then chars.foldl insertChar b
  else chars.foldl (fun b c => (b.misplaced (.char c)).1) b

/-- A token behind text of a table. -/
def inTableText (b : Builder) : Token → Builder × After
  | .null => b.done
  | .char c => { b with tableText := c :: b.tableText }.done
  | _ => b.flushTableText.again b.resume

def closeCaption (b : Builder) : Builder :=
  (((b.implyEnds impliedEnds).popNamed "caption").clearToMarker).expecting .table

/-- A token in a caption. -/
def inCaption (b : Builder) (token : Token) : Builder × After :=
  match token with
  | .startTag tag =>
    if ["caption", "col", "colgroup", "tbody", "td", "tfoot", "th", "thead", "tr"].contains
        tag.name then
      if b.hasInTable "caption" then b.closeCaption.again .table else b.done
    else b.inBody token
  | .endTag tag =>
    if tag.name = "caption" then
      (if b.hasInTable "caption" then b.closeCaption else b).done
    else if tag.name = "table" then
      if b.hasInTable "caption" then b.closeCaption.again .table else b.done
    else if ["body", "col", "colgroup", "html", "tbody", "td", "tfoot", "th", "thead",
        "tr"].contains tag.name then b.done
    else b.inBody token
  | _ => b.inBody token

/-- A token that ends a group of columns. -/
def leaveColumnGroup (b : Builder) : Builder × After :=
  if b.current.named "colgroup" then b.pop.again .table else b.done

/-- A token in a group of columns. -/
def inColumnGroup (b : Builder) (token : Token) : Builder × After :=
  match token with
  | .char c => if isTableBlank c then (b.insertChar c).done else b.leaveColumnGroup
  | .comment | .trifle => b.done
  | .startTag tag => match tag.name with
    | "html" => b.done
    | "col" => (b.insertClosed .html "col").done
    | "template" => (b.inHead? token).getD b.done
    | _ => b.leaveColumnGroup
  | .endTag tag => match tag.name with
    | "colgroup" =>
      (if b.current.named "colgroup" then b.pop.expecting .table else b).done
    | "col" => b.done
    | "template" => b.closeTemplate.done
    | _ => b.leaveColumnGroup
  | .null => b.leaveColumnGroup

/-- Where the rows of a table are. -/
def isBodyContext (e : OpenElement) : Bool :=
  e.among ["tbody", "tfoot", "thead", "template", "html"]

/-- Where the cells of a table are. -/
def isRowContext (e : OpenElement) : Bool := e.among ["tr", "template", "html"]

def closeTableBody (b : Builder) : Builder := (b.popBefore isBodyContext).pop

def closeRow (b : Builder) : Builder := (b.popBefore isRowContext).pop

/-- A token that ends the rows of a table. -/
def leaveTableBody (b : Builder) : Builder × After :=
  if inScope endsTableScope (·.among ["table", "tbody", "tfoot"]) b.stack then
    b.closeTableBody.again .table
  else b.done

/-- A token among the rows of a table. -/
def inTableBody (b : Builder) (token : Token) : Builder × After :=
  match token with
  | .startTag tag => match tag.name with
    | "tr" => (((b.popBefore isBodyContext).openHtml "tr").expecting .row).done
    | "th" | "td" => ((b.popBefore isBodyContext).openHtml "tr").again .row
    | "caption" | "col" | "colgroup" | "tbody" | "tfoot" | "thead" => b.leaveTableBody
    | _ => b.inTable token
  | .endTag tag => match tag.name with
    | "tbody" | "tfoot" | "thead" =>
      (if b.hasInTable tag.name then b.closeTableBody.expecting .table else b).done
    | "table" => b.leaveTableBody
    | "body" | "caption" | "col" | "colgroup" | "html" | "td" | "th" | "tr" => b.done
    | _ => b.inTable token
  | _ => b.inTable token

/-- A token that ends a row. -/
def leaveRow (b : Builder) : Builder × After :=
  if b.hasInTable "tr" then b.closeRow.again .tableBody else b.done

/-- A token in a row. -/
def inRow (b : Builder) (token : Token) : Builder × After :=
  match token with
  | .startTag tag => match tag.name with
    | "th" | "td" =>
      ((((b.popBefore isRowContext).openHtml tag.name).expecting .cell).mark).done
    | "caption" | "col" | "colgroup" | "tbody" | "tfoot" | "thead" | "tr" => b.leaveRow
    | _ => b.inTable token
  | .endTag tag => match tag.name with
    | "tr" => (if b.hasInTable "tr" then b.closeRow.expecting .tableBody else b).done
    | "table" => b.leaveRow
    | "tbody" | "tfoot" | "thead" => if b.hasInTable tag.name then b.leaveRow else b.done
    | "body" | "caption" | "col" | "colgroup" | "html" | "td" | "th" => b.done
    | _ => b.inTable token
  | _ => b.inTable token

def closeCell (b : Builder) : Builder :=
  ((b.implyEnds impliedEnds).popThrough (·.among ["td", "th"])).clearToMarker

/-- A token in a cell. -/
def inCell (b : Builder) (token : Token) : Builder × After :=
  match token with
  | .startTag tag =>
    if ["caption", "col", "colgroup", "tbody", "td", "tfoot", "th", "thead", "tr"].contains
        tag.name then
      if inScope endsTableScope (·.among ["td", "th"]) b.stack then b.closeCell.again .row
      else b.done
    else b.inBody token
  | .endTag tag => match tag.name with
    | "td" | "th" =>
      (if b.hasInTable tag.name then
        (((b.implyEnds impliedEnds).popNamed tag.name).clearToMarker).expecting .row
      else b).done
    | "body" | "caption" | "col" | "colgroup" | "html" => b.done
    | "table" | "tbody" | "tfoot" | "thead" | "tr" =>
      if b.hasInTable tag.name then b.closeCell.again .row else b.done
    | _ => b.inBody token
  | _ => b.inBody token

/-! ## Selections -/

def hasSelect (b : Builder) : Bool := inScope endsSelectScope (·.named "select") b.stack

def closeSelect (b : Builder) : Builder := (b.popNamed "select").reset

def popIf (b : Builder) (name : String) : Builder := if b.current.named name then b.pop else b

/-- A token in a selection. -/
def inSelect (b : Builder) (token : Token) : Builder × After :=
  match token with
  | .char c => (b.insertChar c).done
  | .null | .comment | .trifle => b.done
  | .startTag tag => match tag.name with
    | "option" => ((b.popIf "option").openHtml tag.name).done
    | "optgroup" => (((b.popIf "option").popIf "optgroup").openHtml tag.name).done
    | "hr" => (((b.popIf "option").popIf "optgroup").insertClosed .html tag.name).done
    | "select" => (if b.hasSelect then b.closeSelect else b).done
    | "input" | "keygen" | "textarea" =>
      if b.hasSelect then (b.closeSelect, .again) else b.done
    | "script" | "template" => (b.inHead? token).getD b.done
    | _ => b.done
  | .endTag tag => match tag.name with
    | "optgroup" =>
      let b := match b.stack with
        | e :: outer :: _ => if e.named "option" ∧ outer.named "optgroup" then b.pop else b
        | _ => b
      (b.popIf "optgroup").done
    | "option" => (b.popIf "option").done
    | "select" => (if b.hasSelect then b.closeSelect else b).done
    | "template" => b.closeTemplate.done
    | _ => b.done

/-- Parts of a table that end a selection in it. -/
def selectEnders : List String := ["caption", "table", "tbody", "tfoot", "thead", "tr", "td", "th"]

/-- A token in a selection in a table. -/
def inSelectInTable (b : Builder) (token : Token) : Builder × After :=
  match token with
  | .startTag tag =>
    if selectEnders.contains tag.name then (b.closeSelect, .again) else b.inSelect token
  | .endTag tag =>
    if selectEnders.contains tag.name then
      if b.hasInTable tag.name then (b.closeSelect, .again) else b.done
    else b.inSelect token
  | _ => b.inSelect token

/-! ## Templates -/

/-- Goes on with a template as content of another kind. -/
def templateAs (b : Builder) (insertion : Insertion) : Builder × After :=
  { b with templates := insertion :: b.templates.drop 1 }.again insertion

/-- A token in a template. -/
def inTemplateContent (b : Builder) (token : Token) : Builder × After :=
  match b.inHead? token, token with
  | some result, _ => result
  | none, .startTag tag => match tag.name with
    | "caption" | "colgroup" | "tbody" | "tfoot" | "thead" => b.templateAs .table
    | "col" => b.templateAs .columnGroup
    | "tr" => b.templateAs .tableBody
    | "td" | "th" => b.templateAs .row
    | _ => b.templateAs .body
  | none, .endTag _ => b.done
  | none, _ => b.inBody token

/-! ## Foreign elements -/

/-- A token where the expected content decides. -/
def inExpected (b : Builder) (token : Token) : Builder × After :=
  match b.insertion with
  | .body => b.inBody token
  | .text => b.inText token
  | .table => b.inTable token
  | .tableText => b.inTableText token
  | .caption => b.inCaption token
  | .columnGroup => b.inColumnGroup token
  | .tableBody => b.inTableBody token
  | .row => b.inRow token
  | .cell => b.inCell token
  | .select => b.inSelect token
  | .selectInTable => b.inSelectInTable token
  | .template => b.inTemplateContent token

/-- Whether a token belongs to the foreign element at hand, and not to HTML
inside it. -/
def isForeign (b : Builder) (token : Token) : Bool :=
  let e := b.current
  if e.vocabulary = .html then false
  else match token with
    | .char _ | .null => !e.holdsMathText && !e.holdsHtml
    | .startTag tag =>
      !(e.holdsMathText && !(["mglyph", "malignmark"].contains tag.name)) && !e.holdsHtml &&
        !(e.vocabulary = .mathml && e.name = "annotation-xml" && tag.name = "svg")
    | _ => true

/-- Leaves foreign elements, as far as HTML is concerned. -/
def leaveForeign (b : Builder) (token : Token) : Builder × After :=
  (b.popBefore fun e => e.vocabulary = .html || e.holdsMathText || e.holdsHtml).inExpected token

/-- Whether a start tag ends foreign elements. -/
def breaksOut (tag : Tag) : Bool :=
  breakOut.contains tag.name ||
    (tag.name = "font" &&
      tag.attributes.any fun entry => ["color", "face", "size"].contains entry.1)

/-- What the end tag of a foreign element closes. -/
inductive ForeignEnd where
  /-- An element; what is outside it stays open. -/
  | closes (outer : List OpenElement)
  /-- The rules of HTML decide. -/
  | html
  /-- Nothing. -/
  | nothing

/-- Looks for the element that an end tag closes.  An element of HTML that is
not the innermost one ends the search, and so does the root. -/
def foreignEnd (name : String) (innermost : Bool) : List OpenElement → ForeignEnd
  | [] | [_] => .nothing
  | e :: es =>
    if !innermost && e.vocabulary = .html then .html
    else if e.name = name then .closes es
    else foreignEnd name false es

/-- A token in a foreign element. -/
def inForeign (b : Builder) (token : Token) : Builder × After :=
  match token with
  | .char c => (b.insertChar c).done
  | .null => (b.insertChar Entity.replacement).done
  | .comment | .trifle => b.done
  | .startTag tag =>
    if breaksOut tag then b.leaveForeign token
    else (b.insertForeign b.current.vocabulary tag).done
  | .endTag tag =>
    if tag.name = "br" ∨ tag.name = "p" then b.leaveForeign token
    else match foreignEnd tag.name true b.stack with
      | .closes outer => { b with stack := outer }.done
      | .html => b.inExpected token
      | .nothing => b.done

/-! ## One token -/

/-- Handles a token until nothing is left to be done, at most `fuel` times. -/
def handle : (fuel : Nat) → Builder → Token → Builder × Option Reading
  | 0, b, _ => (b, none)
  | fuel + 1, b, token =>
    match if b.isForeign token then b.inForeign token else b.inExpected token with
    | (b, .done) => (b, none)
    | (b, .read reading) => (b, some reading)
    | (b, .again) => handle fuel b token

/-- How often a token is handled at most: each time something is closed or
another kind of content is expected. -/
def handlings (b : Builder) : Nat := 4 * b.stack.length + 16

/-- Whether a token is dropped: a line feed at the front of some elements, and
what leaves nothing behind. -/
def drops (b : Builder) (token : Token) : Bool :=
  token = .trifle || (b.skipLineFeed && token = .char '\n')

/-- Takes a token of the text.  Gives the way in which the text behind it is
read, if that changes. -/
def take (b : Builder) (token : Token) : Builder × Option Reading :=
  let settled := { b with skipLineFeed := false }
  if b.drops token then (settled, none) else handle settled.handlings settled token

def finish (b : Builder) : Builder :=
  if b.insertion = .tableText then b.flushTableText else b

end Builder

end SearchRelay.Html
