import SearchRelay.Html.Insertion

/-!
# SearchRelay.Html.PlainText

The plain text of markup: what is left of a text when all tags are removed,
references are resolved, and what scripts and the like hold is dropped.

`parsedText` is the definition, by way of the document that the text
describes.  `plainText` takes a text without `<` and `&` as it is.
-/

namespace SearchRelay.Html

/-- Elements whose text is dropped. -/
def droppedNames : List String := ["script", "style", "noscript", "template", "iframe"]

/-- Takes tokens of a text, up to the one that changes how the text behind is
read. -/
def takeAll (b : Builder) (reading : Reading) : List Token → Builder × Reading
  | [] => (b, reading)
  | token :: tokens =>
    let (b, change) := b.take token
    takeAll b (change.getD reading) tokens

/-- Builds the document of a text.  Every step takes a character at least, so
as many steps as there are characters read it all. -/
def build : (fuel : Nat) → Builder → Reading → List Char → Builder
  | 0, b, _, _ => b.finish
  | _, b, _, [] => b.finish
  | fuel + 1, b, reading, cs =>
    let step := next reading (b.current.vocabulary ≠ .html) cs
    let (b, reading) := takeAll b step.reading step.tokens
    build fuel b reading step.rest

def document (cs : List Char) : Builder :=
  let text := prepare cs
  build text.length .initial .data text

/-- The visible text of the document that a text describes. -/
def parsedText (cs : List Char) : List Char :=
  (document cs).tree.visible droppedNames Builder.rootElement.id

/-- Whether a text holds no markup and no references. -/
def isPlain (cs : List Char) : Bool := !cs.contains '<' && !cs.contains '&'

/-- The plain text of markup. -/
def plainText (text : String) : String :=
  if isPlain text.toList then text else String.ofList (parsedText text.toList)

end SearchRelay.Html
