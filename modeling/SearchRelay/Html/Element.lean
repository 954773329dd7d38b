import SearchRelay.Html.Token
import SearchRelay.Html.Tree

/-!
# SearchRelay.Html.Element

Open elements, and the classes of element names that the structure of a
document is decided by.
-/

namespace SearchRelay.Html

/-- An element whose end has not been read. -/
structure OpenElement where
  id : Nat
  vocabulary : Namespace
  name : String
  deriving DecidableEq

namespace OpenElement

def named (e : OpenElement) (name : String) : Bool := e.vocabulary = .html && e.name = name

def among (e : OpenElement) (names : List String) : Bool :=
  e.vocabulary = .html && names.contains e.name

def holdsMathText (e : OpenElement) : Bool :=
  e.vocabulary = .mathml && ["mi", "mo", "mn", "ms", "mtext"].contains e.name

def holdsHtml (e : OpenElement) : Bool :=
  e.vocabulary = .svg && ["foreignobject", "desc", "title"].contains e.name

end OpenElement

/-! ## Scopes -/

/-- Where the search for an open element ends. -/
def endsScope (e : OpenElement) : Bool :=
  e.among ["applet", "caption", "html", "table", "td", "th", "marquee", "object", "template"] ||
    e.holdsMathText || e.holdsHtml

/-- Where the search for an open list item ends. -/
def endsListScope (e : OpenElement) : Bool := endsScope e || e.among ["ol", "ul"]

/-- Where the search for an open paragraph ends. -/
def endsButtonScope (e : OpenElement) : Bool := endsScope e || e.named "button"

/-- Where the search for an open part of a table ends. -/
def endsTableScope (e : OpenElement) : Bool := e.among ["html", "table", "template"]

/-- Where the search for an open selection ends. -/
def endsSelectScope (e : OpenElement) : Bool := !e.among ["optgroup", "option"]

/-- Whether an element that satisfies a test is open, with nothing that ends
the scope in front of it. -/
def inScope (ends target : OpenElement → Bool) : List OpenElement → Bool
  | [] => false
  | e :: es => target e || (!ends e && inScope ends target es)

/-! ## Classes of names -/

/-- Elements whose end is implied where the text around them ends. -/
def impliedEnds : List String :=
  ["dd", "dt", "li", "option", "optgroup", "p", "rb", "rp", "rt", "rtc"]

/-- Elements whose end is implied where a template ends. -/
def templateImpliedEnds : List String :=
  impliedEnds ++ ["caption", "colgroup", "tbody", "td", "tfoot", "th", "thead", "tr"]

def headings : List String := ["h1", "h2", "h3", "h4", "h5", "h6"]

/-- Elements that formatting does not reach across. -/
def special : List String := [
  "address", "applet", "area", "article", "aside", "base", "basefont", "bgsound", "blockquote",
  "body", "br", "button", "caption", "center", "col", "colgroup", "dd", "details", "dir", "div",
  "dl", "dt", "embed", "fieldset", "figcaption", "figure", "footer", "form", "frame", "frameset",
  "h1", "h2", "h3", "h4", "h5", "h6", "head", "header", "hgroup", "hr", "html", "iframe", "img",
  "input", "isindex", "li", "link", "listing", "main", "marquee", "menu", "meta", "nav",
  "noembed", "noframes", "noscript", "object", "ol", "p", "param", "plaintext", "pre", "script",
  "section", "select", "source", "style", "summary", "table", "tbody", "td", "template",
  "textarea", "tfoot", "th", "thead", "title", "tr", "track", "ul", "wbr", "xmp"]

/-- Elements that close an open paragraph and hold anything. -/
def blocks : List String := [
  "address", "article", "aside", "blockquote", "center", "details", "dialog", "dir", "div", "dl",
  "fieldset", "figcaption", "figure", "footer", "header", "hgroup", "main", "menu", "nav", "ol",
  "p", "search", "section", "summary", "ul"]

/-- Elements that the end tag of their name closes together with what is open
in them. -/
def closable : List String := [
  "address", "article", "aside", "blockquote", "button", "center", "details", "dialog", "dir",
  "div", "dl", "fieldset", "figcaption", "figure", "footer", "header", "hgroup", "listing",
  "main", "menu", "nav", "ol", "pre", "search", "section", "summary", "ul"]

def formattingNames : List String :=
  ["b", "big", "code", "em", "font", "i", "s", "small", "strike", "strong", "tt", "u"]

/-- Elements in which text of a table does not belong. -/
def tableParts : List String := ["table", "tbody", "tfoot", "thead", "tr"]

/-- Start tags that end foreign elements. -/
def breakOut : List String := [
  "b", "big", "blockquote", "body", "br", "center", "code", "dd", "div", "dl", "dt", "em",
  "embed", "h1", "h2", "h3", "h4", "h5", "h6", "head", "hr", "i", "img", "li", "listing", "menu",
  "meta", "nobr", "ol", "p", "pre", "ruby", "s", "small", "span", "strong", "strike", "sub",
  "sup", "table", "tt", "u", "ul", "var"]

end SearchRelay.Html
