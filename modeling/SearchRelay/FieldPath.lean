import SearchRelay.Json.Basic
import SearchRelay.Text.Fold

/-!
# SearchRelay.FieldPath

Paths into a document.  A path is written as keys joined by dots; its
segments are the pieces between the dots, so a key that holds a dot itself
takes up several segments.

1. `FieldPath.leaves` lists the paths that lead to a value of a document,
   through objects and arrays alike.
2. `FieldPath.candidate?` follows a path to a text.  At every level a key that
   equals all that is left of the path goes before the key of the first
   segment.
-/

namespace SearchRelay

/-- The segments of a path. -/
abbrev FieldPath := List String

namespace FieldPath

/-! ## Written paths -/

/-- The path that a text writes. -/
def ofString (text : String) : FieldPath := (Text.splitBy (· = '.') text.toList).map String.ofList

def written (path : FieldPath) : String := ".".intercalate path

/-! ## The paths of a document -/

/-- The path of a key below a path. -/
def below (path key : String) : String :=
  if path.isEmpty then key else path ++ "." ++ key

mutual

/-- The paths that lead to a value that is neither null nor a container.  An
array adds nothing to the path of its items. -/
def leavesAt (path : String) : Json → List String
  | .null => []
  | .object fields => leavesOfFields path fields
  | .array items => leavesOfItems path items
  | .bool _ | .number _ | .string _ => [path]

def leavesOfFields (path : String) : Json.Fields → List String
  | [] => []
  | (key, v) :: rest => leavesAt (below path key) v ++ leavesOfFields path rest

def leavesOfItems (path : String) : List Json → List String
  | [] => []
  | v :: vs => leavesAt path v ++ leavesOfItems path vs

end

/-- Puts a text into an increasing list, once. -/
def insertOnce (text : String) : List String → List String
  | [] => [text]
  | t :: ts =>
    if text < t then text :: t :: ts
    else if text = t then t :: ts
    else t :: insertOnce text ts

/-- The texts of a list in increasing order, each once. -/
def sortOnce (texts : List String) : List String := texts.foldr insertOnce []

/-- The paths of a document, in increasing order, each once. -/
def leaves (source : Json.Fields) : List String := sortOnce (leavesOfFields "" source)

/-! ## The text at a path -/

/-- The text of an array that suits a query: the first one that contains it,
whatever the case, and else the first one. -/
def narrow? (query : String) (items : List Json) : Option String :=
  let texts := items.filterMap Json.string?
  let needle := Text.lowercase query
  (texts.find? fun t => Text.contains (Text.lowercase t) needle).or texts.head?

/-- The text at the end of a path. -/
def terminal? (query : String) : Json → Option String
  | .string text => some text
  | .array items => narrow? query items
  | _ => none

/-- The text of a field whose key is a whole path; an empty one does not
count. -/
def whole? (query : String) (path : FieldPath) (source : Json.Fields) : Option String :=
  ((source.find? path.written).bind (terminal? query)).filter fun text => !text.isEmpty

/-- The text that a path leads to.  An array on the way stands for the first
of its objects that has a text. -/
def follow? (query : String) : FieldPath → Json.Fields → Option String
  | [], _ => none
  | [key], source => (source.find? key).bind (terminal? query)
  | key :: next :: rest, source =>
    (whole? query (key :: next :: rest) source).or <|
      match source.find? key with
      | some (.object inner) => follow? query (next :: rest) inner
      | some (.array items) => items.findSome? fun
        | .object inner => follow? query (next :: rest) inner
        | _ => none
      | _ => none

/-- The candidate for a label that a field of a document gives. -/
def candidate? (source : Json.Fields) (field query : String) : Option String :=
  follow? query (ofString field) source

end FieldPath

end SearchRelay
