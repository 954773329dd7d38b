import SearchRelay.Json.Printer
import SearchRelay.Toml.Quoted
import SearchRelay.Toml.Value

/-!
# SearchRelay.Toml.Printer

The text of a TOML document.

1. The values of a table come first, one on a line; then come the tables in it
   and the lists of tables, each under headers of its own, with a blank line in
   front.
2. A table has a header if it holds a value of its own or nothing at all; each
   table of a list has one in any case.
3. An array of two or more items has one item on a line, indented by four
   blanks.  Numbers are written without an exponent.
-/

namespace SearchRelay.Toml

namespace Value

/-! ## Values on a line -/

/-- The text of a double, with a point and without an exponent. -/
def doubleText (x : Binary64) : List Char :=
  (if x.negative then ['-'] else []) ++ x.shortest.positional

/-- What stands in front of an item of an array with several items. -/
def indent : List Char := ['\n', ' ', ' ', ' ', ' ']

def keyText (key : String) : List Char := Quoted.writeKey key.toList

mutual

/-- The text of a value. -/
def text : Value → List Char
  | .string s => Quoted.write s.toList
  | .integer i => Json.integerText i
  | .double x => doubleText x
  | .notFinite => ['n', 'a', 'n']
  | .boolean b => if b then ['t', 'r', 'u', 'e'] else ['f', 'a', 'l', 's', 'e']
  | .moment s => s.toList
  | .array [] => ['[', ']']
  | .array [v] => '[' :: (v.text ++ [']'])
  | .array items => '[' :: (itemsText items ++ ['\n', ']'])
  | .table [] => ['\x7b', '\x7d']
  | .table entries => '\x7b' :: (pairsText entries ++ [' ', '\x7d'])

/-- The items of an array with several items. -/
def itemsText : List Value → List Char
  | [] => []
  | v :: vs => indent ++ v.text ++ ',' :: itemsText vs

/-- The entries of a table on a line. -/
def pairsText : List (String × Value) → List Char
  | [] => []
  | [(k, v)] => ' ' :: (keyText k ++ [' ', '=', ' '] ++ v.text)
  | (k, v) :: rest => ' ' :: (keyText k ++ [' ', '=', ' '] ++ v.text ++ ',' :: pairsText rest)

end

/-! ## Tables under headers -/

def isTable : Value → Bool
  | .table _ => true
  | _ => false

/-- Whether a value stands under headers of its own. -/
def hasHeaders : Value → Bool
  | .table _ => true
  | .array items => !items.isEmpty && items.all isTable
  | _ => false

end Value

/-- The header of a block. -/
inductive Header where
  | none
  | table (path : List String)
  | list (path : List String)

/-- A header, and the entries that follow it. -/
structure Block where
  header : Header
  entries : Table

namespace Block

/-- The entries of a table that stand on lines. -/
def plain (entries : Table) : Table := entries.filter fun entry => !entry.2.hasHeaders

mutual

/-- The blocks of a value under a path. -/
def ofValue (path : List String) : Value → List Block
  | .table entries =>
    (if (plain entries).isEmpty ∧ ¬ entries.isEmpty then []
      else [⟨.table path, plain entries⟩]) ++ ofEntries path entries
  | .array items => ofItems path items
  | _ => []

/-- The blocks of the entries of a table. -/
def ofEntries (path : List String) : List (String × Value) → List Block
  | [] => []
  | (key, v) :: rest =>
    (if v.hasHeaders then ofValue (path ++ [key]) v else []) ++ ofEntries path rest

/-- The blocks of a list of tables. -/
def ofItems (path : List String) : List Value → List Block
  | [] => []
  | .table entries :: rest =>
    ⟨.list path, plain entries⟩ :: (ofEntries path entries ++ ofItems path rest)
  | _ :: rest => ofItems path rest

end

/-- The blocks of a document. -/
def ofTable (entries : Table) : List Block :=
  (if (plain entries).isEmpty then [] else [⟨.none, plain entries⟩]) ++ ofEntries [] entries

def pathText (path : List String) : List Char := List.intercalate ['.'] (path.map Value.keyText)

/-- The text of a header. -/
def headerText : Header → List Char
  | .none => []
  | .table path => '[' :: (pathText path ++ [']', '\n'])
  | .list path => '[' :: '[' :: (pathText path ++ [']', ']', '\n'])

def lineText (entry : String × Value) : List Char :=
  Value.keyText entry.1 ++ [' ', '=', ' '] ++ entry.2.text ++ ['\n']

/-- The text of a block. -/
def text (b : Block) : List Char := headerText b.header ++ b.entries.flatMap lineText

end Block

def print (document : Table) : String :=
  String.ofList (List.intercalate ['\n'] ((Block.ofTable document).map Block.text))

end SearchRelay.Toml
