import SearchRelay.Text.Split

/-!
# SearchRelay.Text.Table

Tables that are written as text: words with blanks between them, code points
in hexadecimal digits, and a hyphen between code points that belong together.
-/

namespace SearchRelay.Text.Table

/-- The value of a hexadecimal digit; zero for any other character. -/
def digitValue (c : Char) : Nat :=
  if c.isDigit then c.toNat - '0'.toNat
  else if 'a' ≤ c ∧ c ≤ 'f' then c.toNat - 'a'.toNat + 10
  else if 'A' ≤ c ∧ c ≤ 'F' then c.toNat - 'A'.toNat + 10
  else 0

/-- The number that hexadecimal digits write. -/
def number (digits : List Char) : Nat := digits.foldl (fun n c => n * 16 + digitValue c) 0

/-- The code points of a word. -/
def points (word : List Char) : List Nat := (splitBy (· = '-') word).map number

/-- The first and the last code point of a word. -/
def span (word : List Char) : Nat × Nat :=
  let ps := points word
  (ps.headD 0, ps.getLastD 0)

def words (table : String) : List (List Char) := wordsBy Char.isWhitespace table.toList

def pairUp : List (List Char) → List (List Char × List Char)
  | a :: b :: rest => (a, b) :: pairUp rest
  | _ => []

/-- The rows of a table of two columns. -/
def rows (table : String) : List (List Char × List Char) := pairUp (words table)

/-- A range of code points with its entry. -/
structure Entry (α : Type) where
  first : Nat
  last : Nat
  value : α

/-- The rows of a table of ranges. -/
def entries {α : Type} (read : List Char → α) (table : String) : Array (Entry α) :=
  ((rows table).map fun row =>
    let (first, last) := span row.1
    ⟨first, last, read row.2⟩).toArray

/-- The place of the last row between `low` and `high` that begins at or before
a code point. -/
def searchFrom {α : Type} (table : Array (Entry α)) (point : Nat) :
    (fuel low high : Nat) → Option (Entry α)
  | 0, low, _ => table[low]?
  | fuel + 1, low, high =>
    if high ≤ low + 1 then table[low]?
    else
      let middle := (low + high) / 2
      match table[middle]? with
      | some entry =>
        if entry.first ≤ point then searchFrom table point fuel middle high
        else searchFrom table point fuel low middle
      | none => none

/-- The entry of a code point in a table in increasing order. -/
def find? {α : Type} (table : Array (Entry α)) (point : Nat) : Option α :=
  match searchFrom table point table.size 0 table.size with
  | some entry => if entry.first ≤ point ∧ point ≤ entry.last then some entry.value else none
  | none => none

end SearchRelay.Text.Table
