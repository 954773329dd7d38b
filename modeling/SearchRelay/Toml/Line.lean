import SearchRelay.Toml.Scalar
import SearchRelay.Toml.Token
import SearchRelay.Toml.Tree

/-!
# SearchRelay.Toml.Line

The lines of a TOML document: headers of tables, headers of lists, and entries.

Keys and values that nest too deep are refused: a key has fewer than `depthLimit`
parts, and fewer than `depthLimit` arrays and tables stand within each other.
-/

namespace SearchRelay.Toml

/-- The bound on parts of a key and on nested values. -/
def depthLimit : Nat := 80

/-- A key of several parts: those in front, and the last one. -/
structure Key where
  path : List String
  last : String

/-- A line of a document. -/
inductive Line where
  | header (key : Key)
  | listHeader (key : Key)
  | entry (key : Key) (value : Value)

namespace Line

/-! ## Keys -/

/-- A piece of a key. -/
inductive Piece where
  | name (text : String)
  | point

/-- The pieces of a word: names, and the points between them. -/
def piecesOf? (word : List Char) : Option (List Piece) :=
  let names := Text.splitBy (· = '.') word
  if names.all fun name => name.all Quoted.isKeyChar then
    let shown := names.map fun name =>
      if name.isEmpty then [] else [Piece.name (String.ofList name)]
    some (List.intercalate [.point] shown)
  else none

/-- The pieces of a key in front, and the tokens that follow. -/
def pieces? : List Token → Option (List Piece × List Token)
  | .gap _ :: ts => pieces? ts
  | .word cs :: ts => do
    let front ← piecesOf? cs
    let (pieces, rest) ← pieces? ts
    return (front ++ pieces, rest)
  | .text cs several :: ts => do
    let (pieces, rest) ← pieces? ts
    if several then none else return (.name (String.ofList cs) :: pieces, rest)
  | ts => some ([], ts)

/-- The names of pieces, which must have a point between each two. -/
def names? : List Piece → Option (List String)
  | [.name text] => some [text]
  | .name text :: .point :: pieces => (names? pieces).map (text :: ·)
  | _ => none

/-- The key in front, and the tokens that follow. -/
def key? (ts : List Token) : Option (Key × List Token) := do
  let (pieces, rest) ← pieces? ts
  let names ← names? pieces
  let last ← names.getLast?
  if names.length < depthLimit then return (⟨names.dropLast, last⟩, rest) else none

/-! ## Values -/

def skipGaps : List Token → List Token
  | .gap _ :: ts => skipGaps ts
  | ts => ts

/-- The tokens without the gaps and line feeds in front. -/
def skipLines : List Token → List Token
  | .gap _ :: ts | .lineFeed :: ts => skipLines ts
  | ts => ts

mutual

/-- The value in front, and the tokens that follow.  `fuel` is more than twice
the number of tokens, `depth` how deep arrays and tables may still nest. -/
def value? : (fuel depth : Nat) → List Token → Option (Value × List Token)
  | 0, _, _ => none
  | _, _, .text cs _ :: ts => some (.string (String.ofList cs), ts)
  | _, _, .word day :: .gap true :: .word time :: ts =>
    match Scalar.moment? (day ++ ' ' :: time) with
    | some moment => some (moment, ts)
    | none => (Scalar.ofWord? day).map fun v => (v, .gap true :: .word time :: ts)
  | _, _, .word cs :: ts => (Scalar.ofWord? cs).map fun v => (v, ts)
  | fuel + 1, depth + 1, .openBracket :: ts => items? fuel depth [] ts
  | fuel + 1, depth + 1, .openBrace :: ts =>
    match skipGaps ts with
    | .closeBrace :: rest => some (.table [], rest)
    | ts => pairs? fuel depth [] ts
  | _, _, _ => none

/-- The rest of an array whose first items are `done`, the last one first. -/
def items? : (fuel depth : Nat) → (done : List Value) → List Token → Option (Value × List Token)
  | 0, _, _, _ => none
  | fuel + 1, depth, done, ts =>
    match skipLines ts with
    | .closeBracket :: rest => some (.array done.reverse, rest)
    | ts => do
      let (v, rest) ← value? fuel depth ts
      match skipLines rest with
      | .comma :: rest => items? fuel depth (v :: done) rest
      | .closeBracket :: rest => return (.array (v :: done).reverse, rest)
      | _ => none

/-- The rest of a table on one line that holds `done`. -/
def pairs? : (fuel depth : Nat) → (done : Entries) → List Token → Option (Value × List Token)
  | 0, _, _, _ => none
  | fuel + 1, depth, done, ts => do
    let (key, .equals :: rest) ← key? ts | none
    let (v, rest) ← value? fuel depth (skipGaps rest)
    let (_, done) ← Entries.addValue key.path key.last v .header done
    match skipGaps rest with
    | .comma :: rest => pairs? fuel depth done rest
    | .closeBrace :: rest => return (.table (entriesToTable done), rest)
    | _ => none

end

/-! ## Lines -/

/-- The line in front, and the tokens that follow. -/
def line? : List Token → Option (Line × List Token)
  | .openBracket :: .openBracket :: ts => do
    let (key, .closeBracket :: .closeBracket :: rest) ← key? ts | none
    return (.listHeader key, rest)
  | .openBracket :: ts => do
    let (key, .closeBracket :: rest) ← key? ts | none
    return (.header key, rest)
  | ts => do
    let (key, .equals :: rest) ← key? ts | none
    let (v, rest) ← value? (2 * rest.length + 1) (depthLimit - 1) (skipGaps rest)
    return (.entry key v, rest)

/-- The lines of tokens; `fuel` is more than the number of tokens. -/
def lines? : (fuel : Nat) → List Token → Option (List Line)
  | 0, _ => none
  | fuel + 1, ts =>
    match skipLines ts with
    | [] => some []
    | ts => do
      let (line, rest) ← line? ts
      match skipGaps rest with
      | [] => return [line]
      | .lineFeed :: rest => return line :: (← lines? fuel rest)
      | _ => none

end Line

/-! ## Documents -/

/-- A document under way: the current header, and the tables so far. -/
structure Progress where
  current : List String
  entries : Entries

/-- Takes up a line. -/
def Progress.add (p : Progress) : Line → Option Progress
  | .header key => (Entries.openTable key.path key.last .header p.entries).map fun (_, entries) =>
    ⟨key.path ++ [key.last], entries⟩
  | .listHeader key =>
    (Entries.addTable key.path key.last .header p.entries).map fun (_, entries) =>
      ⟨key.path ++ [key.last], entries⟩
  | .entry key v =>
    (Entries.changeAt false (Entries.addValue key.path key.last v) p.current .header
      p.entries).map fun (_, entries) => ⟨p.current, entries⟩

/-- Reads a document. -/
def parse? (text : String) : Option Table := do
  let ts ← tokens? text
  let lines ← Line.lines? (ts.length + 1) ts
  let p ← lines.foldlM Progress.add ⟨[], []⟩
  return entriesToTable p.entries

end SearchRelay.Toml
