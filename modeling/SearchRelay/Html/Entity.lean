import Std.Data.HashMap
import SearchRelay.Html.Entity.Table
import SearchRelay.Json.Token
import SearchRelay.Text.Table

/-!
# SearchRelay.Html.Entity

Character references.

1. A named reference is the longest name of the table at the front of a text.
   In the value of an attribute a name without its semicolon does not count in
   front of an equals sign, a letter or a digit.
2. A numeric reference may lack its semicolon.  Zero, halves of surrogate pairs
   and numbers beyond the last code point stand for the replacement character,
   and the numbers 128 to 159 for the characters of an old code page.
-/

namespace SearchRelay.Html.Entity

/-- A reference that was read. -/
structure Reference where
  chars : List Char
  rest : List Char
  /-- Whether it lacks its semicolon though it should have one. -/
  unfinished : Bool

/-! ## Numeric references -/

/-- What the numbers from 128 on stand for. -/
def oldCodePage : List Nat := [
  0x20ac, 0x81, 0x201a, 0x192, 0x201e, 0x2026, 0x2020, 0x2021, 0x2c6, 0x2030, 0x160, 0x2039,
  0x152, 0x8d, 0x17d, 0x8f, 0x90, 0x2018, 0x2019, 0x201c, 0x201d, 0x2022, 0x2013, 0x2014, 0x2dc,
  0x2122, 0x161, 0x203a, 0x153, 0x9d, 0x17e, 0x178]

def replacement : Char := '\ufffd'

/-- The character that a number stands for. -/
def ofNumber (n : Nat) : Char :=
  if n = 0 ∨ ¬ n.isValidChar then replacement
  else if 128 ≤ n ∧ n < 160 then Char.ofNat (oldCodePage.getD (n - 128) n)
  else Char.ofNat n

def digit? (hex : Bool) (c : Char) : Option Nat :=
  if hex then Json.hexValue? c else if c.isDigit then some (Json.digitValue c) else none

/-- Reads the digits of a number. -/
def number (hex : Bool) (value : Nat) : List Char → Nat × List Char
  | [] => (value, [])
  | c :: cs => match digit? hex c with
    | some d => number hex (value * (if hex then 16 else 10) + d) cs
    | none => (value, c :: cs)

/-- Reads a number that has at least one digit, and its semicolon. -/
def numeric? (hex : Bool) : List Char → Option Reference
  | [] => none
  | c :: cs =>
    if (digit? hex c).isSome then
      match number hex 0 (c :: cs) with
      | (n, ';' :: rest) => some ⟨[ofNumber n], rest, false⟩
      | (n, rest) => some ⟨[ofNumber n], rest, true⟩
    else none

/-! ## Named references -/

/-- The table as a map. -/
def names : Std.HashMap String (List Char) :=
  Std.HashMap.ofList <| (Text.Table.rows table).map fun row =>
    (String.ofList row.1, (Text.Table.points row.2).map Char.ofNat)

/-- No name without a semicolon is longer. -/
def longestBare : Nat := 6

/-- The longest name without a semicolon among the first `length` characters. -/
def bareName? (cs : List Char) : (length : Nat) → Option (List Char × List Char)
  | 0 => none
  | length + 1 =>
    match names[String.ofList (cs.take (length + 1))]? with
    | some chars => some (chars, cs.drop (length + 1))
    | none => bareName? cs length

/-- Whether a text goes on after a name in a way that makes it no reference in
the value of an attribute. -/
def goesOn : List Char → Bool
  | [] => false
  | c :: _ => c = '=' || c.isAlphanum

/-- Reads a named reference. -/
def named? (inAttribute : Bool) (cs : List Char) : Option Reference :=
  let run := cs.takeWhile Char.isAlphanum
  let finished := match cs.dropWhile Char.isAlphanum with
    | ';' :: rest => (names[String.ofList (run ++ [';'])]?).map fun chars => (chars, rest)
    | _ => none
  match finished with
  | some (chars, rest) => some ⟨chars, rest, false⟩
  | none => match bareName? cs (min run.length longestBare) with
    | some (chars, rest) =>
      if inAttribute ∧ goesOn rest then none else some ⟨chars, rest, true⟩
    | none => none

/-- Reads the reference behind an ampersand. -/
def reference? (inAttribute : Bool) : List Char → Option Reference
  | '#' :: 'x' :: cs | '#' :: 'X' :: cs => numeric? true cs
  | '#' :: cs => numeric? false cs
  | cs => named? inAttribute cs

/-- Replaces the references in the value of an attribute, at most `fuel`
characters and references long. -/
def resolve : (fuel : Nat) → List Char → List Char
  | 0, cs => cs
  | _, [] => []
  | fuel + 1, '&' :: cs => match reference? true cs with
    | some r => r.chars ++ resolve fuel r.rest
    | none => '&' :: resolve fuel cs
  | fuel + 1, c :: cs => c :: resolve fuel cs

end SearchRelay.Html.Entity
