import SearchRelay.Text.Table

/-!
# SearchRelay.Toml.Moment

Dates and times: `1979-05-27`, `07:32:00.5`, `1979-05-27T07:32:00-08:00`.

`Moment.text?` checks a spelling and gives the common one: capital letters, at
most nine digits behind the point and no zeros at their end, `+00:00` for no
offset in hours and minutes.
-/

namespace SearchRelay.Toml.Moment

/-- The number that a given count of digits writes, and what follows. -/
def digits? (count : Nat) (cs : List Char) : Option (Nat × List Char) :=
  let front := cs.take count
  if front.length = count ∧ front.all Char.isDigit then
    some (front.foldl (fun n c => n * 10 + Text.Table.digitValue c) 0, cs.drop count)
  else none

def isLeap (year : Nat) : Bool := year % 4 = 0 ∧ (year % 100 ≠ 0 ∨ year % 400 = 0)

/-- The number of days of a month. -/
def daysOf (year month : Nat) : Nat :=
  if month = 2 then if isLeap year then 29 else 28
  else if [4, 6, 9, 11].contains month then 30
  else 31

def two (n : Nat) : List Char := [Nat.digitChar (n / 10), Nat.digitChar (n % 10)]

def four (n : Nat) : List Char := two (n / 100) ++ two (n % 100)

/-- The text of a date in front, and what follows it. -/
def date? (cs : List Char) : Option (List Char × List Char) := do
  let (year, '-' :: rest) ← digits? 4 cs | none
  let (month, '-' :: rest) ← digits? 2 rest | none
  let (day, rest) ← digits? 2 rest
  if 1 ≤ month ∧ month ≤ 12 ∧ 1 ≤ day ∧ day ≤ daysOf year month then
    return (four year ++ '-' :: two month ++ '-' :: two day, rest)
  else none

/-- How many digits of a fraction of a second count. -/
def fractionDigits : Nat := 9

/-- The text of a fraction of a second in front, and what follows it. -/
def fraction? : List Char → Option (List Char × List Char)
  | '.' :: rest =>
    let digits := rest.takeWhile Char.isDigit
    let kept := ((digits.take fractionDigits).reverse.dropWhile (· = '0')).reverse
    if digits.isEmpty then none
    else some (if kept.isEmpty then [] else '.' :: kept, rest.drop digits.length)
  | cs => some ([], cs)

/-- The text of a time in front, and what follows it. -/
def time? (cs : List Char) : Option (List Char × List Char) := do
  let (hour, ':' :: rest) ← digits? 2 cs | none
  let (minute, ':' :: rest) ← digits? 2 rest | none
  let (second, rest) ← digits? 2 rest
  let (fraction, rest) ← fraction? rest
  if hour ≤ 23 ∧ minute ≤ 59 ∧ second ≤ 60 then
    return (two hour ++ ':' :: two minute ++ ':' :: two second ++ fraction, rest)
  else none

/-- The text of an offset. -/
def offset? : List Char → Option (List Char)
  | [] => some []
  | sign :: cs =>
    if cs.isEmpty ∧ (sign = 'Z' ∨ sign = 'z') then some ['Z']
    else if sign = '+' ∨ sign = '-' then do
      let (hour, ':' :: rest) ← digits? 2 cs | none
      let (minute, []) ← digits? 2 rest | none
      if hour ≤ 23 ∧ minute ≤ 59 then
        let shown := if hour = 0 ∧ minute = 0 then '+' else sign
        return shown :: two hour ++ ':' :: two minute
      else none
    else none

/-- Whether a character stands between a date and a time. -/
def isDelimiter (c : Char) : Bool := c = 'T' || c = 't' || c = ' '

/-- The common spelling of a moment. -/
def text? (cs : List Char) : Option (List Char) :=
  match date? cs with
  | some (date, []) => some date
  | some (date, mark :: rest) =>
    if isDelimiter mark then do
      let (time, rest) ← time? rest
      let offset ← offset? rest
      return date ++ 'T' :: time ++ offset
    else none
  | none => match time? cs with
    | some (time, []) => some time
    | _ => none

end SearchRelay.Toml.Moment
