import SearchRelay.Text.Quoted.Table

/-!
# SearchRelay.Text.Quoted

Texts quoted for a message.  The quote and the backslash stand behind a
backslash; tab, carriage return, line feed and NUL have a letter; any other
character that does not print by itself, or that would attach to the one
before it, is named by its code point.
-/

namespace SearchRelay.Text

namespace Quoted

/-- Whether a character is shown as itself. -/
def showsItself (c : Char) : Bool :=
  !extenderRanges.covers c && (c == ' ' || !unprintableRanges.covers c)

/-- A character named by its code point. -/
def byPoint (c : Char) : List Char :=
  ['\\', 'u', '{'] ++ Nat.toDigits 16 c.toNat ++ ['}']

/-- The text of one character. -/
def quoteChar (c : Char) : List Char :=
  if c = '"' then ['\\', '"']
  else if c = '\\' then ['\\', '\\']
  else if c = '\t' then ['\\', 't']
  else if c = '\r' then ['\\', 'r']
  else if c = '\n' then ['\\', 'n']
  else if c = '\x00' then ['\\', '0']
  else if showsItself c then [c]
  else byPoint c

end Quoted

def quoted (text : String) : String :=
  String.ofList ('"' :: (text.toList.flatMap Quoted.quoteChar ++ ['"']))

end SearchRelay.Text
