import SearchRelay.Gateway.Settings

/-!
# SearchRelay.Gateway.RuleBook

The rules of the settings, looked up by index and term.

The index has to be the same; of the term neither its case nor the blanks
around it count.
-/

namespace SearchRelay.Gateway

/-- The rules of the settings, in their order. -/
structure RuleBook where
  entries : List RuleSettings

namespace RuleBook

def size (book : RuleBook) : Nat := book.entries.length

def isEmpty (book : RuleBook) : Bool := book.entries.isEmpty

/-- The form in which terms are compared. -/
def termKey (term : String) : String := Text.lowercase (Text.trim term)

def concerns (index term : String) (r : RuleSettings) : Bool :=
  r.index = index && termKey r.term = termKey term

/-- The rules for an index and a term, in their order. -/
def rulesFor (book : RuleBook) (index term : String) : List Rule :=
  (book.entries.filter (concerns index term)).map RuleSettings.rule

end RuleBook

end SearchRelay.Gateway
