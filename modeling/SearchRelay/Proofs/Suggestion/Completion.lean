import SearchRelay.Proofs.Html.Marked
import SearchRelay.Proofs.Text.Lowercase

/-!
# SearchRelay.Proofs.Suggestion.Completion

The plain text of a completion.

1. Every completion is that of a suggestion at hand (`exists_of_mem_completions`).
2. A completion joins the query and the words added, and marks the words in
   its label (`Completes`, `exists_completes`).  The tags of the mark keep the
   two apart when the label is put into lower case (`lowerChars_marked`).
3. The label is read as HTML, where the texts in it are not escaped
   (`plainText_label`).

`plainText_label_eq_value_iff` — for texts that spell neither tags nor
references this gives the value, unless a character is not text for HTML or a
sigma is final in the label only.
-/

namespace SearchRelay.Suggestion

open Html

/-! ## the completions of a query -/

theorem freshFrom_sublist (seen : List String) (suggestions : List Suggestion) :
    (freshFrom seen suggestions).Sublist suggestions := by
  induction suggestions generalizing seen with
  | nil => exact List.Sublist.refl []
  | cons s rest ih =>
      rw [freshFrom]
      split
      · exact (ih seen).cons s
      · exact (ih (s.label :: seen)).cons_cons s

/-- There are completions only for a query that is not blank. -/
theorem completions_eq (options : SuggestionOptions) (common : Stopwords)
    (suggestions : List Suggestion) :
    completions options common suggestions = [] ∨
      (Text.trim options.value).toList ≠ [] ∧
        completions options common suggestions =
          freshFrom (suggestions.map Suggestion.label) (suggestions.filterMap <|
            completion? (Text.trim options.value) options.maxPredictedWords
              (stopwordsFor options common)) := by
  rw [completions]
  split
  · exact .inl rfl
  · next hquery =>
    refine .inr ⟨fun hnil => hquery (.inl ?_), rfl⟩
    rw [String.isEmpty_iff, ← String.toList_inj, hnil]
    rfl

/-- Every completion is that of a suggestion at hand. -/
theorem exists_of_mem_completions {options : SuggestionOptions} {common : Stopwords}
    {suggestions : List Suggestion} {p : Suggestion}
    (h : p ∈ completions options common suggestions) :
    (Text.trim options.value).toList ≠ [] ∧ ∃ s ∈ suggestions,
      completion? (Text.trim options.value) options.maxPredictedWords
        (stopwordsFor options common) s = some p := by
  rcases completions_eq options common suggestions with hnil | ⟨hquery, heq⟩
  · rw [hnil] at h
    contradiction
  · rw [heq] at h
    exact ⟨hquery, List.mem_filterMap.mp ((freshFrom_sublist _ _).subset h)⟩

/-! ## what a completion is made of -/

/- A completion is the query with words behind it or before it. In the label the words
are marked and the rest is as the query has it; in the value all is in lower case. -/

/-- A completion of a query: words behind it or words before it, with the
words marked in the label.  The last two texts are the query and the words, in
the order in which they stand. -/
inductive Completes (query : String) (p : Suggestion) : (first second : String) → Prop
  | behind (words : String)
      (hlabel : p.label =
        Text.lowercase query ++ markOpen ++ Text.lowercase words ++ markClose)
      (hvalue : p.value = Text.lowercase (query ++ words)) : Completes query p query words
  | before (words : String)
      (hlabel : p.label =
        markOpen ++ Text.lowercase words ++ markClose ++ Text.lowercase query)
      (hvalue : p.value = Text.lowercase (words ++ query)) : Completes query p words query

/-- The brackets of a tag end the context of a sigma. -/
theorem neutral_bracket : Text.Lowercase.Neutral '<' ∧ Text.Lowercase.Neutral '>' := by
  constructor <;> constructor <;> decide +kernel

/-- The tags stay, and keep the texts around them apart. -/
theorem lowerChars_marked (before run behind : List Char) :
    Text.lowerChars (before ++ (markOpen.toList ++ (run ++ (markClose.toList ++ behind)))) =
      Text.lowerChars before ++ (markOpen.toList ++ (Text.lowerChars run ++
        (markClose.toList ++ Text.lowerChars behind))) := by
  have hopen : markOpen.toList = '<' :: ("mark class=\"highlight\"".toList ++ ['>']) := rfl
  have hclose : markClose.toList = '<' :: ("/mark".toList ++ ['>']) := rfl
  simp only [Text.lowerChars]
  rw [Text.Lowercase.lowerFrom_append_tag neutral_bracket.1 neutral_bracket.2 hopen (by decide)
      (by decide +kernel),
    Text.Lowercase.lowerFrom_append_tag neutral_bracket.1 neutral_bracket.2 hclose (by decide)
      (by decide +kernel)]

/-- Words marked behind the query are lowercased on their own. -/
theorem lowercase_behind (query words : String) :
    Text.lowercase (query ++ markOpen ++ words ++ markClose) =
      Text.lowercase query ++ markOpen ++ Text.lowercase words ++ markClose := by
  have hchars := lowerChars_marked query.toList words.toList []
  apply String.toList_injective
  simpa [Text.lowercase, Text.lowerChars, Text.Lowercase.lowerFrom] using hchars

/-- Words marked before the query are lowercased on their own. -/
theorem lowercase_before (query words : String) :
    Text.lowercase (markOpen ++ words ++ markClose ++ query) =
      markOpen ++ Text.lowercase words ++ markClose ++ Text.lowercase query := by
  have hchars := lowerChars_marked [] words.toList query.toList
  apply String.toList_injective
  simpa [Text.lowercase, Text.lowerChars, Text.Lowercase.lowerFrom] using hchars

/-- A completion adds words on one side of the query. -/
theorem completes_of_completion? {query : String} {most : Nat} {stopwords : Option Stopwords}
    {s p : Suggestion} (h : completion? query most stopwords s = some p) :
    ∃ first second, Completes query p first second := by
  obtain ⟨around, _, h⟩ := Option.bind_eq_some_iff.mp h
  obtain ⟨phrase, hphrase, h⟩ := Option.bind_eq_some_iff.mp h
  cases h
  rcases Option.or_eq_some_iff.mp hphrase with hbehind | ⟨_, hbefore⟩
  · obtain ⟨run, _, rfl⟩ := Option.map_eq_some_iff.mp hbehind
    exact ⟨query, joinWords run, .behind _ (lowercase_behind _ _) rfl⟩
  · obtain ⟨run, _, rfl⟩ := Option.map_eq_some_iff.mp hbefore
    exact ⟨joinWords run, query, .before _ (lowercase_before _ _) rfl⟩

/-- Every completion is one of these. -/
theorem exists_completes {options : SuggestionOptions} {common : Stopwords}
    {suggestions : List Suggestion} {p : Suggestion}
    (h : p ∈ completions options common suggestions) :
    ∃ first second, Completes (Text.trim options.value) p first second := by
  obtain ⟨_, s, _, hs⟩ := exists_of_mem_completions h
  exact completes_of_completion? hs

/-! ## its plain text -/

/- The plain text of the label is the label with the tags taken out, unless the query
itself is read as markup. The value was lowercased as a whole, and the parts of the
label one by one, so only the sigma can differ. -/

/-- The texts in a label are read as they stand. -/
theorem plainText_marked {label before run behind : String}
    (hlabel : label = before ++ markOpen ++ run ++ markClose ++ behind)
    (hbefore : Unmarked before.toList) (hrun : Unmarked run.toList)
    (hbehind : Unmarked behind.toList) :
    plainText label = String.ofList (readText (withoutMark before.toList) ++
      readText run.toList ++ readText behind.toList) := by
  have hchars : label.toList = before.toList ++ (markOpen.toList ++ (run.toList ++
      (markClose.toList ++ behind.toList))) := by
    simp [hlabel]
  have hplain : isPlain label.toList = false := by
    rw [hchars]
    simp [isPlain, markOpen]
  rw [plainText, hplain, hchars, parsedText_marked hbefore hrun hbehind]
  rfl

/-- A value is the text of a label up to the two forms of the sigma. -/
structure Alike (value : String) (text : List Char) : Prop where
  length : value.toList.length = text.length
  mem : ∀ c, c ≠ '\u03c3' → c ≠ Text.Lowercase.finalSigma → (c ∈ value.toList ↔ c ∈ text)

/-- Lowercasing in two parts differs in the form of a sigma at most. -/
theorem alike_lowercase_append (first second : String) :
    Alike (Text.lowercase (first ++ second))
      ((Text.lowercase first).toList ++ (Text.lowercase second).toList) where
  length := by simp [Text.lowercase, Text.lowerChars, Text.Lowercase.length_lowerFrom]
  mem c hsmall hfinal := by
    simp [Text.lowercase, Text.lowerChars, Text.Lowercase.mem_lowerFrom_iff hsmall hfinal]

/-- When a value that is alike is the plain text of a label. -/
theorem plainText_eq_iff_of_alike {label value front run behind : String}
    (hlabel : label = front ++ markOpen ++ run ++ markClose ++ behind)
    (halike : Alike value (front.toList ++ run.toList ++ behind.toList))
    (hvalue : Unmarked value.toList) :
    plainText label = value ↔
      '\r' ∉ value.toList ∧ '\x00' ∉ value.toList ∧ label.toList.head? ≠ some '\ufeff' ∧
        value = front ++ run ++ behind := by
  have hunmarked : Unmarked (front.toList ++ run.toList ++ behind.toList) := by
    intro c hc
    constructor
    · rintro rfl
      exact (hvalue '<' ((halike.mem '<' (by decide) (by decide)).mpr hc)).1 rfl
    · rintro rfl
      exact (hvalue '&' ((halike.mem '&' (by decide) (by decide)).mpr hc)).2 rfl
  have hhead : label.toList.head? = some '\ufeff' ↔ front.toList.head? = some '\ufeff' := by
    rw [hlabel]
    cases hfront : front.toList with
    | nil => simp [hfront, markOpen]
    | cons c cs => simp [hfront]
  rw [plainText_marked hlabel (fun c hc => hunmarked c (by simp [hc]))
    (fun c hc => hunmarked c (by simp [hc])) (fun c hc => hunmarked c (by simp [hc])), Ne, hhead]
  have hread := readText_append_eq_iff halike.length (halike.mem '\r' (by decide) (by decide))
    (halike.mem '\x00' (by decide) (by decide))
  have htext : value = front ++ run ++ behind ↔
      value.toList = front.toList ++ run.toList ++ behind.toList := by
    rw [← String.toList_inj]
    simp
  rw [htext, ← hread, ← String.toList_inj, String.toList_ofList]

/-- **The plain text of a completion**: if its value has no character that may
begin a tag or a reference, the plain text of its label is its value if and
only if the value holds neither a carriage return nor U+0000, the label does
not begin with a byte order mark, and query and words have the same lower case
apart and together. -/
theorem plainText_label_eq_value_iff {options : SuggestionOptions} {common : Stopwords}
    {suggestions : List Suggestion} {p : Suggestion}
    (h : p ∈ completions options common suggestions) :
    ∃ first second, Completes (Text.trim options.value) p first second ∧
      (Unmarked p.value.toList → (plainText p.label = p.value ↔
        '\r' ∉ p.value.toList ∧ '\x00' ∉ p.value.toList ∧ p.label.toList.head? ≠ some '\ufeff' ∧
          p.value = Text.lowercase first ++ Text.lowercase second)) := by
  obtain ⟨first, second, hcompletes⟩ := exists_completes h
  refine ⟨first, second, hcompletes, fun hunmarked => ?_⟩
  cases hcompletes with
  | behind _ hlabel hvalue =>
      have halike := alike_lowercase_append (Text.trim options.value) second
      rw [← hvalue] at halike
      have hlabel : p.label = Text.lowercase (Text.trim options.value) ++ markOpen ++
          Text.lowercase second ++ markClose ++ "" := by simpa using hlabel
      simpa using plainText_eq_iff_of_alike hlabel (by simpa using halike) hunmarked
  | before _ hlabel hvalue =>
      have halike := alike_lowercase_append first (Text.trim options.value)
      rw [← hvalue] at halike
      have hlabel : p.label = "" ++ markOpen ++ Text.lowercase first ++ markClose ++
          Text.lowercase (Text.trim options.value) := by simpa using hlabel
      simpa using plainText_eq_iff_of_alike hlabel (by simpa using halike) hunmarked

/-! ## one completion, and six that show something else -/

/-- The completions of a query by one suggestion. -/
def completionsOf (query label : String) : List Suggestion :=
  completions { value := query, predictive := true } Stopwords.english
    [{ value := plainText label, label }]

/-- A completion of `iphone`. -/
def iphoneCase : Suggestion where
  label := "iphone<mark class=\"highlight\"> case</mark>"
  value := "iphone case"

/-- The completion `iphone case`, marked in the label and plain in the value. -/
theorem plainText_label_eq_value_iff_iphone :
    iphoneCase ∈ completionsOf "iphone" "iPhone <em>case</em>" ∧
      Unmarked iphoneCase.value.toList ∧ plainText iphoneCase.label = iphoneCase.value ∧
      ∃ first second, Completes (Text.trim "iphone") iphoneCase first second ∧
        iphoneCase.value = Text.lowercase first ++ Text.lowercase second := by
  have hmem : iphoneCase ∈ completionsOf "iphone" "iPhone <em>case</em>" := by decide +kernel
  have hunmarked : Unmarked iphoneCase.value.toList := by decide
  have hplain : plainText iphoneCase.label = iphoneCase.value := by decide +kernel
  obtain ⟨first, second, hcompletes, hiff⟩ := plainText_label_eq_value_iff hmem
  obtain ⟨_, _, _, htext⟩ := (hiff hunmarked).mp hplain
  exact ⟨hmem, hunmarked, hplain, first, second, hcompletes, htext⟩

/-- The values of these completions, and what their labels show. -/
def shownFor (query label : String) : List (String × String) :=
  (completionsOf query label).map fun p => (p.value, plainText p.label)

/-- Where the texts of a completion spell neither tags nor references, its label shows
what is read of them. -/
theorem shownFor_eq {query label value front run : String}
    (h : (completionsOf query label).map (fun p => (p.value, p.label)) =
      [(value, front ++ markOpen ++ run ++ markClose ++ "")])
    (hfront : Unmarked front.toList) (hrun : Unmarked run.toList) :
    shownFor query label =
      [(value, String.ofList (readText (withoutMark front.toList) ++ readText run.toList))] := by
  have hshown : shownFor query label = ((completionsOf query label).map fun p =>
      (p.value, p.label)).map fun pair => (pair.1, plainText pair.2) := by
    rw [shownFor, List.map_map]
    rfl
  have hnone : readText "".toList = [] := rfl
  have hlabel := @plainText_marked _ front run "" rfl hfront hrun nofun
  rw [hnone, List.append_nil] at hlabel
  rw [hshown, h, List.map_singleton, hlabel]

/-- Words that spell a tag or a reference are read as such; a carriage return,
U+0000 and a byte order mark are no text of HTML; and a sigma in front of the
mark is final there, but not in the value. -/
theorem shownFor_ne_value :
    shownFor "ab" "ab &#60;i>cd" = [("ab <i>cd", "ab cd")] ∧
      shownFor "ab" "ab &#38;#60; cd" = [("ab &#60; cd", "ab < cd")] ∧
      shownFor "ab" "ab c\rd" = [("ab c\rd", "ab c\nd")] ∧
      shownFor "ab" "ab c\x00d" = [("ab c\x00d", "ab cd")] ∧
      shownFor "\ufeffab" "\ufeffab cd" = [("\ufeffab cd", "ab cd")] ∧
      shownFor "ΟΔΟΣ" "ΟΔΟΣΑΒ" = [("οδοσαβ", "οδοςαβ")] := by
  refine ⟨by decide +kernel, by decide +kernel, ?_, ?_, ?_, ?_⟩
  · exact @shownFor_eq _ _ _ "ab" " c\rd" (by decide +kernel) (by decide) (by decide)
  · exact @shownFor_eq _ _ _ "ab" " c\x00d" (by decide +kernel) (by decide) (by decide)
  · exact @shownFor_eq _ _ _ "\ufeffab" " cd" (by decide +kernel) (by decide) (by decide)
  · exact @shownFor_eq _ _ _ "οδος" "αβ" (by decide +kernel) (by decide) (by decide)

end SearchRelay.Suggestion
