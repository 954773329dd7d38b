import SearchRelay.Proofs.Html.Marked

/-!
# SearchRelay.Proofs.Html.Plain

Texts without tags and references, taken as they are and read as HTML.

1. `parsedText_of_unmarked` — such a text is seen with line feeds as its only ends of
   lines, without U+0000, and without the byte order mark at its front.
2. `readText_withoutMark_eq_self_iff` — these are all the ways in which it changes.

`plainText_eq_parsedText_iff` says for which texts the plain text, which is the text
itself where nothing is marked, is the one that the document shows.
-/

namespace SearchRelay.Html

/-- The shortcut is for texts that spell neither tags nor references. -/
theorem isPlain_iff {cs : List Char} : isPlain cs = true ↔ Unmarked cs := by
  simp only [isPlain, Bool.and_eq_true, Bool.not_eq_true', List.contains_eq_mem,
    decide_eq_false_iff_not]
  constructor
  · rintro ⟨htag, hreference⟩ c hc
    exact ⟨fun h => htag (h ▸ hc), fun h => hreference (h ▸ hc)⟩
  · exact fun h => ⟨fun hmem => (h _ hmem).1 rfl, fun hmem => (h _ hmem).2 rfl⟩

/-- The visible text of a text in which nothing is marked. -/
theorem parsedText_of_unmarked {cs : List Char} (h : Unmarked cs) :
    parsedText cs = readText (withoutMark cs) := by
  have hunmarked : Unmarked (normalizeLines (withoutMark cs)) :=
    unmarked_normalizeLines fun c hc => h c (mem_of_mem_withoutMark hc)
  have hyields : Yields .initial (normalizeLines (withoutMark cs)) (readText (withoutMark cs)) := by
    rw [← List.append_nil (normalizeLines (withoutMark cs))]
    exact yields_text hunmarked Builder.at_initial fun b hb => yields_nil hb
  rw [parsedText, document, prepare_eq]
  exact (hyields _ (Nat.le_refl _)).visible

/-- What is read of a text is the text itself if it holds no carriage return and no
U+0000 and begins with no byte order mark. -/
theorem readText_withoutMark_eq_self_iff {cs : List Char} :
    readText (withoutMark cs) = cs ↔
      '\r' ∉ cs ∧ '\x00' ∉ cs ∧ cs.head? ≠ some '\ufeff' := by
  have hnone : readText [] = [] := rfl
  have hiff : readText (withoutMark cs) ++ readText [] ++ readText [] = cs ↔
      '\r' ∉ cs ∧ '\x00' ∉ cs ∧ cs.head? ≠ some '\ufeff' ∧ cs = cs ++ [] ++ [] :=
    readText_append_eq_iff (by simp) (by simp) (by simp)
  simpa [hnone] using hiff

/-- **The shortcut for texts without markup**: the plain text is what the document of a
text shows, unless the text holds no `<` and no `&`, but a carriage return or U+0000, or
begins with a byte order mark. -/
theorem plainText_eq_parsedText_iff (text : String) :
    plainText text = String.ofList (parsedText text.toList) ↔
      (isPlain text.toList = true → '\r' ∉ text.toList ∧ '\x00' ∉ text.toList ∧
        text.toList.head? ≠ some '\ufeff') := by
  rw [plainText]
  split
  · next hplain =>
    rw [parsedText_of_unmarked (isPlain_iff.mp hplain), ← String.toList_inj, String.toList_ofList,
      eq_comm, readText_withoutMark_eq_self_iff]
    exact ⟨fun h _ => h, fun h => h hplain⟩
  · next hmarked => exact iff_of_true rfl fun hplain => absurd hplain hmarked

/-- A text without markup that is read in another way than it stands. -/
theorem plainText_ne_of_readText {text : String} {seen : List Char}
    (hplain : isPlain text.toList = true) (hread : readText (withoutMark text.toList) = seen)
    (hne : text.toList ≠ seen) :
    isPlain text.toList = true ∧ parsedText text.toList = seen ∧
      plainText text ≠ String.ofList (parsedText text.toList) := by
  have hparsed : parsedText text.toList = seen := by
    rw [parsedText_of_unmarked (isPlain_iff.mp hplain), hread]
  have hself : plainText text = text := if_pos hplain
  refine ⟨hplain, hparsed, fun heq => hne ?_⟩
  rw [hself, hparsed] at heq
  rw [heq, String.toList_ofList]

/-- A carriage return, U+0000 and a byte order mark at the front are part of the plain
text of a text without markup, and not of what its document shows. -/
theorem plainText_ne_parsedText :
    (isPlain "a\rb".toList = true ∧ parsedText "a\rb".toList = ['a', '\n', 'b'] ∧
        plainText "a\rb" ≠ String.ofList (parsedText "a\rb".toList)) ∧
      (isPlain "a\x00b".toList = true ∧ parsedText "a\x00b".toList = ['a', 'b'] ∧
        plainText "a\x00b" ≠ String.ofList (parsedText "a\x00b".toList)) ∧
      isPlain "\ufeffab".toList = true ∧ parsedText "\ufeffab".toList = ['a', 'b'] ∧
        plainText "\ufeffab" ≠ String.ofList (parsedText "\ufeffab".toList) :=
  ⟨plainText_ne_of_readText (by decide) (by decide) (by decide),
    plainText_ne_of_readText (by decide) (by decide) (by decide),
    plainText_ne_of_readText (by decide) (by decide) (by decide)⟩

end SearchRelay.Html
