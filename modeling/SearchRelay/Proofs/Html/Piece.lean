import SearchRelay.Proofs.Html.Plain

/-!
# SearchRelay.Proofs.Html.Piece

The plain text of markup in pieces: text, and elements that hold text.

1. A `Wrap` is an element that text may stand in.  What is in a script or a style is
   hidden.
2. `Builder.Inside` says that a document under construction stands in such an element.
   The start tag leads into it (`take_start`), characters are written there
   (`take_inside`), and the end tag leads out again (`take_finish`).
3. `reads_pieces` — so pieces are seen one after another, by induction on them.

`plainText_pieces` is what that says of the plain text of the whole.
-/

namespace SearchRelay.Html

open Suggestion (markOpen markClose)

/-! ## pieces -/

/- Not every element may be put around text without changing how the rest is read: the
wraps are those of which the tokenizer and the builder treat start tag, text and end tag
as they stand. Scripts and styles are among them, because their text is dropped. -/

/-- An element that text may stand in. -/
inductive Wrap where
  | em
  | mark
  | script
  | style
  deriving DecidableEq

namespace Wrap

def name : Wrap → String
  | .em => "em"
  | .mark => "mark"
  | .script => "script"
  | .style => "style"

def start : Wrap → List Char
  | .em => "<em>".toList
  | .mark => markOpen.toList
  | .script => "<script>".toList
  | .style => "<style>".toList

def finish : Wrap → List Char
  | .em => "</em>".toList
  | .mark => markClose.toList
  | .script => "</script>".toList
  | .style => "</style>".toList

/-- Whether what is in the element is not seen. -/
def hides : Wrap → Bool
  | .em | .mark => false
  | .script | .style => true

def startTag (wrap : Wrap) : Tag where
  name := wrap.name
  attributes := match wrap with
    | .mark => [("class", "highlight")]
    | _ => []
  selfClosing := false

def endTag (wrap : Wrap) : Tag := ⟨wrap.name, [], false⟩

/-- How the text in the element is read, if not as markup. -/
def reading? : Wrap → Option Reading
  | .em | .mark => none
  | .script => some (.script .plain)
  | .style => some (.rawtext "style")

/-- How the text in the element is read. -/
def reading (wrap : Wrap) : Reading := wrap.reading?.getD .data

/-- The formatting that is active in the element. -/
def formatting (id : Nat) : Wrap → List Formatting
  | .em => [.element id em.startTag]
  | .mark | .script | .style => []

/-- The elements that hide their text are among those that are dropped. -/
theorem hides_iff (wrap : Wrap) : wrap.hides = droppedNames.contains wrap.name := by
  cases wrap <;> decide

end Wrap

/-- A piece of markup. -/
inductive Piece where
  | plain (text : List Char)
  | wrapped (wrap : Wrap) (text : List Char)

namespace Piece

/-- The text of a piece, without its tags. -/
def text : Piece → List Char
  | .plain text => text
  | .wrapped _ text => text

/-- The markup of a piece. -/
def markup : Piece → List Char
  | .plain text => text
  | .wrapped wrap text => wrap.start ++ (text ++ wrap.finish)

/-- What is seen of a piece. -/
def seen : Piece → List Char
  | .plain text => text
  | .wrapped wrap text => if wrap.hides then [] else text

/-- Two pieces differ in hidden text only. -/
inductive Alike : Piece → Piece → Prop where
  | same (piece : Piece) : Alike piece piece
  | hidden {wrap : Wrap} (h : wrap.hides = true) (text other : List Char) :
      Alike (.wrapped wrap text) (.wrapped wrap other)

/-- Pieces that differ in hidden text only are seen alike. -/
theorem seen_eq_of_alike {piece other : Piece} (h : Alike piece other) :
    other.seen = piece.seen := by
  cases h with
  | same => rfl
  | hidden hhides => rw [seen, seen, if_pos hhides, if_pos hhides]

/-- So are lists of them. -/
theorem flatMap_seen_of_alike {pieces others : List Piece} (h : List.Forall₂ Alike pieces others) :
    others.flatMap seen = pieces.flatMap seen := by
  induction h with
  | nil => rfl
  | cons hpiece _ ih => rw [List.flatMap_cons, List.flatMap_cons, seen_eq_of_alike hpiece, ih]

end Piece

/-- A text that spells neither tags nor references, and that is read as it stands. -/
def Literal (cs : List Char) : Prop :=
  ∀ c ∈ cs, c ≠ '<' ∧ c ≠ '&' ∧ c ≠ '\r' ∧ c ≠ '\x00' ∧ c ≠ '\ufeff'

instance (cs : List Char) : Decidable (Literal cs) :=
  List.decidableBAll (fun c => c ≠ '<' ∧ c ≠ '&' ∧ c ≠ '\r' ∧ c ≠ '\x00' ∧ c ≠ '\ufeff') cs

theorem Literal.unmarked {cs : List Char} (h : Literal cs) : Unmarked cs :=
  fun c hc => ⟨(h c hc).1, (h c hc).2.1⟩

theorem Literal.filter_eq {cs : List Char} (h : Literal cs) : cs.filter (· ≠ '\x00') = cs :=
  List.filter_eq_self.mpr fun c hc => by simpa using (h c hc).2.2.2.1

/-! ## tokens -/

section

variable (wrap : Wrap)

/-- A start tag is one token. -/
theorem next_start (rest : List Char) :
    next .data false (wrap.start ++ rest) = ⟨[.startTag wrap.startTag], .data, rest⟩ := by
  cases wrap <;> rfl

/-- In whatever way the text in an element is read, its end tag is one token. -/
theorem next_finish (rest : List Char) :
    next wrap.reading false (wrap.finish ++ rest) = ⟨[.endTag wrap.endTag], .data, rest⟩ := by
  cases wrap <;> rfl

/-- A character in an element is read as such, in whatever way it is read. -/
theorem next_inside {c : Char} (hc : c ≠ '<' ∧ c ≠ '&' ∧ c ≠ '\x00') (cs : List Char) :
    next wrap.reading false (c :: cs) = ⟨[.char c], wrap.reading, cs⟩ := by
  obtain ⟨htag, hreference, hnull⟩ := hc
  have hchar : charToken c = .char c := if_neg hnull
  have htext : textToken c = .char c := congrArg Token.char (if_neg hnull)
  have hnone : ∀ name, endTagStep? name (c :: cs) = none := by
    intro name
    unfold endTagStep?
    split
    · next heq => exact absurd (List.cons.inj heq).1 htag
    · rfl
  cases wrap with
  | em | mark =>
      rw [← hchar]
      exact next_char ⟨htag, hreference⟩ cs
  | script =>
      rw [← htext]
      show scriptStep .plain c cs = _
      unfold scriptStep
      simp only [hnone]
      split
      · contradiction
      · contradiction
      · rfl
  | style =>
      rw [← htext]
      show (endTagStep? "style" (c :: cs)).getD _ = _
      rw [hnone]
      rfl

theorem length_start_pos : 0 < wrap.start.length := by
  cases wrap <;> decide

theorem length_finish_pos : 0 < wrap.finish.length := by
  cases wrap <;> decide

end

/-! ## the document under construction -/

/- The invariant inside an element tells where the next token goes: the element is on
top of the stack, it is the only active formatting if it is formatting at all, and what
stands in front of it is settled. The end tag gives back what was there outside. -/

namespace Builder

variable {b : Builder} {wrap : Wrap} {before text : List Char}

/-- The document that was read up to a place in an element: behind the text in front of
it, and behind a text in it. -/
structure Inside (b : Builder) (wrap : Wrap) (before text : List Char) : Prop where
  insertion : b.insertion = if wrap.hides then .text else .body
  resume : wrap.hides = true → b.resume = .body
  skipLineFeed : b.skipLineFeed = false
  fostering : b.fostering = false
  element : ∃ id, b.stack = [⟨id, .html, wrap.name⟩, rootElement] ∧
    b.formatting = wrap.formatting id ∧ b.tree.Opened id wrap.name before text

/-- The element is one of HTML. -/
theorem Inside.vocabulary (h : b.Inside wrap before text) : b.current.vocabulary = .html := by
  obtain ⟨id, hstack, -⟩ := h.element
  rw [current_eq hstack]

/-- The formatting that is active is open, so that none has to be opened again. -/
theorem Inside.reconstruct (h : b.Inside wrap before text) : b.reconstruct = b := by
  obtain ⟨id, hstack, hformatting, -⟩ := h.element
  have hsettled : b.formatting.takeWhile (fun entry => !b.settled entry) = [] := by
    rw [hformatting]
    cases wrap <;> simp [Wrap.formatting, settled, isOpen, hstack]
  rw [Builder.reconstruct, hsettled]
  rfl

/-- What the start tag of an element makes of a document that stands outside. -/
def entered (b : Builder) (wrap : Wrap) : Builder :=
  { b with
    tree := b.tree.add 0 (.element .html wrap.name)
    stack := [⟨b.tree.size, .html, wrap.name⟩, rootElement]
    formatting := wrap.formatting b.tree.size
    insertion := if wrap.hides then .text else .body
    resume := if wrap.hides then .body else b.resume }

/-- Outside all elements a new one is opened below the root. -/
theorem openHtml_eq (h : b.At (.outside before)) (name : String) :
    b.openHtml name = { b with
      tree := b.tree.add 0 (.element .html name)
      stack := [⟨b.tree.size, .html, name⟩, rootElement] } := by
  obtain ⟨hidle, hstack, -⟩ := h
  rw [openHtml, insertOpen, insertClosed, insert_of_idle hidle, current_eq hstack, push, hstack]
  rfl

/-- With no formatting active, that of a start tag is the only one. -/
theorem openFormatting_eq (h : b.At (.outside before)) (tag : Tag) :
    b.openFormatting tag = { b.openHtml tag.name with
      formatting := [.element b.tree.size tag] } := by
  have hnone : b.unshielded.filter (Formatting.isLike tag) = [] := by
    rw [unshielded, h.idle.formatting]
    rfl
  have hrest : (b.openHtml tag.name).formatting = [] := by
    rw [openHtml_eq h]
    exact h.idle.formatting
  have hfew : ¬ mostAlike ≤ ([] : List Formatting).length := by decide
  rw [openFormatting, hnone]
  simp only [if_neg hfew, hrest]

/-- What a start tag does outside all elements. -/
theorem inBody_start (h : b.At (.outside before)) (wrap : Wrap) :
    b.inBody (.startTag wrap.startTag) = (b.entered wrap, wrap.reading?.elim .done .read) := by
  have hopened := openHtml_eq h
  have hreconstruct := reconstruct_of_idle h.idle
  have hformatting := h.idle.formatting
  have hinsertion := h.idle.insertion
  cases wrap with
  | em =>
      have hstart : b.startInBody Wrap.em.startTag =
          (b.reconstruct.openFormatting Wrap.em.startTag).done := rfl
      show b.startInBody Wrap.em.startTag = _
      rw [hstart, hreconstruct, openFormatting_eq h, hopened]
      simp [done, entered, Wrap.reading?, Wrap.formatting, Wrap.hides, Wrap.startTag, Wrap.name,
        hinsertion]
  | mark =>
      have hstart : b.startInBody Wrap.mark.startTag =
          (b.reconstruct.openHtml "mark").done := rfl
      show b.startInBody Wrap.mark.startTag = _
      rw [hstart, hreconstruct, hopened]
      simp [done, entered, Wrap.reading?, Wrap.formatting, Wrap.hides, Wrap.name, hinsertion,
        hformatting]
  | script =>
      show b.openText "script" (.script .plain) = _
      rw [openText, hopened, hinsertion]
      simp [entered, Wrap.reading?, Wrap.formatting, Wrap.hides, Wrap.name, hformatting]
  | style =>
      show b.openText "style" (.rawtext "style") = _
      rw [openText, hopened, hinsertion]
      simp [entered, Wrap.reading?, Wrap.formatting, Wrap.hides, Wrap.name, hformatting]

/-- The start tag leads into an element. -/
theorem take_start (h : b.At (.outside before)) (wrap : Wrap) :
    b.take (.startTag wrap.startTag) = (b.entered wrap, wrap.reading?) ∧
      (b.entered wrap).Inside wrap before [] := by
  obtain ⟨hidle, hstack, hclosed⟩ := id h
  constructor
  · refine take_eq hidle.skipLineFeed h.vocabulary (by simp) ?_
    rw [inExpected, hidle.insertion]
    exact inBody_start h wrap
  · exact {
      insertion := rfl
      resume := fun hhides => if_pos hhides
      skipLineFeed := hidle.skipLineFeed
      fostering := hidle.fostering
      element := ⟨b.tree.size, rfl, rfl, hclosed.add_element wrap.name⟩ }

/-- A character is written in the element. -/
theorem take_inside (h : b.Inside wrap before text) (c : Char) :
    ∃ after, b.take (.char c) = (after, none) ∧ after.Inside wrap before (text ++ [c]) := by
  obtain ⟨id, hstack, hformatting, hopened⟩ := h.element
  have hinsert : b.insertChar c = { b with tree := b.tree.add id (.text c) } := by
    rw [insertChar, insert_eq h.fostering, current_eq hstack]
  refine ⟨b.insertChar c, take_eq h.skipLineFeed h.vocabulary (by simp) ?_, ?_⟩
  · have hbody : b.inBody (.char c) = (b.reconstruct.insertChar c).done := rfl
    have htext : b.inText (.char c) = (b.insertChar c).done := rfl
    rw [inExpected, h.insertion]
    cases wrap.hides with
    | true => exact htext
    | false => rw [h.reconstruct] at hbody; exact hbody
  · rw [hinsert]
    exact {
      insertion := h.insertion
      resume := h.resume
      skipLineFeed := h.skipLineFeed
      fostering := h.fostering
      element := ⟨id, hstack, hformatting, hopened.add_char c⟩ }

/-- The end tag of formatting that is the only one leaves none. -/
theorem closeFormatting_eq {id : Nat} (tag : Tag)
    (hstack : b.stack = [⟨id, .html, tag.name⟩, rootElement])
    (hformatting : b.formatting = [.element id tag]) :
    b.closeFormatting tag.name = { b with stack := [rootElement], formatting := [] } := by
  have hactive : b.formatting.any (Formatting.isFor b.current.id) = true := by
    rw [current_eq hstack, hformatting]
    simp [Formatting.isFor]
  have hrounds : mostRounds = 7 + 1 := rfl
  rw [closeFormatting, if_neg fun h => h.2 hactive, hrounds]
  simp [closeFormattingRounds, unshielded, hformatting, isOpen, hstack, inScope, partsAround,
    around?, dropFormatting, Formatting.isFor]

/-- The end tag leads out of the element. -/
theorem take_finish (h : b.Inside wrap before text) :
    ∃ after, b.take (.endTag wrap.endTag) = (after, none) ∧
      after.At (.outside (before ++ if wrap.hides then [] else text)) := by
  obtain ⟨id, hstack, hformatting, hopened⟩ := h.element
  have hclosed := hopened.closed_of_name
  rw [← wrap.hides_iff] at hclosed
  refine ⟨{ b with stack := [rootElement], formatting := [], insertion := .body }, ?_,
    ⟨rfl, rfl, h.skipLineFeed, h.fostering⟩, rfl, hclosed⟩
  refine take_eq h.skipLineFeed h.vocabulary (by simp) ?_
  rw [inExpected, h.insertion]
  cases wrap with
  | em =>
      have hinsertion : b.insertion = .body := h.insertion
      have hend : b.inBody (.endTag Wrap.em.endTag) =
          (b.closeFormatting Wrap.em.startTag.name).done := rfl
      show b.inBody (.endTag Wrap.em.endTag) = _
      rw [hend, closeFormatting_eq Wrap.em.startTag hstack hformatting, ← hinsertion]
      rfl
  | mark =>
      have hinsertion : b.insertion = .body := h.insertion
      have hnone : b.formatting = [] := hformatting
      have hend : b.inBody (.endTag Wrap.mark.endTag) = (b.closeNamed "mark").done := rfl
      have hnamed : b.closeNamed "mark" = { b with stack := [rootElement] } := by
        rw [closeNamed, hstack]
        rfl
      show b.inBody (.endTag Wrap.mark.endTag) = _
      rw [hend, hnamed, ← hinsertion, ← hnone]
      rfl
  | script | style =>
      have hend : ∀ tag, b.inText (.endTag tag) = (b.pop.expecting b.resume).done := fun _ => rfl
      show b.inText _ = _
      have hnone : b.formatting = [] := hformatting
      rw [hend, pop, hstack, h.resume rfl, ← hnone]
      rfl

end Builder

/-! ## the text -/

/- The induction is on the pieces. What a piece needs of the document is that nothing is
open in it, and that is what it leaves behind. -/

section

variable {b : Builder} {wrap : Wrap} {before text : List Char}

/-- Characters in an element are written one by one. -/
theorem reads_inside {cs rest seen : List Char} (hcs : Literal cs)
    (h : b.Inside wrap before text)
    (hrest : ∀ after : Builder, after.Inside wrap before (text ++ cs) →
      Reads after wrap.reading rest seen) :
    Reads b wrap.reading (cs ++ rest) seen := by
  induction cs generalizing b text with
  | nil => exact hrest b (by rwa [List.append_nil])
  | cons c cs ih =>
      obtain ⟨hc, hcs⟩ := List.forall_mem_cons.mp hcs
      obtain ⟨after, htake, hafter⟩ := Builder.take_inside h c
      have hnext := next_inside wrap ⟨hc.1, hc.2.1, hc.2.2.2.1⟩ (cs ++ rest)
      refine reads_of_next h.vocabulary hnext (by simp) htake ?_
      refine ih hcs hafter fun last hlast => hrest last ?_
      rwa [List.append_assoc, List.singleton_append] at hlast

/-- An element is seen as its text, or not at all. -/
theorem reads_wrapped {cs rest seen : List Char} (hcs : Literal cs)
    (h : b.At (.outside before))
    (hrest : ∀ after : Builder, after.At (.outside (before ++ if wrap.hides then [] else cs)) →
      Reads after .data rest seen) :
    Reads b .data (wrap.start ++ (cs ++ (wrap.finish ++ rest))) seen := by
  obtain ⟨htake, hinside⟩ := Builder.take_start h wrap
  refine reads_of_next h.vocabulary (next_start wrap _) (length_lt_append (length_start_pos wrap) _)
    htake ?_
  refine reads_inside hcs hinside fun filled hfilled => ?_
  obtain ⟨after, htake, hafter⟩ := Builder.take_finish hfilled
  exact reads_of_next hfilled.vocabulary (next_finish wrap _)
    (length_lt_append (length_finish_pos wrap) _) htake (hrest after hafter)

/-- Pieces are seen one after another. -/
theorem reads_pieces {pieces : List Piece} (hpieces : ∀ piece ∈ pieces, Literal piece.text)
    (h : b.At (.outside before)) :
    Reads b .data (pieces.flatMap Piece.markup) (before ++ pieces.flatMap Piece.seen) := by
  induction pieces generalizing b before with
  | nil =>
      rw [List.flatMap_nil, List.flatMap_nil, List.append_nil]
      exact yields_nil h
  | cons piece pieces ih =>
      obtain ⟨hpiece, hrest⟩ := List.forall_mem_cons.mp hpieces
      rw [List.flatMap_cons, List.flatMap_cons, ← List.append_assoc]
      cases piece with
      | plain cs =>
          refine yields_text hpiece.unmarked h fun after hafter => ih hrest ?_
          have hcs : cs.filter (· ≠ '\x00') = cs := hpiece.filter_eq
          rw [Piece.markup, hcs] at hafter
          exact hafter
      | wrapped wrap cs =>
          rw [Piece.markup, List.append_assoc, List.append_assoc]
          exact reads_wrapped hpiece h fun after hafter => ih hrest hafter

end

/-! ## the whole -/

/-- Nothing in the tags of an element is dropped or changed before they are read. -/
theorem Wrap.mem_tags (wrap : Wrap) :
    ∀ c ∈ wrap.start ++ wrap.finish, c ≠ '\r' ∧ c ≠ '\x00' ∧ c ≠ '\ufeff' := by
  have hall : (wrap.start ++ wrap.finish).all
      (fun c => c ≠ '\r' ∧ c ≠ '\x00' ∧ c ≠ '\ufeff') = true := by
    cases wrap <;> decide
  exact fun c hc => of_decide_eq_true (List.all_eq_true.mp hall c hc)

/-- Markup holds no characters that the preparation of a text would change. -/
theorem Piece.mem_markup {piece : Piece} (h : Literal piece.text) :
    ∀ c ∈ piece.markup, c ≠ '\r' ∧ c ≠ '\x00' ∧ c ≠ '\ufeff' := by
  have htext : ∀ c ∈ piece.text, c ≠ '\r' ∧ c ≠ '\x00' ∧ c ≠ '\ufeff' :=
    fun c hc => (h c hc).2.2
  cases piece with
  | plain cs => exact htext
  | wrapped wrap cs =>
      intro c hc
      have htags := wrap.mem_tags c
      simp only [Piece.markup, List.mem_append] at hc htags
      rcases hc with hc | hc | hc
      · exact htags (.inl hc)
      · exact htext c hc
      · exact htags (.inr hc)

section

variable {pieces : List Piece}

theorem mem_markup_pieces (hpieces : ∀ piece ∈ pieces, Literal piece.text) :
    '\r' ∉ pieces.flatMap Piece.markup ∧ '\x00' ∉ pieces.flatMap Piece.markup ∧
      '\ufeff' ∉ pieces.flatMap Piece.markup := by
  have hmem : ∀ c ∈ pieces.flatMap Piece.markup, c ≠ '\r' ∧ c ≠ '\x00' ∧ c ≠ '\ufeff' := by
    intro c hc
    obtain ⟨piece, hpiece, hc⟩ := List.mem_flatMap.mp hc
    exact Piece.mem_markup (hpieces piece hpiece) c hc
  exact ⟨fun h => (hmem _ h).1 rfl, fun h => (hmem _ h).2.1 rfl, fun h => (hmem _ h).2.2 rfl⟩

/-- Such a text is read as it stands. -/
theorem prepare_of_notMem {cs : List Char} (hreturn : '\r' ∉ cs) (hmark : '\ufeff' ∉ cs) :
    prepare cs = cs := by
  have hlines := normalizeLines_append_of_notMem hreturn []
  rw [List.append_nil] at hlines
  rw [prepare_eq, withoutMark_of_head? fun hhead => hmark (List.mem_of_head? hhead), hlines,
    normalizeLines, List.append_nil]

/-- What the document of pieces shows. -/
theorem parsedText_pieces (hpieces : ∀ piece ∈ pieces, Literal piece.text) :
    parsedText (pieces.flatMap Piece.markup) = pieces.flatMap Piece.seen := by
  obtain ⟨hreturn, -, hmark⟩ := mem_markup_pieces hpieces
  have hreads := reads_pieces hpieces Builder.at_initial
  rw [List.nil_append] at hreads
  rw [parsedText, document, prepare_of_notMem hreturn hmark]
  exact (hreads _ (Nat.le_refl _)).visible

/-- The plain text of pieces is what is seen of them, also if it is not read as a
document. -/
theorem plainText_markup (hpieces : ∀ piece ∈ pieces, Literal piece.text) :
    plainText (String.ofList (pieces.flatMap Piece.markup)) =
      String.ofList (pieces.flatMap Piece.seen) := by
  obtain ⟨hreturn, hnull, hmark⟩ := mem_markup_pieces hpieces
  rw [plainText, String.toList_ofList, ← parsedText_pieces hpieces]
  split
  · next hplain =>
    have hread := readText_withoutMark_eq_self_iff.mpr
      ⟨hreturn, hnull, fun hhead => hmark (List.mem_of_head? hhead)⟩
    rw [parsedText_of_unmarked (isPlain_iff.mp hplain), hread]
  · rfl

/-- **Highlighted text**: the plain text of pieces of markup is that of the pieces outside
scripts and styles, one after another, and does not depend on what is in those. -/
theorem plainText_pieces (hpieces : ∀ piece ∈ pieces, Literal piece.text) :
    plainText (String.ofList (pieces.flatMap Piece.markup)) =
        String.ofList (pieces.flatMap Piece.seen) ∧
      ∀ others : List Piece, (∀ piece ∈ others, Literal piece.text) →
        List.Forall₂ Piece.Alike pieces others →
          plainText (String.ofList (others.flatMap Piece.markup)) =
            plainText (String.ofList (pieces.flatMap Piece.markup)) := by
  refine ⟨plainText_markup hpieces, fun others hothers halike => ?_⟩
  rw [plainText_markup hpieces, plainText_markup hothers, Piece.flatMap_seen_of_alike halike]

end

/-- A text with an emphasized word, a marked one, a script and a style. -/
def phonePieces : List Piece := [
  .plain "Blue ".toList, .wrapped .em "phone".toList, .wrapped .script "hide('--> >');".toList,
  .plain "\n > ".toList, .wrapped .mark "case".toList, .wrapped .style "b > i".toList]

/-- The same text with another script and an empty style. -/
def otherPieces : List Piece := [
  .plain "Blue ".toList, .wrapped .em "phone".toList, .wrapped .script "]]>".toList,
  .plain "\n > ".toList, .wrapped .mark "case".toList, .wrapped .style []]

/-- A text in pieces, with a script and a style in it that are not seen. -/
theorem plainText_pieces_phoneCase :
    (∀ piece ∈ phonePieces, Literal piece.text) ∧ (∀ piece ∈ otherPieces, Literal piece.text) ∧
      List.Forall₂ Piece.Alike phonePieces otherPieces ∧
      plainText (String.ofList (phonePieces.flatMap Piece.markup)) = "Blue phone\n > case" ∧
      plainText (String.ofList (otherPieces.flatMap Piece.markup)) =
        plainText (String.ofList (phonePieces.flatMap Piece.markup)) := by
  have hphone : ∀ piece ∈ phonePieces, Literal piece.text := by decide +kernel
  have hother : ∀ piece ∈ otherPieces, Literal piece.text := by decide +kernel
  have halike : List.Forall₂ Piece.Alike phonePieces otherPieces :=
    .cons (.same _) (.cons (.same _) (.cons (.hidden rfl _ _)
      (.cons (.same _) (.cons (.same _) (.cons (.hidden rfl _ _) .nil)))))
  obtain ⟨hseen, hsame⟩ := plainText_pieces hphone
  exact ⟨hphone, hother, halike, hseen, hsame otherPieces hother halike⟩

end SearchRelay.Html
