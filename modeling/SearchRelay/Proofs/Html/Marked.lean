import SearchRelay.Proofs.Html.Tree
import SearchRelay.Suggestion.Completion

/-!
# SearchRelay.Proofs.Html.Marked

A text in which a run of words is marked, read as HTML.

1. A `Place` is where the reading stands: outside all elements, or inside one.
   `Builder.At` says that a document under construction stands there.
2. A character is written where the reading stands (`take_char`), U+0000 is
   dropped (`take_null`), and the tags of a marked run lead inside and out
   again (`take_startMark`, `take_endMark`).
3. `Yields b cs text` — reading `cs` from there makes a document that is seen
   as `text`; `Reads` is the same in whatever way the text is read.  Characters
   are read one by one (`yields_text`).

`parsedText_marked` — the text before the run, the run, and the text behind it
are seen as they stand, except that all ends of lines become line feeds, that
U+0000 is dropped, and so is a byte order mark at the front.
-/

namespace SearchRelay.Html

open Suggestion (markOpen markClose)

/-! ## characters -/

/- Before anything is tokenized, a byte order mark at the front is dropped and the ends
of lines become line feeds. Both are done to the whole input at once, so they come first
here. -/

/-- Characters that spell neither tags nor references. -/
def Unmarked (cs : List Char) : Prop := ∀ c ∈ cs, c ≠ '<' ∧ c ≠ '&'

instance (cs : List Char) : Decidable (Unmarked cs) :=
  List.decidableBAll (fun c => c ≠ '<' ∧ c ≠ '&') cs

/-- What is read of a text without tags and references. -/
def readText (cs : List Char) : List Char := (normalizeLines cs).filter (· ≠ '\x00')

/-- A text without the byte order mark at its front. -/
def withoutMark : List Char → List Char
  | [] => []
  | c :: cs => if c = '\ufeff' then cs else c :: cs

theorem prepare_eq (cs : List Char) : prepare cs = normalizeLines (withoutMark cs) := by
  unfold prepare
  split
  · rw [withoutMark, if_pos rfl]
  · next hother =>
    cases cs with
    | nil => rfl
    | cons c cs => rw [withoutMark, if_neg fun hc => hother cs (by rw [hc])]

/-- What a line feed does not begin goes on as if it stood alone. -/
theorem normalizeLines_append {cs rest : List Char} (h : rest.head? ≠ some '\n') :
    normalizeLines (cs ++ rest) = normalizeLines cs ++ normalizeLines rest := by
  fun_induction normalizeLines cs with
  | case1 => rfl
  | case2 cs ih => rw [List.cons_append, List.cons_append, normalizeLines, ih, List.cons_append]
  | case3 cs hcs ih =>
      have hnext : ∀ more, cs ++ rest = '\n' :: more → False := by
        intro more hmore
        cases cs with
        | nil => exact h (by rw [List.nil_append] at hmore; rw [hmore]; rfl)
        | cons c cs =>
            rw [List.cons_append] at hmore
            injection hmore with hc
            exact hcs cs (by rw [hc])
      rw [List.cons_append, normalizeLines.eq_3 _ hnext, ih, List.cons_append]
  | case4 c cs hpair hreturn ih =>
      rw [List.cons_append, normalizeLines.eq_4 _ _ (fun more hc _ => hreturn hc) hreturn, ih,
        List.cons_append]

/-- Ends of lines become line feeds, and other characters stay. -/
theorem mem_normalizeLines {cs : List Char} {c : Char} (h : c ∈ normalizeLines cs) :
    (c ∈ cs ∧ c ≠ '\r') ∨ c = '\n' := by
  fun_induction normalizeLines cs with
  | case1 => contradiction
  | case2 cs ih =>
      rcases List.mem_cons.mp h with rfl | h
      · exact .inr rfl
      · exact (ih h).imp_left fun hc => ⟨by simp [hc.1], hc.2⟩
  | case3 cs hcs ih =>
      rcases List.mem_cons.mp h with rfl | h
      · exact .inr rfl
      · exact (ih h).imp_left fun hc => ⟨by simp [hc.1], hc.2⟩
  | case4 d cs hpair hreturn ih =>
      rcases List.mem_cons.mp h with rfl | h
      · exact .inl ⟨by simp, hreturn⟩
      · exact (ih h).imp_left fun hc => ⟨by simp [hc.1], hc.2⟩

/-- Neither tags nor references come about. -/
theorem unmarked_normalizeLines {cs : List Char} (h : Unmarked cs) :
    Unmarked (normalizeLines cs) := by
  intro c hc
  rcases mem_normalizeLines hc with ⟨hc, _⟩ | rfl
  · exact h c hc
  · decide

/-- What holds no carriage return stays. -/
theorem normalizeLines_append_of_notMem {cs : List Char} (h : '\r' ∉ cs) (rest : List Char) :
    normalizeLines (cs ++ rest) = cs ++ normalizeLines rest := by
  induction cs with
  | nil => rfl
  | cons c cs ih =>
      have hc : c = '\r' → False := fun hc => h (by simp [hc])
      rw [List.cons_append, normalizeLines.eq_4 _ _ (fun _ hr _ => hc hr) hc,
        ih fun hmem => h (by simp [hmem]), List.cons_append]

/-! ## what is read of characters -/

/-- No carriage return and no U+0000 is read. -/
theorem notMem_readText (cs : List Char) : '\r' ∉ readText cs ∧ '\x00' ∉ readText cs := by
  constructor
  · intro h
    rcases mem_normalizeLines (List.mem_filter.mp h).1 with ⟨_, hne⟩ | heq
    · exact hne rfl
    · exact absurd heq (by decide)
  · intro h
    simpa using (List.mem_filter.mp h).2

/-- A text without them is read as it is. -/
theorem readText_of_notMem {cs : List Char} (hreturn : '\r' ∉ cs) (hnull : '\x00' ∉ cs) :
    readText cs = cs := by
  have hlines := normalizeLines_append_of_notMem hreturn []
  rw [List.append_nil] at hlines
  rw [readText, hlines, normalizeLines, List.append_nil, List.filter_eq_self]
  exact fun c hc => by simpa using fun heq : c = '\x00' => hnull (heq ▸ hc)

theorem mem_of_mem_withoutMark {cs : List Char} {c : Char} (h : c ∈ withoutMark cs) : c ∈ cs := by
  cases cs with
  | nil => exact h
  | cons d cs =>
      rw [withoutMark] at h
      split at h
      · exact List.mem_cons_of_mem _ h
      · exact h

theorem length_withoutMark (cs : List Char) :
    (withoutMark cs).length = cs.length ↔ cs.head? ≠ some '\ufeff' := by
  cases cs with
  | nil => simp [withoutMark]
  | cons c cs =>
      rw [withoutMark]
      split
      · next hc => simp [hc]
      · next hc => simp [hc]

theorem withoutMark_of_head? {cs : List Char} (h : cs.head? ≠ some '\ufeff') :
    withoutMark cs = cs := by
  cases cs with
  | nil => rfl
  | cons c cs => rw [withoutMark, if_neg fun hc => h (by rw [hc]; rfl)]

/-- When three texts, read one after another, are a given text that is as long
and holds the same characters, as far as these matter. -/
theorem readText_append_eq_iff {front run behind whole : List Char}
    (hlength : whole.length = (front ++ run ++ behind).length)
    (hreturn : '\r' ∈ whole ↔ '\r' ∈ front ++ run ++ behind)
    (hnull : '\x00' ∈ whole ↔ '\x00' ∈ front ++ run ++ behind) :
    readText (withoutMark front) ++ readText run ++ readText behind = whole ↔
      '\r' ∉ whole ∧ '\x00' ∉ whole ∧ front.head? ≠ some '\ufeff' ∧
        whole = front ++ run ++ behind := by
  have hread : '\r' ∉ whole → '\x00' ∉ whole →
      readText (withoutMark front) ++ readText run ++ readText behind =
        withoutMark front ++ run ++ behind := by
    intro hr hn
    simp only [hreturn, List.mem_append, not_or] at hr
    simp only [hnull, List.mem_append, not_or] at hn
    rw [readText_of_notMem (fun h => hr.1.1 (mem_of_mem_withoutMark h))
        (fun h => hn.1.1 (mem_of_mem_withoutMark h)),
      readText_of_notMem hr.1.2 hn.1.2, readText_of_notMem hr.2 hn.2]
  constructor
  · intro h
    have hr : '\r' ∉ whole := by
      rw [← h]
      simp [(notMem_readText _).1]
    have hn : '\x00' ∉ whole := by
      rw [← h]
      simp [(notMem_readText _).2]
    rw [hread hr hn] at h
    have hmark : (withoutMark front).length = front.length := by
      rw [← h] at hlength
      simp only [List.length_append] at hlength
      omega
    have hhead := (length_withoutMark front).mp hmark
    rw [withoutMark_of_head? hhead] at h
    exact ⟨hr, hn, hhead, h.symm⟩
  · rintro ⟨hr, hn, hhead, hwhole⟩
    rw [hread hr hn, withoutMark_of_head? hhead, ← hwhole]

/-! ## the document under construction -/

/- Characters, U+0000 and the two tags of a marked run are all the tokens there are.
Each leads from a place to a place. -/

/-- Where the reading stands. -/
inductive Place where
  /-- Outside all elements, behind a text. -/
  | outside (text : List Char)
  /-- Inside an element: behind the text in front of it, and behind a text in it. -/
  | inside (name : String) (before text : List Char)

/-- The place behind more text. -/
def Place.write (more : List Char) : Place → Place
  | .outside text => .outside (text ++ more)
  | .inside name before text => .inside name before (text ++ more)

namespace Builder

variable {b : Builder}

/-- Nothing but plain content is expected, and nothing is left to be done. -/
structure Idle (b : Builder) : Prop where
  formatting : b.formatting = []
  insertion : b.insertion = .body
  skipLineFeed : b.skipLineFeed = false
  fostering : b.fostering = false

/-- The document that was read up to a place. -/
def At (b : Builder) : Place → Prop
  | .outside text => b.Idle ∧ b.stack = [rootElement] ∧ b.tree.Closed text
  | .inside name before text =>
    b.Idle ∧ ∃ id, b.stack = [⟨id, .html, name⟩, rootElement] ∧ b.tree.Opened id name before text

/-- A document begins outside all elements. -/
theorem at_initial : initial.At (.outside []) := by
  refine ⟨⟨rfl, rfl, rfl, rfl⟩, rfl, [], [], ?_, .nil, rfl⟩
  exact ⟨⟨.element .html "html", none, #[]⟩, rfl, rfl, rfl⟩

/-- Wherever the reading stands, nothing is pending. -/
theorem At.idle {place : Place} (h : b.At place) : b.Idle := by
  cases place <;> exact h.1

theorem current_eq {e : OpenElement} {outer : List OpenElement} (h : b.stack = e :: outer) :
    b.current = e := by
  rw [current, h, List.headD_cons]

theorem At.vocabulary {place : Place} (h : b.At place) : b.current.vocabulary = .html := by
  cases place with
  | outside text =>
      obtain ⟨_, hstack, _⟩ := h
      rw [current_eq hstack]
      rfl
  | inside name before text =>
      obtain ⟨_, id, hstack, _⟩ := h
      rw [current_eq hstack]

/-- Outside foreign elements a token that has a meaning is handled as what is expected
calls for. -/
theorem take_eq (hskip : b.skipLineFeed = false) (hhtml : b.current.vocabulary = .html)
    {token : Token} (htrifle : token ≠ .trifle) {after : Builder} {change : Option Reading}
    (h : b.inExpected token = (after, change.elim .done .read)) :
    b.take token = (after, change) := by
  have hsettled : { b with skipLineFeed := false } = b := by
    rw [← hskip]
  have hdrops : b.drops token = false := by
    simp [drops, htrifle, hskip]
  have hforeign : b.isForeign token = false := if_pos hhtml
  have hfuel : b.handlings = 4 * b.stack.length + 15 + 1 := rfl
  rw [take, hsettled, hdrops]
  simp only [Bool.false_eq_true, if_false]
  rw [hfuel, handle, hforeign]
  simp only [Bool.false_eq_true, if_false, h]
  cases change <;> rfl

/-- A token that has a meaning is handled once. -/
theorem take_of_inBody {place : Place} (h : b.At place) {token : Token} {after : Builder}
    (htrifle : token ≠ .trifle) (hbody : b.inBody token = (after, .done)) :
    b.take token = (after, none) := by
  refine take_eq h.idle.skipLineFeed h.vocabulary htrifle ?_
  rw [inExpected, h.idle.insertion]
  exact hbody

/-- Nothing that formats has to be opened again. -/
theorem reconstruct_of_idle (h : b.Idle) : b.reconstruct = b := by
  rw [reconstruct, h.formatting]
  simp only [List.takeWhile_nil, List.length_nil, List.drop_nil, List.reverse_nil, reopen]
  rw [← h.formatting]

/-- Content goes into the innermost element. -/
theorem insert_eq (h : b.fostering = false) (content : Content) :
    b.insert content = { b with tree := b.tree.add b.current.id content } := by
  rw [insert, place, if_neg (by simp [h])]
  rfl

theorem insert_of_idle (h : b.Idle) (content : Content) :
    b.insert content = { b with tree := b.tree.add b.current.id content } :=
  insert_eq h.fostering content

/-- A character is written where the reading stands. -/
theorem take_char {place : Place} (h : b.At place) (c : Char) :
    ∃ after, b.take (.char c) = (after, none) ∧ after.At (place.write [c]) := by
  refine ⟨{ b with tree := b.tree.add b.current.id (.text c) }, ?_, ?_⟩
  · refine take_of_inBody h (by simp) ?_
    have hbody : b.inBody (.char c) = (b.reconstruct.insertChar c).done := rfl
    rw [hbody, reconstruct_of_idle h.idle, insertChar, insert_of_idle h.idle]
    rfl
  · cases place with
    | outside text =>
        obtain ⟨hidle, hstack, hclosed⟩ := h
        refine ⟨⟨hidle.1, hidle.2, hidle.3, hidle.4⟩, hstack, ?_⟩
        rw [current_eq hstack]
        exact hclosed.add_char c
    | inside name before text =>
        obtain ⟨hidle, id, hstack, hopened⟩ := h
        refine ⟨⟨hidle.1, hidle.2, hidle.3, hidle.4⟩, id, hstack, ?_⟩
        rw [current_eq hstack]
        exact hopened.add_char c

/-- U+0000 is dropped. -/
theorem take_null {place : Place} (h : b.At place) : b.take .null = (b, none) :=
  take_of_inBody h (by simp) rfl

/-- The element of a marked run. -/
def markName : String := "mark"

/-- The start tag of a marked run leads into an element. -/
theorem take_startMark {text : List Char} (h : b.At (.outside text)) (tag : Tag)
    (hname : tag.name = markName) :
    ∃ after, b.take (.startTag tag) = (after, none) ∧ after.At (.inside markName text []) := by
  obtain ⟨hidle, hstack, hclosed⟩ := id h
  refine ⟨{ b with
    tree := b.tree.add 0 (.element .html markName)
    stack := [⟨b.tree.size, .html, markName⟩, rootElement] }, ?_, ?_⟩
  · refine take_of_inBody h (by simp) ?_
    have hhead : b.inHead? (.startTag tag) = none := by
      simp [inHead?, hname, markName]
    have hstart : b.startInBody tag = (b.reconstruct.openHtml markName).done := by
      simp [startInBody, hname, markName, blocks, headings, formattingNames]
    unfold inBody
    rw [hhead]
    dsimp only
    rw [hstart, reconstruct_of_idle hidle, openHtml, insertOpen, insertClosed,
      insert_of_idle hidle, current_eq hstack, push, hstack]
    rfl
  · exact ⟨⟨hidle.1, hidle.2, hidle.3, hidle.4⟩, b.tree.size, rfl, hclosed.add_element markName⟩

/-- Its end tag leads out again. -/
theorem take_endMark {before text : List Char} (h : b.At (.inside markName before text))
    (tag : Tag) (hname : tag.name = markName) :
    ∃ after, b.take (.endTag tag) = (after, none) ∧ after.At (.outside (before ++ text)) := by
  obtain ⟨hidle, _, hstack, hopened⟩ := id h
  refine ⟨{ b with stack := [rootElement] }, ?_, ?_⟩
  · refine take_of_inBody h (by simp) ?_
    have hhead : b.inHead? (.endTag tag) = none := by
      simp [inHead?, hname, markName]
    have hend : b.endInBody tag.name = b.closeNamed markName := by
      simp [endInBody, hname, markName, closable, headings, formattingNames]
    unfold inBody
    rw [hhead]
    dsimp only
    rw [hend, closeNamed, hstack]
    rfl
  · exact ⟨⟨hidle.1, hidle.2, hidle.3, hidle.4⟩, rfl, hopened.closed (by decide)⟩

end Builder

/-! ## the text -/

/- Fuel is as long as the text that is left, and every token takes a character at least.
So `Yields` is stated for any fuel that is enough. -/

section

variable {b after : Builder} {place : Place} {text : List Char}

/-- Reading a text from here, in some way, makes a document that is seen as another one. -/
def Reads (b : Builder) (reading : Reading) (cs text : List Char) : Prop :=
  ∀ fuel, cs.length ≤ fuel → (build fuel b reading cs).tree.Closed text

/-- Reading a text from here makes a document that is seen as another one. -/
def Yields (b : Builder) (cs text : List Char) : Prop :=
  ∀ fuel, cs.length ≤ fuel → (build fuel b .data cs).tree.Closed text

/-- At the end of the text the document shows what was written. -/
theorem yields_nil (h : b.At (.outside text)) : Yields b [] text := by
  obtain ⟨hidle, _, hclosed⟩ := h
  intro fuel _
  have hfinish : b.finish = b := by
    rw [Builder.finish, hidle.insertion, if_neg (by decide)]
  have hbuild : build fuel b .data [] = b.finish := by cases fuel <;> rfl
  rw [hbuild, hfinish]
  exact hclosed

/-- One step of the reading, and what follows it. -/
theorem build_cons (fuel : Nat) (b : Builder) (reading : Reading) (c : Char) (cs : List Char) :
    build (fuel + 1) b reading (c :: cs) =
      let step := next reading (b.current.vocabulary ≠ .html) (c :: cs)
      let taken := takeAll b step.reading step.tokens
      build fuel taken.1 taken.2 step.rest := rfl

/-- A token at the front is taken, and the reading goes on behind it, in another way if
the token asks for it. -/
theorem reads_of_next {reading on : Reading} {change : Option Reading}
    (hhtml : b.current.vocabulary = .html) {cs rest : List Char} {token : Token}
    (hnext : next reading false cs = ⟨[token], on, rest⟩) (hshorter : rest.length < cs.length)
    (htake : b.take token = (after, change)) (hrest : Reads after (change.getD on) rest text) :
    Reads b reading cs text := by
  intro fuel hfuel
  obtain ⟨fuel, rfl⟩ : ∃ n, fuel = n + 1 := ⟨fuel - 1, by omega⟩
  have hforeign : decide (b.current.vocabulary ≠ .html) = false := by
    simp [hhtml]
  cases cs with
  | nil => contradiction
  | cons c cs =>
      rw [List.length_cons] at hfuel hshorter
      rw [build_cons, hforeign, hnext]
      simp only [takeAll, htake]
      exact hrest fuel (by omega)

/-- A token at the front is taken, and the reading goes on behind it. -/
theorem yields_of_next (h : b.At place) {cs rest : List Char} {token : Token}
    (hnext : next .data false cs = ⟨[token], .data, rest⟩) (hshorter : rest.length < cs.length)
    (htake : b.take token = (after, none)) (hrest : Yields after rest text) :
    Yields b cs text :=
  reads_of_next h.vocabulary hnext hshorter htake hrest

/-- A character that begins no tag and no reference is a token of its own. -/
theorem next_char {c : Char} (hc : c ≠ '<' ∧ c ≠ '&') (cs : List Char) :
    next .data false (c :: cs) = ⟨[charToken c], .data, cs⟩ := by
  unfold next dataStep
  split <;> simp_all

def startMark : Tag := ⟨"mark", [("class", "highlight")], false⟩

def endMark : Tag := ⟨"mark", [], false⟩

/-- The start tag of a marked run is one token. -/
theorem next_markOpen (rest : List Char) :
    next .data false (markOpen.toList ++ rest) = ⟨[.startTag startMark], .data, rest⟩ := rfl

/-- So is its end tag. -/
theorem next_markClose (rest : List Char) :
    next .data false (markClose.toList ++ rest) = ⟨[.endTag endMark], .data, rest⟩ := rfl

/-- Characters that spell no markup are written one by one. -/
theorem yields_text {cs rest : List Char} (hcs : Unmarked cs) (h : b.At place)
    (hrest : ∀ after : Builder, after.At (place.write (cs.filter (· ≠ '\x00'))) →
      Yields after rest text) :
    Yields b (cs ++ rest) text := by
  induction cs generalizing b place with
  | nil =>
      refine hrest b ?_
      cases place <;> simpa [Place.write] using h
  | cons c cs ih =>
      have hnext := next_char (hcs c List.mem_cons_self) (cs ++ rest)
      have hmore : Unmarked cs := fun d hd => hcs d (List.mem_cons_of_mem _ hd)
      by_cases hnull : c = '\x00'
      · subst hnull
        refine yields_of_next h hnext (by simp) (Builder.take_null h) ?_
        exact ih hmore h fun after hafter => hrest after (by simpa using hafter)
      · obtain ⟨next, htake, hwritten⟩ := Builder.take_char h c
        rw [charToken, if_neg hnull] at hnext
        refine yields_of_next h hnext (by simp) htake (ih hmore hwritten fun after hafter => ?_)
        refine hrest after ?_
        rw [List.filter_cons_of_pos (by simpa using hnull)]
        cases place <;> simpa [Place.write] using hafter

end

theorem length_lt_append {cs : List Char} (hcs : 0 < cs.length) (rest : List Char) :
    rest.length < (cs ++ rest).length := by
  rw [List.length_append]
  exact Nat.lt_add_of_pos_left hcs

/-- The visible text of a text in which a run is marked. -/
theorem parsedText_marked {before run behind : List Char} (hbefore : Unmarked before)
    (hrun : Unmarked run) (hbehind : Unmarked behind) :
    parsedText (before ++ (markOpen.toList ++ (run ++ (markClose.toList ++ behind)))) =
      readText (withoutMark before) ++ readText run ++ readText behind := by
  have hprepare : prepare (before ++ (markOpen.toList ++ (run ++ (markClose.toList ++ behind)))) =
      normalizeLines (withoutMark before) ++ (markOpen.toList ++ (normalizeLines run ++
        (markClose.toList ++ normalizeLines behind))) := by
    have hfront : withoutMark (before ++ (markOpen.toList ++ (run ++ (markClose.toList ++
        behind)))) = withoutMark before ++ (markOpen.toList ++ (run ++ (markClose.toList ++
        behind))) := by
      cases before with
      | nil => rfl
      | cons c cs =>
          simp only [List.cons_append, withoutMark]
          split <;> rfl
    rw [prepare_eq, hfront, normalizeLines_append (by simp [markOpen]),
      normalizeLines_append_of_notMem (by decide), normalizeLines_append (by simp [markClose]),
      normalizeLines_append_of_notMem (by decide)]
  have hunmarked : Unmarked (withoutMark before) :=
    fun c hc => hbefore c (mem_of_mem_withoutMark hc)
  have hyields : Yields .initial (normalizeLines (withoutMark before) ++ (markOpen.toList ++
      (normalizeLines run ++ (markClose.toList ++ normalizeLines behind))))
      (readText (withoutMark before) ++ readText run ++ readText behind) := by
    refine yields_text (unmarked_normalizeLines hunmarked) Builder.at_initial fun b hb => ?_
    obtain ⟨inner, htake, hinner⟩ := Builder.take_startMark hb startMark rfl
    refine yields_of_next hb (next_markOpen _) (length_lt_append (by decide) _) htake ?_
    refine yields_text (unmarked_normalizeLines hrun) hinner fun b hb => ?_
    obtain ⟨outer, htake, houter⟩ := Builder.take_endMark hb endMark rfl
    refine yields_of_next hb (next_markClose _) (length_lt_append (by decide) _) htake ?_
    rw [← List.append_nil (normalizeLines behind)]
    refine yields_text (unmarked_normalizeLines hbehind) houter fun b hb => yields_nil ?_
    simpa [Place.write, readText] using hb
  rw [parsedText, document, hprepare]
  exact (hyields _ (Nat.le_refl _)).visible

end SearchRelay.Html
