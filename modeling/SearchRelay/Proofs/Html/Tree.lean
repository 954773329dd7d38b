import Mathlib.Data.List.Forall2
import SearchRelay.Html.PlainText

/-!
# SearchRelay.Proofs.Html.Tree

Trees in which elements hold text and stand in the root, as plain text with a
few words marked gives them.

1. `add` makes a new node the last child of an element; `nodes_add` says what
   that changes, which is this element and nothing else.
2. `Shown t bound id text` — the node, and everything in it, was made before
   the node `bound`, and is seen as `text`.
3. `Closed t text` — all that the root holds is shown, as `text` altogether.
   `Opened t id name before text` — behind what is shown as `before` the last
   child of the root, an element, is still being filled and holds `text`.

Characters are added to either (`Closed.add_char`, `Opened.add_char`), and an
element is opened (`Closed.add_element`) and closed (`Opened.closed`).
`Closed.visible` is what the whole tree is seen as.
-/

namespace SearchRelay.Html.Tree

/-! ## new nodes -/

/-- Makes a new node the last child of a node. -/
def add (t : Tree) (parent : Nat) (content : Content) : Tree :=
  (t.create content).append parent t.size

theorem size_add (t : Tree) (parent : Nat) (content : Content) :
    (t.add parent content).size = t.size + 1 := by
  simp [add, append, detach, create, parent?, modify, size]

/-- A new node changes its parent only. -/
theorem nodes_add {t : Tree} {parent : Nat} (hparent : parent < t.size) (content : Content)
    (id : Nat) :
    (t.add parent content).nodes[id]? =
      if id = t.size then some ⟨content, some parent, #[]⟩
      else if id = parent then
        t.nodes[id]?.map fun n => { n with children := n.children.push t.size }
      else t.nodes[id]? := by
  have hdetach : (t.create content).detach t.size = t.create content := by
    have hfree : (t.create content).parent? t.size = none := by
      simp [create, parent?, size]
    rw [detach, hfree]
  rw [add, append, hdetach]
  simp only [modify, create, Array.getElem?_modify, Array.getElem?_push]
  by_cases hnew : id = t.size
  · have hne : parent ≠ t.nodes.size := Nat.ne_of_lt hparent
    subst hnew
    simp [size, hne]
  · have hold : id ≠ t.nodes.size := hnew
    rw [if_neg (Ne.symm hnew), if_neg hold, if_neg hnew]
    by_cases hid : id = parent
    · rw [if_pos hid.symm, if_pos hid]
    · rw [if_neg (Ne.symm hid), if_neg hid]

/-! ## what is seen of a node -/

/-- A node is a character. -/
def IsChar (t : Tree) (id : Nat) (c : Char) : Prop :=
  t.nodes[id]?.map Node.content = some (.text c)

/-- Nodes that were made behind one node and before another one are the
characters of a text. -/
def Chars (t : Tree) (behind before : Nat) (ids : List Nat) (text : List Char) : Prop :=
  List.Forall₂ (fun id c => behind < id ∧ id < before ∧ t.IsChar id c) ids text

/-- A node that was made before another one is seen as a text. -/
inductive Shown (t : Tree) (before id : Nat) : List Char → Prop
  | char {c : Char} (hbehind : 0 < id) (hbefore : id < before) (hchar : t.IsChar id c) :
      Shown t before id [c]
  | element {node : Node} {vocabulary : Namespace} {name : String} {text : List Char}
      (hbehind : 0 < id) (hbefore : id < before) (hnode : t.nodes[id]? = some node)
      (hcontent : node.content = .element vocabulary name)
      (hchars : t.Chars id before node.children.toList text) :
      Shown t before id (if droppedNames.contains name then [] else text)

section

variable {t larger : Tree} {before later : Nat}

/-- What was made before a node does not depend on what is made behind it. -/
theorem Chars.mono {behind : Nat} {ids : List Nat} {text : List Char}
    (h : t.Chars behind before ids text) (hlater : before ≤ later)
    (hsame : ∀ id, behind < id → id < before → larger.nodes[id]? = t.nodes[id]?) :
    larger.Chars behind later ids text := by
  refine List.Forall₂.imp ?_ h
  intro id c ⟨hbehind, hbefore, hchar⟩
  refine ⟨hbehind, Nat.lt_of_lt_of_le hbefore hlater, ?_⟩
  rw [IsChar, hsame id hbehind hbefore]
  exact hchar

/-- What is shown stays shown while nodes are added behind it. -/
theorem Shown.mono {id : Nat} {text : List Char} (h : t.Shown before id text)
    (hlater : before ≤ later)
    (hsame : ∀ id, 0 < id → id < before → larger.nodes[id]? = t.nodes[id]?) :
    larger.Shown later id text := by
  cases h with
  | char hbehind hbefore hchar =>
      refine .char hbehind (Nat.lt_of_lt_of_le hbefore hlater) ?_
      rw [IsChar, hsame id hbehind hbefore]
      exact hchar
  | element hbehind hbefore hnode hcontent hchars =>
      refine .element hbehind (Nat.lt_of_lt_of_le hbefore hlater) ?_ hcontent ?_
      · rw [hsame id hbehind hbefore, hnode]
      · exact hchars.mono hlater fun id hid => hsame id (Nat.lt_trans hbehind hid)

theorem forall₂_shown_mono {ids : List Nat} {texts : List (List Char)}
    (h : List.Forall₂ (t.Shown before) ids texts) (hlater : before ≤ later)
    (hsame : ∀ id, 0 < id → id < before → larger.nodes[id]? = t.nodes[id]?) :
    List.Forall₂ (larger.Shown later) ids texts :=
  List.Forall₂.imp (fun _ _ hshown => hshown.mono hlater hsame) h

/-- A character is seen as such. -/
theorem visibleFrom_of_isChar {id depth : Nat} {c : Char} (h : t.IsChar id c) :
    t.visibleFrom droppedNames (depth + 1) id = [c] := by
  obtain ⟨node, hnode, hcontent⟩ := Option.map_eq_some_iff.mp h
  rw [visibleFrom, hnode]
  dsimp only
  rw [hcontent]

/-- Characters side by side are seen as their text. -/
theorem flatMap_visibleFrom_of_chars {behind depth : Nat} {ids : List Nat} {text : List Char}
    (h : t.Chars behind before ids text) (hdepth : before ≤ behind + 1 + depth) :
    ids.flatMap (t.visibleFrom droppedNames depth) = text := by
  induction h with
  | nil => rfl
  | cons hid _ ih =>
      obtain ⟨hbehind, hbefore, hchar⟩ := hid
      obtain ⟨d, rfl⟩ : ∃ d, depth = d + 1 := ⟨depth - 1, by omega⟩
      rw [List.flatMap_cons, visibleFrom_of_isChar hchar, ih]
      rfl

/-- What is seen of a node, if as many levels are looked at as nodes were made. -/
theorem visibleFrom_of_shown {id depth : Nat} {text : List Char} (h : t.Shown before id text)
    (hdepth : before ≤ depth + 1) : t.visibleFrom droppedNames depth id = text := by
  cases h with
  | char hbehind hbefore hchar =>
      obtain ⟨d, rfl⟩ : ∃ d, depth = d + 1 := ⟨depth - 1, by omega⟩
      exact visibleFrom_of_isChar hchar
  | element hbehind hbefore hnode hcontent hchars =>
      obtain ⟨d, rfl⟩ : ∃ d, depth = d + 1 := ⟨depth - 1, by omega⟩
      rw [visibleFrom, hnode]
      dsimp only
      rw [hcontent]
      dsimp only
      split
      · rfl
      · exact flatMap_visibleFrom_of_chars hchars (by omega)

/-- Nodes side by side are seen one after another. -/
theorem flatMap_visibleFrom_of_shown {depth : Nat} {ids : List Nat} {texts : List (List Char)}
    (h : List.Forall₂ (t.Shown before) ids texts) (hdepth : before ≤ depth + 1) :
    ids.flatMap (t.visibleFrom droppedNames depth) = texts.flatten := by
  induction h with
  | nil => rfl
  | cons hshown _ ih =>
      rw [List.flatMap_cons, visibleFrom_of_shown hshown hdepth, ih, List.flatten_cons]

end

/-! ## the root -/

/-- The root holds these nodes. -/
def RootHolds (t : Tree) (ids : List Nat) : Prop :=
  ∃ node, t.nodes[0]? = some node ∧ node.content = .element .html "html" ∧
    node.children.toList = ids

/-- All that the root holds is shown, as a text altogether. -/
def Closed (t : Tree) (text : List Char) : Prop :=
  ∃ ids texts, t.RootHolds ids ∧ List.Forall₂ (t.Shown t.size) ids texts ∧ texts.flatten = text

/-- The last node in the root is an element that still is being filled. -/
structure Opened (t : Tree) (id : Nat) (name : String) (before text : List Char) : Prop where
  shown : ∃ ids texts, t.RootHolds (ids ++ [id]) ∧ List.Forall₂ (t.Shown id) ids texts ∧
    texts.flatten = before
  behind : 0 < id
  element : ∃ node, t.nodes[id]? = some node ∧ node.content = .element .html name ∧
    t.Chars id t.size node.children.toList text

theorem RootHolds.size_pos {t : Tree} {ids : List Nat} (h : t.RootHolds ids) : 0 < t.size := by
  obtain ⟨node, hnode, _⟩ := h
  exact (Array.getElem?_eq_some_iff.mp hnode).1

theorem Opened.lt_size {t : Tree} {id : Nat} {name : String} {before text : List Char}
    (h : t.Opened id name before text) : id < t.size := by
  obtain ⟨node, hnode, _⟩ := h.element
  exact (Array.getElem?_eq_some_iff.mp hnode).1

/-- A node in the root stands behind the others. -/
theorem RootHolds.add {t : Tree} {ids : List Nat} (h : t.RootHolds ids) (content : Content) :
    (t.add 0 content).RootHolds (ids ++ [t.size]) := by
  have hpos := h.size_pos
  obtain ⟨node, hnode, hcontent, rfl⟩ := h
  refine ⟨{ node with children := node.children.push t.size }, ?_, hcontent, by simp⟩
  rw [nodes_add hpos, if_neg (Nat.ne_of_lt hpos), if_pos rfl, hnode]
  rfl

/-- A node elsewhere leaves the root alone. -/
theorem RootHolds.add_of_pos {t : Tree} {ids : List Nat} (h : t.RootHolds ids) {parent : Nat}
    (hpos : 0 < parent) (hparent : parent < t.size) (content : Content) :
    (t.add parent content).RootHolds ids := by
  obtain ⟨node, hnode, hcontent, rfl⟩ := h
  refine ⟨node, ?_, hcontent, rfl⟩
  rw [nodes_add hparent, if_neg (by omega), if_neg (by omega), hnode]

/-- Adding a node touches its parent only. -/
theorem nodes_add_of_lt {t : Tree} {parent id : Nat} (hparent : parent < t.size)
    (hid : id < t.size) (hne : id ≠ parent) (content : Content) :
    (t.add parent content).nodes[id]? = t.nodes[id]? := by
  rw [nodes_add hparent, if_neg (Nat.ne_of_lt hid), if_neg hne]

/-- A character below the root is seen behind the others. -/
theorem Closed.add_char {t : Tree} {text : List Char} (h : t.Closed text) (c : Char) :
    (t.add 0 (.text c)).Closed (text ++ [c]) := by
  obtain ⟨ids, texts, hroot, hshown, rfl⟩ := h
  have hpos := hroot.size_pos
  refine ⟨ids ++ [t.size], texts ++ [[c]], hroot.add _, ?_, by simp⟩
  rw [size_add]
  refine List.rel_append (forall₂_shown_mono hshown (Nat.le_succ _) ?_) (.cons ?_ .nil)
  · exact fun id hid hlt => nodes_add_of_lt hpos hlt (Nat.ne_of_gt hid) _
  · refine .char hpos (Nat.lt_succ_self _) ?_
    rw [IsChar, nodes_add hpos, if_pos rfl]
    rfl

/-- An element below the root is opened empty. -/
theorem Closed.add_element {t : Tree} {text : List Char} (h : t.Closed text) (name : String) :
    (t.add 0 (.element .html name)).Opened t.size name text [] := by
  obtain ⟨ids, texts, hroot, hshown, rfl⟩ := h
  have hpos := hroot.size_pos
  refine ⟨⟨ids, texts, hroot.add _, ?_, rfl⟩, hpos, ?_⟩
  · exact forall₂_shown_mono hshown (Nat.le_refl _) fun id hid hlt =>
      nodes_add_of_lt hpos hlt (Nat.ne_of_gt hid) _
  · refine ⟨⟨.element .html name, some 0, #[]⟩, ?_, rfl, .nil⟩
    rw [nodes_add hpos, if_pos rfl]

/-- A character in the open element is seen there. -/
theorem Opened.add_char {t : Tree} {id : Nat} {name : String} {before text : List Char}
    (h : t.Opened id name before text) (c : Char) :
    (t.add id (.text c)).Opened id name before (text ++ [c]) := by
  have hlt := h.lt_size
  obtain ⟨⟨ids, texts, hroot, hshown, rfl⟩, hpos, node, hnode, hcontent, hchars⟩ := h
  refine ⟨⟨ids, texts, hroot.add_of_pos hpos hlt _, ?_, rfl⟩, hpos, ?_⟩
  · exact forall₂_shown_mono hshown (Nat.le_refl _) fun i _ hi =>
      nodes_add_of_lt hlt (Nat.lt_trans hi hlt) (Nat.ne_of_lt hi) _
  · refine ⟨{ node with children := node.children.push t.size }, ?_, hcontent, ?_⟩
    · rw [nodes_add hlt, if_neg (Nat.ne_of_lt hlt), if_pos rfl, hnode]
      rfl
    · rw [size_add]
      dsimp only
      rw [Array.toList_push]
      refine List.rel_append (hchars.mono (Nat.le_succ _) ?_)
        (.cons ⟨hlt, Nat.lt_succ_self _, ?_⟩ .nil)
      · exact fun i hi hlt' => nodes_add_of_lt hlt hlt' (Nat.ne_of_gt hi) _
      · rw [IsChar, nodes_add hlt, if_pos rfl]
        rfl

/-- An element is closed, with its text or, if that is dropped, without it. -/
theorem Opened.closed_of_name {t : Tree} {id : Nat} {name : String} {before text : List Char}
    (h : t.Opened id name before text) :
    t.Closed (before ++ if droppedNames.contains name then [] else text) := by
  have hlt := h.lt_size
  obtain ⟨⟨ids, texts, hroot, hshown, rfl⟩, hpos, node, hnode, hcontent, hchars⟩ := h
  refine ⟨ids ++ [id], texts ++ [if droppedNames.contains name then [] else text], hroot, ?_,
    by simp⟩
  exact List.rel_append (forall₂_shown_mono hshown (Nat.le_of_lt hlt) fun _ _ _ => rfl)
    (.cons (.element hpos hlt hnode hcontent hchars) .nil)

/-- An element whose text counts is closed. -/
theorem Opened.closed {t : Tree} {id : Nat} {name : String} {before text : List Char}
    (h : t.Opened id name before text) (hname : name ∉ droppedNames) :
    t.Closed (before ++ text) := by
  have hclosed := h.closed_of_name
  rwa [if_neg (by simpa using hname)] at hclosed

/-- What the whole tree is seen as. -/
theorem Closed.visible {t : Tree} {text : List Char} (h : t.Closed text) :
    t.visible droppedNames 0 = text := by
  obtain ⟨ids, texts, hroot, hshown, rfl⟩ := h
  have hpos := hroot.size_pos
  obtain ⟨node, hnode, hcontent, rfl⟩ := hroot
  obtain ⟨d, hd⟩ : ∃ d, t.size = d + 1 := ⟨t.size - 1, by omega⟩
  rw [Tree.visible, hd, visibleFrom, hnode]
  dsimp only
  rw [hcontent]
  dsimp only
  rw [if_neg (by decide)]
  exact flatMap_visibleFrom_of_shown hshown (by omega)

end SearchRelay.Html.Tree
