/-!
# SearchRelay.Html.Tree

A document tree as a store of nodes.  A node knows its parent and its
children, in their order; nodes are moved by detaching them and putting them
elsewhere.

`Tree.visible` is the text below a node in document order, without the text
below elements whose name is dropped.
-/

namespace SearchRelay.Html

/-- The vocabulary that an element belongs to. -/
inductive Namespace where
  | html
  | svg
  | mathml
  deriving DecidableEq

/-- What a node is. -/
inductive Content where
  | element (vocabulary : Namespace) (name : String)
  | text (c : Char)
  deriving DecidableEq

/-- A node of a tree. -/
structure Node where
  content : Content
  parent : Option Nat
  children : Array Nat

/-- A store of nodes.  A node is named by its place in the store. -/
structure Tree where
  nodes : Array Node

namespace Tree

def empty : Tree := ⟨#[]⟩

def size (t : Tree) : Nat := t.nodes.size

/-- Adds a node that is not part of anything yet; its name is the size before. -/
def create (t : Tree) (content : Content) : Tree := ⟨t.nodes.push ⟨content, none, #[]⟩⟩

def modify (t : Tree) (id : Nat) (change : Node → Node) : Tree := ⟨t.nodes.modify id change⟩

def parent? (t : Tree) (id : Nat) : Option Nat := t.nodes[id]?.bind Node.parent

def children (t : Tree) (id : Nat) : Array Nat := t.nodes[id]?.elim #[] Node.children

/-- Takes a node away from its parent. -/
def detach (t : Tree) (id : Nat) : Tree :=
  match t.parent? id with
  | none => t
  | some parent =>
    (t.modify parent fun n => { n with children := n.children.filter (· ≠ id) }).modify id
      fun n => { n with parent := none }

def append (t : Tree) (parent id : Nat) : Tree :=
  ((t.detach id).modify parent fun n => { n with children := n.children.push id }).modify id
    fun n => { n with parent := some parent }

/-- The nodes of a list with one more in front of another one. -/
def insertBeforeIn (sibling id : Nat) (children : Array Nat) : Array Nat :=
  children.flatMap fun child => if child = sibling then #[id, child] else #[child]

/-- Puts a node in front of another one. -/
def insertBefore (t : Tree) (sibling id : Nat) : Tree :=
  let t := t.detach id
  match t.parent? sibling with
  | none => t
  | some parent =>
    (t.modify parent fun n => { n with children := insertBeforeIn sibling id n.children }).modify id
      fun n => { n with parent := some parent }

/-- Makes the children of one node the last children of another one. -/
def moveChildren (t : Tree) (source target : Nat) : Tree :=
  (t.children source).foldl (fun t child => t.append target child) t

/-- The text below a node, at most `depth` levels deep. -/
def visibleFrom (t : Tree) (dropped : List String) : (depth : Nat) → (id : Nat) → List Char
  | 0, _ => []
  | depth + 1, id =>
    match t.nodes[id]? with
    | none => []
    | some node => match node.content with
      | .text c => [c]
      | .element _ name =>
        if dropped.contains name then []
        else node.children.toList.flatMap (visibleFrom t dropped depth)

/-- The text below a node in document order, without that of dropped
elements.  A path through the tree is no longer than the tree has nodes. -/
def visible (t : Tree) (dropped : List String) (id : Nat) : List Char :=
  t.visibleFrom dropped t.size id

end Tree

end SearchRelay.Html
