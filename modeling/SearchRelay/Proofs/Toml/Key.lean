import SearchRelay.Proofs.Text.Split
import SearchRelay.Proofs.Toml.Token
import SearchRelay.Toml.Line
import SearchRelay.Toml.Printer

/-!
# SearchRelay.Proofs.Toml.Key

Keys of a TOML document as they are written: the parts of a path with points
between them.

Parts without quotes and the points beside them are one word, so the tokens of a
path are defined with the word that has been begun in front of it
(`pathTokens`).

1. `cut_pathText` — the text of a path is cut into these tokens;
2. `pieces?_pathTokens` — their pieces are the parts with points between them;
3. `key?_pathTokens` — so they are read as this path, unless it has too many
   parts.
-/

namespace SearchRelay.Toml.Line

open Quoted (IsBare isKeyChar)

/-! ## pieces of a word -/

/-- The piece of a part of a word. -/
def shownName (name : List Char) : List Piece :=
  if name.isEmpty then [] else [.name (String.ofList name)]

/-- A word is cut into names at its points. -/
theorem piecesOf?_eq (word : List Char) :
    piecesOf? word =
      if (Text.splitBy (· = '.') word).all (·.all isKeyChar) then
        some (List.intercalate [.point] ((Text.splitBy (· = '.') word).map shownName))
      else none := rfl

/-- At a point the pieces of both sides follow each other. -/
theorem piecesOf?_append_point (front rest : List Char) :
    piecesOf? (front ++ '.' :: rest) = (piecesOf? front).bind fun before =>
      (piecesOf? rest).map fun behind => before ++ .point :: behind := by
  have hfront : (Text.splitBy (· = '.') front).map shownName ≠ [] := by
    simp [Text.splitBy_ne_nil]
  have hrest : (Text.splitBy (· = '.') rest).map shownName ≠ [] := by
    simp [Text.splitBy_ne_nil]
  have hsplit := @Text.splitBy_append_cons (· = '.') '.' (by decide) front rest
  rw [piecesOf?_eq, piecesOf?_eq, piecesOf?_eq, hsplit, List.all_append, List.map_append,
    Text.intercalate_append hfront hrest]
  cases (Text.splitBy (· = '.') front).all (·.all isKeyChar) with
  | false => rfl
  | true => cases (Text.splitBy (· = '.') rest).all (·.all isKeyChar) <;> simp

/-- A word without points is one name. -/
theorem piecesOf?_of_keyChars {name : List Char} (h : ∀ c ∈ name, isKeyChar c = true) :
    piecesOf? name = some (shownName name) := by
  have hpoint : ∀ c ∈ name, decide (c = '.') = false := by
    intro c hc
    refine decide_eq_false ?_
    rintro rfl
    exact absurd (h _ hc) (by decide)
  have hall : name.all isKeyChar = true := List.all_eq_true.mpr h
  rw [piecesOf?_eq, Text.splitBy_of_forall hpoint]
  simp [hall]

/-- A bare key is one name. -/
theorem piecesOf?_of_bare {key : String} (h : IsBare key.toList) :
    piecesOf? key.toList = some [.name key] := by
  rw [piecesOf?_of_keyChars h.2, shownName, if_neg (by simp [h.1]), String.ofList_toList]

/-! ## begun words -/

/-- A word that a part without quotes may follow, and its pieces: nothing, or a
word that ends with a point. -/
inductive Begun : List Char → List Piece → Prop
  | nothing : Begun [] []
  | point {front : List Char} {pieces : List Piece} (h : piecesOf? front = some pieces)
    (hchars : ∀ c ∈ front, Token.isWordChar c = true) : Begun (front ++ ['.']) (pieces ++ [.point])

/-- The characters of bare keys belong to words. -/
theorem isWordChar_of_isKeyChar {c : Char} (h : isKeyChar c = true) :
    Token.isWordChar c = true := by
  simp [Token.isWordChar, h]

namespace Begun

variable {word : List Char} {pieces : List Piece} {key : String}

theorem piecesOf?_word (h : Begun word pieces) : piecesOf? word = some pieces := by
  cases h with
  | nothing => rfl
  | point hfront =>
      rw [piecesOf?_append_point, hfront]
      rfl

theorem isWordChar_of_mem (h : Begun word pieces) : ∀ c ∈ word, Token.isWordChar c = true := by
  cases h with
  | nothing => exact nofun
  | point _ hchars =>
      intro c hc
      rcases List.mem_append.mp hc with hc | hc
      · exact hchars c hc
      · rw [List.mem_singleton.mp hc]
        decide

/-- A part without quotes goes on with a begun word. -/
theorem piecesOf?_append (h : Begun word pieces) (hkey : IsBare key.toList) :
    piecesOf? (word ++ key.toList) = some (pieces ++ [.name key]) := by
  cases h with
  | nothing => exact piecesOf?_of_bare hkey
  | point hfront =>
      rw [List.append_assoc, List.singleton_append, piecesOf?_append_point, hfront,
        piecesOf?_of_bare hkey]
      simp

theorem isWordChar_of_mem_append (h : Begun word pieces) (hkey : IsBare key.toList) :
    ∀ c ∈ word ++ key.toList, Token.isWordChar c = true := by
  intro c hc
  rcases List.mem_append.mp hc with hc | hc
  · exact h.isWordChar_of_mem c hc
  · exact isWordChar_of_isKeyChar (hkey.2 c hc)

/-- A point behind such a part begins a word again. -/
theorem append (h : Begun word pieces) (hkey : IsBare key.toList) :
    Begun (word ++ key.toList ++ ['.']) (pieces ++ [.name key] ++ [.point]) :=
  .point (h.piecesOf?_append hkey) (h.isWordChar_of_mem_append hkey)

theorem single : Begun ['.'] [.point] := @point [] [] rfl nofun

end Begun

/-! ## tokens of a path -/

instance (key : List Char) : Decidable (IsBare key) :=
  inferInstanceAs (Decidable (key ≠ [] ∧ ∀ c ∈ key, isKeyChar c = true))

/-- The token of a word, unless it is empty. -/
def wordTokens (word : List Char) : List Token := if word.isEmpty then [] else [.word word]

/-- The tokens of a path behind a begun word. -/
def pathTokens : (word : List Char) → List String → List Token
  | word, [] => wordTokens word
  | word, [key] =>
    if IsBare key.toList then [.word (word ++ key.toList)]
    else wordTokens word ++ [.text key.toList false]
  | word, key :: path =>
    if IsBare key.toList then pathTokens (word ++ key.toList ++ ['.']) path
    else wordTokens word ++ .text key.toList false :: pathTokens ['.'] path

theorem pathTokens_cons_cons (word : List Char) (key next : String) (path : List String) :
    pathTokens word (key :: next :: path) =
      if IsBare key.toList then pathTokens (word ++ key.toList ++ ['.']) (next :: path)
      else wordTokens word ++ .text key.toList false :: pathTokens ['.'] (next :: path) := by
  rw [pathTokens]
  exact nofun

/-- The pieces of a path. -/
def pathPieces : List String → List Piece
  | [] => []
  | [key] => [.name key]
  | key :: path => .name key :: .point :: pathPieces path

/-! ## cutting -/

section

variable {word : List Char} {pieces : List Piece} {path : List String} {rest : List Char}
  {ts : List Token}

/-- A word that was begun is cut into one token, or none. -/
theorem cut_wordTokens (h : Begun word pieces)
    (hrest : ∀ c ∈ rest.head?, Token.isWordChar c = false)
    (hcut : Cut rest ts) : Cut (word ++ rest) (wordTokens word ++ ts) := by
  rw [wordTokens]
  cases word with
  | nil => exact hcut
  | cons c word => exact hcut.word (List.cons_ne_nil _ _) h.isWordChar_of_mem hrest

/-- A key with quotes begins with one. -/
theorem head_keyText {key : String} (h : ¬ IsBare key.toList) :
    ∃ quote more, Value.keyText key = quote :: more ∧ (quote = '"' ∨ quote = '\'') := by
  have hread := @Quoted.read?_writeKey [] key.toList h nofun
  rw [List.append_nil] at hread
  have hhead := Quoted.head_of_read? hread
  rw [Value.keyText]
  cases htext : Quoted.writeKey key.toList with
  | nil => simp [htext] at hhead
  | cons quote more =>
      rw [htext] at hhead
      exact ⟨quote, more, rfl, by simpa using hhead⟩

/-- A key with quotes is a token of its own. -/
theorem cut_keyText {key : String} (hword : Begun word pieces) (h : ¬ IsBare key.toList)
    (hrest : Quoted.NoQuote rest) (hcut : Cut rest ts) :
    Cut (word ++ (Value.keyText key ++ rest))
      (wordTokens word ++ .text key.toList false :: ts) := by
  obtain ⟨quote, more, htext, hquote⟩ := head_keyText h
  have hne : Value.keyText key ≠ [] := by simp [htext]
  refine cut_wordTokens hword ?_ (hcut.text hne (Quoted.read?_writeKey h hrest))
  rw [htext]
  intro c hc
  cases hc
  rcases hquote with rfl | rfl <;> decide

/-- The text of a path is cut into its tokens. -/
theorem cut_pathText (hpath : path ≠ []) (hword : Begun word pieces) (hrest : Breaks rest)
    (hcut : Cut rest ts) :
    Cut (word ++ (Block.pathText path ++ rest)) (pathTokens word path ++ ts) := by
  induction path generalizing word pieces with
  | nil => exact absurd rfl hpath
  | cons key path ih =>
      cases path with
      | nil =>
          have htext : Block.pathText [key] = Value.keyText key := by simp [Block.pathText]
          rw [htext, pathTokens]
          split
          · next hbare =>
            have hne : word ++ key.toList ≠ [] := by simp [hbare.1]
            rw [Value.keyText, Quoted.writeKey_of_bare hbare, ← List.append_assoc]
            exact hcut.word hne (hword.isWordChar_of_mem_append hbare) fun c hc => (hrest c hc).1
          · next hbare =>
            rw [List.append_assoc]
            exact cut_keyText hword hbare hrest.noQuote hcut
      | cons next path =>
          have htext : Block.pathText (key :: next :: path) =
              Value.keyText key ++ (['.'] ++ Block.pathText (next :: path)) := by
            simp [Block.pathText, List.intercalate_cons_cons]
          rw [htext, pathTokens_cons_cons]
          split
          · next hbare =>
            have hmore := ih (List.cons_ne_nil _ _) (hword.append hbare)
            rw [Value.keyText, Quoted.writeKey_of_bare hbare]
            simpa using hmore
          · next hbare =>
            have hmore := ih (List.cons_ne_nil _ _) Begun.single
            have hpoint : Quoted.NoQuote (['.'] ++ (Block.pathText (next :: path) ++ rest)) := by
              intro c hc
              cases hc
              decide
            have hkey := cut_keyText hword hbare hpoint hmore
            simpa using hkey

end

/-! ## reading -/

section

variable {word : List Char} {pieces : List Piece} {path : List String}

/-- The pieces of a word come before the others. -/
theorem pieces?_word (h : piecesOf? word = some pieces) (ts : List Token) :
    pieces? (.word word :: ts) = (pieces? ts).map fun read => (pieces ++ read.1, read.2) := by
  rw [pieces?, h]
  cases pieces? ts <;> rfl

/-- A quoted text is one name. -/
theorem pieces?_text (key : String) (ts : List Token) :
    pieces? (.text key.toList false :: ts) =
      (pieces? ts).map fun read => (.name key :: read.1, read.2) := by
  rw [pieces?, String.ofList_toList]
  cases pieces? ts <;> rfl

/-- The pieces of a word that was begun come before the others. -/
theorem pieces?_wordTokens (h : Begun word pieces) (ts : List Token) :
    pieces? (wordTokens word ++ ts) =
      (pieces? ts).map fun read => (pieces ++ read.1, read.2) := by
  rw [wordTokens]
  cases word with
  | nil =>
      have hnil : pieces = [] := (Option.some.inj h.piecesOf?_word).symm
      subst hnil
      simp
  | cons c word => exact pieces?_word h.piecesOf?_word ts

/-- The pieces of a path stand in front of those that follow. -/
theorem pieces?_pathTokens (hpath : path ≠ []) (hword : Begun word pieces) (ts : List Token) :
    pieces? (pathTokens word path ++ ts) =
      (pieces? ts).map fun read => (pieces ++ (pathPieces path ++ read.1), read.2) := by
  induction path generalizing word pieces with
  | nil => exact absurd rfl hpath
  | cons key path ih =>
      cases path with
      | nil =>
          rw [pathTokens, pathPieces]
          split
          · next hbare =>
            have hread := pieces?_word (hword.piecesOf?_append hbare) ts
            simpa using hread
          · rw [List.append_assoc, pieces?_wordTokens hword, List.singleton_append, pieces?_text]
            cases pieces? ts <;> rfl
      | cons next path =>
          rw [pathTokens_cons_cons, pathPieces]
          split
          · next hbare =>
            rw [ih (List.cons_ne_nil _ _) (hword.append hbare)]
            simp
          · rw [List.append_assoc, pieces?_wordTokens hword, List.cons_append, pieces?_text,
              ih (List.cons_ne_nil _ _) Begun.single]
            cases pieces? ts <;> rfl
          · exact nofun

/-- The pieces of a path name its keys. -/
theorem names?_pathPieces (hpath : path ≠ []) : names? (pathPieces path) = some path := by
  induction path with
  | nil => exact absurd rfl hpath
  | cons key path ih =>
      cases path with
      | nil => rfl
      | cons next path =>
          rw [pathPieces, names?, ih (List.cons_ne_nil _ _)]
          · rfl
          · exact nofun

/-- A path is read as a key, unless it has too many parts. -/
theorem key?_pathTokens {front : List String} {last : String} {ts rest : List Token}
    (hrest : pieces? ts = some ([], rest)) :
    key? (pathTokens [] (front ++ [last]) ++ ts) =
      if front.length + 1 < depthLimit then some (⟨front, last⟩, rest) else none := by
  have hpath : front ++ [last] ≠ [] := by simp
  have hpieces := pieces?_pathTokens hpath Begun.nothing ts
  rw [hrest, Option.map_some, List.nil_append, List.append_nil] at hpieces
  rw [key?, hpieces]
  simp [names?_pathPieces hpath]

end

end SearchRelay.Toml.Line
