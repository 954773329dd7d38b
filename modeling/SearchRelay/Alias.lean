import SearchRelay.Error

/-!
# SearchRelay.Alias

Names of indices and the aliases under which clients know them.

1. `Alias.Table` is a list of pairs in which no index and no alias occurs
   twice, which `Table.insert` keeps.
2. `Alias.plan` gives the substitutions for the names that a search asks for:
   each index by its alias, and behind an alias the index by it.
3. `Alias.translate` goes through a text once.  Where a quoted name of a
   substitution begins, the longest one is replaced, and what was put in is
   not looked at again.  A text may consist of bytes or of characters.
-/

namespace SearchRelay.Alias

/-! ## Table -/

/-- Why a list of pairs is no table. -/
inductive Fault where
  | aliasTaken (name : String)
  | indexTaken (index : String)
  deriving DecidableEq

def Fault.reason : Fault → String
  | .aliasTaken name => "alias `" ++ name ++ "` is assigned to more than one index"
  | .indexTaken index => "index `" ++ index ++ "` has more than one alias"

def Fault.error (fault : Fault) : Error := .config fault.reason

/-- No index and no alias occurs twice. -/
structure Distinct (pairs : List (String × String)) : Prop where
  indices : (pairs.map Prod.fst).Nodup
  aliases : (pairs.map Prod.snd).Nodup

theorem distinct_iff {pairs : List (String × String)} :
    Distinct pairs ↔ (pairs.map Prod.fst).Nodup ∧ (pairs.map Prod.snd).Nodup :=
  ⟨fun h => ⟨h.indices, h.aliases⟩, fun h => ⟨h.1, h.2⟩⟩

instance (pairs : List (String × String)) : Decidable (Distinct pairs) :=
  decidable_of_iff _ distinct_iff.symm

/-- A pair is added where neither its index nor its alias occurs. -/
theorem distinct_concat_iff {pairs : List (String × String)} {entry : String × String} :
    Distinct (pairs ++ [entry]) ↔
      Distinct pairs ∧ entry.1 ∉ pairs.map Prod.fst ∧ entry.2 ∉ pairs.map Prod.snd := by
  have hnew : ∀ {names : List String} {name : String},
      (names ++ [name]).Nodup ↔ names.Nodup ∧ name ∉ names := by
    intro names name
    rw [List.nodup_append]
    simp only [List.mem_singleton, forall_eq]
    exact ⟨fun ⟨h, _, hne⟩ => ⟨h, fun hmem => hne name hmem rfl⟩,
      fun ⟨h, hnot⟩ => ⟨h, by simp, fun a ha heq => hnot (heq ▸ ha)⟩⟩
  simp only [distinct_iff, List.map_append, List.map_cons, List.map_nil, hnew]
  exact ⟨fun ⟨⟨hi, hindex⟩, ha, halias⟩ => ⟨⟨hi, ha⟩, hindex, halias⟩,
    fun ⟨⟨hi, ha⟩, hindex, halias⟩ => ⟨⟨hi, hindex⟩, ha, halias⟩⟩

/-- A table of indices, each with its alias.  One list stands for the maps of
both directions, as no index and no alias occurs twice in it. -/
@[ext]
structure Table where
  pairs : List (String × String)
  distinct : Distinct pairs

namespace Table

def empty : Table := ⟨[], List.nodup_nil, List.nodup_nil⟩

def aliasOf? (t : Table) (index : String) : Option String := t.pairs.lookup index

def indexOf? (t : Table) (name : String) : Option String :=
  (t.pairs.find? (·.2 = name)).map Prod.fst

def size (t : Table) : Nat := t.pairs.length

def isEmpty (t : Table) : Bool := t.pairs.isEmpty

/-- Just the indices of the pairs have an alias. -/
theorem isSome_aliasOf?_iff (t : Table) (index : String) :
    (t.aliasOf? index).isSome = true ↔ index ∈ t.pairs.map Prod.fst := by
  constructor
  · intro h
    obtain ⟨name, hname⟩ := Option.isSome_iff_exists.mp h
    obtain ⟨before, after, hsplit, -⟩ := List.lookup_eq_some_iff.mp hname
    simp [hsplit]
  · intro h
    obtain ⟨pair, hpair, rfl⟩ := List.mem_map.mp h
    cases hname : t.aliasOf? pair.1 with
    | some name => rfl
    | none => simpa using List.lookup_eq_none_iff.mp hname pair hpair

/-- Just the aliases of the pairs stand for an index. -/
theorem isSome_indexOf?_iff (t : Table) (name : String) :
    (t.indexOf? name).isSome = true ↔ name ∈ t.pairs.map Prod.snd := by
  simp [indexOf?, List.find?_isSome]

/-- Adds an entry, if neither its alias nor its index is taken. -/
def insert (t : Table) (entry : String × String) : Except Fault Table :=
  if halias : (t.indexOf? entry.2).isSome then .error (.aliasTaken entry.2)
  else if hindex : (t.aliasOf? entry.1).isSome then .error (.indexTaken entry.1)
  else .ok ⟨t.pairs ++ [entry], distinct_concat_iff.mpr ⟨t.distinct,
    mt (t.isSome_aliasOf?_iff entry.1).mpr hindex, mt (t.isSome_indexOf?_iff entry.2).mpr halias⟩⟩

/-- The table of a list of pairs, each an index and its alias. -/
def ofPairs (pairs : List (String × String)) : Except Fault Table := pairs.foldlM insert empty

end Table

/-! ## Substitutions -/

/-- A name, and the name that takes its place. -/
structure Substitution (α : Type) where
  source : List α
  target : List α
  deriving DecidableEq

namespace Substitution

variable {α : Type}

/-- The way back. -/
def inverse (s : Substitution α) : Substitution α := ⟨s.target, s.source⟩

/-- A name in quotes. -/
def quoteName (mark : α) (name : List α) : List α := mark :: (name ++ [mark])

def matchesAt [DecidableEq α] (mark : α) (s : Substitution α) (text : List α) : Bool :=
  (quoteName mark s.source).isPrefixOf text

/-- Takes a substitution if it matches and is longer than the best so far. -/
def better [DecidableEq α] (mark : α) (text : List α) (best : Option (Substitution α))
    (s : Substitution α) : Option (Substitution α) :=
  if s.matchesAt mark text ∧ best.all fun b => b.source.length < s.source.length then some s
  else best

/-- The longest substitution that matches at the front of a text. -/
def longest? [DecidableEq α] (mark : α) (subs : List (Substitution α)) (text : List α) :
    Option (Substitution α) := subs.foldl (better mark text) none

end Substitution

open Substitution in
/-- Replaces quoted names in a text, from left to right.  The first `skip`
items were replaced already. -/
def translateFrom {α : Type} [DecidableEq α] (mark : α) (subs : List (Substitution α)) :
    (skip : Nat) → List α → List α
  | _, [] => []
  | skip + 1, _ :: rest => translateFrom mark subs skip rest
  | 0, a :: rest =>
    match longest? mark subs (a :: rest) with
    | some s => quoteName mark s.target ++ translateFrom mark subs (s.source.length + 1) rest
    | none => a :: translateFrom mark subs 0 rest

/-- The quotation mark in UTF-8. -/
def mark : UInt8 := 34

/-- Replaces quoted names in a text in UTF-8. -/
def translate (subs : List (Substitution UInt8)) (text : List UInt8) : List UInt8 :=
  translateFrom mark subs 0 text

/-! ## Plan -/

def utf8 (text : String) : List UInt8 := text.toUTF8.toList

def Substitution.ofNames (source target : String) : Substitution UInt8 :=
  ⟨utf8 source, utf8 target⟩

/-- The substitution for a name that a search asks for. -/
def substitution? (t : Table) (name : String) : Option (Substitution UInt8) :=
  match t.aliasOf? name, t.indexOf? name with
  | some target, _ => some (.ofNames name target)
  | none, some index => some (.ofNames index name)
  | none, none => none

/-- Adds the substitution for a name, unless it changes nothing or its source
has one already. -/
def addTo (t : Table) (subs : List (Substitution UInt8)) (name : String) :
    List (Substitution UInt8) :=
  match substitution? t name with
  | none => subs
  | some s =>
    if s.source = s.target ∨ subs.any (·.source = s.source) then subs else subs ++ [s]

/-- The substitutions for the names that a search asks for. -/
def plan (names : List String) (t : Table) : List (Substitution UInt8) :=
  names.foldl (addTo t) []

end SearchRelay.Alias
