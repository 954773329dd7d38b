import SearchRelay.FieldPath
import SearchRelay.Proofs.Json.Ordered
import SearchRelay.Proofs.Text.Split

/-!
# SearchRelay.Proofs.FieldPath

Which of the paths that a document is listed with lead to a text.

A route goes into a document by keys and by items of arrays (`Leads`).  The list of
paths knows every route to a leaf, whatever arrays and keys it passes; a path that
is followed takes one array at most after each key, and no key with a dot but the
last (`Reaches`).

1. `listedBelow_mem_leavesAt` — the path of a route to a leaf is listed.
2. `exists_reaches_of_follow?`, `isSome_follow?_of_reaches` — following a path is
   reaching an object whose last key holds a text (`candidate?_isSome_iff`).
3. `Leads.exists_reaches` — a route that is plain is such a way.

`candidate?_listed_isSome_iff` compares the two for a leaf that is a text.
-/

namespace SearchRelay.FieldPath

open Text

/-! ## written paths -/

theorem toList_written (path : FieldPath) :
    (written path).toList = List.intercalate ['.'] (path.map String.toList) := by
  rw [written, String.toList_intercalate]
  rfl

/-- Written again, the segments of a path give its text. -/
theorem written_ofString (text : String) : written (ofString text) = text := by
  rw [← String.toList_inj, toList_written, ofString, List.map_map]
  simpa using intercalate_splitBy '.' text.toList

theorem written_singleton (text : String) : written [text] = text := by
  rw [← String.toList_inj, toList_written]
  simp

/-- The first segments of a path may be put together. -/
theorem written_cons_cons (first next : String) (rest : FieldPath) :
    written (first :: next :: rest) = written ((first ++ "." ++ next) :: rest) := by
  rw [← String.toList_inj, toList_written, toList_written]
  cases rest <;> simp [List.intercalate_cons_of_ne_nil]

/-- The last segments of a path may be put together. -/
theorem written_append_written (front : FieldPath) {last : FieldPath} (hlast : last ≠ []) :
    written (front ++ [written last]) = written (front ++ last) := by
  have hmap : last.map String.toList ≠ [] := by simpa using hlast
  rw [← String.toList_inj, toList_written, toList_written, List.map_append, List.map_append]
  cases front with
  | nil => simp [toList_written]
  | cons segment front =>
      rw [intercalate_append (by simp) (by simp), intercalate_append (by simp) hmap]
      simp [toList_written]

/-- Even the empty text is a path of one segment. -/
theorem ofString_ne_nil (text : String) : ofString text ≠ [] := by
  simpa [ofString] using splitBy_ne_nil _ text.toList

/-- A segment has no dot. -/
theorem dot_notMem_of_mem_ofString {text segment : String} (h : segment ∈ ofString text) :
    '.' ∉ segment.toList := by
  obtain ⟨piece, hpiece, rfl⟩ := List.mem_map.mp h
  rw [String.toList_ofList]
  intro hdot
  simpa using splitBy_forall _ text.toList piece hpiece '.' hdot

/-- A key without a dot is a segment of its own. -/
theorem ofString_written_append {keys : List String} (hkeys : ∀ key ∈ keys, '.' ∉ key.toList)
    (name : String) : ofString (written (keys ++ [name])) = keys ++ ofString name := by
  induction keys with
  | nil => rfl
  | cons key keys ih =>
      obtain ⟨hkey, hkeys⟩ := List.forall_mem_cons.mp hkeys
      have hpiece : splitBy (· = '.') key.toList = [key.toList] :=
        splitBy_of_forall fun c hc => by
          simpa using fun hdot : c = '.' => hkey (hdot ▸ hc)
      have hne : (keys ++ [name]).map String.toList ≠ [] := by simp
      specialize ih hkeys
      rw [ofString, toList_written] at ih ⊢
      rw [List.cons_append, List.map_cons, List.intercalate_cons_of_ne_nil hne, List.append_assoc,
        List.singleton_append, splitBy_append_cons (by simp), hpiece, List.singleton_append,
        List.map_cons, String.ofList_toList, ih, List.cons_append]

/-- A key with a dot takes up several segments. -/
theorem one_lt_length_ofString_iff (name : String) :
    1 < (ofString name).length ↔ '.' ∈ name.toList := by
  rw [ofString, List.length_map, length_splitBy, Nat.lt_add_left_iff_pos, List.countP_pos_iff]
  simp

/-! ## routes -/

/- A route names every step, arrays included, but its path has the keys only, joined
with dots. Different routes may therefore be listed with one path. -/

/-- A step into a value. -/
inductive Step where
  | key (name : String)
  | item

/-- A route leads from a value to a part of it. -/
inductive Leads : Json → List Step → Json → Prop where
  | here (v : Json) : Leads v [] v
  | key {fields : Json.Fields} {name : String} {v w : Json} {route : List Step}
      (hv : fields.find? name = some v) (h : Leads v route w) :
      Leads (.object fields) (.key name :: route) w
  | item {items : List Json} {v w : Json} {route : List Step} (hv : v ∈ items)
      (h : Leads v route w) : Leads (.array items) (.item :: route) w

/-- The path that a route is listed under, below a path. -/
def listedBelow (path : String) : List Step → String
  | [] => path
  | .key name :: route => listedBelow (below path name) route
  | .item :: route => listedBelow path route

/-- The keys of a route. -/
def keys (route : List Step) : List String :=
  route.filterMap fun
    | .key name => some name
    | .item => none

/-! ## the paths of a document -/

theorem mem_insertOnce {text t : String} {texts : List String} :
    t ∈ insertOnce text texts ↔ t = text ∨ t ∈ texts := by
  induction texts with
  | nil => simp [insertOnce]
  | cons first texts ih =>
      rw [insertOnce]
      split
      · exact List.mem_cons
      · split
        · next htext => simp [htext]
        · rw [List.mem_cons, ih, List.mem_cons, or_left_comm]

/-- Sorting loses no text and brings in none. -/
theorem mem_sortOnce {t : String} {texts : List String} : t ∈ sortOnce texts ↔ t ∈ texts := by
  induction texts with
  | nil => rfl
  | cons text texts ih => rw [sortOnce, List.foldr_cons, mem_insertOnce, List.mem_cons, ← ih]; rfl

/-- The paths below an object are those below its fields. -/
theorem mem_leavesOfFields {path p : String} {fields : Json.Fields} :
    p ∈ leavesOfFields path fields ↔
      ∃ field ∈ fields, p ∈ leavesAt (below path field.1) field.2 := by
  induction fields with
  | nil => simp [leavesOfFields]
  | cons field fields ih => simp [leavesOfFields, ih]

/-- The paths below an array are those below its items. -/
theorem mem_leavesOfItems {path p : String} {items : List Json} :
    p ∈ leavesOfItems path items ↔ ∃ v ∈ items, p ∈ leavesAt path v := by
  induction items with
  | nil => simp [leavesOfItems]
  | cons v items ih => simp [leavesOfItems, ih]

/-- The path of a route to a text is listed. -/
theorem listedBelow_mem_leavesAt {v w : Json} {route : List Step} (h : Leads v route w)
    {text : String} (hw : w = .string text) (path : String) :
    listedBelow path route ∈ leavesAt path v := by
  induction h generalizing path with
  | here => simp [hw, leavesAt, listedBelow]
  | key hv _ ih =>
      rw [leavesAt, listedBelow]
      exact mem_leavesOfFields.mpr ⟨_, Json.Fields.mem_of_find? hv, ih hw _⟩
  | item hv _ ih =>
      rw [leavesAt, listedBelow]
      exact mem_leavesOfItems.mpr ⟨_, hv, ih hw path⟩

/-- Every route to a text is listed. -/
theorem listedBelow_mem_leaves {source : Json.Fields} {route : List Step} {text : String}
    (h : Leads (.object source) route (.string text)) : listedBelow "" route ∈ leaves source := by
  have hmem := listedBelow_mem_leavesAt h rfl ""
  rw [leavesAt] at hmem
  exact mem_sortOnce.mpr hmem

/-! ## the text at a path -/

/- Following a path narrows the value to an object first, and an array is narrowed to
the objects in it. `Enters` is one such step and `Reaches` the way to the last key. -/

/-- One object is below a key of another one, or one of the items there. -/
def Enters (source : Json.Fields) (key : String) (inner : Json.Fields) : Prop :=
  source.find? key = some (.object inner) ∨
    ∃ items, source.find? key = some (.array items) ∧ .object inner ∈ items

/-- Keys lead from one object to another. -/
inductive Reaches : Json.Fields → List String → Json.Fields → Prop where
  | here (source : Json.Fields) : Reaches source [] source
  | enter {source inner target : Json.Fields} {key : String} {keys : List String}
      (hkey : Enters source key inner) (h : Reaches inner keys target) :
      Reaches source (key :: keys) target

/-- A text that a path promises: its segments lead to an object with a key that holds
the text.  Only the last key may have a dot, and then the text is not empty. -/
structure Holds (source : Json.Fields) (query field : String) (front : List String)
    (name text : String) : Prop where
  path : written (front ++ [name]) = field
  undotted : ∀ key ∈ front, '.' ∉ key.toList
  leads : ∃ target value, Reaches source front target ∧ target.find? name = some value ∧
    terminal? query value = some text
  shown : '.' ∈ name.toList → text ≠ ""

variable {query : String} {source : Json.Fields}

/-- When the whole path is a key that gives a text. -/
theorem whole?_eq_some_iff {path : FieldPath} {text : String} :
    whole? query path source = some text ↔
      ∃ value, source.find? path.written = some value ∧ terminal? query value = some text ∧
        text ≠ "" := by
  rw [whole?, Option.filter_eq_some_iff, Option.bind_eq_some_iff]
  constructor
  · rintro ⟨⟨value, hvalue, htext⟩, hne⟩
    exact ⟨value, hvalue, htext, by simpa using hne⟩
  · rintro ⟨value, hvalue, htext, hne⟩
    exact ⟨⟨value, hvalue, htext⟩, by simpa using hne⟩

/-- The objects below a key, through one array at most. -/
def entered (source : Json.Fields) (key : String) : List Json.Fields :=
  match source.find? key with
  | some (.object inner) => [inner]
  | some (.array items) => items.filterMap Json.object?
  | _ => []

/-- The objects that a key enters, through an array or not. -/
theorem mem_entered_iff {key : String} {inner : Json.Fields} :
    inner ∈ entered source key ↔ Enters source key inner := by
  rw [entered, Enters]
  cases source.find? key with
  | none => simp
  | some value =>
      cases value with
      | object fields => simp [eq_comm]
      | array items => simp [Json.object?_eq_some_iff]
      | null | bool _ | number _ | string _ => simp

/-- Items that are no objects are passed over. -/
theorem findSome?_object (f : Json.Fields → Option String) (items : List Json) :
    (items.findSome? fun
        | .object inner => f inner
        | _ => none) = (items.filterMap Json.object?).findSome? f := by
  induction items with
  | nil => rfl
  | cons item items ih =>
      cases item with
      | object inner =>
          have hobject : (Json.object inner).object? = some inner := rfl
          rw [List.findSome?_cons, List.filterMap_cons_some hobject, List.findSome?_cons, ih]
      | null | bool _ | number _ | string _ | array _ => exact ih

/-- A path of several segments is followed by its whole text, or by its first segment
into the objects there. -/
theorem follow?_cons (key next : String) (rest : FieldPath) :
    follow? query (key :: next :: rest) source =
      (whole? query (key :: next :: rest) source).or
        ((entered source key).findSome? (follow? query (next :: rest))) := by
  rw [follow?, entered]
  cases source.find? key with
  | none => rfl
  | some value =>
      cases value with
      | object inner => simp
      | array items => exact congrArg _ (findSome?_object _ items)
      | null | bool _ | number _ | string _ => rfl

/-- A path that is followed to a text leads through its first segments to an object,
and the rest of it is a key there with a value of that text; a text for several
segments is not empty. -/
theorem exists_reaches_of_follow? {path : FieldPath} {text : String}
    (h : follow? query path source = some text) :
    ∃ front last target value, path = front ++ last ∧ last ≠ [] ∧ Reaches source front target ∧
      target.find? (written last) = some value ∧ terminal? query value = some text ∧
        (1 < last.length → text ≠ "") := by
  induction path generalizing source with
  | nil => contradiction
  | cons key path ih =>
      cases path with
      | nil =>
          obtain ⟨value, hvalue, htext⟩ := Option.bind_eq_some_iff.mp h
          rw [← written_singleton key] at hvalue
          exact ⟨[], [key], source, value, rfl, List.cons_ne_nil _ _, .here source, hvalue, htext,
            fun hlong => absurd hlong (by simp)⟩
      | cons next rest =>
          rw [follow?_cons, Option.or_eq_some_iff] at h
          rcases h with hwhole | ⟨-, hbelow⟩
          · obtain ⟨value, hvalue, htext, hne⟩ := whole?_eq_some_iff.mp hwhole
            exact ⟨[], _, source, value, rfl, List.cons_ne_nil _ _, .here source, hvalue, htext,
              fun _ => hne⟩
          · obtain ⟨inner, hinner, hfollow⟩ := List.exists_of_findSome?_eq_some hbelow
            obtain ⟨front, last, target, value, hpath, hlast, hreaches, hrest⟩ := ih hfollow
            exact ⟨key :: front, last, target, value, congrArg (key :: ·) hpath, hlast,
              .enter (mem_entered_iff.mp hinner) hreaches, hrest⟩

/-- Keys that lead to an object with a text can be followed. -/
theorem isSome_follow?_of_reaches {front last : FieldPath} {target : Json.Fields} {value : Json}
    {text : String} (h : Reaches source front target) (hlast : last ≠ [])
    (hvalue : target.find? (written last) = some value)
    (htext : terminal? query value = some text) (hne : 1 < last.length → text ≠ "") :
    (follow? query (front ++ last) source).isSome := by
  induction h with
  | here source =>
      cases last with
      | nil => exact absurd rfl hlast
      | cons key rest =>
          cases rest with
          | nil =>
              rw [written_singleton] at hvalue
              exact Option.isSome_of_eq_some (Option.bind_eq_some_iff.mpr ⟨value, hvalue, htext⟩)
          | cons next rest =>
              have hwhole := whole?_eq_some_iff.mpr ⟨value, hvalue, htext, hne (by simp)⟩
              rw [List.nil_append, follow?_cons, hwhole, Option.some_or]
              rfl
  | @enter source inner target key keys henters h ih =>
      cases hrest : keys ++ last with
      | nil => exact absurd (List.append_eq_nil_iff.mp hrest).2 hlast
      | cons next rest =>
          rw [hrest] at ih
          rw [List.cons_append, hrest, follow?_cons, Option.isSome_or, Bool.or_eq_true]
          exact .inr (List.findSome?_isSome_iff.mpr
            ⟨inner, mem_entered_iff.mpr henters, ih hvalue⟩)

/-- A path is followed to where its segments reach an object and what is left of
them is a key that holds a text; a text for several segments is not empty. -/
theorem follow?_isSome_iff {path : FieldPath} :
    (follow? query path source).isSome ↔
      ∃ front last target value text, path = front ++ last ∧ last ≠ [] ∧
        Reaches source front target ∧ target.find? (written last) = some value ∧
        terminal? query value = some text ∧ (1 < last.length → text ≠ "") := by
  constructor
  · intro h
    obtain ⟨text, htext⟩ := Option.isSome_iff_exists.mp h
    obtain ⟨front, last, target, value, hrest⟩ := exists_reaches_of_follow? htext
    exact ⟨front, last, target, value, text, hrest⟩
  · rintro ⟨front, last, target, value, text, rfl, hlast, hreaches, hvalue, htext, hne⟩
    exact isSome_follow?_of_reaches hreaches hlast hvalue htext hne

/-- A candidate is found exactly where a path promises a text. -/
theorem candidate?_isSome_iff {field : String} :
    (candidate? source field query).isSome ↔
      ∃ front name text, Holds source query field front name text := by
  rw [candidate?, follow?_isSome_iff]
  constructor
  · rintro ⟨front, last, target, value, text, hpath, hlast, hreaches, hvalue, htext, hne⟩
    refine ⟨front, written last, text, ?_, fun key hkey => ?_,
      ⟨target, value, hreaches, hvalue, htext⟩, fun hdot => hne ?_⟩
    · rw [written_append_written front hlast, ← hpath, written_ofString]
    · exact dot_notMem_of_mem_ofString (hpath ▸ List.mem_append_left last hkey)
    · -- a single segment has no dot
      by_contra hshort
      obtain ⟨segment, rfl⟩ := List.length_eq_one_iff.mp
        (Nat.le_antisymm (Nat.le_of_not_lt hshort) (List.length_pos_iff.mpr hlast))
      have hmem : segment ∈ ofString field := by simp [hpath]
      exact dot_notMem_of_mem_ofString hmem hdot
  · rintro ⟨front, name, text, rfl, hfront, ⟨target, value, hreaches, hvalue, htext⟩, hne⟩
    refine ⟨front, ofString name, target, value, text, ofString_written_append hfront name,
      ofString_ne_nil name, hreaches, ?_, htext, ?_⟩
    · rwa [written_ofString]
    · rwa [one_lt_length_ofString_iff]

/-! ## plain routes -/

/- Following a path takes one array at most after each key, so a route with an array
inside another one cannot be retraced. A plain one can, if its keys are those that the
path is cut into. -/

/-- A route that passes one array at most after each key. -/
inductive Plain : List Step → Prop where
  | text (name : String) : Plain [.key name]
  | texts (name : String) : Plain [.key name, .item]
  | object (name : String) {route : List Step} (h : Plain route) : Plain (.key name :: route)
  | array (name : String) {route : List Step} (h : Plain route) :
      Plain (.key name :: .item :: route)

/-- A plain route begins with a key. -/
theorem Leads.exists_object {route : List Step} (hplain : Plain route) {v w : Json}
    (h : Leads v route w) : ∃ fields, v = .object fields := by
  cases hplain <;> cases h <;> exact ⟨_, rfl⟩

/-- A plain route to a text is one that a path can follow. -/
theorem Leads.exists_reaches {route : List Step} (hplain : Plain route) {text : String}
    (h : Leads (.object source) route (.string text)) :
    ∃ front name target value, keys route = front ++ [name] ∧ Reaches source front target ∧
      target.find? name = some value ∧ ∀ query, (terminal? query value).isSome := by
  induction hplain generalizing source with
  | text name =>
      obtain - | ⟨hv, - | -⟩ := h
      exact ⟨[], name, source, _, rfl, .here source, hv, fun _ => rfl⟩
  | texts name =>
      obtain - | ⟨hv, - | - | ⟨hitem, - | -⟩⟩ := h
      refine ⟨[], name, source, _, rfl, .here source, hv, fun query => ?_⟩
      rw [terminal?, narrow?, Option.isSome_or, Bool.or_eq_true]
      refine .inr ?_
      rw [List.isSome_head?, ne_eq]
      exact List.ne_nil_of_mem (List.mem_filterMap.mpr ⟨_, hitem, rfl⟩)
  | object name hplain ih =>
      obtain - | ⟨hv, hrest⟩ := h
      obtain ⟨inner, rfl⟩ := hrest.exists_object hplain
      obtain ⟨front, last, target, value, hkeys, hreaches, hfound⟩ := ih hrest
      exact ⟨name :: front, last, target, value, congrArg (name :: ·) hkeys,
        .enter (.inl hv) hreaches, hfound⟩
  | array name hplain ih =>
      obtain - | ⟨hv, - | - | ⟨hitem, hrest⟩⟩ := h
      obtain ⟨inner, rfl⟩ := hrest.exists_object hplain
      obtain ⟨front, last, target, value, hkeys, hreaches, hfound⟩ := ih hrest
      exact ⟨name :: front, last, target, value, congrArg (name :: ·) hkeys,
        .enter (.inr ⟨_, hv, hitem⟩) hreaches, hfound⟩

/-- Below a path that is not empty the keys of a route are joined by dots. -/
theorem listedBelow_eq {path : String} (hpath : path ≠ "") (route : List Step) :
    listedBelow path route = written (path :: keys route) := by
  induction route generalizing path with
  | nil => exact (written_singleton path).symm
  | cons step route ih =>
      cases step with
      | item => exact ih hpath
      | key name =>
          have hbelow : below path name = path ++ "." ++ name := by
            rw [below, if_neg (by simpa using hpath)]
          rw [listedBelow, hbelow, ih (by simp), ← written_cons_cons]
          rfl

/-- So they are for a plain route if its first key is not empty. -/
theorem Plain.listedBelow_eq_written {route : List Step} (h : Plain route)
    (hfirst : (keys route).head? ≠ some "") : listedBelow "" route = written (keys route) := by
  obtain ⟨name, route, rfl⟩ : ∃ name rest, route = .key name :: rest := by
    cases h <;> exact ⟨_, _, rfl⟩
  have hname : name ≠ "" := fun hnil => hfirst (congrArg some hnil)
  exact listedBelow_eq hname route

/-- **Paths that are listed and candidates**: the path of a route to a text is listed;
following it gives a candidate if and only if the path promises some text, and so it
does if the route is plain, its keys have no dots and the first one is not empty. -/
theorem candidate?_listed_isSome_iff {route : List Step} {text : String}
    (hleaf : Leads (.object source) route (.string text)) (query : String) :
    listedBelow "" route ∈ leaves source ∧
      ((candidate? source (listedBelow "" route) query).isSome ↔
        ∃ front name found, Holds source query (listedBelow "" route) front name found) ∧
      (Plain route → (∀ name ∈ keys route, '.' ∉ name.toList) → (keys route).head? ≠ some "" →
        (candidate? source (listedBelow "" route) query).isSome) := by
  refine ⟨listedBelow_mem_leaves hleaf, candidate?_isSome_iff, fun hplain hdots hfirst => ?_⟩
  obtain ⟨front, name, target, value, hkeys, hreaches, hvalue, hfound⟩ :=
    hleaf.exists_reaches hplain
  obtain ⟨found, hfound⟩ := Option.isSome_iff_exists.mp (hfound query)
  rw [hkeys] at hdots
  refine candidate?_isSome_iff.mpr ⟨front, name, found, ?_, fun key hkey => ?_,
    ⟨target, value, hreaches, hvalue, hfound⟩, fun hdot => ?_⟩
  · rw [← hkeys, hplain.listedBelow_eq_written hfirst]
  · exact hdots key (List.mem_append_left _ hkey)
  · exact absurd hdot (hdots name (by simp))

/-- A text at the top of a document is listed and found. -/
theorem candidate?_listed_isSome_iff_title :
    Leads (.object [("title", .string "blue phone")]) [.key "title"] (.string "blue phone") ∧
      listedBelow "" [.key "title"] ∈ leaves [("title", .string "blue phone")] ∧
      ((candidate? [("title", .string "blue phone")] (listedBelow "" [.key "title"]) "ph").isSome ↔
        ∃ front name found, Holds [("title", .string "blue phone")] "ph"
          (listedBelow "" [.key "title"]) front name found) ∧
      (Plain [.key "title"] → (∀ name ∈ keys [.key "title"], '.' ∉ name.toList) →
        (keys [.key "title"]).head? ≠ some "" →
          (candidate? [("title", .string "blue phone")] (listedBelow "" [.key "title"])
            "ph").isSome) := by
  have hleaf : Leads (.object [("title", .string "blue phone")]) [.key "title"]
      (.string "blue phone") := .key rfl (.here _)
  exact ⟨hleaf, candidate?_listed_isSome_iff hleaf "ph"⟩

/-- A text in an array within an array. -/
def nestedTags : Json.Fields := [("tags", .array [.array [.string "blue"]])]

/-- A text below a key with a dot. -/
def dottedKey : Json.Fields := [("a.b", .object [("c", .string "blue")])]

/-- A text below an empty key. -/
def emptyKey : Json.Fields := [("", .object [("a", .string "blue")])]

/-- Neither a second array nor a dot in a key on the way nor an empty first key keeps
a path from being listed, but each of them keeps it from leading to its text. -/
theorem listed_without_candidate :
    (Leads (.object nestedTags) [.key "tags", .item, .item] (.string "blue") ∧
        leaves nestedTags = ["tags"] ∧ candidate? nestedTags "tags" "blue" = none) ∧
      (Leads (.object dottedKey) [.key "a.b", .key "c"] (.string "blue") ∧
        leaves dottedKey = ["a.b.c"] ∧ candidate? dottedKey "a.b.c" "blue" = none) ∧
      Leads (.object emptyKey) [.key "", .key "a"] (.string "blue") ∧
        leaves emptyKey = ["a"] ∧ candidate? emptyKey "a" "blue" = none := by
  refine ⟨⟨?_, by decide +kernel, by decide +kernel⟩, ⟨?_, by decide +kernel, by decide +kernel⟩,
    ?_, by decide +kernel, by decide +kernel⟩
  · exact .key rfl (.item (List.mem_singleton_self _) (.item (List.mem_singleton_self _) (.here _)))
  · exact .key rfl (.key rfl (.here _))
  · exact .key rfl (.key rfl (.here _))

end SearchRelay.FieldPath
