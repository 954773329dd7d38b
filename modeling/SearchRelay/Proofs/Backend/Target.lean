import Mathlib.Data.List.Flatten
import SearchRelay.Proofs.Retry
import SearchRelay.Proofs.Url.Parse

/-!
# SearchRelay.Proofs.Backend.Target

Where a request to the backend goes.

The address of a batch is put together as a text: the base address, the names
of the indices, and `_msearch`.  What is asked is what this text is read as.

1. `address_of_plain`, `address_of_marked` — the text behind the authority: the
   segments of the base address and the names, or all of them behind the query
   or in the fragment of the base address;
2. `oneSegment_of_path` — if a name is read as one segment, it has no character
   that ends or separates segments, nothing in it is decoded, and it is no
   dots;
3. `targetLaw_iff` — so a request keeps the segments of the base address, has
   the names as the one segment behind them, and no query, if and only if the
   base address has neither a query nor a fragment and the names are such a
   segment.
-/

namespace SearchRelay.Url

open Text Text.Utf8

/-! ## the base address -/

/-- The segments of a path but for empty ones at its end. -/
def baseSegments (u : Url) : List (List Char) := u.path.rdropWhile List.isEmpty

theorem baseSegments_prefix (u : Url) : u.baseSegments <+: u.path :=
  List.rdropWhile_prefix List.isEmpty u.path

/-- No character of a segment ends it. -/
theorem IsSegment.notMem_delimiters {s : List Char} (h : IsSegment s) :
    ∀ c ∈ s, c ∉ delimiters := by
  intro c hc
  have hall : delimiters.all (fun d => inPathSet d || isSlash .web d) = true := by decide
  exact Url.notMem_delimiters hall (by simp [h c hc])

section

variable {path : List (List Char)} (h : ∀ s ∈ path, IsSegment s)

include h

/-- The characters of a path: slashes, and others that are no delimiters. -/
theorem mem_flatMap_slash {c : Char} (hc : c ∈ path.flatMap ('/' :: ·)) :
    c = '/' ∨ c ∉ delimiters := by
  obtain ⟨s, hs, hc⟩ := List.mem_flatMap.mp hc
  exact (List.mem_cons.mp hc).imp_right ((h s hs).notMem_delimiters c)

theorem notMem_flatMap_slash {mark : Char} (hmark : mark ∈ delimiters) (hne : mark ≠ '/') :
    mark ∉ path.flatMap ('/' :: ·) := fun hmem =>
  (mem_flatMap_slash h hmem).elim hne fun hnot => hnot hmark

/-- A path that was read holds no line breaks to drop. -/
theorem filter_flatMap_slash :
    (path.flatMap ('/' :: ·)).filter (fun c => !isLineBreak c) = path.flatMap ('/' :: ·) := by
  refine List.filter_eq_self.mpr fun c hc => ?_
  rcases mem_flatMap_slash h hc with rfl | hnot
  · rfl
  · rw [(notMem_delimiters_iff.mp hnot).2]
    rfl

/-- Without slashes at its end a path loses its last segments as far as they are
empty. -/
theorem withoutSlashes_flatMap {front : List Char} (hfront : front.getLast? ≠ some '/') :
    Backend.Settings.withoutSlashes (front ++ path.flatMap ('/' :: ·)) =
      front ++ (path.rdropWhile List.isEmpty).flatMap ('/' :: ·) := by
  change (front ++ path.flatMap ('/' :: ·)).rdropWhile (· = '/') = _
  induction path using List.reverseRecOn with
  | nil =>
      rw [List.rdropWhile_nil, List.flatMap_nil, List.append_nil, List.rdropWhile_eq_self_iff]
      intro hne heq
      exact hfront (by rw [List.getLast?_eq_some_getLast hne, of_decide_eq_true heq])
  | append_singleton path s ih =>
      obtain ⟨hpath, hs⟩ := List.forall_mem_append.mp h
      rw [List.forall_mem_singleton] at hs
      rw [List.flatMap_append, List.flatMap_singleton, ← List.append_assoc]
      rcases List.eq_nil_or_concat s with rfl | ⟨t, c, rfl⟩
      · rw [List.rdropWhile_concat_pos _ _ _ rfl, List.rdropWhile_concat_pos _ _ _ rfl, ih hpath]
      · rw [List.concat_eq_append] at hs ⊢
        have hc : c ≠ '/' := by
          rintro rfl
          exact hs.notMem_delimiters '/' (by simp) (by decide)
        rw [List.rdropWhile_concat_neg _ path (t ++ [c]) (by simp), List.flatMap_append,
          List.flatMap_singleton, ← List.cons_append, ← List.append_assoc,
          List.rdropWhile_concat_neg _ _ c (by simpa using hc)]
        simp

end

/-- Another mark than a slash stays, and what is in front of it. -/
theorem exists_withoutSlashes {mark : Char} (hmark : mark ≠ '/') (front rest : List Char) :
    ∃ more, Backend.Settings.withoutSlashes (front ++ mark :: rest) = front ++ mark :: more := by
  change ∃ more, (front ++ mark :: rest).rdropWhile (· = '/') = front ++ mark :: more
  induction rest using List.reverseRecOn with
  | nil => exact ⟨[], List.rdropWhile_concat_neg _ front mark (by simpa using hmark)⟩
  | append_singleton rest c ih =>
      rw [← List.cons_append, ← List.append_assoc]
      by_cases hc : c = '/'
      · rw [List.rdropWhile_concat_pos _ _ c (by simpa using hc)]
        exact ih
      · rw [List.rdropWhile_concat_neg _ _ c (by simpa using hc)]
        exact ⟨rest ++ [c], by simp⟩

/-- The text in front of a path does not end in a slash. -/
theorem getLast?_origin {u : Url} (h : Parsed u) : u.origin.getLast? ≠ some '/' := by
  intro hlast
  have hmem : '/' ∈ u.authorityText := by
    obtain ⟨text, c, htext⟩ :=
      (List.eq_nil_or_concat u.authorityText).resolve_left h.authority_ne_nil
    rw [List.concat_eq_append] at htext
    have horigin : u.origin = (u.scheme.toList ++ ':' :: '/' :: '/' :: text) ++ [c] := by
      simp [origin, htext]
    rw [horigin, List.getLast?_concat] at hlast
    cases hlast
    simp [htext]
  exact h.authority '/' hmem (by decide)

end SearchRelay.Url

namespace SearchRelay.Backend

open Url Text Text.Utf8

/-! ## the address of a batch -/

/- The names and `_msearch` are put behind the text of the base address, less its slashes
at the end.  If that is a path, they become segments of it, and if it is a query or a
fragment, they become part of that.  Only in the first case can a request keep its
target. -/

/-- What is asked of the indices. -/
def endpoint : List Char := "_msearch".toList

theorem encodeWith_endpoint : encodeWith inPathSet endpoint = endpoint := rfl

/-- The last segment stands for itself. -/
theorem noDots_endpoint : NoDots endpoint := by decide

def joined (indices : List String) : List Char := (",".intercalate indices).toList

/-- The text that is put behind the base address. -/
def appended (indices : List String) : List Char :=
  (if indices.isEmpty then [] else '/' :: joined indices) ++ '/' :: endpoint

theorem appended_nil : appended [] = '/' :: endpoint := rfl

theorem appended_of_ne_nil {indices : List String} (h : indices ≠ []) :
    appended indices = '/' :: (joined indices ++ '/' :: endpoint) := by
  rw [appended, if_neg (by simpa using h), List.cons_append]

theorem head?_appended (indices : List String) : (appended indices).head? = some '/' := by
  unfold appended
  split <;> rfl

/-- Whatever the indices, the address ends in a letter. -/
theorem getLast?_appended (indices : List String) : (appended indices).getLast? = some 'h' := by
  rw [appended, List.getLast?_append_cons]
  rfl

variable {base u : Url} {indices : List String}

/-- An address is the text of the base without slashes at its end, and what is appended.
-/
theorem address_eq (base : Url) (indices : List String) :
    Settings.address base indices = Settings.withoutSlashes base.text ++ appended indices := by
  unfold Settings.address appended
  rw [← List.append_assoc]
  rfl

/-- Without a query and a fragment in the base, the text of its path is followed by what
is appended. -/
theorem address_of_plain (hbase : Parsed base) (hquery : base.query = none)
    (hfragment : base.fragment = none) :
    Settings.address base indices =
      base.origin ++ (base.baseSegments.flatMap ('/' :: ·) ++ appended indices) := by
  have htext : base.text = base.origin ++ base.path.flatMap ('/' :: ·) := by
    rw [text_eq, target_eq hbase.path, hquery, hfragment, Option.elim_none, Option.elim_none,
      List.append_nil, List.append_nil]
  rw [address_eq, htext, withoutSlashes_flatMap hbase.path.segment (getLast?_origin hbase),
    List.append_assoc]
  rfl

/-- With a query or a fragment in the base address everything else comes behind
it. -/
theorem address_of_marked (hbase : Parsed base) (h : base.query ≠ none ∨ base.fragment ≠ none) :
    ∃ mark more, (mark = '?' ∨ mark = '#' ∧ base.query = none) ∧
      Settings.address base indices =
        base.origin ++ (base.path.flatMap ('/' :: ·) ++ mark :: (more ++ appended indices)) := by
  have hmarked : ∃ mark rest, (mark = '?' ∨ mark = '#' ∧ base.query = none) ∧ base.text =
      (base.origin ++ base.path.flatMap ('/' :: ·)) ++ mark :: rest := by
    rw [text_eq, target_eq hbase.path]
    cases hquery : base.query with
    | some query =>
        refine ⟨'?', query ++ base.fragment.elim [] ('#' :: ·), .inl rfl, ?_⟩
        rw [Option.elim_some, ← List.append_assoc, List.append_assoc, List.cons_append]
    | none =>
        cases hfragment : base.fragment with
        | none => exact absurd hfragment (h.resolve_left (not_not_intro hquery))
        | some fragment =>
            refine ⟨'#', fragment, .inr ⟨rfl, rfl⟩, ?_⟩
            rw [Option.elim_none, Option.elim_some, List.append_nil]
  obtain ⟨mark, rest, hmark, htext⟩ := hmarked
  have hne : mark ≠ '/' := by
    rcases hmark with rfl | ⟨rfl, -⟩ <;> decide
  obtain ⟨more, hmore⟩ :=
    exists_withoutSlashes hne (base.origin ++ base.path.flatMap ('/' :: ·)) rest
  refine ⟨mark, more, hmark, ?_⟩
  rw [address_eq, htext, hmore, List.append_assoc, List.append_assoc, List.cons_append]

/-! ## what the address is read as -/

/- What stands behind the path of the base address is read once more, and from its left:
a question mark or a number sign ends the path, a slash or a backslash ends a segment,
and dots drop segments. `visible` is what is left of it before the first mark. The
converse direction goes from the segments back to the characters: as many segments as
there should be leave no room for a separator. -/

/-- What is read of a text as path and query: what stands before the first
hash sign, without line breaks. -/
def visible (rest : List Char) : List Char :=
  (rest.filter fun c => !isLineBreak c).takeWhile (· ≠ '#')

/-- How a text with further segments behind a path is read. -/
theorem read_behind_path (hbase : Parsed base) {path : List (List Char)}
    (hpath : ∀ s ∈ path, IsSegment s) {rest : List Char}
    (hhead : (path.flatMap ('/' :: ·) ++ rest).head? = some '/')
    (hlast : rest.getLast? = some 'h')
    (h : parse (String.ofList (base.origin ++ (path.flatMap ('/' :: ·) ++ rest))) =
      .ok (some u)) :
    (u.query = none ↔ '?' ∉ visible rest) ∧
      ('?' ∉ visible rest → u.path = pathOf (path.flatMap ('/' :: ·) ++ visible rest)) := by
  have hhash : '#' ∉ path.flatMap ('/' :: ·) := notMem_flatMap_slash hpath (by decide) (by decide)
  have hmark : '?' ∉ path.flatMap ('/' :: ·) := notMem_flatMap_slash hpath (by decide) (by decide)
  obtain ⟨hlocated, hquery⟩ := located_of_parse hbase hhead (by
    intro c hc
    rw [List.getLast?_append, hlast] at hc
    cases hc
    rfl) h
  rw [List.filter_append, filter_flatMap_slash hpath] at hlocated hquery
  constructor
  · rw [hquery, Option.map_eq_none_iff, snd_located_eq_none_iff hhash hmark]
    rfl
  · intro hvisible
    rw [hlocated, fst_located hhash hmark hvisible]
    rfl

/-- Names that are read as one segment of a path, and as nothing else. -/
structure OneSegment (name : List Char) : Prop where
  /-- Nothing ends or separates segments, or is dropped. -/
  unseparated : ∀ c ∈ name, c ∉ delimiters
  /-- Nothing is a percent sign with two digits. -/
  unescaped : ∀ rest, rest <:+ encode name → beginsEncoded rest = false
  notDots : name ≠ ['.'] ∧ name ≠ ['.', '.']

/-- A name within one segment comes out of its encoding as it went in. -/
theorem OneSegment.decode_eq {name : List Char} (h : OneSegment name) :
    decode (encode (encodeWith inPathSet name)) = encode name := by
  rw [decode_encodeWith]
  exact decode_eq_self_iff.mpr h.unescaped

/-- A name within one segment is none of the segments that stand for others. -/
theorem OneSegment.noDots {name : List Char} (h : OneSegment name) :
    NoDots (encodeWith inPathSet name) := by
  by_contra hdots
  rcases decode_of_dots hdots with heq | heq
  · rw [h.decode_eq, encode_inj] at heq
    exact h.notDots.1 heq
  · rw [h.decode_eq, encode_inj] at heq
    exact h.notDots.2 heq

theorem visible_slash (rest : List Char) : visible ('/' :: rest) = '/' :: visible rest := rfl

theorem visible_endpoint : visible ('/' :: endpoint) = '/' :: endpoint := rfl

theorem notMem_endpoint : '?' ∉ '/' :: endpoint := by decide

/-- Without a hash in front the rest of a text is seen. -/
theorem visible_append {front : List Char} (h : '#' ∉ front) (rest : List Char) :
    visible (front ++ rest) = visible front ++ visible rest := by
  have hfront : ∀ c ∈ front.filter fun c => !isLineBreak c, decide (c ≠ '#') = true :=
    fun c hc => decide_eq_true fun heq => h (heq ▸ List.mem_of_mem_filter hc)
  rw [visible, visible, visible, List.filter_append, List.takeWhile_append_of_pos hfront,
    List.takeWhile_eq_self_iff.mpr hfront]

/-- Nothing is read behind a hash sign. -/
theorem visible_of_mem {front : List Char} (h : '#' ∈ front) (rest : List Char) :
    visible (front ++ rest) = visible front := by
  induction front with
  | nil => contradiction
  | cons c front ih =>
      by_cases hc : c = '#'
      · simp [visible, hc, isLineBreak]
      · have hfront := ih ((List.mem_cons.mp h).resolve_left (Ne.symm hc))
        rw [visible, visible] at hfront
        by_cases hbreak : isLineBreak c = true
        · simpa [visible, hbreak] using hfront
        · simpa [visible, hbreak, hc] using hfront

theorem visible_sublist (cs : List Char) : (visible cs).Sublist cs :=
  (List.takeWhile_sublist _).trans List.filter_sublist

/-- A text without delimiters is seen as it is. -/
theorem visible_of_unseparated {cs : List Char} (h : ∀ c ∈ cs, c ∉ delimiters) :
    visible cs = cs := by
  have hfilter : cs.filter (fun c => !isLineBreak c) = cs :=
    List.filter_eq_self.mpr fun c hc => by rw [(notMem_delimiters_iff.mp (h c hc)).2]; rfl
  rw [visible, hfilter, List.takeWhile_eq_self_iff]
  exact fun c hc => decide_eq_true fun heq => h c hc (heq ▸ by decide)

/-- Names without delimiters are one segment in front of the endpoint. -/
theorem segments_of_unseparated {name : List Char} (h : ∀ c ∈ name, c ∉ delimiters) :
    (splitBy (isSlash .web) (name ++ '/' :: endpoint)).map (encodeWith inPathSet) =
      [encodeWith inPathSet name, endpoint] := by
  have hslash : ∀ c ∈ name, isSlash .web c = false := by
    intro c hc
    have hends := (notMem_delimiters_iff.mp (h c hc)).1
    simp only [endsAuthority, Bool.or_eq_false_iff] at hends
    exact hends.1.1
  rw [splitBy_append_cons rfl, splitBy_of_forall hslash]
  rfl

/-- Such names are the one segment behind those of the base address. -/
theorem OneSegment.resolve_eq {name : List Char} (h : OneSegment name)
    (front : List (List Char)) :
    resolve front ((splitBy (isSlash .web) (name ++ '/' :: endpoint)).map (encodeWith inPathSet)) =
      front ++ [encodeWith inPathSet name] ++ [endpoint] := by
  rw [segments_of_unseparated h.unseparated, resolve_of_noDots h.noDots,
    resolve_of_noDots noDots_endpoint, resolve]

/-- Names that are dots leave no more segments than there are in front. -/
theorem noDots_of_resolve {front : List (List Char)} {name segment : List Char}
    (hname : ∀ c ∈ name, c ∉ delimiters)
    (h : resolve front ((splitBy (isSlash .web) (name ++ '/' :: endpoint)).map
      (encodeWith inPathSet)) = front ++ [segment, endpoint]) :
    NoDots (encodeWith inPathSet name) := by
  by_contra hdots
  obtain ⟨kept, hkept, hresolve⟩ := resolve_of_dots hdots front [endpoint]
  rw [segments_of_unseparated hname, hresolve, if_neg (by simp),
    resolve_of_noDots noDots_endpoint, resolve] at h
  have hlength := congrArg List.length h
  have hle := hkept.length_le
  simp only [List.length_append, List.length_cons, List.length_nil] at hlength
  omega

/-- What stands in front of the last element but one. -/
theorem mem_of_pair_sublist {α : Type} {a b c : α} {xs : List α} (hne : b ≠ c)
    (h : [a, b].Sublist (xs ++ [b] ++ [c])) : a ∈ xs := by
  have hreverse := List.reverse_sublist.mpr h
  rw [List.reverse_append, List.reverse_append] at hreverse
  rcases List.cons_sublist_cons'.mp hreverse with hreverse | ⟨heq, -⟩
  · have hlast : [a].Sublist xs.reverse := List.cons_sublist_cons.mp hreverse
    exact List.mem_reverse.mp (hlast.subset (List.mem_singleton_self a))
  · exact absurd heq hne

/-- A segment that is followed by the endpoint comes from a piece of the names,
or is the empty one that dots leave. -/
theorem exists_piece {front : List (List Char)} {name segment : List Char}
    (h : resolve front ((splitBy (isSlash .web) (visible (name ++ '/' :: endpoint))).map
      (encodeWith inPathSet)) = front ++ [segment, endpoint]) :
    segment = [] ∨ ∃ piece ∈ splitBy (isSlash .web) (visible name),
      segment = encodeWith inPathSet piece := by
  obtain ⟨kept, added, hresolve, ⟨dropped, rfl⟩, hadded⟩ := exists_resolve front
    ((splitBy (isSlash .web) (visible (name ++ '/' :: endpoint))).map (encodeWith inPathSet))
  rw [h, List.append_assoc, List.append_cancel_left_eq] at hresolve
  rw [← hresolve] at hadded
  have hpair := (List.sublist_append_right dropped [segment, endpoint]).trans hadded
  by_cases hhash : '#' ∈ name
  · rw [visible_of_mem hhash] at hpair
    rcases List.mem_append.mp (hpair.subset (List.mem_cons_self ..)) with hmem | hmem
    · obtain ⟨piece, hpiece, rfl⟩ := List.mem_map.mp hmem
      exact .inr ⟨piece, hpiece, rfl⟩
    · exact .inl (List.mem_singleton.mp hmem)
  · have hsplit : splitBy (isSlash .web) endpoint = [endpoint] := rfl
    rw [visible_append hhash, visible_endpoint, splitBy_append_cons rfl, hsplit, List.map_append,
      List.map_singleton, encodeWith_endpoint] at hpair
    obtain ⟨piece, hpiece, rfl⟩ := List.mem_map.mp (mem_of_pair_sublist (by decide) hpair)
    exact .inr ⟨piece, hpiece, rfl⟩

/-- A part of a name that decodes to the name is the whole name. -/
theorem eq_of_decode_eq {piece name : List Char} (hpiece : piece.Sublist name)
    (h : decode (encode (encodeWith inPathSet piece)) = encode name) : piece = name := by
  rw [decode_encodeWith] at h
  have hbytes : (encode piece).Sublist (encode name) := hpiece.flatMap String.utf8EncodeChar
  have hlength : (encode name).length ≤ (encode piece).length := h ▸ length_decode_le _
  exact encode_inj.mp (hbytes.eq_of_length_le hlength)

/-- The piece that decodes to the names is the names. -/
theorem mem_pieces_of_path {front : List (List Char)} {name segment : List Char}
    (hpath : resolve front ((splitBy (isSlash .web) (visible (name ++ '/' :: endpoint))).map
      (encodeWith inPathSet)) = front ++ [segment, endpoint])
    (hsegment : decode (encode segment) = encode name) :
    name ∈ splitBy (isSlash .web) (visible name) ∧ decode (encode name) = encode name := by
  rcases exists_piece hpath with rfl | ⟨piece, hpiece, rfl⟩
  · have hnil : name = [] := encode_inj.mp hsegment.symm
    subst hnil
    exact ⟨by decide, rfl⟩
  · have hsublist := (sublist_of_mem_splitBy hpiece).trans (visible_sublist name)
    obtain rfl := eq_of_decode_eq hsublist hsegment
    rw [decode_encodeWith] at hsegment
    exact ⟨hpiece, hsegment⟩

/-- A name that is one of its own visible pieces has no delimiters in it. -/
theorem unseparated_of_mem {name : List Char} (hmem : name ∈ splitBy (isSlash .web) (visible name))
    (hmark : '?' ∉ name) : ∀ c ∈ name, c ∉ delimiters := by
  intro c hc
  have hvisible := (sublist_of_mem_splitBy hmem).subset hc
  have hhash := List.mem_takeWhile_imp hvisible
  have hbreak := List.of_mem_filter ((List.takeWhile_sublist _).subset hvisible)
  have hslash := splitBy_forall (isSlash .web) _ name hmem c hc
  have hends : endsAuthority .web c = false := by
    have hne : c ≠ '?' := fun heq => hmark (heq ▸ hc)
    simp [endsAuthority, hslash, hne, of_decide_eq_true hhash]
  exact notMem_delimiters_iff.mpr ⟨hends, by simpa using hbreak⟩

/-- If the names are read as one segment behind those of the base address, they
are one segment in themselves. -/
theorem oneSegment_of_path {front : List (List Char)} {name segment : List Char}
    (hmark : '?' ∉ visible (name ++ '/' :: endpoint))
    (hpath : resolve front ((splitBy (isSlash .web) (visible (name ++ '/' :: endpoint))).map
      (encodeWith inPathSet)) = front ++ [segment, endpoint])
    (hsegment : decode (encode segment) = encode name) : OneSegment name := by
  obtain ⟨hmem, hdecode⟩ := mem_pieces_of_path hpath hsegment
  have hvisible : ∀ c ∈ name, c ∈ visible name := (sublist_of_mem_splitBy hmem).subset
  have hhash : '#' ∉ name := fun hc => by simpa using List.mem_takeWhile_imp (hvisible '#' hc)
  rw [visible_append hhash] at hmark hpath
  have hunseparated : ∀ c ∈ name, c ∉ delimiters :=
    unseparated_of_mem hmem fun hc => hmark (List.mem_append_left _ (hvisible '?' hc))
  rw [visible_of_unseparated hunseparated, visible_endpoint] at hpath
  have hnoDots := noDots_of_resolve hunseparated hpath
  refine ⟨hunseparated, decode_eq_self_iff.mp hdecode, ?_, ?_⟩
  · rintro rfl
    exact absurd hnoDots (by decide)
  · rintro rfl
    exact absurd hnoDots (by decide)

/-! ## the target of a request -/

/-- What the segments for the names of indices decode to: one text with commas
between the names, or nothing without indices. -/
def namesOf (indices : List String) : List (List UInt8) :=
  if indices.isEmpty then [] else [encode (joined indices)]

/-- Where a request for the indices goes, if it goes where the base address
says: the segments of the base address stand in front, then the names as one
segment, then the endpoint, and there is no query. -/
structure TargetLaw (base : Url) (indices : List String) (target : List Char) : Prop where
  noQuery : '?' ∉ target
  segments : ∃ names, splitBy (· = '/') target = [] :: (base.baseSegments ++ names ++ [endpoint]) ∧
    names.map (fun segment => decode (encode segment)) = namesOf indices

/-- The law speaks of a query and of the path. -/
theorem targetLaw_iff_path (hpath : IsPath u.path) :
    TargetLaw base indices u.target ↔ u.query = none ∧
      ∃ names, u.path = base.baseSegments ++ names ++ [endpoint] ∧
        names.map (fun segment => decode (encode segment)) = namesOf indices := by
  constructor
  · rintro ⟨hmark, names, hsplit, hnames⟩
    have hquery : u.query = none := not_not.mp fun hne => hmark ((mem_target_iff hpath).mpr hne)
    rw [splitBy_target hpath hquery, List.cons_inj_right] at hsplit
    exact ⟨hquery, names, hsplit, hnames⟩
  · rintro ⟨hquery, names, hnames, hdecode⟩
    refine ⟨fun hmem => (mem_target_iff hpath).mp hmem hquery, names, ?_, hdecode⟩
    rw [splitBy_target hpath hquery, hnames]

section

variable (hbase : Parsed base) (hquery : base.query = none) (hfragment : base.fragment = none)
  (h : parse (String.ofList (Settings.address base indices)) = .ok (some u))

include hbase hquery hfragment h

/-- Behind the segments of a plain base address the rest is read as path and
query. -/
theorem read_of_plain :
    (u.query = none ↔ '?' ∉ visible (appended indices)) ∧
      ('?' ∉ visible (appended indices) → ∀ rest, visible (appended indices) = '/' :: rest →
        u.path = resolve base.baseSegments
          ((splitBy (isSlash .web) rest).map (encodeWith inPathSet))) := by
  have hsegments : ∀ s ∈ base.baseSegments, IsSegment s := fun s hs =>
    hbase.path.segment s (base.baseSegments_prefix.subset hs)
  have hnoDots : ∀ s ∈ base.baseSegments, NoDots s := fun s hs =>
    hbase.path.noDots s (base.baseSegments_prefix.subset hs)
  have hhead : (base.baseSegments.flatMap ('/' :: ·) ++ appended indices).head? = some '/' := by
    cases base.baseSegments with
    | nil => exact head?_appended indices
    | cons s path => rfl
  rw [address_of_plain hbase hquery hfragment] at h
  obtain ⟨hmark, hpath⟩ :=
    read_behind_path hbase hsegments hhead (getLast?_appended indices) h
  refine ⟨hmark, fun hnone rest hrest => ?_⟩
  rw [hpath hnone, hrest, pathOf_append hsegments hnoDots]

/-- Without indices the endpoint is the segment behind those of the base
address. -/
theorem targetLaw_of_nil (hnil : indices = []) : TargetLaw base indices u.target := by
  subst hnil
  obtain ⟨hmark, hpath⟩ := read_of_plain hbase hquery hfragment h
  rw [appended_nil, visible_endpoint] at hmark hpath
  have hsplit : splitBy (isSlash .web) endpoint = [endpoint] := by decide
  rw [targetLaw_iff_path (parsed_of_parse h).path]
  refine ⟨hmark.mpr notMem_endpoint, [], ?_, rfl⟩
  rw [hpath notMem_endpoint endpoint rfl, hsplit, List.map_singleton, encodeWith_endpoint,
    resolve_of_noDots noDots_endpoint, resolve, List.append_nil]

/-- With indices it holds just if their names stay within one segment. -/
theorem targetLaw_of_names (hne : indices ≠ []) :
    TargetLaw base indices u.target ↔ OneSegment (joined indices) := by
  obtain ⟨hmark, hpath⟩ := read_of_plain hbase hquery hfragment h
  have hnames : namesOf indices = [encode (joined indices)] := if_neg (by simpa using hne)
  rw [appended_of_ne_nil hne, visible_slash] at hmark hpath
  rw [targetLaw_iff_path (parsed_of_parse h).path, hmark, hnames]
  constructor
  · rintro ⟨hnone, names, hnames, hdecode⟩
    obtain ⟨segment, rfl, hsegment⟩ := List.map_eq_singleton_iff.mp hdecode
    rw [hpath hnone _ rfl, List.append_assoc] at hnames
    exact oneSegment_of_path (fun hmem => hnone (List.mem_cons_of_mem _ hmem)) hnames hsegment
  · intro hname
    have hhash : '#' ∉ joined indices := fun hmem => hname.unseparated '#' hmem (by decide)
    rw [visible_append hhash, visible_of_unseparated hname.unseparated, visible_endpoint] at hpath ⊢
    have hnone : '?' ∉ '/' :: (joined indices ++ '/' :: endpoint) := by
      rw [List.mem_cons, List.mem_append, not_or, not_or]
      exact ⟨by decide, fun hmem => hname.unseparated '?' hmem (by decide), notMem_endpoint⟩
    refine ⟨hnone, [encodeWith inPathSet (joined indices)], ?_, ?_⟩
    · rw [hpath hnone _ rfl, hname.resolve_eq]
    · rw [List.map_singleton, hname.decode_eq]

end

/-- Behind a query or a fragment nothing of the batch gets into the path. -/
theorem not_targetLaw_of_marked (hbase : Parsed base)
    (hmarked : base.query ≠ none ∨ base.fragment ≠ none)
    (h : parse (String.ofList (Settings.address base indices)) = .ok (some u)) :
    ¬ TargetLaw base indices u.target := by
  obtain ⟨mark, more, hmark, haddress⟩ := address_of_marked hbase hmarked
  rw [haddress] at h
  have hhead : ∀ rest, (base.path.flatMap ('/' :: ·) ++ rest).head? = some '/' := by
    intro rest
    cases hpath : base.path with
    | nil => exact absurd hpath hbase.path.ne_nil
    | cons s path => rfl
  have hlast : (mark :: (more ++ appended indices)).getLast? = some 'h' := by
    rw [← List.cons_append, List.getLast?_append, getLast?_appended]
    rfl
  obtain ⟨hquery, hpath⟩ := read_behind_path hbase hbase.path.segment (hhead _) hlast h
  rw [targetLaw_iff_path (parsed_of_parse h).path, hquery]
  rintro ⟨hnone, names, hnames, -⟩
  rcases hmark with rfl | ⟨rfl, -⟩
  · exact hnone (List.mem_cons_self ..)
  · -- the path is that of the base address, whose segments are fewer
    have hvisible : visible ('#' :: (more ++ appended indices)) = [] := rfl
    rw [hpath hnone, hvisible, List.append_nil, pathOf_flatMap hbase.path] at hnames
    have hbaseSegments : base.baseSegments = base.path := by
      rw [baseSegments, hnames, List.rdropWhile_concat_neg _ _ endpoint (by decide)]
    rw [hbaseSegments] at hnames
    have hlength := congrArg List.length hnames
    simp only [List.length_append, List.length_cons, List.length_nil] at hlength
    omega

/-- The base address of a backend is the one in its settings. -/
theorem parse_of_ofSettings {s : Settings} {b : Backend} (h : ofSettings s = .ok b) :
    b.settings = s ∧ parse s.url = .ok (some b.base) := by
  obtain ⟨base, hbase, rfl⟩ := Except.map_eq_ok.mp h
  obtain ⟨url, hurl, hchecks⟩ := Except.bind_eq_ok.mp hbase
  have hsame : base = url := by
    simp only [bind, Except.bind, throw, throwThe, MonadExceptOf.throw, pure,
      Except.pure] at hchecks
    split at hchecks
    · contradiction
    · split at hchecks
      · contradiction
      · split at hchecks
        · contradiction
        · exact (Except.ok.inj hchecks).symm
  unfold Settings.base at hurl
  split at hurl
  · contradiction
  · contradiction
  · next parsed hparse =>
    cases hurl
    exact ⟨rfl, hsame ▸ hparse⟩

/-- The address of a backend was read from a text. -/
theorem parsed_of_ofSettings {s : Settings} {b : Backend} (h : ofSettings s = .ok b) :
    Parsed b.base := parsed_of_parse (parse_of_ofSettings h).2

/-- **The target of a request**: what is sent to a backend for a batch keeps the
segments of the base address, names the indices in one segment behind them, and
has no query, if and only if the base address has neither a query nor a fragment
and the names of the indices, if there are any, are one segment in themselves. -/
theorem targetLaw_iff {s : Settings} {b : Backend} {batch : Batch} {request : Request}
    (hb : ofSettings s = .ok b) (h : b.request? batch = some request) :
    TargetLaw b.base batch.indices request.target ↔
      b.base.query = none ∧ b.base.fragment = none ∧
        (batch.indices ≠ [] → OneSegment (joined batch.indices)) := by
  obtain ⟨u, hu, -, rfl⟩ := request?_eq_some.mp h
  have hbase := parsed_of_ofSettings hb
  have htarget : (Request.ofBatch u batch).target = u.target := rfl
  rw [htarget]
  by_cases hplain : b.base.query = none ∧ b.base.fragment = none
  · rw [and_iff_right hplain.1, and_iff_right hplain.2]
    by_cases hnil : batch.indices = []
    · exact iff_of_true (targetLaw_of_nil hbase hplain.1 hplain.2 hu hnil)
        (fun hne => absurd hnil hne)
    · rw [targetLaw_of_names hbase hplain.1 hplain.2 hu hnil, forall_prop_of_true hnil]
  · refine iff_of_false (not_targetLaw_of_marked hbase (not_and_or.mp hplain) hu) ?_
    exact fun hall => hplain ⟨hall.1, hall.2.1⟩

/-! ## two shops -/

/-- The batch of one search of an index. -/
def batchFor (index : String) : Batch where
  queries := [{ id := "phones", index := some index, body := some (.object []) }]
  payload := (Json.object [("index", .string index)]).compact ++ "\n\x7b\x7d\n"

theorem ofQueries_batchFor (index : String) :
    Batch.ofQueries (batchFor index).queries = .ok (batchFor index) := by
  have hid : Batch.idFault? [] "phones" = none := by decide
  have hbody : (Json.object []).compact = "\x7b\x7d" := by decide
  have hpayload : Batch.payloadFrom [] (batchFor index).queries =
      .ok ((Json.object [("index", .string index)]).compact ++ "\n" ++ (Json.object []).compact ++
        "\n" ++ "") := by
    simp only [batchFor, Batch.payloadFrom, Batch.checked, hid]
    rfl
  simp only [Batch.ofQueries, hpayload, hbody, String.append_assoc]
  rfl

/-- The request for a batch to a target. -/
def requestAt (target : String) (batch : Batch) : Request :=
  { loneRequest with target := target.toList, body := batch.payload }

/-- A backend below a path that ends in slashes. -/
def shopBackend : Backend where
  settings := { url := "http://[::1]:9200/shop//" }
  base := { patientBackend.base with path := ["shop".toList, [], []] }

/-- A name with an umlaut, a blank and a percent sign is asked for in one segment. -/
theorem targetLaw_iff_skirts :
    Batch.ofQueries (batchFor "röcke 50%").queries = .ok (batchFor "röcke 50%") ∧
      ofSettings shopBackend.settings = .ok shopBackend ∧
      shopBackend.request? (batchFor "röcke 50%") =
        some (requestAt "/shop/r%C3%B6cke%2050%/_msearch" (batchFor "röcke 50%")) ∧
      TargetLaw shopBackend.base (batchFor "röcke 50%").indices
        "/shop/r%C3%B6cke%2050%/_msearch".toList := by
  have hbackend : ofSettings shopBackend.settings = .ok shopBackend := rfl
  have hrequest : shopBackend.request? (batchFor "röcke 50%") =
      some (requestAt "/shop/r%C3%B6cke%2050%/_msearch" (batchFor "röcke 50%")) := by
    decide +kernel
  have hname : OneSegment (joined (batchFor "röcke 50%").indices) :=
    ⟨List.forall_iff_forall_mem.mp (by decide), decode_eq_self_iff.mp (by decide), by decide⟩
  exact ⟨rfl, hbackend, hrequest, (targetLaw_iff hbackend hrequest).mpr ⟨rfl, rfl, fun _ => hname⟩⟩

/-- A backend whose address has a query. -/
def keyedBackend : Backend where
  settings := { url := "http://[::1]:9200/?key=1" }
  base := { patientBackend.base with query := some "key=1".toList }

/-- With such a name of an index a document is written in place of a search; and
with a query in the base address everything else gets into it. -/
theorem request_redirected :
    Batch.ofQueries (batchFor "products/_doc/1?x=").queries =
        .ok (batchFor "products/_doc/1?x=") ∧
      ofSettings patientBackend.settings = .ok patientBackend ∧
      patientBackend.request? (batchFor "products/_doc/1?x=") =
        some (requestAt "/products/_doc/1?x=/_msearch" (batchFor "products/_doc/1?x=")) ∧
      ¬ TargetLaw patientBackend.base (batchFor "products/_doc/1?x=").indices
        "/products/_doc/1?x=/_msearch".toList ∧
      ofSettings keyedBackend.settings = .ok keyedBackend ∧
      keyedBackend.request? loneBatch = some (requestAt "/?key=1/products/_msearch" loneBatch) ∧
      ¬ TargetLaw keyedBackend.base loneBatch.indices "/?key=1/products/_msearch".toList :=
  ⟨rfl, rfl, by decide +kernel, fun h => h.noQuery (by decide), rfl, by decide +kernel,
    fun h => h.noQuery (by decide)⟩

end SearchRelay.Backend
