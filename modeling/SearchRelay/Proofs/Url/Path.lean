import SearchRelay.Proofs.Text.Split
import SearchRelay.Proofs.Url.Percent
import SearchRelay.Url

/-!
# SearchRelay.Proofs.Url.Path

The path of a URL: its segments, and where dots in them lead.

1. `isPath_pathOf` — every path that is read has encoded segments without
   slashes, and no dot segment among them;
2. `exists_resolve` — dots only take segments away, those in front included:
   what is left of them is followed by segments of the text;
3. `resolve_append` — segments without dots stay where they are;
4. `splitBy_target`, `mem_target_iff` — the target of a URL tells its segments,
   and whether it has a query.
-/

namespace SearchRelay.Url

open Text Text.Utf8

/-- A segment that stands for itself. -/
def NoDots (segment : List Char) : Prop :=
  isDoubleDot segment = false ∧ isSingleDot segment = false

instance (segment : List Char) : Decidable (NoDots segment) :=
  inferInstanceAs (Decidable (isDoubleDot segment = false ∧ isSingleDot segment = false))

/-- A segment that is encoded and holds no slash. -/
def IsSegment (segment : List Char) : Prop :=
  ∀ c ∈ segment, inPathSet c = false ∧ isSlash .web c = false

/-- A path as it stands in a URL. -/
structure IsPath (path : List (List Char)) : Prop where
  ne_nil : path ≠ []
  segment : ∀ s ∈ path, IsSegment s
  noDots : ∀ s ∈ path, NoDots s

theorem noDots_nil : NoDots [] := by decide

/-- A piece without slashes is encoded into a segment. -/
theorem isSegment_encodeWith {piece : List Char} (h : ∀ c ∈ piece, isSlash .web c = false) :
    IsSegment (encodeWith inPathSet piece) := by
  intro c hc
  rcases mem_encodeWith hc with ⟨hmem, hset⟩ | hpercent
  · exact ⟨hset, h c hmem⟩
  · have hall : ∀ c ∈ percentChars, inPathSet c = false ∧ isSlash .web c = false :=
      List.forall_iff_forall_mem.mp (by decide)
    exact hall c hpercent

/-! ## dots -/

/- Segments are resolved from the left, and two dots drop the one before. What is
resolved has no dots left, whatever is put behind it. -/

/-- Two dots drop a segment at most. -/
theorem dropSegment_prefix (done : List (List Char)) : dropSegment done <+: done := by
  unfold dropSegment
  split
  · split
    · exact List.prefix_refl _
    · exact List.dropLast_prefix _
  · exact List.nil_prefix

/-- A segment that stands for itself is kept. -/
theorem resolve_of_noDots {segment : List Char} (h : NoDots segment)
    (done rest : List (List Char)) :
    resolve done (segment :: rest) = resolve (done ++ [segment]) rest := by
  simp [resolve, h.1, h.2]

/-- Dots leave some of the segments in front, and at the end an empty one. -/
theorem resolve_of_dots {segment : List Char} (h : ¬ NoDots segment)
    (done rest : List (List Char)) :
    ∃ kept, kept <+: done ∧ resolve done (segment :: rest) =
      if rest.isEmpty then kept ++ [[]] else resolve kept rest := by
  cases hdouble : isDoubleDot segment with
  | true => exact ⟨dropSegment done, dropSegment_prefix done, by simp [resolve, hdouble]⟩
  | false =>
      have hsingle : isSingleDot segment = true := by
        rw [← Bool.not_eq_false]
        exact fun hsingle => h ⟨hdouble, hsingle⟩
      exact ⟨done, List.prefix_refl _, by simp [resolve, hdouble, hsingle]⟩

/-- Segments that stand for themselves stay. -/
theorem resolve_append {front : List (List Char)} (h : ∀ s ∈ front, NoDots s)
    (done rest : List (List Char)) :
    resolve done (front ++ rest) = resolve (done ++ front) rest := by
  induction front generalizing done with
  | nil => rw [List.nil_append, List.append_nil]
  | cons s front ih =>
      obtain ⟨hs, hfront⟩ := List.forall_mem_cons.mp h
      rw [List.cons_append, resolve_of_noDots hs, ih hfront, List.append_assoc,
        List.singleton_append]

/-- What is left of the segments in front, and then segments of the text; dots
at its end leave an empty one. -/
theorem exists_resolve (done segments : List (List Char)) :
    ∃ kept added, resolve done segments = kept ++ added ∧ kept <+: done ∧
      added.Sublist (segments ++ [[]]) := by
  induction segments generalizing done with
  | nil => exact ⟨done, [], (List.append_nil done).symm, List.prefix_refl _, List.nil_sublist _⟩
  | cons segment rest ih =>
      by_cases hdots : NoDots segment
      · obtain ⟨kept, added, hresolve, hkept, hadded⟩ := ih (done ++ [segment])
        rw [resolve_of_noDots hdots]
        rcases List.prefix_concat_iff.mp hkept with rfl | hkept
        · refine ⟨done, segment :: added, ?_, List.prefix_refl _, hadded.cons_cons segment⟩
          rw [hresolve, List.append_assoc, List.singleton_append]
        · exact ⟨kept, added, hresolve, hkept, hadded.cons segment⟩
      · obtain ⟨left, hleft, hresolve⟩ := resolve_of_dots hdots done rest
        rw [hresolve]
        split
        · exact ⟨left, [[]], rfl, hleft, List.sublist_append_right _ _⟩
        · obtain ⟨kept, added, hresolve, hkept, hadded⟩ := ih left
          exact ⟨kept, added, hresolve, hkept.trans hleft, hadded.cons segment⟩

/-- No dots are left. -/
theorem noDots_resolve {done : List (List Char)} (h : ∀ s ∈ done, NoDots s)
    (segments : List (List Char)) : ∀ s ∈ resolve done segments, NoDots s := by
  induction segments generalizing done with
  | nil => exact h
  | cons segment rest ih =>
      by_cases hdots : NoDots segment
      · rw [resolve_of_noDots hdots]
        exact ih (List.forall_mem_append.mpr ⟨h, List.forall_mem_singleton.mpr hdots⟩)
      · obtain ⟨left, hleft, hresolve⟩ := resolve_of_dots hdots done rest
        have hkept : ∀ s ∈ left, NoDots s := fun s hs => h s (hleft.subset hs)
        rw [hresolve]
        split
        · exact List.forall_mem_append.mpr ⟨hkept, List.forall_mem_singleton.mpr noDots_nil⟩
        · exact ih hkept

/-- A path has a segment. -/
theorem resolve_ne_nil {segments : List (List Char)} (h : segments ≠ [])
    (done : List (List Char)) : resolve done segments ≠ [] := by
  induction segments generalizing done with
  | nil => exact absurd rfl h
  | cons segment rest ih =>
      by_cases hdots : NoDots segment
      · rw [resolve_of_noDots hdots]
        cases rest with
        | nil => simp [resolve]
        | cons next rest => exact ih (by simp) _
      · obtain ⟨left, -, hresolve⟩ := resolve_of_dots hdots done rest
        rw [hresolve]
        cases rest with
        | nil => simp
        | cons next rest => exact ih (by simp) left

/-! ## dots written with percent signs -/

/- A dot may be written as an escape, in upper or lower case. All forms are decoded to
the same dots. -/

/-- A character whose lower case is known. -/
theorem eq_of_toLower {c d : Char} (h : c.toLower = d) :
    c = d ∨ (97 ≤ d.toNat ∧ c.toNat + 32 = d.toNat) := by
  unfold Char.toLower at h
  split at h
  · next hupper =>
    have hle : 65 ≤ c.val.toNat ∧ c.val.toNat ≤ 90 := hupper
    have hval : (c.val + 32).toNat = c.val.toNat + 32 := by
      rw [UInt32.toNat_add]
      exact Nat.mod_eq_of_lt (by have : (32 : UInt32).toNat = 32 := rfl; omega)
    have hd : d.toNat = c.toNat + 32 := h ▸ hval
    refine .inr ⟨?_, hd.symm⟩
    rw [hd]
    exact Nat.add_le_add_right hle.1 32
  · exact .inl h

theorem eq_of_toLower_of_lt {c d : Char} (hd : d.toNat < 97) (h : c.toLower = d) : c = d :=
  (eq_of_toLower h).resolve_right fun hupper => Nat.not_le_of_lt hd hupper.1

theorem eq_of_toLower_e {c : Char} (h : c.toLower = 'e') : c = 'e' ∨ c = 'E' :=
  (eq_of_toLower h).imp_right fun hupper =>
    Char.toNat_inj.mp (Nat.add_right_cancel hupper.2)

/-- Dots decode to dots, however they are written. -/
theorem decode_of_dots {segment : List Char} (h : ¬ NoDots segment) :
    decode (encode segment) = encode ['.'] ∨ decode (encode segment) = encode ['.', '.'] := by
  have hdot : ∀ {c : Char}, c.toLower = '.' → c = '.' := eq_of_toLower_of_lt (by decide)
  have hpercent : ∀ {c : Char}, c.toLower = '%' → c = '%' := eq_of_toLower_of_lt (by decide)
  have htwo : ∀ {c : Char}, c.toLower = '2' → c = '2' := eq_of_toLower_of_lt (by decide)
  cases hdouble : isDoubleDot segment with
  | true =>
      right
      simp [isDoubleDot, String.ext_iff, List.map_eq_cons_iff] at hdouble
      rcases hdouble with ⟨a, b, rfl, ha, hb⟩ | ⟨a, b, c, d, e, f, rfl, ha, hb, hc, hd, he, hf⟩ |
        ⟨a, b, c, d, rfl, ha, hb, hc, hd⟩ | ⟨a, b, c, d, rfl, ha, hb, hc, hd⟩
      · rw [hdot ha, hdot hb]
        rfl
      · rw [hpercent ha, htwo hb, hpercent hd, htwo he]
        rcases eq_of_toLower_e hc with rfl | rfl <;>
          rcases eq_of_toLower_e hf with rfl | rfl <;> rfl
      · rw [hpercent ha, htwo hb, hdot hd]
        rcases eq_of_toLower_e hc with rfl | rfl <;> rfl
      · rw [hdot ha, hpercent hb, htwo hc]
        rcases eq_of_toLower_e hd with rfl | rfl <;> rfl
  | false =>
      left
      have hsingle : isSingleDot segment = true := by
        rw [← Bool.not_eq_false]
        exact fun hsingle => h ⟨hdouble, hsingle⟩
      simp [isSingleDot, String.ext_iff, List.map_eq_cons_iff] at hsingle
      rcases hsingle with ⟨a, rfl, ha⟩ | ⟨a, b, c, rfl, ha, hb, hc⟩
      · rw [hdot ha]
        rfl
      · rw [hpercent ha, htwo hb]
        rcases eq_of_toLower_e hc with rfl | rfl <;> rfl

/-! ## paths -/

/-- What is read is a path. -/
theorem isPath_pathOf (cs : List Char) : IsPath (pathOf cs) := by
  obtain ⟨body, hpath⟩ : ∃ body,
      pathOf cs = resolve [] ((splitBy (isSlash .web) body).map (encodeWith inPathSet)) := ⟨_, rfl⟩
  rw [hpath]
  constructor
  case ne_nil =>
    exact resolve_ne_nil (fun hnil => splitBy_ne_nil _ body (List.map_eq_nil_iff.mp hnil)) []
  case noDots => exact noDots_resolve (by simp) _
  case segment =>
    intro s hs
    obtain ⟨kept, added, hresolve, hkept, hadded⟩ := exists_resolve []
      ((splitBy (isSlash .web) body).map (encodeWith inPathSet))
    rw [hresolve, List.prefix_nil.mp hkept, List.nil_append] at hs
    rcases List.mem_append.mp (hadded.subset hs) with hs | hs
    · obtain ⟨piece, hpiece, rfl⟩ := List.mem_map.mp hs
      exact isSegment_encodeWith (splitBy_forall _ body piece hpiece)
    · rw [List.mem_singleton.mp hs]
      exact fun c hc => nomatch hc

/-- A path is resolved segment by segment. -/
theorem pathOf_slash (rest : List Char) :
    pathOf ('/' :: rest) =
      resolve [] ((splitBy (isSlash .web) rest).map (encodeWith inPathSet)) := rfl

/-- A segment is encoded as itself. -/
theorem encodeWith_segment {s : List Char} (h : IsSegment s) : encodeWith inPathSet s = s :=
  encodeWith_eq_self fun c hc => (h c hc).1

/-- The path behind segments that stand for themselves. -/
theorem pathOf_append {front : List (List Char)} (hsegment : ∀ s ∈ front, IsSegment s)
    (hdots : ∀ s ∈ front, NoDots s) (rest : List Char) :
    pathOf (front.flatMap ('/' :: ·) ++ '/' :: rest) =
      resolve front ((splitBy (isSlash .web) rest).map (encodeWith inPathSet)) := by
  have hslash : isSlash .web '/' = true := rfl
  have hpieces : splitBy (isSlash .web) (front.flatMap ('/' :: ·) ++ '/' :: rest) =
      [] :: (front ++ splitBy (isSlash .web) rest) := by
    rw [splitBy_append_cons hslash, splitBy_flatMap hslash fun s hs c hc => (hsegment s hs c hc).2,
      List.cons_append]
  have hself : front.map (encodeWith inPathSet) = front :=
    List.map_congr_left (fun s hs => encodeWith_segment (hsegment s hs)) |>.trans (List.map_id _)
  have hhead : ∃ body, front.flatMap ('/' :: ·) ++ '/' :: rest = '/' :: body := by
    cases front <;> exact ⟨_, rfl⟩
  obtain ⟨body, hbody⟩ := hhead
  rw [hbody, splitBy_cons_of_pos hslash, List.cons_inj_right] at hpieces
  rw [hbody, pathOf_slash, hpieces, List.map_append, hself, resolve_append hdots, List.nil_append]

/-- A path is read as it stands. -/
theorem pathOf_flatMap {path : List (List Char)} (h : IsPath path) :
    pathOf (path.flatMap ('/' :: ·)) = path := by
  obtain ⟨front, s, rfl⟩ := (List.eq_nil_or_concat path).resolve_left h.ne_nil
  rw [List.concat_eq_append] at h ⊢
  obtain ⟨hsegments, hs⟩ := List.forall_mem_append.mp h.segment
  obtain ⟨hnoDots, hdots⟩ := List.forall_mem_append.mp h.noDots
  rw [List.forall_mem_singleton] at hs hdots
  rw [List.flatMap_append, List.flatMap_singleton, pathOf_append hsegments hnoDots,
    splitBy_of_forall fun c hc => (hs c hc).2, List.map_singleton, encodeWith_segment hs,
    resolve_of_noDots hdots, resolve]

/-! ## targets -/

theorem cons_intercalate {path : List (List Char)} (h : path ≠ []) :
    '/' :: List.intercalate ['/'] path = path.flatMap ('/' :: ·) := by
  induction path with
  | nil => exact absurd rfl h
  | cons s path ih =>
      cases path with
      | nil => simp [List.intercalate]
      | cons t path =>
          rw [List.flatMap_cons, ← ih (by simp)]
          simp [List.intercalate, List.intersperse]

section

variable {u : Url} (h : IsPath u.path)

include h

/-- A target is a path and its query. -/
theorem target_eq : u.target = u.path.flatMap ('/' :: ·) ++ u.query.elim [] ('?' :: ·) := by
  rw [target, cons_intercalate h.ne_nil]

/-- The segments of a path are what stands between the slashes of the
target. -/
theorem splitBy_target (hquery : u.query = none) :
    splitBy (· = '/') u.target = [] :: u.path := by
  rw [target_eq h, hquery, Option.elim_none, List.append_nil]
  refine splitBy_flatMap rfl fun s hs c hc => ?_
  have hslash := (h.segment s hs c hc).2
  rw [isSlash, Bool.or_eq_false_iff] at hslash
  exact hslash.1

/-- A target has a question mark if and only if it has a query. -/
theorem mem_target_iff : '?' ∈ u.target ↔ u.query ≠ none := by
  have hpath : '?' ∉ u.path.flatMap ('/' :: ·) := by
    intro hmem
    obtain ⟨s, hs, hmem⟩ := List.mem_flatMap.mp hmem
    rcases List.mem_cons.mp hmem with hmem | hmem
    · contradiction
    · have hset := (h.segment s hs _ hmem).1
      contradiction
  rw [target_eq h, List.mem_append, or_iff_right hpath]
  cases u.query <;> simp

end

end SearchRelay.Url
