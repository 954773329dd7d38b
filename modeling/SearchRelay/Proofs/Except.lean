/-!
# SearchRelay.Proofs.Except

Steps that may fail, taken apart: a chain of steps gives a result if and only
if each step does, and otherwise fails with the error of one of its steps.
-/

namespace SearchRelay.Except

variable {ε α β : Type}

/-- A step and what follows it. -/
theorem bind_eq_ok {x : Except ε α} {f : α → Except ε β} {b : β} :
    (x >>= f) = .ok b ↔ ∃ a, x = .ok a ∧ f a = .ok b := by
  cases x with
  | error e => simp [bind, Except.bind]
  | ok a => simp [bind, Except.bind]

/-- A chain of two steps fails in the first one or in the second. -/
theorem bind_eq_error {x : Except ε α} {f : α → Except ε β} {e : ε} :
    (x >>= f) = .error e ↔ x = .error e ∨ ∃ a, x = .ok a ∧ f a = .error e := by
  cases x with
  | error e => simp [bind, Except.bind]
  | ok a => simp [bind, Except.bind]

/-- A changed result comes from a result. -/
theorem map_eq_ok {x : Except ε α} {f : α → β} {b : β} :
    x.map f = .ok b ↔ ∃ a, x = .ok a ∧ f a = b := by
  cases x with
  | error e => simp [Except.map]
  | ok a => simp [Except.map]

/-- Changing results leaves errors as they are. -/
theorem map_eq_error {x : Except ε α} {f : α → β} {e : ε} :
    x.map f = .error e ↔ x = .error e := by
  cases x with
  | error e => simp [Except.map]
  | ok a => simp [Except.map]

/-- Changing errors leaves results as they are. -/
theorem mapError_eq_ok {γ : Type} {x : Except ε α} {f : ε → γ} {a : α} :
    x.mapError f = .ok a ↔ x = .ok a := by
  cases x with
  | error e => exact iff_of_false (by rintro ⟨⟩) (by rintro ⟨⟩)
  | ok b =>
      have hmap : (.ok b : Except ε α).mapError f = .ok b := rfl
      rw [hmap, Except.ok.injEq, Except.ok.injEq]

/-- A changed error comes from an error. -/
theorem mapError_eq_error {γ : Type} {x : Except ε α} {f : ε → γ} {e : γ} :
    x.mapError f = .error e ↔ ∃ cause, x = .error cause ∧ f cause = e := by
  cases x with
  | error cause =>
      have hmap : (.error cause : Except ε α).mapError f = .error (f cause) := rfl
      rw [hmap, Except.error.injEq]
      exact ⟨fun h => ⟨cause, rfl, h⟩, fun ⟨_, hcause, h⟩ => Except.error.inj hcause ▸ h⟩
  | ok a => exact iff_of_false (by rintro ⟨⟩) (by rintro ⟨_, ⟨⟩, _⟩)

theorem toOption_eq_some {x : Except ε α} {a : α} : x.toOption = some a ↔ x = .ok a := by
  cases x with
  | error e => simp [Except.toOption]
  | ok b => simp [Except.toOption]

/-- Why a step fails, if it does. -/
def failure? : Except ε α → Option ε
  | .error e => some e
  | .ok _ => none

theorem failure?_eq_some {x : Except ε α} {e : ε} : failure? x = some e ↔ x = .error e := by
  cases x with
  | error e => simp [failure?]
  | ok a => simp [failure?]

/-- Changing results does not touch why a step fails. -/
theorem failure?_map (x : Except ε α) (f : α → β) : failure? (x.map f) = failure? x := by
  cases x with
  | error e => rfl
  | ok a => rfl

/-- A step and a step behind it that does not depend on its result. -/
theorem failure?_bind_of_forall {x : Except ε α} {f : α → Except ε β} {rest : Option ε}
    (h : ∀ a, failure? (f a) = rest) : failure? (x >>= f) = (failure? x).or rest := by
  cases x with
  | error e => rfl
  | ok a => exact h a

theorem failure?_bind_pure (x : Except ε α) (f : α → β) :
    failure? (x >>= fun a => pure (f a)) = failure? x := by
  cases x with
  | error e => rfl
  | ok a => rfl

@[simp] theorem throw_ne_ok {e : ε} {a : α} : (throw e : Except ε α) ≠ .ok a := by
  simp [throw, throwThe, MonadExceptOf.throw]

@[simp] theorem pure_eq_ok {a b : α} : (pure a : Except ε α) = .ok b ↔ a = b := by
  simp [pure, Except.pure]

@[simp] theorem pure_ne_error {a : α} {e : ε} : (pure a : Except ε α) ≠ .error e := by
  simp [pure, Except.pure]

/-! ## lists of steps -/

/-- A list of steps fails as the first of them that fails. -/
theorem failure?_mapM {f : α → Except ε β} {g : α → Option ε} {xs : List α}
    (h : ∀ x ∈ xs, failure? (f x) = g x) : failure? (xs.mapM f) = xs.findSome? g := by
  induction xs with
  | nil => rfl
  | cons x xs ih =>
      obtain ⟨hx, hxs⟩ := List.forall_mem_cons.mp h
      rw [List.mapM_cons, List.findSome?_cons, ← hx, ← ih hxs]
      cases f x with
      | error e => rfl
      | ok y => cases xs.mapM f <;> rfl

/-- What holds of the error of every step holds of the error of the chain. -/
theorem error_of_foldlM {P : ε → Prop} {f : β → α → Except ε β}
    (hf : ∀ b a e, f b a = .error e → P e) {xs : List α} {b : β} {e : ε}
    (h : xs.foldlM f b = .error e) : P e := by
  induction xs generalizing b with
  | nil => exact absurd h pure_ne_error
  | cons x xs ih =>
      rw [List.foldlM_cons, bind_eq_error] at h
      rcases h with h | ⟨c, _, h⟩
      · exact hf b x e h
      · exact ih h

/-- What every step keeps the chain keeps. -/
theorem inv_of_foldlM {inv : β → Prop} {f : β → α → Except ε β}
    (hf : ∀ {b x c}, inv b → f b x = .ok c → inv c) {xs : List α} {b c : β} (hb : inv b)
    (h : xs.foldlM f b = .ok c) : inv c := by
  induction xs generalizing b with
  | nil => exact pure_eq_ok.mp h ▸ hb
  | cons x xs ih =>
      rw [List.foldlM_cons, bind_eq_ok] at h
      obtain ⟨next, hnext, h⟩ := h
      exact ih (hf hb hnext) h

/-- A chain fails as the first of its steps that fails. -/
theorem foldlM_eq_error_iff {f : β → α → Except ε β} {xs : List α} {b : β} {e : ε} :
    xs.foldlM f b = .error e ↔ ∃ before x after c,
      xs = before ++ x :: after ∧ before.foldlM f b = .ok c ∧ f c x = .error e := by
  induction xs generalizing b with
  | nil => simp
  | cons first xs ih =>
      rw [List.foldlM_cons, bind_eq_error]
      constructor
      · rintro (hfirst | ⟨next, hfirst, hrest⟩)
        · exact ⟨[], first, xs, b, rfl, rfl, hfirst⟩
        · obtain ⟨before, x, after, c, rfl, hbefore, hx⟩ := ih.mp hrest
          refine ⟨first :: before, x, after, c, rfl, ?_, hx⟩
          rw [List.foldlM_cons, bind_eq_ok]
          exact ⟨next, hfirst, hbefore⟩
      · rintro ⟨before, x, after, c, hxs, hbefore, hx⟩
        cases before with
        | nil =>
            obtain ⟨rfl, rfl⟩ := List.cons.inj hxs
            exact .inl (pure_eq_ok.mp hbefore ▸ hx)
        | cons other before =>
            obtain ⟨rfl, rfl⟩ := List.cons.inj hxs
            rw [List.foldlM_cons, bind_eq_ok] at hbefore
            obtain ⟨next, hfirst, hbefore⟩ := hbefore
            exact .inr ⟨next, hfirst, ih.mpr ⟨before, x, after, c, rfl, hbefore, hx⟩⟩

/-- What holds of the error of every step holds of the error of the list. -/
theorem error_of_mapM {P : ε → Prop} {f : α → Except ε β} (hf : ∀ a e, f a = .error e → P e)
    {xs : List α} {e : ε} (h : xs.mapM f = .error e) : P e := by
  induction xs with
  | nil => exact absurd h pure_ne_error
  | cons x xs ih =>
      rw [List.mapM_cons, bind_eq_error] at h
      rcases h with h | ⟨y, _, h⟩
      · exact hf x e h
      · rw [bind_eq_error] at h
        rcases h with h | ⟨ys, _, h⟩
        · exact ih h
        · exact absurd h pure_ne_error

/-- What holds of the result of every step holds of the results of the list. -/
theorem forall_of_mapM {P : β → Prop} {f : α → Except ε β} {xs : List α}
    (hf : ∀ x ∈ xs, ∀ y, f x = .ok y → P y) {ys : List β} (h : xs.mapM f = .ok ys) :
    ∀ y ∈ ys, P y := by
  induction xs generalizing ys with
  | nil =>
      cases h
      exact nofun
  | cons x xs ih =>
      obtain ⟨hx, hxs⟩ := List.forall_mem_cons.mp hf
      rw [List.mapM_cons] at h
      obtain ⟨y, hy, h⟩ := bind_eq_ok.mp h
      obtain ⟨rest, hrest, h⟩ := bind_eq_ok.mp h
      cases h
      exact List.forall_mem_cons.mpr ⟨hx y hy, ih hxs hrest⟩

/-- A list of steps gives a list of results if and only if each step gives
one. -/
theorem exists_mapM_eq_ok_iff {f : α → Except ε β} {xs : List α} :
    (∃ ys, xs.mapM f = .ok ys) ↔ ∀ x ∈ xs, ∃ y, f x = .ok y := by
  induction xs with
  | nil => exact iff_of_true ⟨[], rfl⟩ (by simp)
  | cons x xs ih =>
      simp only [List.mapM_cons, bind_eq_ok, pure_eq_ok, List.forall_mem_cons]
      constructor
      · rintro ⟨_, y, hy, ys, hys, -⟩
        exact ⟨⟨y, hy⟩, ih.mp ⟨ys, hys⟩⟩
      · rintro ⟨⟨y, hy⟩, hrest⟩
        obtain ⟨ys, hys⟩ := ih.mpr hrest
        exact ⟨y :: ys, y, hy, ys, hys, rfl⟩

/-- A list of steps in which all steps before one that fails give a result fails
as this one. -/
theorem mapM_of_error {f : α → Except ε β} {before after : List α}
    (hbefore : ∀ x ∈ before, ∃ y, f x = .ok y) {x : α} {e : ε} (h : f x = .error e) :
    (before ++ x :: after).mapM f = .error e := by
  induction before with
  | nil => rw [List.nil_append, List.mapM_cons, bind_eq_error]; exact .inl h
  | cons first before ih =>
      obtain ⟨⟨y, hy⟩, hbefore⟩ := List.forall_mem_cons.mp hbefore
      rw [List.cons_append, List.mapM_cons, bind_eq_error]
      exact .inr ⟨y, hy, bind_eq_error.mpr (.inl (ih hbefore))⟩

/-- Steps that commute may be taken in any order.  `apart` is what they need of
each other. -/
theorem foldlM_perm (f : β → α → Except ε β) (apart : α → α → Prop)
    (hsymm : ∀ {x y}, apart x y → apart y x)
    (hcomm : ∀ {b x y c d}, apart x y → f b x = .ok c → f c y = .ok d →
      ∃ c', f b y = .ok c' ∧ f c' x = .ok d)
    {xs ys : List α} (hperm : xs.Perm ys) (hapart : xs.Pairwise apart) {b c : β}
    (h : xs.foldlM f b = .ok c) : ys.foldlM f b = .ok c := by
  induction hperm generalizing b with
  | nil => exact h
  | cons x _ ih =>
      rw [List.foldlM_cons, bind_eq_ok] at h ⊢
      obtain ⟨next, hnext, h⟩ := h
      exact ⟨next, hnext, ih (List.pairwise_cons.mp hapart).2 h⟩
  | swap x y xs =>
      rw [List.foldlM_cons, bind_eq_ok] at h ⊢
      obtain ⟨next, hy, h⟩ := h
      rw [List.foldlM_cons, bind_eq_ok] at h
      obtain ⟨both, hx, h⟩ := h
      have hyx : apart y x := (List.pairwise_cons.mp hapart).1 x List.mem_cons_self
      obtain ⟨other, hx', hy'⟩ := hcomm hyx hy hx
      refine ⟨other, hx', ?_⟩
      rw [List.foldlM_cons, bind_eq_ok]
      exact ⟨both, hy', h⟩
  | trans hfirst _ ihfirst ihsecond =>
      exact ihsecond (hapart.perm hfirst hsymm) (ihfirst hapart h)

end SearchRelay.Except
