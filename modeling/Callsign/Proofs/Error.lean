import Callsign.Error

/-!
# Steps that succeed

A chain of steps succeeds only if each of them does, so that its success can be taken apart step by step. Two chains
can be followed side by side (`Paired`): as long as each pair of steps ends alike, so do the chains. Where a chain can
fail in one way only, its steps say together what it needs not to (`FailsUnless`).
-/

namespace Callsign
universe u v
variable {ε ε' : Type u} {α β : Type v}

theorem bind_eq_ok {x : Except ε α} {f : α → Except ε β} {b : β} (h : x >>= f = .ok b) :
    ∃ a, x = .ok a ∧ f a = .ok b := by
  cases x with
  | error e => cases h
  | ok a => exact ⟨a, rfl, h⟩

theorem map_eq_ok {x : Except ε α} {f : α → β} {b : β} (h : x.map f = .ok b) : ∃ a, x = .ok a ∧ f a = b := by
  cases x with
  | error e => cases h
  | ok a => exact ⟨a, rfl, Except.ok.inj h⟩

theorem mapError_eq_ok {x : Except ε α} {f : ε → ε'} {a : α} (h : x.mapError f = .ok a) : x = .ok a := by
  cases x with
  | error e => cases h
  | ok b => exact congrArg _ (Except.ok.inj h)

/-- A step made for each of several things succeeds only if it does for every one of them. -/
theorem mapM_eq_ok {xs : List α} {f : α → Except ε β} {ys : List β} (h : xs.mapM f = .ok ys) :
    (∀ x ∈ xs, ∃ y ∈ ys, f x = .ok y) ∧ ∀ y ∈ ys, ∃ x ∈ xs, f x = .ok y := by
  induction xs generalizing ys with
  | nil =>
    obtain rfl := Except.ok.inj h
    exact ⟨nofun, nofun⟩
  | cons x xs ih =>
    rw [List.mapM_cons] at h
    obtain ⟨y, hy, h⟩ := bind_eq_ok h
    obtain ⟨ys, hys, h⟩ := bind_eq_ok h
    obtain rfl := Except.ok.inj h
    obtain ⟨hx, hmem⟩ := ih hys
    constructor
    · intro x' hx'
      rcases List.mem_cons.1 hx' with rfl | hx'
      · exact ⟨y, List.mem_cons_self, hy⟩
      · obtain ⟨y', hy', he⟩ := hx x' hx'
        exact ⟨y', List.mem_cons_of_mem _ hy', he⟩
    · intro y' hy'
      rcases List.mem_cons.1 hy' with rfl | hy'
      · exact ⟨x, List.mem_cons_self, hy⟩
      · obtain ⟨x', hx', he⟩ := hmem y' hy'
        exact ⟨x', List.mem_cons_of_mem _ hx', he⟩

/-- What each step keeps of its thing, the results keep of the things. -/
theorem map_of_mapM_eq_ok {γ : Type v} {f : α → Except ε β} {g : β → γ} {k : α → γ}
    (hf : ∀ x y, f x = .ok y → g y = k x) {xs : List α} {ys : List β} (h : xs.mapM f = .ok ys) :
    ys.map g = xs.map k := by
  induction xs generalizing ys with
  | nil =>
    obtain rfl := Except.ok.inj h
    rfl
  | cons x xs ih =>
    rw [List.mapM_cons] at h
    obtain ⟨y, hy, h⟩ := bind_eq_ok h
    obtain ⟨ys, hys, h⟩ := bind_eq_ok h
    obtain rfl := Except.ok.inj h
    rw [List.map_cons, List.map_cons, hf x y hy, ih hys]

theorem mapM_map {γ : Type v} (xs : List α) (f : α → Except ε β) (g : β → γ) :
    xs.mapM (fun x => (f x).map g) = (xs.mapM f).map (List.map g) := by
  induction xs with
  | nil => rfl
  | cons x xs ih =>
    rw [List.mapM_cons, List.mapM_cons, ih]
    cases f x with
    | error e => rfl
    | ok y => cases xs.mapM f <;> rfl

/-- Two attempts come to the same error, or each to something, and `R` relates the two. -/
inductive Paired (R : α → β → Prop) : Except ε α → Except ε β → Prop
  | ok {a : α} {b : β} (h : R a b) : Paired R (.ok a) (.ok b)
  | error (e : ε) : Paired R (.error e) (.error e)

namespace Paired
variable {γ δ : Type v} {R : α → β → Prop} {S : γ → δ → Prop} {x : Except ε α} {y : Except ε β}

theorem bind {f : α → Except ε γ} {g : β → Except ε δ} (h : Paired R x y)
    (hf : ∀ a b, R a b → Paired S (f a) (g b)) : Paired S (x >>= f) (y >>= g) := by
  cases h with
  | ok h => exact hf _ _ h
  | error e => exact .error e

theorem refl (x : Except ε α) : Paired Eq x x := by
  cases x with
  | error e => exact .error e
  | ok a => exact .ok rfl

theorem mono {R' : α → β → Prop} (h : Paired R x y) (hR : ∀ a b, R a b → R' a b) : Paired R' x y := by
  cases h with
  | ok h => exact .ok (hR _ _ h)
  | error e => exact .error e

theorem of_ok {a : α} (h : Paired R x y) (hx : x = .ok a) : ∃ b, y = .ok b ∧ R a b := by
  cases h with
  | ok h =>
    obtain rfl := Except.ok.inj hx
    exact ⟨_, rfl, h⟩
  | error e => cases hx

theorem eq {x y : Except ε α} (h : Paired Eq x y) : x = y := by
  cases h with
  | ok h => exact congrArg _ h
  | error e => rfl

theorem trans {R : α → α → Prop} (hR : ∀ a b c, R a b → R b c → R a c) {x y z : Except ε α}
    (h : Paired R x y) (h' : Paired R y z) : Paired R x z := by
  cases h with
  | ok h =>
    cases h' with
    | ok h' => exact .ok (hR _ _ _ h h')
  | error e => exact h'

/-- If all failures are alike, it makes no difference in which order things are tried. -/
theorem mapM_perm {e : ε} {f : α → Except ε β} (he : ∀ x e', f x = .error e' → e' = e) {xs ys : List α}
    (h : xs.Perm ys) : Paired List.Perm (xs.mapM f) (ys.mapM f) := by
  induction h with
  | nil => exact .ok .nil
  | cons x _ ih =>
    rw [List.mapM_cons, List.mapM_cons]
    exact (refl (f x)).bind fun y _ hy => ih.bind fun _ _ hp => .ok (hy ▸ hp.cons y)
  | swap x y xs =>
    simp only [List.mapM_cons]
    cases hx : f x with
    | error e₁ =>
      obtain rfl := he x e₁ hx
      cases hy : f y with
      | error e₂ =>
        obtain rfl := he y e₂ hy
        exact .error _
      | ok b => exact .error _
    | ok a =>
      cases f y with
      | error e₂ => exact .error _
      | ok b =>
        cases xs.mapM f with
        | error e₃ => exact .error _
        | ok ys => exact .ok (.swap a b ys)
  | trans _ _ ih₁ ih₂ => exact ih₁.trans (fun _ _ _ => .trans) ih₂

end Paired

/-- The attempt succeeds if `P` holds, and fails with `e` if not. -/
inductive FailsUnless (P : Prop) (e : ε) : Except ε α → Prop
  | ok (h : P) (a : α) : FailsUnless P e (.ok a)
  | error (h : ¬ P) : FailsUnless P e (.error e)

namespace FailsUnless
variable {P Q : Prop} {e e' : ε} {x : Except ε α}

theorem congr (hx : FailsUnless P e x) (h : P ↔ Q) : FailsUnless Q e x := by
  cases hx with
  | ok hp a => exact .ok (h.1 hp) a
  | error hp => exact .error (mt h.2 hp)

theorem error_iff (hx : FailsUnless P e x) : x = .error e' ↔ e' = e ∧ ¬ P := by
  cases hx with
  | ok hp a => simp [hp]
  | error hp => simp [hp, eq_comm]

theorem bind {f : α → Except ε β} (hx : FailsUnless P e x) (hf : ∀ a, FailsUnless Q e (f a)) :
    FailsUnless (P ∧ Q) e (x >>= f) := by
  cases hx with
  | ok hp a => exact (hf a).congr (and_iff_right hp).symm
  | error hp => exact .error (mt And.left hp)

theorem map (hx : FailsUnless P e x) (f : α → β) : FailsUnless P e (x.map f) := by
  cases hx with
  | ok hp a => exact .ok hp _
  | error hp => exact .error hp

theorem mapM {xs : List α} {P : α → Prop} {f : α → Except ε β} (h : ∀ x ∈ xs, FailsUnless (P x) e (f x)) :
    FailsUnless (∀ x ∈ xs, P x) e (xs.mapM f) := by
  induction xs with
  | nil => exact .ok nofun _
  | cons x xs ih =>
    obtain ⟨hx, hxs⟩ := List.forall_mem_cons.1 h
    rw [List.mapM_cons]
    exact (hx.bind fun y => (ih hxs).map (y :: ·)).congr List.forall_mem_cons.symm

end FailsUnless

theorem exists_of_isOk {x : Except ε α} (h : x.isOk = true) : ∃ a, x = .ok a := by
  cases x with
  | error e => cases h
  | ok a => exact ⟨a, rfl⟩

theorem eq_ok_of_toOption {x : Except ε α} {a : α} (h : x.toOption = some a) : x = .ok a := by
  cases x with
  | error e => cases h
  | ok b => exact congrArg _ (Option.some.inj h)

end Callsign
