import Callsign.Encoding.Pattern
import Callsign.Proofs.Encoding.Split
import Callsign.Proofs.Table

/-!
# Places filled on one pass

A text is made of places and of characters where none begins (`place_induction`), and one pass over it fills the
places of all parameters (`substitute`), in whatever order they are listed. With more parameters no place goes
away that was there with fewer (`places_substitute_le`): what a character before has left open can only be closed
by characters before the next bracket that opens, and up to there the two texts are the same (`SameFront`).
-/

namespace Callsign.Encoding

/-- Fills the places of all parameters on one pass from left to right; `n` characters are still part of the place
before. -/
def substituteFrom (params : List (String × String)) : Nat → List Char → List Char
  | _, [] => []
  | n + 1, _ :: r => substituteFrom params n r
  | 0, c :: r =>
    match params.find? fun e => (placeholder e.1).isPrefixOf (c :: r) with
    | some e => e.2.toList ++ substituteFrom params (e.1.toList.length + 1) r
    | none => c :: substituteFrom params 0 r

def substitute (params : List (String × String)) : List Char → List Char := substituteFrom params 0

/-- How many places for `k` a text has. -/
def places (k : String) : List Char → Nat
  | [] => 0
  | c :: r => (if placeholder k <+: c :: r then 1 else 0) + places k r

/-- A name without brackets. -/
def Plain (k : String) : Prop := '[' ∉ k.toList ∧ ']' ∉ k.toList

instance (k : String) : Decidable (Plain k) := inferInstanceAs (Decidable (_ ∧ _))

/-- Parameters with different names, none of which has brackets. -/
structure Named (params : List (String × String)) : Prop where
  plain : ∀ e ∈ params, Plain e.1
  distinct : params.Pairwise (·.1 ≠ ·.1)

variable {k k' : String} {e : String × String} {ps qs : List (String × String)} {c : Char}
  {r t u A B : List Char}

/-! ### Places -/

theorem placeholder_append (k : String) (r : List Char) :
    placeholder k ++ r = '[' :: ((k.toList ++ [']']) ++ r) := by
  simp [placeholder]

theorem not_mem_name (hk : Plain k) : '[' ∉ k.toList ++ [']'] := by
  simp [hk.1]

/-- The places of two names do not begin at one point. -/
theorem name_inj (hk : Plain k) (hk' : Plain k') (h : placeholder k <+: placeholder k' ++ r) : k = k' := by
  obtain ⟨s, hs⟩ := h
  rw [placeholder_append, placeholder_append, List.append_assoc, List.append_assoc] at hs
  exact String.toList_inj.1 (append_mark_inj hk.2 hk'.2 (List.cons.inj hs).2).1

theorem Named.eq_of_name (h : Named ps) {e' : String × String} (he : e ∈ ps) (he' : e' ∈ ps) (hk : e.1 = e'.1) :
    e = e' := by
  obtain ⟨k, v⟩ := e
  obtain ⟨k', v'⟩ := e'
  obtain rfl : k = k' := hk
  rw [← Table.lookup_eq_some_iff_mem h.distinct] at he he'
  rw [Option.some.inj (he.symm.trans he')]

theorem Named.of_append (h : Named (ps ++ qs)) : Named ps :=
  ⟨fun e he => h.plain e (List.mem_append_left _ he), (List.pairwise_append.1 h.distinct).1⟩

theorem Named.of_perm (h : Named qs) (hp : ps.Perm qs) : Named ps :=
  ⟨fun e he => h.plain e (hp.mem_iff.1 he), (hp.pairwise_iff Ne.symm).2 h.distinct⟩

theorem not_place_of_ne (hc : c ≠ '[') (k : String) (r : List Char) : ¬ placeholder k <+: c :: r := by
  rintro ⟨s, hs⟩
  exact hc (List.cons.inj hs).1.symm

/-- A text is made of places for given parameters and of characters where none of these begins. -/
@[elab_as_elim]
theorem place_induction {motive : List Char → Prop} (ps : List (String × String)) (nil : motive [])
    (char : ∀ c r, (∀ e ∈ ps, ¬ placeholder e.1 <+: c :: r) → motive r → motive (c :: r))
    (place : ∀ e ∈ ps, ∀ r, motive r → motive (placeholder e.1 ++ r)) (t : List Char) : motive t := by
  match t with
  | [] => exact nil
  | c :: r =>
    by_cases h : ∃ e ∈ ps, placeholder e.1 <+: c :: r
    · obtain ⟨e, he, s, hs⟩ := h
      have hlt : s.length < (c :: r).length := by
        rw [← hs, placeholder_append]
        simp
        omega
      rw [← hs]
      exact place e he s (place_induction ps nil char place s)
    · exact char c r (fun e he hp => h ⟨e, he, hp⟩) (place_induction ps nil char place r)
termination_by t.length
decreasing_by
  · exact hlt
  · exact Nat.lt_succ_self r.length

/-! ### One pass -/

theorem substituteFrom_eq (ps : List (String × String)) (n : Nat) (t : List Char) :
    substituteFrom ps n t = substitute ps (t.drop n) := by
  induction t generalizing n with
  | nil =>
    rw [List.drop_nil]
    cases n <;> rfl
  | cons c r ih =>
    cases n with
    | zero => rfl
    | succ n => exact ih n

theorem substitute_cons (h : ∀ e ∈ ps, ¬ placeholder e.1 <+: c :: r) :
    substitute ps (c :: r) = c :: substitute ps r := by
  have hnone : ps.find? (fun e => (placeholder e.1).isPrefixOf (c :: r)) = none := by
    rw [List.find?_eq_none]
    intro e he hp
    exact h e he (List.isPrefixOf_iff_prefix.1 hp)
  rw [substitute, substituteFrom, hnone]

/-- At a place for a parameter it is this parameter that is found. -/
theorem find?_place (h : Named ps) (he : e ∈ ps) (r : List Char) :
    ps.find? (fun f => (placeholder f.1).isPrefixOf (placeholder e.1 ++ r)) = some e := by
  cases hf : ps.find? (fun f => (placeholder f.1).isPrefixOf (placeholder e.1 ++ r)) with
  | none =>
    have hno := List.find?_eq_none.1 hf e he
    exact absurd (List.isPrefixOf_iff_prefix.2 (List.prefix_append _ r)) hno
  | some f =>
    obtain ⟨hp, -⟩ := List.find?_eq_some_iff_append.1 hf
    have hm := List.mem_of_find?_eq_some hf
    have hk := name_inj (h.plain f hm) (h.plain e he) (List.isPrefixOf_iff_prefix.1 hp)
    rw [h.eq_of_name hm he hk]

theorem substitute_place (h : Named ps) (he : e ∈ ps) (r : List Char) :
    substitute ps (placeholder e.1 ++ r) = e.2.toList ++ substitute ps r := by
  have hfind := find?_place h he r
  have hlen : e.1.toList.length + 1 = (e.1.toList ++ [']']).length := by simp
  rw [placeholder_append] at hfind ⊢
  rw [substitute, substituteFrom, hfind]
  dsimp only
  rw [substituteFrom_eq, hlen, List.drop_left, substitute]

theorem substitute_nil (t : List Char) : substitute [] t = t := by
  induction t with
  | nil => rfl
  | cons c r ih => rw [substitute_cons fun e he => absurd he List.not_mem_nil, ih]

theorem substitute_append_of_not_mem (hu : '[' ∉ u) (r : List Char) :
    substitute ps (u ++ r) = u ++ substitute ps r := by
  induction u with
  | nil => rfl
  | cons c u ih =>
    obtain ⟨hc, hu⟩ := not_or.1 (mt List.mem_cons.2 hu)
    rw [List.cons_append, substitute_cons fun e _ => not_place_of_ne (Ne.symm hc) e.1 _, ih hu, List.cons_append]

theorem substitute_other (h : Named ps) (hk : Plain k) (hn : ∀ e ∈ ps, e.1 ≠ k) (r : List Char) :
    substitute ps (placeholder k ++ r) = placeholder k ++ substitute ps r := by
  have hno : ∀ e ∈ ps, ¬ placeholder e.1 <+: placeholder k ++ r := fun e he hp =>
    hn e he (name_inj (h.plain e he) hk hp)
  rw [placeholder_append] at hno ⊢
  rw [substitute_cons hno, substitute_append_of_not_mem (not_mem_name hk), placeholder_append]

theorem substitute_perm (h : Named qs) (hp : ps.Perm qs) (t : List Char) : substitute ps t = substitute qs t := by
  induction t using place_induction qs with
  | nil => rfl
  | char c r hno ih => rw [substitute_cons hno, substitute_cons fun e he => hno e (hp.mem_iff.1 he), ih]
  | place e he r ih => rw [substitute_place h he, substitute_place (h.of_perm hp) (hp.mem_iff.2 he), ih]

/-! ### Counting places -/

theorem places_cons_of_not (h : ¬ placeholder k <+: c :: r) : places k (c :: r) = places k r := by
  rw [places, if_neg h, Nat.zero_add]

theorem places_append_of_not_mem (hu : '[' ∉ u) (k : String) (r : List Char) : places k (u ++ r) = places k r := by
  induction u with
  | nil => rfl
  | cons c u ih =>
    obtain ⟨hc, hu⟩ := not_or.1 (mt List.mem_cons.2 hu)
    rw [List.cons_append, places_cons_of_not (not_place_of_ne (Ne.symm hc) k _), ih hu]

theorem places_place (hk : Plain k) (r : List Char) : places k (placeholder k ++ r) = places k r + 1 := by
  have hp : placeholder k <+: placeholder k ++ r := List.prefix_append _ r
  rw [placeholder_append] at hp ⊢
  rw [places, if_pos hp, places_append_of_not_mem (not_mem_name hk), Nat.add_comm]

theorem places_other (hk : Plain k) (hk' : Plain k') (hne : k ≠ k') (r : List Char) :
    places k (placeholder k' ++ r) = places k r := by
  have hp : ¬ placeholder k <+: placeholder k' ++ r := fun hp => hne (name_inj hk hk' hp)
  rw [placeholder_append] at hp ⊢
  rw [places_cons_of_not hp, places_append_of_not_mem (not_mem_name hk')]

theorem places_le_append (k : String) (u r : List Char) : places k r ≤ places k (u ++ r) := by
  induction u with
  | nil => exact Nat.le_refl _
  | cons c u ih => exact Nat.le_trans ih (Nat.le_add_left _ _)

/-! ### More parameters take no place away -/

/-- `B` begins as `A` does, up to the first bracket that opens. -/
def SameFront (A B : List Char) : Prop := ∀ x, '[' ∉ x → x <+: A → x <+: B

namespace SameFront

theorem cons (h : SameFront A B) (c : Char) : SameFront (c :: A) (c :: B) := by
  intro x hx hp
  cases x with
  | nil => exact List.nil_prefix
  | cons d x =>
    obtain ⟨hd, htail⟩ := List.cons_prefix_cons.1 hp
    exact List.cons_prefix_cons.2 ⟨hd, h x (fun hm => hx (List.mem_cons_of_mem _ hm)) htail⟩

theorem append (h : SameFront A B) (u : List Char) : SameFront (u ++ A) (u ++ B) := by
  induction u with
  | nil => exact h
  | cons c u ih => exact ih.cons c

/-- Before a place there is nothing to agree on. -/
theorem of_place (k : String) (A B : List Char) : SameFront (placeholder k ++ A) B := by
  intro x hx hp
  cases x with
  | nil => exact List.nil_prefix
  | cons d x =>
    rw [placeholder_append] at hp
    exact absurd ((List.cons_prefix_cons.1 hp).1 ▸ List.mem_cons_self) hx

/-- What closes a place that a character begins stands before the next bracket that opens. -/
theorem place (h : SameFront A B) (hk : Plain k) (hp : placeholder k <+: c :: A) : placeholder k <+: c :: B := by
  have hsplit : placeholder k = '[' :: (k.toList ++ [']']) := rfl
  rw [hsplit] at hp ⊢
  obtain ⟨hc, htail⟩ := List.cons_prefix_cons.1 hp
  exact List.cons_prefix_cons.2 ⟨hc, h _ (not_mem_name hk) htail⟩

theorem places_cons (h : SameFront A B) (hk : Plain k) (hle : places k A ≤ places k B) (c : Char) :
    places k (c :: A) ≤ places k (c :: B) := by
  rw [places, places]
  by_cases hp : placeholder k <+: c :: A
  · rw [if_pos hp, if_pos (h.place hk hp)]
    exact Nat.add_le_add_left hle 1
  · rw [if_neg hp, Nat.zero_add]
    exact Nat.le_trans hle (Nat.le_add_left _ _)

theorem places_append (h : SameFront A B) (hk : Plain k) (hle : places k A ≤ places k B) (u : List Char) :
    places k (u ++ A) ≤ places k (u ++ B) := by
  induction u with
  | nil => exact hle
  | cons c u ih => exact (h.append u).places_cons hk ih c

end SameFront

theorem Named.ne_of_not_mem (h : Named qs) (hps : ps ⊆ qs) (he : e ∈ qs) (hne : e ∉ ps) : ∀ f ∈ ps, f.1 ≠ e.1 :=
  fun _ hf hk => hne (h.eq_of_name (hps hf) he hk ▸ hf)

theorem sameFront_substitute (h : Named qs) (h' : Named ps) (hps : ps ⊆ qs) (t : List Char) :
    SameFront (substitute ps t) (substitute qs t) := by
  induction t using place_induction qs with
  | nil => exact fun _ _ hp => hp
  | char c r hno ih =>
    rw [substitute_cons hno, substitute_cons fun e he => hno e (hps he)]
    exact ih.cons c
  | place e he r ih =>
    by_cases hm : e ∈ ps
    · rw [substitute_place h he, substitute_place h' hm]
      exact ih.append _
    · rw [substitute_other h' (h.plain e he) (h.ne_of_not_mem hps he hm)]
      exact SameFront.of_place e.1 _ _

/-- A place that some parameters leave or make up is there with more parameters as well. -/
theorem places_substitute_le (h : Named qs) (h' : Named ps) (hps : ps ⊆ qs) (hk : Plain k)
    (hn : ∀ e ∈ qs, e.1 ≠ k) (t : List Char) : places k (substitute ps t) ≤ places k (substitute qs t) := by
  -- The induction has to stop at places for `k` as well, where the value plays no part.
  induction t using place_induction ((k, "") :: qs) with
  | nil => exact Nat.le_refl _
  | char c r hno ih =>
    have hqs : ∀ e ∈ qs, ¬ placeholder e.1 <+: c :: r := fun e he => hno e (List.mem_cons_of_mem _ he)
    rw [substitute_cons hqs, substitute_cons fun e he => hqs e (hps he)]
    exact (sameFront_substitute h h' hps r).places_cons hk ih c
  | place e he r ih =>
    rcases List.mem_cons.1 he with rfl | he
    · rw [substitute_other h hk hn, substitute_other h' hk fun e he => hn e (hps he), places_place hk,
        places_place hk]
      exact Nat.succ_le_succ ih
    · rw [substitute_place h he]
      by_cases hm : e ∈ ps
      · rw [substitute_place h' hm]
        exact (sameFront_substitute h h' hps r).places_append hk ih _
      · rw [substitute_other h' (h.plain e he) (h.ne_of_not_mem hps he hm),
          places_other hk (h.plain e he) (hn e he).symm]
        exact Nat.le_trans ih (places_le_append k _ _)

end Callsign.Encoding
