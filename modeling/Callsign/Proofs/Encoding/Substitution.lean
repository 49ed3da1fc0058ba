import Mathlib.Data.List.Induction
import Callsign.Proofs.Encoding.Places

/-!
# Parameters put in one after the other

`resolve_simultaneous_iff`: parameters put in one after the other fill, at every moment, the places that one pass
over the pattern fills, as long as those before make up no place for the next (`Forged`), and they do so in every
order if no parameter gets a place from the others. What the next one fills on one pass with those before are the
places the pattern has for it, and when it is put in after them the places it finds then, so the two differ in how
many these are (`Filled`).
-/

namespace Callsign.Encoding

/-- Puts parameters in one after the other. -/
def putIn (params : List (String × String)) (uri : List Char) : List Char :=
  params.foldl (fun uri (k, v) => replaceAll (placeholder k) v.toList uri) uri

/-- The parameters put in so far are at every moment what one pass over the pattern puts in. -/
def Simultaneous (params : List (String × String)) (pattern : List Char) : Prop :=
  ∀ done, done <+: params → putIn done pattern = substitute done pattern

/-- Other parameters make up a place for one that the pattern does not have, and this one would fill it with other
text than its own. -/
def Forged (others : List (String × String)) (pattern : List Char) (e : String × String) : Prop :=
  places e.1 (substitute others pattern) ≠ places e.1 pattern ∧ e.2.toList ≠ placeholder e.1

instance (others : List (String × String)) (pattern : List Char) (e : String × String) :
    Decidable (Forged others pattern e) :=
  inferInstanceAs (Decidable (_ ∧ _))

variable {k : String} {v : String} {e : String × String} {ps qs : List (String × String)} {c : Char}
  {r t A B : List Char}

/-! ### One parameter put in last -/

theorem Named.last (h : Named (ps ++ [(k, v)])) : Plain k ∧ ∀ e ∈ ps, e.1 ≠ k := by
  refine ⟨h.plain (k, v) (List.mem_append_right _ List.mem_cons_self), fun e he => ?_⟩
  exact (List.pairwise_append.1 h.distinct).2.2 e he (k, v) List.mem_cons_self

theorem Named.singleton (hk : Plain k) (v : String) : Named [(k, v)] := by
  refine ⟨fun e he => ?_, List.pairwise_singleton _ _⟩
  rw [List.mem_singleton.1 he]
  exact hk

theorem substitute_singleton_cons (hp : ¬ placeholder k <+: c :: r) :
    substitute [(k, v)] (c :: r) = c :: substitute [(k, v)] r := by
  refine substitute_cons fun e he => ?_
  rw [List.mem_singleton.1 he]
  exact hp

/-- `B` is `A` with `n` of its places for `k` filled by `w`. -/
inductive Filled (k : String) (w : List Char) : List Char → List Char → Nat → Prop
  | nil : Filled k w [] [] 0
  | char (c : Char) {A B : List Char} {n : Nat} : Filled k w A B n → Filled k w (c :: A) (c :: B) n
  | place {A B : List Char} {n : Nat} : Filled k w A B n → Filled k w (placeholder k ++ A) (w ++ B) (n + 1)

namespace Filled
variable {w : List Char} {n : Nat}

theorem append (h : Filled k w A B n) (u : List Char) : Filled k w (u ++ A) (u ++ B) n := by
  induction u with
  | nil => exact h
  | cons c u ih => exact ih.char c

theorem sameFront (h : Filled k w A B n) : SameFront A B := by
  induction h with
  | nil => exact fun _ _ hp => hp
  | char c _ ih => exact ih.cons c
  | place _ _ => exact SameFront.of_place k _ _

theorem le_places (h : Filled k w A B n) (hk : Plain k) : n ≤ places k A := by
  induction h with
  | nil => exact Nat.le_refl _
  | char c _ ih => exact Nat.le_trans ih (Nat.le_add_left _ _)
  | place _ ih =>
    rw [places_place hk]
    exact Nat.succ_le_succ ih

theorem length (h : Filled k w A B n) : B.length + n * (placeholder k).length = A.length + n * w.length := by
  induction h with
  | nil => simp
  | char c _ ih =>
    rw [List.length_cons, List.length_cons]
    omega
  | place _ ih =>
    rw [List.length_append, List.length_append, Nat.succ_mul, Nat.succ_mul]
    omega

/-- A place filled by itself stays what it is. -/
theorem eq_self (h : Filled k (placeholder k) A B n) : B = A := by
  induction h with
  | nil => rfl
  | char c _ ih => rw [ih]
  | place _ ih => rw [ih]

/-- Two ways to fill places of one text that give texts of one length fill as many, unless filling a place does not
change the length. -/
theorem places_of_length {B' : List Char} {n' : Nat} (h : Filled k w A B n) (h' : Filled k w A B' n')
    (he : B.length = B'.length) : w.length = (placeholder k).length ∨ n = n' := by
  have hl : (B'.length : Int) + n * (placeholder k).length = A.length + n * w.length := by
    exact_mod_cast he ▸ h.length
  have hl' : (B'.length : Int) + n' * (placeholder k).length = A.length + n' * w.length := by
    exact_mod_cast h'.length
  by_cases hw : w.length = (placeholder k).length
  · exact .inl hw
  · have hne : ((placeholder k).length : Int) - w.length ≠ 0 := by omega
    have hmul : (n : Int) * ((placeholder k).length - w.length) = n' * ((placeholder k).length - w.length) := by
      rw [Int.mul_sub, Int.mul_sub]
      omega
    exact .inr (Int.ofNat.inj (Int.eq_of_mul_eq_mul_right hne hmul))

/-- The pass that puts one parameter in fills all its places. -/
theorem eq_substitute (h : Filled k v.toList A B n) (hk : Plain k) (hn : n = places k A) :
    substitute [(k, v)] A = B := by
  induction h with
  | nil => rfl
  | @char c A B n h ih =>
    have hle := h.le_places hk
    rw [places] at hn
    have hp : ¬ placeholder k <+: c :: A := by
      intro hp
      rw [if_pos hp] at hn
      omega
    rw [if_neg hp, Nat.zero_add] at hn
    rw [substitute_singleton_cons hp, ih hn]
  | @place A B n _ ih =>
    rw [places_place hk] at hn
    rw [substitute_place (Named.singleton hk v) List.mem_cons_self, ih (Nat.succ.inj hn)]

/-- If filling all places gives the same as filling some, either some are all, or filling changes nothing. -/
theorem eq_places (h : Filled k v.toList A B n) (hk : Plain k)
    (hlen : v.toList.length = (placeholder k).length) (he : substitute [(k, v)] A = B) :
    v.toList = placeholder k ∨ n = places k A := by
  induction h with
  | nil => exact .inr rfl
  | @char c A B n h ih =>
    by_cases hp : placeholder k <+: c :: A
    · obtain ⟨z, hz⟩ := h.sameFront.place hk hp
      obtain ⟨y, hy⟩ := hp
      rw [← hy, substitute_place (Named.singleton hk v) List.mem_cons_self, ← hz] at he
      exact .inl (List.append_inj he hlen).1
    · rw [substitute_singleton_cons hp] at he
      rw [places, if_neg hp, Nat.zero_add]
      exact ih (List.cons.inj he).2
  | @place A B n h ih =>
    rw [substitute_place (Named.singleton hk v) List.mem_cons_self] at he
    rw [places_place hk]
    exact (ih (List.append_cancel_left he)).imp_right (congrArg Nat.succ)

end Filled

/-- The pass that puts the last parameter in with the others fills the places that the pattern has for it. -/
theorem filled_substitute (h : Named (ps ++ [(k, v)])) (t : List Char) :
    Filled k v.toList (substitute ps t) (substitute (ps ++ [(k, v)]) t) (places k t) := by
  obtain ⟨hk, hn⟩ := h.last
  have h' := h.of_append
  induction t using place_induction (ps ++ [(k, v)]) with
  | nil => exact .nil
  | char c r hno ih =>
    rw [substitute_cons hno, substitute_cons fun e he => hno e (List.mem_append_left _ he),
      places_cons_of_not (hno (k, v) (List.mem_append_right _ List.mem_cons_self))]
    exact ih.char c
  | place e he r ih =>
    rw [substitute_place h he]
    rcases List.mem_append.1 he with hm | hm
    · rw [substitute_place h' hm, places_other hk (h'.plain e hm) (hn e hm).symm]
      exact ih.append _
    · obtain rfl := List.mem_singleton.1 hm
      rw [substitute_other h' hk hn, places_place hk]
      exact ih.place

theorem filled_singleton (hk : Plain k) (v : String) (A : List Char) :
    Filled k v.toList A (substitute [(k, v)] A) (places k A) := by
  have h : Filled k v.toList (substitute [] A) (substitute ([] ++ [(k, v)]) A) (places k A) :=
    filled_substitute (Named.singleton hk v) A
  rwa [substitute_nil] at h

/-- The last parameter may as well be put in on the pass with the others, if and only if they forge no place for
it. -/
theorem substitute_last_iff (h : Named (ps ++ [e])) (t : List Char) :
    substitute [e] (substitute ps t) = substitute (ps ++ [e]) t ↔ ¬ Forged ps t e := by
  obtain ⟨k, v⟩ := e
  obtain ⟨hk, -⟩ := h.last
  have hsome := filled_substitute h t
  have hall := filled_singleton hk v (substitute ps t)
  constructor
  · rintro he ⟨hplaces, hown⟩
    rcases hsome.places_of_length hall (congrArg List.length he.symm) with hlen | hn
    · exact (hsome.eq_places hk hlen he).elim hown (hplaces ∘ Eq.symm)
    · exact hplaces hn.symm
  · intro hf
    by_cases hv : v.toList = placeholder k
    · rw [hv] at hsome hall
      rw [hsome.eq_self, hall.eq_self]
    · have hp : places k (substitute ps t) = places k t := Decidable.not_not.1 fun hp => hf ⟨hp, hv⟩
      exact hsome.eq_substitute hk hp.symm

/-! ### All parameters -/

theorem toList_resolve (pattern : String) (params : Table String) :
    (resolve pattern params).toList = putIn params.entries pattern.toList :=
  String.toList_ofList

/-- One parameter is put in on one pass, which does not read its value again. -/
theorem replaceFrom_eq (k v : String) (n : Nat) (t : List Char) :
    replaceFrom (placeholder k) v.toList n t = substituteFrom [(k, v)] n t := by
  have hlen : (placeholder k).length - 1 = k.toList.length + 1 := by simp [placeholder]
  induction t generalizing n with
  | nil => cases n <;> rfl
  | cons c r ih =>
    cases n with
    | succ n => exact ih n
    | zero =>
      rw [replaceFrom, substituteFrom, List.find?_cons]
      cases (placeholder k).isPrefixOf (c :: r) with
      | true => rw [if_pos rfl, hlen, ih]
      | false => rw [if_neg Bool.false_ne_true, ih]; rfl

theorem putIn_last (ps : List (String × String)) (e : String × String) (t : List Char) :
    putIn (ps ++ [e]) t = substitute [e] (putIn ps t) :=
  List.foldl_append.trans (replaceFrom_eq e.1 e.2 0 (putIn ps t))

/-- In a given order it is enough that no parameter gets a place from those before it. -/
theorem simultaneous_iff (h : Named qs) (t : List Char) :
    Simultaneous qs t ↔ ∀ done e, done ++ [e] <+: qs → ¬ Forged done t e := by
  have hnamed : ∀ done, done <+: qs → Named done := by
    rintro done ⟨rest, rfl⟩
    exact h.of_append
  constructor
  · intro hall done e hpre
    have hdone : putIn done t = substitute done t := hall done ((List.prefix_append done [e]).trans hpre)
    rw [← substitute_last_iff (hnamed _ hpre), ← hdone, ← putIn_last]
    exact hall _ hpre
  · intro hf done hpre
    induction done using List.reverseRecOn with
    | nil => exact (substitute_nil t).symm
    | append_singleton done e ih =>
      rw [putIn_last, ih ((List.prefix_append done [e]).trans hpre)]
      exact (substitute_last_iff (hnamed _ hpre) t).2 (hf done e hpre)

/-- What some forge, all others forge. -/
theorem Forged.erase {params : Table String} (hplain : ∀ e ∈ params.entries, Plain e.1) (h : Named (ps ++ [e]))
    (hps : ps ⊆ params.entries) (hf : Forged ps t e) : Forged (params.erase e.1).entries t e := by
  obtain ⟨k, v⟩ := e
  obtain ⟨hk, hn⟩ := h.last
  obtain ⟨hplaces, hown⟩ := hf
  have hsub : ps ⊆ (params.erase k).entries := fun e he => Table.mem_erase_iff.2 ⟨hps he, hn e he⟩
  have hothers : Named (params.erase k).entries :=
    ⟨fun e he => hplain e (Table.mem_erase_iff.1 he).1, (params.erase k).keys_ne⟩
  have hnone : ∀ e ∈ (params.erase k).entries, e.1 ≠ k := fun e he => (Table.mem_erase_iff.1 he).2
  have hmore : places k t < places k (substitute ps t) :=
    Nat.lt_of_le_of_ne ((filled_substitute h t).le_places hk) (Ne.symm hplaces)
  have hle := places_substitute_le hothers h.of_append hsub hk hnone t
  exact ⟨Nat.ne_of_gt (Nat.lt_of_lt_of_le hmore hle), hown⟩

/-- The parameters are put in one after the other, and one pass over the pattern does not depend on their order.
In a given order the first does what the second does, at every moment, if and only if those before forge no place
for the next one, and in every order if and only if no parameter gets a place from the others. -/
theorem resolve_simultaneous_iff (pattern : String) (params : Table String)
    (hplain : ∀ e ∈ params.entries, Plain e.1) :
    (resolve pattern params).toList = putIn params.entries pattern.toList ∧
    (∀ order, order.Perm params.entries →
      substitute order pattern.toList = substitute params.entries pattern.toList ∧
      (Simultaneous order pattern.toList ↔
        ∀ done e, done ++ [e] <+: order → ¬ Forged done pattern.toList e)) ∧
    ((∀ order, order.Perm params.entries → Simultaneous order pattern.toList) ↔
      ∀ e ∈ params.entries, ¬ Forged (params.erase e.1).entries pattern.toList e) := by
  have hnamed : Named params.entries := ⟨hplain, params.keys_ne⟩
  have horder : ∀ order, order.Perm params.entries → (Simultaneous order pattern.toList ↔
      ∀ done e, done ++ [e] <+: order → ¬ Forged done pattern.toList e) := fun order hp =>
    simultaneous_iff (hnamed.of_perm hp) pattern.toList
  refine ⟨toList_resolve pattern params,
    fun order hp => ⟨substitute_perm hnamed hp _, horder order hp⟩, fun hall e he => ?_, fun hf order hp => ?_⟩
  · have hlast := Table.erase_append_perm he
    exact (horder _ hlast).1 (hall _ hlast) _ e (List.prefix_refl _)
  · refine (horder order hp).2 fun done e hpre hforged => ?_
    have hmem : ∀ f ∈ done ++ [e], f ∈ params.entries := fun f hm => hp.mem_iff.1 (hpre.subset hm)
    obtain ⟨rest, hrest⟩ := hpre
    have hdone : Named (done ++ [e]) := (hnamed.of_perm (hrest.symm ▸ hp)).of_append
    refine hf e (hmem e (List.mem_append_right _ List.mem_cons_self)) ?_
    exact hforged.erase hplain hdone fun f hm => hmem f (List.mem_append_left _ hm)

/-- Values that make up a place together, when there is nothing left that would fill it. -/
def brackets : Table String := .ofList [("a", "["), ("b", "b]")]

theorem resolve_simultaneous_brackets :
    (resolve "/[a][b]" brackets).toList = substitute brackets.entries "/[a][b]".toList := by
  obtain ⟨hres, -, hiff⟩ := resolve_simultaneous_iff "/[a][b]" brackets (by decide)
  rw [hres]
  exact hiff.2 (by decide) _ (List.Perm.refl _) _ (List.prefix_refl _)

/-- A value that is a place for a later parameter. -/
def crossed : Table String := .ofList [("a", "[b]"), ("b", "x")]

/-- The value is read as a place, on no single pass and not if the later parameter is put in before it. -/
theorem value_read_as_place : (∀ e ∈ crossed.entries, Plain e.1) ∧ resolve "/[a]" crossed = "/x" ∧
    substitute crossed.entries "/[a]".toList = "/[b]".toList ∧
    putIn crossed.entries.reverse "/[a]".toList = "/[b]".toList := by
  decide

end Callsign.Encoding
