import Callsign.Table

/-!
# Look-ups in tables

`Table.get?_ofList`: a table made of pairs holds for a key the last value that the pairs have for it.
The entries of a table have one value for a key, so in them the first is the last
(`Table.lookup_reverse_entries`), and they can be told by membership (`Table.get?_eq_some_iff`).
-/

namespace Callsign.Table
universe u
variable {α : Type u}

theorem lookup_eq_some_iff_mem {es : List (String × α)} (h : es.Pairwise (·.1 ≠ ·.1)) {k : String} {v : α} :
    es.lookup k = some v ↔ (k, v) ∈ es := by
  induction es with
  | nil => simp
  | cons e es ih =>
    obtain ⟨k', v'⟩ := e
    obtain ⟨hne, hes⟩ := List.pairwise_cons.1 h
    rw [List.lookup_cons, List.mem_cons]
    by_cases hk : k = k'
    · subst hk
      have hv : (k, v) ∉ es := fun hm => hne _ hm rfl
      simp [hv, eq_comm]
    · have hb : (k == k') = false := beq_eq_false_iff_ne.2 hk
      simp [hb, hk, ih hes]

theorem keys_ne (t : Table α) : t.entries.Pairwise (·.1 ≠ ·.1) := by
  refine t.ascending.imp ?_
  intro a b h e
  rw [e] at h
  exact String.lt_irrefl _ h

theorem get?_eq_some_iff {t : Table α} {k : String} {v : α} : t.get? k = some v ↔ (k, v) ∈ t.entries :=
  lookup_eq_some_iff_mem t.keys_ne

theorem lookup_reverse_entries (t : Table α) (k : String) : t.entries.reverse.lookup k = t.get? k := by
  refine Option.ext fun v => ?_
  have h : t.entries.reverse.Pairwise (·.1 ≠ ·.1) := List.pairwise_reverse.2 (t.keys_ne.imp Ne.symm)
  rw [lookup_eq_some_iff_mem h, List.mem_reverse, get?_eq_some_iff]

theorem get?_foldl_insert (pairs : List (String × α)) (t : Table α) (k : String) :
    (pairs.foldl (fun t (k, v) => t.insert k v) t).get? k = (pairs.reverse.lookup k).or (t.get? k) := by
  induction pairs generalizing t with
  | nil => rfl
  | cons e pairs ih =>
    obtain ⟨k', v⟩ := e
    rw [List.foldl_cons, ih, List.reverse_cons, List.lookup_append, Option.or_assoc]
    congr 1
    by_cases hk : k = k'
    · subst hk
      rw [get?_insert_self, List.lookup_cons_self, Option.some_or]
    · have hb : (k == k') = false := beq_eq_false_iff_ne.2 hk
      rw [get?_insert_of_ne _ hk, List.lookup_cons, hb]
      rfl

theorem get?_ofList (pairs : List (String × α)) (k : String) :
    (ofList pairs).get? k = pairs.reverse.lookup k := by
  rw [ofList, get?_foldl_insert]
  exact Option.or_none

theorem erase_insert_self (t : Table α) {k : String} (v : α) (h : t.get? k = none) :
    (t.insert k v).erase k = t := by
  refine ext_get? fun k' => ?_
  by_cases hk : k' = k
  · subst hk
    rw [get?_erase_self, h]
  · rw [get?_erase_of_ne _ hk, get?_insert_of_ne _ hk]

theorem get?_eq_none_iff {t : Table α} {k : String} : t.get? k = none ↔ ∀ e ∈ t.entries, e.1 ≠ k := by
  rw [get?, List.lookup_eq_none_iff]
  exact forall₂_congr fun e _ => by rw [bne_iff_ne, ne_comm]

theorem mem_erase_iff {t : Table α} {k : String} {e : String × α} :
    e ∈ (t.erase k).entries ↔ e ∈ t.entries ∧ e.1 ≠ k := by
  rw [erase, List.mem_filter, decide_eq_true_iff]

/-- The entries but one, and the one behind them. -/
theorem erase_append_perm {t : Table α} {e : String × α} (he : e ∈ t.entries) :
    ((t.erase e.1).entries ++ [e]).Perm t.entries := by
  obtain ⟨l, r, hs⟩ := List.append_of_mem he
  have hne := t.keys_ne
  rw [hs] at hne
  obtain ⟨-, her, hle⟩ := List.pairwise_append.1 hne
  have hl : ∀ f ∈ l, decide (f.1 ≠ e.1) = true := fun f hf => decide_eq_true (hle f hf e List.mem_cons_self)
  have hr : ∀ f ∈ r, decide (f.1 ≠ e.1) = true := fun f hf =>
    decide_eq_true ((List.pairwise_cons.1 her).1 f hf).symm
  have herase : (t.erase e.1).entries = l ++ r := by
    show t.entries.filter _ = _
    rw [hs, List.filter_append, List.filter_cons_of_neg (by simp), List.filter_eq_self.2 hl,
      List.filter_eq_self.2 hr]
  rw [herase, hs]
  exact (List.perm_append_singleton e _).trans List.perm_middle.symm

/-! ### Order -/

theorem mem_of_lookup {es : List (String × α)} {k : String} {v : α} (h : es.lookup k = some v) : (k, v) ∈ es := by
  obtain ⟨l, r, rfl, -⟩ := List.lookup_eq_some_iff.1 h
  exact List.mem_append_right _ List.mem_cons_self

/-- A table made of pairs has no other entries. -/
theorem mem_of_mem_ofList {pairs : List (String × α)} {e : String × α} (h : e ∈ (ofList pairs).entries) :
    e ∈ pairs := by
  obtain ⟨k, v⟩ := e
  have hget : (ofList pairs).get? k = some v := get?_eq_some_iff.2 h
  rw [get?_ofList] at hget
  exact List.mem_reverse.1 (mem_of_lookup hget)

/-- It makes no difference when a pair is put in whose key the others do not have. -/
theorem ofList_cons {pairs : List (String × α)} {k : String} (h : ∀ e ∈ pairs, e.1 ≠ k) (v : α) :
    ofList ((k, v) :: pairs) = (ofList pairs).insert k v := by
  have hnone : pairs.reverse.lookup k = none := by
    rw [List.lookup_eq_none_iff]
    intro e he
    exact bne_iff_ne.2 (h e (List.mem_reverse.1 he)).symm
  refine ext_get? fun k' => ?_
  rw [get?_ofList, List.reverse_cons, List.lookup_append]
  by_cases hk : k' = k
  · subst hk
    rw [get?_insert_self, hnone, List.lookup_cons_self, Option.none_or]
  · have hb : (k' == k) = false := beq_eq_false_iff_ne.2 hk
    rw [get?_insert_of_ne _ hk, get?_ofList, List.lookup_cons, hb]
    exact Option.or_none

theorem ofList_entries (t : Table α) : ofList t.entries = t := by
  refine ext_get? fun k => ?_
  rw [get?_ofList, lookup_reverse_entries]

/-- Pairs with different keys can be put in in any order. -/
theorem ofList_perm {es fs : List (String × α)} (hp : es.Perm fs) (hn : (fs.map (·.1)).Nodup) :
    ofList es = ofList fs := by
  have hfs : fs.Pairwise (·.1 ≠ ·.1) := List.pairwise_map.1 hn
  have hes : es.Pairwise (·.1 ≠ ·.1) := hp.symm.pairwise hfs Ne.symm
  refine ext_get? fun k => Option.ext fun v => ?_
  rw [get?_ofList, get?_ofList, lookup_eq_some_iff_mem (List.pairwise_reverse.2 (hes.imp Ne.symm)),
    lookup_eq_some_iff_mem (List.pairwise_reverse.2 (hfs.imp Ne.symm)), List.mem_reverse, List.mem_reverse,
    hp.mem_iff]

theorem empty_lt {k : String} (h : k ≠ "") : "" < k := by
  have hk : k.toList ≠ [] := fun e => h (String.toList_inj.1 e)
  obtain ⟨c, cs, hc⟩ := List.exists_cons_of_ne_nil hk
  show "".toList < k.toList
  rw [hc]
  exact List.nil_lt_cons c cs

/-- The empty key comes before all others. -/
theorem entries_insert_empty {t : Table α} (h : ∀ e ∈ t.entries, e.1 ≠ "") (v : α) :
    (t.insert "" v).entries = ("", v) :: t.entries := by
  show put "" v t.entries = _
  cases he : t.entries with
  | nil => rfl
  | cons e es =>
    obtain ⟨k, w⟩ := e
    have hk : "" < k := empty_lt (h (k, w) (he ▸ List.mem_cons_self))
    rw [put, if_pos hk]

end Callsign.Table
