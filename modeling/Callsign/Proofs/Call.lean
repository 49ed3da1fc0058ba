import Callsign.Call
import Callsign.Proofs.Table
import Mathlib.Data.List.Nodup

/-!
# Query parameters in the order of their first setting

`query_insertion_ordered`: after any settings the pairs have one value for a key, the last that was set, and the
keys stand in the order in which they were first set (`InsertionOrdered`). One more setting keeps this
(`InsertionOrdered.set`): it changes the first pair of its key, or else adds a pair at the end, and nothing else
(`setFirst_of_first`, `setFirst_of_new`).
-/

namespace Callsign.Call
variable {key k : String} {u v w : Option String} {ps sets before l r : List (String × Option String)} {c : Call}

def keys (ps : List (String × Option String)) : List String := ps.map (·.1)

/-! ### One setting -/

theorem setFirst_of_first (h : key ∉ keys l) (w v : Option String) (r : List (String × Option String)) :
    setFirst key v (l ++ (key, w) :: r) = l ++ (key, v) :: r := by
  induction l with
  | nil => exact if_pos rfl
  | cons e l ih =>
    obtain ⟨hne, hl⟩ := not_or.1 (mt List.mem_cons.2 h)
    rw [List.cons_append, setFirst, if_neg (Ne.symm hne), ih hl, List.cons_append]

theorem setFirst_of_new (h : key ∉ keys ps) (v : Option String) : setFirst key v ps = ps ++ [(key, v)] := by
  induction ps with
  | nil => rfl
  | cons e ps ih =>
    obtain ⟨hne, hps⟩ := not_or.1 (mt List.mem_cons.2 h)
    rw [setFirst, if_neg (Ne.symm hne), ih hps, List.cons_append]

/-- The first pair of a key. -/
theorem exists_first (h : key ∈ keys ps) : ∃ l w r, ps = l ++ (key, w) :: r ∧ key ∉ keys l := by
  obtain ⟨lk, rk, hkeys, hl⟩ := List.eq_append_cons_of_mem h
  obtain ⟨l, r', rfl, rfl, hr⟩ := List.map_eq_append_iff.1 hkeys
  obtain ⟨⟨_, w⟩, r, rfl, rfl, -⟩ := List.map_eq_cons_iff.1 hr
  exact ⟨l, w, r, rfl, hl⟩

theorem keys_setFirst (key : String) (v : Option String) (ps : List (String × Option String)) :
    keys (setFirst key v ps) = if key ∈ keys ps then keys ps else keys ps ++ [key] := by
  split
  · next h =>
    obtain ⟨l, w, r, rfl, hl⟩ := exists_first h
    rw [setFirst_of_first hl, keys, keys, List.map_append, List.map_append]
    rfl
  · next h =>
    rw [setFirst_of_new h, keys, List.map_append]
    rfl

theorem mem_setFirst_of_ne (hk : k ≠ key) : (k, u) ∈ setFirst key v ps ↔ (k, u) ∈ ps := by
  have hother : ∀ w : Option String, (k, u) ≠ (key, w) := fun w h => hk (congrArg Prod.fst h)
  by_cases h : key ∈ keys ps
  · obtain ⟨l, w, r, rfl, hl⟩ := exists_first h
    rw [setFirst_of_first hl]
    simp [hother]
  · rw [setFirst_of_new h]
    simp [hother]

theorem lookup_eq_none_iff : ps.lookup k = none ↔ k ∉ keys ps := by
  rw [List.lookup_eq_none_iff, keys, List.mem_map, not_exists]
  exact forall_congr' fun e => by rw [not_and, bne_iff_ne, ne_comm]

theorem lookup_eq_some_iff (hd : (keys ps).Nodup) : ps.lookup k = some v ↔ (k, v) ∈ ps :=
  Table.lookup_eq_some_iff_mem (List.pairwise_map.1 hd)

theorem lookup_setFirst_self (key : String) (v : Option String) (ps : List (String × Option String)) :
    (setFirst key v ps).lookup key = some v := by
  by_cases h : key ∈ keys ps
  · obtain ⟨l, w, r, rfl, hl⟩ := exists_first h
    rw [setFirst_of_first hl, List.lookup_append, lookup_eq_none_iff.2 hl, List.lookup_cons_self, Option.none_or]
  · rw [setFirst_of_new h, List.lookup_append, lookup_eq_none_iff.2 h, List.lookup_cons_self, Option.none_or]

/-! ### Any number of settings -/

/-- The pairs are what some settings, made one after the other, come to: each key stands once, where its first
setting puts it, and has the value of its last. -/
structure InsertionOrdered (sets ps : List (String × Option String)) : Prop where
  distinct : (keys ps).Nodup
  order : (keys ps).Pairwise fun j k => (keys sets).idxOf j < (keys sets).idxOf k
  last : ∀ k v, (k, v) ∈ ps ↔ sets.reverse.lookup k = some v

namespace InsertionOrdered

theorem lookup_eq (h : InsertionOrdered sets ps) (k : String) : ps.lookup k = sets.reverse.lookup k := by
  refine Option.ext fun v => ?_
  rw [lookup_eq_some_iff h.distinct, h.last]

theorem mem_keys (h : InsertionOrdered sets ps) : k ∈ keys ps ↔ k ∈ keys sets := by
  have hkeys : k ∈ keys sets.reverse ↔ k ∈ keys sets := by
    rw [keys, List.map_reverse, List.mem_reverse]
    rfl
  rw [← hkeys, ← not_iff_not, ← lookup_eq_none_iff, ← lookup_eq_none_iff, h.lookup_eq]

theorem order_snoc (h : InsertionOrdered sets ps) (e : String × Option String) :
    (keys ps).Pairwise fun j k => (keys (sets ++ [e])).idxOf j < (keys (sets ++ [e])).idxOf k := by
  have hidx : ∀ k ∈ keys ps, (keys (sets ++ [e])).idxOf k = (keys sets).idxOf k := by
    intro k hk
    rw [keys, List.map_append]
    exact List.idxOf_append_of_mem (h.mem_keys.1 hk)
  refine h.order.imp_of_mem ?_
  intro j k hj hk hlt
  rw [hidx j hj, hidx k hk]
  exact hlt

theorem order_new (h : InsertionOrdered sets ps) (hkey : key ∉ keys ps) (v : Option String) :
    (keys ps ++ [key]).Pairwise fun j k =>
      (keys (sets ++ [(key, v)])).idxOf j < (keys (sets ++ [(key, v)])).idxOf k := by
  refine List.pairwise_append.2 ⟨h.order_snoc (key, v), List.pairwise_singleton _ _, ?_⟩
  intro j hj k hk
  obtain rfl := List.mem_singleton.1 hk
  have hj : j ∈ keys sets := h.mem_keys.1 hj
  have hk : k ∉ keys sets := mt h.mem_keys.2 hkey
  rw [keys, List.map_append]
  show (keys sets ++ [k]).idxOf j < (keys sets ++ [k]).idxOf k
  rw [List.idxOf_append_of_mem hj, List.idxOf_append_of_notMem hk]
  exact Nat.lt_add_right _ (List.idxOf_lt_length_of_mem hj)

/-- One more setting. -/
theorem set (h : InsertionOrdered sets ps) (key : String) (v : Option String) :
    InsertionOrdered (sets ++ [(key, v)]) (setFirst key v ps) := by
  have hdistinct : (keys (setFirst key v ps)).Nodup := by
    rw [keys_setFirst]
    split
    · exact h.distinct
    · next hkey => exact h.distinct.append (List.nodup_singleton key) (List.disjoint_singleton.2 hkey)
  refine ⟨hdistinct, ?_, fun k u => ?_⟩
  · rw [keys_setFirst]
    split
    · exact h.order_snoc (key, v)
    · next hkey => exact h.order_new hkey v
  · rw [List.reverse_append, List.reverse_singleton, List.singleton_append]
    by_cases hk : k = key
    · subst hk
      rw [← lookup_eq_some_iff hdistinct, lookup_setFirst_self, List.lookup_cons_self]
    · have hb : (k == key) = false := beq_eq_false_iff_ne.2 hk
      rw [mem_setFirst_of_ne hk, h.last, List.lookup_cons, hb]

theorem query?_eq (h : InsertionOrdered sets c.queryParams) (k : String) :
    c.query? k = (sets.reverse.lookup k).join := congrArg Option.join (h.lookup_eq k)

end InsertionOrdered

/-- The call with some query parameters set, one after the other. -/
def setQueries (c : Call) (sets : List (String × Option String)) : Call :=
  sets.foldl (fun c (k, v) => c.setQuery k v) c

theorem InsertionOrdered.setQueries (h : InsertionOrdered before c.queryParams)
    (sets : List (String × Option String)) : InsertionOrdered (before ++ sets) (c.setQueries sets).queryParams := by
  induction sets generalizing before c with
  | nil =>
    rw [List.append_nil]
    exact h
  | cons e sets ih =>
    rw [List.append_cons]
    exact ih (h.set e.1 e.2)

theorem setQuery_of_mem (c : Call) (v : Option String) (h : key ∈ keys c.queryParams) : ∃ l w r,
    c.queryParams = l ++ (key, w) :: r ∧ key ∉ keys l ∧ (c.setQuery key v).queryParams = l ++ (key, v) :: r ∧
      (c.setQuery key v).queryParams.length = c.queryParams.length := by
  obtain ⟨l, w, r, hc, hl⟩ := exists_first h
  have hset : (c.setQuery key v).queryParams = l ++ (key, v) :: r := by
    show setFirst key v c.queryParams = _
    rw [hc, setFirst_of_first hl]
  refine ⟨l, w, r, hc, hl, hset, ?_⟩
  rw [hset, hc, List.length_append, List.length_append, List.length_cons, List.length_cons]

/-- When query parameters are set in a call that has none, as a new one of either style, then each key that was set
stands once, in the order of first settings and with the value of its last, absent or not, and reading a parameter
gives that value. Whatever parameters a call has, setting one that is there changes the first pair of its key and no
other, and one that is not there comes last. -/
theorem query_insertion_ordered (fresh : c.queryParams = []) (sets : List (String × Option String)) :
    (InsertionOrdered sets (c.setQueries sets).queryParams ∧
      ∀ k, (c.setQueries sets).query? k = (sets.reverse.lookup k).join) ∧
    ∀ (d : Call) (key : String) (v : Option String),
      (key ∈ keys d.queryParams → ∃ l w r, d.queryParams = l ++ (key, w) :: r ∧ key ∉ keys l ∧
        (d.setQuery key v).queryParams = l ++ (key, v) :: r ∧
        (d.setQuery key v).queryParams.length = d.queryParams.length) ∧
      (key ∉ keys d.queryParams → (d.setQuery key v).queryParams = d.queryParams ++ [(key, v)]) := by
  have hnone : InsertionOrdered [] c.queryParams := by
    rw [fresh]
    exact ⟨.nil, .nil, by simp⟩
  have hall := hnone.setQueries sets
  exact ⟨⟨hall, hall.query?_eq⟩, fun d key v => ⟨d.setQuery_of_mem v, fun h => setFirst_of_new h v⟩⟩

def clusters : Call := .roa "CS" "2015-12-15" "DescribeClusters" "/clusters"

/-- Keys set again, the empty one among them, with a value and without. -/
def settings : List (String × Option String) :=
  [("b", some "1"), ("a", none), ("b", some "2"), ("", some ""), ("a", some "3"), ("b", none)]

/-- Two pairs of one key, as no setting puts them in. -/
def doubled : Call := { clusters with queryParams := [("b", none), ("a", some "1"), ("a", some "2")] }

theorem query_insertion_ordered_again :
    (clusters.queryParams = [] ∧ "a" ∈ keys doubled.queryParams) ∧
      (InsertionOrdered settings (clusters.setQueries settings).queryParams ∧
        (clusters.setQueries settings).queryParams = [("b", none), ("a", some "3"), ("", some "")]) ∧
      ∃ l w r, doubled.queryParams = l ++ ("a", w) :: r ∧ "a" ∉ keys l ∧
        (doubled.setQuery "a" none).queryParams = l ++ ("a", none) :: r ∧
        (doubled.setQuery "a" none).queryParams.length = doubled.queryParams.length := by
  have hmem : "a" ∈ keys doubled.queryParams := by decide
  obtain ⟨⟨hall, -⟩, hset⟩ := query_insertion_ordered (c := clusters) rfl settings
  exact ⟨⟨rfl, hmem⟩, ⟨hall, by decide⟩, (hset doubled "a" none).1 hmem⟩

end Callsign.Call
