/-!
# Finite maps in key order

A `Table` keeps its entries in strictly ascending order of their keys, so two tables with the same
look-ups are the same table. Texts ascend by code point, which is the order of their UTF-8 bytes.
-/

namespace Callsign

universe u
variable {α : Type u}

/-- A finite map from texts, its entries in ascending order. -/
@[ext]
structure Table (α : Type u) where
  entries : List (String × α)
  ascending : entries.Pairwise (·.1 < ·.1)

namespace Table

/-- Puts `v` at `k`: at its place in the order, in the stead of the entry that is there. -/
def put (k : String) (v : α) : List (String × α) → List (String × α)
  | [] => [(k, v)]
  | (k', v') :: r =>
    if k < k' then (k, v) :: (k', v') :: r
    else if k = k' then (k, v) :: r
    else (k', v') :: put k v r

theorem mem_put {k : String} {v : α} {e : String × α} {es : List (String × α)}
    (h : e ∈ put k v es) : e = (k, v) ∨ e ∈ es := by
  induction es with
  | nil => simpa [put] using h
  | cons a r ih =>
    obtain ⟨k', v'⟩ := a
    grind [put]

theorem key_lt_of_not {k k' : String} (h : ¬ k < k') (hne : k ≠ k') : k' < k :=
  Classical.byContradiction fun hn =>
    hne (String.le_antisymm (String.not_lt.1 hn) (String.not_lt.1 h))

theorem put_ascending (k : String) (v : α) {es : List (String × α)}
    (h : es.Pairwise (·.1 < ·.1)) : (put k v es).Pairwise (·.1 < ·.1) := by
  induction es with
  | nil => simp [put]
  | cons a r ih =>
    obtain ⟨k', v'⟩ := a
    rw [List.pairwise_cons] at h
    rw [put]
    split
    · rename_i hk
      refine List.pairwise_cons.2 ⟨fun e he => ?_, List.pairwise_cons.2 h⟩
      rcases List.mem_cons.1 he with rfl | he
      · exact hk
      · exact String.lt_trans hk (h.1 e he)
    · rename_i hk
      split
      · rename_i hk'
        subst hk'
        exact List.pairwise_cons.2 h
      · rename_i hne
        refine List.pairwise_cons.2 ⟨fun e he => ?_, ih h.2⟩
        rcases mem_put he with rfl | he
        · exact key_lt_of_not hk hne
        · exact h.1 e he

theorem lookup_put_self (k : String) (v : α) (es : List (String × α)) :
    (put k v es).lookup k = some v := by
  induction es with
  | nil => simp [put]
  | cons a r ih =>
    obtain ⟨k', v'⟩ := a
    grind [put]

theorem lookup_put_of_ne {k k' : String} (h : k' ≠ k) (v : α) (es : List (String × α)) :
    (put k v es).lookup k' = es.lookup k' := by
  induction es with
  | nil => grind [put]
  | cons a r ih =>
    obtain ⟨k'', v''⟩ := a
    grind [put]

theorem lookup_eq_none_of_lt {k : String} {es : List (String × α)} (h : ∀ e ∈ es, k < e.1) :
    es.lookup k = none := by
  induction es with
  | nil => rfl
  | cons a r ih =>
    obtain ⟨k', v'⟩ := a
    have hk : k < k' := h _ List.mem_cons_self
    have hne : k ≠ k' := fun e => String.lt_irrefl k' (e ▸ hk)
    have hr := ih fun e he => h e (List.mem_cons_of_mem _ he)
    grind

theorem entries_eq_of_lookup {es fs : List (String × α)} (he : es.Pairwise (·.1 < ·.1))
    (hf : fs.Pairwise (·.1 < ·.1)) (h : ∀ k, es.lookup k = fs.lookup k) : es = fs := by
  induction es generalizing fs with
  | nil =>
    cases fs with
    | nil => rfl
    | cons b fs => have := h b.1; grind
  | cons a es ih =>
    cases fs with
    | nil => have := h a.1; grind
    | cons b fs =>
      obtain ⟨k, v⟩ := a
      obtain ⟨k', v'⟩ := b
      rw [List.pairwise_cons] at he hf
      have hk : k = k' := by
        refine String.le_antisymm ?_ ?_ <;> refine String.not_lt.1 fun hlt => ?_
        · have h0 : ((k, v) :: es).lookup k' = none := lookup_eq_none_of_lt fun e hm => by
            rcases List.mem_cons.1 hm with rfl | hm
            · exact hlt
            · exact String.lt_trans hlt (he.1 e hm)
          have h1 := h k'
          rw [h0] at h1
          grind
        · have h0 : ((k', v') :: fs).lookup k = none := lookup_eq_none_of_lt fun e hm => by
            rcases List.mem_cons.1 hm with rfl | hm
            · exact hlt
            · exact String.lt_trans hlt (hf.1 e hm)
          have h1 := h k
          rw [h0] at h1
          grind
      subst hk
      have hv : v = v' := by have := h k; grind
      subst hv
      refine congrArg _ (ih he.2 hf.2 fun x => ?_)
      have hx := h x
      by_cases hxk : x = k
      · subst hxk
        rw [lookup_eq_none_of_lt he.1, lookup_eq_none_of_lt hf.1]
      · grind

def empty : Table α := ⟨[], .nil⟩

/-- The table with `v` at `k`. -/
def insert (t : Table α) (k : String) (v : α) : Table α :=
  ⟨put k v t.entries, put_ascending k v t.ascending⟩

/-- The table without the entry at `k`. -/
def erase (t : Table α) (k : String) : Table α :=
  ⟨t.entries.filter (·.1 ≠ k), t.ascending.filter _⟩

def get? (t : Table α) (k : String) : Option α := t.entries.lookup k

def contains (t : Table α) (k : String) : Bool := (t.get? k).isSome

/-- The table of some pairs, of which the last of a key counts. -/
def ofList (pairs : List (String × α)) : Table α :=
  pairs.foldl (fun t (k, v) => t.insert k v) empty

def isEmpty (t : Table α) : Bool := t.entries.isEmpty

def size (t : Table α) : Nat := t.entries.length

theorem get?_insert_self (t : Table α) (k : String) (v : α) : (t.insert k v).get? k = some v :=
  lookup_put_self k v t.entries

theorem get?_insert_of_ne (t : Table α) {k k' : String} (h : k' ≠ k) (v : α) :
    (t.insert k v).get? k' = t.get? k' :=
  lookup_put_of_ne h v t.entries

theorem get?_erase_self (t : Table α) (k : String) : (t.erase k).get? k = none := by
  have h : ∀ es : List (String × α), (es.filter (·.1 ≠ k)).lookup k = none := fun es => by
    induction es with
    | nil => rfl
    | cons a r ih => grind
  exact h t.entries

theorem get?_erase_of_ne (t : Table α) {k k' : String} (h : k' ≠ k) :
    (t.erase k).get? k' = t.get? k' := by
  have h : ∀ es : List (String × α), (es.filter (·.1 ≠ k)).lookup k' = es.lookup k' := fun es => by
    induction es with
    | nil => rfl
    | cons a r ih => grind
  exact h t.entries

theorem ext_get? {s t : Table α} (h : ∀ k, s.get? k = t.get? k) : s = t :=
  Table.ext (entries_eq_of_lookup s.ascending t.ascending h)

end Table

end Callsign
