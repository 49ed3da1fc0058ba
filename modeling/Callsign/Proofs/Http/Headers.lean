import Callsign.Http.Headers
import Callsign.Proofs.Table

/-!
# Headers made of fields

Fields that are added one after the other make headers which have for a name the values that the fields have for
it, in their order (`get?_ofFields`). Nothing else of the order of the fields is left (`ofFields_congr`).
-/

namespace Callsign.Http.Headers
variable {fs : List (String × FieldValue)} {name : String} {vs : List FieldValue}

/-- The values that some fields have for a name, in the order of the fields. -/
def valuesIn (fs : List (String × FieldValue)) (name : String) : List FieldValue :=
  (fs.filter (·.1 = name)).map (·.2)

theorem valuesIn_cons_self (name : String) (v : FieldValue) (fs : List (String × FieldValue)) :
    valuesIn ((name, v) :: fs) name = v :: valuesIn fs name := by
  simp [valuesIn]

theorem valuesIn_cons_of_ne {n : String} (h : n ≠ name) (v : FieldValue) (fs : List (String × FieldValue)) :
    valuesIn ((n, v) :: fs) name = valuesIn fs name := by
  simp [valuesIn, h]

theorem mem_valuesIn {v : FieldValue} : v ∈ valuesIn fs name ↔ (name, v) ∈ fs := by
  simp [valuesIn]

theorem get?_append_self (h : Headers) (name : String) (v : FieldValue) :
    (h.append name v).get? name = some (h.values name ++ [v]) :=
  Table.get?_insert_self ..

theorem get?_append_of_ne {n : String} (h : Headers) (hn : name ≠ n) (v : FieldValue) :
    (h.append n v).get? name = h.get? name :=
  Table.get?_insert_of_ne _ hn _

theorem get?_foldl_append (h : Headers) (fs : List (String × FieldValue)) (name : String) :
    (fs.foldl (fun h f => h.append f.1 f.2) h).get? name =
      if valuesIn fs name = [] then h.get? name else some (h.values name ++ valuesIn fs name) := by
  induction fs generalizing h with
  | nil => rfl
  | cons f fs ih =>
    obtain ⟨n, v⟩ := f
    rw [List.foldl_cons, ih]
    by_cases hn : n = name
    · subst hn
      rw [valuesIn_cons_self, if_neg (List.cons_ne_nil _ _), values, get?_append_self, Option.getD_some]
      split
      · next hnil => rw [hnil]
      · rw [List.append_assoc]
        rfl
    · rw [valuesIn_cons_of_ne hn, values, get?_append_of_ne h (Ne.symm hn)]
      rfl

/-- A name has the values that the fields have for it, if there are any. -/
theorem get?_ofFields (fs : List (String × FieldValue)) (name : String) :
    (ofFields fs).get? name = if valuesIn fs name = [] then none else some (valuesIn fs name) :=
  get?_foldl_append Table.empty fs name

theorem values_ofFields (fs : List (String × FieldValue)) (name : String) :
    (ofFields fs).values name = valuesIn fs name := by
  rw [values, get?_ofFields]
  split
  · next hnil => rw [hnil]; rfl
  · rfl

theorem mem_entries_ofFields : (name, vs) ∈ (ofFields fs).entries ↔ valuesIn fs name ≠ [] ∧ vs = valuesIn fs name := by
  rw [← Table.get?_eq_some_iff, get?_ofFields]
  split
  · next hnil => simp [hnil]
  · next hne => simp [hne, eq_comm]

theorem contains_ofFields : (ofFields fs).contains name = true ↔ valuesIn fs name ≠ [] := by
  rw [Table.contains, get?_ofFields]
  split <;> simp [*]

/-- Only the order of the values of each name is left of the order of the fields. -/
theorem ofFields_congr {fs' : List (String × FieldValue)} (h : ∀ name, valuesIn fs' name = valuesIn fs name) :
    ofFields fs' = ofFields fs := by
  refine Table.ext_get? fun name => ?_
  rw [get?_ofFields, get?_ofFields, h]

end Callsign.Http.Headers
