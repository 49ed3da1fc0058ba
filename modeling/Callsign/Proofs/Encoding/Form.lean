import Callsign.Proofs.Encoding.Percent
import Callsign.Proofs.Encoding.Split

/-!
# Forms read back

`decodeForm_form`: a form read back gives the pairs it was made of, whatever they are. Its text is the
strict encodings of the names and values between their marks (`form_eq`), and as none of the marks stands
in a strict encoding, cutting at the marks undoes joining.
-/

namespace Callsign.Encoding

/-- One pair of a form. -/
def pairText (e : String × String) : List Char := strict e.1 ++ '=' :: strict e.2

theorem restyle_pair (e : String × String) (r : List Char) :
    restyle (formText e.1 ++ '=' :: formText e.2 ++ r) = pairText e ++ restyle r := by
  rw [List.append_assoc, restyle_formText, List.cons_append, restyle_cons_of_ne (by decide),
    restyle_formText, pairText, List.append_assoc, List.cons_append]

theorem form_eq_restyle (es : List (String × String)) :
    form es = restyle (['&'].intercalate (es.map fun e => formText e.1 ++ '=' :: formText e.2)) := rfl

/-- Behind the first pair of a form, each begins with a mark that the three replacements leave alone. -/
theorem restyle_pairs (es : List (String × String)) :
    restyle ((es.map fun e => formText e.1 ++ '=' :: formText e.2).flatMap ('&' :: ·)) =
      (es.map pairText).flatMap ('&' :: ·) := by
  induction es with
  | nil => rfl
  | cons e es ih =>
    rw [List.map_cons, List.map_cons, List.flatMap_cons, List.flatMap_cons, ← ih, List.cons_append,
      restyle_cons_of_ne (by decide), restyle_pair]
    rfl

theorem form_eq (es : List (String × String)) : form es = ['&'].intercalate (es.map pairText) := by
  cases es with
  | nil => rfl
  | cons e es =>
    rw [form_eq_restyle, List.map_cons, List.map_cons, intercalate_mark, intercalate_mark, restyle_pair,
      restyle_pairs]

theorem not_mem_pairText (e : String × String) : '&' ∉ pairText e ∧ '+' ∉ pairText e ∧ '#' ∉ pairText e := by
  obtain ⟨hk, -, hk', hk''⟩ := not_mem_strict e.1
  obtain ⟨hv, -, hv', hv''⟩ := not_mem_strict e.2
  simp [pairText, *]

theorem decodePair_pairText (e : String × String) : decodePair (pairText e) = (e.1, some e.2) := by
  rw [decodePair, pairText, splitFirst_append (not_mem_strict e.1).2.1]
  show (decodeText (strict e.1), some (decodeText (strict e.2))) = _
  rw [decodeText_strict, decodeText_strict]

theorem decodeForm_form (es : List (String × String)) : decodeForm (form es) = es := by
  have hsep : ∀ p ∈ es.map pairText, '&' ∉ p := by
    intro p hp
    obtain ⟨e, -, rfl⟩ := List.mem_map.1 hp
    exact (not_mem_pairText e).1
  have hfull : ∀ p ∈ es.map pairText, (!p.isEmpty) = true := by
    intro p hp
    obtain ⟨e, -, rfl⟩ := List.mem_map.1 hp
    cases h : strict e.1 <;> simp [pairText, h]
  have hpair : ∀ e : String × String, ((pairText e).map fun c => if c = '+' then ' ' else c) = pairText e := by
    intro e
    refine (List.map_congr_left fun c hc => ?_).trans (List.map_id _)
    exact if_neg fun h : c = '+' => (not_mem_pairText e).2.1 (h ▸ hc)
  have hsplit : (splitAll '&' (form es)).filter (!·.isEmpty) = es.map pairText := by
    rw [form_eq]
    cases es with
    | nil => rfl
    | cons e es =>
      obtain ⟨he, hes⟩ := List.forall_mem_cons.1 hsep
      rw [List.map_cons, splitAll_intercalate _ _ he hes]
      exact List.filter_eq_self.2 hfull
  rw [decodeForm, hsplit, List.map_map]
  refine (List.map_congr_left fun e _ => ?_).trans (List.map_id _)
  simp only [Function.comp_apply, hpair, decodePair_pairText]
  rfl

theorem not_mem_form (es : List (String × String)) : '#' ∉ form es := by
  rw [form_eq]
  refine not_mem_intercalate (by decide) fun p hp => ?_
  obtain ⟨e, -, rfl⟩ := List.mem_map.1 hp
  exact (not_mem_pairText e).2.2

end Callsign.Encoding
