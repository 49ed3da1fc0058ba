import Callsign.Text.Lowercase

/-!
# Dots in lowercase text

A dot has no case, and no letter has a dot for its lowercase, so a text in lowercase has as many dots as
before.
-/

namespace Callsign.Text

/-- How many dots a text has. -/
def dots (s : String) : Nat := s.toList.count '.'

theorem ofNat_ne_dot {n : Nat} (h : n ≠ '.'.toNat) : Char.ofNat n ≠ '.' := by
  by_cases hv : n.isValidChar
  · have hc : Char.ofNat n = Char.ofNatAux n hv := dif_pos hv
    rw [hc]
    exact fun hdot => h (congrArg Char.toNat hdot)
  · have hc : Char.ofNat n = '\x00' := dif_neg hv
    rw [hc]
    decide

/-- No run of letters reaches down to the dot, nor do their lowercase letters. -/
theorem dot_lt_caseRuns : ∀ r ∈ caseRuns, '.'.toNat < r.first ∧ '.'.toNat < r.first + r.shift := by decide +kernel

theorem lowercaseLetter_dot : lowercaseLetter '.' = '.' := by decide +kernel

theorem lowercaseLetter_ne_dot {c : Char} (h : c ≠ '.') : lowercaseLetter c ≠ '.' := by
  rw [lowercaseLetter]
  split
  · next r hr =>
    obtain ⟨-, hs⟩ := dot_lt_caseRuns r (List.mem_of_find?_eq_some hr)
    have hp := List.find?_some hr
    simp only [Bool.and_eq_true, decide_eq_true_eq] at hp
    refine ofNat_ne_dot ?_
    omega
  · exact h

theorem count_dot_lowercaseAt (before : List Char) (c : Char) (after : List Char) :
    (lowercaseAt before c after).count '.' = [c].count '.' := by
  rw [lowercaseAt]
  split
  · next hc =>
    subst hc
    split <;> decide
  split
  · next hc =>
    subst hc
    decide
  by_cases hc : c = '.'
  · rw [hc, lowercaseLetter_dot]
  · rw [List.count_singleton, List.count_singleton, if_neg, if_neg]
    · simpa using hc
    · simpa using lowercaseLetter_ne_dot hc

theorem count_dot_lowercaseFrom (before cs : List Char) : (lowercaseFrom before cs).count '.' = cs.count '.' := by
  induction cs generalizing before with
  | nil => rfl
  | cons c cs ih =>
    show _ = ([c] ++ cs).count '.'
    rw [lowercaseFrom, List.count_append, ih, count_dot_lowercaseAt, List.count_append]

theorem dots_lowercase (s : String) : dots (lowercase s) = dots s := by
  rw [dots, lowercase, String.toList_ofList, count_dot_lowercaseFrom]
  rfl

end Callsign.Text
