import Callsign.Encoding.Decode

/-!
# Cutting at a mark

Cutting undoes joining, as long as the mark stands in none of the parts that were joined.
-/

namespace Callsign.Encoding
variable {sep : Char} {p q r s : List Char}

theorem splitAll_of_not_mem (h : sep ∉ p) : splitAll sep p = [p] := by
  induction p with
  | nil => rfl
  | cons c p ih =>
    obtain ⟨hc, hp⟩ := not_or.1 (mt List.mem_cons.2 h)
    rw [splitAll, if_neg (Ne.symm hc), ih hp]

theorem splitAll_append (h : sep ∉ p) (r : List Char) :
    splitAll sep (p ++ sep :: r) = p :: splitAll sep r := by
  induction p with
  | nil => rw [List.nil_append, splitAll, if_pos rfl]
  | cons c p ih =>
    obtain ⟨hc, hp⟩ := not_or.1 (mt List.mem_cons.2 h)
    rw [List.cons_append, splitAll, if_neg (Ne.symm hc), ih hp]

/-- Joining puts the mark in front of every part but the first. -/
theorem intercalate_mark (sep : Char) (p : List Char) (ps : List (List Char)) :
    [sep].intercalate (p :: ps) = p ++ ps.flatMap (sep :: ·) := by
  induction ps generalizing p with
  | nil => rw [List.intercalate_singleton, List.flatMap_nil, List.append_nil]
  | cons q ps ih => rw [List.intercalate_cons_cons, ih, List.flatMap_cons, List.append_assoc]; rfl

theorem not_mem_intercalate {c : Char} {ps : List (List Char)} (hc : c ≠ sep) (h : ∀ p ∈ ps, c ∉ p) :
    c ∉ [sep].intercalate ps := by
  cases ps with
  | nil => exact List.not_mem_nil
  | cons p ps =>
    obtain ⟨hp, hps⟩ := List.forall_mem_cons.1 h
    rw [intercalate_mark]
    intro hm
    rcases List.mem_append.1 hm with hm | hm
    · exact hp hm
    · obtain ⟨q, hq, hm⟩ := List.mem_flatMap.1 hm
      rcases List.mem_cons.1 hm with hm | hm
      · exact hc hm
      · exact hps q hq hm

theorem splitAll_intercalate (p : List Char) (ps : List (List Char)) (hp : sep ∉ p) (hps : ∀ q ∈ ps, sep ∉ q) :
    splitAll sep ([sep].intercalate (p :: ps)) = p :: ps := by
  rw [intercalate_mark]
  induction ps generalizing p with
  | nil => rw [List.flatMap_nil, List.append_nil, splitAll_of_not_mem hp]
  | cons q ps ih =>
    obtain ⟨hq, hps⟩ := List.forall_mem_cons.1 hps
    rw [List.flatMap_cons, List.cons_append, splitAll_append hp, ih q hq hps]

theorem takeWhile_ne (h : sep ∉ p) (r : List Char) : (p ++ sep :: r).takeWhile (· ≠ sep) = p := by
  have hp : ∀ c ∈ p, decide (c ≠ sep) = true := fun c hc => decide_eq_true fun e => h (e ▸ hc)
  rw [List.takeWhile_append_of_pos hp, List.takeWhile_cons_of_neg (by simp), List.append_nil]

theorem dropWhile_ne (h : sep ∉ p) (r : List Char) : (p ++ sep :: r).dropWhile (· ≠ sep) = sep :: r := by
  have hp : ∀ c ∈ p, decide (c ≠ sep) = true := fun c hc => decide_eq_true fun e => h (e ▸ hc)
  rw [List.dropWhile_append_of_pos hp, List.dropWhile_cons_of_neg (by simp)]

theorem splitFirst_append (h : sep ∉ p) (r : List Char) : splitFirst sep (p ++ sep :: r) = (p, some r) := by
  rw [splitFirst, takeWhile_ne h, dropWhile_ne h]
  rfl

theorem takeWhile_of_not_mem (h : sep ∉ p) : p.takeWhile (· ≠ sep) = p := by
  have hp : ∀ c ∈ p, decide (c ≠ sep) = true := fun c hc => decide_eq_true fun e => h (e ▸ hc)
  rw [← List.append_nil p, List.takeWhile_append_of_pos hp]
  rfl

theorem dropWhile_of_not_mem (h : sep ∉ p) : p.dropWhile (· ≠ sep) = [] := by
  have hp : ∀ c ∈ p, decide (c ≠ sep) = true := fun c hc => decide_eq_true fun e => h (e ▸ hc)
  rw [← List.append_nil p, List.dropWhile_append_of_pos hp]
  rfl

theorem splitFirst_of_not_mem (h : sep ∉ p) : splitFirst sep p = (p, none) := by
  rw [splitFirst, takeWhile_of_not_mem h, dropWhile_of_not_mem h]
  rfl

/-- A text is cut at one of its marks in one way only, told by how many marks stand before it. -/
theorem append_mark_inj_of_count (hn : p.count sep = q.count sep) (h : p ++ sep :: r = q ++ sep :: s) :
    p = q ∧ r = s := by
  induction p generalizing q with
  | nil =>
    cases q with
    | nil => exact ⟨rfl, (List.cons.inj h).2⟩
    | cons d q =>
      obtain rfl := (List.cons.inj h).1
      rw [List.count_nil, List.count_cons_self] at hn
      omega
  | cons c p ih =>
    cases q with
    | nil =>
      obtain rfl := (List.cons.inj h).1
      rw [List.count_nil, List.count_cons_self] at hn
      omega
    | cons d q =>
      obtain ⟨rfl, htail⟩ := List.cons.inj h
      rw [List.count_cons, List.count_cons, Nat.add_right_cancel_iff] at hn
      obtain ⟨rfl, hrs⟩ := ih hn htail
      exact ⟨rfl, hrs⟩

/-- What stands before the first mark, and what behind it, are determined by the text. -/
theorem append_mark_inj (hp : sep ∉ p) (hq : sep ∉ q) (h : p ++ sep :: r = q ++ sep :: s) : p = q ∧ r = s :=
  append_mark_inj_of_count (by rw [List.count_eq_zero_of_not_mem hp, List.count_eq_zero_of_not_mem hq]) h

/-- So are what stands behind the last mark, and what before it. -/
theorem append_lastMark_inj (hr : sep ∉ r) (hs : sep ∉ s) (h : p ++ sep :: r = q ++ sep :: s) : p = q ∧ r = s := by
  have hrev := congrArg List.reverse h
  simp only [List.reverse_append, List.reverse_cons, List.append_assoc, List.singleton_append] at hrev
  obtain ⟨hrs, hpq⟩ := append_mark_inj (mt List.mem_reverse.1 hr) (mt List.mem_reverse.1 hs) hrev
  exact ⟨List.reverse_inj.1 hpq, List.reverse_inj.1 hrs⟩

end Callsign.Encoding
