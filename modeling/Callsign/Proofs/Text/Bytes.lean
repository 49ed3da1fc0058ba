import Callsign.Text.Utf8

/-!
# Order and ASCII in the bytes of a text

`utf8_lt_utf8`: texts ascend as their bytes do, so that an order by code points is one by bytes. A longer
code begins with a greater byte, and codes of one length are digits of one base under marks of their own
(`utf8EncodeChar_append_lt`). A byte below 128 comes from no other character than the one it is the code
of (`not_mem_utf8`).
-/

namespace Callsign.Text
variable {m n : Nat} {r s : List UInt8} {c d : Char}

theorem ofNat_cons_lt (hn : n < 256) (hmn : m ≤ n) (h : m = n → r < s) :
    UInt8.ofNat m :: r < UInt8.ofNat n :: s := by
  have hm : (UInt8.ofNat m).toNat = m := UInt8.toNat_ofNat_of_lt' (by show m < 256; omega)
  have hn : (UInt8.ofNat n).toNat = n := UInt8.toNat_ofNat_of_lt' hn
  rw [List.cons_lt_cons_iff, UInt8.lt_iff_toNat_lt, ← UInt8.toNat_inj, hm, hn]
  rcases Nat.lt_or_eq_of_le hmn with hlt | heq
  · exact .inl hlt
  · exact .inr ⟨heq, h heq⟩

theorem utf8EncodeChar_append_lt (h : c < d) (r s : List UInt8) :
    String.utf8EncodeChar c ++ r < String.utf8EncodeChar d ++ s := by
  have hlt : c.val.toNat < d.val.toNat := h
  have hd : d.val.toNat < 0xD800 ∨ 0xDFFF < d.val.toNat ∧ d.val.toNat < 0x110000 := d.valid
  unfold String.utf8EncodeChar
  dsimp only
  generalize c.val.toNat = m at hlt ⊢
  generalize d.val.toNat = n at hlt hd ⊢
  -- The cases are by the length of the smaller code, and in each first the other code of that length.
  split
  · split
    · exact ofNat_cons_lt (by omega) (by omega) (by omega)
    all_goals (repeat' split) <;> exact ofNat_cons_lt (by omega) (by omega) (by omega)
  split
  · rw [if_neg (by omega)]
    split
    · exact ofNat_cons_lt (by omega) (by omega) fun _ => ofNat_cons_lt (by omega) (by omega) (by omega)
    all_goals (repeat' split) <;> exact ofNat_cons_lt (by omega) (by omega) (by omega)
  split
  · rw [if_neg (by omega), if_neg (by omega)]
    split
    · exact ofNat_cons_lt (by omega) (by omega) fun _ => ofNat_cons_lt (by omega) (by omega) fun _ =>
        ofNat_cons_lt (by omega) (by omega) (by omega)
    · exact ofNat_cons_lt (by omega) (by omega) (by omega)
  · rw [if_neg (by omega), if_neg (by omega), if_neg (by omega)]
    exact ofNat_cons_lt (by omega) (by omega) fun _ => ofNat_cons_lt (by omega) (by omega) fun _ =>
      ofNat_cons_lt (by omega) (by omega) fun _ => ofNat_cons_lt (by omega) (by omega) (by omega)

theorem flatMap_utf8EncodeChar_lt {cs ds : List Char} (h : cs < ds) :
    cs.flatMap String.utf8EncodeChar < ds.flatMap String.utf8EncodeChar := by
  induction h with
  | @nil d ds =>
    rw [List.flatMap_nil, List.flatMap_cons]
    obtain ⟨b, bs, hb⟩ := List.exists_cons_of_ne_nil (String.utf8EncodeChar_ne_nil (c := d))
    rw [hb]
    exact List.nil_lt_cons b _
  | rel hcd =>
    rw [List.flatMap_cons, List.flatMap_cons]
    exact utf8EncodeChar_append_lt hcd _ _
  | cons _ ih =>
    rw [List.flatMap_cons, List.flatMap_cons]
    exact List.append_left_lt ih

theorem utf8_lt_utf8 {s t : String} (h : s < t) : utf8 s < utf8 t := flatMap_utf8EncodeChar_lt h

/-! ### ASCII -/

theorem not_ofNat_lt (hl : 128 ≤ n) (hn : n < 256) : ¬ UInt8.ofNat n < 128 := by
  rw [UInt8.lt_iff_toNat_lt, UInt8.toNat_ofNat_of_lt' hn]
  exact Nat.not_lt.2 hl

/-- In the code of a character that is not ASCII no byte is. -/
theorem eq_of_mem_utf8EncodeChar {b : UInt8} (hb : b < 128) (h : b ∈ String.utf8EncodeChar c) :
    c = Char.ofNat b.toNat := by
  refine (Char.ofNat_toNat c).symm.trans (congrArg Char.ofNat ?_)
  have hv : c.val.toNat < 0xD800 ∨ 0xDFFF < c.val.toNat ∧ c.val.toNat < 0x110000 := c.valid
  show c.val.toNat = b.toNat
  unfold String.utf8EncodeChar at h
  dsimp only at h
  generalize c.val.toNat = v at hv h ⊢
  split at h
  · rw [List.mem_singleton.1 h, UInt8.toNat_ofNat_of_lt' (by show v < 256; omega)]
  all_goals
    refine absurd hb ?_
    repeat' split at h
    all_goals
      simp only [List.mem_cons, List.not_mem_nil, or_false] at h
      rcases h with rfl | rfl | rfl | rfl <;> exact not_ofNat_lt (by omega) (by omega)

theorem not_mem_utf8 {b : UInt8} {s : String} (hb : b < 128) (h : Char.ofNat b.toNat ∉ s.toList) :
    b ∉ utf8 s := by
  intro hm
  obtain ⟨c, hc, hm⟩ := List.mem_flatMap.1 hm
  exact h (eq_of_mem_utf8EncodeChar hb hm ▸ hc)

end Callsign.Text
