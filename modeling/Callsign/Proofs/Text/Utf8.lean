import Callsign.Text.Utf8

/-!
# Text survives its bytes

`pieces_utf8`: the pieces of the bytes of a text are its characters, so that strict and lossy reading
both give the text back. A character is told by its first byte and the bytes owed after it; which range
the second byte is held to (no overlong form, no surrogate, nothing past the last code point) never
excludes the bytes of a character.
-/

namespace Callsign.Text.Utf8
variable {n : Nat} {r : List UInt8}

/-! ### First bytes -/

theorem begins_one (h : n < 0x80) : begins (UInt8.ofNat n) = .inl (.char (Char.ofNat n)) := by
  have hn : (UInt8.ofNat n).toNat = n := UInt8.toNat_ofNat_of_lt' (by show n < 256; omega)
  have h1 : UInt8.ofNat n < 0x80 := UInt8.lt_iff_toNat_lt.2 (by rw [hn]; exact h)
  rw [begins, if_pos h1, hn]

theorem begins_two (h2 : 2 ≤ n) (h : n < 32) :
    begins (UInt8.ofNat (n + 0xC0)) = .inr ⟨n, 1, 1, 0x80, 0xBF⟩ := by
  have hn : (UInt8.ofNat (n + 0xC0)).toNat = n + 0xC0 :=
    UInt8.toNat_ofNat_of_lt' (by show n + 0xC0 < 256; omega)
  simp only [begins, UInt8.lt_iff_toNat_lt, hn, UInt8.reduceToNat]
  rw [if_neg (by omega), if_neg (by omega), if_pos (by omega), Nat.add_sub_cancel]

theorem begins_three (h : n < 16) :
    begins (UInt8.ofNat (n + 0xE0)) =
      .inr ⟨n, 1, 2, if n = 0 then 0xA0 else 0x80, if n = 13 then 0x9F else 0xBF⟩ := by
  have hn : (UInt8.ofNat (n + 0xE0)).toNat = n + 0xE0 :=
    UInt8.toNat_ofNat_of_lt' (by show n + 0xE0 < 256; omega)
  have h0 : n + 0xE0 = 0xE0 ↔ n = 0 := by omega
  have h13 : n + 0xE0 = 0xED ↔ n = 13 := by omega
  simp only [begins, UInt8.lt_iff_toNat_lt, ← UInt8.toNat_inj, hn, UInt8.reduceToNat, h0, h13]
  rw [if_neg (by omega), if_neg (by omega), if_neg (by omega), if_pos (by omega), Nat.add_sub_cancel]

theorem begins_four (h : n < 5) :
    begins (UInt8.ofNat (n + 0xF0)) =
      .inr ⟨n, 1, 3, if n = 0 then 0x90 else 0x80, if n = 4 then 0x8F else 0xBF⟩ := by
  have hn : (UInt8.ofNat (n + 0xF0)).toNat = n + 0xF0 :=
    UInt8.toNat_ofNat_of_lt' (by show n + 0xF0 < 256; omega)
  have h0 : n + 0xF0 = 0xF0 ↔ n = 0 := by omega
  have h4 : n + 0xF0 = 0xF4 ↔ n = 4 := by omega
  simp only [begins, UInt8.lt_iff_toNat_lt, ← UInt8.toNat_inj, hn, UInt8.reduceToNat, h0, h4]
  rw [if_neg (by omega), if_neg (by omega), if_neg (by omega), if_neg (by omega), if_pos (by omega),
    Nat.add_sub_cancel]

/-! ### Bytes owed -/

theorem extend_ofNat (p : Pending) (h : n < 64) :
    p.extend (UInt8.ofNat (n + 0x80)) =
      if p.owed = 1 then .inl (.char (Char.ofNat (p.bits * 64 + n)))
      else .inr ⟨p.bits * 64 + n, p.read + 1, p.owed - 1, 0x80, 0xBF⟩ := by
  have hn : (UInt8.ofNat (n + 0x80)).toNat = n + 0x80 :=
    UInt8.toNat_ofNat_of_lt' (by show n + 0x80 < 256; omega)
  simp only [Pending.extend, hn, Nat.add_sub_cancel]

theorem piecesFrom_pending {p : Pending} (h : n < 64) (hl : p.low.toNat ≤ n + 0x80)
    (hh : n + 0x80 ≤ p.high.toNat) :
    piecesFrom (some p) (UInt8.ofNat (n + 0x80) :: r) =
      if p.owed = 1 then .char (Char.ofNat (p.bits * 64 + n)) :: piecesFrom none r
      else piecesFrom (some ⟨p.bits * 64 + n, p.read + 1, p.owed - 1, 0x80, 0xBF⟩) r := by
  have hn : (UInt8.ofNat (n + 0x80)).toNat = n + 0x80 :=
    UInt8.toNat_ofNat_of_lt' (by show n + 0x80 < 256; omega)
  have hr : p.low ≤ UInt8.ofNat (n + 0x80) ∧ UInt8.ofNat (n + 0x80) ≤ p.high := by
    rw [UInt8.le_iff_toNat_le, UInt8.le_iff_toNat_le, hn]
    exact ⟨hl, hh⟩
  rw [piecesFrom, if_pos hr, extend_ofNat p h]
  by_cases ho : p.owed = 1
  · rw [if_pos ho, if_pos ho]
  · rw [if_neg ho, if_neg ho]

theorem piecesFrom_last {bits read : Nat} {low high : UInt8} (h : n < 64) (hl : low.toNat ≤ n + 0x80)
    (hh : n + 0x80 ≤ high.toNat) :
    piecesFrom (some ⟨bits, read, 1, low, high⟩) (UInt8.ofNat (n + 0x80) :: r) =
      .char (Char.ofNat (bits * 64 + n)) :: piecesFrom none r :=
  piecesFrom_pending h hl hh

theorem piecesFrom_more {bits read owed : Nat} {low high : UInt8} (h : n < 64)
    (hl : low.toNat ≤ n + 0x80) (hh : n + 0x80 ≤ high.toNat) :
    piecesFrom (some ⟨bits, read, owed + 2, low, high⟩) (UInt8.ofNat (n + 0x80) :: r) =
      piecesFrom (some ⟨bits * 64 + n, read + 1, owed + 1, 0x80, 0xBF⟩) r :=
  piecesFrom_pending h hl hh

/-! ### Characters -/

theorem piecesFrom_none_inr {b : UInt8} {p : Pending} (h : begins b = .inr p) :
    piecesFrom none (b :: r) = piecesFrom (some p) r := by
  rw [piecesFrom, h]

theorem piecesFrom_utf8EncodeChar (c : Char) (r : List UInt8) :
    piecesFrom none (String.utf8EncodeChar c ++ r) = .char c :: piecesFrom none r := by
  have hv : c.val.toNat < 0xD800 ∨ 0xDFFF < c.val.toNat ∧ c.val.toNat < 0x110000 := c.valid
  have hc : ∀ m, m = c.val.toNat → Char.ofNat m = c := fun m hm => hm ▸ Char.ofNat_toNat c
  unfold String.utf8EncodeChar
  dsimp only
  generalize c.val.toNat = v at hv hc ⊢
  split
  · rw [List.singleton_append, piecesFrom, begins_one (by omega), hc _ rfl]
  split
  · rw [List.cons_append, List.singleton_append, piecesFrom_none_inr (begins_two (by omega) (by omega)),
      piecesFrom_last (by omega) (by simp) (by simp; omega), hc _ (by omega)]
  split
  · rw [List.cons_append, List.cons_append, List.singleton_append,
      piecesFrom_none_inr (begins_three (by omega)),
      piecesFrom_more (by omega) (by split <;> simp; omega) (by split <;> (simp; omega)),
      piecesFrom_last (by omega) (by simp) (by simp; omega), hc _ (by omega)]
  · rw [List.cons_append, List.cons_append, List.cons_append, List.singleton_append,
      piecesFrom_none_inr (begins_four (by omega)),
      piecesFrom_more (by omega) (by split <;> simp; omega) (by split <;> (simp; omega)),
      piecesFrom_more (by omega) (by simp) (by simp; omega),
      piecesFrom_last (by omega) (by simp) (by simp; omega), hc _ (by omega)]

theorem pieces_utf8 (s : String) : pieces (utf8 s) = s.toList.map .char := by
  unfold pieces utf8
  induction s.toList with
  | nil => rfl
  | cons c cs ih => rw [List.flatMap_cons, piecesFrom_utf8EncodeChar, ih, List.map_cons]

theorem chars_char (i : Nat) (cs : List Char) : chars i (cs.map .char) = .ok cs := by
  induction cs generalizing i with
  | nil => rfl
  | cons c cs ih => rw [List.map_cons, chars, ih]; rfl

theorem decode_utf8 (s : String) : decode (utf8 s) = .ok s := by
  rw [decode, pieces_utf8, chars_char]
  exact congrArg _ (String.ofList_toList)

theorem decode?_utf8 (s : String) : decode? (utf8 s) = some s := by
  rw [decode?, decode_utf8]
  rfl

theorem decodeLossy_utf8 (s : String) : decodeLossy (utf8 s) = s := by
  rw [decodeLossy, pieces_utf8, List.map_map]
  show String.ofList (s.toList.map id) = s
  rw [List.map_id, String.ofList_toList]

/-- Different texts have different bytes. -/
theorem utf8_injective {s t : String} (h : utf8 s = utf8 t) : s = t := by
  rw [← decodeLossy_utf8 s, h, decodeLossy_utf8]

end Callsign.Text.Utf8
