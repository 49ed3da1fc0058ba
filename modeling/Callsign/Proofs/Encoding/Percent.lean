import Callsign.Encoding.Decode
import Callsign.Proofs.Text.Utf8

/-!
# Percent encodings read back

An escaped byte reads back as the byte, and so does a kept one if it is ASCII and no percent sign, so
every encoding that keeps only such bytes can be undone (`unescape_percent`). Form encoding restyled for
URIs is the strict encoding: the three replacements act on each byte by itself, because none of them can
begin inside the code of one byte and end inside the code of the next (`restyle_formText`).
-/

namespace Callsign.Encoding
variable {b : UInt8} {c : Char} {n : Nat} {r : List Char} {keep : UInt8 → Bool}

/-! ### Bytes as characters -/

theorem toNat_byteChar (b : UInt8) : (byteChar b).toNat = b.toNat := by
  have hb : b.toNat < 256 := b.toNat_lt
  have hv : b.toNat.isValidChar := .inl (by omega)
  rw [byteChar, Char.ofNat, dif_pos hv]
  rfl

theorem byteChar_injective {a b : UInt8} (h : byteChar a = byteChar b) : a = b := by
  rw [← UInt8.toNat_inj, ← toNat_byteChar, h, toNat_byteChar]

theorem utf8EncodeChar_byteChar (h : b < 128) : String.utf8EncodeChar (byteChar b) = [b] := by
  have hb : b.toNat < 128 := UInt8.lt_iff_toNat_lt.1 h
  have hv : (byteChar b).val.toNat = b.toNat := toNat_byteChar b
  unfold String.utf8EncodeChar
  dsimp only
  rw [hv, if_pos (by omega), UInt8.ofNat_toNat]

theorem hexValue?_hexDigit : ∀ n < 16, hexValue? (hexDigit n) = some n := by decide

theorem hexDigit_injective {m n : Nat} (hm : m < 16) (hn : n < 16) (h : hexDigit m = hexDigit n) : m = n := by
  have := hexValue?_hexDigit m hm
  rw [h, hexValue?_hexDigit n hn] at this
  exact (Option.some.inj this).symm

theorem exists_alphanum_hexDigit : ∀ n < 16, ∃ b, isAlphanum b = true ∧ hexDigit n = byteChar b := by
  intro n hn
  refine ⟨UInt8.ofNat (if n < 10 then 48 + n else 55 + n), ?_, ?_⟩
  · revert n
    decide
  · revert n
    decide

/-! ### What encoded text is made of -/

theorem hexDigits_of_byte (b : UInt8) : b.toNat / 16 < 16 ∧ b.toNat % 16 < 16 := by
  have hb : b.toNat < 256 := b.toNat_lt
  omega

theorem mem_escaped (h : c ∈ escaped b) : c = '%' ∨ ∃ d, isAlphanum d = true ∧ c = byteChar d := by
  obtain ⟨hhi, hlo⟩ := hexDigits_of_byte b
  simp only [escaped, List.mem_cons, List.not_mem_nil, or_false] at h
  rcases h with rfl | rfl | rfl
  · exact .inl rfl
  · exact .inr (exists_alphanum_hexDigit _ hhi)
  · exact .inr (exists_alphanum_hexDigit _ hlo)

theorem mem_percent {s : List UInt8} (h : c ∈ percent keep s) :
    c = '%' ∨ ∃ d, (keep d = true ∨ isAlphanum d = true) ∧ c = byteChar d := by
  obtain ⟨b, -, hc⟩ := List.mem_flatMap.1 h
  split at hc
  · next hk => exact .inr ⟨b, .inl hk, List.mem_singleton.1 hc⟩
  · exact (mem_escaped hc).imp id fun ⟨d, hd, he⟩ => ⟨d, .inr hd, he⟩

theorem not_mem_percent {s : List UInt8} (hk : keep b = false) (ha : isAlphanum b = false) (hb : b ≠ 37) :
    byteChar b ∉ percent keep s := by
  intro h
  rcases mem_percent h with h | ⟨d, hd, h⟩
  · exact hb (byteChar_injective h)
  · obtain rfl := byteChar_injective h
    rcases hd with hd | hd
    · rw [hk] at hd; cases hd
    · rw [ha] at hd; cases hd

/-- The strict encoding has none of the marks that a query is cut at or that a form reads otherwise. -/
theorem not_mem_strict (s : String) : '&' ∉ strict s ∧ '=' ∉ strict s ∧ '+' ∉ strict s ∧ '#' ∉ strict s := by
  refine ⟨?_, ?_, ?_, ?_⟩
  · exact not_mem_percent (b := 38) rfl rfl (by decide)
  · exact not_mem_percent (b := 61) rfl rfl (by decide)
  · exact not_mem_percent (b := 43) rfl rfl (by decide)
  · exact not_mem_percent (b := 35) rfl rfl (by decide)

/-! ### Reading back -/

theorem unescape_cons_of_ne (h : c ≠ '%') : unescape (c :: r) = String.utf8EncodeChar c ++ unescape r := by
  rw [unescape]
  intro a b r' hc
  exact absurd hc h

theorem unescape_escaped (b : UInt8) (r : List Char) : unescape (escaped b ++ r) = b :: unescape r := by
  obtain ⟨hhi, hlo⟩ := hexDigits_of_byte b
  have hb : 16 * (b.toNat / 16) + b.toNat % 16 = b.toNat := Nat.div_add_mod ..
  show unescape ('%' :: hexDigit (b.toNat / 16) :: hexDigit (b.toNat % 16) :: r) = _
  rw [unescape, hexValue?_hexDigit _ hhi, hexValue?_hexDigit _ hlo]
  show UInt8.ofNat (16 * (b.toNat / 16) + b.toNat % 16) :: unescape r = _
  rw [hb, UInt8.ofNat_toNat]

theorem unescape_byteChar (h : b < 128) (hb : b ≠ 37) (r : List Char) :
    unescape (byteChar b :: r) = b :: unescape r := by
  rw [unescape_cons_of_ne fun e => hb (byteChar_injective e), utf8EncodeChar_byteChar h]
  rfl

theorem unescape_percent (hk : ∀ b, keep b = true → b < 128 ∧ b ≠ 37) (s : List UInt8) (r : List Char) :
    unescape (percent keep s ++ r) = s ++ unescape r := by
  induction s with
  | nil => rfl
  | cons b s ih =>
    rw [percent, List.flatMap_cons, List.append_assoc]
    change unescape (_ ++ (percent keep s ++ r)) = _
    split
    · next hb => rw [List.singleton_append, unescape_byteChar (hk b hb).1 (hk b hb).2, ih]; rfl
    · rw [unescape_escaped, ih]; rfl

theorem isUnreserved_ascii (h : isUnreserved b = true) : b < 128 ∧ b ≠ 37 := by
  simp only [isUnreserved, isAlphanum, Bool.or_eq_true, Bool.and_eq_true, decide_eq_true_eq,
    UInt8.le_iff_toNat_le, UInt8.reduceToNat] at h
  rw [UInt8.lt_iff_toNat_lt, ne_eq, ← UInt8.toNat_inj]
  show b.toNat < 128 ∧ ¬ b.toNat = 37
  simp only [← UInt8.toNat_inj, UInt8.reduceToNat] at h
  omega

theorem decodeText_strict (s : String) : decodeText (strict s) = s := by
  have h := unescape_percent (fun _ => isUnreserved_ascii) (Text.utf8 s) []
  rw [List.append_nil] at h
  rw [decodeText, strict, h, unescape, List.append_nil, Text.Utf8.decodeLossy_utf8]

/-! ### Form encoding restyled -/

theorem plainTilde_cons_of_ne (h : c ≠ '%') (r : List Char) : plainTilde (c :: r) = c :: plainTilde r := by
  rw [plainTilde]
  intro r' hc
  exact absurd hc h

theorem hexDigit_ne (hn : n < 16) (hb : isAlphanum b = false) : hexDigit n ≠ byteChar b := by
  intro h
  obtain ⟨d, hd, he⟩ := exists_alphanum_hexDigit n hn
  obtain rfl := byteChar_injective (h.symm.trans he)
  rw [hb] at hd; cases hd

theorem plainTilde_escaped (hb : b ≠ 126) (r : List Char) :
    plainTilde (escaped b ++ r) = escaped b ++ plainTilde r := by
  obtain ⟨hhi, hlo⟩ := hexDigits_of_byte b
  show plainTilde ('%' :: hexDigit (b.toNat / 16) :: hexDigit (b.toNat % 16) :: r) = _
  rw [plainTilde, plainTilde_cons_of_ne (hexDigit_ne (b := 37) hhi rfl),
    plainTilde_cons_of_ne (hexDigit_ne (b := 37) hlo rfl)]
  · rfl
  · intro r' _ h
    obtain ⟨h7, hE⟩ := List.cons.inj h
    have h1 := hexDigit_injective (n := 7) hhi (by omega) h7
    have h2 := hexDigit_injective (n := 14) hlo (by omega) (List.cons.inj hE).1
    exact hb (UInt8.toNat_inj.1 (show b.toNat = 126 by omega))

theorem restyle_cons_of_ne (h : c ≠ '%' ∧ c ≠ '+' ∧ c ≠ '*') (r : List Char) :
    restyle (c :: r) = c :: restyle r := by
  rw [restyle, List.flatMap_cons, if_neg h.2.1, if_neg h.2.2, List.singleton_append,
    plainTilde_cons_of_ne h.1, restyle]

theorem restyle_plus (r : List Char) : restyle ('+' :: r) = escaped 32 ++ restyle r :=
  plainTilde_escaped (b := 32) (by decide) _

theorem restyle_star (r : List Char) : restyle ('*' :: r) = escaped 42 ++ restyle r :=
  plainTilde_escaped (b := 42) (by decide) _

theorem restyle_escaped (b : UInt8) (r : List Char) :
    restyle (escaped b ++ r) = (if b = 126 then ['~'] else escaped b) ++ restyle r := by
  obtain ⟨hhi, hlo⟩ := hexDigits_of_byte b
  have hd : ∀ n < 16, hexDigit n ≠ '+' ∧ hexDigit n ≠ '*' := fun n hn =>
    ⟨hexDigit_ne (b := 43) hn rfl, hexDigit_ne (b := 42) hn rfl⟩
  have hs : restyle (escaped b ++ r) = plainTilde (escaped b ++ r.flatMap fun c =>
      if c = '+' then ['%', '2', '0'] else if c = '*' then ['%', '2', 'A'] else [c]) := by
    simp [restyle, escaped, hd _ hhi, hd _ hlo]
  rw [hs]
  by_cases hb : b = 126
  · subst hb
    rfl
  · rw [plainTilde_escaped hb, if_neg hb, restyle]

theorem isUnreserved_iff : isUnreserved b = true ↔ keptInForm b = true ∧ b ≠ 42 ∨ b = 126 := by
  by_cases h : b = 42
  · subst h
    decide
  · simp [isUnreserved, keptInForm, h, or_assoc]

theorem ne_of_keptInForm (h : keptInForm b = true) : b ≠ 37 ∧ b ≠ 43 := by
  constructor <;> rintro rfl <;> cases h

theorem restyle_formByte (b : UInt8) (r : List Char) :
    restyle ((if b = 32 then ['+'] else if keptInForm b then [byteChar b] else escaped b) ++ r) =
      (if isUnreserved b then [byteChar b] else escaped b) ++ restyle r := by
  by_cases hsp : b = 32
  · subst hsp
    exact restyle_plus r
  rw [if_neg hsp]
  by_cases hk : keptInForm b = true
  · rw [if_pos hk]
    by_cases hst : b = 42
    · subst hst
      exact restyle_star r
    · rw [if_pos (isUnreserved_iff.2 (.inl ⟨hk, hst⟩))]
      obtain ⟨hp, hpl⟩ := ne_of_keptInForm hk
      exact restyle_cons_of_ne ⟨fun e => hp (byteChar_injective e), fun e => hpl (byteChar_injective e),
        fun e => hst (byteChar_injective e)⟩ r
  · rw [if_neg hk, restyle_escaped]
    by_cases ht : b = 126
    · subst ht
      rfl
    · have hu : ¬ isUnreserved b = true := fun h => (isUnreserved_iff.1 h).elim (fun h => hk h.1) ht
      rw [if_neg ht, if_neg hu]

theorem restyle_formText (s : String) (r : List Char) : restyle (formText s ++ r) = strict s ++ restyle r := by
  unfold formText strict percent
  induction Text.utf8 s with
  | nil => rfl
  | cons b bs ih =>
    rw [List.flatMap_cons, List.flatMap_cons, List.append_assoc, List.append_assoc, ← ih]
    exact restyle_formByte b _

theorem component_eq_strict (s : String) : component s = strict s := by
  have h := restyle_formText s []
  rwa [List.append_nil, show restyle [] = [] from rfl, List.append_nil] at h

end Callsign.Encoding
