import Callsign.Proofs.Text.Utf8
import Callsign.Text.Redacted

/-!
# What shows of a secret

`utf8_redact`: the shown form of a secret, byte by byte. It has the two ends of the secret exactly if these are
whole characters and the secret has bytes enough. Whether they are can be told from their own bytes alone: the
characters of a text are read off the front of its bytes in one way, and off the back as well, since no character
begins inside another (`eq_append_of_front`, `eq_append_of_back`).
-/

namespace Callsign.Text

namespace Redacted
variable {n : Nat} {c : Char} {cs ds f b : List Char} {x : UInt8} {r s : List UInt8}

/-- The bytes of some characters. -/
def bytes (cs : List Char) : List UInt8 := cs.flatMap String.utf8EncodeChar

theorem bytes_cons (c : Char) (cs : List Char) : bytes (c :: cs) = String.utf8EncodeChar c ++ bytes cs := rfl

theorem bytes_append (cs ds : List Char) : bytes (cs ++ ds) = bytes cs ++ bytes ds := List.flatMap_append

theorem utf8_ofList (cs : List Char) : utf8 (String.ofList cs) = bytes cs := by
  rw [utf8, String.toList_ofList, bytes]

theorem bytes_inj (h : bytes cs = bytes ds) : cs = ds := by
  rw [← utf8_ofList, ← utf8_ofList] at h
  exact String.ofList_injective (Utf8.utf8_injective h)

theorem length_bytes (cs : List Char) : (bytes cs).length = size cs := by
  induction cs with
  | nil => rfl
  | cons c cs ih => rw [bytes_cons, List.length_append, String.length_utf8EncodeChar, ih, size]

theorem size_append (cs ds : List Char) : size (cs ++ ds) = size cs + size ds := by
  rw [← length_bytes, bytes_append, List.length_append, length_bytes, length_bytes]

/-! ### Where a character begins -/

theorem isFirst_of_bytes (h : bytes cs = x :: r) : x.IsUTF8FirstByte := by
  cases cs with
  | nil => cases h
  | cons c cs =>
    obtain ⟨a, as, ha⟩ := List.exists_cons_of_ne_nil (String.utf8EncodeChar_ne_nil (c := c))
    have hx : (String.utf8EncodeChar c)[0]? = some x := by
      rw [bytes_cons, ha] at h
      rw [ha]
      exact congrArg List.head? h
    obtain ⟨hi, rfl⟩ := List.getElem?_eq_some_iff.1 hx
    exact UInt8.isUTF8FirstByte_getElem_utf8EncodeChar.2 rfl

theorem not_isFirst (h : String.utf8EncodeChar c = r ++ x :: s) (hr : r ≠ []) : ¬ x.IsUTF8FirstByte := by
  have hx : (String.utf8EncodeChar c)[r.length]? = some x := by
    rw [h, List.getElem?_append_right (Nat.le_refl _), Nat.sub_self]
    rfl
  obtain ⟨hi, rfl⟩ := List.getElem?_eq_some_iff.1 hx
  rw [UInt8.isUTF8FirstByte_getElem_utf8EncodeChar, List.length_eq_zero_iff]
  exact hr

/-- Characters are read off the front of the bytes in one way. -/
theorem eq_append_of_front (h : bytes f ++ r = bytes cs) : ∃ b, cs = f ++ b := by
  induction f generalizing cs with
  | nil => exact ⟨cs, rfl⟩
  | cons c f ih =>
    cases cs with
    | nil =>
      rw [bytes_cons, List.append_assoc] at h
      exact absurd (List.append_eq_nil_iff.1 h).1 String.utf8EncodeChar_ne_nil
    | cons d cs =>
      rw [bytes_cons, bytes_cons, List.append_assoc] at h
      have hread := congrArg (Utf8.piecesFrom none) h
      rw [Utf8.piecesFrom_utf8EncodeChar, Utf8.piecesFrom_utf8EncodeChar] at hread
      obtain rfl : c = d := by
        injection hread with hcd
        injection hcd
      obtain ⟨b, rfl⟩ := ih (List.append_cancel_left h)
      exact ⟨b, rfl⟩

/-- They are read off the back in one way too. -/
theorem eq_append_of_back (h : r ++ bytes b = bytes cs) : ∃ f, cs = f ++ b := by
  induction cs generalizing r with
  | nil =>
    have hb : bytes b = bytes [] := (List.append_eq_nil_iff.1 h).2
    exact ⟨[], (bytes_inj hb).symm⟩
  | cons c cs ih =>
    rcases List.append_eq_append_iff.1 (h.trans (bytes_cons c cs)) with ⟨s, hc, hb⟩ | ⟨s, rfl, hs⟩
    · -- The back begins within the code of `c`: at its first byte, or else behind its last one.
      by_cases hr : r = []
      · subst hr
        exact ⟨[], (bytes_inj h).symm⟩
      · cases s with
        | nil => exact ⟨[c], congrArg (c :: ·) (bytes_inj hb).symm⟩
        | cons x s => exact absurd (isFirst_of_bytes hb) (not_isFirst hc hr)
    · obtain ⟨f, rfl⟩ := ih hs.symm
      exact ⟨c :: f, rfl⟩

/-! ### Cuts -/

theorem splitAt?_cons (h : c.utf8Size ≤ n) (cs : List Char) :
    splitAt? n (c :: cs) = (splitAt? (n - c.utf8Size) cs).map fun (f, b) => (c :: f, b) := by
  have hc : 0 < c.utf8Size := Char.utf8Size_pos c
  cases n with
  | zero => omega
  | succ n => rw [splitAt?, if_pos h]

theorem splitAt?_append (f b : List Char) : splitAt? (size f) (f ++ b) = some (f, b) := by
  induction f with
  | nil => cases b <;> rfl
  | cons c f ih =>
    rw [size, List.cons_append, splitAt?_cons (Nat.le_add_right _ _), Nat.add_sub_cancel_left, ih]
    rfl

theorem eq_append_of_splitAt? (h : splitAt? n cs = some (f, b)) : cs = f ++ b ∧ size f = n := by
  fun_induction splitAt? n cs generalizing f with
  | case1 cs =>
    cases h
    exact ⟨rfl, rfl⟩
  | case2 => cases h
  | case3 n c cs hc ih =>
    obtain ⟨⟨f, b⟩, hcut, hcb⟩ := Option.map_eq_some_iff.1 h
    cases hcb
    obtain ⟨rfl, hn⟩ := ih hcut
    refine ⟨rfl, ?_⟩
    rw [size]
    omega
  | case4 => cases h

theorem bytes_of_splitAt? (h : splitAt? n cs = some (f, b)) :
    bytes f = (bytes cs).take n ∧ bytes b = (bytes cs).drop n := by
  obtain ⟨rfl, hn⟩ := eq_append_of_splitAt? h
  rw [← length_bytes] at hn
  rw [bytes_append]
  exact ⟨(List.take_left' hn).symm, (List.drop_left' hn).symm⟩

theorem splitAt?_of_take (hn : n ≤ size cs) (h : bytes f = (bytes cs).take n) :
    ∃ b, splitAt? n cs = some (f, b) := by
  obtain ⟨b, rfl⟩ := eq_append_of_front (h ▸ List.take_append_drop n (bytes cs))
  have hf : size f = n := by
    rw [← length_bytes, h, List.length_take, length_bytes]
    exact Nat.min_eq_left hn
  exact ⟨b, hf ▸ splitAt?_append f b⟩

theorem splitAt?_of_drop (hn : n ≤ size cs) (h : bytes b = (bytes cs).drop n) :
    ∃ f, splitAt? n cs = some (f, b) := by
  obtain ⟨f, rfl⟩ := eq_append_of_back (h ▸ List.take_append_drop n (bytes cs))
  have hf : size f = n := by
    have hb := congrArg List.length h
    rw [List.length_drop, length_bytes, length_bytes] at hb
    rw [size_append] at hb hn
    omega
  exact ⟨f, hf ▸ splitAt?_append f b⟩

end Redacted

open Redacted

/-! ### Ends -/

/-- Bytes of whole characters: they are kept by reading them. -/
def Whole (bs : List UInt8) : Prop := utf8 (Utf8.decodeLossy bs) = bs

instance : DecidablePred Whole := fun _ => inferInstanceAs (Decidable (_ = _))

theorem whole_iff {bs : List UInt8} : Whole bs ↔ ∃ cs, bytes cs = bs := by
  constructor
  · exact fun h => ⟨(Utf8.decodeLossy bs).toList, h⟩
  · rintro ⟨cs, rfl⟩
    rw [Whole, ← utf8_ofList, Utf8.decodeLossy_utf8]

/-- The bytes that may show at the front. -/
def frontBytes (bs : List UInt8) : List UInt8 := bs.take 3

/-- The bytes that may show at the back. -/
def backBytes (bs : List UInt8) : List UInt8 := bs.drop (bs.length - 3)

/-- There are bytes enough, and both ends are whole characters. -/
def EndsShow (bs : List UInt8) : Prop := 12 ≤ bs.length ∧ Whole (frontBytes bs) ∧ Whole (backBytes bs)

instance : DecidablePred EndsShow := fun _ => inferInstanceAs (Decidable (_ ∧ _))

theorem bytes_chars {cs : List Char} (h : EndsShow (bytes cs)) :
    bytes (chars cs) = frontBytes (bytes cs) ++ bytes Redacted.hidden ++ backBytes (bytes cs) := by
  obtain ⟨henough, hfront, hback⟩ := h
  obtain ⟨f, hf⟩ := whole_iff.1 hfront
  obtain ⟨b, hb⟩ := whole_iff.1 hback
  rw [length_bytes] at henough
  have hb' : bytes b = (bytes cs).drop (size cs - 3) := length_bytes cs ▸ hb
  obtain ⟨_, hcut⟩ := splitAt?_of_take (by omega) hf
  obtain ⟨_, hcut'⟩ := splitAt?_of_drop (by omega) hb'
  rw [chars, if_neg (by omega), hcut, hcut']
  simp only [bytes_append, hf, hb]

theorem chars_of_not {cs : List Char} (h : ¬ EndsShow (bytes cs)) : chars cs = Redacted.hidden := by
  rw [chars]
  split
  · rfl
  · next hlen =>
    split
    · next f _ _ b hfront hback =>
      refine absurd ⟨?_, whole_iff.2 ⟨f, (bytes_of_splitAt? hfront).1⟩, whole_iff.2 ⟨b, ?_⟩⟩ h
      · rw [length_bytes]
        omega
      · rw [backBytes, length_bytes]
        exact (bytes_of_splitAt? hback).2
    · rfl

/-! ### What shows -/

/-- What shows of a secret: that there is none, that there is one, or its two ends. -/
inductive Glimpse
  | missing
  | hidden
  | ends (front back : List UInt8) (hfront : front.length = 3) (hback : back.length = 3)
  deriving DecidableEq

namespace Glimpse
variable {g g' : Glimpse} {r s : List UInt8}

/-- The bytes by which it shows. -/
def text : Glimpse → List UInt8
  | missing => utf8 "EMPTY"
  | hidden => utf8 "***"
  | ends front back _ _ => front ++ utf8 "***" ++ back

theorem text_missing : text missing = [69, 77, 80, 84, 89] := by decide

theorem text_hidden : text hidden = [42, 42, 42] := by decide

theorem text_ends (front back : List UInt8) (hfront : front.length = 3) (hback : back.length = 3) :
    text (ends front back hfront hback) = front ++ 42 :: 42 :: 42 :: back := by
  show front ++ utf8 "***" ++ back = _
  rw [show utf8 "***" = [42, 42, 42] from text_hidden, List.append_assoc]
  rfl

/-- The fourth byte of its text when a comma follows. -/
def fourth : Glimpse → UInt8
  | missing => 84
  | hidden => 44
  | ends _ _ _ _ => 42

theorem getElem?_text_comma (g : Glimpse) (r : List UInt8) : (g.text ++ 44 :: r)[3]? = some g.fourth := by
  cases g with
  | missing => rw [text_missing]; rfl
  | hidden => rw [text_hidden]; rfl
  | ends front back hfront hback =>
    rw [text_ends, List.append_assoc, List.getElem?_append_right (by omega), hfront]
    rfl

/-- What shows can be read off a text in which a comma follows. -/
theorem text_comma_inj (h : g.text ++ 44 :: r = g'.text ++ 44 :: s) : g = g' ∧ r = s := by
  have hfourth : some g.fourth = some g'.fourth := by
    rw [← getElem?_text_comma g r, h, getElem?_text_comma]
  obtain rfl : g = g' := by
    cases g with
    | missing => cases g' with
      | missing => rfl
      | hidden => cases hfourth
      | ends => cases hfourth
    | hidden => cases g' with
      | missing => cases hfourth
      | hidden => rfl
      | ends => cases hfourth
    | ends front back hfront hback => cases g' with
      | missing => cases hfourth
      | hidden => cases hfourth
      | ends front' back' hfront' hback' =>
        rw [text_ends, text_ends, List.append_assoc, List.append_assoc] at h
        obtain ⟨rfl, h⟩ := List.append_inj h (hfront.trans hfront'.symm)
        have htail : back ++ 44 :: r = back' ++ 44 :: s := by simpa using h
        obtain ⟨rfl, -⟩ := List.append_inj htail (hback.trans hback'.symm)
        rfl
  exact ⟨rfl, (List.cons.inj (List.append_cancel_left h)).2⟩

end Glimpse

theorem EndsShow.length_front {bs : List UInt8} (h : EndsShow bs) : (frontBytes bs).length = 3 := by
  have henough := h.1
  rw [frontBytes, List.length_take]
  omega

theorem EndsShow.length_back {bs : List UInt8} (h : EndsShow bs) : (backBytes bs).length = 3 := by
  have henough := h.1
  rw [backBytes, List.length_drop]
  omega

/-- The bytes of a secret; one that is missing has none. -/
def secretBytes : Option String → List UInt8
  | none => []
  | some s => utf8 s

/-- What shows of a secret, told from its bytes. -/
def glimpse (secret : Option String) : Glimpse :=
  if secretBytes secret = [] then .missing
  else if h : EndsShow (secretBytes secret) then .ends _ _ h.length_front h.length_back
  else .hidden

theorem glimpse_of_nil {secret : Option String} (h : secretBytes secret = []) : glimpse secret = .missing := if_pos h

theorem utf8_redact (secret : Option String) : utf8 (redact secret) = (glimpse secret).text := by
  cases secret with
  | none => rfl
  | some s =>
    by_cases hs : s = ""
    · subst hs
      rfl
    · have hne : secretBytes (some s) ≠ [] := fun h => hs (Utf8.utf8_injective h)
      have hredact : redact (some s) = String.ofList (chars s.toList) := by
        rw [redact]
        exact if_neg (by simpa using hs)
      rw [hredact, utf8_ofList, glimpse, if_neg hne]
      split
      · next hends => exact bytes_chars hends
      · next hends => exact congrArg bytes (chars_of_not hends)

/-- Two secrets that are to look the same: both missing or empty, both of 1 to 11 bytes, or both of 12 bytes or
more with the same three at the front and the same three at the back. -/
def Alike (s t : Option String) : Prop :=
  secretBytes s = [] ∧ secretBytes t = [] ∨
    (1 ≤ (secretBytes s).length ∧ (secretBytes s).length ≤ 11) ∧
      (1 ≤ (secretBytes t).length ∧ (secretBytes t).length ≤ 11) ∨
    (12 ≤ (secretBytes s).length ∧ 12 ≤ (secretBytes t).length) ∧
      frontBytes (secretBytes s) = frontBytes (secretBytes t) ∧
      backBytes (secretBytes s) = backBytes (secretBytes t)

instance : DecidableRel Alike := fun _ _ => inferInstanceAs (Decidable (_ ∨ _))

theorem glimpse_of_short {s : Option String} (h : 1 ≤ (secretBytes s).length ∧ (secretBytes s).length ≤ 11) :
    glimpse s = .hidden := by
  obtain ⟨hsome, hfew⟩ := h
  have hne : secretBytes s ≠ [] := List.ne_nil_of_length_pos hsome
  have hends : ¬ EndsShow (secretBytes s) := fun hends => absurd hends.1 (by omega)
  rw [glimpse, if_neg hne, dif_neg hends]

theorem Alike.glimpse_eq {s t : Option String} (h : Alike s t) : glimpse s = glimpse t := by
  rcases h with ⟨hs, ht⟩ | ⟨hs, ht⟩ | ⟨⟨hs, ht⟩, hfront, hback⟩
  · rw [glimpse_of_nil hs, glimpse_of_nil ht]
  · rw [glimpse_of_short hs, glimpse_of_short ht]
  · have hne : secretBytes s ≠ [] := List.ne_nil_of_length_pos (by omega)
    have hne' : secretBytes t ≠ [] := List.ne_nil_of_length_pos (by omega)
    rw [glimpse, glimpse, if_neg hne, if_neg hne']
    by_cases hends : EndsShow (secretBytes s)
    · have hends' : EndsShow (secretBytes t) := ⟨ht, hfront ▸ hends.2.1, hback ▸ hends.2.2⟩
      rw [dif_pos hends, dif_pos hends']
      simp only [hfront, hback]
    · have hends' : ¬ EndsShow (secretBytes t) := fun h => hends ⟨hs, hfront ▸ h.2.1, hback ▸ h.2.2⟩
      rw [dif_neg hends, dif_neg hends']

end Callsign.Text
