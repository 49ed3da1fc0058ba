import Callsign.Http.Token
import Callsign.Proofs.Encoding.Percent

/-!
# Marks that names and values do not have

Names and methods are tokens, and a field value reads as text only if all of its bytes are visible. So a line
break is in none of them, and a name has neither a colon nor a slash.
-/

namespace Callsign.Http
open Encoding
variable {a b : UInt8} {bs : List UInt8} {s : String}

theorem not_mem_asciiText (h : a ∉ bs) : byteChar a ∉ (asciiText bs).toList := by
  rw [asciiText, String.toList_ofList]
  intro hm
  obtain ⟨b, hb, he⟩ := List.mem_map.1 hm
  obtain rfl := byteChar_injective (show byteChar b = byteChar a from he)
  exact h hb

theorem not_mem_of_all {p : UInt8 → Bool} (h : bs.all p = true) (ha : p a = false) : a ∉ bs := by
  intro hm
  rw [List.all_eq_true.1 h a hm] at ha
  cases ha

theorem not_mem_of_method (h : method bs = .ok s) (ha : isTokenByte a = false) : byteChar a ∉ s.toList := by
  rw [method] at h
  split at h
  · next hb =>
    obtain rfl := Except.ok.inj h
    exact not_mem_asciiText (not_mem_of_all (Bool.and_eq_true_iff.1 hb).2 ha)
  · cases h

/-- Only letters come out of lowercasing a letter. -/
theorem eq_of_lowercased (ha : a < 65) (h : (if 65 ≤ b && b ≤ 90 then b + 32 else b) = a) : b = a := by
  split at h
  · next hb =>
    simp only [Bool.and_eq_true, decide_eq_true_eq, UInt8.le_iff_toNat_le, UInt8.reduceToNat] at hb
    simp only [← h, UInt8.lt_iff_toNat_lt, UInt8.toNat_add, UInt8.reduceToNat] at ha
    omega
  · exact h

theorem not_mem_of_headerName (h : headerName bs = .ok s) (ha : isTokenByte a = false) (hlt : a < 65) :
    byteChar a ∉ s.toList := by
  rw [headerName] at h
  split at h
  · next hb =>
    obtain rfl := Except.ok.inj h
    refine not_mem_asciiText fun hm => ?_
    obtain ⟨b, hmem, he⟩ := List.mem_map.1 hm
    obtain rfl := eq_of_lowercased hlt he
    exact not_mem_of_all (Bool.and_eq_true_iff.1 hb).2 ha hmem
  · cases h

theorem FieldValue.not_mem_of_text {v : FieldValue} (h : v.text = .ok s) (ha : isTextByte a = false) :
    byteChar a ∉ s.toList := by
  rw [text] at h
  split at h
  · next hb =>
    obtain rfl := Except.ok.inj h
    exact not_mem_asciiText (not_mem_of_all hb ha)
  · cases h

end Callsign.Http
