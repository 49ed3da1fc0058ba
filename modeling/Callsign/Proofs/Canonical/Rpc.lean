import Callsign.Proofs.Encoding.Form
import Callsign.Proofs.Error
import Callsign.Signing.Rpc

/-!
# The text of an RPC signature tells calls apart

`rpcText_unambiguous`: from the text that an RPC signature covers, the method and the parameters can be read
back. The parameters in canonical form hold no `&` (`not_mem_rpcQuery`), so the last one of the text stands
behind the method and the path, whatever marks the method itself holds; and both of their encodings can be
undone, because the replacements between the two touch no byte that the second one writes (`restyle_path`).
-/

namespace Callsign

namespace Encoding
variable {b : UInt8} {s : List UInt8}

theorem keptInPath_ascii (h : keptInPath b = true) : b < 128 ∧ b ≠ 37 := by
  have hu : isUnreserved b = true ∨ b = 47 := by
    simp only [keptInPath, isUnreserved, Bool.or_eq_true, decide_eq_true_eq] at h ⊢
    grind
  rcases hu with hu | rfl
  · exact isUnreserved_ascii hu
  · decide

theorem restyle_path (s : List UInt8) (r : List Char) :
    restyle (percent keptInPath s ++ r) = percent keptInPath s ++ restyle r := by
  induction s with
  | nil => rfl
  | cons b s ih =>
    rw [percent, List.flatMap_cons, List.append_assoc, List.append_assoc, ← percent, ← ih]
    split
    · next hb =>
      have hne : ∀ a, keptInPath a = false → byteChar b ≠ byteChar a := by
        intro a ha he
        rw [byteChar_injective he, ha] at hb
        cases hb
      exact restyle_cons_of_ne ⟨hne 37 rfl, hne 43 rfl, hne 42 rfl⟩ _
    · next hb =>
      have htilde : b ≠ 126 := by
        rintro rfl
        exact hb rfl
      rw [restyle_escaped, if_neg htilde]

end Encoding

namespace Canonical
open Encoding
variable {method method' : String} {params params' : Table String}

theorem toList_rpcQuery (params : Table String) : (rpcQuery params).toList =
    percent keptInPath (Text.utf8 (String.ofList (form params.entries))) := by
  have h := restyle_path (Text.utf8 (String.ofList (form params.entries))) []
  rw [List.append_nil, show restyle [] = [] from rfl, List.append_nil] at h
  rw [rpcQuery, String.toList_ofList, h]

theorem not_mem_rpcQuery (params : Table String) : '&' ∉ (rpcQuery params).toList := by
  rw [toList_rpcQuery]
  exact not_mem_percent (b := 38) rfl rfl (by decide)

theorem decodeForm_rpcQuery (params : Table String) :
    decodeForm (decodeText (rpcQuery params).toList).toList = params.entries := by
  have h := unescape_percent (fun _ => keptInPath_ascii) (Text.utf8 (String.ofList (form params.entries))) []
  rw [List.append_nil] at h
  rw [decodeText, toList_rpcQuery, h, unescape, List.append_nil, Text.Utf8.decodeLossy_utf8, String.toList_ofList,
    decodeForm_form]

theorem rpcQuery_injective (h : rpcQuery params = rpcQuery params') : params = params' := by
  refine Table.ext ?_
  rw [← decodeForm_rpcQuery params, h, decodeForm_rpcQuery]

theorem toList_rpcText (method : String) (params : Table String) :
    (rpcText method params).toList = (method ++ "&%2F").toList ++ '&' :: (rpcQuery params).toList := by
  simp [rpcText]

theorem rpcText_inj : rpcText method params = rpcText method' params' ↔ method = method' ∧ params = params' := by
  constructor
  · intro h
    have hl := congrArg String.toList h
    rw [toList_rpcText, toList_rpcText] at hl
    obtain ⟨hm, hq⟩ := append_lastMark_inj (not_mem_rpcQuery params) (not_mem_rpcQuery params') hl
    exact ⟨(String.append_left_inj _).1 (String.toList_inj.1 hm), rpcQuery_injective (String.toList_inj.1 hq)⟩
  · rintro ⟨rfl, rfl⟩
    rfl

end Canonical

/-- The text that an RPC signature covers is that of one method and one table of parameters, so that no two calls
share it unless they agree on the method and on everything that is signed. -/
theorem Rpc.rpcText_unambiguous (method method' : String) (params params' : Table String) :
    (Canonical.rpcText method params = Canonical.rpcText method' params' ↔ method = method' ∧ params = params') ∧
    ∀ (s s' : Signing) (text : String), s.text = .ok text → s'.text = .ok text →
      s.call.method = s'.call.method ∧ s.params = s'.params := by
  refine ⟨Canonical.rpcText_inj, fun s s' text h h' => ?_⟩
  obtain ⟨params, hp, ht⟩ := bind_eq_ok h
  obtain ⟨params', hp', ht'⟩ := bind_eq_ok h'
  obtain ⟨hm, rfl⟩ := Canonical.rpcText_inj.1 (Except.ok.inj (ht.trans ht'.symm))
  exact ⟨hm, hp.trans hp'.symm⟩

end Callsign
