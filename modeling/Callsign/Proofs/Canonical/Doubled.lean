import Callsign.Proofs.Canonical.Rpc
import Callsign.Proofs.Text.Bytes

/-!
# The canonical parameters are encoded strictly, twice

`rpcQuery_strict_twice`: the parameters in canonical form are the strict encoding of the strict encodings of
names and values between their marks, by ascending bytes of the names. That the second encoding leaves slashes
alone makes no difference, because the first one leaves none (`slash_not_mem_form`).
-/

namespace Callsign

namespace Encoding
variable {b : UInt8} {s : List UInt8}

theorem keptInPath_eq (h : b ≠ 47) : keptInPath b = isUnreserved b := by
  simp only [keptInPath, isUnreserved, h, decide_false, Bool.or_false]
  cases isAlphanum b <;> grind

theorem percent_path (h : 47 ∉ s) : percent keptInPath s = percent isUnreserved s := by
  refine congrArg List.flatten (List.map_congr_left fun b hb => ?_)
  have hne : b ≠ 47 := fun e => h (e ▸ hb)
  rw [keptInPath_eq hne]

theorem slash_not_mem_strict (s : String) : '/' ∉ strict s := not_mem_percent (b := 47) rfl rfl (by decide)

theorem slash_not_mem_form (es : List (String × String)) : '/' ∉ form es := by
  rw [form_eq]
  refine not_mem_intercalate (by decide) fun p hp => ?_
  obtain ⟨⟨k, v⟩, -, rfl⟩ := List.mem_map.1 hp
  simp [pairText, slash_not_mem_strict]

end Encoding

namespace Canonical
open Encoding

theorem toList_rpcQuery_strict (params : Table String) :
    (rpcQuery params).toList = strict (String.ofList (form params.entries)) := by
  have hslash : 47 ∉ Text.utf8 (String.ofList (form params.entries)) := by
    refine Text.not_mem_utf8 (by decide) ?_
    rw [String.toList_ofList]
    exact slash_not_mem_form _
  rw [toList_rpcQuery, percent_path hslash, strict]

/-- The parameters in canonical form are what the strict encoding makes of the pairs `k=v` of strictly encoded
names and values, joined by `&` in the order of the bytes of the names. -/
theorem rpcQuery_strict_twice (params : Table String) :
    params.entries.Pairwise (fun a b => Text.utf8 a.1 < Text.utf8 b.1) ∧
    rpcQuery params = String.ofList (strict (String.ofList
      (['&'].intercalate (params.entries.map fun (k, v) => strict k ++ '=' :: strict v)))) := by
  refine ⟨params.ascending.imp Text.utf8_lt_utf8, ?_⟩
  rw [← String.toList_inj, toList_rpcQuery_strict, String.toList_ofList, form_eq]
  rfl

end Canonical

end Callsign
