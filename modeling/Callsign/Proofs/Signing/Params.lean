import Callsign.Proofs.Encoding.Form
import Callsign.Proofs.Table
import Callsign.Signing.Rpc

/-!
# What an RPC signature covers

`covered?` says what the signature covers under a name: a token of the credential, or else a body parameter,
or else what signing sets, or else the last value that the query has. The table that is signed is this map
(`params_eq`), and the query that is sent holds this table and the signature, nothing else (`target_eq`).
-/

namespace Callsign.Rpc.Signing

def token? (c : Credential) : String → Option String
  | "SecurityToken" => c.securityToken
  | "BearerToken" => c.bearerToken
  | _ => none

/-- What signing sets under each of its nine names. -/
def system? (s : Signing) (c : Credential) : String → Option String
  | "Version" => some s.call.version
  | "Action" => some s.call.action
  | "Format" => some "JSON"
  | "Timestamp" => some (Time.iso8601 s.time)
  | "SignatureMethod" => some s.algorithm.name
  | "SignatureType" => some s.algorithm.signatureType
  | "SignatureVersion" => some s.algorithm.version
  | "SignatureNonce" => some s.nonce
  | "AccessKeyId" => some c.keyId
  | _ => none

/-- The last value that the query has for a name; a name without a value has an empty one. -/
def lastQuery? (s : Signing) (name : String) : Option String :=
  (s.call.queryParams.reverse.lookup name).map (·.getD "")

def covered? (s : Signing) (c : Credential) (name : String) : Option String :=
  (token? c name).or ((s.call.bodyParams.get? name).or ((s.system? c name).or (s.lastQuery? name)))

variable {s : Signing} {c : Credential}

/-! ### The four sources -/

theorem lookup_tokenParams (c : Credential) (name : String) :
    (tokenParams c).reverse.lookup name = token? c name := by
  obtain ⟨-, -, sec, bearer, -⟩ := c
  unfold token?
  split
  · cases sec <;> cases bearer <;> rfl
  · cases sec <;> cases bearer <;> rfl
  · rw [List.lookup_eq_none_iff]
    cases sec <;> cases bearer <;> simp_all [tokenParams]

theorem lookup_systemParams (s : Signing) (c : Credential) (name : String) :
    (s.systemParams c).reverse.lookup name = s.system? c name := by
  unfold system?
  split
  case h_10 =>
    rw [List.lookup_eq_none_iff]
    simp_all [systemParams]
  all_goals rfl

theorem lookup_map_getD (qs : List (String × Option String)) (name : String) :
    (qs.map fun (k, v) => (k, v.getD "")).lookup name = (qs.lookup name).map (·.getD "") := by
  induction qs with
  | nil => rfl
  | cons q qs ih =>
    obtain ⟨k, v⟩ := q
    rw [List.map_cons, List.lookup_cons, List.lookup_cons, ih]
    cases name == k <;> rfl

/-- The table that is signed holds what the signature covers, whatever the sources repeat. -/
theorem params_eq (h : s.credential = some c) :
    ∃ T : Table String, s.params = .ok T ∧ ∀ name, T.get? name = s.covered? c name := by
  refine ⟨_, by rw [params, required, h]; rfl, fun name => ?_⟩
  rw [Table.get?_ofList, List.reverse_append, List.lookup_append, List.reverse_append, List.lookup_append,
    List.reverse_append, List.lookup_append, lookup_tokenParams, Table.lookup_reverse_entries,
    lookup_systemParams, ← List.map_reverse, lookup_map_getD]
  rfl

/-! ### The query -/

theorem covered?_signature (hq : ∀ q ∈ s.call.queryParams, q.1 ≠ "Signature")
    (hb : ∀ b ∈ s.call.bodyParams.entries, b.1 ≠ "Signature") : s.covered? c "Signature" = none := by
  have hl : s.call.queryParams.reverse.lookup "Signature" = none := by
    rw [List.lookup_eq_none_iff]
    intro q hm
    exact bne_iff_ne.2 (hq q (List.mem_reverse.1 hm)).symm
  rw [covered?, Table.get?_eq_none_iff.2 hb, lastQuery?, hl]
  rfl

/-- The query holds the table that is signed, and its signature under the name that the table leaves free. -/
theorem target_eq (h : s.credential = some c) (hq : ∀ q ∈ s.call.queryParams, q.1 ≠ "Signature")
    (hb : ∀ b ∈ s.call.bodyParams.entries, b.1 ≠ "Signature") :
    ∃ T S : Table String, s.target = .ok ("?" ++ String.ofList (Encoding.form S.entries)) ∧
      (∀ name, T.get? name = s.covered? c name) ∧ S.erase "Signature" = T ∧
      S.get? "Signature" = some (s.algorithm.sign (Canonical.rpcText s.call.method T) (c.keySecret ++ "&")) := by
  obtain ⟨T, hT, hget⟩ := params_eq h
  refine ⟨T, T.insert "Signature" _, ?_, hget, ?_, T.get?_insert_self _ _⟩
  · rw [target, required, h, hT]
    rfl
  · exact T.erase_insert_self _ ((hget _).trans (covered?_signature hq hb))

end Callsign.Rpc.Signing
