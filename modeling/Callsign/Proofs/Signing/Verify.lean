import Callsign.Proofs.Http.Uri
import Callsign.Proofs.Signing.Params
import Callsign.Proofs.Signing.Request

/-!
# Signatures verify from what was sent

`Signer.rpc_signature_verifies`: whoever gets a request in RPC style reads from its query the parameters that
were signed and their signature, and from its body the body parameters. Between the table that is signed and
the pairs that are read stand the form encoding, which can be undone, and the URI, which is read back into
the parts that it was put together from.
-/

namespace Callsign.Signer
open Encoding
variable {s : Signer} {now : Time.Instant} {host : String} {call : Call} {m : Memory} {r : Http.Request}

theorem signing_rpc (h : call.style = .rpc) : (s.signing now call m).1 =
    (s.credential now m).1.map fun c => .rpc ⟨c, s.algorithm, call, now, (Nonce.draw m.nonces).1⟩ := by
  simp only [signing_fst, Signing.ofCall, h]
  cases (s.credential now m).1 <;> rfl

theorem targetAndHeaders_rpc {signing : Rpc.Signing} {target : String} {headers : Http.Headers}
    (h : targetAndHeaders (.rpc signing) = .ok (target, headers)) :
    ∃ query, signing.target = .ok query ∧ target = "/" ++ query := by
  obtain ⟨carrier, hc, h⟩ := bind_eq_ok h
  obtain ⟨query, hq, rfl⟩ := map_eq_ok hc
  obtain ⟨headers', -, h⟩ := bind_eq_ok h
  exact ⟨query, hq, (Prod.mk.inj (Except.ok.inj h)).1.symm⟩

/-- A URI that was put together from a scheme, a host and a form leads to the root of the host, and its query is
the form. -/
theorem query_of_form {u : Http.Uri} {es : List (String × String)}
    (hs : s.scheme.toList.any Http.Uri.isDelimiter = false) (hh : host.toList.any Http.Uri.isDelimiter = false)
    (hu : Http.uri (s.scheme ++ "://" ++ host ++ ("/" ++ ("?" ++ String.ofList (form es)))) = .ok u) :
    u.authority = host ∧ u.path = "/" ∧ u.query = some (String.ofList (form es)) := by
  have ht : "/" ++ ("?" ++ String.ofList (form es)) = String.ofList ('/' :: '?' :: form es) := by
    rw [← String.toList_inj]
    simp
  rw [ht] at hu
  obtain ⟨ha, path, query, hx, hp, hq⟩ := Http.Uri.uri_whole hs hh hu
  have hx' := Http.Uri.splitTarget_query (p := ['/']) (by simp) (not_mem_form es) hx
  obtain ⟨rfl, rfl⟩ := Prod.mk.inj hx'
  exact ⟨ha, hp, hq⟩

/-- Whoever gets a request in RPC style reads from its query what the signature covers and a signature that
this has under the secret, and from its body the body parameters. -/
theorem rpc_signature_verifies (s : Signer) (now : Time.Instant) (host : String) (call : Call) (m : Memory)
    (r : Http.Request) (hstyle : call.style = .rpc) (hquery : ∀ q ∈ call.queryParams, q.1 ≠ "Signature")
    (hbody : ∀ b ∈ call.bodyParams.entries, b.1 ≠ "Signature")
    (hscheme : s.scheme.toList.any Http.Uri.isDelimiter = false)
    (hhost : host.toList.any Http.Uri.isDelimiter = false) (h : (s.sign now host call m).1 = .ok r) :
    ∃ (c : Credential) (query : String) (T : Table String),
      (s.credential now m).1 = .ok (some c) ∧ r.uri.query = some query ∧
      (decodeForm query.toList).Pairwise (·.1 < ·.1) ∧
      (decodeForm query.toList).filter (·.1 ≠ "Signature") = T.entries ∧
      (∀ name, T.get? name =
        Rpc.Signing.covered? ⟨some c, s.algorithm, call, now, (Nonce.draw m.nonces).1⟩ c name) ∧
      (decodeForm query.toList).lookup "Signature" =
        some (s.algorithm.sign (Canonical.rpcText r.method T) (c.keySecret ++ "&")) ∧
      (call.bodyParams.isEmpty = false →
        (Text.Utf8.decode? r.body).map (decodeForm ·.toList) = some call.bodyParams.entries) := by
  obtain ⟨signing, hsig, hr⟩ := sign_ok h
  rw [signing_rpc hstyle] at hsig
  obtain ⟨c, hc, rfl⟩ := map_eq_ok hsig
  obtain ⟨target, headers, ht, hu, hm, hb⟩ := request_ok hr
  obtain ⟨query, hq, rfl⟩ := targetAndHeaders_rpc ht
  obtain ⟨c, rfl⟩ : ∃ d, c = some d := by
    cases c with
    | none => cases hq
    | some c => exact ⟨c, rfl⟩
  obtain ⟨T, S, htarget, hget, herase, hsign⟩ := Rpc.Signing.target_eq
    (s := ⟨some c, s.algorithm, call, now, (Nonce.draw m.nonces).1⟩) rfl hquery hbody
  obtain rfl := Except.ok.inj (htarget.symm.trans hq)
  obtain ⟨-, -, hquery⟩ := query_of_form hscheme hhost hu
  have hform : decodeForm (String.ofList (form S.entries)).toList = S.entries := by
    rw [String.toList_ofList, decodeForm_form]
  refine ⟨c, _, T, hc, hquery, ?_, ?_, hget, ?_, fun he => ?_⟩
  · rw [hform]
    exact S.ascending
  · rw [hform, ← herase]
    rfl
  · rw [hform, hm]
    exact hsign
  · rw [hb he, Text.Utf8.decode?_utf8]
    show some (decodeForm _) = _
    rw [String.toList_ofList, decodeForm_form]

/-- A call whose names and values hold the marks of a form, with a name that signing sets and one that the body
sets again. -/
def markedCall : Call :=
  { Call.rpc "Ecs" "1" "Act" with
    queryParams := [("Action", some "x"), ("~*", none), ("\u00e9&", some "=%+ ")]
    bodyParams := .ofList [("Format", "a b")] }

/-- The call signed with a token, under an algorithm whose signatures are marks as well. -/
def markedRequest : Except Error Http.Request :=
  (sign { env := .absent, region := "r", algorithm := ⟨"SEAL", "1.0", "", fun _ _ => "+/="⟩ } ⟨0, 0⟩ "h" markedCall
    { provider := .given ⟨"id", "secret", some "a+b", none, none⟩ }).1

theorem rpc_signature_verifies_marked : ∃ (r : Http.Request) (query : String), markedRequest = .ok r ∧
    r.uri.query = some query ∧ (decodeForm query.toList).lookup "Signature" = some "+/=" := by
  have hok : markedRequest.isOk = true := by decide +kernel
  cases h : markedRequest with
  | error e => rw [h] at hok; cases hok
  | ok r =>
    obtain ⟨c, query, T, -, hq, -, -, -, hs, -⟩ := rpc_signature_verifies _ _ _ markedCall _ r rfl (by decide)
      (by decide) (by decide) (by decide) h
    exact ⟨r, query, rfl, hq, hs⟩

end Callsign.Signer
