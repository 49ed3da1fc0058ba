import Callsign.Proofs.Signing.Headers
import Callsign.Proofs.Signing.Verify

/-!
# A signed request goes to its host

`Signer.signed_for_host`: the authority of a signed request is the host that it was signed for, whatever the
call puts into its path and its query. The authority ends at the first slash behind the scheme, and that is the
one that the path begins with (`Http.Uri.uri_whole`). No parameter comes before it: a place for one begins with a
bracket, so a character in front of all brackets stays where it is (`Encoding.foldl_replaceAll_cons`).
-/

namespace Callsign

namespace Encoding
variable {c : Char} {r : List Char}

theorem replaceAll_cons (hc : c ≠ '[') (k : String) (v r : List Char) :
    replaceAll (placeholder k) v (c :: r) = c :: replaceAll (placeholder k) v r := by
  have hp : (placeholder k).isPrefixOf (c :: r) = false := by
    simp [placeholder, List.isPrefixOf, hc.symm]
  rw [replaceAll, replaceFrom, hp]
  rfl

theorem foldl_replaceAll_cons (hc : c ≠ '[') (params : List (String × String)) (r : List Char) :
    params.foldl (fun uri (k, v) => replaceAll (placeholder k) v.toList uri) (c :: r) =
      c :: params.foldl (fun uri (k, v) => replaceAll (placeholder k) v.toList uri) r := by
  induction params generalizing r with
  | nil => rfl
  | cons p params ih => simp only [List.foldl_cons, replaceAll_cons hc, ih]

/-- A pattern keeps its first character, unless a place begins there. -/
theorem resolve_head {pattern : String} (hc : c ≠ '[') (h : pattern.toList.head? = some c) (params : Table String) :
    ∃ r, (resolve pattern params).toList = c :: r := by
  obtain ⟨r, hr⟩ := List.head?_eq_some_iff.1 h
  exact ⟨_, by rw [resolve, String.toList_ofList, hr, foldl_replaceAll_cons hc]⟩

end Encoding

namespace Roa.Signing
variable {c : Char} {r : List Char}

theorem withQuery_cons (hc : c ≠ '?') (r q : List Char) : ∃ r', withQuery (c :: r) q = c :: r' := by
  -- The query goes behind the path, and a mark at the end of both is not their first character.
  have tail : ∀ r, ∃ r', (if (c :: r).getLast? = some '?' then (c :: r).dropLast else c :: r) = c :: r' := by
    intro r
    split
    · next hl =>
      cases r with
      | nil => exact absurd (Option.some.inj hl) hc
      | cons d r => exact ⟨_, List.dropLast_cons_cons⟩
    · exact ⟨r, rfl⟩
  rw [withQuery]
  split
  · exact tail r
  split
  · exact tail _
  split
  · exact tail _
  · exact tail _

theorem target_slash {s : Signing} (h : s.call.uriPattern.toList.head? = some '/') :
    ∃ r, s.target = .ok (String.ofList ('/' :: r)) := by
  obtain ⟨r, hr⟩ := Encoding.resolve_head (by decide) h s.call.pathParams
  obtain ⟨r', hr'⟩ := withQuery_cons (c := '/') (by decide) r (Encoding.query s.call.queryParams)
  exact ⟨r', by rw [target, uri, hr, hr']⟩

end Roa.Signing

namespace Signer

/-- A request that was signed for a host goes there. One in RPC style asks for the root of the host. -/
theorem signed_for_host (s : Signer) (now : Time.Instant) (host : String) (call : Call) (m : Memory)
    (r : Http.Request) (hscheme : s.scheme.toList.any Http.Uri.isDelimiter = false)
    (hhost : host.toList.any Http.Uri.isDelimiter = false)
    (hpattern : call.style = .roa → call.uriPattern.toList.head? = some '/')
    (h : (s.sign now host call m).1 = .ok r) :
    r.uri.authority = host ∧ (call.style = .rpc → r.uri.path = "/") := by
  obtain ⟨signing, hsig, hr⟩ := sign_ok h
  obtain ⟨target, headers, ht, hu, -, -⟩ := request_ok hr
  cases hstyle : call.style with
  | rpc =>
    rw [signing_rpc hstyle] at hsig
    obtain ⟨c, -, rfl⟩ := map_eq_ok hsig
    obtain ⟨query, hq, rfl⟩ := targetAndHeaders_rpc ht
    obtain ⟨c, -, hq⟩ := bind_eq_ok hq
    obtain ⟨params, -, hq⟩ := bind_eq_ok hq
    obtain rfl := Except.ok.inj hq
    obtain ⟨ha, hp, -⟩ := query_of_form hscheme hhost hu
    exact ⟨ha, fun _ => hp⟩
  | roa =>
    obtain ⟨c, base, -, -, rfl⟩ := signing_roa hstyle hsig
    obtain ⟨rest, htarget⟩ := Roa.Signing.target_slash (s := ⟨c, s.algorithm, call, now, base⟩) (hpattern hstyle)
    obtain rfl := Except.ok.inj (htarget.symm.trans (targetAndHeaders_roa ht).1)
    exact ⟨(Http.Uri.uri_whole hscheme hhost hu).1, nofun⟩

/-- A call whose parameters hold all that can end or begin an authority. -/
def strayCall : Call :=
  { Call.roa "CS" "1" "Act" "/[a][b]/x" with
    pathParams := .ofList [("a", "/evil:80/[b]"), ("b", "@evil?[a]#")]
    queryParams := [("//evil", some "@:[]?#")] }

def straySigned : Except Error Http.Request :=
  (sign { env := .absent, region := "r", algorithm := ⟨"SEAL", "1.0", "", fun _ _ => "seal"⟩ } ⟨0, 0⟩ "user@cs:443"
    strayCall { provider := .given ⟨"id", "secret", none, none, none⟩ }).1

theorem signed_for_host_stray : ∃ r, straySigned = .ok r ∧ r.uri.authority = "user@cs:443" := by
  have hok : straySigned.isOk = true := by decide +kernel
  obtain ⟨r, hr⟩ := exists_of_isOk hok
  obtain ⟨ha, -⟩ := signed_for_host _ _ _ strayCall _ r (by decide) (by decide) (fun _ => by decide) hr
  exact ⟨r, hr, ha⟩

end Signer

end Callsign
