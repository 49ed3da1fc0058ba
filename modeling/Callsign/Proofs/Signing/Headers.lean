import Callsign.Proofs.Canonical.Roa
import Callsign.Proofs.Signing.Request

/-!
# What an ROA signature covers

`Signer.roa_signature_verifies`: the signature of a request in ROA style is that of the text which the headers
give that went out, unless body parameters came with another content type than the headers had before.
The headers of a call pass through three hands. Signing sets some of them (`values_baseHeaders`,
`values_signedHeaders` say which stay), then the signature is added, which the text does not read
(`headers_ok`), and the content type of body parameters comes last (`Signer.sentHeaders`).
-/

namespace Callsign

namespace Roa.Signing
open Http
variable {s : Signing} {h h' : Headers} {name : String} {call : Call} {c : Credential} {region : String}

theorem values_setText {n text : String} (hs : h.setText n text = .ok h') (hn : name ≠ n) :
    h'.values name = h.values name := by
  rw [Headers.setText_ok hs, Headers.values_set_of_ne hn]

theorem values_setHidden {n : String} {text : Option String} (hs : h.setHidden n text = .ok h') (hn : name ≠ n) :
    h'.values name = h.values name := by
  cases text with
  | none => rw [Except.ok.inj hs]
  | some text => rw [Headers.setHidden_ok hs, Headers.values_set_of_ne hn]

theorem values_setDigest {body : Option (List UInt8)} (hs : setDigest h body = .ok h') (hn : name ≠ "content-md5") :
    h'.values name = h.values name := by
  cases body with
  | none => rw [Except.ok.inj hs]
  | some body => exact values_setText hs hn

theorem values_setDigest_some {body : List UInt8} (hs : setDigest h (some body) = .ok h') :
    h'.values "content-md5" = [⟨Text.utf8 (Digest.Base64.encode (Digest.md5 body)), false⟩] := by
  rw [Headers.setText_ok hs, Headers.values_set_self]

/-- Of the headers that the text has lines for, only the digest is set before the time is known. -/
theorem values_baseHeaders (hb : baseHeaders call c region = .ok h) :
    h.values "content-type" = call.headers.values "content-type" ∧
      ∀ body, call.body = some body →
        h.values "content-md5" = [⟨Text.utf8 (Digest.Base64.encode (Digest.md5 body)), false⟩] := by
  obtain ⟨h₁, h1, hb⟩ := bind_eq_ok hb
  obtain ⟨h₂, h2, hb⟩ := bind_eq_ok hb
  obtain ⟨h₃, h3, hb⟩ := bind_eq_ok hb
  obtain ⟨h₄, h4, h5⟩ := bind_eq_ok hb
  constructor
  · rw [values_setHidden h5 (by decide), values_setHidden h4 (by decide), values_setDigest h3 (by decide),
      values_setText h2 (by decide), values_setText h1 (by decide)]
  · intro body hbody
    rw [hbody] at h3
    rw [values_setHidden h5 (by decide), values_setHidden h4 (by decide), values_setDigest_some h3]

/-- The headers that signing sets with the time. -/
def timedNames : List String := ["date", "accept", "x-acs-signature-method", "x-acs-signature-version"]

theorem values_signedHeaders (hs : s.signedHeaders = .ok h) (hn : name ∉ timedNames) :
    h.values name = s.base.values name := by
  have hne : ∀ n ∈ timedNames, name ≠ n := by
    rintro n hm rfl
    exact hn hm
  obtain ⟨h₁, h1, hs⟩ := bind_eq_ok hs
  obtain ⟨h₂, h2, hs⟩ := bind_eq_ok hs
  obtain ⟨h₃, h3, h4⟩ := bind_eq_ok hs
  rw [values_setText h4 (hne _ (by decide)), values_setText h3 (hne _ (by decide)),
    values_setText h2 (hne _ (by decide)), values_setText h1 (hne _ (by decide))]

/-- The signature is set on top of the headers that it covers, and covers none of itself. -/
theorem headers_ok (hs : s.headers = .ok h) : ∃ h₀ text, s.signedHeaders = .ok h₀ ∧
    h = h₀.set "authorization" ⟨Text.utf8 (s.authorization text), true⟩ ∧
    Canonical.roaText s.call.method h s.uri s.call.queryParams = .ok text := by
  obtain ⟨h₀, h0, hs⟩ := bind_eq_ok hs
  obtain ⟨text, ht, hs⟩ := bind_eq_ok hs
  obtain rfl := Headers.setHidden_ok hs
  exact ⟨h₀, text, h0, rfl, (Canonical.roaText_set_of_unread (by decide) (by decide) _).trans ht⟩

end Roa.Signing

namespace Signer
open Http
variable {s : Signer} {now : Time.Instant} {host : String} {call : Call} {m : Memory} {r : Http.Request}

theorem signing_roa {signing : Signing} (hstyle : call.style = .roa)
    (h : (s.signing now call m).1 = .ok signing) : ∃ c base, (s.credential now m).1 = .ok (some c) ∧
      Roa.Signing.baseHeaders call c s.region = .ok base ∧
      signing = .roa ⟨c, s.algorithm, call, now, base⟩ := by
  rw [signing_fst] at h
  obtain ⟨c, hc, h⟩ := bind_eq_ok h
  simp only [Signing.ofCall, hstyle] at h
  obtain ⟨roa, hr, rfl⟩ := map_eq_ok h
  cases c with
  | none => cases hr
  | some c =>
    obtain ⟨base, hb, hr⟩ := bind_eq_ok hr
    obtain rfl := Except.ok.inj hr
    exact ⟨c, base, hc, hb, rfl⟩

theorem targetAndHeaders_roa {signing : Roa.Signing} {target : String} {headers : Headers}
    (h : targetAndHeaders (.roa signing) = .ok (target, headers)) :
    signing.target = .ok target ∧ signing.headers = .ok headers := by
  obtain ⟨carrier, hc, h⟩ := bind_eq_ok h
  obtain ⟨headers', hh, rfl⟩ := map_eq_ok (x := signing.headers) (f := Carrier.headers) hc
  obtain ⟨target', ht, h⟩ := bind_eq_ok h
  obtain ⟨rfl, rfl⟩ := Prod.mk.inj (Except.ok.inj h)
  exact ⟨ht, hh⟩

theorem values_sentHeaders {h : Headers} {name : String} (hn : name ≠ "content-type") :
    (sentHeaders call h).values name = h.values name := by
  rw [sentHeaders]
  split
  · rfl
  · exact Headers.values_set_of_ne hn _

theorem text_formType : FieldValue.text ⟨Text.utf8 formType, false⟩ = .ok formType := by
  rw [FieldValue.text, if_pos (by decide)]
  exact congrArg _ (by decide)

/-- The text that the sent headers give is the one given before, unless the content type has changed. -/
theorem roaText_sentHeaders_iff {h : Headers} {method uri text : String}
    {queries : List (String × Option String)} (ht : Canonical.roaText method h uri queries = .ok text) :
    Canonical.roaText method (sentHeaders call h) uri queries = .ok text ↔
      call.bodyParams.isEmpty = true ∨ Canonical.firstValue h "content-type" = .ok formType := by
  rw [sentHeaders]
  split
  · next hb => simp [ht, hb]
  · next hb =>
    rw [Canonical.roaText_set_contentType_iff ht text_formType]
    simp [hb]

/-- Whoever gets a request in ROA style reads from its headers a signature of the text that they give, and the
digest of its body, if it has no body parameters; otherwise the signature still covers the content type that
the call had, and the digest is still that of the body that the call had. -/
theorem roa_signature_verifies (s : Signer) (now : Time.Instant) (host : String) (call : Call) (m : Memory)
    (r : Http.Request) (hstyle : call.style = .roa) (h : (s.sign now host call m).1 = .ok r) :
    ∃ (c : Credential) (text : String), (s.credential now m).1 = .ok (some c) ∧
      r.headers.values "authorization" =
        [⟨Text.utf8 ("acs " ++ c.keyId ++ ":" ++ s.algorithm.sign text c.keySecret), true⟩] ∧
      (Canonical.roaText r.method r.headers (Encoding.resolve call.uriPattern call.pathParams) call.queryParams =
        .ok text ↔ call.bodyParams.isEmpty = true ∨
          Canonical.firstValue call.headers "content-type" = .ok formType) ∧
      ∀ body, call.body = some body →
        r.headers.values "content-md5" = [⟨Text.utf8 (Digest.Base64.encode (Digest.md5 body)), false⟩] ∧
        r.body = if call.bodyParams.isEmpty then body else formBody call := by
  obtain ⟨signing, hsig, hr⟩ := sign_ok h
  obtain ⟨c, base, hc, hbase, rfl⟩ := signing_roa hstyle hsig
  obtain ⟨target, headers, u, ht, -, rfl⟩ := request_eq hr
  obtain ⟨h₀, text, h0, rfl, htext⟩ := Roa.Signing.headers_ok (targetAndHeaders_roa ht).2
  obtain ⟨htype, hmd5⟩ := Roa.Signing.values_baseHeaders hbase
  refine ⟨c, text, hc, ?_, ?_, fun body hbody => ⟨?_, ?_⟩⟩
  · rw [values_sentHeaders (by decide), Headers.values_set_self]
    rfl
  · refine (roaText_sentHeaders_iff htext).trans (or_congr_right ?_)
    rw [Canonical.firstValue_congr (Headers.values_set_of_ne (by decide) _),
      Canonical.firstValue_congr (Roa.Signing.values_signedHeaders h0 (by decide)),
      Canonical.firstValue_congr htype]
  · rw [values_sentHeaders (by decide), Headers.values_set_of_ne (by decide),
      Roa.Signing.values_signedHeaders h0 (by decide), hmd5 body hbody]
  · rw [sentBody, hbody]
    rfl

/-- An algorithm whose signatures tell long texts from short ones. -/
def sizing : Algorithm := ⟨"SEAL", "1.0", "", fun text _ => if 200 < text.utf8ByteSize then "long" else "short"⟩

/-- A call that creates a cluster. -/
def clusterCall : Call := { Call.roa "CS" "2016-04-28" "CreateCluster" "/clusters" with method := "POST" }

def signedCluster (call : Call) : Except Error Http.Request :=
  (sign { env := .absent, region := "cn-hangzhou", algorithm := sizing } ⟨1660582212, 0⟩ "cs.aliyuncs.com" call
    { provider := .given ⟨"testid", "testsecret", none, none, none⟩ }).1

theorem roa_signature_verifies_body : ∃ (r : Http.Request) (text : String),
    signedCluster { clusterCall with body := some (Text.utf8 "raw") } = .ok r ∧
    Canonical.roaText r.method r.headers (Encoding.resolve "/clusters" .empty) [] = .ok text ∧
    r.headers.values "authorization" = [⟨Text.utf8 ("acs testid:" ++ sizing.sign text "testsecret"), true⟩] ∧
    r.headers.values "content-md5" = [⟨Text.utf8 (Digest.Base64.encode (Digest.md5 r.body)), false⟩] := by
  have hok : (signedCluster { clusterCall with body := some (Text.utf8 "raw") }).isOk = true := by decide +kernel
  obtain ⟨r, h⟩ := exists_of_isOk hok
  obtain ⟨c, text, hc, hauth, htext, hbody⟩ := roa_signature_verifies _ _ _ _ _ r rfl h
  obtain rfl := Option.some.inj (Except.ok.inj hc)
  obtain ⟨hmd5, hr⟩ := hbody _ rfl
  exact ⟨r, text, h, htext.2 (.inl rfl), hauth, by rw [hmd5, hr]; rfl⟩

/-- The headers give a text, and the signature is not the one of that text. -/
def sealBroken (r : Http.Request) : Bool :=
  match Canonical.roaText r.method r.headers (Encoding.resolve "/clusters" .empty) [] with
  | .ok text =>
    r.headers.values "authorization" ≠ [⟨Text.utf8 ("acs testid:" ++ sizing.sign text "testsecret"), true⟩]
  | .error _ => false

/-- Body parameters bring a content type that the signature does not cover. -/
theorem roa_signature_misses_form_type : ∃ (r : Http.Request) (text : String),
    signedCluster { clusterCall with bodyParams := .ofList [("a", "1")] } = .ok r ∧
    Canonical.roaText r.method r.headers (Encoding.resolve "/clusters" .empty) [] = .ok text ∧
    r.headers.values "authorization" ≠ [⟨Text.utf8 ("acs testid:" ++ sizing.sign text "testsecret"), true⟩] := by
  have hb : (signedCluster { clusterCall with bodyParams := .ofList [("a", "1")] }).toOption.any sealBroken =
      true := by decide +kernel
  cases h : signedCluster { clusterCall with bodyParams := .ofList [("a", "1")] } with
  | error e => rw [h] at hb; cases hb
  | ok r =>
    rw [h] at hb
    replace hb : sealBroken r = true := hb
    unfold sealBroken at hb
    split at hb
    · next text ht => exact ⟨r, text, rfl, ht, of_decide_eq_true hb⟩
    · cases hb

end Signer

end Callsign
