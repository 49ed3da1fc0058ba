import Callsign.Proofs.Error
import Callsign.Signer

/-!
# What a request is put together from

A request is made of its call, of the target and the headers that signing gives, and of what body parameters
make of the headers and the body: they stand in the stead of a body, and bring their content type with them.
-/

namespace Callsign

namespace Http
variable {h h' : Headers} {name text : String} {v : FieldValue}

theorem FieldValue.ofText_ok (hv : FieldValue.ofText text = .ok v) : v = ⟨Text.utf8 text, false⟩ := by
  rw [ofText, ofBytes] at hv
  split at hv
  · exact (Except.ok.inj hv).symm
  · cases hv

namespace Headers

theorem setText_ok (hs : h.setText name text = .ok h') : h' = h.set name ⟨Text.utf8 text, false⟩ := by
  obtain ⟨v, hv, hs⟩ := bind_eq_ok hs
  rw [FieldValue.ofText_ok hv] at hs
  exact (Except.ok.inj hs).symm

theorem setHidden_ok (hs : h.setHidden name (some text) = .ok h') : h' = h.set name ⟨Text.utf8 text, true⟩ := by
  obtain ⟨v, hv, hs⟩ := bind_eq_ok hs
  rw [FieldValue.ofText_ok hv] at hs
  exact (Except.ok.inj hs).symm

end Headers
end Http

namespace Signer
variable {s : Signer} {now : Time.Instant} {host : String} {call : Call} {m : Memory} {r : Http.Request}
  {signing : Signing}

/-- The content type of body parameters. -/
def formType : String := "application/x-www-form-urlencoded"

/-- The text of body parameters. -/
def formBody (call : Call) : List UInt8 := Text.utf8 (String.ofList (Encoding.form call.bodyParams.entries))

def sentHeaders (call : Call) (h : Http.Headers) : Http.Headers :=
  if call.bodyParams.isEmpty then h else h.set "content-type" ⟨Text.utf8 formType, false⟩

def sentBody (call : Call) : List UInt8 := if call.bodyParams.isEmpty then call.body.getD [] else formBody call

theorem credential_nonces (s : Signer) (now : Time.Instant) (m : Memory) :
    (s.credential now m).2.nonces = m.nonces := by
  rw [credential]
  split
  · rfl
  · split <;> rfl

/-- A call is bound to the credential that there is then. -/
theorem signing_fst (s : Signer) (now : Time.Instant) (call : Call) (m : Memory) : (s.signing now call m).1 =
    (s.credential now m).1.bind fun c => (Signing.ofCall call c s.region s.algorithm now m.nonces).1 := by
  have hn := s.credential_nonces now m
  rw [signing]
  generalize s.credential now m = x at hn ⊢
  obtain ⟨⟨e⟩ | ⟨c⟩, m'⟩ := x
  · rfl
  · replace hn : m'.nonces = m.nonces := hn
    simp only [hn]
    rfl

theorem sign_ok (h : (s.sign now host call m).1 = .ok r) :
    ∃ signing, (s.signing now call m).1 = .ok signing ∧ s.request host call signing = .ok r :=
  bind_eq_ok h

theorem request_eq (h : s.request host call signing = .ok r) :
    ∃ target headers u, targetAndHeaders signing = .ok (target, headers) ∧
      Http.uri (s.scheme ++ "://" ++ host ++ target) = .ok u ∧
      r = ⟨call.method, u, sentHeaders call headers, sentBody call⟩ := by
  unfold request at h
  obtain ⟨⟨target, headers⟩, ht, h⟩ := bind_eq_ok h
  refine ⟨target, headers, ?_⟩
  dsimp only at h
  rw [sentHeaders, sentBody]
  split at h
  · next hb =>
    obtain ⟨x, hx, h⟩ := bind_eq_ok h
    obtain rfl := Except.ok.inj hx
    obtain ⟨u, hu, h⟩ := bind_eq_ok h
    rw [if_pos hb, if_pos hb]
    exact ⟨u, ht, hu, (Except.ok.inj h).symm⟩
  · next hb =>
    obtain ⟨headers', hs, h⟩ := bind_eq_ok h
    obtain rfl := Http.Headers.setText_ok hs
    obtain ⟨x, hx, h⟩ := bind_eq_ok h
    obtain rfl := Except.ok.inj hx
    obtain ⟨u, hu, h⟩ := bind_eq_ok h
    rw [if_neg hb, if_neg hb]
    exact ⟨u, ht, hu, (Except.ok.inj h).symm⟩

/-- The parts of a request: its URI leads to the host, and body parameters are its body. -/
theorem request_ok (h : s.request host call signing = .ok r) :
    ∃ target headers, targetAndHeaders signing = .ok (target, headers) ∧
      Http.uri (s.scheme ++ "://" ++ host ++ target) = .ok r.uri ∧ r.method = call.method ∧
      (call.bodyParams.isEmpty = false →
        r.body = Text.utf8 (String.ofList (Encoding.form call.bodyParams.entries))) := by
  obtain ⟨target, headers, u, ht, hu, rfl⟩ := request_eq h
  refine ⟨target, headers, ht, hu, rfl, fun hb => ?_⟩
  rw [sentBody, hb]
  rfl

end Signer

end Callsign
