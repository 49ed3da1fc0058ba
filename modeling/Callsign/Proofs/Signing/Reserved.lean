import Callsign.Proofs.Signing.Headers

/-!
# What a caller cannot set in ROA style

`written_headers_overwritten`: what a call has under the names of the headers that signing writes shows neither in
the text to sign nor in the headers that are sent, where each of these names has one value. Two signings are
followed whose calls have headers that agree but for these names (`Overwriting`). Each header that is written takes
its name off the list of those that may differ, and it is written in both signings or in neither. When the text is
made, only the name of the signature is left, which the text does not read.
-/

namespace Callsign.Roa.Signing
open Http Canonical

/-- The name of a header that is written if there is something to write. -/
def nameIf {α : Type} (name : String) : Option α → List String
  | some _ => [name]
  | none => []

/-- The names of the headers that signing writes, in the order in which it does. -/
def writtenNames (call : Call) (credential : Option Credential) : List String :=
  "x-acs-version" :: "x-acs-region-id" :: (nameIf "content-md5" call.body ++
    (nameIf "x-acs-security-token" (credential.bind (·.securityToken)) ++
      (nameIf "x-acs-bearer-token" (credential.bind (·.bearerToken)) ++ (timedNames ++ ["authorization"]))))

/-- Of the names that are written, those in `todo` are left. The two headers agree under all others, and those
that have been written have one value. -/
structure Overwriting (names todo : List String) (h h' : Headers) : Prop where
  agree : ∀ name, name ∉ todo → h'.get? name = h.get? name
  single : ∀ name ∈ names, name ∉ todo → ∃ v, h.get? name = some [v]

namespace Overwriting
variable {names todo : List String} {name : String} {h h' : Headers}

theorem set (hw : Overwriting names (name :: todo) h h') (v : FieldValue) :
    Overwriting names todo (h.set name v) (h'.set name v) := by
  constructor
  · intro n hn
    by_cases he : n = name
    · subst he
      exact (Table.get?_insert_self ..).trans (Table.get?_insert_self ..).symm
    · rw [Headers.set, Headers.set, Table.get?_insert_of_ne _ he, Table.get?_insert_of_ne _ he]
      exact hw.agree n (List.not_mem_cons_of_ne_of_not_mem he hn)
  · intro n hm hn
    by_cases he : n = name
    · subst he
      exact ⟨v, Table.get?_insert_self ..⟩
    · rw [Headers.set, Table.get?_insert_of_ne _ he]
      exact hw.single n hm (List.not_mem_cons_of_ne_of_not_mem he hn)

theorem setText (hw : Overwriting names (name :: todo) h h') (text : String) :
    Paired (Overwriting names todo) (h.setText name text) (h'.setText name text) := by
  rw [Headers.setText, Headers.setText]
  cases FieldValue.ofText text with
  | error e => exact .error e
  | ok v => exact .ok (hw.set v)

theorem setHidden {text : Option String} (hw : Overwriting names (nameIf name text ++ todo) h h') :
    Paired (Overwriting names todo) (h.setHidden name text) (h'.setHidden name text) := by
  cases text with
  | none => exact .ok hw
  | some text =>
    rw [Headers.setHidden, Headers.setHidden]
    cases FieldValue.ofText text with
    | error e => exact .error e
    | ok v => exact .ok (hw.set v.hide)

theorem setDigest {body : Option (List UInt8)} (hw : Overwriting names (nameIf "content-md5" body ++ todo) h h') :
    Paired (Overwriting names todo) (setDigest h body) (setDigest h' body) := by
  cases body with
  | none => exact .ok hw
  | some body => exact hw.setText _

/-- Nothing is written yet. -/
theorem initial (hsame : ∀ name, name ∉ names → h'.get? name = h.get? name) : Overwriting names names h h' :=
  ⟨hsame, fun _ hm hn => absurd hm hn⟩

theorem eq (hw : Overwriting names [] h h') : h' = h := Table.ext_get? fun n => hw.agree n List.not_mem_nil

/-- The text reads nothing that the signature is written to. -/
theorem roaText_eq (hw : Overwriting names ["authorization"] h h') (method uri : String)
    (queries : List (String × Option String)) : roaText method h' uri queries = roaText method h uri queries := by
  have hunread : ∀ g : Headers, roaText method (g.set "authorization" ⟨[], false⟩) uri queries =
      roaText method g uri queries := fun _ => roaText_set_of_unread (by decide) (by decide) _
  rw [← hunread h, ← hunread h', (hw.set _).eq]

end Overwriting

variable {names todo : List String} {call : Call} {c : Credential} {algorithm : Algorithm} {now : Time.Instant}
  {base base' : Headers}

theorem baseHeaders_paired {h : Headers} (region : String)
    (hw : Overwriting names (writtenNames call (some c)) call.headers h) :
    Paired (Overwriting names (timedNames ++ ["authorization"])) (baseHeaders call c region)
      (baseHeaders { call with headers := h } c region) := by
  refine (hw.setText _).bind fun h₁ h₁' hw => ?_
  refine (hw.setText _).bind fun h₂ h₂' hw => ?_
  refine hw.setDigest.bind fun h₃ h₃' hw => ?_
  refine hw.setHidden.bind fun h₄ h₄' hw => ?_
  exact hw.setHidden

theorem signedHeaders_paired (h : Headers) (hw : Overwriting names (timedNames ++ ["authorization"]) base base') :
    Paired (Overwriting names ["authorization"]) (signedHeaders ⟨c, algorithm, call, now, base⟩)
      (signedHeaders ⟨c, algorithm, { call with headers := h }, now, base'⟩) := by
  refine (hw.setText _).bind fun h₁ h₁' hw => ?_
  refine (hw.setText _).bind fun h₂ h₂' hw => ?_
  refine (hw.setText _).bind fun h₃ h₃' hw => ?_
  exact hw.setText _

theorem text_paired (h : Headers) (hw : Overwriting names (timedNames ++ ["authorization"]) base base') :
    Paired Eq (text ⟨c, algorithm, call, now, base⟩)
      (text ⟨c, algorithm, { call with headers := h }, now, base'⟩) := by
  refine (signedHeaders_paired h hw).bind fun h₁ h₁' hw => ?_
  have ht := hw.roaText_eq call.method (Encoding.resolve call.uriPattern call.pathParams) call.queryParams
  exact ht ▸ .refl _

theorem headers_paired (h : Headers) (hw : Overwriting names (timedNames ++ ["authorization"]) base base') :
    Paired (Overwriting names []) (headers ⟨c, algorithm, call, now, base⟩)
      (headers ⟨c, algorithm, { call with headers := h }, now, base'⟩) := by
  refine (signedHeaders_paired h hw).bind fun h₁ h₁' hw => ?_
  have ht := hw.roaText_eq call.method (Encoding.resolve call.uriPattern call.pathParams) call.queryParams
  refine Paired.bind (R := Eq) (ht ▸ .refl _) ?_
  rintro text _ rfl
  have hlast : ∀ value : String, Overwriting names (nameIf "authorization" (some value) ++ []) h₁ h₁' := fun _ => hw
  exact (hlast _).setHidden

/-- What a call has under the names that signing writes makes no difference: with and without it the call is
refused for the same reason, or else the texts to sign and the headers to send are the same, errors included, and
in these headers each of the names has one value. -/
theorem written_headers_overwritten (call : Call) (credential : Option Credential) (region : String)
    (algorithm : Algorithm) (now : Time.Instant) (h : Headers)
    (hsame : ∀ name, name ∉ writtenNames call credential → h.get? name = call.headers.get? name) :
    Paired (fun s s' : Signing => s'.text = s.text ∧ s'.headers = s.headers ∧
        ∀ sent, s.headers = .ok sent → ∀ name ∈ writtenNames call credential, ∃ v, sent.get? name = some [v])
      (ofCall call credential region algorithm now)
      (ofCall { call with headers := h } credential region algorithm now) := by
  cases credential with
  | none => exact .error _
  | some c =>
    refine (baseHeaders_paired region (.initial hsame)).bind fun base base' hw => .ok ⟨?_, ?_, ?_⟩
    · exact (text_paired h hw).eq.symm
    · exact ((headers_paired h hw).mono fun _ _ hw => hw.eq.symm).eq.symm
    · intro sent hs name hm
      obtain ⟨_, -, hw⟩ := (headers_paired h hw).of_ok hs
      exact hw.single name hm List.not_mem_nil

def bodyCall (headers : Headers) : Call :=
  { Call.roa "CS" "2016-04-28" "CreateCluster" "/clusters" with headers, body := some (Text.utf8 "raw") }

def tokenCredential : Credential := ⟨"testid", "testsecret", some "token", none, none⟩

/-- A call with a body, bound to a credential that has one token. -/
def createCluster (headers : Headers) : Except Error Signing :=
  ofCall (bodyCall headers) (some tokenCredential) "cn-hangzhou" Signer.sizing ⟨1660582212, 0⟩

/-- The header that is the caller's own, as the credential does not have this token. -/
def ownHeaders : Headers := .set .empty "x-acs-bearer-token" ⟨[49], false⟩

/-- The same with a digest that is no text, with two dates, and with a signature. -/
def moreHeaders : Headers :=
  ((ownHeaders.set "content-md5" ⟨[255], false⟩).append "date" ⟨[49], false⟩ |>.append "date" ⟨[50], true⟩).set
    "authorization" ⟨[51], false⟩

theorem written_headers_overwritten_digest : ∃ s s' sent, createCluster ownHeaders = .ok s ∧
    createCluster moreHeaders = .ok s' ∧ s.headers = .ok sent ∧ s'.headers = .ok sent ∧ s'.text = s.text ∧
    ∃ v, sent.get? "date" = some [v] := by
  have hsame : ∀ name, name ∉ ["authorization", "date", "content-md5"] →
      moreHeaders.get? name = ownHeaders.get? name := by
    intro name hn
    simp only [List.mem_cons, List.not_mem_nil, or_false, not_or] at hn
    obtain ⟨hauth, hdate, hmd5⟩ := hn
    simp only [moreHeaders, Headers.set, Headers.append]
    rw [Table.get?_insert_of_ne _ hauth, Table.get?_insert_of_ne _ hdate, Table.get?_insert_of_ne _ hdate,
      Table.get?_insert_of_ne _ hmd5]
  obtain ⟨sent, h⟩ := exists_of_isOk (x := createCluster ownHeaders >>= headers) (by decide +kernel)
  obtain ⟨s, hs, hsent⟩ := bind_eq_ok h
  have hsub : ["authorization", "date", "content-md5"] ⊆ writtenNames (bodyCall ownHeaders) (some tokenCredential) := by
    decide
  obtain ⟨s', hs', htext, hheaders, hvalues⟩ := (written_headers_overwritten _ _ _ _ _ moreHeaders
    fun name hn => hsame name fun hm => hn (hsub hm)).of_ok hs
  exact ⟨s, s', sent, hs, hs', hsent, hheaders.trans hsent, htext, hvalues sent hsent "date" (by decide)⟩

end Callsign.Roa.Signing
