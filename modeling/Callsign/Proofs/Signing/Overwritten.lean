import Callsign.Proofs.Canonical.Rpc
import Callsign.Proofs.Signing.Params

/-!
# What a caller cannot set in RPC style

`written_names_overwritten`: what the query of a call has under the nine names that signing sets changes neither
the text to sign nor the query that is sent. Under the tenth, `Signature`, it is signed, because the signature is
put in only after the text is made, and it is not sent, because the signature takes its place: so the text stays
the same just where the query has the same last value there or a body parameter hides it.
-/

namespace Callsign

/-- Two lists of pairs are the same but for the pairs of some names. -/
def SameOutside {α : Type} (names : List String) (es fs : List (String × α)) : Prop :=
  es.filter (·.1 ∉ names) = fs.filter (·.1 ∉ names)

instance {α : Type} [DecidableEq α] (names : List String) (es fs : List (String × α)) :
    Decidable (SameOutside names es fs) :=
  inferInstanceAs (Decidable (_ = _))

theorem SameOutside.lookup_reverse {α : Type} {names : List String} {es fs : List (String × α)} {name : String}
    (h : SameOutside names es fs) (hn : name ∉ names) : es.reverse.lookup name = fs.reverse.lookup name := by
  have hkeep : ∀ l : List (String × α), (l.filter (·.1 ∉ names)).lookup name = l.lookup name := by
    intro l
    induction l with
    | nil => rfl
    | cons e l ih =>
      by_cases he : name = e.1
      · grind
      · grind
  rw [← hkeep es.reverse, ← hkeep fs.reverse, List.filter_reverse, List.filter_reverse, h]

namespace Rpc.Signing
open Encoding

/-- The names of the parameters that signing sets. -/
def systemNames : List String :=
  ["Version", "Action", "Format", "Timestamp", "SignatureMethod", "SignatureType", "SignatureVersion",
    "SignatureNonce", "AccessKeyId"]

/-- The names that signing writes: those of its parameters, and that of the signature. -/
def writtenNames : List String := "Signature" :: systemNames

/-- The same signing of a call with other query parameters. -/
def queried (s : Signing) (qs : List (String × Option String)) : Signing :=
  { s with call := { s.call with queryParams := qs } }

/-- The signature of the text to sign. -/
def signature (s : Signing) : Except Error String := do
  let c ← s.required
  return s.algorithm.sign (← s.text) (c.keySecret ++ "&")

variable {s : Signing} {c : Credential} {qs : List (String × Option String)} {name : String}

/-! ### The table that is signed -/

theorem system?_of_mem (s : Signing) (c : Credential) (h : name ∈ systemNames) : ∃ v, s.system? c name = some v := by
  simp only [systemNames, List.mem_cons, List.not_mem_nil, or_false] at h
  rcases h with rfl | rfl | rfl | rfl | rfl | rfl | rfl | rfl | rfl <;> exact ⟨_, rfl⟩

theorem lastQuery?_queried (h : SameOutside writtenNames qs s.call.queryParams) (hn : name ∉ writtenNames) :
    (s.queried qs).lastQuery? name = s.lastQuery? name := by
  rw [lastQuery?, lastQuery?, ← h.lookup_reverse hn]
  rfl

/-- Only under the name of the signature does it show that the query is another. -/
theorem covered?_queried (h : SameOutside writtenNames qs s.call.queryParams) (hn : name ≠ "Signature") :
    (s.queried qs).covered? c name = s.covered? c name := by
  show (token? c name).or ((s.call.bodyParams.get? name).or ((s.system? c name).or _)) = _
  rw [covered?]
  by_cases hsys : name ∈ systemNames
  · obtain ⟨v, hv⟩ := system?_of_mem s c hsys
    rw [hv, Option.some_or, Option.some_or]
  · have hout : name ∉ writtenNames := List.not_mem_cons_of_ne_of_not_mem hn hsys
    rw [lastQuery?_queried h hout]

/-- What the signature covers under its own name: neither a token nor what signing sets is there. -/
theorem covered?_signature_eq (s : Signing) (c : Credential) : s.covered? c "Signature" =
    (s.call.bodyParams.get? "Signature").or (s.lastQuery? "Signature") := rfl

theorem covered?_signature_queried_iff : (s.queried qs).covered? c "Signature" = s.covered? c "Signature" ↔
    s.call.bodyParams.contains "Signature" = true ∨
      (s.queried qs).lastQuery? "Signature" = s.lastQuery? "Signature" := by
  rw [covered?_signature_eq, covered?_signature_eq, Table.contains]
  show (s.call.bodyParams.get? "Signature").or _ = _ ↔ _
  cases s.call.bodyParams.get? "Signature" with
  | none => simp
  | some v => simp

/-! ### The text and the query -/

theorem text_of_params {T : Table String} (h : s.params = .ok T) :
    s.text = .ok (Canonical.rpcText s.call.method T) := by
  rw [text, h]
  rfl

theorem signature_of_params {T : Table String} (hc : s.credential = some c) (h : s.params = .ok T) :
    s.signature = .ok (s.algorithm.sign (Canonical.rpcText s.call.method T) (c.keySecret ++ "&")) := by
  rw [signature, required, hc, text_of_params h]
  rfl

theorem target_of_params {T : Table String} {sig : String} (hc : s.credential = some c) (h : s.params = .ok T)
    (hsig : s.signature = .ok sig) :
    s.target = .ok ("?" ++ String.ofList (form (T.insert "Signature" sig).entries)) := by
  obtain rfl := Except.ok.inj ((signature_of_params hc h).symm.trans hsig)
  rw [target, required, hc, h]
  rfl

/-- The query that is sent tells the table it was made of. -/
theorem queryText_inj {T T' : Table String}
    (h : "?" ++ String.ofList (form T.entries) = "?" ++ String.ofList (form T'.entries)) : T = T' := by
  have hl := String.ofList_inj.1 ((String.append_right_inj _).1 h)
  refine Table.ext ?_
  rw [← decodeForm_form T.entries, hl, decodeForm_form]

/-- The tables that are signed for two calls whose queries differ under the written names only. -/
theorem params_queried (hc : s.credential = some c) (h : SameOutside writtenNames qs s.call.queryParams) :
    ∃ T T' : Table String, s.params = .ok T ∧ (s.queried qs).params = .ok T' ∧
      (∀ name, name ≠ "Signature" → T'.get? name = T.get? name) ∧
      (T' = T ↔ s.call.bodyParams.contains "Signature" = true ∨
        (s.queried qs).lastQuery? "Signature" = s.lastQuery? "Signature") := by
  obtain ⟨T, hT, hget⟩ := params_eq hc
  obtain ⟨T', hT', hget'⟩ := params_eq (s := s.queried qs) hc
  have hne : ∀ name, name ≠ "Signature" → T'.get? name = T.get? name := by
    intro name hn
    rw [hget', hget, covered?_queried h hn]
  refine ⟨T, T', hT, hT', hne, ?_⟩
  rw [← covered?_signature_queried_iff (c := c), ← hget', ← hget]
  constructor
  · rintro rfl
    rfl
  · intro hsig
    refine Table.ext_get? fun name => ?_
    by_cases hn : name = "Signature"
    · exact hn ▸ hsig
    · exact hne name hn

theorem text_queried_iff (hc : s.credential = some c) (h : SameOutside writtenNames qs s.call.queryParams) :
    (s.queried qs).text = s.text ↔ s.call.bodyParams.contains "Signature" = true ∨
      (s.queried qs).lastQuery? "Signature" = s.lastQuery? "Signature" := by
  obtain ⟨T, T', hT, hT', -, hiff⟩ := params_queried hc h
  rw [text_of_params hT, text_of_params hT', Except.ok.injEq, Canonical.rpcText_inj, ← hiff]
  exact and_iff_right rfl

/-- The queries that are sent differ at most in the signature. -/
theorem target_queried_iff (hc : s.credential = some c) (h : SameOutside writtenNames qs s.call.queryParams) :
    (s.queried qs).target = s.target ↔ (s.queried qs).signature = s.signature := by
  obtain ⟨T, T', hT, hT', hne, -⟩ := params_queried hc h
  have hsig := signature_of_params hc hT
  have hsig' := signature_of_params (s := s.queried qs) hc hT'
  rw [target_of_params hc hT hsig, target_of_params (s := s.queried qs) hc hT' hsig', hsig, hsig',
    Except.ok.injEq, Except.ok.injEq]
  constructor
  · intro ht
    have hget := congrArg (Table.get? · "Signature") (queryText_inj ht)
    simpa only [Table.get?_insert_self, Option.some.injEq] using hget
  · intro he
    refine congrArg (fun S : Table String => "?" ++ String.ofList (form S.entries)) (Table.ext_get? fun name => ?_)
    by_cases hn : name = "Signature"
    · rw [hn, Table.get?_insert_self, Table.get?_insert_self, he]
    · rw [Table.get?_insert_of_ne _ hn, Table.get?_insert_of_ne _ hn, hne name hn]

theorem signature_queried (h : (s.queried qs).text = s.text) : (s.queried qs).signature = s.signature := by
  rw [signature, signature, h]
  rfl

/-- Without a credential there is nothing to compare. -/
theorem queried_of_missing (hc : s.credential = none) (qs : List (String × Option String)) :
    (s.queried qs).text = s.text ∧ (s.queried qs).target = s.target := by
  have hreq : s.required = .error (.ofProblem (.noCredential "rpc")) := by rw [required, hc]
  have hreq' : (s.queried qs).required = .error (.ofProblem (.noCredential "rpc")) := hreq
  constructor
  · rw [text, text, params, params, hreq, hreq']
    rfl
  · rw [target, target, hreq, hreq']
    rfl

/-- Whatever the query of a call has under the names that signing writes, the text to sign is the same as long as
it covers the same under the name of the signature, and the query that is sent as long as the signature is the
same. -/
theorem written_names_overwritten (s : Signing) (qs : List (String × Option String))
    (h : SameOutside writtenNames qs s.call.queryParams) :
    ((s.queried qs).text = s.text ↔ s.credential = none ∨ s.call.bodyParams.contains "Signature" = true ∨
      (s.queried qs).lastQuery? "Signature" = s.lastQuery? "Signature") ∧
    ((s.queried qs).text = s.text → (s.queried qs).target = s.target) ∧
    ((s.queried qs).target = s.target ↔ (s.queried qs).signature = s.signature) := by
  cases hc : s.credential with
  | none =>
    obtain ⟨htext, htarget⟩ := queried_of_missing hc qs
    exact ⟨iff_of_true htext (.inl rfl), fun _ => htarget, iff_of_true htarget (signature_queried htext)⟩
  | some c =>
    have htarget := target_queried_iff hc h
    refine ⟨(text_queried_iff hc h).trans ?_, fun ht => htarget.2 (signature_queried ht), htarget⟩
    simp

/-- A call that lists regions, bound to a credential and to an algorithm whose signature is the text. -/
def listRegions (queryParams : List (String × Option String)) : Signing where
  credential := some ⟨"testid", "testsecret", none, none, none⟩
  algorithm := ⟨"SEAL", "1.0", "", fun text _ => text⟩
  call := { Call.rpc "Ecs" "2014-05-26" "DescribeRegions" with queryParams }
  time := ⟨1660582212, 0⟩
  nonce := "00000000-0000-4000-8000-000000000000"

/-- The query may set the version, the action and the key, and even a signature before the last one. -/
theorem written_names_overwritten_mixed :
    let s := listRegions [("a", none), ("Version", none), ("AccessKeyId", some "z"), ("Signature", none)]
    let s' := listRegions [("Action", some "x"), ("Signature", some "y"), ("a", none), ("Signature", none)]
    s'.text = s.text ∧ s'.target = s.target := by
  intro s s'
  obtain ⟨htext, htarget, -⟩ := written_names_overwritten s s'.call.queryParams (by decide)
  have hsame : (s.queried s'.call.queryParams).text = s.text := htext.2 (.inr (.inr (by decide)))
  exact ⟨hsame, htarget hsame⟩

theorem signature_listRegions (qs : List (String × Option String)) :
    (listRegions qs).signature = (listRegions qs).text :=
  bind_pure (listRegions qs).text

/-- A signature that the query of a call brings is signed itself, so that the text and what is sent are others. -/
theorem callers_signature_signed : SameOutside writtenNames [("Signature", some "x")] [] ∧
    (listRegions [("Signature", some "x")]).text ≠ (listRegions []).text ∧
    (listRegions [("Signature", some "x")]).target ≠ (listRegions []).target := by
  have hsame : SameOutside writtenNames [("Signature", some "x")] (listRegions []).call.queryParams := by decide
  have hquery : listRegions [("Signature", some "x")] = (listRegions []).queried [("Signature", some "x")] := rfl
  have htext : (listRegions [("Signature", some "x")]).text ≠ (listRegions []).text := by
    rw [hquery, ne_eq, text_queried_iff rfl hsame]
    decide
  refine ⟨hsame, htext, fun ht => htext ?_⟩
  have hsig := (target_queried_iff rfl hsame).1 ht
  rwa [← hquery, signature_listRegions, signature_listRegions] at hsig

end Rpc.Signing

end Callsign
