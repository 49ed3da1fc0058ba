import Callsign.Proofs.Canonical.Resource
import Callsign.Proofs.Canonical.Roa
import Callsign.Proofs.Encoding.Query
import Callsign.Signing.Roa

/-!
# The resource that is signed and the one that is sent

`sent_resource_signed_iff`: the path and query of a call in ROA style, read back, are the resource that its
signature covers, unless the path ends in a question mark. There are three kinds of paths, by what stands
behind the question mark: none at all (`readTarget_path`), a name (`readTarget_key`), or nothing
(`readTarget_bare_mark`). For each, joining puts in the one mark at which reading cuts.
-/

namespace Callsign.Roa.Signing
open Encoding
variable {s : Signing} {path key : List Char} {queries : List (String × Option String)}

/-! ### Reading what was sent -/

/-- The path of a text, and the pairs behind its first question mark, if it has one. -/
def readTarget (cs : List Char) : String × List (String × Option String) :=
  let (path, query) := splitFirst '?' cs
  (String.ofList path, (query.map decodeQuery).getD [])

/-- The resource that a sent path with its query stands for. -/
def sentResource (target : String) : String :=
  let (path, queries) := readTarget target.toList
  Canonical.roaResource path queries

theorem readTarget_of_not_mem (h : '?' ∉ path) : readTarget path = (String.ofList path, []) := by
  rw [readTarget, splitFirst_of_not_mem h]
  rfl

theorem readTarget_append (h : '?' ∉ path) (r : List Char) :
    readTarget (path ++ '?' :: r) = (String.ofList path, decodeQuery r) := by
  rw [readTarget, splitFirst_append h]
  rfl

/-- A letter, a digit or one of four marks. -/
def Unreserved (c : Char) : Prop := c.isAlphanum = true ∨ c ∈ ['-', '.', '_', '~']

instance (c : Char) : Decidable (Unreserved c) := inferInstanceAs (Decidable (_ ∨ _))

theorem not_mem_of_unreserved {c : Char} (h : ∀ c ∈ key, Unreserved c) (hc : ¬ Unreserved c) : c ∉ key :=
  fun hm => hc (h c hm)

theorem decodePair_unreserved (h : ∀ c ∈ key, Unreserved c) : decodePair key = (String.ofList key, none) :=
  decodePair_plain (not_mem_of_unreserved h (by decide)) (not_mem_of_unreserved h (by decide))

/-! ### What is sent -/

theorem getLast?_append_of_not_mem {c : Char} {q : List Char} (hq : q ≠ []) (h : c ∉ q) (p : List Char) :
    (p ++ q).getLast? ≠ some c := by
  rw [List.getLast?_append, List.getLast?_eq_some_getLast hq, Option.some_or]
  intro hl
  have hm := List.getLast_mem hq
  rw [Option.some.inj hl] at hm
  exact h hm

theorem getLast?_mark_of_not_mem {c : Char} {q : List Char} (hq : q ≠ []) (h : c ∉ q) (p : List Char)
    (mark : Char) : (p ++ mark :: q).getLast? ≠ some c := by
  rw [List.append_cons]
  exact getLast?_append_of_not_mem hq h (p ++ [mark])

theorem withQuery_nil (uri : List Char) :
    withQuery uri (query []) = if uri.getLast? = some '?' then uri.dropLast else uri := rfl

/-- A query goes behind the first of its marks that the path does not have yet. -/
theorem withQuery_of_ne_nil {q : List Char} (hq : q ≠ []) (h : '?' ∉ q) (uri : List Char) :
    withQuery uri q = if '?' ∉ uri then uri ++ '?' :: q
      else if uri.getLast? = some '?' ∨ uri.getLast? = some '&' then uri ++ q
      else uri ++ '&' :: q := by
  have hlast : (uri ++ q).getLast? ≠ some '?' := getLast?_append_of_not_mem hq h uri
  have hmark : ∀ c, (uri ++ c :: q).getLast? ≠ some '?' := getLast?_mark_of_not_mem hq h uri
  rw [withQuery, List.isEmpty_eq_false_iff.2 hq]
  simp only [Bool.false_eq_true, if_false, List.contains_eq_mem, Bool.not_eq_true', decide_eq_false_iff_not,
    Bool.or_eq_true, decide_eq_true_eq]
  by_cases hu : '?' ∉ uri
  · rw [if_pos hu]
    exact if_neg (hmark '?')
  rw [if_neg hu]
  by_cases hl : uri.getLast? = some '?' ∨ uri.getLast? = some '&'
  · rw [if_pos hl]
    exact if_neg hlast
  · rw [if_neg hl]
    exact if_neg (hmark '&')

theorem withQuery_query (hq : ∀ q ∈ queries, q.1 ≠ "") (hne : queries ≠ []) (uri : List Char) :
    withQuery uri (query queries) = if '?' ∉ uri then uri ++ '?' :: query queries
      else if uri.getLast? = some '?' ∨ uri.getLast? = some '&' then uri ++ query queries
      else uri ++ '&' :: query queries :=
  withQuery_of_ne_nil (mt (query_eq_nil_iff hq).1 hne) (query_mark_not_mem_query queries) uri

theorem readTarget_path (h : '?' ∉ path) (hq : ∀ q ∈ queries, q.1 ≠ "") :
    readTarget (withQuery path (query queries)) = (String.ofList path, queries) := by
  by_cases hnil : queries = []
  · subst hnil
    have hl : path.getLast? ≠ some '?' := fun hl => h (List.mem_of_getLast? hl)
    rw [withQuery_nil, if_neg hl, readTarget_of_not_mem h]
  · rw [withQuery_query hq hnil, if_pos h, readTarget_append h, decodeQuery_query hnil]

theorem readTarget_key (h : '?' ∉ path) (hkey : ∀ c ∈ key, Unreserved c) (hne : key ≠ [])
    (hq : ∀ q ∈ queries, q.1 ≠ "") :
    readTarget (withQuery (path ++ '?' :: key) (query queries)) =
      (String.ofList path, (String.ofList key, none) :: queries) := by
  have hmark : '?' ∈ path ++ '?' :: key := List.mem_append_right _ List.mem_cons_self
  have hamp : '&' ∉ key := not_mem_of_unreserved hkey (by decide)
  have hlast : ∀ c, c ∉ key → (path ++ '?' :: key).getLast? ≠ some c := fun c hc =>
    getLast?_mark_of_not_mem hne hc path '?'
  have hl := hlast '?' (not_mem_of_unreserved hkey (by decide))
  by_cases hnil : queries = []
  · subst hnil
    rw [withQuery_nil, if_neg hl, readTarget_append h, decodeQuery, splitAll_of_not_mem hamp,
      List.map_singleton, decodePair_unreserved hkey]
  · rw [withQuery_query hq hnil, if_neg (not_not_intro hmark), if_neg (not_or_intro hl (hlast '&' hamp)),
      List.append_assoc, List.cons_append, readTarget_append h, decodeQuery_append hamp,
      decodePair_unreserved hkey, decodeQuery_query hnil]

theorem readTarget_bare_mark (h : '?' ∉ path) (hq : ∀ q ∈ queries, q.1 ≠ "") :
    readTarget (withQuery (path ++ ['?']) (query queries)) = (String.ofList path, queries) := by
  have hmark : '?' ∈ path ++ ['?'] := List.mem_append_right _ List.mem_cons_self
  by_cases hnil : queries = []
  · subst hnil
    rw [withQuery_nil, if_pos List.getLast?_concat, List.dropLast_concat, readTarget_of_not_mem h]
  · rw [withQuery_query hq hnil, if_neg (not_not_intro hmark), if_pos (.inl List.getLast?_concat),
      List.append_assoc, List.singleton_append, readTarget_append h, decodeQuery_query hnil]

/-! ### The text to sign -/

/-- The path has a question mark at most once, and behind it nothing, or one name of unreserved characters that
the query does not have. -/
def OneName (s : Signing) : Prop :=
  '?' ∉ s.uri.toList ∨ ∃ path key, s.uri.toList = path ++ '?' :: key ∧ '?' ∉ path ∧
    (∀ c ∈ key, Unreserved c) ∧ ∀ q ∈ s.call.queryParams, q.1 ≠ String.ofList key

/-- The text ends in the resource, and before it stands what the text would be without any. -/
theorem text_ok {text : String} (ht : s.text = .ok text) : ∃ h lead, s.signedHeaders = .ok h ∧
    Canonical.roaText s.call.method h "" [] = .ok lead ∧
    text = lead ++ Canonical.roaResource s.uri s.call.queryParams := by
  obtain ⟨h, hh, ht⟩ := bind_eq_ok ht
  obtain ⟨accept, md5, type, date, headers, ha, hm, hc, hd, hs, rfl⟩ := Canonical.roaText_eq_ok.1 ht
  refine ⟨h, _, hh, Canonical.roaText_eq_ok.2 ⟨accept, md5, type, date, headers, ha, hm, hc, hd, hs, rfl⟩, ?_⟩
  rw [show Canonical.roaResource "" [] = "" from rfl, String.append_empty]

/-- Whoever gets the path and query of a call in ROA style reads from them the resource that the text to sign
ends in, unless the path of the call ends in a question mark. -/
theorem sent_resource_signed_iff (s : Signing) (hkeys : ∀ q ∈ s.call.queryParams, q.1 ≠ "") (huri : s.OneName) :
    ∃ target, s.target = .ok target ∧
      (sentResource target = Canonical.roaResource s.uri s.call.queryParams ↔
        s.uri.toList.getLast? ≠ some '?') ∧
      ∀ text, s.text = .ok text → ∃ h lead, s.signedHeaders = .ok h ∧
        Canonical.roaText s.call.method h "" [] = .ok lead ∧
        text = lead ++ Canonical.roaResource s.uri s.call.queryParams := by
  refine ⟨_, rfl, ?_, fun text => text_ok⟩
  rw [sentResource, String.toList_ofList]
  rcases huri with hu | ⟨path, key, hu, hp, hkey, hfree⟩
  · rw [readTarget_path hu hkeys, String.ofList_toList]
    exact iff_of_true rfl fun hl => hu (List.mem_of_getLast? hl)
  · rw [hu, ← String.ofList_toList (s := s.uri), hu]
    cases key with
    | nil =>
      rw [readTarget_bare_mark hp hkeys]
      exact iff_of_false (Canonical.roaResource_bare_mark hp hkeys) fun hl => hl List.getLast?_concat
    | cons c key =>
      rw [readTarget_key hp hkey (List.cons_ne_nil c key) hkeys]
      have hmark : '?' ∉ c :: key := not_mem_of_unreserved hkey (by decide)
      exact iff_of_true (Canonical.roaResource_cons hp hfree)
        (getLast?_mark_of_not_mem (List.cons_ne_nil c key) hmark path '?')

/-- A call that lists clusters, bound to a credential. -/
def listClusters (uriPattern : String) (queryParams : List (String × Option String)) : Except Error Signing :=
  ofCall { Call.roa "CS" "2016-04-28" "DescribeClusters" uriPattern with queryParams }
    (some ⟨"testid", "testsecret", none, none, none⟩) "cn-hangzhou" .hmacSha1 ⟨1660582212, 0⟩

theorem listClusters_ok {uriPattern : String} {queryParams : List (String × Option String)} {s : Signing}
    (h : listClusters uriPattern queryParams = .ok s) :
    s.uri = Encoding.resolve uriPattern .empty ∧ s.call.queryParams = queryParams := by
  obtain ⟨base, -, hs⟩ := bind_eq_ok h
  obtain rfl := Except.ok.inj hs
  exact ⟨rfl, rfl⟩

theorem sent_resource_signed_iff_acl : ∃ s target text lead,
    listClusters "/clusters?acl" [("b", some "x y"), ("a", none)] = .ok s ∧ s.target = .ok target ∧
    s.text = .ok text ∧ text = lead ++ sentResource target := by
  have hok : (listClusters "/clusters?acl" [("b", some "x y"), ("a", none)] >>= text).isOk = true := by
    decide +kernel
  obtain ⟨text, h⟩ := exists_of_isOk hok
  obtain ⟨s, hs, ht⟩ := bind_eq_ok h
  obtain ⟨hu, hq⟩ := listClusters_ok hs
  replace hu : s.uri.toList = "/clusters".toList ++ '?' :: "acl".toList := by
    rw [hu]
    decide
  have hkeys : ∀ q ∈ s.call.queryParams, q.1 ≠ "" := by
    rw [hq]
    decide
  have hfree : ∀ q ∈ s.call.queryParams, q.1 ≠ String.ofList "acl".toList := by
    rw [hq]
    decide
  have hplain : ∀ c ∈ "acl".toList, Unreserved c := by simp [Unreserved]
  have hname : s.OneName := .inr ⟨_, _, hu, by decide, hplain, hfree⟩
  have hlast : s.uri.toList.getLast? ≠ some '?' := by
    rw [hu]
    decide
  obtain ⟨target, htarget, hsent, htext⟩ := sent_resource_signed_iff s hkeys hname
  obtain ⟨-, lead, -, -, rfl⟩ := htext text ht
  exact ⟨s, target, _, lead, hs, htarget, ht, by rw [hsent.2 hlast]⟩

/-- The text to sign ends in a question mark that is not sent. -/
theorem bare_mark_signed_not_sent : ∃ s, listClusters "/clusters?" [] = .ok s ∧ s.target = .ok "/clusters" ∧
    sentResource "/clusters" = "/clusters" ∧ Canonical.roaResource s.uri s.call.queryParams = "/clusters?" := by
  have hok : (listClusters "/clusters?" []).isOk = true := by decide +kernel
  obtain ⟨s, hs⟩ := exists_of_isOk hok
  obtain ⟨hu, hq⟩ := listClusters_ok hs
  refine ⟨s, hs, ?_, by decide, ?_⟩
  · rw [target, hu, hq]
    exact congrArg _ (by decide)
  · rw [hu, hq]
    decide

end Callsign.Roa.Signing
