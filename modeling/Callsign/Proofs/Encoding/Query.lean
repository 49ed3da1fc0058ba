import Callsign.Proofs.Encoding.Form
import Callsign.Proofs.Encoding.Percent
import Callsign.Proofs.Encoding.Split

/-!
# Queries read back

`decodeQuery_query`: a query read back gives the pairs it was made of, a name without a value as such. The
empty text is the query of no pairs, but reads as one empty name, so there has to be a pair. Pairs that all
have a value make the same text as a form (`form_eq_query`). Text in which nothing is escaped reads as itself
(`decodeText_plain`).
-/

namespace Callsign.Encoding
variable {e : String × Option String} {es : List (String × Option String)}

/-! ### The pieces of a query -/

/-- One pair of a query. -/
def pieceText : String × Option String → List Char
  | (k, some v) => strict k ++ '=' :: strict v
  | (k, none) => strict k

theorem query_eq (es : List (String × Option String)) : query es = ['&'].intercalate (es.map pieceText) := by
  rw [query]
  refine congrArg _ (List.map_congr_left fun e _ => ?_)
  obtain ⟨k, _ | v⟩ := e
  · show component k ++ [] = strict k
    rw [component_eq_strict, List.append_nil]
  · show component k ++ '=' :: component v = strict k ++ '=' :: strict v
    rw [component_eq_strict, component_eq_strict]

theorem query_mark_not_mem_strict (s : String) : '?' ∉ strict s :=
  not_mem_percent (b := 63) rfl rfl (by decide)

theorem not_mem_pieceText (e : String × Option String) : '&' ∉ pieceText e ∧ '?' ∉ pieceText e := by
  obtain ⟨k, _ | v⟩ := e
  · exact ⟨(not_mem_strict k).1, query_mark_not_mem_strict k⟩
  · have hk := query_mark_not_mem_strict k
    have hv := query_mark_not_mem_strict v
    obtain ⟨hk', -⟩ := not_mem_strict k
    obtain ⟨hv', -⟩ := not_mem_strict v
    simp [pieceText, *]

theorem decodePair_pieceText (e : String × Option String) : decodePair (pieceText e) = e := by
  obtain ⟨k, _ | v⟩ := e
  · rw [pieceText, decodePair, splitFirst_of_not_mem (not_mem_strict k).2.1]
    show (decodeText (strict k), none) = _
    rw [decodeText_strict]
  · rw [pieceText, decodePair, splitFirst_append (not_mem_strict k).2.1]
    show (decodeText (strict k), some (decodeText (strict v))) = _
    rw [decodeText_strict, decodeText_strict]

/-! ### The whole query -/

theorem decodeQuery_query (h : es ≠ []) : decodeQuery (query es) = es := by
  obtain ⟨e, es, rfl⟩ := List.exists_cons_of_ne_nil h
  have hes : ∀ p ∈ es.map pieceText, '&' ∉ p := by
    intro p hp
    obtain ⟨e', -, rfl⟩ := List.mem_map.1 hp
    exact (not_mem_pieceText e').1
  rw [decodeQuery, query_eq, List.map_cons, splitAll_intercalate _ _ (not_mem_pieceText e).1 hes,
    ← List.map_cons, List.map_map]
  exact (List.map_congr_left fun e' _ => decodePair_pieceText e').trans (List.map_id _)

theorem decodeQuery_append {p : List Char} (h : '&' ∉ p) (r : List Char) :
    decodeQuery (p ++ '&' :: r) = decodePair p :: decodeQuery r := by
  rw [decodeQuery, splitAll_append h, List.map_cons, decodeQuery]

theorem query_mark_not_mem_query (es : List (String × Option String)) : '?' ∉ query es := by
  rw [query_eq]
  refine not_mem_intercalate (by decide) fun p hp => ?_
  obtain ⟨e, -, rfl⟩ := List.mem_map.1 hp
  exact (not_mem_pieceText e).2

theorem strict_ne_nil {s : String} (h : s ≠ "") : strict s ≠ [] := by
  intro hs
  refine h ?_
  rw [← decodeText_strict s, hs]
  rfl

/-- With a name that is not empty there is something to send. -/
theorem query_eq_nil_iff (h : ∀ e ∈ es, e.1 ≠ "") : query es = [] ↔ es = [] := by
  refine ⟨fun hq => ?_, fun he => he ▸ rfl⟩
  cases es with
  | nil => rfl
  | cons e es =>
    rw [query_eq, List.map_cons, intercalate_mark] at hq
    obtain ⟨he, -⟩ := List.append_eq_nil_iff.1 hq
    obtain ⟨k, v⟩ := e
    have hk := strict_ne_nil (h _ List.mem_cons_self)
    cases v with
    | none => exact absurd he hk
    | some v => exact absurd (List.append_eq_nil_iff.1 he).1 hk

/-! ### Queries and forms -/

theorem pieceText_some (e : String × String) : pieceText (e.1, some e.2) = pairText e := rfl

/-- A form is restyled as a whole and a query part by part, and both are strict encodings between marks. -/
theorem form_eq_query (ps : List (String × String)) : form ps = query (ps.map fun (k, v) => (k, some v)) := by
  rw [form_eq, query_eq, List.map_map]
  exact congrArg _ (List.map_congr_left fun e _ => (pieceText_some e).symm)

/-- Neither encoder loses anything, and where both apply they give one text. -/
theorem encoders_lossless :
    (∀ (e : String × Option String) (es : List (String × Option String)),
      decodeQuery (query (e :: es)) = e :: es) ∧
    ∀ ps : List (String × String),
      form ps = query (ps.map fun (k, v) => (k, some v)) ∧ decodeForm (form ps) = ps :=
  ⟨fun e es => decodeQuery_query (List.cons_ne_nil e es), fun ps => ⟨form_eq_query ps, decodeForm_form ps⟩⟩

/-! ### Text that is not encoded -/

theorem unescape_plain {cs : List Char} (h : '%' ∉ cs) : unescape cs = cs.flatMap String.utf8EncodeChar := by
  induction cs with
  | nil => rfl
  | cons c cs ih =>
    obtain ⟨hc, hcs⟩ := not_or.1 (mt List.mem_cons.2 h)
    rw [unescape_cons_of_ne (Ne.symm hc), ih hcs, List.flatMap_cons]

theorem decodeText_plain {cs : List Char} (h : '%' ∉ cs) : decodeText cs = String.ofList cs := by
  have hs : cs.flatMap String.utf8EncodeChar = Text.utf8 (String.ofList cs) := by
    rw [Text.utf8, String.toList_ofList]
  rw [decodeText, unescape_plain h, hs, Text.Utf8.decodeLossy_utf8]

theorem decodePair_plain {cs : List Char} (h : '%' ∉ cs) (hs : '=' ∉ cs) :
    decodePair cs = (String.ofList cs, none) := by
  rw [decodePair, splitFirst_of_not_mem hs]
  show (decodeText cs, none) = _
  rw [decodeText_plain h]

end Callsign.Encoding
