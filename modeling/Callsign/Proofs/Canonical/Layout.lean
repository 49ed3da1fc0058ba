import Callsign.Proofs.Canonical.Lines
import Callsign.Proofs.Canonical.Resource
import Callsign.Proofs.Http.Headers
import Mathlib.Data.List.Nodup

/-!
# How the text of an ROA signature is laid out

`roaText_ignores_order`: the text to sign does not depend on the order in which headers and query pairs came, as
long as the values of each name stay in order and the keys of the pairs are different. It is laid out in the order
of names (`Layout.Fits`), and there is none exactly if a value that it covers is no text (`roaText_failsUnless`).
That a failure is always the same one is why the order of the headers does not show in it either
(`sortedLines_perm`).
-/

namespace Callsign

namespace Http.FieldValue

/-- A byte of the value is neither visible ASCII nor a space or tab. -/
def Refused (v : FieldValue) : Prop := ∃ b ∈ v.bytes, isTextByte b = false

theorem text_failsUnless (v : FieldValue) : FailsUnless (¬ v.Refused) Fault.fieldText.error v.text := by
  rw [text]
  split
  · next hall =>
    refine .ok ?_ _
    rintro ⟨b, hb, hf⟩
    rw [List.all_eq_true.1 hall b hb] at hf
    cases hf
  · next hall =>
    refine .error (not_not_intro ?_)
    simpa [Refused] using hall

end Http.FieldValue

namespace Canonical
open Http Http.Headers Encoding
variable {fs : List (String × FieldValue)} {h : Headers} {method uri : String}
  {queries : List (String × Option String)}

/-! ### When there is a text -/

/-- A service header has a value that is no text, or the first value of a name that has a line is none. -/
def Refused (fs : List (String × FieldValue)) : Prop :=
  (∃ f ∈ fs, isServiceHeader f.1 = true ∧ f.2.Refused) ∨
    ∃ name ∈ lineNames, ∃ v ∈ (valuesIn fs name).head?, v.Refused

theorem firstValue_failsUnless (h : Headers) (name : String) :
    FailsUnless (∀ v ∈ (h.values name).head?, ¬ v.Refused) Fault.fieldText.error (firstValue h name) := by
  rw [firstValue]
  cases h.values name with
  | nil => exact .ok (fun v hv => absurd hv (Option.not_mem_none v)) _
  | cons v vs => exact v.text_failsUnless.congr (by simp)

theorem joinedValues_failsUnless (vs : List FieldValue) :
    FailsUnless (∀ v ∈ vs, ¬ v.Refused) Fault.fieldText.error (joinedValues vs) :=
  (FailsUnless.mapM fun v _ => v.text_failsUnless).map _

theorem line_failsUnless (e : String × List FieldValue) :
    FailsUnless (∀ v ∈ e.2, ¬ v.Refused) Fault.fieldText.error ((joinedValues e.2).map (e.1, ·)) :=
  (joinedValues_failsUnless e.2).map _

theorem serviceLines_failsUnless (fs : List (String × FieldValue)) :
    FailsUnless (∀ f ∈ fs, isServiceHeader f.1 = true → ¬ f.2.Refused) Fault.fieldText.error
      (serviceLines (ofFields fs)) := by
  refine (FailsUnless.mapM fun e _ => line_failsUnless e).congr ?_
  constructor
  · intro hall f hf hn
    have hne : valuesIn fs f.1 ≠ [] := List.ne_nil_of_mem (mem_valuesIn.2 hf)
    exact hall _ (List.mem_filter.2 ⟨mem_entries_ofFields.2 ⟨hne, rfl⟩, hn⟩) _ (mem_valuesIn.2 hf)
  · intro hall e he v hv
    obtain ⟨hentry, hn⟩ := List.mem_filter.1 he
    obtain ⟨-, hvs⟩ := mem_entries_ofFields.1 hentry
    exact hall (e.1, v) (mem_valuesIn.1 (hvs ▸ hv)) hn

/-- There is a text unless one of the values that it covers is none. -/
theorem roaText_failsUnless (method : String) (fs : List (String × FieldValue)) (uri : String)
    (queries : List (String × Option String)) :
    FailsUnless (¬ Refused fs) Fault.fieldText.error (roaText method (ofFields fs) uri queries) := by
  have hheaders := (serviceLines_failsUnless fs).map fun lines => String.join (lines.map lineText)
  rw [← roaHeaders_eq] at hheaders
  have hfirst := firstValue_failsUnless (ofFields fs)
  refine FailsUnless.congr ((hfirst "accept").bind fun _ => (hfirst "content-md5").bind fun _ =>
    (hfirst "content-type").bind fun _ => (hfirst "date").bind fun _ => hheaders.bind fun _ => .ok trivial _) ?_
  simp only [values_ofFields, Refused, lineNames, not_or, not_exists, not_and, List.forall_mem_cons]
  constructor
  · rintro ⟨haccept, hmd5, htype, hdate, hservice, -⟩
    exact ⟨hservice, haccept, hmd5, htype, hdate, fun _ hname => absurd hname List.not_mem_nil⟩
  · rintro ⟨hservice, haccept, hmd5, htype, hdate, -⟩
    exact ⟨haccept, hmd5, htype, hdate, hservice, trivial⟩

/-! ### The lines of the service headers -/

/-- The service lines of some entries, in the order in which these come. -/
def linesOf (es : List (String × List FieldValue)) : Except Error (List (String × String)) :=
  (es.filter fun e => isServiceHeader e.1).mapM fun e => (joinedValues e.2).map (e.1, ·)

/-- The same lines in the order of their names. -/
def sortedLines (es : List (String × List FieldValue)) : Except Error (List (String × String)) :=
  (linesOf es).map fun lines => (Table.ofList lines).entries

theorem serviceLines_ascending {lines : List (String × String)} (hl : serviceLines h = .ok lines) :
    lines.Pairwise (·.1 < ·.1) := by
  have hnames : lines.map (·.1) = (h.entries.filter fun e => isServiceHeader e.1).map (·.1) := by
    refine map_of_mapM_eq_ok (fun e line hline => ?_) hl
    obtain ⟨value, -, rfl⟩ := map_eq_ok hline
    rfl
  have hasc := List.pairwise_map.2 (h.ascending.filter fun e => isServiceHeader e.1)
  rw [← hnames] at hasc
  exact List.pairwise_map.1 hasc

/-- The order in which the entries come shows neither in the lines nor in what goes wrong with them. -/
theorem sortedLines_perm {es : List (String × List FieldValue)} (hp : es.Perm h.entries) :
    sortedLines es = serviceLines h := by
  have hsame : Paired List.Perm (linesOf es) (serviceLines h) :=
    Paired.mapM_perm (fun e e' he => ((line_failsUnless e).error_iff.1 he).1) (hp.filter fun e => isServiceHeader e.1)
  rw [sortedLines]
  generalize linesOf es = tried at hsame ⊢
  cases hl : serviceLines h with
  | error e =>
    rw [hl] at hsame
    cases hsame
    rfl
  | ok lines =>
    rw [hl] at hsame
    cases hsame with
    | @ok lines' _ hlines =>
      let ordered : Table String := ⟨lines, serviceLines_ascending hl⟩
      have hof : Table.ofList lines' = ordered :=
        (Table.ofList_perm hlines (List.pairwise_map.2 ordered.keys_ne)).trans ordered.ofList_entries
      exact congrArg (fun t : Table String => Except.ok t.entries) hof

/-! ### The resource -/

def pairText : String × Option String → String
  | (k, some v) => k ++ "=" ++ v
  | (k, none) => k

/-- A path with its parameters. -/
def resourceText (path : String) (params : List (String × Option String)) : String :=
  if params.isEmpty then path else path ++ "?" ++ "&".intercalate (params.map pairText)

theorem roaResource_eq (uri : String) (queries : List (String × Option String)) : roaResource uri queries =
    resourceText (String.ofList (splitFirst '?' uri.toList).1) (roaParams uri queries).entries := by
  refine congrArg (fun texts => if (roaParams uri queries).isEmpty then String.ofList (splitFirst '?' uri.toList).1
    else String.ofList (splitFirst '?' uri.toList).1 ++ "?" ++ "&".intercalate texts) ?_
  refine List.map_congr_left fun p _ => ?_
  obtain ⟨k, _ | v⟩ := p
  · rfl
  · rfl

/-- What the path has behind its mark comes on top of the pairs of the query, of which the last of a key counts. -/
theorem mem_roaParams {k : String} {v : Option String} : (k, v) ∈ (roaParams uri queries).entries ↔
    if (splitFirst '?' uri.toList).2 = some k.toList then v = none else queries.reverse.lookup k = some v := by
  rw [← Table.get?_eq_some_iff, roaParams, splitFirst]
  cases uri.toList.dropWhile (· ≠ '?') with
  | nil => simp [Table.get?_ofList]
  | cons c fragment =>
    by_cases hk : k = String.ofList fragment
    · subst hk
      simp [Table.get?_insert_self, eq_comm]
    · have hne : ¬ fragment = k.toList := fun he => hk (by rw [he, String.ofList_toList])
      simp [Table.get?_insert_of_ne _ hk, Table.get?_ofList, hne]

theorem roaResource_perm {queries' : List (String × Option String)} (hp : queries'.Perm queries)
    (hn : (queries.map (·.1)).Nodup) (uri : String) : roaResource uri queries' = roaResource uri queries := by
  rw [roaResource_eq, roaResource_eq, roaParams, roaParams, Table.ofList_perm hp hn]

/-! ### The layout -/

/-- The parts of a text to sign: the values of four lines, the lines of the service headers, and the resource. -/
structure Layout where
  values : List String
  lines : List (String × String)
  path : String
  params : List (String × Option String)

/-- The text that the parts make. -/
def Layout.text (method : String) (l : Layout) : String :=
  Text.asciiUppercase method ++ "\n" ++ String.join (l.values.map (· ++ "\n")) ++
    String.join (l.lines.map lineText) ++ resourceText l.path l.params

/-- The parts are those of some fields, a path and a query: each service name is on one line, with its values in the
order of the fields, and both lines and parameters ascend. -/
structure Layout.Fits (l : Layout) (fs : List (String × FieldValue)) (uri : String)
    (queries : List (String × Option String)) : Prop where
  values : lineNames.mapM (firstValue (ofFields fs)) = .ok l.values
  lines_ascend : l.lines.Pairwise (·.1 < ·.1)
  once : ∀ name, isServiceHeader name = true → valuesIn fs name ≠ [] → (l.lines.map (·.1)).count name = 1
  line : ∀ e ∈ l.lines, isServiceHeader e.1 = true ∧ valuesIn fs e.1 ≠ [] ∧
    ∃ texts, (valuesIn fs e.1).mapM FieldValue.text = .ok texts ∧ e.2 = ",".intercalate texts
  path : (splitFirst '?' uri.toList).1 = l.path.toList
  params_ascend : l.params.Pairwise (·.1 < ·.1)
  params : ∀ k v, (k, v) ∈ l.params ↔
    if (splitFirst '?' uri.toList).2 = some k.toList then v = none else queries.reverse.lookup k = some v

theorem exists_layout {text : String} (ht : roaText method (ofFields fs) uri queries = .ok text) :
    ∃ l : Layout, l.Fits fs uri queries ∧ text = l.text method := by
  obtain ⟨accept, md5, type, date, headers, ha, hm, hc, hd, hh, rfl⟩ := roaText_eq_ok.1 ht
  rw [roaHeaders_eq] at hh
  obtain ⟨lines, hl, rfl⟩ := map_eq_ok hh
  have hasc := serviceLines_ascending hl
  refine ⟨⟨[accept, md5, type, date], lines, String.ofList (splitFirst '?' uri.toList).1,
    (roaParams uri queries).entries⟩, ⟨?_, hasc, ?_, ?_, ?_, ?_, fun k v => mem_roaParams⟩, ?_⟩
  · rw [lineNames]
    simp only [List.mapM_cons, ha, hm, hc, hd]
    rfl
  · intro name hn hne
    obtain ⟨value, hmem⟩ := exists_serviceLine hl hn (contains_ofFields.2 hne)
    have hnodup : (lines.map (·.1)).Nodup := List.pairwise_map.2 (Table.keys_ne ⟨lines, hasc⟩)
    exact List.count_eq_one_of_mem hnodup (List.mem_map_of_mem hmem)
  · rintro ⟨name, value⟩ he
    obtain ⟨hn, hc, hv⟩ := of_mem_serviceLines hl he
    rw [values_ofFields] at hv
    obtain ⟨texts, htexts, rfl⟩ := map_eq_ok hv
    exact ⟨hn, contains_ofFields.1 hc, texts, htexts, rfl⟩
  · exact String.toList_ofList.symm
  · exact (roaParams uri queries).ascending
  · rw [Layout.text, roaResource_eq]
    simp [String.join, String.append_assoc]

/-- Reordering fields without reordering the values of a name, and pairs that have different keys, makes no
difference to the text or to its absence, and neither does the order in which the names come out of the headers.
The text is laid out by names, and it is absent exactly if a value that it covers is refused. -/
theorem roaText_ignores_order (method uri : String) (fs : List (String × FieldValue))
    (queries : List (String × Option String)) :
    (∀ fs' queries', (∀ name, valuesIn fs' name = valuesIn fs name) → queries'.Perm queries →
      (queries.map (·.1)).Nodup →
        roaText method (ofFields fs') uri queries' = roaText method (ofFields fs) uri queries) ∧
    (∀ es, es.Perm (ofFields fs).entries →
      roaHeaders (ofFields fs) = (sortedLines es).map fun lines => String.join (lines.map lineText)) ∧
    (∀ text, roaText method (ofFields fs) uri queries = .ok text →
      ∃ l : Layout, l.Fits fs uri queries ∧ text = l.text method) ∧
    ∀ e, roaText method (ofFields fs) uri queries = .error e ↔ e = Fault.fieldText.error ∧ Refused fs := by
  refine ⟨?_, fun es hp => ?_, fun text => exists_layout, fun e => ?_⟩
  · intro fs' queries' hfs hq hn
    simp only [roaText, ofFields_congr hfs, roaResource_perm hq hn]
  · rw [sortedLines_perm hp, roaHeaders_eq]
  · rw [(roaText_failsUnless method fs uri queries).error_iff, Classical.not_not]

/-- A repeated name stays in order while its values move past another name, and the key of the path hides the
value that the query has for it. -/
theorem roaText_ignores_order_repeated :
    let one : FieldValue := ⟨[49], false⟩
    let two : FieldValue := ⟨[50], true⟩
    roaText "get" (ofFields [("x-acs-b", two), ("via", one), ("x-acs-a", one), ("x-acs-b", one)]) "/p?k"
      [("k", some "v"), ("a", none)] = .ok "GET\n\n\n\n\nx-acs-a:1\nx-acs-b:2,1\n/p?a&k" ∧
    roaText "get" (ofFields [("x-acs-a", one), ("x-acs-b", two), ("x-acs-b", one), ("via", one)]) "/p?k"
      [("a", none), ("k", some "v")] = .ok "GET\n\n\n\n\nx-acs-a:1\nx-acs-b:2,1\n/p?a&k" := by
  intro one two
  have ht : roaText "get" (ofFields [("x-acs-b", two), ("via", one), ("x-acs-a", one), ("x-acs-b", one)]) "/p?k"
      [("k", some "v"), ("a", none)] = .ok "GET\n\n\n\n\nx-acs-a:1\nx-acs-b:2,1\n/p?a&k" :=
    eq_ok_of_toOption (by decide +kernel)
  refine ⟨ht, ((roaText_ignores_order _ _ _ _).1 _ _ (fun name => ?_) (.swap _ _ _) (by decide)).trans ht⟩
  by_cases ha : "x-acs-a" = name
  · subst ha
    rfl
  · rw [valuesIn_cons_of_ne ha]
    by_cases hb : "x-acs-b" = name
    · subst hb
      rfl
    · simp [valuesIn, List.filter_cons, ha, hb]

end Canonical

end Callsign
