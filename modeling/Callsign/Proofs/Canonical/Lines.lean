import Callsign.Proofs.Canonical.Roa
import Callsign.Proofs.Encoding.Split
import Callsign.Proofs.Http.Token
import Callsign.Proofs.Table

/-!
# The text of an ROA signature tells its parts apart

`roaText_unambiguous`: two texts to sign are the same only if the methods, the four values, the service headers
and the resources are. The text has no frame around its parts, so this rests on the marks that a part cannot hold.
A method and a value have no line break; a name has no colon either; and as a name has no slash, but the resource
begins with one, the first character of a line says whether it is a header or already the resource
(`headerLines_inj`). What the resource holds does not matter: nothing comes behind it.
-/

namespace Callsign.Canonical
open Http Encoding
variable {h : Headers} {name value text : String} {lines : List (String × String)}

/-! ### Header lines -/

/-- The values of a header as one text. -/
def joinedValues (vs : List FieldValue) : Except Error String :=
  (vs.mapM FieldValue.text).map (",".intercalate ·)

def serviceLines (h : Headers) : Except Error (List (String × String)) :=
  (h.entries.filter fun e => isServiceHeader e.1).mapM fun e => (joinedValues e.2).map (e.1, ·)

def lineText (e : String × String) : String := e.1 ++ ":" ++ e.2 ++ "\n"

theorem roaHeaders_eq (h : Headers) :
    roaHeaders h = (serviceLines h).map fun lines => String.join (lines.map lineText) := by
  have hline : ∀ e : String × List FieldValue, (do
      let texts ← e.2.mapM FieldValue.text
      return e.1 ++ ":" ++ ",".intercalate texts ++ "\n" : Except Error String) =
      ((joinedValues e.2).map (e.1, ·)).map lineText := by
    intro e
    rw [joinedValues]
    cases e.2.mapM FieldValue.text <;> rfl
  rw [roaHeaders]
  simp only [hline, mapM_map, serviceLines]
  cases (h.entries.filter fun e => isServiceHeader e.1).mapM fun e => (joinedValues e.2).map (e.1, ·) <;> rfl

theorem exists_serviceLine (hl : serviceLines h = .ok lines) (hn : isServiceHeader name = true)
    (hc : h.contains name = true) : ∃ value, (name, value) ∈ lines := by
  obtain ⟨vs, hvs⟩ := Option.isSome_iff_exists.1 hc
  have hm : (name, vs) ∈ h.entries.filter fun e => isServiceHeader e.1 :=
    List.mem_filter.2 ⟨Table.get?_eq_some_iff.1 hvs, hn⟩
  obtain ⟨line, hline, he⟩ := (mapM_eq_ok hl).1 _ hm
  obtain ⟨value, -, rfl⟩ := map_eq_ok he
  exact ⟨value, hline⟩

theorem of_mem_serviceLines (hl : serviceLines h = .ok lines) (hm : (name, value) ∈ lines) :
    isServiceHeader name = true ∧ h.contains name = true ∧ joinedValues (h.values name) = .ok value := by
  obtain ⟨⟨name', vs⟩, he, hline⟩ := (mapM_eq_ok hl).2 _ hm
  obtain ⟨value', hv, heq⟩ := map_eq_ok hline
  obtain ⟨rfl, rfl⟩ := Prod.mk.inj heq
  obtain ⟨hentry, hn⟩ := List.mem_filter.1 he
  have hget : h.get? name' = some vs := Table.get?_eq_some_iff.2 hentry
  exact ⟨hn, by rw [Table.contains, hget]; rfl, by rw [Headers.values, hget]; exact hv⟩

/-- Headers with the same lines have the same service headers, with the same values. -/
theorem serviceHeader_congr {h' : Headers} (hl : serviceLines h = .ok lines) (hl' : serviceLines h' = .ok lines)
    (hn : isServiceHeader name = true) : h.contains name = h'.contains name ∧
      ∃ value, joinedValues (h.values name) = .ok value ∧ joinedValues (h'.values name) = .ok value := by
  by_cases hm : ∃ value, (name, value) ∈ lines
  · obtain ⟨value, hm⟩ := hm
    obtain ⟨-, hc, hv⟩ := of_mem_serviceLines hl hm
    obtain ⟨-, hc', hv'⟩ := of_mem_serviceLines hl' hm
    exact ⟨hc.trans hc'.symm, value, hv, hv'⟩
  · have absent : ∀ {g : Headers}, serviceLines g = .ok lines → g.get? name = none := by
      intro g hg
      cases hget : g.get? name with
      | none => rfl
      | some vs => exact absurd (exists_serviceLine hg hn (by rw [Table.contains, hget]; rfl)) hm
    rw [Table.contains, Table.contains, Headers.values, Headers.values, absent hl, absent hl']
    exact ⟨rfl, "", rfl, rfl⟩

/-! ### What parts cannot hold -/

theorem not_mem_joinedValues {vs : List FieldValue} (hv : joinedValues vs = .ok value) : '\n' ∉ value.toList := by
  obtain ⟨texts, ht, rfl⟩ := map_eq_ok hv
  rw [String.toList_intercalate]
  refine not_mem_intercalate (by decide) fun p hp => ?_
  obtain ⟨t, hmem, rfl⟩ := List.mem_map.1 hp
  obtain ⟨v, -, he⟩ := (mapM_eq_ok ht).2 t hmem
  exact FieldValue.not_mem_of_text (a := 10) he rfl

theorem not_mem_firstValue (hv : firstValue h name = .ok value) : '\n' ∉ value.toList := by
  rw [firstValue] at hv
  split at hv
  · exact FieldValue.not_mem_of_text (a := 10) hv rfl
  · obtain rfl := Except.ok.inj hv
    exact List.not_mem_nil

theorem eq_newline_of_toUpper {c : Char} (h : c.toUpper = '\n') : c = '\n' := by
  by_cases hr : c.val ≥ 'a'.val ∧ c.val ≤ 'z'.val
  · have hc : c.toUpper = ⟨c.val + ('A'.val - 'a'.val), _⟩ := dif_pos hr
    have hl : 97 ≤ c.val.toNat := UInt32.le_iff_toNat_le.1 hr.1
    have hu : c.val.toNat ≤ 122 := UInt32.le_iff_toNat_le.1 hr.2
    have hv : (c.val + ('A'.val - 'a'.val)).toNat = 10 := congrArg (fun d => d.val.toNat) (hc.symm.trans h)
    rw [UInt32.toNat_add, show ('A'.val - 'a'.val).toNat = 4294967264 from rfl] at hv
    omega
  · have hc : c.toUpper = c := dif_neg hr
    rwa [hc] at h

theorem not_mem_asciiUppercase {s : String} (h : '\n' ∉ s.toList) : '\n' ∉ (Text.asciiUppercase s).toList := by
  rw [Text.asciiUppercase, String.toList_map]
  intro hm
  obtain ⟨c, hc, he⟩ := List.mem_map.1 hm
  obtain rfl := eq_newline_of_toUpper he
  exact h hc

/-- What the text of a header line is made of. -/
structure IsLine (e : String × String) : Prop where
  nonempty : e.1.toList ≠ []
  colon : ':' ∉ e.1.toList
  slash : '/' ∉ e.1.toList
  newline : '\n' ∉ e.2.toList

theorem isLine_of_mem (hnames : ∀ e ∈ h.entries, ∃ bs, headerName bs = .ok e.1) (hl : serviceLines h = .ok lines)
    {e : String × String} (he : e ∈ lines) : IsLine e := by
  obtain ⟨name, value⟩ := e
  obtain ⟨hn, hc, hv⟩ := of_mem_serviceLines hl he
  obtain ⟨vs, hvs⟩ := Option.isSome_iff_exists.1 hc
  obtain ⟨bs, hbs⟩ := hnames _ (Table.get?_eq_some_iff.1 hvs)
  replace hbs : headerName bs = .ok name := hbs
  refine ⟨fun hnil => ?_, not_mem_of_headerName (a := 58) hbs rfl (by decide),
    not_mem_of_headerName (a := 47) hbs rfl (by decide), not_mem_joinedValues hv⟩
  replace hnil : name.toList = [] := hnil
  rw [isServiceHeader, hnil] at hn
  cases hn

/-! ### Taking the text apart -/

theorem line_inj {a b r s : String} (ha : '\n' ∉ a.toList) (hb : '\n' ∉ b.toList)
    (h : a ++ ("\n" ++ r) = b ++ ("\n" ++ s)) : a = b ∧ r = s := by
  have hl := congrArg String.toList h
  simp only [String.toList_append] at hl
  obtain ⟨hab, hrs⟩ := append_mark_inj ha hb hl
  exact ⟨String.toList_inj.1 hab, String.toList_inj.1 hrs⟩

theorem toList_lineText (e : String × String) : (lineText e).toList = e.1.toList ++ ':' :: (e.2.toList ++ ['\n']) := by
  simp [lineText]

theorem IsLine.ne_slash {e : String × String} (he : IsLine e) (r s : List Char) :
    (lineText e).toList ++ r ≠ '/' :: s := by
  intro h
  obtain ⟨c, cs, hc⟩ := List.exists_cons_of_ne_nil he.nonempty
  rw [toList_lineText, hc] at h
  obtain rfl := (List.cons.inj h).1
  exact he.slash (hc ▸ List.mem_cons_self)

/-- Header lines end where a slash begins the resource. -/
theorem headerLines_inj {es es' : List (String × String)} {r s : List Char} (he : ∀ e ∈ es, IsLine e)
    (he' : ∀ e ∈ es', IsLine e) (h : (es.map fun e => (lineText e).toList).flatten ++ '/' :: r =
      (es'.map fun e => (lineText e).toList).flatten ++ '/' :: s) : es = es' ∧ r = s := by
  -- Both texts lose their first line, which the colon behind its name and the break behind its value delimit.
  induction es generalizing es' with
  | nil =>
    cases es' with
    | nil => exact ⟨rfl, (List.cons.inj h).2⟩
    | cons e' es' =>
      rw [List.map_cons, List.flatten_cons, List.append_assoc] at h
      exact absurd h.symm ((List.forall_mem_cons.1 he').1.ne_slash _ _)
  | cons e es ih =>
    obtain ⟨hline, hrest⟩ := List.forall_mem_cons.1 he
    cases es' with
    | nil =>
      rw [List.map_cons, List.flatten_cons, List.append_assoc] at h
      exact absurd h (hline.ne_slash _ _)
    | cons e' es' =>
      obtain ⟨hline', hrest'⟩ := List.forall_mem_cons.1 he'
      simp only [List.map_cons, List.flatten_cons, toList_lineText, List.append_assoc, List.cons_append,
        List.nil_append] at h
      obtain ⟨hname, h⟩ := append_mark_inj hline.colon hline'.colon h
      obtain ⟨hvalue, h⟩ := append_mark_inj hline.newline hline'.newline h
      obtain ⟨rfl, rfl⟩ := ih hrest hrest' (by simpa only [toList_lineText] using h)
      exact ⟨by rw [Prod.ext (String.toList_inj.1 hname) (String.toList_inj.1 hvalue)], rfl⟩

theorem toList_roaResource {uri : String} {p : List Char} (hp : uri.toList = '/' :: p)
    (queries : List (String × Option String)) : ∃ r, (roaResource uri queries).toList = '/' :: r := by
  have hpath : uri.toList.takeWhile (· ≠ '?') = '/' :: p.takeWhile (· ≠ '?') := by
    rw [hp, List.takeWhile_cons_of_pos (by decide)]
  rw [roaResource, hpath]
  dsimp only
  split
  · exact ⟨_, String.toList_ofList⟩
  · simp only [String.toList_append, String.toList_ofList]
    exact ⟨_, rfl⟩

theorem headers_inj {es es' : List (String × String)} {a b : String} {r s : List Char} (he : ∀ e ∈ es, IsLine e)
    (he' : ∀ e ∈ es', IsLine e) (ha : a.toList = '/' :: r) (hb : b.toList = '/' :: s)
    (h : String.join (es.map lineText) ++ a = String.join (es'.map lineText) ++ b) : es = es' ∧ a = b := by
  have hl := congrArg String.toList h
  rw [String.toList_append, String.toList_append, String.toList_join, String.toList_join, ha, hb] at hl
  simp only [List.flatMap_map] at hl
  obtain ⟨rfl, rfl⟩ := headerLines_inj he he' hl
  exact ⟨rfl, String.toList_inj.1 (ha.trans hb.symm)⟩

/-- A method, header names and a path as they come in: tokens, and a text that begins with a slash. -/
structure IsInput (method : String) (h : Headers) (uri : String) : Prop where
  method : ∃ bs, Http.method bs = .ok method
  names : ∀ e ∈ h.entries, ∃ bs, headerName bs = .ok e.1
  path : ∃ p, uri.toList = '/' :: p

/-- Two texts to sign are the same only if all that they cover is. -/
theorem roaText_unambiguous {method method' uri uri' text : String} {h h' : Headers}
    {queries queries' : List (String × Option String)} (hi : IsInput method h uri) (hi' : IsInput method' h' uri')
    (ht : roaText method h uri queries = .ok text) (ht' : roaText method' h' uri' queries' = .ok text) :
    Text.asciiUppercase method = Text.asciiUppercase method' ∧
    (∀ line ∈ lineNames, ∃ value, firstValue h line = .ok value ∧ firstValue h' line = .ok value) ∧
    (∀ name, isServiceHeader name = true → h.contains name = h'.contains name ∧
      ∃ value, joinedValues (h.values name) = .ok value ∧ joinedValues (h'.values name) = .ok value) ∧
    roaResource uri queries = roaResource uri' queries' := by
  obtain ⟨accept, md5, type, date, headers, ha, hm, hc, hd, hh, rfl⟩ := roaText_eq_ok.1 ht
  obtain ⟨accept', md5', type', date', headers', ha', hm', hc', hd', hh', heq⟩ := roaText_eq_ok.1 ht'
  rw [roaHeaders_eq] at hh hh'
  obtain ⟨lines, hl, rfl⟩ := map_eq_ok hh
  obtain ⟨lines', hl', rfl⟩ := map_eq_ok hh'
  obtain ⟨bs, hbs⟩ := hi.method
  obtain ⟨bs', hbs'⟩ := hi'.method
  obtain ⟨p, hp⟩ := hi.path
  obtain ⟨p', hp'⟩ := hi'.path
  obtain ⟨r, hr⟩ := toList_roaResource hp queries
  obtain ⟨r', hr'⟩ := toList_roaResource hp' queries'
  -- Five lines are cut off at their breaks; what is left are the headers and the resource.
  simp only [String.append_assoc] at heq
  obtain ⟨hmethod, heq⟩ := line_inj (not_mem_asciiUppercase (not_mem_of_method (a := 10) hbs rfl))
    (not_mem_asciiUppercase (not_mem_of_method (a := 10) hbs' rfl)) heq
  obtain ⟨haccept, heq⟩ := line_inj (not_mem_firstValue ha) (not_mem_firstValue ha') heq
  obtain ⟨hmd5, heq⟩ := line_inj (not_mem_firstValue hm) (not_mem_firstValue hm') heq
  obtain ⟨htype, heq⟩ := line_inj (not_mem_firstValue hc) (not_mem_firstValue hc') heq
  obtain ⟨hdate, heq⟩ := line_inj (not_mem_firstValue hd) (not_mem_firstValue hd') heq
  obtain ⟨rfl, hresource⟩ := headers_inj (fun _ => isLine_of_mem hi.names hl) (fun _ => isLine_of_mem hi'.names hl')
    hr hr' heq
  subst haccept hmd5 htype hdate
  refine ⟨hmethod, ?_, fun name hn => serviceHeader_congr hl hl' hn, hresource⟩
  rw [lineNames]
  simp only [List.forall_mem_cons]
  exact ⟨⟨_, ha, ha'⟩, ⟨_, hm, hm'⟩, ⟨_, hc, hc'⟩, ⟨_, hd, hd'⟩, nofun⟩

def twoValues : Headers :=
  (Table.empty.insert "x-acs-a" [⟨[49], false⟩, ⟨[50], false⟩]).insert "via" [⟨[255], false⟩]

def oneValue : Headers := (Table.empty.insert "x-acs-a" [⟨[49, 44, 50], false⟩]).insert "accept" [⟨[], false⟩]

theorem roaText_unambiguous_joined : ∃ text value, roaText "get" twoValues "/a?b" [] = .ok text ∧
    roaText "GET" oneValue "/a" [("b", none)] = .ok text ∧ joinedValues (twoValues.values "x-acs-a") = .ok value ∧
    joinedValues (oneValue.values "x-acs-a") = .ok value ∧ roaResource "/a?b" [] = roaResource "/a" [("b", none)] := by
  have hnames : ∀ name ∈ ["accept", "via", "x-acs-a"], ∃ bs, headerName bs = .ok name := by
    simp only [List.forall_mem_cons]
    exact ⟨⟨Text.utf8 "accept", by rfl⟩, ⟨Text.utf8 "via", by rfl⟩, ⟨Text.utf8 "x-acs-a", by rfl⟩, nofun⟩
  have hvalid : ∀ e ∈ twoValues.entries ++ oneValue.entries, e.1 ∈ ["accept", "via", "x-acs-a"] := by decide +kernel
  have ht : roaText "get" twoValues "/a?b" [] = .ok "GET\n\n\n\n\nx-acs-a:1,2\n/a?b" :=
    eq_ok_of_toOption (by decide +kernel)
  have ht' : roaText "GET" oneValue "/a" [("b", none)] = .ok "GET\n\n\n\n\nx-acs-a:1,2\n/a?b" :=
    eq_ok_of_toOption (by decide +kernel)
  obtain ⟨-, -, hservice, hresource⟩ := roaText_unambiguous
    ⟨⟨Text.utf8 "get", by rfl⟩, fun e he => hnames _ (hvalid e (List.mem_append_left _ he)), "a?b".toList, by rfl⟩
    ⟨⟨Text.utf8 "GET", by rfl⟩, fun e he => hnames _ (hvalid e (List.mem_append_right _ he)), "a".toList, by rfl⟩
    ht ht'
  obtain ⟨-, value, hv, hv'⟩ := hservice "x-acs-a" (by decide)
  exact ⟨_, value, ht, ht', hv, hv', hresource⟩

end Callsign.Canonical
