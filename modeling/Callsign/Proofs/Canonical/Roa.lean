import Callsign.Canonical.Roa
import Callsign.Proofs.Error

/-!
# Which headers the text covers

`roaText_eq_ok` takes the text apart into its lines. It reads the first values of four names and all values of
the service headers, so a header with any other name can be set without a change (`roaText_set_of_unread`),
and setting the content type changes the one line that it has (`roaText_set_contentType_iff`).
-/

namespace Callsign

theorem Table.filter_put {α : Type} {p : String → Bool} {k : String} (hk : p k = false) (v : α)
    (es : List (String × α)) : (Table.put k v es).filter (fun e => p e.1) = es.filter (fun e => p e.1) := by
  induction es with
  | nil => simp [Table.put, hk]
  | cons e es ih =>
    obtain ⟨k', v'⟩ := e
    rw [Table.put]
    split
    · simp [hk]
    · split
      · next he =>
        subst he
        simp [hk]
      · rw [List.filter_cons, List.filter_cons, ih]

namespace Http.Headers
variable {h : Headers} {name other : String} {v : FieldValue}

theorem values_set_self (h : Headers) (name : String) (v : FieldValue) : (h.set name v).values name = [v] := by
  rw [values, set, Table.get?_insert_self]
  rfl

theorem values_set_of_ne (hn : name ≠ other) (v : FieldValue) : (h.set other v).values name = h.values name := by
  rw [values, values, set, Table.get?_insert_of_ne _ hn]

end Http.Headers

namespace Canonical
open Http
variable {h : Headers} {name method uri text : String} {v : FieldValue} {queries : List (String × Option String)}

theorem firstValue_congr {h' : Headers} (hv : h'.values name = h.values name) :
    firstValue h' name = firstValue h name := by
  rw [firstValue, firstValue, hv]

theorem firstValue_set_self (h : Headers) (name : String) (v : FieldValue) :
    firstValue (h.set name v) name = v.text := by
  rw [firstValue, Headers.values_set_self]

theorem roaHeaders_set (hn : isServiceHeader name = false) (v : FieldValue) :
    roaHeaders (h.set name v) = roaHeaders h := by
  have hf := Table.filter_put (p := isServiceHeader) hn [v] h.entries
  rw [roaHeaders, roaHeaders]
  exact congrArg (fun es => List.mapM _ es >>= _) hf

/-- The text is there if each of its lines is, and is what they make together. -/
theorem roaText_eq_ok : roaText method h uri queries = .ok text ↔ ∃ accept md5 type date headers,
    firstValue h "accept" = .ok accept ∧ firstValue h "content-md5" = .ok md5 ∧
    firstValue h "content-type" = .ok type ∧ firstValue h "date" = .ok date ∧ roaHeaders h = .ok headers ∧
    text = Text.asciiUppercase method ++ "\n" ++ accept ++ "\n" ++ md5 ++ "\n" ++ type ++ "\n" ++ date ++ "\n" ++
      headers ++ roaResource uri queries := by
  constructor
  · intro ht
    obtain ⟨accept, ha, ht⟩ := bind_eq_ok ht
    obtain ⟨md5, hm, ht⟩ := bind_eq_ok ht
    obtain ⟨type, hc, ht⟩ := bind_eq_ok ht
    obtain ⟨date, hd, ht⟩ := bind_eq_ok ht
    obtain ⟨headers, hh, ht⟩ := bind_eq_ok ht
    exact ⟨accept, md5, type, date, headers, ha, hm, hc, hd, hh, (Except.ok.inj ht).symm⟩
  · rintro ⟨accept, md5, type, date, headers, ha, hm, hc, hd, hh, rfl⟩
    rw [roaText, ha, hm, hc, hd, hh]
    rfl

/-- The names that the text covers apart from the service headers. -/
def lineNames : List String := ["accept", "content-md5", "content-type", "date"]

theorem roaText_set_of_unread (hn : isServiceHeader name = false) (hl : name ∉ lineNames) (v : FieldValue) :
    roaText method (h.set name v) uri queries = roaText method h uri queries := by
  have hfirst : ∀ line ∈ lineNames, firstValue (h.set name v) line = firstValue h line := by
    intro line hm
    refine firstValue_congr (Headers.values_set_of_ne ?_ v)
    rintro rfl
    exact hl hm
  rw [roaText, roaText, roaHeaders_set hn, hfirst "accept" (by decide), hfirst "content-md5" (by decide),
    hfirst "content-type" (by decide), hfirst "date" (by decide)]

/-- With another content type the text is the same only if that has the same text. -/
theorem roaText_set_contentType_iff {type : String} (ht : roaText method h uri queries = .ok text)
    (hv : v.text = .ok type) : roaText method (h.set "content-type" v) uri queries = .ok text ↔
      firstValue h "content-type" = .ok type := by
  obtain ⟨accept, md5, type', date, headers, ha, hm, hc, hd, hh, rfl⟩ := roaText_eq_ok.1 ht
  have hset : ∀ line, line ≠ "content-type" → firstValue (h.set "content-type" v) line = firstValue h line :=
    fun line hne => firstValue_congr (Headers.values_set_of_ne hne v)
  rw [roaText, hset "accept" (by decide), ha, hset "content-md5" (by decide), hm, firstValue_set_self, hv,
    hset "date" (by decide), hd, roaHeaders_set (by decide), hh, hc]
  simp only [bind, Except.bind, pure, Except.pure, Except.ok.injEq, String.append_assoc, String.append_right_inj]
  rw [String.append_left_inj, eq_comm]

end Canonical

end Callsign
