import Callsign.Credential
import Callsign.Proofs.Text.Redacted
import Mathlib.Data.List.Forall2

/-!
# What shows of a credential

`shown_hides_middles`: the shown form of a credential tells of its secrets what each of them lets show, and no
more. What shows of a secret is told by its first four bytes when a comma follows, so all four can be read off the
shown form one after the other (`redact_mark_inj`).
-/

namespace Callsign

namespace Text
variable {s t : Option String} {mark : String} {r r' : List UInt8}

theorem utf8_append (s t : String) : utf8 (s ++ t) = utf8 s ++ utf8 t := by
  rw [utf8, String.toList_append, List.flatMap_append, utf8, utf8]

theorem redact_congr (h : glimpse s = glimpse t) : redact s = redact t := by
  refine Utf8.utf8_injective ?_
  rw [utf8_redact, utf8_redact, h]

theorem redact_mark_inj (h : utf8 (redact s) ++ (utf8 mark ++ r) = utf8 (redact t) ++ (utf8 mark ++ r'))
    (hmark : (utf8 mark).head? = some 44) : glimpse s = glimpse t ∧ r = r' := by
  obtain ⟨m, hm⟩ := List.head?_eq_some_iff.1 hmark
  rw [hm, utf8_redact, utf8_redact] at h
  obtain ⟨hglimpse, hrest⟩ := Glimpse.text_comma_inj h
  exact ⟨hglimpse, List.append_cancel_left hrest⟩

end Text

namespace Credential
open Text
variable {c d : Credential}

/-- What is not to be read off the shown form, in its order. -/
def secrets (c : Credential) : List (Option String) :=
  [some c.keyId, some c.keySecret, c.securityToken, c.bearerToken]

def shownExpiry : Option Time.Instant → String
  | some t => "Some(" ++ Time.shown t ++ ")"
  | none => "None"

theorem shown_eq (c : Credential) : c.shown = "Credential \x7b access_key_id: " ++ redact (some c.keyId) ++
    ", access_key_secret: " ++ redact (some c.keySecret) ++ ", security_token: " ++ redact c.securityToken ++
    ", bearer_token: " ++ redact c.bearerToken ++ ", expires_in: " ++ shownExpiry c.expires ++ " \x7d" := rfl

theorem shown_eq_shown_iff (expires : c.expires = d.expires) :
    c.shown = d.shown ↔ c.secrets.map glimpse = d.secrets.map glimpse := by
  simp only [secrets, List.map_cons, List.map_nil, List.cons.injEq, and_true]
  rw [shown_eq, shown_eq, expires]
  constructor
  · intro h
    have hbytes := congrArg utf8 h
    simp only [utf8_append, List.append_assoc] at hbytes
    obtain ⟨hid, hbytes⟩ := redact_mark_inj (List.append_cancel_left hbytes) (by decide)
    obtain ⟨hsecret, hbytes⟩ := redact_mark_inj hbytes (by decide)
    obtain ⟨htoken, hbytes⟩ := redact_mark_inj hbytes (by decide)
    obtain ⟨hbearer, -⟩ := redact_mark_inj hbytes (by decide)
    exact ⟨hid, hsecret, htoken, hbearer⟩
  · rintro ⟨hid, hsecret, htoken, hbearer⟩
    rw [redact_congr hid, redact_congr hsecret, redact_congr htoken, redact_congr hbearer]

theorem map_glimpse_eq {ss ts : List (Option String)} (h : List.Forall₂ Alike ss ts) :
    ss.map glimpse = ts.map glimpse := by
  induction h with
  | nil => rfl
  | cons h _ ih => rw [List.map_cons, List.map_cons, h.glimpse_eq, ih]

/-- Two credentials that expire at the same time have one shown form if each secret of the one is like that of the
other: both missing or empty, both of 1 to 11 bytes, or both longer with the same three bytes at either end, also
where these begin or end inside a character. They have one shown form exactly if their secrets let show the same. -/
theorem shown_hides_middles (expires : c.expires = d.expires) :
    (List.Forall₂ Alike c.secrets d.secrets → c.shown = d.shown) ∧
      (c.shown = d.shown ↔ c.secrets.map glimpse = d.secrets.map glimpse) :=
  ⟨fun h => (shown_eq_shown_iff expires).2 (map_glimpse_eq h), shown_eq_shown_iff expires⟩

/-- Its key secret begins with two letters and a character of three bytes. -/
def euro : Credential := ⟨"LTAI5tExampleAccessKey", "ab€ and so on", none, some "short", some ⟨0, 0⟩⟩

/-- Its key secret has the same three bytes in front, but they begin another character. -/
def celsius : Credential := ⟨"LTA or any other Key", "ab℃, which goes on", some "", some "s3cret", some ⟨0, 0⟩⟩

theorem shown_hides_middles_cut :
    (euro.expires = celsius.expires ∧ List.Forall₂ Alike euro.secrets celsius.secrets) ∧
      euro.shown = celsius.shown := by
  have halike : List.Forall₂ Alike euro.secrets celsius.secrets :=
    .cons (by decide) (.cons (by decide) (.cons (by decide) (.cons (by decide) .nil)))
  exact ⟨⟨rfl, halike⟩, (shown_hides_middles (c := euro) (d := celsius) rfl).1 halike⟩

end Credential

end Callsign
