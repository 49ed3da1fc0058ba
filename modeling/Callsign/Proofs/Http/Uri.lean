import Callsign.Http.Uri
import Callsign.Proofs.Encoding.Split
import Callsign.Proofs.Error

/-!
# What a URI is read into

`Uri.parse_whole`: a text put together from a scheme, a host and a target that starts with a slash is read
back into that host and that target, if it is read at all. The first slash of such a text is the one behind
the colon of the scheme, so wherever a scheme is found, it ends there (`splitScheme_some`); and with no
scheme found the text has a target behind an authority alone, which is an error.
-/

namespace Callsign.Http.Uri
open Encoding
variable {cs p q r s : List Char} {u : Uri}

/-! ### Schemes -/

theorem toLower_eq_slash {c : Char} (h : c.toLower = '/') : c = '/' := by
  by_cases hr : c.val ≥ 'A'.val ∧ c.val ≤ 'Z'.val
  · have hc : c.toLower.val = c.val + 32 := congrArg Char.val (dif_pos hr)
    have hl : 65 ≤ c.val.toNat := UInt32.le_iff_toNat_le.1 hr.1
    have hu : c.val.toNat ≤ 90 := UInt32.le_iff_toNat_le.1 hr.2
    rw [h] at hc
    have hv : 47 = (c.val + 32).toNat := congrArg UInt32.toNat hc
    rw [UInt32.toNat_add] at hv
    simp only [UInt32.reduceToNat] at hv
    omega
  · have hc : c.toLower = c := dif_neg hr
    rwa [hc] at h

/-- A lead with two slashes at its end is found only where the text has its first slashes. -/
theorem stripLead?_some {x : List Char} (hx : '/' ∉ x) (h : stripLead? (x ++ [':', '/', '/']) cs = some r) :
    ∃ p c, '/' ∉ p ∧ cs = p ++ '/' :: c :: r := by
  rw [stripLead?] at h
  split at h
  · next hm =>
    obtain ⟨y, z, hyz, hy, hz⟩ := List.map_eq_append_iff.1 hm
    obtain ⟨a, z, rfl, ha, hz⟩ := List.map_eq_cons_iff.1 hz
    obtain ⟨b, z, rfl, hb, hz⟩ := List.map_eq_cons_iff.1 hz
    obtain ⟨c, z, rfl, -, hz⟩ := List.map_eq_cons_iff.1 hz
    obtain rfl := List.map_eq_nil_iff.1 hz
    obtain rfl := toLower_eq_slash hb
    obtain rfl := Option.some.inj h
    refine ⟨y ++ [a], c, ?_, ?_⟩
    · intro hmem
      rcases List.mem_append.1 hmem with hmem | hmem
      · exact hx (hy ▸ List.mem_map.2 ⟨'/', hmem, by decide⟩)
      · obtain rfl := List.mem_singleton.1 hmem
        exact absurd ha (by decide)
    · have hcs := List.take_append_drop (x ++ [':', '/', '/']).length cs
      rw [hyz, List.append_assoc] at hcs
      rw [List.append_assoc]
      exact hcs.symm
  · cases h

theorem splitScheme_some (h : splitScheme cs = .ok (some s, r)) : ∃ p c, '/' ∉ p ∧ cs = p ++ '/' :: c :: r := by
  rw [splitScheme] at h
  split at h
  · next hl =>
    obtain rfl := (Prod.mk.inj (Except.ok.inj h)).2
    exact stripLead?_some (x := "http".toList) (by decide) hl
  · next hl =>
    obtain rfl := (Prod.mk.inj (Except.ok.inj h)).2
    exact stripLead?_some (x := "https".toList) (by decide) hl
  · dsimp only at h
    split at h
    · next r' hd =>
      have hp : '/' ∉ cs.takeWhile isSchemeChar ++ [':'] := by
        intro hmem
        rcases List.mem_append.1 hmem with hmem | hmem
        · have hs := List.all_takeWhile (p := isSchemeChar) (l := cs)
          exact absurd (List.all_eq_true.1 hs _ hmem) (by decide)
        · exact absurd (List.mem_singleton.1 hmem) (by decide)
      split at h
      · cases h
      · split at h
        · obtain rfl := (Prod.mk.inj (Except.ok.inj h)).2
          refine ⟨_, '/', hp, ?_⟩
          rw [List.append_assoc, List.singleton_append, ← hd, List.takeWhile_append_dropWhile]
        · cases h
    · cases h

theorem splitScheme_none (h : splitScheme cs = .ok (none, r)) : r = cs := by
  rw [splitScheme] at h
  split at h
  · cases h
  · cases h
  · dsimp only at h
    split at h
    · split at h
      · exact (Prod.mk.inj (Except.ok.inj h)).2.symm
      · split at h <;> cases h
    · exact (Prod.mk.inj (Except.ok.inj h)).2.symm

/-! ### Targets -/

theorem splitTarget_query {x : List Char × Option (List Char)} (hp : ∀ c ∈ p, c ≠ '?' ∧ c ≠ '#') (hq : '#' ∉ q)
    (h : splitTarget (p ++ '?' :: q) = .ok x) : x = (p, some q) := by
  have hp' : ∀ c ∈ p, (c ≠ '?' && c ≠ '#') = true := by
    intro c hc
    simp [hp c hc]
  have hq' : ∀ c ∈ q, decide (c ≠ '#') = true := fun c hc => decide_eq_true fun e => hq (e ▸ hc)
  have ht : (p ++ '?' :: q).takeWhile (fun c => c ≠ '?' && c ≠ '#') = p := by
    rw [List.takeWhile_append_of_pos hp', List.takeWhile_cons_of_neg (by simp), List.append_nil]
  have hd : (p ++ '?' :: q).dropWhile (fun c => c ≠ '?' && c ≠ '#') = '?' :: q := by
    rw [List.dropWhile_append_of_pos hp', List.dropWhile_cons_of_neg (by simp)]
  have hqt : q.takeWhile (· ≠ '#') = q := by
    have h0 := @List.takeWhile_append_of_pos _ _ q [] hq'
    rwa [List.append_nil, List.takeWhile_nil, List.append_nil] at h0
  simp only [splitTarget, ht, hd, hqt] at h
  split at h
  · split at h
    · exact (Except.ok.inj h).symm
    · cases h
  · cases h

/-! ### Whole texts -/

theorem parse_eq_parseFull {t : String} (ht : t.toList = p ++ ':' :: r) (hp : '/' ∉ p) (h : parse t = .ok u) :
    parseFull t.toList = .ok u := by
  rw [parse] at h
  split at h
  · cases h
  · split at h
    · cases h
    · next hm => rw [hm] at ht; cases p <;> simp at ht
    · cases h
    · cases h
    · next r' hm =>
      rw [hm] at ht
      cases p with
      | nil => exact absurd (List.cons.inj ht).1 (by decide)
      | cons c p => exact absurd (List.mem_cons.2 (.inl (List.cons.inj ht).1)) hp
    · exact h

theorem takeWhile_authority (hh : ∀ c ∈ p, isDelimiter c = false) (r : List Char) :
    (p ++ '/' :: r).takeWhile (fun c => !isDelimiter c) = p ∧
      (p ++ '/' :: r).dropWhile (fun c => !isDelimiter c) = '/' :: r := by
  have hp : ∀ c ∈ p, (!isDelimiter c) = true := by
    intro c hc
    rw [hh c hc]
    rfl
  rw [List.takeWhile_append_of_pos hp, List.dropWhile_append_of_pos hp,
    List.takeWhile_cons_of_neg (by decide), List.dropWhile_cons_of_neg (by decide), List.append_nil]
  exact ⟨rfl, rfl⟩

/-- Behind a scheme stands an authority up to its end, and then a target. -/
theorem parseFull_some (hsp : splitScheme cs = .ok (some s, r)) (h : parseFull cs = .ok u) :
    ∃ path query, splitTarget (r.dropWhile fun c => !isDelimiter c) = .ok (path, query) ∧
      u = ⟨some (String.ofList s), String.ofList (r.takeWhile fun c => !isDelimiter c),
        if path.isEmpty then "/" else String.ofList path, query.map String.ofList⟩ := by
  simp only [parseFull, hsp, bind, Except.bind] at h
  split at h
  · cases h
  split at h
  · cases h
  split at h
  · cases h
  split at h
  · cases h
  · next x hx =>
    obtain ⟨path, query⟩ := x
    exact ⟨path, query, hx, (Except.ok.inj h).symm⟩

/-- With no scheme nothing stands behind the authority. -/
theorem parseFull_none (hsp : splitScheme cs = .ok (none, r)) (h : parseFull cs = .ok u) :
    r.dropWhile (fun c => !isDelimiter c) = [] := by
  simp only [parseFull, hsp, bind, Except.bind] at h
  split at h
  · cases h
  split at h
  · cases h
  split at h
  · next ht => exact List.isEmpty_iff.1 ht
  · cases h

theorem parseFull_whole (hs : '/' ∉ p) (hh : ∀ c ∈ q, isDelimiter c = false)
    (h : parseFull (p ++ ':' :: '/' :: '/' :: (q ++ '/' :: r)) = .ok u) :
    ∃ scheme path query, splitTarget ('/' :: r) = .ok (path, query) ∧
      u = ⟨some scheme, String.ofList q, if path.isEmpty then "/" else String.ofList path,
        query.map String.ofList⟩ := by
  obtain ⟨ha, ht⟩ := takeWhile_authority hh r
  cases hsp : splitScheme (p ++ ':' :: '/' :: '/' :: (q ++ '/' :: r)) with
  | error e => rw [parseFull, hsp] at h; cases h
  | ok x =>
    obtain ⟨scheme, rest⟩ := x
    cases scheme with
    | none =>
      have hd := parseFull_none hsp h
      rw [splitScheme_none hsp] at hd
      -- the slashes behind the scheme end the authority
      have hall := List.all_takeWhile (p := fun c => !isDelimiter c)
        (l := p ++ ':' :: '/' :: '/' :: (q ++ '/' :: r))
      rw [← List.append_nil (List.takeWhile _ _), ← hd, List.takeWhile_append_dropWhile] at hall
      exact absurd (List.all_eq_true.1 hall '/' (by simp)) (by decide)
    | some scheme =>
      obtain ⟨p', c, hp', he⟩ := splitScheme_some hsp
      have hps : '/' ∉ p ++ [':'] := by simp [hs]
      have he' : p ++ [':'] ++ '/' :: '/' :: (q ++ '/' :: r) = p' ++ '/' :: c :: rest := by
        rw [← he, List.append_assoc, List.singleton_append]
      obtain rfl := (List.cons.inj (append_mark_inj hps hp' he').2).2
      obtain ⟨path, query, hx, rfl⟩ := parseFull_some hsp h
      rw [ht] at hx
      rw [ha]
      exact ⟨_, path, query, hx, rfl⟩

theorem parse_whole {scheme host : String} (hs : '/' ∉ scheme.toList)
    (hh : ∀ c ∈ host.toList, isDelimiter c = false)
    (h : parse (scheme ++ "://" ++ host ++ String.ofList ('/' :: r)) = .ok u) :
    ∃ scheme' path query, splitTarget ('/' :: r) = .ok (path, query) ∧
      u = ⟨some scheme', host, if path.isEmpty then "/" else String.ofList path,
        query.map String.ofList⟩ := by
  have ht : (scheme ++ "://" ++ host ++ String.ofList ('/' :: r)).toList =
      scheme.toList ++ ':' :: '/' :: '/' :: (host.toList ++ '/' :: r) := by
    simp
  have hp := parse_eq_parseFull ht hs h
  rw [ht] at hp
  obtain ⟨scheme', path, query, hx, rfl⟩ := parseFull_whole hs hh hp
  rw [String.ofList_toList]
  exact ⟨scheme', path, query, hx, rfl⟩

/-- A URI that was put together from a scheme, a host and a target leads to that host. -/
theorem uri_whole {scheme host : String} (hs : scheme.toList.any isDelimiter = false)
    (hh : host.toList.any isDelimiter = false)
    (h : Http.uri (scheme ++ "://" ++ host ++ String.ofList ('/' :: r)) = .ok u) :
    u.authority = host ∧ ∃ path query, splitTarget ('/' :: r) = .ok (path, query) ∧
      u.path = (if path.isEmpty then "/" else String.ofList path) ∧ u.query = query.map String.ofList := by
  have hslash : '/' ∉ scheme.toList := fun hm => List.any_eq_false.1 hs _ hm (by decide)
  have hdelim : ∀ c ∈ host.toList, isDelimiter c = false := fun c hc =>
    Bool.eq_false_iff.2 (List.any_eq_false.1 hh c hc)
  obtain ⟨scheme', path, query, hx, rfl⟩ := parse_whole hslash hdelim (mapError_eq_ok h)
  exact ⟨rfl, path, query, hx, rfl, rfl⟩

end Callsign.Http.Uri
