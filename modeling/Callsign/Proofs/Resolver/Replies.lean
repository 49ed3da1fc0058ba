import Callsign.Endpoint.Cache

/-!
# What a reply says, and what is remembered of it

A reply is read here on its own: which endpoint a listing names for a type (`Listing.Names`), which
rejection an error is, and so what a reply leaves in the memory for a look-up (`Leaves`). The cache is
seen through its look-ups and its four sets of codes (`Mark`), and `lookup_conclude` and `has_conclude`
say of each view what `conclude` adds to it.
-/

namespace Callsign

/-- A listed endpoint counts for a type: it has a code, in either spelling, and that type. -/
def Listed.Serves (e : Listed) (type : String) : Prop :=
  (∃ code, code ≠ "" ∧ (e.serviceCode = some code ∨ e.serivceCode = some code)) ∧ e.type = some type

/-- The first entry of the listing that counts for the type carries the endpoint. -/
def Listing.Names (r : Listing) (type endpoint : String) : Prop :=
  ∃ before e after, r.endpoints = before ++ e :: after ∧ e.Serves type ∧
    (∀ x ∈ before, ¬ x.Serves type) ∧ e.endpoint = some endpoint

/-- The service lists endpoints. -/
def Succeeds (r : Reply) : Prop := ∃ listing, r = .ok listing

/-- The service says that the region does not exist. -/
def RejectsRegion (r : Reply) : Prop :=
  ∃ e s, r = .error e ∧ e.service? = some s ∧ s.isInvalidRegion = true

/-- The service says that it does not know the product. -/
def RejectsProduct (r : Reply) : Prop :=
  ∃ e s, r = .error e ∧ e.service? = some s ∧ s.isIllegalParameter = true

/-- What a reply leaves in the memory for a look-up. Any other reply leaves nothing. -/
inductive Leaves (l : Lookup) : Reply → Resolution → Prop
  | found {listing : Listing} {e : String} (h : listing.Names l.type e) : Leaves l (.ok listing) (.found e)
  | nothing {listing : Listing} (h : ∀ e, ¬ listing.Names l.type e) : Leaves l (.ok listing) .notFound
  | rejected {r : Reply} (h : RejectsRegion r ∨ RejectsProduct r) : Leaves l r .notFound

theorem Listed.serves_iff {e : Listed} {type : String} :
    (e.code?.isSome && e.type == some type) = true ↔ e.Serves type := by
  have hc : ∀ o : Option String, (o.filter (!·.isEmpty)).isSome ↔ ∃ s, s ≠ "" ∧ o = some s := by
    rintro (_ | s) <;> simp [Option.isSome_filter]
  have hor : ∀ a b : Option String, (a <|> b).isSome ↔ a.isSome ∨ b.isSome := by
    rintro (_ | a) (_ | b) <;> simp
  rw [Bool.and_eq_true, beq_iff_eq, Serves, code?, hor, hc, hc, ← exists_or]
  simp only [and_or_left]

theorem Listing.names_iff {r : Listing} {type endpoint : String} :
    r.Names type endpoint ↔ r.endpointOf type = some endpoint := by
  have hn : ∀ x : Listed, (!(x.code?.isSome && x.type == some type)) = true ↔ ¬ x.Serves type := fun x => by
    rw [← Listed.serves_iff, Bool.not_eq_true', Bool.not_eq_true]
  simp only [endpointOf, Option.bind_eq_some_iff, List.find?_eq_some_iff_append, Names, Listed.serves_iff, hn]
  constructor
  · rintro ⟨before, e, after, hr, hs, hb, he⟩
    exact ⟨e, ⟨hs, before, after, hr, hb⟩, he⟩
  · rintro ⟨e, ⟨hs, before, after, hr, hb⟩, he⟩
    exact ⟨before, e, after, hr, hs, hb, he⟩

theorem leaves_ok_iff {l : Lookup} {listing : Listing} {res : Resolution} :
    Leaves l (.ok listing) res ↔ res = .ofEndpoint (listing.endpointOf l.type) := by
  constructor
  · intro h
    cases h with
    | found h => rw [Listing.names_iff.1 h]; rfl
    | nothing h =>
      cases hn : listing.endpointOf l.type with
      | none => rfl
      | some e => exact absurd (Listing.names_iff.2 hn) (h e)
    | rejected h => rcases h with ⟨_, _, h, -⟩ | ⟨_, _, h, -⟩ <;> cases h
  · rintro rfl
    cases hn : listing.endpointOf l.type with
    | none => exact .nothing fun e he => by rw [Listing.names_iff, hn] at he; cases he
    | some e => exact .found (Listing.names_iff.2 hn)

theorem leaves_error_iff {l : Lookup} {e : Error} {res : Resolution} :
    Leaves l (.error e) res ↔ res = .notFound ∧ (RejectsRegion (.error e) ∨ RejectsProduct (.error e)) := by
  constructor
  · intro h
    cases h with
    | rejected h => exact ⟨rfl, h⟩
  · rintro ⟨rfl, h⟩
    exact .rejected h

theorem rejectsRegion_error {e : Error} :
    RejectsRegion (.error e) ↔ e.service?.any ServiceError.isInvalidRegion = true := by
  cases hs : e.service? <;> simp [RejectsRegion, hs]

theorem rejectsProduct_error {e : Error} :
    RejectsProduct (.error e) ↔ e.service?.any ServiceError.isIllegalParameter = true := by
  cases hs : e.service? <;> simp [RejectsProduct, hs]

/-- No reply rejects both: the two rejections have different codes. -/
theorem RejectsRegion.not_product {r : Reply} (h : RejectsRegion r) : ¬ RejectsProduct r := by
  rintro ⟨_, p, rfl, hp, hi⟩
  obtain ⟨_, s, he, hs, hr⟩ := h
  cases he
  obtain rfl := Option.some.inj (hs.symm.trans hp)
  simp only [ServiceError.isInvalidRegion, ServiceError.isIllegalParameter, Bool.and_eq_true,
    decide_eq_true_eq] at hr hi
  rw [hr.1] at hi
  exact absurd hi.1 (by decide)

/-! ### The views of the cache -/

/-- The four sets of codes that a cache keeps. -/
inductive Mark
  | rejectedProduct
  | rejectedRegion
  | acceptedProduct
  | acceptedRegion

namespace Mark

/-- The codes with the mark. -/
def codes : Mark → EndpointCache → CodeSet
  | rejectedProduct => EndpointCache.invalidProducts
  | rejectedRegion => EndpointCache.invalidRegions
  | acceptedProduct => EndpointCache.validProducts
  | acceptedRegion => EndpointCache.validRegions

/-- The code of a look-up that gets the mark. -/
def codeOf : Mark → Lookup → String
  | rejectedProduct | acceptedProduct => Lookup.product
  | rejectedRegion | acceptedRegion => Lookup.region

/-- The replies that give the mark. -/
def By : Mark → Reply → Prop
  | rejectedProduct => RejectsProduct
  | rejectedRegion => RejectsRegion
  | acceptedProduct | acceptedRegion => Succeeds

end Mark

theorem CodeSet.has_mark (s : CodeSet) (a b : String) :
    (s.mark a).has b = true ↔ Text.lowercase a = Text.lowercase b ∨ s.has b = true := by
  simp only [CodeSet.mark, CodeSet.has, List.contains_iff_mem, List.mem_insert_iff]
  exact or_congr_left eq_comm

namespace EndpointCache
variable {c : EndpointCache} {l : Lookup} {key : EndpointKey} {r : Reply}

theorem lookup_store (c : EndpointCache) (key k : EndpointKey) (endpoint : Option String) :
    (c.store key endpoint).lookup k = if k = key then some (.ofEndpoint endpoint) else c.lookup k := by
  simp only [lookup, store]
  split
  · subst k; rw [Table.get?_insert_self]; rfl
  · rename_i hk
    rw [Table.get?_insert_of_ne _ fun he => hk (congrArg EndpointKey.mk he)]

/-- A reply is remembered in one of three ways, or not at all. -/
theorem conclude_cases (c : EndpointCache) (l : Lookup) (key : EndpointKey) (r : Reply) :
    (∃ listing, r = .ok listing ∧ c.conclude l key r = (.ok (.ofEndpoint (listing.endpointOf l.type)),
        ((c.markProductValid l.product).markRegionValid l.region).store key (listing.endpointOf l.type))) ∨
    (RejectsRegion r ∧ c.conclude l key r = (.ok .notFound, (c.markRegionInvalid l.region).store key none)) ∨
    (RejectsProduct r ∧ c.conclude l key r = (.ok .notFound, (c.markProductInvalid l.product).store key none)) ∨
    (∃ e, r = .error e ∧ ¬ RejectsRegion r ∧ ¬ RejectsProduct r ∧ c.conclude l key r = (.error e, c)) := by
  cases r with
  | ok listing => exact .inl ⟨listing, rfl, rfl⟩
  | error e =>
    rw [rejectsRegion_error, rejectsProduct_error]
    by_cases hr : e.service?.any ServiceError.isInvalidRegion = true
    · exact .inr (.inl ⟨hr, by simp only [conclude, hr, ↓reduceIte]⟩)
    by_cases hp : e.service?.any ServiceError.isIllegalParameter = true
    · exact .inr (.inr (.inl ⟨hp, by simp only [conclude, hr, hp, Bool.false_eq_true, ↓reduceIte]⟩))
    · exact .inr (.inr (.inr ⟨e, rfl, hr, hp, by simp only [conclude, hr, hp, Bool.false_eq_true, ↓reduceIte]⟩))

/-- The look-ups after a reply about an unknown key: the reply may have added its own. -/
theorem lookup_conclude (hk : c.lookup key = none) (k : EndpointKey) (res : Resolution) :
    (c.conclude l key r).2.lookup k = some res ↔ (k = key ∧ Leaves l r res) ∨ c.lookup k = some res := by
  by_cases hkey : k = key
  · subst hkey
    rcases conclude_cases c l k r with ⟨listing, rfl, h⟩ | ⟨hr, h⟩ | ⟨hp, h⟩ | ⟨e, rfl, hr, hp, h⟩ <;> rw [h]
    · simp [lookup_store, hk, leaves_ok_iff, eq_comm]
    · obtain ⟨e, -, rfl, -⟩ := id hr
      simp [lookup_store, hk, leaves_error_iff, hr, Resolution.ofEndpoint, eq_comm]
    · obtain ⟨e, -, rfl, -⟩ := id hp
      simp [lookup_store, hk, leaves_error_iff, hp, Resolution.ofEndpoint, eq_comm]
    · simp [leaves_error_iff, hr, hp]
  · have hother : (c.conclude l key r).2.lookup k = c.lookup k := by
      rcases conclude_cases c l key r with ⟨listing, -, h⟩ | ⟨-, h⟩ | ⟨-, h⟩ | ⟨e, -, -, -, h⟩ <;> rw [h] <;>
        dsimp only <;> rw [lookup_store, if_neg hkey] <;> rfl
    simp [hother, hkey]

/-- The codes with a mark after a reply: the reply may have added one. -/
theorem has_conclude (k : Mark) (code : String) :
    (k.codes (c.conclude l key r).2).has code = true ↔
      (k.By r ∧ Text.lowercase (k.codeOf l) = Text.lowercase code) ∨ (k.codes c).has code = true := by
  have herr : ∀ e, ¬ Succeeds (.error e) := fun _ ⟨_, h⟩ => by cases h
  rcases conclude_cases c l key r with ⟨listing, rfl, h⟩ | ⟨hr, h⟩ | ⟨hp, h⟩ | ⟨e, rfl, hr, hp, h⟩ <;> rw [h]
  · have hs : Succeeds (.ok listing) := ⟨listing, rfl⟩
    have hp : ¬ RejectsProduct (.ok listing) := fun ⟨_, _, h, _⟩ => by cases h
    have hr : ¬ RejectsRegion (.ok listing) := fun ⟨_, _, h, _⟩ => by cases h
    cases k <;> simp [Mark.codes, Mark.codeOf, Mark.By, hr, hp, hs, store, markProductValid, markRegionValid,
      CodeSet.has_mark]
  · have hp := hr.not_product
    obtain ⟨e, -, rfl, -⟩ := id hr
    cases k <;> simp [Mark.codes, Mark.codeOf, Mark.By, herr, hr, hp, store, markRegionInvalid, CodeSet.has_mark]
  · have hr : ¬ RejectsRegion r := fun hr => hr.not_product hp
    obtain ⟨e, -, rfl, -⟩ := id hp
    cases k <;> simp [Mark.codes, Mark.codeOf, Mark.By, herr, hr, hp, store, markProductInvalid, CodeSet.has_mark]
  · cases k <;> simp [Mark.codes, Mark.By, herr, hr, hp]

end EndpointCache

end Callsign
