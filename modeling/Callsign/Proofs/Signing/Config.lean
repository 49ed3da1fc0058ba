import Callsign.Proofs.Error
import Callsign.Proofs.Signing.Cache

/-!
# The credential of a config and its environment

`Signer.first_credential`: a signer that was made from a config has a credential exactly if the config and the
environment have both keys between them, and each part of it is the field of the config, or the variable where
the field is not set. The variables are read one by one into the config first, so the provider that reads all of
them at once finds a key pair only where the config has one by then (`Provider.ofEnv_eq_none`): it comes last in
the chain, and changes nothing.
-/

namespace Callsign

/-- The variables come from a fixed table, or there are none. -/
def Env.Static : Env → Prop
  | absent | fixed _ => True
  | process _ => False

theorem Env.Static.get?_vars {env : Env} (h : env.Static) (key : String) : env.vars.get? key = env.var key := by
  cases env with
  | absent | fixed => rfl
  | process => exact h.elim

namespace Provider
variable {id secret sec bearer : Option String} {c : Credential} {env : Env} {config : Config}

theorem keyPair_isSome : (keyPair id secret sec bearer).isSome ↔ id.isSome ∧ secret.isSome := by
  cases id <;> cases secret <;> simp [keyPair]

theorem keyPair_eq_some (h : keyPair id secret sec bearer = some c) :
    id = some c.keyId ∧ secret = some c.keySecret ∧ c.securityToken = sec ∧ c.bearerToken = bearer ∧
      c.expires = none := by
  cases id with
  | none => cases h
  | some id =>
    cases secret with
    | none => cases h
    | some secret =>
      obtain rfl := Option.some.inj h
      exact ⟨rfl, rfl, rfl, rfl, rfl⟩

/-- Both keys are in the environment only if both are in the config that was filled from it. -/
theorem ofEnv_eq_none (h : env.Static) (hn : ofConfig (config.fromEnv env) = none) : ofEnv env = none := by
  rw [← Option.not_isSome_iff_eq_none, ofConfig, keyPair_isSome] at hn
  rw [← Option.not_isSome_iff_eq_none, ofEnv, keyPair_isSome, h.get?_vars, h.get?_vars]
  refine mt (fun hs => ?_) hn
  simp [Config.fromEnv, hs]

theorem ask_config (config : Config) (env : Env) :
    (chain [.config config]).ask env = (.ok (ofConfig config), chain [.config config]) := by
  cases h : ofConfig config <;> simp [ask, askAll, h]

theorem ask_standard (config : Config) (env : Env) : (ofChain (standard config)).ask env =
    (.ok ((ofConfig config).or (ofEnv env)), ofChain (standard config)) := by
  cases h : ofConfig config <;> cases h' : ofEnv env <;> simp [ofChain, standard, ask, askAll, h, h']

/-- The environment has nothing to add to a config that was filled from it. -/
theorem ask_standard_fromEnv (h : env.Static) (config : Config) :
    (ofChain (standard (config.fromEnv env))).ask env =
      (.ok (ofConfig (config.fromEnv env)), ofChain (standard (config.fromEnv env))) := by
  rw [ask_standard]
  cases hc : ofConfig (config.fromEnv env) with
  | none => rw [ofEnv_eq_none h hc]; rfl
  | some c => rfl

end Provider

namespace Signer
variable {s : Signer} {p : Provider} {config : Config} {env : Env}

theorem ofConfig_ok (h : ofConfig config env = .ok (s, p)) :
    s.env = env ∧ p = .ofChain (Provider.standard (config.fromEnv env)) := by
  simp only [ofConfig] at h
  split at h
  · obtain ⟨region, -, h⟩ := bind_eq_ok h
    split at h
    all_goals
      obtain ⟨algorithm, -, h⟩ := bind_eq_ok h
      obtain ⟨rfl, rfl⟩ := Prod.mk.inj (Except.ok.inj h)
      exact ⟨rfl, rfl⟩
  · cases h

/-- A signer with one provider or the other: what they offer is the same, and they offer it again. -/
theorem credential_congr {q : Provider} {c : Option Credential} (hp : p.ask s.env = (.ok c, p))
    (hq : q.ask s.env = (.ok c, q)) (now : Time.Instant) {m : Memory} (hm : m.provider = p) :
    (s.credential now m).2.provider = p ∧
      s.credential now { m with provider := q } =
        ((s.credential now m).1, { (s.credential now m).2 with provider := q }) := by
  subst hm
  by_cases h : m.Stale now
  · have h' : { m with provider := q }.Stale now := h
    rw [credential_of_ask h hp, credential_of_ask h' hq]
    exact ⟨rfl, rfl⟩
  · have h' : ¬ { m with provider := q }.Stale now := h
    rw [credential_of_fresh h, credential_of_fresh h']
    exact ⟨rfl, rfl⟩

/-- The first credential of a signer that was made from a config is there exactly if both keys are in the config
or in the environment, and what the config leaves open is as the environment says. The provider at the end of the
chain, which is the environment, never has a part in it: without it all comes out the same. -/
theorem first_credential (config : Config) (env : Env) (s : Signer) (p : Provider) (henv : env.Static)
    (h : ofConfig config env = .ok (s, p)) :
    (∀ now nonces, ∃ found, (s.credential now { provider := p, nonces }).1 = .ok found ∧
      (found.isSome ↔ (config.keyId.isSome ∨ (env.var Variable.keyId.name).isSome) ∧
        (config.keySecret.isSome ∨ (env.var Variable.keySecret.name).isSome)) ∧
      ∀ c, found = some c →
        some c.keyId = config.keyId.or (env.var Variable.keyId.name) ∧
        some c.keySecret = config.keySecret.or (env.var Variable.keySecret.name) ∧
        c.securityToken = config.securityToken.or (env.var Variable.securityToken.name) ∧
        c.bearerToken = config.bearerToken.or (env.var Variable.bearerToken.name) ∧ c.expires = none) ∧
    ∃ ps, p = .chain (ps ++ [.environment]) ∧ ∀ now (m : Memory), m.provider = p →
      (s.credential now m).2.provider = p ∧
      s.credential now { m with provider := .chain ps } =
        ((s.credential now m).1, { (s.credential now m).2 with provider := .chain ps }) := by
  obtain ⟨rfl, rfl⟩ := ofConfig_ok h
  have hask := Provider.ask_standard_fromEnv henv config
  refine ⟨fun now nonces => ?_, [.config (config.fromEnv s.env)], rfl, fun now m hm => ?_⟩
  · have hstale : Memory.Stale { provider := .ofChain (Provider.standard (config.fromEnv s.env)), nonces } now := nofun
    refine ⟨Provider.ofConfig (config.fromEnv s.env), by rw [credential_of_ask hstale hask], ?_, fun c hc => ?_⟩
    · rw [Provider.ofConfig, Provider.keyPair_isSome]
      simp [Config.fromEnv]
    · obtain ⟨hid, hsecret, hsec, hbearer, hexp⟩ := Provider.keyPair_eq_some hc
      refine ⟨hid.symm.trans ?_, hsecret.symm.trans ?_, hsec.trans ?_, hbearer.trans ?_, hexp⟩ <;>
        simp [Config.fromEnv]
  · exact credential_congr hask (Provider.ask_config _ _) now hm

/-- One key is an empty text in the config and set in the environment, the other is in the environment alone. -/
def splitEnv : Env :=
  .fixed (.ofList [(Variable.keyId.name, "ignored"), (Variable.keySecret.name, "secret"),
    (Variable.bearerToken.name, "token")])

theorem first_credential_split : ∃ s p, ofConfig { keyId := some "", region := some "r" } splitEnv = .ok (s, p) ∧
    (s.credential ⟨0, 0⟩ { provider := p }).1 = .ok (some ⟨"", "secret", none, some "token", none⟩) := by
  have hid : splitEnv.var Variable.keyId.name = some "ignored" := by decide
  have hsecret : splitEnv.var Variable.keySecret.name = some "secret" := by decide
  have hsec : splitEnv.var Variable.securityToken.name = none := by decide
  have hbearer : splitEnv.var Variable.bearerToken.name = some "token" := by decide
  have hok : (ofConfig { keyId := some "", region := some "r" } splitEnv).isOk = true := by rfl
  obtain ⟨⟨s, p⟩, h⟩ := exists_of_isOk hok
  obtain ⟨found, hfound, hsome, hparts⟩ := (first_credential _ splitEnv s p trivial h).1 ⟨0, 0⟩ []
  obtain ⟨c, rfl⟩ := Option.isSome_iff_exists.1 (hsome.2 ⟨.inl rfl, .inr (by rw [hsecret]; rfl)⟩)
  obtain ⟨h₁, h₂, h₃, h₄, h₅⟩ := hparts c rfl
  refine ⟨s, p, h, ?_⟩
  rw [hid] at h₁
  rw [hsecret] at h₂
  rw [hsec] at h₃
  rw [hbearer] at h₄
  obtain ⟨keyId, keySecret, securityToken, bearerToken, expires⟩ := c
  simp_all

end Signer

end Callsign
