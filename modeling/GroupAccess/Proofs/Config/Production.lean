import GroupAccess.Config.Load
import GroupAccess.Proofs.Codec.Except

namespace GroupAccess

/-- A variable, and the setting that it gives. -/
structure Variable where
  name : String
  /-- The text that stands for it where it is not set, by the number of processors. -/
  default : Nat → String
  Value : Type
  parse : String → Except Decimal.NumberError Value
  setting : Settings → Value

namespace Variable

def text (name default : String) (setting : Settings → String) : Variable :=
  ⟨name, fun _ => default, String, .ok, setting⟩

def whole (name default : String) (setting : Settings → Int) : Variable :=
  ⟨name, fun _ => default, Int, Decimal.readWhole (.signed 64), setting⟩

def natural (bits : Nat) (name : String) (default : Nat → String) (setting : Settings → Nat) :
    Variable :=
  ⟨name, default, Nat, fun text => (Decimal.readWhole (.unsigned bits) text).map Int.toNat, setting⟩

def float (name default : String) (setting : Settings → Float) : Variable :=
  ⟨name, fun _ => default, Float, Decimal.readFloat, setting⟩

/-- The variables with a default, in the order in which they are read. -/
def all : List Variable :=
  [text "SERVICE_NAME" "membership-service" (·.serviceName),
    text "SERVICE_VERSION" "0.1.0" (·.serviceVersion),
    text "LOG_LEVEL" "info" (·.logLevel),
    natural 32 "DATABASE_MAX_CONNECTIONS" (fun _ => "20") (·.store.maxConnections),
    natural 32 "DATABASE_MIN_CONNECTIONS" (fun _ => "2") (·.store.minConnections),
    natural 64 "STORE_TIMEOUT_MS" (fun _ => "5000") (·.store.timeoutMillis),
    text "TOKEN_SIGNING_KEY" "dev-only-signing-key-change-me-0000000000"
      (·.policy.tokens.signingKey),
    whole "ACCESS_TOKEN_EXPIRY_MINUTES" "15" (·.policy.tokens.accessMinutes),
    whole "REFRESH_TOKEN_EXPIRY_DAYS" "7" (·.policy.tokens.refreshDays),
    whole "OPAQUE_TOKEN_EXPIRY_DAYS" "30" (·.policy.tokens.secretDays),
    natural 64 "TOKEN_PURGE_INTERVAL_SECONDS" (fun _ => "3600") (·.purgeSeconds),
    text "PASSWORD_SERVER_SALT" "dev-only-server-salt-change-me-00000000"
      (·.policy.passwords.serverSecret),
    float "PASSWORD_MIN_ENTROPY_BITS" "60" (·.policy.passwords.minEntropy),
    natural 64 "PASSWORD_MAX_BYTES" (fun _ => "72") (·.policy.passwords.maxBytes),
    natural 64 "HASH_CONCURRENCY" toString (·.hashConcurrency)]

/-- The setting is what the text of the variable reads as. -/
def Shows (v : Variable) (c : Settings) (text : String) : Prop := v.parse text = .ok (v.setting c)

end Variable

namespace VariableReader

variable {r : VariableReader} {name text : String}

/-- What stands for a variable: its own text, or outside production a default. -/
def Finds (r : VariableReader) (name : String) (default : Option String) (text : String) : Prop :=
  r.vars.get? name = some text ∨
    r.vars.get? name = none ∧ r.inProduction = false ∧ default = some text

theorem text_eq_ok {default : Option String} :
    r.text name default = .ok text ↔ r.Finds name default text := by
  unfold VariableReader.text Finds
  cases r.vars.get? name with
  | some own => simp
  | none =>
    cases r.inProduction with
    | true => simp
    | false => cases default <;> simp

/-- The setting that a variable gives. -/
def get (r : VariableReader) (processors : Nat) (v : Variable) : Except ConfigFault v.Value := do
  let text ← r.text v.name (v.default processors)
  (v.parse text).mapError (.unreadable v.name)

theorem get_eq_ok {processors : Nat} {v : Variable} {a : v.Value} :
    r.get processors v = .ok a ↔
      ∃ text, r.Finds v.name (v.default processors) text ∧ v.parse text = .ok a := by
  simp only [get, bind_eq_ok, mapError_eq_ok, text_eq_ok]

theorem get_text (processors : Nat) (name default : String) (setting : Settings → String) :
    r.get processors (.text name default setting) = r.text name default := by
  unfold get Variable.text
  dsimp only
  cases r.text name default <;> rfl

theorem get_natural (processors bits : Nat) (name : String) (default : Nat → String)
    (setting : Settings → Nat) : r.get processors (.natural bits name default setting) =
      r.natural bits name (default processors) := by
  unfold get Variable.natural natural whole
  dsimp only
  cases r.text name (default processors) with
  | error e => rfl
  | ok text =>
    simp only [bind, Except.bind]
    cases Decimal.readWhole (.unsigned bits) text <;> rfl

theorem get_whole (processors : Nat) (name default : String) (setting : Settings → Int) :
    r.get processors (.whole name default setting) = r.whole (.signed 64) name default := rfl

theorem get_float (processors : Nat) (name default : String) (setting : Settings → Float) :
    r.get processors (.float name default setting) = r.float name default := rfl

end VariableReader

theorem StoreSettings.read_eq_ok {r : VariableReader} {backend : Backend} {url : Option String} :
    StoreSettings.read r = .ok (backend, url) ↔
      Backend.ofText ((r.vars.get? "STORE_BACKEND").getD "postgres") = .ok backend ∧
        match backend with
        | .postgres => url.isSome = true ∧ r.vars.get? "DATABASE_URL" = url
        | .memory => url = none := by
  simp only [read, bind_eq_ok]
  constructor
  · rintro ⟨found, hfound, h⟩
    cases found with
    | postgres =>
      obtain ⟨text, htext, h⟩ := bind_eq_ok.1 h
      cases h
      have hfinds := VariableReader.text_eq_ok.1 htext
      simp only [VariableReader.Finds, reduceCtorEq, and_false, or_false] at hfinds
      exact ⟨hfound, rfl, hfinds⟩
    | memory =>
      cases h
      exact ⟨hfound, rfl⟩
  · rintro ⟨hfound, h⟩
    refine ⟨backend, hfound, ?_⟩
    cases backend with
    | postgres =>
      obtain ⟨hsome, hurl⟩ := h
      obtain ⟨text, rfl⟩ := Option.isSome_iff_exists.1 hsome
      exact bind_eq_ok.2 ⟨text, VariableReader.text_eq_ok.2 (.inl hurl), rfl⟩
    | memory =>
      cases h
      rfl

namespace Settings

/-- The settings are what the variables say. -/
structure ReadFrom (c : Settings) (vs : Variables) (listener : Listener) (processors : Nat) :
    Prop where
  listener : c.listener = listener
  environment : Environment.ofText ((vs.get? "ENVIRONMENT").getD "dev") = .ok c.environment
  store : StoreSettings.read ⟨vs, c.environment == .prod⟩ =
    .ok (c.store.backend, c.store.databaseUrl)
  named : ∀ v ∈ Variable.all,
    (VariableReader.mk vs (c.environment == .prod)).get processors v = .ok (v.setting c)

theorem readAll_eq_ok {vs : Variables} {listener : Listener} {processors : Nat} {c : Settings} :
    readAll vs listener processors = .ok c ↔ c.ReadFrom vs listener processors := by
  constructor
  · intro h
    simp only [readAll, bind_eq_ok] at h
    obtain ⟨environment, henv, ⟨backend, url⟩, hstore, name, hname, version, hversion, level, hlevel,
      most, hmost, least, hleast, timeout, htimeout, key, hkey, access, haccess, refresh, hrefresh,
      secret, hsecret, purge, hpurge, salt, hsalt, entropy, hentropy, bytes, hbytes, hashing,
      hhashing, h⟩ := h
    cases h
    refine ⟨rfl, henv, hstore, ?_⟩
    simp only [Variable.all, List.forall_mem_cons, VariableReader.get_text,
      VariableReader.get_natural, VariableReader.get_whole, VariableReader.get_float]
    exact ⟨hname, hversion, hlevel, hmost, hleast, htimeout, hkey, haccess, hrefresh, hsecret, hpurge,
      hsalt, hentropy, hbytes, hhashing, by simp⟩
  · rintro ⟨rfl, henv, hstore, hv⟩
    simp only [Variable.all, List.forall_mem_cons, VariableReader.get_text,
      VariableReader.get_natural, VariableReader.get_whole, VariableReader.get_float] at hv
    obtain ⟨hname, hversion, hlevel, hmost, hleast, htimeout, hkey, haccess, hrefresh, hsecret, hpurge,
      hsalt, hentropy, hbytes, hhashing, -⟩ := hv
    simp only [readAll, bind_eq_ok]
    exact ⟨_, henv, _, hstore, _, hname, _, hversion, _, hlevel, _, hmost, _, hleast, _, htimeout, _,
      hkey, _, haccess, _, hrefresh, _, hsecret, _, hpurge, _, hsalt, _, hentropy, _, hbytes, _,
      hhashing, rfl⟩

/-- Settings are loaded exactly if each layer can be read and they keep all rules. -/
theorem load_eq_ok {s : Surroundings} {c : Settings} :
    load s = .ok c ↔ Listener.load? s.configuration s.allVariables = some c.listener ∧
      c.ReadFrom s.allVariables c.listener s.processors ∧ c.validate = .ok () := by
  unfold load Settings.read
  cases Listener.load? s.configuration s.allVariables with
  | none => simp
  | some listener =>
    simp only [mapError_eq_ok, bind_eq_ok, readAll_eq_ok, Option.some_inj]
    constructor
    · rintro ⟨c', hread, ⟨⟩, hvalid, h⟩
      cases h
      obtain rfl := hread.listener
      exact ⟨rfl, hread, hvalid⟩
    · rintro ⟨rfl, hread, hvalid⟩
      exact ⟨c, hread, (), hvalid, rfl⟩

/-- In production secrets are long. -/
theorem secrets_of_validate {c : Settings} (h : c.validate = .ok ()) (hp : c.environment = .prod) :
    minSecretBytes ≤ c.policy.tokens.signingKey.utf8ByteSize ∧
      minSecretBytes ≤ c.policy.passwords.serverSecret.utf8ByteSize := by
  have hrefuse {b : Bool} {e : ConfigFault} {u : Unit} (hb : refuseIf b e = .ok u) : b = false := by
    cases b with
    | true => cases hb
    | false => rfl
  simp only [validate, bind_eq_ok, if_pos hp] at h
  obtain ⟨-, -, -, -, -, -, -, -, -, -, -, -, -, -, -, -, -, -, _, hkey, hsalt⟩ := h
  exact ⟨Nat.not_lt.1 (of_decide_eq_false (hrefuse hkey)),
    Nat.not_lt.1 (of_decide_eq_false (hrefuse hsalt))⟩

end Settings

theorem Environment.ofText_prod {text : String} :
    ofText text = .ok .prod ↔ Text.lowercase text = "prod" := by
  unfold ofText
  dsimp only
  split
  · rename_i h
    simp [h]
  · split
    · simp [*]
    · simp [*]

theorem Backend.ofText_memory {text : String} :
    ofText text = .ok .memory ↔ Text.lowercase text = "memory" := by
  unfold ofText
  dsimp only
  split
  · rename_i h
    simp [h]
  · split
    · simp [*]
    · simp [*]

namespace Settings.ReadFrom

variable {c : Settings} {vs : Variables} {listener : Listener} {processors : Nat}

/-- A variable that is set gives its setting. -/
theorem shows (h : c.ReadFrom vs listener processors) {v : Variable} (hv : v ∈ Variable.all)
    {text : String} (ht : vs.get? v.name = some text) : v.Shows c text := by
  obtain ⟨found, hfinds, hparse⟩ := VariableReader.get_eq_ok.1 (h.named v hv)
  rcases hfinds with hown | ⟨hnone, -, -⟩
  · cases ht.symm.trans hown
    exact hparse
  · cases ht.symm.trans hnone

theorem environment_shows (h : c.ReadFrom vs listener processors) {text : String}
    (ht : vs.get? "ENVIRONMENT" = some text) : Environment.ofText text = .ok c.environment := by
  have he := h.environment
  rwa [ht] at he

theorem backend_shows (h : c.ReadFrom vs listener processors) {text : String}
    (ht : vs.get? "STORE_BACKEND" = some text) : Backend.ofText text = .ok c.store.backend := by
  have hb := (StoreSettings.read_eq_ok.1 h.store).1
  change Backend.ofText ((vs.get? "STORE_BACKEND").getD "postgres") = _ at hb
  rwa [ht] at hb

/-- In production every variable is set. -/
theorem set_in_production (h : c.ReadFrom vs listener processors) (hp : c.environment = .prod)
    {v : Variable} (hv : v ∈ Variable.all) : ∃ text, vs.get? v.name = some text := by
  obtain ⟨found, hfinds, -⟩ := VariableReader.get_eq_ok.1 (h.named v hv)
  rcases hfinds with hown | ⟨-, hdev, -⟩
  · exact ⟨found, hown⟩
  · rw [hp] at hdev
    cases hdev

/-- The database is named unless the tables are in memory. -/
theorem database_of_not_memory (h : c.ReadFrom vs listener processors)
    (hb : (vs.get? "STORE_BACKEND").map Text.lowercase ≠ some "memory") :
    ∃ url, vs.get? "DATABASE_URL" = some url ∧ c.store.databaseUrl = some url := by
  obtain ⟨hbackend, hurl⟩ := StoreSettings.read_eq_ok.1 h.store
  change Backend.ofText ((vs.get? "STORE_BACKEND").getD "postgres") = _ at hbackend
  cases hmemory : c.store.backend with
  | postgres =>
    rw [hmemory] at hurl
    obtain ⟨url, hsome⟩ := Option.isSome_iff_exists.1 hurl.1
    rw [hsome] at hurl ⊢
    exact ⟨url, hurl.2, rfl⟩
  | memory =>
    rw [hmemory, Backend.ofText_memory] at hbackend
    refine absurd ?_ hb
    cases ht : vs.get? "STORE_BACKEND" with
    | none =>
      have hdefault : Text.lowercase "postgres" ≠ "memory" := by decide +kernel
      rw [ht] at hbackend
      exact absurd hbackend hdefault
    | some text =>
      rw [ht] at hbackend
      exact congrArg some hbackend

end Settings.ReadFrom

/-- Loaded settings keep all rules, and each variable that is set gives its setting; one that cannot
be read is an error. In production every variable is set, the secrets are long, and no default is
used but that of the backend. -/
theorem settings_explicit (s : Surroundings) :
    (∀ c, Settings.load s = .ok c →
      c.validate = .ok () ∧
      Listener.load? s.configuration s.allVariables = some c.listener ∧
      (∀ v ∈ Variable.all, ∀ text, s.allVariables.get? v.name = some text → v.Shows c text) ∧
      (∀ text, s.allVariables.get? "ENVIRONMENT" = some text →
        Environment.ofText text = .ok c.environment) ∧
      (∀ text, s.allVariables.get? "STORE_BACKEND" = some text →
        Backend.ofText text = .ok c.store.backend) ∧
      ((s.allVariables.get? "ENVIRONMENT").map Text.lowercase = some "prod" →
        c.environment = .prod ∧
        (∀ v ∈ Variable.all, ∃ text, s.allVariables.get? v.name = some text ∧ v.Shows c text) ∧
        ((s.allVariables.get? "STORE_BACKEND").map Text.lowercase ≠ some "memory" →
          ∃ url, s.allVariables.get? "DATABASE_URL" = some url ∧ c.store.databaseUrl = some url) ∧
        32 ≤ c.policy.tokens.signingKey.utf8ByteSize ∧
        32 ≤ c.policy.passwords.serverSecret.utf8ByteSize)) ∧
    (∀ v ∈ Variable.all, ∀ text, s.allVariables.get? v.name = some text →
      (∀ a, v.parse text ≠ .ok a) → ∃ e, Settings.load s = .error e) ∧
    (∀ text, s.allVariables.get? "ENVIRONMENT" = some text →
      Text.lowercase text ≠ "dev" → Text.lowercase text ≠ "prod" →
      ∃ e, Settings.load s = .error e) ∧
    (∀ text, s.allVariables.get? "STORE_BACKEND" = some text →
      Text.lowercase text ≠ "postgres" → Text.lowercase text ≠ "memory" →
      ∃ e, Settings.load s = .error e) := by
  have hfails (h : ∀ c, Settings.load s ≠ .ok c) : ∃ e, Settings.load s = .error e := by
    cases hl : Settings.load s with
    | error e => exact ⟨e, rfl⟩
    | ok c => exact absurd hl (h c)
  refine ⟨fun c hc => ?_, fun v hv text ht hbad => hfails fun c hc => ?_,
    fun text ht hdev hprod => hfails fun c hc => ?_,
    fun text ht hpostgres hmemory => hfails fun c hc => ?_⟩
  · obtain ⟨hlistener, hread, hvalid⟩ := Settings.load_eq_ok.1 hc
    refine ⟨hvalid, hlistener, fun v hv text => hread.shows hv, fun text => hread.environment_shows,
      fun text => hread.backend_shows, fun hprod => ?_⟩
    obtain ⟨text, ht, hlower⟩ := Option.map_eq_some_iff.1 hprod
    have hp : c.environment = .prod :=
      Except.ok.inj ((hread.environment_shows ht).symm.trans (Environment.ofText_prod.2 hlower))
    refine ⟨hp, fun v hv => ?_, fun hbackend => ?_, Settings.secrets_of_validate hvalid hp⟩
    · obtain ⟨text, ht⟩ := hread.set_in_production hp hv
      exact ⟨text, ht, hread.shows hv ht⟩
    · exact hread.database_of_not_memory hbackend
  · obtain ⟨-, hread, -⟩ := Settings.load_eq_ok.1 hc
    exact hbad _ (hread.shows hv ht)
  · obtain ⟨-, hread, -⟩ := Settings.load_eq_ok.1 hc
    have henvironment := hread.environment_shows ht
    simp only [Environment.ofText, if_neg hdev, if_neg hprod] at henvironment
    cases henvironment
  · obtain ⟨-, hread, -⟩ := Settings.load_eq_ok.1 hc
    have hbackend := hread.backend_shows ht
    simp only [Backend.ofText, if_neg hpostgres, if_neg hmemory] at hbackend
    cases hbackend

namespace Sample

def secretText : String := "0123456789abcdef0123456789abcdef"

/-- A production environment in which the timeout is this text. -/
def production (timeout : String) : Surroundings where
  vars := [("ENVIRONMENT", "Prod"), ("STORE_BACKEND", "memory"), ("SERVICE_NAME", "access"),
    ("SERVICE_VERSION", "1"), ("LOG_LEVEL", "info"), ("DATABASE_MAX_CONNECTIONS", "20"),
    ("DATABASE_MIN_CONNECTIONS", "+2"), ("STORE_TIMEOUT_MS", timeout),
    ("TOKEN_SIGNING_KEY", secretText), ("ACCESS_TOKEN_EXPIRY_MINUTES", "15"),
    ("REFRESH_TOKEN_EXPIRY_DAYS", "7"), ("OPAQUE_TOKEN_EXPIRY_DAYS", "30"),
    ("TOKEN_PURGE_INTERVAL_SECONDS", "60"), ("PASSWORD_SERVER_SALT", secretText),
    ("PASSWORD_MIN_ENTROPY_BITS", "60.5"), ("PASSWORD_MAX_BYTES", "72"), ("HASH_CONCURRENCY", "4")]

end Sample

open Sample in
theorem settings_explicit_sample :
    (∃ c, Settings.load (production "5000") = .ok c ∧ c.environment = .prod ∧
      c.store.timeoutMillis = 5000) ∧
      ∃ e, Settings.load (production "5 s") = .error e := by
  have htimeout : Variable.natural 64 "STORE_TIMEOUT_MS" (fun _ => "5000") (·.store.timeoutMillis) ∈
      Variable.all := by
    simp [Variable.all]
  constructor
  · obtain ⟨c, hc⟩ : ∃ c, Settings.load (production "5000") = .ok c := by
      have hok : (Settings.load (production "5000")).isOk = true := by decide +kernel
      cases hl : Settings.load (production "5000") with
      | ok c => exact ⟨c, rfl⟩
      | error e =>
        rw [hl] at hok
        cases hok
    obtain ⟨-, -, hshows, -, -, hprod⟩ := (settings_explicit (production "5000")).1 c hc
    have hlower : ((production "5000").allVariables.get? "ENVIRONMENT").map Text.lowercase =
        some "prod" := by
      decide +kernel
    have hread : (Decimal.readWhole (.unsigned 64) "5000").map Int.toNat = .ok 5000 := by rfl
    have hmillis := Except.ok.inj (hread.symm.trans (hshows _ htimeout _ rfl))
    exact ⟨c, hc, (hprod hlower).1, hmillis.symm⟩
  · refine (settings_explicit (production "5 s")).2.1 _ htimeout "5 s" rfl fun n hn => ?_
    have hread : (Decimal.readWhole (.unsigned 64) "5 s").map Int.toNat = .error .invalidDigit := by
      rfl
    cases hread.symm.trans hn

end GroupAccess
