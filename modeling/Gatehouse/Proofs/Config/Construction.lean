import Gatehouse.Config.Validation
import Gatehouse.Proofs.Outcome
import Gatehouse.Proofs.Routing.Mounts
import Gatehouse.Startup

/-!
# Building a checked proxy

The check of a configuration and the parts of a proxy read the same settings, each in
its own way. Where the check has nothing to say about a setting, the part that is made
of it can be made, with two exceptions: the check reads neither the names of header
fields nor the mounts that addresses have. A checked configuration is built exactly when
these are in order too, and the error names one that is not.
-/

namespace Gatehouse

namespace Headers

/-- A field may be named by any token that is not too long. -/
def IsName (text : String) : Prop :=
  text ≠ "" ∧ text.toList.all Text.isTokenChar = true ∧ text.toList.length ≤ maxNameLength

instance (text : String) : Decidable (IsName text) :=
  inferInstanceAs (Decidable (_ ∧ _ ∧ _))

theorem name?_eq (text : String) :
    name? text = if IsName text then some (Text.lower text) else none := by
  have accepted : (!text.toList.isEmpty && text.toList.all Text.isTokenChar &&
      decide (text.toList.length ≤ maxNameLength)) = true ↔ IsName text := by
    simp [IsName, and_assoc]
  unfold name?
  simp only [accepted]

end Headers

namespace Config

/-- A problem is reported if there is one. -/
theorem problemIf_eq_nil_iff
    {wrong : Bool}
    {problem : Problem} :
    problemIf wrong problem = [] ↔ wrong = false := by
  cases wrong <;> simp [problemIf]

/-- The check finds nothing wrong with an address if it can be read and mounted. -/
theorem addressProblems_eq_nil_iff
    {given : String} :
    addressProblems given = [] ↔ ∃ url, Url.ofText given = .ok url ∧ url.IsMountable := by
  have mountable : ∀ url : Url,
      url.IsMountable ↔ ["http", "https", "file"].contains url.scheme = true := by
    intro url
    simp [Url.IsMountable]
  unfold addressProblems
  cases read : Url.ofText given with
  | error cause => simp
  | ok url =>
      simp only [problemIf_eq_nil_iff, Bool.not_eq_false', Except.ok.injEq,
        exists_eq_left', mountable]

/-- The check finds nothing wrong with a key for signatures if it makes a signer. -/
theorem signatureProblems_eq_nil_iff
    {key : String} :
    signatureProblems key = [] ↔ ∃ signer, RequestSigner.ofText key = .ok signer := by
  unfold signatureProblems RequestSigner.ofText
  cases Text.splitOnce? ":" key with
  | none => simp
  | some parts =>
      obtain ⟨name, secret⟩ := parts
      by_cases noSecret : secret = ""
      · simp [noSecret]
      · cases known : Crypto.HashAlgorithm.ofName name with
        | error unknown => simp [noSecret, known]
        | ok algorithm => simp [noSecret, known]

/-- The check looks at the patterns and ranges of passed requests, not at names of
fields. -/
theorem SkipAuth.problems_eq_nil_iff
    {skipAuth : SkipAuth} :
    skipAuth.problems = [] ↔
      (∀ given ∈ skipAuth.patterns, ∃ pattern, Whitelist.patternOf given = .ok pattern) ∧
        ∀ given ∈ skipAuth.ranges, ∃ range, Whitelist.rangeOf given = .ok range := by
  unfold SkipAuth.problems
  rw [List.append_eq_nil_iff, List.map_eq_nil_iff, List.filter_eq_nil_iff,
    List.flatMap_eq_nil_iff]
  refine and_congr (forall₂_congr fun given _ => ?_) (forall₂_congr fun given _ => ?_)
  · unfold Whitelist.patternOf
    cases Regex.ofText? given with
    | none => simp
    | some pattern => simp
  · unfold Whitelist.rangeOf
    cases AddressRange.ofText given with
    | error invalid => simp
    | ok range => simp

/-- The check finds something wrong with every cookie that no sealer can be made of. -/
theorem Cookie.exists_sealer
    {cookie : Cookie}
    (unobjectionable : cookie.problems = []) :
    ∃ sealer, Startup.sealer cookie = .ok sealer := by
  unfold Cookie.problems at unobjectionable
  simp only [List.append_eq_nil_iff, problemIf_eq_nil_iff] at unobjectionable
  obtain ⟨⟨⟨⟨⟨-, hasSecret⟩, hashKnown⟩, -⟩, -⟩, keyLegal⟩ := unobjectionable
  unfold Startup.sealer
  cases known : Crypto.HashAlgorithm.ofName cookie.hash with
  | error unknown =>
      rw [known] at hashKnown
      cases hashKnown
  | ok algorithm =>
      by_cases unrefreshed : cookie.refresh = 0
      · exact ⟨_, if_pos unrefreshed⟩
      · have legal :
            Crypto.isKeyLength (Crypto.Cipher.secretBytes cookie.secret).length =
              true := by
          simpa [unrefreshed, bne, hasSecret] using keyLegal
        have made : Crypto.Cipher.ofSecret cookie.secret =
            .ok ⟨Crypto.Cipher.secretBytes cookie.secret, legal⟩ :=
          dif_pos legal
        rw [made]
        exact ⟨_, if_neg unrefreshed⟩

/-- Every address of checked backends has a route. -/
theorem Proxy.exists_route
    {proxy : Proxy}
    (unobjectionable : proxy.problems = [])
    {given : String}
    (present : given ∈ proxy.addresses) :
    ∃ route, Route.ofText proxy.passHostHeader given = .ok route := by
  unfold Proxy.problems at unobjectionable
  simp only [List.append_eq_nil_iff, List.flatMap_eq_nil_iff] at unobjectionable
  obtain ⟨⟨⟨-, addressesMountable⟩, -⟩, -⟩ := unobjectionable
  exact Route.exists_ofText_iff.mpr
    (addressProblems_eq_nil_iff.mp (addressesMountable given present))

/-- A checked key, or none, makes a signer, or none. -/
theorem Proxy.exists_signer
    {proxy : Proxy}
    (unobjectionable : proxy.problems = []) :
    ∃ signer, Startup.signer proxy = .ok signer := by
  unfold Proxy.problems at unobjectionable
  simp only [List.append_eq_nil_iff] at unobjectionable
  obtain ⟨⟨-, keyUsable⟩, -⟩ := unobjectionable
  unfold Startup.signer nonEmpty
  cases isKey : proxy.signatureKey.filter (· != "") with
  | none => exact ⟨none, rfl⟩
  | some key =>
      rw [(Option.filter_eq_some_iff.mp isKey).1] at keyUsable
      obtain ⟨signer, made⟩ := signatureProblems_eq_nil_iff.mp keyUsable
      refine ⟨some signer, ?_⟩
      simp only
      rw [made]
      rfl

/-- The settings of a checked configuration are checked, section by section. -/
theorem problems_eq_nil_of_isValid
    {config : Config}
    (valid : config.isValid = true) :
    config.cookie.problems = [] ∧ config.proxy.problems = [] ∧
    config.skipAuth.problems = [] := by
  have none : config.problems = [] := List.isEmpty_iff.mp valid
  unfold problems at none
  simp only [List.append_eq_nil_iff] at none
  obtain ⟨⟨⟨⟨⟨⟨-, cookie⟩, proxy⟩, skipAuth⟩, -⟩, -⟩, -⟩ := none
  exact ⟨cookie, proxy, skipAuth⟩

end Config

namespace Whitelist

/-- The text that names a field: without outer blanks, unless nothing is left. -/
def headerText? (given : Option String) : Option String :=
  (given.map Text.trim).filter (· != "")

/-- A setting names a field if it is blank, or its text may name one. -/
def NamesField (given : Option String) : Prop :=
  ∀ text, headerText? given = some text → Headers.IsName text

instance (given : Option String) : Decidable (NamesField given) :=
  inferInstanceAs (Decidable (∀ text ∈ headerText? given, Headers.IsName text))

theorem headerOf_of_blank
    {given : Option String}
    (blank : headerText? given = none) :
    headerOf given = .ok none := by
  unfold headerText? at blank
  unfold headerOf
  rw [blank]

/-- A named field is read if it may be one, and else named in the error. -/
theorem headerOf_of_headerText?
    {given : Option String}
    {text : String}
    (isText : headerText? given = some text) :
    headerOf given =
      if Headers.IsName text then .ok (some (Text.lower text))
      else .error (.headerName text) := by
  unfold headerText? at isText
  unfold headerOf
  rw [isText]
  by_cases isName : Headers.IsName text
  · simp [Headers.name?_eq, isName]
  · simp [Headers.name?_eq, isName]

/-- A setting is read if it names a field. -/
theorem exists_headerOf_iff
    {given : Option String} :
    (∃ header, headerOf given = .ok header) ↔ NamesField given := by
  unfold NamesField
  cases isText : headerText? given with
  | none =>
      rw [headerOf_of_blank isText]
      simp
  | some text =>
      rw [headerOf_of_headerText? isText]
      by_cases isName : Headers.IsName text
      · simp [isName]
      · simp [isName]

/-- A setting that cannot be read does not name a field, and the error shows it. -/
theorem headerOf_eq_error_iff
    {given : Option String}
    {cause : WhitelistError} :
    headerOf given = .error cause ↔
      ∃ text, headerText? given = some text ∧ ¬Headers.IsName text ∧
        cause = .headerName text := by
  cases isText : headerText? given with
  | none =>
      rw [headerOf_of_blank isText]
      simp
  | some text =>
      rw [headerOf_of_headerText? isText]
      by_cases isName : Headers.IsName text
      · simp [isName]
      · simp [isName, eq_comm]

variable {config : Config.SkipAuth}

/-- A configuration is accepted if its patterns, ranges and named fields can be read. -/
theorem exists_ofConfig_iff_settings :
    (∃ whitelist, ofConfig config = .ok whitelist) ↔
      (∀ given ∈ config.patterns, ∃ pattern, patternOf given = .ok pattern) ∧
        (∀ given ∈ config.ranges, ∃ range, rangeOf given = .ok range) ∧
          NamesField config.realHeader ∧ NamesField config.proxyHeader := by
  rw [← exists_headerOf_iff, ← exists_headerOf_iff, ← Outcome.exists_mapM_iff,
    ← Outcome.exists_mapM_iff]
  unfold ofConfig
  constructor
  · rintro ⟨whitelist, accepted⟩
    obtain ⟨patterns, arePatterns, accepted⟩ := Outcome.bind_eq_ok_iff.mp accepted
    obtain ⟨ranges, areRanges, accepted⟩ := Outcome.bind_eq_ok_iff.mp accepted
    obtain ⟨realHeader, isReal, accepted⟩ := Outcome.bind_eq_ok_iff.mp accepted
    obtain ⟨proxyHeader, isProxy, -⟩ := Outcome.bind_eq_ok_iff.mp accepted
    exact ⟨⟨patterns, arePatterns⟩, ⟨ranges, areRanges⟩, ⟨realHeader, isReal⟩,
      ⟨proxyHeader, isProxy⟩⟩
  · rintro ⟨⟨patterns, arePatterns⟩, ⟨ranges, areRanges⟩, ⟨realHeader, isReal⟩,
      ⟨proxyHeader, isProxy⟩⟩
    rw [arePatterns, areRanges, isReal, isProxy]
    exact ⟨_, rfl⟩

/-- With checked patterns and ranges, only the names of fields are left to be read. -/
theorem ofConfig_of_checked
    (unobjectionable : config.problems = []) :
    ∃ patterns ranges, ofConfig config = do
      let realHeader ← headerOf config.realHeader
      let proxyHeader ← headerOf config.proxyHeader
      return ⟨patterns, ranges, config.preflight, ⟨realHeader, proxyHeader⟩⟩ := by
  obtain ⟨patternsRead, rangesRead⟩ :=
    Config.SkipAuth.problems_eq_nil_iff.mp unobjectionable
  obtain ⟨patterns, arePatterns⟩ := Outcome.exists_mapM_iff.mpr patternsRead
  obtain ⟨ranges, areRanges⟩ := Outcome.exists_mapM_iff.mpr rangesRead
  refine ⟨patterns, ranges, ?_⟩
  unfold ofConfig
  rw [arePatterns, areRanges]
  rfl

/-- With checked patterns and ranges, the requests that pass are described if the
settings name fields. -/
theorem exists_ofConfig_iff
    (unobjectionable : config.problems = []) :
    (∃ whitelist, ofConfig config = .ok whitelist) ↔
      NamesField config.realHeader ∧ NamesField config.proxyHeader := by
  obtain ⟨patternsRead, rangesRead⟩ :=
    Config.SkipAuth.problems_eq_nil_iff.mp unobjectionable
  rw [exists_ofConfig_iff_settings]
  exact ⟨fun accepted => accepted.2.2, fun named => ⟨patternsRead, rangesRead, named⟩⟩

/-- With checked patterns and ranges, the error shows a setting that names no field. -/
theorem exists_headerText?_of_ofConfig_error
    (unobjectionable : config.problems = [])
    {cause : WhitelistError}
    (fails : ofConfig config = .error cause) :
    ∃ given ∈ [config.realHeader, config.proxyHeader], ∃ text,
      headerText? given = some text ∧ ¬Headers.IsName text ∧
      cause = .headerName text := by
  obtain ⟨patterns, ranges, isRest⟩ := ofConfig_of_checked unobjectionable
  rw [isRest] at fails
  rcases Outcome.bind_eq_error_iff.mp fails with real | ⟨realHeader, -, fails⟩
  · exact ⟨_, List.mem_cons_self, headerOf_eq_error_iff.mp real⟩
  · rcases Outcome.bind_eq_error_iff.mp fails with proxy | ⟨proxyHeader, -, fails⟩
    · exact ⟨_, List.mem_cons_of_mem _ List.mem_cons_self, headerOf_eq_error_iff.mp proxy⟩
    · cases fails

end Whitelist

namespace Startup

/-- The password file can be read if one is named. -/
def Readable (supplies : Supplies) (config : Config) : Prop :=
  ∀ path, nonEmpty config.htpasswd.path = some path → (supplies.file path).isSome = true

/-- The settings for clients behind proxies name fields, where they name anything. -/
def NamesFields (skipAuth : Config.SkipAuth) : Prop :=
  Whitelist.NamesField skipAuth.realHeader ∧ Whitelist.NamesField skipAuth.proxyHeader

instance (skipAuth : Config.SkipAuth) : Decidable (NamesFields skipAuth) :=
  inferInstanceAs (Decidable (_ ∧ _))

/-- No two addresses have the same mount. -/
def MountsApart (proxy : Config.Proxy) : Prop :=
  (proxy.addresses.map mountOf?).Nodup

instance (proxy : Config.Proxy) : Decidable (MountsApart proxy) :=
  inferInstanceAs (Decidable (List.Nodup _))

variable {supplies : Supplies}
variable {config : Config}

/-- A password file that can be read is read. -/
theorem exists_htpasswd
    (readable : Readable supplies config) :
    ∃ file, htpasswd supplies config.htpasswd = .ok file := by
  unfold htpasswd
  cases named : nonEmpty config.htpasswd.path with
  | none => exact ⟨none, rfl⟩
  | some path =>
      obtain ⟨content, isContent⟩ := Option.isSome_iff_exists.mp (readable path named)
      simp only
      rw [isContent]
      exact ⟨_, rfl⟩

/-- Of a checked proxy, only the passed requests and then the routes may fail. -/
theorem build_cases
    (valid : config.isValid = true)
    (readable : Readable supplies config) :
    (∃ cause, Whitelist.ofConfig config.skipAuth = .error cause ∧
        build supplies config = .error (.whitelist cause)) ∨
      (∃ whitelist, Whitelist.ofConfig config.skipAuth = .ok whitelist ∧
        ∃ cause, Router.routesOf config.proxy.passHostHeader config.proxy.addresses =
          .error cause ∧
          build supplies config = .error (.router cause)) ∨
      ∃ whitelist, Whitelist.ofConfig config.skipAuth = .ok whitelist ∧
        ∃ routes, Router.routesOf config.proxy.passHostHeader config.proxy.addresses =
          .ok routes ∧
          ∃ gateway, build supplies config = .ok gateway := by
  obtain ⟨cookie, proxy, -⟩ := Config.problems_eq_nil_of_isValid valid
  obtain ⟨sealer, isSealer⟩ := Config.Cookie.exists_sealer cookie
  obtain ⟨file, isFile⟩ := exists_htpasswd readable
  obtain ⟨signer, isSigner⟩ := Config.Proxy.exists_signer proxy
  unfold build Router.ofAddresses
  rw [isSealer, isFile, isSigner]
  cases Whitelist.ofConfig config.skipAuth with
  | error cause => exact .inl ⟨cause, rfl, rfl⟩
  | ok whitelist =>
      cases Router.routesOf config.proxy.passHostHeader config.proxy.addresses with
      | error cause => exact .inr (.inl ⟨whitelist, rfl, cause, rfl, rfl⟩)
      | ok routes => exact .inr (.inr ⟨whitelist, rfl, routes, rfl, _, rfl⟩)

/-- What a proxy takes over from its configuration, and from what is supplied. -/
theorem settings_of_build
    {gateway : Gateway}
    (built : build supplies config = .ok gateway) :
    gateway.paths = SystemPaths.under config.proxy.start ∧
      gateway.cookies = cookies config.cookie ∧
      gateway.identity = identity config.proxy ∧
      gateway.pages = ⟨config.proxy.start, config.proxy.signInMessage,
        config.proxy.footer⟩ ∧
      gateway.engine.lifetime = ⟨config.cookie.expire, config.cookie.refresh⟩ ∧
      gateway.engine.refresher = supplies.refresher ∧
      gateway.engine.validator = supplies.validator ∧
      gateway.engine.admits = (EmailAllowList.ofEntries config.validator.emailDomains
        config.validator.authenticatedEmails).allows := by
  unfold build at built
  obtain ⟨sealer, -, built⟩ := Outcome.bind_eq_ok_iff.mp built
  obtain ⟨file, -, built⟩ := Outcome.bind_eq_ok_iff.mp built
  obtain ⟨whitelist, -, built⟩ := Outcome.bind_eq_ok_iff.mp built
  obtain ⟨signer, -, built⟩ := Outcome.bind_eq_ok_iff.mp built
  obtain ⟨router, -, built⟩ := Outcome.bind_eq_ok_iff.mp built
  cases built
  dsimp only
  exact ⟨rfl, rfl, rfl, rfl, rfl, rfl, rfl, rfl⟩

/-- The addresses of a checked configuration all have routes. -/
theorem exists_route_of_isValid
    (valid : config.isValid = true) :
    ∀ given ∈ config.proxy.addresses, ∃ route,
      Route.ofText config.proxy.passHostHeader given = .ok route :=
  fun _ present =>
    Config.Proxy.exists_route (Config.problems_eq_nil_of_isValid valid).2.1 present

/-- A checked proxy is built if the settings name fields and the mounts differ. -/
theorem exists_build_iff
    (valid : config.isValid = true)
    (readable : Readable supplies config) :
    (∃ gateway, build supplies config = .ok gateway) ↔
      NamesFields config.skipAuth ∧ MountsApart config.proxy := by
  unfold NamesFields MountsApart
  rw [← Whitelist.exists_ofConfig_iff (Config.problems_eq_nil_of_isValid valid).2.2,
    ← Router.exists_routesOf_iff (exists_route_of_isValid valid)]
  rcases build_cases valid readable with
    ⟨cause, undescribed, fails⟩ | ⟨whitelist, isWhitelist, cause, unmounted, fails⟩ |
      ⟨whitelist, isWhitelist, routes, areRoutes, gateway, built⟩
  · simp [undescribed, fails]
  · simp [unmounted, fails]
  · exact ⟨fun _ => ⟨⟨whitelist, isWhitelist⟩, ⟨routes, areRoutes⟩⟩,
      fun _ => ⟨gateway, built⟩⟩

/-- The error of a checked proxy shows an unusable field, or else the first repeated
mount. -/
theorem cause_of_build_error
    (valid : config.isValid = true)
    (readable : Readable supplies config)
    {cause : StartupError}
    (failed : build supplies config = .error cause) :
    (∃ given ∈ [config.skipAuth.realHeader, config.skipAuth.proxyHeader], ∃ text,
      Whitelist.headerText? given = some text ∧ ¬Headers.IsName text ∧
        cause = .whitelist (.headerName text)) ∨
      NamesFields config.skipAuth ∧ ∃ mount,
        Router.FirstRepeated config.proxy.addresses mount ∧
          cause = .router (.duplicateMount mount.text) := by
  have skipAuth := (Config.problems_eq_nil_of_isValid valid).2.2
  rcases build_cases valid readable with
    ⟨original, undescribed, fails⟩ |
      ⟨whitelist, isWhitelist, original, unmounted, fails⟩ |
      ⟨whitelist, isWhitelist, routes, areRoutes, gateway, built⟩
  · rw [fails] at failed
    cases failed
    obtain ⟨given, isSetting, text, isText, notName, rfl⟩ :=
      Whitelist.exists_headerText?_of_ofConfig_error skipAuth undescribed
    exact .inl ⟨given, isSetting, text, isText, notName, rfl⟩
  · rw [fails] at failed
    cases failed
    obtain ⟨mount, repeated, rfl⟩ :=
      Router.firstRepeated_of_error (exists_route_of_isValid valid) unmounted
    have namesFields :=
      (Whitelist.exists_ofConfig_iff skipAuth).mp ⟨whitelist, isWhitelist⟩
    exact .inr ⟨namesFields, mount, repeated, rfl⟩
  · rw [built] at failed
    cases failed

/-- The check and the parts of a proxy agree on all settings but the names of fields and
the mounts. A checked proxy is built exactly when the settings name fields and the
mounts differ; otherwise the error shows which of these fails, and where. -/
theorem checked_is_built_iff
    (supplies : Supplies)
    (config : Config)
    (valid : config.isValid = true)
    (readable : Readable supplies config) :
    ((∃ gateway, build supplies config = .ok gateway) ↔
        NamesFields config.skipAuth ∧ MountsApart config.proxy) ∧
      ∀ cause, build supplies config = .error cause →
        (∃ given ∈ [config.skipAuth.realHeader, config.skipAuth.proxyHeader], ∃ text,
          Whitelist.headerText? given = some text ∧ ¬Headers.IsName text ∧
            cause = .whitelist (.headerName text)) ∨
        NamesFields config.skipAuth ∧ ∃ mount,
          Router.FirstRepeated config.proxy.addresses mount ∧
            cause = .router (.duplicateMount mount.text) :=
  ⟨exists_build_iff valid readable, fun _ => cause_of_build_error valid readable⟩

/-- A configuration with two mounts, a password file and a field for the addresses of
clients. -/
def twofold : Config where
  cookie := { secret := "0123456789abcdef", refresh := 3600 }
  proxy :=
    { addresses := ["http://app.internal/", "file:///srv/www#/static/"]
      signatureKey := some "sha256:key" }
  skipAuth :=
    { patterns := ["^/health$"], ranges := ["10.0.0.0/8"]
      realHeader := some " X-Real-IP " }
  htpasswd := { path := some "users" }

/-- What a configuration names where every file has the same content. -/
def withUser (content : String) : Supplies where
  file _ := some content
  server _ _ _ := .unreachable (.connect "refused")
  directory := none
  refresher := neverRefresh
  validator := alwaysValid

/-- The mounts of `twofold` differ, and its setting names a field, so that it is built. -/
theorem twofold_is_built :
    ∃ gateway, build (withUser "alice:secret") twofold = .ok gateway :=
  (checked_is_built_iff (withUser "alice:secret") twofold (by decide +kernel)
    (fun _ _ => rfl)).1.mpr (by decide +kernel)

/-- Why a proxy is not built, if it is not. -/
def failure? (supplies : Supplies) (config : Config) : Option StartupError :=
  match build supplies config with
  | .error cause => some cause
  | .ok _ => none

/-- The check accepts an unusable field and a repeated mount, and no proxy is built. -/
theorem checked_but_not_built :
    let nameless := { twofold with skipAuth := { realHeader := some "real ip" } }
    let crowded :=
      { twofold with proxy := { addresses := ["http://app.internal/", "http://web/"] } }
    nameless.isValid = true ∧
      failure? (withUser "alice:secret") nameless =
        some (.whitelist (.headerName "real ip")) ∧
      crowded.isValid = true ∧
      failure? (withUser "alice:secret") crowded =
        some (.router (.duplicateMount "/")) := by
  decide +kernel

end Startup
end Gatehouse
