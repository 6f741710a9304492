import Gatehouse.Access.Whitelist
import Gatehouse.Proofs.Access.ClientAddress
import Gatehouse.Proofs.Config.Construction
import Gatehouse.Proofs.Net.Ranges
import Gatehouse.Proofs.Outcome

/-!
# Which requests pass without authentication

What a configuration lets through is described by its settings alone: the method, the
patterns and the ranges of clients. The description is what the requests that pass are
decided by, in every configuration that is accepted. So the order of the settings does
not matter, further settings take nothing back, and without the settings for clients
behind proxies no field of the header has any influence.
-/

namespace Gatehouse

namespace Config
namespace SkipAuth

/-- The fields that the settings name. Names of fields are kept in lower case. -/
def client (config : SkipAuth) : ClientAddress where
  realHeader := (Whitelist.headerText? config.realHeader).map Text.lower
  proxyHeader := (Whitelist.headerText? config.proxyHeader).map Text.lower

/-- A request passes by method and permissions, a pattern in its path, or a range around
its client. -/
def Passes
    (config : SkipAuth)
    (method path : String)
    (headers : Headers)
    (peer : Option Endpoint) : Prop :=
  (config.preflight = true ∧ method = "OPTIONS") ∨
    (∃ given ∈ config.patterns, ∃ pattern,
      Regex.ofText? given = some pattern ∧ pattern.matchesIn path = true) ∨
    ∃ address, config.client.IsClient headers peer address ∧
      ∃ given ∈ config.ranges, ∃ range, AddressRange.Spells given range ∧
        range.Covers address

/-- The same settings with the patterns and the ranges in another order. -/
structure Reorders (reordered config : SkipAuth) : Prop where
  patterns : reordered.patterns.Perm config.patterns
  ranges : reordered.ranges.Perm config.ranges
  preflight : reordered.preflight = config.preflight
  realHeader : reordered.realHeader = config.realHeader
  proxyHeader : reordered.proxyHeader = config.proxyHeader

/-- The same settings with further patterns and ranges, or with more methods that are
let through. -/
structure Extends (larger config : SkipAuth) : Prop where
  patterns : config.patterns ⊆ larger.patterns
  ranges : config.ranges ⊆ larger.ranges
  preflight : config.preflight = true → larger.preflight = true
  realHeader : larger.realHeader = config.realHeader
  proxyHeader : larger.proxyHeader = config.proxyHeader

variable {config other : SkipAuth}
variable {method path : String}
variable {headers : Headers}
variable {peer : Option Endpoint}

theorem Reorders.extends
    (reorders : other.Reorders config) :
    other.Extends config ∧ config.Extends other where
  left := ⟨reorders.patterns.symm.subset, reorders.ranges.symm.subset,
    reorders.preflight ▸ id, reorders.realHeader, reorders.proxyHeader⟩
  right := ⟨reorders.patterns.subset, reorders.ranges.subset, reorders.preflight ▸ id,
    reorders.realHeader.symm, reorders.proxyHeader.symm⟩

/-- Further settings take nothing back. -/
theorem Passes.mono
    (passes : config.Passes method path headers peer)
    (larger : other.Extends config) :
    other.Passes method path headers peer := by
  rcases passes with ⟨preflight, options⟩ | ⟨given, present, found⟩ |
    ⟨address, isClient, given, present, found⟩
  · exact .inl ⟨larger.preflight preflight, options⟩
  · exact .inr (.inl ⟨given, larger.patterns present, found⟩)
  · have sameClient : other.client = config.client := by
      unfold client
      rw [larger.realHeader, larger.proxyHeader]
    exact .inr (.inr ⟨address, sameClient ▸ isClient, given,
      larger.ranges present, found⟩)

end SkipAuth
end Config

namespace Whitelist

open Config (SkipAuth)

variable {config : SkipAuth}
variable {whitelist : Whitelist}

section Description

/-- A pattern is read if it is one. -/
theorem patternOf_eq_ok_iff
    {given : String}
    {pattern : Regex} :
    patternOf given = .ok pattern ↔ Regex.ofText? given = some pattern := by
  unfold patternOf
  cases Regex.ofText? given <;> simp

/-- A range is read if it is spelled. -/
theorem rangeOf_eq_ok_iff
    {given : String}
    {range : AddressRange} :
    rangeOf given = .ok range ↔ AddressRange.Spells given range := by
  rw [← AddressRange.ofText_eq_ok_iff]
  unfold rangeOf
  cases AddressRange.ofText given <;> simp

/-- The name of a field is read in lower case. -/
theorem eq_of_headerOf_eq_ok
    {given name : Option String}
    (isName : headerOf given = .ok name) :
    name = (headerText? given).map Text.lower := by
  cases isText : headerText? given with
  | none =>
      rw [headerOf_of_blank isText] at isName
      cases isName
      rfl
  | some text =>
      rw [headerOf_of_headerText? isText] at isName
      split_ifs at isName
      cases isName
      rfl

/-- The patterns, the ranges and the fields are those that the configuration describes. -/
structure Describes (config : SkipAuth) (whitelist : Whitelist) : Prop where
  patterns : ∀ pattern, pattern ∈ whitelist.patterns ↔
    ∃ given ∈ config.patterns, Regex.ofText? given = some pattern
  ranges : ∀ range, range ∈ whitelist.ranges ↔
    ∃ given ∈ config.ranges, AddressRange.Spells given range
  preflight : whitelist.preflight = config.preflight
  client : whitelist.client = config.client

/-- An accepted configuration describes what is made of it. -/
theorem describes_of_ofConfig
    (accepted : ofConfig config = .ok whitelist) :
    Describes config whitelist := by
  unfold ofConfig at accepted
  obtain ⟨patterns, arePatterns, accepted⟩ := Outcome.bind_eq_ok_iff.mp accepted
  obtain ⟨ranges, areRanges, accepted⟩ := Outcome.bind_eq_ok_iff.mp accepted
  obtain ⟨realHeader, isReal, accepted⟩ := Outcome.bind_eq_ok_iff.mp accepted
  obtain ⟨proxyHeader, isProxy, accepted⟩ := Outcome.bind_eq_ok_iff.mp accepted
  cases accepted
  refine ⟨fun pattern => ?_, fun range => ?_, rfl, ?_⟩
  · simp only [Outcome.mem_iff_of_mapM_eq_ok arePatterns, patternOf_eq_ok_iff]
  · simp only [Outcome.mem_iff_of_mapM_eq_ok areRanges, rangeOf_eq_ok_iff]
  · rw [eq_of_headerOf_eq_ok isReal, eq_of_headerOf_eq_ok isProxy]
    rfl

/-- The settings of an accepted configuration can be given in any other order. -/
theorem exists_ofConfig_of_reorders
    {other : SkipAuth}
    (accepted : ofConfig config = .ok whitelist)
    (reorders : other.Reorders config) :
    ∃ reordered, ofConfig other = .ok reordered := by
  obtain ⟨patterns, ranges, named⟩ :=
    exists_ofConfig_iff_settings.mp ⟨whitelist, accepted⟩
  refine exists_ofConfig_iff_settings.mpr
    ⟨fun given present => ?_, fun given present => ?_, ?_⟩
  · exact patterns given (reorders.patterns.subset present)
  · exact ranges given (reorders.ranges.subset present)
  · rwa [reorders.realHeader, reorders.proxyHeader]

end Description

section Decision

variable {method path : String}
variable {headers : Headers}
variable {peer : Option Endpoint}

/-- A pattern that is described matches exactly if one of the settings does. -/
theorem any_matchesIn_iff
    (describes : Describes config whitelist) :
    (whitelist.patterns.any fun pattern => pattern.matchesIn path) = true ↔
      ∃ given ∈ config.patterns, ∃ pattern,
        Regex.ofText? given = some pattern ∧ pattern.matchesIn path = true := by
  rw [List.any_eq_true]
  constructor
  · rintro ⟨pattern, present, found⟩
    obtain ⟨given, isSetting, isPattern⟩ := (describes.patterns pattern).mp present
    exact ⟨given, isSetting, pattern, isPattern, found⟩
  · rintro ⟨given, isSetting, pattern, isPattern, found⟩
    exact ⟨pattern, (describes.patterns pattern).mpr ⟨given, isSetting, isPattern⟩, found⟩

/-- A range that is described contains an address exactly if one of the settings covers
it. -/
theorem any_contains_iff
    (describes : Describes config whitelist)
    {address : Address} :
    (whitelist.ranges.any fun range => range.contains address) = true ↔
      ∃ given ∈ config.ranges, ∃ range, AddressRange.Spells given range ∧
        range.Covers address := by
  rw [List.any_eq_true]
  constructor
  · rintro ⟨range, present, found⟩
    obtain ⟨given, isSetting, spells⟩ := (describes.ranges range).mp present
    exact ⟨given, isSetting, range, spells, AddressRange.contains_iff.mp found⟩
  · rintro ⟨given, isSetting, range, spells, covers⟩
    exact ⟨range, (describes.ranges range).mpr ⟨given, isSetting, spells⟩,
      AddressRange.contains_iff.mpr covers⟩

/-- A request passes by its client exactly if it has one that the settings cover. -/
theorem client_passes_iff
    (describes : Describes config whitelist) :
    (match whitelist.client.resolve? headers peer with
      | some address => whitelist.ranges.any fun range => range.contains address
      | none => false) = true ↔
      ∃ address, config.client.IsClient headers peer address ∧
        ∃ given ∈ config.ranges, ∃ range, AddressRange.Spells given range ∧
          range.Covers address := by
  simp only [← ClientAddress.resolve?_eq_some_iff, ← any_contains_iff describes,
    ← describes.client]
  cases whitelist.client.resolve? headers peer with
  | none => simp
  | some address => simp

/-- A request passes exactly if the configuration says so. -/
theorem bypasses_iff_of_ofConfig
    (accepted : ofConfig config = .ok whitelist) :
    whitelist.bypasses method path headers peer = true ↔
      config.Passes method path headers peer := by
  have describes := describes_of_ofConfig accepted
  unfold bypasses Config.SkipAuth.Passes
  rw [Bool.or_eq_true, Bool.or_eq_true, or_assoc, Bool.and_eq_true, beq_iff_eq,
    describes.preflight, any_matchesIn_iff describes]
  exact or_congr_right (or_congr_right (client_passes_iff describes))

/-- Settings in another order let the same requests pass. -/
theorem bypasses_eq_of_reorders
    {other : SkipAuth}
    {reordered : Whitelist}
    (accepted : ofConfig config = .ok whitelist)
    (otherAccepted : ofConfig other = .ok reordered)
    (reorders : other.Reorders config) :
    reordered.bypasses = whitelist.bypasses := by
  obtain ⟨forward, backward⟩ := reorders.extends
  funext method path headers peer
  rw [Bool.eq_iff_iff, bypasses_iff_of_ofConfig accepted,
    bypasses_iff_of_ofConfig otherAccepted]
  exact ⟨fun passes => passes.mono backward, fun passes => passes.mono forward⟩

theorem resolve?_of_blank
    (accepted : ofConfig config = .ok whitelist)
    (noReal : headerText? config.realHeader = none)
    (noProxy : headerText? config.proxyHeader = none) :
    whitelist.client.resolve? headers peer = peer.map (·.address) := by
  rw [(describes_of_ofConfig accepted).client, Config.SkipAuth.client, noReal, noProxy]
  rfl

end Decision

/-- The requests that pass are those that the accepted settings describe. The order of
settings does not matter, further settings take nothing back, and without a field for
the address of the client no field has any influence. -/
theorem passed_requests_are_described
    (config : SkipAuth)
    (whitelist : Whitelist)
    (accepted : ofConfig config = .ok whitelist) :
    (∀ method path headers peer,
        whitelist.bypasses method path headers peer = true ↔
          config.Passes method path headers peer) ∧
      (∀ other : SkipAuth, other.Reorders config →
        ∃ reordered, ofConfig other = .ok reordered ∧
          reordered.bypasses = whitelist.bypasses) ∧
      (∀ (other : SkipAuth) (larger : Whitelist),
        other.Extends config → ofConfig other = .ok larger →
        ∀ method path headers peer, whitelist.bypasses method path headers peer = true →
          larger.bypasses method path headers peer = true) ∧
      (headerText? config.realHeader = none → headerText? config.proxyHeader = none →
        ∀ method path peer first second,
          whitelist.bypasses method path first peer =
            whitelist.bypasses method path second peer) := by
  refine ⟨fun _ _ _ _ => bypasses_iff_of_ofConfig accepted,
    fun other reorders => ?_, ?_, ?_⟩
  · obtain ⟨reordered, otherAccepted⟩ := exists_ofConfig_of_reorders accepted reorders
    exact ⟨reordered, otherAccepted,
      bypasses_eq_of_reorders accepted otherAccepted reorders⟩
  · intro other larger further otherAccepted method path headers peer passes
    rw [bypasses_iff_of_ofConfig accepted] at passes
    rw [bypasses_iff_of_ofConfig otherAccepted]
    exact passes.mono further
  · intro noReal noProxy method path peer first second
    unfold bypasses
    rw [resolve?_of_blank accepted noReal noProxy,
      resolve?_of_blank accepted noReal noProxy]

/-- A configuration for private networks behind proxies, with a range whose last bits do
not count. -/
def privateNetworks : SkipAuth where
  patterns := ["^/health$"]
  ranges := ["10.1.2.3/8", " fd00::/8 "]
  realHeader := some " X-Real-IP "
  proxyHeader := some "X-Forwarded-For"

/-- A header with an empty single address and a list that begins with a private one. -/
def fromPrivateNetwork : Headers where
  fields := [("x-real-ip", Text.Utf8.encode "unknown"),
    ("x-forwarded-for", Text.Utf8.encode "10.200.0.1, 192.0.2.7")]

/-- A request from a private network passes, whatever the order of ranges and unnamed
fields. -/
theorem private_networks_pass :
    let turned : SkipAuth :=
      { privateNetworks with ranges := [" fd00::/8 ", "10.1.2.3/8"] }
    let larger : SkipAuth :=
      { privateNetworks with ranges := ["::1", "10.1.2.3/8", " fd00::/8 "] }
    let unnamed : SkipAuth :=
      { privateNetworks with realHeader := none, proxyHeader := some " " }
    (∃ whitelist, ofConfig turned = .ok whitelist ∧
      whitelist.bypasses "GET" "/" fromPrivateNetwork none = true) ∧
    (∃ whitelist, ofConfig larger = .ok whitelist ∧
      whitelist.bypasses "GET" "/" fromPrivateNetwork none = true) ∧
    ∃ whitelist, ofConfig unnamed = .ok whitelist ∧ ∀ method path peer,
      whitelist.bypasses method path fromPrivateNetwork peer =
        whitelist.bypasses method path Headers.empty peer := by
  intro turned larger unnamed
  obtain ⟨whitelist, accepted⟩ :=
    (exists_ofConfig_iff (by decide +kernel : privateNetworks.problems = [])).mpr
      (by decide +kernel)
  obtain ⟨largerList, largerAccepted⟩ :=
    (exists_ofConfig_iff (by decide +kernel : larger.problems = [])).mpr
      (by decide +kernel)
  obtain ⟨unnamedList, unnamedAccepted⟩ :=
    (exists_ofConfig_iff (by decide +kernel : unnamed.problems = [])).mpr
      (by decide +kernel)
  obtain ⟨decides, reorders, takesNothingBack, -⟩ :=
    passed_requests_are_described privateNetworks whitelist accepted
  have isClient :
      privateNetworks.client.IsClient fromPrivateNetwork none (.v4 0x0AC80001) :=
    ClientAddress.resolve?_eq_some_iff.mp (by decide +kernel)
  have spells : AddressRange.Spells "10.1.2.3/8" ⟨.v4 0x0A010203, 8⟩ :=
    AddressRange.ofText_eq_ok_iff.mp (by decide +kernel)
  have covers : AddressRange.Covers ⟨.v4 0x0A010203, 8⟩ (.v4 0x0AC80001) := by
    change ∀ index < 8, _
    decide
  have passes : whitelist.bypasses "GET" "/" fromPrivateNetwork none = true :=
    (decides "GET" "/" fromPrivateNetwork none).mpr
      (.inr (.inr ⟨_, isClient, _, List.mem_cons_self, _, spells, covers⟩))
  refine ⟨?_, ⟨largerList, largerAccepted, ?_⟩, ⟨unnamedList, unnamedAccepted, ?_⟩⟩
  · obtain ⟨reordered, reorderedAccepted, same⟩ :=
      reorders turned ⟨.refl _, .swap _ _ [], rfl, rfl, rfl⟩
    exact ⟨reordered, reorderedAccepted, same ▸ passes⟩
  · exact takesNothingBack larger largerList
      ⟨List.Subset.refl _, List.subset_cons_self _ _, nofun, rfl,
        rfl⟩ largerAccepted _ _ _ _ passes
  · intro method path peer
    exact (passed_requests_are_described unnamed unnamedList unnamedAccepted).2.2.2 rfl
      (by decide +kernel) method path peer fromPrivateNetwork Headers.empty

end Whitelist
end Gatehouse
