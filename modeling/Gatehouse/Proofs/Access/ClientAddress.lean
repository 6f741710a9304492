import Gatehouse.Access.ClientAddress
import Gatehouse.Proofs.Text.Splitting

/-!
# The client of a request

The client has the address that the field for a single address names, or else the first
one in the field for a list, or else that of the peer. A field names an address if its
first value is a text that spells one; any other field is passed over.
-/

namespace Gatehouse

namespace Text

/-- What stands in front of the first comma, or the whole text if it has none. -/
def firstEntry (text : String) : String :=
  String.ofList (text.toList.takeWhile (· != ','))

theorem head?_pieces (text : String) :
    (pieces ',' text).head? = some (firstEntry text) := by
  unfold pieces firstEntry
  rw [List.head?_map, head?_splitEvery]
  rfl

end Text

namespace ClientAddress

/-- The field for a single address names this one. -/
def NamesAlone (source : ClientAddress) (headers : Headers) (address : Address) : Prop :=
  ∃ name ∈ source.realHeader, ∃ text ∈ headers.firstText? name, parse? text = some address

/-- The field for a list names this address first. -/
def NamesFirst (source : ClientAddress) (headers : Headers) (address : Address) : Prop :=
  ∃ name ∈ source.proxyHeader, ∃ text ∈ headers.firstText? name,
    parse? (Text.firstEntry text) = some address

/-- The address of the client: that of the first source that names one. -/
inductive IsClient
    (source : ClientAddress)
    (headers : Headers)
    (peer : Option Endpoint) : Address → Prop
  | alone {address : Address} (named : source.NamesAlone headers address) :
      IsClient source headers peer address
  | first {address : Address} (noneAlone : ∀ other, ¬source.NamesAlone headers other)
      (named : source.NamesFirst headers address) : IsClient source headers peer address
  | peer {endpoint : Endpoint} (noneAlone : ∀ other, ¬source.NamesAlone headers other)
      (noneFirst : ∀ other, ¬source.NamesFirst headers other)
      (isPeer : peer = some endpoint) :
      IsClient source headers peer endpoint.address

variable {source : ClientAddress}
variable {headers : Headers}
variable {peer : Option Endpoint}
variable {address : Address}

/-- What fails for the empty text holds of the first text exactly if of the first
non-empty one. -/
theorem exists_nonEmptyText?_iff
    {name : String}
    {holds : String → Prop}
    (fails : ¬holds "") :
    (∃ text, headers.nonEmptyText? name = some text ∧ holds text) ↔
      ∃ text ∈ headers.firstText? name, holds text := by
  unfold Headers.nonEmptyText?
  constructor
  · rintro ⟨text, isText, read⟩
    exact ⟨text, (Option.filter_eq_some_iff.mp isText).1, read⟩
  · rintro ⟨text, isText, read⟩
    refine ⟨text, Option.filter_eq_some_iff.mpr ⟨isText, bne_iff_ne.mpr ?_⟩, read⟩
    rintro rfl
    exact fails read

/-- The address that is read in the field for a single one is the one named there. -/
theorem fromReal?_eq_some_iff :
    source.fromReal? headers = some address ↔ source.NamesAlone headers address := by
  unfold fromReal?
  simp only [Option.bind_eq_bind, Option.bind_eq_some_iff]
  exact exists_congr fun name => and_congr_right fun _ => exists_nonEmptyText?_iff nofun

/-- The address that is read in the field for a list is the one named first. -/
theorem fromProxy?_eq_some_iff :
    source.fromProxy? headers = some address ↔ source.NamesFirst headers address := by
  unfold fromProxy?
  simp only [Option.bind_eq_bind, Option.bind_eq_some_iff, Text.head?_pieces,
    Option.some.injEq, exists_eq_left']
  exact exists_congr fun name => and_congr_right fun _ => exists_nonEmptyText?_iff nofun

/-- The field for a single address is passed over if it names none. -/
theorem fromReal?_eq_none_iff :
    source.fromReal? headers = none ↔ ∀ other, ¬source.NamesAlone headers other := by
  simp only [Option.eq_none_iff_forall_ne_some, ne_eq, fromReal?_eq_some_iff]

/-- The field for a list is passed over if it names no address first. -/
theorem fromProxy?_eq_none_iff :
    source.fromProxy? headers = none ↔ ∀ other, ¬source.NamesFirst headers other := by
  simp only [Option.eq_none_iff_forall_ne_some, ne_eq, fromProxy?_eq_some_iff]

/-- The address that is found is that of the client. -/
theorem resolve?_eq_some_iff :
    source.resolve? headers peer = some address ↔
      source.IsClient headers peer address := by
  unfold resolve?
  cases real : source.fromReal? headers with
  | some found =>
      have named := fromReal?_eq_some_iff.mp real
      refine ⟨fun same => .alone (Option.some.inj same ▸ named), fun isClient => ?_⟩
      cases isClient with
      | alone alsoNamed => rw [← fromReal?_eq_some_iff.mpr alsoNamed, real]
      | first noneAlone => exact absurd named (noneAlone found)
      | peer noneAlone => exact absurd named (noneAlone found)
  | none =>
      have noneAlone := fromReal?_eq_none_iff.mp real
      cases proxy : source.fromProxy? headers with
      | some found =>
          have named := fromProxy?_eq_some_iff.mp proxy
          refine ⟨fun same => .first noneAlone (Option.some.inj same ▸ named),
            fun isClient => ?_⟩
          cases isClient with
          | alone alsoNamed => exact absurd alsoNamed (noneAlone address)
          | first _ alsoNamed => rw [← fromProxy?_eq_some_iff.mpr alsoNamed, proxy]
          | peer _ noneFirst => exact absurd named (noneFirst found)
      | none =>
          have noneFirst := fromProxy?_eq_none_iff.mp proxy
          constructor
          · intro isPeer
            obtain ⟨endpoint, isEndpoint, rfl⟩ := Option.map_eq_some_iff.mp isPeer
            exact .peer noneAlone noneFirst isEndpoint
          · intro isClient
            cases isClient with
            | alone alsoNamed => exact absurd alsoNamed (noneAlone address)
            | first _ alsoNamed => exact absurd alsoNamed (noneFirst address)
            | peer _ _ isEndpoint => rw [isEndpoint]; rfl

end ClientAddress
end Gatehouse
