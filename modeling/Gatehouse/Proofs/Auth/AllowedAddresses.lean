import Gatehouse.Auth.EmailAllowList
import Gatehouse.Proofs.Text.Trimming
import Mathlib.Data.Bool.AllAny

/-!
# Whose address is admitted

A list admits an address by the domain behind the last at sign, although it is the end
of the whole address that is looked at: as no domain of the list has an at sign, an
address that ends with an at sign and a domain has no other at sign behind that one. The
entries and the addresses count without the blanks at their ends and in either case of
the letters.
-/

namespace Gatehouse
namespace EmailAllowList

open Text

/-- The domain that an entry is for. At signs in front of it do not count. -/
def domainOf (entry : String) : String :=
  String.ofList ((normalize entry).toList.dropWhile (· == '@'))

/-- An address of a domain: anything, the last at sign, and the domain. -/
def IsOfDomain (address domain : String) : Prop :=
  ∃ owner, address = owner ++ "@" ++ domain ∧ '@' ∉ domain.toList

/-- The domain of an address is unique. -/
theorem IsOfDomain.unique
    {address domain other : String}
    (isOf : IsOfDomain address domain)
    (isOfOther : IsOfDomain address other) :
    domain = other := by
  obtain ⟨owner, rfl, free⟩ := isOf
  obtain ⟨otherOwner, same, otherFree⟩ := isOfOther
  have divided := congrArg (splitLast? '@' ∘ String.toList) same
  simp only [Function.comp_apply, String.toList_append] at divided
  have isSign : "@".toList = ['@'] := by decide
  rw [isSign, List.append_assoc, List.append_assoc, List.singleton_append,
    List.singleton_append, splitLast?_append _ free, splitLast?_append _ otherFree,
    Option.some.injEq, Prod.mk.injEq]
    at divided
  exact String.toList_inj.mp divided.2

/-- An address ends in an at sign and a domain exactly if it is of it. -/
theorem endsWith_suffix_iff
    {address entry : String}
    (free : '@' ∉ (domainOf entry).toList) :
    endsWith (suffix (normalize entry)) address = true ↔
      IsOfDomain address (domainOf entry) := by
  have shape :
      (suffix (normalize entry)).toList = "@".toList ++ (domainOf entry).toList := by
    simp [suffix, domainOf]
  rw [endsWith_iff, shape]
  constructor
  · rintro ⟨owner, isAppend⟩
    exact ⟨String.ofList owner, String.toList_inj.mp (by simpa using isAppend.symm), free⟩
  · rintro ⟨owner, rfl, -⟩
    exact ⟨owner.toList, by simp⟩

/-- Texts are compared alike exactly if they differ at most in case and outer blanks. -/
theorem normalize_eq_iff {first second : String} :
    normalize first = normalize second ↔ Restyles first second :=
  lower_trim_eq_iff

/-! ## Lists of entries -/

variable {domains addresses : List String} {email : String}

/-- A list admits what is not empty and is starred, listed or of a listed domain. -/
theorem allows_ofEntries_iff :
    (ofEntries domains addresses).allows email = true ↔
      normalize email ≠ "" ∧
        ((∃ entry ∈ domains, trim entry = "*") ∨
          (∃ address ∈ addresses, normalize email = normalize address) ∨
          ∃ entry ∈ domains, trim entry ≠ "*" ∧ trim entry ≠ "" ∧
            endsWith (suffix (normalize entry)) (normalize email) = true) := by
  have star (entry : String) : normalize entry = "*" ↔ trim entry = "*" :=
    lower_eq_iff_of_unlettered (List.all_iff_forall_prop.mp (by decide))
  have blank (entry : String) : normalize entry = "" ↔ trim entry = "" :=
    lower_eq_iff_of_unlettered (List.all_iff_forall_prop.mp (by decide))
  unfold allows ofEntries
  simp only [Bool.and_eq_true, bne_iff_ne, ne_eq, Bool.or_eq_true, or_assoc,
    List.contains_iff_mem, List.any_eq_true, List.mem_filter, List.mem_map,
    exists_exists_and_eq_and, and_assoc, star, blank]
  refine and_congr_right fun nonempty => or_congr_right (or_congr ⟨?_, ?_⟩ ⟨?_, ?_⟩)
  · rintro ⟨⟨address, present, same⟩, -⟩
    exact ⟨address, present, same.symm⟩
  · rintro ⟨address, present, same⟩
    exact ⟨⟨address, present, same.symm⟩, nonempty⟩
  · rintro ⟨_, ⟨entry, present, unstarred, nonblank, rfl⟩, ends⟩
    exact ⟨entry, present, unstarred, nonblank, ends⟩
  · rintro ⟨entry, present, unstarred, nonblank, ends⟩
    exact ⟨_, ⟨entry, present, unstarred, nonblank, rfl⟩, ends⟩

/-- A list admits an address exactly if one of its entries does so on its own. -/
theorem allows_ofEntries_iff_exists :
    (ofEntries domains addresses).allows email = true ↔
      (∃ entry ∈ domains, (ofEntries [entry] []).allows email = true) ∨
        ∃ address ∈ addresses, (ofEntries [] [address]).allows email = true := by
  simp only [allows_ofEntries_iff, List.mem_singleton, List.not_mem_nil, exists_eq_left,
    false_and, exists_false, false_or, or_false]
  constructor
  · rintro ⟨nonempty,
      ⟨entry, present, star⟩ | ⟨address, present, same⟩ | ⟨entry, present, ends⟩⟩
    · exact .inl ⟨entry, present, nonempty, .inl star⟩
    · exact .inr ⟨address, present, nonempty, same⟩
    · exact .inl ⟨entry, present, nonempty, .inr ends⟩
  · rintro (⟨entry, present, nonempty, star | ends⟩ | ⟨address, present, nonempty, same⟩)
    · exact ⟨nonempty, .inl ⟨entry, present, star⟩⟩
    · exact ⟨nonempty, .inr (.inr ⟨entry, present, ends⟩)⟩
    · exact ⟨nonempty, .inr (.inl ⟨address, present, same⟩)⟩

/-- What a list of domains without at signs and of addresses admits. -/
theorem allows_ofEntries_iff_isOfDomain
    (free : ∀ entry ∈ domains, '@' ∉ (domainOf entry).toList) :
    (ofEntries domains addresses).allows email = true ↔
      normalize email ≠ "" ∧
        ((∃ entry ∈ domains, trim entry = "*") ∨
          (∃ address ∈ addresses, normalize email = normalize address) ∨
          ∃ entry ∈ domains, trim entry ≠ "" ∧
            IsOfDomain (normalize email) (domainOf entry)) := by
  rw [allows_ofEntries_iff]
  refine and_congr_right fun _ => ?_
  constructor
  · rintro (star | listed | ⟨entry, present, -, nonblank, ends⟩)
    · exact .inl star
    · exact .inr (.inl listed)
    · exact .inr (.inr ⟨entry, present, nonblank,
        (endsWith_suffix_iff (free entry present)).mp ends⟩)
  · rintro (star | listed | ⟨entry, present, nonblank, isOf⟩)
    · exact .inl star
    · exact .inr (.inl listed)
    · by_cases star : trim entry = "*"
      · exact .inl ⟨entry, present, star⟩
      · exact .inr (.inr ⟨entry, present, star, nonblank,
          (endsWith_suffix_iff (free entry present)).mpr isOf⟩)

/-- The blanks around entries and addresses, and the case of their letters, do not
matter. -/
theorem allows_ofEntries_of_restyles
    {otherDomains otherAddresses : List String}
    {other : String}
    (sameDomains : List.Forall₂ Restyles domains otherDomains)
    (sameAddresses : List.Forall₂ Restyles addresses otherAddresses)
    (sameEmail : Restyles email other) :
    (ofEntries domains addresses).allows email =
      (ofEntries otherDomains otherAddresses).allows other := by
  have map_eq {texts others : List String} (same : List.Forall₂ Restyles texts others) :
      texts.map normalize = others.map normalize := by
    rw [← List.forall₂_eq_eq_eq, List.forall₂_map_left_iff, List.forall₂_map_right_iff]
    exact same.imp fun _ _ => normalize_eq_iff.mpr
  unfold allows ofEntries
  rw [map_eq sameDomains, map_eq sameAddresses, normalize_eq_iff.mpr sameEmail]

/-- An entry for a domain admits no address of another domain. -/
theorem allows_ofEntries_eq_false
    {entry domain : String}
    (unstarred : trim entry ≠ "*")
    (free : '@' ∉ (domainOf entry).toList)
    (isOf : IsOfDomain (normalize email) domain)
    (different : domain ≠ domainOf entry) :
    (ofEntries [entry] []).allows email = false := by
  rw [← Bool.not_eq_true, allows_ofEntries_iff_isOfDomain (by simpa using free)]
  rintro ⟨-, ⟨_, isEntry, star⟩ | ⟨_, absent, -⟩ | ⟨_, isEntry, -, isOfEntry⟩⟩
  · exact unstarred (List.mem_singleton.mp isEntry ▸ star)
  · exact List.not_mem_nil absent
  · exact different (isOf.unique (List.mem_singleton.mp isEntry ▸ isOfEntry))

/-- A list admits an address that is not empty exactly if there is a star, the address
is listed, or what stands behind its last at sign is a listed domain. Blanks around
texts and the case of letters do not matter, one entry suffices, and an entry for a
domain admits no address of a subdomain. -/
theorem addresses_of_listed_domains_are_admitted :
    (∀ domains addresses, (∀ entry ∈ domains, '@' ∉ (domainOf entry).toList) → ∀ email,
        (ofEntries domains addresses).allows email = true ↔
          normalize email ≠ "" ∧
            ((∃ entry ∈ domains, trim entry = "*") ∨
              (∃ address ∈ addresses, normalize email = normalize address) ∨
              ∃ entry ∈ domains, trim entry ≠ "" ∧
                IsOfDomain (normalize email) (domainOf entry))) ∧
      (∀ domains otherDomains addresses otherAddresses email other,
        List.Forall₂ Restyles domains otherDomains →
        List.Forall₂ Restyles addresses otherAddresses →
        Restyles email other →
        (ofEntries domains addresses).allows email =
          (ofEntries otherDomains otherAddresses).allows other) ∧
      (∀ domains addresses email, (ofEntries domains addresses).allows email = true ↔
        (∃ entry ∈ domains, (ofEntries [entry] []).allows email = true) ∨
          ∃ address ∈ addresses, (ofEntries [] [address]).allows email = true) ∧
      ∀ entry email more, trim entry ≠ "*" → more ≠ "" →
        IsOfDomain (normalize email) (more ++ domainOf entry) →
        (ofEntries [entry] []).allows email = false := by
  refine ⟨fun domains addresses free email => allows_ofEntries_iff_isOfDomain free,
    fun domains otherDomains addresses otherAddresses email other =>
      allows_ofEntries_of_restyles,
    fun domains addresses email => allows_ofEntries_iff_exists, ?_⟩
  intro entry email more unstarred nonempty isOf
  have longer : more ++ domainOf entry ≠ domainOf entry := by
    simpa only [ne_eq, String.append_eq_right_iff] using nonempty
  have free : '@' ∉ (domainOf entry).toList := by
    obtain ⟨-, -, wholeFree⟩ := isOf
    rw [String.toList_append, List.mem_append, not_or] at wholeFree
    exact wholeFree.2
  exact allows_ofEntries_eq_false unstarred free isOf longer

/-- An entry admits its domain in any case, but neither similar domains nor subdomains. -/
theorem example_domain_is_admitted :
    let list := ofEntries [" @Example.com"] ["guest@other.org"]
    list.allows "Alice@example.COM" = true ∧
      list.allows "\talice@example.com " = list.allows "Alice@example.COM" ∧
      (ofEntries [" @Example.com"] []).allows "eve@notexample.com" = false ∧
      (ofEntries [" @Example.com"] []).allows "eve@mail.example.com" = false := by
  obtain ⟨admitted, restyled, -, longer⟩ := addresses_of_listed_domains_are_admitted
  have isSame (text : String) : Restyles text text := normalize_eq_iff.mp rfl
  refine ⟨?_, ?_, ?_, ?_⟩
  · refine (admitted _ _ (by decide +kernel) _).mpr ⟨by decide +kernel, .inr (.inr ?_)⟩
    exact ⟨_, List.mem_singleton_self _, by decide +kernel, "alice", by decide +kernel,
      by decide +kernel⟩
  · exact restyled _ _ _ _ _ _ (.cons (isSame _) .nil) (.cons (isSame _) .nil)
      (normalize_eq_iff.mp (by decide +kernel))
  · exact longer _ _ "not" (by decide +kernel) (by decide)
      ⟨"eve", by decide +kernel, by decide +kernel⟩
  · exact longer _ _ "mail." (by decide +kernel) (by decide)
      ⟨"eve", by decide +kernel, by decide +kernel⟩

end EmailAllowList
end Gatehouse
