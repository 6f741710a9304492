import Gatehouse.Text.Ascii
import Gatehouse.Text.Split

/-!
# Who may stay signed in

The mail domains and addresses whose owners keep their sessions.
-/

namespace Gatehouse

/-- A list of admitted domains, each with an at sign in front, and of admitted
addresses, all in lower case. -/
structure EmailAllowList where
  anyDomain : Bool
  domains : List String
  addresses : List String
  deriving DecidableEq, Repr

namespace EmailAllowList

/-- The form in which entries and addresses are compared. -/
def normalize (text : String) : String :=
  Text.lower (Text.trim text)

/-- The suffix that addresses of a domain have; leading at signs of the entry do not
count. -/
def suffix (domain : String) : String :=
  String.ofList ('@' :: domain.toList.dropWhile (· == '@'))

/-- The list of given domains and addresses. Blank entries are ignored, and a star
admits every domain. -/
def ofEntries (domains addresses : List String) : EmailAllowList :=
  let normalized := domains.map normalize
  { anyDomain := normalized.contains "*"
    domains := (normalized.filter fun domain => domain != "*" && domain != "").map suffix
    addresses := (addresses.map normalize).filter (· != "") }

/-- The list that admits every address. -/
def any : EmailAllowList :=
  ofEntries ["*"] []

/-- Whether the owner of an address is admitted. -/
def allows (list : EmailAllowList) (email : String) : Bool :=
  let address := normalize email
  address != "" &&
    (list.anyDomain || list.addresses.contains address
      || list.domains.any fun domain => Text.endsWith domain address)

end EmailAllowList
end Gatehouse
