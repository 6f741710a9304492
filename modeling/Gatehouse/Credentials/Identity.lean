import Gatehouse.Text.Ascii

/-!
# Identities and groups

What a check of credentials yields, and the policy that decides which groups may sign in.
-/

namespace Gatehouse

/-- Who somebody is. The groups are absent when they are not known. -/
structure Identity where
  user : String
  email : Option String
  groups : Option (List String)
  deriving DecidableEq, Repr

/-- The identity of a user of whom nothing else is known. -/
def Identity.ofUser (user : String) : Identity :=
  ⟨user, none, none⟩

/-- The groups whose members may sign in. Without any group everybody may. -/
structure GroupPolicy where
  allowed : List String
  deriving DecidableEq, Repr

namespace GroupPolicy

/-- Whether the policy excludes anybody. -/
def isRestricted (policy : GroupPolicy) : Bool :=
  !policy.allowed.isEmpty

/-- Whether somebody with these groups may sign in. Names of groups compare without
regard to the case of ASCII letters; unknown groups satisfy no restriction. -/
def permits (policy : GroupPolicy) (groups : Option (List String)) : Bool :=
  if policy.allowed.isEmpty then true
  else
    match groups with
    | none => false
    | some known => policy.allowed.any fun allowed =>
        known.any fun group => Text.sameIgnoringCase group allowed

end GroupPolicy
end Gatehouse
