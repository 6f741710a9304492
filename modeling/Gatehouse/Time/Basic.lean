import Gatehouse.Text.Decimal

/-!
# Points of time

Times are whole seconds since 1970. A clock may be finer; tokens, ages and the dates of
cookies keep only the seconds that are full, so what is said of a time holds throughout
its second. The age of something that was made at one time and is looked at at another
is the time between the two, and zero if the order is wrong.
-/

namespace Gatehouse

/-- A point of time in full seconds since 1970. -/
abbrev Time := Int

/-- The number of seconds from one time to another, zero if the second comes first.
Differences beyond the signed numbers of 64 bits stop at their limits. -/
def elapsed (issued now : Time) : Nat :=
  (min (now - issued) Text.Decimal.maxSigned64).toNat

end Gatehouse
