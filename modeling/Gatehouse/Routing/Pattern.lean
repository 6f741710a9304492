import Gatehouse.Text.Split

/-!
# Mounts

A mount is the part of the paths of this server that a backend answers: a single path,
or all the paths that begin in one way.
-/

namespace Gatehouse

/-- A mount. -/
inductive PathPattern
  | exact (path : String)
  /-- All the paths that begin like this one, which ends in a slash. -/
  | subtree (start : String)
  deriving DecidableEq, Repr

namespace PathPattern

/-- The mount of a text. A text that ends in a slash stands for a subtree, and no text
at all for everything. -/
def ofText (text : String) : PathPattern :=
  if text = "" then .subtree "/"
  else if text.toList.getLast? = some '/' then .subtree text
  else .exact text

/-- The text of a mount. -/
def text : PathPattern → String
  | .exact path => path
  | .subtree start => start

/-- Whether a path belongs to a mount. Upper and lower case differ. -/
def covers (pattern : PathPattern) (path : String) : Bool :=
  match pattern with
  | .exact only => path == only
  | .subtree start => Text.startsWith start path

/-- Of several mounts of a path, the one with the largest number of octets counts. -/
def specificity (pattern : PathPattern) : Nat :=
  pattern.text.utf8ByteSize

end PathPattern
end Gatehouse
