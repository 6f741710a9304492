import Gatehouse.Proofs.Url.Origin

/-!
# References that begin with a slash

A reference that begins with a slash stays on the server of the base if the next
character that counts is no slash. Else what follows the slashes names a server, and all
that the reference takes from the base is its scheme. Backslashes are slashes here.
-/

namespace Gatehouse
namespace Url

open Text

/-- Whether a character divides the path of an address of the web. -/
def isSlash (char : Char) : Bool :=
  char == '/' || char == '\\'

/-- The characters that count behind a slash in front of a text. -/
def significantBehind (chars : List Char) : List Char :=
  (chars.rdropWhile fun char => char.toNat ≤ 0x20).filter fun char =>
    char != '\t' && char != '\n' && char != '\r'

/-- A slash in front of a text counts. -/
theorem significant_slash (rest : List Char) :
    significant (String.ofList ('/' :: rest)) = '/' :: significantBehind rest := by
  have trimmed : trimBoth (fun char => char.toNat ≤ 0x20) ('/' :: rest) =
      '/' :: rest.rdropWhile fun char => char.toNat ≤ 0x20 := by
    rw [trimBoth, List.dropWhile_cons_of_neg (by decide)]
    exact rdropWhile_append_cons_of_neg (by decide) [] rest
  rw [significant, String.toList_ofList, trimmed, List.filter_cons_of_pos (by decide)]
  rfl

/-- A slash behind tabs counts, and the tabs do not. -/
theorem significantBehind_tabs
    {slash : Char}
    (isSlash : isSlash slash = true)
    {tabs : List Char}
    (areTabs : ∀ char ∈ tabs, char = '\t')
    (rest : List Char) :
    significantBehind (tabs ++ slash :: rest) = slash :: significantBehind rest := by
  have either : slash = '/' ∨ slash = '\\' := by simpa [Url.isSlash] using isSlash
  have trimmed : (tabs ++ slash :: rest).rdropWhile (fun char => char.toNat ≤ 0x20) =
      tabs ++ slash :: rest.rdropWhile fun char => char.toNat ≤ 0x20 := by
    apply rdropWhile_append_cons_of_neg
    rcases either with rfl | rfl <;> decide
  unfold significantBehind
  rw [trimmed, List.filter_append, List.filter_eq_nil_iff.mpr, List.nil_append,
    List.filter_cons_of_pos]
  · rcases either with rfl | rfl <;> rfl
  · intro char isTab
    rw [areTabs char isTab]
    decide

/-- A slash in front is a slash in front of the query and the fragment. -/
theorem any_head?_front_splitTail (chars : List Char) :
    (splitTail chars).front.head?.any isSlash = chars.head?.any isSlash := by
  cases chars with
  | nil => rfl
  | cons char rest =>
      by_cases isHash : char = '#'
      · subst isHash
        rfl
      by_cases isMark : char = '?'
      · subst isMark
        unfold splitTail
        rw [splitFirst?_cons_of_ne (by decide)]
        cases splitFirst? ['#'] rest <;> rfl
      rw [splitTail_cons isHash isMark]
      rfl

/-- A reference behind a slash names a server behind another slash, and else a path. -/
theorem resolve_slash (base : Url) (rest : List Char) :
    let behind := significantBehind rest
    resolve base (String.ofList ('/' :: rest)) =
      if behind.head?.any isSlash then afterSlashes base.scheme (behind.dropWhile isSlash)
      else .ok { base with
                 path := pathFrom .special [] (splitTail behind).front
                 query := encodeQuery .special (splitTail behind).query
                 fragment := encodeFragment (splitTail behind).fragment } := by
  intro behind
  have relative : splitScheme? ('/' :: behind) = none := rfl
  have sameSlash := any_head?_front_splitTail behind
  rw [resolve, significant_slash, relative]
  simp only
  rw [relativeTo, splitTail_slash]
  simp only
  rw [if_pos (by decide)]
  exact if_congr (by rw [← sameSlash]; rfl) rfl rfl

end Url
end Gatehouse
