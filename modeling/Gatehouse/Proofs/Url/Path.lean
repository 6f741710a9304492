import Gatehouse.Proofs.Text.Splitting
import Gatehouse.Proofs.Url.Percent
import Gatehouse.Url.Basic
import Mathlib.Tactic.Common

/-!
# Paths that reading leaves alone

Reading a path replaces backslashes, encodes characters and resolves dots. It leaves a
path alone exactly if there is nothing to replace, to encode and to resolve.
-/

namespace Gatehouse
namespace Url

open Text

/-- Whether a segment stands for a directory and not for itself. -/
def IsDots (segment : List Char) : Prop :=
  isSingleDot segment = true ∨ isDoubleDot segment = true

instance (segment : List Char) : Decidable (IsDots segment) :=
  inferInstanceAs (Decidable (_ ∨ _))

/-- What reading leaves alone in a path: literal characters, segments that stay, no
backslash. -/
structure IsPlainPath (chars : List Char) : Prop where
  literal : ∀ char ∈ chars, Percent.IsLiteral Percent.inPath char
  forward : '\\' ∉ chars
  undotted : ∀ segment ∈ splitEvery '/' chars, ¬ IsDots segment

/-- A path is made of its segments. -/
theorem joinSegments_eq
    {parts : List (List Char)}
    (nonempty : parts ≠ []) :
    joinSegments parts = '/' :: List.intercalate ['/'] parts := by
  induction parts with
  | nil => exact absurd rfl nonempty
  | cons part others inductionHypothesis =>
      cases others with
      | nil => simp [joinSegments]
      | cons next more =>
          have behind := inductionHypothesis (List.cons_ne_nil _ _)
          unfold joinSegments at behind ⊢
          rw [List.flatMap_cons, behind, List.intercalate_cons_cons]
          simp

/-- Without dots there is nothing to resolve. -/
theorem resolveDots_of_undotted
    {parts : List (List Char)}
    (undotted : ∀ segment ∈ parts, ¬ IsDots segment)
    (done : List (List Char)) :
    resolveDots .special done parts = parts.reverse ++ done := by
  induction parts generalizing done with
  | nil => rfl
  | cons segment rest inductionHypothesis =>
      obtain ⟨plain, plainBehind⟩ := List.forall_mem_cons.mp undotted
      obtain ⟨notSingle, notDouble⟩ := not_or.mp plain
      rw [resolveDots]
      simp only [notSingle, notDouble, reduceCtorEq, false_and, if_false,
        Bool.false_eq_true, inductionHypothesis plainBehind, List.reverse_cons,
        List.append_assoc, List.singleton_append]

/-- What is left after resolving dots was there before, or is empty, or stands for
itself. -/
theorem mem_resolveDots
    {done parts : List (List Char)}
    {segment : List Char}
    (present : segment ∈ resolveDots .special done parts) :
    segment ∈ done ∨ segment = [] ∨ (segment ∈ parts ∧ ¬ IsDots segment) := by
  induction parts generalizing done with
  | nil => exact Or.inl present
  | cons first rest inductionHypothesis =>
      have widen : ∀ {earlier : List (List Char)},
          segment ∈ resolveDots .special earlier rest →
          (segment ∈ earlier → segment ∈ done ∨ segment = []) →
          segment ∈ done ∨ segment = [] ∨
          (segment ∈ first :: rest ∧ ¬ IsDots segment) := by
        intro earlier inRest fromEarlier
        rcases inductionHypothesis inRest with isEarlier | isEmpty | ⟨inParts, plain⟩
        · exact (fromEarlier isEarlier).imp_right Or.inl
        · exact Or.inr (Or.inl isEmpty)
        · exact Or.inr (Or.inr ⟨List.mem_cons_of_mem _ inParts, plain⟩)
      have shorter : ∀ segment ∈ dropSegment .special done, segment ∈ done := by
        intro segment isShorter
        unfold dropSegment at isShorter
        split at isShorter
        · exact isShorter
        · simp at isShorter
        · exact List.mem_cons_of_mem _ isShorter
      rw [resolveDots] at present
      simp only [reduceCtorEq, false_and, if_false] at present
      split at present
      · apply widen present
        intro isEarlier
        split at isEarlier
        · rcases List.mem_cons.mp isEarlier with isEmpty | isShorter
          · exact Or.inr isEmpty
          · exact Or.inl (shorter segment isShorter)
        · exact Or.inl (shorter segment isEarlier)
      · rename_i notDouble
        split at present
        · apply widen present
          intro isEarlier
          split at isEarlier
          · exact (List.mem_cons.mp isEarlier).symm
          · exact Or.inl isEarlier
        · rename_i notSingle
          rcases inductionHypothesis present with isEarlier | isEmpty | ⟨inParts, plain⟩
          · rcases List.mem_cons.mp isEarlier with rfl | isDone
            · refine Or.inr (Or.inr ⟨List.mem_cons_self, ?_⟩)
              rintro (single | double)
              · exact notSingle single
              · exact notDouble double
            · exact Or.inl isDone
          · exact Or.inr (Or.inl isEmpty)
          · exact Or.inr (Or.inr ⟨List.mem_cons_of_mem _ inParts, plain⟩)

/-- The segments of a path after its dots have been resolved. -/
def resolved (chars : List Char) : List (List Char) :=
  (resolveDots .special []
    ((segments .special chars).map (Percent.encode Percent.inPath))).reverse

theorem pathFrom_special (chars : List Char) :
    pathFrom .special [] chars = String.ofList (joinSegments (resolved chars)) := rfl

/-- A segment that is left is empty, or encoded and not of dots. -/
theorem mem_resolved
    {chars segment : List Char}
    (present : segment ∈ resolved chars) :
    segment = [] ∨
      (¬ IsDots segment ∧
        ∃ piece ∈ segments .special chars, segment =
          Percent.encode Percent.inPath piece) := by
  rcases mem_resolveDots (List.mem_reverse.mp present)
    with isDone | isEmpty | ⟨inParts, plain⟩
  · cases isDone
  · exact Or.inl isEmpty
  · obtain ⟨piece, isPiece, rfl⟩ := List.mem_map.mp inParts
    exact Or.inr ⟨plain, piece, isPiece, rfl⟩

/-- Escapes are neither slashes nor backslashes. -/
theorem ne_of_isEscape
    {char : Char}
    (isEscape : Percent.IsEscape char) :
    char ≠ '/' ∧ char ≠ '\\' := by
  rcases isEscape with rfl | ⟨value, small, rfl⟩
  · decide
  · have all : ∀ value < 16, Hex.upperDigit value ≠ '/' ∧
        Hex.upperDigit value ≠ '\\' := by decide
    exact all value small

/-- The characters of a segment that is left stand for themselves and divide nothing. -/
theorem literal_of_mem_resolved
    {chars segment : List Char}
    {char : Char}
    (isSegment : segment ∈ resolved chars)
    (present : char ∈ segment) :
    Percent.IsLiteral Percent.inPath char ∧ char ≠ '/' ∧ char ≠ '\\' := by
  rcases mem_resolved isSegment with rfl | ⟨-, piece, isPiece, rfl⟩
  · cases present
  · refine ⟨Percent.isLiteral_of_mem_encode Percent.proper_inPath present, ?_⟩
    rcases Percent.mem_encode Percent.proper_inPath present with ⟨inPiece, -⟩ | isEscape
    · obtain ⟨inMapped, notSlash⟩ := mem_and_ne_of_mem_splitEvery isPiece inPiece
      refine ⟨notSlash, ?_⟩
      simp only [reduceCtorEq, if_false, List.mem_map] at inMapped
      obtain ⟨original, -, isImage⟩ := inMapped
      rintro rfl
      split at isImage
      · cases isImage
      · rename_i notBackslash
        exact notBackslash isImage
    · exact ne_of_isEscape isEscape

/-- The characters of a path that was read are literal, and no backslashes. -/
theorem literal_of_mem_joinSegments
    {chars : List Char}
    {char : Char}
    (present : char ∈ joinSegments (resolved chars)) :
    Percent.IsLiteral Percent.inPath char ∧ char ≠ '\\' := by
  obtain ⟨segment, isSegment, inSegment⟩ := List.mem_flatMap.mp present
  rcases List.mem_cons.mp inSegment with rfl | inside
  · exact ⟨by decide +kernel, by decide⟩
  · obtain ⟨isLiteral, -, notBackslash⟩ := literal_of_mem_resolved isSegment inside
    exact ⟨isLiteral, notBackslash⟩

/-- Without a backslash the segments are what stands between the slashes. -/
theorem segments_of_forward
    {chars : List Char}
    (forward : '\\' ∉ chars) :
    segments .special chars = splitEvery '/' chars := by
  unfold segments
  rw [if_neg (by decide)]
  congr 1
  refine (List.map_congr_left fun char present => ?_).trans (List.map_id _)
  apply if_neg
  rintro rfl
  exact forward present

/-- What is read of a plain path is its segments. -/
theorem encoded_of_literal
    {chars : List Char}
    (literal : ∀ char ∈ chars, Percent.IsLiteral Percent.inPath char)
    (forward : '\\' ∉ chars) :
    (segments .special chars).map (Percent.encode Percent.inPath) =
      splitEvery '/' chars := by
  rw [segments_of_forward forward]
  refine (List.map_congr_left fun piece isPiece => ?_).trans (List.map_id _)
  apply Percent.encode_of_isLiteral
  intro char present
  exact literal char (mem_and_ne_of_mem_splitEvery isPiece present).1

/-- Reading leaves a path alone exactly if it is plain. -/
theorem pathFrom_eq_iff (chars : List Char) :
    pathFrom .special [] chars = String.ofList ('/' :: chars) ↔ IsPlainPath chars := by
  rw [pathFrom_special, String.ofList_inj]
  constructor
  · intro unchanged
    have kept : ∀ char ∈ chars, Percent.IsLiteral Percent.inPath char ∧ char ≠ '\\' := by
      intro char present
      apply @literal_of_mem_joinSegments chars char
      rw [unchanged]
      exact List.mem_cons_of_mem _ present
    have literal := fun char present => (kept char present).1
    have forward : '\\' ∉ chars := fun present => (kept _ present).2 rfl
    refine ⟨literal, forward, ?_⟩
    have nonempty : resolved chars ≠ [] := by
      intro nothing
      rw [nothing] at unchanged
      cases unchanged
    rw [joinSegments_eq nonempty, List.cons.injEq] at unchanged
    have parts :
        splitEvery '/' (List.intercalate ['/'] (resolved chars)) = resolved chars := by
      apply splitEvery_intercalate nonempty
      intro segment isSegment inSegment
      exact (literal_of_mem_resolved isSegment inSegment).2.1 rfl
    rw [unchanged.2] at parts
    intro segment isSegment
    rw [parts] at isSegment
    rcases mem_resolved isSegment with rfl | ⟨plain, -⟩
    · rintro (single | double)
      · exact absurd single (by decide)
      · exact absurd double (by decide)
    · exact plain
  · rintro ⟨literal, forward, undotted⟩
    unfold resolved
    rw [encoded_of_literal literal forward, resolveDots_of_undotted undotted,
      List.append_nil, List.reverse_reverse, joinSegments_eq (splitEvery_ne_nil _ _),
      intercalate_splitEvery]

end Url
end Gatehouse
