import Gatehouse.Text.Blank
import Gatehouse.Text.Split
import Mathlib.Data.List.DropRight
import Mathlib.Data.List.Infix
import Mathlib.Tactic.Common

/-!
# Laws of splitting

Splitting at the last occurrence of an item finds exactly the parts between which the
item stands when it does not occur in the second one. Splitting at the first occurrence
of a separator finds the parts around it when the separator does not occur in the first
one, if it cannot overlap with itself. Removing a fixed beginning finds exactly what
stands behind it. Splitting at every occurrence and joining undo each other. What is
taken from the front, or dropped from the end, stops at the first item without the
property.
-/

namespace Gatehouse
namespace Text

variable {α : Type} [BEq α] [LawfulBEq α]

/-- There is no last occurrence of an item that does not occur. -/
theorem splitLast?_eq_none_iff
    {separator : α}
    {items : List α} :
    splitLast? separator items = none ↔ separator ∉ items := by
  induction items with
  | nil => simp [splitLast?]
  | cons item rest inductionHypothesis =>
      cases found : splitLast? separator rest with
      | some parts =>
          have present : separator ∈ rest := by
            by_contra absent
            rw [inductionHypothesis.mpr absent] at found
            cases found
          simp [splitLast?, found, present]
      | none =>
          have absent := inductionHypothesis.mp found
          by_cases same : item = separator
          · simp [splitLast?, found, same]
          · simp [splitLast?, found, absent, same, Ne.symm same]

/-- The parts around the last occurrence of an item. -/
theorem splitLast?_eq_some_iff
    {separator : α}
    {items before after : List α} :
    splitLast? separator items = some (before, after) ↔
      items = before ++ separator :: after ∧ separator ∉ after := by
  induction items generalizing before after with
  | nil => simp [splitLast?]
  | cons item rest inductionHypothesis =>
      cases found : splitLast? separator rest with
      | some parts =>
          obtain ⟨front, back⟩ := parts
          obtain ⟨restEquality, absent⟩ := inductionHypothesis.mp found
          simp only [splitLast?, found, Option.some.injEq, Prod.mk.injEq]
          constructor
          · rintro ⟨rfl, rfl⟩
            exact ⟨by simp [restEquality], absent⟩
          · rintro ⟨equality, afterAbsent⟩
            cases before with
            | nil =>
                simp only [List.nil_append, List.cons.injEq] at equality
                obtain ⟨-, rfl⟩ := equality
                exact absurd (by simp [restEquality]) afterAbsent
            | cons first more =>
                simp only [List.cons_append, List.cons.injEq] at equality
                obtain ⟨rfl, tailEquality⟩ := equality
                have parts := inductionHypothesis.mpr ⟨tailEquality, afterAbsent⟩
                rw [found, Option.some.injEq, Prod.mk.injEq] at parts
                exact ⟨by rw [parts.1], parts.2⟩
      | none =>
          have absent := splitLast?_eq_none_iff.mp found
          by_cases same : item = separator
          · subst same
            simp only [splitLast?, found, beq_self_eq_true, if_true, Option.some.injEq,
              Prod.mk.injEq]
            constructor
            · rintro ⟨rfl, rfl⟩
              exact ⟨rfl, absent⟩
            · rintro ⟨equality, -⟩
              cases before with
              | nil => simpa using equality
              | cons first more =>
                  simp only [List.cons_append, List.cons.injEq] at equality
                  exact absurd (by simp [equality.2]) absent
          · simp only [splitLast?, found, beq_iff_eq, same, if_false]
            constructor
            · intro impossible
              cases impossible
            · rintro ⟨equality, -⟩
              cases before with
              | nil =>
                  simp only [List.nil_append, List.cons.injEq] at equality
                  exact absurd equality.1 same
              | cons first more =>
                  simp only [List.cons_append, List.cons.injEq] at equality
                  exact absurd (by simp [equality.2]) absent

theorem splitLast?_append
    {separator : α}
    (before : List α)
    {after : List α}
    (absent : separator ∉ after) :
    splitLast? separator (before ++ separator :: after) = some (before, after) :=
  splitLast?_eq_some_iff.mpr ⟨rfl, absent⟩

/-- What follows a fixed beginning is the rest of the list. -/
theorem afterStart?_eq_some_iff
    {start items rest : List α} :
    afterStart? start items = some rest ↔ items = start ++ rest := by
  induction start generalizing items with
  | nil =>
      simp only [afterStart?, Option.some.injEq, List.nil_append]
  | cons expected others inductionHypothesis =>
      cases items with
      | nil => simp [afterStart?]
      | cons item more =>
          unfold afterStart?
          by_cases same : expected = item
          · simp [same, inductionHypothesis]
          · simp [same, Ne.symm same]

/-- What follows a fixed beginning of a text is the rest of the text. -/
theorem stripStart?_eq_some_iff
    {start text rest : String} :
    stripStart? start text = some rest ↔ text = start ++ rest := by
  unfold stripStart?
  rw [Option.map_eq_some_iff]
  constructor
  · rintro ⟨chars, found, rfl⟩
    rw [← String.toList_inj, afterStart?_eq_some_iff.mp found, String.toList_append,
      String.toList_ofList]
  · rintro rfl
    refine ⟨rest.toList, afterStart?_eq_some_iff.mpr ?_, String.ofList_toList⟩
    exact String.toList_append

/-- A text begins in a fixed way if its characters do. -/
theorem startsWith_iff
    {start text : String} :
    startsWith start text = true ↔ start.toList <+: text.toList := by
  unfold startsWith
  rw [Option.isSome_iff_exists]
  constructor
  · rintro ⟨rest, found⟩
    exact ⟨rest, (afterStart?_eq_some_iff.mp found).symm⟩
  · rintro ⟨rest, isAppend⟩
    exact ⟨rest, afterStart?_eq_some_iff.mpr isAppend.symm⟩

/-- A text ends in a fixed way if its characters do. -/
theorem endsWith_iff
    {ending text : String} :
    endsWith ending text = true ↔ ending.toList <:+ text.toList := by
  unfold endsWith
  rw [Option.isSome_iff_exists, ← List.reverse_prefix]
  constructor
  · rintro ⟨rest, found⟩
    exact ⟨rest, (afterStart?_eq_some_iff.mp found).symm⟩
  · rintro ⟨rest, isAppend⟩
    exact ⟨rest, afterStart?_eq_some_iff.mpr isAppend.symm⟩

/-- A text has more octets than what it begins with, unless that is the whole text. -/
theorem size_lt_iff_of_isPrefix
    {start text : String}
    (begins : start.toList <+: text.toList) :
    start.utf8ByteSize < text.utf8ByteSize ↔ text ≠ start := by
  obtain ⟨rest, isAppend⟩ := begins
  obtain rfl : start ++ String.ofList rest = text :=
    String.toList_inj.mp (by simp [isAppend])
  have whole :
      start ++ String.ofList rest = start ↔ (String.ofList rest).utf8ByteSize = 0 := by
    rw [String.utf8ByteSize_eq_zero_iff, String.append_eq_left_iff]
  rw [ne_eq, whole, String.utf8ByteSize_append]
  omega

omit [BEq α] [LawfulBEq α] in
/-- A separator whose first item does not recur does not begin before itself. -/
theorem not_isPrefix_append
    {first : α}
    {others front : List α}
    (single : first ∉ others)
    (absent : ¬ (first :: others) <:+: front)
    (nonempty : front ≠ [])
    (after : List α) :
    ¬ (first :: others) <+: front ++ ((first :: others) ++ after) := by
  intro begins
  rcases List.prefix_or_prefix_of_prefix begins (List.prefix_append front _)
    with inside | across
  · exact absent inside.isInfix
  · obtain ⟨middle, shape⟩ := across
    obtain ⟨behind, whole⟩ := begins
    have overlap : middle ++ behind = first :: (others ++ after) := by
      rw [← shape, List.append_assoc, List.append_cancel_left_eq] at whole
      rw [whole, shape, List.cons_append]
    cases front with
    | nil => exact nonempty rfl
    | cons item rest =>
        rw [List.cons_append, List.cons.injEq] at shape
        cases middle with
        | nil =>
            apply absent
            rw [List.append_nil] at shape
            rw [shape.1, shape.2]
        | cons next more =>
            rw [List.cons_append, List.cons.injEq] at overlap
            apply single
            rw [← shape.2, overlap.1]
            exact List.mem_append_right _ List.mem_cons_self

/-- The parts around the first occurrence of a separator whose first item does not
recur. -/
theorem splitFirst?_eq_some_iff
    {first : α}
    {others items before after : List α}
    (single : first ∉ others) :
    splitFirst? (first :: others) items = some (before, after) ↔
      items = before ++ ((first :: others) ++ after) ∧
      ¬ (first :: others) <:+: before := by
  induction items generalizing before after with
  | nil => simp [splitFirst?]
  | cons item rest inductionHypothesis =>
      unfold splitFirst?
      cases found : afterStart? (first :: others) (item :: rest) with
      | some behind =>
          have shape := afterStart?_eq_some_iff.mp found
          simp only [Option.some.injEq, Prod.mk.injEq]
          constructor
          · rintro ⟨rfl, rfl⟩
            exact ⟨shape, by simp⟩
          · rintro ⟨equality, absent⟩
            cases before with
            | nil => exact ⟨rfl, List.append_cancel_left (shape.symm.trans equality)⟩
            | cons head more =>
                refine absurd ?_
                  (not_isPrefix_append single absent (List.cons_ne_nil _ _) after)
                rw [← equality, shape]
                exact List.prefix_append _ _
      | none =>
          have apart : ¬ (first :: others) <+: item :: rest := by
            rintro ⟨behind, shape⟩
            rw [afterStart?_eq_some_iff.mpr shape.symm] at found
            cases found
          simp only [Option.map_eq_some_iff, Prod.mk.injEq, Prod.exists]
          constructor
          · rintro ⟨front, back, split, rfl, rfl⟩
            obtain ⟨shape, absent⟩ := inductionHypothesis.mp split
            refine ⟨congrArg (item :: ·) shape, ?_⟩
            rw [List.infix_cons_iff, not_or]
            refine ⟨fun begins => apart ?_, absent⟩
            rw [shape]
            exact begins.trans (List.prefix_append (item :: front) _)
          · rintro ⟨equality, absent⟩
            cases before with
            | nil =>
                refine absurd ?_ apart
                rw [equality]
                exact List.prefix_append _ _
            | cons head more =>
                rw [List.cons_append, List.cons.injEq] at equality
                rw [List.infix_cons_iff, not_or] at absent
                exact ⟨more, after, inductionHypothesis.mpr ⟨equality.2, absent.2⟩,
                  by rw [equality.1], rfl⟩

/-- The parts around the first occurrence of an item. -/
theorem splitFirst?_singleton_eq_some_iff
    {separator : α}
    {items before after : List α} :
    splitFirst? [separator] items = some (before, after) ↔
      items = before ++ separator :: after ∧ separator ∉ before := by
  rw [splitFirst?_eq_some_iff List.not_mem_nil, List.singleton_infix_iff,
    List.singleton_append]

theorem splitFirst?_append
    {separator : α}
    {before : List α}
    (absent : separator ∉ before)
    (after : List α) :
    splitFirst? [separator] (before ++ separator :: after) = some (before, after) :=
  splitFirst?_singleton_eq_some_iff.mpr ⟨rfl, absent⟩

/-- The parts around the first occurrence of an item are determined by the whole. -/
theorem append_cons_inj
    {separator : α}
    {first second behind other : List α}
    (firstFree : separator ∉ first)
    (secondFree : separator ∉ second) :
    first ++ separator :: behind = second ++ separator :: other ↔
      first = second ∧ behind = other := by
  constructor
  · intro same
    have split := splitFirst?_append firstFree behind
    rw [same, splitFirst?_append secondFree other, Option.some.injEq,
      Prod.mk.injEq] at split
    exact ⟨split.1.symm, split.2.symm⟩
  · rintro ⟨rfl, rfl⟩
    rfl

/-- Pieces that an item ends are determined by their number and the whole. -/
theorem flatMap_ended_inj
    {separator : α}
    {first second : List (List α)}
    {behind other : List α}
    (sameNumber : first.length = second.length)
    (firstFree : ∀ piece ∈ first, separator ∉ piece)
    (secondFree : ∀ piece ∈ second, separator ∉ piece) :
    first.flatMap (· ++ [separator]) ++ behind =
      second.flatMap (· ++ [separator]) ++ other ↔
      first = second ∧ behind = other := by
  induction first generalizing second with
  | nil =>
      rw [List.length_eq_zero_iff.mp sameNumber.symm]
      simp
  | cons piece pieces inductionHypothesis =>
      cases second with
      | nil => cases sameNumber
      | cons opposite opposites =>
          obtain ⟨pieceFree, piecesFree⟩ := List.forall_mem_cons.mp firstFree
          obtain ⟨oppositeFree, oppositesFree⟩ := List.forall_mem_cons.mp secondFree
          have sameRest : pieces.length = opposites.length := Nat.succ.inj sameNumber
          simp only [List.flatMap_cons, List.append_assoc, List.cons_append,
            List.nil_append]
          rw [append_cons_inj pieceFree oppositeFree,
            inductionHypothesis sameRest piecesFree oppositesFree, List.cons.injEq,
            and_assoc]

theorem splitFirst?_cons_of_ne
    {separator item : α}
    (different : item ≠ separator)
    (rest : List α) :
    splitFirst? [separator] (item :: rest) =
      (splitFirst? [separator] rest).map fun parts => (item :: parts.1, parts.2) := by
  rw [splitFirst?, afterStart?, if_neg (by simpa using different.symm)]

/-- There is no first occurrence of an item that does not occur. -/
theorem splitFirst?_of_notMem
    {separator : α}
    {items : List α}
    (absent : separator ∉ items) :
    splitFirst? [separator] items = none := by
  apply Option.eq_none_iff_forall_not_mem.mpr
  rintro ⟨before, after⟩ found
  obtain ⟨rfl, -⟩ := splitFirst?_singleton_eq_some_iff.mp found
  exact absent (List.mem_append_right _ List.mem_cons_self)

/-- There is a first occurrence of every separator that occurs. -/
theorem exists_splitFirst?_of_isInfix
    {separator items : List α}
    (occurs : separator <:+: items) :
    ∃ before after, splitFirst? separator items = some (before, after) := by
  induction items with
  | nil =>
      rw [List.infix_nil.mp occurs]
      exact ⟨[], [], rfl⟩
  | cons item rest inductionHypothesis =>
      unfold splitFirst?
      cases found : afterStart? separator (item :: rest) with
      | some behind => exact ⟨[], behind, rfl⟩
      | none =>
          rcases List.infix_cons_iff.mp occurs with begins | further
          · obtain ⟨behind, shape⟩ := begins
            rw [afterStart?_eq_some_iff.mpr shape.symm] at found
            cases found
          · obtain ⟨before, after, split⟩ := inductionHypothesis further
            exact ⟨item :: before, after, by rw [split]; rfl⟩

/-- The texts around the first occurrence of a separator whose first character does not
recur. -/
theorem splitOnce?_eq_some_iff
    {separator text before after : String}
    {first : Char}
    {others : List Char}
    (shape : separator.toList = first :: others)
    (single : first ∉ others) :
    splitOnce? separator text = some (before, after) ↔
      text = before ++ separator ++ after ∧ ¬ separator.toList <:+: before.toList := by
  unfold splitOnce?
  simp only [Option.map_eq_some_iff, Prod.mk.injEq, Prod.exists, shape,
    splitFirst?_eq_some_iff single]
  constructor
  · rintro ⟨front, back, ⟨equality, absent⟩, rfl, rfl⟩
    refine ⟨?_, by rwa [String.toList_ofList]⟩
    apply String.toList_inj.mp
    rw [equality, String.toList_append, String.toList_append, String.toList_ofList,
      String.toList_ofList, shape, List.append_assoc]
  · rintro ⟨rfl, absent⟩
    refine ⟨before.toList, after.toList, ⟨?_, absent⟩, String.ofList_toList,
      String.ofList_toList⟩
    rw [String.toList_append, String.toList_append, shape, List.append_assoc]

/-- The texts around the first occurrence of a separator that is a single character. -/
theorem splitOnce?_char_eq_some_iff
    {separator text before after : String}
    {char : Char}
    (shape : separator.toList = [char]) :
    splitOnce? separator text = some (before, after) ↔
      text = before ++ separator ++ after ∧ char ∉ before.toList := by
  rw [splitOnce?_eq_some_iff shape List.not_mem_nil, shape, List.singleton_infix_iff]

omit [LawfulBEq α] in
/-- The pieces between the occurrences of an item are those of the standard library. -/
theorem splitEvery_eq_splitOn (separator : α) (items : List α) :
    splitEvery separator items = items.splitOn separator := by
  induction items with
  | nil => rfl
  | cons item rest inductionHypothesis =>
      rw [splitEvery, inductionHypothesis, List.splitOn_cons_eq_if_modifyHead]
      cases pieces : rest.splitOn separator with
      | nil => exact absurd pieces (List.splitOn_ne_nil separator rest)
      | cons piece others => rfl

/-- Joining pieces that do not contain the item and splitting again gives the pieces. -/
theorem splitEvery_intercalate
    {separator : α}
    {pieces : List (List α)}
    (nonempty : pieces ≠ [])
    (absent : ∀ piece ∈ pieces, separator ∉ piece) :
    splitEvery separator (List.intercalate [separator] pieces) = pieces := by
  rw [splitEvery_eq_splitOn]
  exact List.splitOn_intercalate separator absent nonempty

/-- Joining the pieces gives the list that has been split. -/
theorem intercalate_splitEvery (separator : α) (items : List α) :
    List.intercalate [separator] (splitEvery separator items) = items := by
  rw [splitEvery_eq_splitOn]
  exact List.intercalate_splitOn separator

omit [LawfulBEq α] in
theorem splitEvery_ne_nil
    (separator : α)
    (items : List α) :
    splitEvery separator items ≠ [] := by
  rw [splitEvery_eq_splitOn]
  exact List.splitOn_ne_nil separator items

omit [LawfulBEq α] in
/-- The first piece stands in front of the first occurrence of the item. -/
theorem head?_splitEvery (separator : α) (items : List α) :
    (splitEvery separator items).head? = some (items.takeWhile (· != separator)) := by
  induction items with
  | nil => rfl
  | cons item rest inductionHypothesis =>
      rw [splitEvery, List.takeWhile_cons, bne]
      cases item == separator with
      | true => rfl
      | false =>
          cases pieces : splitEvery separator rest with
          | nil => rw [pieces] at inductionHypothesis; cases inductionHypothesis
          | cons piece others =>
              rw [pieces] at inductionHypothesis
              exact congrArg (fun front => some (item :: front))
                (Option.some.inj inductionHypothesis)

/-- Around an occurrence of the item, the pieces are those in front and those behind. -/
theorem splitEvery_append_cons
    (separator : α)
    (front back : List α) :
    splitEvery separator (front ++ separator :: back) =
      splitEvery separator front ++ splitEvery separator back := by
  induction front with
  | nil => simp [splitEvery]
  | cons item rest inductionHypothesis =>
      rw [List.cons_append, splitEvery, inductionHypothesis, splitEvery]
      by_cases same : item = separator
      · rw [if_pos (beq_iff_eq.mpr same), if_pos (beq_iff_eq.mpr same), List.cons_append]
      · rw [if_neg (by simpa using same), if_neg (by simpa using same)]
        cases pieces : splitEvery separator rest with
        | nil => exact absurd pieces (splitEvery_ne_nil separator rest)
        | cons piece others => rfl

/-- A list without the item is one piece. -/
theorem splitEvery_of_notMem
    {separator : α}
    {items : List α}
    (absent : separator ∉ items) :
    splitEvery separator items = [items] := by
  have joined : List.intercalate [separator] [items] = items := List.intercalate_singleton
  have split : splitEvery separator (List.intercalate [separator] [items]) = [items] :=
    splitEvery_intercalate (List.cons_ne_nil _ _) (by simpa using absent)
  rwa [joined] at split

/-- The pieces are the parts without the item between its occurrences and the ends. -/
theorem mem_splitEvery_iff
    {separator : α}
    {items piece : List α} :
    piece ∈ splitEvery separator items ↔
      separator ∉ piece ∧ ∃ front back, items = front ++ piece ++ back ∧
        (∀ item ∈ front.getLast?, item = separator) ∧
          ∀ item ∈ back.head?, item = separator := by
  constructor
  · intro isPiece
    induction isLength : items.length using Nat.strongRecOn generalizing items with
    | ind length inductionHypothesis =>
        by_cases present : separator ∈ items
        · obtain ⟨first, rest, rfl, absent⟩ := List.eq_append_cons_of_mem present
          rw [splitEvery_append_cons, splitEvery_of_notMem absent] at isPiece
          rcases List.mem_cons.mp isPiece with rfl | further
          · exact ⟨absent, [], separator :: rest, by simp⟩
          · have shorter : rest.length < length := by
              rw [← isLength, List.length_append, List.length_cons]
              omega
            obtain ⟨pieceFree, front, back, rfl, ends, begins⟩ :=
              inductionHypothesis _ shorter further rfl
            refine ⟨pieceFree, first ++ separator :: front, back, by simp,
              fun item last => ?_, begins⟩
            rw [List.getLast?_append_of_ne_nil _ (List.cons_ne_nil _ _)] at last
            cases front with
            | nil => exact (Option.some.inj last).symm
            | cons head others => exact ends item last
        · rw [splitEvery_of_notMem present] at isPiece
          obtain rfl := List.mem_singleton.mp isPiece
          exact ⟨present, [], [], by simp⟩
  · rintro ⟨absent, front, back, rfl, ends, begins⟩
    have behind : piece ∈ splitEvery separator (piece ++ back) := by
      cases back with
      | nil => simp [splitEvery_of_notMem absent]
      | cons item rest =>
          obtain rfl : item = separator := begins item rfl
          rw [splitEvery_append_cons, splitEvery_of_notMem absent]
          exact List.mem_append_left _ (List.mem_singleton_self piece)
    rcases List.eq_nil_or_concat front with rfl | ⟨rest, item, rfl⟩
    · simpa using behind
    · obtain rfl : item = separator := ends item (by simp)
      rw [List.append_assoc, List.concat_append, splitEvery_append_cons]
      exact List.mem_append_right _ behind

/-- A piece consists of items of the list that do not split it. -/
theorem mem_and_ne_of_mem_splitEvery
    {separator item : α}
    {items piece : List α}
    (isPiece : piece ∈ splitEvery separator items)
    (present : item ∈ piece) :
    item ∈ items ∧ item ≠ separator := by
  induction items generalizing piece with
  | nil =>
      rw [List.mem_singleton.mp isPiece] at present
      cases present
  | cons first rest inductionHypothesis =>
      unfold splitEvery at isPiece
      by_cases same : first = separator
      · rw [if_pos (beq_iff_eq.mpr same)] at isPiece
        rcases List.mem_cons.mp isPiece with rfl | behind
        · cases present
        · obtain ⟨inRest, different⟩ := inductionHypothesis behind present
          exact ⟨List.mem_cons_of_mem _ inRest, different⟩
      · rw [if_neg (by simpa using same)] at isPiece
        cases pieces : splitEvery separator rest with
        | nil => exact absurd pieces (splitEvery_ne_nil separator rest)
        | cons head others =>
            rw [pieces] at isPiece inductionHypothesis
            rcases List.mem_cons.mp isPiece with rfl | behind
            · rcases List.mem_cons.mp present with rfl | inside
              · exact ⟨List.mem_cons_self, same⟩
              · obtain ⟨inRest, different⟩ :=
                  inductionHypothesis List.mem_cons_self inside
                exact ⟨List.mem_cons_of_mem _ inRest, different⟩
            · obtain ⟨inRest, different⟩ :=
                inductionHypothesis (List.mem_cons_of_mem _ behind) present
              exact ⟨List.mem_cons_of_mem _ inRest, different⟩

/-- What stands in joined pieces is in one of them, or separates them. -/
theorem mem_of_mem_intercalate
    {α : Type}
    {separator item : α}
    {pieces : List (List α)}
    (present : item ∈ List.intercalate [separator] pieces) :
    item = separator ∨ ∃ piece ∈ pieces, item ∈ piece := by
  induction pieces with
  | nil => cases present
  | cons piece rest inductionHypothesis =>
      cases rest with
      | nil =>
          rw [List.intercalate_singleton] at present
          exact .inr ⟨piece, List.mem_cons_self, present⟩
      | cons next others =>
          rw [List.intercalate_cons_cons, List.append_assoc, List.mem_append,
            List.mem_append] at present
          rcases present with inPiece | isSeparator | behind
          · exact .inr ⟨piece, List.mem_cons_self, inPiece⟩
          · exact .inl (List.mem_singleton.mp isSeparator)
          · rcases inductionHypothesis behind with isSeparator | ⟨other, isOther, inOther⟩
            · exact .inl isSeparator
            · exact .inr ⟨other, List.mem_cons_of_mem piece isOther, inOther⟩

/-- The items in front that satisfy a predicate, if the one behind them does not. -/
theorem takeWhile_append_of_stop
    {α : Type}
    {holds : α → Bool}
    {front behind : List α}
    (goesOn : ∀ item ∈ front, holds item = true)
    (stops : ∀ item, behind.head? = some item → holds item = false) :
    (front ++ behind).takeWhile holds = front := by
  rw [List.takeWhile_append_of_pos goesOn]
  cases behind with
  | nil => rw [List.takeWhile_nil, List.append_nil]
  | cons item rest =>
      rw [List.takeWhile_cons_of_neg (by simp [stops item rfl]), List.append_nil]

/-- Characters that are kept are not dropped from the front. -/
theorem dropWhile_of_kept
    {drop : Char → Bool}
    {kept : List Char}
    (stays : ∀ char ∈ kept, ¬ drop char = true) :
    kept.dropWhile drop = kept := by
  cases kept with
  | nil => rfl
  | cons first rest => exact List.dropWhile_cons_of_neg (stays first List.mem_cons_self)

/-- Characters are what is left without the ends, with nothing but characters to drop
around it. -/
theorem exists_eq_around_trimBoth (drop : Char → Bool) (chars : List Char) :
    ∃ left right, chars = left ++ trimBoth drop chars ++ right ∧
      ∀ char ∈ left ++ right, drop char = true := by
  have dropped : ∀ {items : List Char}, ∀ char ∈ items.takeWhile drop, drop char = true :=
    fun _ present => List.mem_takeWhile_imp present
  have front := List.takeWhile_append_dropWhile (p := drop) (l := chars)
  have back :=
    List.takeWhile_append_dropWhile (p := drop) (l := (chars.dropWhile drop).reverse)
  refine ⟨chars.takeWhile drop, ((chars.dropWhile drop).reverse.takeWhile drop).reverse,
    ?_, ?_⟩
  · rw [trimBoth, List.append_assoc, ← List.reverse_append, back, List.reverse_reverse,
      front]
  · intro char present
    rcases List.mem_append.mp present with inFront | inBack
    · exact dropped char inFront
    · exact dropped char (List.mem_reverse.mp inBack)

/-- Characters to drop that stand around others have no influence on what is left of
these. -/
theorem trimBoth_around
    {drop : Char → Bool}
    {left right : List Char}
    (dropped : ∀ char ∈ left ++ right, drop char = true)
    (chars : List Char) :
    trimBoth drop (left ++ chars ++ right) = trimBoth drop chars := by
  obtain ⟨leftDropped, rightDropped⟩ := List.forall_mem_append.mp dropped
  have rightReversed : ∀ char ∈ right.reverse, drop char = true :=
    fun char present => rightDropped char (List.mem_reverse.mp present)
  unfold trimBoth
  rw [List.append_assoc, List.dropWhile_append_of_pos leftDropped, List.dropWhile_append]
  split
  · next isEmpty =>
      rw [List.isEmpty_iff.mp isEmpty, List.dropWhile_eq_nil_iff.mpr rightDropped]
  · rw [List.reverse_append, List.dropWhile_append_of_pos rightReversed]

/-- Kept characters are left exactly if only dropped ones stand around them. -/
theorem trimBoth_eq_iff_of_kept
    {drop : Char → Bool}
    {chars kept : List Char}
    (stays : ∀ char ∈ kept, ¬ drop char = true) :
    trimBoth drop chars = kept ↔
      ∃ left right, chars = left ++ kept ++ right ∧
        ∀ char ∈ left ++ right, drop char = true := by
  constructor
  · rintro rfl
    exact exists_eq_around_trimBoth drop chars
  · rintro ⟨left, right, rfl, dropped⟩
    rw [trimBoth_around dropped, trimBoth, dropWhile_of_kept stays,
      dropWhile_of_kept fun char present => stays char (List.mem_reverse.mp present),
      List.reverse_reverse]

theorem trimBoth_append_of_kept
    {drop : Char → Bool}
    {front kept : List Char}
    (dropped : ∀ char ∈ front, drop char = true)
    (stays : ∀ char ∈ kept, ¬ drop char = true) :
    trimBoth drop (front ++ kept) = kept :=
  (trimBoth_eq_iff_of_kept stays).mpr ⟨front, [], by simp, by simpa using dropped⟩

theorem trim_eq_iff_of_kept
    {text kept : String}
    (stays : ∀ char ∈ kept.toList, ¬ isBlank char = true) :
    trim text = kept ↔
      ∃ left right, text.toList = left ++ kept.toList ++ right ∧
        ∀ char ∈ left ++ right, isBlank char = true := by
  rw [trim, ← String.toList_inj, String.toList_ofList, trimBoth_eq_iff_of_kept stays]

theorem trim_of_kept
    {text : String}
    (stays : ∀ char ∈ text.toList, ¬ isBlank char = true) :
    trim text = text :=
  (trim_eq_iff_of_kept stays).mpr ⟨[], [], by simp, List.forall_mem_nil _⟩

/-- Nothing before an item that is not dropped is dropped from the end. -/
theorem rdropWhile_append_cons_of_neg
    {α : Type}
    {drop : α → Bool}
    {item : α}
    (stays : ¬ drop item = true)
    (front rest : List α) :
    (front ++ item :: rest).rdropWhile drop = front ++ item :: rest.rdropWhile drop := by
  have stops :
      (rest.reverse ++ [item]).dropWhile drop =
        rest.reverse.dropWhile drop ++ [item] := by
    rw [List.dropWhile_append]
    split_ifs with isEmpty
    · rw [List.isEmpty_iff.mp isEmpty, List.dropWhile_cons_of_neg stays]
      rfl
    · rfl
  rw [List.rdropWhile, List.reverse_append, List.reverse_cons, List.dropWhile_append,
    stops, if_neg (by simp), List.rdropWhile]
  simp

end Text
end Gatehouse
