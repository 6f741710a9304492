import Gatehouse.Proofs.Net.Readers
import Gatehouse.Proofs.Text.Decimal
import Gatehouse.Proofs.Text.Octets
import Gatehouse.Proofs.Text.Splitting
import Mathlib.Data.Bool.AllAny
import Mathlib.Tactic.Common

/-!
# Network addresses read back from their spelling

The spelling of an address of the first family is read as this address, and so is the
compressed spelling of an address of the second family: a run of zero groups that is
left out is exactly what the gap stands for. An address that stands for one of the first
family is read from its spelling in decimal, so that every address is read from its
usual spelling.
-/

namespace Gatehouse
namespace Address

open Text

section Decimal

/-- The digits of a number above zero do not begin with a zero. -/
theorem head?_toDigits_ne
    {number : Nat}
    (positive : 0 < number) :
    (Nat.toDigits 10 number).head? ≠ some '0' := by
  induction number using Nat.strongRecOn with
  | ind number inductionHypothesis =>
      rw [Nat.toDigits_eq_if (by decide)]
      split
      · have notZero : number ≠ 0 := by omega
        simpa using notZero
      · rename_i large
        have front := inductionHypothesis (number / 10) (by omega) (by omega)
        obtain ⟨first, rest, isCons⟩ :=
          List.exists_cons_of_ne_nil (Nat.toDigits_ne_nil (n := number / 10) (b := 10))
        rw [isCons] at front ⊢
        exact front

/-- A decimal number is read from its digits in front of anything but a digit. -/
theorem readDecimal?_toDigits
    {number maxDigits limit : Nat}
    {rest : List Char}
    (few : (Nat.toDigits 10 number).length ≤ maxDigits)
    (bounded : number < limit)
    (stops : ∀ char, rest.head? = some char → isDigit char = false) :
    readDecimal? strict maxDigits limit (Nat.toDigits 10 number ++ rest) =
      some (number, rest) := by
  have digits :
      (Nat.toDigits 10 number ++ rest).takeWhile isDigit = Nat.toDigits 10 number :=
    takeWhile_append_of_stop (fun _ => Decimal.isDigit_of_mem_toDigits) stops
  have nonempty : (Nat.toDigits 10 number).isEmpty = false := by
    simp
  have unpadded : ¬ (1 < (Nat.toDigits 10 number).length ∧
      (Nat.toDigits 10 number).head? = some '0') := by
    rintro ⟨long, padded⟩
    cases number with
    | zero => exact absurd long (by decide)
    | succ previous => exact head?_toDigits_ne (Nat.succ_pos previous) padded
  unfold readDecimal?
  simp only [digits, nonempty, Bool.false_or, decide_eq_true_eq,
    if_neg (Nat.not_lt.mpr few)]
  rw [if_neg (by simpa [strict] using unpadded), Decimal.digits?_toDigits]
  simp only [if_pos bounded, List.drop_left]

/-- An octet is read from its digits in front of anything but a digit. -/
theorem readDecimal?_octet
    {number : Nat}
    {rest : List Char}
    (bounded : number < 256)
    (stops : ∀ char, rest.head? = some char → isDigit char = false) :
    readDecimal? strict 3 256 (Nat.toDigits 10 number ++ rest) = some (number, rest) := by
  refine readDecimal?_toDigits ?_ bounded stops
  rw [Nat.length_toDigits_le_iff (by decide) (by decide)]
  omega

/-- The spelling of an address of the first family: its octets, with points between. -/
theorem toList_showV4 (bits : BitVec 32) :
    (showV4 bits).toList =
      Nat.toDigits 10 (bits.toNat / 16777216) ++
        '.' :: (Nat.toDigits 10 (bits.toNat / 65536 % 256) ++
        '.' :: (Nat.toDigits 10 (bits.toNat / 256 % 256) ++
          '.' :: Nat.toDigits 10 (bits.toNat % 256))) := by
  have small := bits.isLt
  have high : bits.toNat / 16777216 % 256 = bits.toNat / 16777216 := by omega
  unfold showV4
  simp [Decimal.natural, Nat.shiftRight_eq_div_pow, high]

/-- An address of the first family is read from its spelling before anything but
digits. -/
theorem readV4?_showV4
    (bits : BitVec 32)
    {rest : List Char}
    (stops : ∀ char, rest.head? = some char → isDigit char = false) :
    readV4? strict ((showV4 bits).toList ++ rest) = some (bits, rest) := by
  have small := bits.isLt
  have point : ∀ (behind : List Char) char,
      ('.' :: behind).head? = some char → isDigit char = false := by
    rintro behind _ ⟨⟩
    rfl
  have whole : ((bits.toNat / 16777216 * 256 + bits.toNat / 65536 % 256) * 256 +
      bits.toNat / 256 % 256) * 256 + bits.toNat % 256 = bits.toNat := by
    omega
  rw [toList_showV4]
  simp only [List.append_assoc, List.cons_append]
  unfold readV4?
  rw [readDecimal?_octet (by omega) (point _)]
  simp only [Option.bind_eq_bind, Option.bind_some]
  rw [readDecimal?_octet (by omega) (point _)]
  simp only [Option.bind_some]
  rw [readDecimal?_octet (by omega) (point _)]
  simp only [Option.bind_some]
  rw [readDecimal?_octet (by omega) stops]
  simp only [Option.bind_some, whole, BitVec.ofNat_toNat, BitVec.setWidth_eq]

/-- Without a point there is no address of the first family. -/
theorem readV4?_of_notMem
    {chars : List Char}
    (absent : '.' ∉ chars) :
    readV4? strict chars = none := by
  unfold readV4?
  cases read : readDecimal? strict 3 256 chars with
  | none => rfl
  | some parts =>
      obtain ⟨number, rest⟩ := parts
      simp only [Option.bind_eq_bind, Option.bind_some]
      split
      · have inText :=
          ((isLocal_readDecimal? strict 3 256).leavesEnd read).subset List.mem_cons_self
        exact absurd inText absent
      · rfl

end Decimal

section Groups

/-- The digits of a group. -/
def groupDigits (value : Nat) : List Char :=
  Nat.toDigits 16 value

/-- The digits of groups that follow another group. -/
def furtherGroups (values : List Nat) : List Char :=
  values.flatMap fun value => ':' :: groupDigits value

/-- Groups are shown as the digits of the first one and those of the further ones. -/
theorem toList_showGroups_cons (value : Nat) (values : List Nat) :
    (showGroups (value :: values)).toList =
      groupDigits value ++ furtherGroups values := by
  unfold showGroups furtherGroups
  rw [String.toList_intercalate, List.map_map]
  induction values generalizing value with
  | nil => simp [Hex.natural, groupDigits]
  | cons next others inductionHypothesis =>
      have behind := inductionHypothesis next
      simp only [List.map_cons] at behind ⊢
      rw [List.intercalate_cons_cons, behind]
      simp [Hex.natural, groupDigits]

/-- What may follow groups: no point, no digit, and no colon before a digit. -/
structure Ends (rest : List Char) : Prop where
  pointless : '.' ∉ rest
  stops : ∀ char, rest.head? = some char → (Hex.value? char).isSome = false
  divides : ∀ behind, rest = ':' :: behind →
    ∀ char, behind.head? = some char → (Hex.value? char).isSome = false

/-- No group begins in front of anything but a digit. -/
theorem readGroup?_of_stops
    {rest : List Char}
    (stops : ∀ char, rest.head? = some char → (Hex.value? char).isSome = false) :
    readGroup? rest = none := by
  have nothing : ([] ++ rest).takeWhile (fun char => (Hex.value? char).isSome) = [] :=
    takeWhile_append_of_stop nofun stops
  rw [List.nil_append] at nothing
  unfold readGroup?
  rw [nothing]
  rfl

/-- A group is read from its digits in front of anything but a digit. -/
theorem readGroup?_groupDigits
    {value : Nat}
    {rest : List Char}
    (small : value < 65536)
    (stops : ∀ char, rest.head? = some char → (Hex.value? char).isSome = false) :
    readGroup? (groupDigits value ++ rest) = some (value, rest) := by
  have digits : (groupDigits value ++ rest).takeWhile
      (fun char => (Hex.value? char).isSome) =
      groupDigits value :=
    takeWhile_append_of_stop
      (fun _ => Hex.isSome_value?_of_mem_toDigits (by decide) (by decide)) stops
  have few : (groupDigits value).length ≤ 4 :=
    (Nat.length_toDigits_le_iff (by decide) (by decide)).mpr small
  have nonempty : (groupDigits value).isEmpty = false := by
    simp [groupDigits]
  unfold readGroup?
  simp only [digits, nonempty, Bool.false_or, decide_eq_true_eq,
    if_neg (Nat.not_lt.mpr few), List.drop_left]
  rw [show (groupDigits value).foldl _ 0 = value from
    Hex.foldl_toDigits (by decide) (by decide) value]

theorem point_notMem_groupDigits (value : Nat) : '.' ∉ groupDigits value := by
  intro present
  have isDigit := Hex.isSome_value?_of_mem_toDigits (by decide) (by decide) present
  exact absurd isDigit (by decide)

theorem point_notMem_furtherGroups (values : List Nat) : '.' ∉ furtherGroups values := by
  intro present
  obtain ⟨value, -, inGroup⟩ := List.mem_flatMap.mp present
  rcases List.mem_cons.mp inGroup with isColon | inDigits
  · exact absurd isColon (by decide)
  · exact point_notMem_groupDigits value inDigits

/-- Further groups begin with a colon. -/
theorem stops_furtherGroups
    {values : List Nat}
    {rest : List Char}
    (ends : Ends rest) :
    ∀ char, (furtherGroups values ++ rest).head? = some char →
      (Hex.value? char).isSome = false := by
  cases values with
  | nil => exact ends.stops
  | cons value others =>
      rintro _ ⟨⟩
      rfl

/-- A group that is not spelled in decimal is read, and then the groups behind it. -/
theorem readGroups_group
    {start behind : List Char}
    {value : Nat}
    (notDecimal : readV4? strict start = none)
    (group : readGroup? start = some (value, behind))
    (remaining : Nat) :
    let more := readGroups strict remaining false behind
    readGroups strict (remaining + 1) true start =
      ⟨value :: more.values, more.decimal, more.rest⟩ ∧
      readGroups strict (remaining + 1) false (':' :: start) =
        ⟨value :: more.values, more.decimal, more.rest⟩ := by
  intro more
  constructor
  · unfold readGroups
    simp only [if_true, notDecimal, ite_self, group]
    rfl
  · unfold readGroups
    simp only [Bool.false_eq_true, if_false, notDecimal, ite_self, group]
    rfl

/-- A group in front of further text is read, and then the further text. -/
theorem readGroups_groupDigits
    {value : Nat}
    {behind : List Char}
    (small : value < 65536)
    (pointless : '.' ∉ behind)
    (stops : ∀ char, behind.head? = some char → (Hex.value? char).isSome = false)
    (remaining : Nat) :
    let more := readGroups strict remaining false behind
    readGroups strict (remaining + 1) true (groupDigits value ++ behind) =
        ⟨value :: more.values, more.decimal, more.rest⟩ ∧
      readGroups strict (remaining + 1) false (':' :: (groupDigits value ++ behind)) =
        ⟨value :: more.values, more.decimal, more.rest⟩ := by
  refine readGroups_group (readV4?_of_notMem fun present => ?_)
    (readGroup?_groupDigits small stops) remaining
  rcases List.mem_append.mp present with inGroup | inBehind
  · exact point_notMem_groupDigits value inGroup
  · exact pointless inBehind

/-- Where groups end, no further ones are read. -/
theorem readGroups_of_ends
    {rest : List Char}
    (ends : Ends rest)
    (remaining : Nat) :
    readGroups strict remaining false rest = ⟨[], false, rest⟩ ∧
      readGroups strict remaining true rest = ⟨[], false, rest⟩ := by
  have notDecimal : ∀ {start : List Char} (less : Nat), '.' ∉ start →
      (if 1 ≤ less then readV4? strict start else none) = none := by
    intro start less pointless
    split
    · exact readV4?_of_notMem pointless
    · rfl
  cases remaining with
  | zero => exact ⟨rfl, rfl⟩
  | succ less =>
      constructor
      · unfold readGroups
        simp only [Bool.false_eq_true, if_false]
        split
        · rfl
        · rename_i start found
          split at found
          · rename_i behind
            cases found
            have pointless : '.' ∉ start := fun present =>
              ends.pointless (List.mem_cons_of_mem _ present)
            simp only [notDecimal less pointless,
              readGroup?_of_stops (ends.divides start rfl)]
          · cases found
      · unfold readGroups
        simp only [if_true, notDecimal less ends.pointless,
          readGroup?_of_stops ends.stops]

/-- Further groups are read where they end, or where no more may follow. -/
theorem readGroups_furtherGroups
    {values : List Nat}
    {rest : List Char}
    (small : ∀ value ∈ values, value < 65536)
    (ends : Ends rest)
    {remaining : Nat}
    (room : values.length ≤ remaining) :
    readGroups strict remaining false (furtherGroups values ++ rest) =
      ⟨values, false, rest⟩ := by
  induction values generalizing remaining with
  | nil => exact (readGroups_of_ends ends remaining).1
  | cons value others inductionHypothesis =>
      obtain ⟨smallFirst, smallOthers⟩ := List.forall_mem_cons.mp small
      obtain ⟨less, rfl⟩ : ∃ less, remaining = less + 1 :=
        Nat.exists_eq_add_of_le' (Nat.le_trans (Nat.succ_le_succ (Nat.zero_le _)) room)
      have pointless : '.' ∉ furtherGroups others ++ rest := by
        intro present
        rcases List.mem_append.mp present with inOthers | inRest
        · exact point_notMem_furtherGroups others inOthers
        · exact ends.pointless inRest
      have shape : furtherGroups (value :: others) ++ rest =
          ':' :: (groupDigits value ++ (furtherGroups others ++ rest)) := by
        simp [furtherGroups]
      have more := inductionHypothesis smallOthers (Nat.le_of_succ_le_succ room)
      rw [shape,
        (readGroups_groupDigits smallFirst pointless (stops_furtherGroups ends) less).2,
        more]

/-- Shown groups are read where they end. -/
theorem readGroups_showGroups
    {values : List Nat}
    {rest : List Char}
    (small : ∀ value ∈ values, value < 65536)
    (ends : Ends rest)
    {remaining : Nat}
    (room : values.length ≤ remaining) :
    readGroups strict remaining true ((showGroups values).toList ++ rest) =
      ⟨values, false, rest⟩ := by
  cases values with
  | nil => exact (readGroups_of_ends ends remaining).2
  | cons value others =>
      obtain ⟨smallFirst, smallOthers⟩ := List.forall_mem_cons.mp small
      obtain ⟨less, rfl⟩ : ∃ less, remaining = less + 1 :=
        Nat.exists_eq_add_of_le' (Nat.le_trans (Nat.succ_le_succ (Nat.zero_le _)) room)
      have pointless : '.' ∉ furtherGroups others ++ rest := by
        intro present
        rcases List.mem_append.mp present with inOthers | inRest
        · exact point_notMem_furtherGroups others inOthers
        · exact ends.pointless inRest
      have more := readGroups_furtherGroups smallOthers ends (Nat.le_of_succ_le_succ room)
      rw [toList_showGroups_cons, List.append_assoc,
        (readGroups_groupDigits smallFirst pointless (stops_furtherGroups ends) less).1,
        more]

end Groups

section Zeros

/-- Whether a run is empty or lies among the first groups and consists of zeros. -/
def IsZeroRun (values : List Nat) (bound : Nat) (run : ZeroRun) : Prop :=
  run.length ≠ 0 →
    run.start + run.length ≤ bound ∧
      ∀ index,
        run.start ≤ index → index < run.start + run.length → values[index]? = some 0

/-- A run among the first groups lies among more of them. -/
theorem IsZeroRun.mono
    {values : List Nat}
    {bound larger : Nat}
    {run : ZeroRun}
    (isRun : IsZeroRun values bound run)
    (le : bound ≤ larger) :
    IsZeroRun values larger run := by
  intro nonempty
  obtain ⟨inside, zeros⟩ := isRun nonempty
  exact ⟨Nat.le_trans inside le, zeros⟩

/-- The run that is found consists of zeros, in front of what is still to come. -/
theorem isZeroRun_longestZeros
    {values done rest : List Nat}
    {current best : ZeroRun}
    (whole : values = done ++ rest)
    (currentIsRun : IsZeroRun values done.length current)
    (currentEnds : current.length ≠ 0 → current.start + current.length = done.length)
    (bestIsRun : IsZeroRun values done.length best) :
    IsZeroRun values values.length (longestZeros done.length current best rest) := by
  induction rest generalizing done current best with
  | nil =>
      rw [longestZeros]
      exact bestIsRun.mono (by simp [whole])
  | cons group others inductionHypothesis =>
      have longer : (done ++ [group]).length = done.length + 1 := by simp
      have wholeAgain : values = (done ++ [group]) ++ others := by simp [whole]
      unfold longestZeros
      by_cases isZero : group = 0
      · rw [if_pos isZero]
        have here : values[done.length]? = some 0 := by
          rw [whole, isZero]
          simp
        let next : ZeroRun :=
          if current.length = 0 then ⟨done.length, 1⟩
          else ⟨current.start, current.length + 1⟩
        have nextEnds : next.start + next.length = (done ++ [group]).length := by
          rw [longer]
          by_cases none : current.length = 0
          · simp [next, none]
          · have ended := currentEnds none
            simp [next, none]
            omega
        have nextIsRun : IsZeroRun values (done ++ [group]).length next := by
          intro _
          refine ⟨Nat.le_of_eq nextEnds, fun index from_ to_ => ?_⟩
          rw [nextEnds, longer] at to_
          by_cases atEnd : index = done.length
          · rw [atEnd]
            exact here
          · by_cases none : current.length = 0
            · simp [next, none] at from_
              omega
            · have ended := currentEnds none
              simp [next, none] at from_
              exact (currentIsRun none).2 index from_ (by omega)
        have nextBestIsRun : IsZeroRun values (done ++ [group]).length
            (if best.length < next.length then next else best) := by
          split
          · exact nextIsRun
          · exact bestIsRun.mono (by simp)
        have result :=
          inductionHypothesis wholeAgain nextIsRun (fun _ => nextEnds) nextBestIsRun
        rw [longer] at result
        exact result
      · rw [if_neg isZero]
        have noRun : IsZeroRun values (done ++ [group]).length ⟨0, 0⟩ :=
          fun nonempty => absurd rfl nonempty
        have result := inductionHypothesis wholeAgain noRun
          (fun nonempty => absurd rfl nonempty) (bestIsRun.mono (by simp))
        rw [longer] at result
        exact result

/-- Groups are those in front of a run of zeros, the zeros, and the rest. -/
theorem eq_of_isZeroRun
    {values : List Nat}
    {run : ZeroRun}
    (isRun : IsZeroRun values values.length run)
    (nonempty : run.length ≠ 0) :
    values.take run.start ++ List.replicate run.length 0 ++
      values.drop (run.start + run.length) =
      values := by
  obtain ⟨inside, zeros⟩ := isRun nonempty
  apply List.ext_getElem?
  intro index
  have front : (values.take run.start ++ List.replicate run.length 0).length =
      run.start + run.length := by
    simp
    omega
  by_cases behind : run.start + run.length ≤ index
  · rw [List.getElem?_append_right (by omega), List.getElem?_drop, front,
      Nat.add_sub_cancel' behind]
  · rw [List.getElem?_append_left (by omega)]
    have takenLength : (values.take run.start).length = run.start := by
      simp
      omega
    by_cases inRun : run.start ≤ index
    · rw [List.getElem?_append_right (by omega), zeros index inRun (by omega),
        List.getElem?_replicate, takenLength, if_pos (by omega)]
    · rw [List.getElem?_append_left (by omega), List.getElem?_take, if_pos (by omega)]

theorem ofGroups_groups (bits : BitVec 128) : ofGroups (groups bits) = bits := by
  have small := bits.isLt
  apply BitVec.eq_of_toNat_eq
  unfold ofGroups groups
  simp only [List.range, List.range.loop, List.map_cons, List.map_nil, List.foldl_cons,
    List.foldl_nil, BitVec.toNat_ofNat, Nat.shiftRight_eq_div_pow]
  omega

theorem groups_shape (bits : BitVec 128) :
    (groups bits).length = 8 ∧ ∀ value ∈ groups bits, value < 65536 := by
  refine ⟨by simp [groups], fun value present => ?_⟩
  obtain ⟨index, -, rfl⟩ := List.mem_map.mp present
  exact Nat.mod_lt _ (by decide)

end Zeros

/-- Groups are shown in hexadecimal digits and colons. -/
theorem mem_showGroups
    {values : List Nat}
    {char : Char}
    (present : char ∈ (showGroups values).toList) :
    char = ':' ∨ (Hex.value? char).isSome = true := by
  have inDigits : ∀ {value}, char ∈ groupDigits value → (Hex.value? char).isSome = true :=
    Hex.isSome_value?_of_mem_toDigits (by decide) (by decide)
  cases values with
  | nil => cases present
  | cons value others =>
      rw [toList_showGroups_cons] at present
      rcases List.mem_append.mp present with inFirst | inOthers
      · exact .inr (inDigits inFirst)
      · obtain ⟨other, -, inGroup⟩ := List.mem_flatMap.mp inOthers
        exact (List.mem_cons.mp inGroup).imp_right inDigits

/-- An address of the second family is shown in hexadecimal digits and colons. -/
theorem mem_showCompressed
    {bits : BitVec 128}
    {char : Char}
    (present : char ∈ (showCompressed bits).toList) :
    char = ':' ∨ (Hex.value? char).isSome = true := by
  unfold showCompressed at present
  simp only at present
  split at present
  · simp only [String.toList_append, List.mem_append] at present
    rcases present with (inHead | inGap) | inTail
    · exact mem_showGroups inHead
    · have colons : ∀ char ∈ "::".toList, char = ':' :=
        List.all_iff_forall_prop.mp (by decide)
      exact .inl (colons char inGap)
    · exact mem_showGroups inTail
  · exact mem_showGroups present

theorem point_notMem_showGroups (values : List Nat) :
    '.' ∉ (showGroups values).toList := by
  intro present
  rcases mem_showGroups present with isColon | isDigit
  · exact absurd isColon (by decide)
  · exact absurd isDigit (by decide)

/-- Two colons between groups stand for the zeros that are missing. -/
theorem readV6?_gap
    {head tail : List Nat}
    {rest : List Char}
    (smallHead : ∀ value ∈ head, value < 65536)
    (smallTail : ∀ value ∈ tail, value < 65536)
    (room : head.length + tail.length < 8)
    (ends : Ends rest) :
    readV6? strict ((showGroups head ++ "::" ++ showGroups tail).toList ++ rest) =
      some (ofGroups (head ++ List.replicate (8 - head.length - tail.length) 0 ++ tail),
        rest) := by
  have gapEnds : Ends (':' :: ':' :: ((showGroups tail).toList ++ rest)) := by
    refine ⟨?_, ?_, ?_⟩
    · simp [point_notMem_showGroups tail, ends.pointless]
    · rintro _ ⟨⟩
      rfl
    · rintro _ ⟨⟩ _ ⟨⟩
      rfl
  have shape : (showGroups head ++ "::" ++ showGroups tail).toList ++ rest =
      (showGroups head).toList ++ ':' :: ':' :: ((showGroups tail).toList ++ rest) := by
    simp
  have headRoom : head.length ≤ 8 := by omega
  have tailRoom : tail.length ≤ 8 - head.length - 1 := by omega
  have notWhole : ¬ head.length = 8 := by omega
  have headRead := readGroups_showGroups smallHead gapEnds headRoom
  have tailRead := readGroups_showGroups smallTail ends tailRoom
  have exactRoom : strict.emptyGap = false := rfl
  unfold readV6?
  rw [shape, headRead]
  simp only [if_neg notWhole, Bool.false_eq_true, if_false, exactRoom, tailRead]

/-- An address of the second family is read from its compressed spelling, where groups
end. -/
theorem readV6?_showCompressed
    (bits : BitVec 128)
    {rest : List Char}
    (ends : Ends rest) :
    readV6? strict ((showCompressed bits).toList ++ rest) = some (bits, rest) := by
  obtain ⟨eight, small⟩ := groups_shape bits
  have isRun : IsZeroRun (groups bits) (groups bits).length
      (longestZeros 0 ⟨0, 0⟩ ⟨0, 0⟩ (groups bits)) := by
    have noRun : IsZeroRun (groups bits) ([] : List Nat).length ⟨0, 0⟩ :=
      fun nonempty => absurd rfl nonempty
    exact isZeroRun_longestZeros (List.nil_append _).symm noRun
      (fun nonempty => absurd rfl nonempty) noRun
  unfold showCompressed
  simp only
  generalize longestZeros 0 ⟨0, 0⟩ ⟨0, 0⟩ (groups bits) = run at isRun
  split
  · rename_i long
    have parts := eq_of_isZeroRun isRun (by omega)
    have inside := (isRun (by omega)).1
    rw [eight] at inside
    have headLength : ((groups bits).take run.start).length = run.start := by
      simp [eight]
      omega
    have tailLength : ((groups bits).drop (run.start + run.length)).length =
        8 - (run.start + run.length) := by
      simp [eight]
    have gap : 8 - run.start - (8 - (run.start + run.length)) = run.length := by omega
    rw [readV6?_gap (fun value present => small value (List.mem_of_mem_take present))
      (fun value present => small value (List.mem_of_mem_drop present)) (by omega) ends,
      headLength, tailLength, gap, parts, ofGroups_groups]
  · have read := readGroups_showGroups small ends (Nat.le_of_eq eight)
    unfold readV6?
    rw [read]
    simp only [eight, if_true, ofGroups_groups]

section Whole

theorem readV4?_showV4_alone (bits : BitVec 32) :
    readV4? strict (showV4 bits).toList = some (bits, []) := by
  have read : readV4? strict ((showV4 bits).toList ++ []) = some (bits, []) :=
    readV4?_showV4 bits nofun
  rwa [List.append_nil] at read

/-- The spelling of an address of the first family has at most fifteen characters. -/
theorem length_showV4_le (bits : BitVec 32) : (showV4 bits).toList.length ≤ 15 := by
  have octet : ∀ number < 256, (Nat.toDigits 10 number).length ≤ 3 := fun number small =>
    (Nat.length_toDigits_le_iff (by decide) (by decide)).mpr
      (Nat.lt_trans small (by decide))
  have small := bits.isLt
  have first := octet (bits.toNat / 16777216) (by omega)
  have second := octet (bits.toNat / 65536 % 256) (by omega)
  have third := octet (bits.toNat / 256 % 256) (by omega)
  have fourth := octet (bits.toNat % 256) (by omega)
  rw [toList_showV4]
  simp only [List.length_append, List.length_cons]
  omega

/-- Two further groups are read in decimal. -/
theorem readGroups_decimal
    {start rest : List Char}
    {bits : BitVec 32}
    (decimal : readV4? strict start = some (bits, rest))
    (remaining : Nat) :
    readGroups strict (remaining + 2) false (':' :: start) =
      ⟨[bits.toNat / 65536, bits.toNat % 65536], true, rest⟩ := by
  unfold readGroups
  simp only [Bool.false_eq_true, if_false, decimal, if_pos (Nat.le_add_left 1 remaining)]

/-- An address that stands for one of the first family is read from its decimal
spelling. -/
theorem readV6?_mapped
    {bits : BitVec 128}
    (mapped : bits.toNat / UInt32.size = 0xFFFF) :
    readV6? strict ("::ffff:" ++ showV4 (bits.setWidth 32)).toList = some (bits, []) := by
  let decimal := (showV4 (bits.setWidth 32)).toList
  have shape : ("::ffff:" ++ showV4 (bits.setWidth 32)).toList =
      ':' :: ':' :: (groupDigits 0xFFFF ++ ':' :: decimal) :=
    String.toList_append
  have head :
      readGroups strict 8 true (':' :: ':' :: (groupDigits 0xFFFF ++ ':' :: decimal)) =
      ⟨[], false, ':' :: ':' :: (groupDigits 0xFFFF ++ ':' :: decimal)⟩ :=
    rfl
  have read : readV4? strict decimal = some (bits.setWidth 32, []) :=
    readV4?_showV4_alone _
  have group :
      readGroup? (groupDigits 0xFFFF ++ ':' :: decimal) = some (0xFFFF, ':' :: decimal) :=
    readGroup?_groupDigits (by decide) (by rintro _ ⟨⟩; rfl)
  have tail := (readGroups_group (readV4?_of_stops (by rintro _ ⟨⟩; rfl)) group 6).1
  simp only [readGroups_decimal read 4] at tail
  have low : (bits.setWidth 32).toNat = bits.toNat % 4294967296 :=
    BitVec.toNat_setWidth 32 bits
  have high : bits.toNat / 4294967296 = 65535 := mapped
  have whole :
      ofGroups ([] ++ List.replicate 5 0 ++ [0xFFFF, (bits.setWidth 32).toNat / 65536,
      (bits.setWidth 32).toNat % 65536]) = bits := by
    apply BitVec.eq_of_toNat_eq
    have small := bits.isLt
    rw [low]
    simp only [ofGroups, List.replicate, List.nil_append, List.cons_append,
      List.foldl_cons, List.foldl_nil, BitVec.toNat_ofNat]
    omega
  have exactRoom : strict.emptyGap = false := rfl
  rw [shape]
  unfold readV6?
  simp only [head, List.length_nil, if_neg (by decide : ¬ 0 = 8), Bool.false_eq_true,
    if_false, exactRoom]
  rw [tail]
  exact congrArg (fun read => some (read, [])) whole

/-- An address of the second family is read from its spelling, and only as such. -/
theorem readV6?_showV6 (bits : BitVec 128) :
    readV6? strict (showV6 bits).toList = some (bits, []) ∧
    readV4? strict (showV6 bits).toList = none := by
  unfold showV6
  split
  · rename_i mapped
    refine ⟨readV6?_mapped mapped, readV4?_of_stops ?_⟩
    rw [String.toList_append]
    rintro _ ⟨⟩
    rfl
  · have ends : Ends [] := ⟨List.not_mem_nil, nofun, nofun⟩
    have read := readV6?_showCompressed bits ends
    rw [List.append_nil] at read
    refine ⟨read, readV4?_of_notMem fun present => ?_⟩
    rcases mem_showCompressed present with isColon | isDigit
    · exact absurd isColon (by decide)
    · exact absurd isDigit (by decide)

/-- Every address is read from its spelling. -/
theorem ofText?_text (address : Address) : ofText? address.text = some address := by
  cases address with
  | v4 bits =>
      unfold ofText? text
      simp only [if_pos (length_showV4_le bits), readV4?_showV4_alone]
  | v6 bits =>
      obtain ⟨read, notFirst⟩ := readV6?_showV6 bits
      unfold ofText? text
      simp only [notFirst, ite_self, read]

/-- An address of the first family is spelled in digits and points. -/
theorem mem_showV4
    {bits : BitVec 32}
    {char : Char}
    (present : char ∈ (showV4 bits).toList) :
    char = '.' ∨ (Hex.value? char).isSome = true := by
  have inDigits {number : Nat} (inNumber : char ∈ Nat.toDigits 10 number) :
      (Hex.value? char).isSome = true :=
    Hex.isSome_value?_of_mem_toDigits (by decide) (by decide) inNumber
  rw [toList_showV4] at present
  simp only [List.mem_append, List.mem_cons] at present
  rcases present with
    inFirst | isPoint | inSecond | isPoint | inThird | isPoint | inFourth
  · exact .inr (inDigits inFirst)
  · exact .inl isPoint
  · exact .inr (inDigits inSecond)
  · exact .inl isPoint
  · exact .inr (inDigits inThird)
  · exact .inl isPoint
  · exact .inr (inDigits inFourth)

/-- An address is spelled in hexadecimal digits, colons and points. -/
theorem mem_text
    {address : Address}
    {char : Char}
    (present : char ∈ address.text.toList) :
    char = ':' ∨ char = '.' ∨ (Hex.value? char).isSome = true := by
  cases address with
  | v4 bits => exact .inr (mem_showV4 present)
  | v6 bits =>
      unfold text showV6 at present
      simp only at present
      split at present
      · rcases List.mem_append.mp (String.toList_append ▸ present)
          with inFront | inDecimal
        · have front : ∀ char ∈ "::ffff:".toList,
              char = ':' ∨ char = '.' ∨ (Hex.value? char).isSome = true :=
            List.all_iff_forall_prop.mp (by decide)
          exact front char inFront
        · exact .inr (mem_showV4 inDecimal)
      · exact (mem_showCompressed present).imp_right .inr

end Whole

end Address
end Gatehouse
