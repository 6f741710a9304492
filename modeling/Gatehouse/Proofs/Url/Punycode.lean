import Gatehouse.Proofs.Text.Splitting
import Gatehouse.Url.DomainName
import Mathlib.Tactic.Common

/-!
# Labels in ASCII are read back

Encoding puts the characters of a label outside ASCII behind the others, in ascending
order, each as a number that says how far to go on: over code points, and within a code
point over the places of the label. The proof follows both sides through one scan of the
label after another. While code points equal to `point` are being placed, and the scan has
passed the part `done` of the label, the reader has put together the codes of `done` up to
`point` and the codes of the rest below it, and the number that comes next is what is
missing to the place between the two.
-/

namespace Gatehouse
namespace DomainName

open Text

/-- Whether a character is one of the digits that numbers are written in. -/
def IsDigit (char : Char) : Prop :=
  ∃ value < 36, char = digit value

theorem digitValue?_digit
    {value : Nat}
    (isDigit : value < 36) :
    digitValue? (digit value) = some value := by
  have all : ∀ value < 36, digitValue? (digit value) = some value := by decide
  exact all value isDigit

theorem one_le_threshold (position bias : Nat) : 1 ≤ threshold position bias := by
  unfold threshold
  omega

theorem threshold_le (position bias : Nat) : threshold position bias ≤ 26 :=
  Nat.min_le_left _ _

/-- A number is written in digits. -/
theorem isDigit_of_mem_encodeNumber
    {steps position bias value : Nat}
    {char : Char}
    (enough : value < steps)
    (present : char ∈ encodeNumber steps position bias value) :
    IsDigit char := by
  induction steps generalizing position value with
  | zero => exact absurd enough (Nat.not_lt_zero value)
  | succ steps inductionHypothesis =>
      have positive := one_le_threshold position bias
      have bounded := threshold_le position bias
      simp only [encodeNumber] at present
      split at present
      · rename_i isLast
        exact ⟨value, by omega, List.mem_singleton.mp present⟩
      · rename_i goesOn
        have isDigit : (value - threshold position bias) % (36 - threshold position bias)
            < 36 - threshold position bias := Nat.mod_lt _ (by omega)
        rcases List.mem_cons.mp present with isFirst | present
        · exact ⟨_, by omega, isFirst⟩
        · have smaller :
              (value - threshold position bias) / (36 - threshold position bias)
              ≤ value - threshold position bias := Nat.div_le_self _ _
          exact inductionHypothesis (by omega) present

/-- A number has at least one digit. -/
theorem length_encodeNumber_pos (steps position bias value : Nat) :
    0 < (encodeNumber steps position bias value).length := by
  cases steps with
  | zero => exact Nat.one_pos
  | succ steps =>
      simp only [encodeNumber]
      split
      · exact Nat.one_pos
      · exact Nat.succ_pos _

/-- A number that is read back counts with the weight of its first digit. -/
theorem decodeNumber?_encodeNumber
    {steps position bias value : Nat}
    (enough : value < steps)
    (weight start : Nat)
    (tail : List Char) :
    decodeNumber? position bias weight start
      (encodeNumber steps position bias value ++ tail)
      = some (start + value * weight, tail) := by
  induction steps generalizing position value weight start with
  | zero => exact absurd enough (Nat.not_lt_zero value)
  | succ steps inductionHypothesis =>
      obtain ⟨limit, isLimit⟩ : ∃ limit, threshold position bias = limit := ⟨_, rfl⟩
      have positive : 1 ≤ limit := isLimit ▸ one_le_threshold position bias
      have bounded : limit ≤ 26 := isLimit ▸ threshold_le position bias
      simp only [encodeNumber, isLimit]
      split
      · rename_i isLast
        have isDigit : value < 36 := by omega
        simp only [List.cons_append, List.nil_append, decodeNumber?,
          digitValue?_digit isDigit, Option.bind_eq_bind, Option.bind_some, isLimit,
          isLast, if_true]
      · rename_i goesOn
        have inRange : (value - limit) % (36 - limit) < 36 - limit :=
          Nat.mod_lt _ (by omega)
        have isDigit : limit + (value - limit) % (36 - limit) < 36 := by omega
        have notLast : ¬ limit + (value - limit) % (36 - limit) < limit := by omega
        have smaller : (value - limit) / (36 - limit) ≤ value - limit :=
          Nat.div_le_self _ _
        have division : limit + (value - limit) % (36 - limit)
            + (36 - limit) * ((value - limit) / (36 - limit)) = value := by
          have := Nat.mod_add_div (value - limit) (36 - limit)
          omega
        simp only [List.cons_append, decodeNumber?, digitValue?_digit isDigit,
          Option.bind_eq_bind, Option.bind_some, isLimit, if_neg notLast]
        have enoughForRest : (value - limit) / (36 - limit) < steps := by omega
        rw [inductionHypothesis enoughForRest]
        congr 2
        generalize (value - limit) / (36 - limit) = quotient at division
        generalize (value - limit) % (36 - limit) = remainder at division
        calc start + (limit + remainder) * weight + quotient * (weight * (36 - limit))
            = start + (limit + remainder) * weight +
              (36 - limit) * quotient * weight := by
                rw [Nat.mul_left_comm, Nat.mul_comm weight, Nat.mul_comm quotient]
          _ = start + (limit + remainder + (36 - limit) * quotient) * weight := by
                rw [Nat.add_assoc, ← Nat.add_mul]
          _ = start + value * weight := by rw [division]

/-- What is known while the code points of a label are read. -/
structure Decoding where
  point : Nat
  index : Nat
  bias : Nat
  output : List Nat

/-- Reading digits leads from one state to the other, whatever follows. -/
def Reads (digits : List Char) (before after : Decoding) : Prop :=
  ∃ count ≤ digits.length, ∀ steps tail,
    decodePoints? (steps + count) before.point before.index before.bias before.output
        (digits ++ tail)
      = decodePoints? steps after.point after.index after.bias after.output tail

theorem reads_nil (state : Decoding) : Reads [] state state :=
  ⟨0, Nat.le_refl 0, fun _ _ => rfl⟩

/-- Digits are read one part after another. -/
theorem Reads.append
    {front behind : List Char}
    {before between after : Decoding}
    (readsFront : Reads front before between)
    (readsBehind : Reads behind between after) :
    Reads (front ++ behind) before after := by
  obtain ⟨first, firstBound, readsFront⟩ := readsFront
  obtain ⟨second, secondBound, readsBehind⟩ := readsBehind
  refine ⟨second + first, ?_, ?_⟩
  · rw [List.length_append]
    omega
  · intro steps tail
    rw [List.append_assoc, ← Nat.add_assoc, readsFront, readsBehind]

/-- Whether a number is the code point of a character. -/
def IsCode (code : Nat) : Prop :=
  code < 0x110000 ∧ ¬ (0xD800 ≤ code ∧ code < 0xE000)

theorem isCode_toNat (char : Char) : IsCode char.toNat := by
  unfold IsCode
  have valid := char.valid
  change char.val.toNat.isValidChar at valid
  change char.val.toNat < 0x110000 ∧ ¬ (0xD800 ≤ char.val.toNat ∧ char.val.toNat < 0xE000)
  unfold Nat.isValidChar at valid
  omega

/-- A number puts its code point into the place that it leads to. -/
theorem reads_encodeNumber
    {before : Decoding}
    {delta code : Nat}
    {front behind : List Nat}
    (isCode : IsCode code)
    (later : before.point ≤ code)
    (isOutput : before.output = front ++ behind)
    (leads : before.index + delta
      = (code - before.point) * (before.output.length + 1) + front.length) :
    Reads (encodeNumber (delta + 1) 36 before.bias delta) before
      { point := code
        index := front.length + 1
        bias := adapt delta (before.output.length + 1) (before.index == 0)
        output := front ++ [code] ++ behind } := by
  refine ⟨1, length_encodeNumber_pos _ _ _ _, ?_⟩
  intro steps tail
  have nonempty :
      (encodeNumber (delta + 1) 36 before.bias delta ++ tail).isEmpty = false := by
    have := length_encodeNumber_pos (delta + 1) 36 before.bias delta
    cases digits : encodeNumber (delta + 1) 36 before.bias delta with
    | nil => simp [digits] at this
    | cons => rfl
  have inside : front.length < before.output.length + 1 := by
    rw [isOutput, List.length_append]
    omega
  have isPlace : (before.index + delta) % (before.output.length + 1) = front.length := by
    rw [leads, Nat.mul_comm, Nat.mul_add_mod, Nat.mod_eq_of_lt inside]
  have isPoint :
      before.point + (before.index + delta) / (before.output.length + 1) = code := by
    rw [leads, Nat.mul_comm, Nat.mul_add_div (Nat.succ_pos _), Nat.div_eq_of_lt inside]
    omega
  rw [decodePoints?]
  simp only [nonempty, Bool.false_eq_true, if_false, Option.bind_eq_bind,
    decodeNumber?_encodeNumber (Nat.lt_succ_self delta), Option.bind_some, Nat.zero_add,
    Nat.mul_one, isPlace, isPoint]
  unfold IsCode at isCode
  rw [if_pos isCode, isOutput, List.take_left, List.drop_left]

/-- Whether one encoding continues another by digits that lead a reader from one state to
another. -/
def Continues (before after : Encoding) (known reached : Decoding) : Prop :=
  ∃ digits, after.output = before.output ++ digits ∧ (∀ char ∈ digits, IsDigit char)
    ∧ Reads digits known reached

theorem continues_of_output_eq
    {before after : Encoding}
    (same : after.output = before.output)
    (known : Decoding) :
    Continues before after known known :=
  ⟨[], by rw [same, List.append_nil], nofun, reads_nil known⟩

/-- Continuing goes on. -/
theorem Continues.trans
    {before between after : Encoding}
    {known middle reached : Decoding}
    (first : Continues before between known middle)
    (second : Continues between after middle reached) :
    Continues before after known reached := by
  obtain ⟨front, isBetween, areDigits, readsFront⟩ := first
  obtain ⟨behind, isAfter, areOthers, readsBehind⟩ := second
  refine ⟨front ++ behind, ?_, ?_, readsFront.append readsBehind⟩
  · rw [isAfter, isBetween, List.append_assoc]
  · intro char present
    exact (List.mem_append.mp present).elim (areDigits char) (areOthers char)

/-- An encoding amid the codes equal to `point`, and a reader of what it has written. -/
structure Abreast
    (basic point : Nat)
    (done rest : List Nat)
    (encoding : Encoding)
    (decoding : Decoding) : Prop where
  output : decoding.output = done.filter (· ≤ point) ++ rest.filter (· < point)
  handled : encoding.handled = decoding.output.length
  bias : encoding.bias = decoding.bias
  later : decoding.point ≤ point
  leads : decoding.index + encoding.delta
    = (point - decoding.point) * (decoding.output.length + 1) +
      (done.filter (· ≤ point)).length
  first : decoding.index = 0 ↔ encoding.handled = basic
  bounded : basic ≤ encoding.handled

/-- What an encoding does at a code of the label. -/
def encodeCode (basic point : Nat) (state : Encoding) (code : Nat) : Encoding :=
  if code < point then { state with delta := state.delta + 1 }
  else if code = point then
    { delta := 0
      bias := adapt state.delta (state.handled + 1) (state.handled == basic)
      handled := state.handled + 1
      isFirst := false
      output := state.output ++ encodeNumber (state.delta + 1) 36 state.bias state.delta }
  else state

theorem encodePoint_eq_foldl (basic point : Nat) (label : List Nat) (start : Encoding) :
    encodePoint basic point label start = label.foldl (encodeCode basic point) start :=
  rfl

theorem filter_le_append_singleton (point code : Nat) (done : List Nat) :
    (done ++ [code]).filter (· ≤ point)
      = done.filter (· ≤ point) ++ if code ≤ point then [code] else [] := by
  rw [List.filter_append, List.filter_cons, List.filter_nil]
  simp only [decide_eq_true_eq]

section
variable {basic point code : Nat} {done rest : List Nat} {encoding : Encoding}
  {decoding : Decoding}

/-- A smaller code counts for the next number. -/
theorem Abreast.below
    (abreast : Abreast basic point done (code :: rest) encoding decoding)
    (below : code < point) :
    Abreast basic point (done ++ [code]) rest
      { encoding with delta := encoding.delta + 1 } decoding := by
  have passed := filter_le_append_singleton point code done
  rw [if_pos (Nat.le_of_lt below)] at passed
  exact
    { output := by
        rw [passed, abreast.output, List.filter_cons, decide_eq_true below, if_pos rfl,
          List.append_assoc, List.singleton_append]
      handled := abreast.handled
      bias := abreast.bias
      later := abreast.later
      leads := by
        rw [passed, List.length_append, List.length_singleton, ← Nat.add_assoc,
          ← Nat.add_assoc, abreast.leads]
      first := abreast.first
      bounded := abreast.bounded }

/-- A greater code is passed over. -/
theorem Abreast.above
    (abreast : Abreast basic point done (code :: rest) encoding decoding)
    (above : point < code) :
    Abreast basic point (done ++ [code]) rest encoding decoding := by
  have passed := filter_le_append_singleton point code done
  rw [if_neg (Nat.not_le.mpr above), List.append_nil] at passed
  exact
    { output := by
        rw [passed, abreast.output, List.filter_cons,
          decide_eq_false (Nat.lt_asymm above), if_neg Bool.false_ne_true]
      handled := abreast.handled
      bias := abreast.bias
      later := abreast.later
      leads := by rw [passed, abreast.leads]
      first := abreast.first
      bounded := abreast.bounded }

/-- A code equal to `point` is placed by the number that is written for it. -/
theorem Abreast.place
    (abreast : Abreast basic code done (code :: rest) encoding decoding)
    (isCode : IsCode code) :
    ∃ reached,
      Reads (encodeNumber (encoding.delta + 1) 36 encoding.bias encoding.delta)
        decoding reached
      ∧ Abreast basic code (done ++ [code]) rest
          { delta := 0
            bias :=
          adapt encoding.delta (encoding.handled + 1) (encoding.handled == basic)
            handled := encoding.handled + 1
            isFirst := false
            output := encoding.output
              ++ encodeNumber (encoding.delta + 1) 36 encoding.bias encoding.delta }
          reached := by
  have passed := filter_le_append_singleton code code done
  rw [if_pos (Nat.le_refl code)] at passed
  have isOutput : decoding.output = done.filter (· ≤ code) ++ rest.filter (· < code) := by
    rw [abreast.output, List.filter_cons, decide_eq_false (Nat.lt_irrefl code),
      if_neg Bool.false_ne_true]
  have isFirst : (decoding.index == 0) = (encoding.handled == basic) := by
    rw [Bool.eq_iff_iff, beq_iff_eq, beq_iff_eq]
    exact abreast.first
  refine ⟨_, abreast.bias ▸ reads_encodeNumber isCode abreast.later isOutput
    abreast.leads, ?_⟩
  exact
    { output := by rw [passed]
      handled := by
        rw [abreast.handled, isOutput]
        simp only [List.length_append, List.length_singleton]
        omega
      bias := by rw [isFirst, abreast.handled]
      later := Nat.le_refl code
      leads := by
        rw [passed, Nat.sub_self, Nat.zero_mul, Nat.zero_add, List.length_append,
          List.length_singleton, Nat.add_zero]
      first := by
        have bounded := abreast.bounded
        constructor
        · intro isZero
          exact absurd isZero (Nat.succ_ne_zero _)
        · intro isBasic
          change encoding.handled + 1 = basic at isBasic
          omega
      bounded := Nat.le_succ_of_le abreast.bounded }

/-- At each code of the label the reader keeps up. -/
theorem encodeCode_continues
    (isCode : IsCode point)
    (abreast : Abreast basic point done (code :: rest) encoding decoding) :
    ∃ reached, Continues encoding (encodeCode basic point encoding code) decoding reached
      ∧ Abreast basic point (done ++ [code]) rest
        (encodeCode basic point encoding code) reached := by
  unfold encodeCode
  rcases Nat.lt_trichotomy code point with below | rfl | above
  · rw [if_pos below]
    exact ⟨decoding, continues_of_output_eq rfl decoding, abreast.below below⟩
  · rw [if_neg (Nat.lt_irrefl code), if_pos rfl]
    obtain ⟨reached, reads, placed⟩ := abreast.place isCode
    refine ⟨reached, ⟨_, rfl, ?_, reads⟩, placed⟩
    intro char present
    exact isDigit_of_mem_encodeNumber (Nat.lt_succ_self _) present
  · rw [if_neg (Nat.lt_asymm above), if_neg (Nat.ne_of_gt above)]
    exact ⟨decoding, continues_of_output_eq rfl decoding, abreast.above above⟩

/-- The reader keeps up through a scan of the label. -/
theorem encodePoint_continues
    (isCode : IsCode point)
    (abreast : Abreast basic point done rest encoding decoding) :
    ∃ reached, Continues encoding (encodePoint basic point rest encoding) decoding reached
      ∧ Abreast basic point (done ++ rest) []
        (encodePoint basic point rest encoding) reached := by
  simp only [encodePoint_eq_foldl]
  induction rest generalizing done encoding decoding with
  | nil =>
      rw [List.append_nil]
      exact ⟨decoding, continues_of_output_eq rfl decoding, abreast⟩
  | cons code rest inductionHypothesis =>
      obtain ⟨middle, first, abreast⟩ := encodeCode_continues isCode abreast
      obtain ⟨reached, second, abreast⟩ := inductionHypothesis abreast
      rw [List.append_assoc, List.singleton_append] at abreast
      exact ⟨reached, first.trans second, abreast⟩

/-- Whole scans in which nothing is placed are passed over at once. -/
theorem Abreast.advance
    {label : List Nat}
    {next : Nat}
    (abreast : Abreast basic point [] label encoding decoding)
    (later : point ≤ next)
    (noneBetween : label.filter (· < next) = label.filter (· < point)) :
    Abreast basic next [] label
      { encoding with delta := encoding.delta + (next - point) * (encoding.handled + 1) }
      decoding where
  output := by
    rw [noneBetween, abreast.output]
    rfl
  handled := abreast.handled
  bias := abreast.bias
  later := Nat.le_trans abreast.later later
  leads := by
    have whole : next - decoding.point = point - decoding.point + (next - point) := by
      have known := abreast.later
      omega
    have leads := abreast.leads
    rw [List.filter_nil, List.length_nil, Nat.add_zero] at leads ⊢
    rw [← Nat.add_assoc, leads, whole, Nat.add_mul, abreast.handled]
    rfl
  first := abreast.first
  bounded := abreast.bounded

/-- Behind the end of a scan the next one begins. -/
theorem Abreast.rewind
    {label : List Nat}
    (abreast : Abreast basic point label [] encoding decoding) :
    Abreast basic (point + 1) [] label { encoding with delta := encoding.delta + 1 }
      decoding := by
  have isOutput : decoding.output = label.filter (· ≤ point) := by
    rw [abreast.output, List.filter_nil, List.append_nil]
  have leads := abreast.leads
  rw [← isOutput] at leads
  exact
    { output := by
        rw [isOutput, List.filter_nil, List.nil_append]
        exact List.filter_congr fun code _ => decide_eq_decide.mpr Nat.lt_succ_iff.symm
      handled := abreast.handled
      bias := abreast.bias
      later := Nat.le_succ_of_le abreast.later
      leads := by
        rw [Nat.sub_add_comm abreast.later, Nat.add_mul, Nat.one_mul, List.filter_nil,
          List.length_nil, ← Nat.add_assoc, leads, Nat.add_assoc]
        rfl
      first := abreast.first
      bounded := abreast.bounded }

end

/-- Whether numbers are the codes of a label from `reached` on, in ascending order without
repetition. -/
structure Remaining (label : List Nat) (reached : Nat) (points : List Nat) : Prop where
  ascending : points.Pairwise (· < ·)
  mem_iff : ∀ code, code ∈ points ↔ code ∈ label ∧ reached ≤ code

/-- No code of the label lies in front of the first one that remains. -/
theorem Remaining.filter_eq
    {label points : List Nat}
    {reached point : Nat}
    (remaining : Remaining label reached (point :: points)) :
    label.filter (· < point) = label.filter (· < reached) := by
  have isFirst : ∀ code ∈ points, point < code :=
    (List.pairwise_cons.mp remaining.ascending).1
  have isLater := ((remaining.mem_iff point).mp List.mem_cons_self).2
  refine List.filter_congr fun code present =>
    decide_eq_decide.mpr ⟨fun before => ?_, fun before => ?_⟩
  · by_contra notBefore
    have isRemaining := (remaining.mem_iff code).mpr ⟨present, Nat.not_lt.mp notBefore⟩
    rcases List.mem_cons.mp isRemaining with rfl | inRest
    · exact Nat.lt_irrefl code before
    · exact Nat.lt_asymm before (isFirst code inRest)
  · exact Nat.lt_of_lt_of_le before isLater

/-- Behind the first code that remains, the others remain. -/
theorem Remaining.tail
    {label points : List Nat}
    {reached point : Nat}
    (remaining : Remaining label reached (point :: points)) :
    Remaining label (point + 1) points where
  ascending := remaining.ascending.of_cons
  mem_iff code := by
    constructor
    · intro inRest
      exact ⟨((remaining.mem_iff code).mp (List.mem_cons_of_mem point inRest)).1,
        List.rel_of_pairwise_cons remaining.ascending inRest⟩
    · rintro ⟨present, late⟩
      have isLater := ((remaining.mem_iff point).mp List.mem_cons_self).2
      have isRemaining := (remaining.mem_iff code).mpr
        ⟨present, Nat.le_trans isLater (Nat.le_of_succ_le late)⟩
      exact (List.mem_cons.mp isRemaining).resolve_left (Nat.ne_of_gt late)

/-- The reader keeps up through all scans, and has the whole label in the end. -/
theorem encodePoints_continues
    {basic reached : Nat}
    {label points : List Nat}
    {encoding : Encoding}
    {decoding : Decoding}
    (areCodes : ∀ code ∈ label, IsCode code)
    (remaining : Remaining label reached points)
    (abreast : Abreast basic reached [] label encoding decoding) :
    ∃ final, Continues encoding (encodePoints basic label reached points encoding)
      decoding final
      ∧ final.output = label := by
  induction points generalizing reached encoding decoding with
  | nil =>
      refine ⟨decoding, continues_of_output_eq rfl decoding, ?_⟩
      rw [abreast.output, List.filter_nil, List.nil_append, List.filter_eq_self]
      intro code present
      have notRemaining :=
        mt (fun late => (remaining.mem_iff code).mpr ⟨present, late⟩) List.not_mem_nil
      exact decide_eq_true (Nat.not_le.mp notRemaining)
  | cons point rest inductionHypothesis =>
      obtain ⟨pointPresent, isLater⟩ := (remaining.mem_iff point).mp List.mem_cons_self
      have moved := abreast.advance isLater remaining.filter_eq
      obtain ⟨middle, first, scanned⟩ :=
        encodePoint_continues (areCodes point pointPresent) moved
      rw [List.nil_append] at scanned
      obtain ⟨final, second, isLabel⟩ := inductionHypothesis remaining.tail scanned.rewind
      obtain ⟨digits, isOutput, areDigits, reads⟩ := first
      exact ⟨final, Continues.trans ⟨digits, isOutput, areDigits, reads⟩ second, isLabel⟩

/-- Taking repetitions out of an ascending list leaves it strictly ascending. -/
theorem pairwise_lt_eraseDups
    {codes : List Nat}
    (ascending : codes.Pairwise (· ≤ ·)) :
    codes.eraseDups.Pairwise (· < ·) := by
  induction length : codes.length using Nat.strongRecOn generalizing codes with
  | _ _ inductionHypothesis =>
      cases codes with
      | nil => exact List.Pairwise.nil
      | cons code rest =>
          obtain ⟨isFirst, ascending⟩ := List.pairwise_cons.mp ascending
          rw [List.eraseDups_cons]
          refine List.pairwise_cons.mpr ⟨?_, ?_⟩
          · intro other present
            rw [List.mem_eraseDups, List.mem_filter] at present
            have different : other ≠ code := by simpa using present.2
            exact Nat.lt_of_le_of_ne (isFirst other present.1) different.symm
          · refine inductionHypothesis _ ?_ (ascending.filter _) rfl
            rw [← length]
            exact Nat.lt_succ_of_le (List.length_filter_le _ rest)

/-- The points that are encoded are the codes of the label outside ASCII. -/
theorem remaining_points (codes : List Nat) :
    Remaining codes 0x80
      ((codes.filter fun code => decide (0x80 ≤ code)).mergeSort).eraseDups where
  ascending := by
    apply pairwise_lt_eraseDups
    have sorted := @List.pairwise_mergeSort Nat (fun a b => decide (a ≤ b))
      (by simp only [decide_eq_true_eq]; exact fun _ _ _ => Nat.le_trans)
      (by
        intro a b; simp only [Bool.or_eq_true, decide_eq_true_eq]; exact Nat.le_total a b)
      (codes.filter fun code => decide (0x80 ≤ code))
    exact sorted.imp of_decide_eq_true
  mem_iff code := by
    rw [List.mem_eraseDups, List.mem_mergeSort, List.mem_filter, decide_eq_true_eq]

/-- The characters of a label in ASCII. -/
def basicPart (label : List Char) : List Char :=
  label.filter fun char => char.toNat < 0x80

/-- A label is written as its ASCII characters and digits that yield the whole. -/
theorem punycode_eq (label : List Char) :
    ∃ digits final,
      punycode label
        = (if (basicPart label).isEmpty then [] else basicPart label ++ ['-']) ++ digits
      ∧ (∀ char ∈ digits, IsDigit char)
      ∧ Reads digits ⟨0x80, 0, 72, (basicPart label).map Char.toNat⟩ final
      ∧ final.output = label.map Char.toNat := by
  have areCodes : ∀ code ∈ label.map Char.toNat, IsCode code := by
    intro code present
    obtain ⟨char, -, rfl⟩ := List.mem_map.mp present
    exact isCode_toNat char
  have isBasic :
      (basicPart label).map Char.toNat = (label.map Char.toNat).filter (· < 0x80) := by
    rw [List.filter_map]
    rfl
  have start : Abreast (basicPart label).length 0x80 [] (label.map Char.toNat)
      ⟨0, 72, (basicPart label).length, true,
        if (basicPart label).isEmpty then [] else basicPart label ++ ['-']⟩
      ⟨0x80, 0, 72, (basicPart label).map Char.toNat⟩ :=
    { output := isBasic
      handled := (List.length_map Char.toNat).symm
      bias := rfl
      later := Nat.le_refl _
      leads := by
        rw [Nat.sub_self, Nat.zero_mul]
        rfl
      first := iff_of_true rfl rfl
      bounded := Nat.le_refl _ }
  obtain ⟨final, ⟨digits, isOutput, areDigits, reads⟩, isLabel⟩ :=
    encodePoints_continues areCodes (remaining_points _) start
  exact ⟨digits, final, isOutput, areDigits, reads, isLabel⟩

/-- There is no hyphen among the digits. -/
theorem hyphen_notMem
    {digits : List Char}
    (areDigits : ∀ char ∈ digits, IsDigit char) :
    '-' ∉ digits := by
  intro present
  obtain ⟨value, inRange, isDigit⟩ := areDigits '-' present
  have notHyphen : ∀ value < 36, '-' ≠ digit value := by decide
  exact notHyphen value inRange isDigit

/-- A label is read back from its characters in ASCII. -/
theorem ofPunycode?_punycode (label : List Char) :
    ofPunycode? (punycode label) = some (label.map Char.toNat) := by
  obtain ⟨digits, final, isPunycode, areDigits, ⟨count, bounded, reads⟩, isLabel⟩ :=
    punycode_eq label
  have enough : ∀ fuel, digits.length < fuel →
      decodePoints? fuel 0x80 0 72 ((basicPart label).map Char.toNat) digits
        = some (label.map Char.toNat) := by
    intro fuel enough
    have split : fuel = fuel - 1 - count + 1 + count := by omega
    have read := reads (fuel - 1 - count + 1) []
    rw [List.append_nil] at read
    rw [split, read, decodePoints?, List.isEmpty_nil, if_pos rfl, isLabel]
  rw [isPunycode]
  unfold ofPunycode?
  cases basic : basicPart label with
  | nil =>
      rw [basic] at enough
      rw [List.isEmpty_nil, if_pos rfl, List.nil_append,
        splitLast?_eq_none_iff.mpr (hyphen_notMem areDigits)]
      exact enough _ (Nat.lt_succ_self _)
  | cons first others =>
      rw [basic] at enough
      rw [List.isEmpty_cons, if_neg Bool.false_ne_true, List.append_assoc,
        List.singleton_append, splitLast?_append _ (hyphen_notMem areDigits)]
      apply enough _
      simp only [List.length_append, List.length_cons]
      omega

/-- The characters of a label in ASCII are its own characters in ASCII, hyphens and
digits. -/
theorem mem_punycode
    {label : List Char}
    {char : Char}
    (present : char ∈ punycode label) :
    (char ∈ label ∧ char.toNat < 0x80) ∨ char = '-' ∨ IsDigit char := by
  obtain ⟨digits, final, isPunycode, areDigits, -⟩ := punycode_eq label
  rw [isPunycode, List.mem_append] at present
  rcases present with inFront | inDigits
  · split at inFront
    · cases inFront
    · rcases List.mem_append.mp inFront with isBasic | isHyphen
      · have ⟨isOwn, isAscii⟩ := List.mem_filter.mp isBasic
        exact .inl ⟨isOwn, of_decide_eq_true isAscii⟩
      · exact .inr (.inl (List.mem_singleton.mp isHyphen))
  · exact .inr (.inr (areDigits char inDigits))

end DomainName
end Gatehouse
