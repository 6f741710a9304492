import Gatehouse.Proofs.Directory.TemplateTree

/-!
# Reading templates

Reading a filter goes the same way whatever stands in the holes of a template, since the
characters that decide it are those of the template: the holes are behind equals signs,
and what stands for octets has no parentheses. If a template can be read with a letter
in its holes, it can therefore be read as a tree with holes.
-/

namespace Gatehouse
namespace Filter

/-! ## Reading in steps -/

/-- A template is read as a result up to the rest of it, whatever is put into the holes.
What fills and counts holes comes with the result, which may be a tree or several. -/
structure ReadsUpTo
    {β γ : Type}
    (reader : List Char → Option (β × List Char))
    (fillIn : Bytes → γ → β)
    (number : γ → Nat)
    (template : List (Option Char))
    (result : γ)
    (rest : List (Option Char)) : Prop where
  suffix : rest <:+ template
  counts : number result + rest.count none = template.count none
  reads : ∀ word octets, Stands word octets →
    reader (plug word template) = some (fillIn octets result, plug word rest)

section Steps

variable {β γ : Type} {reader : List Char → Option (β × List Char)}
  {fillIn : Bytes → γ → β} {number : γ → Nat} {template rest : List (Option Char)}
  {result : γ}
  {letter : Char}

/-- A character other than the letter is of the template. -/
theorem exists_of_plug_eq_cons
    {char : Char}
    {behind : List Char}
    (differs : char ≠ letter)
    (shape : plug [letter] template = char :: behind) :
    ∃ more, template = some char :: more ∧ plug [letter] more = behind := by
  match template with
  | [] => cases shape
  | none :: _ => exact absurd (List.cons.inj shape).1.symm differs
  | some first :: more =>
      obtain ⟨rfl, same⟩ := List.cons.inj shape
      exact ⟨more, rfl, same⟩

/-- No opening parenthesis comes in front by putting a word into the holes. -/
theorem plug_ne_paren
    {word : List Char}
    {octets : Bytes}
    (noParen : ∀ content, template ≠ some '(' :: content)
    (stands : Stands word octets)
    (content : List Char) :
    plug word template ≠ '(' :: content := by
  intro shape
  match template with
  | [] => cases shape
  | some char :: _ =>
      cases shape
      exact noParen _ rfl
  | none :: _ =>
      match word with
      | [] => exact stands.nonempty rfl
      | char :: _ =>
          cases shape
          exact absurd (stands.ordinary _ List.mem_cons_self) (by decide)

/-- Characters in front of a template. -/
theorem ReadsUpTo.behind
    {other : List Char → Option (β × List Char)}
    (readsUpTo : ReadsUpTo reader fillIn number template result rest)
    (front : List Char)
    (same : ∀ word octets, Stands word octets →
      other (front ++ plug word template) = reader (plug word template)) :
    ReadsUpTo other fillIn number (front.map some ++ template) result rest where
  suffix := readsUpTo.suffix.trans (List.suffix_append _ _)
  counts := by rw [List.count_append, count_none_map_some, Nat.zero_add, readsUpTo.counts]
  reads := fun word octets stands => by
    rw [plug_append, plug_map_some, same word octets stands,
      readsUpTo.reads word octets stands]

/-- What is enclosed has a closing parenthesis behind it. -/
theorem exists_of_enclose?
    {wrap : β → Filter}
    {part : β}
    {after : List Char}
    (readable : (enclose? wrap (some (part, after))).isSome = true) :
    ∃ behind, after = ')' :: behind := by
  unfold enclose? at readable
  split at readable
  · rename_i same
    exact ⟨_, (Prod.mk.inj (Option.some.inj same)).2⟩
  · cases readable

/-- A parenthesis that closes behind what has been read is of the template. -/
theorem ReadsUpTo.enclosed
    {wrap : β → Filter}
    (wrapTree : γ → FilterTree (Option UInt8))
    (isLetter : Text.isLetter letter = true)
    (readsUpTo : ReadsUpTo reader fillIn number template result rest)
    (sameTree : ∀ octets, wrap (fillIn octets result) =
      instantiate octets (wrapTree result))
    (sameHoles : holes (wrapTree result) = number result)
    (readable : (enclose? wrap (reader (plug [letter] template))).isSome = true) :
    ∃ behind, ReadsUpTo (fun chars => enclose? wrap (reader chars)) instantiate
      holes template (wrapTree result) behind := by
  rw [readsUpTo.reads _ _ (stands_letter isLetter)] at readable
  obtain ⟨behind, shape⟩ := exists_of_enclose? readable
  have differs : ')' ≠ letter := by
    rintro rfl
    cases isLetter
  obtain ⟨more, rfl, -⟩ := exists_of_plug_eq_cons differs shape
  refine ⟨more, (List.suffix_cons _ _).trans readsUpTo.suffix, ?_, ?_⟩
  · rw [sameHoles, ← readsUpTo.counts]
    simp
  · intro word octets stands
    rw [readsUpTo.reads word octets stands, plug, enclose?, sameTree]

/-- The first characters with a property are found before words with it fill the holes. -/
theorem takeWhile_plug
    {holds : Char → Bool}
    {word : List Char}
    (wordHolds : ∀ char ∈ word, holds char = true)
    (template : List (Option Char)) :
    (plug word template).takeWhile holds =
        plug word (template.takeWhile fun slot => slot.all holds) ∧
      (plug word template).dropWhile holds =
        plug word (template.dropWhile fun slot => slot.all holds) := by
  induction template with
  | nil => exact ⟨rfl, rfl⟩
  | cons slot more inductionHypothesis =>
      cases slot with
      | none =>
          simp only [plug, List.takeWhile_append_of_pos wordHolds,
            List.dropWhile_append_of_pos wordHolds, inductionHypothesis]
          exact ⟨rfl, rfl⟩
      | some char =>
          cases isHeld : holds char with
          | true => simp [plug, isHeld, inductionHypothesis]
          | false => simp [plug, isHeld]

/-- All characters have a property if those of the template and the word have. -/
theorem all_plug
    {holds : Char → Bool}
    {word : List Char}
    (wordHolds : ∀ char ∈ word, holds char = true)
    (template : List (Option Char)) :
    (plug word template).all holds = template.all fun slot => slot.all holds := by
  induction template with
  | nil => rfl
  | cons slot more inductionHypothesis =>
      cases slot with
      | none =>
          rw [plug, List.all_append, List.all_eq_true.mpr wordHolds, inductionHypothesis]
          rfl
      | some char =>
          rw [plug, List.all_cons, inductionHypothesis]
          rfl

end Steps

/-! ## Reading filters -/

/-- Each hole is in a value, behind an equals sign, and in no escape. -/
structure Placed (slots : List (Option Char)) : Prop where
  guarded : ∀ front inner after, slots = front ++ some '(' :: (inner ++ none :: after) →
    some '=' ∈ inner
  unbroken : Unbroken slots

/-- Holes that are where values are still are in the rest. -/
theorem Placed.of_isSuffix
    {slots rest : List (Option Char)}
    (placed : Placed slots)
    (isRest : rest <:+ slots) :
    Placed rest where
  guarded := by
    rintro front inner after rfl
    obtain ⟨start, rfl⟩ := isRest
    exact placed.guarded (start ++ front) inner after (List.append_assoc _ _ _).symm
  unbroken := placed.unbroken.of_isInfix isRest.isInfix

/-- Holes that are where values are stand behind the equals signs of the assertions. -/
theorem Placed.guarded_item
    {template : List (Option Char)}
    (placed : Placed (some '(' :: template)) :
    Guarded (template.takeWhile fun slot => slot.all isItemChar) := by
  intro before after shape
  have whole : template =
      before ++ none :: (after ++ template.dropWhile fun slot =>
        slot.all isItemChar) := by
    rw [← List.cons_append, ← List.append_assoc, ← shape, List.takeWhile_append_dropWhile]
  exact placed.guarded [] before _ (congrArg (some '(' :: ·) whole)

variable {letter : Char}

/-- An assertion in parentheses, read with a letter in its holes, is a tree with holes. -/
theorem exists_readsUpTo_item
    (isLetter : Text.isLetter letter = true)
    {template : List (Option Char)}
    (placed : Placed (some '(' :: template))
    (readable : (item? ((plug [letter] template).takeWhile isItemChar)).isSome = true) :
    ∃ tree rest, ReadsUpTo
      (fun chars => (item? (chars.takeWhile isItemChar)).map
        (·, chars.dropWhile isItemChar))
      instantiate holes template tree rest := by
  have letterTaken :=
    (takeWhile_plug (fun char inWord => ((stands_letter isLetter).ordinary char inWord).1)
      template).1
  rw [letterTaken] at readable
  have unbroken : Unbroken (template.takeWhile fun slot => slot.all isItemChar) :=
    placed.unbroken.of_isInfix
      ((List.takeWhile_prefix _).isInfix.trans (List.suffix_cons _ _).isInfix)
  obtain ⟨tree, readsAs⟩ :=
    exists_readsAsTree_item? isLetter placed.guarded_item unbroken readable
  refine ⟨tree, template.dropWhile fun slot => slot.all isItemChar,
    List.dropWhile_suffix _, ?_, ?_⟩
  · rw [readsAs.holes, ← List.count_append, List.takeWhile_append_dropWhile]
  · intro word octets stands
    obtain ⟨taken, dropped⟩ :=
      takeWhile_plug (fun char inWord => (stands.ordinary char inWord).1) template
    rw [taken, dropped, readsAs.reads word octets stands]
    rfl

/-- What can be enclosed has been read. -/
theorem isSome_of_enclose?
    {β : Type}
    {wrap : β → Filter}
    {result : Option (β × List Char)}
    (readable : (enclose? wrap result).isSome = true) :
    result.isSome = true := by
  cases result with
  | none => cases readable
  | some _ => rfl

/-- A filter in parentheses begins with one. -/
theorem exists_of_read?
    {depth : Nat}
    {chars : List Char}
    (readable : (read? depth chars).isSome = true) :
    ∃ rest, chars = '(' :: rest := by
  unfold read? at readable
  split at readable
  all_goals first | exact ⟨_, rfl⟩ | cases readable

/-- Without an operator, what stands in parentheses is an assertion. -/
theorem read?_item
    (depth : Nat)
    {char : Char}
    (rest : List Char)
    (notAll : char ≠ '&')
    (notAny : char ≠ '|')
    (notNot : char ≠ '!') :
    read? (depth + 1) ('(' :: char :: rest) =
      enclose? id ((item? ((char :: rest).takeWhile isItemChar)).map
        (·, (char :: rest).dropWhile isItemChar)) := by
  rw [read?]
  all_goals
    rintro more ⟨rfl, -⟩
    contradiction

/-- One filter after another is read. -/
theorem readList?_cons (depth : Nat) (rest : List Char) :
    readList? (depth + 1) ('(' :: rest) =
      (read? depth ('(' :: rest)).bind fun first =>
        (readList? depth first.2).map fun others => (first.1 :: others.1, others.2) := by
  rw [readList?]
  cases read? depth ('(' :: rest) with
  | none => rfl
  | some first => cases others : readList? depth first.2 <;> simp [others]

theorem readList?_nil
    (depth : Nat)
    {chars : List Char}
    (noFilter : ∀ rest, chars ≠ '(' :: rest) :
    readList? (depth + 1) chars = some ([], chars) := by
  rw [readList?]
  exact noFilter

/-- Trees with octets in the holes. -/
def instantiateAll (octets : Bytes) : List (FilterTree (Option UInt8)) → List Filter :=
  FilterTree.mapAllValues (plug octets)

/-- The number of holes in trees. -/
def holesOfAll (trees : List (FilterTree (Option UInt8))) : Nat :=
  (FilterTree.allItems trees).count none

/-- Parts behind an operator are read as a tree, if they are read as results. -/
theorem exists_readsUpTo_parts
    {β γ : Type}
    {inner : List Char → Option (β × List Char)}
    {fillIn : Bytes → γ → β}
    {number : γ → Nat}
    {depth : Nat}
    {operator : Char}
    {parts : List (Option Char)}
    (wrap : β → Filter)
    (wrapTree : γ → FilterTree (Option UInt8))
    (isLetter : Text.isLetter letter = true)
    (begins : ∀ chars, read? (depth + 1) ('(' :: operator :: chars) =
      enclose? wrap (inner chars))
    (sameTree : ∀ octets result, wrap (fillIn octets result) =
      instantiate octets (wrapTree result))
    (sameHoles : ∀ result, holes (wrapTree result) = number result)
    (readsParts : (inner (plug [letter] parts)).isSome = true →
      ∃ result rest, ReadsUpTo inner fillIn number parts result rest)
    (readable :
      (read? (depth + 1) (plug [letter] (some '(' :: some operator :: parts))).isSome =
        true) :
    ∃ tree rest, ReadsUpTo (read? (depth + 1)) instantiate holes
      (some '(' :: some operator :: parts) tree rest := by
  rw [plug, plug, begins] at readable
  obtain ⟨result, rest, reads⟩ := readsParts (isSome_of_enclose? readable)
  obtain ⟨behind, enclosed⟩ := reads.enclosed wrapTree isLetter
    (fun octets => sameTree octets result) (sameHoles result) readable
  exact ⟨_, behind, enclosed.behind ['(', operator] fun word octets _ => begins _⟩

/-- A filter that is read with a letter in its holes is a tree, nested as deep. -/
def ReadsFilter (letter : Char) (depth : Nat) : Prop :=
  ∀ template, Placed template → (read? depth (plug [letter] template)).isSome = true →
    ∃ tree rest, ReadsUpTo (read? depth) instantiate holes template tree rest

/-- Filters that are read with a letter in their holes are trees. -/
def ReadsFilters (letter : Char) (depth : Nat) : Prop :=
  ∀ template, Placed template → (readList? depth (plug [letter] template)).isSome = true →
    ∃ trees rest, ReadsUpTo (readList? depth) instantiateAll holesOfAll
      template trees rest

/-- A template of a filter is read as a tree, since those of its parts are. -/
theorem readsFilter_succ
    (isLetter : Text.isLetter letter = true)
    {depth : Nat}
    (ofParts : ReadsFilters letter depth)
    (ofPart : ReadsFilter letter depth) :
    ReadsFilter letter (depth + 1) := by
  intro template placed readable
  obtain ⟨behind, shape⟩ := exists_of_read? readable
  have notOpen : '(' ≠ letter := by
    rintro rfl
    cases isLetter
  obtain ⟨content, rfl, rfl⟩ := exists_of_plug_eq_cons notOpen shape
  match content with
  | [] => cases readable
  | none :: after =>
      exact absurd (placed.guarded [] [] after rfl) List.not_mem_nil
  | some char :: parts =>
      have placedParts : Placed parts :=
        placed.of_isSuffix ((List.suffix_cons _ _).trans (List.suffix_cons _ _))
      by_cases isAll : char = '&'
      · subst isAll
        exact exists_readsUpTo_parts .all .all isLetter (fun _ => rfl) (fun _ _ => rfl)
          (fun _ => rfl) (ofParts parts placedParts) readable
      by_cases isAny : char = '|'
      · subst isAny
        exact exists_readsUpTo_parts .any .any isLetter (fun _ => rfl) (fun _ _ => rfl)
          (fun _ => rfl) (ofParts parts placedParts) readable
      by_cases isNot : char = '!'
      · subst isNot
        exact exists_readsUpTo_parts .not .not isLetter (fun _ => rfl) (fun _ _ => rfl)
          (fun _ => rfl) (ofPart parts placedParts) readable
      have begins := fun chars => read?_item depth chars isAll isAny isNot
      rw [plug, plug, begins] at readable
      obtain ⟨tree, rest, reads⟩ := exists_readsUpTo_item isLetter placed
        (Option.isSome_map ▸ isSome_of_enclose? readable)
      obtain ⟨behind, enclosed⟩ := reads.enclosed id isLetter (fun _ => rfl) rfl readable
      exact ⟨tree, behind, enclosed.behind ['('] fun word octets _ => begins _⟩

/-- A template of filters is read as trees, since the first one and the others are. -/
theorem readsFilters_succ
    (isLetter : Text.isLetter letter = true)
    {depth : Nat}
    (ofParts : ReadsFilters letter depth)
    (ofPart : ReadsFilter letter depth) :
    ReadsFilters letter (depth + 1) := by
  intro template placed readable
  by_cases begins : ∃ content, template = some '(' :: content
  · obtain ⟨content, rfl⟩ := begins
    obtain ⟨sample, reads⟩ := Option.isSome_iff_exists.mp readable
    rw [plug, readList?_cons, Option.bind_eq_some_iff] at reads
    obtain ⟨first, readsFirst, readsOthers⟩ := reads
    obtain ⟨tree, rest, readsTree⟩ := ofPart _ placed (by rw [plug, readsFirst]; rfl)
    have isFirst := readsTree.reads _ _ (stands_letter isLetter)
    rw [plug, readsFirst, Option.some.injEq] at isFirst
    rw [isFirst, Option.map_eq_some_iff] at readsOthers
    obtain ⟨others, readsOthers, -⟩ := readsOthers
    obtain ⟨trees, behind, readsTrees⟩ :=
      ofParts rest (placed.of_isSuffix readsTree.suffix) (by rw [readsOthers]; rfl)
    refine ⟨tree :: trees, behind, readsTrees.suffix.trans readsTree.suffix, ?_, ?_⟩
    · rw [← readsTree.counts, ← readsTrees.counts, holesOfAll, FilterTree.allItems,
        List.count_append]
      exact Nat.add_assoc _ _ _
    · intro word octets stands
      have readsFirst := readsTree.reads word octets stands
      rw [plug] at readsFirst ⊢
      rw [readList?_cons, readsFirst, Option.bind_some,
        readsTrees.reads word octets stands]
      rfl
  · refine ⟨[], template, List.suffix_rfl, Nat.zero_add _, ?_⟩
    intro word octets stands
    exact readList?_nil depth
      (plug_ne_paren (fun content shape => begins ⟨content, shape⟩) stands)

/-- Whatever can be read with a letter in its holes is read as trees with holes. -/
theorem readsFilters_and_readsFilter
    (isLetter : Text.isLetter letter = true)
    (depth : Nat) :
    ReadsFilters letter depth ∧ ReadsFilter letter depth := by
  induction depth with
  | zero =>
      constructor
      · intro template _ readable
        cases readable
      · intro template _ readable
        cases readable
  | succ depth inductionHypothesis =>
      obtain ⟨ofParts, ofPart⟩ := inductionHypothesis
      exact ⟨readsFilters_succ isLetter ofParts ofPart,
        readsFilter_succ isLetter ofParts ofPart⟩

/-! ## Depth -/

/-- What is enclosed is enclosed if more can be read. -/
theorem enclose?_of_extends
    {β : Type}
    {wrap : β → Filter}
    {fewer more : Option (β × List Char)}
    {result : Filter × List Char}
    (included : ∀ read, fewer = some read → more = some read)
    (encloses : enclose? wrap fewer = some result) :
    enclose? wrap more = some result := by
  cases reads : fewer with
  | none =>
      rw [reads] at encloses
      cases encloses
  | some read =>
      rw [reads] at encloses
      rw [included read reads, encloses]

/-- What can be read can be read with a larger bound. -/
theorem read?_succ (depth : Nat) :
    (∀ chars result, readList? depth chars = some result →
      readList? (depth + 1) chars = some result) ∧
    (∀ chars result,
      read? depth chars = some result → read? (depth + 1) chars = some result) := by
  induction depth with
  | zero =>
      constructor
      · intro chars result reads
        cases reads
      · intro chars result reads
        cases reads
  | succ depth inductionHypothesis =>
      obtain ⟨ofParts, ofPart⟩ := inductionHypothesis
      constructor
      · intro chars result reads
        by_cases begins : ∃ rest, chars = '(' :: rest
        · obtain ⟨rest, rfl⟩ := begins
          rw [readList?_cons, Option.bind_eq_some_iff] at reads
          obtain ⟨first, readsFirst, readsOthers⟩ := reads
          rw [Option.map_eq_some_iff] at readsOthers
          obtain ⟨others, readsOthers, same⟩ := readsOthers
          rw [readList?_cons, ofPart _ _ readsFirst, Option.bind_some,
            ofParts _ _ readsOthers, ← same]
          rfl
        · have noFilter : ∀ rest, chars ≠ '(' :: rest :=
            fun rest shape => begins ⟨rest, shape⟩
          rwa [readList?_nil _ noFilter] at reads ⊢
      · intro chars result reads
        obtain ⟨content, rfl⟩ := exists_of_read? (Option.isSome_of_eq_some reads)
        match content with
        | [] => cases reads
        | char :: parts =>
            by_cases isAll : char = '&'
            · subst isAll
              exact enclose?_of_extends (ofParts parts) reads
            by_cases isAny : char = '|'
            · subst isAny
              exact enclose?_of_extends (ofParts parts) reads
            by_cases isNot : char = '!'
            · subst isNot
              exact enclose?_of_extends (ofPart parts) reads
            rw [read?_item _ _ isAll isAny isNot] at reads ⊢
            exact reads

/-- What can be read can be read with every larger bound. -/
theorem read?_of_le
    {less more : Nat}
    (larger : less ≤ more)
    {chars : List Char}
    {result : Filter × List Char}
    (reads : read? less chars = some result) :
    read? more chars = some result := by
  induction larger with
  | refl => exact reads
  | step _ inductionHypothesis => exact (read?_succ _).2 _ _ inductionHypothesis

/-! ## Texts -/

/-- A filter in parentheses is a text if nothing follows it. -/
theorem ofText?_paren (rest : List Char) :
    ofText? (String.ofList ('(' :: rest)) =
      (read? (2 * ('(' :: rest).length + 2) ('(' :: rest)).bind fun result =>
        if result.2 = [] then some result.1 else none := by
  rw [ofText?, String.toList_ofList]
  cases read? (2 * ('(' :: rest).length + 2) ('(' :: rest) with
  | none => rfl
  | some result =>
      obtain ⟨filter, remaining⟩ := result
      cases remaining <;> rfl

theorem ofText?_item {chars : List Char} (noParen : ∀ rest, chars ≠ '(' :: rest) :
    ofText? (String.ofList chars) = if chars.all isItemChar then item? chars
      else none := by
  rw [ofText?, String.toList_ofList]
  split
  · exact absurd rfl (noParen _)
  · rfl

/-- A text that is read as a filter with a letter in its holes is a tree. -/
theorem exists_readsAsTree_ofText?
    (isLetter : Text.isLetter letter = true)
    {template : List (Option Char)}
    (placed : Placed template)
    (guarded : Guarded template)
    (readable : (ofText? (String.ofList (plug [letter] template))).isSome = true) :
    ∃ tree, ReadsAsTree (fun chars => ofText? (String.ofList chars)) template tree := by
  have stands := stands_letter isLetter
  by_cases begins : ∃ content, template = some '(' :: content
  · obtain ⟨content, rfl⟩ := begins
    obtain ⟨sample, reads⟩ := Option.isSome_iff_exists.mp readable
    rw [plug, ofText?_paren, Option.bind_eq_some_iff] at reads
    obtain ⟨⟨filter, remaining⟩, readsSample, ends⟩ := reads
    obtain ⟨tree, rest, readsUpTo⟩ := (readsFilters_and_readsFilter isLetter _).2 _ placed
      (by rw [plug]; exact Option.isSome_of_eq_some readsSample)
    have isSample := readsUpTo.reads _ _ stands
    rw [plug, readsSample, Option.some.injEq, Prod.mk.injEq] at isSample
    obtain ⟨-, rfl⟩ := isSample
    have isEnd : rest = [] := by
      by_contra more
      rw [if_neg (by simpa [plug_eq_nil_iff stands.nonempty] using more)] at ends
      cases ends
    subst isEnd
    refine ⟨tree, readsUpTo.counts, fun word octets stands' => ?_⟩
    have shortest : [letter].length ≤ word.length :=
      List.length_pos_iff.mpr stands'.nonempty
    have longer :
        ('(' :: plug [letter] content).length ≤ ('(' :: plug word content).length :=
      Nat.succ_le_succ (length_plug_le shortest content)
    have readsWord := readsUpTo.reads word octets stands'
    rw [plug] at readsWord ⊢
    rw [ofText?_paren, read?_of_le (by omega) readsWord]
    rfl
  · have reads : ∀ word octets, Stands word octets →
        ofText? (String.ofList (plug word template)) =
          if template.all fun slot => slot.all isItemChar then item? (plug word template)
          else none := by
      intro word octets stands
      rw [ofText?_item
        (plug_ne_paren (fun content shape => begins ⟨content, shape⟩) stands),
        all_plug fun char inWord => (stands.ordinary char inWord).1]
    rw [reads _ _ stands] at readable
    split_ifs at readable reads with areItemChars
    · obtain ⟨tree, readsAs⟩ :=
        exists_readsAsTree_item? isLetter guarded placed.unbroken readable
      exact ⟨tree, readsAs.holes, fun word octets stands => by
        rw [reads word octets stands, readsAs.reads word octets stands]⟩
    · cases readable

end Filter
end Gatehouse
