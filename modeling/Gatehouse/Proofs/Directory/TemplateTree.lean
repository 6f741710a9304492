import Gatehouse.Proofs.Directory.Template

/-!
# Trees with holes

The tree of a template has the holes of the template in its values. What an assertion is
read as is decided by the characters around the holes: the wildcards, which cut the
pattern into pieces, and what stands in front of the equals sign.
-/

namespace Gatehouse

/-! ## Values of a tree -/

namespace FilterTree

variable {α β : Type}

mutual

/-- Replace each value of a tree. -/
def mapValues (replace : List α → List β) : FilterTree α → FilterTree β
  | .all parts => .all (mapAllValues replace parts)
  | .any parts => .any (mapAllValues replace parts)
  | .not part => .not (mapValues replace part)
  | .equal key value => .equal key (replace value)
  | .substrings key initial middle final =>
      .substrings key (replace initial) (middle.map replace) (replace final)
  | .present key => .present key
  | .compare comparison value => .compare comparison (replace value)

/-- Replace each value of each tree. -/
def mapAllValues (replace : List α → List β) : List (FilterTree α) → List (FilterTree β)
  | [] => []
  | part :: parts => mapValues replace part :: mapAllValues replace parts

end

mutual

/-- The items of the values of a tree, in their order. -/
def items : FilterTree α → List α
  | .all parts => allItems parts
  | .any parts => allItems parts
  | .not part => items part
  | .equal _ value => value
  | .substrings _ initial middle final => initial ++ middle.flatten ++ final
  | .present _ => []
  | .compare _ value => value

/-- The items of the values of trees. -/
def allItems : List (FilterTree α) → List α
  | [] => []
  | part :: parts => items part ++ allItems parts

end

section Determined

/-- If two functions together determine the items, they determine lists of them. -/
theorem eq_of_map_eq
    {change change' : α → β}
    (determined : ∀ item item', change item = change item' →
      change' item = change' item' → item = item')
    {list list' : List α}
    (same : list.map change = list'.map change)
    (same' : list.map change' = list'.map change') :
    list = list' := by
  induction list generalizing list' with
  | nil => exact (List.map_eq_nil_iff.mp same.symm).symm
  | cons item rest inductionHypothesis =>
      cases list' with
      | nil => cases same
      | cons first others =>
          obtain ⟨sameFirst, sameOthers⟩ := List.cons.inj same
          obtain ⟨sameFirst', sameOthers'⟩ := List.cons.inj same'
          rw [determined item first sameFirst sameFirst',
            inductionHypothesis sameOthers sameOthers']

variable {replace replace' : List α → List β}

mutual

/-- If two replacements together determine the values, they determine the tree. -/
theorem eq_of_mapValues_eq
    (determined : ∀ value value', replace value = replace value' →
      replace' value = replace' value' → value = value') :
    ∀ tree tree' : FilterTree α, mapValues replace tree = mapValues replace tree' →
      mapValues replace' tree = mapValues replace' tree' → tree = tree'
  | .all parts, tree', same, same' => by
      cases tree' with
      | all parts' =>
          exact congrArg _
            (eq_of_mapAllValues_eq determined parts parts' (FilterTree.all.inj same)
            (FilterTree.all.inj same'))
      | _ => cases same
  | .any parts, tree', same, same' => by
      cases tree' with
      | any parts' =>
          exact congrArg _
            (eq_of_mapAllValues_eq determined parts parts' (FilterTree.any.inj same)
            (FilterTree.any.inj same'))
      | _ => cases same
  | .not part, tree', same, same' => by
      cases tree' with
      | not part' =>
          exact congrArg _
            (eq_of_mapValues_eq determined part part' (FilterTree.not.inj same)
            (FilterTree.not.inj same'))
      | _ => cases same
  | .equal key value, tree', same, same' => by
      cases tree' with
      | equal key' value' =>
          obtain ⟨rfl, sameValue⟩ := FilterTree.equal.inj same
          exact congrArg _ (determined _ _ sameValue (FilterTree.equal.inj same').2)
      | _ => cases same
  | .substrings key initial middle final, tree', same, same' => by
      cases tree' with
      | substrings key' initial' middle' final' =>
          obtain ⟨rfl, sameInitial, sameMiddle, sameFinal⟩ :=
            FilterTree.substrings.inj same
          obtain ⟨-, sameInitial', sameMiddle', sameFinal'⟩ :=
            FilterTree.substrings.inj same'
          rw [determined _ _ sameInitial sameInitial',
            eq_of_map_eq determined sameMiddle sameMiddle',
            determined _ _ sameFinal sameFinal']
      | _ => cases same
  | .present key, tree', same, _ => by
      cases tree' with
      | present key' => exact congrArg _ (FilterTree.present.inj same)
      | _ => cases same
  | .compare comparison value, tree', same, same' => by
      cases tree' with
      | compare comparison' value' =>
          obtain ⟨rfl, sameValue⟩ := FilterTree.compare.inj same
          exact congrArg _ (determined _ _ sameValue (FilterTree.compare.inj same').2)
      | _ => cases same

/-- If two replacements together determine the values, they determine the trees. -/
theorem eq_of_mapAllValues_eq
    (determined : ∀ value value', replace value = replace value' →
      replace' value = replace' value' → value = value') :
    ∀ trees trees' : List (FilterTree α),
      mapAllValues replace trees = mapAllValues replace trees' →
      mapAllValues replace' trees = mapAllValues replace' trees' → trees = trees'
  | [], trees', same, _ => by
      cases trees' with
      | nil => rfl
      | cons _ _ => cases same
  | tree :: trees, trees', same, same' => by
      cases trees' with
      | nil => cases same
      | cons first others =>
          obtain ⟨sameFirst, sameOthers⟩ := List.cons.inj same
          obtain ⟨sameFirst', sameOthers'⟩ := List.cons.inj same'
          rw [eq_of_mapValues_eq determined tree first sameFirst sameFirst',
            eq_of_mapAllValues_eq determined trees others sameOthers sameOthers']

end

end Determined

end FilterTree

namespace Filter

/-- The filter of a tree with octets in the holes. -/
def instantiate (octets : Bytes) : FilterTree (Option UInt8) → Filter :=
  FilterTree.mapValues (plug octets)

/-- The number of holes in a tree. -/
def holes (tree : FilterTree (Option UInt8)) : Nat :=
  tree.items.count none

/-- Two different octets in the holes determine a tree. -/
theorem eq_of_instantiate_eq
    {octet octet' : UInt8}
    (different : octet ≠ octet')
    {tree tree' : FilterTree (Option UInt8)}
    (same : instantiate [octet] tree = instantiate [octet] tree')
    (same' : instantiate [octet'] tree = instantiate [octet'] tree') :
    tree = tree' := by
  refine FilterTree.eq_of_mapValues_eq ?_ tree tree' same same'
  intro value value' sameValue sameValue'
  rw [plug_singleton, plug_singleton] at sameValue sameValue'
  refine FilterTree.eq_of_map_eq ?_ sameValue sameValue'
  intro slot slot' sameSlot sameSlot'
  cases slot with
  | none =>
      cases slot' with
      | none => rfl
      | some item => exact absurd (sameSlot.trans sameSlot'.symm) different
  | some item =>
      cases slot' with
      | none => exact absurd (sameSlot.symm.trans sameSlot') different
      | some item' => exact congrArg some sameSlot

/-! ## Pieces between wildcards -/

section Pieces

variable {α β : Type}

/-- The assertion about two or more pieces. -/
theorem ofPieces?_cons_cons
    (key : String)
    (initial next : List α)
    (rest : List (List α)) :
    ofPieces? key (initial :: next :: rest) =
      if initial = [] ∧ next = [] ∧ rest = [] then some (.present key)
      else if (next :: rest).dropLast.any List.isEmpty then none
      else
        some (.substrings key initial (next :: rest).dropLast
          ((next :: rest).getLastD [])) := by
  split_ifs with isPresence someEmpty
  · obtain ⟨rfl, rfl, rfl⟩ := isPresence
    rfl
  · rw [ofPieces?.eq_4 _ _ _ (by simp) (by simpa using isPresence), if_pos someEmpty]
  · rw [ofPieces?.eq_4 _ _ _ (by simp) (by simpa using isPresence), if_neg someEmpty]

/-- The assertion about pieces depends on which of them are empty, and else carries them
along. -/
theorem ofPieces?_map
    (key : String)
    {replace : List α → List β}
    (empties : ∀ value, replace value = [] ↔ value = [])
    (pieces : List (List α)) :
    ofPieces? key (pieces.map replace) =
      (ofPieces? key pieces).map (FilterTree.mapValues replace) := by
  match pieces with
  | [] => rfl
  | [value] => rfl
  | initial :: next :: rest =>
      have sameEmpty : List.isEmpty ∘ replace = List.isEmpty := funext fun value => by
        rw [Bool.eq_iff_iff, Function.comp_apply, List.isEmpty_iff, List.isEmpty_iff,
          empties]
      have lastPiece : ((next :: rest).map replace).getLastD [] =
          replace ((next :: rest).getLastD []) := by
        simp [List.getLastD_eq_getLast?, List.getLast?_cons]
      rw [List.map_cons, List.map_cons, ofPieces?_cons_cons, ofPieces?_cons_cons,
        ← List.map_cons, ← List.map_dropLast, List.any_map, sameEmpty, lastPiece]
      simp only [empties, List.map_eq_nil_iff]
      split_ifs <;> rfl

/-- An assertion has the items of its pieces. -/
theorem items_of_ofPieces?
    {key : String}
    {pieces : List (List α)}
    {tree : FilterTree α}
    (made : ofPieces? key pieces = some tree) :
    tree.items = pieces.flatten := by
  match pieces with
  | [] => cases made
  | [value] =>
      cases made
      simp [FilterTree.items]
  | initial :: next :: rest =>
      rw [ofPieces?_cons_cons] at made
      split_ifs at made with isPresence someEmpty
      · cases made
        obtain ⟨rfl, rfl, rfl⟩ := isPresence
        rfl
      · cases made
        have joined :
            (next :: rest).dropLast ++ [(next :: rest).getLastD []] = next :: rest := by
          rw [List.getLastD_eq_getLast?,
            List.getLast?_eq_some_getLast (List.cons_ne_nil _ _)]
          exact List.dropLast_append_getLast _
        rw [FilterTree.items, List.flatten_cons, ← joined]
        simp

/-- Words can be put into the holes of joined lists before joining them. -/
theorem plug_intercalate
    (word : List α)
    (separator : α)
    (pieces : List (List (Option α))) :
    plug word (List.intercalate [some separator] pieces) =
      List.intercalate [separator] (pieces.map (plug word)) := by
  induction pieces with
  | nil => rfl
  | cons piece rest inductionHypothesis =>
      cases rest with
      | nil => simp
      | cons next others =>
          rw [List.map_cons, List.map_cons, List.intercalate_cons_cons,
            List.intercalate_cons_cons, plug_append, plug_append, inductionHypothesis]
          rfl

/-- Joined lists have the holes of the lists. -/
theorem count_none_intercalate
    [DecidableEq α]
    (separator : α)
    (pieces : List (List (Option α))) :
    (List.intercalate [some separator] pieces).count none =
      pieces.flatten.count none := by
  induction pieces with
  | nil => rfl
  | cons piece rest inductionHypothesis =>
      cases rest with
      | nil => simp
      | cons next others =>
          rw [List.intercalate_cons_cons, List.flatten_cons, List.count_append,
            List.count_append, List.count_append, inductionHypothesis]
          simp

/-- Each of joined lists is a part of what they are joined to. -/
theorem isInfix_intercalate {separator : α} {pieces : List (List α)} {piece : List α}
    (isPiece : piece ∈ pieces) :
    piece <:+: List.intercalate [separator] pieces := by
  induction pieces with
  | nil => cases isPiece
  | cons first rest inductionHypothesis =>
      cases rest with
      | nil =>
          rw [List.intercalate_singleton, List.mem_singleton.mp isPiece]
      | cons next others =>
          rw [List.intercalate_cons_cons]
          rcases List.mem_cons.mp isPiece with rfl | behind
          · rw [List.append_assoc]
            exact (List.prefix_append _ _).isInfix
          · exact (inductionHypothesis behind).trans (List.suffix_append _ _).isInfix

end Pieces

/-- A list is cut at separators before words without the separator are put into its
holes. -/
theorem splitEvery_plug {separator : Char} {word : List Char} (absent : separator ∉ word)
    (template : List (Option Char)) :
    Text.splitEvery separator (plug word template) =
      (Text.splitEvery (some separator) template).map (plug word) := by
  have nonempty := Text.splitEvery_ne_nil (some separator) template
  conv_lhs =>
    rw [← Text.intercalate_splitEvery (some separator) template, plug_intercalate]
  apply Text.splitEvery_intercalate (by simpa using nonempty)
  intro filled isFilled
  obtain ⟨piece, isPiece, rfl⟩ := List.mem_map.mp isFilled
  rw [mem_plug_iff]
  rintro (inside | ⟨-, inWord⟩)
  · exact (Text.mem_and_ne_of_mem_splitEvery isPiece inside).2 rfl
  · exact absent inWord

/-! ## Patterns -/

/-- A template is read as a tree with the same holes, whatever is put into them. -/
structure ReadsAsTree
    (reader : List Char → Option Filter)
    (template : List (Option Char))
    (tree : FilterTree (Option UInt8)) : Prop where
  holes : holes tree = template.count none
  reads : ∀ word octets, Stands word octets →
    reader (plug word template) = some (instantiate octets tree)

/-- Pieces that are read one by one are read together. -/
theorem mapM_unescape?_map_plug
    {pieces : List (List (Option Char))}
    {values : List (List (Option UInt8))}
    (readsAs : List.Forall₂ ReadsAs pieces values)
    {word : List Char}
    {octets : Bytes}
    (stands : Stands word octets) :
    (pieces.map (plug word)).mapM unescape? = some (values.map (plug octets)) := by
  induction readsAs with
  | nil => rfl
  | cons first _ inductionHypothesis =>
      rw [List.map_cons, List.mapM_cons, first.reads word octets stands,
        inductionHypothesis]
      rfl

/-- Values have the holes of the pieces as which they are read. -/
theorem count_none_flatten
    {pieces : List (List (Option Char))}
    {values : List (List (Option UInt8))}
    (readsAs : List.Forall₂ ReadsAs pieces values) :
    values.flatten.count none = pieces.flatten.count none := by
  induction readsAs with
  | nil => rfl
  | cons first _ inductionHypothesis =>
      rw [List.flatten_cons, List.flatten_cons, List.count_append, List.count_append,
        first.holes, inductionHypothesis]

variable {letter : Char}

/-- Pieces that are read with a letter in their holes are values with holes. -/
theorem exists_forall₂_readsAs
    (isLetter : Text.isLetter letter = true)
    {pieces : List (List (Option Char))}
    (unbroken : ∀ piece ∈ pieces, Unbroken piece)
    (readable : ((pieces.map (plug [letter])).mapM unescape?).isSome = true) :
    ∃ values, List.Forall₂ ReadsAs pieces values := by
  induction pieces with
  | nil => exact ⟨[], .nil⟩
  | cons piece rest inductionHypothesis =>
      rw [List.map_cons, List.mapM_cons] at readable
      obtain ⟨all, reads⟩ := Option.isSome_iff_exists.mp readable
      simp only [Option.bind_eq_bind, Option.bind_eq_some_iff] at reads
      obtain ⟨first, readsFirst, others, readsOthers, -⟩ := reads
      obtain ⟨value, readsAs⟩ := exists_readsAs isLetter
        (unbroken piece List.mem_cons_self) (by rw [readsFirst]; rfl)
      obtain ⟨values, readsAsOthers⟩ := inductionHypothesis
        (fun other isOther => unbroken other (List.mem_cons_of_mem _ isOther))
        (by rw [readsOthers]; rfl)
      exact ⟨value :: values, .cons readsAs readsAsOthers⟩

/-- A pattern that is read with a letter in its holes is a tree. -/
theorem exists_readsAsTree_ofPattern?
    (isLetter : Text.isLetter letter = true)
    (key : String)
    {template : List (Option Char)}
    (unbroken : Unbroken template)
    (readable : (ofPattern? key (plug [letter] template)).isSome = true) :
    ∃ tree, ReadsAsTree (ofPattern? key) template tree := by
  have cut : ∀ word octets, Stands word octets → ofPattern? key (plug word template) =
      (((Text.splitEvery (some '*') template).map (plug word)).mapM unescape?).bind
        (ofPieces? key) := by
    intro word octets stands
    rw [ofPattern?, splitEvery_plug fun inWord => (stands.ordinary _ inWord).2 rfl]
    rfl
  obtain ⟨sample, readsSample⟩ := Option.isSome_iff_exists.mp readable
  rw [cut _ _ (stands_letter isLetter), Option.bind_eq_some_iff] at readsSample
  obtain ⟨samples, readsPieces, -⟩ := readsSample
  have unbrokenPieces :
      ∀ piece ∈ Text.splitEvery (some '*') template, Unbroken piece := by
    intro piece isPiece
    refine unbroken.of_isInfix ?_
    rw [← Text.intercalate_splitEvery (some '*') template]
    exact isInfix_intercalate isPiece
  obtain ⟨values, readsAs⟩ :=
    exists_forall₂_readsAs isLetter unbrokenPieces (Option.isSome_of_eq_some readsPieces)
  have assertion : ∀ word octets,
      Stands word octets → ofPattern? key (plug word template) =
      (ofPieces? key values).map (instantiate octets) := by
    intro word octets stands
    rw [cut word octets stands, mapM_unescape?_map_plug readsAs stands, Option.bind_some,
      ofPieces?_map key fun value => plug_eq_nil_iff stands.filled]
    rfl
  rw [assertion _ _ (stands_letter isLetter), Option.isSome_map] at readable
  obtain ⟨tree, made⟩ := Option.isSome_iff_exists.mp readable
  refine ⟨tree, ⟨?_, fun word octets stands => ?_⟩⟩
  · rw [holes, items_of_ofPieces? made, count_none_flatten readsAs,
      ← count_none_intercalate '*', Text.intercalate_splitEvery]
  · rw [assertion word octets stands, made]
    rfl

/-! ## Assertions -/

/-- What an assertion is read as, by what stands around its first equals sign. -/
theorem item?_append {left : List Char} (absent : '=' ∉ left) (pattern : List Char) :
    item? (left ++ '=' :: pattern) =
      if isDescription left then ofPattern? (String.ofList left) pattern
      else if '*' ∈ pattern then none
      else (comparison? left).bind fun comparison =>
        (unescape? pattern).map (.compare comparison) := by
  have wild : (pattern.all fun char => char != '*') = true ↔ '*' ∉ pattern := by
    rw [List.all_eq_true]
    constructor
    · intro others present
      simpa using others _ present
    · rintro absent char present
      rw [bne_iff_ne]
      rintro rfl
      exact absent present
  rw [item?, Text.splitFirst?_append absent]
  simp only [Option.bind_eq_bind, Option.bind_some, wild, ite_not]
  split_ifs
  · rfl
  · rfl
  · cases comparison? left <;> cases unescape? pattern <;> rfl

/-- Each hole stands behind an equals sign. -/
def Guarded (slots : List (Option Char)) : Prop :=
  ∀ before after, slots = before ++ none :: after → some '=' ∈ before

/-- There are no holes in front of the first equals sign. -/
theorem Guarded.exists_pattern
    {slots : List (Option Char)}
    (guarded : Guarded slots)
    (present : some '=' ∈ slots) :
    ∃ (left : List Char) (template : List (Option Char)),
      slots = left.map some ++ some '=' :: template ∧ '=' ∉ left := by
  obtain ⟨front, template, rfl, absent⟩ := List.eq_append_cons_of_mem present
  have filled : none ∉ front := by
    intro isHole
    obtain ⟨before, after, rfl⟩ := List.append_of_mem isHole
    exact absent (List.mem_append_left _
      (guarded before (after ++ some '=' :: template) (by simp)))
  obtain ⟨left, rfl⟩ := exists_map_some_eq filled
  exact ⟨left, template, rfl, by simpa using absent⟩

/-- An assertion that is read with a letter in its holes is a tree. -/
theorem exists_readsAsTree_item?
    (isLetter : Text.isLetter letter = true)
    {slots : List (Option Char)}
    (guarded : Guarded slots)
    (unbroken : Unbroken slots)
    (readable : (item? (plug [letter] slots)).isSome = true) :
    ∃ tree, ReadsAsTree item? slots tree := by
  have hasEquals : some '=' ∈ slots := by
    by_contra absent
    have noEquals : '=' ∉ plug [letter] slots := by
      rw [mem_plug_iff, List.mem_singleton]
      rintro (inside | ⟨-, same⟩)
      · exact absent inside
      · exact (ordinary_of_isLetter isLetter).2.2 same.symm
    rw [item?, Text.splitFirst?_of_notMem noEquals] at readable
    cases readable
  obtain ⟨left, template, rfl, absent⟩ := guarded.exists_pattern hasEquals
  have unbrokenTemplate : Unbroken template :=
    unbroken.of_isInfix ((List.suffix_cons _ _).trans (List.suffix_append _ _)).isInfix
  have shape : ∀ word, plug word (left.map some ++ some '=' :: template) =
      left ++ '=' :: plug word template := by
    intro word
    rw [plug_append, plug_map_some, plug]
  have sameHoles :
      (left.map some ++ some '=' :: template).count none = template.count none := by
    simp [count_none_map_some]
  have wild : ∀ word octets, Stands word octets →
      ('*' ∈ plug word template ↔ some '*' ∈ template) := by
    intro word octets stands
    rw [mem_plug_iff]
    exact ⟨fun either => either.resolve_right fun inWord =>
      (stands.ordinary _ inWord.2).2 rfl, .inl⟩
  have reads : ∀ word octets, Stands word octets →
      item? (plug word (left.map some ++ some '=' :: template)) =
      if isDescription left then ofPattern? (String.ofList left) (plug word template)
      else if some '*' ∈ template then none
      else (comparison? left).bind fun comparison =>
        (unescape? (plug word template)).map (.compare comparison) := by
    intro word octets stands
    simp only [shape, item?_append absent, wild word octets stands]
  rw [reads _ _ (stands_letter isLetter)] at readable
  split_ifs at readable reads with isKey isWild
  · obtain ⟨tree, readsAs⟩ :=
      exists_readsAsTree_ofPattern? isLetter _ unbrokenTemplate readable
    exact ⟨tree, readsAs.holes.trans sameHoles.symm, fun word octets stands => by
      rw [reads word octets stands, readsAs.reads word octets stands]⟩
  · cases readable
  · cases compares : comparison? left with
    | none =>
        rw [compares] at readable
        cases readable
    | some comparison =>
        rw [compares, Option.bind_some, Option.isSome_map] at readable
        obtain ⟨value, readsAs⟩ := exists_readsAs isLetter unbrokenTemplate readable
        refine ⟨.compare comparison value, readsAs.holes.trans sameHoles.symm, ?_⟩
        intro word octets stands
        rw [reads word octets stands, compares, readsAs.reads word octets stands]
        rfl

end Filter
end Gatehouse
