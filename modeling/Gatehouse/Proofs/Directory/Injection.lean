import Gatehouse.Proofs.Directory.TemplateReading
import Mathlib.Data.List.DropRight

/-!
# Values in filters

A value in a filter stays in the assertion in which its placeholder stands. Each
template has one tree, which is the tree of the text for every value, but for the octets
of the value in it.
-/

namespace Gatehouse
namespace Filter

/-! ## Placeholders -/

/-- The characters end within a value: an equals sign follows the last parenthesis. -/
def EndsInValue (before : List Char) : Prop :=
  ∃ front text, before = front ++ text ∧ '=' ∈ text ∧ '(' ∉ text ∧ ')' ∉ text

/-- Characters end within a value if, from behind, an equals sign comes before any
parenthesis. -/
theorem endsInValue_iff {before : List Char} :
    EndsInValue before ↔ '=' ∈ before.rtakeWhile fun char => char ≠ '(' ∧ char ≠ ')' := by
  constructor
  · rintro ⟨front, text, rfl, hasEquals, noOpen, noClose⟩
    have noParens : ∀ char ∈ text.reverse, decide (char ≠ '(' ∧ char ≠ ')') = true := by
      intro char inside
      rw [List.mem_reverse] at inside
      refine decide_eq_true ⟨?_, ?_⟩
      · rintro rfl
        exact noOpen inside
      · rintro rfl
        exact noClose inside
    rw [List.rtakeWhile, List.mem_reverse, List.reverse_append,
      List.takeWhile_append_of_pos noParens]
    exact List.mem_append_left _ (List.mem_reverse.mpr hasEquals)
  · intro hasEquals
    refine ⟨_, _, List.rdropWhile_append_rtakeWhile.symm, hasEquals, ?_, ?_⟩
    · intro inside
      simpa using List.mem_rtakeWhile_imp inside
    · intro inside
      simpa using List.mem_rtakeWhile_imp inside

instance (before : List Char) : Decidable (EndsInValue before) :=
  decidable_of_iff _ endsInValue_iff.symm

/-- The characters end inside an escape: behind a backslash, or behind the digit after
it. -/
def EndsInsideEscape (before : List Char) : Prop :=
  before.getLast? = some '\\' ∨ before.dropLast.getLast? = some '\\'

instance (before : List Char) : Decidable (EndsInsideEscape before) :=
  inferInstanceAs (Decidable (_ ∨ _))

/-- Each placeholder of a template stands within a value, and in no escape. -/
def PlaceholdersInValues (template : String) : Prop :=
  ∀ before after, template.toList = before ++ '%' :: 's' :: after →
    EndsInValue before ∧ ¬ EndsInsideEscape before

/-- Only beginnings of a template stand in front of its placeholders. -/
theorem placeholdersInValues_iff {template : String} :
    PlaceholdersInValues template ↔
      ∀ before ∈ template.toList.inits,
        (before ++ ['%', 's']).isPrefixOf template.toList = true →
        EndsInValue before ∧ ¬ EndsInsideEscape before := by
  constructor
  · intro inValues before _ marked
    obtain ⟨after, shape⟩ := List.isPrefixOf_iff_prefix.mp marked
    exact inValues before after (by rw [← shape, List.append_assoc]; rfl)
  · intro inValues before after shape
    refine inValues before ?_ (List.isPrefixOf_iff_prefix.mpr ⟨after, ?_⟩)
    · rw [List.mem_inits, shape]
      exact List.prefix_append _ _
    · rw [shape, List.append_assoc]
      rfl

instance (template : String) : Decidable (PlaceholdersInValues template) :=
  decidable_of_iff _ placeholdersInValues_iff.symm

theorem eq_of_slots_eq
    {template : String}
    {front after : List (Option Char)}
    (shape : slots template.toList = front ++ none :: after) :
    template.toList = plug ['%', 's'] front ++ '%' :: 's' :: plug ['%', 's'] after := by
  rw [← plug_slots template.toList, shape, plug_append]
  rfl

/-- The characters of placeholders are no others than theirs. -/
theorem mem_plug_placeholder_iff
    {char : Char}
    (other : char ∉ ['%', 's'])
    {front : List (Option Char)} :
    char ∈ plug ['%', 's'] front ↔ some char ∈ front := by
  rw [mem_plug_iff]
  exact ⟨fun either => either.resolve_right fun inWord => other inWord.2, .inl⟩

/-- If the placeholders of a template are in values, so are its holes. -/
theorem PlaceholdersInValues.placed
    {template : String}
    (inValues : PlaceholdersInValues template) :
    Placed (slots template.toList) where
  guarded := by
    intro front inner after shape
    rw [← List.cons_append, ← List.append_assoc] at shape
    obtain ⟨⟨start, text, ends, hasEquals, noOpen, -⟩, -⟩ :=
      inValues _ _ (eq_of_slots_eq shape)
    rw [plug_append, plug] at ends
    have isInner : text <:+ '(' :: plug ['%', 's'] inner := by
      rcases List.suffix_or_suffix_of_suffix (List.suffix_append start text)
        (ends ▸ List.suffix_append _ _) with inside | across
      · exact inside
      · exact absurd (across.subset List.mem_cons_self) noOpen
    have present := isInner.subset hasEquals
    rw [List.mem_cons, mem_plug_placeholder_iff (by decide)] at present
    exact present.resolve_left (by decide)
  unbroken := by
    rintro front after shape ⟨start, ends⟩
    refine (inValues _ _ (eq_of_slots_eq shape)).2 ?_
    rcases ends with rfl | ⟨digit, rfl⟩
    · exact .inl (by simp [plug])
    · exact .inr (by simp [plug])

/-- If the placeholders of a template are in values, its holes stand behind equals
signs. -/
theorem PlaceholdersInValues.guarded
    {template : String}
    (inValues : PlaceholdersInValues template) :
    Guarded (slots template.toList) := by
  intro front after shape
  obtain ⟨⟨start, text, ends, hasEquals, -⟩, -⟩ := inValues _ _ (eq_of_slots_eq shape)
  apply (mem_plug_placeholder_iff (by decide)).mp
  rw [ends]
  exact List.mem_append_right _ hasEquals

/-- The tree of a template, which is read with any letter in place of each placeholder. -/
def IsTreeOf (template : String) (tree : FilterTree (Option UInt8)) : Prop :=
  ∀ letter, Text.isLetter letter = true →
    ofText? (String.ofList (fill [letter] template.toList)) =
      some (instantiate (Text.Utf8.encode (String.singleton letter)) tree)

/-- A template has at most one tree. -/
theorem IsTreeOf.unique
    {template : String}
    {tree tree' : FilterTree (Option UInt8)}
    (isTree : IsTreeOf template tree)
    (isTree' : IsTreeOf template tree') :
    tree = tree' := by
  have same : ∀ letter, Text.isLetter letter = true →
      instantiate (Text.Utf8.encode (String.singleton letter)) tree =
        instantiate (Text.Utf8.encode (String.singleton letter)) tree' :=
      fun letter isLetter =>
    Option.some.inj ((isTree letter isLetter).symm.trans (isTree' letter isLetter))
  have different : (97 : UInt8) ≠ 98 := by decide
  exact eq_of_instantiate_eq different (same 'a' (by decide)) (same 'b' (by decide))

/-- Values stay in the assertions of a template. A template that is a filter with a
letter in place of each placeholder, and whose placeholders are in values, has exactly
one tree, with as many holes as placeholders. With any value that is not empty, it is
read as that tree with the octets of the value in each hole. -/
theorem render_keeps_tree
    {template : String}
    {letter : Char}
    (isLetter : Text.isLetter letter = true)
    (wellFormed : (ofText? (String.ofList (fill [letter] template.toList))).isSome = true)
    (inValues : PlaceholdersInValues template) :
    ∃ tree : FilterTree (Option UInt8),
      (∀ other, IsTreeOf template other ↔ other = tree) ∧
        holes tree = (slots template.toList).count none ∧
        ∀ value, value ≠ "" →
          ofText? (render template value) =
            some (instantiate (Text.Utf8.encode value) tree) := by
  rw [fill_eq_plug] at wellFormed
  obtain ⟨tree, readsAs⟩ :=
    exists_readsAsTree_ofText? isLetter inValues.placed inValues.guarded wellFormed
  have isTree : IsTreeOf template tree := by
    intro other isOther
    rw [fill_eq_plug, readsAs.reads _ _ (stands_letter isOther)]
  refine ⟨tree, fun other => ⟨fun also => also.unique isTree, ?_⟩, readsAs.holes, ?_⟩
  · rintro rfl
    exact isTree
  · intro value nonempty
    rw [render, fill_eq_plug, readsAs.reads _ _ (stands_escape nonempty)]

/-- A template for the names of users, one of them with a wildcard behind it. -/
def nameTemplate : String :=
  "(&(class=user)(|(uid=%s*)(!(cn=%s))))"

/-- A value that is written like a filter stays in the two assertions about names. -/
theorem injected_text_stays_in_values :
    ∃ tree : FilterTree (Option UInt8),
      (∀ other, IsTreeOf nameTemplate other ↔ other = tree) ∧ holes tree = 2 ∧
        ofText? (render nameTemplate "*)(uid=*") =
          some (instantiate (Text.Utf8.encode "*)(uid=*") tree) := by
  have isLetter : Text.isLetter 'x' = true := rfl
  have inValues : PlaceholdersInValues nameTemplate := by decide +kernel
  obtain ⟨tree, isTree, number, reads⟩ :=
    render_keeps_tree isLetter (by decide +kernel) inValues
  exact ⟨tree, isTree, number.trans (by decide +kernel), reads "*)(uid=*" (by decide)⟩

example : ofText? (render nameTemplate "*)(uid=*") =
    some (.all [.equal "class" (Text.Utf8.encode "user"),
      .any [.substrings "uid" (Text.Utf8.encode "*)(uid=*") [] [],
        .not (.equal "cn" (Text.Utf8.encode "*)(uid=*"))]]) := by
  rfl

end Filter
end Gatehouse
