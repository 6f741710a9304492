import Gatehouse.Gateway.Pages
import Gatehouse.Proofs.Text.Splitting
import Gatehouse.Text.Ascii

/-!
# Reading pages

A browser reads a page character by character. What it has read last tells it whether it
is in a text, in a tag, or in an attribute of a tag, and the value of an attribute
reaches to the quotation mark that ends it. References in the value stand for
characters. An escaped text stays a text, or stays within its quotation marks, and the
characters for which it stands are the ones that have been escaped.
-/

namespace Gatehouse
namespace Markup

/-! ## References -/

/-- What a text stands for, with the references that escaping uses in place of
characters. -/
def unescape : List Char → List Char
  | [] => []
  | '&' :: 'a' :: 'm' :: 'p' :: ';' :: rest => '&' :: unescape rest
  | '&' :: 'l' :: 't' :: ';' :: rest => '<' :: unescape rest
  | '&' :: 'g' :: 't' :: ';' :: rest => '>' :: unescape rest
  | '&' :: '#' :: '3' :: '4' :: ';' :: rest => '"' :: unescape rest
  | '&' :: '#' :: '3' :: '9' :: ';' :: rest => '\'' :: unescape rest
  | char :: rest => char :: unescape rest

theorem unescape_cons
    {char : Char}
    (plain : char ≠ '&')
    (rest : List Char) :
    unescape (char :: rest) = char :: unescape rest := by
  rw [unescape.eq_def]
  split <;> simp_all

/-- The escaped form of a character stands for the character. -/
theorem unescape_escapeChar
    (char : Char)
    (rest : List Char) :
    unescape (Pages.escapeChar char ++ rest) = char :: unescape rest := by
  unfold Pages.escapeChar
  split_ifs with isAmpersand isLess isGreater isDouble isSingle
  · rw [isAmpersand]
    rfl
  · rw [isLess]
    rfl
  · rw [isGreater]
    rfl
  · rw [isDouble]
    rfl
  · rw [isSingle]
    rfl
  · exact unescape_cons isAmpersand rest

/-- An escaped text stands for the text. -/
theorem unescape_escape (text : String) :
    unescape (Pages.escape text).toList = text.toList := by
  rw [Pages.escape, String.toList_ofList]
  induction text.toList with
  | nil => rfl
  | cons char rest inductionHypothesis =>
      rw [List.flatMap_cons, unescape_escapeChar, inductionHypothesis]

/-- The characters that begin a tag, or end one or the value of an attribute. -/
def delimiters : List Char :=
  ['<', '>', '"', '\'']

/-- The escaped form of a character consists of other characters than delimiters. -/
theorem all_escapeChar (char : Char) :
    ((Pages.escapeChar char).all fun shown => !delimiters.contains shown) = true := by
  unfold Pages.escapeChar
  split_ifs with isAmpersand isLess isGreater isDouble isSingle
  · decide
  · decide
  · decide
  · decide
  · decide
  · simp [delimiters, isLess, isGreater, isDouble, isSingle]

/-- An escaped text contains no delimiter. -/
theorem not_mem_escape
    {delimiter : Char}
    (isDelimiter : delimiter ∈ delimiters)
    (text : String) :
    delimiter ∉ (Pages.escape text).toList := by
  rw [Pages.escape, String.toList_ofList, List.mem_flatMap]
  rintro ⟨char, -, present⟩
  have other := List.all_eq_true.mp (all_escapeChar char) delimiter present
  rw [Bool.not_eq_true', ← Bool.not_eq_true, List.contains_iff_mem] at other
  exact other isDelimiter

/-! ## Tags -/

/-- The blanks of markup. -/
def isBlank (char : Char) : Bool :=
  [' ', '\t', '\n', '\x0c', '\r'].contains char

/-- What a browser is reading; names are in lower case, with the slash of end tags. -/
inductive Mode
  | text
  /-- Behind the character that may begin a tag. -/
  | opened
  /-- In a comment or a declaration. -/
  | declared
  | named (tag : List Char)
  /-- Between the attributes of a tag. -/
  | inside (tag : List Char)
  | attribute (tag name : List Char)
  /-- Behind the name of an attribute and a blank. -/
  | afterAttribute (tag name : List Char)
  /-- In front of the value of an attribute. -/
  | equals (tag name : List Char)
  | quoted (tag : List Char) (quotation : Char)
  /-- In a value without quotation marks. -/
  | bare (tag : List Char)
  deriving DecidableEq, Repr

namespace Mode

/-- What is read behind a character between the attributes of a tag. -/
def insideStep (tag : List Char) (char : Char) : Mode :=
  if isBlank char || char == '/' then .inside tag
  else if char = '>' then .text
  else .attribute tag [Text.lowerAscii char]

/-- What is read behind a character. -/
def step : Mode → Char → Mode
  | .text, char => if char = '<' then .opened else .text
  | .opened, char =>
      if Text.isLetter char || char == '/' then .named [Text.lowerAscii char]
      else if char = '!' || char = '?' then .declared
      else if char = '<' then .opened
      else .text
  | .declared, char => if char = '>' then .text else .declared
  | .named tag, char =>
      if isBlank char || char == '/' then .inside tag
      else if char = '>' then .text
      else .named (tag ++ [Text.lowerAscii char])
  | .inside tag, char => insideStep tag char
  | .attribute tag name, char =>
      if isBlank char then .afterAttribute tag name
      else if char = '=' then .equals tag name
      else if char = '/' || char = '>' then insideStep tag char
      else .attribute tag (name ++ [Text.lowerAscii char])
  | .afterAttribute tag name, char =>
      if isBlank char then .afterAttribute tag name
      else if char = '=' then .equals tag name
      else insideStep tag char
  | .equals tag name, char =>
      if isBlank char then .equals tag name
      else if char = '"' || char = '\'' then .quoted tag char
      else if char = '>' then .text
      else .bare tag
  | .quoted tag quotation, char =>
      if char = quotation then .inside tag else .quoted tag quotation
  | .bare tag, char =>
      if isBlank char then .inside tag else if char = '>' then .text else .bare tag

end Mode

/-- What is read behind a text. -/
def read (mode : Mode) (chars : List Char) : Mode :=
  chars.foldl Mode.step mode

/-- The value that begins with a character in front of some others. -/
def valueFrom (char : Char) (rest : List Char) : List Char :=
  if char = '"' || char = '\'' then rest.takeWhile (· != char)
  else (char :: rest).takeWhile fun next => !isBlank next && next != '>'

/-- The first value that the tags of some name give an attribute of some name. -/
def firstValue? (tag name : List Char) : Mode → List Char → Option (List Char)
  | _, [] => none
  | mode, char :: rest =>
      if mode = .equals tag name ∧ isBlank char = false then some (valueFrom char rest)
      else firstValue? tag name (mode.step char) rest

/-- The first value that tags of some name give an attribute, with its references
replaced. -/
def attribute? (tag name page : String) : Option String :=
  (firstValue? tag.toList name.toList .text page.toList).map (String.ofList ∘ unescape)

section Laws

variable {tag name : List Char}

/-- Behind a text without a value, a value is looked for from its end. -/
theorem firstValue?_append
    {mode : Mode}
    {front : List Char}
    (noValue : firstValue? tag name mode front = none)
    (behind : List Char) :
    firstValue? tag name mode (front ++ behind) =
      firstValue? tag name (read mode front) behind := by
  induction front generalizing mode with
  | nil => rfl
  | cons char rest inductionHypothesis =>
      rw [firstValue?] at noValue
      rw [List.cons_append, firstValue?]
      split_ifs at noValue ⊢
      exact inductionHypothesis noValue

/-- A value in quotation marks reaches to the second of them. -/
theorem firstValue?_quoted
    {front value : List Char}
    (noValue : firstValue? tag name .text front = none)
    (inFront : read .text front = .equals tag name)
    (unquoted : '"' ∉ value)
    (behind : List Char) :
    firstValue? tag name .text (front ++ '"' :: (value ++ '"' :: behind)) =
      some value := by
  have upToMark : (value ++ '"' :: behind).takeWhile (· != '"') = value := by
    apply Text.takeWhile_append_of_stop
    · intro char present
      rw [bne_iff_ne]
      rintro rfl
      exact unquoted present
    · intro char isHead
      cases isHead
      decide
  rw [firstValue?_append noValue, inFront, firstValue?, if_pos ⟨rfl, by decide⟩,
    valueFrom, if_pos (by decide), upToMark]

example :
    attribute? "a" "href"
      "<p title='<a href=x>'>1 < 2 <br/><A id=x HREF = \"/?a&amp;lt;\">" =
      some "/?a&lt;" := by
  decide +kernel

variable (tag name)

/-- A part of a page without values of attributes, and without an open tag. -/
def IsSilent (chars : List Char) : Prop :=
  firstValue? tag name .text chars = none ∧ read .text chars = .text

instance (chars : List Char) : Decidable (IsSilent tag name chars) :=
  inferInstanceAs (Decidable (_ ∧ _))

variable {tag name}

theorem IsSilent.firstValue?_append
    {front : List Char}
    (silent : IsSilent tag name front)
    (behind : List Char) :
    firstValue? tag name .text (front ++ behind) = firstValue? tag name .text behind := by
  rw [Markup.firstValue?_append silent.1, silent.2]

/-- Silent parts together are silent. -/
theorem IsSilent.append
    {first second : List Char}
    (firstSilent : IsSilent tag name first)
    (secondSilent : IsSilent tag name second) :
    IsSilent tag name (first ++ second) := by
  refine ⟨(firstSilent.firstValue?_append second).trans secondSilent.1, ?_⟩
  rw [read, List.foldl_append]
  exact (congrArg (read · second) firstSilent.2).trans secondSilent.2

/-- A text in which no tag begins is silent. -/
theorem isSilent_of_noTag
    {chars : List Char}
    (noTag : '<' ∉ chars) :
    IsSilent tag name chars := by
  induction chars with
  | nil => exact ⟨rfl, rfl⟩
  | cons char rest inductionHypothesis =>
      rw [List.mem_cons, not_or] at noTag
      have stays : Mode.step .text char = .text := if_neg (Ne.symm noTag.1)
      obtain ⟨noValue, closed⟩ := inductionHypothesis noTag.2
      refine ⟨?_, ?_⟩
      · rw [firstValue?, if_neg (by simp), stays]
        exact noValue
      · rw [read, List.foldl_cons, stays]
        exact closed

theorem isSilent_escape (text : String) : IsSilent tag name (Pages.escape text).toList :=
  isSilent_of_noTag (not_mem_escape (by decide) text)

end Laws

end Markup
end Gatehouse
