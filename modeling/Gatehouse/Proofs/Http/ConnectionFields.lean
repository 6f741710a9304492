import Gatehouse.Proofs.Config.Construction
import Gatehouse.Proofs.Http.FieldText
import Gatehouse.Proofs.Text.Case
import Gatehouse.Proofs.Text.Splitting

/-!
# Fields for one connection

Which fields are for one connection is described without the reader of lists: a text
lists a name that stands between two commas, or between one and an end of the text, with
nothing but blanks around it. Exactly the fields for one connection are removed. All
other names keep all of their values in order, and nothing is left to remove a second
time.
-/

namespace Gatehouse
namespace Headers

/-- A text lists a name that stands between commas or ends, between blanks. -/
def Lists (text name : String) : Prop :=
  ∃ front left right back : List Char,
    text.toList = front ++ (left ++ name.toList ++ right) ++ back ∧
      (∀ char ∈ left ++ right, Text.isBlank char = true) ∧
      (∀ char ∈ front.getLast?, char = ',') ∧ ∀ char ∈ back.head?, char = ','

/-- A name is for one connection if it is standard or the field `connection` lists it. -/
def IsForOneConnection (headers : Headers) (name : String) : Prop :=
  (∃ standard ∈ hopByHopNames, Text.sameIgnoringCase standard name = true) ∨
    ∃ value ∈ headers.getAll "connection", ∃ text, text? value = some text ∧
      ∃ listed, Lists text listed ∧ IsName listed ∧
        Text.sameIgnoringCase listed name = true

variable (headers : Headers)
variable {name : String}

section Listed

/-- The pieces between commas are, without blanks around them, the names that a text
lists. -/
theorem exists_trim_eq_iff_lists
    {text : String}
    (isName : IsName name) :
    (∃ piece ∈ Text.pieces ',' text, Text.trim piece = name) ↔ Lists text name := by
  have solid : ∀ char ∈ name.toList, ¬ Text.isBlank char = true ∧ char ≠ ',' :=
    fun char present =>
    @of_isTokenChar (fun char => ¬ Text.isBlank char = true ∧ char ≠ ',') (by decide) char
      (List.all_eq_true.mp isName.2.1 char present)
  have unblank := fun char present => (solid char present).1
  unfold Text.pieces Lists
  constructor
  · rintro ⟨_, isPiece, trimmed⟩
    obtain ⟨chars, isPart, rfl⟩ := List.mem_map.mp isPiece
    obtain ⟨-, front, back, whole, ends, begins⟩ := Text.mem_splitEvery_iff.mp isPart
    obtain ⟨left, right, rfl, blank⟩ :=
      String.toList_ofList ▸ (Text.trim_eq_iff_of_kept unblank).mp trimmed
    exact ⟨front, left, right, back, whole, blank, ends, begins⟩
  · rintro ⟨front, left, right, back, whole, blank, ends, begins⟩
    have free : ',' ∉ left ++ name.toList ++ right := by
      obtain ⟨leftBlank, rightBlank⟩ := List.forall_mem_append.mp blank
      intro present
      rcases List.mem_append.mp present with inFront | inRight
      · rcases List.mem_append.mp inFront with inLeft | inName
        · exact absurd (leftBlank _ inLeft) (by decide)
        · exact (solid _ inName).2 rfl
      · exact absurd (rightBlank _ inRight) (by decide)
    have isPart := Text.mem_splitEvery_iff.mpr ⟨free, front, back, whole, ends, begins⟩
    exact ⟨_, List.mem_map_of_mem isPart,
      (Text.trim_eq_iff_of_kept unblank).mpr ⟨left, right, String.toList_ofList, blank⟩⟩

/-- The names that are listed are read in lower case. -/
theorem mem_connectionNames_iff :
    name ∈ headers.connectionNames ↔
      ∃ value ∈ headers.getAll "connection", ∃ text, text? value = some text ∧
        ∃ listed, Lists text listed ∧ IsName listed ∧ Text.lower listed = name := by
  have read {piece : String} : name? (Text.trim piece) = some name ↔
      ∃ listed, Text.trim piece = listed ∧ IsName listed ∧ Text.lower listed = name := by
    simp [name?_eq]
  unfold connectionNames texts
  simp only [List.mem_flatMap, List.mem_filterMap, read]
  constructor
  · rintro ⟨text, ⟨value, isValue, isText⟩, piece, isPiece, listed, trimmed,
      isName, isLower⟩
    exact ⟨value, isValue, text, isText, listed,
      (exists_trim_eq_iff_lists isName).mp ⟨piece, isPiece, trimmed⟩, isName, isLower⟩
  · rintro ⟨value, isValue, text, isText, listed, lists, isName, isLower⟩
    obtain ⟨piece, isPiece, trimmed⟩ := (exists_trim_eq_iff_lists isName).mpr lists
    exact ⟨text, ⟨value, isValue, isText⟩, piece, isPiece, listed, trimmed,
      isName, isLower⟩

/-- The names for one connection are those that are, in lower case, standard or listed. -/
theorem isForOneConnection_iff :
    headers.IsForOneConnection name ↔
      Text.lower name ∈ hopByHopNames ∨ Text.lower name ∈ headers.connectionNames := by
  have standardsAreLower :
      ∀ standard ∈ hopByHopNames, Text.lower standard = standard := by
    decide
  unfold IsForOneConnection
  simp only [mem_connectionNames_iff, Text.sameIgnoringCase_iff_lower]
  refine or_congr_left ⟨?_, fun isStandard => ?_⟩
  · rintro ⟨standard, isStandard, same⟩
    rwa [← same, standardsAreLower standard isStandard]
  · exact ⟨_, isStandard, standardsAreLower _ isStandard⟩

instance (name : String) : Decidable (headers.IsForOneConnection name) :=
  decidable_of_iff _ headers.isForOneConnection_iff.symm

end Listed

section Removal

theorem eq_of_fields
    {first second : Headers}
    (same : first.fields = second.fields) :
    first = second :=
  congrArg Headers.mk same

/-- Removing names one after the other keeps the fields that have none of them. -/
theorem fields_foldl_remove (names : List String) :
    (names.foldl remove headers).fields = headers.fields.filter fun field =>
      !names.contains field.1 := by
  induction names generalizing headers with
  | nil => simp
  | cons first others inductionHypothesis =>
      rw [List.foldl_cons, inductionHypothesis, remove, List.filter_filter]
      refine List.filter_congr fun field _ => ?_
      rw [List.contains_cons, Bool.not_or, Bool.and_comm]
      rfl

/-- The fields for one connection can be removed one after the other, first the listed
ones. -/
theorem stripHopByHop_eq_foldl_remove :
    headers.stripHopByHop = hopByHopNames.foldl remove
      (headers.connectionNames.foldl remove headers) := by
  apply eq_of_fields
  rw [fields_foldl_remove, fields_foldl_remove, List.filter_filter]
  exact List.filter_congr fun field _ => Bool.and_comm _ _

/-- A field stays if its name is not for one connection. -/
theorem mem_stripHopByHop_iff {value : Bytes} :
    (Text.lower name, value) ∈ headers.stripHopByHop.fields ↔
      (Text.lower name, value) ∈ headers.fields ∧ ¬headers.IsForOneConnection name := by
  unfold stripHopByHop
  rw [List.mem_filter, isForOneConnection_iff, or_comm]
  simp

theorem getAll_stripHopByHop_of_not
    (ordinary : ¬headers.IsForOneConnection name) :
    headers.stripHopByHop.getAll (Text.lower name) =
      headers.getAll (Text.lower name) := by
  obtain ⟨notStandard, notListed⟩ :=
    not_or.mp (headers.isForOneConnection_iff.not.mp ordinary)
  rw [getAll_stripHopByHop headers notStandard, if_neg notListed]

/-- Nothing is left to remove a second time. -/
theorem stripHopByHop_idem :
    headers.stripHopByHop.stripHopByHop = headers.stripHopByHop := by
  have noneListed : headers.stripHopByHop.connectionNames = [] := by
    unfold connectionNames texts
    rw [getAll_stripHopByHop_standard headers (by decide)]
    rfl
  have noneStandard :
      ∀ field ∈ headers.stripHopByHop.fields, (!hopByHopNames.contains field.1) = true :=
    fun field present => (Bool.and_eq_true_iff.mp (List.mem_filter.mp present).2).2
  rw [stripHopByHop_eq_foldl_remove headers.stripHopByHop, noneListed]
  apply eq_of_fields
  rw [fields_foldl_remove]
  exact List.filter_eq_self.mpr noneStandard

end Removal

/-- A header with three fields `connection`: of itself and a name, of no name, and of no
text. -/
def crossed : Headers where
  fields :=
    [("connection", Text.Utf8.encode "close, X-Inner ,,\t x-inner"),
      ("x-inner", Text.Utf8.encode "1"), ("x-kept", Text.Utf8.encode "first"),
      ("connection", Text.Utf8.encode "connection, x kept"),
      ("te", Text.Utf8.encode "gzip"), ("x-outer", Text.Utf8.encode "2"),
      ("connection", [0x78, 0xFF]), ("x-inner", Text.Utf8.encode "3"),
      ("x-kept", Text.Utf8.encode "second")]

end Headers
end Gatehouse
