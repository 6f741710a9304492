import Gatehouse.Http.Cookie
import Gatehouse.Http.HopByHop
import Gatehouse.Http.Response
import Mathlib.Tactic.Common

/-!
# The values of a field after a change

Every change of a header is described by the values that each name has afterwards. A
change of one name leaves the values of all others alone; the removal of the fields for
one connection leaves a name either all of its values or none.
-/

namespace Gatehouse
namespace Headers

section Values

variable (headers : Headers)
variable {name other : String}

@[simp] theorem getAll_empty (name : String) : empty.getAll name = [] := rfl

@[simp] theorem getAll_remove_self (name : String) :
    (headers.remove name).getAll name = [] := by
  unfold getAll remove
  rw [List.filter_filter, List.filter_eq_nil_iff.mpr, List.map_nil]
  intro field _
  simp

/-- Removing a name leaves the others alone. -/
theorem getAll_remove_other (different : other ≠ name) :
    (headers.remove name).getAll other = headers.getAll other := by
  unfold getAll remove
  rw [List.filter_filter]
  congr 1
  apply List.filter_congr
  intro field _
  by_cases hit : field.1 = other
  · simp [hit, different]
  · simp [hit]

@[simp] theorem getAll_append_self (name : String) (value : Bytes) :
    (headers.append name value).getAll name = headers.getAll name ++ [value] := by
  simp [getAll, append]

theorem getAll_append_other (value : Bytes) (different : other ≠ name) :
    (headers.append name value).getAll other = headers.getAll other := by
  simp [getAll, append, Ne.symm different]

@[simp] theorem getAll_insert_self (name : String) (value : Bytes) :
    (headers.insert name value).getAll name = [value] := by
  unfold insert
  rw [getAll_append_self, getAll_remove_self, List.nil_append]

theorem getAll_insert_other (value : Bytes) (different : other ≠ name) :
    (headers.insert name value).getAll other = headers.getAll other := by
  unfold insert
  rw [getAll_append_other _ value different, getAll_remove_other _ different]

@[simp] theorem getAll_setOrRemove_self (name : String) (value : Option Bytes) :
    (headers.setOrRemove name value).getAll name = value.toList := by
  cases value with
  | some octets => exact headers.getAll_insert_self name octets
  | none => exact headers.getAll_remove_self name

theorem getAll_setOrRemove_other (value : Option Bytes) (different : other ≠ name) :
    (headers.setOrRemove name value).getAll other = headers.getAll other := by
  cases value with
  | some octets => exact headers.getAll_insert_other octets different
  | none => exact headers.getAll_remove_other different

@[simp] theorem getAll_insertText_self (name text : String) :
    (headers.insertText name text).getAll name = [Text.Utf8.encode text] :=
  headers.getAll_insert_self name _

theorem getAll_insertText_other (text : String) (different : other ≠ name) :
    (headers.insertText name text).getAll other = headers.getAll other :=
  headers.getAll_insert_other _ different

/-- A name without values is the name of no field. -/
theorem ne_of_getAll_eq_nil
    {headers : Headers}
    (absent : headers.getAll name = []) :
    ∀ field ∈ headers.fields, name ≠ field.1 := by
  rintro field present rfl
  have found : field.2 ∈ headers.getAll field.1 :=
    List.mem_map.mpr ⟨field, List.mem_filter.mpr ⟨present, beq_self_eq_true _⟩, rfl⟩
  rw [absent] at found
  cases found

/-- Replacing the names of fields leaves the other names alone. -/
theorem getAll_foldl_insert_other
    (fields : List (String × Bytes))
    (foreign : ∀ field ∈ fields, name ≠ field.1)
    (headers : Headers) :
    (fields.foldl (fun changed field => changed.insert field.1 field.2) headers).getAll
      name =
      headers.getAll name := by
  induction fields generalizing headers with
  | nil => rfl
  | cons field others inductionHypothesis =>
      obtain ⟨different, othersForeign⟩ := List.forall_mem_cons.mp foreign
      rw [List.foldl_cons, inductionHypothesis othersForeign,
        getAll_insert_other _ _ different]

end Values

section Connection

variable (headers : Headers)
variable {name : String}

theorem connectionNames_congr
    {first second : Headers}
    (same : first.getAll "connection" = second.getAll "connection") :
    first.connectionNames = second.connectionNames := by
  unfold connectionNames texts
  rw [same]

/-- Removal leaves no values to a listed name, and all to an ordinary unlisted one. -/
theorem getAll_stripHopByHop (ordinary : name ∉ hopByHopNames) :
    headers.stripHopByHop.getAll name =
      if name ∈ headers.connectionNames then [] else headers.getAll name := by
  unfold stripHopByHop getAll
  rw [List.filter_filter]
  by_cases listed : name ∈ headers.connectionNames
  · rw [if_pos listed, List.filter_eq_nil_iff.mpr, List.map_nil]
    intro field _
    by_cases hit : field.1 = name
    · simp [hit, listed]
    · simp [hit]
  · rw [if_neg listed]
    congr 1
    apply List.filter_congr
    intro field _
    by_cases hit : field.1 = name
    · simp [hit, listed, ordinary]
    · simp [hit]

/-- Without the fields for one connection, the standard ones have no values. -/
theorem getAll_stripHopByHop_standard
    {name : String}
    (standard : name ∈ hopByHopNames) :
    headers.stripHopByHop.getAll name = [] := by
  unfold stripHopByHop getAll
  rw [List.filter_filter, List.filter_eq_nil_iff.mpr, List.map_nil]
  intro field _
  by_cases hit : field.1 = name
  · simp [hit, standard]
  · simp [hit]

/-- The list of clients is the only field that a further client changes. -/
theorem getAll_appendForwardedFor_other
    (client : Address)
    (different : name ≠ forwardedFor) :
    (headers.appendForwardedFor client).getAll name = headers.getAll name := by
  unfold appendForwardedFor
  split
  · exact headers.getAll_insert_other _ different
  · rfl

end Connection

section TextValues

/-- The value of a text is its encoding. -/
theorem eq_encode_of_value?
    {text : String}
    {value : Bytes}
    (isValue : value? text = some value) :
    value = Text.Utf8.encode text := by
  simp only [value?] at isValue
  split at isValue
  · exact (Option.some.inj isValue).symm
  · cases isValue

theorem value?_eq_encode
    {text : String}
    (isText : (value? text).isSome = true) :
    value? text = some (Text.Utf8.encode text) := by
  obtain ⟨value, isValue⟩ := Option.isSome_iff_exists.mp isText
  rw [isValue, eq_encode_of_value? isValue]

end TextValues

end Headers
end Gatehouse
