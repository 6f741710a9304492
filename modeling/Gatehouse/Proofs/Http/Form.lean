import Gatehouse.Http.Form
import Gatehouse.Proofs.Text.Splitting
import Mathlib.Tactic.Common

/-!
# Forms are read back

A browser writes the fields of a form with everything escaped that is neither a letter
nor a digit nor one of four signs, and a space as a plus sign. No separator occurs in
what it writes for a name or a value, so that the fields are read back as they are,
whatever they contain.
-/

namespace Gatehouse
namespace Form

/-! ## Writing -/

/-- Whether an octet is written as it is. -/
def isLiteral (octet : UInt8) : Bool :=
  (0x30 ≤ octet && octet ≤ 0x39) || (0x41 ≤ octet && octet ≤ 0x5A) ||
    (0x61 ≤ octet && octet ≤ 0x7A) || (Text.Utf8.encode "*-._").contains octet

/-- The octet of the upper-case digit of a value below sixteen. -/
def digitOctet (value : Nat) : UInt8 :=
  UInt8.ofNat (Text.Hex.upperDigit value).toNat

/-- What is written for an octet. -/
def escapeOctet (octet : UInt8) : Bytes :=
  if octet = 0x20 then [0x2B]
  else if isLiteral octet then [octet]
  else [0x25, digitOctet (octet.toNat / 16), digitOctet (octet.toNat % 16)]

/-- What is written for a name or a value. -/
def escape (text : String) : Bytes :=
  (Text.Utf8.encode text).flatMap escapeOctet

/-- What is written for a field. -/
def writeField (field : String × String) : Bytes :=
  escape field.1 ++ 0x3D :: escape field.2

/-- What is written for the fields of a form. -/
def write (fields : List (String × String)) : Bytes :=
  List.intercalate [0x26] (fields.map writeField)

/-! ## Names and values -/

theorem separators_notMem_escapeOctet (octet : UInt8) :
    0x26 ∉ escapeOctet octet ∧ 0x3D ∉ escapeOctet octet := by
  have all : ∀ value < 256, 0x26 ∉ escapeOctet (UInt8.ofNat value) ∧
      0x3D ∉ escapeOctet (UInt8.ofNat value) := by
    decide +kernel
  have single := all octet.toNat octet.toNat_lt
  rwa [UInt8.ofNat_toNat] at single

theorem separators_notMem_escape (text : String) :
    0x26 ∉ escape text ∧ 0x3D ∉ escape text := by
  unfold escape
  simp only [List.mem_flatMap, not_exists, not_and]
  exact ⟨fun octet _ => (separators_notMem_escapeOctet octet).1,
    fun octet _ => (separators_notMem_escapeOctet octet).2⟩

theorem ne_of_isLiteral
    {octet : UInt8}
    (literal : isLiteral octet = true) :
    octet ≠ 0x25 ∧ octet ≠ 0x2B := by
  constructor <;> rintro rfl <;> exact absurd literal (by decide)

theorem digitOctet_spec :
    ∀ value < 16, digitOctet value ≠ 0x2B ∧
      Text.Hex.value? (Char.ofNat (digitOctet value).toNat) = some value := by
  decide

/-- What is written for an octet, in front of anything, is read as the octet. -/
theorem decode_escapeOctet
    (octet : UInt8)
    (rest : Bytes) :
    Percent.decode ((escapeOctet octet).map (fun octet =>
      if octet = 0x2B then 0x20 else octet) ++ rest) = octet :: Percent.decode rest := by
  have plain {octet : UInt8} (different : octet ≠ 0x25) :
      Percent.decode (octet :: rest) = octet :: Percent.decode rest := by
    rw [Percent.decode]
    intro high low others isPercent
    exact absurd isPercent different
  unfold escapeOctet
  split_ifs with isSpace literal
  · rw [isSpace]
    exact plain (by decide)
  · obtain ⟨notPercent, notPlus⟩ := ne_of_isLiteral literal
    rw [List.map_singleton, if_neg notPlus]
    exact plain notPercent
  · have bounded := octet.toNat_lt
    obtain ⟨highNotPlus, isHigh⟩ := digitOctet_spec (octet.toNat / 16) (by omega)
    obtain ⟨lowNotPlus, isLow⟩ := digitOctet_spec (octet.toNat % 16) (by omega)
    have whole : octet.toNat / 16 * 16 + octet.toNat % 16 = octet.toNat := by omega
    simp only [List.map_cons, List.map_nil, if_neg highNotPlus, if_neg lowNotPlus]
    rw [if_neg (by decide), List.cons_append, List.cons_append, List.cons_append,
      List.nil_append, Percent.decode]
    simp only [isHigh, isLow, whole, UInt8.ofNat_toNat]

/-- A name or a value is read back. -/
theorem unescape_escape (text : String) : unescape (escape text) = text := by
  have octets : ∀ octets : Bytes,
      Percent.decode ((octets.flatMap escapeOctet).map
        fun octet => if octet = 0x2B then 0x20 else octet) = octets := by
    intro octets
    induction octets with
    | nil => rw [List.flatMap_nil, List.map_nil, Percent.decode]
    | cons octet rest inductionHypothesis =>
        rw [List.flatMap_cons, List.map_append, decode_escapeOctet, inductionHypothesis]
  unfold unescape escape
  rw [octets, Text.Utf8.decodeLenient, Text.Utf8.decode?_encode]

/-- At least one octet is written for every octet of a text. -/
theorem length_le_escape (text : String) :
    (Text.Utf8.encode text).length ≤ (escape text).length := by
  have nonempty : ∀ octet, 1 ≤ (escapeOctet octet).length := by
    intro octet
    unfold escapeOctet
    split_ifs <;> exact Nat.succ_le_succ (Nat.zero_le _)
  unfold escape
  induction Text.Utf8.encode text with
  | nil => exact Nat.le_refl 0
  | cons octet rest inductionHypothesis =>
      rw [List.flatMap_cons, List.length_append, List.length_cons, Nat.add_comm]
      exact Nat.add_le_add (nonempty octet) inductionHypothesis

/-! ## Fields -/

/-- A field is read back. -/
theorem field_writeField (pair : String × String) : field (writeField pair) = pair := by
  unfold field writeField
  rw [Text.splitFirst?_append (separators_notMem_escape pair.1).2]
  exact Prod.ext (unescape_escape pair.1) (unescape_escape pair.2)

/-- The fields of a form are read back, in order. -/
theorem fields_write (pairs : List (String × String)) : fields (write pairs) = pairs := by
  have kept : ∀ piece ∈ pairs.map writeField, (!piece.isEmpty) = true := by
    intro piece isPiece
    obtain ⟨pair, -, rfl⟩ := List.mem_map.mp isPiece
    simp [writeField]
  have readBack : (pairs.map writeField).map field = pairs := by
    rw [List.map_map]
    exact (List.map_congr_left fun pair _ => field_writeField pair).trans
      (List.map_id pairs)
  unfold fields write
  cases pairs with
  | nil => rfl
  | cons pair rest =>
      rw [Text.splitEvery_intercalate, List.filter_eq_self.mpr kept, readBack]
      · exact List.cons_ne_nil _ _
      · intro piece isPiece
        obtain ⟨pair, -, rfl⟩ := List.mem_map.mp isPiece
        unfold writeField
        rw [List.mem_append, List.mem_cons]
        rintro (inName | isSign | inValue)
        · exact (separators_notMem_escape _).1 inName
        · exact absurd isSign (by decide)
        · exact (separators_notMem_escape _).1 inValue

end Form
end Gatehouse
