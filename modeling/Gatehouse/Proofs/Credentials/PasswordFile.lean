import Gatehouse.Credentials.Htpasswd
import Gatehouse.Proofs.Text.Splitting

/-!
# What a password file says about a user

A password file is taken in line by line, and every line with an entry overrides the
earlier ones of its user. The hash of a user is therefore that of the last line with an
entry for the user, whatever the other lines are.
-/

namespace Gatehouse
namespace Htpasswd

/-! ## Entries -/

/-- A line has an entry if it is no comment and its hash is supported. -/
theorem entry?_eq_some_iff {line user : String} {hash : PasswordHash} :
    entry? line = some (user, hash) ↔
      Text.startsWith "#" (Text.trim line) = false ∧
        ∃ stored, Text.trim line = user ++ ":" ++ stored ∧ ':' ∉ user.toList ∧
          PasswordHash.ofText? stored = some hash := by
  have divides {before after : String} :
      Text.splitOnce? ":" (Text.trim line) = some (before, after) ↔
      Text.trim line = before ++ ":" ++ after ∧ ':' ∉ before.toList :=
    Text.splitOnce?_char_eq_some_iff (by decide)
  unfold entry?
  by_cases comment : Text.startsWith "#" (Text.trim line) = true
  · simp [comment]
  · simp only [Bool.not_eq_true] at comment
    simp only [comment, Bool.false_eq_true, if_false, Option.bind_eq_bind,
      Option.bind_eq_some_iff, Prod.exists, divides, Option.some.injEq, Prod.mk.injEq,
      true_and]
    constructor
    · rintro ⟨before, stored, ⟨shape, single⟩, parsed, read, rfl, rfl⟩
      exact ⟨stored, shape, single, read⟩
    · rintro ⟨stored, shape, single, read⟩
      exact ⟨user, stored, ⟨shape, single⟩, hash, read, rfl, rfl⟩

/-- The hash that a line sets for a user, if it sets one. -/
def hashFor? (user line : String) : Option PasswordHash :=
  match entry? line with
  | some (listed, hash) => if listed = user then some hash else none
  | none => none

/-- A line sets the hash of its entry, for the user of its entry. -/
theorem hashFor?_eq_some_iff {user line : String} {hash : PasswordHash} :
    hashFor? user line = some hash ↔ entry? line = some (user, hash) := by
  unfold hashFor?
  cases entry? line with
  | none => simp
  | some entry =>
      obtain ⟨listed, known⟩ := entry
      by_cases same : listed = user
      · simp [same]
      · simp [same]

/-- A line sets no hash for the users of whom it has no entry. -/
theorem hashFor?_eq_none_iff {user line : String} :
    hashFor? user line = none ↔ ∀ hash, entry? line ≠ some (user, hash) := by
  rw [Option.eq_none_iff_forall_ne_some]
  exact forall_congr' fun hash => not_congr hashFor?_eq_some_iff

/-! ## The file -/

variable (file : Htpasswd)

@[simp] theorem find?_insert_self (user : String) (hash : PasswordHash) :
    (file.insert user hash).find? user = some hash := by
  have forgotten :
      (file.entries.filter fun entry => entry.1 != user).lookup user = none := by
    rw [List.lookup_eq_none_iff]
    intro entry present
    have different : entry.1 ≠ user := bne_iff_ne.mp (List.mem_filter.mp present).2
    exact bne_iff_ne.mpr different.symm
  unfold find? insert
  rw [List.lookup_append, forgotten]
  simp

/-- Setting the hash of a user leaves the others alone. -/
theorem find?_insert_other
    {user other : String}
    (hash : PasswordHash)
    (different : other ≠ user) :
    (file.insert user hash).find? other = file.find? other := by
  have apart : (other == user) = false := beq_eq_false_iff_ne.mpr different
  have kept : ∀ entries : List (String × PasswordHash),
      (entries.filter fun entry => entry.1 != user).lookup other =
        entries.lookup other := by
    intro entries
    induction entries with
    | nil => rfl
    | cons entry others inductionHypothesis =>
        obtain ⟨listed, known⟩ := entry
        by_cases same : listed = user
        · simp [same, apart, inductionHypothesis, List.lookup_cons]
        · simp [same, inductionHypothesis, List.lookup_cons]
  unfold find? insert
  rw [List.lookup_append, kept]
  simp [List.lookup_cons, apart]

/-- A line overrides the hash of a user if it sets one. -/
theorem find?_addLine (line user : String) :
    (file.addLine line).find? user = (hashFor? user line).or (file.find? user) := by
  unfold addLine hashFor?
  cases entry? line with
  | none => rfl
  | some entry =>
      obtain ⟨listed, known⟩ := entry
      by_cases same : listed = user
      · simp [same]
      · simp [same, file.find?_insert_other known (Ne.symm same)]

/-- Of the lines that set a hash for a user, the last one counts. -/
theorem find?_foldl_addLine (lines : List String) (user : String) :
    (lines.foldl addLine file).find? user =
      (lines.reverse.findSome? (hashFor? user)).or (file.find? user) := by
  induction lines generalizing file with
  | nil => rfl
  | cons line others inductionHypothesis =>
      rw [List.foldl_cons, inductionHypothesis, find?_addLine, List.reverse_cons,
        List.findSome?_append, Option.or_assoc]
      simp

/-- A user has the hash of the last line with an entry for the user. -/
theorem find?_ofText_eq_some_iff {content user : String} {hash : PasswordHash} :
    (ofText content).find? user = some hash ↔
      ∃ before line after, Text.lines content = before ++ line :: after ∧
        entry? line = some (user, hash) ∧
          ∀ other ∈ after, ∀ otherHash, entry? other ≠ some (user, otherHash) := by
  have nobody : empty.find? user = none := rfl
  unfold ofText
  rw [find?_foldl_addLine, nobody, Option.or_none, List.findSome?_eq_some_iff]
  constructor
  · rintro ⟨after, line, before, shape, sets, silent⟩
    refine ⟨before.reverse, line, after.reverse, ?_, hashFor?_eq_some_iff.mp sets, ?_⟩
    · rw [← List.reverse_reverse (Text.lines content), shape]
      simp
    · intro other present
      exact hashFor?_eq_none_iff.mp (silent other (List.mem_reverse.mp present))
  · rintro ⟨before, line, after, shape, listed, silent⟩
    refine ⟨after.reverse, line, before.reverse, ?_, hashFor?_eq_some_iff.mpr listed, ?_⟩
    · rw [shape]
      simp
    · intro other present
      exact hashFor?_eq_none_iff.mpr (silent other (List.mem_reverse.mp present))

/-- A user has a password if the hash of the user has it. -/
theorem accepts_iff {user password : String} :
    file.accepts user password = true ↔
      ∃ hash, file.find? user = some hash ∧ hash.accepts password = true := by
  unfold accepts
  cases file.find? user <;> simp

/-! ## Lines without a user -/

/-- A line with a hash and with nothing in front of its colon. -/
def IsNameless (line : String) (hash : PasswordHash) : Prop :=
  ∃ stored, Text.trim line = ":" ++ stored ∧ PasswordHash.ofText? stored = some hash

/-- The last such line of a content, with its hash. -/
def EndsNameless (content : String) (hash : PasswordHash) : Prop :=
  ∃ before line after, Text.lines content = before ++ line :: after ∧
    IsNameless line hash ∧
    ∀ other ∈ after, ∀ otherHash, ¬ IsNameless other otherHash

/-- Such a line has an entry for the empty name, and no other line has one. -/
theorem entry?_nameless_iff {line : String} {hash : PasswordHash} :
    entry? line = some ("", hash) ↔ IsNameless line hash := by
  rw [entry?_eq_some_iff]
  unfold IsNameless
  simp only [String.empty_append, String.toList_empty, List.not_mem_nil,
    not_false_eq_true, true_and]
  constructor
  · exact And.right
  · rintro ⟨stored, shape, read⟩
    refine ⟨?_, stored, shape, read⟩
    rw [shape, Bool.eq_false_iff, ne_eq, Text.startsWith_iff]
    simp

/-- The empty name has the hash of the last line without a user. -/
theorem find?_ofText_nameless_iff {content : String} {hash : PasswordHash} :
    (ofText content).find? "" = some hash ↔ EndsNameless content hash := by
  simp only [find?_ofText_eq_some_iff, ne_eq, entry?_nameless_iff]
  rfl

end Htpasswd
end Gatehouse
