import Gatehouse.Proofs.Credentials.PasswordFile
import Gatehouse.Proofs.Text.Canonical
import Gatehouse.Proofs.Text.Trimming
import Mathlib.Data.Set.Card

/-!
# Password files are put together line by line

A line has an effect on a password file only if it is supported: a name, a colon, and
the hash of a password in one of two forms. Two contents put together, one below the
other, give the entries of both, those of the second one overriding those of the first.
So each user has the hash of the last supported line for the user, there are as many
users as supported lines name, and lines that are not supported may be put in or left
out anywhere.
-/

namespace Gatehouse

open Text

/-! ## Supported lines -/

/-- How the hash of a password is written in a line. -/
inductive PasswordHash.IsWritten : PasswordHash → String → Prop
  /-- The Base64 form of a digest stands behind a label. -/
  | digest (octets : Bytes) :
      IsWritten (.digest octets) ("\x7bSHA\x7d" ++ Base64.text Base64.standard octets)
  /-- A salted hash is taken over as it is, if it begins with a known mark. -/
  | salted (mark rest : String) (known : mark ∈ ["$2a$", "$2b$", "$2y$"]) :
      IsWritten (.salted (mark ++ rest)) (mark ++ rest)

/-- A hash is read exactly where it is written. -/
theorem PasswordHash.ofText?_eq_some_iff {stored : String} {hash : PasswordHash} :
    ofText? stored = some hash ↔ hash.IsWritten stored := by
  have begins {mark : String} :
      startsWith mark stored = true ↔ ∃ rest, stored = mark ++ rest := by
    unfold startsWith
    rw [Option.isSome_iff_exists]
    simp only [← stripStart?_eq_some_iff, stripStart?, Option.map_eq_some_iff]
    exact ⟨fun ⟨rest, found⟩ => ⟨_, rest, found, rfl⟩,
      fun ⟨_, rest, found, _⟩ => ⟨rest, found⟩⟩
  unfold ofText?
  cases labelled : stripStart? "\x7bSHA\x7d" stored with
  | some encoded =>
      obtain rfl := stripStart?_eq_some_iff.mp labelled
      simp only [Option.map_eq_some_iff, Base64.ofText?_eq_some_iff]
      constructor
      · rintro ⟨octets, rfl, rfl⟩
        exact .digest octets
      · intro written
        generalize shape : "\x7bSHA\x7d" ++ encoded = whole at written
        cases written with
        | digest octets => exact ⟨octets, (String.append_right_inj _).mp shape, rfl⟩
        | salted mark rest known =>
            have markSign :
                ∀ mark ∈ ["$2a$", "$2b$", "$2y$"], mark.toList.head? = some '$' := by
              decide
            have labelSign :
                ("\x7bSHA\x7d" ++ encoded).toList.head? = some '\x7b' := by simp
            rw [shape, String.toList_append, List.head?_append,
              markSign mark known] at labelSign
            cases labelSign
  | none =>
      have unlabelled : ∀ encoded, stored ≠ "\x7bSHA\x7d" ++ encoded := by
        rintro encoded rfl
        rw [stripStart?_eq_some_iff.mpr rfl] at labelled
        cases labelled
      simp only [List.any_eq_true, begins, Option.ite_none_right_eq_some,
        Option.some.injEq]
      constructor
      · rintro ⟨⟨mark, known, rest, rfl⟩, rfl⟩
        exact .salted mark rest known
      · intro written
        cases written with
        | digest octets => exact absurd rfl (unlabelled _)
        | salted mark rest known => exact ⟨⟨mark, known, rest, rfl⟩, rfl⟩

namespace Htpasswd

/-- A line supports a user with a hash: no comment, divided by its first colon. -/
structure Supports (line user : String) (hash : PasswordHash) : Prop where
  uncommented : (trim line).toList.head? ≠ some '#'
  divided : ∃ stored, trim line = user ++ ":" ++ stored ∧ ':' ∉ user.toList ∧
    hash.IsWritten stored

/-- The supported lines are those with an entry. -/
theorem entry?_eq_some_iff_supports {line user : String} {hash : PasswordHash} :
    entry? line = some (user, hash) ↔ Supports line user hash := by
  have comments :
      startsWith "#" (trim line) = false ↔ (trim line).toList.head? ≠ some '#' := by
    have sign : "#".toList = ['#'] := by decide
    rw [Bool.eq_false_iff, ne_eq, startsWith_iff, sign]
    cases (trim line).toList with
    | nil => simp
    | cons first rest => simp [eq_comm]
  rw [entry?_eq_some_iff, comments]
  simp only [PasswordHash.ofText?_eq_some_iff]
  exact ⟨fun ⟨uncommented, divided⟩ => ⟨uncommented, divided⟩,
    fun ⟨uncommented, divided⟩ => ⟨uncommented, divided⟩⟩

/-- A line is passed over for one of these reasons. -/
inductive IsPassedOver (line : String) : Prop
  | blank (empty : trim line = "")
  | comment (begins : (trim line).toList.head? = some '#')
  /-- No colon divides the line. -/
  | undivided (absent : ':' ∉ (trim line).toList)
  /-- What stands behind the label of digests is the Base64 form of nothing. -/
  | malformed (user encoded : String)
      (divided : trim line = user ++ ":" ++ ("\x7bSHA\x7d" ++ encoded))
      (single : ':' ∉ user.toList)
      (unread : ∀ octets, encoded ≠ Base64.text Base64.standard octets)
  /-- What stands behind the colon begins neither with the label nor with a mark. -/
  | unsupported (user stored : String)
      (divided : trim line = user ++ ":" ++ stored)
      (single : ':' ∉ user.toList)
      (unknown : ∀ mark ∈ ["\x7bSHA\x7d", "$2a$", "$2b$", "$2y$"],
        ∀ rest, stored ≠ mark ++ rest)

/-- A line determines what stands in front of its first colon and behind it. -/
theorem divided_unique
    {user stored other otherStored : String}
    (same : user ++ ":" ++ stored = other ++ ":" ++ otherStored)
    (single : ':' ∉ user.toList)
    (otherSingle : ':' ∉ other.toList) :
    user = other ∧ stored = otherStored := by
  have isColon : ":".toList = [':'] := by decide
  have divides : splitOnce? ":" (user ++ ":" ++ stored) = some (user, stored) :=
    (splitOnce?_char_eq_some_iff isColon).mpr ⟨rfl, single⟩
  rw [(splitOnce?_char_eq_some_iff isColon).mpr ⟨same, otherSingle⟩, Option.some.injEq,
    Prod.mk.injEq] at divides
  exact ⟨divides.1.symm, divides.2.symm⟩

/-- A line is passed over exactly if it is not supported. -/
theorem isPassedOver_iff {line : String} :
    IsPassedOver line ↔ ∀ user hash, ¬ Supports line user hash := by
  constructor
  · rintro passed user hash ⟨uncommented, stored, shape, single, written⟩
    cases passed with
    | blank empty =>
        rw [empty] at shape
        have lists := congrArg String.toList shape
        simp at lists
    | comment begins => exact uncommented begins
    | undivided absent =>
        rw [shape] at absent
        exact absent (by simp)
    | malformed other encoded divided otherSingle unread =>
        obtain ⟨-, rfl⟩ := divided_unique (shape.symm.trans divided) single otherSingle
        have read := PasswordHash.ofText?_eq_some_iff.mpr written
        unfold PasswordHash.ofText? at read
        rw [stripStart?_eq_some_iff.mpr rfl] at read
        obtain ⟨octets, isRead, -⟩ := Option.map_eq_some_iff.mp read
        exact unread octets (Base64.ofText?_eq_some_iff.mp isRead)
    | unsupported other otherStored divided otherSingle unknown =>
        obtain ⟨-, rfl⟩ := divided_unique (shape.symm.trans divided) single otherSingle
        cases written with
        | digest octets => exact unknown _ List.mem_cons_self _ rfl
        | salted mark rest known =>
            exact unknown mark (List.mem_cons_of_mem _ known) rest rfl
  · intro unsupported
    by_cases begins : (trim line).toList.head? = some '#'
    · exact .comment begins
    by_cases present : ':' ∈ (trim line).toList
    · obtain ⟨user, stored, shape, single⟩ := List.eq_append_cons_of_mem present
      have divided : trim line = String.ofList user ++ ":" ++ String.ofList stored :=
        String.toList_inj.mp (by simpa using shape)
      have userSingle : ':' ∉ (String.ofList user).toList := by simpa using single
      have unwritten : ∀ hash, ¬ PasswordHash.IsWritten hash (String.ofList stored) :=
        fun hash written => unsupported _ hash ⟨begins, _, divided, userSingle, written⟩
      by_cases labelled : ∃ encoded, String.ofList stored = "\x7bSHA\x7d" ++ encoded
      · obtain ⟨encoded, isLabelled⟩ := labelled
        rw [isLabelled] at divided unwritten
        refine .malformed _ encoded divided userSingle ?_
        rintro octets rfl
        exact unwritten _ (.digest octets)
      · refine .unsupported _ _ divided userSingle ?_
        intro mark known rest isMarked
        rcases List.mem_cons.mp known with rfl | isMark
        · exact labelled ⟨rest, isMarked⟩
        · rw [isMarked] at unwritten
          exact unwritten _ (.salted mark rest isMark)
    · exact .undivided present

/-- The lines that are passed over are those without an entry. -/
theorem entry?_eq_none_iff {line : String} : entry? line = none ↔ IsPassedOver line := by
  rw [isPassedOver_iff, Option.eq_none_iff_forall_ne_some, Prod.forall]
  exact forall_congr' fun user => forall_congr' fun hash =>
    not_congr entry?_eq_some_iff_supports

instance (line : String) : Decidable (IsPassedOver line) :=
  decidable_of_iff _ entry?_eq_none_iff

/-! ## One content below another -/

variable (file : Htpasswd)

theorem addLine_of_isPassedOver
    {line : String}
    (passed : IsPassedOver line) :
    file.addLine line = file := by
  rw [addLine, entry?_eq_none_iff.mpr passed]

/-- Lines that are not supported leave the file alone. -/
theorem foldl_addLine_of_isPassedOver
    {lines : List String}
    (passed : ∀ line ∈ lines, IsPassedOver line) :
    lines.foldl addLine file = file := by
  induction lines with
  | nil => rfl
  | cons line others inductionHypothesis =>
      obtain ⟨linePassed, othersPassed⟩ := List.forall_mem_cons.mp passed
      rw [List.foldl_cons, file.addLine_of_isPassedOver linePassed,
        inductionHypothesis othersPassed]

theorem addLine_withoutReturn (line : List Char) :
    file.addLine (String.ofList (withoutReturn line)) =
      file.addLine (String.ofList line) := by
  unfold addLine entry?
  rw [trim_withoutReturn]

/-- Taking in the lines of a content is taking in its pieces between line feeds. -/
theorem foldl_addLine_lines (content : String) :
    (lines content).foldl addLine file = (pieces '\n' content).foldl addLine file := by
  have returns (start : Htpasswd) (chars : List (List Char)) :
      (chars.map fun line => String.ofList (withoutReturn line)).foldl addLine start =
        (chars.map String.ofList).foldl addLine start := by
    rw [List.foldl_map, List.foldl_map]
    simp only [addLine_withoutReturn]
  have silent (start : Htpasswd) : start.addLine (String.ofList []) = start :=
    start.addLine_of_isPassedOver (.blank (by decide))
  have nonempty := splitEvery_ne_nil '\n' content.toList
  have parts := List.dropLast_append_getLast nonempty
  unfold lines pieces
  simp only
  rw [List.getLast?_eq_some_getLast nonempty, List.map_append, List.map_map]
  conv_rhs => rw [← parts, List.map_append]
  rw [List.foldl_append, List.foldl_append]
  simp only [Function.comp_def]
  rw [returns]
  cases (splitEvery '\n' content.toList).getLast nonempty with
  | nil => rw [List.map_singleton, List.foldl_cons, silent, List.map_nil]
  | cons first rest => rfl

theorem pieces_below (first second : String) :
    pieces '\n' (first ++ "\n" ++ second) = pieces '\n' first ++ pieces '\n' second := by
  unfold pieces
  rw [← List.map_append, ← splitEvery_append_cons]
  simp

theorem ofText_below (first second : String) :
    ofText (first ++ "\n" ++ second) = (lines second).foldl addLine (ofText first) := by
  unfold ofText
  rw [foldl_addLine_lines, pieces_below, List.foldl_append, ← foldl_addLine_lines,
    ← foldl_addLine_lines]

/-- The hashes of a content that stands below another one override those of that one. -/
theorem find?_ofText_below (first second user : String) :
    (ofText (first ++ "\n" ++ second)).find? user =
      ((ofText second).find? user).or ((ofText first).find? user) := by
  have nobody : empty.find? user = none := rfl
  rw [ofText_below, find?_foldl_addLine, ofText.eq_def second, find?_foldl_addLine,
    nobody, Option.or_none]

/-! ## Entries -/

/-- Every user is listed once. -/
def IsDistinct : Prop :=
  (file.entries.map Prod.fst).Nodup

variable {file}

/-- Setting the hash of a user leaves every user listed once. -/
theorem IsDistinct.insert
    (distinct : file.IsDistinct)
    (user : String)
    (hash : PasswordHash) :
    (file.insert user hash).IsDistinct := by
  unfold IsDistinct Htpasswd.insert at *
  rw [List.map_append, List.map_singleton, List.nodup_append]
  refine ⟨(List.filter_sublist.map _).nodup distinct, List.nodup_singleton _, ?_⟩
  intro listed present other isUser same
  obtain ⟨entry, kept, rfl⟩ := List.mem_map.mp present
  obtain rfl := List.mem_singleton.mp isUser
  exact bne_iff_ne.mp (List.mem_filter.mp kept).2 same

/-- Taking in lines leaves every user listed once. -/
theorem IsDistinct.foldl_addLine
    (distinct : file.IsDistinct)
    (lines : List String) :
    (lines.foldl addLine file).IsDistinct := by
  induction lines generalizing file with
  | nil => exact distinct
  | cons line others inductionHypothesis =>
      apply inductionHypothesis
      unfold addLine
      split
      · exact distinct.insert _ _
      · exact distinct

/-- A password file lists every user once. -/
theorem isDistinct_ofText (content : String) : (ofText content).IsDistinct := by
  have nobody : empty.IsDistinct := List.nodup_nil
  exact nobody.foldl_addLine _

/-- Where users are listed once, the entry of a user is the one found. -/
theorem IsDistinct.mem_entries_iff
    (distinct : file.IsDistinct)
    {user : String}
    {hash : PasswordHash} :
    (user, hash) ∈ file.entries ↔ file.find? user = some hash := by
  obtain ⟨entries⟩ := file
  unfold IsDistinct at distinct
  unfold find?
  simp only at distinct ⊢
  induction entries with
  | nil => simp
  | cons entry others inductionHypothesis =>
      obtain ⟨listed, known⟩ := entry
      obtain ⟨absent, othersDistinct⟩ := List.nodup_cons.mp distinct
      rw [List.mem_cons, inductionHypothesis othersDistinct, List.lookup_cons]
      by_cases same : user = listed
      · subst same
        have unlisted : others.lookup user = none := by
          rw [List.lookup_eq_none_iff]
          intro entry present
          have different : user ≠ entry.1 := fun isUser =>
            absent (List.mem_map.mpr ⟨entry, present, isUser.symm⟩)
          exact bne_iff_ne.mpr different
        simp [unlisted, eq_comm]
      · have apart : (user == listed) = false := beq_eq_false_iff_ne.mpr same
        simp [same, apart]

/-- The last supported line of a content for a user has a hash. -/
def EndsFor (content user : String) (hash : PasswordHash) : Prop :=
  ∃ before line after, lines content = before ++ line :: after ∧ Supports line user hash ∧
    ∀ other ∈ after, ∀ otherHash, ¬ Supports other user otherHash

/-- The users for whom a content has a supported line. -/
def users (content : String) : Set String :=
  {user | ∃ line ∈ lines content, ∃ hash, Supports line user hash}

theorem find?_ofText_iff_endsFor {content user : String} {hash : PasswordHash} :
    (ofText content).find? user = some hash ↔ EndsFor content user hash := by
  simp only [find?_ofText_eq_some_iff, ne_eq, entry?_eq_some_iff_supports]
  rfl

/-- The users with an entry are those with a supported line. -/
theorem mem_keys_ofText_iff {content user : String} :
    user ∈ (ofText content).entries.map Prod.fst ↔ user ∈ users content := by
  simp only [List.mem_map, Prod.exists, exists_and_right, exists_eq_right,
    (isDistinct_ofText content).mem_entries_iff]
  constructor
  · rintro ⟨hash, found⟩
    obtain ⟨before, line, after, shape, supports, -⟩ := find?_ofText_iff_endsFor.mp found
    exact ⟨line, by simp [shape], hash, supports⟩
  · rintro ⟨line, present, hash, supports⟩
    have nobody : empty.find? user = none := rfl
    have sets := hashFor?_eq_some_iff.mpr (entry?_eq_some_iff_supports.mpr supports)
    apply Option.isSome_iff_exists.mp
    rw [ofText, find?_foldl_addLine, nobody, Option.or_none, List.findSome?_isSome_iff]
    exact ⟨line, List.mem_reverse.mpr present, by simp [sets]⟩

/-- There are as many entries as users with a supported line. -/
theorem size_ofText (content : String) :
    (ofText content).size = (users content).ncard := by
  have keys : users content = ((ofText content).entries.map Prod.fst).toFinset := by
    ext user
    rw [List.coe_toFinset]
    exact mem_keys_ofText_iff.symm
  rw [keys, Set.ncard_coe_finset, List.toFinset_card_of_nodup (isDistinct_ofText content),
    List.length_map, size]

theorem mem_entries_below {first second user : String} {hash : PasswordHash} :
    (user, hash) ∈ (ofText (first ++ "\n" ++ second)).entries ↔
      (user, hash) ∈ (ofText second).entries ∨
        (∀ other, (user, other) ∉ (ofText second).entries) ∧
          (user, hash) ∈ (ofText first).entries := by
  simp only [(isDistinct_ofText _).mem_entries_iff, find?_ofText_below,
    Option.or_eq_some_iff, ← ne_eq, ← Option.eq_none_iff_forall_ne_some]

/-- Lines that are passed over may be put in or left out anywhere. -/
theorem ofText_of_isPassedOver
    {noise : String}
    (passed : ∀ line ∈ lines noise, IsPassedOver line) :
    (∀ first, ofText (first ++ "\n" ++ noise) = ofText first) ∧
      (∀ second, ofText (noise ++ "\n" ++ second) = ofText second) ∧
      ∀ first second,
        ofText (first ++ "\n" ++ noise ++ "\n" ++ second) =
          ofText (first ++ "\n" ++ second) := by
  have below (first : String) : ofText (first ++ "\n" ++ noise) = ofText first := by
    rw [ofText_below, foldl_addLine_of_isPassedOver _ passed]
  have alone : ofText noise = empty := foldl_addLine_of_isPassedOver _ passed
  refine ⟨below, fun second => ?_, fun first second => ?_⟩
  · rw [ofText_below, alone, ofText]
  · rw [ofText_below, below, ofText_below]

/-- Password files are put together. Of two contents, the second one counts for the
users that it has, and the first one for all others. Every user is listed once, with the
hash of the last supported line, which alone decides whether a password is accepted.
Lines that are not supported may be put in or left out anywhere. There are as many
entries as users with a supported line. -/
theorem last_supported_line_counts :
    (∀ first second user hash,
        (user, hash) ∈ (ofText (first ++ "\n" ++ second)).entries ↔
          (user, hash) ∈ (ofText second).entries ∨
            (∀ other, (user, other) ∉ (ofText second).entries) ∧
              (user, hash) ∈ (ofText first).entries) ∧
      (∀ content, (ofText content).IsDistinct ∧
        ∀ user hash, (user, hash) ∈ (ofText content).entries ↔
          EndsFor content user hash) ∧
      (∀ content user password, (ofText content).accepts user password = true ↔
        ∃ hash, EndsFor content user hash ∧ hash.accepts password = true) ∧
      (∀ line, IsPassedOver line ↔ ∀ user hash, ¬ Supports line user hash) ∧
      (∀ noise, (∀ line ∈ lines noise, IsPassedOver line) →
        (∀ first, ofText (first ++ "\n" ++ noise) = ofText first) ∧
          (∀ second, ofText (noise ++ "\n" ++ second) = ofText second) ∧
          ∀ first second,
            ofText (first ++ "\n" ++ noise ++ "\n" ++ second) =
              ofText (first ++ "\n" ++ second)) ∧
      ∀ content, (ofText content).size = (users content).ncard := by
  refine ⟨fun first second user hash => mem_entries_below,
    fun content => ⟨isDistinct_ofText content, ?_⟩,
    ?_, fun line => isPassedOver_iff, fun noise passed =>
      ofText_of_isPassedOver passed, size_ofText⟩
  · intro user hash
    rw [(isDistinct_ofText content).mem_entries_iff, find?_ofText_iff_endsFor]
  · intro content user password
    simp only [accepts_iff, find?_ofText_iff_endsFor]

/-- Between two lines for Alice, the lines that are passed over change nothing: the
later one counts. -/
theorem later_line_of_alice_counts :
    let first := "alice:\x7bSHA\x7dAAAA\nbob:$2y$04$x"
    let noise := "# alice:\x7bSHA\x7dBBBB\n \ncarol\nalice:\x7bSHA\x7dA\nalice:$apr1$x$y"
    let second := " alice:\x7bSHA\x7dCCCC\r\n"
    let file := ofText (first ++ "\n" ++ noise ++ "\n" ++ second)
    file = ofText (first ++ "\n" ++ second) ∧
      ("alice", PasswordHash.digest [8, 32, 130]) ∈ file.entries ∧
      ("bob", PasswordHash.salted "$2y$04$x") ∈ file.entries := by
  intro first noise second file
  obtain ⟨below, -, -, -, silent, -⟩ := last_supported_line_counts
  obtain ⟨-, -, between⟩ := silent noise (by decide +kernel)
  have isFile : file = ofText (first ++ "\n" ++ second) := between first second
  refine ⟨isFile, ?_, ?_⟩
  · rw [isFile]
    exact (below first second _ _).mpr (.inl (by decide +kernel))
  · rw [isFile]
    refine (below first second _ _).mpr (.inr ⟨?_, by decide +kernel⟩)
    intro other listed
    have isOnly : (ofText second).entries = [("alice", .digest [8, 32, 130])] := by
      decide +kernel
    rw [isOnly] at listed
    simp at listed

end Htpasswd
end Gatehouse
