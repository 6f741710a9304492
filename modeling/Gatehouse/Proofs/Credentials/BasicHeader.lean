import Gatehouse.Auth.IdentityHeaders
import Gatehouse.Proofs.Http.FieldText
import Gatehouse.Proofs.Text.Canonical
import Gatehouse.Proofs.Text.Splitting

/-!
# Which headers carry credentials

A header carries credentials if the name of the scheme and a space are followed by the
Base64 form of the user, a colon and the password, with nothing but blanks around it.
This is an exact description: such headers are read, they are read in one way, and every
other header is refused for the first part of the description that it does not fit. The
user ends at the first colon. The header that is written for a session is therefore read
back as its user and the configured password exactly if the user has no colon.
-/

namespace Gatehouse
namespace BasicCredentials

open Text

/-! ## The description -/

/-- A header names the scheme. -/
def NamesScheme (header : String) : Prop :=
  ∃ encoded, header = "Basic " ++ encoded

/-- A header encloses a text: its Base64 form behind the scheme, between blanks. -/
def Encloses (header text : String) : Prop :=
  ∃ left right, header =
    "Basic " ++ (left ++ Base64.text Base64.standard (Utf8.encode text) ++ right) ∧
    ∀ char ∈ left.toList ++ right.toList, isBlank char = true

/-- Credentials as they are enclosed in a header. -/
def text (credentials : BasicCredentials) : String :=
  credentials.user ++ ":" ++ credentials.password

/-! ## The parts of a header -/

variable {header : String}

theorem splitOnce?_space {scheme encoded : String} :
    splitOnce? " " header = some (scheme, encoded) ↔
      header = scheme ++ " " ++ encoded ∧ ' ' ∉ scheme.toList :=
  splitOnce?_char_eq_some_iff (by decide)

theorem splitOnce?_colon {whole user password : String} :
    splitOnce? ":" whole = some (user, password) ↔
      whole = user ++ ":" ++ password ∧ ':' ∉ user.toList :=
  splitOnce?_char_eq_some_iff (by decide)

theorem splitOnce?_colon_eq_none {whole : String} (absent : ':' ∉ whole.toList) :
    splitOnce? ":" whole = none := by
  apply Option.eq_none_iff_forall_not_mem.mpr
  rintro ⟨user, password⟩ divided
  obtain ⟨rfl, -⟩ := splitOnce?_colon.mp divided
  exact absent (by simp)

/-- The characters in which octets are written are no blanks. -/
theorem not_isBlank_base64 (octets : Bytes) :
    ∀ char ∈ (Base64.text Base64.standard octets).toList, ¬ isBlank char = true := by
  have alphabetStays : ∀ value < 64,
      ¬ isBlank (Base64.standard.alphabet.character value) = true := by
    decide
  intro char present
  rw [Base64.text, String.toList_ofList] at present
  rcases Base64.mem_encode present with rfl | ⟨value, bounded, rfl⟩
  · decide
  · exact alphabetStays value bounded

/-- The text that is read behind the name of the scheme. -/
def enclosed? (encoded : String) : Option String :=
  (Base64.ofText? Base64.standard (trim encoded)).bind Utf8.decode?

/-- A text is read exactly where its Base64 form has nothing but blanks around it. -/
theorem enclosed?_eq_some_iff {encoded whole : String} :
    enclosed? encoded = some whole ↔ Encloses ("Basic " ++ encoded) whole := by
  unfold enclosed? Encloses
  simp only [Option.bind_eq_some_iff, Base64.ofText?_eq_some_iff,
    Utf8.decode?_eq_some_iff, exists_eq_right, String.append_right_inj,
    trim_eq_iff_of_kept (not_isBlank_base64 _)]
  constructor
  · rintro ⟨left, right, shape, blank⟩
    refine ⟨String.ofList left, String.ofList right, String.toList_inj.mp ?_,
      by simpa using blank⟩
    simpa using shape
  · rintro ⟨left, right, rfl, blank⟩
    exact ⟨left.toList, right.toList, by simp, blank⟩

/-- A header encloses one text at most. -/
theorem Encloses.unique
    {first second : String}
    (encloses : Encloses header first)
    (enclosesToo : Encloses header second) :
    first = second := by
  obtain ⟨left, right, rfl, -⟩ := id encloses
  rw [← enclosed?_eq_some_iff] at encloses enclosesToo
  exact Option.some.inj (encloses.symm.trans enclosesToo)

theorem Encloses.namesScheme
    {whole : String}
    (encloses : Encloses header whole) :
    NamesScheme header := by
  obtain ⟨left, right, shape, -⟩ := encloses
  exact ⟨_, shape⟩

/-! ## One outcome for each header -/

/-- A header that names the scheme is read by what stands behind the name. -/
theorem ofHeader_scheme (encoded : String) :
    ofHeader ("Basic " ++ encoded) =
      match enclosed? encoded with
      | none => .error .badEncoding
      | some whole =>
          match splitOnce? ":" whole with
          | none => .error .missingDelimiter
          | some (user, password) => .ok ⟨user, password⟩ := by
  have divided : splitOnce? " " ("Basic " ++ encoded) = some ("Basic", encoded) :=
    splitOnce?_space.mpr ⟨rfl, by decide⟩
  unfold ofHeader
  simp only [divided, if_true]
  rfl

/-- A header that does not name the scheme is refused for that. -/
theorem ofHeader_of_other_scheme (other : ¬ NamesScheme header) :
    ofHeader header = .error .wrongScheme := by
  unfold ofHeader
  split
  · rfl
  · next scheme encoded divided =>
      have isOther : scheme ≠ "Basic" := by
        rintro rfl
        exact other ⟨encoded, (splitOnce?_space.mp divided).1⟩
      rw [if_neg isOther]

/-- A header that names the scheme and encloses no text is refused for that. -/
theorem ofHeader_of_no_text
    (names : NamesScheme header)
    (nothing : ∀ whole, ¬ Encloses header whole) :
    ofHeader header = .error .badEncoding := by
  obtain ⟨encoded, rfl⟩ := names
  have unread : enclosed? encoded = none :=
    Option.eq_none_iff_forall_not_mem.mpr fun whole read =>
      nothing whole (enclosed?_eq_some_iff.mp read)
  rw [ofHeader_scheme, unread]

/-- A header that encloses a text without a colon is refused for that. -/
theorem ofHeader_of_no_colon
    {whole : String}
    (encloses : Encloses header whole)
    (absent : ':' ∉ whole.toList) :
    ofHeader header = .error .missingDelimiter := by
  obtain ⟨encoded, rfl⟩ := encloses.namesScheme
  rw [ofHeader_scheme, enclosed?_eq_some_iff.mpr encloses]
  simp only [splitOnce?_colon_eq_none absent]

/-- A header that encloses credentials whose user has no colon is read as these. -/
theorem ofHeader_of_encloses
    {credentials : BasicCredentials}
    (encloses : Encloses header credentials.text)
    (single : ':' ∉ credentials.user.toList) :
    ofHeader header = .ok credentials := by
  obtain ⟨encoded, rfl⟩ := encloses.namesScheme
  have divided :
      splitOnce? ":" credentials.text = some (credentials.user, credentials.password) :=
    splitOnce?_colon.mpr ⟨rfl, single⟩
  rw [ofHeader_scheme, enclosed?_eq_some_iff.mpr encloses]
  simp only [divided]

/-- Each header fits one of the four descriptions. -/
inductive IsOfForm (header : String) : Prop
  | otherScheme (other : ¬ NamesScheme header)
  | noText (names : NamesScheme header) (nothing : ∀ whole, ¬ Encloses header whole)
  | noColon (whole : String) (encloses : Encloses header whole)
      (absent : ':' ∉ whole.toList)
  | credentials (found : BasicCredentials) (encloses : Encloses header found.text)
      (single : ':' ∉ found.user.toList)

/-- There is no header of another form. -/
theorem isOfForm (header : String) : IsOfForm header := by
  by_cases names : NamesScheme header
  · by_cases something : ∃ whole, Encloses header whole
    · obtain ⟨whole, encloses⟩ := something
      by_cases present : ':' ∈ whole.toList
      · obtain ⟨user, password, shape, single⟩ := List.eq_append_cons_of_mem present
        refine .credentials ⟨String.ofList user, String.ofList password⟩ ?_
          (by simpa using single)
        have isText : whole = text ⟨String.ofList user, String.ofList password⟩ :=
          String.toList_inj.mp (by simpa [text] using shape)
        rwa [← isText]
      · exact .noColon whole encloses present
    · exact .noText names (not_exists.mp something)
  · exact .otherScheme names

/-- A header is read exactly if it encloses credentials whose user ends at the first
colon. -/
theorem ofHeader_eq_ok_iff {credentials : BasicCredentials} :
    ofHeader header = .ok credentials ↔
      Encloses header credentials.text ∧ ':' ∉ credentials.user.toList := by
  constructor
  · intro read
    cases isOfForm header with
    | otherScheme other => cases (ofHeader_of_other_scheme other).symm.trans read
    | noText names nothing => cases (ofHeader_of_no_text names nothing).symm.trans read
    | noColon whole encloses absent =>
        cases (ofHeader_of_no_colon encloses absent).symm.trans read
    | credentials found encloses single =>
        cases (ofHeader_of_encloses encloses single).symm.trans read
        exact ⟨encloses, single⟩
  · rintro ⟨encloses, single⟩
    exact ofHeader_of_encloses encloses single

/-- A header is refused for the first part of the description that it does not fit. -/
theorem ofHeader_eq_error_iff {cause : BasicError} :
    ofHeader header = .error cause ↔
      (cause = .wrongScheme ∧ ¬ NamesScheme header) ∨
      (cause = .badEncoding ∧ NamesScheme header ∧ ∀ whole, ¬ Encloses header whole) ∨
      (cause = .missingDelimiter ∧ ∃ whole, Encloses header whole ∧
        ':' ∉ whole.toList) := by
  constructor
  · intro refused
    cases isOfForm header with
    | otherScheme other =>
        cases (ofHeader_of_other_scheme other).symm.trans refused
        exact .inl ⟨rfl, other⟩
    | noText names nothing =>
        cases (ofHeader_of_no_text names nothing).symm.trans refused
        exact .inr (.inl ⟨rfl, names, nothing⟩)
    | noColon whole encloses absent =>
        cases (ofHeader_of_no_colon encloses absent).symm.trans refused
        exact .inr (.inr ⟨rfl, whole, encloses, absent⟩)
    | credentials found encloses single =>
        cases (ofHeader_of_encloses encloses single).symm.trans refused
  · rintro (⟨rfl, other⟩ | ⟨rfl, names, nothing⟩ | ⟨rfl, whole, encloses, absent⟩)
    · exact ofHeader_of_other_scheme other
    · exact ofHeader_of_no_text names nothing
    · exact ofHeader_of_no_colon encloses absent

end BasicCredentials

open BasicCredentials

/-- A password file identifies exactly the users whose passwords it accepts from the
header. -/
theorem Htpasswd.identifyHeader_eq_ok_iff
    {file : Htpasswd}
    {header : String}
    {identity : Identity} :
    file.identifyHeader header = .ok identity ↔
      ∃ user password, Encloses header (BasicCredentials.text ⟨user, password⟩) ∧
        ':' ∉ user.toList ∧ file.accepts user password = true ∧
        identity = Identity.ofUser user := by
  unfold identifyHeader
  constructor
  · intro identified
    split at identified
    · cases identified
    · next credentials read =>
        obtain ⟨encloses, single⟩ := ofHeader_eq_ok_iff.mp read
        split at identified
        · next known =>
            cases identified
            exact ⟨_, _, encloses, single, known, rfl⟩
        · cases identified
  · rintro ⟨user, password, encloses, single, known, rfl⟩
    simp only [ofHeader_of_encloses encloses single, known, if_true]

namespace BasicCredentials

/-! ## The header that is written -/

theorem encloses_header (credentials : BasicCredentials) :
    Encloses credentials.header credentials.text :=
  ⟨"", "", by simp [header, text], by simp⟩

/-- Credentials are read back from their header exactly if the user has no colon. -/
theorem ofHeader_header_iff {credentials : BasicCredentials} :
    ofHeader credentials.header = .ok credentials ↔ ':' ∉ credentials.user.toList := by
  rw [ofHeader_eq_ok_iff, and_iff_right credentials.encloses_header]

/-- The header that is written consists of visible characters. -/
theorem visible_header (credentials : BasicCredentials) :
    ∀ char ∈ credentials.header.toList, Headers.IsVisible char := by
  intro char present
  rw [header, String.toList_append] at present
  rcases List.mem_append.mp present with inName | inForm
  · have nameVisible : ∀ char ∈ "Basic ".toList, Headers.IsVisible char :=
      List.all_iff_forall_prop.mp (by decide)
    exact nameVisible char inName
  · exact Headers.visible_base64 _ _ char inForm

/-- If credentials are passed on, a request with an identity has their `Authorization`
field. -/
theorem getAll_authorization_intoRequest
    (session : Session)
    {options : IdentityHeaders.Options}
    (passed : options.passBasicAuth = true)
    (request : Headers) :
    (IdentityHeaders.intoRequest session options request).getAll "authorization" =
      [Text.Utf8.encode (header ⟨session.user, options.basicAuthPassword⟩)] := by
  let written := header ⟨session.user, options.basicAuthPassword⟩
  have nonempty : written ≠ "" := by
    intro empty
    have lists := congrArg String.toList empty
    simp [written, header] at lists
  have isValue : IdentityHeaders.value? written = some (Text.Utf8.encode written) := by
    rw [IdentityHeaders.value?, if_neg nonempty]
    exact Headers.value?_eq_encode (Headers.isText_of_visible (visible_header _))
  unfold IdentityHeaders.intoRequest
  simp only [passed, Bool.true_or, if_true, isValue, written]
  rw [Headers.getAll_setOrRemove_other _ _ (by decide),
    Headers.getAll_setOrRemove_other _ _ (by decide),
    Headers.getAll_setOrRemove_other _ _ (by decide), Headers.getAll_insert_self]

/-- The credentials of a header are read exactly if it encloses them and the user has no
colon; otherwise the scheme, the encoding or the colon is the cause of the refusal, in
this order. A password file identifies exactly the users whose passwords it accepts. The
only header that is written for a session is read back exactly if its user has no
colon. -/
theorem enclosed_credentials_are_read :
    (∀ header credentials, ofHeader header = .ok credentials ↔
        Encloses header credentials.text ∧ ':' ∉ credentials.user.toList) ∧
      (∀ header cause, ofHeader header = .error cause ↔
        (cause = .wrongScheme ∧ ¬ NamesScheme header) ∨
        (cause = .badEncoding ∧ NamesScheme header ∧ ∀ whole, ¬ Encloses header whole) ∨
        (cause = .missingDelimiter ∧ ∃ whole, Encloses header whole ∧
          ':' ∉ whole.toList)) ∧
      (∀ (file : Htpasswd) header identity, file.identifyHeader header = .ok identity ↔
        ∃ user password, Encloses header (text ⟨user, password⟩) ∧ ':' ∉ user.toList ∧
          file.accepts user password = true ∧ identity = Identity.ofUser user) ∧
      ∀ session options request, options.passBasicAuth = true →
        let fields := IdentityHeaders.intoRequest session options request
        ∃ written, fields.getAll "authorization" = [Text.Utf8.encode written] ∧
          fields.firstText? "authorization" = some written ∧
          (ofHeader written = .ok ⟨session.user, options.basicAuthPassword⟩ ↔
            ':' ∉ session.user.toList) := by
  refine ⟨fun header credentials => ofHeader_eq_ok_iff,
    fun header cause => ofHeader_eq_error_iff,
    fun file header identity => Htpasswd.identifyHeader_eq_ok_iff, ?_⟩
  intro session options request passed fields
  have only : fields.getAll "authorization" =
      [Text.Utf8.encode (header ⟨session.user, options.basicAuthPassword⟩)] :=
    getAll_authorization_intoRequest session passed request
  refine ⟨_, only, ?_, ofHeader_header_iff⟩
  rw [Headers.firstText?, Headers.get?, only]
  exact Headers.text?_encode (visible_header _)

/-- What is passed on to a backend. -/
def passingOn (password : String) : IdentityHeaders.Options :=
  { passBasicAuth := true
    basicAuthPassword := password
    passUserHeaders := false
    setXAuthRequest := false }

/-- A password with a colon is passed on and read back; such a user is only passed on. -/
theorem alice_is_passed_on :
    let forged : Headers := ⟨[("authorization", Text.Utf8.encode "Basic cm9vdDpyb290")]⟩
    let sent (user : String) :=
      (IdentityHeaders.intoRequest (Session.ofUser user) (passingOn "s:1")
        forged).firstText?
        "authorization"
    ((sent "alice").map ofHeader = some (.ok ⟨"alice", "s:1"⟩)) ∧
      (sent "al:ice").map ofHeader ≠ some (.ok ⟨"al:ice", "s:1"⟩) := by
  intro forged sent
  obtain ⟨-, -, -, writes⟩ := enclosed_credentials_are_read
  obtain ⟨written, -, isWritten, reads⟩ :=
    writes (Session.ofUser "alice") (passingOn "s:1") forged rfl
  obtain ⟨divided, -, isDivided, misreads⟩ :=
    writes (Session.ofUser "al:ice") (passingOn "s:1") forged rfl
  refine ⟨?_, ?_⟩
  · rw [show sent "alice" = some written from isWritten]
    exact congrArg some (reads.mpr (by decide))
  · rw [show sent "al:ice" = some divided from isDivided]
    intro same
    exact misreads.mp (Option.some.inj same) (by decide)

end BasicCredentials
end Gatehouse
