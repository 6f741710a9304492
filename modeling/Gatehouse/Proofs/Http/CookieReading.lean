import Gatehouse.Proofs.Http.Cookies
import Gatehouse.Proofs.Url.Percent
import Gatehouse.Session.Sealer

/-!
# Session cookies come back

A session cookie is written as it is, and cookies are read with their percent escapes
resolved: nothing is lost because neither the name nor a sealed session contains an
escape, a separator or a blank. So the value that a response sets is the value that is
read from every later request that brings it back, whatever other cookies come along
with it, in whatever order, and in however many fields. A cookie that has been cleared
is read as none.
-/

namespace Gatehouse

open Headers

/-! ## Characters -/

/-- A character without meaning in a line of cookies: visible, and no separator. -/
def IsPlain (char : Char) : Prop :=
  IsVisible char ∧ Text.isBlank char = false ∧ char ≠ '=' ∧ char ≠ ';'

instance (char : Char) : Decidable (IsPlain char) :=
  inferInstanceAs (Decidable (_ ∧ _))

theorem isPlain_of_isTokenChar
    {char : Char}
    (isToken : Text.isTokenChar char = true) :
    IsPlain char :=
  of_isTokenChar (by decide) isToken

/-- Octets are written in plain characters and in the sign behind names, and begin no
escape. -/
theorem isPlain_of_mem_base64
    {octets : Bytes}
    {char : Char}
    (present : char ∈ (Text.Base64.text Text.Base64.urlSafe octets).toList) :
    (IsPlain char ∨ char = '=') ∧ char ≠ '%' := by
  have alphabetIsPlain : ∀ value < 64,
      IsPlain (Text.Base64.urlSafe.alphabet.character value) ∧
        Text.Base64.urlSafe.alphabet.character value ≠ '%' := by
    decide
  unfold Text.Base64.text at present
  rw [String.toList_ofList] at present
  rcases Text.Base64.mem_encode present with rfl | ⟨value, bounded, rfl⟩
  · exact ⟨Or.inr rfl, by decide⟩
  · exact ⟨Or.inl (alphabetIsPlain value bounded).1, (alphabetIsPlain value bounded).2⟩

/-- The text of a cookie is its name and value, with the attributes behind. -/
theorem SetCookie.exists_text_eq (cookie : SetCookie) :
    ∃ rest, cookie.text = cookie.name ++ "=" ++ cookie.value ++ ";" ++ rest := by
  have begins (first tail : String) : ∃ rest, (";" ++ first) ++ tail = ";" ++ rest :=
    ⟨first ++ tail, String.append_assoc⟩
  have opens (tail : String) : ∃ rest, (if cookie.httpOnly then "; HttpOnly" else "") ++
      ((if cookie.secure then "; Secure" else "") ++ ("; Path=/" ++ tail)) =
        ";" ++ rest := by
    cases cookie.httpOnly with
    | true => exact begins " HttpOnly" _
    | false =>
        rw [if_neg Bool.false_ne_true, String.empty_append]
        cases cookie.secure with
        | true => exact begins " Secure" _
        | false => exact begins " Path=/" tail
  unfold text
  simp only [String.append_assoc]
  obtain ⟨rest, shape⟩ := opens _
  exact ⟨rest,
    congrArg (fun behind => cookie.name ++ ("=" ++ (cookie.value ++ behind))) shape⟩

namespace Sealer

variable (sealer : Sealer)
variable (nonce : Crypto.Gcm.Nonce)
variable (session : Session)
variable (now : Time)

/-- A sealed session is the Base64 form of some octets. -/
theorem exists_issue_eq :
    ∃ payload timestamp tagText, sealer.issue nonce session now =
      Text.Base64.text Text.Base64.urlSafe
        (Text.Utf8.encode (TokenSigner.tokenText payload timestamp tagText)) :=
  ⟨_, _, _, rfl⟩

/-- A sealed session is not empty. -/
theorem issue_ne_empty : sealer.issue nonce session now ≠ "" := by
  obtain ⟨payload, timestamp, tagText, shape⟩ := sealer.exists_issue_eq nonce session now
  rw [shape]
  intro isEmpty
  have read := congrArg (Text.Base64.ofText? Text.Base64.urlSafe) isEmpty
  rw [Text.Base64.ofText?_text] at read
  have noText : Text.Utf8.encode (TokenSigner.tokenText payload timestamp tagText) =
      Text.Utf8.encode "" :=
    Option.some.inj read
  have bars := congrArg String.toList (Text.Utf8.encode_injective noText)
  have present : '|' ∈ (TokenSigner.tokenText payload timestamp tagText).toList := by
    simp [TokenSigner.tokenText]
  rw [bars] at present
  cases present

end Sealer

/-! ## Cookies as clients send them -/

/-- A cookie as a client sends it: blanks, the name and the value. -/
structure SentCookie where
  gap : String
  name : String
  value : String
  deriving DecidableEq, Repr

namespace SentCookie

/-- The text of a cookie. -/
def text (cookie : SentCookie) : String :=
  cookie.gap ++ (cookie.name ++ ("=" ++ cookie.value))

/-- The line of some cookies. -/
def line (cookies : List SentCookie) : String :=
  String.intercalate ";" (cookies.map text)

/-- Whether nothing but blanks stands between a cookie and the one before it. -/
def IsApart (cookie : SentCookie) : Prop :=
  ∀ char ∈ cookie.gap.toList, char = ' ' ∨ char = '\t'

instance (cookie : SentCookie) : Decidable cookie.IsApart :=
  List.decidableBAll _ _

/-- Whether a cookie has a plain name, and a visible value that does not end it. -/
structure IsWellFormed (cookie : SentCookie) : Prop where
  apart : cookie.IsApart
  named : cookie.name ≠ ""
  name : ∀ char ∈ cookie.name.toList, IsPlain char
  value : ∀ char ∈ cookie.value.toList, IsVisible char ∧ char ≠ ';'

variable {cookie : SentCookie}

/-- The text of a cookie consists of visible characters, and no cookie begins in it. -/
theorem IsWellFormed.visible
    (wellFormed : cookie.IsWellFormed) :
    ∀ char ∈ cookie.text.toList, IsVisible char ∧ char ≠ ';' := by
  intro char present
  unfold text at present
  simp only [String.toList_append, List.mem_append] at present
  rcases present with inGap | inName | isSign | inValue
  · rcases wellFormed.apart char inGap with rfl | rfl <;> decide
  · exact ⟨(wellFormed.name char inName).1, (wellFormed.name char inName).2.2.2⟩
  · rw [List.mem_singleton.mp isSign]
    decide
  · exact wellFormed.value char inValue

/-- A cookie is read by resolving the escapes of its name and of its value. -/
theorem IsWellFormed.pair?_text
    (wellFormed : cookie.IsWellFormed) :
    Cookies.pair? cookie.text =
      (Text.Utf8.decode? (Percent.decode (Text.Utf8.encode cookie.name))).bind fun name =>
        (Text.Utf8.decode?
          (Percent.decode (Text.Utf8.encode (Text.trim cookie.value)))).bind
          fun content => some (name, content) := by
  have noSign : '=' ∉ cookie.gap.toList ++ cookie.name.toList := by
    intro present
    rcases List.mem_append.mp present with inGap | inName
    · rcases wellFormed.apart _ inGap with isSpace | isTab
      · exact absurd isSpace (by decide)
      · exact absurd isTab (by decide)
    · exact (wellFormed.name _ inName).2.2.1 rfl
  have split :
      Text.splitOnce? "=" cookie.text =
        some (cookie.gap ++ cookie.name, cookie.value) := by
    unfold Text.splitOnce? text
    have shape : (cookie.gap ++ (cookie.name ++ ("=" ++ cookie.value))).toList =
        (cookie.gap.toList ++ cookie.name.toList) ++ '=' :: cookie.value.toList := by
      simp
    rw [shape, show "=".toList = ['='] from rfl, Text.splitFirst?_append noSign]
    simp
  have trimmed : Text.trim (cookie.gap ++ cookie.name) = cookie.name := by
    unfold Text.trim
    rw [String.toList_append, Text.trimBoth_append_of_kept, String.ofList_toList]
    · intro char inGap
      rcases wellFormed.apart char inGap with rfl | rfl <;> decide
    · intro char inName
      exact Bool.eq_false_iff.mp (wellFormed.name char inName).2.1
  unfold Cookies.pair?
  rw [split]
  simp only [Option.bind_eq_bind, Option.bind_some, trimmed, if_neg wellFormed.named]

/-- Whether a name and a value are written as they are read, without escapes. -/
structure IsLiteral (name value : String) : Prop where
  named : name ≠ ""
  name : ∀ char ∈ name.toList, IsPlain char ∧ char ≠ '%'
  value : ∀ char ∈ value.toList, (IsPlain char ∨ char = '=') ∧ char ≠ '%'

/-- A cookie that is written as it is read is well formed. -/
theorem IsLiteral.isWellFormed
    (literal : IsLiteral cookie.name cookie.value)
    (apart : cookie.IsApart) :
    cookie.IsWellFormed where
  apart := apart
  named := literal.named
  name := fun char present => (literal.name char present).1
  value := by
    intro char present
    rcases (literal.value char present).1 with plain | rfl
    · exact ⟨plain.1, plain.2.2.2⟩
    · decide

/-- A cookie that is written as it is read is read as it is written. -/
theorem IsLiteral.pair?_text
    (literal : IsLiteral cookie.name cookie.value)
    (apart : cookie.IsApart) :
    Cookies.pair? cookie.text = some (cookie.name, cookie.value) := by
  have trimmed : Text.trim cookie.value = cookie.value := by
    refine Text.trim_of_kept fun char present => ?_
    rcases (literal.value char present).1 with plain | rfl
    · exact Bool.eq_false_iff.mp plain.2.1
    · decide
  rw [(literal.isWellFormed apart).pair?_text, trimmed,
    Percent.decode_encode_of_notMem fun present => (literal.name _ present).2 rfl,
    Percent.decode_encode_of_notMem fun present => (literal.value _ present).2 rfl,
    Text.Utf8.decode?_encode, Text.Utf8.decode?_encode]
  rfl

/-- What is read of a cookie has the name that is meant. -/
theorem IsWellFormed.name_of_pair?
    (wellFormed : cookie.IsWellFormed)
    {name value : String}
    (isPair : Cookies.pair? cookie.text = some (name, value)) :
    Percent.decode (Text.Utf8.encode cookie.name) = Text.Utf8.encode name := by
  rw [wellFormed.pair?_text] at isPair
  obtain ⟨decoded, isDecoded, isRest⟩ := Option.bind_eq_some_iff.mp isPair
  obtain ⟨content, -, isShape⟩ := Option.bind_eq_some_iff.mp isRest
  cases isShape
  exact Text.Utf8.eq_encode_of_decode? isDecoded

theorem toList_line (cookies : List SentCookie) :
    (line cookies).toList =
      List.intercalate [';'] (cookies.map fun cookie => cookie.text.toList) := by
  unfold line
  rw [String.toList_intercalate, List.map_map]
  rfl

/-- A line is read cookie by cookie. -/
theorem filterMap_pair?_line
    {cookies : List SentCookie}
    (wellFormed : ∀ cookie ∈ cookies, cookie.IsWellFormed) :
    (Text.pieces ';' (line cookies)).filterMap Cookies.pair? =
      cookies.filterMap fun cookie => Cookies.pair? cookie.text := by
  unfold Text.pieces
  rw [toList_line]
  cases cookies with
  | nil => decide
  | cons first rest =>
      have readBack :
          ((first :: rest).map fun cookie => cookie.text.toList).map String.ofList =
          (first :: rest).map text := by
        rw [List.map_map]
        exact List.map_congr_left fun cookie _ => String.ofList_toList
      rw [Text.splitEvery_intercalate, readBack, List.filterMap_map]
      · rfl
      · exact List.cons_ne_nil _ _
      · intro piece isPiece
        obtain ⟨cookie, isCookie, rfl⟩ := List.mem_map.mp isPiece
        intro present
        exact ((wellFormed cookie isCookie).visible _ present).2 rfl

/-- A line of cookies consists of visible characters. -/
theorem visible_line
    {cookies : List SentCookie}
    (wellFormed : ∀ cookie ∈ cookies, cookie.IsWellFormed) :
    ∀ char ∈ (line cookies).toList, IsVisible char := by
  intro char present
  rw [toList_line] at present
  rcases Text.mem_of_mem_intercalate present with rfl | ⟨piece, isPiece, inPiece⟩
  · decide
  · obtain ⟨cookie, isCookie, rfl⟩ := List.mem_map.mp isPiece
    exact ((wellFormed cookie isCookie).visible char inPiece).1

/-- The cookies of a header are those of its lines, in order. -/
theorem ofHeaders_of_lines
    {headers : Headers}
    {lines : List (List SentCookie)}
    (isHeader : headers.getAll "cookie" = lines.map fun cookies =>
      Text.Utf8.encode (line cookies))
    (wellFormed : ∀ cookie ∈ lines.flatten, cookie.IsWellFormed) :
    Cookies.ofHeaders headers =
      lines.flatten.filterMap fun cookie => Cookies.pair? cookie.text := by
  have lineWellFormed : ∀ cookies ∈ lines, ∀ cookie ∈ cookies, cookie.IsWellFormed :=
    fun cookies isLine cookie isCookie =>
      wellFormed cookie (List.mem_flatten.mpr ⟨cookies, isLine, isCookie⟩)
  have texts : headers.texts "cookie" = lines.map line := by
    unfold Headers.texts
    rw [isHeader, List.filterMap_map, ← List.filterMap_eq_map]
    exact List.filterMap_congr fun cookies isLine =>
      text?_encode (visible_line (lineWellFormed cookies isLine))
  unfold Cookies.ofHeaders
  rw [texts, List.flatMap_map, List.filterMap_flatten, List.flatMap_def]
  refine congrArg List.flatten (List.map_congr_left fun cookies isLine => ?_)
  exact filterMap_pair?_line (lineWellFormed cookies isLine)

end SentCookie

/-- Whether a header brings lines of cookies: one value under a name, and else foreign
ones. -/
structure Headers.Brings
    (headers : Headers)
    (name value : String)
    (lines : List (List SentCookie)) : Prop where
  isHeader : headers.getAll "cookie" =
    lines.map fun cookies => Text.Utf8.encode (SentCookie.line cookies)
  cookies : ∀ cookie ∈ lines.flatten,
    (cookie.IsApart ∧ cookie.name = name ∧ cookie.value = value) ∨
      (cookie.IsWellFormed ∧ Percent.decode (Text.Utf8.encode cookie.name) ≠
        Text.Utf8.encode name)

namespace CookieSettings

variable {settings : CookieSettings}
variable {headers : Headers}
variable {value : String}
variable {lines : List (List SentCookie)}

section Reading

variable (literal : SentCookie.IsLiteral settings.name value)
variable (brings : headers.Brings settings.name value lines)

include literal brings

/-- The cookies that are read are those of the lines. -/
theorem ofHeaders_of_brings :
    Cookies.ofHeaders headers =
      lines.flatten.filterMap fun cookie => Cookies.pair? cookie.text := by
  refine SentCookie.ofHeaders_of_lines brings.isHeader fun cookie isCookie => ?_
  rcases brings.cookies cookie isCookie with ⟨apart, isName, isValue⟩ | ⟨wellFormed, -⟩
  · rw [← isName, ← isValue] at literal
    exact literal.isWellFormed apart
  · exact wellFormed

/-- Whatever is found under the name is the value. -/
theorem eq_of_find?
    {found : String}
    (isFound : Cookies.find? headers settings.name = some found) :
    found = value := by
  obtain ⟨before, after, split, -⟩ := List.lookup_eq_some_iff.mp isFound
  have inHeaders : (settings.name, found) ∈ Cookies.ofHeaders headers := by
    rw [← List.mem_reverse, split]
    exact List.mem_append_right _ List.mem_cons_self
  rw [ofHeaders_of_brings literal brings] at inHeaders
  obtain ⟨cookie, isCookie, isPair⟩ := List.mem_filterMap.mp inHeaders
  rcases brings.cookies cookie isCookie with
    ⟨apart, isName, isValue⟩ | ⟨wellFormed, different⟩
  · rw [← isName, ← isValue] at literal
    rw [literal.pair?_text apart, Option.some.injEq, Prod.mk.injEq] at isPair
    rw [← isPair.2, isValue]
  · exact absurd (wellFormed.name_of_pair? isPair) different

/-- Something is found under the name if there is a cookie with it. -/
theorem isSome_find?
    {cookie : SentCookie}
    (isCookie : cookie ∈ lines.flatten)
    (isName : cookie.name = settings.name) :
    (Cookies.find? headers settings.name).isSome = true := by
  have isPair : Cookies.pair? cookie.text = some (settings.name, value) := by
    rcases brings.cookies cookie isCookie with ⟨apart, -, isValue⟩ | ⟨-, different⟩
    · rw [← isName, ← isValue] at literal ⊢
      exact literal.pair?_text apart
    · rw [isName] at different
      exact absurd (Percent.decode_encode_of_notMem fun present =>
        (literal.name _ present).2 rfl)
        different
  refine List.lookup_isSome_iff.mpr ⟨(settings.name, value), ?_, beq_self_eq_true _⟩
  rw [List.mem_reverse, ofHeaders_of_brings literal brings]
  exact List.mem_filterMap.mpr ⟨cookie, isCookie, isPair⟩

/-- A value that is not empty is read if a cookie brings it. -/
theorem read_of_brings
    (nonempty : value ≠ "")
    {cookie : SentCookie}
    (isCookie : cookie ∈ lines.flatten)
    (isName : cookie.name = settings.name) :
    settings.read headers = some value := by
  obtain ⟨found, isFound⟩ :=
    Option.isSome_iff_exists.mp (isSome_find? literal brings isCookie isName)
  unfold read
  rw [isFound, eq_of_find? literal brings isFound, Option.filter_some,
    if_pos (bne_iff_ne.mpr nonempty)]

end Reading

/-- A cookie without a value is read as none. -/
theorem read_of_brings_nothing
    (literal : SentCookie.IsLiteral settings.name "")
    (brings : headers.Brings settings.name "" lines) :
    settings.read headers = none := by
  unfold read
  cases isFound : Cookies.find? headers settings.name with
  | none => rfl
  | some found =>
      rw [eq_of_find? literal brings isFound]
      rfl

variable {host : Option String}
variable {now : Time}

/-- A cookie that can be dated is added, and its field begins with name and value. -/
theorem exists_field_of_datable
    {effect : CookieEffect}
    (nameIsText : IsText settings.name)
    (domainIsText : ∀ domain, settings.domain = some domain → IsText domain)
    (hostIsText : ∀ text, host = some text → IsText text)
    (valueIsText : IsText effect.value)
    (datable : settings.Datable now effect) :
    ∃ cookie rest, settings.cookieOf? host now effect = some cookie ∧
      ∀ response : Headers, (response.addCookie cookie).getAll "set-cookie" =
        response.getAll "set-cookie" ++
          [Text.Utf8.encode (settings.name ++ "=" ++ effect.value ++ ";" ++ rest)] := by
  obtain ⟨cookie, isCookie⟩ :=
    Option.isSome_iff_exists.mp
      ((settings.isSome_cookieOf?_iff host now effect).mpr datable)
  obtain ⟨isName, isValue, -, cookieIsText⟩ :=
    settings.isText_cookieOf? host now nameIsText domainIsText hostIsText valueIsText
      isCookie
  obtain ⟨rest, shape⟩ := cookie.exists_text_eq
  refine ⟨cookie, rest, isCookie, fun response => ?_⟩
  rw [getAll_addCookie, value?_eq_encode cookieIsText, shape, isName, isValue]
  rfl

variable (settings)
variable (host)
variable (now)

/-- The session cookie comes back. If its name is a token without percent signs, the
field that sets or clears a session begins with the name and the value. A later request
that brings the value is read as the value, and one in which the cookie is empty or
missing as none, whatever other cookies it brings. -/
theorem cookie_comes_back
    (named : settings.name ≠ "")
    (nameIsToken : ∀ char ∈ settings.name.toList,
      Text.isTokenChar char = true ∧ char ≠ '%')
    (domainIsText : ∀ domain, settings.domain = some domain → IsText domain)
    (hostIsText : ∀ text, host = some text → IsText text)
    (sealer : Sealer)
    (nonce : Crypto.Gcm.Nonce)
    (session : Session)
    (issued : Time) :
    let value := sealer.issue nonce session issued
    (∀ effect, effect = .set value ∨ effect = .clear → settings.Datable now effect →
      ∃ cookie rest, settings.cookieOf? host now effect = some cookie ∧
        ∀ response : Headers, (response.addCookie cookie).getAll "set-cookie" =
          response.getAll "set-cookie" ++
            [Text.Utf8.encode (settings.name ++ "=" ++ effect.value ++ ";" ++ rest)]) ∧
      (∀ (request : Headers) lines, request.Brings settings.name value lines →
        (∃ cookie ∈ lines.flatten, cookie.name = settings.name) →
          settings.read request = some value) ∧
      ∀ (request : Headers) lines, request.Brings settings.name "" lines →
        settings.read request = none := by
  intro value
  have nameIsPlain : ∀ char ∈ settings.name.toList, IsPlain char ∧ char ≠ '%' :=
    fun char present =>
      ⟨isPlain_of_isTokenChar (nameIsToken char present).1, (nameIsToken char present).2⟩
  have nameIsText : IsText settings.name :=
    isText_of_visible fun char present => (nameIsPlain char present).1.1
  obtain ⟨payload, timestamp, tagText, shape⟩ :=
    sealer.exists_issue_eq nonce session issued
  have valueIsText : IsText value := by
    rw [show value = _ from shape]
    exact isText_of_visible (visible_base64 _ _)
  have literal : SentCookie.IsLiteral settings.name value := by
    refine ⟨named, nameIsPlain, fun char present => ?_⟩
    rw [show value = _ from shape] at present
    exact isPlain_of_mem_base64 present
  have emptyLiteral : SentCookie.IsLiteral settings.name "" :=
    ⟨named, nameIsPlain, List.forall_mem_nil _⟩
  refine ⟨?_, ?_, ?_⟩
  · rintro effect (rfl | rfl) datable
    · exact exists_field_of_datable nameIsText domainIsText hostIsText valueIsText datable
    · exact exists_field_of_datable nameIsText domainIsText hostIsText
        isText_empty datable
  · rintro request lines brings ⟨cookie, isCookie, isName⟩
    exact read_of_brings literal brings (sealer.issue_ne_empty nonce session issued)
      isCookie isName
  · intro request lines brings
    exact read_of_brings_nothing emptyLiteral brings

/-- Cookies for a domain, which are kept for a week. -/
def weekly : CookieSettings :=
  ⟨"_lap", some "example.com", true, true, 604800⟩

/-- A sealer that does not encrypt. -/
def plainSealer : Sealer :=
  ⟨"_lap", ⟨Text.Utf8.encode "key", .sha256⟩, none⟩

/-- A session cookie of 2023 is set, and read back from behind another one. -/
theorem session_of_alice_comes_back :
    let value :=
      plainSealer.issue (Vector.replicate 12 0) (Session.ofUser "alice") 1700000000
    (∃ cookie, weekly.cookieOf? (some "app.example.com:8080") 1700000000 (.set value) =
        some cookie) ∧
      weekly.read ⟨[("cookie", Text.Utf8.encode
        (SentCookie.line [⟨"", "theme", "dark"⟩, ⟨" ", "_lap", value⟩]))]⟩ =
        some value := by
  intro value
  have hostIsText : ∀ text, some "app.example.com:8080" = some text → IsText text := by
    rintro _ ⟨⟩
    decide
  have domainIsText : ∀ domain, weekly.domain = some domain → IsText domain := by
    rintro _ ⟨⟩
    decide
  obtain ⟨written, isRead, -⟩ := cookie_comes_back weekly
    (some "app.example.com:8080") 1700000000
    (by decide) (List.all_iff_forall_prop.mp (by decide)) domainIsText
      hostIsText plainSealer
    (Vector.replicate 12 0) (Session.ofUser "alice") 1700000000
  obtain ⟨cookie, -, isCookie, -⟩ := written _ (Or.inl rfl) ⟨by decide, by decide⟩
  refine ⟨⟨cookie, isCookie⟩, isRead _ [[⟨"", "theme", "dark"⟩, ⟨" ", "_lap", value⟩]]
    ⟨rfl, ?_⟩ ⟨⟨" ", "_lap", value⟩, by simp, rfl⟩⟩
  intro other present
  rcases List.mem_cons.mp present with rfl | inRest
  · refine Or.inr ⟨⟨List.forall_mem_nil _, by decide,
      List.all_iff_forall_prop.mp (by decide),
      List.all_iff_forall_prop.mp (by decide)⟩, ?_⟩
    rw [Percent.decode_encode_of_notMem (by decide)]
    exact fun same => absurd (Text.Utf8.encode_injective same) (by decide)
  · cases List.mem_singleton.mp inRest
    exact Or.inl ⟨by decide, rfl, rfl⟩

end CookieSettings
end Gatehouse
