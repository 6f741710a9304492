import Gatehouse.Proofs.Text.Decimal
import Gatehouse.Proofs.Url.Path
import Mathlib.Data.Bool.AllAny
import Mathlib.Tactic.Common

/-!
# Reading the server of an address again

An address with a special scheme that has been read is written with a user, a password, a
host and a port in their encoded form. Read again, in front of any path, they give the
same user, password, host and port. For the host this is a law of its own; here it is what
`Host.Rereads` says.
-/

namespace Gatehouse

open Text

namespace Url

/-- Whether a character may stand in the server of an address: visible, and not its
end. -/
def IsServerChar (char : Char) : Prop :=
  0x20 < char.toNat ∧ char ≠ '/' ∧ char ≠ '\\' ∧ char ≠ '?' ∧ char ≠ '#'

instance (char : Char) : Decidable (IsServerChar char) :=
  inferInstanceAs (Decidable (_ ∧ _))

end Url

/-- Whether a host is read again from its text, before a port or nothing. -/
structure Host.Rereads (host : Host) : Prop where
  reads : Host.ofSpecial host.text.toList = .ok host
  nonempty : host.text.toList ≠ []
  chars : ∀ char ∈ host.text.toList, Url.IsServerChar char ∧ char ≠ '@'
  splits : ∀ after, (after = [] ∨ after.head? = some ':') →
    Url.splitHost false (host.text.toList ++ after) = (host.text.toList, after)

namespace Url

/-- A visible character that does not divide a server may stand in it. -/
theorem isServerChar_of_kind
    {isOfKind : Char → Prop}
    {char : Char}
    (own : isOfKind char)
    (visible : 0x20 < char.toNat)
    (noSigns : ∀ sign ∈ ['/', '\\', '?', '#', '@'], ¬ isOfKind sign) :
    IsServerChar char ∧ char ≠ '@' := by
  have notSign : ∀ sign ∈ ['/', '\\', '?', '#', '@'], char ≠ sign := by
    rintro sign isSign rfl
    exact noSigns char isSign own
  exact ⟨⟨visible, notSign _ (by decide), notSign _ (by decide), notSign _ (by decide),
    notSign _ (by decide)⟩, notSign _ (by decide)⟩

theorem isServerChar_of_isDigit
    {char : Char}
    (digit : isDigit char = true) :
    IsServerChar char ∧ char ≠ '@' := by
  have lower := ((isDigit_iff_toNat char).mp digit).1
  exact @isServerChar_of_kind (isDigit · = true) char digit (by omega)
    (List.all_iff_forall_prop.mp (by decide))

/-- What holds of an address with a special scheme that has been read. -/
structure WellRead (url : Url) : Prop where
  special : schemeKind url.scheme = .special
  username :
    ∃ chars, url.username = String.ofList (Percent.encode Percent.inUserinfo chars)
  password : ∀ password, url.password = some password →
    ∃ chars, chars ≠ [] ∧ password = String.ofList
      (Percent.encode Percent.inUserinfo chars)
  host : ∃ host chars, url.host = some host ∧ Host.ofSpecial chars = .ok host
  port : ∀ port, url.port = some port → port ≤ 65535 ∧ some port ≠ defaultPort? url.scheme

/-- The user and the password of an address are encoded, and the password is not empty. -/
theorem wellRead_userinfo
    {authority after : List Char}
    {info : Userinfo}
    (read : splitUserinfo authority after = .ok info) :
    (∃ chars, info.username = String.ofList (Percent.encode Percent.inUserinfo chars)) ∧
      ∀ password, info.password = some password →
        ∃ chars, chars ≠ [] ∧
          password = String.ofList (Percent.encode Percent.inUserinfo chars) := by
  unfold splitUserinfo at read
  split at read
  · cases read
    exact ⟨⟨[], rfl⟩, nofun⟩
  · split at read
    · cases read
    · cases read
      exact ⟨⟨[], rfl⟩, nofun⟩
  · simp only at read
    split at read
    · cases read
      exact ⟨⟨_, rfl⟩, nofun⟩
    · cases read
      exact ⟨⟨_, rfl⟩, nofun⟩
    · rename_i user password isNonempty _
      cases read
      refine ⟨⟨user, rfl⟩, ?_⟩
      rintro _ ⟨⟩
      exact ⟨password, isNonempty, rfl⟩

/-- A port is a number of sixteen bits that the scheme does not imply. -/
theorem wellRead_port
    {scheme : String}
    {chars : List Char}
    {port : Nat}
    (read : readPort scheme chars = .ok (some port)) :
    port ≤ 65535 ∧ some port ≠ defaultPort? scheme := by
  unfold readPort at read
  split at read
  · cases read
  · split at read
    · rename_i value _
      split at read
      · cases read
      · rename_i inRange
        rw [Except.ok.injEq] at read
        split at read
        · cases read
        · rename_i notImplied
          rw [← Option.some.inj read]
          exact ⟨Nat.not_lt.mp inRange, notImplied⟩
    · cases read
  · cases read

/-- What is read behind the slashes of a scheme is well read, and of this scheme. -/
theorem wellRead_of_afterSlashes
    {scheme : String}
    {chars : List Char}
    {url : Url}
    (special : schemeKind scheme = .special)
    (read : afterSlashes scheme chars = .ok url) :
    url.WellRead ∧ url.scheme = scheme := by
  unfold afterSlashes at read
  simp only [special, bind, Except.bind, pure, Except.pure, true_or, if_true] at read
  split at read
  · cases read
  rename_i info isInfo
  split at read
  · cases read
  split at read
  · cases read
  rename_i host isHost
  split at read
  · cases read
  rename_i port isPort
  cases read
  obtain ⟨username, password⟩ := wellRead_userinfo isInfo
  refine ⟨⟨special, username, password, ⟨host, _, rfl, isHost⟩, ?_⟩, rfl⟩
  rintro number rfl
  exact wellRead_port isPort

/-- A character that stands for itself may stand in a user or a password. -/
theorem isServerChar_of_isLiteral
    {char : Char}
    (isLiteral : Percent.IsLiteral Percent.inUserinfo char) :
    IsServerChar char ∧ char ≠ '@' ∧ char ≠ ':' := by
  have blanks : ∀ code ≤ 0x20, Percent.inUserinfo (UInt8.ofNat code) = true := by decide
  have visible : 0x20 < char.toNat := by
    by_contra blank
    have isIn := blanks char.toNat (Nat.not_lt.mp blank)
    rw [isLiteral.2] at isIn
    cases isIn
  have isServer := @isServerChar_of_kind (Percent.IsLiteral Percent.inUserinfo) char
    isLiteral visible (List.all_iff_forall_prop.mp (by decide))
  refine ⟨isServer.1, isServer.2, ?_⟩
  rintro rfl
  exact absurd isLiteral (by decide)

/-- An encoded user in front of a server is read as it is. -/
theorem splitUserinfo_user
    {user server : List Char}
    (nonempty : user ≠ [])
    (unseparated : ':' ∉ user)
    (encoded : Percent.encode Percent.inUserinfo user = user)
    (undivided : '@' ∉ server)
    (after : List Char) :
    splitUserinfo (user ++ '@' :: server) after =
      .ok ⟨String.ofList user, none, server⟩ := by
  obtain ⟨first, rest, isCons⟩ := List.exists_cons_of_ne_nil nonempty
  unfold splitUserinfo
  rw [splitLast?_append _ undivided]
  simp only [isCons]
  rw [← isCons, splitFirst?_of_notMem unseparated]
  simp only [encoded]

/-- An encoded user and password in front of a server are read as they are. -/
theorem splitUserinfo_password
    {user password server : List Char}
    (nonempty : password ≠ [])
    (unseparated : ':' ∉ user)
    (userEncoded : Percent.encode Percent.inUserinfo user = user)
    (passwordEncoded : Percent.encode Percent.inUserinfo password = password)
    (undivided : '@' ∉ server)
    (after : List Char) :
    splitUserinfo ((user ++ ':' :: password) ++ '@' :: server) after =
      .ok ⟨String.ofList user, some (String.ofList password), server⟩ := by
  have infoNonempty : user ++ ':' :: password ≠ [] := by simp
  obtain ⟨first, rest, isCons⟩ := List.exists_cons_of_ne_nil infoNonempty
  obtain ⟨firstOfPassword, restOfPassword, passwordIsCons⟩ :=
    List.exists_cons_of_ne_nil nonempty
  unfold splitUserinfo
  rw [splitLast?_append _ undivided]
  simp only [isCons]
  rw [← isCons, splitFirst?_append unseparated]
  simp only [passwordIsCons]
  rw [← passwordIsCons]
  simp only [userEncoded, passwordEncoded]

theorem WellRead.encoded_username
    {url : Url}
    (wellRead : url.WellRead) :
    Percent.encode Percent.inUserinfo url.username.toList = url.username.toList := by
  obtain ⟨chars, isUser⟩ := wellRead.username
  rw [isUser, String.toList_ofList, Percent.encode_encode Percent.proper_inUserinfo]

/-- The characters of an encoded user or password divide nothing in a server. -/
theorem isServerChar_of_encoded
    {chars : List Char}
    (encoded : Percent.encode Percent.inUserinfo chars = chars)
    {char : Char}
    (present : char ∈ chars) :
    IsServerChar char ∧ char ≠ '@' ∧ char ≠ ':' :=
  isServerChar_of_isLiteral
    ((Percent.encode_eq_self_iff Percent.proper_inUserinfo chars).mp encoded char present)

/-- The password of an address that has been read is encoded and not empty. -/
theorem WellRead.encoded_password
    {url : Url}
    (wellRead : url.WellRead)
    {password : String}
    (hasPassword : url.password = some password) :
    Percent.encode Percent.inUserinfo password.toList = password.toList ∧
    password.toList ≠ [] := by
  obtain ⟨chars, nonempty, isPassword⟩ := wellRead.password password hasPassword
  rw [isPassword, String.toList_ofList]
  exact ⟨Percent.encode_encode Percent.proper_inUserinfo chars,
    mt (Percent.encode_eq_nil_iff chars).mp nonempty⟩

/-- The user and the password of an address are read again in front of a server. -/
theorem splitUserinfo_userinfo
    {url : Url}
    (wellRead : url.WellRead)
    {server : List Char}
    (undivided : '@' ∉ server)
    (after : List Char) :
    splitUserinfo (url.userinfo.toList ++ server) after =
      .ok ⟨url.username, url.password, server⟩ := by
  have encoded := wellRead.encoded_username
  have unseparated : ':' ∉ url.username.toList := fun present =>
    (isServerChar_of_encoded encoded present).2.2 rfl
  unfold userinfo
  by_cases nobody : url.username = "" ∧ url.password = none
  · obtain ⟨noUser, noPassword⟩ := nobody
    rw [if_pos ⟨noUser, noPassword⟩, noUser, noPassword]
    unfold splitUserinfo
    rw [String.toList_empty, List.nil_append, splitLast?_eq_none_iff.mpr undivided]
  · rw [if_neg nobody]
    cases hasPassword : url.password with
    | none =>
        have named : url.username.toList ≠ [] := by
          intro nothing
          exact nobody ⟨String.toList_eq_nil_iff.mp nothing, hasPassword⟩
        have shape : (url.username ++ "" ++ "@").toList ++ server =
            url.username.toList ++ '@' :: server := by
          simp
        simp only [shape]
        rw [splitUserinfo_user named unseparated encoded undivided, String.ofList_toList]
    | some password =>
        obtain ⟨passwordEncoded, nonempty⟩ := wellRead.encoded_password hasPassword
        have shape : (url.username ++ (":" ++ password) ++ "@").toList ++ server =
            (url.username.toList ++ ':' :: password.toList) ++ '@' :: server := by
          simp
        simp only [shape]
        rw [splitUserinfo_password nonempty unseparated encoded passwordEncoded undivided,
          String.ofList_toList, String.ofList_toList]

/-- The characters of an address's user and password may stand in a server. -/
theorem isServerChar_of_mem_userinfo
    {url : Url}
    (wellRead : url.WellRead)
    {char : Char}
    (present : char ∈ url.userinfo.toList) :
    IsServerChar char := by
  unfold userinfo at present
  split at present
  · cases present
  · simp only [String.toList_append, List.mem_append] at present
    rcases present with (inUser | inPassword) | isAt
    · exact (isServerChar_of_encoded wellRead.encoded_username inUser).1
    · split at inPassword
      · rename_i password hasPassword
        rw [String.toList_append, List.mem_append] at inPassword
        rcases inPassword with isColon | inPassword
        · rw [List.mem_singleton.mp isColon]
          decide
        · exact (isServerChar_of_encoded (wellRead.encoded_password hasPassword).1
            inPassword).1
      · cases inPassword
    · rw [List.mem_singleton.mp isAt]
      decide

/-- The port of an address, as it is written behind the host. -/
def portText (url : Url) : String :=
  match url.port with
  | some port => ":" ++ Decimal.natural port
  | none => ""

/-- The port of an address that has been read is read again. -/
theorem readPort_portText
    {url : Url}
    (wellRead : url.WellRead) :
    readPort url.scheme url.portText.toList = .ok url.port := by
  unfold portText
  cases hasPort : url.port with
  | none => rfl
  | some port =>
      obtain ⟨inRange, notImplied⟩ := wellRead.port port hasPort
      have shape :
          (":" ++ Decimal.natural port).toList = ':' :: Nat.toDigits 10 port := by
        simp [Decimal.natural]
      obtain ⟨first, rest, isCons⟩ :=
        List.exists_cons_of_ne_nil (Nat.toDigits_ne_nil (n := port) (b := 10))
      simp only [shape, isCons]
      unfold readPort
      simp only
      rw [← isCons, Decimal.digits?_toDigits]
      simp only
      rw [if_neg (Nat.not_lt.mpr inRange), if_neg notImplied]

/-- A written port is nothing, or a colon and digits. -/
theorem portText_shape (url : Url) :
    (url.portText.toList = [] ∨ url.portText.toList.head? = some ':') ∧
      ∀ char ∈ url.portText.toList, IsServerChar char ∧ char ≠ '@' := by
  unfold portText
  cases url.port with
  | none => exact ⟨Or.inl rfl, nofun⟩
  | some port =>
      have shape :
          (":" ++ Decimal.natural port).toList = ':' :: Nat.toDigits 10 port := by
        simp [Decimal.natural]
      simp only [shape]
      refine ⟨Or.inr rfl, fun char present => ?_⟩
      rcases List.mem_cons.mp present with rfl | isDigit
      · decide
      · exact isServerChar_of_isDigit (Decimal.isDigit_of_mem_toDigits isDigit)

/-- A character that begins neither a query nor a fragment stands in front of both. -/
theorem splitTail_cons
    {char : Char}
    (notHash : char ≠ '#')
    (notMark : char ≠ '?')
    (rest : List Char) :
    splitTail (char :: rest) =
      ⟨char :: (splitTail rest).front, (splitTail rest).query,
        (splitTail rest).fragment⟩ := by
  unfold splitTail
  rw [splitFirst?_cons_of_ne notHash]
  cases splitFirst? ['#'] rest with
  | none =>
      simp only [Option.map_none]
      rw [splitFirst?_cons_of_ne notMark]
      cases splitFirst? ['?'] rest <;> rfl
  | some parts =>
      simp only [Option.map_some]
      rw [splitFirst?_cons_of_ne notMark]
      cases splitFirst? ['?'] parts.1 <;> rfl

theorem splitTail_slash (rest : List Char) :
    splitTail ('/' :: rest) =
      ⟨'/' :: (splitTail rest).front, (splitTail rest).query,
        (splitTail rest).fragment⟩ :=
  splitTail_cons (by decide) (by decide) rest

/-- The host and the port of an address are written one behind the other. -/
theorem toList_hostAndPort
    {url : Url}
    {host : Host}
    (isHost : url.host = some host) :
    url.hostAndPort.toList = host.text.toList ++ url.portText.toList := by
  unfold hostAndPort portText
  cases url.port with
  | none => simp only [isHost, String.toList_append]
  | some port => simp only [isHost, String.toList_append]

/-- The characters of the server of an address that has been read do not end it. -/
theorem isServerChar_of_mem_server
    {url : Url}
    {host : Host}
    (wellRead : url.WellRead)
    (isHost : url.host = some host)
    (rereads : host.Rereads)
    {char : Char}
    (present : char ∈ url.userinfo.toList ++ url.hostAndPort.toList) :
    IsServerChar char := by
  rcases List.mem_append.mp present with inUserinfo | inServer
  · exact isServerChar_of_mem_userinfo wellRead inUserinfo
  · rw [toList_hostAndPort isHost] at inServer
    rcases List.mem_append.mp inServer with inHost | inPort
    · exact (rereads.chars char inHost).1
    · exact ((portText_shape url).2 char inPort).1

/-- The server of an address is read again in front of anything that ends a server. -/
theorem afterSlashes_server_append
    {url : Url}
    {host : Host}
    (wellRead : url.WellRead)
    (isHost : url.host = some host)
    (rereads : host.Rereads)
    {after : List Char}
    (ends : ∀ char, after.head? = some char → endsAuthority .special char = true) :
    afterSlashes url.scheme (url.userinfo.toList ++ url.hostAndPort.toList ++ after) =
      .ok { url with
            path := if (splitTail after).front.isEmpty then "/"
              else pathFrom .special [] ((splitTail after).front.drop 1)
            query := encodeQuery .special (splitTail after).query
            fragment := encodeFragment (splitTail after).fragment } := by
  have goesOn : ∀ char ∈ url.userinfo.toList ++ url.hostAndPort.toList,
      (!endsAuthority .special char) = true := by
    intro char present
    obtain ⟨-, notSlash, notBackslash, notMark, notHash⟩ :=
      isServerChar_of_mem_server wellRead isHost rereads present
    simp [endsAuthority, notSlash, notBackslash, notMark, notHash]
  have authority : (url.userinfo.toList ++ url.hostAndPort.toList ++ after).takeWhile
        (fun char => !endsAuthority .special char) =
      url.userinfo.toList ++ url.hostAndPort.toList := by
    apply takeWhile_append_of_stop goesOn
    intro char isHead
    rw [ends char isHead]
    rfl
  have undivided : '@' ∉ url.hostAndPort.toList := by
    rw [toList_hostAndPort isHost]
    intro present
    rcases List.mem_append.mp present with inHost | inPort
    · exact (rereads.chars _ inHost).2 rfl
    · exact ((portText_shape url).2 _ inPort).2 rfl
  have hostNonempty : host.text.toList.isEmpty = false := by
    simpa using rereads.nonempty
  have hostSplit : splitHost false url.hostAndPort.toList =
      (host.text.toList, url.portText.toList) := by
    rw [toList_hostAndPort isHost]
    exact rereads.splits _ (portText_shape url).1
  unfold afterSlashes
  simp only [wellRead.special, authority, List.drop_left,
    splitUserinfo_userinfo wellRead undivided, hostSplit, hostNonempty, rereads.reads,
    readPort_portText wellRead, bind, Except.bind, pure, Except.pure, Bool.false_eq_true,
    if_true, if_false, ← isHost]

end Url
end Gatehouse
