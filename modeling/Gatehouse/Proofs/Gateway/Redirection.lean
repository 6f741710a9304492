import Gatehouse.Proofs.Gateway.Mediation
import Gatehouse.Proofs.Http.FieldText
import Gatehouse.Proofs.Url.Reference

/-!
# Where a sign-in leads

A client that has signed in is sent to the destination it has given, if that begins with
exactly one slash. The client reads the destination as a reference: tabs in it do not
count, and a backslash is a slash. So a destination may begin with one slash and yet
name a server. All others lead back to the server at which the client has signed in,
whatever its address is.
-/

namespace Gatehouse

open Headers

/-! ## Destinations -/

/-- Whether one slash names a server: by a backslash, or a slash behind a tab. -/
def NamesServer (destination : String) : Prop :=
  ∃ tabs slash server, destination.toList = '/' :: (tabs ++ slash :: server) ∧
    (∀ char ∈ tabs, char = '\t') ∧ (slash = '\\' ∨ slash = '/' ∧ tabs ≠ [])

/-- A text that can stand in a field has no line ends. -/
theorem ne_lineEnd_of_isText
    {text : String}
    (isText : IsText text)
    {char : Char}
    (present : char ∈ text.toList) :
    char ≠ '\n' ∧ char ≠ '\r' := by
  obtain ⟨before, after, shape⟩ := List.append_of_mem present
  have parts :
      text = String.ofList before ++ (String.singleton char ++ String.ofList after) :=
    String.toList_inj.mp (by simp [shape])
  rw [parts, isText_append, isText_append] at isText
  have single := isText.2.1
  constructor
  · rintro rfl
    exact absurd single (by decide)
  · rintro rfl
    exact absurd single (by decide)

/-- What counts begins with a slash exactly if only tabs stand in front of it. -/
theorem begins_with_slash_iff
    {rest : List Char}
    (isText : IsText (String.ofList ('/' :: rest))) :
    (Url.significantBehind rest).head?.any Url.isSlash = true ↔
      ∃ tabs slash server, rest = tabs ++ slash :: server ∧ (∀ char ∈ tabs, char = '\t') ∧
        Url.isSlash slash = true := by
  constructor
  · intro begins
    cases isHead : (Url.significantBehind rest).head? with
    | none =>
        rw [isHead] at begins
        cases begins
    | some slash =>
        rw [isHead] at begins
        obtain ⟨more, shape⟩ := List.head?_eq_some_iff.mp isHead
        obtain ⟨tabs, behind, kept, skipped, -, -⟩ := List.filter_eq_cons_iff.mp shape
        have isFront : tabs ++ slash :: behind <+: rest := by
          rw [← kept]
          exact List.rdropWhile_prefix _ _
        obtain ⟨dropped, whole⟩ := isFront
        refine ⟨tabs, slash, behind ++ dropped, by simp [← whole], ?_, begins⟩
        intro char isSkipped
        have present : char ∈ (String.ofList ('/' :: rest)).toList := by
          rw [String.toList_ofList, ← whole]
          simp [isSkipped]
        obtain ⟨notFeed, notReturn⟩ := ne_lineEnd_of_isText isText present
        simpa [notFeed, notReturn] using skipped char isSkipped
  · rintro ⟨tabs, slash, server, rfl, areTabs, isSlash⟩
    rw [Url.significantBehind_tabs isSlash areTabs]
    exact isSlash

/-- A destination names a server exactly if what counts behind its slash begins with
one. -/
theorem namesServer_iff
    {rest : List Char}
    (single : rest.head? ≠ some '/')
    (isText : IsText (String.ofList ('/' :: rest))) :
    NamesServer (String.ofList ('/' :: rest)) ↔
      (Url.significantBehind rest).head?.any Url.isSlash = true := by
  rw [begins_with_slash_iff isText, NamesServer, String.toList_ofList]
  constructor
  · rintro ⟨tabs, slash, server, shape, areTabs, isSlash⟩
    refine ⟨tabs, slash, server, (List.cons.inj shape).2, areTabs, ?_⟩
    rcases isSlash with rfl | ⟨rfl, -⟩ <;> rfl
  · rintro ⟨tabs, slash, server, rfl, areTabs, isSlash⟩
    refine ⟨tabs, slash, server, rfl, areTabs, ?_⟩
    rcases (by simpa [Url.isSlash] using isSlash : slash = '/' ∨ slash = '\\')
      with rfl | rfl
    · refine .inr ⟨rfl, ?_⟩
      rintro rfl
      exact single rfl
    · exact .inl rfl

/-- A destination without exactly one slash in front is replaced, and names no server. -/
theorem localDestination_cases (destination : String) :
    (localDestination destination = destination ∧
        ∃ rest, destination = String.ofList ('/' :: rest) ∧ rest.head? ≠ some '/') ∨
      localDestination destination = "/" ∧ ¬ NamesServer destination := by
  unfold localDestination NamesServer
  split
  · rename_i rest shape
    refine .inr ⟨rfl, ?_⟩
    rintro ⟨tabs, slash, server, parts, areTabs, isSlash⟩
    rw [shape] at parts
    cases tabs with
    | nil =>
        obtain ⟨rfl, -⟩ : '/' = slash ∧ rest = server := by simpa using parts
        simp at isSlash
    | cons tab _ =>
        obtain ⟨rfl, -⟩ : '/' = tab ∧ _ := by simpa using parts
        exact absurd (areTabs _ List.mem_cons_self) (by decide)
  · rename_i rest notTwo shape
    refine .inl ⟨rfl, rest, String.ofList_toList.symm.trans (congrArg _ shape), ?_⟩
    intro isHead
    obtain ⟨more, rfl⟩ := List.head?_eq_some_iff.mp isHead
    exact notTwo more rfl
  · rename_i notSlash
    refine .inr ⟨rfl, ?_⟩
    rintro ⟨tabs, slash, server, parts, -⟩
    exact notSlash _ parts

/-! ## Locations -/

/-- The location of a redirection: the root, if the text cannot stand in a field. -/
def shownLocation (location : String) : String :=
  if IsText location then location else "/"

/-- A redirection shows its location. -/
theorem getAll_redirect (status : Nat) (location : String) :
    (Response.redirect status location).headers.getAll "location" =
      [Text.Utf8.encode (shownLocation location)] := by
  unfold Response.redirect shownLocation
  rw [getAll_insert_self]
  split_ifs with isText
  · rw [value?_eq_encode isText]
    rfl
  · rw [Option.not_isSome_iff_eq_none.mp isText]
    rfl

/-- Whether a location, read at an address of the web, stays on its server. -/
def StaysAt (location : String) (base : Url) : Prop :=
  ∃ url, Url.resolve base location = .ok url ∧ url.SameServer base

theorem staysAt_root (base : Url) : StaysAt "/" base :=
  ⟨_, Url.resolve_slash base [], rfl, rfl, rfl⟩

/-- The characters behind the slashes in front of a destination, as far as they count. -/
def namedServer (destination : String) : List Char :=
  (Url.significantBehind (destination.toList.drop 1)).dropWhile Url.isSlash

/-- A destination that names a server takes only the scheme from its base. -/
theorem resolve_of_namesServer
    {destination : String}
    (isText : IsText destination)
    (names : NamesServer destination)
    (base : Url) :
    Url.resolve base (shownLocation (localDestination destination)) =
      Url.afterSlashes base.scheme (namedServer destination) := by
  rcases localDestination_cases destination with
    ⟨same, rest, rfl, single⟩ | ⟨-, namesNone⟩
  · have reads := Url.resolve_slash base rest
    simp only [(namesServer_iff single isText).mp names, if_true] at reads
    rw [same, shownLocation, if_pos isText, reads, namedServer, String.toList_ofList]
    rfl
  · exact absurd names namesNone

/-- The address of the first page of a server. -/
def homePage (host : String) : Url :=
  ⟨"http", "", none, some (.domain host), none, "/", none, none⟩

/-- A location stays everywhere unless it is a destination that names a server. -/
theorem staysAt_all_iff (destination : String) :
    (∀ base : Url,
      base.IsWeb → StaysAt (shownLocation (localDestination destination)) base) ↔
      ¬ (IsText destination ∧ NamesServer destination) := by
  rcases localDestination_cases destination with
    ⟨same, rest, rfl, single⟩ | ⟨isRoot, namesNone⟩
  · rw [same, shownLocation]
    split_ifs with isText
    · rw [and_iff_right isText, namesServer_iff single isText]
      constructor
      · intro stays begins
        have reads := fun base => Url.resolve_slash base rest
        simp only [begins, if_true] at reads
        obtain ⟨first, readsFirst, -, firstHost, -⟩ := stays (homePage "a") (.inl rfl)
        obtain ⟨second, readsSecond, -, secondHost, -⟩ := stays (homePage "b") (.inl rfl)
        rw [reads] at readsFirst readsSecond
        have sameUrl : first = second := Except.ok.inj (readsFirst.symm.trans readsSecond)
        rw [← sameUrl, firstHost] at secondHost
        exact absurd secondHost (by decide)
      · intro noSlash base _
        have reads := Url.resolve_slash base rest
        simp only [if_neg noSlash] at reads
        exact ⟨_, reads, rfl, rfl, rfl⟩
    · exact ⟨fun _ both => isText both.1, fun _ base _ => staysAt_root base⟩
  · rw [isRoot]
    exact ⟨fun _ both => namesNone both.2, fun _ base _ => staysAt_root base⟩

/-! ## Signing in -/

namespace Gateway

variable (gateway : Gateway)
variable (around : Surroundings)
variable (request : Request)

/-- A request that has signed in is answered if the session cookie can be dated. -/
theorem exists_answer_of_signedIn
    {session : Session}
    (isSignIn : gateway.kindOf request = .signIn)
    (signedIn : gateway.signedIn? request = some session)
    (datable : gateway.cookies.Datable around.now
      (.set (gateway.engine.sealer.issue around.nonce session around.now))) :
    ∃ answer, gateway.answer? around request = some answer := by
  obtain ⟨-, settles⟩ :=
    gateway.observe_eq around request (gateway.authenticate around request)
  rw [← Option.isSome_iff_exists, ← gateway.observe_authenticate, settles.answers]
  unfold cookieEffects
  rw [isSignIn, signedIn]
  intro effect present
  rwa [List.mem_singleton.mp present]

/-- A request that has signed in is answered with a redirection to its destination. -/
theorem location_of_signedIn
    {session : Session}
    {answer : Answer}
    (isSignIn : gateway.kindOf request = .signIn)
    (signedIn : gateway.signedIn? request = some session)
    (answered : gateway.answer? around request = some answer) :
    answer.response.status = 302 ∧
      answer.response.headers.getAll "location" =
        [Text.Utf8.encode (shownLocation
          (localDestination (SignInForm.ofRequest request).destination))] := by
  have answer_eq : gateway.answer? around request =
      (gateway.signInAnswer? around request).map .uncached := by
    unfold answer? answerBy
    rw [isSignIn]
    rfl
  have welcomed : ∃ response attempt,
      gateway.welcome? around request session
          (localDestination (SignInForm.ofRequest request).destination) = some response ∧
        answer = Answer.uncached ⟨response, none, some attempt, none⟩ := by
    unfold signedIn? at signedIn
    rw [answer_eq] at answered
    unfold signInAnswer? at answered
    simp only at signedIn answered
    by_cases posted : request.method = "POST" ∧ (SignInForm.ofRequest request).user ≠ ""
    · rw [if_pos posted] at signedIn
      rw [if_neg (by simpa using posted)] at answered
      cases attempted : (gateway.signIn.attempt (SignInForm.ofRequest request).user
          (SignInForm.ofRequest request).password).outcome with
      | authenticated who =>
          rw [attempted] at signedIn answered
          cases signedIn
          rw [Option.map_map, Option.map_eq_some_iff] at answered
          obtain ⟨response, isResponse, rfl⟩ := answered
          exact ⟨response, _, isResponse, rfl⟩
      | failed =>
          rw [attempted] at signedIn
          cases signedIn
      | denied =>
          rw [attempted] at signedIn
          cases signedIn
    · rw [if_neg posted] at signedIn
      cases signedIn
  obtain ⟨response, attempt, isResponse, rfl⟩ := welcomed
  unfold welcome? at isResponse
  simp only [Option.bind_eq_bind, Option.bind_eq_some_iff,
    Option.some.injEq] at isResponse
  obtain ⟨cookie, -, rfl⟩ := isResponse
  refine ⟨rfl, ?_⟩
  unfold Answer.uncached Response.uncached Response.withoutCaching
  rw [getAll_insertText_other _ _ (by decide), getAll_insertText_other _ _ (by decide),
    getAll_insertText_other _ _ (by decide), getAll_addCookie_other _ _ (by decide),
    getAll_redirect]

/-- A sign-in leads back to the server at which the client has signed in, whatever its
address is, unless the destination can stand in a field and names a server. Then only
the scheme of that address has an influence on where it leads. -/
theorem redirection_stays_iff
    {session : Session}
    {answer : Answer}
    (isSignIn : gateway.kindOf request = .signIn)
    (signedIn : gateway.signedIn? request = some session)
    (answered : gateway.answer? around request = some answer) :
    let destination := (SignInForm.ofRequest request).destination
    let leaves := IsText destination ∧ NamesServer destination
    ∃ location : String,
      answer.response.status = 302 ∧
        answer.response.headers.getAll "location" = [Text.Utf8.encode location] ∧
        ((∀ base : Url, base.IsWeb → StaysAt location base) ↔ ¬ leaves) ∧
        (leaves → ∀ base : Url,
          Url.resolve base location =
            Url.afterSlashes base.scheme (namedServer destination)) := by
  intro destination leaves
  obtain ⟨status, location⟩ :=
    gateway.location_of_signedIn around request isSignIn signedIn answered
  exact ⟨_, status, location, staysAt_all_iff destination,
    fun ⟨isText, names⟩ base => resolve_of_namesServer isText names base⟩

/-- A request in which the user of `solitary` signs in to go to a destination. -/
def destinationRequest (destination : String) : Request :=
  { signInRequest with
    body := Text.Utf8.encode ("username=alice&password=secret&rd=" ++ destination) }

/-- The user of `solitary` signs in with the password. -/
theorem signedIn_of_solitary
    {request : Request}
    {destination : String}
    (isPost : request.method = "POST")
    (isForm : SignInForm.ofRequest request = ⟨"alice", "secret", destination⟩) :
    solitary.signedIn? request = some (Session.ofUser "alice") := by
  have attempted : (solitary.signIn.attempt "alice" "secret").outcome =
      .authenticated (Session.ofUser "alice") := by decide +kernel
  unfold signedIn?
  rw [isForm]
  simp only
  rw [if_pos ⟨isPost, by decide⟩, attempted]

theorem datable_of_solitary (value : String) :
    solitary.cookies.Datable nowhere.now (.set value) :=
  ⟨by decide,
    show Date.exists? (nowhere.now + solitary.cookies.lifetime) = true by decide⟩

/-- The user of `solitary` is sent to a page of the server. -/
theorem page_of_solitary_stays :
    ∃ answer location, solitary.answer? nowhere (destinationRequest "/mail?folder=1") =
      some answer ∧
      answer.response.headers.getAll "location" = [Text.Utf8.encode location] ∧
      ∀ base : Url, base.IsWeb → StaysAt location base := by
  have isForm : SignInForm.ofRequest (destinationRequest "/mail?folder=1") =
      ⟨"alice", "secret", String.ofList ('/' :: "mail?folder=1".toList)⟩ := by
    decide +kernel
  have isSignIn : solitary.kindOf (destinationRequest "/mail?folder=1") = .signIn := by
    decide +kernel
  have signedIn := signedIn_of_solitary rfl isForm
  obtain ⟨answer, answered⟩ :=
    solitary.exists_answer_of_signedIn nowhere _ isSignIn signedIn (datable_of_solitary _)
  obtain ⟨location, -, isLocation, stays, -⟩ :=
    redirection_stays_iff solitary nowhere _ isSignIn signedIn answered
  refine ⟨answer, location, answered, isLocation, stays.mpr ?_⟩
  rintro ⟨isText, names⟩
  rw [isForm] at isText names
  have begins := (namesServer_iff (by decide) isText).mp names
  exact absurd begins (by decide +kernel)

/-- A destination with a backslash behind its slash is on another server. -/
theorem backslash_leads_elsewhere :
    ∃ answer, solitary.answer? nowhere (destinationRequest "/%5Cevil.example/") =
      some answer ∧
      answer.response.headers.getAll "location" = [Text.Utf8.encode "/\\evil.example/"] ∧
      ∃ base url, (Url.ofText "http://proxy.example/").toOption = some base ∧
        (Url.resolve base "/\\evil.example/").toOption = some url ∧
        url.host = some (.domain "evil.example") ∧ ¬ url.SameServer base := by
  have isForm : SignInForm.ofRequest (destinationRequest "/%5Cevil.example/") =
      ⟨"alice", "secret", "/\\evil.example/"⟩ := by
    decide +kernel
  have isSignIn : solitary.kindOf (destinationRequest "/%5Cevil.example/") = .signIn := by
    decide +kernel
  have signedIn := signedIn_of_solitary rfl isForm
  obtain ⟨answer, answered⟩ :=
    solitary.exists_answer_of_signedIn nowhere _ isSignIn signedIn (datable_of_solitary _)
  obtain ⟨-, isLocation⟩ :=
    solitary.location_of_signedIn nowhere _ isSignIn signedIn answered
  have isShown :
      shownLocation (localDestination "/\\evil.example/") = "/\\evil.example/" := by
    decide +kernel
  rw [isForm, isShown] at isLocation
  refine ⟨answer, answered, isLocation, homePage "proxy.example", homePage "evil.example",
    by decide +kernel, by decide +kernel, rfl, ?_⟩
  rintro ⟨-, sameHost, -⟩
  exact absurd sameHost (by decide)

end Gateway

end Gatehouse
