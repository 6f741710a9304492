import Gatehouse.Proofs.Auth.SignInDecision
import Gatehouse.Proofs.Gateway.Controls
import Gatehouse.Proofs.Gateway.CookieDates
import Gatehouse.Proofs.Http.Form

/-!
# Back to the requested page

A client that is refused gets the sign-in page. The form of that page carries what the
client has asked for, and when it is posted with a user and a password that are right,
the client is sent there: through the escapes of the page, those of the form, and the
field of the response, not one character is changed. There are two exceptions. The path
of the sign-in page itself is replaced by the root; a client can only be refused there
if that path contains a question mark. And a form that is too large is not read at all:
its sender is shown the sign-in page again.
-/

namespace Gatehouse

open Headers

/-! ## Destinations -/

/-- A visible path and query behind exactly one slash. -/
def IsLocalPage (text : String) : Prop :=
  (∃ rest, text.toList = '/' :: rest ∧ rest.head? ≠ some '/') ∧
    ∀ char ∈ text.toList, 0x21 ≤ char.toNat ∧ char.toNat ≤ 0x7E

theorem isLocalPage_root : IsLocalPage "/" :=
  ⟨⟨[], rfl, nofun⟩, List.all_iff_forall_prop.mp (by decide)⟩

namespace IsLocalPage

variable {text : String}

theorem ne_empty (isPage : IsLocalPage text) : text ≠ "" := by
  rintro rfl
  obtain ⟨⟨rest, shape, -⟩, -⟩ := isPage
  cases shape

/-- A page is a destination on this server. -/
theorem localDestination_eq (isPage : IsLocalPage text) :
    localDestination text = text := by
  obtain ⟨⟨rest, shape, single⟩, -⟩ := isPage
  unfold localDestination
  split
  · next others twice =>
      rw [shape] at twice
      cases twice
      exact absurd rfl single
  · rfl
  · next notSlash => exact absurd shape (notSlash rest)

theorem shownLocation_eq (isPage : IsLocalPage text) : shownLocation text = text := by
  refine if_pos (isText_of_visible fun char present => Or.inr ?_)
  have visible := isPage.2 char present
  omega

end IsLocalPage

/-! ## Posting a form -/

/-- Whether a request posts fields to a path as a form. -/
structure Request.Posts
    (request : Request)
    (path : String)
    (fields : List (String × String)) : Prop where
  method : request.method = "POST"
  path : request.path = path
  declared : ∃ declared, request.headers.firstText? "content-type" = some declared ∧
    Text.startsWith Form.mediaType declared = true
  body : request.body = Form.write fields

/-- The fields that are posted are read, unless they take too much space. -/
theorem Request.Posts.ofRequest?_eq
    {request : Request}
    {path : String}
    {fields : List (String × String)}
    (posts : request.Posts path fields) :
    Form.ofRequest? request =
      if request.body.length ≤ Form.maxBodySize then some fields else none := by
  have notRetrieval : request.isRetrieval = false := by
    unfold Request.isRetrieval
    rw [posts.method]
    decide
  obtain ⟨declared, isDeclared, isForm⟩ := posts.declared
  unfold Form.ofRequest?
  rw [notRetrieval, isDeclared]
  simp only [isForm, Bool.true_and, decide_eq_true_eq, Bool.false_eq_true, if_false]
  rw [posts.body, Form.fields_write]

namespace SignInForm

variable {request : Request}
variable {path user password destination : String}

/-- The form that is posted with a user, a password and a destination. -/
theorem ofRequest_of_posts
    (posts : request.Posts path
      [(destinationField, destination), ("username", user), ("password", password)])
    (small : request.body.length ≤ Form.maxBodySize)
    (led : destination ≠ "") :
    ofRequest request = ⟨user, password, destination⟩ := by
  have read :
      (Form.ofRequest? request).bind ofFields? = some ⟨user, password, destination⟩ := by
    rw [posts.ofRequest?_eq, if_pos small]
    rfl
  unfold ofRequest
  simp only [read, Option.getD_some, if_neg led]

/-- A form that takes too much space names no user. -/
theorem user_of_large
    {fields : List (String × String)}
    (posts : request.Posts path fields)
    (large : Form.maxBodySize < request.body.length) :
    (ofRequest request).user = "" := by
  have unread : (Form.ofRequest? request).bind ofFields? = none := by
    rw [posts.ofRequest?_eq, if_neg (Nat.not_le.mpr large)]
    rfl
  unfold ofRequest
  simp only [unread, Option.getD_none]
  split
  · rfl
  · rfl

end SignInForm

namespace Gateway

variable (gateway : Gateway)
variable (around : Surroundings)
variable (request : Request)

/-- There is an answer if all cookies that the proxy sets can be dated. -/
theorem exists_answer_of_datable
    (datable : ∀ effect ∈
      gateway.cookieEffects around request (gateway.authenticate around request),
      gateway.cookies.Datable around.now effect) :
    ∃ answer, gateway.answer? around request = some answer := by
  rw [← Option.ne_none_iff_exists', ne_eq, answer?_eq_none_iff]
  rintro ⟨effect, present, undated⟩
  exact undated (datable effect present)

variable {gateway}
variable {around}
variable {request}

/-- A request that is rejected before a mount is shown the page with its destination. -/
theorem exists_page_of_rejected
    (proxied : gateway.kindOf request = .proxy)
    (rejected : (gateway.authenticate around request).decision = .reject)
    (datable : gateway.cookies.Datable around.now .clear) :
    ∃ answer, gateway.answer? around request = some answer ∧
      answer.response.status = 403 ∧
      answer.response.body =
        Text.Utf8.encode
          (gateway.pages.signIn (gateway.destinationOf request) false) := by
  obtain ⟨refused, -, effects⟩ :=
    gateway.observe_of_rejected around request _ proxied rejected
  obtain ⟨answer, answered⟩ := gateway.exists_answer_of_datable around request <| by
    rw [effects]
    intro effect present
    rwa [List.mem_singleton.mp present]
  rw [observe_authenticate, answered] at refused
  refine ⟨answer, answered, gateway.status_of_refusal? around request refused.symm, ?_⟩
  obtain ⟨response, isPage, rfl⟩ := Option.map_eq_some_iff.mp refused.symm
  rw [signInPage?_eq] at isPage
  obtain ⟨headers, -, rfl⟩ := Option.map_eq_some_iff.mp isPage
  rfl

/-- A request for the sign-in page that names no user is answered with the page. -/
theorem status_of_anonymous
    {answer : Answer}
    (isSignIn : gateway.kindOf request = .signIn)
    (anonymous : (SignInForm.ofRequest request).user = "")
    (answered : gateway.answer? around request = some answer) :
    answer.response.status = 200 := by
  have shown :
      (request.method != "POST" || (SignInForm.ofRequest request).user == "") = true := by
    rw [anonymous, beq_self_eq_true, Bool.or_true]
  unfold answer? answerBy at answered
  rw [isSignIn] at answered
  obtain ⟨plain, isPlain, rfl⟩ := Option.map_eq_some_iff.mp answered
  unfold signInAnswer? at isPlain
  simp only [shown, if_true] at isPlain
  obtain ⟨page, isPage, rfl⟩ := Option.map_eq_some_iff.mp isPlain
  rw [signInPage?_eq] at isPage
  obtain ⟨headers, -, rfl⟩ := Option.map_eq_some_iff.mp isPage
  rfl

/-- A request for the page without a user is answered if its cookie can be dated. -/
theorem exists_answer_of_anonymous
    (isSignIn : gateway.kindOf request = .signIn)
    (anonymous : (SignInForm.ofRequest request).user = "")
    (datable : gateway.cookies.Datable around.now .clear) :
    ∃ answer, gateway.answer? around request = some answer := by
  have notSignedIn : gateway.signedIn? request = none :=
    if_neg fun posted => posted.2 anonymous
  refine gateway.exists_answer_of_datable around request fun effect present => ?_
  unfold cookieEffects at present
  rw [isSignIn, notSignedIn] at present
  rwa [List.mem_singleton.mp present]

/-- A rejected request is for the sign-in path only behind a question mark in the
prefix. -/
theorem questionMark_of_asks_signIn
    {start : String}
    (paths : gateway.paths = SystemPaths.under start)
    (proxied : gateway.kindOf request = .proxy)
    (asks : request.target.pathAndQuery = gateway.paths.signIn) :
    '?' ∈ start.toList := by
  by_contra absent
  have noMark : '?' ∉ gateway.paths.signIn.toList := by
    rw [paths, SystemPaths.under, String.toList_append, String.toList_ofList,
      List.mem_append]
    rintro (inStart | inEnding)
    · have present := (List.dropWhile_suffix _).subset (List.mem_reverse.mp inStart)
      exact absent (List.mem_reverse.mp present)
    · exact absurd inEnding (by decide)
  have long : "/sign_in".toList.length ≤ gateway.paths.signIn.toList.length := by
    rw [paths, SystemPaths.under, String.toList_append, List.length_append]
    exact Nat.le_add_left _ _
  have notShort : ∀ short ∈ ["/", ""], gateway.paths.signIn ≠ short := by
    have shorter :
        ∀ short ∈ ["/", ""], short.toList.length < "/sign_in".toList.length := by
      decide
    rintro short isShort same
    rw [same] at long
    exact absurd long (Nat.not_le.mpr (shorter short isShort))
  have notEmpty : gateway.paths.signIn ≠ "" := notShort "" (by simp)
  have written : request.target.written = gateway.paths.signIn := by
    unfold RequestTarget.pathAndQuery at asks
    split_ifs at asks
    · exact absurd asks.symm (notShort "/" (by simp))
    · exact asks
  have onPath : request.path = gateway.paths.signIn := by
    have pathChars : request.target.pathChars = gateway.paths.signIn.toList := by
      unfold RequestTarget.pathChars
      rw [written, List.takeWhile_eq_self_iff]
      intro char present
      rw [bne_iff_ne]
      rintro rfl
      exact noMark present
    unfold Request.path RequestTarget.path
    rw [pathChars, written, if_neg fun nothing => notEmpty nothing.1,
      String.ofList_toList, if_neg]
    simpa using notEmpty
  exact ((gateway.kindOf_eq_proxy_iff request).mp proxied).2.2.2.1 onPath

/-- The way back. A client that is rejected on its way to a page, and names no other
destination, is shown a form with that page. When it posts the form with a user and a
password that are right, it is sent to that very page, or to the root if it has asked
for the path of the sign-in page, which needs a question mark in the start of the paths.
A form that takes too much space leads to the sign-in page again. -/
theorem sign_in_leads_back
    {start : String}
    (paths : gateway.paths = SystemPaths.under start)
    (proxied : gateway.kindOf request = .proxy)
    (rejected : (gateway.authenticate around request).decision = .reject)
    (undirected : request.headers.nonEmptyText? redirectHeader = none)
    (isPage : IsLocalPage request.target.pathAndQuery)
    (datable : gateway.cookies.Datable around.now .clear) :
    let asked := request.target.pathAndQuery
    let shown := if asked = gateway.paths.signIn then "/" else asked
    (asked = gateway.paths.signIn → '?' ∈ start.toList) ∧
      ∃ answer page, gateway.answer? around request = some answer ∧
        answer.response.status = 403 ∧
        answer.response.body = Text.Utf8.encode page ∧
        Markup.controls page = [("rd", shown), ("username", ""), ("password", "")] ∧
        ∀ (later : Surroundings) (posting : Request) user password session,
          posting.Posts gateway.paths.signIn
            (Markup.fillIn [("username", user), ("password", password)]
              (Markup.controls page)) →
          gateway.whitelist.bypasses posting.method posting.path posting.headers
            posting.peer = false →
          user ≠ "" →
          (gateway.signIn.attempt user password).outcome = .authenticated session →
          (posting.body.length ≤ Form.maxBodySize →
            gateway.cookies.Datable later.now
              (.set (gateway.engine.sealer.issue later.nonce session later.now)) →
            ∃ welcome, gateway.answer? later posting = some welcome ∧
              welcome.response.status = 302 ∧
              welcome.response.headers.getAll "location" = [Text.Utf8.encode shown]) ∧
          (Form.maxBodySize < posting.body.length →
            gateway.cookies.Datable later.now .clear →
            ∃ again, gateway.answer? later posting = some again ∧
              again.response.status = 200) := by
  intro asked shown
  have isShown : gateway.destinationOf request = shown := by
    unfold destinationOf
    rw [undirected]
    rfl
  have shownIsPage : IsLocalPage shown := by
    change IsLocalPage (if asked = gateway.paths.signIn then "/" else asked)
    split_ifs
    · exact isLocalPage_root
    · exact isPage
  obtain ⟨answer, answered, status, body⟩ :=
    exists_page_of_rejected proxied rejected datable
  rw [isShown] at body
  have controls := gateway.pages.controls_signIn shown false
  refine ⟨questionMark_of_asks_signIn paths proxied, answer, _, answered, status,
    body, controls, ?_⟩
  intro later posting user password session posts notBypassed named authenticated
  rw [controls] at posts
  have isSignIn : gateway.kindOf posting = .signIn :=
    (kindOf_eq_signIn_iff paths posting).mpr ⟨posts.path, notBypassed⟩
  refine ⟨fun small datableLater => ?_, fun large datableLater => ?_⟩
  · have form : SignInForm.ofRequest posting = ⟨user, password, shown⟩ :=
      SignInForm.ofRequest_of_posts posts small shownIsPage.ne_empty
    have signedIn : gateway.signedIn? posting = some session := by
      unfold signedIn?
      simp only [form]
      rw [if_pos ⟨posts.method, named⟩, authenticated]
    obtain ⟨welcome, welcomed⟩ :=
      gateway.exists_answer_of_signedIn later posting isSignIn signedIn datableLater
    obtain ⟨found, location⟩ :=
      gateway.location_of_signedIn later posting isSignIn signedIn welcomed
    rw [form, shownIsPage.localDestination_eq, shownIsPage.shownLocation_eq] at location
    exact ⟨welcome, welcomed, found, location⟩
  · have anonymous := SignInForm.user_of_large posts large
    obtain ⟨again, shownAgain⟩ :=
      exists_answer_of_anonymous isSignIn anonymous datableLater
    exact ⟨again, shownAgain, status_of_anonymous isSignIn anonymous shownAgain⟩

/-- A request that posts fields to the path of the sign-in page of `solitary`. -/
def entryRequest (fields : List (String × String)) : Request :=
  ⟨"POST", ⟨none, none, "/oauth2/sign_in"⟩,
    ⟨[("content-type", Text.Utf8.encode Form.mediaType)]⟩, Form.write fields, none⟩

/-- Fields are posted as a form. -/
theorem posts_entryRequest (fields : List (String × String)) :
    (entryRequest fields).Posts solitary.paths.signIn fields where
  method := rfl
  path := by
    change RequestTarget.path ⟨none, none, "/oauth2/sign_in"⟩ = _
    decide
  declared := ⟨Form.mediaType, by
    change Headers.firstText? ⟨[("content-type", Text.Utf8.encode Form.mediaType)]⟩
      "content-type" = _
    decide, by decide⟩
  body := rfl

/-- A request for a page of `solitary`, with signs that pages and forms escape. -/
def searchRequest : Request :=
  ⟨"GET", ⟨none, none, "/mail/\"r&d\"?q=1+1%3D2"⟩, Headers.empty, [], none⟩

/-- A client that asks `solitary` for that page is not signed in. -/
theorem searchRequest_rejected :
    solitary.kindOf searchRequest = .proxy ∧
      (solitary.authenticate nowhere searchRequest).decision = .reject := by
  decide

/-- The user of `solitary` asks for that page, signs in, and is sent to it. -/
theorem search_is_resumed :
    RequestTarget.ofText? "/mail/\"r&d\"?q=1+1%3D2" = some searchRequest.target ∧
    ∃ answer page welcome, solitary.answer? nowhere searchRequest = some answer ∧
      answer.response.body = Text.Utf8.encode page ∧
      solitary.answer? nowhere (entryRequest (Markup.fillIn
        [("username", "alice"), ("password", "secret")] (Markup.controls page))) =
        some welcome ∧
      welcome.response.headers.getAll "location" =
        [Text.Utf8.encode "/mail/\"r&d\"?q=1+1%3D2"] := by
  obtain ⟨proxied, rejected⟩ := searchRequest_rejected
  have isPage : IsLocalPage searchRequest.target.pathAndQuery :=
    ⟨⟨"mail/\"r&d\"?q=1+1%3D2".toList, by decide, by decide⟩,
      List.all_iff_forall_prop.mp (by decide)⟩
  have datable : solitary.cookies.Datable nowhere.now .clear := ⟨by decide, by decide⟩
  obtain ⟨-, answer, page, answered, -, body, controls, leads⟩ :=
    sign_in_leads_back (show solitary.paths = SystemPaths.under "/oauth2" from rfl)
      proxied rejected (by decide) isPage datable
  have authenticated : (solitary.signIn.attempt "alice" "secret").outcome =
      .authenticated (Session.ofUser "alice") := by decide +kernel
  have posts := posts_entryRequest
    (Markup.fillIn [("username", "alice"), ("password", "secret")] (Markup.controls page))
  have small : (entryRequest (Markup.fillIn
      [("username", "alice"), ("password", "secret")]
      (Markup.controls page))).body.length ≤
        Form.maxBodySize := by
    rw [controls]
    decide
  obtain ⟨leadsBack, -⟩ :=
    leads nowhere _ "alice" "secret" _ posts rfl (by decide) authenticated
  obtain ⟨welcome, welcomed, -, location⟩ := leadsBack small (datable_of_solitary _)
  exact ⟨by decide, answer, page, welcome, answered, body, welcomed, location⟩

/-- The proxy `solitary` under a start that contains a question mark. -/
def markedStart : Gateway :=
  { solitary with paths := SystemPaths.under "/a?b", pages := ⟨"/a?b", "", ""⟩ }

/-- A request for what is written like the path of the sign-in page of `markedStart`. -/
def markedRequest : Request :=
  ⟨"GET", ⟨none, none, "/a?b/sign_in"⟩, Headers.empty, [], none⟩

/-- The proxy `solitary`, whose user has some password. -/
def withPassword (password : String) : Gateway :=
  { solitary with
    signIn :=
      ⟨some ⟨[("alice", .digest (Crypto.Sha1.digest (Text.Utf8.encode password)))]⟩,
        none, ⟨[]⟩⟩ }

/-- The user signs in with the password. -/
theorem authenticated_withPassword (password : String) :
    ((withPassword password).signIn.attempt "alice" password).outcome =
      .authenticated ⟨"alice", none⟩ := by
  refine (((withPassword password).signIn.decides_attempt "alice" password).local? ?_).1
  refine ⟨⟨[("alice", .digest (Crypto.Sha1.digest (Text.Utf8.encode password)))]⟩,
    rfl, ?_⟩
  unfold Htpasswd.accepts Htpasswd.find?
  rw [List.lookup_cons_self]
  exact beq_self_eq_true _

/-- A form with a password of the size that is read takes too much space. -/
theorem maxBodySize_lt_length_write
    {password : String}
    (long : Form.maxBodySize ≤ (Text.Utf8.encode password).length)
    (destination : String) :
    Form.maxBodySize < (Form.write
      [("rd", destination), ("username", "alice"), ("password", password)]).length := by
  have escaped := Form.length_le_escape password
  have shape :
      Form.write [("rd", destination), ("username", "alice"), ("password", password)] =
      Form.writeField ("rd", destination) ++
        0x26 :: (Form.writeField ("username", "alice") ++
        0x26 :: (Form.escape "password" ++ 0x3D :: Form.escape password)) := by
    simp [Form.write, Form.writeField, List.intercalate]
  rw [shape]
  simp only [List.length_append, List.length_cons]
  omega

/-- The right password leads to the sign-in page again if it takes too much space. -/
theorem long_password_is_not_read
    {password : String}
    (long : Form.maxBodySize ≤ (Text.Utf8.encode password).length) :
    ∃ answer page again, (withPassword password).kindOf searchRequest = .proxy ∧
      ((withPassword password).authenticate nowhere searchRequest).decision = .reject ∧
      (withPassword password).answer? nowhere searchRequest = some answer ∧
      answer.response.body = Text.Utf8.encode page ∧
      (withPassword password).answer? nowhere (entryRequest (Markup.fillIn
        [("username", "alice"), ("password", password)] (Markup.controls page))) =
        some again ∧
      again.response.status = 200 := by
  have datable : (withPassword password).cookies.Datable nowhere.now .clear :=
    show solitary.cookies.Datable nowhere.now .clear from ⟨by decide, by decide⟩
  have proxied : (withPassword password).kindOf searchRequest = .proxy := by
    rw [← searchRequest_rejected.1]
    unfold kindOf
    rfl
  have rejected :
      ((withPassword password).authenticate nowhere searchRequest).decision =
        .reject := by
    rw [← searchRequest_rejected.2]
    unfold authenticate
    rfl
  obtain ⟨answer, answered, -, body⟩ := exists_page_of_rejected proxied rejected datable
  have filled : Markup.fillIn [("username", "alice"), ("password", password)]
      (Markup.controls ((withPassword password).pages.signIn
        ((withPassword password).destinationOf searchRequest) false)) =
      [("rd", (withPassword password).destinationOf searchRequest), ("username", "alice"),
        ("password", password)] := by
    rw [Pages.controls_signIn]
    rfl
  have posts := posts_entryRequest
    [("rd", (withPassword password).destinationOf searchRequest), ("username", "alice"),
      ("password", password)]
  have isSignIn : (withPassword password).kindOf (entryRequest
      [("rd", (withPassword password).destinationOf searchRequest), ("username", "alice"),
        ("password", password)]) = .signIn := by
    have paths : (withPassword password).paths = SystemPaths.under "/oauth2" := rfl
    exact (kindOf_eq_signIn_iff paths _).mpr ⟨posts.path, rfl⟩
  have large :=
    maxBodySize_lt_length_write long ((withPassword password).destinationOf searchRequest)
  rw [← posts.body] at large
  have anonymous := SignInForm.user_of_large posts large
  obtain ⟨again, shownAgain⟩ := exists_answer_of_anonymous isSignIn anonymous datable
  refine ⟨answer, _, again, proxied, rejected, answered, body, ?_,
    status_of_anonymous isSignIn anonymous shownAgain⟩
  rw [filled]
  exact shownAgain

/-- A password of the size of the largest form that is read. -/
def longPassword : String :=
  String.ofList (List.replicate Form.maxBodySize 'a')

/-- The octets of the long password. -/
theorem length_longPassword :
    (Text.Utf8.encode longPassword).length = Form.maxBodySize := by
  have visible : ∀ char ∈ longPassword.toList, IsVisible char := by
    intro char present
    rw [longPassword, String.toList_ofList] at present
    rw [List.eq_of_mem_replicate present]
    decide
  rw [encode_of_visible visible, List.length_map, longPassword, String.toList_ofList,
    List.length_replicate]

/-- Not every page is led back to: what is written like the path of the sign-in page is
replaced by the root, and a password that takes too much space for a form leads to the
sign-in page again. -/
theorem some_pages_are_not_resumed :
    (∃ answer page, (Startup.startingWith "/a?b").isValid = true ∧
        markedStart.kindOf markedRequest = .proxy ∧
        (markedStart.authenticate nowhere markedRequest).decision = .reject ∧
        markedRequest.headers.nonEmptyText? redirectHeader = none ∧
        markedRequest.target.pathAndQuery = "/a?b/sign_in" ∧ IsLocalPage "/a?b/sign_in" ∧
        markedStart.answer? nowhere markedRequest = some answer ∧
        answer.response.body = Text.Utf8.encode page ∧
        Markup.controls page = [("rd", "/"), ("username", ""), ("password", "")]) ∧
      ∃ answer page again, (withPassword longPassword).kindOf searchRequest = .proxy ∧
        ((withPassword longPassword).authenticate nowhere searchRequest).decision =
          .reject ∧
        (withPassword longPassword).answer? nowhere searchRequest = some answer ∧
        answer.response.body = Text.Utf8.encode page ∧
        ((withPassword longPassword).signIn.attempt "alice" longPassword).outcome =
          .authenticated ⟨"alice", none⟩ ∧
        (withPassword longPassword).answer? nowhere (entryRequest (Markup.fillIn
          [("username", "alice"), ("password", longPassword)] (Markup.controls page))) =
          some again ∧
        again.response.status = 200 := by
  constructor
  · have datable : markedStart.cookies.Datable nowhere.now .clear :=
      ⟨by decide, by decide⟩
    have proxied : markedStart.kindOf markedRequest = .proxy := by decide
    have rejected :
        (markedStart.authenticate nowhere markedRequest).decision = .reject := by
      decide
    have isPage : IsLocalPage "/a?b/sign_in" :=
      ⟨⟨"a?b/sign_in".toList, by decide, by decide⟩,
        List.all_iff_forall_prop.mp (by decide)⟩
    have destination : markedStart.destinationOf markedRequest = "/" := by decide
    obtain ⟨answer, answered, -, body⟩ := exists_page_of_rejected proxied rejected datable
    rw [destination] at body
    exact ⟨answer, _, by decide +kernel, proxied, rejected, by decide +kernel,
      by decide +kernel,
      isPage, answered, body, markedStart.pages.controls_signIn "/" false⟩
  · obtain ⟨answer, page, again, proxied, rejected, answered, body, shownAgain, status⟩ :=
      long_password_is_not_read (Nat.le_of_eq length_longPassword.symm)
    exact ⟨answer, page, again, proxied, rejected, answered, body,
      authenticated_withPassword longPassword, shownAgain, status⟩

end Gateway
end Gatehouse
