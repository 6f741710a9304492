import Gatehouse.Proofs.Config.Construction
import Gatehouse.Proofs.Gateway.Markup
import Gatehouse.Proofs.Gateway.Redirection

/-!
# Where the pages lead

The form of the sign-in page and the link of the error page lead to the path under which
the proxy answers requests to sign in. The pages put that path together from the
configured start as it is, and the proxy from the start without slashes at its end. The
check of a configuration rules such slashes out but for one start, the slash alone: then
the pages lead to another server.
-/

namespace Gatehouse

namespace Pages

open Markup

/-! ## Pages line by line -/

theorem toList_unlines (lines : List String) :
    (unlines lines).toList = lines.flatMap fun line => line.toList ++ ['\n'] := by
  rw [unlines, String.toList_join, List.flatMap_map]
  simp

/-- Lines that are silent are silent together. -/
theorem isSilent_unlines
    {tag name : List Char}
    {lines : List String}
    (silent : ∀ line ∈ lines, IsSilent tag name line.toList) :
    IsSilent tag name (unlines lines).toList := by
  rw [toList_unlines]
  induction lines with
  | nil => exact ⟨rfl, rfl⟩
  | cons line rest inductionHypothesis =>
      obtain ⟨lineSilent, restSilent⟩ := List.forall_mem_cons.mp silent
      have ended : IsSilent tag name (line.toList ++ ['\n']) :=
        lineSilent.append (isSilent_of_noTag (by decide))
      rw [List.flatMap_cons]
      exact ended.append (inductionHypothesis restSilent)

/-- An attribute behind silent lines has the text that was escaped for it. -/
theorem attribute?_unlines
    {tag name line value : String}
    {before after : List String}
    (front back : String)
    (silent : ∀ other ∈ before, IsSilent tag.toList name.toList other.toList)
    (noValue : firstValue? tag.toList name.toList .text front.toList = none)
    (inFront : Markup.read .text front.toList = .equals tag.toList name.toList)
    (shape : line = front ++ "\"" ++ escape value ++ "\"" ++ back) :
    attribute? tag name (unlines (before ++ line :: after)) = some value := by
  have lines : (unlines (before ++ line :: after)).toList =
      (unlines before).toList ++
        (front.toList ++
          '"' :: ((escape value).toList ++
            '"' :: (back.toList ++ '\n' :: (unlines after).toList))) := by
    simp [toList_unlines, shape]
  rw [attribute?, lines, (isSilent_unlines silent).firstValue?_append,
    firstValue?_quoted noValue inFront (not_mem_escape (by decide) value),
    Option.map_some, Function.comp_apply, unescape_escape, String.ofList_toList]

/-- An escaped text between silent parts of a page is silent with them. -/
theorem isSilent_around
    {tag name : List Char}
    {front back : String}
    (frontSilent : IsSilent tag name front.toList)
    (backSilent : IsSilent tag name back.toList)
    (text : String) :
    IsSilent tag name (front ++ escape text ++ back).toList := by
  rw [String.toList_append, String.toList_append]
  exact (frontSilent.append (isSilent_escape text)).append backSilent

theorem escape_append (first second : String) :
    escape (first ++ second) = escape first ++ escape second := by
  apply String.toList_inj.mp
  simp [escape]

variable (pages : Pages)

/-- The lines of the sign-in page in front of the message. -/
def signInHead : List String :=
  ["<!DOCTYPE html>",
    "<html lang=\"en\">",
    "<head>",
    "<meta charset=\"utf-8\">",
    "<meta name=\"viewport\" content=\"width=device-width, initial-scale=1\">",
    "<title>Sign In</title>",
    "</head>",
    "<body>",
    "<main class=\"signin\">"]

/-- The form of the sign-in page leads to a path behind the start. -/
theorem attribute?_signIn
    (destination : String)
    (failed : Bool) :
    attribute? "form" "action" (pages.signIn destination failed) =
      some (pages.start ++ "/sign_in") := by
  have head :
      ∀ line ∈ signInHead, IsSilent "form".toList "action".toList line.toList := by
    decide
  have message : IsSilent "form".toList "action".toList pages.messageMarkup.toList := by
    unfold messageMarkup
    split_ifs
    · decide
    · exact isSilent_around (by decide) (by decide) _
  have failure :
      IsSilent "form".toList "action".toList (failureMarkup failed).toList := by
    cases failed
    · decide
    · decide
  obtain ⟨rest, page⟩ : ∃ rest, pages.signIn destination failed =
      unlines (signInHead ++ [pages.messageMarkup, failureMarkup failed] ++
        ("<form method=\"POST\" action=\"" ++
          escape (pages.start ++ "/sign_in") ++ "\">") ::
          rest) :=
    ⟨_, rfl⟩
  rw [page]
  refine attribute?_unlines "<form method=\"POST\" action=" ">" ?_ (by decide)
    (by decide) (by simp [← String.toList_inj])
  rw [List.forall_mem_append, List.forall_mem_cons, List.forall_mem_singleton]
  exact ⟨head, message, failure⟩

/-- The lines of the error page in front of the title. -/
def errorHead : List String :=
  ["<!DOCTYPE html>",
    "<html lang=\"en\">",
    "<head>",
    "<meta charset=\"utf-8\">"]

/-- The lines of the error page from the title to the message. -/
def errorTexts (heading message : String) : List String :=
  ["<title>" ++ escape heading ++ "</title>",
    "</head>",
    "<body>",
    "<h2>" ++ escape heading ++ "</h2>",
    "<p>" ++ escape message ++ "</p>",
    "<hr>"]

/-- The link of the error page leads to a path behind the start. -/
theorem attribute?_error
    (status : Nat)
    (title message : String) :
    attribute? "a" "href" (pages.error status title message) =
      some (pages.start ++ "/sign_in") := by
  have head : ∀ line ∈ errorHead, IsSilent "a".toList "href".toList line.toList := by
    decide
  have texts : ∀ heading, ∀ line ∈ errorTexts heading message,
      IsSilent "a".toList "href".toList line.toList := by
    intro heading
    unfold errorTexts
    simp only [List.forall_mem_cons]
    refine ⟨isSilent_around ?_ ?_ _, ?_, ?_, isSilent_around ?_ ?_ _,
      isSilent_around ?_ ?_ _, ?_, ?_⟩
    all_goals decide
  obtain ⟨rest, page⟩ : ∃ rest, pages.error status title message =
      unlines (errorHead ++
        errorTexts (Text.Decimal.natural status ++ " " ++ title) message ++
        ("<p><a href=\"" ++ escape pages.start ++ "/sign_in\">Sign In</a></p>") ::
          rest) :=
    ⟨_, rfl⟩
  rw [page]
  refine attribute?_unlines "<p><a href=" ">Sign In</a></p>"
    (List.forall_mem_append.mpr ⟨head, texts _⟩) (by decide) (by decide) ?_
  have path : escape "/sign_in" = "/sign_in" := by decide
  rw [escape_append, path]
  simp [← String.toList_inj]

end Pages

/-! ## Paths under a start -/

/-- An accepted start begins with a slash, and ends with none unless it is one. -/
theorem Config.isProxyStart_iff
    {start : String} :
    isProxyStart start = true ↔
      "/".toList <+: start.toList ∧ (start = "/" ∨ ¬ "/".toList <:+ start.toList) := by
  unfold isProxyStart
  rw [Bool.and_eq_true, Text.startsWith_iff, Bool.not_eq_true', Bool.and_eq_false_imp,
    decide_eq_true_iff, ← Bool.not_eq_true, Text.endsWith_iff]
  refine and_congr_right fun begins => ?_
  have slash : "/".utf8ByteSize = 1 := by decide
  rw [← slash, Text.size_lt_iff_of_isPrefix begins, ne_eq, Decidable.imp_iff_not_or,
    not_not]

/-- The start of a checked configuration is accepted. -/
theorem Config.isProxyStart_of_isValid
    {config : Config}
    (valid : config.isValid = true) :
    isProxyStart config.proxy.start = true := by
  have unobjectionable := (problems_eq_nil_of_isValid valid).2.1
  unfold Proxy.problems at unobjectionable
  simp only [List.append_eq_nil_iff, problemIf_eq_nil_iff] at unobjectionable
  obtain ⟨⟨⟨⟨start, -⟩, -⟩, -⟩, -⟩ := unobjectionable
  simpa using start

/-- The sign-in path follows the start as written, unless that is a slash alone. -/
theorem SystemPaths.signIn_eq_iff
    {start : String}
    (accepted : Config.isProxyStart start = true) :
    start ++ "/sign_in" = (under start).signIn ↔ start ≠ "/" := by
  obtain ⟨begins, rfl | noSlash⟩ := Config.isProxyStart_iff.mp accepted
  · decide
  · have untrimmed : Text.trimLast (· == '/') start.toList = start.toList := by
      apply List.rdropWhile_eq_self_iff.mpr
      intro nonempty isSlash
      have isLast : "/".toList = [start.toList.getLast nonempty] := by
        rw [beq_iff_eq.mp isSlash]
        decide
      rw [isLast] at noSlash
      exact noSlash ⟨_, List.dropLast_append_getLast nonempty⟩
    have differs : start ≠ "/" := by
      rintro rfl
      exact noSlash List.suffix_rfl
    rw [under, untrimmed, String.ofList_toList]
    exact iff_of_true rfl differs

namespace Gateway

/-- What neither passes nor is fixed is a sign-in exactly if its path is. -/
theorem kindOf_eq_signIn_iff
    {gateway : Gateway}
    {start : String}
    (paths : gateway.paths = SystemPaths.under start)
    (request : Request) :
    gateway.kindOf request = .signIn ↔
      request.path = gateway.paths.signIn ∧
        gateway.whitelist.bypasses request.method request.path request.headers
          request.peer = false := by
  have ending : "/sign_in".toList <:+ gateway.paths.signIn.toList := by
    rw [paths, SystemPaths.under, String.toList_append]
    exact List.suffix_append _ _
  have notFixed : ∀ fixed ∈ [robotsPath, pingPath], gateway.paths.signIn ≠ fixed := by
    have endOtherwise :
        ∀ fixed ∈ [robotsPath, pingPath], ¬ "/sign_in".toList <:+ fixed.toList := by
      decide
    intro fixed isFixed same
    exact endOtherwise fixed isFixed (same ▸ ending)
  have notRobots : gateway.paths.signIn ≠ robotsPath := notFixed _ (by simp)
  have notPing : gateway.paths.signIn ≠ pingPath := notFixed _ (by simp)
  unfold kindOf
  constructor
  · intro isSignIn
    simp only at isSignIn
    split_ifs at isSignIn with _ _ passes isPath
    exact ⟨isPath, Bool.not_eq_true _ ▸ passes⟩
  · rintro ⟨isPath, blocked⟩
    rw [isPath] at blocked ⊢
    simp only [if_neg notRobots, if_neg notPing, blocked, Bool.false_eq_true, if_false,
      if_true]

end Gateway

namespace Startup

/-- Of a checked configuration, the form of every sign-in page and the link of every
error page lead to the path at which sign-ins are answered, unless the configured start
is the slash alone. Then the pages have another slash in front of that path, and lead to
another server. -/
theorem pages_lead_to_signIn_iff
    (supplies : Supplies)
    (config : Config)
    (gateway : Gateway)
    (valid : config.isValid = true)
    (built : build supplies config = .ok gateway) :
    let form destination failed :=
      Markup.attribute? "form" "action" (gateway.pages.signIn destination failed)
    let link status title message :=
      Markup.attribute? "a" "href" (gateway.pages.error status title message)
    let path := gateway.paths.signIn
    (∀ destination failed, form destination failed = some path ↔
      config.proxy.start ≠ "/") ∧
      (∀ status title message, link status title message = some path ↔
        config.proxy.start ≠ "/") ∧
      (config.proxy.start = "/" →
        path = "/sign_in" ∧
          (∀ destination failed, form destination failed = some "//sign_in") ∧
          ∀ status title message, link status title message = some "//sign_in") ∧
      ∀ request, gateway.kindOf request = .signIn ↔
        request.path = path ∧
          gateway.whitelist.bypasses request.method request.path request.headers
            request.peer = false := by
  obtain ⟨paths, -, -, pages, -⟩ := settings_of_build built
  have start : gateway.pages.start = config.proxy.start := congrArg Pages.start pages
  have agree : some (gateway.pages.start ++ "/sign_in") = some gateway.paths.signIn ↔
      config.proxy.start ≠ "/" := by
    rw [Option.some.injEq, paths, start]
    exact SystemPaths.signIn_eq_iff (Config.isProxyStart_of_isValid valid)
  intro form link path
  have isForm : ∀ destination failed,
      form destination failed = some (gateway.pages.start ++ "/sign_in") :=
    gateway.pages.attribute?_signIn
  have isLink : ∀ status title message,
      link status title message = some (gateway.pages.start ++ "/sign_in") :=
    gateway.pages.attribute?_error
  refine ⟨?_, ?_, ?_, Gateway.kindOf_eq_signIn_iff paths⟩
  · intro destination failed
    rw [isForm]
    exact agree
  · intro status title message
    rw [isLink]
    exact agree
  · intro bare
    have doubled : gateway.pages.start ++ "/sign_in" = "//sign_in" := by
      rw [start, bare]
      decide
    rw [doubled] at isForm isLink
    refine ⟨?_, isForm, isLink⟩
    have isPath : path = (SystemPaths.under config.proxy.start).signIn :=
      congrArg SystemPaths.signIn paths
    rw [isPath, bare]
    decide

/-- The configuration `twofold` with some start of the paths of the proxy. -/
def startingWith (start : String) : Config :=
  { twofold with proxy := { twofold.proxy with start } }

/-- With an ampersand in the start, the form and the link still lead there. -/
theorem ampersand_in_start_is_kept :
    ∃ gateway, build (withUser "alice:secret") (startingWith "/r&d") = .ok gateway ∧
      gateway.paths.signIn = "/r&d/sign_in" ∧
      (∀ destination failed,
        Markup.attribute? "form" "action" (gateway.pages.signIn destination failed) =
          some gateway.paths.signIn) ∧
      ∀ status title message,
        Markup.attribute? "a" "href" (gateway.pages.error status title message) =
          some gateway.paths.signIn := by
  have valid : (startingWith "/r&d").isValid = true := by decide +kernel
  have readable : Readable (withUser "alice:secret") (startingWith "/r&d") :=
    fun _ _ => rfl
  obtain ⟨gateway, built⟩ := (exists_build_iff valid readable).mpr (by decide +kernel)
  obtain ⟨form, link, -, -⟩ :=
    pages_lead_to_signIn_iff (withUser "alice:secret") (startingWith "/r&d")
      gateway valid built
  have notBare : (startingWith "/r&d").proxy.start ≠ "/" := by decide
  refine ⟨gateway, built, ?_, fun _ _ => (form _ _).mpr notBare,
    fun _ _ _ => (link _ _ _).mpr notBare⟩
  rw [(settings_of_build built).1]
  decide

/-- With a slash alone for the start, passwords are posted to another server. -/
theorem bare_start_leads_elsewhere :
    (startingWith "/").isValid = true ∧
      ∃ gateway, build (withUser "alice:secret") (startingWith "/") = .ok gateway ∧
        gateway.paths.signIn = "/sign_in" ∧
        Markup.attribute? "form" "action" (gateway.pages.signIn "/" false) =
          some "//sign_in" ∧
        Markup.attribute? "a" "href"
          (gateway.pages.error 500 "Internal Error" "Internal Error") =
          some "//sign_in" ∧
        (Url.resolve (homePage "proxy.example") "//sign_in").toOption =
          some (homePage "sign_in") := by
  have valid : (startingWith "/").isValid = true := by decide +kernel
  have readable : Readable (withUser "alice:secret") (startingWith "/") := fun _ _ => rfl
  obtain ⟨gateway, built⟩ := (exists_build_iff valid readable).mpr (by decide +kernel)
  obtain ⟨paths, -, -, pages, -⟩ := settings_of_build built
  refine ⟨valid, gateway, built, ?_, ?_, ?_, by decide +kernel⟩
  · rw [paths]
    decide
  · rw [Pages.attribute?_signIn, pages]
    decide
  · rw [Pages.attribute?_error, pages]
    decide

end Startup

end Gatehouse
