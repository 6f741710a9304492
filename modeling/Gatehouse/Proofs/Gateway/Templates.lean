import Gatehouse.Proofs.Gateway.Controls

/-!
# Pages as templates

A page is a template with escaped texts in its slots. What a browser takes for markup in
a page, where it stands, and what is being read there, follows from the template and the
sizes of the texts: a text in a slot contains no delimiter, and it stands where nothing
else ends it.
-/

namespace Gatehouse
namespace Markup

/-! ## Escaped texts -/

/-- The references that escaping uses. -/
def references : List (List Char) :=
  ["&amp;".toList, "&lt;".toList, "&gt;".toList, "&#34;".toList, "&#39;".toList]

/-- Characters show a text: without delimiters, and every ampersand begins a reference. -/
structure Shows (shown text : List Char) : Prop where
  undelimited : ∀ char ∈ shown, char ∉ delimiters
  referenced : ∀ behind, '&' :: behind <:+ shown →
    ∃ reference ∈ references, reference <+: '&' :: behind
  meant : unescape shown = text

/-- A character is shown without an ampersand, or as a reference with one in front. -/
theorem escapeChar_cases (char : Char) :
    (∀ shown ∈ Pages.escapeChar char, shown ≠ '&') ∨
      Pages.escapeChar char ∈ references ∧ '&' ∉ (Pages.escapeChar char).tail := by
  unfold Pages.escapeChar
  split_ifs with isAmpersand
  · exact .inr (by decide)
  · exact .inr (by decide)
  · exact .inr (by decide)
  · exact .inr (by decide)
  · exact .inr (by decide)
  · exact .inl (by simpa using isAmpersand)

/-- In an escaped text, every ampersand begins a reference. -/
theorem exists_reference_of_suffix
    {chars behind : List Char}
    (isSuffix : '&' :: behind <:+ chars.flatMap Pages.escapeChar) :
    ∃ reference ∈ references, reference <+: '&' :: behind := by
  induction chars with
  | nil => cases List.suffix_nil.mp isSuffix
  | cons char rest inductionHypothesis =>
      rw [List.flatMap_cons] at isSuffix
      obtain ⟨front, whole⟩ := isSuffix
      rcases List.append_eq_append_iff.mp whole
        with ⟨suffix, isShown, isBehind⟩ | ⟨more, -, isRest⟩
      · cases suffix with
        | nil => exact inductionHypothesis ⟨[], isBehind⟩
        | cons first others =>
            obtain ⟨rfl, rfl⟩ := List.cons_eq_cons.mp isBehind
            rcases escapeChar_cases char with noAmpersand | ⟨isReference, onlyInFront⟩
            · exact absurd rfl (noAmpersand '&' (by simp [isShown]))
            · cases front with
              | nil => exact ⟨_, isReference, by simp [isShown]⟩
              | cons other between => exact absurd (by simp [isShown]) onlyInFront
      · exact inductionHypothesis ⟨more, isRest.symm⟩

theorem shows_escape (text : String) : Shows (Pages.escape text).toList text.toList := by
  refine ⟨fun char present isDelimiter => not_mem_escape isDelimiter text present, ?_,
    unescape_escape text⟩
  intro behind isSuffix
  rw [Pages.escape, String.toList_ofList] at isSuffix
  exact exists_reference_of_suffix isSuffix

/-! ## Marks -/

/-- A character that may be markup, with what is being read when it comes. -/
structure Mark where
  mode : Mode
  char : Char
  deriving DecidableEq, Repr

/-- Whether what is being read goes on until a delimiter comes. -/
def Mode.holdsText : Mode → Bool
  | .text => true
  | .quoted _ quotation => delimiters.contains quotation
  | _ => false

/-- The marks of a page: all characters but those that delimit nothing where they are. -/
def marks (mode : Mode) (position : Nat) : List Char → List (Nat × Mark)
  | [] => []
  | char :: rest =>
      let behind := marks (mode.step char) (position + 1) rest
      if mode.holdsText && !delimiters.contains char then behind
      else (position, ⟨mode, char⟩) :: behind

/-- The marks of two parts are those of the first, then those of the second. -/
theorem marks_append (mode : Mode) (position : Nat) (front behind : List Char) :
    marks mode position (front ++ behind) =
      marks mode position front ++
        marks (read mode front) (position + front.length) behind := by
  induction front generalizing mode position with
  | nil => rfl
  | cons char rest inductionHypothesis =>
      have further : position + 1 + rest.length = position + (rest.length + 1) := by omega
      have continued : read mode (char :: rest) = read (mode.step char) rest := rfl
      rw [List.cons_append, marks, marks, inductionHypothesis, continued,
        List.length_cons, further]
      split_ifs
      · rfl
      · rfl

/-- The marks of a part that stands further behind are as much further behind. -/
theorem marks_add (mode : Mode) (offset position : Nat) (chars : List Char) :
    marks mode (offset + position) chars =
      (marks mode position chars).map fun mark => (offset + mark.1, mark.2) := by
  induction chars generalizing mode position with
  | nil => rfl
  | cons char rest inductionHypothesis =>
      rw [marks, marks, Nat.add_assoc, inductionHypothesis]
      split_ifs
      · rfl
      · rfl

/-- A character that delimits nothing ends neither a text nor a value within quotation
marks. -/
theorem step_of_undelimited
    {mode : Mode}
    (holds : mode.holdsText = true)
    {char : Char}
    (undelimited : char ∉ delimiters) :
    mode.step char = mode := by
  unfold Mode.holdsText at holds
  split at holds
  · refine if_neg ?_
    rintro rfl
    exact undelimited (by decide)
  · refine if_neg ?_
    rintro rfl
    exact undelimited (List.contains_iff_mem.mp holds)
  · cases holds

/-- Characters that delimit nothing leave no mark in texts and quotations, and end
neither. -/
theorem marks_of_undelimited
    {mode : Mode}
    (holds : mode.holdsText = true)
    {chars : List Char}
    (undelimited : ∀ char ∈ chars, char ∉ delimiters)
    (position : Nat) :
    marks mode position chars = [] ∧ read mode chars = mode := by
  induction chars generalizing position with
  | nil => exact ⟨rfl, rfl⟩
  | cons char rest inductionHypothesis =>
      obtain ⟨ordinary, others⟩ := List.forall_mem_cons.mp undelimited
      obtain ⟨noMarks, unread⟩ := inductionHypothesis others (position + 1)
      have plain : (mode.holdsText && !delimiters.contains char) = true := by
        simp [holds, ordinary]
      have stays := step_of_undelimited holds ordinary
      constructor
      · rw [marks, if_pos plain, stays]
        exact noMarks
      · rw [read, List.foldl_cons, stays]
        exact unread

/-! ## Templates -/

/-- The texts of pages. -/
inductive Slot
  | heading
  | message
  | start
  | destination
  deriving DecidableEq, Repr

/-- A part of a template. -/
inductive Part
  | markup (written : String)
  | slot (slot : Slot)
  deriving DecidableEq, Repr

/-- A page with slots for texts. -/
abbrev Template := List Part

/-- A position in a page, behind some characters of its template and some slots. -/
structure Place where
  written : Nat
  slots : List Slot
  deriving DecidableEq, Repr

/-- The position of a place when the texts in the slots have some sizes. -/
def Place.position (place : Place) (size : Slot → Nat) : Nat :=
  place.written + place.slots.foldr (fun slot total => size slot + total) 0

namespace Template

/-- The page that a template becomes when something is shown in its slots. -/
def fill (shown : Slot → String) : Template → String
  | [] => ""
  | .markup written :: rest => written ++ fill shown rest
  | .slot slot :: rest => shown slot ++ fill shown rest

/-- The marks of a template, with their places. There are none in slots. -/
def marks (mode : Mode) (place : Place) : Template → List (Place × Mark)
  | [] => []
  | .markup written :: rest =>
      (Markup.marks mode 0 written.toList).map
          (fun mark => ({ place with written := place.written + mark.1 }, mark.2)) ++
        marks (read mode written.toList)
          { place with written := place.written + written.length } rest
  | .slot slot :: rest => marks mode { place with slots := slot :: place.slots } rest

/-- Whether all slots of a template are in texts or within quotation marks. -/
def isSound (mode : Mode) : Template → Bool
  | [] => true
  | .markup written :: rest => isSound (read mode written.toList) rest
  | .slot _ :: rest => mode.holdsText && isSound mode rest

/-- Texts without delimiters in a sound template leave the marks of the template. -/
theorem marks_fill
    {template : Template}
    {mode : Mode}
    (sound : template.isSound mode = true)
    {shown : Slot → String}
    (undelimited : ∀ slot, ∀ char ∈ (shown slot).toList, char ∉ delimiters)
    (place : Place) :
    Markup.marks mode (place.position fun slot => (shown slot).length)
      (template.fill shown).toList =
      (template.marks mode place).map fun mark =>
        (mark.1.position fun slot => (shown slot).length, mark.2) := by
  obtain ⟨size, isSize⟩ :
      ∃ size : Slot → Nat, size = fun slot => (shown slot).length := ⟨_, rfl⟩
  rw [← isSize]
  induction template generalizing mode place with
  | nil => rfl
  | cons part rest inductionHypothesis =>
      cases part with
      | markup written =>
          have moved : place.position size + written.toList.length =
              Place.position { place with written := place.written + written.length }
                size := by
            simp only [Place.position, String.length_toList]
            omega
          have here : Markup.marks mode (place.position size) written.toList =
              (Markup.marks mode 0 written.toList).map fun mark =>
                (Place.position { place with written := place.written + mark.1 } size,
                  mark.2) := by
            rw [← Nat.add_zero (place.position size), marks_add]
            refine List.map_congr_left fun mark _ => ?_
            simp only [Place.position, Prod.mk.injEq, and_true]
            omega
          rw [fill, marks, String.toList_append, marks_append, moved,
            inductionHypothesis sound, List.map_append, List.map_map, here]
          rfl
      | slot slot =>
          obtain ⟨holds, restSound⟩ := Bool.and_eq_true_iff.mp sound
          obtain ⟨noMarks, unread⟩ :=
            marks_of_undelimited holds (undelimited slot) (place.position size)
          have moved : place.position size + (shown slot).toList.length =
              Place.position { place with slots := slot :: place.slots } size := by
            simp only [Place.position, List.foldr_cons, isSize, String.length_toList]
            omega
          rw [fill, marks, String.toList_append, marks_append, noMarks, unread, moved,
            inductionHypothesis restSound]
          rfl

/-- A page is a template with escaped texts, and its marks depend on their sizes only. -/
structure Makes (template : Template) (texts : Slot → String) (page : String) : Prop where
  filled : page = template.fill (Pages.escape ∘ texts)
  marked : Markup.marks .text 0 page.toList =
    (template.marks .text ⟨0, []⟩).map fun mark =>
      (mark.1.position fun slot => (Pages.escape (texts slot)).length, mark.2)

/-- A sound template marks the pages that it makes. -/
theorem makes_of_sound
    {template : Template}
    (sound : template.isSound .text = true)
    {texts : Slot → String}
    {page : String}
    (filled : page = template.fill (Pages.escape ∘ texts)) :
    template.Makes texts page := by
  have marked := marks_fill sound
    (fun slot => (shows_escape (texts slot)).undelimited) ⟨0, []⟩
  refine ⟨filled, ?_⟩
  rw [filled]
  exact marked

end Template

/-- Two pages have the same marks in the same order, at whatever positions. -/
def SameMarkup (page other : String) : Prop :=
  (marks .text 0 page.toList).map Prod.snd = (marks .text 0 other.toList).map Prod.snd

/-- Pages that a template makes of whatever texts have the same marks. -/
theorem Template.Makes.sameMarkup
    {template : Template}
    {texts others : Slot → String}
    {page other : String}
    (makes : template.Makes texts page)
    (makesOther : template.Makes others other) :
    SameMarkup page other := by
  unfold SameMarkup
  rw [makes.marked, makesOther.marked, List.map_map, List.map_map]
  rfl

end Markup

namespace Pages

open Markup

/-- The template of sign-in pages with some footer. -/
def signInTemplate (hasMessage failed : Bool) (footer : String) : Template :=
  .markup (unlines signInHead) ::
    ((if hasMessage then
        [.markup "<p class=\"message\">", .slot .message, .markup "</p>"] else []) ++
      [.markup ("\n" ++ failureMarkup failed ++ "\n<form method=\"POST\" action=\""),
        .slot .start,
        .markup "/sign_in\">\n<input type=\"hidden\" name=\"rd\" value=\"",
        .slot .destination,
        .markup ("\">\n" ++ unlines signInFields ++ "</form>\n</main>\n"),
        .markup footer,
        .markup "\n</body>\n</html>\n"])

/-- The texts of a sign-in page. -/
def textsOfSignIn (pages : Pages) (destination : String) : Slot → String
  | .heading => ""
  | .message => pages.message
  | .start => pages.start
  | .destination => destination

/-- The slots of sign-in pages are in texts or within quotation marks, whatever the
footer is. -/
theorem isSound_signInTemplate (hasMessage failed : Bool) (footer : String) :
    (signInTemplate hasMessage failed footer).isSound .text = true := by
  have head : read .text (unlines signInHead).toList = .text := by
    rw [toList_unlines]
    decide +kernel
  have form : read .text ("\n" ++ failureMarkup failed ++
      "\n<form method=\"POST\" action=\"").toList =
      .quoted "form".toList '"' := by
    cases failed
    · decide +kernel
    · decide +kernel
  have input : read (.quoted "form".toList '"')
      "/sign_in\">\n<input type=\"hidden\" name=\"rd\" value=\"".toList =
        .quoted "input".toList '"' := by
    decide +kernel
  have message : read .text "<p class=\"message\">".toList = .text := by
    decide +kernel
  have messageEnd : read .text "</p>".toList = .text := by
    decide +kernel
  cases hasMessage with
  | false =>
      simp only [signInTemplate, Template.isSound, Bool.false_eq_true, if_false,
        List.nil_append, head, form, input]
      rfl
  | true =>
      simp only [signInTemplate, Template.isSound, if_true, List.cons_append,
        List.nil_append, head, message, messageEnd, form, input]
      rfl

theorem unlines_cons (line : String) (rest : List String) :
    unlines (line :: rest) = line ++ "\n" ++ unlines rest := by
  simp [unlines, String.join_cons]

theorem unlines_append (first second : List String) :
    unlines (first ++ second) = unlines first ++ unlines second := by
  simp [unlines, String.join_append]

/-- A sign-in page is its template with the escaped texts in its slots. -/
theorem makes_signIn
    (pages : Pages)
    (destination : String)
    (failed : Bool) :
    (signInTemplate (pages.message ≠ "") failed pages.footerMarkup).Makes
      (pages.textsOfSignIn destination)
      (pages.signIn destination failed) := by
  apply Template.makes_of_sound (isSound_signInTemplate _ _ _)
  have page : pages.signIn destination failed =
      unlines
        (signInHead ++ (pages.messageMarkup :: failureMarkup failed :: pages.formLine ::
        destinationInput destination :: (signInFields ++ pages.signInFoot))) := rfl
  have path : escape (pages.start ++ "/sign_in") = escape pages.start ++ "/sign_in" := by
    rw [escape_append]
    rfl
  have form :
      "\n<form method=\"POST\" action=\"" =
        "\n" ++ "<form method=\"POST\" action=\"" := rfl
  have input : "/sign_in\">\n<input type=\"hidden\" name=\"rd\" value=\"" =
      "/sign_in" ++
        ("\">" ++ ("\n" ++ "<input type=\"hidden\" name=\"rd\" value=\"")) := rfl
  have fields : "\">\n" = "\">" ++ "\n" := rfl
  have ending : "</form>\n</main>\n" = "</form>" ++ ("\n" ++ ("</main>" ++ "\n")) := rfl
  have last :
      "\n</body>\n</html>\n" = "\n" ++ ("</body>" ++ ("\n" ++ ("</html>" ++ "\n"))) := rfl
  rw [page]
  unfold signInTemplate messageMarkup formLine destinationInput signInFoot
  rw [path, form, input, fields, ending, last]
  by_cases empty : pages.message = ""
  · simp only [empty, unlines_append, unlines_cons, String.append_assoc, ne_eq,
      not_true_eq_false, decide_false, Bool.false_eq_true, if_true, if_false,
      List.nil_append, Template.fill, Function.comp_apply, textsOfSignIn]
    rfl
  · simp only [empty, unlines_append, unlines_cons, String.append_assoc, ne_eq,
      not_false_eq_true, decide_true, if_true, if_false, List.cons_append,
      List.nil_append, Template.fill, Function.comp_apply, textsOfSignIn]
    rfl

/-- The template of error pages. -/
def errorTemplate : Template :=
  [.markup (unlines errorHead ++ "<title>"),
    .slot .heading,
    .markup "</title>\n</head>\n<body>\n<h2>",
    .slot .heading,
    .markup "</h2>\n<p>",
    .slot .message,
    .markup "</p>\n<hr>\n<p><a href=\"",
    .slot .start,
    .markup "/sign_in\">Sign In</a></p>\n</body>\n</html>\n"]

/-- The texts of an error page. -/
def textsOfError (pages : Pages) (status : Nat) (title message : String) : Slot → String
  | .heading => Text.Decimal.natural status ++ " " ++ title
  | .message => message
  | .start => pages.start
  | .destination => ""

/-- The slots of error pages are in texts or within quotation marks. -/
theorem isSound_errorTemplate : errorTemplate.isSound .text = true := by
  have head : read .text (unlines errorHead ++ "<title>").toList = .text := by
    rw [String.toList_append, toList_unlines]
    decide +kernel
  have heading : read .text "</title>\n</head>\n<body>\n<h2>".toList = .text := by
    decide +kernel
  have message : read .text "</h2>\n<p>".toList = .text := by
    decide +kernel
  have link : read .text "</p>\n<hr>\n<p><a href=\"".toList = .quoted "a".toList '"' := by
    decide +kernel
  simp only [errorTemplate, Template.isSound, head, heading, message, link]
  rfl

/-- An error page is its template with the escaped texts in its slots. -/
theorem makes_error
    (pages : Pages)
    (status : Nat)
    (title message : String) :
    errorTemplate.Makes (pages.textsOfError status title message)
      (pages.error status title message) := by
  apply Template.makes_of_sound isSound_errorTemplate
  have page : pages.error status title message =
      unlines (errorHead ++
        (errorTexts (Text.Decimal.natural status ++ " " ++ title) message ++
        ["<p><a href=\"" ++ escape pages.start ++ "/sign_in\">Sign In</a></p>", "</body>",
         "</html>"])) :=
    rfl
  have heading : "</title>\n</head>\n<body>\n<h2>" =
      "</title>" ++
        ("\n" ++ ("</head>" ++ ("\n" ++ ("<body>" ++ ("\n" ++ "<h2>"))))) := rfl
  have paragraph : "</h2>\n<p>" = "</h2>" ++ ("\n" ++ "<p>") := rfl
  have link : "</p>\n<hr>\n<p><a href=\"" =
      "</p>" ++ ("\n" ++ ("<hr>" ++ ("\n" ++ "<p><a href=\""))) := rfl
  have last : "/sign_in\">Sign In</a></p>\n</body>\n</html>\n" =
      "/sign_in\">Sign In</a></p>" ++
        ("\n" ++ ("</body>" ++ ("\n" ++ ("</html>" ++ "\n")))) := rfl
  rw [page]
  unfold errorTemplate errorTexts
  rw [heading, paragraph, link, last]
  simp only [unlines_append, unlines_cons, String.append_assoc, Template.fill,
    Function.comp_apply, textsOfError]
  rfl

/-- Whatever texts a page shows, it is a fixed template with the escaped texts in its
slots. An escaped text contains no delimiter, its ampersands begin references, and it
stands for the text. So the markup of a page and its positions, but for the sizes of the
escaped texts, depend only on whether there is a message and a notice of failure, and on
the footer, which is markup itself. -/
theorem texts_stay_in_their_slots (pages : Pages) :
    (∀ text, Shows (escape text).toList text.toList) ∧
    (∀ destination failed,
      (signInTemplate (pages.message ≠ "") failed pages.footerMarkup).Makes
        (pages.textsOfSignIn destination) (pages.signIn destination failed)) ∧
    (∀ status title message,
      errorTemplate.Makes (pages.textsOfError status title message)
        (pages.error status title message)) ∧
    (∀ other : Pages,
      (other.message = "" ↔ pages.message = "") → other.footer = pages.footer →
      ∀ destination otherDestination failed,
        SameMarkup (pages.signIn destination failed)
          (other.signIn otherDestination failed)) ∧
    ∀ (other : Pages) (status otherStatus : Nat)
      (title otherTitle message otherMessage : String),
      SameMarkup (pages.error status title message)
        (other.error otherStatus otherTitle otherMessage) := by
  refine ⟨shows_escape, pages.makes_signIn, pages.makes_error, ?_, ?_⟩
  · intro other sameMessage sameFooter destination otherDestination failed
    have makesOther := other.makes_signIn otherDestination failed
    rw [footerMarkup, sameFooter, ← footerMarkup] at makesOther
    simp only [ne_eq, sameMessage] at makesOther
    exact (pages.makes_signIn destination failed).sameMarkup makesOther
  · intro other status otherStatus title otherTitle message otherMessage
    exact (pages.makes_error status title message).sameMarkup
      (other.makes_error otherStatus otherTitle otherMessage)

/-- A message and a destination of markup leave the markup of a page alone. -/
theorem hostile_texts_stay_in_their_slots :
    let harmless : Pages := ⟨"/ldap_proxy", "Staff only", ""⟩
    let hostile : Pages := ⟨"/\"><x", "</p><script>&lt;", ""⟩
    (hostile.message = "" ↔ harmless.message = "") ∧ hostile.footer = harmless.footer ∧
      SameMarkup (harmless.signIn "/" false) (hostile.signIn "/\"><script>" false) := by
  intro harmless hostile
  have sameMessage : hostile.message = "" ↔ harmless.message = "" := by decide
  exact ⟨sameMessage, rfl,
    (texts_stay_in_their_slots harmless).2.2.2.1 hostile sameMessage rfl "/"
      "/\"><script>" false⟩

end Pages
end Gatehouse
