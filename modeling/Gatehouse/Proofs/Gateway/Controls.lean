import Gatehouse.Proofs.Gateway.SignInPath

/-!
# The fields of a form in a page

A browser finds the tags of a page, and takes the inputs between a form and its end for
the fields of the form. The form of the sign-in page has three of them, whatever the
message, the footer and the destination are: the destination, which is not shown, and
the user and the password, which are still empty. The destination stands for the very
text that has been escaped for it.
-/

namespace Gatehouse

namespace Markup

/-! ## Tags -/

/-- The name of the tag that is being read, if one is. -/
def Mode.tag? : Mode → Option (List Char)
  | .text => none
  | .opened => none
  | .declared => none
  | .named tag => some tag
  | .inside tag => some tag
  | .attribute tag _ => some tag
  | .afterAttribute tag _ => some tag
  | .equals tag _ => some tag
  | .quoted tag _ => some tag
  | .bare tag => some tag

/-- A tag of a page: its name, and all of it as it is written. -/
structure Tag where
  name : List Char
  written : List Char
  deriving DecidableEq, Repr

/-- What has been read of a page: its tags, and what follows the last text. -/
structure Scan where
  mode : Mode
  pending : List Char
  tags : List Tag
  deriving DecidableEq, Repr

namespace Scan

/-- What has been read behind a character. -/
def step (scan : Scan) (char : Char) : Scan :=
  if scan.mode.step char = .text then
    ⟨.text, [], scan.tags ++ (scan.mode.tag?.map (⟨·, scan.pending ++ [char]⟩)).toList⟩
  else ⟨scan.mode.step char, scan.pending ++ [char], scan.tags⟩

/-- What has been read behind some characters. -/
def run (scan : Scan) (chars : List Char) : Scan :=
  chars.foldl step scan

/-- The beginning of a page. -/
def start : Scan :=
  ⟨.text, [], []⟩

theorem run_append (scan : Scan) (first second : List Char) :
    scan.run (first ++ second) = (scan.run first).run second :=
  List.foldl_append

/-- The tags that have been read before stay in front. -/
theorem run_behind
    (mode : Mode)
    (pending : List Char)
    (earlier tags : List Tag)
    (chars : List Char) :
    (Scan.mk mode pending (earlier ++ tags)).run chars =
      let behind := (Scan.mk mode pending tags).run chars
      ⟨behind.mode, behind.pending, earlier ++ behind.tags⟩ := by
  induction chars generalizing mode pending tags with
  | nil => rfl
  | cons char rest inductionHypothesis =>
      have moved : (Scan.mk mode pending (earlier ++ tags)).step char =
          let behind := (Scan.mk mode pending tags).step char
          ⟨behind.mode, behind.pending, earlier ++ behind.tags⟩ := by
        unfold step
        split_ifs
        · simp only [List.append_assoc]
        · rfl
      unfold run at inductionHypothesis ⊢
      rw [List.foldl_cons, List.foldl_cons, moved]
      exact inductionHypothesis _ _ _

/-- In quotation marks, everything up to the second of them is read. -/
theorem run_quoted
    {tag chars : List Char}
    {quotation : Char}
    (unquoted : quotation ∉ chars)
    (pending : List Char)
    (tags : List Tag) :
    (Scan.mk (.quoted tag quotation) pending tags).run chars =
      ⟨.quoted tag quotation, pending ++ chars, tags⟩ := by
  induction chars generalizing pending with
  | nil => rw [run, List.foldl_nil, List.append_nil]
  | cons char rest inductionHypothesis =>
      obtain ⟨different, unquotedRest⟩ := not_or.mp (mt List.mem_cons.mpr unquoted)
      have stays : (Mode.quoted tag quotation).step char = .quoted tag quotation :=
        if_neg (Ne.symm different)
      have stepped : (Scan.mk (.quoted tag quotation) pending tags).step char =
          ⟨.quoted tag quotation, pending ++ [char], tags⟩ := by
        unfold step
        rw [stays, if_neg (by simp)]
      unfold run at inductionHypothesis ⊢
      rw [List.foldl_cons, stepped, inductionHypothesis unquotedRest, List.append_assoc,
        List.singleton_append]

end Scan

/-- The tags of a part of a page, in order. -/
def tags (chars : List Char) : List Tag :=
  (Scan.start.run chars).tags

/-- Whether a part of a page leaves no tag open. -/
def IsClosed (chars : List Char) : Prop :=
  Scan.start.run chars = ⟨.text, [], tags chars⟩

instance (chars : List Char) : Decidable (IsClosed chars) :=
  inferInstanceAs (Decidable (_ = _))

section Laws

variable {front behind chars : List Char}

/-- Behind a part without an open tag, a page is read as if it began. -/
theorem IsClosed.run_append
    (closed : IsClosed front)
    (behind : List Char) :
    Scan.start.run (front ++ behind) =
      ⟨(Scan.start.run behind).mode, (Scan.start.run behind).pending,
        tags front ++ tags behind⟩ := by
  have moved := Scan.run_behind .text [] (tags front) [] behind
  rw [List.append_nil] at moved
  rw [Scan.run_append, closed, moved]
  rfl

theorem IsClosed.tags_append
    (closed : IsClosed front)
    (behind : List Char) :
    tags (front ++ behind) = tags front ++ tags behind :=
  congrArg Scan.tags (closed.run_append behind)

theorem IsClosed.append
    (frontClosed : IsClosed front)
    (behindClosed : IsClosed behind) :
    IsClosed (front ++ behind) := by
  unfold IsClosed
  rw [frontClosed.run_append, frontClosed.tags_append, behindClosed]

/-- A text in which no tag begins leaves none open, and has none. -/
theorem isClosed_of_noTag (noTag : '<' ∉ chars) : IsClosed chars ∧ tags chars = [] := by
  have unread : Scan.start.run chars = Scan.start := by
    unfold Scan.run
    induction chars with
    | nil => rfl
    | cons char rest inductionHypothesis =>
        obtain ⟨different, noTagBehind⟩ := not_or.mp (mt List.mem_cons.mpr noTag)
        have stays : Mode.step .text char = .text := if_neg (Ne.symm different)
        have stepped : Scan.start.step char = Scan.start := by
          unfold Scan.step
          exact if_pos stays
        rw [List.foldl_cons, stepped]
        exact inductionHypothesis noTagBehind
  have noTags : tags chars = [] := congrArg Scan.tags unread
  refine ⟨?_, noTags⟩
  unfold IsClosed
  rw [unread, noTags]
  rfl

/-- A tag that ends with a value in quotation marks is one tag. -/
theorem tags_quoted
    {name value : List Char}
    (opens : Scan.start.run front = ⟨.quoted name '"', front, []⟩)
    (unquoted : '"' ∉ value) :
    IsClosed (front ++ value ++ ['"', '>']) ∧
      tags (front ++ value ++ ['"', '>']) = [⟨name, front ++ value ++ ['"', '>']⟩] := by
  have whole : Scan.start.run (front ++ value ++ ['"', '>']) =
      ⟨.text, [], [⟨name, front ++ value ++ ['"', '>']⟩]⟩ := by
    rw [Scan.run_append, Scan.run_append, opens, Scan.run_quoted unquoted]
    simp [Scan.run, Scan.step, Mode.step, Mode.insideStep, Mode.tag?, isBlank]
  have single := congrArg Scan.tags whole
  refine ⟨?_, single⟩
  unfold IsClosed
  rw [whole]
  exact congrArg _ single.symm

end Laws

/-- The value in quotation marks of the first attribute of a name. -/
theorem attribute?_quoted
    {tag name page : String}
    {back : List Char}
    (front : String)
    (value : List Char)
    (noValue : firstValue? tag.toList name.toList .text front.toList = none)
    (inFront : read .text front.toList = .equals tag.toList name.toList)
    (unquoted : '"' ∉ value)
    (shape : page.toList = front.toList ++ '"' :: (value ++ '"' :: back)) :
    attribute? tag name page = some (String.ofList (unescape value)) := by
  rw [attribute?, shape, firstValue?_quoted noValue inFront unquoted]
  rfl

/-! ## Forms -/

/-- The field of a form that a tag makes: the name and value of an input. -/
def control? (tag : Tag) : Option (String × String) :=
  if tag.name = "input".toList then
    (attribute? "input" "name" (String.ofList tag.written)).map fun name =>
      (name, (attribute? "input" "value" (String.ofList tag.written)).getD "")
  else none

/-- The fields of the first form in a page, before anything is filled in. -/
def controls (page : String) : List (String × String) :=
  (((tags page.toList).dropWhile (·.name != "form".toList)).takeWhile
    (·.name != "/form".toList)).filterMap control?

/-- Fields of a form with some of them filled in. -/
def fillIn (entries fields : List (String × String)) : List (String × String) :=
  fields.map fun (name, value) => (name, (entries.lookup name).getD value)

/-- The field that a tag makes, read from its characters. -/
def field? (tag : Tag) : Option (String × String) :=
  if tag.name = "input".toList then
    (firstValue? "input".toList "name".toList .text tag.written).map fun name =>
      (String.ofList (unescape name),
        ((firstValue? "input".toList "value".toList .text tag.written).map
          (String.ofList ∘ unescape)).getD "")
  else none

/-- The field that a tag makes does not depend on how its characters are kept. -/
theorem control?_eq_field? : control? = field? := by
  funext tag
  have reads (name : String) : attribute? "input" name (String.ofList tag.written) =
      (firstValue? "input".toList name.toList .text tag.written).map
        (String.ofList ∘ unescape) :=
    congrArg (Option.map _ <| firstValue? _ _ _ ·) String.toList_ofList
  unfold control? field?
  rw [reads, reads, Option.map_map]
  rfl

section Lines

variable {front behind chars : List Char}
variable {fields others : List (String × String)}
variable {line : String}
variable {lines : List String}

theorem IsClosed.cons
    (lineClosed : IsClosed line.toList)
    (linesClosed : IsClosed (Pages.unlines lines).toList) :
    IsClosed (Pages.unlines (line :: lines)).toList := by
  have ended := lineClosed.append (isClosed_of_noTag (show '<' ∉ ['\n'] by decide)).1
  have together := ended.append linesClosed
  rwa [Pages.toList_unlines] at together ⊢

/-- The tags of a line without an open tag come before those of later lines. -/
theorem IsClosed.tags_cons
    (lineClosed : IsClosed line.toList)
    (lines : List String) :
    tags (Pages.unlines (line :: lines)).toList =
      tags line.toList ++ tags (Pages.unlines lines).toList := by
  obtain ⟨endClosed, noTags⟩ := isClosed_of_noTag (show '<' ∉ ['\n'] by decide)
  rw [Pages.toList_unlines, List.flatMap_cons, ← Pages.toList_unlines,
    (lineClosed.append endClosed).tags_append, lineClosed.tags_append, noTags,
    List.append_nil]

/-- Whether a part of a page stands in front of the first form. -/
structure IsBeforeForm (chars : List Char) : Prop where
  closed : IsClosed chars
  noForm : ∀ tag ∈ tags chars, (tag.name != "form".toList) = true

instance (chars : List Char) : Decidable (IsBeforeForm chars) :=
  decidable_of_iff (IsClosed chars ∧ ∀ tag ∈ tags chars,
    (tag.name != "form".toList) = true)
    ⟨fun both => ⟨both.1, both.2⟩, fun before => ⟨before.closed, before.noForm⟩⟩

/-- Parts in front of a form are in front of it together. -/
theorem IsBeforeForm.append
    (frontBefore : IsBeforeForm front)
    (behindBefore : IsBeforeForm behind) :
    IsBeforeForm (front ++ behind) where
  closed := frontBefore.closed.append behindBefore.closed
  noForm := by
    rw [frontBefore.closed.tags_append]
    exact List.forall_mem_append.mpr ⟨frontBefore.noForm, behindBefore.noForm⟩

theorem isBeforeForm_of_noTag (noTag : '<' ∉ chars) : IsBeforeForm chars := by
  obtain ⟨closed, noTags⟩ := isClosed_of_noTag noTag
  refine ⟨closed, ?_⟩
  rw [noTags]
  exact List.forall_mem_nil _

/-- Lines in front of a form are in front of it together. -/
theorem isBeforeForm_unlines
    (before : ∀ line ∈ lines, IsBeforeForm line.toList) :
    IsBeforeForm (Pages.unlines lines).toList := by
  induction lines with
  | nil => exact isBeforeForm_of_noTag List.not_mem_nil
  | cons line rest inductionHypothesis =>
      obtain ⟨lineBefore, restBefore⟩ := List.forall_mem_cons.mp before
      have together := inductionHypothesis restBefore
      refine ⟨lineBefore.closed.cons together.closed, ?_⟩
      rw [lineBefore.closed.tags_cons]
      exact List.forall_mem_append.mpr ⟨lineBefore.noForm, together.noForm⟩

/-- Whether a part of a page leaves no tag open, ends no form, and makes fields. -/
structure MakesFields (chars : List Char) (fields : List (String × String)) : Prop where
  closed : IsClosed chars
  goesOn : ∀ tag ∈ tags chars, (tag.name != "/form".toList) = true
  isFields : (tags chars).filterMap control? = fields

instance (chars : List Char) (fields : List (String × String)) :
    Decidable (MakesFields chars fields) :=
  decidable_of_iff
    (IsClosed chars ∧ (∀ tag ∈ tags chars, (tag.name != "/form".toList) = true) ∧
      (tags chars).filterMap field? = fields)
    ⟨fun ⟨closed, goesOn, isFields⟩ =>
        ⟨closed, goesOn,
          (congrArg (List.filterMap · _) control?_eq_field?).trans isFields⟩,
      fun makes => ⟨makes.closed, makes.goesOn,
        (congrArg (List.filterMap · _) control?_eq_field?.symm).trans makes.isFields⟩⟩

/-- No lines make no field. -/
theorem makesFields_nil : MakesFields (Pages.unlines []).toList [] :=
  ⟨rfl, List.forall_mem_nil _, rfl⟩

/-- A line in front of others makes its fields in front of theirs. -/
theorem MakesFields.cons
    (lineMakes : MakesFields line.toList fields)
    (linesMake : MakesFields (Pages.unlines lines).toList others) :
    MakesFields (Pages.unlines (line :: lines)).toList (fields ++ others) where
  closed := lineMakes.closed.cons linesMake.closed
  goesOn := by
    rw [lineMakes.closed.tags_cons]
    exact List.forall_mem_append.mpr ⟨lineMakes.goesOn, linesMake.goesOn⟩
  isFields := by
    rw [lineMakes.closed.tags_cons, List.filterMap_append, lineMakes.isFields,
      linesMake.isFields]

end Lines

/-- The first form has the fields that are made between its two tags. -/
theorem controls_eq
    {page : String}
    {front opening inside behind : List Char}
    {form ending : Tag}
    {later : List Tag}
    {fields : List (String × String)}
    (shape : page.toList = front ++ (opening ++ (inside ++ behind)))
    (before : IsBeforeForm front)
    (opens : IsClosed opening ∧ tags opening = [form])
    (isForm : form.name = "form".toList)
    (makes : MakesFields inside fields)
    (ends : tags behind = ending :: later)
    (isEnd : ending.name = "/form".toList) :
    controls page = fields := by
  have isTags :
      tags page.toList = tags front ++ form :: (tags inside ++ ending :: later) := by
    rw [shape, before.closed.tags_append, opens.1.tags_append, opens.2,
      makes.closed.tags_append, ends, List.singleton_append]
  have begins : ¬ (form.name != "form".toList) = true := by
    rw [isForm]
    decide
  have goesOn : (form.name != "/form".toList) = true := by
    rw [isForm]
    decide
  have stops : ¬ (ending.name != "/form".toList) = true := by
    rw [isEnd]
    decide
  have noField : control? form = none := by
    unfold control?
    rw [isForm]
    exact if_neg (by decide)
  unfold controls
  rw [isTags, List.dropWhile_append_of_pos before.noForm, List.dropWhile_cons,
    if_neg begins, List.takeWhile_cons, if_pos goesOn,
    List.takeWhile_append_of_pos makes.goesOn, List.takeWhile_cons, if_neg stops,
    List.append_nil, List.filterMap_cons_none noField, makes.isFields]

end Markup

namespace Pages

open Markup

variable (pages : Pages)

/-- An escaped text between parts in front of a form is in front with them. -/
theorem isBeforeForm_around
    {front back : String}
    (frontBefore : IsBeforeForm front.toList)
    (backBefore : IsBeforeForm back.toList)
    (text : String) :
    IsBeforeForm (front ++ escape text ++ back).toList := by
  have escaped : IsBeforeForm (escape text).toList :=
    isBeforeForm_of_noTag (not_mem_escape (by decide) text)
  rw [String.toList_append, String.toList_append]
  exact (frontBefore.append escaped).append backBefore

/-- The lines of the sign-in page between the destination and the end of the form. -/
def signInFields : List String :=
  ["<label for=\"username\">Username</label>",
    "<input type=\"text\" id=\"username\" name=\"username\" autocapitalize=\"off\" "
      ++ "autocorrect=\"off\" autofocus>",
    "<label for=\"password\">Password</label>",
    "<input type=\"password\" id=\"password\" name=\"password\">",
    "<button type=\"submit\">Sign In</button>"]

/-- The lines of the sign-in page from the end of the form. -/
def signInFoot : List String :=
  ["</form>", "</main>", pages.footerMarkup, "</body>", "</html>"]

/-- The input for the destination. -/
def destinationInput (destination : String) : String :=
  "<input type=\"hidden\" name=\"rd\" value=\"" ++ escape destination ++ "\">"

/-- The input for the destination is one tag, up to the end of its value. -/
theorem toList_destinationInput (destination : String) :
    (destinationInput destination).toList =
      "<input type=\"hidden\" name=\"rd\" value=\"".toList ++
        (escape destination).toList ++
        ['"', '>'] := by
  unfold destinationInput
  rw [String.toList_append, String.toList_append]
  rfl

/-- The input for the destination makes a field with the destination. -/
theorem control?_destinationInput (destination : String) :
    control? ⟨"input".toList, (destinationInput destination).toList⟩ =
      some ("rd", destination) := by
  have named : "<input type=\"hidden\" name=\"rd\" value=\"".toList =
      "<input type=\"hidden\" name=".toList ++
        '"' :: ("rd".toList ++ '"' :: " value=\"".toList) := by
    decide
  have valued : "<input type=\"hidden\" name=\"rd\" value=\"".toList =
      "<input type=\"hidden\" name=\"rd\" value=".toList ++ ['"'] := by
    decide
  have name : attribute? "input" "name" (destinationInput destination) = some "rd" := by
    have shape := toList_destinationInput destination
    rw [named, List.append_assoc, List.append_assoc, List.cons_append, List.append_assoc,
      List.cons_append] at shape
    rw [attribute?_quoted _ _ (by decide) (by decide) (by decide) shape]
    decide
  have value :
      attribute? "input" "value" (destinationInput destination) = some destination := by
    have shape := toList_destinationInput destination
    rw [valued, List.append_assoc, List.append_assoc, List.singleton_append] at shape
    rw [attribute?_quoted _ _ (by decide) (by decide)
      (not_mem_escape (by decide) destination) shape,
      unescape_escape, String.ofList_toList]
  unfold control?
  rw [if_pos rfl, String.ofList_toList, name, value]
  rfl

theorem toList_unlines_append (lines others : List String) :
    (unlines (lines ++ others)).toList =
      (unlines lines).toList ++ (unlines others).toList := by
  simp only [toList_unlines, List.flatMap_append]

/-- The line that begins the form of the sign-in page. -/
def formLine : String :=
  "<form method=\"POST\" action=\"" ++ escape (pages.start ++ "/sign_in") ++ "\">"

/-- The line that begins the form is one tag. -/
theorem tags_formLine :
    IsClosed pages.formLine.toList ∧
      tags pages.formLine.toList = [⟨"form".toList, pages.formLine.toList⟩] := by
  have shape : pages.formLine.toList = "<form method=\"POST\" action=\"".toList ++
      (escape (pages.start ++ "/sign_in")).toList ++ ['"', '>'] := by
    unfold formLine
    rw [String.toList_append, String.toList_append]
    rfl
  rw [shape]
  exact tags_quoted (by decide +kernel) (not_mem_escape (by decide) _)

theorem tags_destinationInput (destination : String) :
    IsClosed (destinationInput destination).toList ∧
      tags (destinationInput destination).toList =
        [⟨"input".toList, (destinationInput destination).toList⟩] := by
  rw [toList_destinationInput]
  exact tags_quoted (by decide +kernel) (not_mem_escape (by decide) _)

/-- The input for the destination makes a field with the destination. -/
theorem makesFields_destinationInput (destination : String) :
    MakesFields (destinationInput destination).toList [("rd", destination)] := by
  obtain ⟨closed, isTags⟩ := tags_destinationInput destination
  refine ⟨closed, ?_, ?_⟩
  · rw [isTags, List.forall_mem_singleton]
    exact (by decide : ("input".toList != "/form".toList) = true)
  · rw [isTags, List.filterMap_cons_some (control?_destinationInput destination),
      List.filterMap_nil]

/-- The lines behind the destination make empty fields for the user and the password. -/
theorem makesFields_signInFields :
    MakesFields (unlines signInFields).toList [("username", ""), ("password", "")] := by
  have userLabel : MakesFields "<label for=\"username\">Username</label>".toList [] := by
    rw [String.toList_ofList]
    decide +kernel
  have user : MakesFields
      ("<input type=\"text\" id=\"username\" name=\"username\" autocapitalize=\"off\" "
        ++ "autocorrect=\"off\" autofocus>").toList
        [("username", "")] := by
    rw [String.toList_append, String.toList_ofList, String.toList_ofList]
    decide +kernel
  have passwordLabel :
      MakesFields "<label for=\"password\">Password</label>".toList [] := by
    rw [String.toList_ofList]
    decide +kernel
  have password : MakesFields
      "<input type=\"password\" id=\"password\" name=\"password\">".toList
        [("password", "")] := by
    rw [String.toList_ofList]
    decide +kernel
  have button : MakesFields "<button type=\"submit\">Sign In</button>".toList [] := by
    rw [String.toList_ofList]
    decide +kernel
  exact userLabel.cons
    (user.cons (passwordLabel.cons (password.cons (button.cons makesFields_nil))))

/-- The form of the sign-in page has the destination, and empty fields for user and
password. -/
theorem controls_signIn
    (destination : String)
    (failed : Bool) :
    controls (pages.signIn destination failed) =
      [("rd", destination), ("username", ""), ("password", "")] := by
  have head : ∀ line ∈ signInHead, IsBeforeForm line.toList := by
    simp only [signInHead, List.forall_mem_cons]
    repeat rw [String.toList_ofList]
    decide +kernel
  have message : IsBeforeForm pages.messageMarkup.toList := by
    unfold messageMarkup
    split_ifs
    · decide
    · exact isBeforeForm_around (by decide) (by decide) _
  have failure : IsBeforeForm (failureMarkup failed).toList := by
    cases failed
    · decide
    · decide +kernel
  have before : IsBeforeForm
      (unlines (signInHead ++ [pages.messageMarkup, failureMarkup failed])).toList := by
    refine isBeforeForm_unlines (List.forall_mem_append.mpr ⟨head, ?_⟩)
    rw [List.forall_mem_cons, List.forall_mem_singleton]
    exact ⟨message, failure⟩
  have fields := (makesFields_destinationInput destination).cons makesFields_signInFields
  have page : pages.signIn destination failed =
      unlines ((signInHead ++ [pages.messageMarkup, failureMarkup failed]) ++
        ([pages.formLine] ++
          ((destinationInput destination :: signInFields) ++ pages.signInFoot))) :=
    rfl
  have shape := congrArg String.toList page
  rw [toList_unlines_append, toList_unlines_append [_],
    toList_unlines_append (_ :: _)] at shape
  obtain ⟨formClosed, formTag⟩ := pages.tags_formLine
  have opens : tags (unlines [pages.formLine]).toList =
      [⟨"form".toList, pages.formLine.toList⟩] := by
    rw [formClosed.tags_cons, formTag]
    rfl
  have endClosed : IsClosed "</form>".toList := by decide
  have ends := endClosed.tags_cons ["</main>", pages.footerMarkup, "</body>", "</html>"]
  have endTag : tags "</form>".toList = [⟨"/form".toList, "</form>".toList⟩] := by decide
  rw [endTag] at ends
  exact controls_eq shape before ⟨formClosed.cons rfl, opens⟩ rfl fields ends rfl

end Pages
end Gatehouse
