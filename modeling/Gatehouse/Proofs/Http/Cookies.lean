import Gatehouse.Http.Cookie
import Gatehouse.Proofs.Http.FieldText
import Gatehouse.Proofs.Text.Splitting
import Mathlib.Tactic.Common

/-!
# Which cookies a response carries

A cookie that is asked for is added to a response as long as it can be dated and its text
can stand in a field. The text of a cookie can stand in a field if its name, its value and
its domain can; a domain that is taken from the host of a request always can.
-/

namespace Gatehouse

open Headers

namespace SetCookie

/-- A domain without a dot in front can stand in a field if the domain can. -/
theorem isText_bareDomain
    {domain : String}
    (isText : IsText domain) :
    IsText (bareDomain domain) := by
  unfold bareDomain
  cases stripped : Text.stripStart? "." domain with
  | none => exact isText
  | some rest =>
      rw [Text.stripStart?_eq_some_iff.mp stripped] at isText
      exact ((isText_append _ _).mp isText).2

/-- A cookie can stand in a field if its name, value and domain can. -/
theorem isText_text
    {cookie : SetCookie}
    (nameIsText : IsText cookie.name)
    (valueIsText : IsText cookie.value)
    (domainIsText : ∀ domain, cookie.domain = some domain → IsText domain) :
    IsText cookie.text := by
  have httpOnly : IsText (if cookie.httpOnly then "; HttpOnly" else "") := by
    cases cookie.httpOnly <;> decide
  have secure : IsText (if cookie.secure then "; Secure" else "") := by
    cases cookie.secure <;> decide
  unfold text
  simp only [isText_append, nameIsText, valueIsText, httpOnly, secure, Date.isText_text,
    true_and, and_true]
  refine ⟨⟨⟨by decide, by decide⟩, ?_⟩, by decide⟩
  cases named : cookie.domain with
  | none => decide
  | some domain =>
      exact (isText_append _ _).mpr
        ⟨by decide, isText_bareDomain (domainIsText domain named)⟩

end SetCookie

namespace Headers

variable (headers : Headers)

theorem getAll_addCookie (cookie : SetCookie) :
    (headers.addCookie cookie).getAll "set-cookie" =
      headers.getAll "set-cookie" ++ (value? cookie.text).toList := by
  unfold addCookie
  cases value? cookie.text with
  | none => simp
  | some value => simp

/-- Adding a cookie leaves the other fields alone. -/
theorem getAll_addCookie_other
    {name : String}
    (cookie : SetCookie)
    (different : name ≠ "set-cookie") :
    (headers.addCookie cookie).getAll name = headers.getAll name := by
  unfold addCookie
  cases value? cookie.text with
  | none => rfl
  | some value => exact getAll_append_other _ _ different

end Headers

/-- The value of the cookie that an effect asks for. -/
def CookieEffect.value : CookieEffect → String
  | .set value => value
  | .clear => ""

namespace CookieSettings

variable (settings : CookieSettings)
variable (host : Option String)
variable (now : Time)

/-- The end of the cookie that an effect asks for. -/
def ending : CookieEffect → Time
  | .set _ => now + settings.lifetime
  | .clear => now - 3600

/-- Whether the cookie of an effect can be dated: the present and its end have dates. -/
def Datable (effect : CookieEffect) : Prop :=
  Date.exists? now = true ∧ Date.exists? (settings.ending now effect) = true

/-- The field of the cookie that an effect asks for, if there is one. -/
def field? (effect : CookieEffect) : Option Bytes :=
  (settings.cookieOf? host now effect).bind fun cookie => value? cookie.text

theorem cookieOf?_eq (effect : CookieEffect) :
    settings.cookieOf? host now effect =
      settings.cookie? effect.value host now (settings.ending now effect) := by
  cases effect <;> rfl

/-- There is a cookie for an effect exactly if it can be dated. -/
theorem isSome_cookieOf?_iff (effect : CookieEffect) :
    (settings.cookieOf? host now effect).isSome = true ↔ settings.Datable now effect := by
  rw [cookieOf?_eq]
  unfold cookie? Datable
  by_cases dated : (Date.exists? now && Date.exists? (settings.ending now effect)) = true
  · rw [if_pos dated]
    simpa using dated
  · rw [if_neg dated]
    simpa using dated

/-- A host without its port consists of characters of the host. -/
theorem mem_of_mem_withoutPort
    {text : String}
    {char : Char}
    (present : char ∈ (withoutPort text).toList) :
    char ∈ text.toList := by
  unfold withoutPort at present
  split at present
  · rename_i rest shape
    rw [String.toList_ofList] at present
    rw [shape]
    exact List.mem_cons_of_mem _ (List.takeWhile_subset _ present)
  · split at present
    · rename_i name port split
      obtain ⟨shape, -⟩ := Text.splitLast?_eq_some_iff.mp split
      split at present
      · rw [String.toList_ofList] at present
        rw [shape]
        exact List.mem_append_left _ present
      · exact present
    · exact present

/-- The domain of a cookie can stand in a field if its sources can. -/
theorem isText_domainFor
    (configuredIsText : ∀ domain, settings.domain = some domain → IsText domain)
    (hostIsText : ∀ text, host = some text → IsText text)
    {domain : String}
    (isDomain : settings.domainFor host = some domain) :
    IsText domain := by
  unfold domainFor at isDomain
  split at isDomain
  · rename_i configured isConfigured
    rw [← Option.some.inj isDomain]
    exact configuredIsText configured isConfigured
  · obtain ⟨isHost, -⟩ := Option.filter_eq_some_iff.mp isDomain
    obtain ⟨text, isText, rfl⟩ := Option.map_eq_some_iff.mp isHost
    exact isText_of_subset (hostIsText text isText) fun _ => mem_of_mem_withoutPort

/-- The cookie of an effect can stand in a field, if its value can. -/
theorem isText_cookieOf?
    (nameIsText : IsText settings.name)
    (configuredIsText : ∀ domain, settings.domain = some domain → IsText domain)
    (hostIsText : ∀ text, host = some text → IsText text)
    {effect : CookieEffect}
    {cookie : SetCookie}
    (valueIsText : IsText effect.value)
    (isCookie : settings.cookieOf? host now effect = some cookie) :
    cookie.name = settings.name ∧ cookie.value = effect.value ∧
      cookie.expires = settings.ending now effect ∧ IsText cookie.text := by
  rw [cookieOf?_eq] at isCookie
  unfold cookie? at isCookie
  split at isCookie
  · rw [← Option.some.inj isCookie]
    refine ⟨rfl, rfl, rfl, SetCookie.isText_text nameIsText valueIsText ?_⟩
    intro domain isDomain
    exact settings.isText_domainFor host configuredIsText hostIsText isDomain
  · cases isCookie

/-- The clearing cookie is empty, has ended an hour ago, and fits a field. -/
theorem clearedCookie?_of_datable
    (nameIsText : IsText settings.name)
    (configuredIsText : ∀ domain, settings.domain = some domain → IsText domain)
    (hostVisible : ∀ text, host = some text → ∀ char ∈ text.toList, IsVisible char)
    (datable : settings.Datable now .clear) :
    ∃ cookie, settings.clearedCookie? host now = some cookie ∧
      cookie.name = settings.name ∧ cookie.value = "" ∧ cookie.expires = now - 3600 ∧
      settings.field? host now .clear = some (Text.Utf8.encode cookie.text) := by
  obtain ⟨cookie, isCookie⟩ :=
    Option.isSome_iff_exists.mp
      ((settings.isSome_cookieOf?_iff host now .clear).mpr datable)
  obtain ⟨isName, isEmpty, isEnd, cookieIsText⟩ :=
    settings.isText_cookieOf? host now nameIsText configuredIsText
      (fun text isHost => isText_of_visible (hostVisible text isHost))
      (show IsText CookieEffect.clear.value from isText_empty) isCookie
  refine ⟨cookie, isCookie, isName, isEmpty, isEnd, ?_⟩
  unfold field?
  rw [isCookie, Option.bind_some, value?_eq_encode cookieIsText]

/-- The cookies of effects are added exactly if all of them can be dated. -/
theorem isSome_applyAll?_iff
    (effects : List CookieEffect)
    (headers : Headers) :
    (settings.applyAll? effects host now headers).isSome = true ↔
      ∀ effect ∈ effects, settings.Datable now effect := by
  induction effects generalizing headers with
  | nil => simp [applyAll?]
  | cons effect others inductionHypothesis =>
      simp only [List.forall_mem_cons, ← settings.isSome_cookieOf?_iff host now effect]
      unfold applyAll? at inductionHypothesis ⊢
      rw [List.foldlM_cons]
      cases settings.cookieOf? host now effect with
      | none => simp
      | some cookie => simpa using inductionHypothesis _

/-- The cookies of effects are added in order; other fields are left alone. -/
theorem getAll_applyAll?
    {effects : List CookieEffect}
    {headers final : Headers}
    (applied : settings.applyAll? effects host now headers = some final) :
    final.getAll "set-cookie" =
        headers.getAll "set-cookie" ++ effects.filterMap (settings.field? host now) ∧
      ∀ name, name ≠ "set-cookie" → final.getAll name = headers.getAll name := by
  induction effects generalizing headers with
  | nil =>
      rw [← Option.some.inj applied]
      simp
  | cons effect others inductionHypothesis =>
      unfold applyAll? at applied
      rw [List.foldlM_cons] at applied
      obtain ⟨between, isBetween, rest⟩ := Option.bind_eq_some_iff.mp applied
      obtain ⟨cookie, isCookie, rfl⟩ := Option.map_eq_some_iff.mp isBetween
      obtain ⟨cookies, otherFields⟩ := inductionHypothesis rest
      have isField : settings.field? host now effect = value? cookie.text := by
        unfold field?
        rw [isCookie, Option.bind_some]
      refine ⟨?_, ?_⟩
      · rw [cookies, getAll_addCookie, List.append_assoc, List.filterMap_cons, isField]
        cases value? cookie.text <;> rfl
      · intro name different
        rw [otherFields name different, getAll_addCookie_other _ cookie different]

end CookieSettings

/-- The host of a request that has been read consists of visible characters. -/
theorem Request.visible_of_host?
    {request : Request}
    {text host : String}
    (read : RequestTarget.ofText? text = some request.target)
    (isHost : request.host? = some host) :
    ∀ char ∈ host.toList, IsVisible char := by
  unfold Request.host? at isHost
  split at isHost
  · rename_i named isNamed
    rw [← Option.some.inj isHost]
    exact visible_of_firstText? isNamed
  · exact RequestTarget.visible_of_authority read isHost

end Gatehouse
