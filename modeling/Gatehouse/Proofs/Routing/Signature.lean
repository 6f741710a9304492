import Gatehouse.Http.Request
import Gatehouse.Proofs.Http.FieldText
import Gatehouse.Proofs.Text.Splitting
import Gatehouse.Routing.Signer
import Mathlib.Tactic.Common

/-!
# What a signature covers

The text that is signed has a line for the method and one for each covered field, and
behind them the path and the query. No line contains the end of a line and no path a
question mark, so that the text can be taken apart into what it was made of: two requests
have one text exactly if they agree in all of these parts. A signature that was made for
one request is accepted for another one exactly if they agree, or if different texts have
the same tag.
-/

namespace Gatehouse

open Text

namespace RequestTarget

/-- A query with its question mark. -/
def queryChars : Option (List Char) → List Char
  | none => []
  | some query => '?' :: query

/-- What stands in front of the question mark is the path. -/
theorem takeWhile_queryChars
    {front : List Char}
    (absent : '?' ∉ front)
    (query : Option (List Char)) :
    (front ++ queryChars query).takeWhile (· != '?') = front := by
  apply takeWhile_append_of_stop
  · intro char present
    exact bne_iff_ne.mpr (ne_of_mem_of_not_mem present absent)
  · cases query with
    | none => nofun
    | some chars =>
        rintro _ ⟨⟩
        rfl

/-- A path and a query are determined by their text. -/
theorem append_queryChars_inj
    {first second : List Char}
    {firstQuery secondQuery : Option (List Char)}
    (firstAbsent : '?' ∉ first)
    (secondAbsent : '?' ∉ second) :
    first ++ queryChars firstQuery = second ++ queryChars secondQuery ↔
      first = second ∧ firstQuery = secondQuery := by
  constructor
  · intro same
    have samePath : first = second := by
      rw [← takeWhile_queryChars firstAbsent firstQuery, same,
        takeWhile_queryChars secondAbsent]
    rw [samePath, List.append_cancel_left_eq] at same
    refine ⟨samePath, ?_⟩
    cases firstQuery with
    | none =>
        cases secondQuery with
        | none => rfl
        | some chars => cases same
    | some chars =>
        cases secondQuery with
        | none => cases same
        | some others => rw [(List.cons.inj same).2]
  · rintro ⟨rfl, rfl⟩
    rfl

/-- A path contains no question mark. -/
theorem mark_notMem_toList_path (target : RequestTarget) : '?' ∉ target.path.toList := by
  unfold path
  split
  · exact List.not_mem_nil
  split
  · decide
  · rw [String.toList_ofList]
    intro present
    exact absurd (List.mem_takeWhile_imp present) (by decide)

/-- The query as far as it is signed: an empty one counts as none. -/
def signedQuery? (target : RequestTarget) : Option String :=
  target.query?.filter (· != "")

end RequestTarget

namespace RequestSigner

section Lines

/-- The name of a method does not contain the end of a line. -/
theorem lineEnd_notMem_method
    {method : String}
    (valid : isMethod method = true) :
    '\n' ∉ method.toList := by
  unfold isMethod at valid
  rw [Bool.and_eq_true, List.all_eq_true] at valid
  intro present
  exact absurd (valid.2 _ present) (by decide)

/-- The values of a field that are signed do not contain the end of a line. -/
theorem lineEnd_notMem_joined
    (headers : Headers)
    (name : String) :
    '\n' ∉ (joined headers name).toList := by
  intro present
  unfold joined at present
  rw [String.toList_intercalate] at present
  rcases mem_of_mem_intercalate present with isComma | ⟨piece, isPiece, inPiece⟩
  · exact absurd isComma (by decide)
  · obtain ⟨text, isText, rfl⟩ := List.mem_map.mp isPiece
    obtain ⟨value, -, read⟩ := List.mem_filterMap.mp isText
    exact absurd (Headers.visible_of_text? read _ inPiece) (by decide)

/-- The lines of the text that is signed: the method, and the covered fields in order. -/
def signedLines
    (method : String)
    (headers : Headers) :
    List (List Char) :=
  method.toList :: signedHeaders.map fun name => (joined headers name).toList

/-- No line contains the end of a line. -/
theorem lineEnd_notMem_signedLines
    {method : String}
    (valid : isMethod method = true)
    (headers : Headers) :
    ∀ line ∈ signedLines method headers, '\n' ∉ line := by
  intro line isLine
  rcases List.mem_cons.mp isLine with rfl | isField
  · exact lineEnd_notMem_method valid
  · obtain ⟨name, -, rfl⟩ := List.mem_map.mp isField
    exact lineEnd_notMem_joined headers name

/-- The text that is signed consists of the lines and of the resource. -/
theorem toList_stringToSign
    (method : String)
    (target : RequestTarget)
    (headers : Headers) :
    (stringToSign method target headers).toList =
      (signedLines method headers).flatMap (· ++ ['\n']) ++ (resource target).toList := by
  have fields :
      (String.join (signedHeaders.map fun name => joined headers name ++ "\n")).toList =
        (signedHeaders.map fun name => (joined headers name).toList).flatMap
          (· ++ ['\n']) := by
    rw [String.toList_join, List.flatMap_map, List.flatMap_map]
    simp only [String.toList_append]
    rfl
  unfold stringToSign signedLines
  rw [String.toList_append, String.toList_append, String.toList_append, fields,
    List.flatMap_cons]
  rfl

/-- The resource is the path with the query that is signed. -/
theorem toList_resource (target : RequestTarget) :
    (resource target).toList =
      target.path.toList ++ RequestTarget.queryChars
        (target.signedQuery?.map String.toList) := by
  unfold resource RequestTarget.signedQuery?
  cases target.query?.filter (· != "") with
  | none => exact (List.append_nil _).symm
  | some query =>
      rw [String.toList_append, String.toList_append, List.append_assoc]
      rfl

/-- Resources are the same exactly if the paths are and the queries that are signed. -/
theorem resource_eq_iff {target other : RequestTarget} :
    resource target = resource other ↔
      target.path = other.path ∧ target.signedQuery? = other.signedQuery? := by
  have queries :
      target.signedQuery?.map String.toList = other.signedQuery?.map String.toList ↔
      target.signedQuery? = other.signedQuery? :=
    (Option.map_injective fun _ _ => String.toList_inj.mp).eq_iff
  rw [← String.toList_inj, toList_resource, toList_resource,
    RequestTarget.append_queryChars_inj target.mark_notMem_toList_path
      other.mark_notMem_toList_path,
    String.toList_inj, queries]

end Lines

/-- Whether two requests agree in everything that is signed. -/
structure Agree
    (method : String)
    (target : RequestTarget)
    (headers : Headers)
    (otherMethod : String)
    (otherTarget : RequestTarget)
    (otherHeaders : Headers) : Prop where
  method : method = otherMethod
  path : target.path = otherTarget.path
  query : target.signedQuery? = otherTarget.signedQuery?
  fields : ∀ name ∈ signedHeaders, joined headers name = joined otherHeaders name

section Covering

variable {method otherMethod : String}
variable {target otherTarget : RequestTarget}
variable {headers otherHeaders : Headers}

/-- Requests have the same lines exactly if the methods and covered values agree. -/
theorem signedLines_eq_iff :
    signedLines method headers = signedLines otherMethod otherHeaders ↔
      method = otherMethod ∧
        ∀ name ∈ signedHeaders, joined headers name = joined otherHeaders name := by
  unfold signedLines
  rw [List.cons.injEq, String.toList_inj, List.map_inj_left]
  simp only [String.toList_inj]

/-- Requests have one text exactly if they agree in everything that is signed. -/
theorem stringToSign_eq_iff
    (valid : isMethod method = true)
    (otherValid : isMethod otherMethod = true) :
    stringToSign method target headers =
      stringToSign otherMethod otherTarget otherHeaders ↔
      Agree method target headers otherMethod otherTarget otherHeaders := by
  have sameNumber :
      (signedLines method headers).length =
        (signedLines otherMethod otherHeaders).length := rfl
  rw [← String.toList_inj, toList_stringToSign, toList_stringToSign,
    flatMap_ended_inj sameNumber (lineEnd_notMem_signedLines valid headers)
      (lineEnd_notMem_signedLines otherValid otherHeaders),
    String.toList_inj, signedLines_eq_iff, resource_eq_iff]
  constructor
  · rintro ⟨⟨sameMethod, sameFields⟩, samePath, sameQuery⟩
    exact ⟨sameMethod, samePath, sameQuery, sameFields⟩
  · rintro ⟨sameMethod, samePath, sameQuery, sameFields⟩
    exact ⟨⟨sameMethod, sameFields⟩, samePath, sameQuery⟩

end Covering

section Checking

variable (signer : RequestSigner)
variable (method : String)
variable (target : RequestTarget)
variable (headers : Headers)

/-- A signature consists of visible characters. -/
theorem visible_signature :
    ∀ char ∈ (signer.signature method target headers).toList, Headers.IsVisible char := by
  have nameVisible :
      signer.algorithm.name.toList.all (fun char => decide (Headers.IsVisible char)) =
        true := by
    cases signer.algorithm <;> decide
  intro char present
  unfold signature at present
  rw [String.toList_append, String.toList_append, List.mem_append,
    List.mem_append] at present
  rcases present with (inName | isBlank) | inTag
  · exact of_decide_eq_true (List.all_eq_true.mp nameVisible char inName)
  · rw [List.mem_singleton.mp isBlank]
    decide
  · exact Headers.visible_base64 _ _ char inTag

theorem splitOnce?_signature :
    splitOnce? " " (signer.signature method target headers) =
      some (signer.algorithm.name,
        Base64.text Base64.urlSafe (signer.tag method target headers)) := by
  have unbroken : ' ' ∉ signer.algorithm.name.toList := by
    cases signer.algorithm <;> decide
  exact (splitOnce?_char_eq_some_iff rfl).mpr ⟨rfl, unbroken⟩

@[simp] theorem getAll_sign_self :
    (signer.sign method target headers).getAll header =
      [Utf8.encode (signer.signature method target headers)] :=
  headers.getAll_insertText_self _ _

theorem getAll_sign_other
    {name : String}
    (different : name ≠ header) :
    (signer.sign method target headers).getAll name = headers.getAll name :=
  headers.getAll_insertText_other _ different

/-- The signature is not covered, so signing does not change what is signed. -/
theorem stringToSign_sign :
    stringToSign method target (signer.sign method target headers) =
      stringToSign method target headers := by
  have fields : ∀ name ∈ signedHeaders,
      joined (signer.sign method target headers) name ++ "\n" =
        joined headers name ++ "\n" := by
    intro name covered
    have different : name ≠ header := by
      rintro rfl
      exact absurd covered (by decide)
    unfold joined Headers.texts
    rw [signer.getAll_sign_other _ _ _ different]
  unfold stringToSign
  rw [List.map_congr_left fields]

theorem tag_sign :
    signer.tag method target (signer.sign method target headers) =
      signer.tag method target headers := by
  unfold tag
  rw [stringToSign_sign]

theorem signature_sign :
    signer.signature method target (signer.sign method target headers) =
      signer.signature method target headers := by
  unfold signature
  rw [tag_sign]

theorem name_inj {first second : Crypto.HashAlgorithm} :
    first.name = second.name ↔ first = second := by
  cases first <;> cases second <;> decide

variable {method target headers}

/-- Another request's signature is accepted under its algorithm, if the tags agree. -/
theorem verify_iff_of_signature
    {checker : RequestSigner}
    {otherMethod : String}
    {otherTarget : RequestTarget}
    {otherHeaders : Headers}
    (carried : otherHeaders.get? header =
      some (Utf8.encode (signer.signature method target headers))) :
    checker.verify otherMethod otherTarget otherHeaders = true ↔
      checker.algorithm = signer.algorithm ∧
        checker.tag otherMethod otherTarget otherHeaders =
          signer.tag method target headers := by
  have isText :
      otherHeaders.firstText? header = some (signer.signature method target headers) := by
    unfold Headers.firstText?
    rw [carried]
    exact Headers.text?_encode (signer.visible_signature method target headers)
  unfold verify
  rw [isText, Option.bind_some, splitOnce?_signature]
  simp only [Base64.ofText?_text, Bool.and_eq_true, beq_iff_eq, name_inj]
  exact and_congr_left' eq_comm

/-- A request that has been signed is accepted. -/
theorem verify_sign :
    signer.verify method target (signer.sign method target headers) = true := by
  have carried : (signer.sign method target headers).get? header =
      some (Utf8.encode (signer.signature method target headers)) := by
    unfold Headers.get?
    rw [getAll_sign_self, List.head?_cons]
  rw [signer.verify_iff_of_signature carried]
  exact ⟨rfl, signer.tag_sign method target headers⟩

end Checking

/-- Whether two different texts have the same tag. -/
def Collides
    (signer : RequestSigner)
    (first second : String) : Prop :=
  first ≠ second ∧
    signer.algorithm.mac signer.key (Utf8.encode first) =
      signer.algorithm.mac signer.key (Utf8.encode second)

/-- Under one key, requests have one tag exactly if their texts agree or collide. -/
theorem tag_eq_tag_iff
    {signer checker : RequestSigner}
    {method otherMethod : String}
    {target otherTarget : RequestTarget}
    {headers otherHeaders : Headers}
    (sameAlgorithm : checker.algorithm = signer.algorithm)
    (sameKey : checker.key = signer.key) :
    checker.tag otherMethod otherTarget otherHeaders = signer.tag method target headers ↔
      stringToSign method target headers =
        stringToSign otherMethod otherTarget otherHeaders ∨
        signer.Collides (stringToSign method target headers)
          (stringToSign otherMethod otherTarget otherHeaders) := by
  unfold tag Collides
  rw [sameAlgorithm, sameKey]
  by_cases same :
      stringToSign method target headers =
        stringToSign otherMethod otherTarget otherHeaders
  · simp [same]
  · simp [same, eq_comm]

end RequestSigner
end Gatehouse
