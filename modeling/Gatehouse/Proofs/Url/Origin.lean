import Gatehouse.Proofs.Outcome
import Gatehouse.Proofs.Url.Server
import Mathlib.Data.Bool.AllAny
import Mathlib.Tactic.Common

/-!
# Reading a path behind an origin

The origin of an address of the web, with a path and a query behind it, is read as this
address with that path and that query. Nothing behind the origin has an influence on the
server.
-/

namespace Gatehouse
namespace Url

open Text

/-- Whether an address belongs to the web. -/
def IsWeb (url : Url) : Prop :=
  url.scheme = "http" ∨ url.scheme = "https"

/-- The schemes of the web are special. -/
theorem IsWeb.special
    {url : Url}
    (web : url.IsWeb) :
    schemeKind url.scheme = .special := by
  rcases web with isHttp | isHttps
  · rw [isHttp]
    decide
  · rw [isHttps]
    decide

/-- The scheme of files is none of the web. -/
theorem IsWeb.notFile
    {url : Url}
    (web : url.IsWeb) :
    url.scheme ≠ "file" := by
  intro isFile
  have special := web.special
  rw [isFile] at special
  exact absurd special (by decide)

/-- Every character of a text without blanks counts. -/
theorem significant_of_visible
    {text : String}
    (visible : ∀ char ∈ text.toList, 0x20 < char.toNat) :
    significant text = text.toList := by
  have trimmed : trimBoth (fun char => char.toNat ≤ 0x20) text.toList = text.toList :=
    trimBoth_append_of_kept (List.forall_mem_nil _) fun char present => by
      simpa using visible char present
  unfold significant
  rw [trimmed, List.filter_eq_self.mpr]
  intro char present
  have charVisible := visible char present
  have notBlank : ∀ blank ∈ ['\t', '\n', '\r'], char ≠ blank := by
    have blanks : ∀ blank ∈ ['\t', '\n', '\r'], ¬ 0x20 < blank.toNat :=
      List.all_iff_forall_prop.mp (by decide)
    rintro blank isBlank rfl
    exact blanks char isBlank charVisible
  simp [notBlank]

/-- The address of a file has its scheme. -/
theorem scheme_of_readFile
    {chars : List Char}
    {url : Url}
    (read : readFile chars = .ok url) :
    url.scheme = "file" := by
  unfold readFile at read
  simp only [bind, Except.bind, pure, Except.pure] at read
  split at read
  · split at read
    · cases read
      rfl
    · split at read
      · cases read
        rfl
      · split at read
        · cases read
        · cases read
          rfl
  · cases read
    rfl

/-- What is read behind slashes has the scheme in front of them. -/
theorem scheme_of_afterSlashes
    {scheme : String}
    {chars : List Char}
    {url : Url}
    (read : afterSlashes scheme chars = .ok url) :
    url.scheme = scheme := by
  have finish : ∀ {first : Except UrlError Host} {digits : List Char}
      {make : Host → Option Nat → Url}, (∀ host port, (make host port).scheme = scheme) →
      (do
        let host ← first
        let port ← readPort scheme digits
        return make host port) = Except.ok url →
      url.scheme = scheme := by
    intro first digits make sameScheme built
    obtain ⟨host, -, withHost⟩ := Outcome.bind_eq_ok_iff.mp built
    obtain ⟨port, -, withPort⟩ := Outcome.bind_eq_ok_iff.mp withHost
    cases withPort
    exact sameScheme host port
  unfold afterSlashes at read
  obtain ⟨info, -, withInfo⟩ := Outcome.bind_eq_ok_iff.mp read
  simp only at withInfo
  split at withInfo
  · split at withInfo
    · exact finish (fun _ _ => rfl) withInfo
    · exact finish (fun _ _ => rfl) withInfo
  · split at withInfo
    · exact finish (fun _ _ => rfl) withInfo
    · exact finish (fun _ _ => rfl) withInfo

/-- The scheme of an address of the web is special. -/
theorem special_of_afterScheme
    {scheme : String}
    {chars : List Char}
    {url : Url}
    (read : afterScheme scheme chars = .ok url)
    (web : url.IsWeb) :
    schemeKind scheme = .special := by
  have specialScheme := web.special
  unfold afterScheme at read
  cases kind : schemeKind scheme with
  | special => rfl
  | file =>
      rw [kind] at read
      rw [scheme_of_readFile read] at specialScheme
      exact absurd specialScheme (by decide)
  | other =>
      rw [kind] at read
      have sameScheme : url.scheme = scheme := by
        simp only at read
        unfold readOther at read
        split at read
        · exact scheme_of_afterSlashes read
        · cases read
          rfl
      rw [sameScheme, kind] at specialScheme
      cases specialScheme

/-- An address of the web that has been read is well read. -/
theorem wellRead_of_ofText
    {given : String}
    {url : Url}
    (read : ofText given = .ok url)
    (web : url.IsWeb) :
    url.WellRead := by
  unfold ofText at read
  split at read
  · rename_i scheme rest _
    have special := special_of_afterScheme read web
    unfold afterScheme at read
    rw [special] at read
    exact (wellRead_of_afterSlashes special read).1
  · cases read

/-- The scheme of an address of the web is found in front of its colon. -/
theorem splitScheme?_web
    {url : Url}
    (web : url.IsWeb)
    (rest : List Char) :
    splitScheme? (url.scheme.toList ++ ':' :: rest) = some (url.scheme, rest) := by
  rcases web with isHttp | isHttps
  · rw [isHttp]
    rfl
  · rw [isHttps]
    rfl

/-- The origin of an address, before what ends a server, is read as that address. -/
theorem ofText_origin_append
    {url : Url}
    {host : Host}
    (web : url.IsWeb)
    (wellRead : url.WellRead)
    (isHost : url.host = some host)
    (rereads : host.Rereads)
    {after : List Char}
    (visible : ∀ char ∈ after, 0x20 < char.toNat)
    (ends : ∀ char, after.head? = some char → endsAuthority .special char = true) :
    ofText (url.origin ++ String.ofList after) =
      .ok { url with
            path := if (splitTail after).front.isEmpty then "/"
              else pathFrom .special [] ((splitTail after).front.drop 1)
            query := encodeQuery .special (splitTail after).query
            fragment := encodeFragment (splitTail after).fragment } := by
  have isServer := fun char present =>
    @isServerChar_of_mem_server url host wellRead isHost rereads char present
  have nonempty : url.userinfo.toList ++ url.hostAndPort.toList ≠ [] := by
    rw [toList_hostAndPort isHost]
    simp [rereads.nonempty]
  have shape : (url.origin ++ String.ofList after).toList =
      url.scheme.toList ++ ':' ::
        ('/' :: '/' :: (url.userinfo.toList ++ url.hostAndPort.toList ++ after)) := by
    simp [origin]
  have schemeVisible : ∀ char ∈ url.scheme.toList, 0x20 < char.toNat := by
    rcases web with isHttp | isHttps
    · rw [isHttp]
      exact List.all_iff_forall_prop.mp (by decide)
    · rw [isHttps]
      exact List.all_iff_forall_prop.mp (by decide)
  have allVisible :
      ∀ char ∈ (url.origin ++ String.ofList after).toList, 0x20 < char.toNat := by
    rw [shape]
    intro char present
    simp only [List.mem_append, List.mem_cons] at present
    rcases present with inScheme | rfl | rfl | rfl | (inUserinfo | inServer) | inAfter
    · exact schemeVisible char inScheme
    · decide
    · decide
    · decide
    · exact (isServer char (List.mem_append_left _ inUserinfo)).1
    · exact (isServer char (List.mem_append_right _ inServer)).1
    · exact visible char inAfter
  have slashes :
        ('/' :: '/' :: (url.userinfo.toList ++ url.hostAndPort.toList ++ after)).dropWhile
        (fun char => char == '/' || char == '\\') =
      url.userinfo.toList ++ url.hostAndPort.toList ++ after := by
    obtain ⟨first, others, isCons⟩ := List.exists_cons_of_ne_nil nonempty
    have firstIsServer := isServer first (isCons ▸ List.mem_cons_self)
    rw [isCons]
    simp [firstIsServer.2.1, firstIsServer.2.2.1]
  unfold ofText
  rw [significant_of_visible allVisible, shape, splitScheme?_web web]
  simp only
  unfold afterScheme
  rw [wellRead.special]
  simp only
  rw [slashes]
  exact afterSlashes_server_append wellRead isHost rereads ends

/-- The origin of an address is read with the path behind it. -/
theorem ofText_origin
    {url : Url}
    {host : Host}
    (web : url.IsWeb)
    (wellRead : url.WellRead)
    (isHost : url.host = some host)
    (rereads : host.Rereads)
    {rest : List Char}
    (visible : ∀ char ∈ rest, 0x20 < char.toNat) :
    ofText (url.origin ++ String.ofList ('/' :: rest)) =
      .ok { url with
            path := pathFrom .special [] (splitTail rest).front
            query := encodeQuery .special (splitTail rest).query
            fragment := encodeFragment (splitTail rest).fragment } := by
  have allVisible : ∀ char ∈ '/' :: rest, 0x20 < char.toNat :=
    List.forall_mem_cons.mpr ⟨by decide, visible⟩
  have ends :
      ∀ char, ('/' :: rest).head? = some char → endsAuthority .special char = true := by
    rintro char ⟨⟩
    decide
  rw [ofText_origin_append web wellRead isHost rereads allVisible ends, splitTail_slash]
  rfl

end Url
end Gatehouse
