import Gatehouse.Proofs.Routing.Delivery
import Gatehouse.Proofs.Routing.Signature
import Gatehouse.Proofs.Url.Host
import Gatehouse.Proofs.Url.Origin
import Gatehouse.Regex.Matching
import Gatehouse.Regex.Pattern
import Mathlib.Data.Bool.AllAny
import Mathlib.Tactic.Common

/-!
# What a backend receives of the path and the query

The path and the query of a request are kept as they are written, and a request is let
past, routed and signed by them. On the way to a backend they are read once more, behind
the origin of the backend, as an address. The backend receives what was written exactly if
there is nothing in it that reading an address changes.
-/

namespace Gatehouse

open Text

namespace RequestTarget

/-- Whether a target is a path behind its first slash and a query. -/
structure Spells
    (target : RequestTarget)
    (front : List Char)
    (query : Option (List Char)) : Prop where
  written : target.written = String.ofList ('/' :: (front ++ queryChars query))
  inPath : ∀ char ∈ front, isPathChar char = true
  inQuery : ∀ chars, query = some chars → ∀ char ∈ chars, isQueryChar char = true

/-- Whether a path may have a character that reading an address leaves alone. -/
def IsPlainPathChar (char : Char) : Prop :=
  char.toNat ≤ 0x7E ∧ char ∉ "\"\\\x7b\x7d".toList

/-- Whether a query may have a character that reading an address leaves alone. -/
def IsPlainQueryChar (char : Char) : Prop :=
  char.toNat ≤ 0x7E ∧ char ≠ '\x27'

instance (char : Char) : Decidable (IsPlainPathChar char) :=
  inferInstanceAs (Decidable (_ ∧ _))

instance (char : Char) : Decidable (IsPlainQueryChar char) :=
  inferInstanceAs (Decidable (_ ∧ _))

/-- Whether reading an address changes nothing in a target: no segment of dots, no
backslash, brace or quotation mark in the path, no apostrophe in the query, and only
visible ASCII. -/
structure IsPlain (target : RequestTarget) : Prop where
  path : ∀ char ∈ target.pathChars, IsPlainPathChar char
  undotted : ∀ segment ∈ splitEvery '/' target.pathChars, ¬ Url.IsDots segment
  query : ∀ query,
    target.query? = some query → ∀ char ∈ query.toList, IsPlainQueryChar char

instance (target : RequestTarget) : Decidable target.IsPlain :=
  decidable_of_iff
    (target.pathChars.all (fun char => decide (IsPlainPathChar char)) = true ∧
      (splitEvery '/' target.pathChars).all
        (fun segment => decide (¬ Url.IsDots segment)) = true ∧
      target.query?.all (fun query =>
        query.toList.all fun char => decide (IsPlainQueryChar char)) = true)
    (by
      simp only [List.all_iff_forall_prop, Option.all_eq_true]
      exact ⟨fun ⟨path, undotted, query⟩ => ⟨path, undotted, query⟩,
        fun ⟨path, undotted, query⟩ => ⟨path, undotted, query⟩⟩)

section Characters

/-- What holds of the characters of ASCII, and of all the others, holds of all
characters. -/
theorem forall_char
    {holds : Char → Prop}
    (ascii : ∀ code < 0x80, holds (Char.ofNat code))
    (outside : ∀ char : Char, 0x80 ≤ char.toNat → holds char)
    (char : Char) :
    holds char := by
  by_cases small : char.toNat < 0x80
  · have atCode := ascii char.toNat small
    rwa [Char.ofNat_toNat] at atCode
  · exact outside char (Nat.not_lt.mp small)

/-- A character of a path is visible, and does not end the path. -/
theorem visible_of_isPathChar
    {char : Char}
    (inPath : isPathChar char = true) :
    0x20 < char.toNat ∧ char ≠ '?' ∧ char ≠ '#' := by
  refine @forall_char (fun char => isPathChar char = true →
    0x20 < char.toNat ∧ char ≠ '?' ∧ char ≠ '#') (by decide) ?_ char inPath
  intro char outside _
  refine ⟨by omega, ?_, ?_⟩
  · rintro rfl
    exact absurd outside (by decide)
  · rintro rfl
    exact absurd outside (by decide)

/-- A character of a query is visible, and does not end the query. -/
theorem visible_of_isQueryChar
    {char : Char}
    (inQuery : isQueryChar char = true) :
    0x20 < char.toNat ∧ char ≠ '#' := by
  refine @forall_char (fun char => isQueryChar char = true →
    0x20 < char.toNat ∧ char ≠ '#') (by decide) ?_ char inQuery
  intro char outside _
  refine ⟨by omega, ?_⟩
  rintro rfl
  exact absurd outside (by decide)

/-- Of the characters of a path, those that stand for themselves are known, the backslash
apart. -/
theorem isLiteral_iff_isPlainPathChar
    {char : Char}
    (inPath : isPathChar char = true) :
    Percent.IsLiteral Percent.inPath char ∧ char ≠ '\\' ↔ IsPlainPathChar char := by
  refine @forall_char (fun char => isPathChar char = true →
    (Percent.IsLiteral Percent.inPath char ∧ char ≠ '\\' ↔ IsPlainPathChar char))
    (by decide) ?_ char inPath
  intro char outside _
  refine ⟨fun literal => ?_, fun plain => ?_⟩
  · exact absurd literal.1.1 (by omega)
  · exact absurd plain.1 (by omega)

/-- Of the characters of a query, those that stand for themselves are known. -/
theorem isLiteral_iff_isPlainQueryChar
    {char : Char}
    (inQuery : isQueryChar char = true) :
    Percent.IsLiteral Percent.inSpecialQuery char ↔ IsPlainQueryChar char := by
  refine @forall_char (fun char => isQueryChar char = true →
    (Percent.IsLiteral Percent.inSpecialQuery char ↔ IsPlainQueryChar char))
    (by decide) ?_ char inQuery
  intro char outside _
  refine ⟨fun literal => ?_, fun plain => ?_⟩
  · exact absurd literal.1 (by omega)
  · exact absurd plain.1 (by omega)

end Characters

section Spelling

/-- The characters of a text in front of the first separator, and those behind it. -/
theorem exists_queryChars
    {chars : List Char} :
    ∃ front query, chars = front ++ queryChars query ∧ '?' ∉ front := by
  cases split : splitFirst? ['?'] chars with
  | none =>
      refine ⟨chars, none, (List.append_nil chars).symm, ?_⟩
      intro present
      obtain ⟨before, after, rfl, absent⟩ := List.eq_append_cons_of_mem present
      rw [splitFirst?_append absent] at split
      cases split
  | some parts =>
      obtain ⟨before, after⟩ := parts
      obtain ⟨isAppend, absent⟩ := splitFirst?_singleton_eq_some_iff.mp split
      exact ⟨before, some after, isAppend, absent⟩

/-- A target that is written as a path is spelled by a path and a query. -/
theorem exists_spells_of_ofText?
    {text : String}
    {target : RequestTarget}
    (read : ofText? text = some target)
    (originForm : text.toList.head? = some '/') :
    ∃ front query, target.Spells front query := by
  obtain ⟨rest, isText⟩ : ∃ rest, text.toList = '/' :: rest := by
    cases chars : text.toList with
    | nil =>
        rw [chars] at originForm
        cases originForm
    | cons first rest =>
        rw [chars] at originForm
        obtain rfl := Option.some.inj originForm
        exact ⟨rest, rfl⟩
  unfold ofText? at read
  simp only [isText] at read
  split at read
  · cases read
  obtain ⟨written, isWritten, rfl⟩ := Option.map_eq_some_iff.mp read
  unfold readWritten? at isWritten
  have bodyShape :
      ('/' :: rest).takeWhile (· != '#') = '/' :: rest.takeWhile (· != '#') := rfl
  obtain ⟨front, query, isBody, absent⟩ := @exists_queryChars (rest.takeWhile (· != '#'))
  have pathShape :
      ('/' :: (front ++ queryChars query)).takeWhile (· != '?') = '/' :: front :=
    congrArg (List.cons '/') (takeWhile_queryChars absent query)
  simp only [bodyShape, isBody, pathShape] at isWritten
  split at isWritten
  · rename_i allowed
    rw [Bool.and_eq_true, List.all_eq_true, List.all_eq_true] at allowed
    have dropped : (('/' :: (front ++ queryChars query)).drop ('/' :: front).length)
        = queryChars query := List.drop_left
    rw [dropped] at allowed
    refine ⟨front, query, (Option.some.inj isWritten).symm,
      fun char present => allowed.1 char (List.mem_cons_of_mem _ present), ?_⟩
    rintro chars rfl char present
    exact allowed.2 char present
  · cases isWritten

namespace Spells

variable {target : RequestTarget} {front : List Char} {query : Option (List Char)}

theorem absent (spells : target.Spells front query) : '?' ∉ front :=
  fun present => (visible_of_isPathChar (spells.inPath _ present)).2.1 rfl

theorem pathChars_eq (spells : target.Spells front query) :
    target.pathChars = '/' :: front := by
  unfold pathChars
  rw [spells.written, String.toList_ofList]
  exact congrArg (List.cons '/') (takeWhile_queryChars spells.absent query)

/-- The query. -/
theorem query?_eq (spells : target.Spells front query) :
    target.query? = query.map String.ofList := by
  have behind :
      target.written.toList.drop target.pathChars.length = queryChars query := by
    rw [spells.pathChars_eq, spells.written, String.toList_ofList, ← List.cons_append,
      List.drop_left]
  unfold query?
  rw [behind]
  cases query with
  | none => rfl
  | some chars => rfl

theorem pathAndQuery_eq (spells : target.Spells front query) :
    target.pathAndQuery = String.ofList ('/' :: (front ++ queryChars query)) := by
  have isWritten : ¬ target.written = "" := by
    rw [spells.written, ← String.toList_inj, String.toList_ofList]
    exact List.cons_ne_nil _ _
  unfold pathAndQuery
  rw [if_neg isWritten, spells.written]

/-- The path. -/
theorem path_eq (spells : target.Spells front query) :
    target.path = String.ofList ('/' :: front) := by
  have isWritten : ¬ (target.written = "" ∧ target.scheme = none) := by
    rintro ⟨nothing, -⟩
    rw [spells.written, ← String.toList_inj, String.toList_ofList] at nothing
    exact List.cons_ne_nil _ _ nothing
  unfold path
  rw [if_neg isWritten, spells.pathChars_eq, List.isEmpty_cons, if_neg Bool.false_ne_true]

/-- Read behind an origin, a target is split into the same path and the same query. -/
theorem splitTail_eq (spells : target.Spells front query) :
    Url.splitTail (front ++ queryChars query) = ⟨front, query, none⟩ := by
  have noFragment : '#' ∉ front ++ queryChars query := by
    intro present
    rcases List.mem_append.mp present with isFront | behind
    · exact (visible_of_isPathChar (spells.inPath _ isFront)).2.2 rfl
    · cases query with
      | none => cases behind
      | some chars =>
          rcases List.mem_cons.mp behind with isMark | isQuery
          · exact absurd isMark (by decide)
          · exact (visible_of_isQueryChar (spells.inQuery chars rfl _ isQuery)).2 rfl
  unfold Url.splitTail
  rw [splitFirst?_of_notMem noFragment]
  cases query with
  | none =>
      simp only [queryChars, List.append_nil]
      rw [splitFirst?_of_notMem spells.absent]
  | some chars =>
      simp only [queryChars]
      rw [splitFirst?_append spells.absent]

/-- A target is visible. -/
theorem visible (spells : target.Spells front query) :
    ∀ char ∈ front ++ queryChars query, 0x20 < char.toNat := by
  intro char present
  rcases List.mem_append.mp present with isFront | behind
  · exact (visible_of_isPathChar (spells.inPath char isFront)).1
  · cases query with
    | none => cases behind
    | some chars =>
        rcases List.mem_cons.mp behind with rfl | isQuery
        · decide
        · exact (visible_of_isQueryChar (spells.inQuery chars rfl char isQuery)).1

/-- Nothing changes in a target exactly if its path is plain and its query literal. -/
theorem isPlain_iff (spells : target.Spells front query) :
    target.IsPlain ↔
      Url.IsPlainPath front ∧
        ∀ chars,
          query = some chars → Percent.encode Percent.inSpecialQuery chars = chars := by
  have segments : splitEvery '/' target.pathChars = [] :: splitEvery '/' front := by
    rw [spells.pathChars_eq]
    rfl
  constructor
  · intro plain
    have pathChar :
        ∀ char ∈ front, Percent.IsLiteral Percent.inPath char ∧ char ≠ '\\' := by
      intro char present
      refine (isLiteral_iff_isPlainPathChar (spells.inPath char present)).mpr
        (plain.path char ?_)
      rw [spells.pathChars_eq]
      exact List.mem_cons_of_mem _ present
    refine ⟨⟨fun char present => (pathChar char present).1,
      fun present => (pathChar _ present).2 rfl, ?_⟩, ?_⟩
    · intro segment isSegment
      exact plain.undotted segment (segments ▸ List.mem_cons_of_mem _ isSegment)
    · rintro chars rfl
      apply Percent.encode_of_isLiteral
      intro char present
      apply (isLiteral_iff_isPlainQueryChar (spells.inQuery chars rfl char present)).mpr
      refine plain.query _ spells.query?_eq char ?_
      rwa [String.toList_ofList]
  · rintro ⟨plainPath, unchanged⟩
    refine ⟨?_, ?_, ?_⟩
    · intro char present
      rw [spells.pathChars_eq] at present
      rcases List.mem_cons.mp present with rfl | isFront
      · decide
      · refine (isLiteral_iff_isPlainPathChar (spells.inPath char isFront)).mp
          ⟨plainPath.literal char isFront, ?_⟩
        exact ne_of_mem_of_not_mem isFront plainPath.forward
    · intro segment isSegment
      rw [segments] at isSegment
      rcases List.mem_cons.mp isSegment with rfl | isSegment
      · unfold Url.IsDots
        decide
      · exact plainPath.undotted segment isSegment
    · intro text isQuery char present
      rw [spells.query?_eq] at isQuery
      obtain ⟨chars, rfl, rfl⟩ := Option.map_eq_some_iff.mp isQuery
      rw [String.toList_ofList] at present
      have literal := (Percent.encode_eq_self_iff Percent.proper_inSpecialQuery chars).mp
        (unchanged chars rfl) char present
      exact (isLiteral_iff_isPlainQueryChar (spells.inQuery chars rfl char present)).mp
        literal

end Spells

end Spelling

end RequestTarget

namespace Url

theorem pathAndQuery_eq
    (url : Url)
    (front : List Char)
    (query : Option (List Char))
    (fragment : Option String) :
    pathAndQuery
        { url with
          path := pathFrom .special [] front
          query := encodeQuery .special query
          fragment := fragment } =
      String.ofList (joinSegments (resolved front)
        ++ RequestTarget.queryChars
          (query.map (Percent.encode Percent.inSpecialQuery))) := by
  unfold pathAndQuery
  simp only [pathFrom_special]
  cases query with
  | none => simp [encodeQuery, RequestTarget.queryChars]
  | some chars => simp [encodeQuery, RequestTarget.queryChars]

theorem mark_notMem_path (front : List Char) : '?' ∉ joinSegments (resolved front) := by
  intro present
  have isLiteral : Percent.IsLiteral Percent.inPath '?' :=
    (literal_of_mem_joinSegments present).1
  exact absurd isLiteral (by decide)

end Url

namespace RequestTarget

namespace Spells

variable {target : RequestTarget} {front : List Char} {query : Option (List Char)}

/-- Reading leaves a target as it is written exactly if it is plain. -/
theorem read_eq_iff (spells : target.Spells front query) :
    String.ofList (Url.joinSegments (Url.resolved front)
        ++ queryChars (query.map (Percent.encode Percent.inSpecialQuery))) =
        target.pathAndQuery ↔
      target.IsPlain := by
  have absent : '?' ∉ '/' :: front := by
    intro present
    rcases List.mem_cons.mp present with isSlash | isFront
    · exact absurd isSlash (by decide)
    · exact spells.absent isFront
  rw [spells.pathAndQuery_eq, String.ofList_inj, ← List.cons_append,
    append_queryChars_inj (Url.mark_notMem_path front) absent, spells.isPlain_iff,
    ← Url.pathFrom_eq_iff, Url.pathFrom_special, String.ofList_inj]
  apply and_congr_right
  intro _
  cases query with
  | none => exact iff_of_true rfl nofun
  | some chars => simp

theorem resource_of_empty (spells : target.Spells front (some [])) :
    RequestSigner.resource target = String.ofList ('/' :: front) := by
  unfold RequestSigner.resource
  rw [spells.query?_eq, ← spells.path_eq]
  rfl

/-- Of any other target all that is written is signed. -/
theorem resource_of_nonempty
    (spells : target.Spells front query)
    (nonempty : query ≠ some []) :
    RequestSigner.resource target = target.pathAndQuery := by
  unfold RequestSigner.resource
  rw [spells.query?_eq, spells.pathAndQuery_eq, spells.path_eq]
  cases query with
  | none => simp [queryChars]
  | some chars =>
      have isText : String.ofList chars ≠ "" := by
        rw [← String.toList_inj.ne, String.toList_ofList]
        exact fun isEmpty => nonempty (congrArg some isEmpty)
      have isSome :
          (some (String.ofList chars)).filter (· != "") = some (String.ofList chars) := by
        rw [Option.filter_some, if_pos (bne_iff_ne.mpr isText)]
      simp only [Option.map_some, isSome, queryChars]
      rw [← String.toList_inj]
      simp

/-- A target is read as signed exactly if it is plain and its query not empty. -/
theorem read_eq_resource_iff (spells : target.Spells front query) :
    String.ofList (Url.joinSegments (Url.resolved front)
        ++ queryChars (query.map (Percent.encode Percent.inSpecialQuery)))
          = RequestSigner.resource target ↔
      target.IsPlain ∧ target.query? ≠ some "" := by
  have isEmpty_iff : target.query? = some "" ↔ query = some [] := by
    rw [spells.query?_eq, Option.map_eq_some_iff]
    constructor
    · rintro ⟨chars, rfl, isEmpty⟩
      rw [← String.toList_inj, String.toList_ofList] at isEmpty
      exact congrArg some isEmpty
    · rintro rfl
      exact ⟨[], rfl, rfl⟩
  rw [ne_eq, isEmpty_iff]
  by_cases isEmpty : query = some []
  · subst isEmpty
    refine iff_of_false ?_ fun both => both.2 rfl
    rw [spells.resource_of_empty, String.ofList_inj]
    intro same
    have mark : '?' ∈ '/' :: front := by
      rw [← same]
      exact List.mem_append_right _ List.mem_cons_self
    rcases List.mem_cons.mp mark with isSlash | isFront
    · exact absurd isSlash (by decide)
    · exact spells.absent isFront
  · rw [spells.resource_of_nonempty isEmpty, spells.read_eq_iff]
    exact (and_iff_left isEmpty).symm

end Spells

end RequestTarget

/-- A backend whose address is read receives the path and the query that are read. -/
theorem OutboundRequest.exists_received_of_ofText
    {address : String}
    {url : Url}
    (method : String)
    (headers : Headers)
    (body : Bytes)
    (read : Url.ofText address = .ok url) :
    ∃ received, OutboundRequest.received? ⟨method, address, headers, body⟩ =
      some received ∧
      received.resource = url.pathAndQuery := by
  unfold received?
  rw [read]
  exact ⟨_, rfl, rfl⟩

namespace Router

/-- A request for a path and a query, with a body within the limit, reaches the backend
that its path is mounted for. The backend receives the path and the query by which the
request was routed exactly if they are plain, and those that were signed exactly if
moreover the query is not empty. -/
theorem received_as_written_iff
    {passHostHeader : Bool}
    {options : ForwardOptions}
    {addresses : List String}
    {router : Router}
    {text : String}
    {request : Request}
    {route : Route}
    {proxy : ReverseProxy}
    (backends : Backends)
    (store : FileStore)
    (client : Option Address)
    (mounted : ofAddresses passHostHeader options addresses = .ok router)
    (isTarget : RequestTarget.ofText? text = some request.target)
    (originForm : text.toList.head? = some '/')
    (routed : router.route? request.path = some route)
    (toBackend : route.target = .proxy proxy)
    (withinLimit : request.body.length ≤ router.options.maxBodySize) :
    ∃ outbound received,
      (router.deliver backends store client request).sent = some outbound ∧
      outbound.received? = some received ∧
      (received.resource = request.target.pathAndQuery ↔ request.target.IsPlain) ∧
      (received.resource = RequestSigner.resource request.target ↔
        request.target.IsPlain ∧ request.target.query? ≠ some "") := by
  obtain ⟨given, -, made⟩ := exists_given_of_ofAddresses mounted (mem_of_route? routed).1
  obtain ⟨url, read, web, rfl⟩ := Route.exists_url_of_ofText made toBackend
  have wellRead := Url.wellRead_of_ofText read web
  obtain ⟨host, chars, isHost, ofSpecial⟩ := wellRead.host
  obtain ⟨front, query, spells⟩ :=
    RequestTarget.exists_spells_of_ofText? isTarget originForm
  have readAgain := Url.ofText_origin web wellRead isHost
    (Host.rereads_of_ofSpecial ofSpecial) spells.visible
  rw [← spells.pathAndQuery_eq, spells.splitTail_eq] at readAgain
  have sent : (router.deliver backends store client request).sent =
      some ⟨request.method, url.origin ++ request.target.pathAndQuery,
        (ReverseProxy.ofUrl url passHostHeader).outboundHeaders router.options
          client request,
        request.body⟩ := by
    rw [sent_deliver routed toBackend,
      ReverseProxy.outbound?_of_within _ _ _ _ withinLimit]
    rfl
  obtain ⟨received, isReceived, isResource⟩ := OutboundRequest.exists_received_of_ofText
    request.method
      ((ReverseProxy.ofUrl url passHostHeader).outboundHeaders router.options client
      request) request.body readAgain
  refine ⟨_, received, sent, isReceived, ?_, ?_⟩
  · rw [isResource, Url.pathAndQuery_eq]
    exact spells.read_eq_iff
  · rw [isResource, Url.pathAndQuery_eq]
    exact spells.read_eq_resource_iff

/-- The routes of a server in front of one backend. -/
def soleBackend : Router :=
  ⟨[⟨.subtree "/", .proxy ⟨"http://backend", "backend", true⟩⟩], ⟨none, 1024⟩⟩

/-- A request for what is written, without any fields. -/
def retrievalOf (written : String) : Request :=
  ⟨"GET", ⟨none, none, written⟩, Headers.empty, [], none⟩

/-- The only backend receives a plain path and query as they are written. -/
theorem plain_uri_is_received_by_soleBackend :
    ofAddresses true ⟨none, 1024⟩ ["http://backend/"] = .ok soleBackend ∧
      ∃ outbound received,
        (soleBackend.deliver Backends.unreachable (fun _ => none) none
          (retrievalOf "/public/mail?box=1")).sent = some outbound ∧
        outbound.received? = some received ∧
          received.resource = "/public/mail?box=1" := by
  have mounted : ofAddresses true ⟨none, 1024⟩ ["http://backend/"] = .ok soleBackend := by
    decide +kernel
  have isTarget : RequestTarget.ofText? "/public/mail?box=1" =
      some (retrievalOf "/public/mail?box=1").target := by
    decide
  have routed : soleBackend.route? (retrievalOf "/public/mail?box=1").path =
      some ⟨.subtree "/", .proxy ⟨"http://backend", "backend", true⟩⟩ := by
    decide
  have plain : (retrievalOf "/public/mail?box=1").target.IsPlain := by
    decide
  obtain ⟨outbound, received, sent, isReceived, asWritten, -⟩ :=
    received_as_written_iff Backends.unreachable
      (fun _ => none) none mounted isTarget rfl routed rfl (Nat.zero_le 1024)
  exact ⟨mounted, outbound, received, sent, isReceived, asWritten.mpr plain⟩

/-- A path out of a passed directory is passed, and received outside of it. -/
theorem dotted_uri_is_received_resolved :
    ofAddresses true ⟨none, 1024⟩ ["http://backend/"] = .ok soleBackend ∧
      RequestTarget.ofText? "/public/../admin" =
        some (retrievalOf "/public/../admin").target ∧
      (Regex.ofText? "^/public/").map (fun pattern =>
        (pattern.matchesIn (retrievalOf "/public/../admin").path,
          pattern.matchesIn "/admin")) =
          some (true, false) ∧
      (retrievalOf "/public/../admin").target.pathAndQuery = "/public/../admin" ∧
      ((soleBackend.deliver Backends.unreachable (fun _ => none) none
        (retrievalOf "/public/../admin")).sent.bind OutboundRequest.received?).map
        (·.resource) =
          some "/admin" := by
  decide +kernel

end Router
end Gatehouse
