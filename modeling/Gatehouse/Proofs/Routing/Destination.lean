import Gatehouse.Proofs.Routing.Lookup
import Gatehouse.Proofs.Routing.RequestUri
import Mathlib.Tactic.Common

/-!
# Where requests are sent

What is sent to a backend is addressed by the origin of the backend and by the path and
the query that the client has chosen, one behind the other. The path that a mount covers
begins with a slash, so that what stands behind the origin begins with a slash or with a
question mark. Either ends the part of an address that names the server: however the
path and the query go on, the request is sent to the server in the configuration.
-/

namespace Gatehouse

namespace Url

variable {chars : List Char}
variable {scheme : String}
variable {url : Url}

/-- The segments of a path do not all go when dots are resolved. -/
theorem resolveDots_ne_nil
    {parts : List (List Char)}
    (nonempty : parts ≠ [])
    (done : List (List Char)) :
    resolveDots .special done parts ≠ [] := by
  induction parts generalizing done with
  | nil => exact absurd rfl nonempty
  | cons segment rest inductionHypothesis =>
      rw [resolveDots]
      simp only [reduceCtorEq, false_and, if_false]
      cases rest with
      | nil =>
          simp only [List.isEmpty_nil, if_true, resolveDots]
          split_ifs <;> exact List.cons_ne_nil _ _
      | cons next others =>
          have behind := inductionHypothesis (List.cons_ne_nil next others)
          simp only [List.isEmpty_cons, Bool.false_eq_true, if_false]
          split_ifs <;> exact behind _

/-- A path that has been read begins with a slash. -/
theorem head?_pathFrom (directory : List (List Char)) (chars : List Char) :
    (pathFrom .special directory chars).toList.head? = some '/' := by
  have segmentsNonempty :
      (segments .special chars).map (Percent.encode Percent.inPath) ≠ [] := by
    rw [ne_eq, List.map_eq_nil_iff]
    exact Text.splitEvery_ne_nil _ _
  have nonempty := resolveDots_ne_nil segmentsNonempty directory
  unfold pathFrom
  simp only [String.toList_ofList]
  rw [joinSegments_eq (List.reverse_ne_nil_iff.mpr nonempty), List.head?_cons]

/-- The path of an address of a special scheme begins with a slash. -/
theorem head?_path_of_afterSlashes
    (special : schemeKind scheme = .special)
    (read : afterSlashes scheme chars = .ok url) :
    url.path.toList.head? = some '/' := by
  unfold afterSlashes at read
  simp only [special, bind, Except.bind, pure, Except.pure, true_or, if_true] at read
  split at read
  · cases read
  split at read
  · cases read
  split at read
  · cases read
  split at read
  · cases read
  cases read
  simp only
  split
  · decide
  · exact head?_pathFrom _ _

/-- The path of an address of the web begins with a slash. -/
theorem head?_path_of_ofText
    {given : String}
    (read : ofText given = .ok url)
    (web : url.IsWeb) :
    url.path.toList.head? = some '/' := by
  unfold ofText at read
  split at read
  · have special := special_of_afterScheme read web
    unfold afterScheme at read
    rw [special] at read
    exact head?_path_of_afterSlashes special read
  · cases read

/-- The mount of an address of the web covers only paths that begin with a slash. -/
theorem head?_of_covers_mount
    {given path : String}
    (read : ofText given = .ok url)
    (web : url.IsWeb)
    (covered : url.mount.covers path = true) :
    path.toList.head? = some '/' := by
  have begins := head?_path_of_ofText read web
  have mountText : url.mount.text = url.path := by
    unfold mount PathPattern.ofText
    rw [if_neg web.notFile]
    split_ifs with isEmpty
    · rw [isEmpty] at begins
      cases begins
    · rfl
    · rfl
  obtain ⟨behind, isPath⟩ := PathPattern.isPrefix_of_covers covered
  rw [mountText] at isPath
  rw [← isPath, List.head?_append, begins]
  rfl

end Url

namespace RequestTarget

variable {target : RequestTarget}

/-- What is read as a path and a query is visible. -/
theorem visible_of_readWritten?
    {chars : List Char}
    {written : String}
    (read : readWritten? chars = some written) :
    ∀ char ∈ written.toList, 0x20 < char.toNat := by
  unfold readWritten? at read
  obtain ⟨front, query, isBody, absent⟩ := @exists_queryChars (chars.takeWhile (· != '#'))
  simp only [isBody, takeWhile_queryChars absent query, List.drop_left] at read
  split at read
  · rename_i allowed
    rw [Bool.and_eq_true, List.all_eq_true, List.all_eq_true] at allowed
    cases read
    rw [String.toList_ofList]
    intro char present
    rcases List.mem_append.mp present with inFront | behind
    · exact (visible_of_isPathChar (allowed.1 char inFront)).1
    · cases query with
      | none => cases behind
      | some queryChars =>
          rcases List.mem_cons.mp behind with rfl | inQuery
          · decide
          · exact (visible_of_isQueryChar (allowed.2 char inQuery)).1
  · cases read

/-- The path and the query of a target that has been read are visible. -/
theorem visible_of_ofText?
    {text : String}
    (read : ofText? text = some target) :
    ∀ char ∈ target.pathAndQuery.toList, 0x20 < char.toNat := by
  have allWritten : ∀ char ∈ target.written.toList, 0x20 < char.toNat := by
    unfold ofText? at read
    simp only at read
    split at read
    · cases read
    split at read
    · cases read
    · cases read
      exact List.all_iff_forall_prop.mp (by decide)
    · obtain ⟨written, isWritten, rfl⟩ := Option.map_eq_some_iff.mp read
      exact visible_of_readWritten? isWritten
    · unfold readAbsolute? at read
      split at read
      · cases read
      · split at read
        · cases read
          exact nofun
        · cases read
      · simp only at read
        split at read
        · cases read
        · obtain ⟨written, isWritten, rfl⟩ := Option.map_eq_some_iff.mp read
          exact visible_of_readWritten? isWritten
  unfold pathAndQuery
  split
  · exact List.all_iff_forall_prop.mp (by decide)
  · exact allWritten

/-- A path and query that begin with a slash end a server in front. -/
theorem endsAuthority_head?
    (begins : target.path.toList.head? = some '/')
    {char : Char}
    (isHead : target.pathAndQuery.toList.head? = some char) :
    Url.endsAuthority .special char = true := by
  unfold pathAndQuery at isHead
  split at isHead
  · cases isHead
    decide
  · rename_i nonempty
    obtain ⟨first, rest, isCons⟩ :=
      List.exists_cons_of_ne_nil (mt String.toList_eq_nil_iff.mp nonempty)
    have isFirst : first = char := by
      rw [isCons] at isHead
      exact Option.some.inj isHead
    subst isFirst
    by_cases isMark : first = '?'
    · rw [isMark]
      decide
    · have pathShape : target.pathChars = first :: rest.takeWhile (· != '?') := by
        unfold pathChars
        rw [isCons]
        exact List.takeWhile_cons_of_pos (bne_iff_ne.mpr isMark)
      unfold path at begins
      rw [if_neg (fun empty => nonempty empty.1), pathShape, List.isEmpty_cons,
        if_neg Bool.false_ne_true, String.toList_ofList, List.head?_cons] at begins
      rw [Option.some.inj begins]
      decide

end RequestTarget

namespace Router

variable {passHostHeader : Bool}
variable {options : ForwardOptions}
variable {addresses : List String}
variable {router : Router}
variable {text : String}
variable {request : Request}

/-- The path and query of a covered request are read as an address at its backend. -/
theorem exists_contacted_of_covers
    {given : String}
    {url : Url}
    (read : Url.ofText given = .ok url)
    (web : url.IsWeb)
    (isTarget : RequestTarget.ofText? text = some request.target)
    (covered : url.mount.covers request.path = true) :
    ∃ contacted, Url.ofText (url.origin ++ request.target.pathAndQuery) = .ok contacted ∧
      contacted.SameServer url := by
  have wellRead := Url.wellRead_of_ofText read web
  obtain ⟨host, chars, isHost, ofSpecial⟩ := wellRead.host
  have begins := Url.head?_of_covers_mount read web covered
  have readAgain := Url.ofText_origin_append web wellRead isHost
    (Host.rereads_of_ofSpecial ofSpecial) (RequestTarget.visible_of_ofText? isTarget)
    (fun _ isHead => RequestTarget.endsAuthority_head? begins isHead)
  rw [String.ofList_toList] at readAgain
  exact ⟨_, readAgain, rfl, rfl, rfl⟩

/-- What is sent goes to a configured address whose mount covers the path. -/
theorem exists_given_of_sent
    {backends : Backends}
    {store : FileStore}
    {client : Option Address}
    {outbound : OutboundRequest}
    (mounted : ofAddresses passHostHeader options addresses = .ok router)
    (sent : (router.deliver backends store client request).sent = some outbound) :
    ∃ given ∈ addresses, ∃ url, Url.ofText given = .ok url ∧ url.IsWeb ∧
      url.mount.covers request.path = true ∧
      outbound.address = url.origin ++ request.target.pathAndQuery := by
  obtain ⟨route, proxy, routed, toTarget, isOutbound⟩ := exists_proxy_of_sent sent
  obtain ⟨present, covered⟩ := mem_of_route? routed
  obtain ⟨given, isGiven, made⟩ := exists_given_of_ofAddresses mounted present
  obtain ⟨url, read, web, rfl⟩ := Route.exists_url_of_ofText made toTarget
  have isMount : route.pattern = url.mount := by
    obtain ⟨other, readAlso, -, rfl⟩ := Route.ofText_eq_ok_iff.mp made
    rw [read] at readAlso
    cases readAlso
    rfl
  exact ⟨given, isGiven, url, read, web, isMount ▸ covered,
    (ReverseProxy.of_outbound?_eq_some _ _ _ _ isOutbound).1⟩

/-- Whatever the path and the query of a request are, their address behind the origin of
a backend whose mount covers the path is at the server of this backend. Anything that is
sent for a request is sent to the scheme, the host and the port of such an address in
the configuration. -/
theorem destination_is_fixed
    (backends : Backends)
    (store : FileStore)
    (client : Option Address)
    (mounted : ofAddresses passHostHeader options addresses = .ok router)
    (isTarget : RequestTarget.ofText? text = some request.target) :
    (∀ given ∈ addresses, ∀ url, Url.ofText given = .ok url → url.IsWeb →
      url.mount.covers request.path = true →
        ∃ contacted, Url.ofText ((ReverseProxy.ofUrl url passHostHeader).origin
              ++ request.target.pathAndQuery) = .ok contacted ∧
          contacted.SameServer url) ∧
      ∀ outbound, (router.deliver backends store client request).sent = some outbound →
        ∃ given ∈ addresses, ∃ url, Url.ofText given = .ok url ∧ url.IsWeb ∧
          url.mount.covers request.path = true ∧
          ∃ contacted, Url.ofText outbound.address = .ok contacted ∧
            contacted.SameServer url := by
  constructor
  · intro given _ url read web covered
    exact exists_contacted_of_covers read web isTarget covered
  · intro outbound sent
    obtain ⟨given, isGiven, url, read, web, covered, isAddress⟩ :=
      exists_given_of_sent mounted sent
    rw [isAddress]
    exact ⟨given, isGiven, url, read, web, covered,
      exists_contacted_of_covers read web isTarget covered⟩

/-- A path that looks like a server, with user and port, stays a path. -/
theorem server_in_path_is_not_contacted :
    let target := "//admin@evil.example:81\\..?//@evil.example"
    ∃ outbound contacted,
      (soleBackend.deliver Backends.unreachable (fun _ => none) none
        (retrievalOf target)).sent =
          some outbound ∧
        Url.ofText outbound.address = .ok contacted ∧
        contacted.host = some (.domain "backend") ∧ contacted.port = none := by
  intro target
  have mounted : ofAddresses true ⟨none, 1024⟩ ["http://backend/"] = .ok soleBackend := by
    decide +kernel
  have isTarget : RequestTarget.ofText? target = some (retrievalOf target).target := by
    decide +kernel
  have sends : ((soleBackend.deliver Backends.unreachable (fun _ => none) none
      (retrievalOf target)).sent).isSome = true := by
    decide +kernel
  obtain ⟨outbound, sent⟩ := Option.isSome_iff_exists.mp sends
  obtain ⟨-, arrives⟩ :=
    destination_is_fixed Backends.unreachable (fun _ => none) none mounted isTarget
  obtain ⟨given, isGiven, url, read, -, -, contacted, isContacted, sameServer⟩ :=
    arrives outbound sent
  have isBackend : (Url.ofText "http://backend/").toOption.map
      (fun url => (url.host, url.port)) =
      some (some (.domain "backend"), none) := by
    decide +kernel
  rw [List.mem_singleton.mp isGiven] at read
  rw [read] at isBackend
  obtain ⟨sameHost, samePort⟩ := Prod.mk.inj (Option.some.inj isBackend)
  exact ⟨outbound, contacted, sent, isContacted, sameServer.2.1.trans sameHost,
    sameServer.2.2.trans samePort⟩

end Router
end Gatehouse
