import Gatehouse.Proofs.Http.Fields
import Gatehouse.Proofs.Routing.Delivery
import Gatehouse.Proofs.Routing.Signature
import Mathlib.Tactic.Common

/-!
# What forwarding does to a header

A header is forwarded in stages: the fields for one connection are removed, the length of
the body and the host are written, the client is added, and the result is signed. A field
that no later stage writes has the values of the earlier stage. Whatever the client has
sent, no field for one connection is left, the length is that of the body, and the
signature is the only one and is that of the header that is sent.
-/

namespace Gatehouse
namespace ReverseProxy

open Text

variable (proxy : ReverseProxy)
variable (options : ForwardOptions)
variable (client : Option Address)
variable (request : Request)

/-- The names of the fields that forwarding writes. -/
def writtenNames : List String :=
  ["content-length", "host", Headers.forwardedFor, RequestSigner.header]

/-- The names of the fields that forwarding itself removes or writes, whatever the client
has sent. -/
def ownNames : List String :=
  Headers.hopByHopNames ++ ["content-length", "host", Headers.forwardedFor,
    RequestSigner.header]

/-- The due length: that of the body, and none for a retrieval without one. -/
def dueLength : List Bytes :=
  if request.body = [] ∧ (request.method = "GET" ∨ request.method = "HEAD") then []
  else [Utf8.encode (Decimal.natural request.body.length)]

section Stages

/-- The length of a body is written into its own fields. -/
theorem getAll_withLength_other
    {name : String}
    (headers : Headers)
    (notEncoding : name ≠ "transfer-encoding")
    (notLength : name ≠ "content-length") :
    (withLength request headers).getAll name = headers.getAll name := by
  unfold withLength
  simp only
  split
  · rw [Headers.getAll_remove_other _ notLength,
      Headers.getAll_remove_other _ notEncoding]
  · rw [Headers.getAll_insertText_other _ _ notLength,
      Headers.getAll_remove_other _ notEncoding]

/-- The only length is that of the body, and a retrieval without a body has none. -/
theorem getAll_withLength_self (headers : Headers) :
    (withLength request headers).getAll "content-length" = dueLength request := by
  have bodiless : (request.body.isEmpty && request.isRetrieval) = true ↔
      request.body = [] ∧ (request.method = "GET" ∨ request.method = "HEAD") := by
    simp [Request.isRetrieval]
  unfold withLength dueLength
  simp only [bodiless]
  split
  · exact Headers.getAll_remove_self _ _
  · exact Headers.getAll_insertText_self _ _ _

/-- The host of a backend is written into its own field. -/
theorem getAll_withHost_other
    {name : String}
    (headers : Headers)
    (different : name ≠ "host") :
    (proxy.withHost headers).getAll name = headers.getAll name := by
  unfold withHost
  split
  · rfl
  · split
    · exact Headers.getAll_insert_other _ _ different
    · rfl

/-- The header of a request before it is signed. -/
def unsignedHeaders : Headers :=
  let hosted := proxy.withHost (withLength request request.headers.stripHopByHop)
  match client with
  | some address => hosted.appendForwardedFor address
  | none => hosted

/-- The host and the client are written into their own fields. -/
theorem getAll_unsignedHeaders
    {name : String}
    (notHost : name ≠ "host")
    (notForwarded : name ≠ Headers.forwardedFor) :
    (proxy.unsignedHeaders client request).getAll name =
      (withLength request request.headers.stripHopByHop).getAll name := by
  unfold unsignedHeaders
  cases client with
  | none => exact proxy.getAll_withHost_other _ notHost
  | some address =>
      exact (Headers.getAll_appendForwardedFor_other _ address notForwarded).trans
        (proxy.getAll_withHost_other _ notHost)

/-- With a signer, a header is signed when it is complete. -/
theorem outboundHeaders_of_signer
    {signer : RequestSigner}
    (signs : options.signer = some signer) :
    proxy.outboundHeaders options client request =
      signer.sign request.method request.target
        (proxy.unsignedHeaders client request) := by
  unfold outboundHeaders
  rw [signs]
  rfl

/-- The signature is written into its own field. -/
theorem getAll_outboundHeaders_unsigned
    {name : String}
    (notSignature : name ≠ RequestSigner.header) :
    (proxy.outboundHeaders options client request).getAll name =
      (proxy.unsignedHeaders client request).getAll name := by
  cases signs : options.signer with
  | none =>
      unfold outboundHeaders
      rw [signs]
      rfl
  | some signer =>
      rw [proxy.outboundHeaders_of_signer options client request signs]
      exact signer.getAll_sign_other _ _ _ notSignature

end Stages

section Sent

/-- A field that forwarding does not write is sent as it is, unless listed. -/
theorem getAll_outboundHeaders
    {name : String}
    (foreign : name ∉ ownNames) :
    (proxy.outboundHeaders options client request).getAll name =
      if name ∈ request.headers.connectionNames then []
      else request.headers.getAll name := by
  simp only [ownNames, List.mem_append, List.mem_cons, List.not_mem_nil, or_false,
    not_or] at foreign
  obtain ⟨ordinary, notLength, notHost, notForwarded, notSignature⟩ := foreign
  have notEncoding : name ≠ "transfer-encoding" := by
    rintro rfl
    exact ordinary (by decide)
  rw [getAll_outboundHeaders_unsigned _ _ _ _ notSignature,
    getAll_unsignedHeaders _ _ _ notHost notForwarded,
    getAll_withLength_other _ _ notEncoding notLength,
    Headers.getAll_stripHopByHop _ ordinary]

/-- No standard field for one connection is sent. -/
theorem getAll_outboundHeaders_standard
    {name : String}
    (standard : name ∈ Headers.hopByHopNames) :
    (proxy.outboundHeaders options client request).getAll name = [] := by
  have unwritten : ∀ written ∈ writtenNames, name ≠ written := by
    rintro written isWritten rfl
    have apart : ∀ own ∈ Headers.hopByHopNames, own ∉ writtenNames := by decide
    exact apart name standard isWritten
  rw [getAll_outboundHeaders_unsigned _ _ _ _ (unwritten _ (by decide)),
    getAll_unsignedHeaders _ _ _ (unwritten _ (by decide)) (unwritten _ (by decide))]
  by_cases isEncoding : name = "transfer-encoding"
  · rw [isEncoding]
    unfold withLength
    simp only
    split
    · rw [Headers.getAll_remove_other _ (by decide), Headers.getAll_remove_self]
    · rw [Headers.getAll_insertText_other _ _ (by decide), Headers.getAll_remove_self]
  · rw [getAll_withLength_other _ _ isEncoding (unwritten _ (by decide)),
      Headers.getAll_stripHopByHop_standard _ standard]

/-- A field that the client lists for one connection is sent only if forwarding writes
it. -/
theorem getAll_outboundHeaders_listed
    {name : String}
    (listed : name ∈ request.headers.connectionNames)
    (unwritten : name ∉ writtenNames) :
    (proxy.outboundHeaders options client request).getAll name = [] := by
  by_cases standard : name ∈ Headers.hopByHopNames
  · exact proxy.getAll_outboundHeaders_standard options client request standard
  · have foreign : name ∉ ownNames := by
      intro own
      rcases List.mem_append.mp own with isStandard | isWritten
      · exact standard isStandard
      · exact unwritten isWritten
    rw [proxy.getAll_outboundHeaders options client request foreign, if_pos listed]

theorem getAll_outboundHeaders_length :
    (proxy.outboundHeaders options client request).getAll "content-length" =
      dueLength request := by
  rw [getAll_outboundHeaders_unsigned _ _ _ _ (by decide),
    getAll_unsignedHeaders _ _ _ (by decide) (by decide), getAll_withLength_self]

/-- What is sent carries the signature of what is sent, and no other. -/
theorem getAll_outboundHeaders_signature
    {signer : RequestSigner}
    (signs : options.signer = some signer) :
    let sent := proxy.outboundHeaders options client request
    sent.getAll RequestSigner.header =
        [Utf8.encode (signer.signature request.method request.target sent)] ∧
      signer.verify request.method request.target sent = true := by
  intro sent
  have isSigned : sent =
      signer.sign request.method request.target (proxy.unsignedHeaders client request) :=
    proxy.outboundHeaders_of_signer options client request signs
  rw [isSigned]
  refine ⟨?_, signer.verify_sign⟩
  rw [RequestSigner.getAll_sign_self, RequestSigner.signature_sign]

end Sent

end ReverseProxy
end Gatehouse
