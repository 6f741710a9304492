import Gatehouse.Http.HopByHop
import Gatehouse.Proofs.Access.ClientAddress
import Gatehouse.Proofs.Http.FieldText
import Gatehouse.Proofs.Net.Spelling

/-!
# The list of clients and the client it names

Every proxy on the way of a request adds an address to the end of the list of clients.
What arrives is one list, of the texts that there were and of the addresses in the order
of the proxies, and no other field has changed. A reader that trusts the list takes its
first entry, and this is read as the address that was added first: an address is spelled
without commas and blanks, and read back from its spelling.
-/

namespace Gatehouse

namespace Address

/-- A character that an entry of a list may have: visible, no comma, no blank. -/
def IsEntryChar (char : Char) : Prop :=
  Headers.IsVisible char ∧ char ≠ ',' ∧ ¬ Text.isBlank char = true

instance (char : Char) : Decidable (IsEntryChar char) :=
  inferInstanceAs (Decidable (_ ∧ _ ∧ _))

/-- An address can stand in an entry of a list. -/
theorem isEntryChar_of_mem_text
    {address : Address}
    {char : Char}
    (present : char ∈ address.text.toList) :
    IsEntryChar char := by
  rcases mem_text present with rfl | rfl | isDigit
  · decide
  · decide
  · have isToken : Text.isTokenChar char = true := by
      unfold Text.Hex.value? at isDigit
      simp only [Text.isTokenChar, Text.isDigit, Text.isLetter, Bool.or_eq_true,
        Bool.and_eq_true, decide_eq_true_eq]
      split_ifs at isDigit with decimal small capital
      · exact .inl (.inl decimal)
      · exact .inl (.inr (.inl ⟨small.1, Char.le_trans small.2 (by decide)⟩))
      · exact .inl (.inr (.inr ⟨capital.1, Char.le_trans capital.2 (by decide)⟩))
      · cases isDigit
    exact Headers.of_isTokenChar (by decide) isToken

theorem parse?_text (address : Address) :
    ClientAddress.parse? address.text = some address := by
  unfold ClientAddress.parse?
  rw [Text.trim_of_kept fun _ present => (isEntryChar_of_mem_text present).2.2,
    ofText?_text]

end Address

namespace Text

/-- The first entry of a joined list is its first item, if that contains no comma. -/
theorem firstEntry_intercalate
    {first : String}
    (free : ',' ∉ first.toList)
    (others : List String) :
    firstEntry (String.intercalate ", " (first :: others)) = first := by
  have goesOn : ∀ char ∈ first.toList, (char != ',') = true := fun char present =>
    bne_iff_ne.mpr fun isComma => free (isComma ▸ present)
  have stops (rest : List Char) :
      ∀ char, (',' :: rest).head? = some char → (char != ',') = false := by
    rintro _ ⟨⟩
    rfl
  unfold firstEntry
  rw [← String.toList_inj, String.toList_ofList]
  cases others with
  | nil =>
      rw [String.intercalate_singleton]
      exact List.takeWhile_eq_self_iff.mpr goesOn
  | cons next more =>
      rw [String.intercalate_cons_of_ne_nil (List.cons_ne_nil next more),
        String.append_assoc, String.toList_append, String.toList_append]
      exact takeWhile_append_of_stop goesOn (stops _)

/-- A joined list can be joined with further items. -/
theorem intercalate_intercalate
    {front back : List String}
    (frontNonempty : front ≠ [])
    (backNonempty : back ≠ []) :
    String.intercalate ", " (String.intercalate ", " front :: back) =
      String.intercalate ", " (front ++ back) := by
  rw [String.intercalate_cons_of_ne_nil backNonempty,
    String.intercalate_append_of_ne_nil frontNonempty backNonempty]

end Text

namespace Headers

variable (headers : Headers)

section Step

/-- A joined list of visible texts is visible. -/
theorem visible_intercalate
    {texts : List String}
    (visible : ∀ text ∈ texts, ∀ char ∈ text.toList, IsVisible char) :
    ∀ char ∈ (String.intercalate ", " texts).toList, IsVisible char := by
  have separator : ∀ char ∈ ", ".toList, IsVisible char :=
    List.all_iff_forall_prop.mp (by decide)
  induction texts with
  | nil => exact List.forall_mem_nil _
  | cons first others inductionHypothesis =>
      obtain ⟨firstVisible, othersVisible⟩ := List.forall_mem_cons.mp visible
      cases others with
      | nil => rwa [String.intercalate_singleton]
      | cons next more =>
          rw [String.intercalate_cons_of_ne_nil (List.cons_ne_nil next more),
            String.toList_append, String.toList_append]
          exact List.forall_mem_append.mpr
            ⟨List.forall_mem_append.mpr ⟨firstVisible, separator⟩,
              inductionHypothesis othersVisible⟩

/-- The list with one more client is visible. -/
theorem visible_forwardedChain (name : String) (client : Address) :
    ∀ char ∈ (forwardedChain (headers.texts name) client).toList, IsVisible char := by
  refine visible_intercalate fun text present => ?_
  rcases List.mem_append.mp present with earlier | isLast
  · obtain ⟨value, -, isText⟩ := List.mem_filterMap.mp earlier
    exact visible_of_text? isText
  · rw [List.mem_singleton.mp isLast]
    exact fun _ inText => (Address.isEntryChar_of_mem_text inText).1

/-- A client can always be added. -/
theorem appendForwardedFor_eq (client : Address) :
    headers.appendForwardedFor client =
      headers.insertText forwardedFor
        (forwardedChain (headers.texts forwardedFor) client) := by
  unfold appendForwardedFor
  rw [value?_eq_encode
    (isText_of_visible (headers.visible_forwardedChain forwardedFor client))]
  rfl

theorem texts_appendForwardedFor (client : Address) :
    (headers.appendForwardedFor client).texts forwardedFor =
      [forwardedChain (headers.texts forwardedFor) client] := by
  rw [texts, appendForwardedFor_eq, getAll_insertText_self]
  exact List.filterMap_cons_some
    (text?_encode (headers.visible_forwardedChain forwardedFor client))

theorem remove_insert_self (name : String) (value : Bytes) :
    (headers.insert name value).remove name = headers.remove name := by
  unfold insert append remove
  simp [List.filter_filter]

theorem remove_appendForwardedFor (client : Address) :
    (headers.appendForwardedFor client).remove forwardedFor =
      headers.remove forwardedFor := by
  rw [appendForwardedFor_eq]
  exact headers.remove_insert_self forwardedFor _

end Step

section Run

theorem remove_foldl_appendForwardedFor (clients : List Address) :
    (clients.foldl appendForwardedFor headers).remove forwardedFor =
      headers.remove forwardedFor := by
  induction clients generalizing headers with
  | nil => rfl
  | cons client others inductionHypothesis =>
      rw [List.foldl_cons, inductionHypothesis, remove_appendForwardedFor]

/-- Clients that are added one after the other make one list with what was there. -/
theorem getAll_foldl_appendForwardedFor (first : Address) (others : List Address) :
    ((first :: others).foldl appendForwardedFor headers).getAll forwardedFor =
      [Text.Utf8.encode (String.intercalate ", "
        (headers.texts forwardedFor ++ (first :: others).map Address.text))] := by
  induction others generalizing headers first with
  | nil =>
      rw [List.foldl_cons, List.foldl_nil, appendForwardedFor_eq, getAll_insertText_self]
      rfl
  | cons second further inductionHypothesis =>
      have joined := Text.intercalate_intercalate
        (List.append_ne_nil_of_right_ne_nil (headers.texts forwardedFor)
          (List.cons_ne_nil first.text []))
        (List.cons_ne_nil second.text (further.map Address.text))
      rw [List.append_assoc] at joined
      rw [List.foldl_cons, inductionHypothesis, texts_appendForwardedFor]
      exact congrArg (fun text => [Text.Utf8.encode text]) joined

end Run

end Headers

namespace ClientAddress

/-- A trusted list of addresses names its first one. -/
theorem namesFirst_of_list
    {source : ClientAddress}
    {sent : Headers}
    {name : String}
    {first : Address}
    {others : List Address}
    (trusted : source.proxyHeader = some name)
    (list : sent.getAll name =
      [Text.Utf8.encode (String.intercalate ", " ((first :: others).map Address.text))]) :
    source.NamesFirst sent first := by
  have visible : ∀ text ∈ (first :: others).map Address.text, ∀ char ∈ text.toList,
      Headers.IsVisible char := by
    intro text present char inText
    obtain ⟨address, -, rfl⟩ := List.mem_map.mp present
    exact (Address.isEntryChar_of_mem_text inText).1
  have isText : sent.firstText? name =
      some (String.intercalate ", " ((first :: others).map Address.text)) := by
    unfold Headers.firstText? Headers.get?
    rw [list]
    exact Headers.text?_encode (Headers.visible_intercalate visible)
  have free : ',' ∉ first.text.toList := fun present =>
    (Address.isEntryChar_of_mem_text present).2.1 rfl
  refine ⟨name, trusted, _, isText, ?_⟩
  rw [List.map_cons, Text.firstEntry_intercalate free, Address.parse?_text]

/-- The list of clients and the client it names. Adding addresses, by one proxy or by
several, makes one list of the earlier texts and of them, and changes no other field.
Without earlier texts, a reader that trusts only the list finds the first address,
whatever the peer. -/
theorem finds_first_forwarded
    (headers : Headers)
    (first : Address)
    (others : List Address) :
    let sent := (first :: others).foldl Headers.appendForwardedFor headers
    sent.getAll Headers.forwardedFor =
        [Text.Utf8.encode (String.intercalate ", "
          (headers.texts Headers.forwardedFor ++ (first :: others).map Address.text))] ∧
      sent.remove Headers.forwardedFor = headers.remove Headers.forwardedFor ∧
      (headers.texts Headers.forwardedFor = [] →
        ∀ source : ClientAddress, source.proxyHeader = some Headers.forwardedFor →
          (∀ address, ¬source.NamesAlone sent address) →
            ∀ peer, source.resolve? sent peer = some first) := by
  intro sent
  have list := headers.getAll_foldl_appendForwardedFor first others
  refine ⟨list, headers.remove_foldl_appendForwardedFor _, ?_⟩
  intro noTexts source trusted noneAlone peer
  rw [noTexts, List.nil_append] at list
  exact resolve?_eq_some_iff.mpr (.first noneAlone (namesFirst_of_list trusted list))

/-- A proxy that trusts the list of clients, and another field that names a single one. -/
def behindProxies : ClientAddress := ⟨some "x-real-ip", some Headers.forwardedFor⟩

/-- A header whose list of clients is no text, with a field that names no address. -/
def unclear : Headers where
  fields := [(Headers.forwardedFor, [0xFF]), ("x-real-ip", Text.Utf8.encode "unknown")]

/-- The first of three addresses is found, though it stands for one of the first
family. -/
theorem unclear_finds_mapped :
    let sent :=
      ([.v6 0xFFFFC0000201, .v6 0x20010DB8000000000000000000000001, .v4 0x0A000001] :
        List Address).foldl Headers.appendForwardedFor unclear
    sent.getAll Headers.forwardedFor =
        [Text.Utf8.encode "::ffff:192.0.2.1, 2001:db8::1, 10.0.0.1"] ∧
      behindProxies.resolve? sent none = some (.v6 0xFFFFC0000201) := by
  intro sent
  obtain ⟨list, -, finds⟩ := finds_first_forwarded unclear (.v6 0xFFFFC0000201)
    [.v6 0x20010DB8000000000000000000000001, .v4 0x0A000001]
  have noneAlone : behindProxies.fromReal? sent = none := by decide +kernel
  refine ⟨list.trans (by decide +kernel),
    finds (by decide +kernel) behindProxies rfl ?_ none⟩
  exact fromReal?_eq_none_iff.mp noneAlone

end ClientAddress
end Gatehouse
