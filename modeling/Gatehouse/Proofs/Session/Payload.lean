import Gatehouse.Proofs.Text.Splitting
import Gatehouse.Session.Basic

/-!
# What a payload says about its session

The payload of a session puts the address and the user behind labels and escapes
nothing. It is read up to the first label of the user, so that an address which contains
this label ends there, and the rest of the address becomes a part of the user. What has
once been read from a payload has no such address, and therefore keeps its meaning. The
main statement says which texts are payloads, that a payload is written again as it was,
and which sessions are read from their own payloads.
-/

namespace Gatehouse
namespace Session

open Text

/-- The label between the address and the user. -/
def userLabel : String := " user:"

/-- Whether the label of the user occurs in a text. -/
def IsLabelled (text : String) : Prop :=
  userLabel.toList <:+: text.toList

instance (text : String) : Decidable (IsLabelled text) :=
  inferInstanceAs (Decidable (_ <:+: _))

theorem splitOnce?_userLabel {text before after : String} :
    splitOnce? " user:" text = some (before, after) ↔
      text = before ++ userLabel ++ after ∧ ¬ IsLabelled before := by
  have shape : userLabel.toList = ' ' :: "user:".toList := by decide
  exact splitOnce?_eq_some_iff shape (by decide)

/-- A text with the label has a part before the first one and one behind. -/
theorem exists_split_of_isLabelled
    {text : String}
    (labelled : IsLabelled text) :
    ∃ before after, text = before ++ userLabel ++ after ∧ ¬ IsLabelled before := by
  obtain ⟨before, after, split⟩ := exists_splitFirst?_of_isInfix labelled
  refine ⟨String.ofList before, String.ofList after, splitOnce?_userLabel.mp ?_⟩
  unfold splitOnce?
  rw [show " user:".toList = userLabel.toList from rfl, split]
  rfl

theorem email_withEmail_ne (session : Session) (address : String) :
    (session.withEmail address).email ≠ some "" := by
  unfold withEmail
  by_cases empty : address = ""
  · simp [empty]
  · simp [empty]

/-- The session that a payload shows: an empty address is none. -/
def shown (address user : String) : Session :=
  (ofUser user).withEmail address

/-- The payloads of a session have an address free of the label, and a user. -/
theorem ofPayload?_eq_some_iff {payload : String} {session : Session} :
    ofPayload? payload = some session ↔
      ∃ address, payload = "email:" ++ (address ++ userLabel ++ session.user) ∧
        ¬ IsLabelled address ∧ session.user ≠ "" ∧
        session = shown address session.user := by
  unfold ofPayload?
  simp only [Option.bind_eq_bind, Option.bind_eq_some_iff, stripStart?_eq_some_iff,
    Prod.exists, splitOnce?_userLabel]
  constructor
  · rintro ⟨rest, rfl, address, user, ⟨rfl, free⟩, read⟩
    by_cases nobody : user = ""
    · rw [if_pos nobody] at read
      cases read
    · rw [if_neg nobody, Option.some.injEq] at read
      subst read
      exact ⟨address, rfl, free, nobody, rfl⟩
  · rintro ⟨address, rfl, free, named, isShown⟩
    refine ⟨_, rfl, address, session.user, ⟨rfl, free⟩, ?_⟩
    rw [if_neg named]
    exact congrArg some isShown.symm

/-- The payload of what a payload shows is the payload itself. -/
theorem payload_shown (address user : String) :
    (shown address user).payload = "email:" ++ (address ++ userLabel ++ user) := by
  have addressShown : (shown address user).email.getD "" = address := by
    unfold shown withEmail
    split
    · next empty => exact empty.symm
    · rfl
  unfold payload
  rw [addressShown, String.append_assoc, String.append_assoc, String.append_assoc]
  rfl

/-- A session that has been read from a payload is read again from its own. -/
theorem ofPayload?_payload_of_ofPayload?
    {payload : String}
    {session : Session}
    (read : ofPayload? payload = some session) :
    ofPayload? session.payload = some session := by
  obtain ⟨address, -, free, named, isShown⟩ := ofPayload?_eq_some_iff.mp read
  refine ofPayload?_eq_some_iff.mpr ⟨address, ?_, free, named, isShown⟩
  rw [isShown, payload_shown]
  rfl

/-- A session whose address is not empty is what its address and its user show. -/
theorem eq_shown
    {session : Session}
    (proper : session.email ≠ some "") :
    session = shown (session.email.getD "") session.user := by
  obtain ⟨user, email⟩ := session
  cases email with
  | none => rfl
  | some address =>
      have nonempty : address ≠ "" := fun empty => proper (congrArg some empty)
      unfold shown withEmail
      rw [Option.getD_some, if_neg nonempty]
      rfl

theorem payload_eq
    {session : Session}
    (proper : session.email ≠ some "") :
    session.payload = "email:" ++
      (session.email.getD "" ++ userLabel ++ session.user) := by
  rw [← payload_shown, ← eq_shown proper]

/-- A session is read back exactly if it has a user, and no improper address. -/
theorem ofPayload?_payload_iff {session : Session} :
    ofPayload? session.payload = some session ↔
      session.user ≠ "" ∧ session.email ≠ some "" ∧
      ¬ IsLabelled (session.email.getD "") := by
  constructor
  · intro read
    obtain ⟨address, written, free, named, isShown⟩ := ofPayload?_eq_some_iff.mp read
    have proper : session.email ≠ some "" := by
      rw [isShown]
      exact email_withEmail_ne _ address
    rw [payload_eq proper] at written
    have same : session.email.getD "" = address := by
      simpa [String.append_right_inj, String.append_left_inj] using written
    exact ⟨named, proper, by rwa [same]⟩
  · rintro ⟨named, proper, free⟩
    exact ofPayload?_eq_some_iff.mpr
      ⟨session.email.getD "", payload_eq proper, free, named, eq_shown proper⟩

/-- At the label of the user, an address ends and another user begins. -/
theorem ofPayload?_payload_of_isLabelled
    {session : Session}
    {before after : String}
    (address : session.email = some (before ++ userLabel ++ after))
    (free : ¬ IsLabelled before) :
    ofPayload? session.payload =
      some (shown before (after ++ userLabel ++ session.user)) := by
  refine ofPayload?_eq_some_iff.mpr ⟨before, ?_, free, ?_, rfl⟩
  · unfold payload
    rw [address, Option.getD_some]
    simp only [shown, withEmail, ofUser, String.append_assoc]
    rfl
  · intro empty
    have lists := congrArg String.toList empty
    simp [shown, withEmail, ofUser, userLabel] at lists

/-- A payload determines address and user: the address ends at the first label. -/
theorem eq_of_labelled_eq
    {address user otherAddress otherUser : String}
    (free : ¬ IsLabelled address)
    (otherFree : ¬ IsLabelled otherAddress)
    (same : address ++ userLabel ++ user = otherAddress ++ userLabel ++ otherUser) :
    address = otherAddress ∧ user = otherUser := by
  have split :
      splitOnce? " user:" (address ++ userLabel ++ user) = some (address, user) :=
    splitOnce?_userLabel.mpr ⟨rfl, free⟩
  rw [splitOnce?_userLabel.mpr ⟨same, otherFree⟩, Option.some.injEq,
    Prod.mk.injEq] at split
  exact ⟨split.1.symm, split.2.symm⟩

theorem payload_of_ofPayload?
    {payload : String}
    {session : Session}
    (read : ofPayload? payload = some session) :
    session.payload = payload := by
  obtain ⟨address, written, -, -, isShown⟩ := ofPayload?_eq_some_iff.mp read
  rw [isShown, payload_shown, written]

/-- The format of payloads. Exactly the texts with an address behind the first label and
a user behind the second one are read, where the address does not contain the second
label and the user is not empty. What is read is unique, and its payload is the text. A
session is read from its own payload exactly if it has a user and its address is neither
empty nor contains the label of the user. -/
theorem payloads_are_labelled :
    (∀ payload session,
        ofPayload? payload = some session ↔
          ∃ address user, payload = "email:" ++ address ++ " user:" ++ user ∧
            ¬ IsLabelled address ∧ user ≠ "" ∧
              session = ⟨user, if address = "" then none else some address⟩) ∧
      (∀ address user otherAddress otherUser,
        ¬ IsLabelled address → ¬ IsLabelled otherAddress →
          "email:" ++ address ++ " user:" ++ user =
              "email:" ++ otherAddress ++ " user:" ++ otherUser →
            address = otherAddress ∧ user = otherUser) ∧
      (∀ payload session, ofPayload? payload = some session → session.payload = payload) ∧
      ∀ session : Session,
        ofPayload? session.payload = some session ↔
          session.user ≠ "" ∧ session.email ≠ some "" ∧
            ∀ address, session.email = some address → ¬ IsLabelled address := by
  have inParts (address user : String) : "email:" ++ address ++ " user:" ++ user =
      "email:" ++ (address ++ userLabel ++ user) := by
    rw [String.append_assoc, String.append_assoc, String.append_assoc]
    rfl
  refine ⟨fun payload session => ?_, ?_, fun payload session => payload_of_ofPayload?,
    fun session => ?_⟩
  · rw [ofPayload?_eq_some_iff]
    constructor
    · rintro ⟨address, written, free, named, isShown⟩
      exact ⟨address, session.user, written.trans (inParts _ _).symm, free,
        named, isShown⟩
    · rintro ⟨address, user, written, free, named, rfl⟩
      exact ⟨address, written.trans (inParts _ _), free, named, rfl⟩
  · intro address user otherAddress otherUser free otherFree same
    rw [inParts, inParts, String.append_right_inj] at same
    exact eq_of_labelled_eq free otherFree same
  · rw [ofPayload?_payload_iff]
    refine and_congr_right fun _ => and_congr_right fun _ => ?_
    cases session.email with
    | none => exact iff_of_true (by decide) fun address given => nomatch given
    | some address => simp

/-- A label in the user's name is no second border. -/
theorem label_in_user_is_kept :
    ofPayload? "email: user:root user:carol" = some ⟨"root user:carol", none⟩ ∧
      (⟨"root user:carol", none⟩ : Session).payload = "email: user:root user:carol" ∧
      ofPayload? (⟨"carol", some "c@x.io"⟩ : Session).payload =
        some ⟨"carol", some "c@x.io"⟩ := by
  obtain ⟨reads, -, keeps, keepsSession⟩ := payloads_are_labelled
  have read : ofPayload? "email: user:root user:carol" = some ⟨"root user:carol", none⟩ :=
    (reads _ _).mpr ⟨"", "root user:carol", by decide, by decide, by decide, by decide⟩
  refine ⟨read, keeps _ _ read, (keepsSession _).mpr ⟨by decide, by decide, ?_⟩⟩
  rintro address given
  cases given
  decide

end Session
end Gatehouse
