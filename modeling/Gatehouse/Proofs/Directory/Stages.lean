import Gatehouse.Directory.Ldap
import Mathlib.Data.List.Infix
import Mathlib.Tactic.Common

/-!
# Stages of a conversation

An attempt goes through stages, each of which makes a request and goes on if the answer
suits. What is sent is the beginning of the requests up to the first stage that fails; a
request that cannot be sent is not among them. An action of the client that goes through
stages and another one behind it go through the stages of both.
-/

namespace Gatehouse
namespace Ldap

/-- Whether a request can be sent: a search needs a filter that can be read. -/
def Request.isSendable : Request → Bool
  | .search _ filter _ => (Filter.ofText? filter).isSome
  | _ => true

/-- The server has replied that it has done what it was asked for. -/
def Answer.isSuccess : Answer → Bool
  | .received reply => reply.result.code == 0
  | .failed _ => false

/-- The entries in an answer. -/
def Answer.entries : Answer → List RawEntry
  | .received reply => reply.entries
  | .failed _ => []

/-- A request, and the answers to it with which an attempt goes on. -/
structure Stage where
  request : Request
  suits : Answer → Bool

/-- A stage succeeds with an answer if its request can be sent and the answer suits. -/
def Stage.succeeds (stage : Stage) (answer : Answer) : Bool :=
  stage.request.isSendable && stage.suits answer

/-- Each stage succeeds with the answer at its position. -/
def Through : List Stage → Script → Prop
  | [], _ => True
  | stage :: later, script =>
      stage.succeeds script.next = true ∧ Through later (script.behind 1)

/-- The requests of stages that are made if they are answered as a script says. -/
def sent : List Stage → Script → List Request
  | [], _ => []
  | stage :: later, script =>
      if stage.request.isSendable then
        stage.request ::
          (if stage.suits script.next then sent later (script.behind 1) else [])
      else []

instance decidableThrough : (stages : List Stage) → (script : Script) →
    Decidable (Through stages script)
  | [], _ => inferInstanceAs (Decidable True)
  | _ :: later, script =>
      let _ := decidableThrough later (script.behind 1)
      inferInstanceAs (Decidable (_ ∧ _))

variable {front back stages : List Stage}
variable {script : Script}

/-! ## What is sent -/

/-- What is sent is a beginning of the requests. -/
theorem sent_isPrefix (stages : List Stage) (script : Script) :
    sent stages script <+: stages.map (·.request) := by
  induction stages generalizing script with
  | nil => exact List.prefix_rfl
  | cons stage later inductionHypothesis =>
      unfold sent
      split
      · split
        · exact (List.prefix_cons_inj _).mpr (inductionHypothesis _)
        · exact (List.prefix_cons_inj _).mpr List.nil_prefix
      · exact List.nil_prefix

/-- Stages in a row succeed if the first ones do, and the others with the rest. -/
theorem through_append :
    Through (front ++ back) script ↔
      Through front script ∧ Through back (script.behind front.length) := by
  induction front generalizing script with
  | nil => simp [Through, Script.behind_zero]
  | cons stage later inductionHypothesis =>
      simp only [List.cons_append, Through, inductionHypothesis, List.length_cons,
        and_assoc, Script.behind_succ script later.length]

/-- All requests of stages that succeed are sent, and then those of the stages behind
them. -/
theorem sent_append_of_through (through : Through front script) :
    sent (front ++ back) script =
      front.map (·.request) ++ sent back (script.behind front.length) := by
  induction front generalizing script with
  | nil => rfl
  | cons stage later inductionHypothesis =>
      obtain ⟨succeeds, behind⟩ := through
      obtain ⟨sendable, suits⟩ := Bool.and_eq_true_iff.mp succeeds
      simp only [List.cons_append, sent, sendable, suits, if_true, List.map_cons,
        inductionHypothesis behind, List.length_cons,
        Script.behind_succ script later.length]

theorem sent_of_through (through : Through stages script) :
    sent stages script = stages.map (·.request) := by
  have whole : sent (stages ++ []) script = stages.map (·.request) ++ sent [] _ :=
    sent_append_of_through through
  rwa [List.append_nil, sent, List.append_nil] at whole

/-- Nothing is sent behind a stage that fails. -/
theorem sent_append_of_not_through (fails : ¬ Through front script) :
    sent (front ++ back) script = sent front script := by
  induction front generalizing script with
  | nil => exact absurd trivial fails
  | cons stage later inductionHypothesis =>
      simp only [List.cons_append, sent]
      by_cases sendable : stage.request.isSendable = true
      · by_cases suits : stage.suits script.next = true
        · have behind : ¬ Through later (script.behind 1) := fun through =>
            fails ⟨Bool.and_eq_true_iff.mpr ⟨sendable, suits⟩, through⟩
          simp only [sendable, suits, if_true, inductionHypothesis behind]
        · simp only [sendable, suits, if_true]
          rfl
      · simp only [sendable]
        rfl

/-- A request is sent exactly if it can be and all earlier stages succeed. -/
theorem lt_length_sent_iff
    {position : Nat}
    {stage : Stage}
    (isStage : stages[position]? = some stage) :
    position < (sent stages script).length ↔
      Through (stages.take position) script ∧ stage.request.isSendable = true := by
  induction stages generalizing position script with
  | nil => cases isStage
  | cons first later inductionHypothesis =>
      cases position with
      | zero =>
          rw [List.getElem?_cons_zero, Option.some.injEq] at isStage
          subst isStage
          by_cases sendable : first.request.isSendable = true <;>
            simp [sent, Through, sendable]
      | succ position =>
          rw [List.getElem?_cons_succ] at isStage
          have behind : position < (sent later (script.behind 1)).length ↔
              Through (later.take position) (script.behind 1) ∧
              stage.request.isSendable = true :=
            inductionHypothesis isStage
          simp only [sent, List.take_succ_cons, Through, Stage.succeeds]
          by_cases sendable : first.request.isSendable = true
          · by_cases suits : first.suits script.next = true
            · simp [sendable, suits, behind]
            · simp [sendable, suits]
          · simp [sendable]

/-! ## Actions -/

/-- An action goes through its stages: to its result if all of them succeed, and
otherwise up to the first failure. -/
structure Goes
    {α : Type}
    (action : StateM Conversation α)
    (stages : List Stage)
    (script : Script)
    (arrives stops : α → Prop) : Prop where
  requests : ∀ earlier,
    (action.run ⟨script, earlier⟩).2.requests = (sent stages script).reverse ++ earlier
  arriving : Through stages script → ∀ earlier,
    (action.run ⟨script, earlier⟩).2.script = script.behind stages.length ∧
      arrives (action.run ⟨script, earlier⟩).1
  stopping : ¬ Through stages script → ∀ earlier, stops (action.run ⟨script, earlier⟩).1

/-- A step yields a value. -/
def Yields {α : Type} (proper : α → Prop) (outcome : Except DirectoryError α) : Prop :=
  ∃ value, outcome = .ok value ∧ proper value

/-- A step yields nothing but certain values. -/
def YieldsAtMost
    {α : Type}
    (proper : α → Prop)
    (outcome : Except DirectoryError α) : Prop :=
  ∀ value, outcome = .ok value → proper value

/-- A step fails. -/
abbrev Fails {α : Type} : Except DirectoryError α → Prop :=
  YieldsAtMost fun _ => False

theorem fails_error
    {α : Type}
    (cause : DirectoryError) :
    Fails (.error cause : Except _ α) :=
  nofun

section Actions

variable {α β : Type}
variable {step : Step α}

theorem goes_pure {value : α} {arrives stops : α → Prop} (proper : arrives value) :
    Goes (pure value) [] script arrives stops where
  requests := fun _ => rfl
  arriving := fun _ _ => ⟨rfl, proper⟩
  stopping := fun fails => absurd trivial fails

/-- An action and what follows it go through both their stages, unless the action
fails. -/
theorem Goes.andThen
    {action : StateM Conversation α}
    {next : α → StateM Conversation β}
    {arrives stops : α → Prop}
    {finallyArrives finallyStops : β → Prop}
    (first : Goes action front script arrives stops)
    (second : Through front script → ∀ value, arrives value →
      Goes (next value) back (script.behind front.length) finallyArrives finallyStops)
    (halts : ¬ Through front script → ∀ value, stops value →
      ∃ result, next value = pure result ∧ finallyStops result) :
    Goes (action >>= next) (front ++ back) script finallyArrives finallyStops := by
  by_cases through : Through front script
  · have goesOn : ∀ earlier, ∃ value, arrives value ∧
        (action >>= next).run ⟨script, earlier⟩ =
          (next value).run
            ⟨script.behind front.length, (sent front script).reverse ++ earlier⟩ := by
      intro earlier
      have made := first.requests earlier
      obtain ⟨left, proper⟩ := first.arriving through earlier
      rw [StateT.run_bind]
      rcases ran : action.run ⟨script, earlier⟩ with ⟨value, ⟨later, requests⟩⟩
      rw [ran] at made left proper
      subst made left
      exact ⟨value, proper, rfl⟩
    refine ⟨fun earlier => ?_, fun allThrough earlier => ?_, fun notThrough earlier => ?_⟩
    · obtain ⟨value, proper, runs⟩ := goesOn earlier
      rw [runs, (second through value proper).requests, sent_append_of_through through,
        sent_of_through through, List.reverse_append, List.append_assoc]
    · obtain ⟨value, proper, runs⟩ := goesOn earlier
      have arrived := (second through value proper).arriving
        (through_append.mp allThrough).2 ((sent front script).reverse ++ earlier)
      rw [runs, List.length_append, Script.behind_add]
      exact arrived
    · obtain ⟨value, proper, runs⟩ := goesOn earlier
      rw [runs]
      exact (second through value proper).stopping
        (fun behind => notThrough (through_append.mpr ⟨through, behind⟩)) _
  · have stopped : ∀ earlier, ∃ result left, finallyStops result ∧
        (action >>= next).run ⟨script, earlier⟩ =
          (result, ⟨left, (sent front script).reverse ++ earlier⟩) := by
      intro earlier
      have made := first.requests earlier
      have stopping := first.stopping through earlier
      rw [StateT.run_bind]
      rcases ran : action.run ⟨script, earlier⟩ with ⟨value, ⟨later, requests⟩⟩
      rw [ran] at made stopping
      subst made
      obtain ⟨result, does, isStop⟩ := halts through value stopping
      exact ⟨result, later, isStop, congrArg (StateT.run · _) does⟩
    refine ⟨fun earlier => ?_, fun allThrough => ?_, fun _ earlier => ?_⟩
    · obtain ⟨result, left, -, runs⟩ := stopped earlier
      rw [runs, sent_append_of_not_through through]
    · exact absurd (through_append.mp allThrough).1 through
    · obtain ⟨result, left, isStop, runs⟩ := stopped earlier
      rw [runs]
      exact isStop

/-- What goes through one stage goes through a stricter one, if results are told apart. -/
theorem Goes.restrict
    {action : StateM Conversation α}
    {request : Request}
    {suits strict : Answer → Bool}
    {arrives stops strictlyArrives strictlyStops : α → Prop}
    (goes : Goes action [⟨request, suits⟩] script arrives stops)
    (stricter : strict script.next = true → suits script.next = true)
    (arriving : strict script.next = true → ∀ value,
      arrives value → strictlyArrives value)
    (missing : suits script.next = true → strict script.next = false →
      ∀ value, arrives value → strictlyStops value)
    (stopping : ∀ value, stops value → strictlyStops value) :
    Goes action [⟨request, strict⟩] script strictlyArrives strictlyStops := by
  have through : ∀ suitable : Answer → Bool, Through [⟨request, suitable⟩] script ↔
      request.isSendable = true ∧ suitable script.next = true := by
    intro suitable
    simp [Through, Stage.succeeds]
  refine ⟨fun earlier => ?_, fun succeeds earlier => ?_, fun fails earlier => ?_⟩
  · exact (goes.requests earlier).trans (by simp [sent])
  · obtain ⟨sendable, isStrict⟩ := (through strict).mp succeeds
    obtain ⟨left, proper⟩ :=
      goes.arriving ((through suits).mpr ⟨sendable, stricter isStrict⟩) earlier
    exact ⟨left, arriving isStrict _ proper⟩
  · by_cases loosely : Through [⟨request, suits⟩] script
    · obtain ⟨sendable, isSuitable⟩ := (through suits).mp loosely
      have isLoose : strict script.next = false := Bool.eq_false_iff.mpr fun isStrict =>
        fails ((through strict).mpr ⟨sendable, isStrict⟩)
      exact missing isSuitable isLoose _ (goes.arriving loosely earlier).2
    · exact stopping _ (goes.stopping loosely earlier)

/-- A step goes through its stages and those that follow, unless it fails. -/
theorem Goes.bind
    {next : α → Step β}
    {proper halting : α → Prop}
    {arrives stops : Except DirectoryError β → Prop}
    (first : Goes step.run front script (Yields proper) (YieldsAtMost halting))
    (second : ∀ value, proper value →
      Goes (next value).run back (script.behind front.length) arrives stops)
    (halts : ∀ value,
      halting value → ∃ result, next value = pure result ∧ stops (.ok result))
    (fails : ∀ cause, stops (.error cause)) :
    Goes (step >>= next).run (front ++ back) script arrives stops := by
  rw [ExceptT.run_bind]
  refine first.andThen ?_ ?_
  · rintro - outcome ⟨value, rfl, isProper⟩
    exact second value isProper
  · intro _ outcome atMost
    cases outcome with
    | error cause => exact ⟨.error cause, rfl, fails cause⟩
    | ok value =>
        obtain ⟨result, finished, isStop⟩ := halts value (atMost value rfl)
        exact ⟨.ok result, congrArg ExceptT.run finished, isStop⟩

/-- A step goes through its stages with what settles the matter and sends nothing. -/
theorem Goes.finish
    {next : α → Step β}
    {proper : α → Prop}
    {arrives stops : Except DirectoryError β → Prop}
    (first : Goes step.run stages script (Yields proper) Fails)
    (settles : ∀ value,
      proper value → ∃ outcome, (next value).run = pure outcome ∧ arrives outcome)
    (fails : ∀ cause, stops (.error cause)) :
    Goes (step >>= next).run stages script arrives stops := by
  rw [← List.append_nil stages]
  refine first.bind (fun value isProper => ?_) nofun fails
  obtain ⟨outcome, settled, arrived⟩ := settles value isProper
  rw [settled]
  exact goes_pure arrived

/-- Making a request and settling the matter by the answer goes through one stage. -/
theorem goes_exchange
    {request : Request}
    {suits : Answer → Bool}
    {next : Answer → Step α}
    {arrives stops : Except DirectoryError α → Prop}
    {outcome : Except DirectoryError α}
    (sendable : request.isSendable = true)
    (settles : (next script.next).run = pure outcome)
    (arriving : suits script.next = true → arrives outcome)
    (stopping : suits script.next = false → stops outcome) :
    Goes (exchange request >>= next).run [⟨request, suits⟩] script arrives stops := by
  have runs : ∀ earlier, (exchange request >>= next).run.run ⟨script, earlier⟩ =
      (outcome, ⟨script.behind 1, request :: earlier⟩) := fun earlier =>
    congrArg (StateT.run · (Conversation.mk (script.behind 1) (request :: earlier)))
      settles
  have through : Through [⟨request, suits⟩] script ↔ suits script.next = true := by
    simp [Through, Stage.succeeds, sendable]
  refine ⟨fun earlier => ?_, fun succeeds earlier => ?_, fun fails earlier => ?_⟩
  · rw [runs]
    simp [sent, sendable]
  · rw [runs]
    exact ⟨rfl, arriving (through.mp succeeds)⟩
  · rw [runs]
    exact stopping (Bool.eq_false_iff.mpr (mt through.mpr fails))

/-- A request that cannot be sent fails its stage, and nothing is sent. -/
theorem goes_throw
    {stage : Stage}
    {cause : DirectoryError}
    {arrives stops : Except DirectoryError α → Prop}
    (unsendable : stage.request.isSendable = false)
    (isStop : stops (.error cause)) :
    Goes (throw cause : Step α).run [stage] script arrives stops where
  requests := fun earlier => by
    rw [sent, unsendable]
    rfl
  arriving := fun succeeds => by simp [Through, Stage.succeeds, unsendable] at succeeds
  stopping := fun _ _ => isStop

end Actions

end Ldap
end Gatehouse
