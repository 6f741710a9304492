import Gatehouse.Shutdown
import Mathlib.Data.List.Infix
import Mathlib.Data.Set.Card

/-!
# No notice is lost

Whatever is done to a source and its receivers, in whatever order, one who waits is done
exactly from the first notice on that is given after it began to wait, or from the end
of the source on. Notices that were given before do not count. Those who listen are
exactly those who began to listen and were neither dropped nor done when they were
polled.

What an action does is said once, as what becomes of each receiver (`Shutdown.keep`) and
who is new. The fate of a receiver follows by induction on the actions behind its
beginning.
-/

namespace Gatehouse
namespace Shutdown

/-! ## What one action does -/

/-- What becomes of a receiver in an action: the receiver afterwards, if it still
listens. -/
def keep (shutdown : Shutdown) : Action → Receiver → Option Receiver
  | .poll name => Option.guard fun receiver => !shutdown.finishes name receiver
  | .drop name => Option.guard fun receiver => receiver.name != name
  | .ask name => fun receiver =>
      some (if receiver.name == name && !receiver.waits then
        (receiver.ask shutdown.given shutdown.closed).2
      else receiver)
  | .subscribe => some
  | .wait => some
  | .trigger => some
  | .close => some

/-- Whether someone begins to listen in an action, and if so, whether to wait. -/
def Action.waits? : Action → Option Bool
  | .subscribe => some false
  | .wait => some true
  | _ => none

/-- The receiver that is new after an action. -/
def newcomer? (shutdown : Shutdown) (action : Action) : Option Receiver :=
  if shutdown.closed then none
  else action.waits?.map (⟨shutdown.begun, ·, shutdown.given⟩)

variable {shutdown : Shutdown}
variable {action : Action}
variable {receiver kept : Receiver}

/-- A newcomer has the next name, behind all notices, while the source is there. -/
theorem newcomer?_eq_some
    (isNew : shutdown.newcomer? action = some receiver) :
    receiver.name = shutdown.begun ∧ receiver.passed = shutdown.given ∧
      action.waits? = some receiver.waits ∧ shutdown.closed = false := by
  unfold newcomer? at isNew
  split_ifs at isNew with isOpen
  obtain ⟨waits, begins, rfl⟩ := Option.map_eq_some_iff.mp isNew
  exact ⟨rfl, rfl, begins, Bool.not_eq_true _ ▸ isOpen⟩

/-- Those who begin to listen are new, and everyone else stays. -/
theorem receivers_join (shutdown : Shutdown) (waits : Bool) :
    (shutdown.join waits).receivers =
      (if shutdown.closed then none
        else some (Receiver.mk shutdown.begun waits shutdown.given)).toList ++
        shutdown.receivers := by
  unfold join
  split_ifs
  · rfl
  · rfl

/-- Behind an action, the newcomer listens in front of those who still do. -/
theorem receivers_act (shutdown : Shutdown) (action : Action) :
    (shutdown.act action).receivers =
      (shutdown.newcomer? action).toList ++
        shutdown.receivers.filterMap (shutdown.keep action) := by
  have nobody (action : Action) (begins : action.waits? = none) :
      (shutdown.newcomer? action).toList = [] := by
    rw [newcomer?, begins, Option.map_none, ite_self]
    rfl
  cases action with
  | subscribe =>
      exact (shutdown.receivers_join false).trans (by rw [keep, List.filterMap_some]; rfl)
  | wait =>
      exact (shutdown.receivers_join true).trans (by rw [keep, List.filterMap_some]; rfl)
  | trigger =>
      rw [nobody _ rfl, keep, List.filterMap_some, act, trigger]
      split_ifs
      · rfl
      · rfl
  | close =>
      rw [nobody _ rfl, keep, List.filterMap_some]
      rfl
  | poll name =>
      rw [nobody _ rfl, keep, List.filterMap_eq_filter]
      rfl
  | ask name =>
      rw [nobody _ rfl, keep, List.filterMap_eq_map']
      rfl
  | drop name =>
      rw [nobody _ rfl, keep, List.filterMap_eq_filter]
      rfl

theorem mem_receivers_act :
    kept ∈ (shutdown.act action).receivers ↔
      shutdown.newcomer? action = some kept ∨
        ∃ receiver ∈ shutdown.receivers, shutdown.keep action receiver = some kept := by
  rw [receivers_act, List.mem_append, Option.mem_toList, List.mem_filterMap]

/-- A polled receiver is done if a notice is ahead of it, or none will come. -/
theorem isReady_iff :
    shutdown.isReady receiver = true ↔
      receiver.passed < shutdown.given ∨ shutdown.closed = true := by
  unfold isReady tells Receiver.ask Receiver.capacity
  split_ifs with lags isBehind isClosed
  · exact iff_of_true rfl (.inl (by omega))
  · exact iff_of_true rfl (.inl isBehind)
  · exact iff_of_true rfl (.inr isClosed)
  · exact iff_of_false Bool.false_ne_true (not_or.mpr ⟨isBehind, isClosed⟩)

theorem ask_snd (receiver : Receiver) (given : Nat) (closed : Bool) :
    (receiver.ask given closed).2.name = receiver.name ∧
      (receiver.ask given closed).2.waits = receiver.waits := by
  unfold Receiver.ask
  split_ifs
  all_goals exact ⟨rfl, rfl⟩

/-- What still listens is what it was, or a subscriber that has asked for news. -/
theorem keep_cases
    (isKept : shutdown.keep action receiver = some kept) :
    kept = receiver ∨
      receiver.waits = false ∧
      kept = (receiver.ask shutdown.given shutdown.closed).2 := by
  cases action with
  | subscribe => exact .inl (Option.some.inj isKept).symm
  | wait => exact .inl (Option.some.inj isKept).symm
  | trigger => exact .inl (Option.some.inj isKept).symm
  | close => exact .inl (Option.some.inj isKept).symm
  | poll name =>
      rw [keep] at isKept
      exact .inl (Option.guard_eq_some_iff.mp isKept).1.symm
  | drop name =>
      rw [keep] at isKept
      exact .inl (Option.guard_eq_some_iff.mp isKept).1.symm
  | ask name =>
      obtain rfl := Option.some.inj isKept
      split_ifs with asks
      · exact .inr ⟨by simpa using (Bool.and_eq_true_iff.mp asks).2, rfl⟩
      · exact .inl rfl

/-- What still listens keeps its name; one who waits has not changed at all. -/
theorem keep_eq_some
    (isKept : shutdown.keep action receiver = some kept) :
    kept.name = receiver.name ∧ kept.waits = receiver.waits ∧
      (receiver.waits = true → kept = receiver) := by
  rcases keep_cases isKept with rfl | ⟨subscribes, rfl⟩
  · exact ⟨rfl, rfl, fun _ => rfl⟩
  · obtain ⟨sameName, sameWaits⟩ := ask_snd receiver shutdown.given shutdown.closed
    refine ⟨sameName, sameWaits, fun waits => ?_⟩
    rw [subscribes] at waits
    cases waits

/-- No notice is behind a receiver that was not given. -/
theorem passed_le_of_keep
    (passed : receiver.passed ≤ shutdown.given)
    (isKept : shutdown.keep action receiver = some kept) :
    kept.passed ≤ shutdown.given := by
  rcases keep_cases isKept with rfl | ⟨-, rfl⟩
  · exact passed
  · unfold Receiver.ask
    split_ifs with lags isBehind
    · exact Nat.sub_le _ _
    · exact isBehind
    · exact passed
    · exact passed

/-- A receiver stops if it is dropped, or waits and is polled when done. -/
theorem keep_eq_none_iff :
    shutdown.keep action receiver = none ↔
      action = .drop receiver.name ∨
        action = .poll receiver.name ∧ receiver.waits = true ∧
        shutdown.isReady receiver = true := by
  cases action with
  | poll name =>
      rw [keep, Option.guard_eq_none_iff, Bool.not_eq_false', finishes, Bool.and_eq_true,
        Bool.and_eq_true, beq_iff_eq, and_assoc, Action.poll.injEq, eq_comm]
      simp only [reduceCtorEq, false_or]
  | drop name =>
      rw [keep, Option.guard_eq_none_iff, bne_eq_false_iff_eq, Action.drop.injEq, eq_comm]
      simp only [reduceCtorEq, false_and, or_false]
  | subscribe => simp [keep]
  | wait => simp [keep]
  | trigger => simp [keep]
  | close => simp [keep]
  | ask name => simp [keep]

@[simp] theorem closed_join (waits : Bool) :
    (shutdown.join waits).closed = shutdown.closed := by
  unfold join
  split_ifs
  all_goals rfl

@[simp] theorem given_join (waits : Bool) :
    (shutdown.join waits).given = shutdown.given := by
  unfold join
  split_ifs
  all_goals rfl

@[simp] theorem closed_trigger : shutdown.trigger.closed = shutdown.closed := by
  unfold trigger
  split_ifs
  all_goals rfl

@[simp] theorem begun_trigger : shutdown.trigger.begun = shutdown.begun := by
  unfold trigger
  split_ifs
  all_goals rfl

/-- A source is gone once it has been let go. -/
theorem closed_act :
    (shutdown.act action).closed = true ↔ shutdown.closed = true ∨ action = .close := by
  cases action with
  | subscribe => simp [act, subscribe]
  | wait => simp [act, wait]
  | trigger => simp [act]
  | close => simp [act, close]
  | poll name => simp [act, poll]
  | ask name => simp [act, ask]
  | drop name => simp [act, drop]

/-- Those who have begun to listen are counted. -/
theorem begun_act (shutdown : Shutdown) (action : Action) :
    (shutdown.act action).begun =
      shutdown.begun + (shutdown.newcomer? action).toList.length := by
  have joined (waits : Bool) : (shutdown.join waits).begun = shutdown.begun +
      (if shutdown.closed then none
        else some (Receiver.mk shutdown.begun waits shutdown.given)).toList.length := by
    unfold join
    split_ifs
    all_goals rfl
  cases action with
  | subscribe => exact joined false
  | wait => exact joined true
  | trigger => simp [act, newcomer?, Action.waits?]
  | close => simp [act, close, newcomer?, Action.waits?]
  | poll name => simp [act, poll, newcomer?, Action.waits?]
  | ask name => simp [act, ask, newcomer?, Action.waits?]
  | drop name => simp [act, drop, newcomer?, Action.waits?]

/-- A notice is given exactly while the source is there and someone listens. -/
theorem given_act (shutdown : Shutdown) (action : Action) :
    (shutdown.act action).given =
      if action = .trigger ∧ shutdown.closed = false ∧ shutdown.receivers ≠ [] then
        shutdown.given + 1
      else shutdown.given := by
  cases action with
  | subscribe => simp [act, subscribe]
  | wait => simp [act, wait]
  | trigger =>
      unfold act trigger
      cases closed : shutdown.closed with
      | true => simp
      | false => cases shutdown.receivers <;> simp
  | close => rfl
  | poll name => rfl
  | ask name => rfl
  | drop name => rfl

/-- For a listener, a poll succeeds if it did before, or if the action tells something. -/
theorem isReady_act
    (listens : receiver ∈ shutdown.receivers)
    (passed : receiver.passed ≤ shutdown.given) :
    (shutdown.act action).isReady receiver = true ↔
      shutdown.isReady receiver = true ∨ action = .trigger ∨ action = .close := by
  have someone : shutdown.receivers ≠ [] := List.ne_nil_of_mem listens
  rw [isReady_iff, isReady_iff, closed_act, given_act]
  cases closed : shutdown.closed with
  | true => simp
  | false =>
      split_ifs with gives
      · have news : receiver.passed < shutdown.given + 1 := by omega
        exact iff_of_true (.inl news) (.inr (.inl gives.1))
      · have noTrigger : action ≠ .trigger :=
          fun isTrigger => gives ⟨isTrigger, rfl, someone⟩
        simp [noTrigger]

/-! ## What every action preserves -/

/-- Receivers have names of their own, below the next one, and only given notices
behind. -/
structure IsOrderly (shutdown : Shutdown) : Prop where
  distinct : (shutdown.receivers.map Receiver.name).Nodup
  named : ∀ receiver ∈ shutdown.receivers, receiver.name < shutdown.begun
  passed : ∀ receiver ∈ shutdown.receivers, receiver.passed ≤ shutdown.given

/-- Who still listens has listened before, in the same order. -/
theorem names_keep_sublist
    (shutdown : Shutdown)
    (action : Action)
    (receivers : List Receiver) :
    ((receivers.filterMap (shutdown.keep action)).map Receiver.name).Sublist
      (receivers.map Receiver.name) := by
  induction receivers with
  | nil => exact .slnil
  | cons first rest inductionHypothesis =>
      cases isKept : shutdown.keep action first with
      | none =>
          rw [List.filterMap_cons_none isKept, List.map_cons]
          exact inductionHypothesis.cons _
      | some kept =>
          rw [List.filterMap_cons_some isKept, List.map_cons, List.map_cons,
            (keep_eq_some isKept).1]
          exact inductionHypothesis.cons_cons _

namespace IsOrderly

theorem new : IsOrderly new :=
  ⟨List.nodup_nil, List.forall_mem_nil _, List.forall_mem_nil _⟩

/-- Every action leaves a source orderly. -/
theorem act
    (orderly : shutdown.IsOrderly)
    (action : Action) :
    (shutdown.act action).IsOrderly := by
  obtain ⟨distinct, named, passed⟩ := orderly
  refine ⟨?_, ?_, ?_⟩
  · have others :=
      distinct.sublist (shutdown.names_keep_sublist action shutdown.receivers)
    rw [receivers_act, List.map_append]
    cases isNew : shutdown.newcomer? action with
    | none => exact others
    | some first =>
        refine List.nodup_cons.mpr ⟨fun present => ?_, others⟩
        have isOld :=
          (shutdown.names_keep_sublist action shutdown.receivers).subset present
        obtain ⟨receiver, listens, sameName⟩ := List.mem_map.mp isOld
        have := named receiver listens
        have := (newcomer?_eq_some isNew).1
        omega
  · intro kept listens
    rw [begun_act]
    rcases mem_receivers_act.mp listens with isNew | ⟨receiver, listened, isKept⟩
    · rw [isNew, (newcomer?_eq_some isNew).1]
      exact Nat.lt_succ_self _
    · rw [(keep_eq_some isKept).1]
      exact Nat.lt_add_right _ (named receiver listened)
  · intro kept listens
    rw [given_act]
    have bounded : kept.passed ≤ shutdown.given := by
      rcases mem_receivers_act.mp listens with isNew | ⟨receiver, listened, isKept⟩
      · exact Nat.le_of_eq (newcomer?_eq_some isNew).2.1
      · exact passed_le_of_keep (passed receiver listened) isKept
    split_ifs <;> omega

theorem run (orderly : shutdown.IsOrderly) (actions : List Action) :
    (shutdown.run actions).IsOrderly := by
  induction actions generalizing shutdown with
  | nil => exact orderly
  | cons action rest inductionHypothesis => exact inductionHypothesis (orderly.act action)

end IsOrderly

/-! ## The fate of a receiver -/

/-- Actions that tell everyone who listens something: a notice, or the end of the
source. -/
def Tells (actions : List Action) : Prop :=
  .trigger ∈ actions ∨ .close ∈ actions

/-- A receiver stops: it is dropped, or waits and is polled after being told something. -/
def Ends (name : Nat) (waits : Bool) (actions : List Action) : Prop :=
  .drop name ∈ actions ∨
    waits = true ∧ ∃ earlier, earlier ++ [.poll name] <+: actions ∧ Tells earlier

variable {actions : List Action}

theorem tells_concat :
    Tells (actions ++ [action]) ↔
      Tells actions ∨ action = .trigger ∨ action = .close := by
  unfold Tells
  simp only [List.mem_append, List.mem_singleton, eq_comm]
  tauto

/-- A listener stops in the last action if it is dropped, or polled and told something
before. -/
theorem ends_concat
    {name : Nat}
    {waits : Bool} :
    Ends name waits (actions ++ [action]) ↔
      Ends name waits actions ∨ action = .drop name ∨
        action = .poll name ∧ waits = true ∧ Tells actions := by
  have polled :
      (∃ earlier, earlier ++ [.poll name] <+: actions ++ [action] ∧ Tells earlier) ↔
      (∃ earlier, earlier ++ [.poll name] <+: actions ∧ Tells earlier) ∨
        action = .poll name ∧ Tells actions := by
    constructor
    · rintro ⟨earlier, isPrefix, told⟩
      rcases List.prefix_concat_iff.mp isPrefix with whole | isPrefix
      · obtain ⟨rfl, isPoll⟩ := List.append_inj' whole rfl
        exact .inr ⟨(List.singleton_inj.mp isPoll).symm, told⟩
      · exact .inl ⟨earlier, isPrefix, told⟩
    · rintro (⟨earlier, isPrefix, told⟩ | ⟨rfl, told⟩)
      · exact ⟨earlier, isPrefix.trans (List.prefix_append _ _), told⟩
      · exact ⟨actions, List.prefix_rfl, told⟩
  unfold Ends
  rw [polled, List.mem_append, List.mem_singleton, @eq_comm _ (Action.drop name),
    and_or_left, or_or_or_comm, @and_left_comm (waits = true)]

/-- A receiver listens unless it has stopped, and is ready if it was told something. -/
structure Follows
    (receiver : Receiver)
    (actions : List Action)
    (shutdown : Shutdown) : Prop where
  listens : (∃ after ∈ shutdown.receivers, after.name = receiver.name) ↔
    ¬ Ends receiver.name receiver.waits actions
  same : ∀ after ∈ shutdown.receivers, after.name = receiver.name →
    after.waits = receiver.waits ∧ (receiver.waits = true → after = receiver)
  told : receiver.waits = true → receiver ∈ shutdown.receivers →
    (shutdown.isReady receiver = true ↔ Tells actions)

/-- No newcomer has the name of someone who has begun to listen before. -/
theorem exists_of_mem_act
    (named : receiver.name < shutdown.begun)
    (listens : kept ∈ (shutdown.act action).receivers)
    (sameName : kept.name = receiver.name) :
    ∃ before ∈ shutdown.receivers, before.name = receiver.name ∧
      shutdown.keep action before = some kept := by
  rcases mem_receivers_act.mp listens with isNew | ⟨before, listened, isKept⟩
  · have newName := (newcomer?_eq_some isNew).1
    omega
  · exact ⟨before, listened, (keep_eq_some isKept).1.symm.trans sameName, isKept⟩

/-- One more action is followed as well. -/
theorem Follows.concat
    (orderly : shutdown.IsOrderly)
    (named : receiver.name < shutdown.begun)
    (follows : Follows receiver actions shutdown)
    (action : Action) :
    Follows receiver (actions ++ [action]) (shutdown.act action) := by
  obtain ⟨listens, same, told⟩ := follows
  have endsNow {before : Receiver} (listened : before ∈ shutdown.receivers)
      (sameName : before.name = receiver.name) :
      shutdown.keep action before = none ↔
        action = .drop receiver.name ∨
          action = .poll receiver.name ∧ receiver.waits = true ∧ Tells actions := by
    obtain ⟨sameWaits, unchanged⟩ := same before listened sameName
    rw [keep_eq_none_iff, sameName, sameWaits]
    refine or_congr_right (and_congr_right fun _ => and_congr_right fun waits => ?_)
    obtain rfl := unchanged waits
    exact told waits listened
  refine ⟨?_, ?_, ?_⟩
  · rw [ends_concat, not_or, ← listens]
    constructor
    · rintro ⟨after, listensNow, sameName⟩
      obtain ⟨before, listened, hasName, isKept⟩ :=
        exists_of_mem_act named listensNow sameName
      refine ⟨⟨before, listened, hasName⟩, fun ends => ?_⟩
      rw [(endsNow listened hasName).mpr ends] at isKept
      cases isKept
    · rintro ⟨⟨before, listened, hasName⟩, remains⟩
      obtain ⟨after, isKept⟩ :=
        Option.ne_none_iff_exists'.mp (mt (endsNow listened hasName).mp remains)
      exact ⟨after, mem_receivers_act.mpr (.inr ⟨before, listened, isKept⟩),
        (keep_eq_some isKept).1.trans hasName⟩
  · intro after listensNow sameName
    obtain ⟨before, listened, hasName, isKept⟩ :=
      exists_of_mem_act named listensNow sameName
    obtain ⟨sameWaits, unchanged⟩ := same before listened hasName
    obtain ⟨-, keptWaits, keptSame⟩ := keep_eq_some isKept
    refine ⟨keptWaits.trans sameWaits, fun waits => ?_⟩
    exact (keptSame (sameWaits.trans waits)).trans (unchanged waits)
  · intro waits listensNow
    obtain ⟨before, listened, hasName, -⟩ := exists_of_mem_act named listensNow rfl
    obtain rfl := (same before listened hasName).2 waits
    rw [tells_concat, isReady_act listened (orderly.passed _ listened),
      told waits listened]

theorem not_ends_nil (name : Nat) (waits : Bool) : ¬ Ends name waits [] := by
  rintro (dropped | ⟨-, earlier, isPrefix, -⟩)
  · cases dropped
  · exact List.concat_ne_nil _ _ (List.prefix_nil.mp isPrefix)

theorem run_concat (shutdown : Shutdown) (actions : List Action) (action : Action) :
    shutdown.run (actions ++ [action]) = (shutdown.run actions).act action :=
  List.foldl_concat act shutdown action actions

theorem begun_le_run (shutdown : Shutdown) (actions : List Action) :
    shutdown.begun ≤ (shutdown.run actions).begun := by
  induction actions using List.reverseRecOn with
  | nil => exact Nat.le_refl _
  | append_singleton earlier action inductionHypothesis =>
      rw [run_concat, begun_act]
      exact Nat.le_add_right_of_le inductionHypothesis

/-- A receiver that listens and has been told nothing yet is followed through all
actions. -/
theorem follows_run
    (orderly : shutdown.IsOrderly)
    (listens : receiver ∈ shutdown.receivers)
    (untold : shutdown.isReady receiver = false)
    (actions : List Action) :
    Follows receiver actions (shutdown.run actions) := by
  induction actions using List.reverseRecOn with
  | nil =>
      refine ⟨iff_of_true ⟨receiver, listens, rfl⟩ (not_ends_nil _ _), ?_, ?_⟩
      · intro after listensToo sameName
        have same := List.inj_on_of_nodup_map orderly.distinct listensToo listens sameName
        exact ⟨congrArg Receiver.waits same, fun _ => same⟩
      · intro _ _
        exact iff_of_false (Bool.eq_false_iff.mp untold) (by simp [Tells])
  | append_singleton earlier action inductionHypothesis =>
      have named : receiver.name < (shutdown.run earlier).begun :=
        Nat.lt_of_lt_of_le (orderly.named receiver listens)
          (shutdown.begun_le_run earlier)
      rw [run_concat]
      exact inductionHypothesis.concat (orderly.run earlier) named action

/-! ## Histories -/

/-- What has become of a new source in the course of some actions. -/
def after (history : List Action) : Shutdown :=
  new.run history

/-- How many begin to listen in some actions. -/
def beginnings (actions : List Action) : Nat :=
  actions.countP fun action => action.waits?.isSome

/-- A receiver listens behind a history: it began under its name before the end, and has
not stopped. -/
def Listens (history : List Action) (name : Nat) : Prop :=
  ∃ earlier action waits later,
    history = earlier ++ action :: later ∧ action.waits? = some waits ∧
      .close ∉ earlier ∧ beginnings earlier = name ∧ ¬ Ends name waits later

/-- A poll finds the receiver of some name waiting and done. -/
def Wakes (shutdown : Shutdown) (name : Nat) : Prop :=
  ∃ receiver ∈ shutdown.receivers, shutdown.finishes name receiver = true

variable {history earlier later : List Action}

/-- A history leaves a source orderly. -/
theorem isOrderly_after (history : List Action) : (after history).IsOrderly :=
  IsOrderly.new.run history

/-- A source is gone once it has been let go. -/
theorem closed_after (history : List Action) :
    (after history).closed = true ↔ .close ∈ history := by
  induction history using List.reverseRecOn with
  | nil => simp [after, run, new]
  | append_singleton earlier action inductionHypothesis =>
      rw [after, run_concat, closed_act, List.mem_append, List.mem_singleton,
        @eq_comm _ Action.close]
      exact or_congr_left inductionHypothesis

/-- While the source is there, as many have begun as the actions say. -/
theorem begun_after
    (unclosed : .close ∉ history) :
    (after history).begun = beginnings history := by
  induction history using List.reverseRecOn with
  | nil => rfl
  | append_singleton earlier action inductionHypothesis =>
      have stillOpen : .close ∉ earlier :=
        fun present => unclosed (List.mem_append_left _ present)
      have isOpen : (after earlier).closed = false :=
        Bool.eq_false_iff.mpr (mt (closed_after earlier).mp stillOpen)
      have count :
          ((after earlier).newcomer? action).toList.length = beginnings [action] := by
        unfold newcomer? beginnings
        rw [isOpen]
        cases begins : action.waits? <;> simp [begins]
      rw [after, run_concat, begun_act, beginnings, List.countP_append]
      exact congrArg₂ (· + ·) (inductionHypothesis stillOpen) count

/-- Someone who has begun to listen is followed through everything that is done since. -/
theorem follows_after
    {waits : Bool}
    (begins : action.waits? = some waits)
    (unclosed : .close ∉ earlier)
    (later : List Action) :
    Follows ⟨beginnings earlier, waits, (after earlier).given⟩ later
      (after (earlier ++ action :: later)) := by
  have isOpen : (after earlier).closed = false :=
    Bool.eq_false_iff.mpr (mt (closed_after earlier).mp unclosed)
  have isNew : (after earlier).newcomer? action =
      some ⟨beginnings earlier, waits, (after earlier).given⟩ := by
    rw [newcomer?, isOpen, begins, begun_after unclosed]
    rfl
  have whole :
      after (earlier ++ action :: later) = ((after earlier).act action).run later := by
    rw [after, run, List.foldl_append, List.foldl_cons]
    rfl
  rw [whole]
  apply follows_run ((isOrderly_after earlier).act action)
    (mem_receivers_act.mpr (.inl isNew))
  have noTrigger : action ≠ .trigger := by
    rintro rfl
    cases begins
  have noClose : action ≠ .close := by
    rintro rfl
    cases begins
  rw [Bool.eq_false_iff, ne_eq, isReady_iff, closed_act, given_act, isOpen]
  simp [noTrigger, noClose]

/-- A poll finds a waiter done exactly if it still listens and has been told something. -/
theorem wakes_after_iff
    (unclosed : .close ∉ earlier)
    (later : List Action) :
    (after (earlier ++ .wait :: later)).Wakes (beginnings earlier) ↔
      ¬ Ends (beginnings earlier) true later ∧ Tells later := by
  have begins : Action.wait.waits? = some true := rfl
  obtain ⟨listens, same, told⟩ := follows_after begins unclosed later
  rw [← listens]
  unfold Wakes finishes
  simp only [Bool.and_eq_true, beq_iff_eq]
  constructor
  · rintro ⟨receiver, present, ⟨hasName, -⟩, ready⟩
    obtain rfl := (same receiver present hasName).2 rfl
    exact ⟨⟨_, present, rfl⟩, (told rfl present).mp ready⟩
  · rintro ⟨⟨receiver, present, hasName⟩, news⟩
    obtain rfl := (same receiver present hasName).2 rfl
    exact ⟨_, present, ⟨rfl, rfl⟩, (told rfl present).mpr news⟩

/-- Everyone who listens has begun to, before the end of the source. -/
theorem exists_beginning
    {receiver : Receiver}
    (listens : receiver ∈ (after history).receivers) :
    ∃ earlier action later,
      history = earlier ++ action :: later ∧ action.waits? = some receiver.waits ∧
        .close ∉ earlier ∧ beginnings earlier = receiver.name := by
  induction history using List.reverseRecOn generalizing receiver with
  | nil => cases listens
  | append_singleton history last inductionHypothesis =>
      rw [after, run_concat] at listens
      rcases mem_receivers_act.mp listens with isNew | ⟨before, listened, isKept⟩
      · obtain ⟨hasName, -, begins, isOpen⟩ := newcomer?_eq_some isNew
        have unclosed : .close ∉ history := fun present =>
          Bool.eq_false_iff.mp isOpen ((closed_after history).mpr present)
        exact ⟨history, last, [], rfl, begins, unclosed,
          (begun_after unclosed).symm.trans hasName.symm⟩
      · obtain ⟨earlier, action, later, rfl, begins, unclosed, name⟩ :=
          inductionHypothesis listened
        obtain ⟨sameName, sameWaits, -⟩ := keep_eq_some isKept
        refine ⟨earlier, action, later ++ [last], by simp, ?_, unclosed, ?_⟩
        · rw [sameWaits]
          exact begins
        · rw [sameName]
          exact name

/-- The receivers behind a history are those who listen behind it. -/
theorem listens_iff
    {name : Nat} :
    Listens history name ↔ ∃ receiver ∈ (after history).receivers,
      receiver.name = name := by
  constructor
  · rintro ⟨earlier, action, waits, later, rfl, begins, unclosed, rfl, remains⟩
    exact (follows_after begins unclosed later).listens.mpr remains
  · rintro ⟨receiver, present, rfl⟩
    obtain ⟨earlier, action, later, rfl, begins, unclosed, name⟩ :=
      exists_beginning present
    refine ⟨earlier, action, receiver.waits, later, rfl, begins, unclosed, name, ?_⟩
    have follows := follows_after begins unclosed later
    rw [name] at follows
    exact follows.listens.mp ⟨receiver, present, rfl⟩

/-- There are as many receivers as names of those who listen. -/
theorem receiverCount_after (history : List Action) :
    (after history).receiverCount = {name | Listens history name}.ncard := by
  have names : {name | Listens history name} =
      (((after history).receivers.map Receiver.name).toFinset : Set Nat) := by
    ext name
    simp [listens_iff]
  rw [names, Set.ncard_coe_finset,
    List.toFinset_card_of_nodup (isOrderly_after history).distinct, List.length_map,
    receiverCount]

/-- Whatever is done to a source and its receivers, a poll finds one who waits done
exactly if a notice has been given since it began to wait, or the source is gone, and it
was neither dropped nor found done before. Notices before that make no difference, and
one that is given to nobody changes nothing. There are as many receivers as have begun
to listen and not stopped. -/
theorem no_notice_is_lost :
    (∀ earlier later, .close ∉ earlier →
      ((after (earlier ++ .wait :: later)).Wakes (beginnings earlier) ↔
        ¬ Ends (beginnings earlier) true later ∧ (.trigger ∈ later ∨ .close ∈ later))) ∧
    (∀ earlier between later, .close ∉ earlier ++ between →
      ((after (earlier ++ .trigger :: (between ++ .wait :: later))).Wakes
          (beginnings (earlier ++ between)) ↔
        (after (earlier ++ (between ++ .wait :: later))).Wakes
          (beginnings (earlier ++ between)))) ∧
    (∀ history, (after history).receiverCount = 0 →
      after (history ++ [.trigger]) = after history) ∧
    ∀ history, (after history).receiverCount = {name | Listens history name}.ncard := by
  refine ⟨fun earlier later unclosed => wakes_after_iff unclosed later, ?_, ?_,
    receiverCount_after⟩
  · intro earlier between later unclosed
    have triggered : .close ∉ earlier ++ .trigger :: between := by
      simpa using unclosed
    have sameName :
        beginnings (earlier ++ .trigger :: between) =
          beginnings (earlier ++ between) := by
      simp [beginnings, List.countP_append, Action.waits?]
    have noticed := wakes_after_iff triggered later
    have unnoticed := wakes_after_iff unclosed later
    rw [sameName] at noticed
    simp only [List.append_assoc, List.cons_append] at noticed unnoticed
    exact noticed.trans unnoticed.symm
  · intro history nobody
    have alone : (after history).receivers.isEmpty = true :=
      List.isEmpty_iff.mpr (List.length_eq_zero_iff.mp nobody)
    rw [after, run_concat, act, trigger, ← after, alone, Bool.or_true]
    rfl

/-- A waiter that misses the first of two notices is done all the same; a newcomer
behind them is not. -/
theorem slow_waiter_is_woken :
    let history : List Action := [.subscribe, .wait, .trigger, .trigger, .wait, .poll 2]
    (.close ∉ history) ∧ (after history).tells ⟨1, true, 0⟩ = .missed ∧
      (after history).Wakes 1 ∧ ¬ (after history).Wakes 2 ∧
      (after history).receiverCount = 3 := by
  have unpolled : ¬ Ends 1 true [.trigger, .trigger, .wait, .poll 2] := by
    rintro (dropped | ⟨-, earlier, isPrefix, -⟩)
    · simp at dropped
    · have polled := isPrefix.subset (List.mem_append_right _ (List.mem_singleton_self _))
      simp at polled
  have slow :=
    no_notice_is_lost.1 [.subscribe] [.trigger, .trigger, .wait, .poll 2] (by decide)
  have late :=
    no_notice_is_lost.1 [.subscribe, .wait, .trigger, .trigger] [.poll 2] (by decide)
  refine ⟨by decide, rfl, slow.mpr ⟨unpolled, .inl (by decide)⟩, ?_, rfl⟩
  intro wakes
  have told := (late.mp wakes).2
  simp at told

end Shutdown
end Gatehouse
