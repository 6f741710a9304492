/-!
# Shutting down

One source gives notice that the proxy is to stop, and any number of receivers hear of
it. Only the latest notice is kept: a receiver that was too slow for an earlier one is
told that it has missed some, and then gets the latest. Nobody hears of a notice that
was given before they began to listen, and a notice that is given to nobody is not kept.
-/

namespace Gatehouse

/-- Someone who hears of notices. -/
structure Receiver where
  /-- How many began to listen before it. This is its name. -/
  name : Nat
  /-- Whether it stops listening as soon as it is told anything at all. -/
  waits : Bool
  /-- How many of the notices are behind it. -/
  passed : Nat
  deriving DecidableEq, Repr

/-- What a receiver is told when it asks. -/
inductive Reception
  | notice
  /-- Notices were missed; the latest is still to come. -/
  | missed
  /-- There is nothing new. -/
  | nothing
  /-- There is nothing new, and there never will be. -/
  | closed
  deriving DecidableEq, Repr

/-- A source of notices and those who listen to it. -/
structure Shutdown where
  /-- How many notices were given to someone. -/
  given : Nat := 0
  /-- Whether the source is gone. -/
  closed : Bool := false
  /-- How many have begun to listen. -/
  begun : Nat := 0
  /-- Those who listen, the latest first. -/
  receivers : List Receiver := []
  deriving DecidableEq, Repr

namespace Receiver

/-- How many notices are kept. -/
def capacity : Nat := 1

/-- Ask for news. -/
def ask (receiver : Receiver) (given : Nat) (closed : Bool) : Reception × Receiver :=
  if receiver.passed + capacity < given then
    (.missed, { receiver with passed := given - capacity })
  else if receiver.passed < given then
    (.notice, { receiver with passed := receiver.passed + 1 })
  else if closed then (.closed, receiver)
  else (.nothing, receiver)

end Receiver

namespace Shutdown

/-- A source without receivers. -/
def new : Shutdown := {}

/-- What a receiver is told now. -/
def tells (shutdown : Shutdown) (receiver : Receiver) : Reception :=
  (receiver.ask shutdown.given shutdown.closed).1

/-- The number of those who listen. -/
def receiverCount (shutdown : Shutdown) : Nat :=
  shutdown.receivers.length

/-- Begin to listen. Nobody can listen to a source that is gone. -/
def join (shutdown : Shutdown) (waits : Bool) : Shutdown :=
  if shutdown.closed then shutdown
  else
    { shutdown with
      begun := shutdown.begun + 1
      receivers := ⟨shutdown.begun, waits, shutdown.given⟩ :: shutdown.receivers }

/-- Begin to listen, and to ask now and then. -/
def subscribe (shutdown : Shutdown) : Shutdown :=
  shutdown.join false

/-- Begin to listen, and to wait. -/
def wait (shutdown : Shutdown) : Shutdown :=
  shutdown.join true

/-- Give notice. A source that is gone gives none, and without receivers there is nobody
to give it to. -/
def trigger (shutdown : Shutdown) : Shutdown :=
  if shutdown.closed || shutdown.receivers.isEmpty then shutdown
  else { shutdown with given := shutdown.given + 1 }

/-- Let the source go. -/
def close (shutdown : Shutdown) : Shutdown :=
  { shutdown with closed := true }

/-- Whether one who waits is done, that is, whether it is told anything at all. -/
def isReady (shutdown : Shutdown) (receiver : Receiver) : Bool :=
  shutdown.tells receiver != .nothing

/-- Whether a receiver is the one of some name, waits, and is done. -/
def finishes (shutdown : Shutdown) (name : Nat) (receiver : Receiver) : Bool :=
  receiver.name == name && receiver.waits && shutdown.isReady receiver

/-- See whether one who waits is done. Then it stops listening. -/
def poll (shutdown : Shutdown) (name : Nat) : Shutdown :=
  { shutdown with
    receivers :=
      shutdown.receivers.filter fun receiver => !shutdown.finishes name receiver }

/-- A subscriber asks for news. -/
def ask (shutdown : Shutdown) (name : Nat) : Shutdown :=
  { shutdown with
    receivers := shutdown.receivers.map fun receiver =>
      if receiver.name == name && !receiver.waits then
        (receiver.ask shutdown.given shutdown.closed).2
      else receiver }

/-- A receiver stops listening, whatever it has been told. -/
def drop (shutdown : Shutdown) (name : Nat) : Shutdown :=
  { shutdown with receivers := shutdown.receivers.filter fun receiver =>
    receiver.name != name }

/-- Something that is done to a source, or to the receiver of some name. -/
inductive Action
  | subscribe
  | wait
  | trigger
  | close
  | poll (name : Nat)
  | ask (name : Nat)
  | drop (name : Nat)
  deriving DecidableEq, Repr

/-- What an action changes. -/
def act (shutdown : Shutdown) : Action → Shutdown
  | .subscribe => shutdown.subscribe
  | .wait => shutdown.wait
  | .trigger => shutdown.trigger
  | .close => shutdown.close
  | .poll name => shutdown.poll name
  | .ask name => shutdown.ask name
  | .drop name => shutdown.drop name

/-- What actions change that are done one after the other. -/
def run (shutdown : Shutdown) (actions : List Action) : Shutdown :=
  actions.foldl act shutdown

/-- Something that happens to a source or to those who listen to it. -/
inductive Event
  | subscribe
  /-- The latest subscriber stops listening. -/
  | unsubscribe
  | wait
  | trigger
  /-- All those who wait are polled. -/
  | poll
  | close
  deriving DecidableEq, Repr

/-- Those who ask now and then, the latest first. -/
def subscribers (shutdown : Shutdown) : List Receiver :=
  shutdown.receivers.filter fun receiver => !receiver.waits

/-- Those who wait, the latest first. -/
def waiters (shutdown : Shutdown) : List Receiver :=
  shutdown.receivers.filter fun receiver => receiver.waits

/-- What is done when something happens. -/
def actions (shutdown : Shutdown) : Event → List Action
  | .subscribe => [.subscribe]
  | .unsubscribe => (shutdown.subscribers.take 1).map fun latest => .drop latest.name
  | .wait => [.wait]
  | .trigger => [.trigger]
  | .poll => shutdown.waiters.map fun waiter => .poll waiter.name
  | .close => [.close]

/-- Every subscriber asks once. -/
def askAll (shutdown : Shutdown) : Shutdown :=
  shutdown.run (shutdown.subscribers.map fun receiver => .ask receiver.name)

/-- The number of subscribers that would get a notice. -/
def noticeCount (shutdown : Shutdown) : Nat :=
  shutdown.subscribers.countP fun receiver => shutdown.tells receiver == .notice

/-- What an event has led to. -/
structure Report where
  /-- How many stopped waiting because they were done. -/
  woken : Nat
  /-- How many subscribers got a notice. -/
  received : Nat
  /-- How many still listen. -/
  receivers : Nat
  deriving DecidableEq, Repr

/-- An event, after which every subscriber asks once. -/
def step (shutdown : Shutdown) (event : Event) : Shutdown × Report :=
  let next := shutdown.run (shutdown.actions event)
  let woken := shutdown.waiters.length - next.waiters.length
  (next.askAll, ⟨woken, next.noticeCount, next.receiverCount⟩)

/-- The reports of events that happen one after the other. -/
def reports (shutdown : Shutdown) : List Event → List Report
  | [] => []
  | event :: rest =>
      let (next, report) := shutdown.step event
      report :: next.reports rest

end Shutdown
end Gatehouse
