import Commissioning.Live.Defaults

/-!
# Waiting for a sample

Samples come into a queue while somebody waits for one that answers a question. Whenever
it is the turn of the one who waits, samples are taken from the queue until one is
accepted or none is left; the wait ends with the first that is accepted, when time is up,
or when it is broken off. The **course** of a wait tells in which order all of this
happens (`Commissioning.Moment`), and what the wait comes to follows from it
(`Commissioning.waitFor`).

A feed of prepared samples (`Commissioning.PreparedFeed`) keeps account of how often it
was opened and closed and of what was asked for. It is opened for the time of a wait and
closed at its end, whatever the wait comes to (`Commissioning.PreparedFeed.subscribed`).
-/

namespace Commissioning

/-- What happens in the course of a wait. At the end of the course, time is up. -/
inductive Moment where
  /-- A sample comes into the queue. -/
  | came (s : Sample)
  /-- It is the turn of the one who waits. -/
  | turn
  /-- The wait is broken off. -/
  | brokenOff

/-- Why a wait gives no answer. -/
inductive WaitError where
  /-- It was broken off. -/
  | interrupted
deriving DecidableEq, Repr

/-- **Waits for the first sample that is accepted**, with some samples in the queue; none
if time is up before. -/
def waitFor (accepts : Sample → Bool) :
    List Sample → List Moment → Except WaitError (Option Sample)
  | _, [] => .ok none
  | queue, .came s :: course => waitFor accepts (queue ++ [s]) course
  | queue, .turn :: course =>
    match queue.find? accepts with
    | some s => .ok (some s)
    | none => waitFor accepts [] course
  | _, .brokenOff :: _ => .error .interrupted

/-- A feed of prepared samples. -/
structure PreparedFeed where
  /-- The samples. -/
  samples : List Sample
  /-- Whether a wait for more samples is broken off rather than timed out. -/
  isInterrupted : Bool := false
  /-- How often the feed was opened. -/
  opened : Nat := 0
  /-- How often it was closed. -/
  closed : Nat := 0
  /-- The devices and channels that were asked for. -/
  requested : List (String × List String) := []
deriving Inhabited

/-- What is done with a feed of prepared samples. -/
abbrev PreparedM := EStateM WaitError PreparedFeed

namespace PreparedFeed

/-- The course of a wait for prepared samples: all of them are there at the first turn. -/
def course (f : PreparedFeed) : List Moment :=
  f.samples.map .came ++ .turn :: if f.isInterrupted then [.brokenOff] else []

/-- Does something while subscribed to channels of a device. The subscription ends with
it, whether it succeeds or fails. -/
def subscribed {α : Type} (edgeId : String) (channels : List String) (body : PreparedM α) :
    PreparedM α := do
  modify fun f =>
    { f with opened := f.opened + 1, requested := f.requested ++ [(edgeId, channels)] }
  try body
  finally modify fun f => { f with closed := f.closed + 1 }

/-- Waits for the first sample that is accepted, in a given course. -/
def awaitAmid (course : List Moment) (edgeId : String) (channels : List String)
    (accepts : Sample → Bool) : PreparedM (Option Sample) :=
  subscribed edgeId channels (MonadExcept.ofExcept (waitFor accepts [] course))

/-- **Waits for the first of the prepared samples that is accepted.** -/
def await (edgeId : String) (channels : List String) (accepts : Sample → Bool) :
    PreparedM (Option Sample) := do
  let f ← get
  awaitAmid f.course edgeId channels accepts

end PreparedFeed

end Commissioning
