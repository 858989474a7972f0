import AlertOperator.Probe
import AlertOperator.Watch.Feed
import AlertOperator.Watch.Loop

/-!
# The running system

The loop with its two feeds, of secrets and of config maps, and the server. Time passes only when
nothing else can happen: with each millisecond feeds go on whose pause is over, timers come to their
end whose time it is, and all requests are answered. The answers may start timers of no length,
which end before the next millisecond; as long as they do not cease, time stands still.
-/

namespace AlertOperator.Watch

open Cluster (World)
open Time (Instant)

/-- The kinds of objects that are watched. -/
inductive Kind where
  | secret
  | configMap
  deriving DecidableEq, Repr

/-- The state of the running system. -/
structure System where
  loop : Loop
  secrets : Feed := {}
  configMaps : Feed := {}
  server : Server := { ready := true }
  deriving Inhabited

namespace System

/-- The feed of a kind of object. -/
def feed (kind : Kind) (s : System) : Feed :=
  match kind with
  | .secret => s.secrets
  | .configMap => s.configMaps

/-- The system with another feed of a kind. -/
def withFeed (kind : Kind) (f : Feed) (s : System) : System :=
  match kind with
  | .secret => { s with secrets := f }
  | .configMap => { s with configMaps := f }

/-- Lets a feed go on, and puts what it tells into the queue. -/
def feeding (kind : Kind) (step : Feed → List Request × Feed) (s : System) : System :=
  let (requests, f) := step (s.feed kind)
  { s.withFeed kind f with loop := requests.foldl (fun l r ↦ l.receive r) s.loop }

/-- Answers all requests that wait. None if the operator stops. -/
def settle (present : Instant) (s : System) : Option System :=
  (s.loop.settle present).map fun l ↦ { s with loop := l }

/-- Begins with all objects. -/
def start (present : Instant) (s : System) : Option System :=
  ((s.feeding .secret (Feed.list s.loop.now)).feeding .configMap
    (Feed.list s.loop.now)).settle present

/-- Lets all timers come to their end whose time it is, and answers their requests. -/
def turn (present : Instant) (s : System) : Option System :=
  { s with loop := s.loop.expire }.settle present

/-- Lets one millisecond pass. -/
def tick (present : Instant) (s : System) : Option System :=
  let s := { s with loop := { s.loop with now := s.loop.now + 1 } }
  ((s.feeding .secret (Feed.wake s.loop.now)).feeding .configMap
    (Feed.wake s.loop.now)).turn present

/-- Lets happen what comes next: the end of the timers whose time it is, or else a millisecond. -/
def next (present : Instant) (s : System) : Option System :=
  if s.loop.ends then s.turn present else s.tick present

/-- Changes an object, and answers the request that follows. -/
def change (present : Instant) (kind : Kind) (c : Change) (r : Request) (s : System) :
    Option System :=
  (s.feeding kind (Feed.change c r)).settle present

/-- Lets a feed come to an error. -/
def fail (kind : Kind) (code : Nat) (s : System) : System :=
  s.withFeed kind ((s.feed kind).fail s.loop.now code)

/-- Decides whether all objects of a kind can be told of. -/
def setListFails (kind : Kind) (fails : Bool) (s : System) : System :=
  s.withFeed kind { s.feed kind with listFails := fails }

/-- Tells the system to stop: it is no longer ready, and the loop ends. -/
def shutdown (s : System) : System :=
  { s with loop := s.loop.stop, server := { s.server with ready := false } }

/-- Changes the cluster. -/
def setWorld (f : World → World) (s : System) : System :=
  let session := s.loop.session
  { s with loop := { s.loop with session := { session with world := f session.world } } }

end System

end AlertOperator.Watch
