import Scanout.Polling

namespace Scanout

/-- What stands behind a descriptor that is polled. -/
inductive PollSource
  /-- One end of a pair of sockets, readable once the other end has written or is closed. -/
  | socket (readable : Bool)
  /-- The writing end of a pipe, which is never readable and broken once the reader is closed. -/
  | writeEnd (broken : Bool)
  | file
deriving DecidableEq, Repr

namespace PollSource

def poll : PollSource → PollOutcome
  | socket readable => .ready (if readable then 1 else 0) false false
  | writeEnd broken => .ready (if broken then 1 else 0) broken false
  | file => .ready 1 false false

def write : PollSource → PollSource
  | socket _ => socket true
  | source => source

def closePeer : PollSource → PollSource
  | socket _ => socket true
  | writeEnd _ => writeEnd true
  | file => file

end PollSource

/-- Fences on one source. Copies share the source and have descriptors of their own. -/
structure FenceGroup where
  source : PollSource
  /-- The failure that the next poll meets. -/
  failure : Option CallError
  fences : List Nat
deriving DecidableEq, Repr

namespace FenceGroup

def start (source : PollSource) : FenceGroup :=
  ⟨source, none, [0]⟩

/-- What the next polls answer: the failure that is due, then what the source says. -/
def polls (g : FenceGroup) : List PollOutcome :=
  (g.failure.map PollOutcome.failed).toList ++ [g.source.poll]

def write (g : FenceGroup) : FenceGroup :=
  { g with source := g.source.write }

def closePeer (g : FenceGroup) : FenceGroup :=
  { g with source := g.source.closePeer }

def failing (g : FenceGroup) (cause : CallError) : FenceGroup :=
  { g with failure := some cause }

/-- Polls the source that all the fences share. It never blocks. -/
def poller : Poller FenceGroup where
  poll _ _ := fun g => (g.polls.head?.getD g.source.poll, { g with failure := none })

def poll (g : FenceGroup) : Except CallError Bool × FenceGroup :=
  poller.isSignalled ⟨0⟩ g

/-- Waits for the fences. Gives nothing if the source never becomes readable. -/
def wait (g : FenceGroup) : Option (Except CallError Unit) × FenceGroup :=
  poller.wait ⟨0⟩ g.polls.length g

/-- Adds a copy, numbered above the fences there are. -/
def copy (g : FenceGroup) : Nat × FenceGroup :=
  let index := g.fences.foldl (fun top i => max top (i + 1)) 0
  (index, { g with fences := g.fences ++ [index] })

def drop (g : FenceGroup) (index : Nat) : Bool × FenceGroup :=
  (g.fences.contains index, { g with fences := g.fences.filter (· ≠ index) })

end FenceGroup

end Scanout
