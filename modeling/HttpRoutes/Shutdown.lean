/-!
# Shutdown

The signal to stop, given through any of several handles and seen by every subscriber. Only the
latest signal is kept: a subscriber that has missed earlier ones is told once how many, and then
gets the one that is kept. When no handle is left, nothing more can come.
-/

namespace HttpRoutes

/-- What a subscriber finds when it looks. -/
inductive Reception
  | pending
  | signal
  | lagged (missed : Nat)
  | closed
deriving DecidableEq, Repr

/-- Handles and subscribers of one signal. Both keep their places when they are dropped. -/
structure Shutdown where
  /-- How many signals have been given while there were subscribers. -/
  given : Nat
  /-- Whether each handle is still there. -/
  handles : List Bool
  /-- How many of the signals each subscriber is done with, if it is still there. -/
  subscribers : List (Option Nat)
deriving DecidableEq, Repr

namespace Shutdown

/-- One handle and no subscriber. -/
def new : Shutdown := ⟨0, [true], []⟩

/-- Whether a handle is there. -/
def hasHandle (s : Shutdown) (i : Nat) : Bool := s.handles.getD i false

/-- Whether any handle is left. -/
def isOpen (s : Shutdown) : Bool := s.handles.contains true

/-- How many subscribers are left. -/
def subscriberCount (s : Shutdown) : Nat := s.subscribers.countP Option.isSome

/-- Add a subscriber. It sees the signals that are given from now on. -/
def subscribe (s : Shutdown) : Shutdown :=
  { s with subscribers := s.subscribers ++ [some s.given] }

/-- Add another handle beside handle `i`. If that is not there, neither is the new one. -/
def cloneHandle (s : Shutdown) (i : Nat) : Shutdown :=
  { s with handles := s.handles ++ [s.hasHandle i] }

/-- Give the signal. Without subscribers nothing happens. -/
def trigger (s : Shutdown) : Shutdown :=
  if s.subscriberCount = 0 then s else { s with given := s.given + 1 }

/-- Drop a handle. -/
def dropHandle (s : Shutdown) (i : Nat) : Shutdown := { s with handles := s.handles.set i false }

/-- Drop a subscriber. -/
def unsubscribe (s : Shutdown) (i : Nat) : Shutdown :=
  { s with subscribers := s.subscribers.set i none }

/-- What a subscriber finds that is done with `done` signals, and how many it is done with then. -/
def look (s : Shutdown) (done : Nat) : Reception × Nat :=
  if s.given ≤ done then (if s.isOpen then .pending else .closed, done)
  else if s.given = done + 1 then (.signal, done + 1)
  else (.lagged (s.given - 1 - done), s.given - 1)

/-- Let a subscriber look, without waiting. -/
def receive (s : Shutdown) (i : Nat) : Option Reception × Shutdown :=
  match s.subscribers.getD i none with
  | none => (none, s)
  | some done =>
    let (found, done) := s.look done
    (some found, { s with subscribers := s.subscribers.set i (some done) })

end Shutdown

end HttpRoutes
