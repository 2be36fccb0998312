import Mathlib.Data.List.Basic

/-!
# Bounded channels

A first-in first-out channel between one sending and one receiving task.  The
receiver remembers what it has taken, so that everything ever sent can be
named.
-/

namespace ReverseProxy.Library

structure Channel (α : Type) where
  capacity : Nat
  buffered : List α := []
  received : List α := []
  senderOpen : Bool := true

namespace Channel

variable {α : Type}

variable (channel : Channel α)

/-- Everything that was ever put into the channel, in order. -/
def sent : List α := channel.received ++ channel.buffered

def hasRoom : Prop := channel.buffered.length < channel.capacity

def push (value : α) : Channel α :=
  { channel with buffered := channel.buffered ++ [value] }

def closeSender : Channel α := { channel with senderOpen := false }

def recv : Option (α × Channel α) :=
  match channel.buffered with
  | [] => none
  | value :: rest =>
    some (value,
      { channel with
        buffered := rest
        received := channel.received ++ [value] })

/-- The receiver sees the end: nothing is buffered and no sender is left. -/
def ended : Prop := channel.buffered = [] ∧ channel.senderOpen = false

theorem received_of_recv {channel next : Channel α} {value : α}
    (taken : channel.recv = some (value, next)) :
    next.received = channel.received ++ [value] := by
  unfold recv at taken
  split at taken
  · contradiction
  · cases taken
    rfl

theorem sent_of_recv {channel next : Channel α} {value : α}
    (taken : channel.recv = some (value, next)) :
    next.sent = channel.sent := by
  unfold recv at taken
  split at taken
  · contradiction
  · next found =>
      cases taken
      simp [sent, found]

end Channel

end ReverseProxy.Library
