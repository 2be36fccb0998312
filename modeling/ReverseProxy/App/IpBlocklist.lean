import ReverseProxy.Configurations.AccessLists
import ReverseProxy.Library.Runs

/-!
# The block-list of client addresses

An address is blocked for five minutes once its failures pile up within a
window that is started anew when it is older than fifteen full seconds.

`DateTimeExt` is what the `rust_extensions` crate documents of its time stamps,
which count microseconds.
-/

namespace ReverseProxy

open Library Function

class DateTimeExt where
  /-- `now.duration_since(start).get_full_seconds()`. -/
  fullSecondsSince : Int → Int → Int
  addSeconds : Int → Int → Int
  fullSecondsSince_of_le : ∀ {start now : Int}, start ≤ now →
    fullSecondsSince now start = (now - start) / 1000000
  addSeconds_eq : ∀ time seconds, addSeconds time seconds = time + seconds * 1000000

open DateTimeExt

@[reducible] def microseconds : DateTimeExt :=
  { fullSecondsSince := fun now start => (now - start) / 1000000
    addSeconds := fun time seconds => time + seconds * 1000000
    fullSecondsSince_of_le := fun _ => rfl
    addSeconds_eq := fun _ _ => rfl }

def seconds (count : Int) : Int := count * 1000000

/-! ## The white list -/

/-- `str::parse::<u32>`. -/
def parseU32 (text : Str) : Option Nat := (parseUsize text).filter (· < 2 ^ 32)

/-- The loop of `get_ip_value`: four parts at most, each of them a number of
any size. -/
def readIpParts (index : Nat) (result : BitVec 32) :
    List Str → Outcome (BitVec 32)
  | [] => .ret result
  | part :: parts =>
    if index < 4 then
      match parseU32 part with
      | some value =>
        readIpParts (index + 1) (result ||| (BitVec.ofNat 32 value <<< (24 - 8 * index))) parts
      | none => .panic
    else
      .panic

/-- `IntoIp for &str`. -/
def getTextIpValue (text : Str) : Outcome (BitVec 32) := readIpParts 0 0 (text.splitOn '.')

/-- What follows a second dash is not read. -/
def readWhitelistedIp (item : Str) : Outcome WhitelistedIp :=
  match item.splitOn '-' with
  | [] => .panic
  | [left] => do return .singleIp (← getTextIpValue left)
  | left :: right :: _ => do
    return .range (← getTextIpValue left) (← getTextIpValue right)

/-- `WhiteListedIpList::new`. -/
def newWhiteListedIpList (src : List Str) : Outcome (List WhitelistedIp) :=
  src.mapM readWhitelistedIp

/-! ## The block-list -/

def windowSecs : Int := 15

def hardFailThreshold : Nat := 5

def softFailThreshold : Nat := 30

def blockSecs : Int := 5 * 60

inductive FailureSeverity where
  | hard
  | soft
deriving DecidableEq, Repr

/-- The counters are of sixteen bits and saturate. -/
structure IpEntry where
  hardCount : Nat
  softCount : Nat
  windowStart : Int
  blockedUntil : Option Int
deriving DecidableEq, Repr

def saturatingSucc (count : Nat) : Nat := min (count + 1) 65535

namespace IpEntry

def blockedAt (entry : IpEntry) (now : Int) : Bool :=
  match entry.blockedUntil with
  | some blockedUntil => decide (blockedUntil > now)
  | none => false

section

variable [DateTimeExt]

def openWindow (now : Int) (entry : IpEntry) : IpEntry :=
  if fullSecondsSince now entry.windowStart > windowSecs then
    { entry with
      hardCount := 0
      softCount := 0
      windowStart := now }
  else
    entry

def count (severity : FailureSeverity) (entry : IpEntry) : IpEntry :=
  match severity with
  | .hard => { entry with hardCount := saturatingSucc entry.hardCount }
  | .soft => { entry with softCount := saturatingSucc entry.softCount }

def blockIfDue (now : Int) (entry : IpEntry) : IpEntry :=
  if entry.hardCount ≥ hardFailThreshold ∨ entry.softCount ≥ softFailThreshold then
    { entry with blockedUntil := some (addSeconds now blockSecs) }
  else
    entry

/-- What `register_failure` leaves of the entry of an address. -/
def fail (now : Int) (severity : FailureSeverity) (entry : Option IpEntry) :
    IpEntry :=
  let entry := entry.getD
    { hardCount := 0
      softCount := 0
      windowStart := now
      blockedUntil := none }
  ((entry.openWindow now).count severity).blockIfDue now

/-- What `cleanup` retains. -/
def isRetained (now : Int) (entry : IpEntry) : Bool := entry.blockedAt now ||
    decide (fullSecondsSince now entry.windowStart ≤ windowSecs)

end

end IpEntry

structure IpBlocklist where
  map : IpAddr → Option IpEntry := fun _ => none
  whiteList : Option (List WhitelistedIp) := none

namespace IpBlocklist

variable (list : IpBlocklist)

/-- An empty list disables the white list, as no list does. -/
def setWhiteList (src : Option (List Str)) :
    Outcome IpBlocklist :=
  match src with
  | some [] => .ret { list with whiteList := none }
  | some src => do
    return { list with whiteList := some (← newWhiteListedIpList src) }
  | none => .ret { list with whiteList := none }

def isWhiteListed (ip : IpAddr) : Outcome Bool :=
  match list.whiteList with
  | some whiteList => isWhitelisted whiteList ip
  | none => .ret false

def isBlocked (now : Int) (ip : IpAddr) :
    Outcome Bool := do
  if ← list.isWhiteListed ip then
    return false
  else
    match list.map ip with
    | none => return false
    | some entry => return entry.blockedAt now

def registerSuccess (ip : IpAddr) : IpBlocklist :=
  { list with map := update list.map ip none }

def unblock (ip : IpAddr) : IpBlocklist × Bool :=
  ({ list with map := update list.map ip none }, (list.map ip).isSome)

section

variable [DateTimeExt]

def registerFailure (list : IpBlocklist) (now : Int) (ip : IpAddr)
    (severity : FailureSeverity) : Outcome IpBlocklist := do
  if ← list.isWhiteListed ip then
    return list
  else
    return { list with
      map := update list.map ip (some (IpEntry.fail now severity (list.map ip))) }

def cleanup (list : IpBlocklist) (now : Int) : IpBlocklist :=
  { list with
    map := fun ip => (list.map ip).filter (IpEntry.isRetained now) }

/-! ## Histories -/

inductive Event where
  | failure (ip : BitVec 32) (severity : FailureSeverity)
  | success (ip : BitVec 32)
  | unblock (ip : BitVec 32)
  | setWhiteList (src : Option (List Str))
  | cleanup
  | query (ip : BitVec 32)
deriving DecidableEq, Repr

/-- A call that panics leaves the list as it was. -/
def orSame (list : IpBlocklist) : Outcome IpBlocklist → IpBlocklist
  | .ret changed => changed
  | .panic => list
  | .diverge => list

def apply (list : IpBlocklist) (event : Int × Event) : IpBlocklist :=
  match event.2 with
  | .failure ip severity =>
    list.orSame (list.registerFailure event.1 (.v4 ip) severity)
  | .success ip => list.registerSuccess (.v4 ip)
  | .unblock ip => (list.unblock (.v4 ip)).1
  | .setWhiteList src => list.orSame (list.setWhiteList src)
  | .cleanup => list.cleanup event.1
  | .query _ => list

/-- The block-list after a sequence of calls, each at its time. -/
def after (history : List (Int × Event)) : IpBlocklist := history.foldl apply {}

end

end IpBlocklist

end ReverseProxy
