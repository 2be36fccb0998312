import Mathlib.Data.List.Basic
import Mathlib.Tactic.Ring

/-!
# Little-endian numbers and length-prefixed frames

A number is written with its least octet first.  A frame is a body behind its
length in four octets, and a sequence of frames is read by taking frames off
the front until less than a length is left.
-/

namespace ReverseProxy.Library

/-- The `width` lowest octets of a number, least first. -/
def toLe : Nat → Nat → List UInt8
  | 0, _ => []
  | width + 1, value => value.toUInt8 :: toLe width (value / 256)

def fromLe : List UInt8 → Nat
  | [] => 0
  | octet :: rest => octet.toNat + 256 * fromLe rest

@[simp] theorem length_toLe (width value : Nat) :
    (toLe width value).length = width := by
  induction width generalizing value with
  | zero => rfl
  | succ width ih => simp [toLe, ih]

theorem fromLe_toLe (width value : Nat) : fromLe (toLe width value) = value % 256 ^ width := by
  induction width generalizing value with
  | zero => simp [toLe, fromLe, Nat.mod_one]
  | succ width ih =>
    have low : value.toUInt8.toNat = value % 256 := by
      simp [Nat.toUInt8, UInt8.toNat_ofNat']
    rw [toLe, fromLe, low, ih, Nat.pow_succ', Nat.mod_mul]

theorem fromLe_toLe_of_lt {width value : Nat} (small : value < 256 ^ width) :
    fromLe (toLe width value) = value := by
  rw [fromLe_toLe, Nat.mod_eq_of_lt small]

theorem fromLe_lt (octets : List UInt8) : fromLe octets < 256 ^ octets.length := by
  induction octets with
  | nil => exact Nat.one_pos
  | cons octet octets ih =>
    have small := octet.toNat_lt
    rw [fromLe, List.length_cons, Nat.pow_succ']
    omega

theorem toLe_fromLe (octets : List UInt8) : toLe octets.length (fromLe octets) = octets := by
  induction octets with
  | nil => rfl
  | cons octet octets ih =>
    have high : (octet.toNat + 256 * fromLe octets) / 256 =
        fromLe octets := by
      have small := octet.toNat_lt
      omega
    rw [List.length_cons, fromLe, toLe, high, ih]
    simp [Nat.toUInt8]

/-- A body behind its length. -/
def frame (body : List UInt8) : List UInt8 := toLe 4 body.length ++ body

/-- What taking frames off the front ends with. -/
inductive FramesEnd where
  | complete
  | leftover
  | truncated (need left : Nat)
deriving DecidableEq, Repr

/-- The bodies at the front of `bytes`, as far as `turns` frames reach. -/
def takeFrames : Nat → List UInt8 → List (List UInt8) × FramesEnd
  | 0, _ => ([], .complete)
  | turns + 1, bytes =>
    if bytes.length < 4 then
      ([], if bytes = [] then .complete else .leftover)
    else
      let size := fromLe (bytes.take 4)
      let rest := bytes.drop 4
      if rest.length < size then ([], .truncated size rest.length)
      else
        let (bodies, ending) := takeFrames turns (rest.drop size)
        (rest.take size :: bodies, ending)

/-- All frames of `bytes`: each of them takes at least four octets. -/
def splitFrames (bytes : List UInt8) : List (List UInt8) × FramesEnd :=
  takeFrames (bytes.length + 1) bytes

/-- The front of a frame tells where it ends. -/
structure FrameFront (bytes body rest : List UInt8) : Prop where
  long : ¬ bytes.length < 4
  size : fromLe (bytes.take 4) = body.length
  behind : bytes.drop 4 = body ++ rest

theorem frameFront {body : List UInt8} (rest : List UInt8) (small : body.length < 256 ^ 4) :
    FrameFront (frame body ++ rest) body rest := by
  have whole : frame body ++ rest = toLe 4 body.length ++ (body ++ rest) := by
    simp [frame]
  rw [whole]
  constructor
  · rw [List.length_append, length_toLe]
    omega
  · rw [List.take_left' (length_toLe 4 _), fromLe_toLe_of_lt small]
  · rw [List.drop_left' (length_toLe 4 _)]

theorem takeFrames_frame {body : List UInt8} (turns : Nat)
    (rest : List UInt8) (small : body.length < 256 ^ 4) :
    takeFrames (turns + 1) (frame body ++ rest) =
      (body :: (takeFrames turns rest).1, (takeFrames turns rest).2) := by
  have front := frameFront rest small
  have fits : ¬ (body ++ rest).length < body.length := by
    rw [List.length_append]
    omega
  rw [takeFrames, if_neg front.long]
  simp only [front.size, front.behind, if_neg fits, List.take_left, List.drop_left]

theorem takeFrames_frames {bodies : List (List UInt8)}
    (small : ∀ body ∈ bodies, body.length < 256 ^ 4) {turns : Nat}
    (enough : bodies.length < turns) :
    takeFrames turns (bodies.flatMap frame) = (bodies, .complete) := by
  induction bodies generalizing turns with
  | nil =>
    cases turns with
    | zero => rfl
    | succ turns => rfl
  | cons body bodies ih =>
    cases turns with
    | zero => simp at enough
    | succ turns =>
      rw [List.flatMap_cons, takeFrames_frame turns _ (small body (by simp)),
        ih (fun other member => small other (by simp [member])) (by simpa using enough)]

theorem length_frames (bodies : List (List UInt8)) :
    bodies.length ≤ (bodies.flatMap frame).length := by
  induction bodies with
  | nil => simp
  | cons body bodies ih =>
    rw [List.flatMap_cons, List.length_append, List.length_cons, frame,
      List.length_append, length_toLe]
    omega

theorem splitFrames_frames {bodies : List (List UInt8)}
    (small : ∀ body ∈ bodies, body.length < 256 ^ 4) :
    splitFrames (bodies.flatMap frame) = (bodies, .complete) := by
  apply takeFrames_frames small
  have long := length_frames bodies
  omega

end ReverseProxy.Library
