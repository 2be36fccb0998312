import Mathlib.Data.List.Range
import ReverseProxy.Library.Runs
import ReverseProxy.Rust.Outcome
import ReverseProxy.Rust.Utf8

/-!
# Loop buffer

A fixed buffer with a read window.  Its purpose is a byte queue: bytes written
behind the window and then advanced over are appended, committed bytes leave
at the front, and compaction is invisible.
-/

namespace ReverseProxy

open Library

def bufferCapacity : Nat := 1024 * 1024

/-- The bytes outside the window are arbitrary, as in the uninitialised vector
of the source. -/
structure LoopBuffer where
  data : Nat → UInt8
  readFrom : Nat
  readTo : Nat

namespace LoopBuffer

def new (garbage : Nat → UInt8) : LoopBuffer :=
  { data := garbage
    readFrom := 0
    readTo := 0 }

def advance (buffer : LoopBuffer) (size : Nat) : LoopBuffer :=
  { buffer with readTo := buffer.readTo + size }

/-- The unread bytes. -/
def contents (buffer : LoopBuffer) : Bytes :=
  (List.range' buffer.readFrom (buffer.readTo - buffer.readFrom)).map buffer.data

/-- The copy loop: `count` bytes go down from `source` to `target`, one by one
and in place. -/
def copyDown : Nat → Nat → Nat → (Nat → UInt8) → (Nat → UInt8)
  | 0, _, _, data => data
  | count + 1, source, target, data =>
    copyDown count (source + 1) (target + 1)
      (Function.update data target (data source))

def gc (buffer : LoopBuffer) : LoopBuffer :=
  if buffer.readFrom = 0 then buffer
  else if buffer.readFrom = buffer.readTo then
    { buffer with readFrom := 0, readTo := 0 }
  else if bufferCapacity - buffer.readTo > 65535 then buffer
  else
    let count := buffer.readTo - buffer.readFrom
    { data := copyDown count buffer.readFrom 0 buffer.data
      readFrom := 0
      readTo := count }

/-- The compacted buffer and the number of free bytes behind its window. -/
def getMut (buffer : LoopBuffer) : LoopBuffer × Option Nat :=
  let buffer := buffer.gc
  if buffer.readTo ≥ bufferCapacity then (buffer, none)
  else (buffer, some (bufferCapacity - buffer.readTo))

/-- A read into the slice `get_mut` returned. -/
def fill (buffer : LoopBuffer) (bytes : Bytes) : LoopBuffer :=
  { buffer with
    data := fun index =>
      if buffer.readTo ≤ index then
        (bytes[index - buffer.readTo]?).getD (buffer.data index)
      else buffer.data index }

/-- `&data[read_from..read_to]`. -/
def getData (buffer : LoopBuffer) : Outcome Bytes :=
  if buffer.readFrom ≤ buffer.readTo ∧ buffer.readTo ≤ bufferCapacity then
    .ret buffer.contents
  else
    .panic

def commitRead (buffer : LoopBuffer) (size : Nat) : LoopBuffer :=
  { buffer with readFrom := buffer.readFrom + size }

/-- The bytes behind the window. -/
def slack (buffer : LoopBuffer) (size : Nat) : Bytes :=
  (List.range' buffer.readTo size).map buffer.data

/-! ## The window -/

/-- The window lies inside the buffer. -/
structure Wf (buffer : LoopBuffer) : Prop where
  ordered : buffer.readFrom ≤ buffer.readTo
  bounded : buffer.readTo ≤ bufferCapacity

theorem new_wf (garbage : Nat → UInt8) : (new garbage).Wf :=
  { ordered := Nat.le_refl 0
    bounded := Nat.zero_le _ }

@[simp] theorem contents_new (garbage : Nat → UInt8) :
    (new garbage).contents = [] := by
  simp [new, contents]

@[simp] theorem length_contents (buffer : LoopBuffer) :
    buffer.contents.length = buffer.readTo - buffer.readFrom := by
  simp [contents]

variable {buffer : LoopBuffer}

theorem getData_of_wf (wf : buffer.Wf) : buffer.getData = .ret buffer.contents := by
  rw [getData, if_pos ⟨wf.ordered, wf.bounded⟩]

theorem Wf.contents_le (wf : buffer.Wf) : buffer.contents.length ≤ bufferCapacity := by
  have bounded := wf.bounded
  rw [length_contents]
  omega

/-! ## The queue operations -/

/-- The loop reads behind what it has written, so every byte it reads is still
the old one. -/
theorem copyDown_apply {count source target : Nat} {data : Nat → UInt8}
    (behind : target ≤ source) (index : Nat) :
    copyDown count source target data index =
      if target ≤ index ∧ index < target + count then
        data (source + (index - target))
      else data index := by
  induction count generalizing source target data with
  | zero =>
    rw [copyDown, if_neg (by omega)]
  | succ count ih =>
    rw [copyDown, ih (by omega)]
    by_cases first : index = target
    · subst first
      simp
    · by_cases inside : target ≤ index ∧ index < target + (count + 1)
      · have same : source + 1 + (index - (target + 1)) = source + (index - target) := by
          omega
        rw [if_pos (by omega), if_pos inside, same,
          Function.update_of_ne (by omega)]
      · rw [if_neg (by omega), if_neg inside, Function.update_of_ne first]

theorem gc_contents (buffer : LoopBuffer) : buffer.gc.contents = buffer.contents := by
  unfold gc
  split
  · rfl
  split
  · next empty => simp [contents, empty]
  split
  · rfl
  apply List.ext_getElem
  · simp
  · intro index inside _
    have short : index < buffer.readTo - buffer.readFrom := by
      simpa using inside
    simp [contents, copyDown_apply, short]

theorem gc_wf (wf : buffer.Wf) : buffer.gc.Wf := by
  have ordered := wf.ordered
  have bounded := wf.bounded
  unfold gc
  split
  · exact wf
  split
  · exact { ordered := Nat.le_refl 0, bounded := Nat.zero_le _ }
  split
  · exact wf
  exact
    { ordered := Nat.zero_le _
      bounded := by
        simp only
        omega }

theorem getMut_wf (wf : buffer.Wf) :
    buffer.getMut.1.Wf := by
  unfold getMut
  simp only
  split
  · exact gc_wf wf
  · exact gc_wf wf

theorem getMut_contents (buffer : LoopBuffer) : buffer.getMut.1.contents = buffer.contents := by
  unfold getMut
  simp only
  split
  · exact gc_contents buffer
  · exact gc_contents buffer

theorem getMut_free {free : Nat} (found : buffer.getMut.2 = some free) :
    buffer.getMut.1.readTo + free = bufferCapacity ∧ 0 < free := by
  unfold getMut at *
  simp only at *
  split at found
  · contradiction
  next room =>
    rw [if_neg room]
    simp only [Option.some.injEq] at found ⊢
    omega

theorem getMut_eq_none_iff (wf : buffer.Wf) :
    buffer.getMut.2 = none ↔ buffer.contents.length = bufferCapacity := by
  have ordered := wf.ordered
  have bounded := wf.bounded
  have positive : 0 < bufferCapacity := by decide
  rw [length_contents]
  unfold getMut gc
  simp only
  split
  · split
    · simp only [true_iff]
      omega
    · simp only [reduceCtorEq, false_iff]
      omega
  split
  · split
    · next full => simp only [ge_iff_le] at full; omega
    · simp only [reduceCtorEq, false_iff]
      omega
  split
  · split
    · omega
    · simp only [reduceCtorEq, false_iff]
      omega
  split
  · next full => simp only [ge_iff_le] at full; omega
  · simp only [reduceCtorEq, false_iff]
    omega

theorem advance_contents (wf : buffer.Wf) (size : Nat) :
    (buffer.advance size).contents = buffer.contents ++ buffer.slack size := by
  have ordered := wf.ordered
  have length : buffer.readTo + size - buffer.readFrom =
      (buffer.readTo - buffer.readFrom) + size := by omega
  have middle : buffer.readFrom + 1 * (buffer.readTo - buffer.readFrom) = buffer.readTo := by omega
  simp only [contents, advance, slack, length]
  rw [← List.range'_append, middle, List.map_append]

theorem fill_contents (buffer : LoopBuffer) (bytes : Bytes) :
    (buffer.fill bytes).contents = buffer.contents := by
  apply List.map_congr_left
  intro index inside
  have before : ¬ buffer.readTo ≤ index := by
    have := List.mem_range'_1.mp inside
    simp only [fill] at this
    omega
  simp only [fill, before, if_false]

theorem fill_advance_contents (wf : buffer.Wf) (bytes : Bytes) :
    ((buffer.fill bytes).advance bytes.length).contents = buffer.contents ++ bytes := by
  have written : (buffer.fill bytes).slack bytes.length = bytes := by
    apply List.ext_getElem
    · simp [slack]
    · intro index _ inside
      simp [slack, fill, inside]
  have filled : (buffer.fill bytes).Wf := ⟨wf.ordered, wf.bounded⟩
  rw [advance_contents filled, fill_contents, written]

theorem fill_advance_wf (wf : buffer.Wf) {bytes : Bytes}
    (room : buffer.readTo + bytes.length ≤ bufferCapacity) :
    ((buffer.fill bytes).advance bytes.length).Wf :=
  { ordered := Nat.le_add_right_of_le wf.ordered
    bounded := room }

theorem commitRead_contents (buffer : LoopBuffer) (size : Nat) :
    (buffer.commitRead size).contents = buffer.contents.drop size := by
  apply List.ext_getElem
  · simp [commitRead]
    omega
  · intro index _ _
    simp [commitRead, contents, Nat.add_assoc]

theorem commitRead_wf (wf : buffer.Wf) {size : Nat} (inside : size ≤ buffer.contents.length) :
    (buffer.commitRead size).Wf := by
  have ordered := wf.ordered
  rw [length_contents] at inside
  exact
    { ordered := by
        simp only [commitRead]
        omega
      bounded := wf.bounded }

end LoopBuffer

/-! ## Runs -/

/-- A buffer in use: what is left of the slice that `get_mut` returned last,
with the bytes the caller finds or has put there, all bytes that were advanced
over, and how many were committed. -/
structure BufferUse where
  buffer : LoopBuffer
  free : Nat := 0
  slice : Nat → UInt8 := fun _ => 0
  advanced : Bytes := []
  committed : Nat := 0

namespace BufferUse

inductive Event where
  | getMut
  | fill (bytes : Bytes)
  | advance (size : Nat)
  | getData
  | commitRead (size : Nat)

/-- The sizes that the buffer returned are kept to. -/
def Within (use : BufferUse) : Event → Prop
  | .getMut => True
  | .fill bytes => bytes.length ≤ use.free
  | .advance size => size ≤ use.free
  | .getData => True
  | .commitRead size => ∃ data, use.buffer.getData = .ret data ∧ size ≤ data.length

def next (use : BufferUse) : Event → BufferUse
  | .getMut =>
    let (buffer, free) := use.buffer.getMut
    { use with
      buffer
      free := free.getD 0
      slice := fun index => buffer.data (buffer.readTo + index) }
  | .fill bytes =>
    { use with
      buffer := use.buffer.fill bytes
      slice := fun index => (bytes[index]?).getD (use.slice index) }
  | .advance size =>
    { use with
      buffer := use.buffer.advance size
      free := use.free - size
      slice := fun index => use.slice (size + index)
      advanced := use.advanced ++ (List.range size).map use.slice }
  | .getData => use
  | .commitRead size =>
    { use with buffer := use.buffer.commitRead size, committed := use.committed + size }

/-- The buffer is the queue of the bytes advanced over and not committed. -/
structure IsQueue (use : BufferUse) : Prop extends use.buffer.Wf where
  unread : use.buffer.contents = use.advanced.drop use.committed
  room : use.buffer.readTo + use.free ≤ bufferCapacity
  shared : ∀ index < use.free, use.slice index = use.buffer.data (use.buffer.readTo + index)
  behind : use.committed ≤ use.advanced.length

theorem IsQueue.next {use : BufferUse} {event : Event} (queue : use.IsQueue)
    (within : use.Within event) : (use.next event).IsQueue := by
  have unread := queue.unread
  have room := queue.room
  have shared := queue.shared
  have behind := queue.behind
  cases event with
  | getMut =>
    refine ⟨LoopBuffer.getMut_wf queue.toWf, ?_, ?_, fun _ _ => rfl, behind⟩
    · exact (LoopBuffer.getMut_contents use.buffer).trans unread
    · cases found : use.buffer.getMut.2 with
      | none => simpa [BufferUse.next, found] using (LoopBuffer.getMut_wf queue.toWf).bounded
      | some free =>
        simpa [BufferUse.next, found] using (LoopBuffer.getMut_free found).1.le
  | fill bytes =>
    refine ⟨⟨queue.ordered, queue.bounded⟩,
      (LoopBuffer.fill_contents use.buffer bytes).trans unread, room, ?_, behind⟩
    intro index inside
    simp [BufferUse.next, LoopBuffer.fill, shared index inside]
  | advance size =>
    have small : size ≤ use.free := within
    have ordered := queue.ordered
    have read : use.buffer.slack size = (List.range size).map use.slice := by
      rw [LoopBuffer.slack, List.range'_eq_map_range, List.map_map]
      apply List.map_congr_left
      intro index inside
      exact (shared index ((List.mem_range.mp inside).trans_le small)).symm
    refine ⟨⟨?_, ?_⟩, ?_, ?_, ?_, ?_⟩
    · simp only [BufferUse.next, LoopBuffer.advance]
      omega
    · simp only [BufferUse.next, LoopBuffer.advance]
      omega
    · simp only [BufferUse.next]
      rw [LoopBuffer.advance_contents queue.toWf, unread, read,
        List.drop_append_of_le_length behind]
    · simp only [BufferUse.next, LoopBuffer.advance]
      omega
    · intro index inside
      simp only [BufferUse.next, LoopBuffer.advance] at inside ⊢
      rw [shared _ (by omega), Nat.add_assoc]
    · simp only [BufferUse.next, List.length_append]
      omega
  | getData => exact queue
  | commitRead size =>
    obtain ⟨data, returned, inside⟩ := within
    rw [LoopBuffer.getData_of_wf queue.toWf, Outcome.ret.injEq] at returned
    subst returned
    refine ⟨LoopBuffer.commitRead_wf queue.toWf inside, ?_, room, shared, ?_⟩
    · simp only [BufferUse.next]
      rw [LoopBuffer.commitRead_contents, unread, List.drop_drop]
    · rw [unread, List.length_drop] at inside
      simp only [BufferUse.next]
      omega

/-- Whatever is done within the sizes returned, the buffer is the queue of the
bytes advanced over and not committed. -/
theorem loopBuffer_is_queue {garbage : Nat → UInt8} {use : BufferUse}
    (run : Run (fun state event later => later = state.next event) Within
      { buffer := .new garbage } use) :
    use.buffer.getData = .ret (use.advanced.drop use.committed) ∧
      use.buffer.gc.contents = use.advanced.drop use.committed ∧
      use.buffer.readFrom ≤ use.buffer.readTo ∧ use.buffer.readTo ≤ bufferCapacity ∧
      (use.buffer.getMut.2 = none ↔ (use.advanced.drop use.committed).length = bufferCapacity) := by
  have queue : use.IsQueue := by
    apply run.invariant
    · exact ⟨LoopBuffer.new_wf garbage, by simp, Nat.zero_le _, by simp, Nat.le_refl 0⟩
    · rintro state event later queue within rfl
      exact queue.next within
  rw [← queue.unread]
  exact ⟨LoopBuffer.getData_of_wf queue.toWf, LoopBuffer.gc_contents use.buffer, queue.ordered,
    queue.bounded, LoopBuffer.getMut_eq_none_iff queue.toWf⟩

/-- Two bytes are filled in and advanced over, and one is committed. -/
theorem loopBuffer_is_queue_committed :
    ∃ use, Run (fun state event later => later = state.next event) Within
        { buffer := .new fun _ => 0 } use ∧
      use.advanced = [97, 98] ∧ use.committed = 1 ∧ use.buffer.getData = .ret [98] := by
  have filled : Run (fun state event later => later = state.next event) Within
      { buffer := .new fun _ => 0 } _ :=
    .step (.step (.start _) (show Within _ .getMut from trivial) rfl)
      (show Within _ (.fill [97, 98]) from (by decide : 2 ≤ bufferCapacity)) rfl
  have advanced := filled.step
    (show Within _ (.advance 2) from (by decide : 2 ≤ bufferCapacity)) rfl
  have committed := advanced.step
    (show Within _ (.commitRead 1) from ⟨[97, 98], by decide, by decide⟩) rfl
  exact ⟨_, committed, rfl, rfl, (loopBuffer_is_queue committed).1⟩

end BufferUse

end ReverseProxy
