import ReverseProxy.TcpGateway.ForwardedSession

/-!
# The end of a gateway connection

A writer that finds its queue closed drops what it has collected, and a receive
buffer that was disconnected drops what is left in it.  Otherwise both keep
every octet in its order.
-/

namespace ReverseProxy

open Library

/-! ## Both write loops -/

/-- `gateway_write_loop` and `raw_write_loop` with their channel.  Frames are
collected in `buffer`; `flushes` are those handed to the socket, the write in
flight included: one after another by the raw loop, through `buildWire` by the
other. -/
structure WriterTask where
  accepted : List Bytes := []
  queue : List Bytes := []
  closed : Bool := false
  buffer : List Bytes := []
  writing : Bool := false
  flushes : List (List Bytes) := []
  stopped : Bool := false
  failed : Bool := false
deriving DecidableEq, Repr

inductive WriterEvent where
  | sendPayload (payload : Bytes)
  | disconnect
  | received
  | writeFinished (ok : Bool)
deriving DecidableEq, Repr

namespace WriterTask

/-- The top of the loop. -/
def flush (task : WriterTask) : WriterTask :=
  if !task.writing && !task.buffer.flatten.isEmpty then
    { task with
      buffer := []
      writing := true
      flushes := task.flushes ++ [task.buffer] }
  else task

/-- The tasks that send and disconnect, and one turn of the loop.  The write in
flight is still awaited behind the loop. -/
def handle (task : WriterTask) : WriterEvent → WriterTask
  | .sendPayload payload =>
    if task.closed || task.stopped || writeChannelCapacity ≤ task.queue.length then task
    else
      { task with
        accepted := task.accepted ++ [payload]
        queue := task.queue ++ [payload] }
  | .disconnect => { task with closed := true }
  | .received =>
    if task.stopped then task
    else
      match task.queue with
      | payload :: rest =>
        { task with
          queue := rest
          buffer := task.buffer ++ [payload] }.flush
      | [] => if task.closed then { task with stopped := true } else task
  | .writeFinished ok =>
    if !task.writing then task
    else if ok then
      if task.stopped then { task with writing := false }
      else { task with writing := false }.flush
    else { task with writing := false, stopped := true, failed := true }

def run (events : List WriterEvent) : WriterTask := events.foldl handle {}

/-- Every accepted frame is in one place. -/
structure Keeps (task : WriterTask) : Prop where
  frames : task.flushes.flatten ++ (task.buffer ++ task.queue) = task.accepted
  drained : task.stopped = true → task.failed = false → task.queue = []

theorem Keeps.flush {task : WriterTask} (keeps : task.Keeps) :
    task.flush.Keeps := by
  unfold WriterTask.flush
  split
  · exact { keeps with frames := by simp [← keeps.frames] }
  · exact keeps

theorem Keeps.handle {task : WriterTask} (keeps : task.Keeps)
    (event : WriterEvent) : (task.handle event).Keeps := by
  cases event with
  | sendPayload payload =>
    rw [WriterTask.handle]
    split
    case isTrue => exact keeps
    case isFalse refused =>
      refine ⟨by simp [← keeps.frames], fun stopped => ?_⟩
      simp [show task.stopped = true from stopped] at refused
  | disconnect => exact { keeps with }
  | received =>
    rw [WriterTask.handle]
    split
    case isTrue => exact keeps
    case isFalse running =>
      split
      case h_1 payload rest queued =>
        apply Keeps.flush
        refine ⟨by simp [← keeps.frames, queued], fun stopped => ?_⟩
        exact absurd stopped running
      case h_2 empty =>
        split
        · exact { keeps with drained := fun _ _ => empty }
        · exact keeps
  | writeFinished ok =>
    rw [WriterTask.handle]
    split
    · exact keeps
    split
    · split
      · exact { keeps with }
      · exact Keeps.flush { keeps with }
    · exact { keeps with drained := by simp }

theorem keeps_run (events : List WriterEvent) : (run events).Keeps :=
  List.foldlRecOn events handle { frames := rfl, drained := fun _ _ => rfl }
    fun _ keeps event _ => keeps.handle event

/-- A writer that stops without a failed write has lost exactly what it had
collected and not handed to the socket. -/
theorem accepted_frames_written_iff (events : List WriterEvent) :
    (run events).flushes.flatten <+: (run events).accepted ∧
      ((run events).stopped = true → (run events).failed = false →
        ((run events).flushes.flatten.flatten = (run events).accepted.flatten ↔
          (run events).buffer.flatten = [])) := by
  have keeps := keeps_run events
  constructor
  · rw [← keeps.frames]
    exact List.prefix_append _ _
  · intro stopped succeeded
    rw [← keeps.frames, keeps.drained stopped succeeded, List.append_nil,
      List.flatten_append, List.self_eq_append_right]

/-- Closing the queue during a write loses the frame behind it. -/
theorem collected_frame_lost :
    (run [.sendPayload [1], .received, .sendPayload [2], .received,
      .disconnect, .received, .writeFinished true]) =
      { accepted := [[1], [2]]
        closed := true
        buffer := [[2]]
        flushes := [[[1]]]
        stopped := true } := by
  decide

end WriterTask

/-! ## The receive buffer of a proxied connection -/

/-- `AwaitingContent`; a waiter is registered while `awaiter` is set. -/
structure AwaitingContent where
  buffer : Bytes := []
  awaiter : Bool := false
  disconnected : Bool := false
deriving DecidableEq, Repr

inductive BufferEvent where
  | getData (size : Nat)
  | extendFromSlice (payload : Bytes)
  | disconnect
deriving DecidableEq, Repr

/-- The buffer with what went through it.  `ended` keeps what had been extended
and what was left in the buffer when it was disconnected; `reported` tells
whether a reader has seen the end. -/
structure ReceiveHistory extends AwaitingContent where
  extended : Bytes := []
  returned : Bytes := []
  ended : Option (Bytes × Bytes) := none
  reported : Bool := false
deriving DecidableEq, Repr

namespace ReceiveHistory

/-- One turn of `get_data`, or a call of the other two.  A waiter that is woken
by `extend_from_slice` takes another turn; one that is woken by `disconnect`
reports the end. -/
def handle (history : ReceiveHistory) : BufferEvent → ReceiveHistory
  | .getData size =>
    if history.disconnected then { history with reported := true }
    else if history.buffer ≠ [] then
      { history with
        buffer := history.buffer.drop size
        returned := history.returned ++ history.buffer.take size }
    else { history with awaiter := true }
  | .extendFromSlice payload =>
    { history with
      buffer := history.buffer ++ payload
      awaiter := false
      extended := history.extended ++ payload }
  | .disconnect =>
    if history.disconnected then history
    else
      { history with
        awaiter := false
        disconnected := true
        ended := some (history.extended, history.buffer)
        reported := history.reported || history.awaiter }

def run (events : List BufferEvent) : ReceiveHistory := events.foldl handle {}

structure Keeps (history : ReceiveHistory) : Prop where
  octets : history.returned ++ history.buffer = history.extended
  awaiter : history.awaiter = true → history.buffer = [] ∧ history.disconnected = false
  running : history.disconnected = false → history.ended = none ∧ history.reported = false
  ended : ∀ extended unread, history.ended = some (extended, unread) →
    history.returned ++ unread = extended
  disconnected : history.disconnected = true → history.ended.isSome

theorem Keeps.handle {history : ReceiveHistory} (keeps : history.Keeps)
    (event : BufferEvent) : (history.handle event).Keeps := by
  cases event with
  | getData size =>
    rw [ReceiveHistory.handle]
    split
    case isTrue disconnected =>
      exact { keeps with running := by simp [disconnected] }
    case isFalse connected =>
      have running := keeps.running (by simpa using connected)
      split
      case isTrue some =>
        exact { keeps with
          octets := by simp [keeps.octets]
          awaiter := fun waits => absurd (keeps.awaiter waits).1 some
          ended := by simp [running] }
      case isFalse empty =>
        exact { keeps with
          awaiter := fun _ => ⟨not_not.mp empty, by simpa using connected⟩ }
  | extendFromSlice payload =>
    rw [ReceiveHistory.handle]
    exact { keeps with
      octets := by simp [← keeps.octets]
      awaiter := by simp }
  | disconnect =>
    rw [ReceiveHistory.handle]
    split
    · exact keeps
    exact { keeps with
      awaiter := by simp
      running := by simp
      ended := by
        rintro extended unread ⟨⟩
        exact keeps.octets
      disconnected := by simp }

theorem keeps_run (events : List BufferEvent) : (run events).Keeps := by
  refine List.foldlRecOn events handle ?_ fun _ keeps event _ => keeps.handle event
  constructor <;> simp

/-- The end is reported behind everything that was extended before it exactly
if nothing was left in the buffer when it was disconnected. -/
theorem receive_buffer_drains_iff (events : List BufferEvent) :
    (run events).returned <+: (run events).extended ∧ ((run events).awaiter = true →
        (run events).buffer = [] ∧ (run events).disconnected = false) ∧
      ((run events).reported = true → ∃ extended unread,
        (run events).ended = some (extended, unread) ∧
          (extended <+: (run events).returned ↔ unread = [])) := by
  have keeps := keeps_run events
  refine ⟨keeps.octets ▸ List.prefix_append _ _, keeps.awaiter, ?_⟩
  intro reported
  have disconnected : (run events).disconnected = true := by
    by_contra connected
    have silent := (keeps.running (by simpa using connected)).2
    exact absurd (silent.symm.trans reported) (by decide)
  obtain ⟨⟨extended, unread⟩, ended⟩ :=
    Option.isSome_iff_exists.mp (keeps.disconnected disconnected)
  refine ⟨extended, unread, ended, ?_⟩
  rw [← keeps.ended extended unread ended]
  constructor
  · intro whole
    have shorter := whole.length_le
    rw [List.length_append] at shorter
    exact List.length_eq_zero_iff.mp (by omega)
  · rintro rfl
    rw [List.append_nil]

theorem unread_octets_dropped :
    run [.extendFromSlice [1, 2], .disconnect, .getData 8] =
      { buffer := [1, 2]
        disconnected := true
        extended := [1, 2]
        ended := some ([1, 2], [1, 2])
        reported := true } := by
  decide

end ReceiveHistory

end ReverseProxy
