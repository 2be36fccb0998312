import ReverseProxy.Library.Runs
import ReverseProxy.Rust.Utf8

/-!
# The registry of gateway connections

A gateway keeps one connection per name.  A completed handshake replaces the
entry; a read loop that ends removes the entry of its name, whichever connection
that is by then, and so does a client that is about to connect again.  A read
loop that ends by a panic removes nothing.
-/

namespace ReverseProxy

open Library Function

/-- A connection and the name it is registered under; connections are numbered
as they are made. -/
structure GatewayConnectionId where
  number : Nat
  name : Str
deriving DecidableEq, Repr

/-- `TcpGatewayInner` with the connections whose read loop runs, the one
registered last in front. -/
structure TcpGatewayInner where
  connection : Str → Option Nat := fun _ => none
  running : List GatewayConnectionId := []
  made : Nat := 0

inductive GatewayEvent where
  | handshakeCompleted (name : Str)
  | readLoopEnded (connection : GatewayConnectionId)
  | readLoopPanicked (connection : GatewayConnectionId)
  | clientConnects (name : Str)
deriving DecidableEq, Repr

namespace TcpGatewayInner

def setGatewayConnection (inner : TcpGatewayInner) (id : Str)
    (connection : Option Nat) : TcpGatewayInner :=
  { inner with connection := update inner.connection id connection }

/-- Both peers register a connection before its read loop starts.  A client
clears the entry at the top of its connection loop. -/
inductive Step : TcpGatewayInner → GatewayEvent → TcpGatewayInner → Prop where
  | handshakeCompleted (inner : TcpGatewayInner) (name : Str) :
      Step inner (.handshakeCompleted name)
        { inner.setGatewayConnection name (some inner.made) with
          running := { number := inner.made, name } :: inner.running
          made := inner.made + 1 }
  | readLoopEnded (inner : TcpGatewayInner) {connection : GatewayConnectionId}
      (running : connection ∈ inner.running) :
      Step inner (.readLoopEnded connection)
        { inner.setGatewayConnection connection.name none with
          running := inner.running.filter (· ≠ connection) }
  -- `parse` or the packet handler panics, so the end of the loop is not reached.
  | readLoopPanicked (inner : TcpGatewayInner) {connection : GatewayConnectionId}
      (running : connection ∈ inner.running) :
      Step inner (.readLoopPanicked connection)
        { inner with running := inner.running.filter (· ≠ connection) }
  | clientConnects (inner : TcpGatewayInner) (name : Str) :
      Step inner (.clientConnects name) (inner.setGatewayConnection name none)

/-- The connection registered last under a name whose read loop runs. -/
def newest (running : List GatewayConnectionId) (name : Str) : Option Nat :=
  (running.find? (·.name = name)).map (·.number)

/-- Every entry is the newest running connection of its name. -/
def KeepsNewest (inner : TcpGatewayInner) : Prop :=
  ∀ name, inner.connection name = newest inner.running name

/-- An entry is removed only when nothing else runs under its name, and a read
loop panics only when a newer one of its name runs. -/
def EndsInOrder (inner : TcpGatewayInner) : GatewayEvent → Prop
  | .handshakeCompleted _ => True
  | .readLoopEnded connection =>
    ∀ other ∈ inner.running, other.name = connection.name → other = connection
  | .readLoopPanicked connection =>
    inner.running.find? (·.name = connection.name) ≠ some connection
  | .clientConnects name => ∀ other ∈ inner.running, other.name ≠ name

theorem newest_eq_none_iff {running : List GatewayConnectionId} {name : Str} :
    newest running name = none ↔ ∀ connection ∈ running, connection.name ≠ name := by
  simp [newest]

theorem newest_cons (connection : GatewayConnectionId)
    (running : List GatewayConnectionId) (name : Str) :
    newest (connection :: running) name =
      if connection.name = name then some connection.number
      else newest running name := by
  unfold newest
  rw [List.find?_cons]
  by_cases same : connection.name = name
  · simp [same]
  · simp [same]

theorem newest_filter_of_ne (running : List GatewayConnectionId)
    {connection : GatewayConnectionId} {name : Str}
    (different : connection.name ≠ name) :
    newest (running.filter (· ≠ connection)) name = newest running name := by
  induction running with
  | nil => rfl
  | cons other running ih =>
    by_cases same : other = connection
    · rw [List.filter_cons_of_neg (by simp [same]), ih, newest_cons, same, if_neg different]
    · rw [List.filter_cons_of_pos (by simp [same]), newest_cons, newest_cons, ih]

theorem newest_filter_self_iff (running : List GatewayConnectionId)
    (connection : GatewayConnectionId) :
    newest running connection.name =
        newest (running.filter (· ≠ connection)) connection.name ↔
      running.find? (·.name = connection.name) ≠ some connection := by
  constructor
  · intro same found
    rw [newest, found, Option.map_some] at same
    obtain ⟨other, again, sameNumber⟩ := Option.map_eq_some_iff.mp same.symm
    have different := (List.mem_filter.mp (List.mem_of_find?_eq_some again)).2
    have sameName := List.find?_some again
    cases other
    simp_all
  · intro newer
    induction running with
    | nil => rfl
    | cons other running ih =>
      have different : other ≠ connection := by
        rintro rfl
        simp at newer
      rw [List.filter_cons_of_pos (by simpa using different), newest_cons, newest_cons]
      split
      · rfl
      case isFalse otherName => exact ih (by simpa [List.find?_cons, otherName] using newer)

/-- Once the entries are right, a step leaves them right exactly if it meets the
condition. -/
theorem keepsNewest_step_iff {inner next : TcpGatewayInner}
    {event : GatewayEvent} (keeps : inner.KeepsNewest)
    (stepped : Step inner event next) :
    next.KeepsNewest ↔ inner.EndsInOrder event := by
  cases stepped with
  | handshakeCompleted name =>
    refine iff_of_true ?_ trivial
    intro other
    rw [newest_cons]
    by_cases same : name = other
    · subst same
      simp [setGatewayConnection]
    · rw [if_neg same, ← keeps other]
      exact update_of_ne (Ne.symm same) _ _
  | readLoopEnded running =>
    rename_i connection
    have here : newest (inner.running.filter (· ≠ connection)) connection.name = none ↔
        ∀ other ∈ inner.running, other.name = connection.name → other = connection := by
      rw [newest_eq_none_iff]
      constructor
      · intro others other member sameName
        by_contra different
        exact others other (by simp [member, different]) sameName
      · intro only other member sameName
        have inside := List.mem_filter.mp member
        have same := only other inside.1 sameName
        simp [same] at inside
    constructor
    · intro nextKeeps
      apply here.mp
      rw [← nextKeeps connection.name]
      exact update_self _ _ _
    · intro last name
      by_cases same : connection.name = name
      · subst same
        exact (update_self _ _ _).trans (here.mpr last).symm
      · rw [newest_filter_of_ne inner.running same, ← keeps name]
        exact update_of_ne (Ne.symm same) _ _
  | readLoopPanicked running =>
    rename_i connection
    refine Iff.trans ?_ (newest_filter_self_iff inner.running connection)
    rw [← keeps connection.name]
    constructor
    · intro nextKeeps
      exact nextKeeps connection.name
    · intro same name
      by_cases sameName : connection.name = name
      · exact sameName ▸ same
      · exact (keeps name).trans (newest_filter_of_ne inner.running sameName).symm
  | clientConnects name =>
    constructor
    · intro nextKeeps
      apply newest_eq_none_iff.mp
      exact (nextKeeps name).symm.trans (update_self _ _ _)
    · intro none other
      by_cases same : name = other
      · subst same
        exact (update_self _ _ _).trans (newest_eq_none_iff.mpr none).symm
      · exact (update_of_ne (Ne.symm same) _ _).trans (keeps other)

/-- In every run that removes an entry only when nothing else runs under its
name, and in which no newest connection panics, each entry is the connection
registered last whose read loop runs. -/
theorem keepsNewest_of_run {inner : TcpGatewayInner}
    (run : Run Step EndsInOrder {} inner) : inner.KeepsNewest := by
  apply run.invariant
  · intro name
    rfl
  · intro state event next keeps last stepped
    exact (keepsNewest_step_iff keeps stepped).mpr last

private def reconnected : TcpGatewayInner :=
  { connection := update (update (fun _ => none) ['a']
      (some 0)) ['a'] (some 1)
    running := [{ number := 1, name := ['a'] }, { number := 0, name := ['a'] }]
    made := 2 }

private theorem run_reconnected {Meets : TcpGatewayInner → GatewayEvent → Prop}
    (meets : ∀ inner, Meets inner (.handshakeCompleted ['a'])) :
    Run Step Meets {} reconnected := by
  have first : Run Step Meets {} _ := Run.step (Run.start _) (meets _)
    (.handshakeCompleted {} ['a'])
  exact Run.step first (meets _) (.handshakeCompleted _ ['a'])

theorem keepsNewest_of_run_reconnected :
    Run Step EndsInOrder {} reconnected ∧ reconnected.KeepsNewest := by
  have run : Run Step EndsInOrder {} reconnected := run_reconnected fun _ => trivial
  exact ⟨run, keepsNewest_of_run run⟩

/-- The read loop of an older connection takes the newer one out of the
registry. -/
theorem older_read_loop_removes_newer :
    ∃ inner, Run Step (fun _ _ => True) {} inner ∧
      inner.running = [{ number := 1, name := ['a'] }] ∧
      inner.connection ['a'] = none := by
  have older : { number := 0, name := ['a'] } ∈ reconnected.running := by
    decide
  have run : Run Step (fun _ _ => True) {} _ := Run.step
    (run_reconnected fun _ => trivial) trivial (.readLoopEnded _ older)
  exact ⟨_, run, by decide, by decide⟩

end TcpGatewayInner

end ReverseProxy
