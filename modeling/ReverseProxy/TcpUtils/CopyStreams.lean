import ReverseProxy.H1ProxyServer.KnownSizeRelay

/-!
# Copying a stream

Port forwards and websocket tunnels run `copy_streams` once per direction.
-/

namespace ReverseProxy

open LoopBuffer List

variable {σ : Type} [H1Writer σ]

/-- What is buffered goes out in one write. -/
def writeBuffered (relay : Relay σ) : Outcome (Relay σ × Except NetworkError Nat) := do
  let buf ← relay.buffer.getData
  if buf = [] then return (relay, .ok 0)
  match writeHttpPayload relay.sink buf with
  | (sink, .error err) => return ({ relay with sink }, .error err)
  | (sink, .ok _) =>
    return ({ relay with sink, buffer := relay.buffer.commitRead buf.length }, .ok buf.length)

/-- The sink, the octets that were recorded and whether the writer was shut
down. -/
def copyStreams : Nat → Relay σ → Outcome (σ × Nat × Bool)
  | 0, _ => .diverge
  | fuel + 1, relay => do
    match ← writeBuffered relay with
    | (relay, .error _) => return (relay.sink, 0, false)
    | (relay, .ok len) =>
      match readMore relay with
      -- `get_mut().unwrap()`
      | (_, .error .bufferAllocationFail) => .panic
      | (relay, .error _) => return (relay.sink, len, true)
      | (relay, .ok _) =>
        let (sink, recorded, closed) ← copyStreams fuel relay
        return (sink, len + recorded, closed)

/-- All that arrived was written and the writer shut down, or a write failed. -/
inductive CopyEnds (relay : Relay σ) : σ × Nat × Bool → Prop where
  | closed {pieces : List Bytes} {sink : σ} (writes : Writes relay.sink pieces sink)
      (all : pieces.flatten = relay.available) :
      CopyEnds relay (sink, pieces.flatten.length, true)
  | refused {pieces : List Bytes} {piece : Bytes} {middle sink : σ} {err : NetworkError}
      (writes : Writes relay.sink pieces middle)
      (inside : pieces.flatten ++ piece <+: relay.available)
      (refused : writeHttpPayload middle piece = (sink, .error err)) :
      CopyEnds relay (sink, pieces.flatten.length, false)

variable {relay : Relay σ}

theorem CopyEnds.after {next : Relay σ} {first : List Bytes} {sink : σ} {recorded : Nat}
    {closed : Bool} (writes : Writes relay.sink first next.sink)
    (split : relay.available = first.flatten ++ next.available)
    (ends : CopyEnds next (sink, recorded, closed)) :
    CopyEnds relay (sink, first.flatten.length + recorded, closed) := by
  cases ends with
  | closed later all =>
    rw [← length_append, ← flatten_append]
    exact .closed (writes.append later) (by rw [flatten_append, all, split])
  | refused later inside refused =>
    rw [← length_append, ← flatten_append]
    refine .refused (writes.append later) ?_ refused
    rw [flatten_append, append_assoc, split]
    exact (prefix_append_right_inj _).mpr inside

theorem writeBuffered_cases (wf : relay.buffer.Wf) :
    (∃ next err, writeBuffered relay = .ret (next, .error err) ∧
      writeHttpPayload relay.sink relay.buffer.contents = (next.sink, .error err)) ∨
    ∃ next first, writeBuffered relay = .ret (next, .ok first.flatten.length) ∧
      Writes relay.sink first next.sink ∧ first.flatten = relay.buffer.contents ∧
      next.buffer.Wf ∧ next.buffer.contents = [] ∧ next.events = relay.events := by
  rw [writeBuffered, getData_of_wf wf, Outcome.bind_ret]
  split
  · next empty => exact .inr ⟨relay, [], rfl, .nil _, empty.symm, wf, empty, rfl⟩
  split
  · next failed => exact .inl ⟨_, _, rfl, failed⟩
  · next written =>
      refine .inr ⟨{ relay with buffer := _, sink := _ }, [relay.buffer.contents], ?_,
        .cons written (.nil _), flatten_singleton, commitRead_wf wf (Nat.le_refl _), ?_, rfl⟩
      · rw [flatten_singleton]
        rfl
      · exact (commitRead_contents ..).trans drop_length

/-- A copy ends, and no octet is lost, repeated or moved. -/
theorem copyStreams_ends {fuel : Nat} (wf : relay.buffer.Wf)
    (enough : (readable relay.events).length < fuel) :
    ∃ result, copyStreams fuel relay = .ret result ∧ CopyEnds relay result := by
  induction fuel generalizing relay with
  | zero => omega
  | succ fuel ih =>
    rw [copyStreams]
    obtain ⟨next, err, failed, refused⟩ | ⟨next, first, sent, writes, taken, nextWf, empty,
      events⟩ := writeBuffered_cases wf
    · rw [failed]
      exact ⟨_, rfl, .refused (.nil _) (by simp [Relay.available]) refused⟩
    have split : relay.available = first.flatten ++ next.available := by
      rw [Relay.available, Relay.available, taken, empty, events, nil_append]
    rw [sent, Outcome.bind_ret]
    by_cases nothing : readable next.events = []
    · obtain ⟨after, err, failed, same, _⟩ := readMore_ended nextWf empty nothing
      simp only [failed]
      refine ⟨_, rfl, .closed (same ▸ writes) ?_⟩
      rw [split, Relay.available, empty, nothing, append_nil, append_nil]
    · obtain ⟨after, read⟩ := readMore_progress nextWf (by simp [empty, bufferCapacity]) nothing
      obtain ⟨consumed, bytes, some, filled⟩ := readMore_ok nextWf read
      obtain ⟨pieces, passed, flat, _⟩ := consumed.writes
      have shorter : (readable after.events).length < fuel := by
        have lengths := congrArg length consumed.available
        have positive := length_pos_iff.mpr some
        simp only [nil_append, Relay.length_available, filled, empty, length_nil] at lengths
        rw [← events] at enough
        omega
      obtain ⟨⟨sink, recorded, closed⟩, copied, ends⟩ := ih consumed.wf shorter
      have whole := ends.after (writes.append passed)
        (by rw [split, consumed.available, flatten_append, flat, append_nil, nil_append])
      rw [flatten_append, flat, append_nil] at whole
      simp only [read, copied, Outcome.bind_ret]
      exact ⟨_, rfl, whole⟩

/-- One octet is left in the buffer, and another one arrives. -/
theorem copyStreams_ends_two :
    let relay : Relay RelaySink :=
      { events := [.data [66]]
        buffer := ((new fun _ => 0).fill [65]).advance 1
        sink := ⟨[]⟩ }
    ∃ result, copyStreams 2 relay = .ret result ∧ CopyEnds relay result :=
  copyStreams_ends (fill_advance_wf (new_wf _) (by decide)) (by decide)

end ReverseProxy
