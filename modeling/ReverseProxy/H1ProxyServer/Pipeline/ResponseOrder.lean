import ReverseProxy.H1ProxyServer.Pipeline.ClientWriter

/-!
# Order and integrity of the responses on a connection

In every interleaving the bytes on the client socket are the responses of the
completed slots, in the order of the requests, followed by a beginning of the
response of the slot the writer works on.
-/

namespace ReverseProxy

open Library Channel List

/-- The bytes of a response: its chunks up to the first terminal event. -/
def responseBytes : List ResponseEvent → Bytes
  | .chunk bytes :: events => bytes ++ responseBytes events
  | _ => []

/-- The first terminal event of a response is `Done`. -/
def endsCleanly : List ResponseEvent → Bool
  | .chunk _ :: events => endsCleanly events
  | .done :: _ => true
  | _ => false

theorem responseBytes_chunks (chunks : List Bytes) (events : List ResponseEvent) :
    responseBytes (chunks.map .chunk ++ events) = chunks.flatten ++ responseBytes events := by
  induction chunks with
  | nil => rfl
  | cons bytes chunks ih => simp [responseBytes, ih]

theorem endsCleanly_chunks (chunks : List Bytes) (events : List ResponseEvent) :
    endsCleanly (chunks.map .chunk ++ events) = endsCleanly events := by
  induction chunks with
  | nil => rfl
  | cons bytes chunks ih => simpa [endsCleanly] using ih

namespace ResponseSlot

def response (slot : ResponseSlot) : Bytes := responseBytes slot.events.sent

/-- The writer has taken exactly these chunks out of the slot. -/
def Delivered (slot : ResponseSlot) (chunks : List Bytes) : Prop :=
  slot.events.received = chunks.map .chunk

theorem Delivered.response_eq {slot : ResponseSlot} {chunks : List Bytes}
    (delivered : slot.Delivered chunks) :
    slot.response = chunks.flatten ++ responseBytes slot.events.buffered := by
  rw [response, sent, delivered, responseBytes_chunks]

end ResponseSlot

/-! ## Producers -/

variable {slot next : ResponseSlot}

theorem ProducerStep.request_eq
    (produced : ProducerStep slot next) : next.request = slot.request := by
  cases produced with
  | send => rfl
  | stop => rfl

theorem ProducerStep.received_eq (produced : ProducerStep slot next) :
    next.events.received = slot.events.received := by
  cases produced with
  | send => rfl
  | stop => rfl

theorem ProducerStep.delivered {chunks : List Bytes} (produced : ProducerStep slot next)
    (delivered : slot.Delivered chunks) : next.Delivered chunks := by
  rw [ResponseSlot.Delivered, produced.received_eq]
  exact delivered

/-! ## The writer -/

namespace ClientWriter

/-- `part` is what the writer has put on the socket for the slot it works
on. -/
def Part : ClientWriter → Bytes → Prop
  | waiting, part => part = []
  | finished, part => part = []
  | draining slot, part => ∃ chunks, slot.Delivered chunks ∧ part = chunks.flatten
  | writing slot rest, part => ∃ chunks, slot.Delivered chunks ∧ part ++ rest = chunks.flatten
  | broken slot, part => part <+: slot.response

theorem Part.of_delivered {slot : ResponseSlot} {chunks : List Bytes}
    {part rest : Bytes} (delivered : slot.Delivered chunks)
    (split : part ++ rest = chunks.flatten) :
    part <+: slot.response := by
  rw [delivered.response_eq, ← split, append_assoc]
  exact prefix_append _ _

theorem Part.begins {writer : ClientWriter} {part : Bytes} (isPart : writer.Part part) :
    match writer.slot with
    | none => part = []
    | some slot => part <+: slot.response := by
  cases writer with
  | waiting | finished | broken slot => exact isPart
  | draining slot =>
    obtain ⟨chunks, delivered, rfl⟩ := isPart
    exact of_delivered delivered (append_nil chunks.flatten)
  | writing slot rest =>
    obtain ⟨chunks, delivered, split⟩ := isPart
    exact of_delivered delivered split

end ClientWriter

namespace ClientConnection

structure InOrder (connection : ClientConnection) : Prop where
  clean : ∀ slot ∈ connection.completed, endsCleanly slot.events.sent = true
  untouched : ∀ slot ∈ connection.queue, slot.Delivered []
  numbered : connection.slots.map (·.request) = List.range connection.issued
  written : ∃ part,
    connection.written = connection.completed.flatMap (·.response) ++ part ∧
      connection.writer.Part part

theorem inOrder_initial : InOrder {} :=
  { clean := by simp
    untouched := by simp
    numbered := rfl
    written := ⟨[], rfl, rfl⟩ }

variable {connection : ClientConnection}

/-- Steps that change neither the completed slots nor the bytes only have to
account for the writer. -/
theorem InOrder.of_writer (ordered : InOrder connection) {old writer : ClientWriter}
    (stands : connection.writer = old)
    (sameRequest : writer.slot.map (·.request) = old.slot.map (·.request))
    (part : ∀ part, old.Part part → writer.Part part) :
    InOrder { connection with writer } := by
  subst stands
  obtain ⟨delivered, split, isPart⟩ := ordered.written
  refine
    { clean := ordered.clean
      untouched := ordered.untouched
      numbered := ?_
      written := ⟨delivered, split, part delivered isPart⟩ }
  rw [← ordered.numbered]
  simp only [slots, map_append, ← Option.toList_map, sameRequest]

variable {before after : ClientConnection}

theorem InOrder.step (ordered : InOrder before) (step : Step before after) :
    InOrder after := by
  cases step with
  | @pushSlot queued templates workerEvents toSend capacity holds alive room producer =>
      refine
        { clean := ordered.clean
          untouched := ?_
          numbered := ?_
          written := ordered.written }
      · intro slot member
        rcases mem_append.mp member with old | new
        · exact ordered.untouched slot old
        · cases mem_singleton.mp new
          rfl
      · have numbered := ordered.numbered
        simp only [slots, map_append] at numbered
        simp only [slots, map_append, range_succ, ← numbered, append_assoc]
        rfl
  | closeQueue =>
    exact
      { clean := ordered.clean
        untouched := ordered.untouched
        numbered := ordered.numbered
        written := ordered.written }
  | @produceQueued front back slot next queued produced =>
    refine
      { clean := ordered.clean
        untouched := ?_
        numbered := ?_
        written := ordered.written }
    · intro other member
      rcases mem_append.mp member with inFront | inRest
      · exact ordered.untouched other (by simp [queued, inFront])
      · rcases mem_cons.mp inRest with rfl | inBack
        · exact produced.delivered (ordered.untouched slot (by simp [queued]))
        · exact ordered.untouched other (by simp [queued, inBack])
    · rw [← ordered.numbered]
      simp [slots, queued, produced.request_eq]
  | @produceDraining slot next stands produced | @produceWriting slot next rest stands produced =>
    refine ordered.of_writer stands (by simp [ClientWriter.slot, produced.request_eq]) ?_
    rintro part ⟨chunks, delivered, equality⟩
    exact ⟨chunks, produced.delivered delivered, equality⟩
  | @takeSlot slot others stands queued =>
    obtain ⟨part, split, isPart⟩ := ordered.written
    rw [stands] at isPart
    refine
      { clean := ordered.clean
        untouched := fun other member =>
          ordered.untouched other (by simp [queued, member])
        numbered := ?_
        written := ⟨part, split, [], ordered.untouched slot (by simp [queued]), isPart⟩ }
    rw [← ordered.numbered]
    simp [slots, queued, stands, ClientWriter.slot]
  | queueEnds stands empty closed | dropWaiting stands =>
    exact ordered.of_writer stands rfl fun _ isPart => isPart
  | @receiveChunk slot bytes events stands received =>
    refine ordered.of_writer stands rfl ?_
    rintro part ⟨chunks, delivered, equality⟩
    refine ⟨chunks ++ [bytes], ?_, by simp [equality]⟩
    rw [ResponseSlot.Delivered, received_of_recv received, delivered]
    simp
  | @receiveDone slot events stands received =>
    obtain ⟨part, split, isPart⟩ := ordered.written
    rw [stands] at isPart
    obtain ⟨chunks, delivered, rfl⟩ := isPart
    have sent : events.sent = chunks.map .chunk ++ .done :: events.buffered := by
      rw [sent, received_of_recv received, delivered]
      simp
    refine
      { clean := ?_
        untouched := ordered.untouched
        numbered := ?_
        written := ⟨[], ?_, rfl⟩ }
    · intro other member
      rcases mem_append.mp member with old | new
      · exact ordered.clean other old
      · cases mem_singleton.mp new
        rw [sent, endsCleanly_chunks, endsCleanly]
    · rw [← ordered.numbered]
      simp [slots, stands, ClientWriter.slot]
    · rw [split]
      simp [ResponseSlot.response, sent, responseBytes_chunks, responseBytes]
  | @receiveAbort slot events stands received =>
    refine ordered.of_writer stands rfl ?_
    rintro part ⟨chunks, delivered, rfl⟩
    rw [ClientWriter.Part, ResponseSlot.response, sent_of_recv received]
    exact ClientWriter.Part.of_delivered delivered (append_nil chunks.flatten)
  | @slotEnds slot stands ended | @dropDraining slot stands =>
    refine ordered.of_writer stands rfl ?_
    rintro part ⟨chunks, delivered, rfl⟩
    exact ClientWriter.Part.of_delivered delivered (append_nil chunks.flatten)
  | @writeSome slot piece rest stands =>
    obtain ⟨part, split, isPart⟩ := ordered.written
    rw [stands] at isPart
    obtain ⟨chunks, delivered, equality⟩ := isPart
    refine
      { clean := ordered.clean
        untouched := ordered.untouched
        numbered := ?_
        written := ⟨part ++ piece, by rw [split, append_assoc],
          chunks, delivered, by rw [← equality, append_assoc]⟩ }
    rw [← ordered.numbered]
    simp [slots, stands, ClientWriter.slot]
  | @writeReturns slot stands =>
    refine ordered.of_writer stands rfl ?_
    rintro part ⟨chunks, delivered, equality⟩
    exact ⟨chunks, delivered, by simpa using equality⟩
  | @writeFails slot rest stands =>
    refine ordered.of_writer stands rfl ?_
    rintro part ⟨chunks, delivered, equality⟩
    exact ClientWriter.Part.of_delivered delivered equality

theorem InOrder.steps (ordered : InOrder before) (steps : Steps before after) :
    InOrder after := by
  induction steps with
  | refl => exact ordered
  | tail _ step ih => exact ih.step step

/-! ## After the end of the writer -/

theorem Step.frozen (step : Step before after) (stopped : before.writer.isAlive = false) :
    after.writer = before.writer ∧ after.written = before.written := by
  cases step with
  | pushSlot | closeQueue | produceQueued => exact ⟨rfl, rfl⟩
  | produceDraining stands | produceWriting stands | takeSlot stands | queueEnds stands
  | receiveChunk stands | receiveDone stands | receiveAbort stands | slotEnds stands
  | writeSome stands | writeReturns stands | writeFails stands | dropDraining stands
  | dropWaiting stands => simp [stands, ClientWriter.isAlive] at stopped

theorem Steps.frozen (steps : Steps before after) (stopped : before.writer.isAlive = false) :
    after.writer = before.writer ∧ after.written = before.written := by
  induction steps with
  | refl => exact ⟨rfl, rfl⟩
  | tail _ step ih =>
    obtain ⟨writer, written⟩ := ih
    obtain ⟨nextWriter, nextWritten⟩ := step.frozen (writer ▸ stopped)
    exact ⟨nextWriter.trans writer, nextWritten.trans written⟩

/-! ## Every interleaving -/

theorem InOrder.completed_isPrefix (ordered : InOrder connection)
    {before after : List ResponseSlot} {slot : ResponseSlot}
    (split : connection.slots = before ++ slot :: after)
    (unclean : endsCleanly slot.events.sent = false) :
    ∃ others, before = connection.completed ++ others ∧
      connection.writer.slot.toList ++ connection.queue = others ++ slot :: after := by
  rw [slots, append_assoc] at split
  rcases append_eq_append_iff.mp split with
    ⟨others, front, back⟩ | ⟨others, front, back⟩
  · exact ⟨others, front, back⟩
  cases others with
  | nil => exact ⟨[], by simpa using front.symm, by simpa using back.symm⟩
  | cons first others =>
    have same : first = slot := by
      simp only [cons_append, List.cons.injEq] at back
      exact back.1.symm
    have clean := ordered.clean first (by simp [front])
    rw [same, unclean] at clean
    contradiction

/-- Nothing of the slots behind an unclean slot has been written. -/
theorem InOrder.written_isPrefix (ordered : InOrder connection)
    {before after : List ResponseSlot} {slot : ResponseSlot}
    (split : connection.slots = before ++ slot :: after)
    (unclean : endsCleanly slot.events.sent = false) :
    connection.written <+: (before ++ [slot]).flatMap (·.response) := by
  obtain ⟨others, rfl, rest⟩ := ordered.completed_isPrefix split unclean
  obtain ⟨part, written, isPart⟩ := ordered.written
  rw [written, append_assoc, flatMap_append]
  apply (prefix_append_right_inj _).mpr
  have started := isPart.begins
  cases current : connection.writer.slot with
  | none =>
    rw [current] at started
    rw [started]
    exact nil_prefix
  | some writing =>
    rw [current] at started rest
    have first : (others ++ [slot]).head? = some writing := by
      have heads := congrArg head? rest
      cases others with
      | nil => simpa using heads.symm
      | cons other others => simpa using heads.symm
    obtain ⟨later, whole⟩ : ∃ later, others ++ [slot] = writing :: later := by
      cases listed : others ++ [slot] with
      | nil => simp [listed] at first
      | cons other later =>
        have same : other = writing := by simpa [listed] using first
        exact ⟨later, by rw [same]⟩
    rw [whole, flatMap_cons]
    exact started.trans (prefix_append _ _)

/-- The bytes on the socket are the responses of the completed slots in the
order of the requests and a beginning of the response being written; a slot
that has not ended cleanly holds back every later one; and once the writer has
given up on a slot nothing is written any more. -/
theorem responses_in_request_order {connection : ClientConnection} (reached : Steps {} connection) :
    connection.slots.map (·.request) = List.range connection.issued ∧
      (∀ slot ∈ connection.completed, endsCleanly slot.events.sent = true) ∧
      (∃ part,
        connection.written = connection.completed.flatMap (·.response) ++ part ∧
          match connection.writer.slot with
          | none => part = []
          | some slot => part <+: slot.response) ∧
      (∀ before slot after, connection.slots = before ++ slot :: after →
        endsCleanly slot.events.sent = false →
          connection.written <+: (before ++ [slot]).flatMap (·.response)) ∧
      (∀ slot, connection.writer = .broken slot →
        ∀ later, Steps connection later → later.written = connection.written) := by
  have ordered := inOrder_initial.steps reached
  obtain ⟨part, written, isPart⟩ := ordered.written
  refine ⟨ordered.numbered, ordered.clean, ⟨part, written, isPart.begins⟩,
    fun _ _ _ split unclean => ordered.written_isPrefix split unclean, ?_⟩
  intro slot broken later steps
  have stopped : connection.writer.isAlive = false := by
    rw [broken]
    rfl
  exact (Steps.frozen steps stopped).2

/-- Two answers of the reader itself; the first is cut off by a failing write. -/
theorem responses_in_request_order_cutOff :
    ∃ connection, Steps {} connection ∧ connection.written = [79] ∧
      connection.slots.map (·.request) = [0, 1] ∧
        ∀ later, Steps connection later → later.written = [79] := by
  let opened : ResponseSlot := .fresh 0 2 [.chunk [79, 75], .done]
  let second : ResponseSlot := .fresh 1 2 [.chunk [88], .done]
  let sending : ResponseSlot :=
    { opened with
      toSend := [.done]
      events := opened.events.push (.chunk [79, 75]) }
  let taken : ResponseSlot :=
    { sending with
      events :=
        { sending.events with
          buffered := []
          received := [.chunk [79, 75]] } }
  let both : ClientConnection := { issued := 2, queue := [second] }
  have pushed : Steps {} { issued := 1, queue := [opened] } :=
    .single (@Step.pushSlot {} (.response [79, 75]) (fun _ => []) [] _ 2 rfl rfl (by decide) rfl)
  have sent : Steps {} { issued := 1, queue := [sending] } :=
    pushed.tail (@Step.produceQueued _ [] [] opened sending rfl (.send rfl rfl Nat.zero_lt_two))
  have taking : Steps {} { issued := 1, writer := .draining sending } :=
    sent.tail (.takeSlot rfl rfl)
  have draining : Steps {} { both with writer := .draining sending } :=
    taking.tail (@Step.pushSlot _ (.response [88]) (fun _ => []) [] _ 2 rfl rfl (by decide) rfl)
  have writing : Steps {} { both with writer := .writing taken [79, 75] } :=
    draining.tail (.receiveChunk rfl rfl)
  have partly : Steps {} { both with writer := .writing taken [75], written := [79] } :=
    writing.tail (@Step.writeSome _ taken [79] [75] rfl)
  have reached : Steps {} { both with writer := .broken taken, written := [79] } :=
    partly.tail (.writeFails rfl)
  have ordered := responses_in_request_order reached
  exact ⟨_, reached, rfl, ordered.1, ordered.2.2.2.2 taken rfl⟩

end ClientConnection

end ReverseProxy
