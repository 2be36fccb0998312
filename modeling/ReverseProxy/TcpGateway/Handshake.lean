import ReverseProxy.TcpGateway.GatewayContracts

/-!
# The handshake of a gateway session

A client presents one signed frame.  Frames and accepted octets correspond one
to one.  The only sign of freshness is the timestamp, and the difference of the
times is taken modulo the machine word.
-/

namespace ReverseProxy

open Library List

abbrev Octets (size : Nat) : Type := { bytes : Bytes // bytes.length = size }

structure ClientHandshakeFrame where
  protocolVersion : UInt8
  clientEphPub : Octets 32
  clientIdPub : Octets 32
  timestampUs : BitVec 64
  gatewayName : Str
  signature : Octets 64
deriving DecidableEq

structure ServerHandshakeFrame where
  protocolVersion : UInt8
  serverEphPub : Octets 32
deriving DecidableEq

def maxGatewayNameLen : Nat := 256

def handshakeTimestampToleranceUs : Int := 60 * 1000000

def signedTranscript (clientEphPub : Octets 32) (timestampUs : BitVec 64)
    (gatewayName : Str) : Bytes :=
  ascii "gateway-handshake-v1:" ++ (clientEphPub.1 ++
    (toLe 8 timestampUs.toNat ++ asBytes gatewayName))

/-- The first octets of a body and the rest. -/
def readArray (size : Nat) (body : Bytes) : Except String (Octets size × Bytes) :=
  if enough : size ≤ body.length then
    .ok (⟨body.take size, by simp [enough]⟩, body.drop size)
  else .error ("ClientHandshake: truncated [u8; " ++ toString size ++ "]")

def readI64 (body : Bytes) : Except String (BitVec 64 × Bytes) := do
  let (octets, rest) ← readArray 8 body
  .ok (.ofNat 64 (fromLe octets.1), rest)

/-- The name behind its length. -/
def readName (body : Bytes) : Except String (Str × Bytes) := do
  let (octets, rest) ← readArray 4 body
  let nameLen := fromLe octets.1
  if maxGatewayNameLen < nameLen then
    .error ("ClientHandshake: gateway_name too long (" ++ toString nameLen ++ ")")
  else if rest.length < nameLen then
    .error "ClientHandshake: truncated gateway_name"
  else
    match fromUtf8 (rest.take nameLen) with
    | none => .error "ClientHandshake: gateway_name is not valid UTF-8"
    | some gatewayName => .ok (gatewayName, rest.drop nameLen)

namespace ClientHandshakeFrame

/-- The frame behind its length. -/
def body (frame : ClientHandshakeFrame) : Bytes :=
  frame.protocolVersion :: (frame.clientEphPub.1 ++ (frame.clientIdPub.1 ++
    (toLe 8 frame.timestampUs.toNat ++ (toLe 4 (asBytes frame.gatewayName).length ++
        (asBytes frame.gatewayName ++ frame.signature.1)))))

def encode (frame : ClientHandshakeFrame) : Bytes := Library.frame frame.body

def decode : Bytes → Except String ClientHandshakeFrame
  | [] => .error "ClientHandshake: truncated u8"
  | protocolVersion :: rest => do
    let (clientEphPub, rest) ← readArray 32 rest
    let (clientIdPub, rest) ← readArray 32 rest
    let (timestampUs, rest) ← readI64 rest
    let (gatewayName, rest) ← readName rest
    let (signature, rest) ← readArray 64 rest
    if rest ≠ [] then .error "ClientHandshake: trailing bytes"
    else
      .ok { protocolVersion, clientEphPub, clientIdPub, timestampUs,
            gatewayName, signature }

/-- What the signature is for. -/
def transcript (frame : ClientHandshakeFrame) : Bytes :=
  signedTranscript frame.clientEphPub frame.timestampUs frame.gatewayName

end ClientHandshakeFrame

namespace ServerHandshakeFrame

def body (frame : ServerHandshakeFrame) : Bytes := frame.protocolVersion :: frame.serverEphPub.1

def encode (frame : ServerHandshakeFrame) : Bytes := Library.frame frame.body

def decode : Bytes → Except String ServerHandshakeFrame
  | [] => .error "ServerHandshake: unexpected length 0 (want 33)"
  | protocolVersion :: rest =>
    if size : rest.length = 32 then .ok ⟨protocolVersion, ⟨rest, size⟩⟩
    else
      .error ("ServerHandshake: unexpected length " ++ toString (rest.length + 1) ++ " (want 33)")

end ServerHandshakeFrame

/-- The difference of two times, as the machine computes it. -/
def validateTimestamp (now timestampUs : BitVec 64) : Except String Unit :=
  let diffUs := (now - timestampUs).abs.toInt
  if handshakeTimestampToleranceUs < diffUs then
    .error ("Handshake timestamp drifted " ++ toString diffUs ++ " us (max " ++
      toString handshakeTimestampToleranceUs ++ ")")
  else .ok ()

/-! ## Codec -/

section

variable {body rest : Bytes}

theorem readArray_eq_ok_iff {size : Nat} {value : Octets size} :
    readArray size body = .ok (value, rest) ↔ body = value.1 ++ rest := by
  unfold readArray
  constructor
  · intro read
    split at read
    · cases read
      exact (take_append_drop size body).symm
    · cases read
  · rintro rfl
    rw [dif_pos (by simp [value.2])]
    simp [take_left' value.2, drop_left' value.2]

theorem readI64_eq_ok_iff {value : BitVec 64} :
    readI64 body = .ok (value, rest) ↔ body = toLe 8 value.toNat ++ rest := by
  constructor
  · intro read
    obtain ⟨⟨octets, rest⟩, cut, read⟩ := bind_eq_ok_iff.mp read
    cases read
    have small : fromLe octets.1 < 2 ^ 64 := by
      have bound := fromLe_lt octets.1
      rwa [octets.2] at bound
    have whole := toLe_fromLe octets.1
    rw [octets.2] at whole
    rw [readArray_eq_ok_iff.mp cut, BitVec.toNat_ofNat, Nat.mod_eq_of_lt small, whole]
  · rintro rfl
    refine bind_eq_ok_iff.mpr ⟨(⟨toLe 8 value.toNat, by simp⟩, rest),
      readArray_eq_ok_iff.mpr rfl, ?_⟩
    have small : value.toNat < 256 ^ 8 := value.isLt
    simp [fromLe_toLe_of_lt small]

theorem readName_eq_ok_iff {name : Str} :
    readName body = .ok (name, rest) ↔
      (asBytes name).length ≤ maxGatewayNameLen ∧
        body = toLe 4 (asBytes name).length ++ (asBytes name ++ rest) := by
  constructor
  · intro read
    obtain ⟨⟨octets, behind⟩, cut, read⟩ := bind_eq_ok_iff.mp read
    dsimp only at read
    split at read
    · cases read
    split at read
    · cases read
    split at read
    · cases read
    cases read
    rename_i short enough _ named
    have octetsOf := asBytes_of_fromUtf8 named
    have size : (asBytes name).length = fromLe octets.1 := by
      rw [octetsOf, length_take]
      omega
    have whole := toLe_fromLe octets.1
    rw [octets.2] at whole
    refine ⟨by omega, ?_⟩
    rw [readArray_eq_ok_iff.mp cut, size, whole, octetsOf, take_append_drop]
  · rintro ⟨fits, rfl⟩
    have small : (asBytes name).length < 256 ^ 4 := Nat.lt_of_le_of_lt fits (by decide)
    refine bind_eq_ok_iff.mpr ⟨(⟨toLe 4 _, by simp⟩, asBytes name ++ rest),
      readArray_eq_ok_iff.mpr rfl, ?_⟩
    dsimp only
    rw [fromLe_toLe_of_lt small, if_neg (by omega), if_neg (by simp),
      take_left, fromUtf8_asBytes, drop_left]

theorem ClientHandshakeFrame.decode_eq_ok_iff {frame : ClientHandshakeFrame} :
    decode body = .ok frame ↔
      (asBytes frame.gatewayName).length ≤ maxGatewayNameLen ∧ body = frame.body := by
  cases body with
  | nil => simp [decode, ClientHandshakeFrame.body]
  | cons protocolVersion rest =>
    constructor
    · intro decoded
      obtain ⟨_, readEph, decoded⟩ := bind_eq_ok_iff.mp decoded
      obtain ⟨_, readId, decoded⟩ := bind_eq_ok_iff.mp decoded
      obtain ⟨_, readTime, decoded⟩ := bind_eq_ok_iff.mp decoded
      obtain ⟨_, readName, decoded⟩ := bind_eq_ok_iff.mp decoded
      obtain ⟨_, readSignature, decoded⟩ := bind_eq_ok_iff.mp decoded
      dsimp only at decoded
      split at decoded
      · cases decoded
      rename_i nothing
      cases decoded
      obtain ⟨fits, name⟩ := readName_eq_ok_iff.mp readName
      refine ⟨fits, ?_⟩
      rw [readArray_eq_ok_iff.mp readEph, readArray_eq_ok_iff.mp readId,
        readI64_eq_ok_iff.mp readTime, name,
        readArray_eq_ok_iff.mp readSignature, not_not.mp nothing,
        append_nil]
      rfl
    · rintro ⟨fits, same⟩
      cases same
      refine bind_eq_ok_iff.mpr ⟨_, readArray_eq_ok_iff.mpr rfl, ?_⟩
      refine bind_eq_ok_iff.mpr ⟨_, readArray_eq_ok_iff.mpr rfl, ?_⟩
      refine bind_eq_ok_iff.mpr ⟨_, readI64_eq_ok_iff.mpr rfl, ?_⟩
      refine bind_eq_ok_iff.mpr ⟨_, readName_eq_ok_iff.mpr ⟨fits, rfl⟩, ?_⟩
      refine bind_eq_ok_iff.mpr ⟨(frame.signature, []), readArray_eq_ok_iff.mpr (by simp), ?_⟩
      rfl

end

theorem signedTranscript_inj {eph otherEph : Octets 32}
    {timestamp otherTimestamp : BitVec 64} {name otherName : Str}
    (same : signedTranscript eph timestamp name =
      signedTranscript otherEph otherTimestamp otherName) :
    eph = otherEph ∧ timestamp = otherTimestamp ∧ name = otherName := by
  have behind := append_cancel_left same
  obtain ⟨sameEph, behind⟩ := append_inj behind (eph.2.trans otherEph.2.symm)
  obtain ⟨sameTime, sameName⟩ := append_inj behind (by simp)
  refine ⟨Subtype.ext sameEph, ?_, asBytes_injective sameName⟩
  have numbers := congrArg fromLe sameTime
  rw [fromLe_toLe_of_lt timestamp.isLt, fromLe_toLe_of_lt otherTimestamp.isLt]
    at numbers
  exact BitVec.eq_of_toNat_eq numbers

/-- How far two times are apart. -/
def drift (now timestampUs : BitVec 64) : Nat := (now.toInt - timestampUs.toInt).natAbs

/-- Two times whose difference does not fit the machine word may look close. -/
theorem validateTimestamp_eq_ok_iff (now timestampUs : BitVec 64) :
    validateTimestamp now timestampUs = .ok () ↔
      drift now timestampUs ≤ 60000000 ∨ drift now timestampUs = 2 ^ 63 ∨
        2 ^ 64 - 60000000 ≤ drift now timestampUs := by
  have nowLow := now.le_toInt
  have nowHigh := now.toInt_lt
  have low := timestampUs.le_toInt
  have high := timestampUs.toInt_lt
  have wrapped : (now - timestampUs).toInt =
      (now.toInt - timestampUs.toInt).bmod (2 ^ 64) := BitVec.toInt_sub ..
  have least : now - timestampUs = BitVec.intMin 64 ↔ (now - timestampUs).toInt = -2 ^ 63 := by
    rw [← BitVec.toInt_inj]
    rfl
  have accepted : validateTimestamp now timestampUs = .ok () ↔
      (now - timestampUs).abs.toInt ≤ 60000000 := by
    unfold validateTimestamp handshakeTimestampToleranceUs
    dsimp only
    split <;> simp <;> omega
  rw [accepted, BitVec.toInt_abs_eq_natAbs, drift]
  split
  · rename_i lowest
    have exactly := least.mp lowest
    have value : (BitVec.intMin 64).toInt = -2 ^ 63 := rfl
    rw [value]
    simp only [Int.bmod_def] at wrapped
    omega
  · rename_i higher
    have inside := mt least.mpr higher
    simp only [Int.bmod_def] at wrapped
    omega

theorem ClientHandshakeFrame.length_body (frame : ClientHandshakeFrame) :
    frame.body.length = 141 + (asBytes frame.gatewayName).length := by
  simp [body, frame.clientEphPub.2, frame.clientIdPub.2, frame.signature.2]
  omega

theorem ServerHandshakeFrame.decode_eq_ok_iff {body : Bytes} {frame : ServerHandshakeFrame} :
    decode body = .ok frame ↔ body = frame.body := by
  cases body with
  | nil => simp [decode, ServerHandshakeFrame.body]
  | cons protocolVersion rest =>
    rw [decode]
    constructor
    · intro decoded
      split at decoded
      · cases decoded
        rfl
      · cases decoded
    · intro same
      cases same
      exact dif_pos frame.serverEphPub.2

/-- The difference of two times is exact unless it is 2^63 or wraps around to
less than the tolerance. -/
theorem handshake_codec_iff (now timestampUs : BitVec 64) :
    (∀ frame : ClientHandshakeFrame, (asBytes frame.gatewayName).length ≤ maxGatewayNameLen →
          ClientHandshakeFrame.decode (frame.encode.drop 4) = .ok frame) ∧
      (∀ body frame, ClientHandshakeFrame.decode body = .ok frame →
        ∀ other : ClientHandshakeFrame, body = other.encode.drop 4 ↔ other = frame) ∧
      (∀ body frame, ServerHandshakeFrame.decode body = .ok frame ↔ body = frame.encode.drop 4) ∧
      (∀ eph otherEph timestamp otherTimestamp name otherName,
        signedTranscript eph timestamp name = signedTranscript otherEph otherTimestamp otherName →
          eph = otherEph ∧ timestamp = otherTimestamp ∧ name = otherName) ∧
      ((validateTimestamp now timestampUs = .ok () ↔ drift now timestampUs ≤ 60000000) ↔
        drift now timestampUs ≠ 2 ^ 63 ∧ drift now timestampUs < 2 ^ 64 - 60000000) := by
  have behind : ∀ body : Bytes, (Library.frame body).drop 4 = body := fun body =>
    drop_left' (length_toLe 4 _)
  refine ⟨fun frame fits => ?_, fun body frame decoded other => ?_,
    fun body frame => ?_, fun _ _ _ _ _ _ => signedTranscript_inj, ?_⟩
  · exact ClientHandshakeFrame.decode_eq_ok_iff.mpr ⟨fits, behind _⟩
  · obtain ⟨fits, same⟩ := ClientHandshakeFrame.decode_eq_ok_iff.mp decoded
    rw [ClientHandshakeFrame.encode, behind]
    constructor
    · intro sameBody
      -- A second frame of these octets has a name of the same length.
      have sizes := congrArg List.length (same.symm.trans sameBody)
      rw [ClientHandshakeFrame.length_body, ClientHandshakeFrame.length_body] at sizes
      have second := ClientHandshakeFrame.decode_eq_ok_iff.mpr
        ⟨Nat.le_trans (by omega) fits, sameBody⟩
      exact Except.ok.inj (second.symm.trans decoded)
    · rintro rfl
      exact same
  · rw [ServerHandshakeFrame.encode, behind]
    exact ServerHandshakeFrame.decode_eq_ok_iff
  · rw [validateTimestamp_eq_ok_iff]
    omega

/-- A time that is 2^63 microseconds away is accepted. -/
theorem distant_timestamp_accepted :
    validateTimestamp 0 (BitVec.intMin 64) = .ok () ∧ drift 0 (BitVec.intMin 64) = 2 ^ 63 := by
  decide +kernel

/-! ## Server -/

/-- Signatures, by what the server asks of them. -/
structure Ed25519 (Key : Type) where
  fromBytes : Octets 32 → Except String Key
  toBytes : Key → Octets 32
  verify : Key → Bytes → Octets 64 → Except String Unit
  toBytes_fromBytes : ∀ {octets key}, fromBytes octets = .ok key → toBytes key = octets

/-- What a peer sends until it closes, when the server looks at its clock, and
how the answer is written. -/
structure Inbound where
  stream : Bytes
  now : BitVec 64
  written : Except String Unit := .ok ()

/-- The name and the frame it came in. -/
structure ServerHandshakeOutcome where
  gatewayName : Str
  client : ClientHandshakeFrame
  now : BitVec 64
deriving DecidableEq

def readHandshakeFrame (stream : Bytes) : Except String Bytes :=
  if stream.length < 4 then .error "Peer closed during handshake"
  else
    let len := fromLe (stream.take 4)
    if len = 0 ∨ 4096 < len then
      .error ("Handshake frame size " ++ toString len ++ " out of range")
    else if stream.length < 4 + len then .error "Peer closed during handshake"
    else .ok ((stream.drop 4).take len)

/-- The frame that a peer presents. -/
def Inbound.frame (inbound : Inbound) : Except String ClientHandshakeFrame := do
  ClientHandshakeFrame.decode (← readHandshakeFrame inbound.stream)

section

variable {Key : Type} (scheme : Ed25519 Key)

def performServerHandshake (authorizedKeys : List Key) (inbound : Inbound) :
    Except String ServerHandshakeOutcome := do
  let client ← inbound.frame
  if client.protocolVersion ≠ 1 then
    .error ("ClientHandshake: unsupported protocol_version " ++ toString client.protocolVersion)
  else
    validateTimestamp inbound.now client.timestampUs
    let verifyingKey ← (scheme.fromBytes client.clientIdPub).mapError
      ("ClientHandshake: invalid Ed25519 public key bytes: " ++ ·)
    if !authorizedKeys.any (scheme.toBytes · == scheme.toBytes verifyingKey) then
      .error "ClientHandshake: client_id_pub is not in authorized_keys"
    else
      (scheme.verify verifyingKey client.transcript client.signature).mapError
        ("Signature verification failed: " ++ ·)
      inbound.written
      .ok ⟨client.gatewayName, client, inbound.now⟩

/-- The session that is registered for a peer. -/
def handleInbound (authorizedKeys : Option (List Key)) (inbound : Inbound) :
    Option ServerHandshakeOutcome :=
  match authorizedKeys with
  | none => none
  | some keys =>
    match performServerHandshake scheme keys inbound with
    | .error _ => none
    | .ok outcome => some outcome

/-- The key and what its owner signed. -/
def ClientHandshakeFrame.signedMessage (frame : ClientHandshakeFrame) : Octets 32 × Bytes :=
  (frame.clientIdPub, frame.transcript)

/-- The message that a peer presents within the skew. -/
def Inbound.freshMessage (inbound : Inbound) : Option (Octets 32 × Bytes) :=
  (inbound.frame.toOption.filter fun frame =>
    drift inbound.now frame.timestampUs ≤ 60000000).map (·.signedMessage)

theorem handleInbound_registered {authorizedKeys : Option (List Key)}
    {inbound : Inbound} {session : ServerHandshakeOutcome}
    (registered : handleInbound scheme authorizedKeys inbound = some session) :
    inbound.frame = .ok session.client ∧ session.gatewayName = session.client.gatewayName ∧
      session.now = inbound.now ∧
      validateTimestamp inbound.now session.client.timestampUs = .ok () ∧
      ∃ keys key, authorizedKeys = some keys ∧
        session.client.clientIdPub ∈ keys.map scheme.toBytes ∧
        scheme.toBytes key = session.client.clientIdPub ∧
        scheme.verify key session.client.transcript session.client.signature = .ok () := by
  cases authorizedKeys with
  | none => cases registered
  | some keys =>
    rw [handleInbound] at registered
    split at registered
    · cases registered
    rename_i performed
    cases registered
    obtain ⟨client, framed, performed⟩ := bind_eq_ok_iff.mp performed
    split at performed
    · cases performed
    obtain ⟨_, fresh, performed⟩ := bind_eq_ok_iff.mp performed
    obtain ⟨key, parsed, performed⟩ := bind_eq_ok_iff.mp performed
    split at performed
    · cases performed
    rename_i authorized
    obtain ⟨_, verified, performed⟩ := bind_eq_ok_iff.mp performed
    obtain ⟨_, _, performed⟩ := bind_eq_ok_iff.mp performed
    cases performed
    have same := scheme.toBytes_fromBytes (mapError_eq_ok_iff.mp parsed)
    refine ⟨framed, rfl, rfl, fresh, keys, key, rfl, ?_, same, mapError_eq_ok_iff.mp verified⟩
    simpa [← same, Subtype.ext_iff] using authorized

/-- Every session comes from a message that the owner of an authorized key
signed for its name, and from one of its own as long as no message is presented
twice while it is fresh. -/
theorem registered_sessions_authentic (authorizedKeys : Option (List Key))
    (signed : Octets 32 × Bytes → Prop) (inbound : List Inbound)
    (unforgeable : ∀ (key : Key) message signature, scheme.verify key message signature = .ok () →
        signed (scheme.toBytes key, message))
    (comparable : ∀ peer ∈ inbound, ∀ frame ∈ peer.frame.toOption,
      drift peer.now frame.timestampUs ≠ 2 ^ 63 ∧
        drift peer.now frame.timestampUs < 2 ^ 64 - 60000000)
    (distinct : (inbound.filterMap Inbound.freshMessage).Nodup) :
    (∀ session ∈ inbound.filterMap (handleInbound scheme authorizedKeys),
      (∃ keys, authorizedKeys = some keys ∧ session.client.clientIdPub ∈ keys.map scheme.toBytes) ∧
      signed (session.client.clientIdPub, signedTranscript session.client.clientEphPub
          session.client.timestampUs session.gatewayName) ∧
      drift session.now session.client.timestampUs ≤ 60000000) ∧
    ((inbound.filterMap (handleInbound scheme authorizedKeys)).map
      (·.client.signedMessage)).Nodup := by
  have near : ∀ peer ∈ inbound, ∀ session,
      handleInbound scheme authorizedKeys peer = some session →
        drift peer.now session.client.timestampUs ≤ 60000000 := by
    intro peer presented session registered
    obtain ⟨framed, _, _, fresh, _⟩ := handleInbound_registered scheme registered
    have accepted := (validateTimestamp_eq_ok_iff _ _).mp fresh
    have exact := comparable peer presented session.client (by rw [framed]; rfl)
    omega
  have freshly : ∀ peer ∈ inbound, ∀ session,
      handleInbound scheme authorizedKeys peer = some session →
        peer.freshMessage = some session.client.signedMessage := by
    intro peer presented session registered
    have inside := near peer presented session registered
    rw [Inbound.freshMessage, (handleInbound_registered scheme registered).1]
    simp [Except.toOption, inside]
  constructor
  · intro session member
    obtain ⟨peer, presented, registered⟩ := mem_filterMap.mp member
    obtain ⟨_, named, timed, _, keys, key, configured, authorized,
      same, verified⟩ := handleInbound_registered scheme registered
    refine ⟨⟨keys, configured, authorized⟩, ?_, ?_⟩
    · rw [named, ← same]
      exact unforgeable _ _ _ verified
    · rw [timed]
      exact near peer presented session registered
  · rw [List.Nodup, pairwise_filterMap] at distinct
    rw [List.Nodup, pairwise_map, pairwise_filterMap]
    refine distinct.imp_of_mem fun first second apart session registered other later => ?_
    exact apart _ (freshly _ first _ registered) _ (freshly _ second _ later)

end

/-- A scheme under which these messages were signed. -/
def signatures (messages : List Bytes) : Ed25519 (Octets 32) where
  fromBytes := .ok
  toBytes key := key
  verify _ presented _ :=
    if presented ∈ messages then .ok () else .error "signature error"
  toBytes_fromBytes := by
    intro octets key parsed
    exact (Except.ok.inj parsed).symm

def recordedHandshake : ClientHandshakeFrame :=
  { protocolVersion := 1
    clientEphPub := ⟨replicate 32 0, by simp⟩
    clientIdPub := ⟨replicate 32 0, by simp⟩
    timestampUs := 0
    gatewayName := ['a']
    signature := ⟨replicate 64 0, by simp⟩ }

/-- Two messages are presented, and the first one again when it is stale. -/
theorem stale_message_not_registered_again :
    let other := { recordedHandshake with gatewayName := ['b'] }
    let messages := [recordedHandshake.transcript, other.transcript]
    let peers : List Inbound := [⟨recordedHandshake.encode, 0, .ok ()⟩,
      ⟨other.encode, 0, .ok ()⟩, ⟨recordedHandshake.encode, 60000001, .ok ()⟩]
    let sessions := peers.filterMap
      (handleInbound (signatures messages) (some [recordedHandshake.clientIdPub]))
    sessions.map (·.client) = [recordedHandshake, other] ∧
      (sessions.map (·.client.signedMessage)).Nodup := by
  intro other messages peers
  refine ⟨by decide +kernel, (registered_sessions_authentic (signatures messages) _
    (fun presented => presented.2 ∈ messages) peers ?_ (by decide +kernel) (by decide +kernel)).2⟩
  intro key message signature verified
  by_contra unsigned
  exact nomatch (if_neg unsigned).symm.trans verified

/-- A recorded handshake is accepted again within the minute. -/
theorem replayed_handshake_registered :
    let scheme := signatures [recordedHandshake.transcript]
    let peers : List Inbound := [⟨recordedHandshake.encode, 0, .ok ()⟩,
      ⟨recordedHandshake.encode, 60000000, .ok ()⟩]
    (peers.filterMap (handleInbound scheme (some [recordedHandshake.clientIdPub]))).map
        (·.client) = [recordedHandshake, recordedHandshake] := by
  decide +kernel

end ReverseProxy
