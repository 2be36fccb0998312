import ReverseProxy.Library.Frames
import ReverseProxy.Rust.Outcome
import ReverseProxy.Rust.Text

/-!
# Contracts of the gateway protocol

`to_plain_frame` writes a contract as a type octet and a payload behind their
length.  Two durations lose precision: a connect timeout travels in one octet of
seconds, a ping time in microseconds.
-/

namespace ReverseProxy

open Library Outcome List

/-- `std::time::Duration`. -/
structure Duration where
  nanos : Nat
deriving DecidableEq, Repr

namespace Duration

def fromSecs (secs : Nat) : Duration := { nanos := secs * 1000000000 }

def fromMicros (micros : Nat) : Duration := { nanos := micros * 1000 }

def asSecs (duration : Duration) : Nat := duration.nanos / 1000000000

def asMicros (duration : Duration) : Nat := duration.nanos / 1000

end Duration

inductive GetFileStatus where
  | ok
  | error
deriving DecidableEq, Repr

namespace GetFileStatus

def asU8 : GetFileStatus → UInt8
  | ok => 0
  | error => 1

def fromU8 (value : UInt8) : GetFileStatus :=
  if value = 0 then ok else error

end GetFileStatus

inductive TcpGatewayContract where
  | connect (connectionId : UInt32) (timeout : Duration) (remoteHost : Str)
  | connected (connectionId : UInt32)
  | connectionError (connectionId : UInt32) (error : Str)
  | forwardPayload (connectionId : UInt32) (payload : Bytes)
  | backwardPayload (connectionId : UInt32) (payload : Bytes)
  | ping
  | pong
  | updatePingTime (duration : Duration)
  | getFileRequest (path : Str) (requestId : UInt32)
  | getFileResponse (requestId : UInt32) (status : GetFileStatus) (content : Bytes)
  | syncSslCertificates (certId : Str) (certPem privateKeyPem : Bytes)
  | syncSslCertificatesRequest (certIds : List Str)
  | syncSslCertificateNotFound (certId : Str)
deriving DecidableEq, Repr

def pingPacketId : UInt8 := 0
def pongPacketId : UInt8 := 1
def connectPacketId : UInt8 := 3
def connectOkPacketId : UInt8 := 4
def connectionErrorPacketId : UInt8 := 5
def sendPayloadPacketId : UInt8 := 6
def receivePayloadPacketId : UInt8 := 7
def updatePingTimePacketId : UInt8 := 8
def getFileRequestPacketId : UInt8 := 9
def getFileResponsePacketId : UInt8 := 10
def syncSslCertificatesPacketId : UInt8 := 11
def syncSslCertificatesRequestPacketId : UInt8 := 12
def syncSslCertificateNotFoundPacketId : UInt8 := 13
def compressedBatchPacketId : UInt8 := 20

/-! ## Reading fields -/

variable (payload : Bytes)

/-- `u32::from_le_bytes` of the first four octets, which have to be there. -/
def indexU32 : Outcome UInt32 :=
  if payload.length < 4 then .panic
  else .ret (UInt32.ofNat (fromLe (payload.take 4)))

/-- `payload[index]`. -/
def indexU8 (index : Nat) : Outcome UInt8 :=
  match payload[index]? with
  | some octet => .ret octet
  | none => .panic

def readU32 (offset : Nat) : Except String Nat :=
  if payload.length < offset + 4 then .error "truncated u32"
  else .ok (fromLe ((payload.drop offset).take 4))

def convertToString (packetType : String) :
    Except String Str :=
  if payload = [] then .ok []
  else
    match fromUtf8 payload with
    | some text => .ok text
    | none =>
      .error ("Can not convert path to string during parsing [" ++ packetType ++ "].")

/-- The octets behind the length at `offset`, and where they end. -/
def readField (offset : Nat) (truncated : String) :
    Except String (Bytes × Nat) := do
  let size ← readU32 payload offset
  let stop := offset + 4 + size
  if payload.length < stop then .error truncated
  else .ok ((payload.take stop).drop (offset + 4), stop)

/-- A certificate id in the packet of this name. -/
def readCertId (offset : Nat) (packet : String) :
    Except String (Str × Nat) := do
  let (octets, stop) ← readField payload offset (packet ++ ": truncated cert_id")
  match fromUtf8 octets with
  | some certId => .ok (certId, stop)
  | none => .error (packet ++ ": invalid UTF-8 in cert_id")

def readCertIds (payload : Bytes) : Nat → Nat → Except String (List Str)
  | 0, _ => .ok []
  | count + 1, offset => do
    let (certId, stop) ← readCertId payload offset "CLIENT_SSL_CERT_REQUEST"
    let certIds ← readCertIds payload count stop
    .ok (certId :: certIds)

namespace TcpGatewayContract

/-! ## Both directions -/

/-- The payload of `SYNC_SSL_CERTIFICATE_NOT_FOUND`. -/
def readNotFound (payload : Bytes) : Except String TcpGatewayContract := do
  let (certId, _) ← readCertId payload 0 "SYNC_SSL_CERTIFICATE_NOT_FOUND"
  .ok (syncSslCertificateNotFound certId)

/-- The payload of `SYNC_SSL_CERTIFICATES_REQUEST`. -/
def readRequest (payload : Bytes) : Except String TcpGatewayContract := do
  let count ← readU32 payload 0
  let certIds ← readCertIds payload count 4
  .ok (syncSslCertificatesRequest certIds)

/-- The payload of `SYNC_SSL_CERTIFICATES`. -/
def readCertificates (payload : Bytes) : Except String TcpGatewayContract := do
  let (certId, stop) ← readCertId payload 0 "SERVER_SSL_CERT_PUSH"
  let (certPem, stop) ← readField payload stop "SERVER_SSL_CERT_PUSH: truncated cert_pem"
  let (privateKeyPem, _) ← readField payload stop "SERVER_SSL_CERT_PUSH: truncated private_key_pem"
  .ok (syncSslCertificates certId certPem privateKeyPem)

/-- An inner frame body without its length; a short payload panics.  The vector
for the ids of a request is granted here, however many it announces. -/
def parse (payload : Bytes) : Outcome (Except String TcpGatewayContract) :=
  match payload with
  | [] => .ret (.error "Empty packet")
  | packetType :: payload =>
    if packetType = connectPacketId then do
      let connectionId ← indexU32 payload
      let timeout ← indexU8 payload 4
      return do
        let remoteHost ← convertToString (payload.drop 5) "CONNECT"
        .ok (connect connectionId (.fromSecs timeout.toNat) remoteHost)
    else if packetType = connectOkPacketId then do
      let connectionId ← indexU32 payload
      return .ok (connected connectionId)
    else if packetType = connectionErrorPacketId then do
      let connectionId ← indexU32 payload
      return do
        let error ← convertToString (payload.drop 4) "CONNECTION"
        .ok (connectionError connectionId error)
    else if packetType = sendPayloadPacketId then do
      let connectionId ← indexU32 payload
      return .ok (forwardPayload connectionId (payload.drop 4))
    else if packetType = receivePayloadPacketId then do
      let connectionId ← indexU32 payload
      return .ok (backwardPayload connectionId (payload.drop 4))
    else if packetType = updatePingTimePacketId then
      if payload.length < 8 then .panic
      else
        return .ok (updatePingTime (.fromMicros (fromLe (payload.take 8))))
    else if packetType = getFileRequestPacketId then do
      let requestId ← indexU32 payload
      return do
        let path ← convertToString (payload.drop 4) "GET_FILE_REQUEST"
        .ok (getFileRequest path requestId)
    else if packetType = getFileResponsePacketId then do
      let requestId ← indexU32 payload
      let status ← indexU8 payload 4
      return .ok (getFileResponse requestId (.fromU8 status) (payload.drop 5))
    else if packetType = syncSslCertificateNotFoundPacketId then
      return readNotFound payload
    else if packetType = syncSslCertificatesRequestPacketId then
      return readRequest payload
    else if packetType = syncSslCertificatesPacketId then
      return readCertificates payload
    else if packetType = pingPacketId then return .ok ping
    else if packetType = pongPacketId then return .ok pong
    else if packetType = compressedBatchPacketId then
      return .error ("COMPRESSED_BATCH must be unwrapped by the read loop, " ++ "not by parse()")
    else
      return .error ("Unknown packet type: " ++ toString packetType.toNat)

/-- The inner frame without its length. -/
def body : TcpGatewayContract → Bytes
  | connect connectionId timeout remoteHost =>
    connectPacketId :: (toLe 4 connectionId.toNat ++ timeout.asSecs.toUInt8 :: asBytes remoteHost)
  | connected connectionId => connectOkPacketId :: toLe 4 connectionId.toNat
  | connectionError connectionId error =>
    connectionErrorPacketId :: (toLe 4 connectionId.toNat ++ asBytes error)
  | forwardPayload connectionId payload =>
    sendPayloadPacketId :: (toLe 4 connectionId.toNat ++ payload)
  | backwardPayload connectionId payload =>
    receivePayloadPacketId :: (toLe 4 connectionId.toNat ++ payload)
  | updatePingTime duration =>
    updatePingTimePacketId :: toLe 8 duration.asMicros
  | getFileRequest path requestId =>
    getFileRequestPacketId :: (toLe 4 requestId.toNat ++ asBytes path)
  | getFileResponse requestId status content =>
    getFileResponsePacketId :: (toLe 4 requestId.toNat ++ status.asU8 :: content)
  | syncSslCertificates certId certPem privateKeyPem =>
    syncSslCertificatesPacketId :: (frame (asBytes certId) ++
      (frame certPem ++ frame privateKeyPem))
  | syncSslCertificatesRequest certIds =>
    syncSslCertificatesRequestPacketId :: (toLe 4 certIds.length ++
      certIds.flatMap fun certId => frame (asBytes certId))
  | syncSslCertificateNotFound certId =>
    syncSslCertificateNotFoundPacketId :: frame (asBytes certId)
  | ping => [pingPacketId]
  | pong => [pongPacketId]

def toPlainFrame (contract : TcpGatewayContract) : Bytes := frame contract.body

/-- What arrives of a contract. -/
def asReceived : TcpGatewayContract → TcpGatewayContract
  | connect connectionId timeout remoteHost =>
    connect connectionId (.fromSecs (timeout.asSecs % 256)) remoteHost
  | updatePingTime duration =>
    updatePingTime (.fromMicros (duration.asMicros % 256 ^ 8))
  | contract => contract

/-- The timeout of a connect request is a whole number of seconds that fits an
octet, and a ping time a whole number of microseconds that fits eight. -/
def Exact : TcpGatewayContract → Prop
  | connect _ timeout _ => ∃ secs < 256, timeout = .fromSecs secs
  | updatePingTime duration => ∃ micros < 256 ^ 8, duration = .fromMicros micros
  | _ => True

/-- Every length that is written fits four octets. -/
def FieldsFit : TcpGatewayContract → Prop
  | syncSslCertificates certId certPem privateKeyPem =>
    (asBytes certId).length < 256 ^ 4 ∧ certPem.length < 256 ^ 4 ∧ privateKeyPem.length < 256 ^ 4
  | syncSslCertificatesRequest certIds =>
    certIds.length < 256 ^ 4 ∧ ∀ certId ∈ certIds, (asBytes certId).length < 256 ^ 4
  | syncSslCertificateNotFound certId => (asBytes certId).length < 256 ^ 4
  | _ => True

theorem asReceived_eq_self_iff (contract : TcpGatewayContract) :
    contract.asReceived = contract ↔ contract.Exact := by
  cases contract with
  | connect connectionId timeout remoteHost =>
    simp only [asReceived, Exact, connect.injEq, true_and, and_true]
    constructor
    · intro same
      exact ⟨timeout.asSecs % 256, Nat.mod_lt _ (by decide), same.symm⟩
    · rintro ⟨secs, small, rfl⟩
      simp only [Duration.fromSecs, Duration.asSecs, Duration.mk.injEq]
      omega
  | updatePingTime duration =>
    simp only [asReceived, Exact, updatePingTime.injEq]
    constructor
    · intro same
      exact ⟨duration.asMicros % 256 ^ 8, Nat.mod_lt _ (by decide), same.symm⟩
    · rintro ⟨micros, small, rfl⟩
      simp only [Duration.fromMicros, Duration.asMicros, Duration.mk.injEq]
      omega
  | _ => simp [asReceived, Exact]

end TcpGatewayContract

/-! ## Fields are read back -/

theorem indexU32_toLe (connectionId : UInt32) (rest : Bytes) :
    indexU32 (toLe 4 connectionId.toNat ++ rest) = .ret connectionId := by
  have long : ¬ (toLe 4 connectionId.toNat ++ rest).length < 4 := by
    rw [length_append, length_toLe]
    omega
  have small : connectionId.toNat < 256 ^ 4 := connectionId.toNat_lt
  rw [indexU32, if_neg long, take_left' (length_toLe 4 _),
    fromLe_toLe_of_lt small, UInt32.ofNat_toNat]

theorem indexU8_behind (start rest : Bytes) (octet : UInt8) :
    indexU8 (start ++ octet :: rest) start.length = .ret octet := by
  rw [indexU8, getElem?_append_right (Nat.le_refl _), Nat.sub_self]
  rfl

theorem drop_five (value : Nat) (octet : UInt8) (rest : Bytes) :
    (toLe 4 value ++ octet :: rest).drop 5 = rest := by
  rw [show toLe 4 value ++ octet :: rest = (toLe 4 value ++ [octet]) ++ rest by simp]
  exact drop_left' (by simp)

theorem convertToString_asBytes (text : Str) (packetType : String) :
    convertToString (asBytes text) packetType = .ok text := by
  unfold convertToString
  split
  · rename_i empty
    rw [asBytes_injective (show asBytes text = asBytes [] from empty)]
  · rw [fromUtf8_asBytes]

theorem readU32_behind (start rest : Bytes) {value : Nat} (small : value < 256 ^ 4) :
    readU32 (start ++ (toLe 4 value ++ rest)) start.length = .ok value := by
  have long : ¬ (start ++ (toLe 4 value ++ rest)).length < start.length + 4 := by
    rw [length_append, length_append, length_toLe]
    omega
  rw [readU32, if_neg long, drop_left, take_left' (length_toLe 4 _),
    fromLe_toLe_of_lt small]

theorem readField_behind (start rest : Bytes) {octets : Bytes}
    (small : octets.length < 256 ^ 4) (truncated : String) :
    readField (start ++ (frame octets ++ rest)) start.length truncated =
      .ok (octets, (start ++ frame octets).length) := by
  have size := readU32_behind start (octets ++ rest) small
  have joined : start ++ (frame octets ++ rest) =
      start ++ (toLe 4 octets.length ++ (octets ++ rest)) := by
    simp [frame]
  have stop : start.length + 4 + octets.length = (start ++ frame octets).length := by
    simp [frame, Nat.add_assoc]
  have front : (start ++ (frame octets ++ rest)).take
      (start ++ frame octets).length = start ++ frame octets := by
    rw [← append_assoc, take_left]
  have behind : (start ++ frame octets).drop (start.length + 4) = octets := by
    rw [frame, ← append_assoc]
    exact drop_left' (by simp)
  have fits : ¬ (start ++ (frame octets ++ rest)).length < (start ++ frame octets).length := by
    rw [← append_assoc, length_append]
    omega
  unfold readField
  rw [joined, size, ← joined]
  change (if _ then _ else _) = _
  rw [stop, if_neg fits, front, behind]

theorem readCertId_behind (start rest : Bytes) {certId : Str}
    (small : (asBytes certId).length < 256 ^ 4) (packet : String) :
    readCertId (start ++ (frame (asBytes certId) ++ rest)) start.length packet =
      .ok (certId, (start ++ frame (asBytes certId)).length) := by
  unfold readCertId
  rw [readField_behind start rest small]
  change (match fromUtf8 (asBytes certId) with | some _ => _ | none => _) = _
  rw [fromUtf8_asBytes]

theorem readCertIds_behind (start : Bytes) {certIds : List Str}
    (small : ∀ certId ∈ certIds, (asBytes certId).length < 256 ^ 4) :
    readCertIds (start ++ certIds.flatMap fun certId => frame (asBytes certId))
        certIds.length start.length =
      .ok certIds := by
  induction certIds generalizing start with
  | nil => rfl
  | cons certId certIds ih =>
    have first := readCertId_behind start (certIds.flatMap fun certId => frame (asBytes certId))
      (small certId (by simp)) "CLIENT_SSL_CERT_REQUEST"
    have rest := ih (start ++ frame (asBytes certId))
      (fun other member => small other (by simp [member]))
    rw [append_assoc] at rest
    rw [flatMap_cons, length_cons, readCertIds, first]
    change (readCertIds _ _ _ >>= _) = _
    rw [rest]
    rfl

theorem length_le_flatMap_frame {certIds : List Str} {certId : Str} (member : certId ∈ certIds) :
    (asBytes certId).length ≤ (certIds.flatMap fun certId => frame (asBytes certId)).length := by
  induction certIds with
  | nil => cases member
  | cons other certIds ih =>
    rw [flatMap_cons, length_append]
    rcases mem_cons.mp member with rfl | later
    · rw [frame, length_append]
      omega
    · have bound := ih later
      omega

namespace TcpGatewayContract

theorem readNotFound_frame {certId : Str} (small : (asBytes certId).length < 256 ^ 4) :
    readNotFound (frame (asBytes certId)) = .ok (syncSslCertificateNotFound certId) := by
  have read := readCertId_behind [] [] small "SYNC_SSL_CERTIFICATE_NOT_FOUND"
  rw [nil_append, append_nil, length_nil] at read
  rw [readNotFound, read]
  rfl

theorem readRequest_frames {certIds : List Str} (few : certIds.length < 256 ^ 4)
    (small : ∀ certId ∈ certIds, (asBytes certId).length < 256 ^ 4) :
    readRequest (toLe 4 certIds.length ++ certIds.flatMap fun certId => frame (asBytes certId)) =
      .ok (syncSslCertificatesRequest certIds) := by
  have count := readU32_behind [] (certIds.flatMap fun certId => frame (asBytes certId)) few
  have ids := readCertIds_behind (toLe 4 certIds.length) small
  rw [nil_append, length_nil] at count
  rw [length_toLe] at ids
  rw [readRequest, count]
  change (readCertIds _ certIds.length 4 >>= _) = _
  rw [ids]
  rfl

theorem readCertificates_frames {certId : Str} {certPem privateKeyPem : Bytes}
    (smallId : (asBytes certId).length < 256 ^ 4)
    (smallPem : certPem.length < 256 ^ 4)
    (smallKey : privateKeyPem.length < 256 ^ 4) :
    readCertificates (frame (asBytes certId) ++ (frame certPem ++ frame privateKeyPem)) =
      .ok (syncSslCertificates certId certPem privateKeyPem) := by
  have first := readCertId_behind [] (frame certPem ++ frame privateKeyPem)
    smallId "SERVER_SSL_CERT_PUSH"
  have second := readField_behind (frame (asBytes certId))
    (frame privateKeyPem) smallPem "SERVER_SSL_CERT_PUSH: truncated cert_pem"
  have third := readField_behind (frame (asBytes certId) ++ frame certPem)
    [] smallKey "SERVER_SSL_CERT_PUSH: truncated private_key_pem"
  rw [nil_append, nil_append, length_nil] at first
  rw [append_nil, append_assoc] at third
  rw [readCertificates, first]
  change (readField _ _ _ >>= _) = _
  rw [second]
  change (readField _ _ _ >>= _) = _
  rw [third]
  rfl

theorem fieldsFit_of_small {contract : TcpGatewayContract}
    (small : contract.body.length < 256 ^ 4) : contract.FieldsFit := by
  cases contract with
  | syncSslCertificates certId certPem privateKeyPem =>
    simp only [body, frame, length_cons, length_append, length_toLe] at small
    exact ⟨by omega, by omega, by omega⟩
  | syncSslCertificatesRequest certIds =>
    have amount := length_frames (certIds.map asBytes)
    rw [flatMap_map, length_map] at amount
    simp only [body, length_cons, length_append, length_toLe] at small
    refine ⟨by omega, fun certId member => ?_⟩
    have part := length_le_flatMap_frame member
    omega
  | syncSslCertificateNotFound certId =>
    simp only [body, frame, length_cons, length_append, length_toLe] at small
    exact show (asBytes certId).length < 256 ^ 4 by omega
  | _ => trivial

theorem parse_body {contract : TcpGatewayContract} (fits : contract.FieldsFit) :
    parse contract.body = .ret (.ok contract.asReceived) := by
  cases contract with
  | connect connectionId timeout remoteHost =>
    have octet : timeout.asSecs.toUInt8.toNat = timeout.asSecs % 256 := by
      simp [Nat.toUInt8, UInt8.toNat_ofNat']
    have timeoutAt := indexU8_behind (toLe 4 connectionId.toNat)
      (asBytes remoteHost) timeout.asSecs.toUInt8
    rw [length_toLe] at timeoutAt
    change (indexU32 _ >>= fun _ => indexU8 _ 4 >>= _) = _
    rw [indexU32_toLe, bind_ret, timeoutAt, bind_ret,
      drop_five, convertToString_asBytes, octet]
    rfl
  | connected connectionId =>
    have read := indexU32_toLe connectionId []
    rw [append_nil] at read
    change (indexU32 _ >>= _) = _
    rw [read]
    rfl
  | connectionError connectionId error | getFileRequest path requestId =>
    change (indexU32 _ >>= _) = _
    rw [indexU32_toLe, bind_ret, drop_left' (length_toLe 4 _), convertToString_asBytes]
    rfl
  | forwardPayload connectionId payload | backwardPayload connectionId payload =>
    change (indexU32 _ >>= _) = _
    rw [indexU32_toLe, bind_ret, drop_left' (length_toLe 4 _)]
    rfl
  | ping | pong => rfl
  | updatePingTime duration =>
    have long : ¬ (toLe 8 duration.asMicros).length < 8 := by
      rw [length_toLe]
      omega
    change (if (toLe 8 duration.asMicros).length < 8 then .panic
      else _) = _
    rw [if_neg long, take_of_length_le (by rw [length_toLe]), fromLe_toLe]
    rfl
  | getFileResponse requestId status content =>
    have statusAt := indexU8_behind (toLe 4 requestId.toNat) content status.asU8
    have statusBack : GetFileStatus.fromU8 status.asU8 = status := by
      cases status with
      | ok => rfl
      | error => rfl
    rw [length_toLe] at statusAt
    change (indexU32 _ >>= fun _ => indexU8 _ 4 >>= _) = _
    rw [indexU32_toLe, bind_ret, statusAt, bind_ret, drop_five, statusBack]
    rfl
  | syncSslCertificates certId certPem privateKeyPem =>
    exact congrArg ret (readCertificates_frames fits.1 fits.2.1 fits.2.2)
  | syncSslCertificatesRequest certIds =>
    exact congrArg ret (readRequest_frames fits.1 fits.2)
  | syncSslCertificateNotFound certId =>
    exact congrArg ret (readNotFound_frame fits)

theorem body_head (contract : TcpGatewayContract) :
    ∃ packetType payload, contract.body = packetType :: payload ∧
      packetType ≠ compressedBatchPacketId := by
  cases contract with
  | _ => exact ⟨_, _, rfl, by decide⟩

end TcpGatewayContract

end ReverseProxy
