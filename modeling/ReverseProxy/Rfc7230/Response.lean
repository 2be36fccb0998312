import ReverseProxy.Rfc7230.ChunkedBody

/-!
# Response messages of RFC 7230

Where a response ends depends on the request it answers and on its status
code before its header fields are looked at, and without a length it ends
where the connection does.
-/

namespace ReverseProxy.Rfc7230

/-- `status-line = HTTP-version SP status-code SP reason-phrase`. -/
def statusCode (line : Bytes) : Option Nat :=
  if line.take 9 = ascii "HTTP/1.1 " ∧ (line.drop 12).head? = some 32 then
    contentLengthNumber ((line.drop 9).take 3)
  else none

/-- The method of a request head. -/
def requestMethod (head : Bytes) : Bytes := head.takeWhile (· != 32)

def Interim (head : MessageHead) : Prop :=
  ∃ status, statusCode head.firstLine = some status ∧ status < 200

/-- Rules 1 and 2 of section 3.3.3. -/
def bodyForbidden (method : Bytes) (status : Nat) : Bool :=
  method == ascii "HEAD" || status < 200 || status == 204 || status == 304 ||
    (method == ascii "CONNECT" && status < 300)

inductive ResponseFraming where
  | body (length : BodyLength)
  | untilClose
deriving DecidableEq, Repr

/-- Rules 1 to 5 and 7 of section 3.3.3, from the values of the two framing
fields. -/
def responseBody (method : Bytes) (status : Nat)
    (encodings lengths : List Bytes) : Option ResponseFraming :=
  if bodyForbidden method status then some (.body (.length 0))
  else if encodings ≠ [] then
    if finalCodingChunked encodings then some (.body .chunked)
    else some .untilClose
  else if lengths = [] then some .untilClose
  else (agreedLength lengths).map fun size => .body (.length size)

/-- The body of a response, with `rest` behind it until the connection is
closed. -/
def ResponseBodyIs : ResponseFraming → Bytes → Bytes → Prop
  | .body length, body, _ => MessageBody length body
  | .untilClose, _, rest => rest = []

/-- With this status line and these framing values, `body` is the complete
body of a final response. -/
def FinalBody (method firstLine : Bytes) (encodings lengths : List Bytes)
    (body rest : Bytes) : Prop :=
  ∃ status framing, statusCode firstLine = some status ∧ 200 ≤ status ∧
    responseBody method status encodings lengths = some framing ∧ ResponseBodyIs framing body rest

/-- `head` and `body` are a complete final response to a request with the
given method. -/
def FinalResponse (method : Bytes) (head : MessageHead) (body rest : Bytes) :
    Prop :=
  FinalBody method head.firstLine (fieldValues transferEncodingHeader head.lines)
    (fieldValues contentLenHeader head.lines) body rest

theorem FinalBody.not_interim {method : Bytes} {head : MessageHead}
    {encodings lengths : List Bytes} {body rest : Bytes}
    (final : FinalBody method head.firstLine encodings lengths body rest) :
    ¬ Interim head := by
  rintro ⟨status, code, interim⟩
  obtain ⟨other, _, sameCode, isFinal, _⟩ := final
  rw [code] at sameCode
  cases sameCode
  omega

end ReverseProxy.Rfc7230
