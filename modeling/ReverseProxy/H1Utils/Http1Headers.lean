import ReverseProxy.H1Utils.FirstLine
import ReverseProxy.H1Utils.HttpHeader

/-!
# Parsing a message head

`Http1Headers::parse` walks the header lines with a last-write-wins
accumulator for the four headers the proxy interprets.
-/

namespace ReverseProxy

inductive HttpContentLength where
  | none
  | known (size : Nat)
  | chunked
deriving DecidableEq, Repr

structure Http1Headers where
  firstLineEnd : Nat
  stop : Nat
  contentLength : HttpContentLength
  hostValue : Option HeaderPosition
  cookieValue : Option HeaderPosition
  upgradeValue : Option HeaderPosition
deriving DecidableEq, Repr

def hostHeader : Bytes := ascii "host"

def cookieHeader : Bytes := ascii "cookie"

def contentLenHeader : Bytes := ascii "content-length"

def transferEncodingHeader : Bytes := ascii "transfer-encoding"

def upgradeHeader : Bytes := ascii "upgrade"

namespace Http1Headers

/-- The mutable locals of the header loop. -/
structure Found where
  hostValue : Option HeaderPosition := none
  cookieValue : Option HeaderPosition := none
  upgradeValue : Option HeaderPosition := none
  contentLength : HttpContentLength := .none

section

variable [StrUtils]

/-- The `transfer-encoding` branch: a value other than `chunked` is ignored. -/
def readTransferEncoding (header : HttpHeader) (found : Found) :
    Outcome (Option Found) := do
  match ← header.getValueAsStr with
  | none => return none
  | some value =>
    if eqCaseInsensitive value "chunked".toList then
      return some { found with contentLength := .chunked }
    else
      return some found

def readContentLength (header : HttpHeader) (found : Found) :
    Outcome (Option Found) := do
  match ← header.getUsizeValue with
  | none => return none
  | some size => return some { found with contentLength := .known size }

/-- The chain of `is_my_header_name` tests for one header line.  The inner
`none` is the early return of the parser. -/
def readHeader (header : HttpHeader) (found : Found) :
    Outcome (Option Found) := do
  if ← header.isMyHeaderName hostHeader then
    return some { found with hostValue := some header.getValue }
  else if ← header.isMyHeaderName cookieHeader then
    return some { found with cookieValue := some header.getValue }
  else if ← header.isMyHeaderName contentLenHeader then
    readContentLength header found
  else if ← header.isMyHeaderName transferEncodingHeader then
    readTransferEncoding header found
  else if ← header.isMyHeaderName upgradeHeader then
    return some { found with upgradeValue := some header.getValue }
  else
    return some found

variable [SliceOfU8Ext]

def parseLoop (src : Bytes) (firstLineEnd : Nat) :
    Nat → Nat → Found → Outcome (Option Http1Headers)
  | 0, _, _ => .diverge
  | fuel + 1, headerStartPos, found =>
    match findSequencePos src httpCrLf headerStartPos with
    | none => .ret none
    | some stop =>
      if stop = headerStartPos then
        .ret (some
          { firstLineEnd
            stop := stop + httpCrLf.length
            contentLength := found.contentLength
            hostValue := found.hostValue
            cookieValue := found.cookieValue
            upgradeValue := found.upgradeValue })
      else
        match HttpHeader.new src headerStartPos stop with
        | none => .ret none
        | some httpHeader => do
          match ← readHeader httpHeader found with
          | none => return none
          | some found =>
            parseLoop src firstLineEnd fuel (stop + httpCrLf.length) found

/-- Every iteration moves past at least the two octets of a line end, so
`src.length` iterations are enough. -/
def parse (src : Bytes) : Outcome (Option Http1Headers) :=
  match findSequencePos src httpCrLf 0 with
  | none => .ret none
  | some firstLineEnd =>
    match verifyHttp11FirstLine (src.take firstLineEnd) with
    | .error _ => .ret none
    | .ok _ =>
      parseLoop src firstLineEnd src.length (firstLineEnd + httpCrLf.length) {}

/-- `get_first_line`. -/
def getFirstLine (headers : Http1Headers) (src : Bytes) : Bytes := src.take headers.firstLineEnd

def findHeaderLoop (src name : Bytes) : Nat → Nat → Outcome (Option Str)
  | 0, _ => .diverge
  | fuel + 1, pos =>
    match findSequencePos src httpCrLf pos with
    | none => .ret none
    | some stop =>
      if stop = pos then .ret none
      else
        match HttpHeader.new src pos stop with
        | none => .ret none
        | some httpHeader => do
          if ← httpHeader.isMyHeaderName name then
            let position := httpHeader.getValue
            let value ← slice src position.start position.stop
            return (fromUtf8 value).map trim
          else
            findHeaderLoop src name fuel (stop + httpCrLf.length)

/-- `find_header_value_str`. -/
def findHeaderValueStr (headers : Http1Headers) (src name : Bytes) : Outcome (Option Str) :=
  findHeaderLoop src name src.length (headers.firstLineEnd + httpCrLf.length)

end

end Http1Headers

end ReverseProxy
