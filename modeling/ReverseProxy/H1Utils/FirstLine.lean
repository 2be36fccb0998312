import ReverseProxy.Rust.Outcome
import ReverseProxy.Rust.Text

/-!
# First line of an HTTP/1.1 head

`verify_http11_first_line` splits the line on Unicode white space, while the
accessors `get_path_and_query` and `get_verb_and_path` look for single space
octets and unwrap what they find.
-/

namespace ReverseProxy

def http11 : Str := "HTTP/1.1".toList

def httpMethods : List Str := ["GET", "POST", "PUT", "DELETE", "HEAD", "OPTIONS", "PATCH", "TRACE",
    "CONNECT", "PRI"].map String.toList

def isValidHttpMethod (method : Str) : Bool := httpMethods.contains method

def isValidStatusCode (status : Str) : Bool :=
  (asBytes status).length == 3 && status.all isAsciiDigit &&
    100 ≤ decimal status && decimal status ≤ 599

def verifyHttp11FirstLine (firstLine : Bytes) : Except String Unit :=
  if firstLine.isEmpty then .error "Empty first line"
  else
    match fromUtf8 firstLine with
    | none => .error "Invalid UTF-8 in first line"
    | some line =>
      match splitWhitespace line with
      | [] => .error "First line contains no tokens"
      | [_] => .error "First line must contain at least 2 tokens"
      | first :: second :: others =>
        if first == http11 then
          if others.isEmpty then
            .error ("Response line must contain at least 3 tokens: " ++ "HTTP/1.1 STATUS REASON")
          else if isValidStatusCode second then .ok ()
          else .error ("Invalid HTTP status code: '" ++ String.ofList second ++ "'")
        else
          match others with
          | [version] =>
            if version != http11 then
              .error ("Invalid HTTP version: '" ++
                String.ofList version ++ "', expected 'HTTP/1.1'")
            else if !isValidHttpMethod first then
              .error ("Invalid HTTP method: '" ++ String.ofList first ++ "'")
            else if second.isEmpty then .error "URI cannot be empty"
            else .ok ()
          | _ =>
            .error ("Request line must contain exactly 3 tokens: " ++ "METHOD URI HTTP/1.1")

/-- The branch `verify_http11_first_line` takes for a status line. -/
def isResponseLine (firstLine : Bytes) : Bool :=
  match fromUtf8 firstLine with
  | none => false
  | some line => (splitWhitespace line).head? == some http11

section

variable [SliceOfU8Ext]

/-- `str::from_utf8(..).unwrap()`. -/
def unwrapUtf8 (bytes : Bytes) : Outcome Str :=
  match fromUtf8 bytes with
  | some text => .ret text
  | none => .panic

/-- `slice.find_byte_pos(octet, start).unwrap()`. -/
def unwrapBytePos (data : Bytes) (octet : UInt8) (start : Nat) : Outcome Nat :=
  match findBytePos data octet start with
  | some pos => .ret pos
  | none => .panic

def getPathAndQuery (firstLine : Bytes) : Outcome Str := do
  let indexStart ← unwrapBytePos firstLine 32 0
  let indexEnd ← unwrapBytePos firstLine 32 (indexStart + 1)
  let path ← slice firstLine (indexStart + 1) indexEnd
  unwrapUtf8 path

def getVerbAndPath (firstLine : Bytes) : Outcome (Str × Str) := do
  let indexStart ← unwrapBytePos firstLine 32 0
  let indexEnd ← unwrapBytePos firstLine 32 (indexStart + 1)
  let verb ← unwrapUtf8 (firstLine.take indexStart)
  let path ← slice firstLine (indexStart + 1) indexEnd
  let path ← unwrapUtf8 path
  return (verb, path)

end

end ReverseProxy
