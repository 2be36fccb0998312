import ReverseProxy.OAuth.OAuthCore

/-!
# Responses the proxy writes itself

`Http1ResponseBuilder` puts a status line, the given headers and a
`content-length` in front of a body.
-/

namespace ReverseProxy

/-- `StatusCode::canonical_reason` of the `http` crate. -/
def canonicalReason : Nat → Option String
  | 100 => some "Continue"
  | 101 => some "Switching Protocols"
  | 102 => some "Processing"
  | 200 => some "OK"
  | 201 => some "Created"
  | 202 => some "Accepted"
  | 203 => some "Non Authoritative Information"
  | 204 => some "No Content"
  | 205 => some "Reset Content"
  | 206 => some "Partial Content"
  | 207 => some "Multi-Status"
  | 208 => some "Already Reported"
  | 226 => some "IM Used"
  | 300 => some "Multiple Choices"
  | 301 => some "Moved Permanently"
  | 302 => some "Found"
  | 303 => some "See Other"
  | 304 => some "Not Modified"
  | 305 => some "Use Proxy"
  | 307 => some "Temporary Redirect"
  | 308 => some "Permanent Redirect"
  | 400 => some "Bad Request"
  | 402 => some "Payment Required"
  | 406 => some "Not Acceptable"
  | 407 => some "Proxy Authentication Required"
  | 408 => some "Request Timeout"
  | 409 => some "Conflict"
  | 410 => some "Gone"
  | 411 => some "Length Required"
  | 412 => some "Precondition Failed"
  | 413 => some "Payload Too Large"
  | 414 => some "URI Too Long"
  | 415 => some "Unsupported Media Type"
  | 416 => some "Range Not Satisfiable"
  | 417 => some "Expectation Failed"
  | 418 => some "I'm a teapot"
  | 422 => some "Unprocessable Entity"
  | 423 => some "Locked"
  | 424 => some "Failed Dependency"
  | 425 => some "Too Early"
  | 426 => some "Upgrade Required"
  | 428 => some "Precondition Required"
  | 429 => some "Too Many Requests"
  | 431 => some "Request Header Fields Too Large"
  | 451 => some "Unavailable For Legal Reasons"
  | 500 => some "Internal Server Error"
  | 501 => some "Not Implemented"
  | 504 => some "Gateway Timeout"
  | 505 => some "HTTP Version Not Supported"
  | 506 => some "Variant Also Negotiates"
  | 507 => some "Insufficient Storage"
  | 508 => some "Loop Detected"
  | 510 => some "Not Extended"
  | 511 => some "Network Authentication Required"
  | _ => none

/-- `push_response_first_line` without the line end. -/
def responseFirstLine : Nat → String
  | 200 => "HTTP/1.1 200 OK"
  | 401 => "HTTP/1.1 401 Unauthorized"
  | 403 => "HTTP/1.1 403 Forbidden"
  | 404 => "HTTP/1.1 404 Not Found"
  | 405 => "HTTP/1.1 405 Method Not Allowed"
  | 421 => "HTTP/1.1 421 Misdirected Request"
  | 502 => "HTTP/1.1 502 Bad Gateway"
  | 503 => "HTTP/1.1 503 Service Temporarily Unavailable"
  | other => "HTTP/1.1 " ++ toString other ++ " " ++ (canonicalReason other).getD "Status"

/-- A builder with the given headers, closed by `build_with_body`. -/
def buildWithBody (statusCode : Nat) (headers : List (Str × Str)) (body : Bytes) : Bytes :=
  ascii (responseFirstLine statusCode) ++ httpCrLf ++ (headers.flatMap fun header =>
      asBytes header.1 ++ ascii ": " ++ asBytes header.2 ++ httpCrLf) ++
    ascii ("content-length: " ++ toString body.length) ++ httpCrLf ++
    httpCrLf ++ body

/-- `build_response_bytes` of the OAuth gate. -/
def buildResponseBytes (response : OAuthHttpResponse) : Bytes := buildWithBody response.statusCode
    (("content-type".toList, response.contentType) :: response.headers)
    response.body

/-- The answer of a static location. -/
def StaticContentConfig.response (config : StaticContentConfig) : Bytes :=
  buildWithBody config.statusCode (match config.contentType with
      | some contentType => [("content-type".toList, contentType)]
      | none => [])
    config.body

end ReverseProxy
