import BlockVolume.Text.Charset
import BlockVolume.Text.Blank
/-!
Answers to HTTP requests, as far as a client of short documents looks at them.
-/

namespace BlockVolume.Http

open BlockVolume.Text (Bytes)

/-- How a request ended. -/
inductive Answer where
  | full (status : Nat) (body : Bytes)
  /-- The body ended before its announced length. -/
  | cutShort (status : Nat)
  /-- The connection was closed without an answer. -/
  | closed

/-- What a client says of a connection closed too early. -/
def closedText : String := "connection closed before the answer"

/-- What a client says of a body that ended too early. -/
def cutShortText : String := "end of the body before its announced length"

/-- A status that tells success. -/
def isSuccess (status : Nat) : Bool := 200 ≤ status && status < 300

/-- A status that ends a request: three digits, and not an interim one. -/
def isFinal (status : Nat) : Bool := status == 101 || 200 ≤ status && status < 1000

/-- A status whose answers have no body. -/
def isBodiless (status : Nat) : Bool := status < 200 || status == 204 || status == 304

/-- The answer to what a server sends before it closes: its body counts where the status has one. -/
def Answer.ofServer (status : Nat) (body : Bytes) (isCut : Bool) : Answer :=
  if !isFinal status then .closed
  else if isBodiless status then .full status []
  else if isCut then .cutShort status
  else .full status body

/-- The words for a status. -/
def reason : Nat → String
  | 100 => "Continue"
  | 101 => "Switching Protocols"
  | 102 => "Processing"
  | 200 => "OK"
  | 201 => "Created"
  | 202 => "Accepted"
  | 203 => "Non Authoritative Information"
  | 204 => "No Content"
  | 205 => "Reset Content"
  | 206 => "Partial Content"
  | 207 => "Multi-Status"
  | 208 => "Already Reported"
  | 226 => "IM Used"
  | 300 => "Multiple Choices"
  | 301 => "Moved Permanently"
  | 302 => "Found"
  | 303 => "See Other"
  | 304 => "Not Modified"
  | 305 => "Use Proxy"
  | 307 => "Temporary Redirect"
  | 308 => "Permanent Redirect"
  | 400 => "Bad Request"
  | 401 => "Unauthorized"
  | 402 => "Payment Required"
  | 403 => "Forbidden"
  | 404 => "Not Found"
  | 405 => "Method Not Allowed"
  | 406 => "Not Acceptable"
  | 407 => "Proxy Authentication Required"
  | 408 => "Request Timeout"
  | 409 => "Conflict"
  | 410 => "Gone"
  | 411 => "Length Required"
  | 412 => "Precondition Failed"
  | 413 => "Payload Too Large"
  | 414 => "URI Too Long"
  | 415 => "Unsupported Media Type"
  | 416 => "Range Not Satisfiable"
  | 417 => "Expectation Failed"
  | 418 => "I'm a teapot"
  | 421 => "Misdirected Request"
  | 422 => "Unprocessable Entity"
  | 423 => "Locked"
  | 424 => "Failed Dependency"
  | 426 => "Upgrade Required"
  | 428 => "Precondition Required"
  | 429 => "Too Many Requests"
  | 431 => "Request Header Fields Too Large"
  | 451 => "Unavailable For Legal Reasons"
  | 500 => "Internal Server Error"
  | 501 => "Not Implemented"
  | 502 => "Bad Gateway"
  | 503 => "Service Unavailable"
  | 504 => "Gateway Timeout"
  | 505 => "HTTP Version Not Supported"
  | 506 => "Variant Also Negotiates"
  | 507 => "Insufficient Storage"
  | 508 => "Loop Detected"
  | 510 => "Not Extended"
  | 511 => "Network Authentication Required"
  | _ => "<unknown status code>"

/-- A status by its number and words. -/
def statusText (status : Nat) : String :=
  toString status ++ " " ++ reason status

/-- The trimmed text of a successful answer, nothing where it is empty. -/
def Answer.text? : Answer → Option String
  | .full status body =>
    if isSuccess status then
      let text := String.ofList (Text.trimChars (Text.Charset.decode body))
      if text.isEmpty then none else some text
    else none
  | .cutShort _ | .closed => none

end BlockVolume.Http
