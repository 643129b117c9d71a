import ServiceDiscovery.Http.MediaType
import ServiceDiscovery.Http.Uri
import ServiceDiscovery.Json
import ServiceDiscovery.Url
import ServiceDiscovery.Duration

namespace ServiceDiscovery.Http

open Text

inductive Method where
  | get | put
deriving DecidableEq, Repr

structure Request where
  method : Method
  url : Url
  token : Option String
  body : Option Json
  timeout : Duration

-- A response; a body that broke off is none.
structure Response where
  status : Nat
  headers : List (String × List UInt8)
  body : Option (List UInt8)
deriving DecidableEq, Repr

inductive Exchange where
  | response (r : Response)
  | silence

namespace Response

def successful (r : Response) : Bool := 200 ≤ r.status && r.status < 300

def header? (r : Response) (name : String) : Option (List UInt8) :=
  (r.headers.find? fun h => equalFold h.1 name).map (·.2)

def isVisible (b : UInt8) : Bool := b == 9 || (0x20 ≤ b && b < 0x7f)

def headerText? (r : Response) (name : String) : Option String := do
  let bytes ← r.header? name
  if bytes.all isVisible then some (.ofList (bytes.map fun b => Char.ofNat b.toNat)) else none

def charset (r : Response) : Charset :=
  ((r.headerText? "content-type").bind fun text => MediaType.charset? text.toList).getD .utf8

def bodyText (tables : Tables) (r : Response) : String :=
  r.body.elim "" fun bytes => .ofList (r.charset.decode tables bytes)

end Response

def statusPhrase? : Nat → Option String
  | 100 => "Continue"
  | 101 => "Switching Protocols"
  | 102 => "Processing"
  | 200 => "OK"
  | 201 => "Created"
  | 202 => "Accepted"
  | 203 => "Non Authoritative Information"
  | 204 => "No Content"
  | 205 => "Reset Content"
  | 206 => "Partial Content"
  | 207 => "Multi-Status"
  | 208 => "Already Reported"
  | 226 => "IM Used"
  | 300 => "Multiple Choices"
  | 301 => "Moved Permanently"
  | 302 => "Found"
  | 303 => "See Other"
  | 304 => "Not Modified"
  | 305 => "Use Proxy"
  | 307 => "Temporary Redirect"
  | 308 => "Permanent Redirect"
  | 400 => "Bad Request"
  | 401 => "Unauthorized"
  | 402 => "Payment Required"
  | 403 => "Forbidden"
  | 404 => "Not Found"
  | 405 => "Method Not Allowed"
  | 406 => "Not Acceptable"
  | 407 => "Proxy Authentication Required"
  | 408 => "Request Timeout"
  | 409 => "Conflict"
  | 410 => "Gone"
  | 411 => "Length Required"
  | 412 => "Precondition Failed"
  | 413 => "Payload Too Large"
  | 414 => "URI Too Long"
  | 415 => "Unsupported Media Type"
  | 416 => "Range Not Satisfiable"
  | 417 => "Expectation Failed"
  | 418 => "I'm a teapot"
  | 421 => "Misdirected Request"
  | 422 => "Unprocessable Entity"
  | 423 => "Locked"
  | 424 => "Failed Dependency"
  | 425 => "Too Early"
  | 426 => "Upgrade Required"
  | 428 => "Precondition Required"
  | 429 => "Too Many Requests"
  | 431 => "Request Header Fields Too Large"
  | 451 => "Unavailable For Legal Reasons"
  | 500 => "Internal Server Error"
  | 501 => "Not Implemented"
  | 502 => "Bad Gateway"
  | 503 => "Service Unavailable"
  | 504 => "Gateway Timeout"
  | 505 => "HTTP Version Not Supported"
  | 506 => "Variant Also Negotiates"
  | 507 => "Insufficient Storage"
  | 508 => "Loop Detected"
  | 510 => "Not Extended"
  | 511 => "Network Authentication Required"
  | _ => none

def statusText (status : Nat) : String :=
  toString status ++ " " ++ (statusPhrase? status).getD "<unknown status code>"

end ServiceDiscovery.Http
