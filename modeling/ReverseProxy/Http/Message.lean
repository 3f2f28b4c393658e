import ReverseProxy.Http.Header

set_option autoImplicit false

namespace ReverseProxy.Http

def method? (s : String) : Option String :=
  if s.toList.isEmpty || !s.toList.all isTokenChar then none else some s

inductive Version where
  | http09
  | http10
  | http11
  | http2
  | http3
deriving DecidableEq, Repr, Inhabited

def Version.text : Version → String
  | .http09 => "HTTP/0.9"
  | .http10 => "HTTP/1.0"
  | .http11 => "HTTP/1.1"
  | .http2 => "HTTP/2.0"
  | .http3 => "HTTP/3.0"

/-- The version of that name; an unknown one is 1.1. -/
def Version.ofText (s : String) : Version :=
  ([Version.http09, .http10, .http2, .http3].find? (·.text == s)).getD .http11

/-- Versions whose connections end after each request unless both sides say otherwise. -/
def Version.isHttp1 (v : Version) : Bool := v == .http10 || v == .http11

abbrev Status := Nat

def status? (n : Nat) : Option Status := if 100 ≤ n ∧ n ≤ 999 then some n else none

def Status.isSuccess (s : Status) : Bool := 200 ≤ s && s < 300

def Status.isRedirection (s : Status) : Bool := 300 ≤ s && s < 400

def reasons : List (Nat × String) :=
  [(100, "Continue"), (101, "Switching Protocols"), (102, "Processing"), (103, "Early Hints"),
    (200, "OK"), (201, "Created"), (202, "Accepted"), (203, "Non Authoritative Information"),
    (204, "No Content"), (205, "Reset Content"), (206, "Partial Content"), (207, "Multi-Status"),
    (208, "Already Reported"), (226, "IM Used"), (300, "Multiple Choices"),
    (301, "Moved Permanently"), (302, "Found"), (303, "See Other"), (304, "Not Modified"),
    (305, "Use Proxy"), (307, "Temporary Redirect"), (308, "Permanent Redirect"),
    (400, "Bad Request"), (401, "Unauthorized"), (402, "Payment Required"), (403, "Forbidden"),
    (404, "Not Found"), (405, "Method Not Allowed"), (406, "Not Acceptable"),
    (407, "Proxy Authentication Required"), (408, "Request Timeout"), (409, "Conflict"),
    (410, "Gone"), (411, "Length Required"), (412, "Precondition Failed"),
    (413, "Payload Too Large"), (414, "URI Too Long"), (415, "Unsupported Media Type"),
    (416, "Range Not Satisfiable"), (417, "Expectation Failed"), (418, "I'm a teapot"),
    (421, "Misdirected Request"), (422, "Unprocessable Entity"), (423, "Locked"),
    (424, "Failed Dependency"), (425, "Too Early"), (426, "Upgrade Required"),
    (428, "Precondition Required"), (429, "Too Many Requests"),
    (431, "Request Header Fields Too Large"), (451, "Unavailable For Legal Reasons"),
    (500, "Internal Server Error"), (501, "Not Implemented"), (502, "Bad Gateway"),
    (503, "Service Unavailable"), (504, "Gateway Timeout"), (505, "HTTP Version Not Supported"),
    (506, "Variant Also Negotiates"), (507, "Insufficient Storage"), (508, "Loop Detected"),
    (510, "Not Extended"), (511, "Network Authentication Required")]

def reason? (s : Status) : Option String := (reasons.find? (·.1 == s)).map Prod.snd

structure Response where
  status : Status
  headers : Headers
  body : Bytes
deriving DecidableEq, Repr, Inhabited

end ReverseProxy.Http
