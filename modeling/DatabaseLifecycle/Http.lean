import DatabaseLifecycle.Text.Utf8

/-! What is common to all talk over HTTP: methods, statuses and their phrases. -/

namespace DatabaseLifecycle.Http

/-- What a request asks for. -/
inductive Method where
  /-- Something is shown. -/
  | get
  /-- Something is created. -/
  | post
  /-- Something is deleted. -/
  | delete
  deriving DecidableEq, Repr, Inhabited

/-- The method as it stands in a request. -/
def Method.name : Method → String
  | .get => "GET"
  | .post => "POST"
  | .delete => "DELETE"

/-- The answer to a request. -/
structure Response where
  /-- The status. -/
  status : UInt16
  /-- The bytes that follow it. -/
  body : List UInt8
  deriving DecidableEq, Repr, Inhabited

/-- The answer whose bytes are the form of a text. -/
def Response.ofText (status : UInt16) (text : String) : Response := ⟨status, Text.Utf8.encode text⟩

/-- The phrases of the statuses that have one. -/
def phrases : List (Nat × String) :=
  [(100, "Continue"), (101, "Switching Protocols"), (102, "Processing"), (200, "OK"),
    (201, "Created"), (202, "Accepted"), (203, "Non Authoritative Information"),
    (204, "No Content"), (205, "Reset Content"), (206, "Partial Content"), (207, "Multi-Status"),
    (208, "Already Reported"), (226, "IM Used"), (300, "Multiple Choices"),
    (301, "Moved Permanently"), (302, "Found"), (303, "See Other"), (304, "Not Modified"),
    (305, "Use Proxy"), (307, "Temporary Redirect"), (308, "Permanent Redirect"),
    (400, "Bad Request"), (401, "Unauthorized"), (402, "Payment Required"), (403, "Forbidden"),
    (404, "Not Found"), (405, "Method Not Allowed"), (406, "Not Acceptable"),
    (407, "Proxy Authentication Required"), (408, "Request Timeout"), (409, "Conflict"),
    (410, "Gone"), (411, "Length Required"), (412, "Precondition Failed"),
    (413, "Payload Too Large"), (414, "URI Too Long"), (415, "Unsupported Media Type"),
    (416, "Range Not Satisfiable"), (417, "Expectation Failed"), (418, "I'm a teapot"),
    (421, "Misdirected Request"), (422, "Unprocessable Entity"), (423, "Locked"),
    (424, "Failed Dependency"), (425, "Too Early"), (426, "Upgrade Required"),
    (428, "Precondition Required"), (429, "Too Many Requests"),
    (431, "Request Header Fields Too Large"), (451, "Unavailable For Legal Reasons"),
    (500, "Internal Server Error"), (501, "Not Implemented"), (502, "Bad Gateway"),
    (503, "Service Unavailable"), (504, "Gateway Timeout"), (505, "HTTP Version Not Supported"),
    (506, "Variant Also Negotiates"), (507, "Insufficient Storage"), (508, "Loop Detected"),
    (510, "Not Extended"), (511, "Network Authentication Required")]

/-- A status with its phrase. -/
def statusText (status : UInt16) : String :=
  toString status.toNat ++ " " ++ (phrases.lookup status.toNat).getD "<unknown status code>"

/-- Whether a status says that the request was carried out. -/
def isSuccess (status : UInt16) : Bool := 200 ≤ status && status < 300

/-- Whether a status blames the request or the server. -/
def isFailure (status : UInt16) : Bool := 400 ≤ status && status < 600

end DatabaseLifecycle.Http
