import PlayerSession.Json.Value

/-! Responses: their status, headers and body.  Every JSON response may be read by pages from
anywhere. -/

namespace PlayerSession.Http

open Json

structure Response where
  status : Nat
  headers : List (String × String)
  body : String
  deriving DecidableEq

/-- The headers that let pages from anywhere read a response. -/
def sharingHeaders : List (String × String) :=
  [("access-control-allow-origin", "*"),
   ("access-control-allow-headers", "Content-Type, Origin"),
   ("access-control-allow-methods", "GET, OPTIONS")]

/-- A JSON response. -/
def respond (status : Nat) (body : Value) : Response where
  status
  headers := sharingHeaders ++ [("content-type", "application/json")]
  body := body.render

/-- The registered reasons of the statuses. -/
def reasons : List (Nat × String) :=
  [(100, "Continue"), (101, "Switching Protocols"), (102, "Processing"), (103, "Early Hints"),
   (200, "OK"), (201, "Created"), (202, "Accepted"), (203, "Non Authoritative Information"),
   (204, "No Content"), (205, "Reset Content"), (206, "Partial Content"), (207, "Multi-Status"),
   (208, "Already Reported"), (226, "IM Used"), (300, "Multiple Choices"),
   (301, "Moved Permanently"), (302, "Found"), (303, "See Other"), (304, "Not Modified"),
   (305, "Use Proxy"), (307, "Temporary Redirect"), (308, "Permanent Redirect"),
   (400, "Bad Request"), (401, "Unauthorized"), (402, "Payment Required"), (403, "Forbidden"),
   (404, "Not Found"), (405, "Method Not Allowed"), (406, "Not Acceptable"),
   (407, "Proxy Authentication Required"), (408, "Request Timeout"), (409, "Conflict"),
   (410, "Gone"), (411, "Length Required"), (412, "Precondition Failed"),
   (413, "Payload Too Large"), (414, "URI Too Long"), (415, "Unsupported Media Type"),
   (416, "Range Not Satisfiable"), (417, "Expectation Failed"), (418, "I'm a teapot"),
   (421, "Misdirected Request"), (422, "Unprocessable Entity"), (423, "Locked"),
   (424, "Failed Dependency"), (425, "Too Early"), (426, "Upgrade Required"),
   (428, "Precondition Required"), (429, "Too Many Requests"),
   (431, "Request Header Fields Too Large"), (451, "Unavailable For Legal Reasons"),
   (500, "Internal Server Error"), (501, "Not Implemented"), (502, "Bad Gateway"),
   (503, "Service Unavailable"), (504, "Gateway Timeout"), (505, "HTTP Version Not Supported"),
   (506, "Variant Also Negotiates"), (507, "Insufficient Storage"), (508, "Loop Detected"),
   (510, "Not Extended"), (511, "Network Authentication Required")]

def reason (status : Nat) : String := (reasons.lookup status).getD "Unknown"

/-- The response that says no more than its status. -/
def statusResponse (status : Nat) : Response :=
  respond status (.object [("message", .text (reason status))])

/-- The response as it is sent: with the length of its body, and without the body where only the
headers were asked for. -/
def Response.sent (r : Response) (headersOnly : Bool) : Response :=
  { r with
    headers := r.headers ++ [("content-length", toString r.body.utf8ByteSize)]
    body := if headersOnly then "" else r.body }

end PlayerSession.Http
