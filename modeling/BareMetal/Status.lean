import BareMetal.Error
import BareMetal.Text.Blank

/-!
# Response status

`classify` turns the status and the body of a response into success or the error
a caller acts on. The body becomes the message and never decides the kind.
-/

namespace BareMetal

def reasonPhrases : List (Nat × String) := [
  (100, "Continue"), (101, "Switching Protocols"), (102, "Processing"),
  (103, "Early Hints"),
  (200, "OK"), (201, "Created"), (202, "Accepted"), (203, "Non Authoritative Information"),
  (204, "No Content"), (205, "Reset Content"), (206, "Partial Content"), (207, "Multi-Status"),
  (208, "Already Reported"), (226, "IM Used"),
  (300, "Multiple Choices"), (301, "Moved Permanently"), (302, "Found"), (303, "See Other"),
  (304, "Not Modified"), (305, "Use Proxy"), (307, "Temporary Redirect"),
  (308, "Permanent Redirect"),
  (400, "Bad Request"), (401, "Unauthorized"), (402, "Payment Required"), (403, "Forbidden"),
  (404, "Not Found"), (405, "Method Not Allowed"), (406, "Not Acceptable"),
  (407, "Proxy Authentication Required"), (408, "Request Timeout"), (409, "Conflict"),
  (410, "Gone"), (411, "Length Required"), (412, "Precondition Failed"),
  (413, "Payload Too Large"), (414, "URI Too Long"), (415, "Unsupported Media Type"),
  (416, "Range Not Satisfiable"), (417, "Expectation Failed"), (418, "I'm a teapot"),
  (421, "Misdirected Request"), (422, "Unprocessable Entity"), (423, "Locked"),
  (424, "Failed Dependency"), (425, "Too Early"), (426, "Upgrade Required"),
  (428, "Precondition Required"), (429, "Too Many Requests"),
  (431, "Request Header Fields Too Large"), (451, "Unavailable For Legal Reasons"),
  (500, "Internal Server Error"), (501, "Not Implemented"), (502, "Bad Gateway"),
  (503, "Service Unavailable"), (504, "Gateway Timeout"), (505, "HTTP Version Not Supported"),
  (506, "Variant Also Negotiates"), (507, "Insufficient Storage"), (508, "Loop Detected"),
  (510, "Not Extended"), (511, "Network Authentication Required")]

/-- The standard reason phrase of a status, empty where there is none. -/
def reasonPhrase (status : Nat) : String := (reasonPhrases.lookup status).getD ""

def validStatus (status : Nat) : Bool := 100 ≤ status && status ≤ 999

def isSuccess (status : Nat) : Bool := 200 ≤ status && status < 300

/-- A response as it came: status and body, nothing decoded. -/
structure Response where
  status : Nat
  body : String
deriving DecidableEq, Repr

/-- The error a status that is no success stands for. -/
def statusError (status : Nat) (message : String) : Error :=
  if status = 400 ∨ status = 404 ∨ status = 409 then .badRequest message
  else if status = 403 then .permission message
  else if status = 503 then .cannotComplete message
  else .unexpected status (reasonPhrase status) message

def classify (status : Nat) (body : String) : Except Error Unit :=
  if isSuccess status then .ok () else .error (statusError status (Text.trim body))

/-- The body of a success, as it came. -/
def Response.successBody (r : Response) : Except Error String :=
  (classify r.status r.body).map fun _ => r.body

end BareMetal
