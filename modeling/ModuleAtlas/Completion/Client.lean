import ModuleAtlas.Completion.Http
import ModuleAtlas.Text.Search
import ModuleAtlas.Text.Utf8
import ModuleAtlas.Url.Reader

/-!
# The client that the program runs with

Completions take the words of the library as a parameter.  Here are those that
the program runs with: a status stands with its standard name, and a body is
shown as a text in UTF-8, without the mark that may stand in front.  Requests
are checked before they are sent.
-/

namespace ModuleAtlas

namespace Http

/-- Whether a character may stand in a header. -/
def isHeaderChar (c : Char) : Bool :=
  c = '\t' || (32 ≤ c.toNat && c.toNat ≠ 127)

/-- The most bytes of a URL that requests can carry. -/
def maxUrlSize : Nat := 65534

/-- Marks that may stand in the name of a host, but not in a request. -/
def unsentMarks : List Char :=
  ['"', '`', Char.ofNat 0x7B, Char.ofNat 0x7D]

/-- Whether requests can be sent to a URL. -/
def isServed (url : Url) : Bool :=
  (url.scheme = "http" || url.scheme = "https")
    && url.host?.all (fun host =>
      !host.toText.toList.any unsentMarks.contains)
    && url.toText.utf8ByteSize ≤ maxUrlSize

/-- Why a request cannot be sent as it is.  The URL is read first and must
name a host; then comes the header, and last whether the URL is served. -/
def fault? (request : HttpRequest) : Option TransportError :=
  match (Url.ofText? request.url).map Url.anonymous with
  | none => some .builder
  | some url =>
    if url.host?.isNone then some (.unsupported url.toText)
    else if !((request.authorization.getD "").toList.all isHeaderChar) then
      some .builder
    else if isServed url then none
    else some (.unsupported url.toText)

/-- Answers with these statuses come without a body, whatever follows them. -/
def isBodiless (status : Nat) : Bool := status = 204 || status = 304

/-- An answer as it is delivered. -/
def delivered (response : HttpResponse) : HttpResponse :=
  if isBodiless response.status then { response with body := "" }
  else response

/-- A transport that is only given requests without faults. -/
def checked {m : Type → Type} [Monad m] (transport : Transport m) :
    Transport m := fun request =>
  match fault? request with
  | some fault => return .error fault
  | none => return (← transport request).map delivered

/-- A transport that reaches nobody. -/
def unreachable {m : Type → Type} [Monad m] : Transport m := fun request =>
  let url := match Url.ofText? request.url with
    | some url => url.anonymous.toText
    | none => request.url
  return .error (.unreachable url)

/-- The standard names of statuses. -/
def reasons : List (Nat × String) := [
  (100, "Continue"), (101, "Switching Protocols"), (102, "Processing"),
  (103, "Early Hints"),
  (200, "OK"), (201, "Created"), (202, "Accepted"),
  (203, "Non Authoritative Information"), (204, "No Content"),
  (205, "Reset Content"), (206, "Partial Content"), (207, "Multi-Status"),
  (208, "Already Reported"), (226, "IM Used"),
  (300, "Multiple Choices"), (301, "Moved Permanently"), (302, "Found"),
  (303, "See Other"), (304, "Not Modified"), (305, "Use Proxy"),
  (307, "Temporary Redirect"), (308, "Permanent Redirect"),
  (400, "Bad Request"), (401, "Unauthorized"), (402, "Payment Required"),
  (403, "Forbidden"), (404, "Not Found"), (405, "Method Not Allowed"),
  (406, "Not Acceptable"), (407, "Proxy Authentication Required"),
  (408, "Request Timeout"), (409, "Conflict"), (410, "Gone"),
  (411, "Length Required"), (412, "Precondition Failed"),
  (413, "Payload Too Large"), (414, "URI Too Long"),
  (415, "Unsupported Media Type"), (416, "Range Not Satisfiable"),
  (417, "Expectation Failed"), (418, "I'm a teapot"),
  (421, "Misdirected Request"), (422, "Unprocessable Entity"),
  (423, "Locked"), (424, "Failed Dependency"), (425, "Too Early"),
  (426, "Upgrade Required"), (428, "Precondition Required"),
  (429, "Too Many Requests"), (431, "Request Header Fields Too Large"),
  (451, "Unavailable For Legal Reasons"),
  (500, "Internal Server Error"), (501, "Not Implemented"),
  (502, "Bad Gateway"), (503, "Service Unavailable"),
  (504, "Gateway Timeout"), (505, "HTTP Version Not Supported"),
  (506, "Variant Also Negotiates"), (507, "Insufficient Storage"),
  (508, "Loop Detected"), (510, "Not Extended"),
  (511, "Network Authentication Required")]

end Http

/-- The words of the client. -/
def HttpLibrary.standard : HttpLibrary where
  statusText status := toString status ++ " "
    ++ (Http.reasons.lookup status).getD "<unknown status code>"
  bodyText response :=
    Text.withoutMark (Utf8.decode response.body.bytes)
  decodeFailure _ := "error decoding response body"

end ModuleAtlas
