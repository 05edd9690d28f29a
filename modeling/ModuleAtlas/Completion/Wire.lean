import ModuleAtlas.Completion.Http
import ModuleAtlas.Text.Blank
import ModuleAtlas.Text.Search
import ModuleAtlas.Url.Basic

/-!
# Requests and answers on the wire

A request is sent as a head of lines and its body.  An answer is read from
everything that was received until the connection was closed; its characters
stand for single bytes.
-/

namespace ModuleAtlas.Http

/-- The end of a line. -/
def lineEnd : String := "\r\n"

/-- The kind of document that is posted. -/
def contentType : String := "application/json"

/-- The first line of a request. -/
def requestLine (url : Url) : String := "POST " ++ url.target ++ " HTTP/1.1"

/-- The host of a request, with its socket number where that is unusual. -/
def hostText (url : Url) : String :=
  (url.authority.map Authority.placeText).getD ""

/-- The head fields of a request. -/
def requestFields (url : Url) (request : HttpRequest) :
    List (String × String) :=
  [("host", hostText url), ("content-type", contentType),
    ("content-length", toString request.body.utf8ByteSize),
    ("connection", "close")]
    ++ request.authorization.toList.map fun key => ("authorization", key)

/-- The whole text of a request. -/
def requestText (url : Url) (request : HttpRequest) : String :=
  let fields := (requestFields url request).map fun (name, value) =>
    name ++ ": " ++ value ++ lineEnd
  requestLine url ++ lineEnd ++ String.join fields ++ lineEnd ++ request.body

/-- Split a head into its lines; `budget` bounds their number. -/
def headLines (budget : Nat) (head : List Char) : List (List Char) :=
  match budget with
  | 0 => [head]
  | budget + 1 =>
    match Text.splitAt? lineEnd.toList head with
    | none => [head]
    | some (line, rest) => line :: headLines budget rest

/-- The name of a head field in lower case, and its value. -/
def headField (line : List Char) : String × String :=
  let name := line.takeWhile (· ≠ ':')
  (String.ofList (name.map Char.toLower),
    Text.trim (String.ofList (line.drop (name.length + 1))))

/-- The number that a status line names. -/
def statusOf? (line : List Char) : Option Nat :=
  let code := ((line.dropWhile (· ≠ ' ')).drop 1).takeWhile Char.isDigit
  if code.length = 3 then some (Text.numberOf 10 code) else none

/-- Put chunks together, each after a line with its size; `budget` bounds
their number. -/
def joinChunks? : Nat → List Char → Option (List Char)
  | 0, _ => none
  | budget + 1, text => do
    let digits := text.takeWhile Text.isHexDigit
    let (_, rest) ← Text.splitAt? lineEnd.toList text
    let size := Text.numberOf 16 digits
    if digits.isEmpty || rest.length < size then none
    else if size = 0 then some []
    else
      let following ← Text.afterStart? lineEnd.toList (rest.drop size)
      (joinChunks? budget following).map (rest.take size ++ ·)

/-- The body of an answer with some head fields. -/
def bodyOf? (fields : List (String × String)) (rest : List Char) :
    Option (List Char) :=
  if fields.lookup "transfer-encoding" = some "chunked" then
    joinChunks? (rest.length + 1) rest
  else
    match (fields.lookup "content-length").bind String.toNat? with
    | some size =>
      if rest.length < size then none else some (rest.take size)
    | none => some rest

/-- The bytes that characters stand for. -/
def ofByteChars (chars : List Char) : HttpBody :=
  ⟨⟨(chars.map fun c => c.toNat.toUInt8).toArray⟩⟩

/-- Read an answer. -/
def response? (received : List Char) : Option HttpResponse := do
  let (head, rest) ←
    Text.splitAt? (lineEnd ++ lineEnd).toList received
  let (first, others) ← match headLines head.length head with
    | first :: others => some (first, others)
    | [] => none
  let fields := others.map headField
  let status ← statusOf? first
  let body ← bodyOf? fields rest
  some {
    status
    contentType := fields.lookup "content-type"
    body := ofByteChars body }

end ModuleAtlas.Http
