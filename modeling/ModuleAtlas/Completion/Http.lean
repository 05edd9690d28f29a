import ModuleAtlas.Completion.Provider
import ModuleAtlas.Json.Written

/-!
# Completion over HTTP

A chat service is asked by posting a JSON document with the model, the prompt
as the only message, and the limits of the answer.  Its answer is the text of
the first choice.

Requests go through a transport.  The library that it belongs to also says in
words what a status means, what the body of an answer shows as a text, and why
the body is no document; all of these are parameters.
-/

namespace ModuleAtlas

/-- A request to a service. -/
structure HttpRequest where
  url : String
  authorization : Option String
  body : String
deriving DecidableEq, Repr

/-- The body of an answer: bytes, which need not spell a text. -/
structure HttpBody where
  bytes : ByteArray

namespace HttpBody

/-- The text of a body in UTF-8. -/
instance : Coe String HttpBody := ⟨fun text => ⟨text.toUTF8⟩⟩

/-- The text that a body spells in UTF-8; none if it spells none. -/
def text? (body : HttpBody) : Option String := String.fromUTF8? body.bytes

/-- The document that a body spells. -/
def document? (body : HttpBody) : Option Json := body.text?.bind Json.parse?

end HttpBody

/-- The answer of a service, as it is delivered. -/
structure HttpResponse where
  status : Nat
  /-- What the answer says of the kind and the encoding of its body. -/
  contentType : Option String := none
  body : HttpBody

abbrev Transport (m : Type → Type) :=
  HttpRequest → m (Except TransportError HttpResponse)

/-- The words of the library that delivers answers. -/
structure HttpLibrary where
  /-- A status and what it means. -/
  statusText : Nat → String
  /-- What the body of an answer shows as a text. -/
  bodyText : HttpResponse → String
  /-- Why the body of an answer is no document. -/
  decodeFailure : HttpResponse → String

namespace Http

/-- Whether a status reports success. -/
def isSuccess (status : Nat) : Bool := 200 ≤ status && status < 300

/-- A field of a record. -/
def field? (name : String) : Json → Option Json
  | .record fields => lookupRow name fields
  | _ => none

/-- The text of the first choice of an answer. -/
def content? (document : Json) : Option String := do
  let choices ← field? "choices" document
  let choice ← match choices with
    | .list (first :: _) => some first
    | _ => none
  let message ← field? "message" choice
  match ← field? "content" message with
  | .text content => some content
  | _ => none

/-- Read the answer of a service. -/
def interpret (library : HttpLibrary) (model : String)
    (response : HttpResponse) : Except CompletionError String :=
  if !isSuccess response.status then
    .error (.refused model (library.statusText response.status)
      (library.bodyText response))
  else
    match response.body.document? with
    | none => .error (.undecodable model (library.decodeFailure response))
    | some document =>
      match content? document with
      | some content => .ok content
      | none => .error (.noContent model)

/-- How a service is asked. -/
structure Endpoint where
  url : String
  apiKey : Option String
  model : String
  temperature : Float32
  maxTokens : UInt32

/-- A temperature as it is sent. -/
def temperatureJson (temperature : Float32) : Json :=
  if temperature.isFinite then .number (.float temperature.toFloat)
  else .null

/-- The document that asks for a completion. -/
def payload (endpoint : Endpoint) (prompt : String) : Json :=
  .record [
    ("max_tokens", .ofNat endpoint.maxTokens.toNat),
    ("messages", .list [.record [
      ("content", .text prompt), ("role", .text "user")]]),
    ("model", .text endpoint.model),
    ("temperature", temperatureJson endpoint.temperature)]

/-- The request that asks for a completion. -/
def request (endpoint : Endpoint) (prompt : String) : HttpRequest where
  url := endpoint.url
  authorization := endpoint.apiKey.map ("Bearer " ++ ·)
  body := (payload endpoint prompt).compact

/-- A service that is asked over a transport. -/
def provider {m : Type → Type} [Monad m] (library : HttpLibrary)
    (transport : Transport m) (endpoint : Endpoint) : Provider m where
  service := "OpenAI-compatible"
  model := endpoint.model
  complete prompt := do
    match ← transport (request endpoint prompt) with
    | .error cause => return .error (.transport endpoint.model cause)
    | .ok response => return interpret library endpoint.model response

end Http

end ModuleAtlas
