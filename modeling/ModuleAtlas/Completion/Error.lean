/-!
# Failures of completion requests

Why a completion service gave no usable answer, and how that is worded.
-/

namespace ModuleAtlas

/-- Why a request was not answered at all. -/
inductive TransportError where
  /-- The request could not be put together. -/
  | builder
  /-- The URL has a scheme that is not served. -/
  | unsupported (url : String)
  /-- Nobody could be reached. -/
  | unreachable (url : String)
deriving DecidableEq, Repr

/-- The wording of a transport failure. -/
def TransportError.message : TransportError → String
  | .builder => "builder error"
  | .unsupported url => "builder error for url (" ++ url ++ ")"
  | .unreachable url => "error sending request for url (" ++ url ++ ")"

/-- Why a completion failed. -/
inductive CompletionError where
  /-- There is nobody to ask. -/
  | noProviders
  | transport (model : String) (cause : TransportError)
  /-- The service answered with a status that is no success. -/
  | refused (model status body : String)
  /-- The answer is not a document. -/
  | undecodable (model reason : String)
  /-- The answer holds no message. -/
  | noContent (model : String)
  /-- A failure in the service's own words. -/
  | reported (text : String)
deriving DecidableEq, Repr

/-- The wording of a failed completion. -/
def CompletionError.message : CompletionError → String
  | .noProviders => "no completion providers configured"
  | .transport model cause => model ++ " request failed: " ++ cause.message
  | .refused model status body => model ++ " returned " ++ status ++ ": " ++ body
  | .undecodable model reason =>
    "Failed to parse " ++ model ++ " response: " ++ reason
  | .noContent model => model ++ " response has no message content"
  | .reported text => text

end ModuleAtlas
