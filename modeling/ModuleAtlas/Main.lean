import ModuleAtlas.Command.Run
import ModuleAtlas.Completion.Wire
import Std.Async
import Std.Time

/-!
# The program

The command line with the real files, the real clock and the real network.
Everything that is decided is decided elsewhere; here it only happens.
-/

namespace ModuleAtlas.Main

open Std.Async Std.Net

def succeeds {α : Type} (action : IO α) : IO Bool := do
  try
    discard action
    return true
  catch _ => return false

/-- Whether a path leads to a directory. -/
def isDirectory (path : String) : IO Bool := do
  try
    (← IO.FS.realPath path).isDir
  catch _ => return false

instance : MonadFiles IO where
  readText path := do
    try
      return some (← IO.FS.readFile path)
    catch _ => return none
  writeText path text := succeeds (IO.FS.writeFile path text)
  makeDirectory path := do
    try
      IO.FS.createDir path
      return .there
    catch failure =>
      if ← isDirectory path then return .there
      match failure with
      | .noFileOrDirectory .. => return .homeless
      | _ => return .refused
  isPresent path := succeeds (IO.FS.realPath path >>= (·.metadata))

/-- Everything that a connection brings until it is closed. -/
partial def receiveAll (socket : TCP.Socket.Client) (received : ByteArray) :
    IO ByteArray := do
  match ← (socket.recv? 65536).block with
  | some bytes => receiveAll socket (received ++ bytes)
  | none => return received

/-- The address of a numbered socket of a host. -/
def socketAddress (number : UInt16) : IPAddr → SocketAddress
  | .v4 address => .v4 ⟨address, number⟩
  | .v6 address => .v6 ⟨address, number⟩

/-- Send a request over a new connection and take the answer. -/
def exchange (url : Url) (request : HttpRequest) :
    IO (Option HttpResponse) := do
  let number := ((url.authority.bind (·.socketNumber)).getD 80).toUInt16
  let host := match url.host? with
    | some (.long address) => address.toText
    | some host => host.toText
    | none => ""
  let addresses ← (DNS.getAddrInfo host (toString number)).block
  match addresses[0]? with
  | none => return none
  | some address =>
    let socket ← TCP.Socket.Client.mk
    (socket.connect (socketAddress number address)).block
    (socket.send (Http.requestText url request).toUTF8).block
    let received ← receiveAll socket .empty
    return Http.response?
      (received.toList.map fun byte => Char.ofNat byte.toNat)

/-- Deliver requests over the network. -/
def network : Transport IO := fun request => do
  match Url.ofText? request.url with
  | none => return .error .builder
  | some url =>
    let answer ←
      try
        if url.scheme = "http" then exchange url request else pure none
      catch _ => pure none
    match answer with
    | some response => return .ok response
    | none => Http.unreachable request

/-- The time in a common form. -/
def timestamp : IO String := do
  let now := Std.Time.DateTime.ofTimestampWithZone
    (← Std.Time.Timestamp.now) Std.Time.TimeZone.UTC
  return now.format "uuuu-MM-dd" ++ "T" ++ now.format "HH:mm:ss.SSSSSSSSS"
    ++ "+00:00"

/-- What commands find around them. -/
def surroundings : IO (Surroundings IO) := do
  return {
    apiKey := ← IO.getEnv "CODEWEAVE_API_KEY"
    timestamp := ← timestamp
    transport := Http.checked network }

/-- How a failure is shown. -/
def failureText (failure : Failure) : String :=
  match failure.message?, failure with
  | some message, _ => message
  | none, .fileSystem path => "cannot read or write " ++ path
  | none, .targetDirectory path => "cannot make the directory " ++ path
  | none, .settings .tokenizer => "cannot use the tokenizer definition"
  | none, .settings _ => "cannot understand the settings"
  | none, .settingsFile => "cannot read or write the settings file"
  | none, .analysis => "cannot understand the analyzer document"
  | none, _ => "cannot understand a document"

/-- Run a command line.  The status tells apart a refused command line and a
failed command. -/
def run (words : List String) : IO UInt32 := do
  match Invocation.read words with
  | .error refusal =>
    IO.eprintln refusal.name
    return 2
  | .ok invocation =>
    match ← (invocation.run (← surroundings)).run with
    | .ok lines =>
      lines.forM fun line => IO.println line
      return 0
    | .error failure =>
      IO.eprintln ("Error: " ++ failureText failure)
      return 1

end ModuleAtlas.Main

def main (words : List String) : IO UInt32 := ModuleAtlas.Main.run words
