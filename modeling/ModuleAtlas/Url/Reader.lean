import ModuleAtlas.Url.Basic
import ModuleAtlas.Url.Path

/-!
# Reading URLs

A text is read from its scheme on.  Special URLs have an authority behind any
number of slashes; others have one behind two slashes, and otherwise a path,
which need not start at a root.  The URLs of local files are special, but need
no host.
-/

namespace ModuleAtlas.Url

/-- Drop what is no part of a URL: control characters and spaces around it,
and tabs and line ends anywhere. -/
def stripped (text : List Char) : List Char :=
  let isOuter := fun c : Char => decide (c.toNat ≤ 32)
  let front := text.dropWhile isOuter
  let inner := (front.reverse.dropWhile isOuter).reverse
  inner.filter fun c => c ≠ '\t' && c ≠ '\n' && c ≠ '\r'

/-- Split off a scheme, in lower case: a letter and then letters, digits,
pluses, minuses and points up to a colon. -/
def splitScheme? (text : List Char) : Option (String × List Char) :=
  let scheme := text.takeWhile fun c =>
    c.isAlphanum || c = '+' || c = '-' || c = '.'
  match scheme, text.drop scheme.length with
  | first :: _, ':' :: rest =>
    if first.isAlpha then
      some (String.ofList (scheme.map Char.toLower), rest)
    else none
  | _, _ => none

/-- Split off the query and the fragment, in their normal forms. -/
def splitQuery (isSpecial : Bool) (text : List Char) :
    List Char × String :=
  let path := text.takeWhile fun c => c ≠ '?' && c ≠ '#'
  let behind := text.drop path.length
  let query := behind.takeWhile (· ≠ '#')
  let fragment := behind.drop query.length
  let normal := fun (marks part : List Char) =>
    part.take 1 ++ escape marks (part.drop 1)
  (path, String.ofList
    (normal (queryMarks isSpecial) query ++ normal fragmentMarks fragment))

/-- Turn the backslashes in front of a query into slashes. -/
def straightened (text : List Char) : List Char :=
  let path := text.takeWhile fun c => c ≠ '?' && c ≠ '#'
  path.map (fun c => if c = '\\' then '/' else c) ++ text.drop path.length

/-! ## Authorities -/

/-- The name and the password of a user; without an at sign there are
neither. -/
structure Credentials where
  user : String := ""
  password : String := ""
deriving DecidableEq

def Credentials.ofText (text : List Char) : Credentials :=
  let (user, password) := Text.cut ':' text
  let normal := fun part => String.ofList (escape credentialMarks part)
  { user := normal user, password := normal password }

/-- Split off everything up to the last at sign. -/
def splitCredentials? (text : List Char) :
    Option (List Char × List Char) :=
  let place := (text.reverse.takeWhile (· ≠ '@')).reverse
  if place.length = text.length then none
  else some (text.take (text.length - place.length - 1), place)

/-- Split off a host; colons between brackets belong to it. -/
def splitHost : Bool → List Char → List Char × List Char
  | _, [] => ([], [])
  | isInside, c :: rest =>
    if c = ':' && !isInside then ([], c :: rest)
    else
      let isInside := c = '[' || (c ≠ ']' && isInside)
      let (host, behind) := splitHost isInside rest
      (c :: host, behind)

/-- The number of a socket behind its colon, none for the usual one and in its
absence, and what follows it. -/
def splitSocket? (usual : Option Nat) :
    List Char → Option (Option Nat × List Char)
  | ':' :: text =>
    let digits := text.takeWhile Char.isDigit
    let behind := text.drop digits.length
    let number := Text.numberOf 10 digits
    if 65535 < number || !behind.head?.all (· = '\\') then none
    else if digits.isEmpty || some number = usual then some (none, behind)
    else some (some number, behind)
  | behind => some (none, behind)

/-- Read an authority without its slashes, and answer what does not belong to
it. -/
def readAuthority? (scheme : String) (text : List Char) (isFollowed : Bool) :
    Option (Authority × List Char) := do
  let isSpecial := isSpecialScheme scheme
  let (written, place) := (splitCredentials? text).getD ([], text)
  let hasSign := place.length < text.length
  guard !(hasSign && written.isEmpty && place.isEmpty && isFollowed)
  let { user, password } := Credentials.ofText written
  let (name, behind) := splitHost false place
  let host ← if isSpecial then Host.ofDomain? name else Host.ofAny? name
  guard !(host.isEmpty
    && (behind.head? = some ':' || user ≠ "" || password ≠ ""))
  let (socketNumber, remaining) ←
    splitSocket? (usualSocket? scheme) behind
  some ({ user, password, host, socketNumber }, remaining)

/-- Whether a character ends an authority. -/
def endsAuthority (c : Char) : Bool := c = '/' || c = '?' || c = '#'

/-- A path without the slash at its root. -/
def withoutRoot : List Char → List Char
  | '/' :: path => path
  | path => path

/-- Read what stands behind the slashes of an authority. -/
def ofAuthority? (scheme : String) (text : List Char) : Option Url := do
  let isSpecial := isSpecialScheme scheme
  let place := text.takeWhile (!endsAuthority ·)
  let behind := text.drop place.length
  let (authority, remaining) ←
    readAuthority? scheme place !behind.isEmpty
  let (path, query) := splitQuery isSpecial (remaining ++ behind)
  let path :=
    if path.isEmpty && !isSpecial then ""
    else pathText (normalSegments (withoutRoot path))
  some { scheme, authority := some authority, rest := path ++ query }

/-! ## The other forms -/

/-- Read a URL without an authority. -/
def ofPath (scheme : String) (text : List Char) : Url :=
  let (path, query) := splitQuery false text
  let path := match path with
    | '/' :: path => pathText (normalSegments path)
    | _ => String.ofList (escape [] path)
  { scheme, authority := none, rest := path ++ query }

/-- The host of a local file and its path without the slash at its root.  What
looks like a host may be a drive. -/
def splitFile? : List Char → Option (Host × List Char)
  | '/' :: '/' :: text =>
    let name := text.takeWhile (· ≠ '/')
    let path := text.drop name.length
    if name.isEmpty then some (.named "", path)
    else if isDrive name then some (.named "", text)
    else do
      match ← Host.ofDomain? name with
      | .named "localhost" => some (.named "", path)
      | host => some (host, withoutRoot path)
  | '/' :: path => some (.named "", path)
  | path => some (.named "", path)

/-- Read the URL of a local file.  A drive at the root has no host. -/
def ofFile? (text : List Char) : Option Url := do
  let (place, query) := splitQuery true text
  let (host, path) ← splitFile? place
  let segments := normalSegments path
  let host := if segments.head?.any isDrive then .named "" else host
  some {
    scheme := fileScheme
    authority := some { host }
    rest := filePathText segments ++ query }

def ofText? (text : String) : Option Url := do
  let (scheme, rest) ← splitScheme? (stripped text.toList)
  if scheme = fileScheme then ofFile? (straightened rest)
  else if isSpecialScheme scheme then
    ofAuthority? scheme ((straightened rest).dropWhile (· = '/'))
  else
    match rest with
    | '/' :: '/' :: rest => ofAuthority? scheme rest
    | _ => some (ofPath scheme rest)

end ModuleAtlas.Url
