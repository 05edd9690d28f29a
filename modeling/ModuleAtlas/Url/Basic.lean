import ModuleAtlas.Url.Host

/-!
# URLs

A URL has a scheme, possibly an authority, and a rest: path, query and
fragment.  All parts are kept in their normal form, so the text of a URL is
made by putting its parts together.
-/

namespace ModuleAtlas

/-- Whose host a URL leads to. -/
structure Authority where
  user : String := ""
  password : String := ""
  host : Host
  /-- The number of the host's socket, unless it is the usual one. -/
  socketNumber : Option Nat := none
deriving DecidableEq, Repr

structure Url where
  scheme : String
  authority : Option Authority
  /-- Path, query and fragment. -/
  rest : String
deriving DecidableEq, Repr

namespace Authority

/-- The name and the password of the user in front of the host. -/
def credentialsText (authority : Authority) : String :=
  if authority.password ≠ "" then
    authority.user ++ ":" ++ authority.password ++ "@"
  else if authority.user ≠ "" then authority.user ++ "@"
  else ""

/-- A host with its socket number where that is unusual. -/
def placeText (authority : Authority) : String :=
  authority.host.toText
    ++ match authority.socketNumber with
      | none => ""
      | some number => ":" ++ toString number

/-- The text of an authority. -/
def toText (authority : Authority) : String :=
  "//" ++ authority.credentialsText ++ authority.placeText

/-- Whether the credentials can be taken out: the name must be a text, and
without a name so must the password. -/
def hasReadableCredentials (authority : Authority) : Bool :=
  (Url.unescape? authority.user.toList).isSome
    && (authority.user ≠ ""
      || (Url.unescape? authority.password.toList).isSome)

/-- An authority without its credentials, where they can be taken out. -/
def anonymous (authority : Authority) : Authority :=
  if authority.hasReadableCredentials then
    { authority with user := "", password := "" }
  else authority

end Authority

namespace Url

/-- The usual socket number of a scheme. -/
def usualSocket? (scheme : String) : Option Nat :=
  [("http", 80), ("https", 443), ("ws", 80), ("wss", 443),
    ("ftp", 21)].lookup scheme

/-- The scheme of local files. -/
def fileScheme : String := "file"

/-- Whether the URLs of a scheme are special: a host is expected, and
backslashes count as slashes. -/
def isSpecialScheme (scheme : String) : Bool :=
  scheme = fileScheme || (usualSocket? scheme).isSome

/-- What keeps a path without an authority from looking like one. -/
def guardText (url : Url) : String :=
  if url.authority.isNone && url.rest.startsWith "//" then "/." else ""

/-- The text of a URL. -/
def toText (url : Url) : String :=
  url.scheme ++ ":" ++ (url.authority.map Authority.toText).getD ""
    ++ url.guardText ++ url.rest

/-- The host of a URL. -/
def host? (url : Url) : Option Host :=
  (url.authority.map (·.host)).filter (!·.isEmpty)

/-- What a request line names: everything behind the authority up to a
fragment. -/
def target (url : Url) : String :=
  String.ofList (url.rest.toList.takeWhile (· ≠ '#'))

/-- A URL as it may be shown. -/
def anonymous (url : Url) : Url :=
  { url with authority := url.authority.map Authority.anonymous }

end Url

end ModuleAtlas
