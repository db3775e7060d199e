import Stockroom.Postgres.Failure
import Stockroom.Url.Query

/-!
# Connection URLs

A server is named by a URL. User, password and database are percent-encoded texts, a host that
begins with a slash is the path of a socket, and the query holds options. A text that is no such
URL is refused without an attempt; else the outcome is that of the attempt to reach the server.
-/

namespace Stockroom.Postgres

namespace ConnectionUrl

/-- The modes of encryption that a URL may ask for. -/
def encryptionModes : List String :=
  ["disable", "allow", "prefer", "require", "verify-ca", "verify-full"]

/-- Whether the value of an option is of its kind. Options of other names take any text. -/
def isOption (name value : String) : Bool :=
  if name = "sslmode" ∨ name = "ssl-mode" then
    encryptionModes.any fun mode => value.toList.map Char.toLower == mode.toList
  else if name = "port" then
    match Text.readNat64 value with
    | .ok port => port < 65536
    | .error _ => false
  else if name = "statement-cache-capacity" then
    (Text.readNat64 value).toBool
  else if name = "hostaddr" then (Url.Address.ofText? value.toList).isSome
  else true

/-- Whether a part of a URL is a percent-encoded text. -/
def isText (cs : List Char) : Bool :=
  (Text.percentText? cs).isSome

/-- Whether a host can be looked for. A text that names a socket has to be a percent-encoded one. -/
def isReachable : Url.Host → Bool
  | .name cs => (Text.percentDecode cs).head? != some 0x2f || isText cs
  | .address _ => true

/-- Whether a URL names a server. -/
def namesServer (url : Url) : Bool :=
  url.authority.host.all isReachable && isText url.authority.user &&
    isText url.authority.password && url.path.all isText &&
    (Url.queryPairs (url.query.getD [])).all fun (name, value) => isOption name value

end ConnectionUrl

/-- The way to the servers: what is said of a text that names no server, and what comes of the
attempt to reach the server that a URL names. -/
structure Network where
  complaint : String → String
  reach : Url → Except SqlFailure Unit

/-- Connects to the server that a text names. -/
def connect (network : Network) (text : String) : Stored Unit :=
  let attempt := match (Url.ofText? text).filter ConnectionUrl.namesServer with
    | some url => network.reach url
    | none => .error (.other (network.complaint text))
  attempt.mapError (·.inOperation "connect")

end Stockroom.Postgres
