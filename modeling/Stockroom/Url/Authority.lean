import Stockroom.Url.Path

/-!
# Authorities of URLs

The part of a URL between two slashes and the path names a server: a host, with a user and a
password before it and the number of a port after it.
-/

namespace Stockroom.Url

/-- The server that a URL names. -/
structure Authority where
  user : List Char := []
  password : List Char := []
  host : Option Host := none
  port : Option Nat := none

namespace Authority

/-- The text before the last `@`, if there is one, and the text after it. -/
def splitUser (cs : List Char) : Option (List Char) × List Char :=
  let address := (cs.reverse.takeWhile (· != '@')).reverse
  if address.length < cs.length then (some (cs.take (cs.length - address.length - 1)), address)
  else (none, address)

/-- The text up to the first colon outside of brackets, and the rest. -/
def splitHost (bracketed : Bool) : List Char → List Char × List Char
  | [] => ([], [])
  | c :: rest =>
    if c = ':' ∧ !bracketed then ([], c :: rest)
    else
      let (host, after) := splitHost (c == '[' || (bracketed && c != ']')) rest
      (c :: host, after)

/-- Reads the number of a port after a colon, if there is one, and what follows. A colon may stand
without digits. -/
def port? : List Char → Option (Option Nat × List Char)
  | ':' :: rest =>
    let digits := rest.takeWhile Char.isDigit
    let port := if digits.isEmpty then none else some (Text.digitsValue digits)
    if Text.digitsValue digits < 65536 then some (port, rest.drop digits.length) else none
  | rest => some (none, rest)

/-- Reads an authority. What follows the port is given back, and may only be a backslash that
begins the path. Without a host there is no port and no user: a `@` then stands behind a lone colon
or, with nothing before it, at the end of the URL. -/
def ofText? (kind : SchemeKind) (cs : List Char) (isEnd : Bool) :
    Option (Authority × List Char) := do
  let (user, address) := splitUser cs
  let (host, rest) := splitHost false address
  if host = [] then
    let bare := user = none ∨ user = some [':'] ∨ (user = some [] ∧ isEnd)
    if bare ∧ rest = [] ∧ kind = .other then some ({ }, []) else none
  else
    let host ← Host.ofText? kind host
    let (port, rest) ← port? rest
    if rest = [] ∨ rest.head? = some '\\' then
      let user := user.getD []
      let name := user.takeWhile (· != ':')
      some (⟨name, user.drop (name.length + 1), some host, port⟩, rest)
    else none

end Authority

end Stockroom.Url
