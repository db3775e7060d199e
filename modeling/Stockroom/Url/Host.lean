import Stockroom.Text.Percent
import Stockroom.Url.Address
import Stockroom.Url.Domain.Basic

/-!
# Hosts

A host is named by an address or by a text. In URLs of the schemes of the network and of files the
text is a domain name; in other URLs it is any text without the characters that end a host.
-/

namespace Stockroom.Url

/-- How a scheme reads what follows it. -/
inductive SchemeKind
  /-- The host is a domain name and has to be given. -/
  | network
  /-- The host is a domain name and may be left out. -/
  | file
  /-- The host is any text and may be left out, as may be the slashes in front of it. -/
  | other
  deriving DecidableEq

/-- The kind of a scheme in lower case. -/
def SchemeKind.ofScheme (scheme : List Char) : SchemeKind :=
  if scheme = "file".toList then .file
  else if ["http", "https", "ws", "wss", "ftp"].any (·.toList == scheme) then .network
  else .other

/-- What a URL names as its host. -/
inductive Host
  /-- A text, which may hold percent-encoded bytes. -/
  | name (text : List Char)
  /-- An address. -/
  | address (address : Address)
  deriving DecidableEq

namespace Host

/-- The characters that no host holds. -/
def isForbidden (c : Char) : Bool :=
  "\x00\t\n\r #/:<>?@[\\]^|".toList.contains c

/-- Reads a domain name or an address in its place. -/
def ofDomain? (cs : List Char) : Option Host := do
  let labels ← Domain.labels? (← Text.percentText? cs)
  if Address.isNumeric labels then (Address.ofParts? labels).map address
  else if labels = [[]] then none
  else some (name (List.intercalate ['.'] labels))

/-- Reads a host that is not empty. An address of eight units stands in brackets. -/
def ofText? (kind : SchemeKind) (cs : List Char) : Option Host :=
  match cs with
  | '[' :: rest =>
    if rest.getLast? = some ']' then (Address.v6? rest.dropLast).map address else none
  | _ =>
    if kind = .other then if cs.any isForbidden then none else some (name cs)
    else ofDomain? cs

end Host

end Stockroom.Url
