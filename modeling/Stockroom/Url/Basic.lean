import Stockroom.Url.Authority

/-!
# URLs

A URL names a resource by a scheme, by the server that has it, by its path and by a query. A
fragment at the end names a part of the resource and has no say in what the URL leads to.
-/

namespace Stockroom

/-- A URL. Its parts stand as they are written, with percent-encoded bytes. -/
structure Url where
  scheme : List Char
  authority : Url.Authority
  path : List (List Char)
  query : Option (List Char)

namespace Url

/-- The characters of a text without blanks and controls at both ends and without tabs and line
ends anywhere. -/
def cleaned (cs : List Char) : List Char :=
  let trimmed := ((cs.dropWhile (· ≤ ' ')).reverse.dropWhile (· ≤ ' ')).reverse
  trimmed.filter fun c => c != '\t' && c != '\n' && c != '\r'

/-- The text before the first occurrence of a character and, if there is one, the text after it. -/
def cut (mark : Char) (cs : List Char) : List Char × Option (List Char) :=
  let before := cs.takeWhile (· != mark)
  (before, if before.length < cs.length then some (cs.drop (before.length + 1)) else none)

/-- Whether a text is a scheme: a letter, then letters, digits, `+`, `-` and `.`. -/
def isScheme : List Char → Bool
  | [] => false
  | c :: rest => c.isAlpha && rest.all fun d => d.isAlphanum || "+-.".toList.contains d

/-- Reads the server and the path of a file. Two slashes stand before the server, unless a drive
letter follows them. -/
def fileParts? (body : List Char) : Option (Authority × List (List Char)) :=
  let isSlash := SchemeKind.file.isSlash
  if (body.takeWhile isSlash).length < 2 then some ({ }, Path.ofText .file body)
  else
    let rest := body.drop 2
    let host := rest.takeWhile fun c => !isSlash c
    if host = [] ∨ Path.isDriveLetter host then some ({ }, Path.ofText .file rest)
    else do
      let host ← Host.ofText? .file host
      return ({ host := some host }, Path.ofText .file (rest.dropWhile fun c => !isSlash c))

/-- Reads the server and the path behind the slashes in front of the server. -/
def serverParts? (kind : SchemeKind) (body : List Char) (isEnd : Bool) :
    Option (Authority × List (List Char)) := do
  let authority := body.takeWhile fun c => !kind.isSlash c
  let path := body.drop authority.length
  let (authority, rest) ← Authority.ofText? kind authority (isEnd && path.isEmpty)
  return (authority, Path.ofText kind (rest ++ path))

/-- Reads what stands between the scheme and the query. `isEnd` says that there is no query and no
fragment. -/
def parts? (kind : SchemeKind) (body : List Char) (isEnd : Bool) :
    Option (Authority × List (List Char)) :=
  match kind, body with
  | .file, body => fileParts? body
  | .network, body => serverParts? .network (body.dropWhile SchemeKind.network.isSlash) isEnd
  | .other, '/' :: '/' :: rest => serverParts? .other rest isEnd
  | .other, '/' :: rest => some ({ }, Path.ofText .other ('/' :: rest))
  | .other, body => some ({ }, [body])

/-- Reads a URL. -/
def ofText? (text : String) : Option Url := do
  let (rest, fragment) := cut '#' (cleaned text.toList)
  let (rest, query) := cut '?' rest
  let (scheme, body) := cut ':' rest
  let body ← body
  if isScheme scheme then
    let scheme := scheme.map Char.toLower
    let isEnd := query.isNone && fragment.isNone
    let (authority, path) ← parts? (SchemeKind.ofScheme scheme) body isEnd
    return { scheme, authority, path, query }
  else none

end Url

end Stockroom
