import Stockroom.Url.Basic

/-!
# Queries of URLs

A query is a row of pairs with `&` between them. The name of a pair ends at the first `=`, a plus
sign stands for a space, and both name and value are percent-encoded.
-/

namespace Stockroom.Url

/-- The text that a name or a value of a query stands for. Bytes that are no text in UTF-8 are read
as the sign for what cannot be shown. -/
def queryText (cs : List Char) : String :=
  let spaced := cs.map fun c => if c = '+' then ' ' else c
  match Text.percentText? spaced with
  | some text => String.ofList text
  | none => "\ufffd"

/-- The names and values of a query. -/
def queryPairs (query : List Char) : List (String × String) :=
  ((query.splitOn '&').filter (!·.isEmpty)).map fun pair =>
    let (name, value) := cut '=' pair
    (queryText name, queryText (value.getD []))

end Stockroom.Url
