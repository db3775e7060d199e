import Stockroom.EntityId.Basic
import Stockroom.Text.Blank

/-!
# Reading identifiers

Four forms are accepted between blanks: 32 digits, five hyphenated groups, the groups in braces and
the groups after `urn:uuid:`. A refused text is diagnosed from its characters: first its length,
then the first stray character, then the number of groups and their lengths. Lengths and places
count bytes.
-/

namespace Stockroom.EntityId

/-- Why a text is not an identifier. -/
inductive ParseError
  | invalidLength (found : Nat)
  | invalidCharacter (character : Char) (index : Nat)
  | invalidGroupCount (found : Nat)
  | invalidGroupLength (group expected found : Nat)
  deriving DecidableEq

/-- The wording of a parse error. -/
def ParseError.message : ParseError → String
  | invalidLength found => s!"invalid length: found {found}"
  | invalidCharacter character index => s!"invalid character: found `{character}` at {index}"
  | invalidGroupCount found => s!"invalid group count: expected 5, found {found}"
  | invalidGroupLength group expected found =>
    s!"invalid group length in group {group}: expected {expected}, found {found}"

/-- The number of bytes of a text. -/
def byteLength (cs : List Char) : Nat :=
  cs.foldl (fun bytes c => bytes + c.utf8Size) 0

/-- The identifier of 32 hexadecimal digits. -/
def ofDigits? (cs : List Char) : Option EntityId :=
  if cs.length = 32 then (Text.readHex? cs).map fun n => ⟨BitVec.ofNat 128 n⟩ else none

/-- The characters of hyphenated groups without their hyphens; nothing if a hyphen is not at the
end of its group. -/
def splitGroups? : (widths : List Nat) → List Char → Option (List Char)
  | [], cs => if cs.isEmpty then some [] else none
  | [width], cs => if cs.length = width then some cs else none
  | width :: widths, cs =>
    match cs.drop width with
    | '-' :: rest => (splitGroups? widths rest).map (cs.take width ++ ·)
    | _ => none

/-- The identifier of five hyphenated groups. -/
def ofGroups? (cs : List Char) : Option EntityId :=
  (splitGroups? groupWidths cs).bind ofDigits?

/-- The text inside braces. -/
def unbraced? (cs : List Char) : Option (List Char) :=
  if 2 ≤ cs.length ∧ cs.head? = some '\x7b' ∧ cs.getLast? = some '\x7d' then
    some (cs.drop 1).dropLast
  else none

/-- The text after `urn:uuid:` in any letter case. -/
def afterUrn? (cs : List Char) : Option (List Char) :=
  if (cs.take 9).map Char.toLower = "urn:uuid:".toList then some (cs.drop 9) else none

/-- The text that has to be hyphenated groups, if the length and the wrapping say so. -/
def groupText? (cs : List Char) : Option (List Char) :=
  if byteLength cs = 36 then some cs
  else if byteLength cs = 38 then unbraced? cs
  else if byteLength cs = 45 then afterUrn? cs
  else none

/-- The first character that is neither a digit nor a hyphen, with its place. -/
def firstStray? : (index : Nat) → List Char → Option (Char × Nat)
  | _, [] => none
  | index, c :: rest =>
    if Text.isHexDigit c || c == '-' then firstStray? (index + c.utf8Size) rest
    else some (c, index)

/-- The places of the hyphens. -/
def hyphens : (index : Nat) → List Char → List Nat
  | _, [] => []
  | index, c :: rest =>
    if c == '-' then index :: hyphens (index + 1) rest else hyphens (index + 1) rest

/-- The group whose hyphen is not where its width puts it, the last group if every hyphen is in its
place. `start` is the place of the first group still to be checked. -/
def groupLengthError (size : Nat) : (group start : Nat) → (widths places : List Nat) → ParseError
  | group, start, width :: widths, place :: places =>
    if place = start + width then
      groupLengthError size (group + 1) (start + width + 1) widths places
    else .invalidGroupLength group width (place - start)
  | group, start, widths, _ => .invalidGroupLength group (widths.headD 0) (size - start)

/-- Why the groups of a text do not make an identifier; `size` is the length of the whole text,
`offset` the place of the groups in it. -/
def diagnoseGroups (size offset : Nat) (hyphenated : Bool) (cs : List Char) : ParseError :=
  match firstStray? offset cs with
  | some (character, index) => .invalidCharacter character index
  | none =>
    let places := hyphens 0 cs
    if places.isEmpty && !hyphenated then .invalidLength size
    else if places.length ≠ 4 then .invalidGroupCount (places.length + 1)
    else groupLengthError size 0 0 groupWidths places

/-- Why a text whose form is not known is no identifier. -/
def diagnose (cs : List Char) : ParseError :=
  let size := byteLength cs
  if size = 0 ∨ 45 < size then .invalidLength size
  else
    match unbraced? cs with
    | some inner => diagnoseGroups size 1 true inner
    | none =>
      match afterUrn? cs with
      | some rest => diagnoseGroups size 9 true rest
      | none => diagnoseGroups size 0 false cs

/-- Reads an identifier without blanks around it. -/
def ofTrimmed (cs : List Char) : Except ParseError EntityId :=
  match groupText? cs with
  | some groups =>
    match ofGroups? groups with
    | some id => .ok id
    | none => .error (diagnoseGroups (byteLength groups) 0 true groups)
  | none =>
    match ofDigits? cs with
    | some id => .ok id
    | none => .error (diagnose cs)

/-- Reads an identifier from a text, blanks around it ignored. -/
def parse (s : String) : Except ParseError EntityId :=
  ofTrimmed (Text.trimChars s.toList)

end Stockroom.EntityId
