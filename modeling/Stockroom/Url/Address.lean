import Stockroom.Text.Hex
import Stockroom.Text.Numeral

/-!
# Network addresses

An address is four bytes or eight units of 16 bits. It is written as four decimal numbers with
points between them, or as hexadecimal numbers with colons between them, of which `::` leaves out a
row of zeros. In the place of a domain name an address of four bytes has looser forms too.
-/

namespace Stockroom.Url

/-- A network address. -/
inductive Address
  /-- An address of four bytes as one number. -/
  | v4 (number : Nat)
  /-- An address of eight units. -/
  | v6 (units : List Nat)
  deriving DecidableEq

namespace Address

/-- A byte in decimal digits, without a zero in front of others. -/
def byte? (cs : List Char) : Option Nat :=
  if cs.isEmpty || !cs.all Char.isDigit || (cs.head? == some '0' && 1 < cs.length) then none
  else if Text.digitsValue cs < 256 then some (Text.digitsValue cs)
  else none

/-- The four bytes of a text with points between them. -/
def bytes? (cs : List Char) : Option (List Nat) :=
  if (cs.splitOn '.').length = 4 then (cs.splitOn '.').mapM byte? else none

/-- The number that bytes or other digits to a base write. -/
def ofDigits (base : Nat) (digits : List Nat) : Nat :=
  digits.foldl (fun value digit => value * base + digit) 0

/-- Reads an address of four bytes. -/
def v4? (cs : List Char) : Option Address :=
  (bytes? cs).map fun bytes => v4 (ofDigits 256 bytes)

/-- A unit in one to four hexadecimal digits. -/
def unit? (cs : List Char) : Option Nat :=
  if cs.isEmpty || 4 < cs.length then none else Text.readHex? cs

/-- The two units in the place of which four bytes stand. -/
def bytePairs? (cs : List Char) : Option (List Nat) :=
  (bytes? cs).map fun bytes => [ofDigits 256 (bytes.take 2), ofDigits 256 (bytes.drop 2)]

/-- The units of pieces of a text. In the place of the last two units four bytes may stand. -/
def units? : List (List Char) → Option (List Nat)
  | [] => some []
  | [piece] => ((unit? piece).map fun unit => [unit]).or (bytePairs? piece)
  | piece :: rest => do return (← unit? piece) :: (← units? rest)

/-- The pieces of a text between colons; the empty text has none. -/
def pieces (cs : List Char) : List (List Char) :=
  if cs.isEmpty then [] else cs.splitOn ':'

/-- The texts before and after the first `::`. -/
def splitGap? : List Char → Option (List Char × List Char)
  | ':' :: ':' :: rest => some ([], rest)
  | c :: rest => (splitGap? rest).map fun (before, after) => (c :: before, after)
  | [] => none

/-- Reads an address of eight units. A gap leaves out at least one unit. -/
def v6? (cs : List Char) : Option Address :=
  match splitGap? cs with
  | none => do
    let units ← units? (pieces cs)
    if units.length = 8 then some (v6 units) else none
  | some (before, after) => do
    let first ← (pieces before).mapM unit?
    let last ← units? (pieces after)
    if first.length + last.length < 8 then
      some (v6 (first ++ List.replicate (8 - first.length - last.length) 0 ++ last))
    else none

/-- Reads an address of either kind. -/
def ofText? (cs : List Char) : Option Address :=
  (v4? cs).or (v6? cs)

/-- A number in one of three bases: hexadecimal after `0x`, octal after another zero, decimal
otherwise. Nothing after `0x` stands for zero. -/
def number? : List Char → Option Nat
  | [] => none
  | '0' :: x :: rest =>
    if x = 'x' ∨ x = 'X' then Text.readHex? rest
    else if (x :: rest).all fun c => '0' ≤ c ∧ c ≤ '7' then
      some (ofDigits 8 ((x :: rest).map fun c => c.toNat - '0'.toNat))
    else none
  | cs => if cs.all Char.isDigit then some (Text.digitsValue cs) else none

/-- The parts of a domain name without an empty last one. -/
def withoutRoot (parts : List (List Char)) : List (List Char) :=
  if parts.getLast? = some [] then parts.dropLast else parts

/-- Whether a domain name has to be an address: its last part is a row of digits or a number. -/
def isNumeric (parts : List (List Char)) : Bool :=
  match (withoutRoot parts).getLast? with
  | none => false
  | some [] => false
  | some last => last.all Char.isDigit || (number? last).isSome

/-- Reads the parts of a domain name as an address of four bytes. The last of up to four numbers
fills the bytes that the others leave. -/
def ofParts? (parts : List (List Char)) : Option Address := do
  let numbers ← (withoutRoot parts).mapM number?
  let last ← numbers.getLast?
  let rest := Nat.pow 256 (5 - numbers.length)
  if numbers.length ≤ 4 ∧ numbers.dropLast.all (· < 256) ∧ last < rest then
    some (v4 (ofDigits 256 numbers.dropLast * rest + last))
  else none

end Address

end Stockroom.Url
