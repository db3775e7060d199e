import Stockroom.Double.Decimal

/-!
# Numerals

Integers and numbers are read from texts in ASCII digits. An integer text is scanned from the
left, and the first character that is no digit or that leaves the range decides the error. A
number text is a decimal with an optional exponent, or one of the words for the values that are
not finite.
-/

namespace Stockroom.Text

/-- The value of an ASCII digit. -/
def digit? (c : Char) : Option Nat :=
  if c.isDigit then some (c.toNat - '0'.toNat) else none

/-- The value of a row of ASCII digits. -/
def digitsValue (cs : List Char) : Nat :=
  cs.foldl (fun value c => value * 10 + (c.toNat - '0'.toNat)) 0

/-- Why a text is not an integer of the wanted range. -/
inductive IntegerError
  | empty
  | invalidDigit
  | tooLarge
  | tooSmall
  deriving DecidableEq

/-- The wording of an integer error. -/
def IntegerError.message : IntegerError → String
  | empty => "cannot parse integer from empty string"
  | invalidDigit => "invalid digit found in string"
  | tooLarge => "number too large to fit in target type"
  | tooSmall => "number too small to fit in target type"

/-- The integers from `least` to `greatest`. -/
structure IntegerRange where
  least : Int
  greatest : Int

/-- The range of 64-bit signed words. -/
def IntegerRange.int64 : IntegerRange :=
  ⟨-9223372036854775808, 9223372036854775807⟩

/-- The range of 64-bit unsigned words. -/
def IntegerRange.nat64 : IntegerRange := ⟨0, 18446744073709551615⟩

namespace IntegerRange

/-- Reads digits after a value already read, each digit moving it away from zero. -/
def readDigits (range : IntegerRange) (negative : Bool) :
    Int → List Char → Except IntegerError Int
  | value, [] => .ok value
  | value, c :: rest =>
    match digit? c with
    | none => .error .invalidDigit
    | some digit =>
      let next := if negative then value * 10 - digit else value * 10 + digit
      if next < range.least then .error .tooSmall
      else if range.greatest < next then .error .tooLarge
      else readDigits range negative next rest

/-- Reads at least one digit. -/
def readNumeral (range : IntegerRange) (negative : Bool) : List Char → Except IntegerError Int
  | [] => .error .invalidDigit
  | cs => range.readDigits negative 0 cs

/-- Reads an integer text. A plus sign is always allowed, a minus sign only where the range has
negative numbers. -/
def read (range : IntegerRange) : List Char → Except IntegerError Int
  | [] => .error .empty
  | '+' :: rest => range.readNumeral false rest
  | c :: rest =>
    if c = '-' ∧ range.least < 0 then range.readNumeral true rest
    else range.readNumeral false (c :: rest)

end IntegerRange

/-- Reads a 64-bit signed word. -/
def readInt64 (s : String) : Except IntegerError Int64 :=
  (IntegerRange.int64.read s.toList).map Int64.ofInt

/-- Reads a 64-bit unsigned word. -/
def readNat64 (s : String) : Except IntegerError Nat :=
  (IntegerRange.nat64.read s.toList).map Int.toNat

/-- Why a text is not a number. -/
inductive NumberError
  | empty
  | invalid
  deriving DecidableEq

/-- The wording of a number error. -/
def NumberError.message : NumberError → String
  | empty => "cannot parse float from empty string"
  | invalid => "invalid float literal"

/-- An exponent: an optional sign and at least one digit, and nothing after them. -/
def readExponent? : List Char → Option Int
  | [] => none
  | '-' :: rest => if rest = [] ∨ !rest.all Char.isDigit then none else some (-digitsValue rest)
  | c :: rest =>
    let digits := if c = '+' then rest else c :: rest
    if digits = [] ∨ !digits.all Char.isDigit then none else some (digitsValue digits)

/-- A decimal without a sign: digits with an optional point, at least one on either side of it,
and an optional exponent. -/
def readDecimal? (cs : List Char) : Option Decimal :=
  let whole := cs.takeWhile Char.isDigit
  let afterWhole := cs.dropWhile Char.isDigit
  let hasPoint := afterWhole.head? == some '.'
  let fraction := if hasPoint then (afterWhole.drop 1).takeWhile Char.isDigit else []
  let afterFraction := if hasPoint then (afterWhole.drop 1).dropWhile Char.isDigit else afterWhole
  let digits := whole ++ fraction
  if digits = [] then none
  else
    match afterFraction with
    | [] => some ⟨digitsValue digits, -fraction.length⟩
    | mark :: rest =>
      if mark = 'e' ∨ mark = 'E' then
        (readExponent? rest).map fun exponent => ⟨digitsValue digits, exponent - fraction.length⟩
      else none

/-- A number without its sign, in digits or in words. -/
def readUnsigned? (negative : Bool) (cs : List Char) : Option Double :=
  let word := cs.map Char.toLower
  if word = "nan".toList then some .nan
  else if word = "inf".toList ∨ word = "infinity".toList then some (.infinite negative)
  else (readDecimal? cs).map (Double.ofDecimal negative)

/-- Reads a number text: an optional sign, then a decimal, `nan`, `inf` or `infinity`, the words in
any letter case. -/
def readDouble (s : String) : Except NumberError Double :=
  match s.toList with
  | [] => .error .empty
  | '-' :: rest => ((readUnsigned? true rest).map Except.ok).getD (.error .invalid)
  | c :: rest =>
    let unsigned := if c = '+' then rest else c :: rest
    ((readUnsigned? false unsigned).map Except.ok).getD (.error .invalid)

end Stockroom.Text
