import Stockroom.Text.Hex

/-!
# Entity identifiers

An identifier is a word of 128 bits. It is written as 32 hexadecimal digits in five groups joined by
hyphens. The nil identifier, all zeros, stands for the absence of one.
-/

namespace Stockroom

/-- The identifier of an item, a device, a customer or a report. -/
structure EntityId where
  value : BitVec 128
  deriving DecidableEq

namespace EntityId

/-- The identifier that stands for none. -/
def nil : EntityId := ⟨0⟩

instance : Inhabited EntityId := ⟨nil⟩

/-- Whether the identifier stands for none. -/
def isNil (id : EntityId) : Bool :=
  id.value == 0

/-- The 32 hexadecimal digits of an identifier. -/
def digits (id : EntityId) : List Char :=
  Text.hexDigits 32 id.value.toNat

/-- The widths of the groups of digits. -/
def groupWidths : List Nat := [8, 4, 4, 4, 12]

/-- Cuts a text into groups of the given widths and joins them by hyphens. -/
def joinGroups : (widths : List Nat) → List Char → List Char
  | [], _ => []
  | [_], cs => cs
  | width :: widths, cs => cs.take width ++ '-' :: joinGroups widths (cs.drop width)

/-- The text of an identifier: lower-case digits in hyphenated groups. -/
def text (id : EntityId) : String :=
  String.ofList (joinGroups groupWidths id.digits)

/-- The identifier made at a time: 48 bits of milliseconds, the version 7, twelve bits of entropy,
the variant bits `10` and 62 more bits of entropy. Identifiers made later are greater, and the
version keeps them from being nil. -/
def ofTime (milliseconds : BitVec 48) (entropy : BitVec 74) : EntityId :=
  ⟨milliseconds ++ 7#4 ++ entropy.extractLsb' 62 12 ++ 2#2 ++ entropy.extractLsb' 0 62⟩

/-- The order of identifiers is that of their numbers. -/
instance : Ord EntityId := ⟨fun a b => compare a.value.toNat b.value.toNat⟩

end EntityId

end Stockroom
