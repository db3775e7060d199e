import Stockroom.Text.Numeral

/-!
# Punycode

A text in a few ASCII characters stands for a text in any characters. The ASCII characters of the
latter come first, and a row of numbers follows. Each number says how far the next character lies
behind the last one that was put in, counted over the code points and, for each of them, over the
places in the text. The digits of a number grow in weight, and the digit that ends it is known by
its size alone, which depends on the numbers read before.
-/

namespace Stockroom.Url.Punycode

/-- The value of a digit to the base 36: the letters come first and the decimal digits last. -/
def digit? (c : Char) : Option Nat :=
  if 'a' ≤ c ∧ c ≤ 'z' then some (c.toNat - 'a'.toNat)
  else (Text.digit? c).map (· + 26)

/-- The least digit at a position that is followed by another one. -/
def threshold (bias position : Nat) : Nat :=
  if position ≤ bias then 1 else min (position - bias) 26

/-- Divides a number until it is at most 455, counting 36 for each division. -/
def damp (number shift : Nat) : Nat × Nat :=
  if 455 < number then damp (number / 35) (shift + 36) else (number, shift)
termination_by number
decreasing_by omega

/-- The bias behind a number after which the text has `size` characters. -/
def bias (number size : Nat) (isFirst : Bool) : Nat :=
  let scaled := if isFirst then number / 700 else number / 2
  let (rest, shift) := damp (scaled + scaled / size) 0
  shift + 36 * rest / (rest + 38)

/-- Reads the digits of a number and what follows it. -/
def readNumber? (bias position weight value : Nat) : List Char → Option (Nat × List Char)
  | [] => none
  | c :: rest => do
    let digit ← digit? c
    let least := threshold bias position
    if digit < least then return (value + digit * weight, rest)
    readNumber? bias (position + 36) (weight * (36 - least)) (value + digit * weight) rest

/-- A number takes at least one character. -/
theorem length_of_readNumber? {bias position weight value number : Nat} {cs rest : List Char}
    (h : readNumber? bias position weight value cs = some (number, rest)) :
    rest.length < cs.length := by
  induction cs generalizing position weight value with
  | nil => simp [readNumber?] at h
  | cons c cs ih =>
    simp only [readNumber?, Option.bind_eq_bind, Option.bind_eq_some_iff] at h
    obtain ⟨digit, _, h⟩ := h
    split at h
    · cases h
      exact Nat.lt_succ_self _
    · exact Nat.lt_succ_of_lt (ih h)

/-- The character of a code point, if there is one. -/
def char? (code : Nat) : Option Char :=
  if code.isValidChar then some (Char.ofNat code) else none

/-- Puts the characters that a row of numbers describes into a text. `code` is the code point of
the last character put in, and `place` is the place behind it. -/
def insertAll? (bias₀ code place : Nat) (text : List Char) (cs : List Char) :
    Option (List Char) :=
  if cs = [] then some text
  else
    match h : readNumber? bias₀ 36 1 0 cs with
    | none => none
    | some (number, rest) =>
      have := length_of_readNumber? h
      let size := text.length + 1
      let next := code + (place + number) / size
      let index := (place + number) % size
      match char? next with
      | none => none
      | some c =>
        insertAll? (bias number size (place == 0)) next (index + 1)
          (text.take index ++ c :: text.drop index) rest
termination_by cs.length

/-- The text that a text in Punycode stands for. The last hyphen ends the ASCII characters, unless
it is the first character, and without a hyphen there are none. -/
def decode? (cs : List Char) : Option (List Char) :=
  let numbers := (cs.reverse.takeWhile (· != '-')).reverse
  let ascii := cs.take (cs.length - numbers.length - 1)
  if ascii.isEmpty then insertAll? 72 128 0 [] cs
  else if ascii.all (·.toNat < 128) then insertAll? 72 128 0 ascii numbers
  else none

end Stockroom.Url.Punycode
