import Stockroom.Text.Hex

/-!
# Percent-encoded texts

In such a text `%` and two hexadecimal digits stand for a byte, and every other character stands
for the bytes of its UTF-8 form. The bytes need not be the UTF-8 form of a text.
-/

namespace Stockroom.Text

/-- The bytes of a percent-encoded text. A `%` that two digits do not follow stands for itself. -/
def percentDecode : List Char → List UInt8
  | [] => []
  | '%' :: high :: low :: rest =>
    match hexValue? high, hexValue? low with
    | some h, some l => UInt8.ofNat (16 * h + l) :: percentDecode rest
    | _, _ => 0x25 :: percentDecode (high :: low :: rest)
  | c :: rest => String.utf8EncodeChar c ++ percentDecode rest

/-- The text whose UTF-8 form is a list of bytes. -/
def ofUtf8? (bytes : List UInt8) : Option (List Char) :=
  (String.fromUTF8? bytes.toByteArray).map String.toList

/-- The text that a percent-encoded text stands for, if its bytes are the UTF-8 form of one. -/
def percentText? (cs : List Char) : Option (List Char) :=
  ofUtf8? (percentDecode cs)

/-- A character other than `%` stands for its own bytes. -/
theorem percentDecode_cons_of_ne {c : Char} (h : c ≠ '%') (rest : List Char) :
    percentDecode (c :: rest) = String.utf8EncodeChar c ++ percentDecode rest := by
  rw [percentDecode]
  intro high low rest' hc _
  exact h hc

/-- A text without `%` stands for its own bytes. -/
theorem percentDecode_of_not_mem {cs : List Char} (h : '%' ∉ cs) :
    percentDecode cs = cs.flatMap String.utf8EncodeChar := by
  induction cs with
  | nil => simp [percentDecode]
  | cons c cs ih =>
    have hc : c ≠ '%' := fun e => h (by simp [e])
    rw [percentDecode_cons_of_ne hc, ih fun hm => h (List.mem_cons_of_mem c hm), List.flatMap_cons]

/-- The UTF-8 form of a text is read as the text. -/
theorem ofUtf8?_flatMap (cs : List Char) :
    ofUtf8? (cs.flatMap String.utf8EncodeChar) = some cs := by
  have h : (cs.flatMap String.utf8EncodeChar).toByteArray = (String.ofList cs).toByteArray :=
    String.toByteArray_ofList.symm
  have valid := (String.ofList cs).isValidUTF8
  rw [ofUtf8?, h, String.fromUTF8?, dif_pos valid, Option.map_some]
  exact congrArg some String.toList_ofList

/-- A text without `%` stands for itself. -/
theorem percentText?_of_not_mem {cs : List Char} (h : '%' ∉ cs) : percentText? cs = some cs := by
  rw [percentText?, percentDecode_of_not_mem h, ofUtf8?_flatMap]

end Stockroom.Text
