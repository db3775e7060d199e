import Mathlib.Algebra.GroupWithZero.Nat
import Stockroom.EntityId.Parse

/-!
# Identifiers and their texts

The text of an identifier is read as that identifier: its digits give back the number, the hyphens
stand where groups end, and no blank is trimmed. So two identifiers never share a text.
-/

namespace Stockroom

namespace Text

/-- A digit that is written is read as its value. -/
theorem hexValue?_digitChar {k : Nat} (hk : k < 16) : hexValue? (Nat.digitChar k) = some k := by
  revert k
  decide

/-- As many digits are written as are asked for. -/
@[simp] theorem length_hexDigits (count value : Nat) : (hexDigits count value).length = count := by
  induction count generalizing value with
  | zero => rfl
  | succ count ih => simp [hexDigits, ih]

/-- Everything that is written is a digit. -/
theorem exists_digitChar_of_mem_hexDigits {count value : Nat} {c : Char}
    (h : c ∈ hexDigits count value) : ∃ k < 16, c = Nat.digitChar k := by
  induction count generalizing value with
  | zero => cases h
  | succ count ih =>
    rcases List.mem_append.mp h with h | h
    · exact ih h
    · exact ⟨value % 16, Nat.mod_lt _ (by decide), List.mem_singleton.mp h⟩

/-- Reading one more digit multiplies what was read before and adds the digit. -/
theorem readHex?_append_singleton (cs : List Char) (c : Char) :
    readHex? (cs ++ [c]) = (readHex? cs).bind fun value =>
      (hexValue? c).map (value * 16 + ·) := by
  simp [readHex?, List.foldlM_append]

/-- The last digits of a number are read as the number cut to them. -/
theorem readHex?_hexDigits (count value : Nat) :
    readHex? (hexDigits count value) = some (value % 16 ^ count) := by
  induction count generalizing value with
  | zero => simp [hexDigits, readHex?, Nat.mod_one]
  | succ count ih =>
    have hdigit := hexValue?_digitChar (Nat.mod_lt value (by decide : 16 > 0))
    have hsplit : value % 16 ^ (count + 1) = value / 16 % 16 ^ count * 16 + value % 16 := by
      rw [Nat.pow_succ, Nat.mul_comm, Nat.mod_mul]
      omega
    rw [hexDigits, readHex?_append_singleton, ih, Option.bind_some, hdigit, hsplit]
    rfl

/-- A text without blanks is not trimmed. -/
theorem trimChars_eq_self {cs : List Char} (h : ∀ c ∈ cs, blank.contains c = false) :
    trimChars cs = cs := by
  have hkeep (ds : List Char) (hds : ∀ c ∈ ds, blank.contains c = false) : trimStart ds = ds := by
    cases ds with
    | nil => rfl
    | cons d rest =>
      rw [trimStart, List.dropWhile_cons_of_neg]
      simp [hds d List.mem_cons_self]
  rw [trimChars, hkeep cs h, hkeep cs.reverse fun c hc => h c (List.mem_reverse.mp hc),
    List.reverse_reverse]

end Text

namespace EntityId

/-- An identifier is nil if it stands for none. -/
theorem isNil_iff {key : EntityId} : key.isNil = true ↔ key = .nil := by
  obtain ⟨value⟩ := key
  simp [isNil, nil]

/-- Joining groups adds hyphens only. -/
theorem mem_joinGroups {widths : List Nat} {cs : List Char} {c : Char}
    (h : c ∈ joinGroups widths cs) : c ∈ cs ∨ c = '-' := by
  fun_induction joinGroups widths cs with
  | case1 => cases h
  | case2 => exact Or.inl h
  | case3 width widths cs _ ih =>
    rcases List.mem_append.mp h with h | h
    · exact Or.inl (List.mem_of_mem_take h)
    · rcases List.mem_cons.mp h with h | h
      · exact Or.inr h
      · exact (ih h).imp List.mem_of_mem_drop id

/-- Groups of the right widths come apart again. -/
theorem splitGroups?_joinGroups {widths : List Nat} {cs : List Char} (hne : widths ≠ [])
    (h : cs.length = widths.sum) : splitGroups? widths (joinGroups widths cs) = some cs := by
  fun_induction joinGroups widths cs with
  | case1 => exact absurd rfl hne
  | case2 width cs => simp_all [splitGroups?]
  | case3 width widths cs hwidths ih =>
    have hlength : cs.length = width + widths.sum := h
    have htake : (cs.take width).length = width := by
      rw [List.length_take]
      omega
    have hdrop : (cs.drop width).length = widths.sum := by
      rw [List.length_drop]
      omega
    rw [splitGroups?, List.drop_left' htake]
    · simp only [ih hwidths hdrop, Option.map_some, List.take_left' htake, List.take_append_drop]
    · exact hwidths

/-- Joining groups adds a hyphen between neighbours. -/
theorem length_joinGroups {widths : List Nat} {cs : List Char} (hne : widths ≠ [])
    (h : cs.length = widths.sum) :
    (joinGroups widths cs).length + 1 = cs.length + widths.length := by
  fun_induction joinGroups widths cs with
  | case1 => exact absurd rfl hne
  | case2 width cs => rfl
  | case3 width widths cs hwidths ih =>
    have hlength : cs.length = width + widths.sum := h
    have hdrop : (cs.drop width).length = widths.sum := by
      rw [List.length_drop]
      omega
    have hrest := ih hwidths hdrop
    simp only [List.length_append, List.length_cons, List.length_take] at hrest ⊢
    omega

/-- The characters of a text of an identifier. -/
def textChars (id : EntityId) : List Char :=
  joinGroups groupWidths id.digits

/-- The text of an identifier has no blanks, and each of its characters is one byte. -/
theorem plain_of_mem_textChars {id : EntityId} {c : Char} (h : c ∈ id.textChars) :
    Text.blank.contains c = false ∧ c.utf8Size = 1 := by
  have hdigit : ∀ k < 16, Text.blank.contains (Nat.digitChar k) = false ∧
      (Nat.digitChar k).utf8Size = 1 := by decide
  rcases mem_joinGroups h with hmem | rfl
  · obtain ⟨k, hk, rfl⟩ := Text.exists_digitChar_of_mem_hexDigits hmem
    exact hdigit k hk
  · decide

/-- The text of an identifier has 36 characters. -/
theorem length_textChars (id : EntityId) : id.textChars.length = 36 := by
  have hdigits : id.digits.length = groupWidths.sum := Text.length_hexDigits 32 _
  have h := length_joinGroups (by decide) hdigits
  rw [digits, Text.length_hexDigits] at h
  exact Nat.succ.inj h

/-- A text of ASCII characters has as many bytes as characters. -/
theorem byteLength_eq_length {cs : List Char} (h : ∀ c ∈ cs, c.utf8Size = 1) :
    byteLength cs = cs.length := by
  have hfold (bytes : Nat) :
      cs.foldl (fun bytes c => bytes + c.utf8Size) bytes = bytes + cs.length := by
    induction cs generalizing bytes with
    | nil => rfl
    | cons c rest ih =>
      rw [List.foldl_cons, ih fun d hd => h d (List.mem_cons_of_mem _ hd), h c List.mem_cons_self,
        List.length_cons]
      omega
  rw [byteLength, hfold, Nat.zero_add]

/-- The text of an identifier is read as the identifier. -/
theorem parse_text (id : EntityId) : parse id.text = .ok id := by
  have htrim : Text.trimChars id.textChars = id.textChars :=
    Text.trimChars_eq_self fun c hc => (plain_of_mem_textChars hc).1
  have hbytes : byteLength id.textChars = 36 := by
    rw [byteLength_eq_length fun c hc => (plain_of_mem_textChars hc).2, length_textChars]
  have hgroups : splitGroups? groupWidths id.textChars = some id.digits :=
    splitGroups?_joinGroups (by decide) (Text.length_hexDigits 32 _)
  have hdigits : ofDigits? id.digits = some id := by
    have hlt : id.value.toNat < 16 ^ 32 := id.value.isLt
    rw [ofDigits?, digits, if_pos (Text.length_hexDigits 32 _), Text.readHex?_hexDigits,
      Nat.mod_eq_of_lt hlt, Option.map_some, BitVec.ofNat_toNat, BitVec.setWidth_eq]
  rw [parse, text, String.toList_ofList]
  change ofTrimmed (Text.trimChars id.textChars) = .ok id
  rw [htrim, ofTrimmed, groupText?, if_pos hbytes]
  simp only [ofGroups?, hgroups, Option.bind_some, hdigits]

/-- The text of an identifier is not empty. -/
theorem text_ne_empty (id : EntityId) : id.text ≠ "" := by
  intro h
  have hparse := parse_text id
  rw [h] at hparse
  cases hparse

/-- Identifiers with one text are one identifier. -/
theorem text_injective : Function.Injective text := by
  intro a b h
  have hparse := parse_text a
  rw [h, parse_text b] at hparse
  exact (Except.ok.inj hparse).symm

end EntityId

end Stockroom
