import Stockroom.Proofs.IdentifierForms
import Stockroom.Url.Path

/-!
# What percent-encoded texts spell

A byte can be spelled by `%` and two digits, and a character without a part in URLs can stand for
itself. Main statements: every such spelling is read as what it spells, and a segment of a path
stands for nothing or takes back another one just if it spells one point or two.
-/

namespace Stockroom

namespace Text

/-- Whether a character has no part in URLs, so that it stands for itself. -/
def isUnreserved (c : Char) : Bool :=
  c.isAlphanum || c == '-' || c == '.' || c == '_' || c == '~'

/-- Whether a text spells bytes. -/
inductive Spells : List Char → List UInt8 → Prop
  | nil : Spells [] []
  /-- A character stands for its bytes. -/
  | plain {c : Char} {rest : List Char} {bytes : List UInt8} (hplain : isUnreserved c = true)
      (hrest : Spells rest bytes) : Spells (c :: rest) (String.utf8EncodeChar c ++ bytes)
  /-- Two digits behind `%` stand for a byte. -/
  | escaped {high low : Char} {h l : Nat} {rest : List Char} {bytes : List UInt8}
      (hhigh : hexValue? high = some h) (hlow : hexValue? low = some l)
      (hrest : Spells rest bytes) :
      Spells ('%' :: high :: low :: rest) (UInt8.ofNat (16 * h + l) :: bytes)

/-- Whether a text spells another one. -/
def SpellsText (spelled text : List Char) : Prop :=
  Spells spelled (text.flatMap String.utf8EncodeChar)

/-- The spelling of a text in which `%` stands in front of every byte. -/
def percentEncode (text : List Char) : List Char :=
  (text.flatMap String.utf8EncodeChar).flatMap fun byte => '%' :: hexDigits 2 byte.toNat

/-- Every text has a spelling. -/
theorem spellsText_percentEncode (text : List Char) : SpellsText (percentEncode text) text := by
  rw [SpellsText, percentEncode]
  induction text.flatMap String.utf8EncodeChar with
  | nil => exact .nil
  | cons byte bytes ih =>
    have hlt : byte.toNat < 256 := byte.toNat_lt
    have hhigh := hexValue?_digitChar (k := byte.toNat / 16) (by omega)
    have hlow := hexValue?_digitChar (k := byte.toNat % 16) (by omega)
    have hbyte : UInt8.ofNat (16 * (byte.toNat / 16) + byte.toNat % 16) = byte := by
      rw [Nat.div_add_mod, UInt8.ofNat_toNat]
    have hdigits : hexDigits 2 byte.toNat =
        [Nat.digitChar (byte.toNat / 16), Nat.digitChar (byte.toNat % 16)] := by
      rw [hexDigits, hexDigits, hexDigits, Nat.mod_eq_of_lt (show byte.toNat / 16 < 16 by omega)]
      rfl
    rw [List.flatMap_cons, hdigits]
    have hspells := Spells.escaped hhigh hlow ih
    rwa [hbyte] at hspells

/-- A digit has no part in URLs. -/
theorem isUnreserved_of_hexValue? {c : Char} {k : Nat} (h : hexValue? c = some k) :
    isUnreserved c = true := by
  unfold hexValue? at h
  split_ifs at h with hdigit hlower hupper
  · exact forall_within 48 57 (by decide) c hdigit.1 hdigit.2
  · exact forall_within 97 102 (by decide) c hlower.1 hlower.2
  · exact forall_within 65 70 (by decide) c hupper.1 hupper.2

/-- A spelling has `%` and characters without a part in URLs. -/
theorem Spells.eq_or_isUnreserved {spelled : List Char} {bytes : List UInt8}
    (h : Spells spelled bytes) : ∀ c ∈ spelled, c = '%' ∨ isUnreserved c = true := by
  induction h with
  | nil => exact List.forall_mem_nil _
  | plain hplain _ ih => exact List.forall_mem_cons.mpr ⟨.inr hplain, ih⟩
  | escaped hhigh hlow _ ih =>
    exact List.forall_mem_cons.mpr ⟨.inl rfl, List.forall_mem_cons.mpr
      ⟨.inr (isUnreserved_of_hexValue? hhigh), List.forall_mem_cons.mpr
        ⟨.inr (isUnreserved_of_hexValue? hlow), ih⟩⟩⟩

/-- A spelling is read as the bytes that it spells. -/
theorem Spells.percentDecode_eq {spelled : List Char} {bytes : List UInt8}
    (h : Spells spelled bytes) : percentDecode spelled = bytes := by
  induction h with
  | nil => rfl
  | @plain c rest bytes hplain _ ih =>
    have hne : c ≠ '%' := by
      rintro rfl
      cases hplain
    rw [percentDecode_cons_of_ne hne, ih]
  | escaped hhigh hlow _ ih =>
    rw [percentDecode, hhigh, hlow, ih]

/-- A spelling is read as the text that it spells. -/
theorem SpellsText.percentText?_eq {spelled text : List Char} (h : SpellsText spelled text) :
    percentText? spelled = some text := by
  rw [percentText?, Spells.percentDecode_eq h, ofUtf8?_flatMap]

/-- Bytes are read as the text whose bytes they are. -/
theorem flatMap_of_ofUtf8? {bytes : List UInt8} {cs : List Char} (h : ofUtf8? bytes = some cs) :
    cs.flatMap String.utf8EncodeChar = bytes := by
  rw [ofUtf8?, String.fromUTF8?] at h
  split at h
  case isTrue hvalid =>
    obtain rfl := Option.some.inj h
    have hbytes : (String.ofList (String.fromUTF8 bytes.toByteArray hvalid).toList).toByteArray =
        bytes.toByteArray := by
      rw [String.ofList_toList]
      rfl
    rw [String.toByteArray_ofList] at hbytes
    simpa [List.utf8Encode] using hbytes
  case isFalse => cases h

/-- The digits of the byte of a point. -/
theorem digits_of_point {high low : Char} {h l : Nat} (hhigh : hexValue? high = some h)
    (hlow : hexValue? low = some l) (hbyte : UInt8.ofNat (16 * h + l) = 0x2e) :
    high = '2' ∧ (low = 'e' ∨ low = 'E') := by
  obtain ⟨hh, hhigh⟩ := hexValue?_eq_some_iff.mp hhigh
  obtain ⟨hl, hlow⟩ := hexValue?_eq_some_iff.mp hlow
  have hvalue : 16 * h + l = 46 := by
    have hnat := congrArg UInt8.toNat hbyte
    rwa [UInt8.toNat_ofNat', Nat.mod_eq_of_lt (by omega)] at hnat
  obtain rfl : h = 2 := by omega
  obtain rfl : l = 14 := by omega
  constructor
  · rcases toLower_eq_self_or_capital high with hself | ⟨k, hk, rfl⟩
    · rw [← hself, hhigh]
      rfl
    · revert k
      decide
  · rcases toLower_eq_self_or_capital low with hself | ⟨k, hk, rfl⟩
    · rw [← hself, hlow]
      exact .inl rfl
    · revert k
      decide

/-- The bytes of points. -/
theorem flatMap_points (n : Nat) :
    (List.replicate n '.').flatMap String.utf8EncodeChar = List.replicate n 0x2e := by
  rw [List.flatMap_replicate]
  exact List.flatten_replicate_singleton

/-- A character whose bytes are those of points is a point. -/
theorem eq_point_of_utf8EncodeChar {c : Char} {n : Nat}
    (h : String.utf8EncodeChar c = List.replicate n 0x2e) : c = '.' := by
  have hread : some [c] = some (List.replicate n '.') := by
    rw [← ofUtf8?_flatMap, ← ofUtf8?_flatMap, List.flatMap_singleton, h, flatMap_points]
  exact List.eq_of_mem_replicate (Option.some.inj hread ▸ List.mem_singleton_self c)

end Text

namespace Url.Path

open Text (percentDecode percentDecode_cons_of_ne percentText?)

/-- A segment spells points just if it has nothing but points when they are put in plain. -/
theorem plainPoints_eq_replicate_iff {segment : List Char} {n : Nat} :
    plainPoints segment = List.replicate n '.' ↔
      percentDecode segment = List.replicate n 0x2e := by
  constructor
  · intro h
    fun_induction plainPoints segment generalizing n with
    | case1 =>
      obtain rfl : n = 0 := by simpa using h.symm
      rfl
    | case2 e rest he ih =>
      cases n with
      | zero => cases h
      | succ n =>
        have hrest := ih (List.cons.inj h).2
        rcases he with rfl | rfl <;> exact congrArg (0x2e :: ·) hrest
    | case3 e rest he ih =>
      cases n with
      | zero => cases h
      | succ n => cases (List.cons.inj h).1
    | case4 c rest hc ih =>
      cases n with
      | zero => cases h
      | succ n =>
        obtain ⟨rfl, hrest⟩ := List.cons.inj h
        rw [percentDecode_cons_of_ne (by decide), ih hrest]
        rfl
  · intro h
    fun_induction percentDecode segment generalizing n with
    | case1 =>
      obtain rfl : n = 0 := by simpa using h.symm
      rfl
    | case2 high low rest h l hlow hhigh ih =>
      cases n with
      | zero => cases h
      | succ n =>
        obtain ⟨hbyte, hrest⟩ := List.cons.inj h
        obtain ⟨rfl, he⟩ := Text.digits_of_point hhigh hlow hbyte
        rw [plainPoints, if_pos he, ih hrest, List.replicate_succ]
    | case3 high low rest hnone ih =>
      cases n with
      | zero => cases h
      | succ n => cases (List.cons.inj h).1
    | case4 c rest hc ih =>
      obtain ⟨hlength, hpoint, hrest⟩ := List.append_eq_replicate_iff.mp h
      obtain rfl := Text.eq_point_of_utf8EncodeChar hpoint
      have hplain : plainPoints ('.' :: rest) = '.' :: plainPoints rest := by simp [plainPoints]
      rw [hplain, ih hrest, ← hlength, ← List.replicate_succ]
      exact congrArg (List.replicate · '.') (Nat.add_comm _ 1)

/-- A segment is read as points just if it has nothing but points when they are put in plain. -/
theorem percentText?_eq_points_iff {segment : List Char} {n : Nat} :
    percentText? segment = some (List.replicate n '.') ↔
      plainPoints segment = List.replicate n '.' := by
  rw [plainPoints_eq_replicate_iff, ← Text.flatMap_points, percentText?]
  constructor
  · exact fun h => (Text.flatMap_of_ofUtf8? h).symm
  · intro h
    rw [h, Text.ofUtf8?_flatMap]

/-- A segment stands for itself unless it spells one point or two. -/
theorem isPlain_iff {segment : List Char} :
    IsPlain segment ↔
      percentText? segment ≠ some ['.'] ∧ percentText? segment ≠ some ['.', '.'] := by
  have hhere : isHere segment = true ↔ percentText? segment = some ['.'] := by
    rw [isHere, beq_iff_eq]
    exact (percentText?_eq_points_iff (n := 1)).symm
  have hback : isBack segment = true ↔ percentText? segment = some ['.', '.'] := by
    rw [isBack, beq_iff_eq]
    exact (percentText?_eq_points_iff (n := 2)).symm
  rw [IsPlain, ← Bool.not_eq_true, ← Bool.not_eq_true, hhere, hback]

end Url.Path

end Stockroom
