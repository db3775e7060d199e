import Mathlib.Data.List.Induction
import Stockroom.Proofs.Codec

/-!
# The spellings of identifiers

The 32 digits of an identifier stand bare, in hyphenated groups, in braces or after `urn:uuid:`, in
either letter case and between any blanks. Main statement: a field is read as an identifier from
just these texts, every other text is reported as it stands, and what is written is one of them, so
that an identifier that is read and written again has its normal form.
-/

namespace Stockroom

namespace Text

/-! ### Digits in either letter case -/

/-- A character within bounds is one of those counted from the lower one. -/
theorem exists_eq_ofNat {c : Char} (low high : Nat) (hlow : low ≤ c.toNat)
    (hhigh : c.toNat ≤ high) : ∃ k ≤ high - low, c = Char.ofNat (low + k) := by
  refine ⟨c.toNat - low, by omega, ?_⟩
  rw [Nat.add_sub_cancel' hlow, Char.ofNat_toNat]

/-- What holds of the characters counted from a lower bound holds of all characters within the
bounds. -/
@[elab_as_elim]
theorem forall_within {motive : Char → Prop} (low high : Nat)
    (h : ∀ k ≤ high - low, motive (Char.ofNat (low + k))) (c : Char) (hlow : low ≤ c.toNat)
    (hhigh : c.toNat ≤ high) : motive c := by
  obtain ⟨k, hk, rfl⟩ := exists_eq_ofNat low high hlow hhigh
  exact h k hk

/-- A character is its own lower case or a capital letter of ASCII. -/
theorem toLower_eq_self_or_capital (c : Char) :
    c.toLower = c ∨ ∃ k ≤ 25, c = Char.ofNat (65 + k) := by
  unfold Char.toLower
  split
  case isTrue hcapital => exact Or.inr (exists_eq_ofNat 65 90 hcapital.1 hcapital.2)
  case isFalse => exact Or.inl rfl

/-- A character is a hexadecimal digit if its lower case is how the value is written. -/
theorem hexValue?_eq_some_iff {c : Char} {k : Nat} :
    hexValue? c = some k ↔ k < 16 ∧ c.toLower = Nat.digitChar k := by
  constructor
  · intro h
    unfold hexValue? at h
    split_ifs at h with hdigit hlower hupper <;> obtain rfl := Option.some.inj h
    · exact forall_within 48 57 (by decide) c hdigit.1 hdigit.2
    · exact forall_within 97 102 (by decide) c hlower.1 hlower.2
    · exact forall_within 65 70 (by decide) c hupper.1 hupper.2
  · rintro ⟨hk, hlower⟩
    rcases toLower_eq_self_or_capital c with hself | ⟨j, hj, rfl⟩
    · rw [← hself, hlower]
      exact hexValue?_digitChar hk
    · have hcapital : ∀ j ≤ 25, ∀ k < 16, (Char.ofNat (65 + j)).toLower = Nat.digitChar k →
          hexValue? (Char.ofNat (65 + j)) = some k := by decide
      exact hcapital j hj k hk hlower

/-- The digits in lower case are those that are written. -/
theorem toList_digits : "0123456789abcdef".toList = (List.range 16).map Nat.digitChar := by
  decide

/-- A character is a hexadecimal digit if its lower case is one. -/
theorem isHexDigit_iff {c : Char} :
    isHexDigit c = true ↔ c.toLower ∈ "0123456789abcdef".toList := by
  rw [isHexDigit, Option.isSome_iff_exists, toList_digits, List.mem_map]
  refine exists_congr fun k => ?_
  rw [hexValue?_eq_some_iff, List.mem_range, eq_comm]

/-- The last digit that is read is the last one of the number. -/
theorem readHex?_concat_eq_some_iff {cs : List Char} {c : Char} {value : Nat} :
    readHex? (cs ++ [c]) = some value ↔
      readHex? cs = some (value / 16) ∧ hexValue? c = some (value % 16) := by
  simp only [readHex?_append_singleton, Option.bind_eq_some_iff, Option.map_eq_some_iff]
  constructor
  · rintro ⟨front, hfront, k, hk, rfl⟩
    have hlt := (hexValue?_eq_some_iff.mp hk).1
    have hdiv : (front * 16 + k) / 16 = front := by omega
    have hmod : (front * 16 + k) % 16 = k := by omega
    rw [hdiv, hmod]
    exact ⟨hfront, hk⟩
  · rintro ⟨hfront, hk⟩
    exact ⟨_, hfront, _, hk, by omega⟩

/-- A row of characters is read as the number that its lower case writes. -/
theorem readHex?_eq_some_iff {cs : List Char} {value : Nat} :
    readHex? cs = some value ↔
      value < 16 ^ cs.length ∧ cs.map Char.toLower = hexDigits cs.length value := by
  induction cs using List.reverseRecOn generalizing value with
  | nil => simp [readHex?, hexDigits, eq_comm]
  | append_singleton cs c ih =>
    have hbound : value / 16 < 16 ^ cs.length ↔ value < 16 ^ (cs.length + 1) := by
      rw [Nat.pow_succ, Nat.div_lt_iff_lt_mul (by decide)]
    have hdigit : value % 16 < 16 := Nat.mod_lt _ (by decide)
    rw [readHex?_concat_eq_some_iff, ih, hexValue?_eq_some_iff, hbound, List.length_append,
      List.length_singleton, hexDigits, List.map_append, List.map_singleton,
      List.append_singleton_inj, and_iff_right hdigit, and_assoc]

/-- The digits of zero. -/
theorem hexDigits_zero (count : Nat) : hexDigits count 0 = List.replicate count '0' := by
  induction count with
  | zero => rfl
  | succ count ih =>
    rw [hexDigits, Nat.zero_div, ih, List.replicate_succ']
    rfl

/-- The digits of a number that fits are its numeral behind zeros. -/
theorem hexDigits_eq_leftpad {count value : Nat} (hcount : 0 < count) (h : value < 16 ^ count) :
    hexDigits count value = (Nat.toDigits 16 value).leftpad count '0' := by
  induction count generalizing value with
  | zero => cases hcount
  | succ count ih =>
    rw [hexDigits, Nat.toDigits_eq_if (by decide)]
    split
    case isTrue hsmall =>
      rw [Nat.div_eq_of_lt hsmall, Nat.mod_eq_of_lt hsmall, hexDigits_zero]
      rfl
    case isFalse hlarge =>
      have hdiv : value / 16 < 16 ^ count := by
        rw [Nat.div_lt_iff_lt_mul (by decide), ← Nat.pow_succ]
        exact h
      have hpos : 0 < count := by
        rcases Nat.eq_zero_or_pos count with rfl | hpos
        · exact absurd h hlarge
        · exact hpos
      rw [ih hpos hdiv, List.leftpad, List.leftpad, List.length_append, List.length_singleton,
        Nat.add_sub_add_right, List.append_assoc]

/-- A row of hexadecimal digits is read. -/
theorem exists_readHex? {cs : List Char} (h : ∀ c ∈ cs, isHexDigit c = true) :
    ∃ value, readHex? cs = some value := by
  induction cs using List.reverseRecOn with
  | nil => exact ⟨0, rfl⟩
  | append_singleton cs c ih =>
    obtain ⟨front, hfront⟩ := ih fun d hd => h d (List.mem_append_left _ hd)
    obtain ⟨k, hk⟩ := Option.isSome_iff_exists.mp (h c (by simp))
    rw [readHex?_append_singleton, hfront, Option.bind_some, hk]
    exact ⟨_, rfl⟩

/-! ### Blanks around a text -/

/-- The code points of a table of ranges. -/
def CharClass.codes (ranges : List (Nat × Nat)) : List Nat :=
  ranges.flatMap fun range => List.range' range.1 (range.2 + 1 - range.1)

/-- The code points that are found are those of the table if its ranges ascend. -/
theorem CharClass.search_eq_true_iff {code : Nat} {ranges : List (Nat × Nat)}
    (h : ranges.Pairwise fun left right => left.1 ≤ right.1) :
    search code ranges = true ↔ code ∈ codes ranges := by
  induction ranges with
  | nil => simp [search, codes]
  | cons range rest ih =>
    obtain ⟨first, last⟩ := range
    obtain ⟨hfirst, hrest⟩ := List.pairwise_cons.mp h
    rw [search, codes, List.flatMap_cons, List.mem_append, List.mem_range'_1]
    split
    case isTrue hbelow =>
      refine iff_of_false nofun ?_
      rintro (⟨hle, -⟩ | hlater)
      · exact Nat.not_le_of_lt hbelow hle
      · obtain ⟨range, hrange, hcode⟩ := List.mem_flatMap.mp hlater
        have hle := (List.mem_range'_1.mp hcode).1
        exact Nat.not_le_of_lt hbelow (Nat.le_trans (hfirst range hrange) hle)
    case isFalse hnot =>
      split
      case isTrue hle => exact iff_of_true rfl (Or.inl (by omega))
      case isFalse hgt =>
        rw [ih hrest]
        exact (or_iff_right (by omega)).symm

/-- The blanks are the 25 characters with the property White_Space. -/
theorem contains_blank_iff {c : Char} : blank.contains c = true ↔
    c.toNat ∈ [0x9, 0xa, 0xb, 0xc, 0xd, 0x20, 0x85, 0xa0, 0x1680, 0x2000, 0x2001, 0x2002, 0x2003,
      0x2004, 0x2005, 0x2006, 0x2007, 0x2008, 0x2009, 0x200a, 0x2028, 0x2029, 0x202f, 0x205f,
      0x3000] :=
  CharClass.search_eq_true_iff (by decide)

/-- Whether a text is another one between blanks. -/
def Surrounds (cs body : List Char) : Prop :=
  ∃ before after, cs = before ++ (body ++ after) ∧
    (∀ c ∈ before, blank.contains c = true) ∧ ∀ c ∈ after, blank.contains c = true

/-- Trimming removes blanks only. -/
theorem surrounds_trimChars (cs : List Char) : Surrounds cs (trimChars cs) := by
  have hsplit (ds : List Char) : ds.takeWhile blank.contains ++ trimStart ds = ds :=
    List.takeWhile_append_dropWhile
  have hblank (ds : List Char) : ∀ c ∈ ds.takeWhile blank.contains, blank.contains c = true :=
    List.all_eq_true.mp List.all_takeWhile
  have hend := congrArg List.reverse (hsplit (trimStart cs).reverse)
  rw [List.reverse_append, List.reverse_reverse] at hend
  refine ⟨cs.takeWhile blank.contains,
    ((trimStart cs).reverse.takeWhile blank.contains).reverse, ?_, hblank cs, fun c hc => ?_⟩
  · rw [trimChars, hend, hsplit]
  · exact hblank _ c (List.mem_reverse.mp hc)

/-- Blanks are removed up to the first character that is none. -/
theorem trimStart_append {before body : List Char}
    (hbefore : ∀ c ∈ before, blank.contains c = true)
    (hbody : ∀ c ∈ body, blank.contains c = false) (hne : body ≠ []) (after : List Char) :
    trimStart (before ++ (body ++ after)) = body ++ after := by
  obtain ⟨c, rest, rfl⟩ := List.exists_cons_of_ne_nil hne
  rw [trimStart, List.dropWhile_append_of_pos hbefore, List.cons_append,
    List.dropWhile_cons_of_neg]
  simp [hbody c List.mem_cons_self]

/-- Trimming removes all blanks around a text without blanks. -/
theorem trimChars_of_surrounds {cs body : List Char} (h : Surrounds cs body)
    (hbody : ∀ c ∈ body, blank.contains c = false) (hne : body ≠ []) : trimChars cs = body := by
  obtain ⟨before, after, rfl, hbefore, hafter⟩ := h
  have hback : trimStart (after.reverse ++ body.reverse) = body.reverse := by
    have h := trimStart_append (fun c hc => hafter c (List.mem_reverse.mp hc))
      (fun c hc => hbody c (List.mem_reverse.mp hc)) (List.reverse_ne_nil_iff.mpr hne) []
    rwa [List.append_nil] at h
  rw [trimChars, trimStart_append hbefore hbody hne, List.reverse_append, hback,
    List.reverse_reverse]

end Text

namespace EntityId

/-! ### Shapes of identifiers -/

/-- The shapes in which the digits of an identifier stand. -/
inductive Shape (digits : List Char) : List Char → Prop
  | bare : Shape digits digits
  | hyphenated : Shape digits (joinGroups groupWidths digits)
  | braced : Shape digits ('\x7b' :: joinGroups groupWidths digits ++ ['\x7d'])
  | urn {scheme : List Char} (hscheme : scheme.map Char.toLower = "urn:uuid:".toList) :
      Shape digits (scheme ++ joinGroups groupWidths digits)

/-- Whether a text spells an identifier with 32 hexadecimal digits: they stand in one of the shapes
between blanks. -/
def Spells (s : String) (digits : List Char) : Prop :=
  digits.length = 32 ∧ (∀ c ∈ digits, Text.isHexDigit c = true) ∧
    ∃ body, Shape digits body ∧ Text.Surrounds s.toList body

/-- Digits are those of an identifier if their lower case is how it is written. -/
theorem ofDigits?_eq_some_iff {cs : List Char} {id : EntityId} :
    ofDigits? cs = some id ↔ cs.map Char.toLower = id.digits := by
  constructor
  · intro h
    unfold ofDigits? at h
    split_ifs at h with hlength
    obtain ⟨value, hread, rfl⟩ := Option.map_eq_some_iff.mp h
    obtain ⟨hlt, hlower⟩ := Text.readHex?_eq_some_iff.mp hread
    rw [hlength] at hlt hlower
    have hword : (BitVec.ofNat 128 value).toNat = value := Nat.mod_eq_of_lt hlt
    rw [hlower, digits, hword]
  · intro h
    have hlength : cs.length = 32 := by
      rw [← List.length_map Char.toLower, h, digits, Text.length_hexDigits]
    have hread : Text.readHex? cs = some id.value.toNat := by
      rw [Text.readHex?_eq_some_iff, h, hlength]
      exact ⟨id.value.isLt, rfl⟩
    rw [ofDigits?, if_pos hlength, hread, Option.map_some, BitVec.ofNat_toNat, BitVec.setWidth_eq]

/-- Texts that come apart into groups are groups that were joined. -/
theorem splitGroups?_eq_some_iff {widths : List Nat} (hne : widths ≠ []) {cs digits : List Char} :
    splitGroups? widths cs = some digits ↔
      cs = joinGroups widths digits ∧ digits.length = widths.sum := by
  refine ⟨fun h => ?_, fun ⟨hjoin, hlength⟩ => hjoin ▸ splitGroups?_joinGroups hne hlength⟩
  fun_induction splitGroups? widths cs generalizing digits with
  | case1 => exact absurd rfl hne
  | case2 => exact absurd rfl hne
  | case3 cs =>
    obtain rfl := Option.some.inj h
    exact ⟨rfl, rfl⟩
  | case4 => cases h
  | case5 width widths cs hwidths rest hdrop ih =>
    obtain ⟨others, hothers, rfl⟩ := Option.map_eq_some_iff.mp h
    obtain ⟨hrest, hlength⟩ := ih hwidths hothers
    have htake : (cs.take width).length = width := by
      have hlong := congrArg List.length hdrop
      rw [List.length_drop, List.length_cons] at hlong
      rw [List.length_take]
      omega
    refine ⟨?_, ?_⟩
    · rw [joinGroups, List.take_left' htake, List.drop_left' htake, ← hrest, ← hdrop,
        List.take_append_drop]
      exact hwidths
    · rw [List.length_append, htake, hlength, List.sum_cons]
  | case6 => cases h

/-- A text inside braces is what stands between them. -/
theorem unbraced?_eq_some_iff {cs inner : List Char} :
    unbraced? cs = some inner ↔ cs = '\x7b' :: inner ++ ['\x7d'] := by
  constructor
  · intro h
    unfold unbraced? at h
    split_ifs at h with hbraces
    obtain rfl := Option.some.inj h
    obtain ⟨hlength, hopen, hclose⟩ := hbraces
    obtain ⟨rest, rfl⟩ := List.head?_eq_some_iff.mp hopen
    obtain ⟨front, hfront⟩ := List.getLast?_eq_some_iff.mp hclose
    cases front with
    | nil => simp_all
    | cons c front =>
      obtain ⟨rfl, rfl⟩ := List.cons_eq_cons.mp hfront
      simp
  · rintro rfl
    have hclose : ('\x7b' :: inner ++ ['\x7d']).getLast? = some '\x7d' := List.getLast?_concat
    rw [unbraced?, if_pos ⟨by simp, rfl, hclose⟩]
    simp

/-- A text after a scheme is what stands behind it. -/
theorem afterUrn?_eq_some_iff {cs rest : List Char} :
    afterUrn? cs = some rest ↔
      ∃ scheme, cs = scheme ++ rest ∧ scheme.map Char.toLower = "urn:uuid:".toList := by
  constructor
  · intro h
    unfold afterUrn? at h
    split_ifs at h with hscheme
    obtain rfl := Option.some.inj h
    exact ⟨cs.take 9, (List.take_append_drop 9 cs).symm, hscheme⟩
  · rintro ⟨scheme, rfl, hscheme⟩
    have hlength : scheme.length = 9 := by
      rw [← List.length_map Char.toLower, hscheme]
      rfl
    rw [afterUrn?, List.take_left' hlength, List.drop_left' hlength, if_pos hscheme]

/-! ### What is read -/

/-- Whether a character is one byte and no blank. -/
def IsPlain (c : Char) : Prop :=
  Text.blank.contains c = false ∧ c.utf8Size = 1

instance : DecidablePred IsPlain := fun _ => inferInstanceAs (Decidable (_ ∧ _))

/-- A character whose lower case is plain is plain. -/
theorem isPlain_of_toLower {c : Char} (h : IsPlain c.toLower) : IsPlain c := by
  rcases Text.toLower_eq_self_or_capital c with hself | ⟨k, hk, rfl⟩
  · rwa [← hself]
  · revert k
    decide

/-- Hexadecimal digits are plain. -/
theorem isPlain_of_isHexDigit {c : Char} (h : Text.isHexDigit c = true) : IsPlain c := by
  obtain ⟨k, hk⟩ := Option.isSome_iff_exists.mp h
  obtain ⟨hlt, hlower⟩ := Text.hexValue?_eq_some_iff.mp hk
  have hwritten : ∀ k < 16, IsPlain (Nat.digitChar k) := by decide
  exact isPlain_of_toLower (hlower ▸ hwritten k hlt)

/-- Groups of digits are plain. -/
theorem isPlain_of_mem_joinGroups {digits : List Char}
    (hdigits : ∀ c ∈ digits, Text.isHexDigit c = true) {c : Char}
    (h : c ∈ joinGroups groupWidths digits) : IsPlain c := by
  rcases mem_joinGroups h with hmem | rfl
  · exact isPlain_of_isHexDigit (hdigits c hmem)
  · decide

/-- Digits in any shape are plain. -/
theorem Shape.isPlain {digits cs : List Char} (h : Shape digits cs)
    (hdigits : ∀ c ∈ digits, Text.isHexDigit c = true) : ∀ c ∈ cs, IsPlain c := by
  intro c hc
  cases h with
  | bare => exact isPlain_of_isHexDigit (hdigits c hc)
  | hyphenated => exact isPlain_of_mem_joinGroups hdigits hc
  | braced =>
    rcases List.mem_append.mp hc with hc | hc
    · rcases List.mem_cons.mp hc with rfl | hc
      · decide
      · exact isPlain_of_mem_joinGroups hdigits hc
    · obtain rfl := List.mem_singleton.mp hc
      decide
  | @urn scheme hscheme =>
    rcases List.mem_append.mp hc with hc | hc
    · have hlower : c.toLower ∈ "urn:uuid:".toList := hscheme ▸ List.mem_map_of_mem hc
      have hall : "urn:uuid:".toList.all (fun d => decide (IsPlain d)) = true := by decide
      exact isPlain_of_toLower (of_decide_eq_true (List.all_eq_true.mp hall _ hlower))
    · exact isPlain_of_mem_joinGroups hdigits hc

/-- Thirty-two digits have 36 characters in groups. -/
theorem length_groups {digits : List Char} (h : digits.length = 32) :
    (joinGroups groupWidths digits).length = 36 := by
  have hjoin : (joinGroups groupWidths digits).length + 1 = digits.length + 5 :=
    length_joinGroups (by decide) h
  omega

/-- The characters that are the digits of an identifier in some letter case are 32 digits. -/
theorem exists_digits_iff {digits : List Char} :
    (∃ id : EntityId, digits.map Char.toLower = id.digits) ↔
      digits.length = 32 ∧ ∀ c ∈ digits, Text.isHexDigit c = true := by
  constructor
  · rintro ⟨id, hid⟩
    refine ⟨?_, fun c hc => ?_⟩
    · rw [← List.length_map Char.toLower, hid, EntityId.digits, Text.length_hexDigits]
    · have hlower : c.toLower ∈ id.digits := hid ▸ List.mem_map_of_mem hc
      obtain ⟨k, hk, hwritten⟩ := Text.exists_digitChar_of_mem_hexDigits hlower
      exact Option.isSome_iff_exists.mpr ⟨k, Text.hexValue?_eq_some_iff.mpr ⟨hk, hwritten⟩⟩
  · rintro ⟨hlength, hdigits⟩
    obtain ⟨value, hread⟩ := Text.exists_readHex? hdigits
    refine ⟨⟨BitVec.ofNat 128 value⟩, ofDigits?_eq_some_iff.mp ?_⟩
    rw [ofDigits?, if_pos hlength, hread, Option.map_some]

/-- Groups are read as the identifier whose digits are joined in them. -/
theorem ofGroups?_eq_some_iff {cs : List Char} {id : EntityId} :
    ofGroups? cs = some id ↔
      ∃ digits, cs = joinGroups groupWidths digits ∧ digits.map Char.toLower = id.digits := by
  have hne : groupWidths ≠ [] := by decide
  simp only [ofGroups?, Option.bind_eq_some_iff, ofDigits?_eq_some_iff,
    splitGroups?_eq_some_iff hne]
  constructor
  · rintro ⟨digits, ⟨hjoin, -⟩, hid⟩
    exact ⟨digits, hjoin, hid⟩
  · rintro ⟨digits, hjoin, hid⟩
    exact ⟨digits, ⟨hjoin, (exists_digits_iff.mp ⟨id, hid⟩).1⟩, hid⟩

/-- The digits of an identifier in any shape are read as the identifier. -/
theorem Shape.ofTrimmed_eq_ok {digits cs : List Char} (h : Shape digits cs) {id : EntityId}
    (hid : digits.map Char.toLower = id.digits) : ofTrimmed cs = .ok id := by
  obtain ⟨hlength, hdigits⟩ := exists_digits_iff.mp ⟨id, hid⟩
  have hbytes : byteLength cs = cs.length :=
    byteLength_eq_length fun c hc => (h.isPlain hdigits c hc).2
  have hgroups : ofGroups? (joinGroups groupWidths digits) = some id :=
    ofGroups?_eq_some_iff.mpr ⟨digits, rfl, hid⟩
  have hjoined := length_groups hlength
  cases h with
  | bare =>
    have hform : groupText? digits = none := by simp [groupText?, hbytes, hlength]
    rw [ofTrimmed, hform, ofDigits?_eq_some_iff.mpr hid]
  | hyphenated =>
    have hform : groupText? (joinGroups groupWidths digits) =
        some (joinGroups groupWidths digits) := by simp [groupText?, hbytes, hjoined]
    simp only [ofTrimmed, hform, hgroups]
  | braced =>
    have hform : groupText? ('\x7b' :: joinGroups groupWidths digits ++ ['\x7d']) =
        some (joinGroups groupWidths digits) := by
      rw [groupText?, hbytes, unbraced?_eq_some_iff.mpr rfl]
      simp [hjoined]
    simp only [ofTrimmed, hform, hgroups]
  | @urn scheme hscheme =>
    have hnine : scheme.length = 9 := by
      rw [← List.length_map Char.toLower, hscheme]
      rfl
    have hform : groupText? (scheme ++ joinGroups groupWidths digits) =
        some (joinGroups groupWidths digits) := by
      rw [groupText?, hbytes, afterUrn?_eq_some_iff.mpr ⟨scheme, rfl, hscheme⟩]
      simp [hjoined, hnine]
    simp only [ofTrimmed, hform, hgroups]

/-- What has to be groups stands alone, in braces or after a scheme. -/
theorem shape_of_groupText? {cs digits : List Char}
    (h : groupText? cs = some (joinGroups groupWidths digits)) : Shape digits cs := by
  unfold groupText? at h
  split_ifs at h
  · obtain rfl := Option.some.inj h
    exact .hyphenated
  · obtain rfl := unbraced?_eq_some_iff.mp h
    exact .braced
  · obtain ⟨scheme, rfl, hscheme⟩ := afterUrn?_eq_some_iff.mp h
    exact .urn hscheme

/-- A text without blanks around it is read as the identifier whose digits stand in one of the
shapes. -/
theorem ofTrimmed_eq_ok_iff {cs : List Char} {id : EntityId} :
    ofTrimmed cs = .ok id ↔
      ∃ digits, Shape digits cs ∧ digits.map Char.toLower = id.digits := by
  refine ⟨fun h => ?_, fun ⟨digits, hshape, hid⟩ => hshape.ofTrimmed_eq_ok hid⟩
  unfold ofTrimmed at h
  split at h
  case h_1 groups hform =>
    split at h
    case h_1 found hgroups =>
      obtain rfl := Except.ok.inj h
      obtain ⟨digits, rfl, hid⟩ := ofGroups?_eq_some_iff.mp hgroups
      exact ⟨digits, shape_of_groupText? hform, hid⟩
    case h_2 => cases h
  case h_2 =>
    split at h
    case h_1 found hdigits =>
      obtain rfl := Except.ok.inj h
      exact ⟨cs, .bare, ofDigits?_eq_some_iff.mp hdigits⟩
    case h_2 => cases h

/-- Whether a text spells an identifier: its digits are those of the identifier but for their letter
case. -/
def SpelledBy (id : EntityId) (s : String) : Prop :=
  ∃ digits, Spells s digits ∧ digits.map Char.toLower = id.digits

/-- A text is read as the identifier that it spells. -/
theorem parse_eq_ok_iff {s : String} {id : EntityId} : parse s = .ok id ↔ id.SpelledBy s := by
  rw [parse, ofTrimmed_eq_ok_iff]
  constructor
  · rintro ⟨digits, hshape, hid⟩
    obtain ⟨hlength, hdigits⟩ := exists_digits_iff.mp ⟨id, hid⟩
    exact ⟨digits, ⟨hlength, hdigits, _, hshape, Text.surrounds_trimChars _⟩, hid⟩
  · rintro ⟨digits, ⟨-, hdigits, body, hshape, hbody⟩, hid⟩
    have hne : body ≠ [] := by
      rintro rfl
      cases hshape.ofTrimmed_eq_ok hid
    rw [Text.trimChars_of_surrounds hbody (fun c hc => (hshape.isPlain hdigits c hc).1) hne]
    exact ⟨digits, hshape, hid⟩

/-- Digits that a text spells are those of one identifier. -/
theorem exists_digits_of_spells {s : String} {digits : List Char} (h : Spells s digits) :
    ∃ id : EntityId, digits.map Char.toLower = id.digits :=
  exists_digits_iff.mpr ⟨h.1, h.2.1⟩

/-- The digits of an identifier are in lower case. -/
theorem map_toLower_digits (id : EntityId) : id.digits.map Char.toLower = id.digits := by
  have hwritten : ∀ k < 16, (Nat.digitChar k).toLower = Nat.digitChar k := by decide
  have hself : ∀ c ∈ id.digits, c.toLower = c := by
    intro c hc
    obtain ⟨k, hk, rfl⟩ := Text.exists_digitChar_of_mem_hexDigits hc
    exact hwritten k hk
  rw [List.map_congr_left hself, List.map_id']

/-- Identifiers with the same digits are the same. -/
theorem digits_injective : Function.Injective digits := by
  intro a b h
  have hdigits := ofDigits?_eq_some_iff.mpr (map_toLower_digits a)
  rw [ofDigits?_eq_some_iff.mpr ((map_toLower_digits a).trans h)] at hdigits
  exact (Option.some.inj hdigits).symm

end EntityId

namespace Document

/-- A text in an identifier field is read, or reported with the reason why it is no identifier. -/
theorem read_id_eq_parse {doc : Document} {field s : String}
    (h : doc.get? field = some (.string s)) :
    doc.read .id field = (EntityId.parse s).mapError (.malformedIdentifier field s) := by
  rw [read, present?, h]
  rfl

/-- An identifier is written as its text, and the nil one not at all. -/
theorem write_id (base : Document) (field : String) (id : EntityId) :
    base.write .id field id = if id = .nil then base else base.insert field (.string id.text) := by
  rw [write, FieldKind.encode?]
  by_cases hnil : id = .nil
  · rw [if_pos hnil, if_pos (EntityId.isNil_iff.mpr hnil)]
  · rw [if_neg hnil, if_neg (fun h => hnil (EntityId.isNil_iff.mp h))]

/-- The identifier of a field, written behind other members. -/
def rewriteId (doc base : Document) (field : String) : Except CodecError Document :=
  (doc.read .id field).map (base.write .id field)

/-- An identifier that is written again stays as it is written. -/
theorem rewriteId_rewriteId {doc base normal : Document} {field : String}
    (habsent : base.get? field = none) (h : doc.rewriteId base field = .ok normal) :
    normal.rewriteId base field = .ok normal := by
  cases hread : doc.read .id field with
  | error cause =>
    rw [rewriteId, hread] at h
    cases h
  | ok id =>
    rw [rewriteId, hread] at h
    obtain rfl := Except.ok.inj h
    have hagain := read_eq_ok (get?_write_self habsent .id id)
    rw [rewriteId, hagain]
    rfl

/-- The identifier of a field is read from just the texts that spell it, any other text is reported
as it stands, and the digits decide which identifier it is. It is written in lower-case groups, the
nil one not at all, and so has one normal form. The first two parts say which characters are digits
and blanks in a spelling. -/
theorem idFields_normalized :
    (∀ c, Text.isHexDigit c = true ↔ c.toLower ∈ "0123456789abcdef".toList) ∧
    (∀ c, Text.blank.contains c = true ↔ c.toNat ∈
      [0x9, 0xa, 0xb, 0xc, 0xd, 0x20, 0x85, 0xa0, 0x1680, 0x2000, 0x2001, 0x2002, 0x2003, 0x2004,
        0x2005, 0x2006, 0x2007, 0x2008, 0x2009, 0x200a, 0x2028, 0x2029, 0x202f, 0x205f, 0x3000]) ∧
    (∀ (doc : Document) (field s : String), doc.get? field = some (.string s) →
      (∀ id, doc.read .id field = .ok id ↔ EntityId.SpelledBy id s) ∧
      ((∀ id : EntityId, ¬ id.SpelledBy s) →
        ∃ reason, doc.read .id field = .error (.malformedIdentifier field s reason))) ∧
    (∀ (base : Document) (field : String) (id : EntityId),
      base.write .id field id = if id = .nil then base else base.insert field (.string id.text)) ∧
    (∀ id : EntityId,
      id.text.toList = EntityId.joinGroups [8, 4, 4, 4, 12] id.digits ∧
        id.digits = (Nat.toDigits 16 id.value.toNat).leftpad 32 '0' ∧ id.digits.length = 32 ∧
        (∀ c ∈ id.digits, c ∈ "0123456789abcdef".toList) ∧ id.SpelledBy id.text) ∧
    (∀ (doc base normal : Document) (field : String), base.get? field = none →
      doc.rewriteId base field = .ok normal → normal.rewriteId base field = .ok normal) ∧
    ∀ (s t : String) (digits others : List Char), EntityId.Spells s digits →
      EntityId.Spells t others →
      ∀ (doc other : Document) (field : String), doc.get? field = some (.string s) →
        other.get? field = some (.string t) →
        ∃ id id' : EntityId, doc.read .id field = .ok id ∧ other.read .id field = .ok id' ∧
          (id = id' ↔ digits.map Char.toLower = others.map Char.toLower) := by
  have hread {doc : Document} {field s : String} (h : doc.get? field = some (.string s))
      (id : EntityId) : doc.read .id field = .ok id ↔ id.SpelledBy s := by
    rw [read_id_eq_parse h, ← EntityId.parse_eq_ok_iff]
    cases EntityId.parse s <;> simp [Except.mapError]
  refine ⟨fun c => Text.isHexDigit_iff, fun c => Text.contains_blank_iff,
    fun doc field s h => ⟨hread h, fun hno => ?_⟩, write_id, fun id => ?_,
    fun doc base normal field => rewriteId_rewriteId, ?_⟩
  · cases hparse : EntityId.parse s with
    | ok id => exact absurd (EntityId.parse_eq_ok_iff.mp hparse) (hno id)
    | error reason =>
      rw [read_id_eq_parse h, hparse]
      exact ⟨reason, rfl⟩
  · refine ⟨String.toList_ofList, Text.hexDigits_eq_leftpad (by decide) id.value.isLt,
      Text.length_hexDigits 32 _, fun c hc => ?_, EntityId.parse_eq_ok_iff.mp id.parse_text⟩
    obtain ⟨k, hk, rfl⟩ := Text.exists_digitChar_of_mem_hexDigits hc
    rw [Text.toList_digits]
    exact List.mem_map_of_mem (List.mem_range.mpr hk)
  · intro s t digits others hs ht doc other field hdoc hother
    obtain ⟨id, hid⟩ := EntityId.exists_digits_of_spells hs
    obtain ⟨id', hid'⟩ := EntityId.exists_digits_of_spells ht
    refine ⟨id, id', (hread hdoc id).mpr ⟨digits, hs, hid⟩,
      (hread hother id').mpr ⟨others, ht, hid'⟩, ?_⟩
    rw [hid, hid']
    exact EntityId.digits_injective.eq_iff.symm

/-- The same digits in braces and in upper case, and after a scheme between blanks, are read as one
identifier, which has the text in hyphenated groups as its normal form. A zero-width space is no
blank, and the nil identifier leaves no member. -/
theorem idFields_normalized_urn :
    let id : EntityId := ⟨0xab⟩
    let held (s : String) : Document := ⟨[("item_id", .string s)]⟩
    let wrapped := "\x7b00000000-0000-0000-0000-0000000000AB\x7d"
    let named := "\u3000Urn:UUID:00000000-0000-0000-0000-0000000000aB\t "
    let digits := "000000000000000000000000000000AB".toList
    let others := "000000000000000000000000000000aB".toList
    let hidden := "\u200b00000000-0000-0000-0000-0000000000ab"
    let zeros := "00000000000000000000000000000000"
    EntityId.Spells wrapped digits ∧ EntityId.Spells named others ∧
      (held wrapped).read .id "item_id" = .ok id ∧ (held named).read .id "item_id" = .ok id ∧
      (held named).rewriteId .empty "item_id" = .ok (held id.text) ∧
      (held id.text).rewriteId .empty "item_id" = .ok (held id.text) ∧
      (∃ reason, (held hidden).read .id "item_id" =
        .error (.malformedIdentifier "item_id" hidden reason)) ∧
      (held zeros).rewriteId .empty "item_id" = .ok .empty := by
  intro id held wrapped named digits others hidden zeros
  obtain ⟨-, -, hread, -, -, hagain, hagree⟩ := idFields_normalized
  have hwrapped : EntityId.Spells wrapped digits :=
    ⟨by decide, List.all_eq_true.mp (by decide), _, .braced, [], [], by decide,
      List.forall_mem_nil _, List.forall_mem_nil _⟩
  have hnamed : EntityId.Spells named others :=
    ⟨by decide, List.all_eq_true.mp (by decide), "Urn:UUID:".toList ++ _, .urn (by decide),
      ['\u3000'], ['\t', ' '], by decide, List.all_eq_true.mp (by decide),
      List.all_eq_true.mp (by decide)⟩
  have hzeros : EntityId.Spells zeros zeros.toList :=
    ⟨by decide, List.all_eq_true.mp (by decide), _, .bare, [], [], by decide,
      List.forall_mem_nil _, List.forall_mem_nil _⟩
  have hleft : (held wrapped).read .id "item_id" = .ok id :=
    ((hread _ "item_id" wrapped rfl).1 id).mpr ⟨digits, hwrapped, by decide⟩
  obtain ⟨left, right, hleft', hright, hsame⟩ :=
    hagree wrapped named digits others hwrapped hnamed (held wrapped) (held named) "item_id" rfl rfl
  obtain rfl : left = id := Except.ok.inj (hleft'.symm.trans hleft)
  obtain rfl : id = right := hsame.mpr (by decide)
  have hnormal : (held named).rewriteId .empty "item_id" = .ok (held id.text) := by
    rw [rewriteId, hright]
    rfl
  have hhidden : ∀ other : EntityId, ¬ other.SpelledBy hidden := by
    intro other hother
    have hrefused : (held hidden).read .id "item_id" =
        .error (.malformedIdentifier "item_id" hidden (.invalidCharacter '\u200b' 0)) := by
      decide +kernel
    rw [((hread _ "item_id" hidden rfl).1 other).mpr hother] at hrefused
    cases hrefused
  have hnil : (held zeros).read .id "item_id" = .ok .nil :=
    ((hread _ "item_id" zeros rfl).1 .nil).mpr ⟨zeros.toList, hzeros, by decide⟩
  refine ⟨hwrapped, hnamed, hleft, hright, hnormal, hagain _ .empty _ "item_id" rfl hnormal,
    (hread _ "item_id" hidden rfl).2 hhidden, ?_⟩
  rw [rewriteId, hnil]
  rfl

end Document

end Stockroom
