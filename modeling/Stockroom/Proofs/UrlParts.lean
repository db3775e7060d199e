import Stockroom.Proofs.PercentText
import Stockroom.Url.Basic

/-!
# What the parts of URLs hold

Main statement: whatever a URL is read from, its host has none of the characters that end a host,
and behind a host no segment of the path stands for nothing or takes back another one. The forms
that domain names have in the place of other characters bring no such character in.
-/

namespace Stockroom.Url

namespace Host

/-- The characters that end a host, one by one. -/
def marks : List Char :=
  ['\x00', '\t', '\n', '\r', ' ', '#', '/', ':', '<', '>', '?', '@', '[', '\\', ']', '^', '|']

theorem isForbidden_eq_true_iff {c : Char} : isForbidden c = true ↔ c ∈ marks := by
  rw [isForbidden, String.toList_ofList, marks, List.contains_iff_mem]

/-- A character beyond ASCII ends no host. -/
theorem not_mem_marks_of_le {c : Char} (h : 128 ≤ c.toNat) : c ∉ marks := by
  have hmarks : marks.all (·.toNat < 128) = true := by decide
  intro hmem
  have hsmall := List.all_eq_true.mp hmarks c hmem
  exact absurd (of_decide_eq_true hsmall) (Nat.not_lt.mpr h)

end Host

namespace Domain

/-- A text with none of the characters that end a host. -/
def Unmarked (cs : List Char) : Prop :=
  ∀ c ∈ cs, c ∉ Host.marks

theorem unmarked_of_all {cs : List Char} (h : cs.all (!Host.marks.contains ·) = true) :
    Unmarked cs := by
  intro c hc hmem
  have hmark := List.all_eq_true.mp h c hc
  rw [List.contains_iff_mem.mpr hmem] at hmark
  cases hmark

theorem unmarked_singleton {c : Char} (h : c ∉ Host.marks) : Unmarked [c] :=
  List.forall_mem_singleton.mpr h

/-- The forms of a row of the table are those of its text. -/
theorem unmarked_of_mem_row {first : Nat} {text : List Char}
    (h : (text.splitOn ' ').all (·.all (!Host.marks.contains ·)) = true) :
    ∀ form ∈ (Prod.mk first (String.ofList text)).2.toList.splitOn ' ', Unmarked form := by
  rw [String.toList_ofList]
  exact fun form hform => unmarked_of_all (List.all_eq_true.mp h form hform)

/-- The forms of all rows. -/
theorem unmarked_of_mem_asciiRows :
    ∀ row ∈ asciiRows, ∀ form ∈ row.2.toList.splitOn ' ', Unmarked form := by
  rw [asciiRows]
  repeat' refine List.forall_mem_cons.mpr ⟨unmarked_of_mem_row (by decide +kernel), ?_⟩
  exact List.forall_mem_nil _

/-- The text that stands for a character beyond ASCII ends no host. -/
theorem unmarked_of_asciiForm? {c : Char} {form : List Char} (h : asciiForm? c = some form) :
    Unmarked form := by
  rw [asciiForm?, Option.or_eq_some_iff] at h
  rcases h with h | ⟨-, h⟩
  · obtain ⟨row, hrow, hform⟩ := List.exists_of_findSome?_eq_some h
    rw [asciiRowForm?] at hform
    split_ifs at hform
    exact unmarked_of_mem_asciiRows row hrow form (List.mem_of_getElem? hform)
  · have hrows : alphabetRows.all (·.2.2.toList.all (!Host.marks.contains ·)) = true := by decide
    obtain ⟨⟨first, last, alphabet⟩, hrow, hform⟩ := List.exists_of_findSome?_eq_some h
    rw [alphabetRowForm?] at hform
    split_ifs at hform
    obtain ⟨d, hd, rfl⟩ := Option.map_eq_some_iff.mp hform
    have halphabet := unmarked_of_all (List.all_eq_true.mp hrows _ hrow)
    exact unmarked_singleton (halphabet d (List.mem_of_getElem? hd))

/-- What a name holds in the place of a character ends no host. -/
theorem unmarked_of_charForm? {c : Char} {form : List Char} (h : charForm? c = some form) :
    Unmarked form := by
  rw [charForm?] at h
  split_ifs at h with hascii hforbidden hignored hrefused
  · have hlower : isForbidden c = false → Host.marks.contains c.toLower = false :=
      Text.forall_within 0 127 (by decide +kernel) c (Nat.zero_le _) (Nat.le_of_lt_succ hascii)
    obtain rfl := Option.some.inj h
    have hmark := hlower (eq_false_of_ne_true hforbidden)
    rw [List.contains_eq_mem, decide_eq_false_iff_not] at hmark
    exact unmarked_singleton hmark
  · obtain rfl := Option.some.inj h
    exact List.forall_mem_nil _
  · obtain rfl := Option.some.inj h
    cases hform : asciiForm? c with
    | some form => exact unmarked_of_asciiForm? hform
    | none => exact unmarked_singleton (Host.not_mem_marks_of_le (Nat.le_of_not_lt hascii))

/-- What a name holds in the place of a text ends no host. -/
theorem unmarked_flatten_of_mapM {cs : List Char} {forms : List (List Char)}
    (h : cs.mapM charForm? = some forms) : Unmarked forms.flatten := by
  induction cs generalizing forms with
  | nil =>
    obtain rfl := Option.some.inj h
    exact List.forall_mem_nil _
  | cons c cs ih =>
    simp only [List.mapM_cons, Option.bind_eq_bind, Option.bind_eq_some_iff] at h
    obtain ⟨form, hform, rest, hrest, hforms⟩ := h
    obtain rfl := Option.some.inj hforms
    exact List.forall_mem_append.mpr ⟨unmarked_of_charForm? hform, ih hrest⟩

/-- The labels of a name make up a text that ends no host. -/
theorem unmarked_of_labels? {cs : List Char} {labels : List (List Char)}
    (h : labels? cs = some labels) : Unmarked (List.intercalate ['.'] labels) := by
  simp only [labels?, Option.bind_eq_bind, Option.bind_eq_some_iff] at h
  obtain ⟨forms, hforms, texts, -, h⟩ := h
  split_ifs at h
  obtain rfl := Option.some.inj h
  rw [List.intercalate_splitOn]
  exact unmarked_flatten_of_mapM hforms

end Domain

/-- A host that is an address or a text with none of the characters that end a host. -/
def Host.IsClosed : Host → Prop
  | .name cs => Domain.Unmarked cs
  | .address _ => True

/-- Hosts that are read do not hold what ends a host. -/
theorem Host.isClosed_of_ofText? {kind : SchemeKind} {cs : List Char} {host : Host}
    (h : ofText? kind cs = some host) : host.IsClosed := by
  unfold ofText? at h
  split at h
  · split_ifs at h
    obtain ⟨address, -, rfl⟩ := Option.map_eq_some_iff.mp h
    trivial
  · split_ifs at h with hkind hmark
    · obtain rfl := Option.some.inj h
      exact fun c hc hmem =>
        hmark (List.any_eq_true.mpr ⟨c, hc, isForbidden_eq_true_iff.mpr hmem⟩)
    · simp only [ofDomain?, Option.bind_eq_bind, Option.bind_eq_some_iff] at h
      obtain ⟨text, -, labels, hlabels, h⟩ := h
      split_ifs at h
      · obtain ⟨address, -, rfl⟩ := Option.map_eq_some_iff.mp h
        trivial
      · obtain rfl := Option.some.inj h
        exact Domain.unmarked_of_labels? hlabels

/-- The same for the host of an authority. -/
theorem Authority.isClosed_of_ofText? {kind : SchemeKind} {cs rest : List Char} {isEnd : Bool}
    {authority : Authority} (h : ofText? kind cs isEnd = some (authority, rest)) :
    ∀ host ∈ authority.host, host.IsClosed := by
  simp only [ofText?, Option.bind_eq_bind] at h
  split_ifs at h
  · obtain rfl := (Prod.mk.inj (Option.some.inj h)).1
    exact fun host hhost => nomatch hhost
  · obtain ⟨host, hhost, h⟩ := Option.bind_eq_some_iff.mp h
    obtain ⟨⟨port, rest⟩, -, h⟩ := Option.bind_eq_some_iff.mp h
    split_ifs at h
    obtain rfl := (Prod.mk.inj (Option.some.inj h)).1
    intro other hother
    obtain rfl := Option.some.inj hother
    exact Host.isClosed_of_ofText? hhost

/-- The segments of a path that is read stand for themselves. -/
theorem Path.isPlain_of_mem_ofText (kind : SchemeKind) (cs : List Char) :
    ∀ segment ∈ ofText kind cs, IsPlain segment :=
  isPlain_of_mem_resolve (List.forall_mem_nil _)

/-- What holds of a server and a path that are read: a host ends where it ends, and behind it the
segments stand for themselves. -/
def IsOrderly (authority : Authority) (path : List (List Char)) : Prop :=
  ∀ host ∈ authority.host, host.IsClosed ∧ ∀ segment ∈ path, Path.IsPlain segment

theorem isOrderly_of_host_eq_none {authority : Authority} (h : authority.host = none)
    (path : List (List Char)) : IsOrderly authority path := by
  intro host hhost
  rw [h] at hhost
  cases hhost

theorem isOrderly_of_fileParts? {body : List Char} {authority : Authority}
    {path : List (List Char)} (h : fileParts? body = some (authority, path)) :
    IsOrderly authority path := by
  simp only [fileParts?, Option.bind_eq_bind] at h
  split_ifs at h
  · obtain ⟨rfl, rfl⟩ := Prod.mk.inj (Option.some.inj h)
    exact isOrderly_of_host_eq_none rfl _
  · obtain ⟨rfl, rfl⟩ := Prod.mk.inj (Option.some.inj h)
    exact isOrderly_of_host_eq_none rfl _
  · obtain ⟨host, hhost, h⟩ := Option.bind_eq_some_iff.mp h
    obtain ⟨rfl, rfl⟩ := Prod.mk.inj (Option.some.inj h)
    intro other hother
    obtain rfl := Option.some.inj hother
    exact ⟨Host.isClosed_of_ofText? hhost, Path.isPlain_of_mem_ofText _ _⟩

theorem isOrderly_of_serverParts? {kind : SchemeKind} {body : List Char} {isEnd : Bool}
    {authority : Authority} {path : List (List Char)}
    (h : serverParts? kind body isEnd = some (authority, path)) : IsOrderly authority path := by
  simp only [serverParts?, Option.bind_eq_bind, Option.bind_eq_some_iff] at h
  obtain ⟨⟨read, rest⟩, hread, h⟩ := h
  obtain ⟨rfl, rfl⟩ := Prod.mk.inj (Option.some.inj h)
  exact fun host hhost =>
    ⟨Authority.isClosed_of_ofText? hread host hhost, Path.isPlain_of_mem_ofText _ _⟩

theorem isOrderly_of_parts? {kind : SchemeKind} {body : List Char} {isEnd : Bool}
    {authority : Authority} {path : List (List Char)}
    (h : parts? kind body isEnd = some (authority, path)) : IsOrderly authority path := by
  unfold parts? at h
  split at h
  · exact isOrderly_of_fileParts? h
  · exact isOrderly_of_serverParts? h
  · exact isOrderly_of_serverParts? h
  · obtain ⟨rfl, -⟩ := Prod.mk.inj (Option.some.inj h)
    exact isOrderly_of_host_eq_none rfl _
  · obtain ⟨rfl, -⟩ := Prod.mk.inj (Option.some.inj h)
    exact isOrderly_of_host_eq_none rfl _

/-- Whatever a URL is read from, its host ends where it ends and its segments stand for
themselves. -/
theorem isOrderly_of_ofText? {text : String} {url : Url} (h : ofText? text = some url) :
    IsOrderly url.authority url.path := by
  simp only [ofText?, Option.bind_eq_bind, Option.bind_eq_some_iff] at h
  obtain ⟨body, -, h⟩ := h
  split_ifs at h
  obtain ⟨⟨authority, path⟩, hparts, h⟩ := Option.bind_eq_some_iff.mp h
  obtain rfl := Option.some.inj h
  exact isOrderly_of_parts? hparts

end Stockroom.Url
