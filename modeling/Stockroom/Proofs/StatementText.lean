import Stockroom.Proofs.DecimalText
import Stockroom.Proofs.Fragments

/-!
# Placeholders and parentheses in texts

The text of a statement is read again as a server reads it: a dollar sign and the digits behind it
are a placeholder, and parentheses open and close a depth. If the fixed texts hold no dollar sign and
begin with no digit, the placeholders read are the numbers of the bound values, one after the other.
-/

namespace Stockroom.Postgres

/-! ### Placeholders -/

/-- The numbers of the placeholders in a text, in their order. Every dollar sign counts, with all the
digits behind it. -/
def placeholders : List Char → List Nat
  | [] => []
  | c :: rest =>
    if c = '$' then Nat.ofDigitChars 10 (rest.takeWhile Char.isDigit) 0 :: placeholders rest
    else placeholders rest

/-- A text that is neither a placeholder nor a part of one: it has no dollar sign, and its beginning
does not go on with the digits before it. -/
def Inert (text : String) : Prop :=
  '$' ∉ text.toList ∧ ∀ c ∈ text.toList.head?, c.isDigit = false

instance (text : String) : Decidable (Inert text) :=
  -- by name, so that it looks at the first character and not at all characters that there are
  @instDecidableAnd _ _ _ (Option.decidableForallMem _)

/-- A piece the text of which leaves placeholders alone. -/
def Piece.Inert : Piece → Prop
  | .sql text => Postgres.Inert text
  | .bind _ => True

/-- A text that goes on behind an inert one without a dollar sign is inert. -/
theorem Inert.append {left right : String} (hleft : Inert left) (hne : left ≠ "")
    (hright : '$' ∉ right.toList) : Inert (left ++ right) := by
  have hchars : left.toList ≠ [] := fun h => hne (String.toList_eq_nil_iff.mp h)
  obtain ⟨first, others, hfirst⟩ := List.exists_cons_of_ne_nil hchars
  constructor
  · rw [String.toList_append, List.mem_append]
    rintro (h | h)
    · exact hleft.1 h
    · exact hright h
  · have hhead := hleft.2
    rw [hfirst] at hhead
    rwa [String.toList_append, hfirst]

/-- No digit is a dollar sign. -/
theorem dollar_not_mem_toDigits (number : Nat) : '$' ∉ Nat.toDigits 10 number := by
  intro hmem
  have hdigit := Text.isDigit_of_mem_toDigits hmem
  exact absurd hdigit (by decide)

/-- What has no dollar sign has no placeholder. -/
theorem placeholders_append_of_not_mem {left : List Char} (h : '$' ∉ left) (right : List Char) :
    placeholders (left ++ right) = placeholders right := by
  induction left with
  | nil => rfl
  | cons c rest ih =>
    obtain ⟨hc, hrest⟩ : '$' ≠ c ∧ '$' ∉ rest := by simpa using h
    rw [List.cons_append, placeholders, if_neg (Ne.symm hc), ih hrest]

/-- The text of a bound value is read as its number, if no digit follows. -/
theorem placeholders_number (number : Nat) {rest : List Char}
    (h : ∀ c ∈ rest.head?, c.isDigit = false) :
    placeholders ('$' :: Nat.toDigits 10 number ++ rest) = number :: placeholders rest := by
  have hdigits : ∀ c ∈ Nat.toDigits 10 number, c.isDigit = true :=
    fun c hc => Text.isDigit_of_mem_toDigits hc
  have hrest : rest.takeWhile Char.isDigit = [] := by
    cases rest with
    | nil => rfl
    | cons c rest =>
      have hc : c.isDigit = false := h c rfl
      simp [hc]
  have hread : (Nat.toDigits 10 number ++ rest).takeWhile Char.isDigit =
      Nat.toDigits 10 number := by
    rw [List.takeWhile_append_of_pos hdigits, hrest, List.append_nil]
  rw [List.cons_append, placeholders, if_pos rfl, hread, Nat.ofDigitChars_ten_toDigits,
    placeholders_append_of_not_mem (dollar_not_mem_toDigits number)]

/-- The text of a bound value. -/
theorem toList_rendered_bind (number : Nat) (value : Binding) :
    (rendered number [.bind value]).toList = '$' :: Nat.toDigits 10 number := by
  have htext : rendered number [.bind value] = "$" ++ toString number := by
    rw [rendered, Statement.renderFrom, Statement.renderFrom, String.join_cons, String.join_nil,
      String.append_empty]
    rfl
  rw [htext, String.toList_append, Nat.toString_eq_repr, Nat.toList_repr]
  rfl

/-- The text of inert pieces begins with no digit. -/
theorem head?_rendered {pieces : List Piece} (h : ∀ piece ∈ pieces, piece.Inert) (number : Nat) :
    ∀ c ∈ (rendered number pieces).toList.head?, c.isDigit = false := by
  induction pieces with
  | nil => simp
  | cons piece rest ih =>
    obtain ⟨hpiece, hrest⟩ := List.forall_mem_cons.mp h
    intro c hc
    rw [rendered_cons, String.toList_append] at hc
    cases piece with
    | bind value =>
      rw [toList_rendered_bind] at hc
      obtain rfl : '$' = c := Option.some.inj hc
      decide
    | sql text =>
      rw [show rendered number [.sql text] = text from rendered_sql number text] at hc
      cases htext : text.toList with
      | nil =>
        rw [htext, List.nil_append] at hc
        exact ih hrest c hc
      | cons first others =>
        rw [htext] at hc
        exact hpiece.2 c (htext ▸ hc)

/-- In the text of inert pieces the placeholders are the numbers of the bound values. -/
theorem placeholders_rendered {pieces : List Piece} (h : ∀ piece ∈ pieces, piece.Inert)
    (number : Nat) : placeholders (rendered number pieces).toList =
      List.range' number (boundValues pieces).length := by
  induction pieces generalizing number with
  | nil => rfl
  | cons piece rest ih =>
    obtain ⟨hpiece, hrest⟩ := List.forall_mem_cons.mp h
    rw [rendered_cons, String.toList_append, ← List.singleton_append (l := rest),
      boundValues_append, List.length_append]
    cases piece with
    | bind value =>
      rw [toList_rendered_bind, placeholders_number number (head?_rendered hrest _), ih hrest,
        boundValues_bind, List.length_singleton, Nat.add_comm 1, List.range'_succ]
    | sql text =>
      rw [show rendered number [.sql text] = text from rendered_sql number text,
        show boundValues [.sql text] = [] from boundValues_sql text,
        placeholders_append_of_not_mem hpiece.1, ih hrest, List.length_nil, Nat.zero_add,
        Nat.add_zero]

/-! ### Parentheses -/

/-- The depth behind a text that begins at a given depth, nothing if a parenthesis is closed that was
not opened in the text. -/
def depthAfter : (depth : Nat) → List Char → Option Nat
  | depth, [] => some depth
  | depth, c :: rest =>
    if c = '(' then depthAfter (depth + 1) rest
    else if c = ')' then
      match depth with
      | 0 => none
      | depth + 1 => depthAfter depth rest
    else depthAfter depth rest

/-- The depth behind two texts is reached through the depth between them. -/
theorem depthAfter_append (depth : Nat) (left right : List Char) :
    depthAfter depth (left ++ right) = (depthAfter depth left).bind (depthAfter · right) := by
  fun_induction depthAfter depth left <;> simp_all [depthAfter]

/-- Without parentheses the depth stays as it is. -/
theorem depthAfter_of_not_mem {text : List Char} (hopen : '(' ∉ text) (hclose : ')' ∉ text)
    (depth : Nat) : depthAfter depth text = some depth := by
  induction text with
  | nil => rfl
  | cons c rest ih =>
    obtain ⟨hc, hrest⟩ : '(' ≠ c ∧ '(' ∉ rest := by simpa using hopen
    obtain ⟨hd, hlater⟩ : ')' ≠ c ∧ ')' ∉ rest := by simpa using hclose
    unfold depthAfter
    rw [if_neg (Ne.symm hc), if_neg (Ne.symm hd), ih hrest hlater]

/-- The depth behind pieces. A bound value neither opens nor closes anything. -/
def depthBehind : (depth : Nat) → List Piece → Option Nat
  | depth, [] => some depth
  | depth, .sql text :: rest => (depthAfter depth text.toList).bind (depthBehind · rest)
  | depth, .bind _ :: rest => depthBehind depth rest

/-- The depth behind pieces is the one behind their text. -/
theorem depthAfter_rendered (pieces : List Piece) (number depth : Nat) :
    depthAfter depth (rendered number pieces).toList = depthBehind depth pieces := by
  induction pieces generalizing number depth with
  | nil => rfl
  | cons piece rest ih =>
    rw [rendered_cons, String.toList_append, depthAfter_append]
    cases piece with
    | sql text =>
      rw [show rendered number [.sql text] = text from rendered_sql number text, depthBehind]
      congr 1
      funext after
      exact ih _ after
    | bind value =>
      have hchar : ∀ c ∈ '$' :: Nat.toDigits 10 number, c = '$' ∨ c.isDigit = true :=
        fun c hc => (List.mem_cons.mp hc).imp id Text.isDigit_of_mem_toDigits
      have hopen : '(' ∉ '$' :: Nat.toDigits 10 number :=
        fun hmem => absurd (hchar _ hmem) (by decide)
      have hclose : ')' ∉ '$' :: Nat.toDigits 10 number :=
        fun hmem => absurd (hchar _ hmem) (by decide)
      rw [toList_rendered_bind, depthAfter_of_not_mem hopen hclose, depthBehind]
      exact ih _ depth

theorem depthBehind_sql (depth : Nat) (text : String) :
    depthBehind depth (sql text) = depthAfter depth text.toList := by
  rw [sql, depthBehind]
  simp [depthBehind]

theorem depthBehind_bindText (depth : Nat) (value : String) :
    depthBehind depth (bindText value) = some depth := rfl

/-- The depth behind two rows of pieces is reached through the depth between them. -/
theorem depthBehind_append (depth : Nat) (left right : List Piece) :
    depthBehind depth (left ++ right) =
      (depthBehind depth left).bind (depthBehind · right) := by
  induction left generalizing depth with
  | nil => rfl
  | cons piece rest ih =>
    cases piece with
    | sql text =>
      rw [List.cons_append, depthBehind, depthBehind, Option.bind_assoc]
      congr 1
      funext after
      exact ih after
    | bind value => exact ih depth

/-- Pieces that close what they open and nothing else. -/
def Level (pieces : List Piece) : Prop :=
  ∀ depth, depthBehind depth pieces = some depth

/-- Rows that close what they open do so together. -/
theorem Level.append {left right : List Piece} (hleft : Level left) (hright : Level right) :
    Level (left ++ right) := by
  intro depth
  rw [depthBehind_append, hleft depth]
  exact hright depth

/-- Fragments that close what they open do so together, if the separator does. -/
theorem Level.separated {separator : String} (hseparator : Level (sql separator))
    {fragments : List (List Piece)} (h : ∀ fragment ∈ fragments, Level fragment) :
    Level (separated separator fragments) := by
  induction fragments with
  | nil => exact fun _ => rfl
  | cons fragment rest ih =>
    obtain ⟨hfragment, hrest⟩ := List.forall_mem_cons.mp h
    cases rest with
    | nil => exact hfragment
    | cons next rest => exact (hfragment.append hseparator).append (ih hrest)

/-- One expression in parentheses: the first parenthesis is closed by the last one. -/
def Parenthesised (text : String) : Prop :=
  ∃ body, text = "(" ++ body ++ ")" ∧ depthAfter 0 body.toList = some 0

/-- Pieces that close what they open become one expression when they are put into parentheses. -/
theorem Level.parenthesised {pieces : List Piece} (h : Level pieces) (number : Nat) :
    Parenthesised (rendered number (sql "(" ++ pieces ++ sql ")")) := by
  refine ⟨rendered number pieces, ?_, ?_⟩
  · rw [rendered_append, rendered_append, rendered_sql, rendered_sql, boundValues_sql]
    rfl
  · rw [depthAfter_rendered]
    exact h 0

/-- Pieces in parentheses close what they open, if they do without them. -/
theorem Level.inParentheses {pieces : List Piece} (h : Level pieces) :
    Level (sql "(" ++ pieces ++ sql ")") := by
  intro depth
  rw [depthBehind_append, depthBehind_append]
  change ((depthBehind (depth + 1) pieces).bind _) = _
  rw [h (depth + 1)]
  rfl

end Stockroom.Postgres
