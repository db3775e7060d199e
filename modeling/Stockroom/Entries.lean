/-!
# Named entries

A list of named entries is used in two ways. As an ordered map, `put` gives a name one place, that
of its first occurrence. In ascending order of the names, `place` gives every name the one place
that the order assigns to it, so that equal contents are equal lists.
-/

namespace Stockroom

/-- Values under names, in an order that matters. -/
abbrev Entries (α : Type) := List (String × α)

namespace Entries

variable {α : Type}

/-- The names in their order. -/
def names (entries : Entries α) : List String :=
  entries.map Prod.fst

/-- The value under a name, the first one if there are several. -/
def get? (name : String) : Entries α → Option α
  | [] => none
  | (n, v) :: rest => if n = name then some v else get? name rest

/-- Puts a value under a name: in place of the value already there, else at the end. -/
def put (name : String) (value : α) : Entries α → Entries α
  | [] => [(name, value)]
  | (n, v) :: rest => if n = name then (n, value) :: rest else (n, v) :: put name value rest

/-- Puts a value under a name in a list of ascending names. -/
def place (name : String) (value : α) : Entries α → Entries α
  | [] => [(name, value)]
  | (n, v) :: rest =>
    if name < n then (name, value) :: (n, v) :: rest
    else if name = n then (name, value) :: rest
    else (n, v) :: place name value rest

/-- The names ascend strictly. -/
def Ascending (entries : Entries α) : Prop :=
  entries.Pairwise (fun left right => left.1 < right.1)

@[simp] theorem get?_put_self (name : String) (value : α) (entries : Entries α) :
    (put name value entries).get? name = some value := by
  induction entries with
  | nil => exact if_pos rfl
  | cons entry rest ih =>
    obtain ⟨n, v⟩ := entry
    rw [put]
    split
    case isTrue h => exact if_pos h
    case isFalse h => rw [get?, if_neg h, ih]

theorem get?_put_of_ne {name other : String} (h : other ≠ name) (value : α)
    (entries : Entries α) : (put name value entries).get? other = get? other entries := by
  induction entries with
  | nil => exact if_neg (Ne.symm h)
  | cons entry rest ih =>
    obtain ⟨n, v⟩ := entry
    rw [put]
    split
    case isTrue hn =>
      subst hn
      rw [get?, get?, if_neg (Ne.symm h), if_neg (Ne.symm h)]
    case isFalse hn => rw [get?, get?, ih]

@[simp] theorem get?_place_self (name : String) (value : α) (entries : Entries α) :
    (place name value entries).get? name = some value := by
  induction entries with
  | nil => exact if_pos rfl
  | cons entry rest ih =>
    obtain ⟨n, v⟩ := entry
    rw [place]
    split
    case isTrue => exact if_pos rfl
    case isFalse =>
      split
      case isTrue => exact if_pos rfl
      case isFalse h => rw [get?, if_neg (Ne.symm h), ih]

theorem get?_place_of_ne {name other : String} (h : other ≠ name) (value : α)
    (entries : Entries α) : (place name value entries).get? other = get? other entries := by
  induction entries with
  | nil => exact if_neg (Ne.symm h)
  | cons entry rest ih =>
    obtain ⟨n, v⟩ := entry
    rw [place]
    split
    case isTrue => exact if_neg (Ne.symm h)
    case isFalse =>
      split
      case isTrue hn =>
        subst hn
        rw [get?, get?, if_neg (Ne.symm h), if_neg (Ne.symm h)]
      case isFalse => rw [get?, get?, ih]

theorem mem_of_mem_place {name : String} {value : α} {entries : Entries α} {entry : String × α}
    (h : entry ∈ place name value entries) : entry = (name, value) ∨ entry ∈ entries := by
  induction entries with
  | nil => exact Or.inl (List.mem_singleton.mp h)
  | cons head rest ih =>
    rw [place] at h
    split at h
    · exact List.mem_cons.mp h
    · split at h
      · exact (List.mem_cons.mp h).imp id (List.mem_cons_of_mem _)
      · rcases List.mem_cons.mp h with rfl | hrest
        · exact Or.inr List.mem_cons_self
        · exact (ih hrest).imp id (List.mem_cons_of_mem _)

/-- Placing an entry keeps the names ascending. -/
theorem Ascending.place {entries : Entries α} (h : Ascending entries) (name : String)
    (value : α) : Ascending (Entries.place name value entries) := by
  induction entries with
  | nil => exact List.pairwise_singleton _ _
  | cons head rest ih =>
    obtain ⟨hhead, hrest⟩ := List.pairwise_cons.mp h
    rw [Entries.place]
    split
    case isTrue hlt =>
      refine List.pairwise_cons.mpr ⟨fun entry hentry => ?_, h⟩
      rcases List.mem_cons.mp hentry with rfl | hentry
      · exact hlt
      · exact Std.lt_trans hlt (hhead entry hentry)
    case isFalse hge =>
      split
      case isTrue heq =>
        exact List.pairwise_cons.mpr ⟨fun entry hentry => heq ▸ hhead entry hentry, hrest⟩
      case isFalse hne =>
        refine List.pairwise_cons.mpr ⟨fun entry hentry => ?_, ih hrest⟩
        rcases mem_of_mem_place hentry with rfl | hentry
        · exact Std.lt_of_le_of_ne (Std.not_lt.mp hge) (Ne.symm hne)
        · exact hhead entry hentry

end Entries

end Stockroom
