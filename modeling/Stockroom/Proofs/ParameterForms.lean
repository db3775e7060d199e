import Mathlib.Data.List.Induction
import Mathlib.Logic.Relation
import Mathlib.Tactic.Choose
import Stockroom.Query.SearchParam

/-!
# The JSON forms of search parameters

An object is read as a parameter member by member: what it gives to a member under any of its
spellings decides the member, wherever it stands and whatever else is there. So an object may be
respelled, put into another order, filled up with unknown members and stripped of empty texts and
zeros, and is read as the same parameter. A member that is given twice is a duplicate.
-/

namespace Stockroom.SearchParam

/-! ### Members and their slots -/

namespace Member

/-- The values of a member. -/
abbrev Value : Member → Type
  | field => String
  | kind => String
  | equal => String
  | lowerLimit => Double
  | upperLimit => Double

/-- Reads a value of a member. -/
def decode : (member : Member) → Json → Json.Decoded member.Value
  | field => Json.decodeText
  | kind => Json.decodeText
  | equal => Json.decodeText
  | lowerLimit => Json.decodeFloat
  | upperLimit => Json.decodeFloat

/-- The value of a member that is not given. -/
def unset : (member : Member) → member.Value
  | field => ""
  | kind => ""
  | equal => ""
  | lowerLimit => Double.zero
  | upperLimit => Double.zero

/-- The name of a member in messages: its first spelling. -/
def name (member : Member) : String :=
  member.spellings.headD ""

end Member

/-- A member of a parameter. -/
def get (param : SearchParam) : (member : Member) → member.Value
  | .field => param.field
  | .kind => param.kind
  | .equal => param.equal
  | .lowerLimit => param.lowerLimit
  | .upperLimit => param.upperLimit

/-- Parameters with the same members are the same. -/
theorem ext_get {param other : SearchParam} (h : ∀ member, param.get member = other.get member) :
    param = other := by
  obtain ⟨field, kind, equal, lowerLimit, upperLimit⟩ := param
  obtain rfl : field = other.field := h .field
  obtain rfl : kind = other.kind := h .kind
  obtain rfl : equal = other.equal := h .equal
  obtain rfl : lowerLimit = other.lowerLimit := h .lowerLimit
  obtain rfl : upperLimit = other.upperLimit := h .upperLimit
  rfl

namespace Draft

/-- The slot of a member in a draft. -/
def slot (draft : Draft) : (member : Member) → Option member.Value
  | .field => draft.field
  | .kind => draft.kind
  | .equal => draft.equal
  | .lowerLimit => draft.lowerLimit
  | .upperLimit => draft.upperLimit

/-- The draft with the given slots. -/
def ofSlots (slots : (member : Member) → Option member.Value) : Draft :=
  ⟨slots .field, slots .kind, slots .equal, slots .lowerLimit, slots .upperLimit⟩

@[simp] theorem slot_ofSlots (slots : (member : Member) → Option member.Value) (member : Member) :
    (ofSlots slots).slot member = slots member := by
  cases member <;> rfl

/-- Drafts with the same slots are the same. -/
theorem ofSlots_slot (draft : Draft) : ofSlots draft.slot = draft := rfl

/-- The draft with another slot of a member. -/
def put (draft : Draft) (member : Member) (slot : Option member.Value) : Draft :=
  ofSlots (Function.update draft.slot member slot)

/-- A member that is taken up fills its slot. -/
theorem absorb_eq (draft : Draft) (member : Member) (value : Json) :
    draft.absorb member value =
      (Json.fill member.name (draft.slot member) member.decode value).map (draft.put member) := by
  cases member <;> rfl

end Draft

/-! ### What an object gives to a member -/

/-- A name is a spelling of the member that it stands for. -/
theorem member?_eq_some_iff {name : String} {member : Member} :
    form.member? name = some member ↔ name ∈ member.spellings := by
  constructor
  · intro h
    rw [Json.RecordForm.member?] at h
    have hcontains := List.find?_some h
    exact List.contains_iff_mem.mp hcontains
  · intro h
    have hspellings : ∀ spelling ∈ member.spellings, form.member? spelling = some member := by
      cases member <;> decide
    exact hspellings name h

/-- A name that stands for no member is a spelling of none. -/
theorem member?_eq_none_iff {name : String} :
    form.member? name = none ↔ ∀ member : Member, name ∉ member.spellings := by
  simp only [Option.eq_none_iff_forall_ne_some, ne_eq, member?_eq_some_iff]

/-- No spelling belongs to two members. -/
theorem Member.eq_of_mem_spellings {member other : Member} {spelling : String}
    (h : spelling ∈ member.spellings) (hother : spelling ∈ other.spellings) : member = other :=
  Option.some.inj ((member?_eq_some_iff.mpr h).symm.trans (member?_eq_some_iff.mpr hother))

namespace Member

variable {member : Member} {name : String} {value : Json} {members before after : Entries Json}

/-- The values that the members of an object give to a member. -/
def given (member : Member) (members : Entries Json) : List Json :=
  (members.filter fun entry => decide (entry.1 ∈ member.spellings)).map Prod.snd

@[simp] theorem given_nil : member.given [] = [] := rfl

theorem given_append :
    member.given (before ++ after) = member.given before ++ member.given after := by
  rw [given, List.filter_append, List.map_append]
  rfl

theorem given_cons_of_mem (h : name ∈ member.spellings) :
    member.given ((name, value) :: members) = value :: member.given members := by
  simp [given, h]

theorem given_cons_of_not_mem (h : name ∉ member.spellings) :
    member.given ((name, value) :: members) = member.given members := by
  simp [given, h]

/-- The slot of a member after the values that are given to it. -/
def collect (member : Member) (slot : Option member.Value) (values : List Json) :
    Json.Decoded (Option member.Value) :=
  values.foldlM (fun slot value => Json.fill member.name slot member.decode value) slot

/-- What the values given to a member are read as: none as the value of a member that is not given,
and one as itself. -/
inductive Reads (member : Member) : List Json → member.Value → Prop
  | unset : Reads member [] member.unset
  | value {found : Json} {value : member.Value} (h : member.decode found = .ok value) :
      Reads member [found] value

/-- Values are collected one after the other. -/
theorem collect_cons (slot : Option member.Value) (value : Json) (rest : List Json) :
    member.collect slot (value :: rest) =
      (Json.fill member.name slot member.decode value).bind (member.collect · rest) := rfl

/-- A slot that is filled takes no value. -/
theorem collect_some_eq_ok_iff {value : member.Value} {values : List Json}
    {result : Option member.Value} :
    member.collect (some value) values = .ok result ↔ values = [] ∧ result = some value := by
  cases values with
  | nil => simp [collect, eq_comm, pure, Except.pure]
  | cons found rest => simp [collect_cons, Json.fill, Except.bind]

/-- An empty slot takes one value at most. -/
theorem collect_none_eq_ok_iff {values : List Json} {result : Option member.Value} :
    member.collect none values = .ok result ↔
      (values = [] ∧ result = none) ∨
        ∃ found value, values = [found] ∧ member.decode found = .ok value ∧
          result = some value := by
  cases values with
  | nil => simp [collect, eq_comm, pure, Except.pure]
  | cons found rest =>
    rw [collect_cons, Json.fill]
    cases hdecode : member.decode found with
    | error cause => simp [hdecode, Except.map, Except.bind]
    | ok value =>
      change member.collect (some value) rest = .ok result ↔ _
      simp [collect_some_eq_ok_iff, hdecode]

/-- What is read is what the slot holds in the end. -/
theorem reads_iff {values : List Json} {value : member.Value} :
    member.Reads values value ↔
      ∃ slot, member.collect none values = .ok slot ∧ slot.getD member.unset = value := by
  simp only [collect_none_eq_ok_iff]
  constructor
  · rintro (_ | hdecode)
    · exact ⟨none, Or.inl ⟨rfl, rfl⟩, rfl⟩
    · exact ⟨some value, Or.inr ⟨_, value, rfl, hdecode, rfl⟩, rfl⟩
  · rintro ⟨slot, ⟨rfl, rfl⟩ | ⟨found, value, rfl, hdecode, rfl⟩, rfl⟩
    · exact .unset
    · exact .value hdecode

/-- One accepted value at most is read. -/
theorem exists_reads {values : List Json} (hlength : values.length ≤ 1)
    (h : ∀ value ∈ values, ∃ found, member.decode value = .ok found) :
    ∃ value, member.Reads values value := by
  match values with
  | [] => exact ⟨member.unset, .unset⟩
  | [value] =>
    obtain ⟨found, hfound⟩ := h value List.mem_cons_self
    exact ⟨found, .value hfound⟩
  | _ :: _ :: _ => simp at hlength

/-- No more than one value is read. -/
theorem Reads.length_le {values : List Json} {value : member.Value}
    (h : member.Reads values value) : values.length ≤ 1 := by
  cases h <;> simp

end Member

/-- A member that is named is taken up, and other names are ignored. -/
theorem ofObject_cons (draft : Draft) (entry : String × Json) (rest : Entries Json) :
    form.ofObject draft (entry :: rest) =
      (form.absorbNamed draft entry).bind (form.ofObject · rest) := rfl

/-- An object is read from its start on. -/
theorem ofObject_append (draft : Draft) (before after : Entries Json) :
    form.ofObject draft (before ++ after) =
      (form.ofObject draft before).bind (form.ofObject · after) :=
  List.foldlM_append

/-- An object is read slot by slot. -/
theorem ofObject_eq_ok_iff {draft result : Draft} {members : Entries Json} :
    form.ofObject draft members = .ok result ↔
      ∀ member : Member, member.collect (draft.slot member) (member.given members) =
        .ok (result.slot member) := by
  induction members generalizing draft with
  | nil =>
    constructor
    · intro h member
      obtain rfl := Except.ok.inj h
      rfl
    · intro h
      have hslots : draft.slot = result.slot := funext fun member => Except.ok.inj (h member)
      rw [← Draft.ofSlots_slot draft, hslots]
      rfl
  | cons entry rest ih =>
    obtain ⟨name, value⟩ := entry
    rw [ofObject_cons, Json.RecordForm.absorbNamed]
    cases hmember : form.member? name with
    | none =>
      have hnone := member?_eq_none_iff.mp hmember
      simp only [Member.given_cons_of_not_mem (hnone _)]
      exact ih
    | some named =>
      have hnamed := member?_eq_some_iff.mp hmember
      have habsorb : form.absorb draft named value = _ := draft.absorb_eq named value
      simp only [habsorb]
      cases hfill : Json.fill named.name (draft.slot named) named.decode value with
      | error cause =>
        refine iff_of_false nofun fun h => ?_
        have hcollect := h named
        rw [Member.given_cons_of_mem hnamed, Member.collect_cons, hfill] at hcollect
        cases hcollect
      | ok slot =>
        change form.ofObject (draft.put named slot) rest = .ok result ↔ _
        rw [ih]
        refine forall_congr' fun member => ?_
        by_cases hsame : member = named
        · subst hsame
          rw [Member.given_cons_of_mem hnamed, Member.collect_cons, hfill, Draft.put,
            Draft.slot_ofSlots, Function.update_self]
          rfl
        · have hother : name ∉ member.spellings :=
            fun hmem => hsame (Member.eq_of_mem_spellings hmem hnamed)
          rw [Member.given_cons_of_not_mem hother, Draft.put, Draft.slot_ofSlots,
            Function.update_of_ne hsame]

/-- A member of the parameter of a draft is what its slot holds. -/
theorem get_ofDraft (draft : Draft) (member : Member) :
    (ofDraft draft).get member = (draft.slot member).getD member.unset := by
  cases member <;> rfl

/-- At first every slot is empty. -/
theorem slot_empty (member : Member) : Draft.slot {} member = none := by
  cases member <;> rfl

/-- An object is read as the parameter each of whose members is what is given to it. -/
theorem decode_object_eq_ok_iff {members : Entries Json} {param : SearchParam} :
    decode (.object members) = .ok param ↔
      ∀ member : Member, member.Reads (member.given members) (param.get member) := by
  have hdraft : decode (.object members) = .ok param ↔
      ∃ draft, form.ofObject {} members = .ok draft ∧ ofDraft draft = param := by
    rw [decode, Json.RecordForm.decode]
    cases form.ofObject {} members <;> simp [Except.map]
  rw [hdraft]
  constructor
  · rintro ⟨draft, hread, rfl⟩ member
    have hcollect := ofObject_eq_ok_iff.mp hread member
    rw [slot_empty] at hcollect
    exact Member.reads_iff.mpr ⟨draft.slot member, hcollect, (get_ofDraft draft member).symm⟩
  · intro h
    choose slots hcollect hslots using fun member => Member.reads_iff.mp (h member)
    refine ⟨.ofSlots slots, ofObject_eq_ok_iff.mpr fun member => ?_, ext_get fun member => ?_⟩
    · rw [Draft.slot_ofSlots, slot_empty, hcollect]
    · rw [get_ofDraft, Draft.slot_ofSlots, hslots]

/-! ### Other spellings -/

/-- The parameter with the given members. -/
def ofValues (values : (member : Member) → member.Value) : SearchParam :=
  ⟨values .field, values .kind, values .equal, values .lowerLimit, values .upperLimit⟩

@[simp] theorem get_ofValues (values : (member : Member) → member.Value) (member : Member) :
    (ofValues values).get member = values member := by
  cases member <;> rfl

/-- Whether a value is the empty text or a zero. -/
def Unset : Json → Prop
  | .string s => s = ""
  | .number n => n.toDouble.isZero = true
  | _ => False

/-- One change to the way in which an object writes a parameter. -/
inductive Respelled : Entries Json → Entries Json → Prop
  | rename {before after : Entries Json} {member : Member} {spelling other : String} {value : Json}
      (h : spelling ∈ member.spellings) (hother : other ∈ member.spellings) :
      Respelled (before ++ (spelling, value) :: after) (before ++ (other, value) :: after)
  | reorder {members others : Entries Json} (h : members.Perm others) : Respelled members others
  | addUnknown {before after : Entries Json} {name : String} {value : Json}
      (h : ∀ member : Member, name ∉ member.spellings) :
      Respelled (before ++ after) (before ++ (name, value) :: after)
  | dropUnset {before after : Entries Json} {name : String} {value : Json} (h : Unset value) :
      Respelled (before ++ (name, value) :: after) (before ++ after)

namespace Member

variable {member : Member}

/-- Whether a value of a member is the empty text or a zero. -/
def IsZero : (member : Member) → member.Value → Prop
  | field, s => s = ""
  | kind, s => s = ""
  | equal, s => s = ""
  | lowerLimit, x => Double.isZero x = true
  | upperLimit, x => Double.isZero x = true

/-- The empty text and zeros are read as such. -/
theorem isZero_of_unset {found : Json} (h : Unset found) {value : member.Value}
    (hread : member.decode found = .ok value) : member.IsZero value := by
  -- A text member reads texts only and a limit numbers only, so that other values contradict
  -- `hread`.
  cases member <;> cases found <;> cases hread <;> exact h

/-- Whether a value is another one, or the value that is not given in place of a zero. -/
def Clears (member : Member) (value other : member.Value) : Prop :=
  other = value ∨ other = member.unset ∧ member.IsZero value

/-- Clearing a cleared value clears the value. -/
theorem Clears.trans {value other last : member.Value} (h : member.Clears value other)
    (hlast : member.Clears other last) : member.Clears value last := by
  rcases hlast with rfl | ⟨rfl, hother⟩
  · exact h
  · rcases h with rfl | ⟨-, hvalue⟩
    · exact Or.inr ⟨rfl, hother⟩
    · exact Or.inr ⟨rfl, hvalue⟩

/-- Of several values that are read there is one. -/
theorem reads_append_cons_iff {left right : List Json} {found : Json} {value : member.Value} :
    member.Reads (left ++ found :: right) value ↔
      left = [] ∧ right = [] ∧ member.decode found = .ok value := by
  constructor
  · intro h
    generalize hvalues : left ++ found :: right = values at h
    cases h with
    | unset => simp at hvalues
    | value hdecode =>
      obtain ⟨hleft, rfl, hright⟩ := by simpa [List.append_eq_singleton_iff] using hvalues
      exact ⟨hleft, hright, hdecode⟩
  · rintro ⟨rfl, rfl, hdecode⟩
    exact .value hdecode

/-- A change gives a member the same value or clears it. -/
theorem exists_reads_of_respelled {members others : Entries Json} (h : Respelled members others)
    {value : member.Value} (hreads : member.Reads (member.given members) value) :
    ∃ other, member.Reads (member.given others) other ∧ member.Clears value other := by
  cases h with
  | @rename before after named spelling other json hspelling hother =>
    have hsame : member.given (before ++ (other, json) :: after) =
        member.given (before ++ (spelling, json) :: after) := by
      rw [given_append, given_append]
      by_cases hnamed : member = named
      · subst hnamed
        rw [given_cons_of_mem hspelling, given_cons_of_mem hother]
      · rw [given_cons_of_not_mem fun hmem => hnamed (eq_of_mem_spellings hmem hspelling),
          given_cons_of_not_mem fun hmem => hnamed (eq_of_mem_spellings hmem hother)]
    exact ⟨value, hsame ▸ hreads, Or.inl rfl⟩
  | reorder hperm =>
    have hgiven : (member.given members).Perm (member.given others) := (hperm.filter _).map _
    have hsame : member.given others = member.given members := by
      generalize member.given members = values at hreads hgiven
      cases hreads with
      | unset => exact hgiven.nil_eq.symm
      | value => exact (List.singleton_perm.mp hgiven).symm
    exact ⟨value, hsame ▸ hreads, Or.inl rfl⟩
  | @addUnknown before after name json hunknown =>
    have hsame : member.given (before ++ (name, json) :: after) =
        member.given (before ++ after) := by
      rw [given_append, given_append, given_cons_of_not_mem (hunknown member)]
    exact ⟨value, hsame ▸ hreads, Or.inl rfl⟩
  | @dropUnset before after name json hunset =>
    rw [given_append] at hreads ⊢
    by_cases hname : name ∈ member.spellings
    · rw [given_cons_of_mem hname, reads_append_cons_iff] at hreads
      obtain ⟨hbefore, hafter, hdecode⟩ := hreads
      rw [hbefore, hafter]
      exact ⟨member.unset, .unset, Or.inr ⟨rfl, isZero_of_unset hunset hdecode⟩⟩
    · rw [given_cons_of_not_mem hname] at hreads
      exact ⟨value, hreads, Or.inl rfl⟩

end Member

/-! ### Objects that are respelled -/

/-- Whether a parameter is another one, but for zeros that were replaced by members that are not
given. -/
def Clears (param other : SearchParam) : Prop :=
  ∀ member : Member, member.Clears (param.get member) (other.get member)

/-- One change to an object that is read leads to one that is read. -/
theorem exists_decode_of_respelled {members others : Entries Json} {param : SearchParam}
    (h : Respelled members others) (hread : decode (.object members) = .ok param) :
    ∃ other, decode (.object others) = .ok other ∧ param.Clears other := by
  choose values hvalues hclears using fun member =>
    Member.exists_reads_of_respelled h (decode_object_eq_ok_iff.mp hread member)
  refine ⟨ofValues values, decode_object_eq_ok_iff.mpr fun member => ?_, fun member => ?_⟩
  · rw [get_ofValues]
    exact hvalues member
  · rw [get_ofValues]
    exact hclears member

/-- Whether an object writes a parameter of another one in another way. -/
def SpelledAs : Entries Json → Entries Json → Prop :=
  Relation.ReflTransGen Respelled

/-- Any number of changes to an object that is read lead to one that is read. -/
theorem exists_decode_of_spelledAs {members others : Entries Json} {param : SearchParam}
    (h : SpelledAs members others) (hread : decode (.object members) = .ok param) :
    ∃ other, decode (.object others) = .ok other ∧ param.Clears other := by
  induction h with
  | refl => exact ⟨param, hread, fun member => Or.inl rfl⟩
  | tail _ hstep ih =>
    obtain ⟨between, hbetween, hclears⟩ := ih
    obtain ⟨last, hlast, hclears'⟩ := exists_decode_of_respelled hstep hbetween
    exact ⟨last, hlast, fun member => (hclears member).trans (hclears' member)⟩

/-! ### Members under two spellings -/

/-- An object is read if its slots can be filled. -/
theorem exists_decode_iff {members : Entries Json} :
    (∃ param, decode (.object members) = .ok param) ↔
      ∃ draft, form.ofObject {} members = .ok draft := by
  rw [decode, Json.RecordForm.decode]
  cases form.ofObject {} members <;> simp [Except.map]

/-- An object that gives a member more than once is refused. -/
theorem decode_ne_ok_of_given_twice {member : Member} {members : Entries Json}
    (h : 2 ≤ (member.given members).length) (param : SearchParam) :
    decode (.object members) ≠ .ok param := by
  intro hread
  have hlength := (decode_object_eq_ok_iff.mp hread member).length_le
  omega

/-- A member that was given before is a duplicate. -/
theorem decode_eq_duplicate {before : Entries Json}
    (hread : ∃ param, decode (.object before) = .ok param) {member : Member}
    (hgiven : member.given before ≠ []) {spelling : String} (h : spelling ∈ member.spellings)
    (value : Json) (after : Entries Json) :
    decode (.object (before ++ (spelling, value) :: after)) =
      .error (.duplicateField member.name) := by
  obtain ⟨draft, hdraft⟩ := exists_decode_iff.mp hread
  obtain ⟨earlier, hslot⟩ : ∃ earlier, draft.slot member = some earlier := by
    have hcollect := ofObject_eq_ok_iff.mp hdraft member
    rw [slot_empty, Member.collect_none_eq_ok_iff] at hcollect
    obtain ⟨hnone, -⟩ | ⟨-, earlier, -, -, hslot⟩ := hcollect
    · exact absurd hnone hgiven
    · exact ⟨earlier, hslot⟩
  have habsorb : form.absorbNamed draft (spelling, value) =
      .error (.duplicateField member.name) := by
    rw [Json.RecordForm.absorbNamed, member?_eq_some_iff.mpr h]
    change draft.absorb member value = _
    rw [Draft.absorb_eq, hslot]
    rfl
  rw [decode, Json.RecordForm.decode, ofObject_append, hdraft, Except.bind, ofObject_cons, habsorb]
  rfl

/-- Behind the error of an object nothing is read. -/
theorem decode_append_of_error {before after : Entries Json} {cause : Json.DecodeError}
    (h : decode (.object before) = .error cause) :
    decode (.object (before ++ after)) = .error cause := by
  rw [decode, Json.RecordForm.decode] at h ⊢
  rw [ofObject_append]
  cases hdraft : form.ofObject {} before with
  | error found =>
    rw [hdraft] at h
    exact h
  | ok draft =>
    rw [hdraft] at h
    cases h

/-- Whether every value that an object gives to a member can be read as one. -/
def Accepted (members : Entries Json) : Prop :=
  ∀ member : Member, ∀ value ∈ member.given members, ∃ found, member.decode value = .ok found

/-- An object of accepted values that gives every member once at most is read. -/
theorem exists_decode_of_accepted {members : Entries Json} (h : Accepted members)
    (honce : ∀ member : Member, (member.given members).length ≤ 1) :
    ∃ param, decode (.object members) = .ok param := by
  choose values hvalues using fun member => Member.exists_reads (honce member) (h member)
  exact ⟨ofValues values, decode_object_eq_ok_iff.mpr fun member => by
    rw [get_ofValues]
    exact hvalues member⟩

/-- An object of accepted values that gives a member more than once has a duplicate. -/
theorem exists_decode_eq_duplicate {members : Entries Json} (h : Accepted members)
    {member : Member} (htwice : 2 ≤ (member.given members).length) :
    ∃ member : Member, 2 ≤ (member.given members).length ∧
      decode (.object members) = .error (.duplicateField member.name) := by
  induction members using List.reverseRecOn generalizing member with
  | nil => exact absurd htwice (by decide : ¬ 2 ≤ 0)
  | append_singleton before entry ih =>
    have hbefore : Accepted before := fun member value hvalue =>
      h member value (by rw [Member.given_append]; exact List.mem_append_left _ hvalue)
    by_cases hearlier : ∃ earlier : Member, 2 ≤ (earlier.given before).length
    -- There is a duplicate without the last member, which is never reached.
    · obtain ⟨earlier, htwice'⟩ := hearlier
      obtain ⟨found, hfound, herror⟩ := ih hbefore htwice'
      refine ⟨found, ?_, decode_append_of_error herror⟩
      rw [Member.given_append, List.length_append]
      exact Nat.le_add_right_of_le hfound
    · have honce : ∀ other : Member, (other.given before).length ≤ 1 := fun other =>
        Nat.le_of_not_lt fun hmore => hearlier ⟨other, hmore⟩
      obtain ⟨spelling, value⟩ := entry
      have hspelling : spelling ∈ member.spellings := by
        by_contra hnot
        rw [Member.given_append, Member.given_cons_of_not_mem hnot, Member.given_nil,
          List.append_nil] at htwice
        exact absurd (honce member) (Nat.not_le_of_lt htwice)
      have hgiven : member.given before ≠ [] := by
        intro hnone
        rw [Member.given_append, Member.given_cons_of_mem hspelling, hnone] at htwice
        exact absurd htwice (by decide : ¬ 2 ≤ 1)
      exact ⟨member, htwice,
        decode_eq_duplicate (exists_decode_of_accepted hbefore honce) hgiven hspelling value []⟩

end Stockroom.SearchParam
