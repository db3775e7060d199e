import Stockroom.Proofs.BatchInsertion
import Stockroom.Proofs.StatementShapes

/-!
# Statements that are sent

What a server is sent is a template that the shape of the request fixes, with the name of a collection
in quotation marks in its place, and that name is an identifier. A string that is no identifier is
refused before there is a statement. When tables are created one after the other, the first name that
is refused or that the server fails on ends the call.
-/

namespace Stockroom

/-! ### Names of collections -/

namespace Collection

/-- The characters `[A-Za-z_]`. -/
def StartChar (c : Char) : Prop :=
  ('A' ≤ c ∧ c ≤ 'Z') ∨ ('a' ≤ c ∧ c ≤ 'z') ∨ c = '_'

/-- The characters `[A-Za-z0-9_]`. -/
def NameChar (c : Char) : Prop :=
  StartChar c ∨ ('0' ≤ c ∧ c ≤ '9')

/-- The strings `[A-Za-z_][A-Za-z0-9_]{0,62}`. -/
def Proper (name : String) : Prop :=
  ∃ first rest, name.toList = first :: rest ∧ StartChar first ∧ (∀ c ∈ rest, NameChar c) ∧
    rest.length ≤ 62

theorem isStart_iff (c : Char) : isStart c = true ↔ StartChar c := by
  have hupper : c.isUpper = true ↔ 'A' ≤ c ∧ c ≤ 'Z' := decide_eq_true_iff
  have hlower : c.isLower = true ↔ 'a' ≤ c ∧ c ≤ 'z' :=
    Bool.and_eq_true_iff.trans (and_congr decide_eq_true_iff decide_eq_true_iff)
  have halpha : c.isAlpha = true ↔ c.isUpper = true ∨ c.isLower = true := Bool.or_eq_true_iff
  rw [isStart, Bool.or_eq_true, halpha, hupper, hlower, beq_iff_eq, or_assoc, StartChar]

theorem isPart_iff (c : Char) : isPart c = true ↔ NameChar c := by
  have hdigit : c.isDigit = true ↔ '0' ≤ c ∧ c ≤ '9' :=
    Bool.and_eq_true_iff.trans (and_congr decide_eq_true_iff decide_eq_true_iff)
  have halphanum : c.isAlphanum = true ↔ c.isAlpha = true ∨ c.isDigit = true :=
    Bool.or_eq_true_iff
  rw [NameChar, ← isStart_iff, isPart, isStart, Bool.or_eq_true, Bool.or_eq_true, halphanum, hdigit,
    or_right_comm]

/-- The names that are accepted are the proper ones. -/
theorem isName_iff (name : String) : isName name.toList = true ↔ Proper name := by
  unfold Proper
  cases name.toList with
  | nil => simp [isName]
  | cons first rest =>
    simp only [isName, Bool.and_eq_true, List.all_eq_true, decide_eq_true_eq, isStart_iff,
      isPart_iff, maxLength, Nat.lt_succ_iff]
    constructor
    · rintro ⟨⟨hfirst, hrest⟩, hlength⟩
      exact ⟨first, rest, rfl, hfirst, hrest, hlength⟩
    · rintro ⟨_, _, heq, hfirst, hrest, hlength⟩
      cases heq
      exact ⟨⟨hfirst, hrest⟩, hlength⟩

instance (name : String) : Decidable (Proper name) :=
  decidable_of_iff _ (isName_iff name)

/-- A proper name is accepted. -/
theorem validate_of_proper {name : String} (h : Proper name) : validate name = .ok name :=
  if_pos ((isName_iff name).mpr h)

/-- Any other string is refused. -/
theorem validate_of_not_proper {name : String} (h : ¬ Proper name) :
    validate name = .error (.invalidCollection name) :=
  if_neg (mt (isName_iff name).mp h)

end Collection

namespace Postgres

open Collection (Proper)

/-! ### Calls about one collection -/

/-- What a call about a collection may send: for a proper name nothing but a template with that name,
and for any other string nothing at all, since it is refused. -/
structure Guarded {α : Type} (name : String) (template? : Option Template)
    (exchange : Exchange α) : Prop where
  proper : Proper name → ∀ statement ∈ exchange.statements,
    ∃ template ∈ template?, statement.text = template.fill name
  improper : ¬ Proper name → exchange = .unsent (.error (.invalidCollection name))

section

variable (server : Server) (now : Nat) (name : String) (options : CallOptions)

/-- Only the given statement is sent. -/
theorem eq_of_mem_send {α : Type} {operation : String} {statement sent : Statement}
    {read : ServerReply → Pending α}
    (h : sent ∈ (send server now operation options statement read).statements) :
    sent = statement := by
  rw [send] at h
  split at h
  case isTrue => cases h
  case isFalse => exact List.mem_singleton.mp h

theorem guarded_find (filter : Filter) :
    Guarded name (some (selectTemplate filter.shape)) (find server now name filter options) where
  proper := by
    intro hname statement hsent
    simp only [find, Collection.validate_of_proper hname] at hsent
    obtain rfl := eq_of_mem_send server now options hsent
    exact ⟨_, rfl, text_selectStatement name filter⟩
  improper := by
    intro hname
    simp only [find, Collection.validate_of_not_proper hname]

theorem guarded_aggregate (pipeline : Pipeline) :
    Guarded name (pipelineTemplate? pipeline.shape)
      (aggregate server now name pipeline options) where
  proper := by
    intro hname sent hsent
    simp only [aggregate, Collection.validate_of_proper hname, Except.bind] at hsent
    cases hstatement : pipelineStatement name pipeline with
    | error cause =>
      rw [hstatement] at hsent
      cases hsent
    | ok statement =>
      rw [hstatement] at hsent
      obtain rfl := eq_of_mem_send server now options hsent
      exact exists_template_pipelineStatement hstatement
  improper := by
    intro hname
    simp only [aggregate, Collection.validate_of_not_proper hname, Except.bind]

theorem guarded_insertMany (supply : KeySupply) (issued : Nat) (docs : List Document) :
    Guarded name (some (insertTemplate docs.length))
      (insertMany server supply issued now name docs options).1 where
  proper := by
    intro hname sent hsent
    simp only [insertMany, Collection.validate_of_proper hname] at hsent
    split at hsent
    case isTrue => cases hsent
    case isFalse =>
      cases hassign : Document.assignKeys supply issued docs with
      | error cause =>
        rw [hassign] at hsent
        cases hsent
      | ok assigned =>
        obtain ⟨keys, stored, used⟩ := assigned
        rw [hassign] at hsent
        obtain rfl := eq_of_mem_send server now options hsent
        have hlength := (Document.batchKeyed_of_assignKeys hassign).length_stored
        rw [← hlength]
        exact ⟨_, rfl, text_insertStatement name stored⟩
  improper := by
    intro hname
    simp only [insertMany, Collection.validate_of_not_proper hname]

end

/-! ### The creation of tables -/

/-- Whether the server executes the statement that creates a table. -/
def Creates (server : Server) (name : String) : Prop :=
  ∃ values complaint, server (createStatement name) = .rows values complaint

/-- What becomes of a call when the server is sent the statement that creates a table. -/
def creation (server : Server) (name : String) : Pending Unit :=
  ((server (createStatement name)).rows? "ensure_collections").map fun _ => ()

/-- A proper name whose table the server creates. -/
structure Created (server : Server) (name : String) : Prop where
  proper : Proper name
  executed : Creates server name

/-- The ways in which a call that creates tables ends, with the statements that it has sent. -/
inductive Creation (server : Server) (names : List String) (exchange : Exchange Unit) : Prop
  /-- All tables are created. -/
  | completed (hcreated : ∀ name ∈ names, Created server name)
      (heq : exchange = ⟨names.map createStatement, .now (.ok ())⟩)
  /-- Behind created tables a name is refused. -/
  | refused (created : List String) (name : String) (hnames : created ++ [name] <+: names)
      (hcreated : ∀ earlier ∈ created, Created server earlier) (himproper : ¬ Proper name)
      (heq : exchange = ⟨created.map createStatement, .now (.error (.invalidCollection name))⟩)
  /-- Behind created tables the server does not create one. -/
  | failed (created : List String) (name : String) (hnames : created ++ [name] <+: names)
      (hcreated : ∀ earlier ∈ created, Created server earlier) (hproper : Proper name)
      (hfails : ¬ Creates server name)
      (heq : exchange = ⟨(created ++ [name]).map createStatement, creation server name⟩)

/-- A created table precedes whatever becomes of the other names. -/
theorem Creation.cons {server : Server} {name : String} {rest : List String}
    {later : Exchange Unit} (hname : Created server name) (h : Creation server rest later) :
    Creation server (name :: rest)
      ⟨createStatement name :: later.statements, later.outcome⟩ := by
  cases h with
  | completed hcreated heq =>
    subst heq
    exact .completed (List.forall_mem_cons.mpr ⟨hname, hcreated⟩) rfl
  | refused created improper hnames hcreated himproper heq =>
    subst heq
    exact .refused (name :: created) improper (List.cons_prefix_cons.mpr ⟨rfl, hnames⟩)
      (List.forall_mem_cons.mpr ⟨hname, hcreated⟩) himproper rfl
  | failed created last hnames hcreated hproper hfails heq =>
    subst heq
    exact .failed (name :: created) last (List.cons_prefix_cons.mpr ⟨rfl, hnames⟩)
      (List.forall_mem_cons.mpr ⟨hname, hcreated⟩) hproper hfails rfl

section

variable {server : Server} {name : String} (rest : List String)

/-- A name that is refused ends the call. -/
theorem ensureCollections_cons_of_not_proper (hname : ¬ Proper name) :
    ensureCollections server (name :: rest) =
      .unsent (.error (.invalidCollection name)) := by
  simp only [ensureCollections, Collection.validate_of_not_proper hname]

/-- A table that the server does not create ends the call. -/
theorem ensureCollections_cons_of_not_creates (hname : Proper name)
    (hfails : ¬ Creates server name) :
    ensureCollections server (name :: rest) =
      ⟨[createStatement name], creation server name⟩ := by
  simp only [ensureCollections, Collection.validate_of_proper hname, creation]
  cases hreply : server (createStatement name) with
  | rows values complaint => exact absurd ⟨values, complaint, hreply⟩ hfails
  | failed failure => rfl
  | silent => rfl

/-- Behind a created table the call goes on with the other names. -/
theorem ensureCollections_cons_of_created (hname : Created server name) :
    ensureCollections server (name :: rest) =
      ⟨createStatement name :: (ensureCollections server rest).statements,
        (ensureCollections server rest).outcome⟩ := by
  obtain ⟨values, complaint, hreply⟩ := hname.executed
  simp only [ensureCollections, Collection.validate_of_proper hname.proper, hreply,
    ServerReply.rows?, Pending.now]

end

/-- A call that creates tables ends in one of these ways. -/
theorem creation_ensureCollections (server : Server) (names : List String) :
    Creation server names (ensureCollections server names) := by
  induction names with
  | nil => exact .completed (List.forall_mem_nil _) rfl
  | cons name rest ih =>
    by_cases hname : Proper name
    case neg =>
      exact .refused [] name ⟨rest, rfl⟩ (List.forall_mem_nil _) hname
        (ensureCollections_cons_of_not_proper rest hname)
    case pos =>
      by_cases hcreates : Creates server name
      case neg =>
        exact .failed [] name ⟨rest, rfl⟩ (List.forall_mem_nil _) hname hcreates
          (ensureCollections_cons_of_not_creates rest hname hcreates)
      case pos =>
        have hcreated : Created server name := ⟨hname, hcreates⟩
        rw [ensureCollections_cons_of_created rest hcreated]
        exact ih.cons hcreated

/-- All names that the server was asked for are proper if the last one is. -/
theorem proper_of_created {server : Server} {created : List String} {last : String}
    (hcreated : ∀ earlier ∈ created, Created server earlier) (hlast : Proper last) :
    ∀ sent ∈ created ++ [last], Proper sent :=
  List.forall_mem_append.mpr ⟨fun sent hmem => (hcreated sent hmem).proper,
    List.forall_mem_singleton.mpr hlast⟩

/-- What is sent while tables are created are the templates of names in their order, all of them
proper. -/
theorem exists_texts_ensureCollections (server : Server) (names : List String) :
    ∃ sent, sent <+: names ∧ (∀ name ∈ sent, Proper name) ∧
      (ensureCollections server names).statements.map Statement.text =
        sent.map createTemplate.fill := by
  have htexts (sent : List String) :
      (sent.map createStatement).map Statement.text = sent.map createTemplate.fill := by
    rw [List.map_map]
    exact List.map_congr_left fun name _ => text_createStatement name
  cases creation_ensureCollections server names with
  | completed hcreated heq =>
    have hproper : ∀ name ∈ names, Proper name := fun name hmem => (hcreated name hmem).proper
    exact ⟨names, List.prefix_rfl, hproper, heq ▸ htexts names⟩
  | refused created name hnames hcreated himproper heq =>
    have hproper : ∀ sent ∈ created, Proper sent := fun sent hmem => (hcreated sent hmem).proper
    exact ⟨created, (List.prefix_append created _).trans hnames, hproper, heq ▸ htexts created⟩
  | failed created name hnames hcreated hproper hfails heq =>
    exact ⟨created ++ [name], hnames, proper_of_created hcreated hproper, heq ▸ htexts _⟩

/-- How a call that creates tables ends at an improper name or before it. -/
inductive Barred (server : Server) (before : List String) (name : String)
    (exchange : Exchange Unit) : Prop
  /-- The first improper name is refused, this one or an earlier one. The tables of all names before
  it have been created. -/
  | refused (created : List String) (first : String)
      (hnames : created ++ [first] <+: before ++ [name])
      (hcreated : ∀ earlier ∈ created, Created server earlier) (himproper : ¬ Proper first)
      (heq : exchange = ⟨created.map createStatement, .now (.error (.invalidCollection first))⟩)
  /-- The server has not created the table of an earlier name, and the call ends as its reply does. -/
  | failed (created : List String) (last : String) (hnames : created ++ [last] <+: before)
      (hcreated : ∀ earlier ∈ created, Created server earlier) (hproper : Proper last)
      (hfails : ¬ Creates server last)
      (heq : exchange = ⟨(created ++ [last]).map createStatement, creation server last⟩)

/-- Proper names at the beginning stand before an improper one. -/
theorem prefix_of_proper {sent before after : List String} {name : String}
    (hsent : sent <+: before ++ name :: after) (hproper : ∀ earlier ∈ sent, Proper earlier)
    (hname : ¬ Proper name) : sent <+: before := by
  have hlength : sent.length ≤ before.length := by
    by_contra hlong
    have hstart : before ++ [name] <+: before ++ name :: after := ⟨after, by simp⟩
    have hwithin : before ++ [name] <+: sent :=
      List.prefix_of_prefix_length_le hstart hsent (by simp; omega)
    exact hname (hproper name (hwithin.subset (by simp)))
  exact List.prefix_of_prefix_length_le hsent (List.prefix_append before _) hlength

/-- An improper name bars what stands behind it. -/
theorem barred_ensureCollections (server : Server) {name : String} (hname : ¬ Proper name)
    (before after : List String) :
    Barred server before name (ensureCollections server (before ++ name :: after)) := by
  cases creation_ensureCollections server (before ++ name :: after) with
  | completed hcreated heq => exact absurd (hcreated name (by simp)).proper hname
  | refused created first hnames hcreated himproper heq =>
    have hbefore : created <+: before :=
      prefix_of_proper ((List.prefix_append created _).trans hnames)
        (fun earlier hmem => (hcreated earlier hmem).proper) hname
    have hstart : before ++ [name] <+: before ++ name :: after := ⟨after, by simp⟩
    have hfirst : created ++ [first] <+: before ++ [name] :=
      List.prefix_of_prefix_length_le hnames hstart (by simpa using hbefore.length_le)
    exact .refused created first hfirst hcreated himproper heq
  | failed created last hnames hcreated hproper hfails heq =>
    have hbefore := prefix_of_proper hnames (proper_of_created hcreated hproper) hname
    exact .failed created last hbefore hcreated hproper hfails heq

/-! ### Texts and data -/

/-- The text of a statement depends on the shape of the request and on the table only. What is sent
for a collection has its name in quotation marks in a text fixed by the shape, and the name is an
identifier. Any other string is refused without a statement from it; while tables are created, a
failure of the server on an earlier table is reported in its place. -/
theorem statements_injectionFree :
    (∀ (table : String) (first second : Filter), first.shape = second.shape →
      (selectStatement table first).text = (selectStatement table second).text) ∧
    (∀ (table : String) (first second : GroupStage), first.sums.length = second.sums.length →
      ∃ one other, pipelineStatement table ⟨[first]⟩ = .ok one ∧
        pipelineStatement table ⟨[second]⟩ = .ok other ∧ one.text = other.text) ∧
    (∀ (table : String) (first second : List Document), first.length = second.length →
      (insertStatement table first).text = (insertStatement table second).text) ∧
    ∀ (server : Server) (name : String),
      (∀ (now : Nat) (filter : Filter) (options : CallOptions),
        Guarded name (some (selectTemplate filter.shape))
          (find server now name filter options)) ∧
      (∀ (now : Nat) (pipeline : Pipeline) (options : CallOptions),
        Guarded name (pipelineTemplate? pipeline.shape)
          (aggregate server now name pipeline options)) ∧
      (∀ (supply : KeySupply) (issued now : Nat) (docs : List Document) (options : CallOptions),
        Guarded name (some (insertTemplate docs.length))
          (insertMany server supply issued now name docs options).1) ∧
      (∀ names, ∃ sent, sent <+: names ∧ (∀ proper ∈ sent, Proper proper) ∧
        (ensureCollections server names).statements.map Statement.text =
          sent.map createTemplate.fill) ∧
      ∀ before after, ¬ Proper name →
        Barred server before name (ensureCollections server (before ++ name :: after)) := by
  refine ⟨fun table first second h => ?_, fun table first second h => ?_,
    fun table first second h => ?_, fun server name => ⟨?_, ?_, ?_, ?_, ?_⟩⟩
  · rw [text_selectStatement, text_selectStatement, h]
  · refine ⟨_, _, rfl, rfl, ?_⟩
    rw [text_groupStatement, text_groupStatement, h]
  · rw [text_insertStatement, text_insertStatement, h]
  · exact fun now filter options => guarded_find server now name options filter
  · exact fun now pipeline options => guarded_aggregate server now name options pipeline
  · exact fun supply issued now docs options =>
      guarded_insertMany server now name options supply issued docs
  · exact exists_texts_ensureCollections server
  · exact fun before after hname => barred_ensureCollections server hname before after

/-- A field and a value that look like statements do not show in the text, and a name that does is
refused behind the table of a proper one. -/
theorem statements_injectionFree_hostile :
    let harmless : Filter := ⟨[("name", .eq (.text "Kiwi"))]⟩
    let hostile : Filter := ⟨[("') OR TRUE --", .eq (.text "'; DROP TABLE inventory; --"))]⟩
    let server : Server := fun _ => .rows [] ""
    (harmless.shape = hostile.shape ∧ (selectStatement "inventory" hostile).text =
      "SELECT doc FROM \"inventory\" WHERE (doc -> $1 = to_jsonb($2::text)) ORDER BY seq") ∧
    (¬ Proper "inv; DROP TABLE x" ∧
      find server 0 "inv; DROP TABLE x" hostile .unbounded =
        .unsent (.error (.invalidCollection "inv; DROP TABLE x")) ∧
      Barred server ["inventory"] "inv; DROP TABLE x"
        (ensureCollections server ["inventory", "inv; DROP TABLE x", "metric"])) := by
  intro harmless hostile server
  obtain ⟨hselect, -, -, hcalls⟩ := statements_injectionFree
  obtain ⟨hfind, -, -, -, hensure⟩ := hcalls server "inv; DROP TABLE x"
  have hshape : harmless.shape = hostile.shape := rfl
  have hname : ¬ Proper "inv; DROP TABLE x" := by decide
  have htext : (selectStatement "inventory" harmless).text =
      "SELECT doc FROM \"inventory\" WHERE (doc -> $1 = to_jsonb($2::text)) ORDER BY seq" := rfl
  have hsame := hselect "inventory" harmless hostile hshape
  exact ⟨⟨hshape, hsame ▸ htext⟩, hname, (hfind 0 hostile .unbounded).improper hname,
    hensure ["inventory"] ["metric"] hname⟩

/-- If the server fails on the table of a proper name, an improper name behind it is not reported. -/
theorem ensureCollections_reports_server :
    let server : Server := fun _ =>
      .failed (.database (some "42501") "permission denied for schema public")
    ¬ Proper "bad name" ∧
      (ensureCollections server ["inventory", "bad name"]).statements =
        [createStatement "inventory"] ∧
      (ensureCollections server ["inventory", "bad name"]).outcome =
        .now (.error (.query
          "database error in ensure_collections (42501): permission denied for schema public")) ∧
      ∀ name, (ensureCollections server ["inventory", "bad name"]).outcome ≠
        .now (.error (.invalidCollection name)) := by
  intro server
  have houtcome : (ensureCollections server ["inventory", "bad name"]).outcome =
      .now (.error (.query
        "database error in ensure_collections (42501): permission denied for schema public")) := by
    rfl
  refine ⟨by decide, rfl, houtcome, fun name hname => ?_⟩
  cases houtcome.symm.trans hname

end Postgres

end Stockroom
