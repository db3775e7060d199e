import Stockroom.Postgres.ConnectionUrl
import Stockroom.Proofs.NumberGrammar
import Stockroom.Proofs.DecimalText
import Stockroom.Proofs.UrlParts

/-!
# What is connected to

A target is a database of a server together with the user who connects to it. User, password and
database are any texts, and URLs spell them in many ways. Main statements: every URL that spells a
target leads to an attempt to reach this target, and the outcome of the attempt is the outcome of
connecting; whatever text is given, either it is refused and nothing is attempted, or the attempt
goes to a server that URLs can name.
-/

namespace Stockroom

namespace Url

open Text (isUnreserved percentText? SpellsText)

/-! ### Pieces of a text -/

/-- A text without blanks and controls stays as it is. -/
theorem cleaned_of_visible {cs : List Char} (h : ∀ c ∈ cs, ' ' < c) : cleaned cs = cs := by
  have hend {ds : List Char} (hsub : ∀ c ∈ ds, ' ' < c) : ds.dropWhile (· ≤ ' ') = ds := by
    refine List.dropWhile_eq_self_iff.mpr fun hpos => ?_
    have hfirst := hsub _ (List.getElem_mem hpos)
    simpa using hfirst
  have hreverse : ∀ c ∈ cs.reverse, ' ' < c := fun c hc => h c (List.mem_reverse.mp hc)
  rw [cleaned, hend h, hend hreverse, List.reverse_reverse]
  refine List.filter_eq_self.mpr fun c hc => ?_
  have hne {d : Char} (hd : ¬ ' ' < d) : c ≠ d := fun heq => hd (heq ▸ h c hc)
  simp [hne (d := '\t') (by decide), hne (d := '\n') (by decide), hne (d := '\r') (by decide)]

/-- A text without a mark is all in front of it. -/
theorem takeWhile_ne_of_not_mem {mark : Char} {cs : List Char} (h : mark ∉ cs) :
    cs.takeWhile (· != mark) = cs := by
  refine List.takeWhile_eq_self_iff.mpr fun c hc => ?_
  exact bne_iff_ne.mpr fun heq => h (heq ▸ hc)

/-- The part of a text in front of the first mark. -/
theorem takeWhile_ne_append_cons {mark : Char} {before : List Char} (h : mark ∉ before)
    (after : List Char) : (before ++ mark :: after).takeWhile (· != mark) = before := by
  have hbefore : ∀ c ∈ before, (c != mark) = true :=
    fun c hc => bne_iff_ne.mpr fun heq => h (heq ▸ hc)
  rw [List.takeWhile_append_of_pos hbefore, List.takeWhile_cons_of_neg (by simp), List.append_nil]

/-- A text without a mark is not cut. -/
theorem cut_of_not_mem {mark : Char} {cs : List Char} (h : mark ∉ cs) :
    cut mark cs = (cs, none) := by
  rw [cut, takeWhile_ne_of_not_mem h, if_neg (Nat.lt_irrefl _)]

/-- A text is cut at its first mark. -/
theorem cut_append_cons {mark : Char} {before : List Char} (h : mark ∉ before)
    (after : List Char) : cut mark (before ++ mark :: after) = (before, some after) := by
  rw [cut, takeWhile_ne_append_cons h, if_pos (by simp)]
  simp

/-! ### Spellings of a target -/

/-- Where one connects to. -/
structure Target where
  user : List Char := []
  password : List Char := []
  host : List Char
  port : Option Nat := none
  database : List Char

/-- A target that URLs can name by a host in plain characters. -/
structure Target.Nameable (target : Target) : Prop where
  host_ne_nil : target.host ≠ []
  host_plain : ∀ c ∈ target.host, isUnreserved c = true
  port_lt : ∀ number ∈ target.port, number < 65536
  database_ne : target.database ≠ ['.'] ∧ target.database ≠ ['.', '.']

/-- Whether a text in front of a host spells a user and a password. -/
inductive SpellsUser : List Char → List Char → List Char → Prop
  | nobody : SpellsUser [] [] []
  | user {name user : List Char} (hname : SpellsText name user) :
      SpellsUser (name ++ ['@']) user []
  | password {name word user password : List Char} (hname : SpellsText name user)
      (hword : SpellsText word password) :
      SpellsUser ((name ++ ':' :: word) ++ ['@']) user password

/-- The text of a port behind a host. -/
def portText : Option Nat → List Char
  | none => []
  | some number => ':' :: Nat.toDigits 10 number

/-- Whether a text is a URL of a target. -/
def SpellsTarget (text : String) (target : Target) : Prop :=
  ∃ user database, SpellsUser user target.user target.password ∧
    SpellsText database target.database ∧
    text.toList = "postgres".toList ++ ':' :: '/' :: '/' ::
      ((user ++ (target.host ++ portText target.port)) ++ '/' :: database)

/-- Whether what a URL is read as leads to a target. -/
structure LeadsTo (url : Url) (target : Target) : Prop where
  user : percentText? url.authority.user = some target.user
  password : percentText? url.authority.password = some target.password
  host : url.authority.host = some (.name target.host)
  port : url.authority.port = target.port
  database : ∃ segment, url.path = [segment] ∧ percentText? segment = some target.database
  query : url.query = none

/-! ### The characters of spellings -/

/-- A character of a spelling: `%` or one without a part in URLs. -/
def IsOrdinary (c : Char) : Prop :=
  c = '%' ∨ isUnreserved c = true

instance (c : Char) : Decidable (IsOrdinary c) :=
  inferInstanceAs (Decidable (_ ∨ _))

/-- An ordinary character is no blank and no control. -/
theorem IsOrdinary.space_lt {c : Char} (h : IsOrdinary c) : ' ' < c := by
  rcases h with rfl | hplain
  · decide
  · by_contra hblank
    have hreserved : isUnreserved c = false :=
      Text.forall_within 0 32 (by decide) c (Nat.zero_le _) (Nat.le_of_not_lt hblank)
    rw [hplain] at hreserved
    cases hreserved

/-- A character that is not ordinary does not occur among ordinary ones. -/
theorem not_mem_of_isOrdinary {cs : List Char} (h : ∀ c ∈ cs, IsOrdinary c) {d : Char}
    (hd : ¬ IsOrdinary d) : d ∉ cs :=
  fun hmem => hd (h d hmem)

/-- A digit of a port is ordinary. -/
theorem isOrdinary_of_mem_toDigits {number : Nat} {c : Char} (h : c ∈ Nat.toDigits 10 number) :
    IsOrdinary c := by
  have hdigit : c.isDigit = true := Text.isDigit_of_mem_toDigits h
  exact .inr (by simp [isUnreserved, Char.isAlphanum, hdigit])

/-- A port is written by a colon and digits. -/
theorem eq_colon_or_isOrdinary_of_mem_portText {port : Option Nat} :
    ∀ c ∈ portText port, c = ':' ∨ IsOrdinary c := by
  cases port with
  | none => exact List.forall_mem_nil _
  | some number =>
    exact List.forall_mem_cons.mpr ⟨.inl rfl, fun c hc => .inr (isOrdinary_of_mem_toDigits hc)⟩

/-- A user is written by a colon, an `@` and ordinary characters. -/
theorem SpellsUser.eq_or_isOrdinary {text user password : List Char}
    (h : SpellsUser text user password) : ∀ c ∈ text, (c = ':' ∨ c = '@') ∨ IsOrdinary c := by
  have hat : ∀ c ∈ ['@'], (c = ':' ∨ c = '@') ∨ IsOrdinary c :=
    List.forall_mem_singleton.mpr (.inl (.inr rfl))
  have hspelled {spelled text : List Char} (h : SpellsText spelled text) :
      ∀ c ∈ spelled, (c = ':' ∨ c = '@') ∨ IsOrdinary c :=
    fun c hc => .inr (Text.Spells.eq_or_isUnreserved h c hc)
  cases h with
  | nobody => exact List.forall_mem_nil _
  | user hname => exact List.forall_mem_append.mpr ⟨hspelled hname, hat⟩
  | password hname hword =>
    exact List.forall_mem_append.mpr ⟨List.forall_mem_append.mpr ⟨hspelled hname,
      List.forall_mem_cons.mpr ⟨.inl (.inl rfl), hspelled hword⟩⟩, hat⟩

/-! ### Reading a server -/

namespace Authority

/-- Without an `@` there is no user. -/
theorem splitUser_of_not_mem {address : List Char} (h : '@' ∉ address) :
    splitUser address = (none, address) := by
  have hreverse : '@' ∉ address.reverse := fun hmem => h (List.mem_reverse.mp hmem)
  rw [splitUser, takeWhile_ne_of_not_mem hreverse, List.reverse_reverse,
    if_neg (Nat.lt_irrefl _)]

/-- A user stands in front of the last `@`. -/
theorem splitUser_append {address : List Char} (h : '@' ∉ address) (user : List Char) :
    splitUser ((user ++ ['@']) ++ address) = (some user, address) := by
  have haddress : (((user ++ ['@']) ++ address).reverse.takeWhile (· != '@')).reverse =
      address := by
    rw [List.append_assoc, List.singleton_append, List.reverse_append, List.reverse_cons,
      List.append_assoc, List.singleton_append, takeWhile_ne_append_cons (by simpa using h),
      List.reverse_reverse]
  have hlength : ((user ++ ['@']) ++ address).length - address.length - 1 = user.length := by
    simp only [List.length_append, List.length_singleton]
    omega
  rw [splitUser, haddress, hlength, List.append_assoc, List.take_left' rfl, if_pos]
  simp only [List.length_append, List.length_singleton]
  omega

/-- A host without colons and brackets stands in front of a port. -/
theorem splitHost_append_portText {host : List Char} (h : ∀ c ∈ host, c ≠ ':' ∧ c ≠ '[')
    (port : Option Nat) : splitHost false (host ++ portText port) = (host, portText port) := by
  induction host with
  | nil => cases port <;> simp [splitHost, portText]
  | cons c host ih =>
    obtain ⟨⟨hcolon, hbracket⟩, hhost⟩ := List.forall_mem_cons.mp h
    have hclosed : (c == '[') = false := beq_false_of_ne hbracket
    rw [List.cons_append, splitHost, if_neg (by simp [hcolon])]
    simp [hclosed, ih hhost]

/-- The text of a port is read as its number. -/
theorem port?_portText {port : Option Nat} (h : ∀ number ∈ port, number < 65536) :
    port? (portText port) = some (port, []) := by
  cases port with
  | none => rfl
  | some number =>
    have hdigits : (Nat.toDigits 10 number).takeWhile Char.isDigit = Nat.toDigits 10 number :=
      List.takeWhile_eq_self_iff.mpr fun c hc => Text.isDigit_of_mem_toDigits hc
    have hvalue : Text.digitsValue (Nat.toDigits 10 number) = number := by
      rw [Text.digitsValue_eq_ofDigitChars, Nat.ofDigitChars_toDigits (by decide) (by decide)]
    have hne : (Nat.toDigits 10 number).isEmpty = false :=
      List.isEmpty_eq_false_iff.mpr Nat.toDigits_ne_nil
    simp only [portText, port?, hdigits, hvalue, hne, h number rfl, if_true, List.drop_length]
    simp

end Authority

/-- A host in plain characters is read as it stands. -/
theorem Host.ofText?_of_isUnreserved {host : List Char}
    (h : ∀ c ∈ host, isUnreserved c = true) : ofText? .other host = some (.name host) := by
  have hmarks : marks.all (!isUnreserved ·) = true := by decide
  have hopen : ¬ host.any isForbidden = true := by
    rw [List.any_eq_true]
    rintro ⟨c, hc, hforbidden⟩
    have hreserved := List.all_eq_true.mp hmarks c (isForbidden_eq_true_iff.mp hforbidden)
    rw [h c hc] at hreserved
    cases hreserved
  rw [ofText?]
  · rw [if_pos rfl, if_neg hopen]
  · rintro rest rfl
    cases h '[' List.mem_cons_self

section

variable {target : Target} (htarget : target.Nameable)

include htarget

/-- The host of a target is made of ordinary characters. -/
theorem Target.Nameable.isOrdinary_host : ∀ c ∈ target.host, IsOrdinary c :=
  fun c hc => .inr (htarget.host_plain c hc)

/-- What stands behind the user is read as host and port. -/
theorem Authority.ofText?_of_splitUser {cs : List Char} {user : Option (List Char)}
    (h : splitUser cs = (user, target.host ++ portText target.port)) (isEnd : Bool) :
    ofText? .other cs isEnd = some (⟨(user.getD []).takeWhile (· != ':'),
      (user.getD []).drop (((user.getD []).takeWhile (· != ':')).length + 1),
      some (.name target.host), target.port⟩, []) := by
  have hsplit := splitHost_append_portText (fun c hc =>
    ⟨fun heq => not_mem_of_isOrdinary htarget.isOrdinary_host (by decide) (heq ▸ hc),
      fun heq => not_mem_of_isOrdinary htarget.isOrdinary_host (by decide) (heq ▸ hc)⟩) target.port
  have hname := Host.ofText?_of_isUnreserved htarget.host_plain
  rw [ofText?, h]
  simp only [hsplit, if_neg htarget.host_ne_nil, hname, port?_portText htarget.port_lt,
    Option.bind_eq_bind, Option.bind_some]
  simp

/-- A user in front of host and port is read as a user and a password that are spelled so. -/
theorem Authority.exists_ofText? {text : List Char}
    (h : SpellsUser text target.user target.password) (isEnd : Bool) :
    ∃ authority,
      ofText? .other (text ++ (target.host ++ portText target.port)) isEnd =
        some (authority, []) ∧
      percentText? authority.user = some target.user ∧
      percentText? authority.password = some target.password ∧
      authority.host = some (.name target.host) ∧ authority.port = target.port := by
  have hat : '@' ∉ target.host ++ portText target.port := by
    rw [List.mem_append]
    rintro (hmem | hmem)
    · exact not_mem_of_isOrdinary htarget.isOrdinary_host (by decide) hmem
    · exact absurd (eq_colon_or_isOrdinary_of_mem_portText _ hmem) (by decide)
  have hcolon {name user : List Char} (hname : SpellsText name user) : ':' ∉ name :=
    not_mem_of_isOrdinary (Text.Spells.eq_or_isUnreserved hname) (by decide)
  generalize htext : text = text', huser : target.user = user,
    hpassword : target.password = password at h
  cases h with
  | nobody =>
    subst htext
    refine ⟨_, ofText?_of_splitUser htarget (splitUser_of_not_mem hat) isEnd, ?_, ?_, rfl, rfl⟩
    · rfl
    · rfl
  | @user name user hname =>
    subst htext
    refine ⟨_, ofText?_of_splitUser htarget (splitUser_append hat name) isEnd, ?_, ?_, rfl, rfl⟩
    · simp only [Option.getD_some, takeWhile_ne_of_not_mem (hcolon hname)]
      exact hname.percentText?_eq
    · simp only [Option.getD_some, takeWhile_ne_of_not_mem (hcolon hname)]
      rw [List.drop_eq_nil_of_le (Nat.le_succ _)]
      rfl
  | @password name word user password hname hword =>
    subst htext
    refine ⟨_, ofText?_of_splitUser htarget (splitUser_append hat (name ++ ':' :: word)) isEnd,
      ?_, ?_, rfl, rfl⟩
    · simp only [Option.getD_some, takeWhile_ne_append_cons (hcolon hname)]
      exact hname.percentText?_eq
    · simp only [Option.getD_some, takeWhile_ne_append_cons (hcolon hname)]
      rw [List.append_cons, List.drop_left' (by simp)]
      exact hword.percentText?_eq

end

/-- A path of one segment that stands for itself. -/
theorem Path.ofText_singleton {segment : List Char} (hslash : '/' ∉ segment)
    (hplain : IsPlain segment) : ofText .other ('/' :: segment) = [segment] := by
  have hsegments : segment.splitOnP SchemeKind.other.isSlash = [segment] := by
    refine List.splitOnP_eq_singleton fun c hc => ?_
    have hne : c ≠ '/' := fun heq => hslash (heq ▸ hc)
    simp [SchemeKind.isSlash, hne]
  have hpath : ofText .other ('/' :: segment) =
      resolve [] (segment.splitOnP SchemeKind.other.isSlash) := by
    rw [ofText, if_pos (by decide)]
  rw [hpath, hsegments, resolve, enter, if_neg (by simp [hplain.1]), if_neg (by simp [hplain.2])]
  rfl

/-- A server and a path of one segment behind two slashes. -/
theorem serverParts?_append_cons {address segment : List Char} (haddress : '/' ∉ address)
    (hslash : '/' ∉ segment) (hplain : Path.IsPlain segment) {authority : Authority}
    (hauthority : Authority.ofText? .other address false = some (authority, [])) :
    serverParts? .other (address ++ '/' :: segment) true = some (authority, [segment]) := by
  have hslashes : (fun c => !SchemeKind.other.isSlash c) = (· != '/') := by
    funext c
    simp [SchemeKind.isSlash, bne]
  simp only [serverParts?, hslashes, takeWhile_ne_append_cons haddress, List.drop_left,
    List.isEmpty_cons, Bool.and_false, hauthority, Option.bind_eq_bind, Option.bind_some,
    List.nil_append, Path.ofText_singleton hslash hplain]
  rfl

/-- A URL without a query and a fragment is read part by part. -/
theorem ofText?_of_parts {text : String} {body : List Char} {authority : Authority}
    {path : List (List Char)} (htext : text.toList = "postgres".toList ++ ':' :: body)
    (hbody : ∀ c ∈ body, ' ' < c ∧ c ≠ '#' ∧ c ≠ '?')
    (hparts : parts? .other body true = some (authority, path)) :
    ofText? text = some ⟨"postgres".toList, authority, path, none⟩ := by
  have hscheme : "postgres".toList.all (fun c => ' ' < c && c != '#' && c != '?') = true := by
    decide
  have hchars : ∀ c ∈ text.toList, ' ' < c ∧ c ≠ '#' ∧ c ≠ '?' := by
    rw [htext]
    refine List.forall_mem_append.mpr ⟨fun c hc => ?_,
      List.forall_mem_cons.mpr ⟨by decide, hbody⟩⟩
    simpa [and_assoc] using List.all_eq_true.mp hscheme c hc
  have hclean : cleaned text.toList = text.toList := cleaned_of_visible fun c hc => (hchars c hc).1
  have hhash : cut '#' text.toList = (text.toList, none) :=
    cut_of_not_mem fun hmem => (hchars _ hmem).2.1 rfl
  have hquestion : cut '?' text.toList = (text.toList, none) :=
    cut_of_not_mem fun hmem => (hchars _ hmem).2.2 rfl
  have hcut : cut ':' text.toList = ("postgres".toList, some body) := by
    rw [htext]
    exact cut_append_cons (by decide) body
  have hkind : SchemeKind.ofScheme "postgres".toList = .other := by decide
  have hlower : "postgres".toList.map Char.toLower = "postgres".toList := by decide
  simp only [ofText?, hclean, hhash, hquestion, hcut, Option.bind_eq_bind, Option.bind_some,
    hlower, hkind, Option.isNone_none, Bool.and_self, hparts]
  rw [if_pos (by decide)]
  rfl

/-- A URL of a target is read as a URL that leads to it. -/
theorem exists_ofText?_of_spellsTarget {text : String} {target : Target}
    (htarget : target.Nameable) (h : SpellsTarget text target) :
    ∃ url, ofText? text = some url ∧ url.LeadsTo target := by
  obtain ⟨user, database, huser, hdatabase, htext⟩ := h
  obtain ⟨authority, hread, hname, hword, hhost, hport⟩ :=
    Authority.exists_ofText? htarget huser false
  have hsegment : ∀ c ∈ database, IsOrdinary c := Text.Spells.eq_or_isUnreserved hdatabase
  have haddress : ∀ c ∈ user ++ (target.host ++ portText target.port),
      (c = ':' ∨ c = '@') ∨ IsOrdinary c :=
    List.forall_mem_append.mpr ⟨huser.eq_or_isOrdinary, List.forall_mem_append.mpr
      ⟨fun c hc => .inr (htarget.isOrdinary_host c hc),
        fun c hc => (eq_colon_or_isOrdinary_of_mem_portText c hc).imp_left .inl⟩⟩
  have hbody : ∀ c ∈ '/' :: '/' ::
      ((user ++ (target.host ++ portText target.port)) ++ '/' :: database),
      (c = '/' ∨ c = ':' ∨ c = '@') ∨ IsOrdinary c :=
    List.forall_mem_cons.mpr ⟨.inl (.inl rfl), List.forall_mem_cons.mpr ⟨.inl (.inl rfl),
      List.forall_mem_append.mpr ⟨fun c hc => (haddress c hc).imp_left .inr,
        List.forall_mem_cons.mpr ⟨.inl (.inl rfl), fun c hc => .inr (hsegment c hc)⟩⟩⟩⟩
  have hplain : Path.IsPlain database := by
    rw [Path.isPlain_iff, hdatabase.percentText?_eq]
    exact ⟨fun heq => htarget.database_ne.1 (Option.some.inj heq),
      fun heq => htarget.database_ne.2 (Option.some.inj heq)⟩
  have hparts := serverParts?_append_cons (fun hmem => absurd (haddress '/' hmem) (by decide))
    (not_mem_of_isOrdinary hsegment (by decide)) hplain hread
  refine ⟨_, ofText?_of_parts htext (fun c hc => ?_) hparts,
    ⟨hname, hword, hhost, hport, ⟨database, rfl, hdatabase.percentText?_eq⟩, rfl⟩⟩
  rcases hbody c hc with (rfl | rfl | rfl) | hordinary
  · decide
  · decide
  · decide
  · refine ⟨hordinary.space_lt, ?_, ?_⟩
    · rintro rfl
      exact absurd hordinary (by decide)
    · rintro rfl
      exact absurd hordinary (by decide)

example : (ofText? "postgres://localhost/reports").map (fun url => (url.authority.host, url.path)) =
    some (some (.name "localhost".toList), ["reports".toList]) := by decide +kernel

/-- Every target has a URL. -/
theorem exists_spellsTarget (target : Target) : ∃ text, SpellsTarget text target := by
  have hname := Text.spellsText_percentEncode target.user
  have hword := Text.spellsText_percentEncode target.password
  have hdatabase := Text.spellsText_percentEncode target.database
  exact ⟨String.ofList _, _, _, .password hname hword, hdatabase, String.toList_ofList⟩

/-- A URL of a server: its parts are percent-encoded texts, as is a host that is the path of a
socket. A host ends where it ends, and behind it no segment spells one point or two. -/
structure NamesServer (url : Url) : Prop where
  user : ∃ text, percentText? url.authority.user = some text
  password : ∃ text, percentText? url.authority.password = some text
  path : ∀ segment ∈ url.path, ∃ text, percentText? segment = some text
  socket : ∀ cs, url.authority.host = some (.name cs) →
    (Text.percentDecode cs).head? = some 0x2f → ∃ text, percentText? cs = some text
  host : ∀ host ∈ url.authority.host, host.IsClosed
  segments : url.authority.host.isSome → ∀ segment ∈ url.path,
    percentText? segment ≠ some ['.'] ∧ percentText? segment ≠ some ['.', '.']

end Url

namespace Postgres

open Text (percentText?)

/-- A part that is checked to be a text is one. -/
theorem ConnectionUrl.isText_eq_true_iff {cs : List Char} :
    isText cs = true ↔ ∃ text, percentText? cs = some text :=
  Option.isSome_iff_exists

/-- A URL that leads to a target names a server. -/
theorem ConnectionUrl.namesServer_of_leadsTo {url : Url} {target : Url.Target}
    (htarget : target.Nameable) (h : url.LeadsTo target) : namesServer url = true := by
  obtain ⟨segment, hpath, hsegment⟩ := h.database
  have hpercent : '%' ∉ target.host := fun hmem => absurd (htarget.host_plain _ hmem) (by decide)
  have hhost : isText target.host = true :=
    isText_eq_true_iff.mpr ⟨_, Text.percentText?_of_not_mem hpercent⟩
  have hname : isText url.authority.user = true := isText_eq_true_iff.mpr ⟨_, h.user⟩
  have hword : isText url.authority.password = true := isText_eq_true_iff.mpr ⟨_, h.password⟩
  have hdatabase : isText segment = true := isText_eq_true_iff.mpr ⟨_, hsegment⟩
  have hquery : Url.queryPairs [] = [] := rfl
  simp [namesServer, h.host, hpath, h.query, isReachable, hhost, hname, hword, hdatabase, hquery]

/-- A URL that is read and found to name a server does so. -/
theorem ConnectionUrl.namesServer_of_ofText? {text : String} {url : Url}
    (hread : Url.ofText? text = some url) (h : namesServer url = true) : url.NamesServer := by
  simp only [namesServer, Bool.and_eq_true, List.all_eq_true] at h
  obtain ⟨⟨⟨⟨hhost, hname⟩, hword⟩, hpath⟩, -⟩ := h
  have horderly := Url.isOrderly_of_ofText? hread
  refine ⟨isText_eq_true_iff.mp hname, isText_eq_true_iff.mp hword,
    fun segment hsegment => isText_eq_true_iff.mp (hpath segment hsegment), ?_,
    fun host hsome => (horderly host hsome).1, ?_⟩
  · intro cs hsome hslash
    rw [hsome] at hhost
    simp only [Option.all_some, isReachable, hslash, bne_self_eq_false, Bool.false_or] at hhost
    exact isText_eq_true_iff.mp hhost
  · intro hsome segment hsegment
    obtain ⟨host, hhost⟩ := Option.isSome_iff_exists.mp hsome
    exact Url.Path.isPlain_iff.mp ((horderly host hhost).2 segment hsegment)

/-- Every URL of a target leads to an attempt to reach the target, and the outcome is that of the
attempt. -/
theorem connect_of_spellsTarget {text : String} {target : Url.Target}
    (htarget : target.Nameable) (h : Url.SpellsTarget text target) :
    ∃ url : Url, url.LeadsTo target ∧ ∀ network : Network,
      connect network text = (network.reach url).mapError (·.inOperation "connect") := by
  obtain ⟨url, hread, hurl⟩ := Url.exists_ofText?_of_spellsTarget htarget h
  have hnames := ConnectionUrl.namesServer_of_leadsTo htarget hurl
  refine ⟨url, hurl, fun network => ?_⟩
  rw [connect, hread, Option.filter_some, if_pos hnames]

/-- A text either is refused whatever the network is like, or there is a URL of a server such that
connecting always is the attempt to reach it. -/
theorem connect_refuses_or_reaches (text : String) :
    (∀ network : Network, connect network text =
      .error (.query s!"sqlx error in connect: {network.complaint text}")) ∨
    ∃ url : Url, url.NamesServer ∧ ∀ network : Network,
      connect network text = (network.reach url).mapError (·.inOperation "connect") := by
  cases hread : (Url.ofText? text).filter ConnectionUrl.namesServer with
  | none =>
    refine .inl fun network => ?_
    rw [connect, hread]
    rfl
  | some url =>
    obtain ⟨hurl, hnames⟩ := Option.filter_eq_some_iff.mp hread
    refine .inr ⟨url, ConnectionUrl.namesServer_of_ofText? hurl hnames, fun network => ?_⟩
    rw [connect, hread]

end Postgres

end Stockroom
