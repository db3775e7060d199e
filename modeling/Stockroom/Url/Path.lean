import Stockroom.Url.Host

/-!
# Paths of URLs

A path is a row of segments with slashes between them. The segment `.` stands for nothing, and `..`
takes back the segment before it. A drive letter is never taken back.
-/

namespace Stockroom.Url

/-- Whether a character ends a segment. A backslash counts as a slash where files and the network
are meant. -/
def SchemeKind.isSlash (kind : SchemeKind) (c : Char) : Bool :=
  c == '/' || (c == '\\' && kind != .other)

namespace Path

/-- Whether a segment is a letter with a colon or a bar. -/
def isDriveLetter : List Char → Bool
  | [letter, mark] => letter.isAlpha && (mark == ':' || mark == '|')
  | _ => false

/-- A segment with its percent-encoded points put in plain. -/
def plainPoints : List Char → List Char
  | [] => []
  | '%' :: '2' :: e :: rest =>
    if e = 'e' ∨ e = 'E' then '.' :: plainPoints rest else '%' :: '2' :: plainPoints (e :: rest)
  | c :: rest => c :: plainPoints rest

/-- Whether a segment stands for nothing. -/
def isHere (segment : List Char) : Bool :=
  plainPoints segment == ['.']

/-- Whether a segment takes back the one before it. -/
def isBack (segment : List Char) : Bool :=
  plainPoints segment == ['.', '.']

/-- The segments that are left when the last one is taken back. They are given from the last to the
first. -/
def up : List (List Char) → List (List Char)
  | [] => []
  | last :: rest => if isDriveLetter last then last :: rest else rest

/-- A path, with an empty segment behind it if the text of the path is at its end. -/
def close (isEnd : Bool) (path : List (List Char)) : List (List Char) :=
  if isEnd then [] :: path else path

/-- Takes a segment up into a path, which is given from its last segment to its first. Where the
segment is the end of the path, an empty one takes the place of `.` and `..`. -/
def enter (path : List (List Char)) (segment : List Char) (isEnd : Bool) : List (List Char) :=
  if isHere segment then close isEnd path
  else if isBack segment then close isEnd (up path)
  else segment :: path

/-- The path that a row of segments leads to. -/
def resolve (path : List (List Char)) : List (List Char) → List (List Char)
  | [] => path.reverse
  | segment :: rest => resolve (enter path segment rest.isEmpty) rest

/-- A segment that stands for itself. -/
def IsPlain (segment : List Char) : Prop :=
  isHere segment = false ∧ isBack segment = false

theorem isPlain_nil : IsPlain [] := by
  simp [IsPlain, isHere, isBack, plainPoints]

theorem mem_of_mem_up {path : List (List Char)} {segment : List Char} (h : segment ∈ up path) :
    segment ∈ path := by
  cases path with
  | nil => exact h
  | cons last rest =>
    rw [up] at h
    split at h
    · exact h
    · exact List.mem_cons_of_mem last h

theorem isPlain_of_mem_close {isEnd : Bool} {path : List (List Char)}
    (hpath : ∀ s ∈ path, IsPlain s) : ∀ s ∈ close isEnd path, IsPlain s := by
  cases isEnd with
  | false => exact hpath
  | true => exact List.forall_mem_cons.mpr ⟨isPlain_nil, hpath⟩

/-- Taking up a segment keeps the segments of a path plain. -/
theorem isPlain_of_mem_enter {path : List (List Char)} {segment : List Char} {isEnd : Bool}
    (hpath : ∀ s ∈ path, IsPlain s) : ∀ s ∈ enter path segment isEnd, IsPlain s := by
  rw [enter]
  split
  · exact isPlain_of_mem_close hpath
  · next here =>
    split
    · exact isPlain_of_mem_close fun s hs => hpath s (mem_of_mem_up hs)
    · next back =>
      exact List.forall_mem_cons.mpr
        ⟨⟨Bool.eq_false_iff.mpr here, Bool.eq_false_iff.mpr back⟩, hpath⟩

/-- No segment of a resolved path stands for nothing or takes another one back. -/
theorem isPlain_of_mem_resolve {path segments : List (List Char)}
    (hpath : ∀ s ∈ path, IsPlain s) : ∀ s ∈ resolve path segments, IsPlain s := by
  induction segments generalizing path with
  | nil => exact fun s hs => hpath s (List.mem_reverse.mp hs)
  | cons segment rest ih => exact ih (isPlain_of_mem_enter hpath)

/-- The path of a text, in which the first slash has no segment before it. -/
def ofText (kind : SchemeKind) (cs : List Char) : List (List Char) :=
  let cs := match cs with
    | [] => []
    | c :: rest => if kind.isSlash c then rest else c :: rest
  resolve [] (cs.splitOnP kind.isSlash)

end Path

end Stockroom.Url
