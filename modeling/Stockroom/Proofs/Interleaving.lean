import Stockroom.Store.Memory

/-!
# Sessions among other clients

A session asks the store one request at a time, and other clients may ask theirs in between. The
store answers each request at once and as a whole, so a run is a sequence of turns. Whatever the
others do, a session ends with what its own requests were answered, each in the state in which the
store then was.
-/

namespace Stockroom

/-- A turn of a client at the store, taken at a moment. -/
inductive Turn
  /-- The session makes its next request, if it has one. -/
  | own (now : Nat)
  /-- Another client makes a request. -/
  | other (now : Nat) (request : Request)

/-- A request of a session, with the moment at which it was answered and the store as it was. -/
structure Encounter where
  request : Request
  now : Nat
  memory : Memory

/-- How far a session has come: what is left of it, the store, and the requests answered so far. -/
structure Progress (α : Type) where
  session : Session α
  memory : Memory
  encounters : List Encounter

namespace Progress

variable {α : Type}

/-- A session before its first request. -/
def start (session : Session α) (memory : Memory) : Progress α :=
  ⟨session, memory, []⟩

/-- What the session has ended with, if it has ended. -/
def result? (progress : Progress α) : Option α :=
  match progress.session with
  | .done value => some value
  | .call .. => none

/-- The progress after one more turn. -/
def step (supply : KeySupply) (progress : Progress α) : Turn → Progress α
  | .other now request =>
    { progress with memory := (Memory.handler supply now request progress.memory).2 }
  | .own now =>
    match progress.session with
    | .done _ => progress
    | .call request next =>
      let (reply, memory) := Memory.handler supply now request progress.memory
      ⟨next reply, memory, progress.encounters ++ [⟨request, now, progress.memory⟩]⟩

/-- The progress after turns in their order. -/
def run (supply : KeySupply) (turns : List Turn) (progress : Progress α) : Progress α :=
  turns.foldl (step supply) progress

end Progress

/-- A session answered in given encounters goes on as another one. -/
inductive Session.Leads {α : Type} (supply : KeySupply) :
    Session α → List Encounter → Session α → Prop
  | nil (session : Session α) : Leads supply session [] session
  | cons {request : Request} {next : Stored request.Reply → Session α} {now : Nat}
      {memory : Memory} {encounters : List Encounter} {last : Session α} :
      Leads supply (next (Memory.handler supply now request memory).1) encounters last →
      Leads supply (.call request next) (⟨request, now, memory⟩ :: encounters) last

namespace Session.Leads

variable {α : Type} {supply : KeySupply}

/-- One more answer leads one request further. -/
theorem concat {first : Session α} {encounters : List Encounter} {request : Request}
    {next : Stored request.Reply → Session α}
    (h : Leads supply first encounters (.call request next)) (now : Nat) (memory : Memory) :
    Leads supply first (encounters ++ [⟨request, now, memory⟩])
      (next (Memory.handler supply now request memory).1) := by
  generalize hlast : Session.call request next = last at h
  induction h with
  | nil session =>
    subst hlast
    exact .cons (.nil _)
  | cons _ ih => exact .cons (ih hlast)

/-- A session that is done has no encounters. -/
theorem of_done {value : α} {encounters : List Encounter} {last : Session α}
    (h : Leads supply (.done value) encounters last) : encounters = [] ∧ last = .done value := by
  cases h
  exact ⟨rfl, rfl⟩

/-- A session that makes a request has not been answered yet, or goes on with the answer. -/
theorem of_call {request : Request} {next : Stored request.Reply → Session α}
    {encounters : List Encounter} {last : Session α}
    (h : Leads supply (.call request next) encounters last) :
    (encounters = [] ∧ last = .call request next) ∨
      ∃ now memory rest, encounters = ⟨request, now, memory⟩ :: rest ∧
        Leads supply (next (Memory.handler supply now request memory).1) rest last := by
  cases h with
  | nil => exact Or.inl ⟨rfl, rfl⟩
  | cons hrest => exact Or.inr ⟨_, _, _, rfl, hrest⟩

/-- A turn of any client preserves that the encounters explain how far a session has come. -/
theorem step {first : Session α} {progress : Progress α}
    (h : Leads supply first progress.encounters progress.session) (turn : Turn) :
    Leads supply first (progress.step supply turn).encounters
      (progress.step supply turn).session := by
  obtain ⟨session, memory, encounters⟩ := progress
  cases turn with
  | other now request => exact h
  | own now =>
    cases session with
    | done value => exact h
    | call request next => exact h.concat now memory

/-- After any turns the encounters of a session explain how far it has come. -/
theorem run {first : Session α} {progress : Progress α}
    (h : Leads supply first progress.encounters progress.session) (turns : List Turn) :
    Leads supply first (progress.run supply turns).encounters
      (progress.run supply turns).session := by
  induction turns generalizing progress with
  | nil => exact h
  | cons turn rest ih => exact ih (h.step turn)

/-- A session that has begun among other clients is led by its encounters. -/
theorem run_start (first : Session α) (memory : Memory) (turns : List Turn) :
    Leads supply first ((Progress.start first memory).run supply turns).encounters
      ((Progress.start first memory).run supply turns).session :=
  run (.nil first) turns

end Session.Leads

end Stockroom
