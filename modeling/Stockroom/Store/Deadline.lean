import Stockroom.Text.Quoted

/-!
# Store errors and deadlines

A call of a store may carry a deadline. Time is counted in milliseconds and is always an argument,
so that a call is a pure function of the moment at which it starts. A call that is under way is
`Pending`: it is answered after some time or never, and running it under a deadline bounds the time.
-/

namespace Stockroom

/-- Why a store does not answer a call. -/
inductive StoreError
  | connection (detail : String)
  | query (detail : String)
  | deadlineExceeded (operation : String)
  | invalidCollection (name : String)
  | serialization (detail : String)
  deriving DecidableEq

/-- The wording of an error. -/
def StoreError.message : StoreError → String
  | connection detail => s!"store connection failed: {detail}"
  | query detail => s!"store query failed: {detail}"
  | deadlineExceeded operation => s!"deadline exceeded during {operation}"
  | invalidCollection name => "invalid collection name " ++ Text.quoted name
  | serialization detail => s!"stored document could not be converted: {detail}"

/-- A result of a store. -/
abbrev Stored (α : Type) := Except StoreError α

/-- A call under way: answered after some milliseconds, or never. -/
inductive Pending (α : Type)
  | answered (delay : Nat) (result : Stored α)
  | never

namespace Pending

/-- The call that is answered at once. -/
def now {α : Type} (result : Stored α) : Pending α :=
  answered 0 result

/-- The result, if there ever is one. -/
def result? {α : Type} : Pending α → Option (Stored α)
  | answered _ result => some result
  | never => none

/-- The call with a function applied to its result. -/
def map {α β : Type} (f : α → β) : Pending α → Pending β
  | answered delay result => answered delay (result.map f)
  | never => never

end Pending

/-- What a caller asks of a store call: the moment from which on it fails, if any. -/
structure CallOptions where
  deadline : Option Nat
  deriving DecidableEq

namespace CallOptions

/-- A call that may take any time. -/
def unbounded : CallOptions := ⟨none⟩

/-- A call that starts at a moment and may take some milliseconds. -/
def withTimeout (now milliseconds : Nat) : CallOptions :=
  ⟨some (now + milliseconds)⟩

/-- Whether the deadline has been reached. -/
def isExpired (options : CallOptions) (now : Nat) : Bool :=
  options.deadline.any fun deadline => deadline ≤ now

@[simp] theorem isExpired_unbounded (now : Nat) : unbounded.isExpired now = false := rfl

/-- A time-out of zero is reached at once, any other one not before it is over. -/
theorem isExpired_withTimeout (now milliseconds later : Nat) :
    (withTimeout now milliseconds).isExpired later = decide (now + milliseconds ≤ later) := rfl

/-- Refuses an operation whose deadline has been reached. -/
def check (options : CallOptions) (now : Nat) (operation : String) : Stored Unit :=
  if options.isExpired now then .error (.deadlineExceeded operation) else .ok ()

/-- The call given up at the deadline: refused at once if the deadline has been reached, else
answered by then at the latest. -/
def run {α : Type} (options : CallOptions) (now : Nat) (operation : String) (call : Pending α) :
    Pending α :=
  match options.deadline with
  | none => call
  | some deadline =>
    if deadline ≤ now then .now (.error (.deadlineExceeded operation))
    else
      match call with
      | .answered delay result =>
        if now + delay ≤ deadline then .answered delay result
        else .answered (deadline - now) (.error (.deadlineExceeded operation))
      | .never => .answered (deadline - now) (.error (.deadlineExceeded operation))

end CallOptions

end Stockroom
