import GovernanceRelay.Console.Failure
import GovernanceRelay.Counters

/-!
# The desk

Commands work at a desk: they see and change the files and the counters, and what they print is
kept. An action may fail; what it did before that stays done. Actions follow one another
(`bind_apply`), and after a failure nothing follows.
-/

set_option autoImplicit false

namespace GovernanceRelay

/-- What commands see and change. -/
structure Desk where
  /-- The files. -/
  disk : Disk
  /-- The counters of this run. -/
  counters : Counters
  /-- What was printed on the output. -/
  output : String
  /-- What was printed on the error stream. -/
  complaints : String
deriving DecidableEq

/-- The desk at which a run begins. -/
def Desk.ofDisk (disk : Disk) : Desk := ⟨disk, Counters.zero, "", ""⟩

/-- Something that is done at a desk and may fail. -/
def Action (α : Type) : Type := Desk → Except Failure α × Desk

namespace Action

variable {α β : Type}

/-- Do nothing, with a result. -/
def done (value : α) : Action α := fun desk => (.ok value, desk)

/-- Do one thing and then, if it does not fail, another that depends on its result. -/
def andThen (first : Action α) (next : α → Action β) : Action β := fun desk =>
  match first desk with
  | (.ok value, desk) => next value desk
  | (.error failure, desk) => (.error failure, desk)

instance : Monad Action where
  pure := done
  bind := andThen

theorem pure_apply (value : α) (desk : Desk) : (pure value : Action α) desk = (.ok value, desk) :=
  rfl

theorem bind_apply (first : Action α) (next : α → Action β) (desk : Desk) :
    (first >>= next) desk = match first desk with
      | (.ok value, desk) => next value desk
      | (.error failure, desk) => (.error failure, desk) :=
  rfl

/-- Fail. -/
def fail (failure : Failure) : Action α := fun desk => (.error failure, desk)

/-- Take a result, or fail with the failure that its fault means. -/
def attempt {ε : Type} (failure : ε → Failure) (result : Except ε α) : Action α :=
  match result with
  | .ok value => done value
  | .error error => fail (failure error)

/-- Tell something about the files. -/
def look (question : Disk → α) : Action α := fun desk => (.ok (question desk.disk), desk)

/-- Take a result that depends on the files, or fail with the failure that its fault means. -/
def consult {ε : Type} (failure : ε → Failure) (question : Disk → Except ε α) : Action α :=
  fun desk => attempt failure (question desk.disk) desk

/-- Change the files, or fail with the failure that the fault means. -/
def change {ε : Type} (failure : ε → Failure) (write : Disk → Except ε Disk) : Action Unit :=
  fun desk =>
    match write desk.disk with
    | .ok disk => (.ok (), { desk with disk := disk })
    | .error error => (.error (failure error), desk)

/-- Change the counters. -/
def count (update : Counters → Counters) : Action Unit := fun desk =>
  (.ok (), { desk with counters := update desk.counters })

/-- Print a line on the output. -/
def say (line : String) : Action Unit := fun desk =>
  (.ok (), { desk with output := desk.output ++ line ++ "\n" })

/-- Print a line on the error stream. -/
def complain (line : String) : Action Unit := fun desk =>
  (.ok (), { desk with complaints := desk.complaints ++ line ++ "\n" })

/-- Print that something was done. -/
def succeed (message : String) : Action Unit := say ("✓ " ++ message)

/-- Print something to be noticed. -/
def warn (message : String) : Action Unit := say ("⚠ " ++ message)

/-- Print something to be known. -/
def inform (message : String) : Action Unit := say ("ℹ " ++ message)

/-- Print that the answer is no. -/
def deny (message : String) : Action Unit := complain ("✗ " ++ message)

/-- Print lines on the output. -/
def sayAll : List String → Action Unit
  | [] => done ()
  | line :: rest => do
    say line
    sayAll rest

end Action

end GovernanceRelay
