import GroupAccess.Core.Operation
import GroupAccess.Store.Basic

namespace GroupAccess

/-- Failures that calls are made to end in, before they do anything. -/
abbrev Plan := Method → Option StoreFailure

def Plan.none : Plan := fun _ => Option.none

/-- Operations are carried out on a store under a deadline. One that would have to wait longer for
the tables is given up. -/
structure Service where
  policy : Policy
  /-- The deadline of each operation. -/
  timeoutMillis : Nat
  clock : Instant
  store : Store := {}
  plan : Plan := .none
  counters : Counters := .empty

namespace Service

/-- The agent that operations call the store as. -/
def worker : Agent := 1

def count (s : Service) (e : Event) : Service := { s with counters := s.counters.add e }

/-- A call as operations make it. A commit that is made to fail ends the transaction too. -/
def call (s : Service) (agent : Agent) (c : Call) :
    Option (Except StoreFailure c.Result × Service) :=
  match s.plan c.method with
  | some e =>
    let store := if c.method = .commit then s.store.abandon agent else s.store
    some (.error e, { s with store })
  | none => (s.store.call agent c).map fun (r, store) => (r, { s with store })

/-- Carries a program out to its end. If a call has to wait the program is given up there: its
transaction is rolled back and there is no result. -/
def run {α : Type} (agent : Agent) : Program α → Service → Option (Except Refusal α) × Service
  | .done r, s => (some r, s)
  | .count e next, s => run agent next (s.count e)
  | .call c next, s =>
    match s.call agent c with
    | some (r, s) => run agent (next r) s
    | none => (none, { s with store := s.store.abandon agent })

/-- A number of milliseconds in the unit that suits it. -/
def millisText (n : Nat) : String :=
  if n = 0 then "0ns"
  else if n < 1000 then s!"{n}ms"
  else s!"{n / 1000}" ++ String.ofList (Span.fraction (n % 1000 * 1000000)) ++ "s"

def timedOut (s : Service) (name : String) : Refusal :=
  .internal s!"{name} timed out after {millisText s.timeoutMillis}"

/-- Carries out an operation, which is counted however it ends. -/
def perform (s : Service) (o : Operation) (d : Draws) : Except Refusal o.Result × Service :=
  let (r, s) := run worker (o.program s.policy s.clock d) s
  (r.getD (.error (s.timedOut o.name)), s.count (.operation o.name))

end Service

end GroupAccess
