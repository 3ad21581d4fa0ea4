import GroupAccess.Core.Refusal
import GroupAccess.Store.Call
import GroupAccess.Store.Table
import GroupAccess.Token.Kind

namespace GroupAccess

inductive Event
  | tokenIssued (kind : TokenKind)
  /-- A redemption by its outcome: `ok` or the label of a refusal. -/
  | redemption (outcome : String)
  | authFailure (reason : String)
  /-- An operation that ended, by its name. -/
  | operation (name : String)
  deriving DecidableEq, Repr

def Event.sample : Event → String
  | .tokenIssued kind => "membership_tokens_issued_total\x7bkind=\"" ++ kind.name ++ "\"\x7d"
  | .redemption outcome =>
    "membership_invite_redemptions_total\x7boutcome=\"" ++ outcome ++ "\"\x7d"
  | .authFailure reason => "membership_auth_failures_total\x7breason=\"" ++ reason ++ "\"\x7d"
  | .operation name =>
    "membership_operation_duration_seconds_count\x7boperation=\"" ++ name ++ "\"\x7d"

abbrev Counters := Table Event Nat

namespace Counters

def count (c : Counters) (e : Event) : Nat := (c.get? e).getD 0

def add (c : Counters) (e : Event) : Counters := c.insert e (c.count e + 1)

end Counters

/-- A program ends with a result, counts an event, or makes a call to the store and goes on with the
answer. Between two calls anything may happen to the store. -/
inductive Program (α : Type)
  | done (result : Except Refusal α)
  | count (e : Event) (next : Program α)
  | call (c : Call) (next : Except StoreFailure c.Result → Program α)

namespace Program

variable {α β : Type}

def bind : Program α → (α → Program β) → Program β
  | .done (.ok a), f => f a
  | .done (.error e), _ => .done (.error e)
  | .count e next, f => .count e (next.bind f)
  | .call c next, f => .call c fun r => (next r).bind f

/-- Goes on with `f` where a program refuses. -/
def catching : Program α → (Refusal → Program α) → Program α
  | .done (.ok a), _ => .done (.ok a)
  | .done (.error e), f => f e
  | .count e next, f => .count e (next.catching f)
  | .call c next, f => .call c fun r => (next r).catching f

instance : Monad Program where
  pure a := .done (.ok a)
  bind := Program.bind

instance : MonadExceptOf Refusal Program where
  throw e := .done (.error e)
  tryCatch := Program.catching

def refuse (e : Refusal) : Program α := .done (.error e)

def tell (e : Event) : Program Unit := .count e (.done (.ok ()))

/-- Calls the store; a failure is refused as `refusal` says. -/
def ask (c : Call) (refusal : StoreFailure → Refusal := Refusal.ofStore) : Program c.Result :=
  .call c fun
    | .ok a => .done (.ok a)
    | .error e => .done (.error (refusal e))

/-- The value, or a refusal where there is none. -/
def require (e : Refusal) : Option α → Program α
  | some a => .done (.ok a)
  | none => .done (.error e)

def lift (r : Except Refusal α) : Program α := .done r

/-- Counts an event before a refusal goes on. -/
def countingRefusal (p : Program α) (event : Refusal → Event) : Program α :=
  p.catching fun e => .count (event e) (.done (.error e))

end Program

end GroupAccess
