import GroupAccess.Store.Call
import GroupAccess.Store.Transaction

namespace GroupAccess

/-- Tells those who call a store apart. -/
abbrev Agent := Nat

/-- A transaction holds the tables from its beginning to its end; in that time any other call that
needs them waits. Writes of tokens and commits can be made to fail. -/
structure Store where
  tables : Tables := {}
  /-- The open transaction and who opened it. -/
  held : Option (Agent × Transaction) := none
  failsTokenWrites : Bool := false
  failsCommits : Bool := false
  deriving DecidableEq

namespace Store

/-- One step on the tables; none while they are held. -/
def atomic {α : Type} (s : Store) (f : Tables → Except StoreFailure α × Tables) :
    Option (Except StoreFailure α × Store) :=
  match s.held with
  | some _ => none
  | none =>
    let (r, t) := f s.tables
    some (r, { s with tables := t })

def read {α : Type} (s : Store) (f : Tables → α) : Option (Except StoreFailure α × Store) :=
  s.atomic fun t => (.ok (f t), t)

/-- A refused write changes nothing. -/
def write (s : Store) (f : Tables → Except StoreFailure Tables) :
    Option (Except StoreFailure Unit × Store) :=
  s.atomic fun t =>
    match f t with
    | .ok t => (.ok (), t)
    | .error e => (.error e, t)

/-- One step in the transaction of an agent; none if it has none. -/
def within {α : Type} (s : Store) (agent : Agent)
    (f : Transaction → Tables → Except StoreFailure α × Option Transaction × Tables) :
    Option (Except StoreFailure α × Store) :=
  match s.held with
  | some (holder, x) =>
    if holder = agent then
      let (r, x, t) := f x s.tables
      some (r, { s with tables := t, held := x.map (holder, ·) })
    else none
  | none => none

/-- The answer to a call and the store after it; none if the call has to wait. -/
def call (s : Store) (agent : Agent) : (c : Call) → Option (Except StoreFailure c.Result × Store)
  | .findUserByEmail email => s.read fun t => t.findUserByEmail email
  | .findUser id => s.read fun t => t.users.get? id
  | .userExists id => s.read fun t => t.users.contains id
  | .createUser u => s.write fun t => t.createUser u
  | .deleteUser id => s.atomic fun t =>
    if t.users.contains id then (.ok true, t.deleteUser id) else (.ok false, t)
  | .createToken r =>
    if s.failsTokenWrites then some (.error (.database "injected token write failure"), s)
    else s.write fun t => t.createToken r
  | .findToken digest => s.read fun t => t.tokens.get? digest
  | .purgeTokens now => s.atomic fun t =>
    (.ok (t.tokens.size - (t.purgeTokens now).tokens.size), t.purgeTokens now)
  | .findRoleId r => s.read fun t => t.findRoleId r
  | .createRole r fresh => s.atomic fun t =>
    (.ok (t.createRole r fresh).1, (t.createRole r fresh).2)
  | .findRole id => s.read fun t => t.roles.get? id
  | .createGroup g owner => s.write fun t => t.createGroup g owner
  | .findGroup id => s.read fun t => t.groups.get? id
  | .findMembership user group => s.read fun t => t.memberships.get? (user, group)
  | .createInvite i => s.write fun t => .ok (t.createInvite i)
  | .findInvite id => s.read fun t => t.invites.get? id
  | .inviteUsable id group => s.read fun t => t.inviteUsable id group
  | .health => some (.ok (), s)
  | .begin =>
    match s.held with
    | some _ => none
    | none => some (.ok (), { s with held := some (agent, ⟨[], s.failsCommits⟩) })
  | .decrement id => s.within agent fun x t =>
    match x.decrement t id with
    | .ok (grant, x, t) => (.ok grant, some x, t)
    | .error e => (.error e, some x, t)
  | .insertMembership m => s.within agent fun x t =>
    match x.insertMembership t m with
    | .ok (x, t) => (.ok (), some x, t)
    | .error e => (.error e, some x, t)
  | .commit => s.within agent fun x t => ((x.commit t).1, none, (x.commit t).2)
  | .rollback => s.within agent fun x t => (.ok (), none, x.rollback t)

/-- What is left when an agent goes away: its transaction is rolled back. -/
def abandon (s : Store) (agent : Agent) : Store :=
  match s.call agent .rollback with
  | some (_, s) => s
  | none => s

end Store

end GroupAccess
