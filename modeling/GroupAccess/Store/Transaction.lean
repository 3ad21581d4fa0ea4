import GroupAccess.Store.Tables

namespace GroupAccess

/-- A write that was made and how to take it back. -/
inductive Undo
  | decrement (invite : InviteId)
  | membership (key : UserId × GroupId)
  deriving DecidableEq

def Undo.apply (t : Tables) : Undo → Tables
  | .decrement invite => t.increment invite
  | .membership key => t.removeMembership key

/-- Every write is noted, so that a transaction that is not committed can take its writes back, the
last one first. -/
structure Transaction where
  /-- The writes so far, the last one first. -/
  undo : List Undo := []
  /-- Fixed when the transaction begins. -/
  failsCommit : Bool
  deriving DecidableEq

namespace Transaction

/-- The tables without the writes of a transaction. -/
def rollback (x : Transaction) (t : Tables) : Tables := x.undo.foldl Undo.apply t

/-- What each write that is taken back keeps, a rollback keeps. -/
theorem rollback_induction {P : Tables → Prop} {t : Tables} (x : Transaction) (h : P t)
    (hP : ∀ (u : Undo) (t : Tables), P t → P (u.apply t)) : P (x.rollback t) := by
  obtain ⟨undo, fails⟩ := x
  rw [rollback]
  induction undo generalizing t with
  | nil => exact h
  | cons u us ih => exact ih (hP u t h)

theorem rollback_groups (x : Transaction) (t : Tables) : (x.rollback t).groups = t.groups := by
  refine x.rollback_induction (P := fun t' => t'.groups = t.groups) rfl fun u t' h => ?_
  cases u <;> exact h

theorem rollback_roles (x : Transaction) (t : Tables) : (x.rollback t).roles = t.roles := by
  refine x.rollback_induction (P := fun t' => t'.roles = t.roles) rfl fun u t' h => ?_
  cases u <;> exact h

def decrement (x : Transaction) (t : Tables) (invite : InviteId) :
    Except StoreFailure (Grant × Transaction × Tables) := do
  let (grant, t) ← t.decrement invite
  return (grant, { x with undo := .decrement invite :: x.undo }, t)

def insertMembership (x : Transaction) (t : Tables) (m : Membership) :
    Except StoreFailure (Transaction × Tables) := do
  let t ← t.insertMembership m
  return ({ x with undo := .membership m.key :: x.undo }, t)

/-- The tables after the commit, and whether it was made. -/
def commit (x : Transaction) (t : Tables) : Except StoreFailure Unit × Tables :=
  if x.failsCommit then (.error (.database "injected commit failure"), x.rollback t)
  else (.ok (), t)

end Transaction

end GroupAccess
