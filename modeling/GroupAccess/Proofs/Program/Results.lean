import GroupAccess.Proofs.Service.Idle

namespace GroupAccess

namespace Program

variable {α β : Type}

/-- Whatever the store answers, the program refuses, or what it gives is one of `given`. -/
inductive Yields (given : α → Prop) : Program α → Prop
  | done {a : α} (h : given a) : Yields given (.done (.ok a))
  | refused (e : Refusal) : Yields given (.done (.error e))
  | count (e : Event) {next : Program α} (h : Yields given next) : Yields given (.count e next)
  | call (c : Call) {next : Except StoreFailure c.Result → Program α}
      (h : ∀ r, Yields given (next r)) : Yields given (.call c next)

namespace Yields

variable {given : α → Prop} {p : Program α}

theorem bind {f : α → Program β} {after : β → Prop} (hp : Yields given p)
    (hf : ∀ a, given a → Yields after (f a)) : Yields after (p.bind f) := by
  induction hp with
  | done h => exact hf _ h
  | refused e => exact refused e
  | count e _ ih => exact count e ih
  | call c _ ih => exact call c ih

theorem mono {given' : α → Prop} (hp : Yields given p) (h : ∀ a, given a → given' a) :
    Yields given' p := by
  induction hp with
  | done ha => exact done (h _ ha)
  | refused e => exact refused e
  | count e _ ih => exact count e ih
  | call c _ ih => exact call c ih

theorem countingRefusal (hp : Yields given p) (event : Refusal → Event) :
    Yields given (p.countingRefusal event) := by
  induction hp with
  | done h => exact done h
  | refused e => exact count _ (refused e)
  | count e _ ih => exact count e ih
  | call c _ ih => exact call c ih

theorem ask (c : Call) (f : StoreFailure → Refusal) :
    Yields (fun _ => True) (Program.ask c f) := by
  refine call c fun r => ?_
  cases r with
  | ok a => exact done trivial
  | error e => exact refused _

theorem require (e : Refusal) (a? : Option α) :
    Yields (fun a => a? = some a) (Program.require e a?) := by
  cases a? with
  | none => exact refused e
  | some a => exact done rfl

theorem lift (r : Except Refusal α) : Yields (fun a => r = .ok a) (Program.lift r) := by
  cases r with
  | ok a => exact done rfl
  | error e => exact refused e

end Yields

end Program

namespace Service

open Program

theorem run_yields {α : Type} {given : α → Prop} {p : Program α} (hp : Yields given p)
    {k : Agent} {s : Service} {a : α} (h : (run k p s).1 = some (.ok a)) : given a := by
  induction hp generalizing s with
  | done hg =>
    cases h
    exact hg
  | refused e => cases h
  | count e _ ih => exact ih h
  | call c _ ih =>
    rw [run] at h
    split at h
    · exact ih _ h
    · cases h

/-- What an operation gives is one of the results that its program can give. -/
theorem perform_yields {s : Service} {o : Operation} {d : Draws} {given : o.Result → Prop}
    (hp : Yields given (o.program s.policy s.clock d)) {a : o.Result}
    (h : (s.perform o d).1 = .ok a) : given a := by
  rw [perform_run] at h
  have hr : (run worker (o.program s.policy s.clock d) s).1 = some (.ok a) := by
    cases hrun : (run worker (o.program s.policy s.clock d) s).1 with
    | none =>
      rw [hrun] at h
      cases h
    | some r =>
      rw [hrun] at h
      exact congrArg some h
  exact run_yields hp hr

end Service

end GroupAccess
