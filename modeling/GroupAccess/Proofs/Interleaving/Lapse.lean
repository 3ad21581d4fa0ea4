import GroupAccess.Proofs.Interleaving.World
import GroupAccess.Proofs.Service.Lapse
import Mathlib.Data.List.Forall2

namespace GroupAccess

open Program

variable {n : Instant} {lost : String → Bool}

namespace Service.Lapse

variable {α : Type} {v : α → α} {s s' : Service} {p p' : Program α}

theorem settle (h : Lapse n lost s s') (hp : Indifferent n lost v p p') :
    Indifferent n lost v (Service.settle p s).1 (Service.settle p' s').1 ∧
      Lapse n lost (Service.settle p s).2 (Service.settle p' s').2 := by
  induction hp generalizing s s' with
  | done hr => exact ⟨.done hr, h⟩
  | count e _ ih => exact ih (h.count e)
  | call hc hnext _ => exact ⟨.call hc hnext, h⟩

/-- Both programs wait, or make their next call with answers that differ in expired tokens only. -/
theorem advance (h : Lapse n lost s s') (hp : Indifferent n lost v p p') (a : Agent) :
    Indifferent n lost v (s.advance a p).1 (s'.advance a p').1 ∧
      Lapse n lost (s.advance a p).2 (s'.advance a p').2 := by
  obtain ⟨hq, ht⟩ := h.settle hp
  unfold Service.advance
  generalize Service.settle p s = x at hq ht
  generalize Service.settle p' s' = x' at hq ht
  obtain ⟨q, t⟩ := x
  obtain ⟨q', t'⟩ := x'
  cases hq with
  | done hr => exact ⟨.done hr, ht⟩
  | count e hq => exact ⟨.count e hq, ht⟩
  | call hc hnext =>
    rcases ht.call a hc with ⟨hr, hr'⟩ | ⟨r, u, r', u', hr, hr', hanswer, hu⟩
    · simp only [hr, hr']
      exact ⟨.call hc hnext, ht⟩
    · simp only [hr, hr']
      exact hu.settle (hnext r r' hanswer)

end Service.Lapse

/-- Whether the action begins an operation. -/
def Action.begins : Action → Bool
  | start _ _ => true
  | _ => false

namespace Task

/-- What the task came to, if it is at its end. -/
def performed? (t : Task) : Option Performed :=
  (t.rest.bind Service.result?).map fun r => ⟨t.operation, r⟩

/-- Tasks with the same operation that have the same left to do, but for expired tokens. -/
inductive Indifferent (n : Instant) (lost : String → Bool) : Task → Task → Prop
  | running {o : Operation} {d : Draws} {p p' : Program o.Result}
      {calls calls' : List (Method × Bool)}
      (hp : Program.Indifferent n lost o.uncounted p p') :
      Indifferent n lost ⟨o, d, some p, calls⟩ ⟨o, d, some p', calls'⟩
  | dropped {o : Operation} {d : Draws} {calls calls' : List (Method × Bool)} :
      Indifferent n lost ⟨o, d, none, calls⟩ ⟨o, d, none, calls'⟩

namespace Indifferent

variable {t t' : Task} {s s' : Service}

theorem performed (h : Indifferent n lost t t') :
    t.performed?.map Performed.uncounted = t'.performed?.map Performed.uncounted := by
  cases h with
  | dropped => rfl
  | @running o _ _ _ _ _ hp =>
    cases hp with
    | done hr => exact congrArg (fun r => some (Performed.mk o r)) hr
    | count e hp => rfl
    | call hc hnext => rfl

theorem move (h : Indifferent n lost t t') (hs : Service.Lapse n lost s s') (a : Agent) :
    Indifferent n lost (t.move a s).1 (t'.move a s').1 ∧
      Service.Lapse n lost (t.move a s).2 (t'.move a s').2 := by
  cases h with
  | dropped => exact ⟨.dropped, hs⟩
  | running hp =>
    obtain ⟨hq, ht⟩ := hs.advance hp a
    exact ⟨.running hq, ht⟩

theorem drop (h : Indifferent n lost t t') (hs : Service.Lapse n lost s s') (a : Agent) :
    Indifferent n lost (t.drop a s).1 (t'.drop a s').1 ∧
      Service.Lapse n lost (t.drop a s).2 (t'.drop a s').2 := by
  cases h with
  | dropped => exact ⟨.dropped, hs⟩
  | running hp =>
    cases hp with
    | done hr => exact ⟨.running (.done hr), hs⟩
    | count e hp => exact ⟨.dropped, hs.abandon a⟩
    | call hc hnext => exact ⟨.dropped, hs.abandon a⟩

end Indifferent

end Task

namespace World

/-- Lists that are related place by place stay so when related elements are put in one place. -/
theorem forall₂_set {α β : Type} {R : α → β → Prop} {l : List α} {l' : List β}
    (h : List.Forall₂ R l l') {x : α} {x' : β} (hx : R x x') (a : Nat) :
    List.Forall₂ R (l.set a x) (l'.set a x') := by
  induction h generalizing a with
  | nil => exact .nil
  | cons hy h ih =>
    cases a with
    | zero => exact .cons hx h
    | succ a => exact .cons hy (ih a)

theorem forall₂_getElem? {α β : Type} {R : α → β → Prop} {l : List α} {l' : List β}
    (h : List.Forall₂ R l l') (a : Nat) :
    l[a]? = none ∧ l'[a]? = none ∨ ∃ x x', l[a]? = some x ∧ l'[a]? = some x' ∧ R x x' := by
  induction h generalizing a with
  | nil => exact .inl ⟨rfl, rfl⟩
  | cons hy h ih =>
    cases a with
    | zero => exact .inr ⟨_, _, rfl, rfl, hy⟩
    | succ a => exact ih a

/-- The instants at which the operations of a world begin. -/
def readings (w : World) : List Action → List Instant
  | [] => []
  | x :: rest => (if x.begins then [w.service.clock] else []) ++ (w.step x).readings rest

/-- One world lacks tokens that have expired, and its tasks have the same left to do. -/
structure Lapse (n : Instant) (lost : String → Bool) (w w' : World) : Prop where
  service : Service.Lapse n lost w.service w'.service
  tasks : List.Forall₂ (Task.Indifferent n lost) w.tasks w'.tasks

namespace Lapse

variable {w w' : World}

theorem act (h : Lapse n lost w w') (a : Agent) {f : Task → Service → Task × Service}
    (hf : ∀ t t', Task.Indifferent n lost t t' →
      Task.Indifferent n lost (f t w.service).1 (f t' w'.service).1 ∧
        Service.Lapse n lost (f t w.service).2 (f t' w'.service).2) :
    Lapse n lost (w.act a f) (w'.act a f) := by
  unfold World.act
  rcases forall₂_getElem? h.tasks a with ⟨hn, hn'⟩ | ⟨t, t', ht, ht', hi⟩
  · rw [hn, hn']
    exact h
  · rw [ht, ht']
    obtain ⟨htask, hservice⟩ := hf t t' hi
    exact ⟨hservice, forall₂_set h.tasks htask a⟩

theorem step (h : Lapse n lost w w') {x : Action}
    (hn : x.begins = true → n ≤ w.service.clock)
    (hd : ∀ o d, x = .start o d → o.storesSecret = true → lost d.secret.digest = false) :
    Lapse n lost (w.step x) (w'.step x) := by
  cases x with
  | start o d =>
    have hp := h.service.program (hn rfl) (hd o d rfl)
    exact ⟨h.service, List.rel_append h.tasks (.cons (.running hp) .nil)⟩
  | move a => exact h.act a fun t t' hi => hi.move h.service a
  | drop a => exact h.act a fun t t' hi => hi.drop h.service a
  | setClock now => exact ⟨h.service.setClock now, h.tasks⟩
  | setFaults tokenWrites commits => exact ⟨h.service.setFaults tokenWrites commits, h.tasks⟩

theorem after (h : Lapse n lost w w') {actions : List Action}
    (hn : ∀ now ∈ w.readings actions, n ≤ now)
    (hd : ∀ o d, .start o d ∈ actions → o.storesSecret = true → lost d.secret.digest = false) :
    Lapse n lost (w.after actions) (w'.after actions) := by
  induction actions generalizing w w' with
  | nil => exact h
  | cons x rest ih =>
    refine ih (h.step ?_ ?_) ?_ ?_
    · intro hx
      refine hn _ (List.mem_append_left _ ?_)
      rw [if_pos hx]
      exact List.mem_singleton_self _
    · exact fun o d hx => hd o d (hx ▸ List.mem_cons_self ..)
    · exact fun now hnow => hn now (List.mem_append_right _ hnow)
    · exact fun o d hx => hd o d (List.mem_cons_of_mem _ hx)

theorem performed (h : Lapse n lost w w') :
    w.tasks.map (fun t => t.performed?.map Performed.uncounted) =
      w'.tasks.map fun t => t.performed?.map Performed.uncounted := by
  have ht := h.tasks
  generalize w.tasks = ts at ht
  generalize w'.tasks = ts' at ht
  induction ht with
  | nil => rfl
  | cons hi _ ih => rw [List.map_cons, List.map_cons, hi.performed, ih]

end Lapse

end World

end GroupAccess
