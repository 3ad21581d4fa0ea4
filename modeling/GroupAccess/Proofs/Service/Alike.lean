import GroupAccess.Core.Service
import GroupAccess.Proofs.Program.Calls
import GroupAccess.Proofs.Store.Veil

namespace GroupAccess

/-- What is seen of a failure. -/
def StoreFailure.veiled : StoreFailure → StoreFailure
  | .database _ => .database ""
  | e => e

theorem StoreFailure.veiled_veiled (e : StoreFailure) : e.veiled.veiled = e.veiled := by
  cases e <;> rfl

/-- What is seen of a refusal. -/
def Refusal.veiled : Refusal → Refusal
  | .internal _ => .internal ""
  | e => e

/-- What is seen of a result, if `v` is what is seen of its value and `w` of a failure. -/
def seen {ε α : Type} (v : α → α) (w : ε → ε) (r : Except ε α) : Except ε α :=
  (r.map v).mapError w

theorem seen_cases {ε α : Type} {v : α → α} {w : ε → ε} {r r' : Except ε α}
    (h : seen v w r = seen v w r') :
    (∃ a a', r = .ok a ∧ r' = .ok a' ∧ v a = v a') ∨
      ∃ e e', r = .error e ∧ r' = .error e' ∧ w e = w e' := by
  cases r with
  | ok a =>
    cases r' with
    | ok a' => exact .inl ⟨a, a', rfl, rfl, Except.ok.inj h⟩
    | error e' => cases h
  | error e =>
    cases r' with
    | ok a' => cases h
    | error e' => exact .inr ⟨e, e', rfl, rfl, Except.error.inj h⟩

theorem seen_ok {ε α : Type} {v : α → α} {w : ε → ε} {a a' : α} (h : v a = v a') :
    seen v w (.ok a) = seen v w (.ok a') := congrArg Except.ok h

theorem seen_error {ε α : Type} {v : α → α} {w : ε → ε} {e e' : ε} (h : w e = w e') :
    seen v w (.error e) = seen v w (.error e') := congrArg Except.error h

/-- What is seen of an answer to a call. -/
def Call.seen (c : Call) : Except StoreFailure c.Result → Except StoreFailure c.Result :=
  GroupAccess.seen c.veil StoreFailure.veiled

namespace Service

def veiled (s : Service) : Service :=
  { s with store := s.store.veiled, plan := fun m => (s.plan m).map StoreFailure.veiled }

/-- The services differ in what is confidential at most. -/
def Alike (s s' : Service) : Prop := s.veiled = s'.veiled

variable {s s' : Service} {k : Agent}

namespace Alike

theorem policy (h : s.Alike s') : s.policy = s'.policy := congrArg (·.policy) h

theorem clock (h : s.Alike s') : s.clock = s'.clock := congrArg (·.clock) h

theorem counters (h : s.Alike s') : s.counters = s'.counters := congrArg (·.counters) h

theorem count (h : s.Alike s') (e : Event) : (s.count e).Alike (s'.count e) := by
  have hs : ∀ s : Service, (s.count e).veiled = s.veiled.count e := fun _ => rfl
  rw [Alike, hs, hs, h]

end Alike

/-- The service with another store. -/
def storing (s : Service) (t : Store) : Service := { s with store := t }

theorem storing_veiled (s : Service) (t : Store) :
    (s.storing t).veiled = s.veiled.storing t.veiled := rfl

theorem veiled_storing (s : Service) (t : Store) :
    (s.veiled.storing t).veiled = s.veiled.storing t.veiled := by
  have hp : s.veiled.veiled.plan = s.veiled.plan := by
    funext m
    simp only [veiled, Option.map_map]
    exact congrArg (fun f => (s.plan m).map f) (funext StoreFailure.veiled_veiled)
  rw [veiled]
  exact congrArg (fun plan => { s.veiled.storing t.veiled with plan }) hp

/-- The service on which the calls of a method fail. -/
def failing (s : Service) (m : Method) (e : StoreFailure) : Service :=
  { s with plan := fun n => if n = m then some e else s.plan n }

/-- Failures of the database differ in nothing that is seen. -/
theorem failing_alike (s : Service) (m : Method) (text text' : String) :
    (s.failing m (.database text)).Alike (s.failing m (.database text')) := by
  have hp : (s.failing m (.database text)).veiled.plan =
      (s.failing m (.database text')).veiled.plan := by
    funext n
    simp only [veiled, failing]
    split <;> rfl
  exact congrArg (fun plan => { s.veiled with plan }) hp

theorem call_planned {s : Service} {c : Call} {e : StoreFailure} (h : s.plan c.method = some e) :
    s.call k c = some (.error e,
      s.storing (if c.method = .commit then s.store.abandon k else s.store)) := by
  rw [Service.call, h]
  rfl

theorem call_unplanned {s : Service} {c : Call} (h : s.plan c.method = none) :
    s.call k c = (s.store.call k c).map fun x => (x.1, s.storing x.2) := by
  rw [Service.call, h]
  rfl

/-- What is seen of an answer and of the service after it does not depend on what is not seen. -/
theorem call_veiled (s : Service) (k : Agent) (c : Call) :
    (s.veiled.call k c).map (fun x => (c.seen x.1, x.2.veiled)) =
      (s.call k c).map fun x => (c.seen x.1, x.2.veiled) := by
  have hp : s.veiled.plan c.method = (s.plan c.method).map StoreFailure.veiled := rfl
  cases he : s.plan c.method with
  | none =>
    rw [he] at hp
    have hs := congrArg (Option.map fun x => (x.1.mapError StoreFailure.veiled,
      s.veiled.storing x.2)) (s.store.call_veiled k c)
    rw [Option.map_map, Option.map_map] at hs
    rw [call_unplanned he, call_unplanned hp, Option.map_map, Option.map_map]
    refine Eq.trans ?_ hs
    refine congrArg (fun f => (s.store.veiled.call k c).map f) (funext fun x => ?_)
    exact Prod.ext rfl (s.veiled_storing x.2)
  | some e =>
    rw [he] at hp
    rw [call_planned he, call_planned hp, Option.map_some, Option.map_some, veiled_storing,
      storing_veiled]
    refine congrArg some (Prod.ext (congrArg Except.error e.veiled_veiled) ?_)
    refine congrArg s.veiled.storing ?_
    have hv : s.veiled.store = s.store.veiled := rfl
    split
    · rw [hv, Store.abandon_veiled, Store.veiled_veiled]
    · rw [hv, Store.veiled_veiled]

theorem Alike.abandon (h : s.Alike s') (k : Agent) :
    (s.storing (s.store.abandon k)).Alike (s'.storing (s'.store.abandon k)) := by
  have hs (s : Service) :
      (s.storing (s.store.abandon k)).veiled = s.veiled.storing (s.veiled.store.abandon k) := by
    rw [storing_veiled, ← Store.abandon_veiled]
    rfl
  rw [Alike, hs, hs, h]

/-- On services that are alike a call has to wait on both, or is answered alike. -/
theorem Alike.call (h : s.Alike s') (k : Agent) (c : Call) :
    s.call k c = none ∧ s'.call k c = none ∨
      ∃ r t r' t', s.call k c = some (r, t) ∧ s'.call k c = some (r', t') ∧
        c.seen r = c.seen r' ∧ t.Alike t' := by
  have hc := s.call_veiled k c
  rw [h, s'.call_veiled] at hc
  cases hr : s.call k c with
  | none =>
    cases hr' : s'.call k c with
    | none => exact .inl ⟨rfl, rfl⟩
    | some x =>
      rw [hr, hr'] at hc
      cases hc
  | some x =>
    cases hr' : s'.call k c with
    | none =>
      rw [hr, hr'] at hc
      cases hc
    | some x' =>
      rw [hr, hr', Option.map_some, Option.map_some, Option.some.injEq, Prod.mk.injEq] at hc
      exact .inr ⟨x.1, x.2, x'.1, x'.2, rfl, rfl, hc.1.symm, hc.2.symm⟩

end Service

namespace Program

variable {α β : Type} {v : α → α} {w : β → β}

/-- The programs count the same events and make the same calls, and with answers that are seen
alike they end with results that are seen alike. -/
inductive Similar (v : α → α) : Program α → Program α → Prop
  | done {r r' : Except Refusal α} (h : seen v Refusal.veiled r = seen v Refusal.veiled r') :
      Similar v (.done r) (.done r')
  | count (e : Event) {p p' : Program α} (h : Similar v p p') :
      Similar v (.count e p) (.count e p')
  | call (c : Call) {next next' : Except StoreFailure c.Result → Program α}
      (h : ∀ r r', c.seen r = c.seen r' → Similar v (next r) (next' r')) :
      Similar v (.call c next) (.call c next')

namespace Similar

theorem refused {e e' : Refusal} (h : e.veiled = e'.veiled) :
    Similar v (.done (.error e)) (.done (.error e')) := .done (seen_error h)

theorem bind {p p' : Program α} {f f' : α → Program β} (hp : Similar v p p')
    (hf : ∀ a a', v a = v a' → Similar w (f a) (f' a')) : Similar w (p.bind f) (p'.bind f') := by
  induction hp with
  | done h =>
    obtain ⟨a, a', rfl, rfl, ha⟩ | ⟨e, e', rfl, rfl, he⟩ := seen_cases h
    · exact hf a a' ha
    · exact refused he
  | count e _ ih => exact count e ih
  | call c _ ih => exact call c fun r r' hr => ih r r' hr

theorem catching {p p' : Program α} {f f' : Refusal → Program α} (hp : Similar v p p')
    (hf : ∀ e e', e.veiled = e'.veiled → Similar v (f e) (f' e')) :
    Similar v (p.catching f) (p'.catching f') := by
  induction hp with
  | done h =>
    obtain ⟨a, a', rfl, rfl, ha⟩ | ⟨e, e', rfl, rfl, he⟩ := seen_cases h
    · exact done h
    · exact hf e e' he
  | count e _ ih => exact count e ih
  | call c _ ih => exact call c fun r r' hr => ih r r' hr

theorem ask (c : Call) {g : StoreFailure → Refusal} (hg : ∀ e, (g e.veiled).veiled = (g e).veiled) :
    Similar c.veil (Program.ask c g) (Program.ask c g) := by
  refine call c fun r r' hr => ?_
  obtain ⟨a, a', rfl, rfl, ha⟩ | ⟨e, e', rfl, rfl, he⟩ := seen_cases hr
  · exact done (seen_ok ha)
  · exact refused (by rw [← hg e, ← hg e', he])

theorem ite {c : Prop} [Decidable c] {p p' q q' : Program α} (hp : Similar v p p')
    (hq : Similar v q q') : Similar v (if c then p else q) (if c then p' else q') := by
  by_cases h : c
  · rwa [if_pos h, if_pos h]
  · rwa [if_neg h, if_neg h]

end Similar

end Program

namespace Service

open Program

variable {α : Type} {v : α → α} {s s' : Service} {k : Agent}

/-- Runs that end alike, as far as it is seen, on services that are alike. -/
def Matches (v : α → α) (x x' : Option (Except Refusal α) × Service) : Prop :=
  x.1.map (seen v Refusal.veiled) = x'.1.map (seen v Refusal.veiled) ∧ x.2.Alike x'.2

/-- Runs that begin with the same call match if they do so from the answers on. -/
theorem matches_call (h : s.Alike s') {c : Call}
    {next next' : Except StoreFailure c.Result → Program α}
    (hn : ∀ r t r' t', s.call k c = some (r, t) → s'.call k c = some (r', t') →
      c.seen r = c.seen r' → t.Alike t' → Matches v (run k (next r) t) (run k (next' r') t')) :
    Matches v (run k (.call c next) s) (run k (.call c next') s') := by
  rcases h.call k c with ⟨hr, hr'⟩ | ⟨r, t, r', t', hr, hr', hseen, ht⟩
  · rw [run, run, hr, hr']
    exact ⟨rfl, h.abandon k⟩
  · rw [run, run, hr, hr']
    exact hn r t r' t' hr hr' hseen ht

/-- Programs that are similar cannot be told apart by what is seen of them. -/
theorem run_similar {p p' : Program α} (hp : Similar v p p') (h : s.Alike s') :
    Matches v (run k p s) (run k p' s') := by
  induction hp generalizing s s' with
  | done hr => exact ⟨congrArg some hr, h⟩
  | count e _ ih => exact ih (h.count e)
  | call c _ ih => exact matches_call h fun r t r' t' _ _ hr ht => ih r r' hr ht

end Service

end GroupAccess
