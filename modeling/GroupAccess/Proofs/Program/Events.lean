import GroupAccess.Proofs.Service.Idle

namespace GroupAccess

namespace Counters

theorem count_add (c : Counters) (e e' : Event) :
    (c.add e).count e' = c.count e' + if e = e' then 1 else 0 := by
  rw [count, add, Table.get?_insert]
  by_cases h : e = e'
  · subst h
    simp
  · simp [h, Ne.symm h, count]

/-- Events that are counted one after the other. -/
theorem count_foldl (c : Counters) (es : List Event) (e : Event) :
    (es.foldl add c).count e = c.count e + es.count e := by
  induction es generalizing c with
  | nil => rfl
  | cons x es ih =>
    rw [List.foldl_cons, ih, count_add, List.count_cons, Nat.add_assoc, Nat.add_comm (es.count e)]
    simp only [beq_iff_eq]

end Counters

namespace Program

variable {α β : Type}

/-- Whatever the store answers, a result and the events that are counted on the way to it are as
`post` says. -/
inductive Tells : (Except Refusal α → List Event → Prop) → Program α → Prop
  | done {post : Except Refusal α → List Event → Prop} {r : Except Refusal α} (h : post r []) :
      Tells post (.done r)
  | count {post : Except Refusal α → List Event → Prop} {e : Event} {next : Program α}
      (h : Tells (fun r es => post r (e :: es)) next) : Tells post (.count e next)
  | call {post : Except Refusal α → List Event → Prop} {c : Call}
      {next : Except StoreFailure c.Result → Program α} (h : ∀ r, Tells post (next r)) :
      Tells post (.call c next)

/-- Nothing is counted on the way to any result. -/
abbrev Silent (p : Program α) : Prop := Tells (fun _ es => es = []) p

namespace Tells

variable {post : Except Refusal α → List Event → Prop} {p : Program α}

theorem mono {post' : Except Refusal α → List Event → Prop} (hp : Tells post p)
    (h : ∀ r es, post r es → post' r es) : Tells post' p := by
  induction hp generalizing post' with
  | done hr => exact done (h _ _ hr)
  | count _ ih => exact count (ih fun r es => h r (_ :: es))
  | call _ ih => exact call fun r => ih r h

/-- What follows a result is told after what led to it. -/
theorem bind {f : α → Program β} {post' : Except Refusal β → List Event → Prop}
    (hp : Tells post p)
    (hok : ∀ a es, post (.ok a) es → Tells (fun r es' => post' r (es ++ es')) (f a))
    (herror : ∀ e es, post (.error e) es → post' (.error e) es) : Tells post' (p.bind f) := by
  induction hp generalizing post' with
  | @done post r h =>
    cases r with
    | ok a => exact hok a [] h
    | error e => exact done (herror e [] h)
  | @count post e next _ ih =>
    exact count (ih (fun a es => hok a (e :: es)) fun e' es => herror e' (e :: es))
  | call _ ih => exact call fun r => ih r hok herror

/-- The same where nothing is told first. -/
theorem after {f : α → Program β} {post' : Except Refusal β → List Event → Prop}
    (hp : Silent p) (hok : ∀ a, Tells post' (f a)) (herror : ∀ e, post' (.error e) []) :
    Tells post' (p.bind f) := by
  refine bind hp ?_ ?_
  · rintro a es rfl
    exact hok a
  · rintro e es rfl
    exact herror e

theorem catching {f : Refusal → Program α} {post' : Except Refusal α → List Event → Prop}
    (hp : Tells post p) (hok : ∀ a es, post (.ok a) es → post' (.ok a) es)
    (herror : ∀ e es, post (.error e) es → Tells (fun r es' => post' r (es ++ es')) (f e)) :
    Tells post' (p.catching f) := by
  induction hp generalizing post' with
  | @done post r h =>
    cases r with
    | ok a => exact done (hok a [] h)
    | error e => exact herror e [] h
  | @count post e next _ ih =>
    exact count (ih (fun a es => hok a (e :: es)) fun e' es => herror e' (e :: es))
  | call _ ih => exact call fun r => ih r hok herror

theorem ite {c : Prop} [Decidable c] {q : Program α} (hp : Tells post p) (hq : Tells post q) :
    Tells post (if c then p else q) := by
  by_cases h : c
  · rwa [if_pos h]
  · rwa [if_neg h]

theorem ask (c : Call) (f : StoreFailure → Refusal) : Silent (Program.ask c f) := by
  refine call fun r => ?_
  cases r with
  | ok a => exact done rfl
  | error e => exact done rfl

theorem require (e : Refusal) (a : Option α) : Silent (Program.require e a) := by
  cases a with
  | none => exact done rfl
  | some a => exact done rfl

end Tells

theorem Silent.bind {p : Program α} {f : α → Program β} (hp : Silent p) (hf : ∀ a, Silent (f a)) :
    Silent (p.bind f) :=
  Tells.after hp hf fun _ => rfl

end Program

namespace Service

open Program

variable {α : Type}

/-- A call changes nothing but the store. -/
theorem call_storing {s s' : Service} {k : Agent} {c : Call} {r : Except StoreFailure c.Result}
    (hc : s.call k c = some (r, s')) : ∃ store, s' = { s with store } := by
  unfold Service.call at hc
  split at hc
  · cases hc
    exact ⟨_, rfl⟩
  · obtain ⟨answer, -, h⟩ := Option.map_eq_some_iff.1 hc
    cases h
    exact ⟨_, rfl⟩

/-- A run that comes to a result has counted what is told with it. -/
theorem run_tells {post : Except Refusal α → List Event → Prop} {p : Program α}
    (hp : Tells post p) {k : Agent} {s : Service} {r : Except Refusal α}
    (hr : (run k p s).1 = some r) :
    ∃ es, post r es ∧ (run k p s).2.counters = es.foldl Counters.add s.counters := by
  induction hp generalizing s with
  | done h =>
    cases hr
    exact ⟨[], h, rfl⟩
  | @count post e next _ ih =>
    obtain ⟨es, hes, hc⟩ := ih (s := s.count e) hr
    exact ⟨e :: es, hes, hc⟩
  | @call post c next _ ih =>
    cases hcall : s.call k c with
    | none =>
      rw [run, hcall] at hr
      cases hr
    | some answer =>
      obtain ⟨r', s'⟩ := answer
      rw [run_call hcall] at hr ⊢
      obtain ⟨store, rfl⟩ := call_storing hcall
      exact ih r' hr

end Service

end GroupAccess
