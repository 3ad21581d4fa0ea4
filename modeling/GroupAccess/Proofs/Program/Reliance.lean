import GroupAccess.Proofs.Program.Calls

namespace GroupAccess

namespace Program

variable {α β : Type}

/-- Every call that a program can make has what it needs, as far as the answers before it are such
as they show. -/
inductive Relies (needs : Call → Prop)
    (shows : (c : Call) → Except StoreFailure c.Result → Prop) : Program α → Prop
  | done (r : Except Refusal α) : Relies needs shows (.done r)
  | count (e : Event) {next : Program α} (h : Relies needs shows next) :
      Relies needs shows (.count e next)
  | call {c : Call} {next : Except StoreFailure c.Result → Program α} (hc : needs c)
      (h : ∀ r, shows c r → Relies needs shows (next r)) : Relies needs shows (.call c next)

namespace Relies

variable {needs : Call → Prop} {shows : (c : Call) → Except StoreFailure c.Result → Prop}
  {p : Program α}

theorem settled (h : Relies needs shows p) : Relies needs shows p.settled := by
  induction h with
  | done r => exact done r
  | count e _ ih => exact ih
  | call hc h _ => exact call hc h

theorem counted {e : Event} (h : Relies needs shows (.count e p)) : Relies needs shows p := by
  cases h with
  | count _ h => exact h

theorem bind {f : α → Program β} (hp : Relies needs shows p)
    (hf : ∀ a, Relies needs shows (f a)) : Relies needs shows (p.bind f) := by
  induction hp with
  | done r =>
    cases r with
    | ok a => exact hf a
    | error e => exact done _
  | count e _ ih => exact count e ih
  | call hc _ ih => exact call hc ih

/-- What follows a call may rely on what the answer shows. -/
theorem ask_bind {c : Call} {g : StoreFailure → Refusal} {f : c.Result → Program β}
    (hc : needs c) (hf : ∀ a, shows c (.ok a) → Relies needs shows (f a)) :
    Relies needs shows ((ask c g).bind f) := by
  refine call hc fun r hr => ?_
  cases r with
  | ok a => exact hf a hr
  | error e => exact done _

theorem of_calls (h : Calls needs p) : Relies needs shows p := by
  induction h with
  | done r => exact done r
  | count e _ ih => exact count e ih
  | call hc _ ih => exact call hc fun r _ => ih r

end Relies

end Program

/-- What programs rely on when they write: facts about the tables that are never lost, the calls
that need some of them, and the answers that show some. -/
structure Reliance where
  Keeps : Tables → Tables → Prop
  Needs : Tables → Call → Prop
  Shows : Tables → (c : Call) → Except StoreFailure c.Result → Prop
  refl : ∀ t, Keeps t t
  trans : ∀ {t u v}, Keeps t u → Keeps u v → Keeps t v
  shows_mono : ∀ {t u} {c : Call} {r : Except StoreFailure c.Result}, Keeps t u → Shows t c r →
    Shows u c r
  /-- A transaction can be given up at any time. -/
  rollback : ∀ t, Needs t .rollback

namespace Reliance

variable {α : Type} {R : Reliance} {t u : Tables} {p : Program α}

/-- Every call of a program has what it needs, whatever happens to the tables in between. -/
def Holds (R : Reliance) (t : Tables) (p : Program α) : Prop :=
  ∀ u, R.Keeps t u → p.Relies (R.Needs u) (R.Shows u)

theorem Holds.mono (h : R.Holds t p) (hu : R.Keeps t u) : R.Holds u p :=
  fun _ hv => h _ (R.trans hu hv)

theorem Holds.settled (h : R.Holds t p) : R.Holds t p.settled := fun u hu => (h u hu).settled

/-- The next call has what it needs, and what follows may rely on what the answer shows. -/
theorem Holds.head (h : R.Holds t p) {c : Call}
    {next : Except StoreFailure c.Result → Program α} (hs : p.settled = .call c next) :
    R.Needs t c ∧ ∀ r u, R.Keeps t u → R.Shows u c r → R.Holds u (next r) := by
  have hcall (u : Tables) (hu : R.Keeps t u) :
      Program.Relies (R.Needs u) (R.Shows u) (.call c next) := by
    rw [← hs]
    exact (h u hu).settled
  constructor
  · cases hcall t (R.refl t) with
    | call hc _ => exact hc
  · intro r u hu hr v hv
    cases hcall v (R.trans hu hv) with
    | call _ hnext => exact hnext r (R.shows_mono hv hr)

/-- Programs that make only some calls, whatever the tables are. -/
def onCalls {ok : Call → Prop} (h : ok .rollback) : Reliance where
  Keeps _ _ := True
  Needs _ := ok
  Shows _ _ _ := True
  refl _ := trivial
  trans _ _ := trivial
  shows_mono _ _ := trivial
  rollback _ := h

end Reliance

end GroupAccess
