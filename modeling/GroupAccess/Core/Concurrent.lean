import GroupAccess.Core.Service

namespace GroupAccess.Service

/-- Counts the events of a program up to its next call or its end. -/
def settle {α : Type} : Program α → Service → Program α × Service
  | .count e next, s => settle next (s.count e)
  | p, s => (p, s)

/-- Makes the next call of a program, if it can be made, and counts what follows. -/
def advance {α : Type} (agent : Agent) (p : Program α) (s : Service) : Program α × Service :=
  match settle p s with
  | (.call c next, s) =>
    match s.call agent c with
    | some (r, s) => settle (next r) s
    | none => (.call c next, s)
  | settled => settled

def result? {α : Type} : Program α → Option (Except Refusal α)
  | .done r => some r
  | _ => none

/-- One round; each program is an agent of its own. -/
def round {α : Type} : List (Agent × Program α) → Service → List (Agent × Program α) × Service
  | [], s => ([], s)
  | (agent, p) :: rest, s =>
    let (p, s) := advance agent p s
    let (rest, s) := round rest s
    ((agent, p) :: rest, s)

/-- At most `rounds` rounds. -/
def rounds {α : Type} (n : Nat) (ps : List (Agent × Program α)) (s : Service) :
    List (Agent × Program α) × Service :=
  match n with
  | 0 => (ps, s)
  | n + 1 =>
    if ps.all fun p => (result? p.2).isSome then (ps, s)
    else
      let (ps, s) := round ps s
      rounds n ps s

/-- Carries out operations of one kind together: their results in order. The place of a program is
its agent. A program makes at most eight calls; `n` programs that wait for each other are through
after `8 * n` rounds. -/
def performTogether {α : Type} (s : Service) (name : String) (ps : List (Program α)) :
    List (Except Refusal α) × Service :=
  let (ps, s) := rounds (8 * ps.length + 1) ((List.range ps.length).zip ps) s
  let results := ps.map fun p => (result? p.2).getD (.error (s.timedOut name))
  (results, ps.foldl (fun s _ => s.count (.operation name)) s)

end GroupAccess.Service
