import PuzzlePrograms.Pass.Sharing

/-!
# Passes over a term

A pass visits the parts of a term and then replaces the term, or leaves it as it is. What it does at each
kind of term is a `Pass`; `visit` carries it through the term, and through the table for the parts that
stand in several places.
-/

namespace PuzzlePrograms.Pass

open Source

structure Outcome where
  content : Expr
  result? : Option Expr := none

def Outcome.term (o : Outcome) : Expr := o.result?.getD o.content

def unchanged (e : Expr) : Share Outcome := return { content := e }

def replacing (e r : Expr) : Share Outcome := return { content := e, result? := some r }

structure Rule where
  skips : Expr → Bool := fun _ => false
  keepsParts : Expr → Bool := fun _ => false
  finish : Expr → Share Outcome := unchanged

/-- Apply a rule at a term, given how parts are visited and what is done to the visited term before it
    is taken apart. -/
def Rule.at (p : Rule) (part ready : Expr → Share Expr) (e : Expr) : Share Outcome := do
  if p.skips e then p.finish e
  else
    let e' ← mapPartsM part e
    let e' ← ready e'
    let o ← p.finish e'
    return if p.keepsParts e then { o with content := e } else o

def visit (p : Rule) : Nat → Expr → Share Expr
  | 0, e => return e
  | n + 1, .shared k => do
    match (← get)[k]? with
    | some (.node _) =>
      let c ← view (.shared k)
      let o ← p.at (visit p n) spread c
      modify (·.setIfInBounds k (.node o.content))
      return o.result?.getD (.shared k)
    | some (.slot c) =>
      let c ← visit p n c
      modify (·.setIfInBounds k (.slot c))
      return .shared k
    | none => return .shared k
  | n + 1, e => do
    let o ← p.at (visit p n) pure e
    return o.term

structure Shared where
  term : Expr
  table : Table := #[]

def Shared.resolved (s : Shared) : Expr := resolve s.table s.term

/-- Carry a rule through a term. A visit makes what stands at a place deeper by at most one level at a
    time, and visits a place at most once for each of its occurrences, so the number of occurrences bounds
    the depth that is met. -/
def Rule.run (p : Rule) (s : Shared) : Shared :=
  let (e, t) := (visit p (4 * size s.resolved + 4) s.term).run s.table
  { term := e, table := t }

def runAll (ps : List Rule) (s : Shared) : Shared := ps.foldl (fun s p => p.run s) s

end PuzzlePrograms.Pass
