import PuzzlePrograms.Library.Compression
import PuzzlePrograms.Library.Rules

/-!
# Abstractions as primitives

The abstractions that a search finds become primitives with rules of their own. An abstraction is taken over
if its expression has a meaning: a function always has one, anything else only if every name in it is known.
-/

namespace PuzzlePrograms.Library

open Source Indexed

/-! ## 1. Meanings -/

inductive Meaning where
  | constant
  | function (params : List String) (body : Expr) (env : List (String × Meaning))

abbrev Known := List (String × Meaning)

def meaning : Nat → Known → Expr → Conversion Meaning
  | 0, _, _ => fail .tooDeep
  | n + 1, known, e => do
    match e with
    | .name x =>
      match known.lookup x with
      | some m => return m
      | none => throw .unboundName
    | .lambda ps b =>
      let names := match ps with
        | .params _ as _ _ _ _ _ => as.map fun | .param x _ => x | _ => ""
        | _ => []
      return .function names b known
    | .call f as _ =>
      let g ← meaning n known f
      let vs ← as.mapM (meaning n known)
      match g with
      | .constant => fail .wrongType
      | .function names body env =>
        if names.length != vs.length then fail .wrongType
        else meaning n (names.zip vs ++ env) body
    | e =>
      let _ ← e.children.mapM (meaning n known)
      return .constant

def meaningOf (known : Known) (s : String) : Conversion Meaning :=
  match expression? s with
  | .ok e => meaning 900 known e
  | .error f => throw (.source f)

/-! ## 2. New primitives -/

structure Taken where
  rules : Rules
  known : Known := []
  expressions : List (String × String) := []
  added : List AddedRule := []

def Taken.add (t : Taken) (name expression : String) (weight : Json) : Conversion Taken := do
  let m ← meaningOf t.known expression
  let (gives, shown, args) ← ruleFor t.rules name expression
  let takes := if args.isEmpty then none else some args
  return { rules := Rules.put (primitiveName shown) ⟨gives, args⟩ t.rules
           known := (name, m) :: t.known
           expressions := t.expressions ++ [(name, expression)]
           added := t.added ++ [{ gives, name := shown, takes, weight }] }

structure Transfer where
  etaLong : Json := .bool true
  label : Json := .str ""
  weight : Json := .int 1

def Transfer.baseName (t : Transfer) : String := "fn_" ++ t.label.shown ++ "_"

/-- The settings with those that are given by name; a name that is no setting is refused. Two of them have
    no effect. -/
def Transfer.ofNamed (named : Named) : Conversion Transfer :=
  named.foldlM (fun t (k, v) =>
    match k with
    | "eta_long" => pure { t with etaLong := v }
    | "prefix" => pure { t with label := v }
    | "weight" => pure { t with weight := v }
    | "n_per_task" | "best_names" => pure t
    | _ => fail .wrongType) {}

def Transfer.request (t : Transfer) (programs : Json) : Conversion Request :=
  let more : Named := if t.etaLong.truth then [("eta_long", .bool true), ("utility_by_rewrite", .bool true)] else []
  compressRequest [programs] ([("iterations", .int 10), ("max_arity", .int 2),
    ("allow_single_task", .bool true), ("cost_ivar", .int 100), ("cost_var", .int 100),
    ("abstraction_prefix", .str t.baseName)] ++ more)

def Transfer.take (t : Transfer) (rules : Rules) (c : Compression) : Conversion (List String × Taken) := do
  let expressions ← c.abstractions.mapM fun a => abstractionToNamed a.text
  let taken ← expressions.zipIdx.foldlM
    (fun (acc : Taken) (e, i) => acc.add (t.baseName ++ toString i) e t.weight) { rules }
  return (expressions, taken)

end PuzzlePrograms.Library
