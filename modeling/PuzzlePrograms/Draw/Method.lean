import PuzzlePrograms.Draw.Binomial
import PuzzlePrograms.Draw.CommandLine
import PuzzlePrograms.Draw.Seed
import PuzzlePrograms.Draw.Weighted
import PuzzlePrograms.Draw.Whole
import PuzzlePrograms.Recipe.Run

/-!
# Draws with their arguments

Every draw has parameters with names and defaults. Arguments are given by place or by name; what does
not fit the parameters fails before anything is drawn. A bounded whole number, a sample and a uniform
number are curried: with another number of arguments than two they wait for more, one at a time.

A `Desk` makes requests one after another and keeps the states of the source that were asked for.
-/

namespace PuzzlePrograms.Draw

/-! ## 1. Parameters -/

inductive Method where
  | fraction | bits | bytes | range | choice | shuffle | choices | triangular | normal | gauss
  | logNormal | exponential | vonMises | gamma | beta | pareto | weibull | binomial | seed
  | whole | sample | uniform
  deriving DecidableEq, Repr

structure Param where
  name : String
  byPlace : Bool := true
  byName : Bool := true
  default : Option Value := none

def Method.params : Method → List Param
  | .fraction => []
  | .bits => [{ name := "k", byName := false }]
  | .bytes => [{ name := "n" }]
  | .range => [{ name := "start" }, { name := "stop", default := some .nothing },
      { name := "step", default := some 1 }]
  | .choice => [{ name := "seq" }]
  | .shuffle => [{ name := "x" }]
  | .choices => [{ name := "population" }, { name := "weights", default := some .nothing },
      { name := "cum_weights", byPlace := false, default := some .nothing },
      { name := "k", byPlace := false, default := some 1 }]
  | .triangular => [{ name := "low", default := some (.float 0.0) },
      { name := "high", default := some (.float 1.0) }, { name := "mode", default := some .nothing }]
  | .normal | .gauss => [{ name := "mu", default := some (.float 0.0) },
      { name := "sigma", default := some (.float 1.0) }]
  | .logNormal => [{ name := "mu" }, { name := "sigma" }]
  | .exponential => [{ name := "lambd", default := some (.float 1.0) }]
  | .vonMises => [{ name := "mu" }, { name := "kappa" }]
  | .gamma | .beta | .weibull => [{ name := "alpha" }, { name := "beta" }]
  | .pareto => [{ name := "alpha" }]
  | .binomial => [{ name := "n", default := some 1 }, { name := "p", default := some (.float 0.5) }]
  | .seed => [{ name := "a", default := some .nothing }, { name := "version", default := some 2 }]
  | .whole | .sample | .uniform => []

def bind : List Param → List Value → List (String × Value) → Answer (List Value)
  | [], [], [] => .ok []
  | [], _, _ => .error .wrongType
  | p :: ps, v :: vs, named =>
    if p.byPlace then do
      if (named.lookup p.name).isSome then .error .wrongType
      return v :: (← bind ps vs named)
    else .error .wrongType
  | p :: ps, [], named => do
    match if p.byName then named.lookup p.name else none with
    | some v => return v :: (← bind ps [] (named.filter (·.1 != p.name)))
    | none =>
      match p.default with
      | some v => return v :: (← bind ps [] named)
      | none => .error .wrongType

def Method.primitive? : Method → Option Primitive
  | .whole => some .randint
  | .sample => some .sample
  | .uniform => some .uniform
  | _ => none

def Method.run : Method → List Value → Eval Value
  | .fraction, [] => do return .float (← Draw.fraction)
  | .bits, [k] => Draw.bits k
  | .bytes, [n] => Draw.bytes n
  | .range, [a, b, c] => Draw.range a b c
  | .choice, [s] => Dsl.choice s
  | .shuffle, [x] => Dsl.shuffled x
  | .choices, [s, w, c, k] => Draw.choices s w c k
  | .triangular, [a, b, c] => Draw.triangular a b c
  | .normal, [m, s] => Draw.normal m s
  | .gauss, [m, s] => Draw.gauss m s
  | .logNormal, [m, s] => Draw.logNormal m s
  | .exponential, [r] => Draw.exponential r
  | .vonMises, [m, k] => Draw.vonMises m k
  | .gamma, [a, b] => Draw.gamma a b
  | .beta, [a, b] => Draw.beta a b
  | .pareto, [a] => Draw.pareto a
  | .weibull, [a, b] => Draw.weibull a b
  | .binomial, [n, p] => Draw.binomial n p
  | .seed, [a, v] => do reseed a v; return .nothing
  | _, _ => throw .wrongType

def Method.call (m : Method) (args : List Value) (named : List (String × Value)) : Eval Value := do
  match m.primitive? with
  | some p => if named.isEmpty then Recipe.callValue (.prim p) args else throw .wrongType
  | none => m.run (← bind m.params args named)

/-! ## 2. Requests one after another -/

structure Desk where
  session : Session
  kept : List Random.Source := []

namespace Desk

def version : Int := 3

def run (d : Desk) (x : Eval Value) : Answer Value × Desk :=
  match EStateM.run x d.session with
  | .ok v s => (.ok v, { d with session := s })
  | .error e s => (.error e, { d with session := s })

def call (d : Desk) (m : Method) (args : List Value) (named : List (String × Value))
    (further : List (List Value)) : Answer Value × Desk :=
  d.run do
    let first ← m.call args named
    further.foldlM (fun f more => Recipe.callValue f more) first

/-- Keep the state of the source; the result shows its version, the first words, the position and
    whether no normal draw is left over. -/
def keep (d : Desk) : Value × Desk :=
  let s := d.session.source
  let words := (s.twister.words.toList.take 3).map fun w => Value.int w.toNat
  (.tuple [.int version, .tuple words, .int s.twister.position, .bool s.spare.isNone], { d with kept := d.kept ++ [s] })

def restore (d : Desk) (i : Nat) (given : Value) : Answer Value × Desk :=
  match d.kept[i]? with
  | none => (.error .outOfRange, d)
  | some s =>
    if Value.eqv given (.int version) || Value.eqv given 2 then
      let kept := { s with fractionsOnly := d.session.source.fractionsOnly }
      (.ok .nothing, { d with session := { d.session with source := kept } })
    else (.error (.refused (.stateVersion (Dsl.showWhole given) (toString version))), d)

def twin (d : Desk) : Value × Desk :=
  let (x, _) := d.session.source.fraction
  let (y, s) := d.session.source.fraction
  (.tuple [.float x, .float y], { d with session := { d.session with source := s } })

end Desk

/-! ## 3. A source without a state -/

def stateless (m : Method) (args : List Value) (named : List (String × Value)) : Eval Value := do
  match m with
  | .seed => return .nothing
  | .bits =>
    match ← bind [{ name := "k" }] args named with
    | [k] =>
      let n ← k.integer
      if n < 0 then throw (.refused .bitsNegative)
      Draw.bits k
    | _ => throw .wrongType
  | .bytes =>
    match ← bind m.params args named with
    | [n] =>
      if (← n.integer) < 0 then throw .badValue
      Draw.bytes n
    | _ => throw .wrongType
  | m => m.call args named

end PuzzlePrograms.Draw
