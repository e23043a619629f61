import PuzzlePrograms.Recipe.Run

/-!
# Notebooks: named steps, one after another

A notebook is a list of steps, each of which gives a name to the value of a term. A term may refer to
what a vocabulary names, to the value of an earlier step, and call a function. A step that fails leaves
its name as it was.
-/

namespace PuzzlePrograms

namespace Notebook

inductive Term where
  | value (v : Value)
  | tuple (ts : List Term)
  | list (ts : List Term)
  | fset (ts : List Term)
  | mset (ts : List Term)
  | dict (entries : List (Term × Term))
  | ref (name : String)
  | var (name : String)
  | call (f : Term) (args : List Term)

inductive Fault where
  | unbound
  | failed (e : Failure)

abbrev Run := EStateM Fault Session

def lift (x : Eval α) : Run α := fun s =>
  match x.run s with
  | .ok a s => .ok a s
  | .error e s => .error (.failed e) s

instance : MonadLift Eval Run where
  monadLift := lift

/-! ## 1. Names -/

def constants : List (String × Value) :=
  [("F", .bool false), ("T", .bool true), ("ZERO", 0), ("ONE", 1), ("TWO", 2), ("THREE", 3),
   ("FOUR", 4), ("FIVE", 5), ("SIX", 6), ("SEVEN", 7), ("EIGHT", 8), ("NINE", 9), ("TEN", 10),
   ("NEG_ONE", .int (-1)), ("NEG_TWO", .int (-2)), ("DOWN", Value.pair 1 0),
   ("RIGHT", Value.pair 0 1), ("UP", Value.pair (-1) 0), ("LEFT", Value.pair 0 (-1)),
   ("ORIGIN", Value.pair 0 0), ("UNITY", Value.pair 1 1), ("NEG_UNITY", Value.pair (-1) (-1)),
   ("UP_RIGHT", Value.pair (-1) 1), ("DOWN_LEFT", Value.pair 1 (-1)), ("ZERO_BY_TWO", Value.pair 0 2),
     ("TWO_BY_ZERO", Value.pair 2 0),
   ("TWO_BY_TWO", Value.pair 2 2), ("THREE_BY_THREE", Value.pair 3 3)]

/-- What a vocabulary calls by a name. The extended one knows the record of difficulty draws. -/
def named (words : Vocabulary) (name : String) : Eval Value := do
  match words.primitive? name with
  | some p => return .prim p
  | none =>
    if words == .bitwise then throw .noAttribute
    else if words == .extended && name == "rng" then
      return .list ((← get).record.map .float)
    else
      match constants.lookup name with
      | some v => return v
      | none => throw .noAttribute

def read (name : String) : Run Value := do
  match (← get).vars.lookup name with
  | some v => return v
  | none => throw .unbound

def write (name : String) (v : Value) : Run Unit :=
  modify fun s => { s with vars := (name, v) :: s.vars.filter (·.1 != name) }

/-! ## 2. Terms -/

/-- Call a function. A function that changes its argument changes the step that it is named by. -/
def apply (f : Value) (args : List Term) (values : List Value) : Run Value := do
  match f, args, values with
  | .prim .shuffle, [.var x], [v] =>
    write x (← lift (Dsl.shuffled v))
    return .nothing
  | .prim .fixBugs, [.var x], [v] =>
    let (tasks, failure?) := Dsl.fixBugs v
    write x tasks
    match failure? with
    | some e => throw (.failed e)
    | none => return .nothing
  | f, _, values => Recipe.callValue f values

mutual

def eval (words : Vocabulary) : Term → Run Value
  | .value v => return v
  | .tuple ts => do return .tuple (← evalAll words ts)
  | .list ts => do return .list (← evalAll words ts)
  | .fset ts => do
    let vs ← evalAll words ts
    lift (Value.fsetOf vs)
  | .mset ts => do
    let vs ← evalAll words ts
    lift (Value.msetOf vs)
  | .dict es => do
    let vs ← evalEntries words es
    lift (Value.dictOf vs)
  | .ref name => lift (named words name)
  | .var name => read name
  | .call f args => do
    let g ← eval words f
    let vs ← evalAll words args
    apply g args vs

def evalAll (words : Vocabulary) : List Term → Run (List Value)
  | [] => return []
  | t :: ts => do
    let v ← eval words t
    return v :: (← evalAll words ts)

def evalEntries (words : Vocabulary) : List (Term × Term) → Run (List Value)
  | [] => return []
  | (k, t) :: es => do
    let k ← eval words k
    let v ← eval words t
    return .tuple [k, v] :: (← evalEntries words es)

end

/-! ## 3. Steps -/

def runFrom (words : Vocabulary) : List (String × Term) → Session → List (Except Fault Value)
  | [], _ => []
  | (name, t) :: steps, s =>
    match (eval words t).run s with
    | .ok v s =>
      .ok v :: runFrom words steps { s with vars := (name, v) :: s.vars.filter (·.1 != name) }
    | .error e s => .error e :: runFrom words steps s

end Notebook

end PuzzlePrograms
