import PuzzlePrograms.Library.Abstraction

/-!
# The search for abstractions, from outside

The search itself is done by another program, the back end. Here is what it is asked and how its answer is
read:

* `compressRequest` and `useRequest` turn arguments into a request, in which options are written as on a
  command line;
* `Compression.ofJson` and `readUse` read the answer.
-/

namespace PuzzlePrograms.Library

/-! ## 1. Options -/

abbrev Named := List (String × Json)

def option (name : String) (value : Json) : Conversion String :=
  let shown := "--" ++ Text.replace name "_" "-"
  match value with
  | .bool b => return if b then shown else ""
  | .str s => return shown ++ "=" ++ s
  | .int i => return shown ++ "=" ++ toString i
  | j => throw (.asserted
      ("unexpected type for argument `" ++ name ++ "`: <class '" ++ j.typeName ++ "'>"))

def options (named : Named) : Conversion String := do
  return String.intercalate " " (← named.mapM fun (k, v) => option k v)

def pop (name : String) (default : Json) (named : Named) : Json × Named :=
  ((named.lookup name).getD default, named.filter (·.1 != name))

/-! ## 2. Requests -/

abbrev Request := List Json

def searchParams : List (String × Option Json) :=
  [("programs", none), ("iterations", none), ("max_arity", some (.int 2)), ("threads", some (.int 1)),
    ("silent", some (.bool true))]

/-- Give parameters their values: positional arguments first, then named ones, then defaults. A parameter
    with two values or none is refused. -/
def bindParams : List (String × Option Json) → List Json → Named → Conversion Named
  | [], [], _ => return []
  | [], _ :: _, _ => fail .wrongType
  | (p, _) :: ps, a :: as, named => do
    if (named.lookup p).isSome then fail .wrongType
    else return (p, a) :: (← bindParams ps as named)
  | (p, default) :: ps, [], named => do
    match (named.lookup p).or default with
    | some v => return (p, v) :: (← bindParams ps [] named)
    | none => fail .wrongType

def compressRequest (args : List Json) (named : Named) : Conversion Request := do
  let bound ← bindParams searchParams args named
  let rest := named.filter fun (k, _) => (searchParams.lookup k).isNone
  let (tasks, rest) := pop "tasks" .null rest
  let (weights, rest) := pop "weights" .null rest
  let (names, rest) := pop "name_mapping" .null rest
  let (loud, rest) := pop "panic_loud" (.bool false) rest
  let programs := (bound.lookup "programs").getD .null
  let text ← options (rest ++ bound.filter (·.1 != "programs"))
  return [programs, tasks, weights, names, loud, .str text]

def useRequest (programs : Json) (abstractions : List Abstraction) (named : Named) : Conversion Request := do
  if (named.lookup "programs").isSome || (named.lookup "abstractions").isSome then fail .wrongType
  let (_, rest) := pop "tasks" .null named
  let (_, rest) := pop "name_mapping" .null rest
  let (loud, rest) := pop "panic_loud" (.bool false) rest
  let text ← options rest
  return [programs, .arr (abstractions.map (.str ·.text)), loud, .str text]

/-! ## 3. Answers -/

inductive Reply where
  | returns (j : Json)
  | stops (kind text : String)

def Reply.answer : Reply → Conversion Json
  | .returns j => return j
  | .stops kind text =>
    if kind == "PanicException" then throw (.panicked text) else throw (.turnedDown kind)

structure Compression where
  abstractions : List Abstraction
  programs : Json
  json : Json

def Compression.ofJson (j : Json) : Conversion Compression := do
  let abstractions ← (← (← j.item "abstractions").elements).mapM fun a => do
    let body ← a.item "body"
    let name ← a.item "name"
    let arity ← a.item "arity"
    Abstraction.ofParts name body arity
  return { abstractions, programs := ← j.item "rewritten", json := j }

def without (key : String) : Json → Conversion Json
  | .obj ms =>
    if (ms.lookup key).isSome then return .obj (ms.filter (·.1 != key)) else fail .missingKey
  | .arr _ => fail .wrongType
  | _ => fail .noAttribute

def replaceItem (key : String) (value : Json) : Json → Json
  | .obj ms => .obj (Json.put key value ms)
  | j => j

/-- The answer to a request to use abstractions, without the parts that are written out. The programs have
    to be those that the back end reports. -/
def readUse (programs answer : Json) : Conversion Json := do
  let reported ← answer.statedItem "rewritten"
  if !reported.same programs then throw (.asserted "")
  let answer ← without "rewritten_dreamcoder" answer
  let abstractions ← (← answer.item "abstractions").elements
  let abstractions ← abstractions.mapM (without "rewritten_dreamcoder")
  return replaceItem "abstractions" (.arr abstractions) answer

end PuzzlePrograms.Library
