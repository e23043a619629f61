import PuzzlePrograms.Dsl.Draw
import PuzzlePrograms.Text.Real

/-!
# Draws from the command line

A command line asks for one draw: by an option for a choice between words, a whole number or a number
with a fraction, or by its inputs alone, whose form then decides. The options exclude each other; an
option may be shortened as long as it stays clear which is meant.
-/

namespace PuzzlePrograms.Draw

/-! ## 1. Options -/

inductive Flag where
  | help | choice | integer | float | test
  deriving DecidableEq

def flagNames : List (String × Flag) :=
  [("-h", .help), ("--help", .help), ("-c", .choice), ("--choice", .choice), ("-i", .integer),
   ("--integer", .integer), ("-f", .float), ("--float", .float), ("--test", .test)]

inductive Word where
  | flag (f : Flag) (isLong : Bool) (attached : Option String)
  | unknown
  | divider
  | input (s : String)

/-- Whether a text is a number with a minus sign: digits, or a point and digits with or without digits
    before it. -/
def looksNegative (s : String) : Bool :=
  match s.toList with
  | '-' :: cs =>
    let rest := cs.dropWhile Text.isDecimal
    match rest with
    | [] => !cs.isEmpty
    | '.' :: fraction => !fraction.isEmpty && fraction.all Text.isDecimal
    | _ => false
  | _ => false

def splitAttached (s : String) : String × Option String :=
  let cs := s.toList
  match cs.dropWhile (· != '=') with
  | _ :: rest => (String.ofList (cs.takeWhile (· != '=')), some (String.ofList rest))
  | [] => (s, none)

def shortened (s : String) : List Word :=
  match s.toList with
  | '-' :: '-' :: _ =>
    let (name, attached) := splitAttached s
    (flagNames.filter fun (n, _) => Text.starts n name).map fun (_, f) => .flag f true attached
  | '-' :: c :: rest =>
    flagNames.filterMap fun (n, f) =>
      if n == String.ofList ['-', c] then some (.flag f false (some (String.ofList rest)))
      else if Text.starts n s then some (.flag f (Text.starts n "--") none)
      else none
  | _ => []

def classify (s : String) : Option Word :=
  if !Text.starts s "-" then some (.input s)
  else
    match flagNames.lookup s with
    | some f => some (.flag f (Text.starts s "--") none)
    | none =>
      if s == "-" then some (.input s)
      else
        let (name, attached) := splitAttached s
        match attached, flagNames.lookup name with
        | some v, some f => some (.flag f (Text.starts name "--") (some v))
        | _, _ =>
          match shortened s with
          | [w] => some w
          | [] => some (if looksNegative s || Text.occurs " " s then .input s else .unknown)
          | _ => none

def classifyAll : List String → Option (List Word)
  | [] => some []
  | "--" :: rest => some (.divider :: rest.map .input)
  | s :: rest => do return (← classify s) :: (← classifyAll rest)

/-! ## 2. Requests -/

structure Request where
  choice : Option (List String) := none
  integer : Option Int := none
  float : Option Float := none
  test : Option Int := none
  inputs : Option (List String) := none

def leadingInputs : List Word → List String
  | .input s :: rest => s :: leadingInputs rest
  | _ => []

/-- Take an option with its values; none if they do not fit or another option was taken before. -/
def Request.take (r : Request) (f : Flag) (values : List String) : Option Request := do
  let free (taken : List Bool) : Option Unit := if taken.any id then none else some ()
  match f, values with
  | .choice, _ :: _ =>
    free [r.integer.isSome, r.float.isSome, r.test.isSome]
    return { r with choice := some values }
  | .integer, [s] =>
    let n ← Text.int? s
    free [r.choice.isSome, r.float.isSome, r.test.isSome]
    return { r with integer := some n }
  | .float, [s] =>
    let x ← Text.real? s
    free [r.choice.isSome, r.integer.isSome, r.test.isSome]
    return { r with float := some x }
  | .test, [] =>
    free [r.choice.isSome, r.integer.isSome, r.float.isSome]
    return { r with test := some 10000 }
  | .test, [s] =>
    let n ← Text.int? s
    free [r.choice.isSome, r.integer.isSome, r.float.isSome]
    return { r with test := some n }
  | _, _ => none

def Request.takeFlag (r : Request) (f : Flag) (attached : Option String) (rest : List Word) :
    Option (Request × List Word) := do
  match attached with
  | some v => return (← r.take f [v], rest)
  | none =>
    let inputs := leadingInputs rest
    let values := match f with
      | .choice => inputs
      | .help => []
      | _ => inputs.take 1
    return (← r.take f values, rest.drop values.length)

def Request.read : Nat → Request → List Word → Option Request
  | 0, _, _ => none
  | fuel + 1, r, words =>
    match words with
    | [] => some r
    | .flag f _ attached :: rest => do
      let (r, rest) ← r.takeFlag f attached rest
      Request.read fuel r rest
    | .unknown :: _ => none
    | words => do
      if r.inputs.isSome then none
      let isInput : Word → Bool
        | .input _ | .divider => true
        | _ => false
      let inputs := (words.takeWhile isInput).filterMap fun
        | .input s => some s
        | _ => none
      Request.read fuel { r with inputs := some inputs } (words.dropWhile isInput)

def Request.ofArgs (args : List String) : Option Request := do
  let words ← classifyAll args
  Request.read (words.length + 1) {} words

/-! ## 3. Answers -/

def helpText (program : String) : String :=
  String.intercalate "\n"
    ["usage: " ++ program ++ " [-h] [-c CHOICE [CHOICE ...] | -i N | -f N] [input ...]",
     "", "positional arguments:", "  input                 if no options given, output depends on the input",
     "                            string or multiple: same as --choice",
     "                            integer: same as --integer",
     "                            float: same as --float",
     "", "options:",
     "  -h, --help            show this help message and exit",
     "  -c CHOICE [CHOICE ...], --choice CHOICE [CHOICE ...]",
     "                        print a random choice",
     "  -i N, --integer N     print a random integer between 1 and N inclusive",
     "  -f N, --float N       print a random floating-point number between 0 and N inclusive",
     ""]

def chooseWord (ws : List String) : Eval Value := Dsl.choice (.list (ws.map .str))

/-- The draw that a single input asks for: a whole number, else a number with a fraction, else one of
    its words. A number that leaves nothing to draw from is taken for the next kind. -/
def ofInput (s : String) : Eval Value := do
  let byFraction : Eval Value := do
    match Text.real? s with
    | some x => Dsl.uniform 0 (.float x)
    | none => chooseWord (Text.words s)
  match Text.int? s with
  | some n => if n < 1 then byFraction else Dsl.randint 1 (.int n)
  | none => byFraction

def Request.answer (r : Request) (program : String) : Eval Value := do
  match r.choice, r.integer, r.float with
  | some ws, _, _ => chooseWord ws
  | none, some n, _ => Dsl.randint 1 (.int n)
  | none, none, some x => Dsl.uniform 0 (.float x)
  | none, none, none =>
    if r.test.isSome && r.test != some 0 then return .str ""
    match r.inputs.getD [] with
    | [] => return .str (helpText program)
    | [s] => ofInput s
    | ws => chooseWord ws

end PuzzlePrograms.Draw
