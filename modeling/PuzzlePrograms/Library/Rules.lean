import PuzzlePrograms.Indexed.ToNamed
import PuzzlePrograms.Library.Abstraction

/-!
# Typed rules for abstractions

A grammar is a list of rules, each with the type it gives, the name of a primitive and the types of its
arguments. The type of an abstraction is found from the rules for what it uses: the variables take the types
of the places where they stand, and the result is the type of the outermost primitive.
-/

namespace PuzzlePrograms.Library

open Indexed

/-! ## 1. Rules -/

structure Signature where
  gives : Json
  takes : List Json

/-- Signatures by name; a later rule for a name replaces the earlier one and keeps its place. -/
abbrev Rules := List (String × Signature)

def primitiveName (s : String) : String := String.ofList (s.toList.takeWhile (· != '('))

def Rules.put (name : String) (sig : Signature) : Rules → Rules
  | [] => [(name, sig)]
  | (k, v) :: rest => if k == name then (k, sig) :: rest else (k, v) :: Rules.put name sig rest

def Rules.ofList (rules : List Json) : Conversion Rules :=
  rules.foldlM (fun acc r => do
    match ← r.elements with
    | type :: name :: args => return Rules.put (primitiveName (← name.string)) ⟨type, args⟩ acc
    | _ => fail .badValue) []

def Rules.toJson (rules : Rules) : Json := .obj (rules.map fun (k, v) => (k, .arr [v.gives, .arr v.takes]))

/-! ## 2. Types -/

abbrev VarTypes := List (String × Json)

def VarTypes.update (old new : VarTypes) : VarTypes := new.foldl (fun acc (x, t) => Json.put x t acc) old

def boundName (w : String) : Conversion String :=
  match Text.split (Text.dropLast (Text.trim w)) " " with
  | _ :: x :: _ => return x
  | _ => fail .outOfRange

/-- The type of a function of a variable, given what is known of its body. A body whose type is empty or
    unknown is refused. -/
def functionType (w : String) (type : Json) (vars : VarTypes) : Conversion (Json × VarTypes) := do
  let x ← boundName w
  match vars.lookup x with
  | none => fail .missingKey
  | some t =>
    let _ ← type.first
    return (.arr [t, type], vars)

mutual

/-- The type of a tree and of its variables, where a type may be known from the place it stands at. -/
def inferTypes (rules : Rules) (known : Json) : Tree → Conversion (Json × VarTypes)
  | .word w =>
    if w.isEmpty then fail .outOfRange
    else if Text.starts w "y" then return (known, [(w, known)])
    else
      match rules.lookup w with
      | some s => return (s.gives, [])
      | none => fail .missingKey
  | .scalar _ => fail .wrongType
  | .node [] => fail .outOfRange
  | .node (.word w :: args) =>
    if Text.starts w "lambda" then
      match args with
      | [b] => do
        let (type, vars) ← inferTypes rules .null b
        functionType w type vars
      | _ => fail .wrongType
    else
      match rules.lookup w with
      | none => fail .missingKey
      | some s => do return (.arr [s.gives], ← argumentTypes rules s.takes [] args)
  | .node (_ :: _) => fail .noAttribute

def argumentTypes (rules : Rules) (takes : List Json) (vars : VarTypes) : List Tree → Conversion VarTypes
  | [] => return vars
  | t :: ts =>
    match takes with
    | [] => return vars
    | k :: ks => do
      let (_, new) ← inferTypes rules k t
      argumentTypes rules ks (vars.update new) ts

end

mutual

def leaves : Json → List Json
  | .arr xs => allLeaves xs
  | j => [j]

def allLeaves : List Json → List Json
  | [] => []
  | x :: xs => leaves x ++ allLeaves xs

end

def typeParts : Json → Conversion (List Json)
  | .arr xs => return allLeaves xs
  | .str _ => fail .outOfRange
  | _ => fail .wrongType

/-! ## 3. Rules for abstractions -/

structure AddedRule where
  gives : Json
  name : String
  takes : Option (List Json)
  weight : Json

def placed (name : String) (args : List α) : String := name ++ String.join (args.map fun _ => "(%s)")

def ruleFor (rules : Rules) (name expression : String) : Conversion (Json × String × List Json) := do
  let t ← (← readCalls expression).applications
  let (type, _) ← inferTypes rules .null t
  let parts ← typeParts type
  match parts.getLast? with
  | none => fail .badValue
  | some result =>
    let args := parts.dropLast
    return (result, placed name args, args)

def expandGrammar (rules : Rules) (abstractions : List (String × String)) (weight : Json) :
    Conversion (List AddedRule) :=
  abstractions.mapM fun (name, expression) => do
    let (gives, shown, args) ← ruleFor rules name expression
    return { gives, name := shown, takes := some args, weight }

end PuzzlePrograms.Library
