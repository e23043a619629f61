import PuzzlePrograms.Source.Module
import PuzzlePrograms.Tree

/-!
# Expressions as trees of calls

An expression of names, constants, functions and calls as a tree of words. A call is the list of what is
called and the arguments; arguments with a name are left out. A function is the list of its head and its
body.
-/

namespace PuzzlePrograms.Indexed

open Source

def kindName : Expr → String
  | .absent => "NoneType"
  | .const _ => "Constant"
  | .name _ => "Name"
  | .boolOp _ _ => "BoolOp"
  | .named _ _ => "NamedExpr"
  | .binOp _ _ _ => "BinOp"
  | .unaryOp _ _ => "UnaryOp"
  | .lambda _ _ => "Lambda"
  | .ifExp _ _ _ => "IfExp"
  | .dict _ _ => "Dict"
  | .set _ => "Set"
  | .list _ => "List"
  | .tuple _ => "Tuple"
  | .comp .list _ _ => "ListComp"
  | .comp .set _ _ => "SetComp"
  | .comp .generator _ _ => "GeneratorExp"
  | .dictComp _ _ _ => "DictComp"
  | .await _ => "Await"
  | .yield _ => "Yield"
  | .yieldFrom _ => "YieldFrom"
  | .compare _ _ _ => "Compare"
  | .call _ _ _ => "Call"
  | .formatted _ _ _ => "FormattedValue"
  | .joined _ => "JoinedStr"
  | .attr _ _ => "Attribute"
  | .subscript _ _ => "Subscript"
  | .starred _ => "Starred"
  | .slice _ _ _ => "Slice"
  | .keyword _ _ => "keyword"
  | .clause _ _ _ _ => "comprehension"
  | .param _ _ => "arg"
  | .params _ _ _ _ _ _ _ => "arguments"
  | .shared _ => "Name"

def constantWord : Constant → String
  | .str s _ => s
  | c => c.text

def negated? : Expr → Option String
  | .const (.int i) => some ("-" ++ constantWord (.int i))
  | .const (.float x) => some ("-" ++ constantWord (.float x))
  | .const (.bool b) => some ("-" ++ constantWord (.bool b))
  | _ => none

def lambdaHead : Expr → String
  | .params _ as _ _ _ _ _ =>
    "lambda " ++ String.intercalate ", " (as.map fun | .param x _ => x | _ => "") ++ ":"
  | _ => "lambda :"

mutual

/-- An expression as a tree of calls. An operator before a term that is no minus leaves nothing. -/
def callTree : Expr → Conversion Tree
  | .call f as _ => do
    let f ← callTree f
    return .node (f :: (← callTrees as))
  | .name x => return .word x
  | .lambda ps b => return .node [.word (lambdaHead ps), ← callTree b]
  | .const c => return .word (constantWord c)
  | .unaryOp .minus e => do
    let t ← callTree e
    match negated? e with
    | some w => return .word w
    | none => return .node [.word "neg", t]
  | .unaryOp _ _ => return .scalar .none
  | e => throw (.unhandledTerm (kindName e))

def callTrees : List Expr → Conversion (List Tree)
  | [] => return []
  | e :: es => do
    let t ← callTree e
    return t :: (← callTrees es)

end

def readCalls (s : String) : Conversion Tree :=
  match expression? s with
  | .ok e => callTree e
  | .error f => throw (.source f)

end PuzzlePrograms.Indexed
