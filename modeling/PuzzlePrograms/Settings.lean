import PuzzlePrograms.Json.Access
import PuzzlePrograms.Source.Module
import PuzzlePrograms.Value.Arithmetic

/-!
# Settings in a line of text

Settings are words `name=value` with blanks between them. A value is what its text says as an expression
without names, or else the text itself.
-/

namespace PuzzlePrograms.Settings

open Source

/-! ## 1. Expressions without names -/

def constant? : Constant → Option Value
  | .none => some .nothing
  | .bool b => some (.bool b)
  | .int i => some (.int i)
  | .float x => some (.float x)
  | .str s _ => some (.str s)
  | _ => none

def binary (o : BinOp) (a b : Value) : Answer Value :=
  match o with
  | .add => a.add b
  | .sub => a.sub b
  | .mul => a.mul b
  | .div => a.div b
  | .floorDiv => a.floorDiv b
  | .mod => a.mod b
  | .pow => a.pow b
  | .bitOr => a.or b
  | .bitAnd => a.and b
  | .bitXor => a.xor b
  | .lshift => a.shiftLeft b
  | .rshift => a.shiftRight b
  | .matMul => .error .wrongType

def unary? (o : UnaryOp) (a : Value) : Option Value :=
  match o with
  | .minus => a.neg.toOption
  | .plus => a.pos.toOption
  | .not => some (.bool !a.truthy)
  | .invert => do
    let i ← a.int?
    return .int (-i - 1)

mutual

def valueOf? : Expr → Option Value
  | .const c => constant? c
  | .list es => do return .list (← valuesOf? es)
  | .tuple es => do return .tuple (← valuesOf? es)
  | .dict ks vs => do
    let keys ← valuesOf? ks
    let values ← valuesOf? vs
    (Value.dictOf ((keys.zip values).map fun (k, v) => .tuple [k, v])).toOption
  | .unaryOp o e => do unary? o (← valueOf? e)
  | .binOp a o b => do
    let a ← valueOf? a
    let b ← valueOf? b
    (binary o a b).toOption
  | .ifExp c t e => do
    let c ← valueOf? c
    if c.truthy then valueOf? t else valueOf? e
  | _ => none

def valuesOf? : List Expr → Option (List Value)
  | [] => some []
  | e :: es => do return (← valueOf? e) :: (← valuesOf? es)

end

/-! ## 2. Settings -/

def keyName : Value → String
  | .str s => s
  | .int i => toString i
  | .bool b => if b then "true" else "false"
  | .float x => Decimal.Layout.source.text x
  | _ => "null"

mutual

def plain : Value → Json
  | .bool b => .bool b
  | .int i => .int i
  | .float x => .float x
  | .str s => .str s
  | .tuple xs | .list xs => .arr (plainAll xs)
  | .dict kvs => .obj (plainMembers kvs)
  | _ => .null

def plainAll : List Value → List Json
  | [] => []
  | x :: xs => plain x :: plainAll xs

def plainMembers : List (Value × Value) → List (String × Json)
  | [] => []
  | (k, v) :: kvs => Json.put (keyName k) (plain v) (plainMembers kvs)

end

def settingOf (text : String) : Json :=
  match expression? (Text.trim text) with
  | .error _ => .str text
  | .ok e =>
    match valueOf? e with
    | some v => plain v
    | none => .str text

def readWords (table : List (String × Json)) : List String → Option Problem × List (String × Json)
  | [] => (none, table)
  | w :: ws =>
    if w == "" then readWords table ws
    else
      match Text.split w "=" with
      | [k, v] => readWords (Json.put k (settingOf v) table) ws
      | _ => (some (.failed .badValue), table)

def read (line : String) (table : List (String × Json)) : Option Problem × List (String × Json) :=
  readWords table (Text.split line " ")

end PuzzlePrograms.Settings
