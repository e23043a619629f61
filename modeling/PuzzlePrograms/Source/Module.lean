import PuzzlePrograms.Source.Parser

/-!
# Reading statements and whole texts

Statements, blocks and patterns over the reader of expressions. `module?` reads a text as statements and
`expression?` reads it as one expression; a text that is neither gives the `Fault` that tells why.
-/

namespace PuzzlePrograms.Source

open Reader

/-! ## 1. Statements on one line -/

namespace Sub

variable (s : Sub)

def atStatementEnd : Reader Bool := do
  match ← peek with
  | .newline | .op ";" => return true
  | _ => return false

def updates : List (String × BinOp) :=
  [("+=", .add), ("-=", .sub), ("*=", .mul), ("@=", .matMul), ("/=", .div), ("%=", .mod),
   ("&=", .bitAnd), ("|=", .bitOr), ("^=", .bitXor), ("<<=", .lshift), (">>=", .rshift),
   ("**=", .pow), ("//=", .floorDiv)]

def assigned : Nat → Reader (List Expr × Expr)
  | 0 => fail
  | n + 1 => do
    let e ← s.yieldOrStar
    if ← acceptOp "=" then
      if !isTarget e then fail
      let (ts, v) ← assigned n
      return (e :: ts, v)
    else return ([], e)

def assignment : Reader Stmt := do
  if ← atWord "yield" then return .expr (← s.yieldExpression)
  let bracketed ← atOp "("
  let e ← s.starExpressions
  match ← peek with
  | .op ":" =>
    if !isPlace e then fail
    advance
    let a ← s.expression
    let v ← (do if ← acceptOp "=" then s.yieldOrStar else return .absent)
    let simple := match e with
      | .name _ => !bracketed
      | _ => false
    return .annAssign e a v simple
  | .op "=" =>
    if !isTarget e then fail
    advance
    let (ts, v) ← s.assigned s.limit
    return .assign (e :: ts) v
  | .op o =>
    match updates.lookup o with
    | some b =>
      if !isPlace e then fail
      advance
      return .augAssign e b (← s.yieldOrStar)
    | none => return .expr e
  | _ => return .expr e

def dottedName : Reader String := do
  let x ← name
  let rest ← whileM (atOp ".") (do
    advance
    name) s.limit
  return String.intercalate "." (x :: rest)

def alias? : Reader (Option String) := do
  if ← acceptWord "as" then return some (← name) else return none

def importLevel : Nat → Reader Nat
  | 0 => return 0
  | n + 1 => do
    if ← acceptOp "." then return 1 + (← importLevel n)
    else if ← acceptOp "..." then return 3 + (← importLevel n)
    else return 0

def importFrom : Reader Stmt := do
  let level ← importLevel s.limit
  let module? ← (do
    if level != 0 && (← atWord "import") then return none else return some (← s.dottedName))
  expectWord "import"
  let one : Reader (String × Option String) := do
    let x ← name
    return (x, ← alias?)
  if ← acceptOp "*" then return .importFrom module? [("*", none)] level
  else if ← acceptOp "(" then
    let (xs, _) ← commaItems (atOp ")") one s.limit
    expectOp ")"
    return .importFrom module? xs level
  else
    let (xs, comma) ← commaItems (return false) one s.limit
    if comma then fail
    return .importFrom module? xs level

def simpleStatement : Reader Stmt := do
  match ← peek with
  | .name "pass" =>
    advance
    return .pass
  | .name "break" =>
    advance
    return .break
  | .name "continue" =>
    advance
    return .continue
  | .name "return" =>
    advance
    if ← atStatementEnd then return .return .absent else return .return (← s.starExpressions)
  | .name "raise" =>
    advance
    if ← atStatementEnd then return .raise .absent .absent
    let e ← s.expression
    if ← acceptWord "from" then return .raise e (← s.expression) else return .raise e .absent
  | .name "global" =>
    advance
    let (xs, _) ← commaItems (return false) name s.limit
    return .global xs
  | .name "nonlocal" =>
    advance
    let (xs, _) ← commaItems (return false) name s.limit
    return .nonlocal xs
  | .name "del" =>
    advance
    let (es, _) ← commaItems atStatementEnd s.bitOr s.limit
    if areDeletable es then return .delete es else fail
  | .name "assert" =>
    advance
    let e ← s.expression
    if ← acceptOp "," then return .assert e (← s.expression) else return .assert e .absent
  | .name "import" =>
    advance
    let (xs, _) ← commaItems (return false) (do
      let x ← s.dottedName
      return (x, ← alias?)) s.limit
    return .importModule xs
  | .name "from" =>
    advance
    s.importFrom
  | _ => s.assignment

def simpleStatements : Nat → Reader (List Stmt)
  | 0 => fail
  | n + 1 => do
    let st ← s.simpleStatement
    match ← peek with
    | .newline =>
      advance
      return [st]
    | .op ";" =>
      advance
      match ← peek with
      | .newline =>
        advance
        return [st]
      | _ => return st :: (← simpleStatements n)
    | _ => fail

/-! ## 2. Patterns -/

def patternNumber : Reader Expr := do
  let signed : Reader Expr := do
    let minus ← acceptOp "-"
    match ← peek with
    | .number c =>
      advance
      return if minus then .unaryOp .minus (.const c) else .const c
    | _ => fail
  let a ← signed
  let part : Reader Expr := do
    match ← peek with
    | .number (.imaginary x) =>
      advance
      return .const (.imaginary x)
    | _ => fail
  if ← acceptOp "+" then return .binOp a .add (← part)
  else if ← acceptOp "-" then return .binOp a .sub (← part)
  else return a

def nameOrAttr : Reader Expr := do
  let x ← name
  let rest ← whileM (atOp ".") (do
    advance
    name) s.limit
  return rest.foldl (fun e a => .attr e a) (.name x)

/-- Part a list of patterns into plain ones and those with a name; the named ones come last. -/
def splitNamed : List (Option String × Pattern) → Option (List Pattern × List (String × Pattern))
  | [] => some ([], [])
  | (none, p) :: rest => (splitNamed rest).map fun (ps, ns) => (p :: ps, ns)
  | (some x, p) :: rest =>
    if rest.any (·.1.isNone) then none
    else (splitNamed rest).map fun (ps, ns) => (ps, (x, p) :: ns)

def wordConstant? : String → Option Constant
  | "None" => some .none
  | "True" => some (.bool true)
  | "False" => some (.bool false)
  | _ => none

def pattern : Nat → Reader Pattern
  | 0 => fail
  | n + 1 => do
    -- a pattern or a star, as an item of a sequence
    let item : Reader Pattern := do
      if ← acceptOp "*" then
        let x ← name
        return .star (if x == "_" then none else some x)
      else pattern n
    let sequence (close : String) : Reader (List Pattern × Bool) := do
      if ← acceptOp close then return ([], true)
      let r ← commaItems (atOp close) item s.limit
      expectOp close
      return r
    let closed : Reader Pattern := do
      match ← peek with
      | .number _ | .op "-" => return .value (← patternNumber)
      | .string _ _ => return .value (← s.strings)
      | .op "[" =>
        advance
        return .sequence (← sequence "]").1
      | .op "(" =>
        advance
        let (ps, comma) ← sequence ")"
        match ps, comma with
        | [.star _], false => fail
        | [p], false => return p
        | ps, _ => return .sequence ps
      | .op "\x7b" =>
        advance
        if ← acceptOp "\x7d" then return .mapping [] [] none
        let entry : Reader (Option (Expr × Pattern) × Option String) := do
          if ← acceptOp "**" then return (none, some (← name))
          let k ← (do
            match ← peek with
            | .number _ | .op "-" => patternNumber
            | .string _ _ => s.strings
            | .name x =>
              match wordConstant? x with
              | some c =>
                advance
                return .const c
              | none => s.nameOrAttr
            | _ => fail)
          expectOp ":"
          return (some (k, ← pattern n), none)
        let (es, _) ← commaItems (atOp "\x7d") entry s.limit
        expectOp "\x7d"
        let kps := es.filterMap (·.1)
        return .mapping (kps.map (·.1)) (kps.map (·.2)) (es.findSome? (·.2))
      | .name x =>
        match wordConstant? x with
        | some c =>
          advance
          return .constant c
        | none =>
          let e ← s.nameOrAttr
          if ← acceptOp "(" then
            let one : Reader (Option String × Pattern) := do
              if ← atNameThen "=" then
                let x ← name
                advance
                return (some x, ← pattern n)
              else return (none, ← pattern n)
            let items ← (do
              if ← atOp ")" then return []
              return (← commaItems (atOp ")") one s.limit).1)
            expectOp ")"
            match splitNamed items with
            | some (ps, ns) => return .cls e ps (ns.map (·.1)) (ns.map (·.2))
            | none => fail
          else
            match e with
            | .name "_" => return .bind none none
            | .name x => return .bind none (some x)
            | e => return .value e
      | _ => fail
    let p ← closed
    let rest ← whileM (atOp "|") (do
      advance
      closed) s.limit
    let p := if rest.isEmpty then p else .or (p :: rest)
    if ← acceptWord "as" then
      let x ← name
      if x == "_" then fail
      return .bind (some p) (some x)
    else return p

def casePattern : Reader Pattern := do
  let item : Reader Pattern := do
    if ← acceptOp "*" then
      let x ← name
      return .star (if x == "_" then none else some x)
    else s.pattern s.limit
  let atEnd : Reader Bool := do return (← atOp ":") || (← atWord "if")
  let (ps, comma) ← commaItems atEnd item s.limit
  match ps, comma with
  | [.star _], false => fail
  | [p], false => return p
  | ps, _ => return .sequence ps

def subject : Reader Expr := do
  let (es, comma) ← commaItems (atOp ":") s.starNamed s.limit
  match es, comma with
  | [.starred _], false => fail
  | [e], false => return e
  | es, _ => return .tuple es

/-! ## 3. Statements with blocks -/

def block (inner : Reader (List Stmt)) : Reader (List Stmt) := do
  expectOp ":"
  match ← peek with
  | .newline =>
    advance
    match ← peek with
    | .indent =>
      advance
      let body ← inner
      match ← peek with
      | .dedent =>
        advance
        return body
      | _ => fail
    | .fault f _ => throw ⟨f, false⟩
    | _ => throw ⟨.indentation, true⟩
  | _ => s.simpleStatements s.limit

def elseBlock (inner : Reader (List Stmt)) : Reader (List Stmt) := do
  if ← acceptWord "else" then s.block inner else return []

def ifStatement (inner : Reader (List Stmt)) : Nat → Reader Stmt
  | 0 => fail
  | n + 1 => do
    let c ← s.namedExpression
    let body ← s.block inner
    if ← acceptWord "elif" then return .if c body [← ifStatement inner n]
    else return .if c body (← s.elseBlock inner)

def withItem : Reader (Expr × Expr) := do
  let e ← s.expression
  if ← acceptWord "as" then return (e, ← s.target) else return (e, .absent)

def withStatement (isAsync : Bool) (inner : Reader (List Stmt)) : Reader Stmt := do
  let bracketed : Reader (List (Expr × Expr)) := do
    expectOp "("
    let (xs, _) ← commaItems (atOp ")") s.withItem s.limit
    expectOp ")"
    if ← atOp ":" then return xs else fail
  let plain : Reader (List (Expr × Expr)) := do
    let (xs, comma) ← commaItems (atOp ":") s.withItem s.limit
    if comma then fail
    return xs
  let items ← orElse bracketed plain
  return .with isAsync items (← s.block inner)

def exceptHandler (inner : Reader (List Stmt)) : Reader (Bool × Stmt) := do
  expectWord "except"
  let isStar ← acceptOp "*"
  if !isStar && (← atOp ":") then return (false, .handler .absent none (← s.block inner))
  let e ← s.expression
  let x ← alias?
  return (isStar, .handler e x (← s.block inner))

def tryStatement (inner : Reader (List Stmt)) : Reader Stmt := do
  let body ← s.block inner
  let hs ← whileM (atWord "except") (s.exceptHandler inner) s.limit
  let isStar := hs.any (·.1)
  if isStar && hs.any (!·.1) then fail
  let orelse ← (do if hs.isEmpty then return [] else s.elseBlock inner)
  let final ← (do if ← acceptWord "finally" then s.block inner else return [])
  if hs.isEmpty && final.isEmpty then
    match ← peek with
    | .fault f _ => throw ⟨f, false⟩
    | _ => throw ⟨.invalid, true⟩
  return .try isStar body (hs.map (·.2)) orelse final

def forStatement (isAsync : Bool) (inner : Reader (List Stmt)) : Reader Stmt := do
  let t ← s.targets
  expectWord "in"
  let e ← s.starExpressions
  let body ← s.block inner
  return .for isAsync t e body (← s.elseBlock inner)

def functionStatement (isAsync : Bool) (decorators : List Expr) (inner : Reader (List Stmt)) : Reader Stmt := do
  let x ← name
  expectOp "("
  let ps ← s.parameters true ")"
  let r ← (do if ← acceptOp "->" then s.expression else return .absent)
  return .functionDef isAsync x ps (← s.block inner) decorators r

def classStatement (decorators : List Expr) (inner : Reader (List Stmt)) : Reader Stmt := do
  let x ← name
  let (bases, keywords) ← (do if ← acceptOp "(" then s.arguments false else return ([], []))
  return .classDef x bases keywords (← s.block inner) decorators

def decorated (decorators : List Expr) (inner : Reader (List Stmt)) : Reader Stmt := do
  match ← peek with
  | .name "def" =>
    advance
    s.functionStatement false decorators inner
  | .name "class" =>
    advance
    s.classStatement decorators inner
  | .name "async" =>
    advance
    expectWord "def"
    s.functionStatement true decorators inner
  | _ => fail

def cases (inner : Reader (List Stmt)) : Reader (List Stmt) := do
  let isCase : Reader Bool := atWord "case"
  let cs ← whileM isCase (do
    advance
    let p ← s.casePattern
    let g ← (do if ← acceptWord "if" then s.namedExpression else return .absent)
    return .case p g (← s.block inner)) s.limit
  if cs.isEmpty then fail else return cs

def matchHeader : Reader (Option Expr) := do
  expectWord "match"
  let e ← s.subject
  expectOp ":"
  match ← peek with
  | .newline =>
    advance
    return some e
  | _ => fail

def statement (inner : Reader (List Stmt)) : Reader (List Stmt) := do
  match ← peek with
  | .name "if" =>
    advance
    return [← s.ifStatement inner s.limit]
  | .name "while" =>
    advance
    let c ← s.namedExpression
    let body ← s.block inner
    return [.while c body (← s.elseBlock inner)]
  | .name "for" =>
    advance
    return [← s.forStatement false inner]
  | .name "with" =>
    advance
    return [← s.withStatement false inner]
  | .name "try" =>
    advance
    return [← s.tryStatement inner]
  | .name "def" | .name "class" => return [← s.decorated [] inner]
  | .name "async" =>
    match ← peekSecond with
    | .name "for" =>
      advance
      advance
      return [← s.forStatement true inner]
    | .name "with" =>
      advance
      advance
      return [← s.withStatement true inner]
    | _ => return [← s.decorated [] inner]
  | .op "@" =>
    let ds ← whileM (atOp "@") (do
      advance
      let e ← s.namedExpression
      match ← peek with
      | .newline =>
        advance
        return e
      | _ => fail) s.limit
    return [← s.decorated ds inner]
  | .name "match" =>
    match ← orElse s.matchHeader (return none) with
    | some e =>
      match ← peek with
      | .indent =>
        advance
        let cs ← s.cases inner
        match ← peek with
        | .dedent =>
          advance
          return [.match e cs]
        | _ => fail
      | .fault f _ => throw ⟨f, false⟩
      | _ => throw ⟨.indentation, true⟩
    | none => s.simpleStatements s.limit
  | _ => s.simpleStatements s.limit

def statements : Nat → Reader (List Stmt)
  | 0 => fail
  | n + 1 => do
    let more : Reader Bool := do
      match ← peek with
      | .dedent | .endMarker => return false
      | _ => return true
    let ss ← whileM more (s.statement (statements n)) s.limit
    return ss.flatten

end Sub

/-! ## 4. Whole texts -/

def readText (isLines : Bool) (text : String) (reader : Sub → Reader α) : Except Fault α :=
  let ts := lex isLines text
  let size := text.length + 8
  match reader (sub size size) ts with
  | .ok (a, _) => .ok a
  | .error e =>
    let loud := ts.any fun
      | .fault _ l => l
      | _ => false
    .error (if e.mild && loud then .invalid else e.fault)

def endOfText : Reader Unit := do
  match ← peek with
  | .endMarker => return ()
  | _ => fail

def module? (text : String) : Except Fault (List Stmt) :=
  readText true text fun s => do
    let ss ← s.statements (blockLimit + 2)
    endOfText
    return ss

def expression? (text : String) : Except Fault Expr :=
  readText false text fun s => do
    let e ← s.expressions
    let _ ← whileM (do
      match ← peek with
      | .newline => return true
      | _ => return false) advance s.limit
    endOfText
    return e

end PuzzlePrograms.Source
