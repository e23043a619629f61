import PuzzlePrograms.Source.Literal

/-!
# Reading expressions

A reader of expressions by recursive descent over tokens. What stands inside an expression is read by a
`Sub`, the readers of one level less: `sub n` gives the readers that may nest `n` deep, so that the only
recursion is on that number.

A reader that fails tells the cause: a token that is no token, a line at the wrong depth, or anything
else that the grammar has no place for.
-/

namespace PuzzlePrograms.Source

/-! ## 1. Readers -/

structure Failing where
  fault : Fault
  mild : Bool := true

abbrev Reader := StateT (List Token) (Except Failing)

namespace Reader

def peek : Reader Token := do return (← get).headD .endMarker

def peekSecond : Reader Token := do return ((← get).drop 1).headD .endMarker

def advance : Reader Unit := modify fun
  | [t] => [t]
  | ts => ts.drop 1

def fail : Reader α := do
  match ← peek with
  | .fault f _ => throw ⟨f, false⟩
  | .indent | .dedent => throw ⟨.indentation, false⟩
  | _ => throw ⟨.invalid, true⟩

def orElse (p q : Reader α) : Reader α := fun ts =>
  match p ts with
  | .ok r => .ok r
  | .error _ => q ts

def atOp (s : String) : Reader Bool := do
  match ← peek with
  | .op o => return o == s
  | _ => return false

def atWord (s : String) : Reader Bool := do
  match ← peek with
  | .name x => return x == s
  | _ => return false

def acceptOp (s : String) : Reader Bool := do
  if ← atOp s then
    advance
    return true
  else return false

def acceptWord (s : String) : Reader Bool := do
  if ← atWord s then
    advance
    return true
  else return false

def expectOp (s : String) : Reader Unit := do
  if !(← acceptOp s) then fail

def expectWord (s : String) : Reader Unit := do
  if !(← acceptWord s) then fail

def reserved : List String :=
  ["False", "None", "True", "and", "as", "assert", "async", "await", "break", "class", "continue",
   "def", "del", "elif", "else", "except", "finally", "for", "from", "global", "if", "import",
   "in", "is", "lambda", "nonlocal", "not", "or", "pass", "raise", "return", "try", "while", "with",
   "yield"]

def name : Reader String := do
  match ← peek with
  | .name x =>
    if reserved.contains x then fail
    else
      advance
      return x
  | _ => fail

def atNameThen (o : String) : Reader Bool := do
  match ← peek, ← peekSecond with
  | .name x, .op o' => return !reserved.contains x && o' == o
  | _, _ => return false

/-- Items one after another, each but the first after a comma, up to a token at which no item starts.
    Tells whether a comma came last. -/
def commaItems (atEnd : Reader Bool) (item : Reader α) : Nat → Reader (List α × Bool)
  | 0 => fail
  | n + 1 => do
    let x ← item
    if ← acceptOp "," then
      if ← atEnd then return ([x], true)
      let (xs, comma) ← commaItems atEnd item n
      return (x :: xs, comma)
    else return ([x], false)

/-- The items after a first one, each after a comma, up to the bracket `o`. -/
def moreItems (o : String) (item : Reader α) (n : Nat) : Reader (List α) := do
  if ← acceptOp "," then
    if ← atOp o then return []
    let (xs, _) ← commaItems (atOp o) item n
    return xs
  else return []

def whileM (test : Reader Bool) (item : Reader α) : Nat → Reader (List α)
  | 0 => fail
  | n + 1 => do
    if ← test then
      let x ← item
      return x :: (← whileM test item n)
    else return []

end Reader

open Reader

structure Sub where
  limit : Nat
  expression : Reader Expr
  disjunction : Reader Expr
  bitOr : Reader Expr

/-! ## 2. Expressions that may be starred, named or yielded -/

namespace Sub

variable (s : Sub)

def namedExpression : Reader Expr := do
  if ← atNameThen ":=" then
    let x ← name
    advance
    return .named (.name x) (← s.expression)
  else s.expression

def starNamed : Reader Expr := do
  if ← acceptOp "*" then return .starred (← s.bitOr) else s.namedExpression

def starExpression : Reader Expr := do
  if ← acceptOp "*" then return .starred (← s.bitOr) else s.expression

def atListEnd : Reader Bool := do
  match ← peek with
  | .newline | .endMarker | .indent | .dedent => return true
  | .op o => return [")", "]", "\x7d", "=", ":", ";", "+=", "-=", "*=", "/=", "//=", "%=", "@=", "&=",
      "|=", "^=", ">>=", "<<=", "**="].contains o
  | .name x => return ["in", "for", "async", "if", "else", "as", "from"].contains x
  | _ => return false

/-- Items with commas between them: one without a comma stands for itself, others are a tuple. -/
def listed (item : Reader Expr) : Reader Expr := do
  let (es, comma) ← commaItems atListEnd item s.limit
  match es, comma with
  | [e], false => return e
  | es, _ => return .tuple es

def starExpressions : Reader Expr := s.listed s.starExpression

def expressions : Reader Expr := s.listed s.expression

def yieldExpression : Reader Expr := do
  expectWord "yield"
  if ← acceptWord "from" then return .yieldFrom (← s.expression)
  else if ← atListEnd then return .yield .absent
  else return .yield (← s.starExpressions)

def yieldOrStar : Reader Expr := do
  if ← atWord "yield" then s.yieldExpression else s.starExpressions

end Sub

/-! ## 3. Targets -/

def isStarred : Expr → Bool
  | .starred _ => true
  | _ => false

mutual

def isTarget : Expr → Bool
  | .name _ | .attr _ _ | .subscript _ _ => true
  | .starred e => isTarget e && !isStarred e
  | .tuple es | .list es => areTargets es
  | _ => false

def areTargets : List Expr → Bool
  | [] => true
  | e :: es => isTarget e && areTargets es

end

mutual

def isDeletable : Expr → Bool
  | .name _ | .attr _ _ | .subscript _ _ => true
  | .tuple es | .list es => areDeletable es
  | _ => false

def areDeletable : List Expr → Bool
  | [] => true
  | e :: es => isDeletable e && areDeletable es

end

def isPlace : Expr → Bool
  | .name _ | .attr _ _ | .subscript _ _ => true
  | _ => false

namespace Sub

variable (s : Sub)

def target : Reader Expr := do
  let e ← (do if ← acceptOp "*" then return .starred (← s.bitOr) else s.bitOr)
  if isTarget e then return e else fail

def targets : Reader Expr := s.listed s.target

/-! ## 4. Comprehensions -/

def atClause : Reader Bool := do
  if ← atWord "for" then return true
  match ← peek, ← peekSecond with
  | .name "async", .name "for" => return true
  | _, _ => return false

def clause : Reader Expr := do
  let isAsync ← acceptWord "async"
  expectWord "for"
  let t ← s.targets
  expectWord "in"
  let e ← s.disjunction
  let conds ← whileM (atWord "if") (do
    advance
    s.disjunction) s.limit
  return .clause isAsync t e conds

def clauses : Reader (List Expr) := do whileM atClause s.clause s.limit

/-! ## 5. Calls and subscripts -/

def argument : Reader Expr := do
  if ← acceptOp "*" then return .starred (← s.expression)
  else if ← acceptOp "**" then return .keyword none (← s.expression)
  else if ← atNameThen "=" then
    let x ← name
    advance
    return .keyword (some x) (← s.expression)
  else s.namedExpression

/-- Whether arguments come in an order that a call allows: after a keyword only keywords and starred
    ones, and after a spread table no starred one. -/
def argumentsInOrder : Bool → Bool → List Expr → Bool
  | _, _, [] => true
  | _, _, .keyword none _ :: rest => argumentsInOrder true true rest
  | _, spread, .keyword (some _) _ :: rest => argumentsInOrder true spread rest
  | seen, spread, .starred _ :: rest => !spread && argumentsInOrder seen spread rest
  | seen, spread, _ :: rest => !seen && argumentsInOrder seen spread rest

def isKeyword : Expr → Bool
  | .keyword _ _ => true
  | _ => false

/-- The arguments of a call after its opening bracket: positional ones and keyword ones. A
    comprehension needs no brackets of its own if it is the only argument. -/
def arguments (lone : Bool) : Reader (List Expr × List Expr) := do
  if ← acceptOp ")" then return ([], [])
  let first ← s.argument
  if lone && (← atClause) then
    match first with
    | .starred _ | .keyword _ _ => fail
    | e =>
      let cs ← s.clauses
      expectOp ")"
      return ([.comp .generator e cs], [])
  let rest ← moreItems ")" s.argument s.limit
  expectOp ")"
  let all := first :: rest
  if argumentsInOrder false false all then
    return (all.filter (!isKeyword ·), all.filter isKeyword)
  else fail

def bound : Reader Expr := do
  match ← peek with
  | .op o => if [":", ",", "]"].contains o then return .absent else s.expression
  | _ => s.expression

def sliceItem : Reader Expr := do
  if ← acceptOp "*" then return .starred (← s.bitOr)
  if ← atNameThen ":=" then return ← s.namedExpression
  let lower ← (do if ← atOp ":" then return .absent else s.expression)
  if ← acceptOp ":" then
    let upper ← s.bound
    let step ← (do if ← acceptOp ":" then s.bound else return .absent)
    return .slice lower upper step
  else return lower

def slices : Reader Expr := do
  let (es, comma) ← commaItems (atOp "]") s.sliceItem s.limit
  expectOp "]"
  match es, comma with
  | [.starred e], false => return .tuple [.starred e]
  | [e], false => return e
  | es, _ => return .tuple es

/-! ## 6. Parameters -/

structure ParamList where
  posOnly : List Expr := []
  args : List Expr := []
  defaults : List Expr := []
  rest : Expr := .absent
  starred : Bool := false
  kwOnly : List Expr := []
  kwDefaults : List Expr := []
  kwRest : Expr := .absent

def ParamList.toExpr (p : ParamList) : Expr := .params p.posOnly p.args p.rest p.kwOnly p.kwDefaults p.kwRest p.defaults

def parameter (annotated : Bool) : Reader Expr := do
  let x ← name
  if annotated then
    if ← acceptOp ":" then return .param x (← s.expression)
  return .param x .absent

def paramList (annotated : Bool) (close : String) : Nat → ParamList → Reader ParamList
  | 0, _ => fail
  | n + 1, p => do
    -- more parameters may follow after a comma only
    let next (p : ParamList) : Reader ParamList := do
      if ← acceptOp "," then paramList annotated close n p
      else if ← atOp close then return p
      else fail
    if ← atOp close then
      if p.starred && p.kwOnly.isEmpty && p.rest.isAbsent then fail else return p
    else if ← acceptOp "/" then
      if p.starred || !p.posOnly.isEmpty || p.args.isEmpty then fail
      else next { p with posOnly := p.args, args := [] }
    else if ← acceptOp "**" then
      if p.starred && p.kwOnly.isEmpty && p.rest.isAbsent then fail
      let r ← s.parameter annotated
      let _ ← acceptOp ","
      if ← atOp close then return { p with kwRest := r } else fail
    else if ← acceptOp "*" then
      if p.starred then fail
      if ← atOp "," then
        next { p with starred := true }
      else
        let x ← name
        let r ← (do
          if annotated then
            if ← acceptOp ":" then return .param x (← s.starExpression)
          return .param x .absent)
        next { p with starred := true, rest := r }
    else
      let r ← s.parameter annotated
      let d ← (do if ← acceptOp "=" then s.expression else return .absent)
      if p.starred then
        next { p with kwOnly := p.kwOnly ++ [r], kwDefaults := p.kwDefaults ++ [d] }
      else if d.isAbsent then
        if p.defaults.isEmpty then next { p with args := p.args ++ [r] } else fail
      else next { p with args := p.args ++ [r], defaults := p.defaults ++ [d] }

def parameters (annotated : Bool) (close : String) : Reader Expr := do
  let p ← s.paramList annotated close s.limit {}
  expectOp close
  return p.toExpr

/-! ## 7. Strings -/

def addText (text : List Char) (parts : List Expr) : List Expr :=
  match parts with
  | .const (.str t m) :: rest => .const (.str (t ++ String.ofList text) m) :: rest
  | parts => if text.isEmpty then parts else .const (.str (String.ofList text) false) :: parts

def embedded (text : List Char) : Option Expr :=
  if text.all fun c => c == ' ' || (9 ≤ c.toNat && c.toNat ≤ 13) then none
  else
    match s.starExpressions (lex true ("(" ++ String.ofList text ++ ")")) with
    | .ok (e, _) => some e
    | .error _ => none

/-- The parts of a formatted string, the last first, up to its end or, inside a format, to the bracket
    that closes it. -/
def formattedParts (isRaw : Bool) : Nat → Nat → List Expr → List Char → Option (List Expr × List Char)
  | 0, _, _, _ => none
  | n + 1, level, parts, cs => do
    let (written, rest) ← literalPart? isRaw (0 < level) [] cs
    let parts := addText (← textOf? isRaw written) parts
    match rest with
    | '\x7b' :: rest =>
      if 2 ≤ level then none
      let (text, rest) ← expressionPart? (rest.length + 1) none [] [] rest
      let e ← s.embedded text
      let (shown?, rest) := match rest with
        | '=' :: rest =>
          let blanks := rest.takeWhile fun c => c == ' ' || (9 ≤ c.toNat && c.toNat ≤ 13)
          (some (text ++ '=' :: blanks), rest.drop blanks.length)
        | rest => (none, rest)
      let (conversion?, rest) ← match rest with
        | '!' :: c :: rest =>
          if ['s', 'r', 'a'].contains c then some (some c, rest) else none
        | '!' :: [] => none
        | rest => some (none, rest)
      let (spec, rest) ← match rest with
        | ':' :: rest => do
          let (ps, rest) ← formattedParts isRaw n (level + 1) [] rest
          some (.joined ps.reverse, rest)
        | rest => some (.absent, rest)
      match rest with
      | '\x7d' :: rest =>
        let parts := match shown? with
          | some t => addText t parts
          | none => parts
        let conversion? := if shown?.isSome && spec.isAbsent && conversion?.isNone then some 'r' else conversion?
        formattedParts isRaw n level (.formatted e conversion? spec :: parts) rest
      | _ => none
    | rest => some (parts, rest)

def addLiteral (parts : List Expr) (m : StringMark) (body : List Char) : Option (List Expr) := do
  if m.isFormatted then
    let (ps, rest) ← s.formattedParts m.isRaw (2 * body.length + 2) 0 parts body
    if rest.isEmpty then some ps else none
  else return addText (← textOf? m.isRaw body) parts

def stringsOf (tokens : List (StringMark × List Char)) : Option Expr :=
  match tokens with
  | [] => none
  | (first, _) :: _ =>
    if tokens.all (·.1.isBytes) then do
      let bs ← tokens.mapM fun (m, body) => bytesOf? m.isRaw body
      return .const (.bytes bs.flatten)
    else if tokens.any (·.1.isBytes) then none
    else do
      let parts ← tokens.foldlM (fun ps (m, body) => s.addLiteral ps m body) []
      if tokens.any (·.1.isFormatted) then return .joined parts.reverse
      else
        match parts with
        | .const (.str t _) :: _ => return .const (.str t first.isMarked)
        | _ => return .const (.str "" first.isMarked)

def strings : Reader Expr := do
  let isString : Reader Bool := do
    match ← peek with
    | .string _ _ => return true
    | _ => return false
  let ts ← whileM isString (do
    match ← peek with
    | .string m b =>
      advance
      return (m, b)
    | _ => fail) s.limit
  match s.stringsOf ts with
  | some e => return e
  | none => throw ⟨.invalid, true⟩

/-! ## 8. Atoms -/

def inRound : Reader Expr := do
  if ← acceptOp ")" then return .tuple []
  if ← atWord "yield" then
    let e ← s.yieldExpression
    expectOp ")"
    return e
  let first ← s.starNamed
  if !isStarred first && (← atClause) then
    let cs ← s.clauses
    expectOp ")"
    return .comp .generator first cs
  let comma ← atOp ","
  let rest ← moreItems ")" s.starNamed s.limit
  expectOp ")"
  if comma then return .tuple (first :: rest)
  if isStarred first then fail else return first

def inSquare : Reader Expr := do
  if ← acceptOp "]" then return .list []
  let first ← s.starNamed
  if !isStarred first && (← atClause) then
    let cs ← s.clauses
    expectOp "]"
    return .comp .list first cs
  let rest ← moreItems "]" s.starNamed s.limit
  expectOp "]"
  return .list (first :: rest)

def tableEntry : Reader (Expr × Expr) := do
  if ← acceptOp "**" then return (.absent, ← s.bitOr)
  let k ← s.expression
  expectOp ":"
  return (k, ← s.expression)

def moreEntries (first : Expr × Expr) : Reader Expr := do
  let rest ← moreItems "\x7d" s.tableEntry s.limit
  expectOp "\x7d"
  let all := first :: rest
  return .dict (all.map (·.1)) (all.map (·.2))

def inCurly : Reader Expr := do
  if ← acceptOp "\x7d" then return .dict [] []
  if ← acceptOp "**" then
    let e ← s.bitOr
    return ← s.moreEntries (.absent, e)
  let renamed ← atNameThen ":="
  let first ← s.starNamed
  if !isStarred first && !renamed && (← atOp ":") then
    advance
    let v ← s.expression
    if ← atClause then
      let cs ← s.clauses
      expectOp "\x7d"
      return .dictComp first v cs
    else s.moreEntries (first, v)
  else if !isStarred first && (← atClause) then
    let cs ← s.clauses
    expectOp "\x7d"
    return .comp .set first cs
  else
    let rest ← moreItems "\x7d" s.starNamed s.limit
    expectOp "\x7d"
    return .set (first :: rest)

def atom : Reader Expr := do
  match ← peek with
  | .name "None" =>
    advance
    return .const .none
  | .name "True" =>
    advance
    return .const (.bool true)
  | .name "False" =>
    advance
    return .const (.bool false)
  | .name _ => return .name (← name)
  | .number c =>
    advance
    return .const c
  | .string _ _ => s.strings
  | .op "(" =>
    advance
    s.inRound
  | .op "[" =>
    advance
    s.inSquare
  | .op "\x7b" =>
    advance
    s.inCurly
  | .op "..." =>
    advance
    return .const .ellipsis
  | _ => fail

/-! ## 9. Operators -/

def trailers : Nat → Expr → Reader Expr
  | 0, _ => fail
  | n + 1, e => do
    if ← acceptOp "." then
      let x ← name
      trailers n (.attr e x)
    else if ← acceptOp "(" then
      let (as, ks) ← s.arguments true
      trailers n (.call e as ks)
    else if ← acceptOp "[" then
      trailers n (.subscript e (← s.slices))
    else return e

def primary : Reader Expr := do
  if ← acceptWord "await" then
    let a ← s.atom
    return .await (← s.trailers s.limit a)
  else
    let a ← s.atom
    s.trailers s.limit a

def factor : Nat → Reader Expr
  | 0 => fail
  | n + 1 => do
    if ← acceptOp "+" then return .unaryOp .plus (← factor n)
    else if ← acceptOp "-" then return .unaryOp .minus (← factor n)
    else if ← acceptOp "~" then return .unaryOp .invert (← factor n)
    else
      let e ← s.primary
      if ← acceptOp "**" then return .binOp e .pow (← factor n) else return e

end Sub

def binaryLevels : List (List (String × BinOp)) :=
  [[("*", .mul), ("/", .div), ("//", .floorDiv), ("%", .mod), ("@", .matMul)],
   [("+", .add), ("-", .sub)],
   [("<<", .lshift), (">>", .rshift)], [("&", .bitAnd)], [("^", .bitXor)], [("|", .bitOr)]]

def binaryTail (ops : List (String × BinOp)) (operand : Reader Expr) : Nat → Expr → Reader Expr
  | 0, _ => fail
  | n + 1, e => do
    match ← peek with
    | .op o =>
      match ops.lookup o with
      | some b =>
        advance
        let r ← operand
        binaryTail ops operand n (.binOp e b r)
      | none => return e
    | _ => return e

def binaryOf (limit : Nat) (operand : Reader Expr) (levels : List (List (String × BinOp))) : Reader Expr :=
  levels.foldl (fun below ops => do
    let e ← below
    binaryTail ops below limit e) operand

def comparison? : Reader (Option CmpOp) := do
  match ← peek, ← peekSecond with
  | .op "==", _ => return some .eq
  | .op "!=", _ => return some .ne
  | .op "<", _ => return some .lt
  | .op "<=", _ => return some .le
  | .op ">", _ => return some .gt
  | .op ">=", _ => return some .ge
  | .name "in", _ => return some .mem
  | .name "not", .name "in" => return some .notMem
  | .name "is", .name "not" => return some .isNot
  | .name "is", _ => return some .is
  | _, _ => return none

def CmpOp.tokens : CmpOp → Nat
  | .notMem | .isNot => 2
  | _ => 1

def comparisons (operand : Reader Expr) : Nat → Reader (List (CmpOp × Expr))
  | 0 => fail
  | n + 1 => do
    match ← comparison? with
    | some o =>
      advance
      if o.tokens == 2 then advance
      let e ← operand
      return (o, e) :: (← comparisons operand n)
    | none => return []

def inversion (limit : Nat) (operand : Reader Expr) : Nat → Reader Expr
  | 0 => fail
  | n + 1 => do
    if ← acceptWord "not" then return .unaryOp .not (← inversion limit operand n)
    let e ← operand
    match ← comparisons operand limit with
    | [] => return e
    | cs => return .compare e (cs.map (·.1)) (cs.map (·.2))

def wordJoined (limit : Nat) (word : String) (o : BoolOp) (operand : Reader Expr) : Reader Expr := do
  let e ← operand
  let rest ← whileM (atWord word) (do
    advance
    operand) limit
  if rest.isEmpty then return e else return .boolOp o (e :: rest)

namespace Sub

variable (s : Sub)

def bitOrWith : Reader Expr := binaryOf s.limit (s.factor s.limit) binaryLevels

def disjunctionWith : Reader Expr :=
  wordJoined s.limit "or" .or
    (wordJoined s.limit "and" .and (inversion s.limit s.bitOrWith s.limit))

def expressionWith : Reader Expr := do
  if ← acceptWord "lambda" then
    let ps ← s.parameters false ":"
    return .lambda ps (← s.expression)
  let e ← s.disjunctionWith
  if ← atWord "if" then
    advance
    let c ← s.disjunction
    expectWord "else"
    return .ifExp c e (← s.expression)
  else return e

end Sub

/-- The readers of expressions that nest at most so deep and whose lists are at most so long. -/
def sub (limit : Nat) : Nat → Sub
  | 0 => ⟨limit, fail, fail, fail⟩
  | n + 1 =>
    ⟨limit, fun ts => (sub limit n).expressionWith ts, fun ts => (sub limit n).disjunctionWith ts,
      fun ts => (sub limit n).bitOrWith ts⟩

end PuzzlePrograms.Source
