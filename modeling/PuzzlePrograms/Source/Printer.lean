import PuzzlePrograms.Number.Shortest
import PuzzlePrograms.Source.Term
import PuzzlePrograms.Text.Quoted

/-!
# Writing terms as source text

The text of expressions and statements, with brackets only where the levels of operators ask for them.
`Level` orders the levels; an expression is put in brackets if the place where it stands asks for a
higher level than its own.

Some terms have no text: an absent part where a part must stand, or a formatted string with a part that
cannot be written inside one. `Unwritable` tells which.
-/

namespace PuzzlePrograms.Source

/-! ## 1. Levels -/

abbrev Level := Nat

namespace Level

def named : Level := 1
def tuple : Level := 2
def yield : Level := 3
def test : Level := 4
def or : Level := 5
def and : Level := 6
def not : Level := 7
def compare : Level := 8
def bitOr : Level := 9
def bitXor : Level := 10
def bitAnd : Level := 11
def shift : Level := 12
def arith : Level := 13
def term : Level := 14
def factor : Level := 15
def power : Level := 16
def await : Level := 17
def atom : Level := 18

def next (l : Level) : Level := min (l + 1) atom

end Level

open Level (atom test)

def BinOp.text : BinOp → String
  | .add => "+" | .sub => "-" | .mul => "*" | .matMul => "@" | .div => "/" | .mod => "%"
  | .pow => "**" | .lshift => "<<" | .rshift => ">>" | .bitOr => "|" | .bitXor => "^"
  | .bitAnd => "&" | .floorDiv => "//"

def BinOp.level : BinOp → Level
  | .add | .sub => Level.arith
  | .mul | .matMul | .div | .mod | .floorDiv => Level.term
  | .pow => Level.power
  | .lshift | .rshift => Level.shift
  | .bitOr => Level.bitOr
  | .bitXor => Level.bitXor
  | .bitAnd => Level.bitAnd

def UnaryOp.text : UnaryOp → String
  | .invert => "~"
  | .not => "not "
  | .plus => "+"
  | .minus => "-"

def UnaryOp.level : UnaryOp → Level
  | .not => Level.not
  | _ => Level.factor

def CmpOp.text : CmpOp → String
  | .eq => "==" | .ne => "!=" | .lt => "<" | .le => "<=" | .gt => ">" | .ge => ">="
  | .is => "is" | .isNot => "is not" | .mem => "in" | .notMem => "not in"

def BoolOp.text : BoolOp → String
  | .and => "and"
  | .or => "or"

def BoolOp.level : BoolOp → Level
  | .and => Level.and
  | .or => Level.or

/-! ## 2. Constants -/

def Constant.text : Constant → String
  | .none => "None"
  | .bool b => if b then "True" else "False"
  | .int i => toString i
  | .float x => Decimal.Layout.source.text x
  | .imaginary x => Decimal.Layout.imaginary.text x ++ "j"
  | .str s _ => Text.quoted s
  | .bytes bs => Text.quotedBytes bs
  | .ellipsis => "Ellipsis"

def infinityText : String := "1e309"

def finiteText (t : String) : String := t.replace "inf" infinityText

/-! ## 3. Strings with few escapes -/

def allQuotes : List String := ["'", "\"", "\"\"\"", "'''"]

def longQuotes : List String := ["\"\"\"", "'''"]

def holds (text part : List Char) : Bool :=
  match text with
  | [] => part.isEmpty
  | c :: cs => part.isPrefixOf (c :: cs) || holds cs part

/-- A string with as few escapes as possible, and the quotes that can go around it. Line breaks and
    tabs are escaped only if `breaks` is set. -/
def lightlyQuoted (s : String) (quotes : List String) (breaks : Bool) : String × List String :=
  let one (c : Char) : String :=
    if !breaks && (c == '\n' || c == '\t') then c.toString
    else if c == '\\' || !Text.isPrintable c then Text.escape c
    else c.toString
  let escaped := String.join (s.toList.map one)
  let cs := escaped.toList
  let possible := if cs.contains '\n' then quotes.filter longQuotes.contains else quotes
  let possible := possible.filter fun q => !holds cs q.toList
  if possible.isEmpty then
    let r := Text.quoted s
    let first := r.toList.headD '\''
    let quote := (quotes.find? fun q => q.toList.contains first).getD first.toString
    (String.ofList ((r.toList.drop 1).dropLast), [quote])
  else
    match cs.getLast? with
    | none => (escaped, possible)
    | some last =>
      let startsWithLast (q : String) : Bool := q.toList.head? == some last
      let sorted := possible.filter (!startsWithLast ·) ++ possible.filter startsWithLast
      match sorted with
      | q :: _ =>
        if startsWithLast q then (String.ofList (cs.dropLast ++ ['\\', last]), sorted)
        else (escaped, sorted)
      | [] => (escaped, sorted)

def inLightQuotes (s : String) (quotes : List String) : String :=
  let (t, qs) := lightlyQuoted s quotes false
  let q := qs.headD "'"
  q ++ t ++ q

/-! ## 4. Expressions -/

inductive Unwritable where
  | missing
  | format
  deriving DecidableEq, Repr

abbrev Written := Except Unwritable

def bracketedIf (b : Bool) (t : String) : String := if b then "(" ++ t ++ ")" else t

def tupleItems : List String → String
  | [t] => t ++ ","
  | ts => String.intercalate ", " ts

/-- The texts of the parts of a formatted string, in one string. Each part is a text with a mark that
    tells whether it is literal. -/
def joinParts (parts : List (String × Bool)) : String :=
  let step (acc : Option (List String × List String)) (p : String × Bool) : Option (List String × List String) :=
    match acc with
    | none => none
    | some (ts, quotes) =>
      let (t, qs) := lightlyQuoted p.1 quotes p.2
      if qs.any quotes.contains then some (ts ++ [t], qs) else none
  match parts.foldl step (some ([], allQuotes)) with
  | some (ts, quotes) =>
    let q := quotes.headD "'"
    q ++ String.join ts ++ q
  | none =>
    -- no quotes fit all parts: escape everything for the long single quotes
    let ts := parts.map fun (t, _) =>
      String.ofList (((Text.quoted ("\"" ++ t)).toList.drop 2).dropLast)
    "'''" ++ String.join ts ++ "'''"

structure Doc where
  /-- The text at a place that asks for a level. With `plain`, strings are written with few escapes, as
      inside a formatted string. -/
  text : (plain : Bool) → Level → Written String
  /-- The texts inside a formatted string, each with a mark that tells whether it is literal. -/
  inner : Written (List (String × Bool)) := .error .format

namespace Doc

def all (plain : Bool) (ds : List Doc) : Written (List String) := ds.mapM fun d => d.text plain test

def allAt (plain : Bool) (level : Level) (ds : List Doc) : Written (List String) := ds.mapM fun d => d.text plain level

/-- The texts of the operands of `and` or `or`; each is asked for a tighter level than the one
    before. -/
def rising (plain : Bool) : Level → List Doc → Written (List String)
  | _, [] => .ok []
  | level, d :: ds => do
    let a ← d.text plain level
    return a :: (← rising plain (Level.next level) ds)

def optional (plain : Bool) (mark : String) (e : Expr) (d : Doc) : Written String := do
  if e.isAbsent then return ""
  return mark ++ (← d.text plain test)

def entries (plain : Bool) (ks : List Expr) (kds vds : List Doc) : Written (List String) :=
  (ks.zip (kds.zip vds)).mapM fun (k, kd, vd) => do
    if k.isAbsent then return "**" ++ (← vd.text plain Level.bitOr)
    let a ← kd.text plain test
    let b ← vd.text plain test
    return a ++ ": " ++ b

def leveled (own : Level) (body : (plain : Bool) → Written String) : Doc where
  text plain level := do return bracketedIf (level > own) (← body plain)

def solid (body : (plain : Bool) → Written String) : Doc where
  text plain _ := body plain

def embedded (value : Doc) (conversion : Option Char) (spec : Expr) (specDoc : Doc) : Written String := do
  let t ← value.text true (Level.next test)
  if t.toList.contains '\\' then .error .format
  let s ← (do
    if spec.isAbsent then return ""
    return ":" ++ String.join ((← specDoc.inner).map (·.1)))
  let t := if t.toList.head? == some '\x7b' then " " ++ t else t
  let c := match conversion with
    | some c => "!" ++ c.toString
    | none => ""
  return "\x7b" ++ t ++ c ++ s ++ "\x7d"

def parameters (plain : Bool) (pos args : List Doc) (rest : Expr × Doc) (kws : List Doc)
    (kwDefaults : List (Expr × Doc)) (kwRest : Expr × Doc) (defaults : List Doc) :
    Written String := do
  let ps ← all plain (pos ++ args)
  let ds ← all plain defaults
  let padded := List.replicate (ps.length - ds.length) "" ++ ds.map ("=" ++ ·)
  let shown := (ps.zip padded).map fun (p, d) => p ++ d
  let shown := match pos.length with
    | 0 => shown
    | n => shown.take (n - 1) ++ ((shown.drop (n - 1)).take 1).map (· ++ ", /") ++ shown.drop n
  let r ← optional plain "*" rest.1 rest.2
  let ks ← all plain kws
  let kds ← kwDefaults.mapM fun (e, d) => optional plain "=" e d
  let kr ← optional plain "**" kwRest.1 kwRest.2
  let star := if !r.isEmpty then [r] else if ks.isEmpty then [] else ["*"]
  let named := (ks.zip kds).map fun (p, d) => p ++ d
  return String.intercalate ", " (shown ++ star ++ named ++ (if kr.isEmpty then [] else [kr]))

end Doc

def literalText (s : String) : String := (s.replace "\x7b" "\x7b\x7b").replace "\x7d" "\x7d\x7d"

def Constant.doc : Constant → Doc
  | .ellipsis => Doc.solid fun _ => .ok "..."
  | .float x => Doc.solid fun _ => .ok (finiteText (Decimal.Layout.source.text x))
  | .imaginary x => Doc.solid fun _ => .ok (finiteText (Decimal.Layout.imaginary.text x) ++ "j")
  | .str s marked =>
    { text := fun plain _ =>
        let t := if plain then inLightQuotes s allQuotes else Text.quoted s
        .ok ((if marked then "u" else "") ++ t)
      inner := .ok [(literalText s, true)] }
  | c => Doc.solid fun _ => .ok c.text

mutual

def Expr.doc : Expr → Doc
  | .absent => Doc.solid fun _ => .error .missing
  | .shared _ => Doc.solid fun _ => .error .missing
  | .const c => c.doc
  | .name x => Doc.solid fun _ => .ok x
  | .boolOp o vs => Doc.leveled o.level fun plain => do
    let ts ← Doc.rising plain (Level.next o.level) (docs vs)
    return String.intercalate (" " ++ o.text ++ " ") ts
  | .named t v => Doc.leveled Level.named fun plain => do
    let a ← t.doc.text plain atom
    let b ← v.doc.text plain atom
    return a ++ " := " ++ b
  | .binOp l o r => Doc.leveled o.level fun plain => do
    let a ← l.doc.text plain (if o == .pow then Level.next o.level else o.level)
    let b ← r.doc.text plain (if o == .pow then o.level else Level.next o.level)
    return a ++ " " ++ o.text ++ " " ++ b
  | .unaryOp o e => Doc.leveled o.level fun plain => do
    return o.text ++ (← e.doc.text plain o.level)
  | .lambda ps b => Doc.leveled test fun plain => do
    let p ← ps.doc.text plain test
    let t ← b.doc.text plain test
    return "lambda" ++ (if p.isEmpty then "" else " " ++ p) ++ ": " ++ t
  | .ifExp c t e => Doc.leveled test fun plain => do
    let a ← t.doc.text plain (Level.next test)
    let b ← c.doc.text plain (Level.next test)
    let d ← e.doc.text plain test
    return a ++ " if " ++ b ++ " else " ++ d
  | .dict ks vs => Doc.solid fun plain => do
    let es ← Doc.entries plain ks (docs ks) (docs vs)
    return "\x7b" ++ String.intercalate ", " es ++ "\x7d"
  | .set es => Doc.solid fun plain => do
    if es.isEmpty then return "\x7b*()\x7d"
    let ts ← Doc.all plain (docs es)
    return "\x7b" ++ String.intercalate ", " ts ++ "\x7d"
  | .list es => Doc.solid fun plain => do
    let ts ← Doc.all plain (docs es)
    return "[" ++ String.intercalate ", " ts ++ "]"
  | .tuple es =>
    { text := fun plain level => do
        let ts ← Doc.all plain (docs es)
        return bracketedIf (es.isEmpty || level > Level.tuple) (tupleItems ts) }
  | .comp kind e cs => Doc.solid fun plain => do
    let a ← e.doc.text plain test
    let ts ← Doc.all plain (docs cs)
    let body := a ++ String.join ts
    match kind with
    | .list => return "[" ++ body ++ "]"
    | .set => return "\x7b" ++ body ++ "\x7d"
    | .generator => return "(" ++ body ++ ")"
  | .dictComp k v cs => Doc.solid fun plain => do
    let a ← k.doc.text plain test
    let b ← v.doc.text plain test
    let ts ← Doc.all plain (docs cs)
    return "\x7b" ++ a ++ ": " ++ b ++ String.join ts ++ "\x7d"
  | .await e => Doc.leveled Level.await fun plain => do
    return "await " ++ (← e.doc.text plain atom)
  | .yield e => Doc.leveled Level.yield fun plain => do
    if e.isAbsent then return "yield"
    return "yield " ++ (← e.doc.text plain atom)
  | .yieldFrom e => Doc.leveled Level.yield fun plain => do
    return "yield from " ++ (← e.doc.text plain atom)
  | .compare l ops rs => Doc.leveled Level.compare fun plain => do
    let a ← l.doc.text plain (Level.next Level.compare)
    let ts ← Doc.allAt plain (Level.next Level.compare) (docs rs)
    return a ++ String.join ((ops.zip ts).map fun (o, t) => " " ++ o.text ++ " " ++ t)
  | .call f as ks => Doc.solid fun plain => do
    let g ← f.doc.text plain atom
    let ts ← Doc.all plain (docs as)
    let us ← Doc.all plain (docs ks)
    return g ++ "(" ++ String.intercalate ", " (ts ++ us) ++ ")"
  | .formatted v c s =>
    let t := Doc.embedded v.doc c s s.doc
    { text := fun _ _ => t
      inner := do return [(← t, false)] }
  | .joined ps =>
    let parts : Written (List (String × Bool)) := do
      return ((← (docs ps).mapM (·.inner)).flatten)
    { text := fun plain _ => do
        let ts ← parts
        if plain then return "f" ++ inLightQuotes (String.join (ts.map (·.1))) allQuotes
        return "f" ++ joinParts ts
      inner := parts }
  | .attr e x => Doc.solid fun plain => do
    let a ← e.doc.text plain atom
    match e with
    | .const (.int _) | .const (.bool _) => return a ++ " ." ++ x
    | _ => return a ++ "." ++ x
  | .subscript e i => Doc.solid fun plain => do
    let a ← e.doc.text plain atom
    -- a tuple needs no brackets here, unless it is empty
    let b ← i.doc.text plain (match i with | .tuple _ => Level.tuple | _ => test)
    return a ++ "[" ++ b ++ "]"
  | .starred e => Doc.solid fun plain => do
    return "*" ++ (← e.doc.text plain Level.bitOr)
  | .slice l u s => Doc.solid fun plain => do
    let a ← Doc.optional plain "" l l.doc
    let b ← Doc.optional plain "" u u.doc
    let c ← Doc.optional plain ":" s s.doc
    return a ++ ":" ++ b ++ c
  | .keyword x v => Doc.solid fun plain => do
    let a ← v.doc.text plain test
    match x with
    | some x => return x ++ "=" ++ a
    | none => return "**" ++ a
  | .clause isAsync t e cs => Doc.solid fun plain => do
    let a ← t.doc.text plain Level.tuple
    let b ← e.doc.text plain (Level.next test)
    let ts ← Doc.allAt plain (Level.next test) (docs cs)
    return (if isAsync then " async for " else " for ") ++ a ++ " in " ++ b
      ++ String.join (ts.map (" if " ++ ·))
  | .param x a => Doc.solid fun plain => do
    return x ++ (← Doc.optional plain ": " a a.doc)
  | .params po as r ko kd kr ds => Doc.solid fun plain =>
    Doc.parameters plain (docs po) (docs as) (r, r.doc) (docs ko) (kd.zip (docs kd)) (kr, kr.doc) (docs ds)

def docs : List Expr → List Doc
  | [] => []
  | e :: es => e.doc :: docs es

end

theorem all_params {α : Type} (f : α → String) (xs : List α) :
    Doc.all false (docs (xs.map fun x => .param (f x) .absent)) = .ok (xs.map f) := by
  induction xs with
  | nil => rfl
  | cons x xs ih =>
    unfold Doc.all at ih ⊢
    simp [docs, ih, Expr.doc, Doc.solid, Doc.optional, Expr.isAbsent, bind, Except.bind, pure, Except.pure]

def Expr.text (e : Expr) : Written String := e.doc.text false test

end PuzzlePrograms.Source
