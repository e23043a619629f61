import PuzzlePrograms.Source.Term

/-!
# Going through terms

* `Expr.mapDeep` changes a term from the inside out, `Stmt.mapDeep` does so in every expression of a
  statement;
* `Stmt.breadthFirst` lists the expressions of a statement level by level;
* `Stmt.flatStmts` lists a statement and all statements inside it.
-/

namespace PuzzlePrograms.Source

/-! ## 1. Changing terms -/

mutual

def Expr.mapDeep (f : Expr → Expr) : Expr → Expr
  | .absent => f .absent
  | .const c => f (.const c)
  | .name x => f (.name x)
  | .boolOp o vs => f (.boolOp o (mapDeepAll f vs))
  | .named t v => f (.named (t.mapDeep f) (v.mapDeep f))
  | .binOp l o r => f (.binOp (l.mapDeep f) o (r.mapDeep f))
  | .unaryOp o e => f (.unaryOp o (e.mapDeep f))
  | .lambda ps b => f (.lambda (ps.mapDeep f) (b.mapDeep f))
  | .ifExp c t e => f (.ifExp (c.mapDeep f) (t.mapDeep f) (e.mapDeep f))
  | .dict ks vs => f (.dict (mapDeepAll f ks) (mapDeepAll f vs))
  | .set es => f (.set (mapDeepAll f es))
  | .list es => f (.list (mapDeepAll f es))
  | .tuple es => f (.tuple (mapDeepAll f es))
  | .comp k e cs => f (.comp k (e.mapDeep f) (mapDeepAll f cs))
  | .dictComp k v cs => f (.dictComp (k.mapDeep f) (v.mapDeep f) (mapDeepAll f cs))
  | .await e => f (.await (e.mapDeep f))
  | .yield e => f (.yield (e.mapDeep f))
  | .yieldFrom e => f (.yieldFrom (e.mapDeep f))
  | .compare l os rs => f (.compare (l.mapDeep f) os (mapDeepAll f rs))
  | .call g as ks => f (.call (g.mapDeep f) (mapDeepAll f as) (mapDeepAll f ks))
  | .formatted v c s => f (.formatted (v.mapDeep f) c (s.mapDeep f))
  | .joined ps => f (.joined (mapDeepAll f ps))
  | .attr e x => f (.attr (e.mapDeep f) x)
  | .subscript e i => f (.subscript (e.mapDeep f) (i.mapDeep f))
  | .starred e => f (.starred (e.mapDeep f))
  | .slice l u s => f (.slice (l.mapDeep f) (u.mapDeep f) (s.mapDeep f))
  | .keyword x v => f (.keyword x (v.mapDeep f))
  | .clause a t s cs => f (.clause a (t.mapDeep f) (s.mapDeep f) (mapDeepAll f cs))
  | .param x a => f (.param x (a.mapDeep f))
  | .params po as r ko kd kr ds =>
    f (.params (mapDeepAll f po) (mapDeepAll f as) (r.mapDeep f) (mapDeepAll f ko)
      (mapDeepAll f kd) (kr.mapDeep f) (mapDeepAll f ds))
  | .shared k => f (.shared k)

def mapDeepAll (f : Expr → Expr) : List Expr → List Expr
  | [] => []
  | e :: es => e.mapDeep f :: mapDeepAll f es

end

mutual

def Pattern.mapDeep (f : Expr → Expr) : Pattern → Pattern
  | .value e => .value (e.mapDeep f)
  | .constant c => .constant c
  | .sequence ps => .sequence (mapDeepPatterns f ps)
  | .star x => .star x
  | .mapping ks ps r => .mapping (mapDeepAll f ks) (mapDeepPatterns f ps) r
  | .cls c ps ns qs => .cls (c.mapDeep f) (mapDeepPatterns f ps) ns (mapDeepPatterns f qs)
  | .bind none x => .bind none x
  | .bind (some p) x => .bind (some (p.mapDeep f)) x
  | .or ps => .or (mapDeepPatterns f ps)

def mapDeepPatterns (f : Expr → Expr) : List Pattern → List Pattern
  | [] => []
  | p :: ps => p.mapDeep f :: mapDeepPatterns f ps

end

mutual

def Stmt.mapDeep (f : Expr → Expr) : Stmt → Stmt
  | .functionDef a x ps body ds r =>
    .functionDef a x (ps.mapDeep f) (mapDeepStmts f body) (mapDeepAll f ds) (r.mapDeep f)
  | .classDef x bs ks body ds =>
    .classDef x (mapDeepAll f bs) (mapDeepAll f ks) (mapDeepStmts f body) (mapDeepAll f ds)
  | .return e => .return (e.mapDeep f)
  | .delete es => .delete (mapDeepAll f es)
  | .assign ts v => .assign (mapDeepAll f ts) (v.mapDeep f)
  | .augAssign t o v => .augAssign (t.mapDeep f) o (v.mapDeep f)
  | .annAssign t a v s => .annAssign (t.mapDeep f) (a.mapDeep f) (v.mapDeep f) s
  | .for a t e body orelse =>
    .for a (t.mapDeep f) (e.mapDeep f) (mapDeepStmts f body) (mapDeepStmts f orelse)
  | .while c body orelse => .while (c.mapDeep f) (mapDeepStmts f body) (mapDeepStmts f orelse)
  | .if c body orelse => .if (c.mapDeep f) (mapDeepStmts f body) (mapDeepStmts f orelse)
  | .with a items body =>
    .with a (items.map fun (e, v) => (e.mapDeep f, v.mapDeep f)) (mapDeepStmts f body)
  | .match e cs => .match (e.mapDeep f) (mapDeepStmts f cs)
  | .case p g body => .case (p.mapDeep f) (g.mapDeep f) (mapDeepStmts f body)
  | .raise e c => .raise (e.mapDeep f) (c.mapDeep f)
  | .try st body hs orelse final =>
    .try st (mapDeepStmts f body) (mapDeepStmts f hs) (mapDeepStmts f orelse) (mapDeepStmts f final)
  | .handler e x body => .handler (e.mapDeep f) x (mapDeepStmts f body)
  | .assert c m => .assert (c.mapDeep f) (m.mapDeep f)
  | .expr e => .expr (e.mapDeep f)
  | s => s

def mapDeepStmts (f : Expr → Expr) : List Stmt → List Stmt
  | [] => []
  | s :: ss => s.mapDeep f :: mapDeepStmts f ss

end

/-! ## 2. Listing terms -/

mutual

def Expr.withDepth (d : Nat) : Expr → List (Nat × Expr)
  | .absent => []
  | .boolOp o vs => (d, .boolOp o vs) :: allWithDepth (d + 1) vs
  | .named t v => (d, .named t v) :: t.withDepth (d + 1) ++ v.withDepth (d + 1)
  | .binOp l o r => (d, .binOp l o r) :: l.withDepth (d + 1) ++ r.withDepth (d + 1)
  | .unaryOp o e => (d, .unaryOp o e) :: e.withDepth (d + 1)
  | .lambda ps b => (d, .lambda ps b) :: ps.withDepth (d + 1) ++ b.withDepth (d + 1)
  | .ifExp c t e =>
    (d, .ifExp c t e) :: c.withDepth (d + 1) ++ t.withDepth (d + 1) ++ e.withDepth (d + 1)
  | .dict ks vs => (d, .dict ks vs) :: allWithDepth (d + 1) ks ++ allWithDepth (d + 1) vs
  | .set es => (d, .set es) :: allWithDepth (d + 1) es
  | .list es => (d, .list es) :: allWithDepth (d + 1) es
  | .tuple es => (d, .tuple es) :: allWithDepth (d + 1) es
  | .comp k e cs => (d, .comp k e cs) :: e.withDepth (d + 1) ++ allWithDepth (d + 1) cs
  | .dictComp k v cs =>
    (d, .dictComp k v cs) :: k.withDepth (d + 1) ++ v.withDepth (d + 1) ++ allWithDepth (d + 1) cs
  | .await e => (d, .await e) :: e.withDepth (d + 1)
  | .yield e => (d, .yield e) :: e.withDepth (d + 1)
  | .yieldFrom e => (d, .yieldFrom e) :: e.withDepth (d + 1)
  | .compare l os rs => (d, .compare l os rs) :: l.withDepth (d + 1) ++ allWithDepth (d + 1) rs
  | .call g as ks =>
    (d, .call g as ks) :: g.withDepth (d + 1) ++ allWithDepth (d + 1) as ++ allWithDepth (d + 1) ks
  | .formatted v c s => (d, .formatted v c s) :: v.withDepth (d + 1) ++ s.withDepth (d + 1)
  | .joined ps => (d, .joined ps) :: allWithDepth (d + 1) ps
  | .attr e x => (d, .attr e x) :: e.withDepth (d + 1)
  | .subscript e i => (d, .subscript e i) :: e.withDepth (d + 1) ++ i.withDepth (d + 1)
  | .starred e => (d, .starred e) :: e.withDepth (d + 1)
  | .slice l u s =>
    (d, .slice l u s) :: l.withDepth (d + 1) ++ u.withDepth (d + 1) ++ s.withDepth (d + 1)
  | .keyword x v => (d, .keyword x v) :: v.withDepth (d + 1)
  | .clause a t s cs =>
    (d, .clause a t s cs) :: t.withDepth (d + 1) ++ s.withDepth (d + 1) ++ allWithDepth (d + 1) cs
  | .param x a => (d, .param x a) :: a.withDepth (d + 1)
  | .params po as r ko kd kr ds =>
    (d, .params po as r ko kd kr ds) :: allWithDepth (d + 1) po ++ allWithDepth (d + 1) as
      ++ r.withDepth (d + 1) ++ allWithDepth (d + 1) ko ++ allWithDepth (d + 1) kd
      ++ kr.withDepth (d + 1) ++ allWithDepth (d + 1) ds
  | e => [(d, e)]

def allWithDepth (d : Nat) : List Expr → List (Nat × Expr)
  | [] => []
  | e :: es => e.withDepth d ++ allWithDepth d es

end

mutual

def Pattern.withDepth (d : Nat) : Pattern → List (Nat × Expr)
  | .value e => e.withDepth (d + 1)
  | .constant _ | .star _ | .bind none _ => []
  | .sequence ps => patternsWithDepth (d + 1) ps
  | .mapping ks ps _ => allWithDepth (d + 1) ks ++ patternsWithDepth (d + 1) ps
  | .cls c ps _ qs => c.withDepth (d + 1) ++ patternsWithDepth (d + 1) ps
      ++ patternsWithDepth (d + 1) qs
  | .bind (some p) _ => p.withDepth (d + 1)
  | .or ps => patternsWithDepth (d + 1) ps

def patternsWithDepth (d : Nat) : List Pattern → List (Nat × Expr)
  | [] => []
  | p :: ps => p.withDepth d ++ patternsWithDepth d ps

end

mutual

def Stmt.withDepth (d : Nat) : Stmt → List (Nat × Expr)
  | .functionDef _ _ ps body ds r =>
    ps.withDepth (d + 1) ++ stmtsWithDepth (d + 1) body ++ allWithDepth (d + 1) ds ++ r.withDepth (d + 1)
  | .classDef _ bs ks body ds =>
    allWithDepth (d + 1) bs ++ allWithDepth (d + 1) ks ++ stmtsWithDepth (d + 1) body ++ allWithDepth (d + 1) ds
  | .return e | .expr e => e.withDepth (d + 1)
  | .delete es => allWithDepth (d + 1) es
  | .assign ts v => allWithDepth (d + 1) ts ++ v.withDepth (d + 1)
  | .augAssign t _ v => t.withDepth (d + 1) ++ v.withDepth (d + 1)
  | .annAssign t a v _ => t.withDepth (d + 1) ++ a.withDepth (d + 1) ++ v.withDepth (d + 1)
  | .for _ t e body orelse =>
    t.withDepth (d + 1) ++ e.withDepth (d + 1) ++ stmtsWithDepth (d + 1) body ++ stmtsWithDepth (d + 1) orelse
  | .while c body orelse | .if c body orelse =>
    c.withDepth (d + 1) ++ stmtsWithDepth (d + 1) body ++ stmtsWithDepth (d + 1) orelse
  | .with _ items body =>
    (items.flatMap fun (e, v) => e.withDepth (d + 2) ++ v.withDepth (d + 2)) ++ stmtsWithDepth (d + 1) body
  | .match e cs => e.withDepth (d + 1) ++ stmtsWithDepth (d + 1) cs
  | .case p g body => p.withDepth (d + 1) ++ g.withDepth (d + 1) ++ stmtsWithDepth (d + 1) body
  | .raise e c => e.withDepth (d + 1) ++ c.withDepth (d + 1)
  | .try _ body hs orelse final =>
    stmtsWithDepth (d + 1) body ++ stmtsWithDepth (d + 1) hs ++ stmtsWithDepth (d + 1) orelse
      ++ stmtsWithDepth (d + 1) final
  | .handler e _ body => e.withDepth (d + 1) ++ stmtsWithDepth (d + 1) body
  | .assert c m => c.withDepth (d + 1) ++ m.withDepth (d + 1)
  | _ => []

def stmtsWithDepth (d : Nat) : List Stmt → List (Nat × Expr)
  | [] => []
  | s :: ss => s.withDepth d ++ stmtsWithDepth d ss

end

def Stmt.breadthFirst (s : Stmt) : List Expr := ((s.withDepth 0).mergeSort fun a b => a.1 ≤ b.1).map (·.2)

mutual

def Stmt.flatStmts : Stmt → List Stmt
  | .functionDef a x ps body ds r => .functionDef a x ps body ds r :: allStmts body
  | .classDef x bs ks body ds => .classDef x bs ks body ds :: allStmts body
  | .for a t e body orelse => .for a t e body orelse :: allStmts body ++ allStmts orelse
  | .while c body orelse => .while c body orelse :: allStmts body ++ allStmts orelse
  | .if c body orelse => .if c body orelse :: allStmts body ++ allStmts orelse
  | .with a items body => .with a items body :: allStmts body
  | .match e cs => .match e cs :: allStmts cs
  | .case p g body => .case p g body :: allStmts body
  | .try st body hs orelse final =>
    .try st body hs orelse final :: allStmts body ++ allStmts hs ++ allStmts orelse ++ allStmts final
  | .handler e x body => .handler e x body :: allStmts body
  | s => [s]

def allStmts : List Stmt → List Stmt
  | [] => []
  | s :: ss => s.flatStmts ++ allStmts ss

end

end PuzzlePrograms.Source
