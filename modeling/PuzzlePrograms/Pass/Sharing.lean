import PuzzlePrograms.Source.Term

/-!
# Terms that share parts

A chain of comparisons has one middle operand that stands in two places. A pass that changes a term in
place then meets it twice, and what the first visit has done is seen by the second. Such parts are kept in
a table, and `Expr.shared k` stands for the part with number `k` wherever it occurs:

* a `node` is a term in several places. Visiting it changes the term for all of them, but a replacement
  goes only to the place that was visited;
* a `slot` is a place of a list that belongs to several terms. Visiting it replaces what stands there for
  all of them.

A term without shared parts never touches the table.
-/

namespace PuzzlePrograms.Pass

open Source

/-! ## 1. The table -/

inductive Cell where
  | node (content : Expr)
  | slot (content : Expr)
  deriving Inhabited, Repr

abbrev Table := Array Cell

abbrev Share := StateM Table

def newCell (c : Cell) : Share Expr := do
  let t ← get
  set (t.push c)
  return .shared t.size

def isLeaf : Expr → Bool
  | .absent | .const _ | .name _ | .param _ _ | .shared _ => true
  | _ => false

def label (e : Expr) : Share Expr := if isLeaf e then return e else newCell (.node e)

def labelSlot (e : Expr) : Share Expr := do
  match e with
  | .shared k =>
    match (← get)[k]? with
    | some (.slot _) => return e
    | _ => newCell (.slot e)
  | e => newCell (.slot e)

/-! ## 2. One level of a term -/

def mapPartsM [Monad m] (f : Expr → m Expr) : Expr → m Expr
  | .boolOp o vs => return .boolOp o (← vs.mapM f)
  | .named t v => return .named (← f t) (← f v)
  | .binOp l o r => return .binOp (← f l) o (← f r)
  | .unaryOp o e => return .unaryOp o (← f e)
  | .lambda ps b => return .lambda (← f ps) (← f b)
  | .ifExp c t e => return .ifExp (← f c) (← f t) (← f e)
  | .dict ks vs => return .dict (← ks.mapM f) (← vs.mapM f)
  | .set es => return .set (← es.mapM f)
  | .list es => return .list (← es.mapM f)
  | .tuple es => return .tuple (← es.mapM f)
  | .comp k e cs => return .comp k (← f e) (← cs.mapM f)
  | .dictComp k v cs => return .dictComp (← f k) (← f v) (← cs.mapM f)
  | .await e => return .await (← f e)
  | .yield e => return .yield (← f e)
  | .yieldFrom e => return .yieldFrom (← f e)
  | .compare l os rs => return .compare (← f l) os (← rs.mapM f)
  | .call g as ks => return .call (← f g) (← as.mapM f) (← ks.mapM f)
  | .formatted v c s => return .formatted (← f v) c (← f s)
  | .joined ps => return .joined (← ps.mapM f)
  | .attr e x => return .attr (← f e) x
  | .subscript e i => return .subscript (← f e) (← f i)
  | .starred e => return .starred (← f e)
  | .slice l u s => return .slice (← f l) (← f u) (← f s)
  | .keyword x v => return .keyword x (← f v)
  | .clause a t s cs => return .clause a (← f t) (← f s) (← cs.mapM f)
  | .param x a => return .param x (← f a)
  | .params po as r ko kd kr ds =>
    return .params (← po.mapM f) (← as.mapM f) (← f r) (← ko.mapM f) (← kd.mapM f) (← f kr) (← ds.mapM f)
  | e => return e

/-- Give the parts of a shared term numbers, so that they can be moved elsewhere and stay shared. The
    elements of a list, tuple or set keep their places in common. -/
def spread : Expr → Share Expr
  | .list es => return .list (← es.mapM labelSlot)
  | .tuple es => return .tuple (← es.mapM labelSlot)
  | .set es => return .set (← es.mapM labelSlot)
  | e => mapPartsM label e

def view (e : Expr) : Share Expr := do
  match e with
  | .shared k =>
    match (← get)[k]? with
    | some (.node c) =>
      let c ← spread c
      modify (·.setIfInBounds k (.node c))
      return c
    | _ => return e
  | e => return e

def changeAt (e : Expr) (f : Expr → Share Expr) : Share Expr := do
  match e with
  | .shared k =>
    match (← get)[k]? with
    | some (.node c) =>
      let c ← f c
      modify (·.setIfInBounds k (.node c))
      return e
    | _ => return e
  | e => f e

def replaceAt (e : Expr) (f : Expr → Share Expr) : Share Expr := do
  match e with
  | .shared k =>
    match (← get)[k]? with
    | some (.slot c) =>
      let c ← f c
      modify (·.setIfInBounds k (.slot c))
      return e
    | _ => f e
  | e => f e

def take (e : Expr) : Share Expr := do
  match e with
  | .shared k =>
    match (← get)[k]? with
    | some (.slot c) =>
      let c ← label c
      modify (·.setIfInBounds k (.slot c))
      return c
    | _ => return e
  | e => return e

/-! ## 3. The whole term -/

def resolveTo (t : Table) : Nat → Expr → Expr
  | 0, e => e
  | n + 1, .shared k =>
    match t[k]? with
    | some (.node c) | some (.slot c) => resolveTo t n c
    | none => .shared k
  | n + 1, e => Id.run (mapPartsM (fun x => pure (resolveTo t n x)) e)

mutual

def size : Expr → Nat
  | .boolOp _ vs => 1 + sizes vs
  | .named t v => 1 + size t + size v
  | .binOp l _ r => 1 + size l + size r
  | .unaryOp _ e => 1 + size e
  | .lambda ps b => 1 + size ps + size b
  | .ifExp c t e => 1 + size c + size t + size e
  | .dict ks vs => 1 + sizes ks + sizes vs
  | .set es | .list es | .tuple es | .joined es => 1 + sizes es
  | .comp _ e cs => 1 + size e + sizes cs
  | .dictComp k v cs => 1 + size k + size v + sizes cs
  | .await e | .yield e | .yieldFrom e | .starred e | .attr e _ | .keyword _ e | .param _ e =>
    1 + size e
  | .compare l _ rs => 1 + size l + sizes rs
  | .call f as ks => 1 + size f + sizes as + sizes ks
  | .formatted v _ s => 1 + size v + size s
  | .subscript e i => 1 + size e + size i
  | .slice l u s => 1 + size l + size u + size s
  | .clause _ t s cs => 1 + size t + size s + sizes cs
  | .params po as r ko kd kr ds =>
    1 + sizes po + sizes as + size r + sizes ko + sizes kd + size kr + sizes ds
  | .absent | .const _ | .name _ | .shared _ => 1

def sizes : List Expr → Nat
  | [] => 0
  | e :: es => size e + sizes es

end

/-- The depth to which a term can go: along a path no number repeats, so it meets every entry at most
    once. -/
def depthBound (t : Table) (e : Expr) : Nat :=
  t.foldl (fun n c => match c with | .node x | .slot x => n + 1 + size x) (size e + 1)

def resolve (t : Table) (e : Expr) : Expr := resolveTo t (depthBound t e) e

end PuzzlePrograms.Pass
