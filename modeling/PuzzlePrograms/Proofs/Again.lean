import PuzzlePrograms.Proofs.FlatRun

/-!
# Flattening a second time

Flattening leaves two traces: in the module, calls of a class inside its own methods become calls of the own class for
good (`settle`), and the state keeps the number of subscripts that have been written. The first trace is there after the
first time and does not change any more, since renaming twice is renaming once (`settleAll_settleAll`). The second is
never looked at: every computation of flattening is `Counted`, so what it comes to does not depend on the number it
starts with (`flatModule_run`). What a flattener answers is therefore the same from the second time on.
-/

namespace PuzzlePrograms.Flatten

open List Source

variable {e : Expr} {cont : Cont}

/-! ## 1. Renaming twice -/

section Renaming

variable {O P : List String}

def renameCallee (classes : List String) : Expr → Expr
  | .name c => .name (if classes.contains c then ownClass else c)
  | e => e

theorem renameCall_call (f : Expr) (as ks : List Expr) :
    renameCall O (.call f as ks) = .call (renameCallee O f) as ks := by cases f <;> rfl

theorem mapDeep_ne_name (h : ∀ c, e ≠ .name c) (c : String) : e.mapDeep (renameCall O) ≠ .name c := by
  cases e with
  | name x => exact absurd rfl (h x)
  | call f as ks =>
    rw [Expr.mapDeep, renameCall_call]
    nofun
  | _ => nofun

theorem renameCallee_of_ne (h : ∀ c, e ≠ .name c) : renameCallee O e = e := by
  cases e with
  | name x => exact absurd rfl (h x)
  | _ => rfl

theorem renameCallee_twice (ih : (e.mapDeep (renameCall O)).mapDeep (renameCall P) = e.mapDeep (renameCall (O ++ P))) :
    renameCallee P ((renameCallee O (e.mapDeep (renameCall O))).mapDeep (renameCall P)) =
      renameCallee (O ++ P) (e.mapDeep (renameCall (O ++ P))) := by
  by_cases h : ∃ c, e = .name c
  · obtain ⟨c, rfl⟩ := h
    simp only [Expr.mapDeep, renameCall, renameCallee, contains_append]
    by_cases hO : c ∈ O
    all_goals simp [hO]
  · have hne : ∀ c, e ≠ .name c := fun c he => h ⟨c, he⟩
    rw [renameCallee_of_ne (mapDeep_ne_name hne), ih, renameCallee_of_ne (mapDeep_ne_name hne),
      renameCallee_of_ne (mapDeep_ne_name hne)]

mutual

theorem mapDeep_twice (O P : List String) (e : Expr) :
    (e.mapDeep (renameCall O)).mapDeep (renameCall P) = e.mapDeep (renameCall (O ++ P)) := by
  cases e with
  | call f as ks =>
    simp [Expr.mapDeep, renameCall_call, renameCallee_twice (mapDeep_twice O P f), mapDeepAll_twice O P]
  | _ => simp [Expr.mapDeep, renameCall, mapDeep_twice O P, mapDeepAll_twice O P]
termination_by structural e

theorem mapDeepAll_twice (O P : List String) (es : List Expr) :
    mapDeepAll (renameCall P) (mapDeepAll (renameCall O) es) = mapDeepAll (renameCall (O ++ P)) es := by
  cases es <;> simp [mapDeepAll, mapDeep_twice O P, mapDeepAll_twice O P]
termination_by structural es

end

mutual

theorem mapDeep_pattern_twice (O P : List String) (p : Pattern) :
    (p.mapDeep (renameCall O)).mapDeep (renameCall P) = p.mapDeep (renameCall (O ++ P)) := by
  cases p with
  | bind q x =>
    cases q <;> simp [Pattern.mapDeep, mapDeep_pattern_twice O P]
  | _ => simp [Pattern.mapDeep, mapDeep_twice, mapDeepAll_twice, mapDeepPatterns_twice O P]
termination_by structural p

theorem mapDeepPatterns_twice (O P : List String) (ps : List Pattern) :
    mapDeepPatterns (renameCall P) (mapDeepPatterns (renameCall O) ps) = mapDeepPatterns (renameCall (O ++ P)) ps := by
  cases ps <;> simp [mapDeepPatterns, mapDeep_pattern_twice O P, mapDeepPatterns_twice O P]
termination_by structural ps

end

mutual

theorem mapDeep_stmt_twice (O P : List String) (s : Stmt) :
    (s.mapDeep (renameCall O)).mapDeep (renameCall P) = s.mapDeep (renameCall (O ++ P)) := by
  cases s <;> simp only [Stmt.mapDeep, mapDeep_twice, mapDeepAll_twice, mapDeep_pattern_twice, mapDeepStmts_twice O P,
    map_map, Function.comp_def]
termination_by structural s

theorem mapDeepStmts_twice (O P : List String) (ss : List Stmt) :
    mapDeepStmts (renameCall P) (mapDeepStmts (renameCall O) ss) = mapDeepStmts (renameCall (O ++ P)) ss := by
  cases ss <;> simp [mapDeepStmts, mapDeep_stmt_twice O P, mapDeepStmts_twice O P]
termination_by structural ss

end

theorem renameCall_congr (h : ∀ c, O.contains c = P.contains c) : renameCall O = renameCall P := by
  funext e
  unfold renameCall
  split <;> simp only [h]

theorem mapDeep_stmt_comm (s : Stmt) :
    (s.mapDeep (renameCall O)).mapDeep (renameCall P) = (s.mapDeep (renameCall P)).mapDeep (renameCall O) := by
  have h : renameCall (O ++ P) = renameCall (P ++ O) :=
    renameCall_congr fun c => by rw [contains_append, contains_append, Bool.or_comm]
  rw [mapDeep_stmt_twice, mapDeep_stmt_twice, h]

theorem mapDeep_stmt_same (s : Stmt) :
    (s.mapDeep (renameCall O)).mapDeep (renameCall O) = s.mapDeep (renameCall O) := by
  have h : renameCall (O ++ O) = renameCall O := renameCall_congr fun c => by rw [contains_append, Bool.or_self]
  rw [mapDeep_stmt_twice, h]

end Renaming

/-! ## 2. Settling twice -/

mutual

theorem settle_mapDeep (O : List String) (s : Stmt) :
    settle (s.mapDeep (renameCall O)) = (settle s).mapDeep (renameCall O) := by
  cases s with
  | functionDef a x ps body ds r => cases a <;> simp [Stmt.mapDeep, settle, settleAll_mapDeep O]
  | «for» a t e body orelse => cases a <;> simp [Stmt.mapDeep, settle, settleAll_mapDeep O]
  | _ => simp [Stmt.mapDeep, settle, settleAll_mapDeep O, settleMethods_mapDeep O]
termination_by structural s

theorem settleAll_mapDeep (O : List String) (ss : List Stmt) :
    settleAll (mapDeepStmts (renameCall O) ss) = mapDeepStmts (renameCall O) (settleAll ss) := by
  cases ss <;> simp [mapDeepStmts, settleAll, settle_mapDeep O, settleAll_mapDeep O]
termination_by structural ss

theorem settleMethods_mapDeep (O : List String) (owner : String) (ss : List Stmt) :
    settleMethods owner (mapDeepStmts (renameCall O) ss) = mapDeepStmts (renameCall O) (settleMethods owner ss) := by
  cases ss with
  | nil => rfl
  | cons s ss =>
    cases s with
    | functionDef a x ps body ds r =>
      cases a with
      | true => simp [mapDeepStmts, Stmt.mapDeep, settleMethods, settleMethods_mapDeep O]
      | false =>
        have hcomm := mapDeep_stmt_comm (O := O) (P := [owner]) (.functionDef false x ps (settleAll body) ds r)
        rw [Stmt.mapDeep] at hcomm
        simp only [mapDeepStmts, Stmt.mapDeep, settleMethods, settleMethods_mapDeep O, settleAll_mapDeep O]
        exact congrArg (· :: _) hcomm
    | _ => simp [mapDeepStmts, Stmt.mapDeep, settleMethods, settleMethods_mapDeep O]
termination_by structural ss

end

mutual

theorem settle_settle (s : Stmt) : settle (settle s) = settle s := by
  cases s with
  | functionDef a x ps body ds r => cases a <;> simp [settle, settleAll_settleAll]
  | «for» a t e body orelse => cases a <;> simp [settle, settleAll_settleAll]
  | _ => simp [settle, settleAll_settleAll, settleMethods_settleMethods]
termination_by structural s

theorem settleAll_settleAll (ss : List Stmt) : settleAll (settleAll ss) = settleAll ss := by
  cases ss <;> simp [settleAll, settle_settle, settleAll_settleAll]
termination_by structural ss

theorem settleMethods_settleMethods (owner : String) (ss : List Stmt) :
    settleMethods owner (settleMethods owner ss) = settleMethods owner ss := by
  cases ss with
  | nil => rfl
  | cons s ss =>
    cases s with
    | functionDef a x ps body ds r =>
      cases a with
      | true => simp [settleMethods, settleMethods_settleMethods]
      | false =>
        have hsame := mapDeep_stmt_same (O := [owner]) (.functionDef false x ps (settleAll body) ds r)
        simp only [Stmt.mapDeep] at hsame
        simp only [settleMethods, Stmt.mapDeep, settleMethods_settleMethods, settleAll_mapDeep, settleAll_settleAll]
        exact congrArg (· :: _) hsame
    | _ => simp [settleMethods, settleMethods_settleMethods]
termination_by structural ss

end

/-! ## 3. The number of subscripts -/

def State.more (s : State) (k : Nat) : State := { s with subscripts := s.subscripts + k }

/-- An outcome whose state has `k` more subscripts. -/
def outcomeMore (k : Nat) : EStateM.Result Fault State α → EStateM.Result Fault State α
  | .ok a s => .ok a (s.more k)
  | .error e s => .error e (s.more k)

/-- A computation that counts subscripts and never asks for their number. -/
class Counted (x : Flat α) : Prop where
  run (s : State) (k : Nat) : x (s.more k) = outcomeMore k (x s)

namespace Counted

variable {x y : Flat α} {f : α → Flat β}

instance pure (a : α) : Counted (pure a) := ⟨fun _ _ => rfl⟩

instance throw (f : Fault) : Counted (throw f : Flat α) := ⟨fun _ _ => rfl⟩

theorem bind (hx : Counted x) (hf : ∀ a, Counted (f a)) : Counted (x >>= f) where
  run s k := by
    simp only [Bind.bind, EStateM.bind]
    rw [hx.run s k]
    cases x s with
    | ok a s₁ => exact (hf a).run s₁ k
    | error e s₁ => rfl

instance andThen [hx : Counted x] [hf : ∀ a, Counted (f a)] : Counted (x >>= f) := hx.bind hf

theorem modify {g : State → State} (hg : ∀ s k, g (s.more k) = (g s).more k) : Counted (modify g) :=
  ⟨fun s k => congrArg (EStateM.Result.ok PUnit.unit) (hg s k)⟩

theorem get {g : State → Flat α} (hsame : ∀ s k, g (s.more k) = g s) (hg : ∀ s, Counted (g s)) :
  Counted (get >>= g) where
  run s k := (congrFun (hsame s k) (s.more k)).trans ((hg s).run s k)

instance ite {c : Prop} [Decidable c] [hx : Counted x] [hy : Counted y] : Counted (if c then x else y) := by
  split
  · exact hx
  · exact hy

instance liftWritten (x : Written α) : Counted (liftWritten x) := by
  cases x with
  | ok a => exact pure a
  | error u => exact throw _

instance liftSource (x : Except Source.Fault α) : Counted (liftSource x) := by
  cases x with
  | ok a => exact pure a
  | error f => exact throw _

theorem mapM_of {xs : List α} (hf : ∀ a ∈ xs, Counted (f a)) : Counted (xs.mapM f) := by
  induction xs with
  | nil => exact pure _
  | cons x xs ih =>
    rw [mapM_cons]
    exact (hf x mem_cons_self).bind fun b => (ih fun y hy => hf y (mem_cons_of_mem _ hy)).bind inferInstance

instance foldlM {f : β → α → Flat β} [hf : ∀ b a, Counted (f b a)] (xs : List α) (b : β) : Counted (xs.foldlM f b) := by
  induction xs generalizing b with
  | nil => exact pure _
  | cons x xs ih =>
    rw [foldlM_cons]
    exact andThen

theorem inOrder {xs : List (Flat String)} (h : ∀ x ∈ xs, Counted x) : Counted (inOrder xs) := mapM_of h

instance optionalText {x : Flat String} [Counted x] : Counted (optionalText e x) := ite

end Counted

instance counted_needY : Counted (modify fun s => { s with needsY := true }) := .modify fun _ _ => rfl

mutual

theorem counted_exprText (classes : List String) (e : Expr) : Counted (exprText classes e) := by
  cases e <;> unfold exprText
  case keyword x v => exact (counted_exprText classes v).bind inferInstance
  case call f as ks =>
    exact (Counted.inOrder (counted_exprTexts classes as)).bind fun ts =>
      (Counted.inOrder (counted_exprTexts classes ks)).bind fun us => (counted_exprText classes f).bind fun g => .pure _
  case list es => exact (Counted.inOrder (counted_exprTexts classes es)).bind inferInstance
  case tuple es => exact (Counted.inOrder (counted_exprTexts classes es)).bind inferInstance
  case set es => exact (Counted.inOrder (counted_exprTexts classes es)).bind inferInstance
  case dict ks vs =>
    refine (Counted.mapM_of fun p hp => ?_).bind inferInstance
    exact (counted_exprTexts classes ks p.1 (of_mem_zip hp).1).bind fun a =>
      (counted_exprTexts classes vs p.2 (of_mem_zip hp).2).bind inferInstance
  case slice l u s =>
    have := counted_exprText classes l
    have := counted_exprText classes u
    have := counted_exprText classes s
    infer_instance
  case subscript e i =>
    refine (Counted.modify fun _ _ => ?_).bind fun _ => (counted_exprText classes e).bind fun a =>
      (counted_exprText classes i).bind fun b => ?_
    · simp only [State.more, Nat.add_right_comm]
    · split <;> exact .pure _
  case attr e x => exact (counted_exprText classes e).bind inferInstance
  case binOp l o r =>
    refine (counted_exprText classes l).bind fun a => Counted.bind ?_ fun t =>
      (counted_exprText classes r).bind inferInstance
    unfold binaryText
    split <;> infer_instance
  case ifExp c t e =>
    have := counted_exprText classes c
    have := counted_exprText classes t
    have := counted_exprText classes e
    infer_instance
  case compare l ops rs =>
    exact (Counted.inOrder (counted_exprTexts classes rs)).bind fun ts =>
      (counted_exprText classes l).bind inferInstance
  case boolOp o vs => exact (Counted.inOrder (counted_exprTexts classes vs)).bind inferInstance
  case unaryOp o e =>
    refine (counted_exprText classes e).bind fun a => ?_
    split <;> exact .pure _
  all_goals first | exact .pure _ | exact .liftWritten _
termination_by structural e

theorem counted_exprTexts (classes : List String) (es : List Expr) : ∀ x ∈ exprTexts classes es, Counted x := by
  cases es with
  | nil => nofun
  | cons e es =>
    intro x hx
    rw [exprTexts] at hx
    rcases mem_cons.mp hx with rfl | hx
    · exact counted_exprText classes e
    · exact counted_exprTexts classes es x hx
termination_by structural es

end

section Statements

open Counted (andThen bind)

variable {classes : List String} {env : Env}

attribute [instance] counted_exprText

instance counted_inOrder (es : List Expr) : Counted (inOrder (exprTexts classes es)) :=
  .inOrder (counted_exprTexts classes es)

instance counted_assignText (targets : List Expr) (value : Expr) : Counted (assignText classes targets value cont) := by
  unfold assignText
  split
  · split <;> infer_instance
  · infer_instance

instance counted_raiseText (e : Expr) : Counted (raiseText classes e) := andThen

instance counted_assertText (test msg : Expr) : Counted (assertText classes test msg cont) := by
  refine bind .ite fun m => bind inferInstance fun raised => bind inferInstance fun t => bind ?_ inferInstance
  split <;> infer_instance

instance counted_simpleText (s : Stmt) : Counted (simpleText env s cont) := by
  unfold simpleText
  dsimp only
  split
  all_goals first | infer_instance | split <;> infer_instance

instance counted_simpleTexts (ss : List Stmt) : Counted (simpleTexts env ss cont) := by
  induction ss with
  | nil => exact .pure _
  | cons s ss ih =>
    rw [simpleTexts, foldrM_cons]
    exact ih.bind inferInstance

instance counted_assignedTexts (ss : List Stmt) : Counted (assignedTexts classes ss) := andThen

instance counted_loopText {stmts : List Stmt} {test : Flat String} {target : Option String}
    {body : LoopCtx → Cont → Flat Cont} [Counted test] [∀ l k, Counted (body l k)] :
    Counted (loopText classes stmts test target cont body) :=
  bind inferInstance fun _ => bind inferInstance fun _ => bind inferInstance fun _ =>
    .get (fun _ _ => rfl) fun _ => (Counted.modify fun _ _ => rfl).bind inferInstance

instance counted_anyCalled (x : String) (fs : List Expr) : Counted (anyCalled classes x fs) := by
  induction fs with
  | nil => exact .pure _
  | cons f fs ih => exact andThen

instance counted_functionText {s : Stmt} {x : String} {params : Expr} {owner : Option String}
    {body : List String → Flat Cont} [∀ cs, Counted (body cs)] : Counted (functionText env s x params owner body) := by
  unfold functionText
  refine bind inferInstance fun ds => bind ?_ inferInstance
  split <;> infer_instance

instance counted_decoratedText (ds : List Expr) (f : String) : Counted (decoratedText classes ds f) := .foldlM _ _

instance counted_classText {x : String} {bs : List Expr} {methods : List (String × String)} :
    Counted (classText classes x bs methods cont) := andThen

end Statements

mutual

theorem counted_flatStmt (env : Env) (cont : Cont) (s : Stmt) : Counted (flatStmt env cont s) := by
  cases s with
  | «if» c body orelse =>
    rw [flatStmt]
    exact (counted_flatBody env cont body).bind fun a => .bind inferInstance fun t =>
      (counted_flatBody env cont orelse).bind inferInstance
  | «while» c body orelse =>
    have := fun env k => counted_flatBody env k body
    rw [flatStmt]
    infer_instance
  | «for» a t e body orelse =>
    have := fun env k => counted_flatBody env k body
    cases a <;> unfold flatStmt
    · exact .get (fun _ _ => rfl) inferInstance
    · infer_instance
  | functionDef a x ps body ds r =>
    have := fun env => counted_flatBody env none body
    cases a <;> unfold flatStmt <;> infer_instance
  | classDef x bs ks body ds =>
    rw [flatStmt]
    exact (counted_flatMethods env x body).bind inferInstance
  | _ =>
    unfold flatStmt
    infer_instance
termination_by structural s

theorem counted_flatBody (env : Env) (cont : Cont) (ss : List Stmt) : Counted (flatBody env cont ss) := by
  cases ss with
  | nil => exact .pure _
  | cons s ss =>
    have := fun k => counted_flatStmt env k s
    exact (counted_flatBody env cont ss).bind inferInstance
termination_by structural ss

theorem counted_flatMethods (env : Env) (owner : String) (ss : List Stmt) : Counted (flatMethods env owner ss) := by
  cases ss with
  | nil => exact .pure _
  | cons s ss =>
    have ih := counted_flatMethods env owner ss
    cases s with
    | functionDef a x ps body ds r =>
      have := fun env => counted_flatBody env none body
      cases a with
      | true => exact ih
      | false =>
        rw [flatMethods]
        infer_instance
    | _ => exact ih
termination_by structural ss

end

theorem flatModule_run (body : List Stmt) (s : State) :
    flatModule body s = outcomeMore s.subscripts (flatModule body {}) := by
  have h : Counted (do
      let t ← flatBody {} none body
      if (← get).needsY then return provideY t.text else return t.text : Flat String) :=
    (counted_flatBody {} none body).bind fun t => .get (fun _ _ => rfl) inferInstance
  have hstart : ({ subscripts := s.subscripts } : State) = ({} : State).more s.subscripts := by simp [State.more]
  exact (congrArg _ hstart).trans (h.run {} s.subscripts)

/-! ## 4. A flattener that is used again and again -/

namespace Flattener

/-- The flattener after it has been used `n` times. -/
def used (f : Flattener) : Nat → Flattener
  | 0 => f
  | n + 1 => (f.used n).unparse.2

theorem unparse_body (f : Flattener) : f.unparse.2.body = f.body.map settleAll := by
  unfold unparse
  split
  · rename_i h
    rw [h]
    rfl
  · rename_i body h
    split <;> rw [h] <;> rfl

theorem unparse_congr {f g : Flattener} (h : f.body = g.body) : f.unparse.1 = g.unparse.1 := by
  unfold unparse
  rw [h]
  cases g.body with
  | none => rfl
  | some body =>
    simp only [EStateM.run, flatModule_run body f.state, flatModule_run body g.state]
    cases flatModule body {} <;> rfl

theorem used_body (f : Flattener) (n : Nat) : (f.used (n + 1)).body = f.body.map settleAll := by
  induction n with
  | zero => exact f.unparse_body
  | succ n ih =>
    have hsettled : settleAll ∘ settleAll = settleAll := funext settleAll_settleAll
    rw [used, unparse_body, ih, Option.map_map, hsettled]

end Flattener

/-- From the second time on a flattener always answers the same, and if no method calls the class it belongs to, it does
so from the first time on. -/
theorem unparse_again (f : Flattener) (n : Nat) : (f.used (n + 1)).unparse.1 = (f.used 1).unparse.1 ∧
      (f.body.map settleAll = f.body → (f.used n).unparse.1 = f.unparse.1) := by
  refine ⟨Flattener.unparse_congr ?_, fun h => Flattener.unparse_congr ?_⟩
  · rw [f.used_body n, f.used_body 0]
  · cases n with
    | zero => rfl
    | succ n => rw [f.used_body n, h]

/-- A flattener with a module that assigns an item of a list. -/
def itemAssignment : Flattener := { body := some [.assign [.name "x"] (.subscript (.name "xs") (.const (.int 0)))] }

theorem unparse_again_itemAssignment : (itemAssignment.used 1).state ≠ itemAssignment.state ∧
    ∀ n, (itemAssignment.used n).unparse.1 = itemAssignment.unparse.1 :=
  ⟨by decide +kernel, fun n => (unparse_again itemAssignment n).2 rfl⟩

end PuzzlePrograms.Flatten
