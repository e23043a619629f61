import PuzzlePrograms.Proofs.Gathering
import Mathlib.Data.List.Induction
import Mathlib.Tactic.Tauto

/-!
# What is on record when an example is taken

Difficulty draws are put on record, and the record is emptied when the difficulty of an example is read off it. No
recipe takes anything off the record (`Recipe.run_records`), so between two examples that are taken the draws of all
attempts pile up (`record_reached`). The difficulty of an example is therefore that of its own draws only if nothing was
put on record since the example before it (`difficulty_of_own_draws_iff`).
-/

namespace PuzzlePrograms

open Value Dsl Dataset

variable {α β : Type}

/-! ## 1. Computations that only add to the record -/

/-- A computation that takes nothing off the record, also if it fails. -/
class Records (x : Eval α) : Prop where
  adds (s : Session) : ∃ ds, (after x s).drawn = ds ++ s.drawn

namespace Records

variable {x y : Eval α} {f : α → Eval β}

instance pure (a : α) : Records (Pure.pure a) := ⟨fun _ => ⟨[], rfl⟩⟩

instance throw (e : Failure) : Records (throw e : Eval α) := ⟨fun _ => ⟨[], rfl⟩⟩

instance lift (x : Answer α) : Records (x : Eval α) := by
  cases x with
  | ok a => exact pure a
  | error e => exact throw e

theorem bind (hx : Records x) (hf : ∀ a, Records (f a)) : Records (x >>= f) where
  adds s := by
    obtain ⟨ds, hds⟩ := hx.adds s
    simp only [after, Bind.bind, EStateM.bind] at hds ⊢
    cases hrun : x s with
    | error e s₁ =>
      rw [hrun] at hds
      exact ⟨ds, hds⟩
    | ok a s₁ =>
      rw [hrun] at hds
      obtain ⟨es, hes⟩ := (hf a).adds s₁
      exact ⟨es ++ ds, by rw [List.append_assoc, ← hds, ← hes]; rfl⟩

instance andThen [hx : Records x] [hf : ∀ a, Records (f a)] : Records (x >>= f) := hx.bind hf

theorem modify {f : Session → Session} (hf : ∀ s, ∃ ds, (f s).drawn = ds ++ s.drawn) :
    Records (modify f : Eval PUnit) := ⟨hf⟩

instance get : Records (get : Eval Session) := ⟨fun _ => ⟨[], rfl⟩⟩

instance draw (f : Random.Source → α × Random.Source) : Records (Eval.draw f) := ⟨fun _ => ⟨[], rfl⟩⟩

instance closure (shape : Shape) (held : List Value) : Records (Eval.closure shape held) := ⟨fun _ => ⟨[], rfl⟩⟩

instance element [hx : Records x] : Records (Eval.element x) where
  adds s := by
    obtain ⟨ds, hds⟩ := hx.adds s
    refine ⟨ds, Eq.trans ?_ hds⟩
    simp only [after, Eval.element, tryCatch, tryCatchThe, MonadExceptOf.tryCatch, EStateM.tryCatch]
    cases x s <;> rfl

instance arranged (f : Arrangement → Answer α) : Records (Eval.arranged f) := andThen

instance ite {c : Prop} [Decidable c] [hx : Records x] [hy : Records y] : Records (if c then x else y) := by
  split
  · exact hx
  · exact hy

/-! ## 2. Lists -/

instance mapM [∀ a, Records (f a)] (xs : List α) : Records (xs.mapM f) := by
  induction xs with
  | nil => exact pure _
  | cons x xs ih =>
    rw [List.mapM_cons]
    infer_instance

instance foldlM {f : β → α → Eval β} [∀ b a, Records (f b a)] (b : β) (xs : List α) : Records (xs.foldlM f b) := by
  induction xs generalizing b with
  | nil => exact pure _
  | cons x xs ih =>
    rw [List.foldlM_cons]
    infer_instance

instance allM {f : α → Eval Bool} [∀ a, Records (f a)] (xs : List α) : Records (xs.allM f) := by
  induction xs with
  | nil => exact pure _
  | cons x xs ih => exact bind inferInstance fun b => by cases b <;> infer_instance

instance findM? {f : α → Eval Bool} [∀ a, Records (f a)] (xs : List α) : Records (xs.findM? f) := by
  induction xs with
  | nil => exact pure _
  | cons x xs ih => exact bind inferInstance fun b => by cases b <;> infer_instance

end Records

/-! ## 3. Primitives -/

namespace Dsl

open Records

instance (a b : Value) : Records (uniform a b) := andThen

instance (v : Value) : Records (choice v) := bind inferInstance fun k => by split <;> infer_instance

instance (v k : Value) : Records (sample v k) := by
  unfold sample
  repeat' first | infer_instance | refine bind ?_ fun _ => ?_ | split

instance (v : Value) : Records (shuffled v) := bind inferInstance fun _ => by split <;> infer_instance

instance (a b c : Value) : Records (unifint a b c) := by
  refine bind inferInstance fun _ => bind inferInstance fun d => ?_
  dsimp only
  split
  · exact bind (modify fun _ => ⟨[_], rfl⟩) inferInstance
  · infer_instance

instance (f : Value) (fuel : Nat) (n : Value) : Records (power f fuel n) := by
  induction fuel generalizing n with
  | zero => exact throw _
  | succ fuel ih =>
    unfold power
    split <;> infer_instance

instance {f : α → Eval (Option Value)} [∀ x, Records (f x)] (k : Kind) (xs : List α) : Records (gather k f xs) := by
  refine bind (@foldlM _ _ _ (fun acc x => bind inferInstance fun y => ?_) _ _) inferInstance
  cases y <;> infer_instance

instance {key : Value → Eval Value} [∀ x, Records (key x)] (r : Rel) (xs : List Value) : Records (bestBy r key xs) := by
  cases xs
  · exact pure _
  · exact andThen

section Callers

variable {call : Caller} [∀ f args, Records (call f args)]

instance (c f : Value) : Records (order call c f) := andThen

instance (c f : Value) : Records (sfilter call c f) := andThen

instance (f c : Value) : Records (apply call f c) := andThen

instance (f a b : Value) : Records (papply call f a b) := andThen

instance (c f : Value) : Records (extract call c f) :=
  bind inferInstance fun _ => bind inferInstance fun found => by cases found <;> infer_instance

instance (f a b : Value) : Records (prapply call f a b) := bind inferInstance fun _ => by split <;> infer_instance

omit [∀ f args, Records (call f args)] in
instance (p : Primitive) (x : Value) : Records (unary p x) := by
  cases p
  case fixBugs =>
    unfold unary
    dsimp only
    split <;> infer_instance
  all_goals first | exact lift _ | exact throw _ | exact pure _ | exact closure _ _ | exact andThen

instance (p : Primitive) (a b : Value) : Records (binary call p a b) := by
  cases p
  case extract => exact inferInstanceAs (Records (extract call a b))
  case power => exact inferInstanceAs (Records (power a _ b))
  case sample => exact inferInstanceAs (Records (sample a b))
  all_goals first | exact lift _ | exact throw _ | exact pure _ | exact closure _ _ | exact andThen

instance (p : Primitive) (a b c : Value) : Records (ternary call p a b c) := by
  cases p
  case prapply => exact inferInstanceAs (Records (prapply call a b c))
  case unifint => exact inferInstanceAs (Records (unifint a b c))
  all_goals first | exact throw _ | exact lift _ | exact pure _ | exact closure _ _ | exact andThen

instance (p : Primitive) (args : List Value) : Records (builtin call p args) := by
  unfold builtin
  split
  case h_6 => exact bind inferInstance fun v => by split <;> infer_instance
  all_goals infer_instance

instance (p : Primitive) (args : List Value) : Records (invoke call p args) := by
  have : Records (run call p args) := by
    unfold run
    repeat' split
    all_goals infer_instance
  unfold invoke
  split <;> infer_instance

end Callers

end Dsl

/-! ## 4. Recipes -/

namespace Recipe

open Records

instance (x : String) : Records (readVar x) := bind inferInstance fun s => by split <;> infer_instance

instance (x : String) (v : Value) : Records (writeVar x v) := modify fun _ => ⟨[], rfl⟩

instance (p : Pat) (v : Value) : Records (assign p v) := by
  have hloop : ∀ bs : List (String × Value), Records (forIn bs PUnit.unit fun b _ => do
      writeVar b.1 b.2
      Pure.pure (.yield PUnit.unit)) := by
    intro bs
    induction bs with
    | nil => exact pure _
    | cons b bs ih =>
      rw [List.forIn_cons, bind_assoc]
      exact bind inferInstance fun _ => ih
  exact bind inferInstance fun bs => bind (hloop bs) inferInstance

section Expressions

variable {ev : Scope → Expr → Eval Value} [∀ sc e, Records (ev sc e)]

instance {k : Scope → Eval α} [∀ sc, Records (k sc)] (cs : List Clause) (sc : Scope) :
    Records (throughClauses ev cs sc k) := by
  induction cs generalizing sc with
  | nil => exact andThen
  | cons c cs ih =>
    obtain ⟨p, source, conds⟩ := c
    exact andThen

instance (g : Gather) (e : Expr) (cs : List Clause) (sc : Scope) : Records (fillBy ev g e cs sc) := by
  cases g <;> exact andThen

instance (k v : Expr) (cs : List Clause) (sc : Scope) : Records (fillTable ev k v cs sc) := andThen

end Expressions

section Chains

variable {ev : Expr → Eval Value} [∀ e, Records (ev e)]

instance (es : List Expr) : Records (conjunction ev es) := by fun_induction conjunction ev es <;> infer_instance

instance (es : List Expr) : Records (disjunction ev es) := by fun_induction disjunction ev es <;> infer_instance

instance (a : Value) (rest : List (CmpOp × Expr)) : Records (comparisons ev a rest) := by
  induction rest generalizing a with
  | nil => exact pure _
  | cons c rest ih => exact andThen

end Chains

theorem records_call_eval (n : Nat) : (∀ f args, Records (call n f args)) ∧ ∀ sc e, Records (eval n sc e) := by
  induction n with
  | zero => exact ⟨fun _ _ => throw _, fun _ _ => throw _⟩
  | succ n ih =>
    obtain ⟨hcall, hev⟩ := ih
    constructor
    · intro f args
      unfold call
      repeat' split
      all_goals infer_instance
    · intro sc e
      cases e with
      | arg x =>
        rw [eval]
        split <;> infer_instance
      | slice a lo hi st =>
        refine bind inferInstance fun _ => bind ?lo fun _ => bind ?hi fun _ => bind ?st inferInstance
        all_goals
          beta_reduce
          split <;> infer_instance
      | _ =>
        rw [eval]
        infer_instance

instance (e : Expr) : Records (evalTop e) := (records_call_eval depthLimit).2 [] e

instance (p : Place) (f : Value → Answer Value) : Records (change p f) := andThen

instance {body : Value → Eval Signal} [∀ x, Records (body x)] (xs : List Value) : Records (forLoop body xs) := by
  induction xs with
  | nil => exact pure _
  | cons x xs ih => exact bind inferInstance fun r => by cases r <;> infer_instance

instance {cond : Eval Bool} {body : Eval Signal} [Records cond] [Records body] (n : Nat) :
    Records (whileLoop cond body n) := by
  induction n with
  | zero => exact throw _
  | succ n ih =>
    refine bind inferInstance fun c => ?_
    split
    · exact bind inferInstance fun r => by cases r <;> infer_instance
    · infer_instance

mutual

theorem records_exec (st : Stmt) : Records (exec st) := by
  match st with
  | .block body => exact records_execAll body
  | .ite c t e =>
    have := records_execAll t
    have := records_execAll e
    exact andThen
  | .for p e body =>
    have := records_execAll body
    exact andThen
  | .while c body =>
    have := records_execAll body
    exact inferInstanceAs (Records (whileLoop _ _ _))
  | .break | .continue => exact pure _
  | .set .. | .unpack .. | .store .. | .update .. | .push .. | .adjoin .. | .delete .. | .shuffle .. | .return .. =>
    exact andThen

theorem records_execAll (ss : List Stmt) : Records (execAll ss) := by
  match ss with
  | [] => exact pure _
  | s :: ss =>
    have := records_execAll ss
    exact bind (records_exec s) fun r => by cases r <;> infer_instance

end

theorem run_records (r : Recipe) (lb ub : Value) : Records (r.run lb ub) := by
  refine bind (modify fun _ => ⟨[], rfl⟩) fun _ => bind (records_execAll r) fun sig => ?_
  cases sig <;> infer_instance

end Recipe

/-! ## 5. What a difficulty is read off -/

namespace Dataset

variable {generator : Eval Value} {verifier : Value → Answer Value} {n : Nat} {log : List Attempt} {g : Gathered}
  {s s' s₀ : Session}

theorem record_after {x : Eval α} (hx : Records x) (s : Session) : (after x s).record = s.record ++ drawsOf x s := by
  obtain ⟨ds, hds⟩ := hx.adds s
  rw [drawsOf, Session.record, Session.record, hds, List.reverse_append, List.drop_left]

theorem ofRecord_eq_ok {d : Value} (h : Difficulty.ofRecord s = .ok d s') :
    Difficulty.mean (s.record.map .float) = .ok d ∧ s'.record = [] := by
  have hrun : Difficulty.ofRecord s = (Difficulty.mean (s.record.map .float) : Eval Value) { s with drawn := [] } := rfl
  rw [hrun] at h
  cases hm : Difficulty.mean (s.record.map .float) with
  | error e => rw [hm] at h; cases h
  | ok d' =>
    rw [hm] at h
    cases h
    exact ⟨rfl, rfl⟩

/-- The draws on record when an attempt starts: those of the attempts since the last example that was taken, after what
was there at first if none was. -/
def pending (first : List Float) (log : List Attempt) : List Float :=
  log.foldl (fun draws a => if a.taken then [] else draws ++ a.draws) first

/-- The attempts since the last example that was taken. -/
def waiting (log : List Attempt) : List Attempt := log.reverse.takeWhile fun a => !a.taken

theorem pending_append (first : List Float) (log : List Attempt) (a : Attempt) :
    pending first (log ++ [a]) = if a.taken then [] else pending first log ++ a.draws := by
  rw [pending, List.foldl_append]
  rfl

theorem pending_eq_nil_iff {first : List Float} {log : List Attempt} : pending first log = [] ↔
    (∀ a ∈ waiting log, a.draws = []) ∧ ((∀ a ∈ log, a.taken = false) → first = []) := by
  induction log using List.reverseRecOn with
  | nil => simp [pending, waiting]
  | append_singleton log a ih =>
    rw [pending_append]
    cases ha : a.taken with
    | true =>
      refine ⟨fun _ => ⟨by simp [waiting, ha], fun h => ?_⟩, fun _ => rfl⟩
      have hlast : a.taken = false := h a (by simp)
      cases ha.symm.trans hlast
    | false =>
      have hwait : waiting (log ++ [a]) = a :: waiting log := by simp [waiting, ha]
      simp only [Bool.false_eq_true, if_false, List.append_eq_nil_iff, ih, hwait, List.forall_mem_cons,
        List.forall_mem_append,
        ha, List.not_mem_nil, IsEmpty.forall_iff, implies_true, and_true]
      tauto

/-- What is on record at the start of a round, for a generator that takes nothing off the record. -/
theorem record_reached (hrec : Records generator) (h : Reached generator verifier n s₀ log g s) :
    s.record = pending s₀.record log := by
  induction h with
  | start => rfl
  | @again log g g' s s' _ _ hstep ih =>
    rw [pending_append]
    rcases step_cases hstep with ⟨rfl, rfl⟩ | ⟨ex, i, o, d, p, -, -, -, hd, -, rfl⟩
    · simp [(kept_count _).examples, record_after hrec, ih]
    · simp [withExample, Gathered.count, (ofRecord_eq_ok hd).2]

/-- The difficulty of an example that is taken is the mean of all that was put on record since the example before it, so
it is the mean of the example's own draws just if the attempts in between have drawn nothing. -/
theorem difficulty_of_own_draws_iff (recipe : Recipe) (verifier : Value → Answer Value) (lb ub : Value) (n : Nat)
    (s₀ : Session) {log : List Attempt} {g g' : Gathered} {s s' : Session}
    (h : Reached (recipe.run lb ub) verifier n s₀ log g s) (hstep : g.step (recipe.run lb ub) verifier s = .ok g' s')
    (htaken : g'.examples ≠ g.examples) :
    ∃ d averaged, g'.drawDifficulties = g.drawDifficulties ++ [d] ∧ Difficulty.mean (averaged.map .float) = .ok d ∧
      averaged = pending s₀.record log ++ drawsOf (recipe.run lb ub) s ∧ (averaged = drawsOf (recipe.run lb ub) s ↔
        (∀ a ∈ waiting log, a.draws = []) ∧ ((∀ a ∈ log, a.taken = false) → s₀.record = [])) := by
  have hrec := recipe.run_records lb ub
  rcases step_cases hstep with ⟨rfl, -⟩ | ⟨ex, i, o, d, p, -, -, -, hd, -, rfl⟩
  · exact absurd (kept_count _).examples htaken
  · refine ⟨d, _, rfl, (ofRecord_eq_ok hd).1, ?_, ?_⟩
    · rw [record_after hrec, record_reached hrec h]
    · rw [record_after hrec, record_reached hrec h, List.append_left_eq_self, pending_eq_nil_iff]

/-- With a draw left on record from before, the first example is not measured by its own draws. -/
theorem difficulty_of_leftover_draws : ∃ recipe verifier lb ub s₀ g' s',
    ({} : Gathered).step (Recipe.run recipe lb ub) verifier s₀ = .ok g' s' ∧
    ∃ d averaged, g'.drawDifficulties = [d] ∧ Difficulty.mean (averaged.map .float) = .ok d ∧
      averaged ≠ drawsOf (Recipe.run recipe lb ub) s₀ := by
  let recipe : Recipe := [.set "h" (.call .unifint [.var "diff_lb", .var "diff_ub", .tuple [.int 1, .int 1]]),
    .return (.table [(.str "input", .tuple [.tuple [.int 0]]), (.str "output", .tuple [.tuple [.var "h"]])])]
  let s₀ : Session := { source := { twister := ⟨#[], 0⟩ }, drawn := [0.5] }
  have hrun : (match ({} : Gathered).step (recipe.run 0 1) (fun _ => .ok (.tuple [.tuple [.int 1]])) s₀ with
      | .ok g _ => g.examples.length == 1
      | .error _ _ => false) = true := by decide +kernel
  split at hrun
  · rename_i g' s' hstep
    have hne : g'.examples ≠ ({} : Gathered).examples := by
      intro he
      rw [he] at hrun
      cases hrun
    obtain ⟨d, averaged, hd, hmean, -, hiff⟩ := difficulty_of_own_draws_iff recipe _ 0 1 1 s₀ .start hstep hne
    refine ⟨recipe, _, 0, 1, s₀, g', s', hstep, d, averaged, hd, hmean, fun heq => ?_⟩
    have hempty : s₀.record = [] := (hiff.mp heq).2 nofun
    cases hempty
  · cases hrun

end Dataset

end PuzzlePrograms
