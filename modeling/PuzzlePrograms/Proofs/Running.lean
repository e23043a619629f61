import PuzzlePrograms.Recipe.Words
import Mathlib.Data.List.Forall2
import Mathlib.Logic.Function.Basic

/-!
# What a run of a recipe can come to

A run depends on the random source, so a statement about it is one about every source. `Sure` says that a
computation ends in one of the results that are foreseen, or fails in a way that is allowed; `Yields` says it of a
computation that leaves the variables alone, such as an expression, and `Runs` of a list of commands. There is one
rule for each form of expression and command, and loops are run through an invariant.
-/

namespace PuzzlePrograms.Recipe

open Value Dsl Recipe

abbrev Env := String → Option Value

def envOf (s : Session) : Env := fun x => s.vars.lookup x

variable {α β : Type} {E : Failure → Prop} {env : Env} {x : Eval α} {f : α → Eval β} {s : Session}

/-- Started in this session, a computation ends as foreseen or fails as allowed. -/
def Sure (E : Failure → Prop) (x : Eval α) (s : Session) (Q : α → Session → Prop) : Prop :=
  match x s with
  | .ok a s' => Q a s'
  | .error e _ => E e

theorem Sure.bind {P : α → Session → Prop} {Q : β → Session → Prop} (hx : Sure E x s P)
    (hf : ∀ a s', P a s' → Sure E (f a) s' Q) : Sure E (x >>= f) s Q := by
  unfold Sure at hx
  cases h : x s with
  | ok a s' =>
    rw [h] at hx
    simpa only [Sure, Bind.bind, EStateM.bind, h] using hf a s' hx
  | error e s' =>
    rw [h] at hx
    simpa only [Sure, Bind.bind, EStateM.bind, h] using hx

theorem Sure.mono {P Q : α → Session → Prop} (hx : Sure E x s P) (h : ∀ a s', P a s' → Q a s') : Sure E x s Q := by
  unfold Sure at hx ⊢
  split <;> simp_all

/-! ## 1. Computations that leave the variables alone -/

/-- Whatever the source, the result is one of those foreseen and the variables stay as they are. -/
def Yields (E : Failure → Prop) (env : Env) (x : Eval α) (P : α → Prop) : Prop :=
  ∀ s, envOf s = env → Sure E x s fun a s' => envOf s' = env ∧ P a

namespace Yields

variable {a : α} {P Q : α → Prop} {R : β → Prop}

theorem pure (h : P a) : Yields E env (.pure a) P := fun _ hs => ⟨hs, h⟩

theorem bind (hx : Yields E env x P) (hf : ∀ a, P a → Yields E env (f a) R) : Yields E env (x >>= f) R :=
  fun s hs => (hx s hs).bind fun a s' h => hf a h.2 s' h.1

theorem bindEq (hx : Yields E env x (· = a)) (hf : Yields E env (f a) R) : Yields E env (x >>= f) R :=
  hx.bind fun _ h => h ▸ hf

theorem lift {x : Answer α} (h : x = .ok a) : Yields E env (x : Eval α) (· = a) := by
  subst h
  exact pure rfl

theorem mono (hx : Yields E env x P) (h : ∀ a, P a → Q a) : Yields E env x Q :=
  fun s hs => (hx s hs).mono fun a _ ha => ⟨ha.1, h a ha.2⟩

theorem draw {f : Random.Source → α × Random.Source} (h : ∀ r, P (f r).1) : Yields E env (.draw f) P :=
  fun s hs => ⟨hs, h s.source⟩

theorem mapM {xs : List α} {ys : List β} (h : List.Forall₂ (fun x y => Yields E env (f x) (· = y)) xs ys) :
    Yields E env (xs.mapM f) (· = ys) := by
  induction h with
  | nil => exact pure rfl
  | cons hx _ ih =>
    rw [List.mapM_cons]
    exact hx.bindEq (ih.bindEq (pure rfl))

end Yields

/-! ## 2. Expressions -/

abbrev Gives (E : Failure → Prop) (env : Env) (n : Nat) (sc : Scope) (e : Expr) (v : Value) : Prop :=
  Yields E env (eval n sc e) (· = v)

section Expressions

variable {n : Nat} {sc : Scope} {a b c : Expr} {es : List Expr} {x y z v : Value} {vs : List Value} {p : Primitive}
  {t : String}
  {P : Value → Prop}

theorem Gives.int {i : Int} : Gives E env (n + 1) sc (.int i) (.int i) := .pure rfl

theorem Gives.bool {i : Bool} : Gives E env (n + 1) sc (.bool i) (.bool i) := .pure rfl

theorem Gives.str : Gives E env (n + 1) sc (.str t) (.str t) := .pure rfl

theorem Gives.var (h : env t = some v) : Gives E env (n + 1) sc (.var t) v := by
  intro s hs
  have hread : s.vars.lookup t = some v := by
    rw [← h, ← hs]
    rfl
  have hrun : readVar t s = .ok v s := by
    simp only [readVar, Bind.bind, EStateM.bind, get, getThe, MonadStateOf.get]
    unfold EStateM.get
    simp only [hread]
    rfl
  have hsure : Sure E (readVar t) s fun a s' => envOf s' = env ∧ a = v := by
    unfold Sure
    rw [hrun]
    exact ⟨hs, rfl⟩
  exact hsure

theorem Gives.tuple (h : List.Forall₂ (fun e v => Gives E env n sc e v) es vs) :
    Gives E env (n + 1) sc (.tuple es) (.tuple vs) := by
  exact (Yields.mapM h).bindEq (.pure rfl)

theorem Yields.call (hes : List.Forall₂ (fun e v => Gives E env n sc e v) es vs)
    (h : Yields E env (invoke (call n) p vs) P) : Yields E env (eval (n + 1) sc (.call p es)) P := by
  exact (Yields.mapM hes).bindEq h

variable {u : UnOp} {o : BinOp} {r : Answer Value} (ha : Gives E env n sc a x)

include ha

theorem Gives.un (h : u.apply x = .ok v) : Gives E env (n + 1) sc (.un u a) v := by
  exact ha.bindEq (.lift h)

theorem Yields.call₁ (h : Yields E env (invoke (Recipe.call n) p [x]) P) :
    Yields E env (eval (n + 1) sc (.call p [a])) P :=
  .call (.cons ha .nil) h

theorem Gives.of₁ (h : r = .ok v) (hp : (invoke · p [x]) = fun _ => (r : Eval Value)) :
    Gives E env (n + 1) sc (.call p [a]) v :=
  .call₁ ha ((congrFun hp (call n) : invoke (call n) p [x] = r) ▸ .lift h)

variable (hb : Gives E env n sc b y)

include hb

theorem Gives.pair : Gives E env (n + 1) sc (.pair a b) (.tuple [x, y]) := .tuple (.cons ha (.cons hb .nil))

theorem Gives.bin (h : o.apply x y = .ok v) : Gives E env (n + 1) sc (.bin o a b) v := by
  exact ha.bindEq (hb.bindEq (.lift h))

theorem Yields.call₂ (h : Yields E env (invoke (Recipe.call n) p [x, y]) P) :
    Yields E env (eval (n + 1) sc (.call p [a, b])) P :=
  .call (.cons ha (.cons hb .nil)) h

theorem Gives.of₂ (h : r = .ok v) (hp : (invoke · p [x, y]) = fun _ => (r : Eval Value)) :
    Gives E env (n + 1) sc (.call p [a, b]) v :=
  .call₂ ha hb ((congrFun hp (call n) : invoke (call n) p [x, y] = r) ▸ .lift h)

variable (hc : Gives E env n sc c z)

include hc

theorem Yields.call₃ (h : Yields E env (invoke (Recipe.call n) p [x, y, z]) P) :
    Yields E env (eval (n + 1) sc (.call p [a, b, c])) P :=
  .call (.cons ha (.cons hb (.cons hc .nil))) h

theorem Gives.of₃ (h : r = .ok v) (hp : (invoke · p [x, y, z]) = fun _ => (r : Eval Value)) :
    Gives E env (n + 1) sc (.call p [a, b, c]) v :=
  .call₃ ha hb hc ((congrFun hp (call n) : invoke (call n) p [x, y, z] = r) ▸ .lift h)

end Expressions

/-! ## 3. Commands -/

/-- From these variables, the commands end as foreseen or fail as allowed. -/
def Runs (E : Failure → Prop) (env : Env) (ss : List Stmt) (Q : Signal → Env → Prop) : Prop :=
  ∀ s, envOf s = env → Sure E (execAll ss) s fun r s' => Q r (envOf s')

abbrev Env.set (env : Env) (x : String) (v : Value) : Env := Function.update env x (some v)

theorem lookup_setVar (vars : List (String × Value)) (x : String) (v : Value) :
    (fun y => (setVar vars x v).lookup y) = Env.set (fun y => vars.lookup y) x v := by
  funext y
  induction vars with
  | nil =>
    by_cases h : y = x
    · simp [setVar, h]
    · simp [setVar, h, List.lookup_cons, beq_eq_false_iff_ne.mpr h]
  | cons e rest ih =>
    obtain ⟨z, w⟩ := e
    by_cases hz : z = x
    · subst hz
      by_cases hy : y = z
      · simp [setVar, hy]
      · simp [setVar, hy, List.lookup_cons, beq_eq_false_iff_ne.mpr hy]
    · have hset : setVar ((z, w) :: rest) x v = (z, w) :: setVar rest x v := by simp [setVar, hz]
      simp only [hset, List.lookup_cons]
      by_cases hy : y = z
      · simp [hy, hz]
      · rw [beq_eq_false_iff_ne.mpr hy]
        by_cases hyx : y = x
        · subst hyx
          simpa using ih
        · simpa [hyx, beq_eq_false_iff_ne.mpr hy] using ih

theorem Sure.writeVar {x : String} {v : Value} :
    Sure E (writeVar x v) s fun _ s' => envOf s' = (envOf s).set x v := lookup_setVar s.vars x v

theorem Sure.assign {p : Pat} {v : Value} {bs : List (String × Value)} (h : p.bindings v = .ok bs) :
    Sure E (assign p v) s fun _ s' => envOf s' = bs.foldl (fun env b => env.set b.1 b.2) (envOf s) := by
  have hloop : ∀ s, Sure E (forIn bs PUnit.unit fun b _ => do
      Recipe.writeVar b.1 b.2
      pure (.yield PUnit.unit)) s
      fun _ s' => envOf s' = bs.foldl (fun env b => env.set b.1 b.2) (envOf s) := by
    clear h
    induction bs with
    | nil => exact fun s => rfl
    | cons b bs ih =>
      intro s
      rw [List.forIn_cons, bind_assoc]
      refine Sure.writeVar.bind fun _ s' hw => ?_
      rw [List.foldl_cons, ← hw]
      exact ih s'
  have hb : (p.bindings v : Eval _) = pure bs := by rw [h]; rfl
  rw [Recipe.assign, hb, pure_bind]
  exact (hloop s).bind fun _ _ h => h

theorem execAll_append (t ss : List Stmt) : execAll (t ++ ss) = do
    match ← execAll t with
    | .next => execAll ss
    | r => return r := by
  induction t with
  | nil => rfl
  | cons st t ih =>
    rw [List.cons_append, execAll, execAll, bind_assoc]
    refine congrArg _ (funext fun r => ?_)
    cases r with
    | next => exact ih
    | «break» | «continue» | «return» => rfl

namespace Runs

variable {ss t : List Stmt} {e : Expr} {x : String} {v : Value} {Q : Signal → Env → Prop} {P : Value → Prop}

theorem nil (h : Q .next env) : Runs E env [] Q :=
  fun s hs => by
    show Q .next (envOf s)
    rw [hs]
    exact h

theorem seq {R : Signal → Env → Prop} {st : Stmt}
    (h : ∀ s, envOf s = env → Sure E (exec st) s fun r s' => R r (envOf s'))
    (hnext : ∀ env', R .next env' → Runs E env' ss Q) (hother : ∀ r env', r ≠ .next → R r env' → Q r env') :
    Runs E env (st :: ss) Q := by
  intro s hs
  rw [execAll]
  refine (h s hs).bind fun r s' hr => ?_
  cases r with
  | next => exact hnext _ hr s' rfl
  | «break» | «continue» | «return» => exact hother _ _ nofun hr

theorem step {st : Stmt} {R : Env → Prop} (h : ∀ s, envOf s = env → Sure E (exec st) s fun r s' => r = .next ∧
      R (envOf s')) (hnext : ∀ env', R env' → Runs E env' ss Q) : Runs E env (st :: ss) Q :=
  @seq E env ss Q (fun r env' => r = .next ∧ R env') st h (fun _ hr => hnext _ hr.2) fun _ _ hne hr => absurd hr.1 hne

theorem draw (he : Yields E env (evalTop e) P) (h : ∀ v, P v → Runs E (env.set x v) ss Q) :
    Runs E env (.set x e :: ss) Q := by
  refine @step _ _ _ _ _ (fun env' => ∃ v, P v ∧ env' = env.set x v) (fun s hs => ?_) ?_
  · refine (he s hs).bind fun v s' hv => ?_
    refine Sure.writeVar.bind fun _ s'' hw => ?_
    exact ⟨rfl, v, hv.2, hv.1 ▸ hw⟩
  · rintro env' ⟨v, hv, rfl⟩
    exact h v hv

theorem set (he : Gives E env depthLimit [] e v) (h : Runs E (env.set x v) ss Q) : Runs E env (.set x e :: ss) Q :=
  draw he fun _ hv => hv ▸ h

theorem ite {c : Expr} {t f : List Stmt} (he : Yields E env (evalTop c) P)
    (h : ∀ v, P v → Runs E env ((if v.truthy then t else f) ++ ss) Q) : Runs E env (.ite c t f :: ss) Q := by
  intro s hs
  have hrun : execAll (.ite c t f :: ss) = evalTop c >>= fun v => execAll ((if v.truthy then t else f) ++ ss) := by
    rw [execAll, exec, bind_assoc]
    refine congrArg _ (funext fun v => ?_)
    cases v.truthy
    · exact (execAll_append f ss).symm
    · exact (execAll_append t ss).symm
  rw [hrun]
  exact (he s hs).bind fun v s' hv => h v hv.2 s' hv.1

theorem «return» (he : Gives E env depthLimit [] e v) (h : Q (.return v) env) : Runs E env (.return e :: ss) Q := by
  refine @seq _ _ _ _ (fun r env' => r = .return v ∧ env' = env) _ (fun s hs => ?_) ?_ ?_
  · refine (he s hs).bind fun w s' hw => ?_
    exact ⟨congrArg _ hw.2, hw.1⟩
  · rintro env' ⟨hr, _⟩
    cases hr
  · rintro r env' _ ⟨rfl, rfl⟩
    exact h

theorem finish {input output : Expr} {i o : Value} (hi : Gives E env (depthLimit - 1) [] input i)
    (ho : Gives E env (depthLimit - 1) [] output o)
    (h : Q (.return (.dict [(.str "input", i), (.str "output", o)])) env) :
    Runs E env (.finish input output :: ss) Q := by
  refine .return ?_ h
  have hkeys : dictOf ([(.str "input", i), (.str "output", o)].map fun p => .tuple [p.1, p.2]) =
      .ok (.dict [(.str "input", i), (.str "output", o)]) := rfl
  rw [Gives, depthLimit, eval]
  refine .bindEq (a := [(.str "input", i), (.str "output", o)])
    (.mapM (.cons ?_ (.cons ?_ .nil))) (.lift hkeys)
  · exact Gives.str.bindEq (hi.bindEq (.pure rfl))
  · exact Gives.str.bindEq (ho.bindEq (.pure rfl))

/-! ## 4. Loops -/

/-- What is foreseen of one round: it leads on to the next, or out of the loop. -/
def round (next exit : Env → Prop) : Signal → Env → Prop
  | .next, env | .continue, env => next env
  | .break, env => exit env
  | .return _, _ => False

theorem «for» {p : Pat} {body : List Stmt} {xs : List Value} (I : List Value → Env → Prop)
    (he : Gives E env depthLimit [] e v) (hv : v.elements = .ok xs) (h0 : I xs env)
    (hbody : ∀ x rest env', I (x :: rest) env' → ∃ bs, p.bindings x = .ok bs ∧
      Runs E (bs.foldl (fun env b => env.set b.1 b.2) env') body (round (I rest) (I [])))
    (hend : ∀ env', I [] env' → Runs E env' ss Q) : Runs E env (.for p e body :: ss) Q := by
  have hloop : ∀ xs s, I xs (envOf s) → Sure E (forLoop (fun x => do assign p x; execAll body) xs) s
      fun r s' => r = .next ∧ I [] (envOf s') := by
    intro xs
    induction xs with
    | nil => exact fun s hs => ⟨rfl, hs⟩
    | cons y ys ih =>
      intro s hs
      obtain ⟨bs, hbs, hrun⟩ := hbody y ys _ hs
      rw [forLoop, bind_assoc]
      refine (Sure.assign hbs).bind fun _ s₁ h₁ => ?_
      refine (hrun s₁ h₁).bind fun r s₂ h₂ => ?_
      cases r with
      | next | «continue» => exact ih s₂ h₂
      | «break» => exact ⟨rfl, h₂⟩
      | «return» w => exact h₂.elim
  refine @step _ _ _ _ _ (I []) (fun s hs => ?_) hend
  refine (he s hs).bind fun w s' hw => ?_
  obtain ⟨hs', rfl⟩ := hw
  have helem : (w.elements : Eval _) = pure xs := by rw [hv]; rfl
  rw [helem, pure_bind]
  exact hloop xs s' (hs' ▸ h0)

end Runs

end PuzzlePrograms.Recipe
