import PuzzlePrograms.Pass.Calls
import PuzzlePrograms.Proofs.OperatorCalls

/-!
# Currying keeps values

`currying` turns functions of several parameters into functions of functions, and calls with several arguments into
calls of calls. This file says what that means.

* `Applied` are the expressions of names, constants, functions and calls, `Applied.curried` is what the pass makes of
  them (`currying_resolved`), and `Applied.Unary` says that no function has more than one parameter and no call more
  than one argument;
* `Evals` is evaluation with closures. Where it is exact, every function is called with as many arguments as it has
  parameters; else a primitive may also be given its arguments one after another;
* `Same` relates the values of an expression to those of its curried form: a function of several parameters to a
  function that returns functions (`Evals.curried`).
-/

namespace PuzzlePrograms.Pass

open List Source Expr

/-! ## 1. Expressions -/

/-- Names, constants, functions of plain parameters, and calls with positional arguments. -/
inductive Applied where
  | name (x : String)
  | const (c : Constant)
  | fn (params : List String) (body : Applied)
  | call (f : Applied) (args : List Applied)

def plainParams (xs : List String) : Expr := .params [] (xs.map (.param · .absent)) .absent [] [] .absent []

namespace Applied

def expr : Applied → Expr
  | .name x => .name x
  | .const c => .const c
  | .fn xs b => .lambda (plainParams xs) b.expr
  | .call f as => .call f.expr (as.map expr) []

def nest (xs : List String) (b : Applied) : Applied := xs.foldr (fun x b => .fn [x] b) b

def feed (f : Applied) (as : List Applied) : Applied := as.foldl (fun g a => .call g [a]) f

/-- A function of parameters that come one after another. -/
def abstracted : List String → Applied → Applied
  | [], b => .fn [] b
  | x :: xs, b => .fn [x] (nest xs b)

/-- A call with arguments that come one after another. -/
def applied (f : Applied) : List Applied → Applied
  | [] => .call f []
  | a :: as => feed (.call f [a]) as

def curried : Applied → Applied
  | .name x => .name x
  | .const c => .const c
  | .fn xs b => abstracted xs b.curried
  | .call f as => applied f.curried (as.map curried)

/-- No function has more than one parameter and no call more than one argument. -/
inductive Unary : Applied → Prop where
  | name (x : String) : Unary (.name x)
  | const (c : Constant) : Unary (.const c)
  | fn {xs : List String} {b : Applied} (hxs : xs.length ≤ 1) (hb : Unary b) : Unary (.fn xs b)
  | call {f : Applied} {as : List Applied} (has : as.length ≤ 1) (hf : Unary f) (h : ∀ a ∈ as, Unary a) :
    Unary (.call f as)

theorem unary_nest (hb : b.Unary) (xs : List String) : (nest xs b).Unary := by
  induction xs with
  | nil => exact hb
  | cons x xs ih => exact .fn le_rfl ih

theorem unary_feed {f : Applied} (hf : f.Unary) {as : List Applied} (has : ∀ a ∈ as, a.Unary) : (feed f as).Unary := by
  induction as generalizing f with
  | nil => exact hf
  | cons a as ih =>
    obtain ⟨ha, has⟩ := forall_mem_cons.mp has
    exact ih (.call le_rfl hf (by simpa using ha)) has

theorem unary_curried (t : Applied) : t.curried.Unary := by
  match t with
  | .name x => simpa [curried] using .name x
  | .const c => simpa [curried] using .const c
  | .fn xs b =>
    rw [curried]
    cases xs with
    | nil => exact .fn (Nat.zero_le 1) (unary_curried b)
    | cons x xs => exact .fn le_rfl (unary_nest (unary_curried b) xs)
  | .call f as =>
    rw [curried]
    have has : ∀ a ∈ as.map curried, a.Unary := forall_mem_map.mpr fun a ha => unary_curried a
    generalize as.map curried = as at has
    cases as with
    | nil => exact .call (Nat.zero_le 1) (unary_curried f) nofun
    | cons a as =>
      obtain ⟨ha, has⟩ := forall_mem_cons.mp has
      exact unary_feed (.call le_rfl (unary_curried f) (by simpa using ha)) has

/-! ## 2. The pass -/

theorem expr_nest (xs : List String) (b : Applied) :
    (nest xs b).expr = nestLambdas (xs.map (.param · .absent)) b.expr := by
  induction xs with
  | nil => rw [nest, nestLambdas]; rfl
  | cons x xs ih =>
    rw [nest, foldr_cons, ← nest, expr, ih]
    rfl

theorem expr_feed (f : Applied) (as : List Applied) : (feed f as).expr = Pass.curried f.expr (as.map expr) := by
  induction as generalizing f with
  | nil => rfl
  | cons a as ih =>
    rw [feed, foldl_cons, ← feed, ih, expr]
    rfl

end Applied

theorem run_mapM {f : Expr → Share Expr} {g : Expr → Expr} {t : Table} {as : List Expr}
    (h : ∀ a ∈ as, (f a).run t = pure (g a, t)) : (as.mapM f).run t = pure (as.map g, t) := by
  induction as with
  | nil => rfl
  | cons a as ih =>
    obtain ⟨ha, has⟩ := forall_mem_cons.mp h
    simp [mapM_cons, ha, ih has]

theorem visit_currying {n : Nat} {s : Table} {e e' : Expr} {o : Outcome}
    (hparts : (mapPartsM (visit currying n) e).run s = pure (e', s)) (hs : ∀ k, e ≠ .shared k)
    (ho : (currying.finish e').run s = pure (o, s)) : (visit currying (n + 1) e).run s = pure (o.term, s) := by
  have hat : (currying.at (visit currying n) pure e).run s = pure (o, s) := by
    have hskip : currying.skips e = false := rfl
    have hkeep : currying.keepsParts e = false := rfl
    simp [Rule.at, hskip, hkeep, hparts, ho]
  rw [visit.eq_3 _ _ _ hs]
  simp [hat]

namespace Applied

variable {n : Nat} {s : Table}

theorem visit_plainParams (n : Nat) (xs : List String) :
    (visit currying n (plainParams xs)).run s = pure (plainParams xs, s) := by
  have habsent : ∀ n, (visit currying n .absent).run s = pure (.absent, s) := by
    intro n
    cases n <;> rfl
  have hparam : ∀ n, ∀ p ∈ xs.map (.param · .absent), (visit currying n p).run s = pure (id p, s) := by
    intro n p hp
    obtain ⟨x, _, rfl⟩ := mem_map.mp hp
    cases n with
    | zero => rfl
    | succ n =>
      have hparts : (mapPartsM (visit currying n) (.param x .absent)).run s = pure (.param x .absent, s) := by
        simp [mapPartsM, habsent]
      exact visit_currying hparts (by simp) rfl
  cases n with
  | zero => rfl
  | succ n =>
    have hxs := run_mapM (hparam n)
    rw [map_id, mapM_map] at hxs
    have hparts : (mapPartsM (visit currying n) (plainParams xs)).run s = pure (plainParams xs, s) := by
      simp [plainParams, mapPartsM, habsent, hxs]
    exact visit_currying hparts (by simp [plainParams]) rfl

theorem run_take (as : List Applied) : ((as.map expr).mapM take).run s = pure (as.map expr, s) := by
  have h : ∀ e ∈ as.map expr, (take e).run s = pure (id e, s) := by
    intro e he
    obtain ⟨a, _, rfl⟩ := mem_map.mp he
    cases a <;> rw [expr] <;> rfl
  simpa using run_mapM h

theorem visit_expr (t : Applied) (n : Nat) (hn : size t.expr ≤ n) :
    (visit currying n t.expr).run s = pure (t.curried.expr, s) := by
  match t, n with
  | .name x, 0 | .const c, 0 | .fn xs b, 0 | .call f as, 0 => simp [expr, size] at hn
  | .name x, n + 1 =>
    rw [curried, expr]
    rfl
  | .const c, n + 1 =>
    rw [curried, expr]
    rfl
  | .fn xs b, n + 1 =>
    rw [expr] at hn ⊢
    have hb := visit_expr b n (by rw [size] at hn; omega)
    have hparts : (mapPartsM (visit currying n) (.lambda (plainParams xs) b.expr)).run s =
        pure (.lambda (plainParams xs) b.curried.expr, s) := by
      simp [mapPartsM, hb, visit_plainParams]
    rw [curried]
    rcases xs with _ | ⟨x, _ | ⟨y, xs⟩⟩
    case nil | cons.nil =>
      rw [abstracted, expr]
      exact visit_currying hparts (by simp) rfl
    case cons.cons =>
      refine (visit_currying hparts (by simp) rfl).trans ?_
      rw [abstracted, expr, expr_nest]
      rfl
  | .call f as, n + 1 =>
    rw [expr] at hn ⊢
    rw [size] at hn
    have hf := visit_expr f n (by omega)
    have has : ((as.map expr).mapM (visit currying n)).run s = pure ((as.map curried).map expr, s) := by
      have hsize : sizes (as.map expr) ≤ n := by omega
      clear hn
      induction as with
      | nil => rfl
      | cons a as ih =>
        rw [map_cons, sizes] at hsize
        have ha := visit_expr a n (by omega)
        have has := ih (by omega)
        rw [mapM_map] at has
        simp [mapM_cons, ha, has]
    rw [mapM_map] at has
    have hparts : (mapPartsM (visit currying n) (.call f.expr (as.map expr) [])).run s =
        pure (.call f.curried.expr ((as.map curried).map expr) [], s) := by
      simp [mapPartsM, hf, has]
    rw [curried]
    generalize as.map curried = bs at hparts
    rcases bs with _ | ⟨b, _ | ⟨c, bs⟩⟩
    case nil | cons.nil =>
      refine (visit_currying hparts (by simp) rfl).trans ?_
      simp [applied, expr, feed, Outcome.term]
    case cons.cons =>
      have ho : (currying.finish (.call f.curried.expr ((b :: c :: bs).map expr) [])).run s =
          pure (⟨.call f.curried.expr ((b :: c :: bs).map expr) [],
            some (Pass.curried f.curried.expr ((b :: c :: bs).map expr))⟩, s) := by
        show ((((b :: c :: bs).map expr).mapM take >>= _ : Share Outcome)).run s = _
        rw [StateT.run_bind, run_take]
        rfl
      refine (visit_currying hparts (by simp) ho).trans ?_
      rw [applied, expr_feed, expr]
      rfl

/-- **What the pass makes of an expression is its curried form.** -/
theorem currying_resolved (t : Applied) : (currying.run { term := t.expr }).resolved = t.curried.expr := by
  have hrun : currying.run { term := t.expr } = { term := t.curried.expr } := by
    have hsize : Shared.resolved { term := t.expr } = t.expr := resolveTo_empty _ _
    have hvisit := visit_expr t (4 * size t.expr + 4) (s := #[]) (by omega)
    simp only [Rule.run, hsize, hvisit]
    rfl
  rw [hrun]
  exact resolveTo_empty _ _

end Applied

/-! ## 3. Evaluation -/

/-- A primitive: it takes a number of plain values and may give one. -/
structure Prim (B : Type) where
  arity : Nat
  run : List B → Option B

/-- Values: plain ones, primitives with the arguments that they were given so far, and functions with what the names in
    them mean. -/
inductive Val (B : Type) where
  | base (b : B)
  | prim (p : Prim B) (args : List B)
  | closure (params : List String) (body : Applied) (scope : List (String × Val B))

structure World (B : Type) where
  const : Constant → B
  free : String → Option (B ⊕ Prim B)

variable {B : Type}

/-- Give parameters values, one after another. -/
def bindAll : List String → List (Val B) → List (String × Val B) → List (String × Val B)
  | x :: xs, v :: vs, scope => bindAll xs vs ((x, v) :: scope)
  | _, _, scope => scope

def World.lookup (world : World B) (scope : List (String × Val B)) (x : String) : Option (Val B) :=
  match scope.lookup x with
  | some v => some v
  | none => (world.free x).map fun
    | .inl b => .base b
    | .inr p => .prim p []

/-- Evaluation. A primitive that is called with as many arguments as it takes runs. If calls need not be exact, it may
    also be called with one argument, which it keeps until it has all. -/
inductive Evals (world : World B) (exact : Bool) : List (String × Val B) → Applied → Val B → Prop where
  | name {scope x v} (h : world.lookup scope x = some v) : Evals world exact scope (.name x) v
  | const {scope} (c : Constant) : Evals world exact scope (.const c) (.base (world.const c))
  | fn {scope} (xs : List String) (b : Applied) : Evals world exact scope (.fn xs b) (.closure xs b scope)
  | closure {scope f as vs xs b outer v} (hf : Evals world exact scope f (.closure xs b outer))
    (hlen : as.length = vs.length) (has : ∀ p ∈ as.zip vs, Evals world exact scope p.1 p.2)
    (hxs : xs.length = vs.length) (hb : Evals world exact (bindAll xs vs outer) b v) :
      Evals world exact scope (.call f as) v
  | prim {scope f as p bs b} (hf : Evals world exact scope f (.prim p [])) (hlen : as.length = bs.length)
    (has : ∀ q ∈ as.zip bs, Evals world exact scope q.1 (.base q.2)) (hbs : bs.length = p.arity)
    (hb : p.run bs = some b) : Evals world exact scope (.call f as) (.base b)
  | more {scope f a p bs b} (he : exact = false) (hf : Evals world exact scope f (.prim p bs))
    (ha : Evals world exact scope a (.base b)) (hbs : bs.length + 1 ≠ p.arity) :
      Evals world exact scope (.call f [a]) (.prim p (bs ++ [b]))
  | last {scope f a p bs b c} (he : exact = false) (hf : Evals world exact scope f (.prim p bs))
    (ha : Evals world exact scope a (.base b)) (hbs : bs.length + 1 = p.arity) (hc : p.run (bs ++ [b]) = some c) :
    Evals world exact scope (.call f [a]) (.base c)

mutual

/-- The value of an expression and that of its curried form. -/
inductive Same : Val B → Val B → Prop where
  | base (b : B) : Same (.base b) (.base b)
  | prim (p : Prim B) : Same (.prim p []) (.prim p [])
  | closure {xs xs' b b' scope scope'} (h : (Applied.fn xs b).curried = .fn xs' b') (hs : Scopes scope scope') :
    Same (.closure xs b scope) (.closure xs' b' scope')

/-- The same names, with values that belong together. -/
inductive Scopes : List (String × Val B) → List (String × Val B) → Prop where
  | nil : Scopes [] []
  | cons {v v' scope scope'} (x : String) (h : Same v v') (hs : Scopes scope scope') :
    Scopes ((x, v) :: scope) ((x, v') :: scope')

end

variable {world : World B} {scope scope' : List (String × Val B)}

theorem Scopes.bindAll {vs' : List (Val B)} (hs : Scopes scope scope')
    (h : Forall₂ Same vs vs') : Scopes (bindAll xs vs scope) (bindAll xs vs' scope') := by
  induction h generalizing xs scope scope' with
  | nil => cases xs <;> exact hs
  | cons h _ ih =>
    cases xs with
    | nil => exact hs
    | cons x xs => exact ih (.cons x h hs)

theorem Scopes.lookup (hs : Scopes scope scope') (h : world.lookup scope x = some v) :
    ∃ v', world.lookup scope' x = some v' ∧ Same v v' := by
  have hcons : ∀ (y : String) (v : Val B) scope, world.lookup ((y, v) :: scope) x =
      if x == y then some v else world.lookup scope x := by
    intro y v scope
    unfold World.lookup
    rw [lookup_cons]
    cases x == y <;> rfl
  induction scope generalizing scope' with
  | nil =>
    cases hs
    obtain ⟨w, _, rfl⟩ := Option.map_eq_some_iff.mp h
    cases w with
    | inl b => exact ⟨_, h, .base b⟩
    | inr p => exact ⟨_, h, .prim p⟩
  | cons _ scope ih =>
    cases hs with
    | cons y hv hs =>
      rw [hcons] at h ⊢
      split at h
      · obtain rfl := Option.some.inj h
        exact ⟨_, by simp_all, hv⟩
      · obtain ⟨v', hv', hsame⟩ := ih hs h
        exact ⟨v', by simp_all, hsame⟩

variable {g : Applied} {as : List Applied}

theorem evals_feed_closure {w : Val B} (hg : Evals world false scope g (.closure [x] (.nest xs b) scope'))
    (ha : Evals world false scope a v) (has : Forall₂ (Evals world false scope) as vs) (hlen : xs.length = vs.length)
    (hb : Evals world false (bindAll (x :: xs) (v :: vs) scope') b w) :
    Evals world false scope (.feed (.call g [a]) as) w := by
  induction has generalizing g a x xs v scope' with
  | nil =>
    have harg : ∀ p ∈ [a].zip [v], Evals world false scope p.1 p.2 := by simpa using ha
    cases xs with
    | nil => exact .closure hg rfl harg rfl hb
    | cons => cases hlen
  | @cons a' v' as vs ha' _ ih =>
    have harg : ∀ p ∈ [a].zip [v], Evals world false scope p.1 p.2 := by simpa using ha
    match xs, hlen with
    | y :: ys, hlen => exact ih (.closure hg rfl harg rfl (.fn [y] _)) ha' (Nat.succ.inj hlen) hb

theorem evals_feed_prim {p : Prim B} {b c : B} {args bs : List B}
    (hg : Evals world false scope g (.prim p args)) (ha : Evals world false scope a (.base b))
    (has : Forall₂ (fun a b => Evals world false scope a (.base b)) as bs)
    (hlen : args.length + 1 + bs.length = p.arity) (hc : p.run (args ++ b :: bs) = some c) :
    Evals world false scope (.feed (.call g [a]) as) (.base c) := by
  induction has generalizing g a b args with
  | nil => exact .last rfl hg ha hlen hc
  | @cons a' b' as bs ha' _ ih =>
    rw [length_cons] at hlen
    refine ih (.more rfl hg ha (by omega)) ha' ?_ (by simpa using hc)
    simp only [length_append, length_cons, length_nil]
    omega

theorem exists_forall₂ {α β γ : Type} {R : α → γ → Prop} {S : β → γ → Prop} {as : List α} {bs : List β}
    (hlen : as.length = bs.length) (h : ∀ p ∈ as.zip bs, ∃ c, R p.1 c ∧ S p.2 c) :
    ∃ cs, Forall₂ R as cs ∧ Forall₂ S bs cs := by
  induction as generalizing bs with
  | nil =>
    obtain rfl := length_eq_zero_iff.mp hlen.symm
    exact ⟨[], .nil, .nil⟩
  | cons a as ih =>
    match bs, hlen with
    | b :: bs, hlen =>
      obtain ⟨⟨c, hr, hs⟩, h⟩ := forall_mem_cons.mp h
      obtain ⟨cs, hrs, hss⟩ := ih (Nat.succ.inj hlen) h
      exact ⟨c :: cs, .cons hr hrs, .cons hs hss⟩

/-- **The curried form of an expression has the value that belongs to the value of the expression.** -/
theorem Evals.curried {t : Applied} (h : Evals world true scope t v) (hs : Scopes scope scope') :
    ∃ v', Evals world false scope' t.curried v' ∧ Same v v' := by
  induction h generalizing scope' with
  | name h =>
    obtain ⟨v', hv, hsame⟩ := hs.lookup h
    rw [Applied.curried]
    exact ⟨v', .name hv, hsame⟩
  | const c =>
    rw [Applied.curried]
    exact ⟨_, .const c, .base _⟩
  | fn xs b =>
    obtain ⟨xs', b', h⟩ : ∃ xs' b', (Applied.fn xs b).curried = .fn xs' b' := by
      rw [Applied.curried]
      cases xs <;> exact ⟨_, _, rfl⟩
    rw [h]
    exact ⟨_, .fn xs' b', .closure h hs⟩
  | @closure _ f as vs xs b outer v _ hlen _ hxs _ ihf ihas ihb =>
    obtain ⟨_, hf, hsame⟩ := ihf hs
    cases hsame with
    | closure hcur houter =>
      obtain ⟨vs', has, hvs⟩ := exists_forall₂ (R := fun a v' => Evals world false scope' a.curried v') hlen
        fun p hp => ihas p hp hs
      obtain ⟨v', hb, hsame⟩ := ihb (houter.bindAll hvs)
      refine ⟨v', ?_, hsame⟩
      simp only [Applied.curried] at hcur ⊢
      have hlen' := has.length_eq
      cases has with
      | nil =>
        obtain rfl : xs = [] := length_eq_zero_iff.mp (hxs.trans hlen.symm)
        obtain ⟨rfl, rfl⟩ := Applied.fn.inj hcur
        exact .closure hf length_nil nofun rfl hb
      | @cons a v₁ as vs' ha has =>
        simp only [length_cons] at hlen hlen'
        cases xs with
        | nil =>
          rw [length_nil] at hxs
          omega
        | cons x xs =>
          obtain ⟨rfl, rfl⟩ := Applied.fn.inj hcur
          rw [length_cons] at hxs
          exact evals_feed_closure hf ha (forall₂_map_left_iff.mpr has) (by omega) hb
  | @prim _ f as p bs b _ hlen _ hbs hb ihf ihas =>
    obtain ⟨_, hf, hsame⟩ := ihf hs
    cases hsame
    have has : Forall₂ (fun a b => Evals world false scope' a.curried (.base b)) as bs := by
      refine forall₂_iff_zip.mpr ⟨hlen, fun {a b} hp => ?_⟩
      obtain ⟨_, ha, hsame⟩ := ihas (a, b) hp hs
      cases hsame
      exact ha
    refine ⟨_, ?_, .base b⟩
    rw [Applied.curried]
    cases has with
    | nil => exact .prim hf length_nil nofun hbs hb
    | @cons a c as bs ha has =>
      refine evals_feed_prim hf ha (forall₂_map_left_iff.mpr has) ?_ hb
      simp only [length_cons, length_nil] at hbs ⊢
      omega
  | more he | last he => cases he

/-- **Currying keeps evaluation.** For every expression of names, constants, functions and calls, the pass gives an
    expression in which no function has more than one parameter and no call more than one argument, and which evaluates
    to a plain value if the expression evaluates to it with exact calls, whatever constants and free names are. -/
theorem currying_evals (t : Applied) : ∃ u : Applied, (currying.run { term := t.expr }).resolved = u.expr ∧ u.Unary ∧
    ∀ (B : Type) (world : World B) (b : B), Evals world true [] t (.base b) → Evals world false [] u (.base b) := by
  refine ⟨t.curried, t.currying_resolved, t.unary_curried, fun B world b h => ?_⟩
  obtain ⟨_, hu, hsame⟩ := h.curried .nil
  cases hsame
  exact hu

end PuzzlePrograms.Pass
