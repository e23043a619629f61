import Mathlib.Data.List.Forall2
import PuzzlePrograms.Proofs.LoopState

/-!
# What statements and expressions do

The meaning of functions without loops, and of the expressions that they are flattened to.

* A `Machine` says what names, operators and functions do to the world; a run also keeps the list of all
  calls that have been made;
* `Machine.value` evaluates an expression. A function that stands where it is called binds its parameters
  in the scope around it;
* `Machine.execBlock` runs statements, which set variables of one scope: a local variable that has no value
  yet is not looked up elsewhere;
* `wrapBlock` is the expression for statements around what comes after them. Where the statements return a
  value, the expression has this value and makes the same calls (`execBlock_wrapBlock`).
-/

namespace PuzzlePrograms.Flatten

open List Source

/-! ## 1. Machines -/

/-- What names, operators and functions mean; each may fail, and may change the world. -/
structure Machine (V W : Type) where
  global : String → W → Option V
  whole : Int → V
  nothing : V
  binary : BinOp → V → V → W → Option (V × W)
  /-- The operator in an assignment that changes a variable; it may change the value in place. -/
  update : BinOp → V → V → W → Option (V × W)
  compare : CmpOp → V → V → W → Option (V × W)
  truth : V → W → Option (Bool × W)
  call : V → List V → W → Option (V × W)

/-- The world, and all calls that have been made, each with its arguments. -/
structure Trace (V W : Type) where
  world : W
  calls : List (V × List V) := []

abbrev Run (V W α : Type) := StateT (Trace V W) Option α

/-- The names that have values. The names in `locals` are looked up nowhere else. -/
structure Scope (V : Type) where
  locals : List String := []
  bound : String → Option V := fun _ => none

namespace Scope

variable {V : Type}

def set (ρ : Scope V) (x : String) (v : V) : Scope V := { ρ with bound := fun y => if y = x then some v else ρ.bound y }

/-- The same values where every name may be looked up outside. -/
def lexical (ρ : Scope V) : Scope V := { ρ with locals := [] }

/-- The scope of a function with parameters, some of which have a value if no argument is given. -/
def enter (ρ : Scope V) (names : List String) (defaults args : List V) : Option (Scope V) :=
  let missing := names.length - args.length
  if args.length ≤ names.length ∧ missing ≤ defaults.length then
    some ((names.zip (args ++ defaults.drop (defaults.length - missing))).foldl (fun ρ p => ρ.set p.1 p.2) ρ)
  else none

end Scope

namespace Machine

variable {V W : Type} (m : Machine V W)

def perform {α : Type} (f : W → Option (α × W)) : Run V W α := fun s =>
  (f s.world).map fun p => (p.1, { s with world := p.2 })

def look (ρ : Scope V) (x : String) : Run V W V := fun s =>
  match ρ.bound x with
  | some v => some (v, s)
  | none => if ρ.locals.contains x then none else (m.global x s.world).map (·, s)

def invoke (f : V) (vs : List V) : Run V W V := do
  modify fun s => { s with calls := s.calls ++ [(f, vs)] }
  perform (m.call f vs)

def inSeq (xs : List (Run V W V)) : Run V W (List V) := xs.mapM id

/-- Comparisons one after another, up to the first that does not hold. -/
def chain (left : V) : List (CmpOp × Run V W V) → Run V W V
  | [] => pure left
  | (o, x) :: rest => do
    let right ← x
    let v ← perform (m.compare o left right)
    match rest with
    | [] => return v
    | rest => if ← perform (m.truth v) then chain right rest else return v

mutual

def value (ρ : Scope V) : Expr → Run V W V
  | .name x => m.look ρ x
  | .const (.int i) => pure (m.whole i)
  | .const .none => pure m.nothing
  | .binOp a o b => do
    let x ← value ρ a
    let y ← value ρ b
    perform (m.binary o x y)
  | .compare a os bs => do
    let x ← value ρ a
    m.chain x (os.zip (values ρ bs))
  | .ifExp c t e => do
    let x ← value ρ c
    if ← perform (m.truth x) then value ρ t else value ρ e
  | .call (.lambda (.params [] ps .absent [] [] .absent ds) b) as [] => do
    let defaults ← inSeq (values ρ ds)
    let args ← inSeq (values ρ as)
    match ρ.enter (ps.map paramName) defaults args with
    | some ρ' => value ρ' b
    | none => failure
  | .call f as [] => do
    let g ← value ρ f
    let vs ← inSeq (values ρ as)
    m.invoke g vs
  -- the last element of a list
  | .subscript (.list es) (.unaryOp .minus (.const (.int 1))) => do
    match (← inSeq (values ρ es)).getLast? with
    | some v => return v
    | none => failure
  | _ => failure

def values (ρ : Scope V) : List Expr → List (Run V W V)
  | [] => []
  | e :: es => value ρ e :: values ρ es

end

/-- The value of a function for some arguments. -/
def callLambda : Expr → List V → Run V W V
  | .lambda (.params [] ps .absent [] [] .absent ds) b, args => do
    let defaults ← inSeq (m.values {} ds)
    match ({} : Scope V).enter (ps.map paramName) defaults args with
    | some ρ => m.value ρ b
    | none => failure
  | _, _ => failure

inductive Outcome (V : Type) where
  | returned (v : V)
  | going (ρ : Scope V)

mutual

def execStmt (ρ : Scope V) : Stmt → Run V W (Outcome V)
  | .assign [.name x] e => do
    let v ← m.value ρ e
    return .going (ρ.set x v)
  | .augAssign (.name x) o e => do
    let a ← m.look ρ x
    let b ← m.value ρ e
    let v ← perform (m.update o a b)
    return .going (ρ.set x v)
  | .expr e => do
    let _ ← m.value ρ e
    return .going ρ
  | .pass => return .going ρ
  | .return e => do return .returned (← m.value ρ e)
  | .if c body orelse => do
    let x ← m.value ρ c
    if ← perform (m.truth x) then execBlock ρ body else execBlock ρ orelse
  | _ => failure

def execBlock (ρ : Scope V) : List Stmt → Run V W (Outcome V)
  | [] => return .going ρ
  | s :: ss => do
    match ← execStmt ρ s with
    | .going ρ' => execBlock ρ' ss
    | .returned v => return .returned v

end

/-- Call the function that a statement defines. Its parameters and all names that its body binds are
    local. -/
def callDef : Stmt → List V → Run V W V
  | .functionDef false _ (.params [] ps .absent [] [] .absent ds) body [] _, args => do
    let defaults ← inSeq (m.values {} ds)
    let ρ : Scope V := { locals := ps.map paramName ++ allBoundIn body }
    match ρ.enter (ps.map paramName) defaults args with
    | some ρ =>
      match ← m.execBlock ρ body with
      | .returned v => return v
      | .going _ => return m.nothing
    | none => failure
  | _, _ => failure

end Machine

/-! ## 2. The fragment -/

/-- Expressions of names, whole numbers, calls of names, operators and comparisons. -/
inductive Simple : Expr → Prop where
  | name (x : Ident) : Simple (.name x.word)
  | whole (n : Nat) : Simple (.const (.int n))
  | call (f : Ident) {as : List Expr} (has : ∀ a ∈ as, Simple a) :
    Simple (.call (.name f.word) as [])
  | binary {a b : Expr} {o : BinOp} (ho : o ≠ .matMul) (ha : Simple a) (hb : Simple b) :
    Simple (.binOp a o b)
  | compare {a : Expr} {os : List CmpOp} {bs : List Expr} (ha : Simple a) (hbs : ∀ b ∈ bs, Simple b)
    (hlen : os.length = bs.length) (hne : bs ≠ []) : Simple (.compare a os bs)

/-- Statements without loops that set single names. -/
inductive Plain : Stmt → Prop where
  | assign (x : Ident) {e : Expr} (he : Simple e) : Plain (.assign [.name x.word] e)
  | update (x : Ident) {o : BinOp} {e : Expr} (ho : o ≠ .matMul) (he : Simple e) :
    Plain (.augAssign (.name x.word) o e)
  | call (f : Ident) {as : List Expr} (has : ∀ a ∈ as, Simple a) :
    Plain (.expr (.call (.name f.word) as []))
  | pass : Plain .pass
  | return {e : Expr} (he : Simple e) : Plain (.return e)
  | if {c : Expr} {body orelse : List Stmt} (hc : Simple c) (hb : ∀ s ∈ body, Plain s)
    (ho : ∀ s ∈ orelse, Plain s) : Plain (.if c body orelse)

mutual

/-- Whether every path through a statement ends in a `return`. -/
def returns : Stmt → Bool
  | .return _ => true
  | .if _ body orelse => anyReturns body && anyReturns orelse
  | _ => false

/-- Whether every path through some statements ends in a `return`. -/
def anyReturns : List Stmt → Bool
  | [] => false
  | s :: ss => returns s || anyReturns ss

end

/-! ## 3. Statements as expressions -/

/-- A function of one parameter that is called where it stands. -/
def letIn (x : String) (e b : Expr) : Expr := .call (.lambda (.oneParam (.param x .absent)) b) [e] []

/-- The second of two expressions, after the first. -/
def after (a b : Expr) : Expr := .subscript (.list [a, b]) (.unaryOp .minus (.const (.int 1)))

/-- The expression for what comes after a statement; without one it is nothing. -/
def orNothing (k : Option Expr) : Expr := k.getD (.const .none)

mutual

/-- The expression for a statement around the expression for what comes after it. -/
def wrapStmt (k : Option Expr) : Stmt → Option Expr
  | .assign [.name x] e => some (letIn x e (orNothing k))
  | .augAssign (.name x) o e => some (letIn x (.binOp (.name x) o e) (orNothing k))
  | .expr e =>
    match k with
    | none => some e
    | some b => some (after e b)
  | .return e => some e
  | .if c body orelse =>
    some (.ifExp c (orNothing (wrapBlock k body)) (orNothing (wrapBlock k orelse)))
  | _ => k

def wrapBlock (k : Option Expr) : List Stmt → Option Expr
  | [] => k
  | s :: ss => wrapStmt (wrapBlock k ss) s

end

/-! ## 4. Runs -/

namespace Machine

section Runs

variable {V W α β : Type} {x y : Run V W α} {f g : α → Run V W β} {s s' : Trace V W}

theorem bind_eq_some {b : β} (h : (x >>= f) s = some (b, s')) : ∃ a s₁, x s = some (a, s₁) ∧ f a s₁ = some (b, s') := by
  obtain ⟨⟨a, s₁⟩, hx, hf⟩ := Option.bind_eq_some_iff.mp h
  exact ⟨a, s₁, hx, hf⟩

theorem bind_some {a : α} {s₁ : Trace V W} (h : x s = some (a, s₁)) : (x >>= f) s = f a s₁ := by
  show (x s).bind _ = _
  rw [h]
  rfl

/-- One run does what another does wherever the other succeeds. -/
def Refines (x y : Run V W α) : Prop := ∀ s r, x s = some r → y s = some r

theorem Refines.rfl : Refines x x := fun _ _ h => h

theorem Refines.trans {z : Run V W α} (h : Refines x y) (h' : Refines y z) : Refines x z :=
  fun s r hr => h' s r (h s r hr)

theorem Refines.bind (h : Refines x y) (hf : ∀ a, Refines (f a) (g a)) : Refines (x >>= f) (y >>= g) := by
  rintro s ⟨b, s'⟩ hr
  obtain ⟨a, s₁, hx, hfa⟩ := bind_eq_some hr
  exact (bind_some (h s _ hx)).trans (hf a s₁ _ hfa)

end Runs

variable {V W : Type} {m : Machine V W} {ρ : Scope V}

theorem values_eq_map (es : List Expr) : m.values ρ es = es.map (m.value ρ) := by
  induction es with
  | nil => rfl
  | cons e es ih => rw [values, ih, map_cons]

theorem inSeq_cons (x : Run V W V) (xs : List (Run V W V)) :
    inSeq (x :: xs) = (do let v ← x; let vs ← inSeq xs; return v :: vs) := by
  unfold inSeq
  rw [mapM_cons]
  rfl

theorem Refines.inSeq (h : Forall₂ Refines xs ys) : Refines (inSeq xs) (inSeq ys) := by
  induction h with
  | nil => exact .rfl
  | cons h _ ih =>
    rw [inSeq_cons, inSeq_cons]
    exact h.bind fun _ => ih.bind fun _ => .rfl

theorem Refines.chain {os : List CmpOp} (h : Forall₂ Refines xs ys)
    (left : V) : Refines (m.chain left (os.zip xs)) (m.chain left (os.zip ys)) := by
  induction h generalizing os left with
  | nil => exact .rfl
  | @cons x y xs ys hxy hs ih =>
    cases os with
    | nil => exact .rfl
    | cons o os =>
      rw [zip_cons_cons, zip_cons_cons, Machine.chain, Machine.chain]
      refine hxy.bind fun right => Refines.rfl.bind fun v => ?_
      cases os with
      | nil => exact .rfl
      | cons o' os =>
        cases hs with
        | nil => exact .rfl
        | cons hxy' hs =>
          refine Refines.rfl.bind fun b => ?_
          cases b with
          | false => exact .rfl
          | true => exact ih right

theorem look_lexical (x : String) : Refines (m.look ρ x) (m.look ρ.lexical x) := by
  intro s r h
  unfold look Scope.lexical at *
  cases hb : ρ.bound x with
  | some v =>
    rw [hb] at h
    exact h
  | none =>
    rw [hb] at h
    simp only at h ⊢
    split at h
    · cases h
    · exact h

theorem value_lexical {e : Expr} (he : Simple e) : Refines (m.value ρ e) (m.value ρ.lexical e) := by
  have hall : ∀ {es : List Expr}, (∀ e ∈ es, Refines (m.value ρ e) (m.value ρ.lexical e)) →
      Forall₂ Refines (m.values ρ es) (m.values ρ.lexical es) := by
    intro es hes
    rw [values_eq_map, values_eq_map, forall₂_map_left_iff, forall₂_map_right_iff]
    exact forall₂_same.mpr hes
  induction he with
  | name x => exact look_lexical x.word
  | whole n => exact .rfl
  | call f _ ih =>
    exact (look_lexical f.word).bind fun _ => (Refines.inSeq (hall ih)).bind fun _ => .rfl
  | binary _ _ _ iha ihb => exact iha.bind fun _ => ihb.bind fun _ => .rfl
  | compare _ _ _ _ iha ihb => exact iha.bind fun left => .chain (hall ihb) left

/-! ## 5. Statements that return -/

/-- A run that ends, if it does, with a value that is returned. -/
def Returns (x : Run V W (Outcome V)) : Prop := ∀ s r, x s = some r → ∃ v, r.1 = .returned v

theorem Returns.bind {α : Type} {x : Run V W α} {f : α → Run V W (Outcome V)} (h : ∀ a, Returns (f a)) :
    Returns (x >>= f) := by
  rintro s ⟨out, s'⟩ hr
  obtain ⟨a, s₁, -, hf⟩ := bind_eq_some hr
  exact h a s₁ _ hf

theorem Returns.returned (v : V) : Returns (pure (.returned v) : Run V W (Outcome V)) := by
  rintro s r hr
  cases hr
  exact ⟨v, rfl⟩

theorem Refines.after {β : Type} {x : Run V W (Outcome V)} (hx : Returns x) {f g : Outcome V → Run V W β}
    (h : ∀ v, Refines (f (.returned v)) (g (.returned v))) : Refines (x >>= f) (x >>= g) := by
  rintro s ⟨b, s'⟩ hr
  obtain ⟨out, s₁, hxs, hf⟩ := bind_eq_some hr
  obtain ⟨v, hv⟩ := hx s _ hxs
  cases hv
  exact (bind_some hxs).trans (h v s₁ _ hf)

theorem execBlock_cons (s : Stmt) (ss : List Stmt) : m.execBlock ρ (s :: ss) = m.execStmt ρ s >>= fun
      | .going ρ' => m.execBlock ρ' ss
      | .returned v => pure (.returned v) := by
  rw [execBlock]

theorem execBlock_returns (hr : anyReturns ss = true)
    (h : ∀ s ∈ ss, returns s = true → ∀ ρ : Scope V, Returns (m.execStmt ρ s)) : Returns (m.execBlock ρ ss) := by
  induction ss generalizing ρ with
  | nil => exact absurd hr Bool.false_ne_true
  | cons s ss ih =>
    rw [anyReturns, Bool.or_eq_true] at hr
    rw [execBlock_cons]
    rcases hr with hr | hr
    · rintro t ⟨out, t'⟩ hx
      obtain ⟨out', t₁, hs, hrest⟩ := bind_eq_some hx
      obtain ⟨v, hv⟩ := h s mem_cons_self hr ρ t _ hs
      cases hv
      exact Returns.returned v t₁ _ hrest
    · refine .bind fun out => ?_
      cases out with
      | going ρ' => exact ih hr fun s' hs' => h s' (mem_cons_of_mem _ hs')
      | returned v => exact .returned v

theorem execStmt_returns {s : Stmt} (hp : Plain s) (hr : returns s = true) : Returns (m.execStmt ρ s) := by
  induction hp generalizing ρ with
  | «return» _ => exact .bind .returned
  | «if» _ _ _ ihb iho =>
    rw [returns, Bool.and_eq_true] at hr
    refine .bind fun _ => .bind fun b => ?_
    cases b with
    | true => exact execBlock_returns hr.1 fun s hs hr _ => ihb s hs hr
    | false => exact execBlock_returns hr.2 fun s hs hr _ => iho s hs hr
  | _ => cases hr

/-! ## 6. Statements and their expressions -/

theorem value_letIn (x : String) (e b : Expr) :
    m.value ρ (letIn x e b) = m.value ρ e >>= fun v => m.value (ρ.set x v) b := by
  simp [letIn, Expr.oneParam, value, values, inSeq, Scope.enter, paramName]

theorem value_after (a b : Expr) : m.value ρ (after a b) = m.value ρ a >>= fun _ => m.value ρ b := by
  simp [after, value, values, inSeq]

def finish (m : Machine V W) (k : Option Expr) : Outcome V → Run V W V
  | .returned v => pure v
  | .going ρ => m.value ρ.lexical (orNothing k)

theorem execBlock_cons_finish (k : Option Expr) (s : Stmt) (ss : List Stmt) :
    (m.execBlock ρ (s :: ss) >>= m.finish k) = m.execStmt ρ s >>= fun
      | .going ρ' => m.execBlock ρ' ss >>= m.finish k
      | .returned v => pure v := by
  rw [execBlock_cons, bind_assoc]
  congr 1
  funext out
  cases out <;> rfl

theorem wrapStmt_isSome {s : Stmt} (hp : Plain s) (h : k.isSome = true ∨ returns s = true) :
    (wrapStmt k s).isSome = true := by
  cases hp with
  | pass => exact h.resolve_right Bool.false_ne_true
  | call f _ => cases k <;> rfl
  | _ => rfl

theorem wrapBlock_isSome (hp : ∀ s ∈ ss, Plain s) (h : k.isSome = true ∨ anyReturns ss = true) :
    (wrapBlock k ss).isSome = true := by
  induction ss with
  | nil => exact h.resolve_right Bool.false_ne_true
  | cons s ss ih =>
    obtain ⟨hs, hss⟩ := forall_mem_cons.mp hp
    rw [anyReturns, Bool.or_eq_true, or_left_comm] at h
    rw [wrapBlock]
    exact wrapStmt_isSome hs (h.symm.imp_left (ih hss))

theorem refines_wrapBlock (hp : ∀ s ∈ ss, Plain s) (hk : k.isSome = true ∨ anyReturns ss = true)
    (h : ∀ s ∈ ss, ∀ (k : Option Expr) (ρ : Scope V), k.isSome = true ∨ returns s = true →
      Refines (m.execStmt ρ s >>= m.finish k) (m.value ρ.lexical (orNothing (wrapStmt k s)))) :
    Refines (m.execBlock ρ ss >>= m.finish k) (m.value ρ.lexical (orNothing (wrapBlock k ss))) := by
  induction ss generalizing ρ with
  | nil => exact .rfl
  | cons s ss ih =>
    obtain ⟨hs, hss⟩ := forall_mem_cons.mp hp
    rw [anyReturns, Bool.or_eq_true, or_left_comm] at hk
    rw [execBlock_cons_finish, wrapBlock]
    have hstep := h s mem_cons_self (wrapBlock k ss) ρ (hk.symm.imp_left (wrapBlock_isSome hss))
    refine .trans ?_ hstep
    rcases hk with hr | hk
    · -- what comes after the statement is never reached
      exact .after (execStmt_returns hs hr) fun _ => .rfl
    · refine Refines.rfl.bind fun out => ?_
      cases out with
      | returned v => exact .rfl
      | going ρ' => exact ih hss hk fun s' hs' => h s' (mem_cons_of_mem _ hs')

/-- A statement does as its expression, where a change of a name is as good as an assignment. -/
theorem refines_wrapStmt (hu : m.update = m.binary) {s : Stmt} (hp : Plain s)
    (hk : k.isSome = true ∨ returns s = true) :
    Refines (m.execStmt ρ s >>= m.finish k) (m.value ρ.lexical (orNothing (wrapStmt k s))) := by
  induction hp generalizing ρ k with
  | assign x he =>
    simp only [execStmt, bind_assoc, pure_bind, finish, wrapStmt, orNothing, Option.getD_some]
    rw [value_letIn]
    exact (value_lexical he).bind fun _ => .rfl
  | update x _ he =>
    simp only [execStmt, bind_assoc, pure_bind, finish, wrapStmt, orNothing, Option.getD_some, hu]
    rw [value_letIn]
    simp only [value, bind_assoc]
    exact (look_lexical x.word).bind fun _ => (value_lexical he).bind fun _ => .rfl
  | call f has =>
    obtain ⟨b, rfl⟩ := Option.isSome_iff_exists.mp (hk.resolve_right Bool.false_ne_true)
    simp only [execStmt, bind_assoc, pure_bind, finish, wrapStmt, orNothing, Option.getD_some]
    rw [value_after]
    exact (value_lexical (.call f has)).bind fun _ => .rfl
  | pass => exact .rfl
  | «return» he =>
    simp only [execStmt, bind_assoc, pure_bind, finish, wrapStmt, orNothing, Option.getD_some, bind_pure]
    exact value_lexical he
  | «if» hc hb ho ihb iho =>
    simp only [execStmt, bind_assoc, wrapStmt, orNothing, Option.getD_some, value]
    rw [returns, Bool.and_eq_true] at hk
    refine (value_lexical hc).bind fun _ => Refines.rfl.bind fun b => ?_
    cases b with
    | true => exact refines_wrapBlock hb (hk.imp_right (·.1)) fun s hs _ _ h => ihb s hs h
    | false => exact refines_wrapBlock ho (hk.imp_right (·.2)) fun s hs _ _ h => iho s hs h

/-- **Statements that return do as their expression**, whatever values the names have at first. -/
theorem execBlock_wrapBlock (hu : m.update = m.binary) (hp : ∀ s ∈ ss, Plain s) (hr : anyReturns ss = true) :
    Refines (m.execBlock ρ ss >>= m.finish none) (m.value ρ.lexical (orNothing (wrapBlock none ss))) :=
  refines_wrapBlock hp (.inr hr) fun s hs _ _ hk => refines_wrapStmt hu (hp s hs) hk

/-! ## 7. Functions -/

theorem lexical_foldl_set (ps : List (String × V)) : (ps.foldl (fun ρ p => ρ.set p.1 p.2) ρ).lexical
      = ps.foldl (fun ρ p => ρ.set p.1 p.2) ρ.lexical := by
  induction ps generalizing ρ with
  | nil => rfl
  | cons p ps ih => exact ih

theorem enter_lexical (ρ : Scope V) (names : List String) (defaults args : List V) :
    ρ.lexical.enter names defaults args = (ρ.enter names defaults args).map .lexical := by
  unfold Scope.enter
  dsimp only
  split
  · rw [Option.map_some, lexical_foldl_set]
  · rfl

/-- **A function that returns on every path does as the expression for it.** -/
theorem callDef_refines (hu : m.update = m.binary) {body : List Stmt} (hp : ∀ s ∈ body, Plain s)
    (hr : anyReturns body = true) (name : String) (ps ds : List Expr) (r : Expr) (args : List V) :
    Refines (m.callDef (.functionDef false name (.params [] ps .absent [] [] .absent ds) body [] r) args)
      (m.callLambda (.lambda (.params [] ps .absent [] [] .absent ds) (orNothing (wrapBlock none body))) args) := by
  unfold callDef callLambda
  refine Refines.rfl.bind fun defaults => ?_
  extract_lets ρ
  have henter : ({} : Scope V).enter (ps.map paramName) defaults args
      = (ρ.enter (ps.map paramName) defaults args).map .lexical := enter_lexical ρ ..
  rw [henter]
  cases ρ.enter (ps.map paramName) defaults args with
  | none => exact .rfl
  | some ρ' =>
    exact execBlock_wrapBlock hu hp hr

end Machine

end PuzzlePrograms.Flatten
