import PuzzlePrograms.Proofs.Grouping
import PuzzlePrograms.Proofs.Meaning

/-!
# Functions without loops

The text that a function without loops is flattened to is that of a function which does the same: on all
arguments for which the function returns a value, it has this value and makes the same calls
(`unparse_routine`).

* `Routine` are the functions this is about: plain parameters, statements without loops that return a
  value on every path, and no call of the function itself;
* the text of a block around that of what comes after it writes the expression of `wrapBlock`
  (`flatBody_writes`); `blockNesting` tells how many brackets it takes.
-/

namespace PuzzlePrograms.Flatten

open List Source Expr
open Level (atom test)

attribute [local instance] natZero intZero

variable {e b a : Expr} {n : Nat} {t u : String} {s : Stmt} {c : Cont} {l : Level} {k : Option Expr} {ss : List Stmt}

/-! ## 1. Expressions -/

theorem Simple.proper (h : Simple e) : Proper e ∧ fits e = true ∧ grouped e = true ∧ textLevel e = atom := by
  have hall : ∀ {l : Nat} {es : List Expr}, l ≤ atom →
    (∀ e ∈ es, Proper e ∧ fits e = true ∧ grouped e = true ∧ textLevel e = atom) →
      allFit l es = true ∧ allGrouped es = true := by
    intro l es hl hes
    refine ⟨?_, allGrouped_iff.mpr fun e he => (hes e he).2.2.1⟩
    induction es with
    | nil => rfl
    | cons e es ih =>
      obtain ⟨he, hes⟩ := forall_mem_cons.mp hes
      rw [allFit, he.2.1, he.2.2.2, ih hes, decide_eq_true hl]
      rfl
  induction h with
  | name x => exact ⟨.name x, rfl, rfl, rfl⟩
  | whole n => exact ⟨.whole n, rfl, rfl, rfl⟩
  | @call f as _ ih =>
    obtain ⟨hf, hg⟩ := hall (l := test) (by decide) ih
    have hp : Proper (.call (.name f.word) as (keywords [])) :=
      .call (.name f) rfl (fun a ha => (ih a ha).1) (fun _ h => absurd h not_mem_nil)
    refine ⟨hp, ?_, ?_, rfl⟩
    · rw [fits, hf]
      rfl
    · rw [grouped, hg]
      rfl
  | @binary a b o ho _ _ iha ihb =>
    have hlevel : o.leftLevel ≤ atom ∧ o.rightLevel ≤ atom := by cases o <;> decide
    refine ⟨.binary o iha.1 ihb.1, ?_, ?_, rfl⟩
    · rw [fits, iha.2.1, ihb.2.1, iha.2.2.2, ihb.2.2.2, decide_eq_true hlevel.1, decide_eq_true hlevel.2,
        bne_iff_ne.mpr ho]
      rfl
    · rw [grouped, iha.2.2.1, ihb.2.2.1]
      rfl
  | compare _ _ hlen hne iha ihb =>
    obtain ⟨hf, hg⟩ := hall (l := Level.bitOr) (by decide) ihb
    refine ⟨.compare iha.1 (fun b hb => (ihb b hb).1) hlen hne, ?_, ?_, rfl⟩
    · rw [fits, iha.2.1, iha.2.2.2, hf]
      rfl
    · rw [grouped, iha.2.2.1, hg]
      rfl

theorem Simple.text (h : Simple e) : ∃ t, Yields (exprText [] e) t ∧ Writes atom false e.nesting t e := by
  obtain ⟨hp, hf, hg, hl⟩ := h.proper
  obtain ⟨t, ht⟩ := exists_text hp hf
  have hw := ht.plain (Nat.le_of_eq hl.symm) le_rfl (by decide)
  rw [(regrouped_eq_iff hp).mpr hg] at hw
  exact ⟨t, ht.yields, hw⟩

/-! ## 2. Statements -/

mutual

/-- How many brackets the text of a statement takes around a text that takes `n`. -/
def stmtNesting (n : Nat) : Stmt → Nat
  | .assign _ e | .expr e => max e.nesting n + 1
  | .augAssign t o e => max (binOp t o e).nesting n + 1
  | .return e => e.nesting
  | .if c body orelse => max c.nesting (max (blockNesting n body) (blockNesting n orelse)) + 1
  | _ => n

def blockNesting (n : Nat) : List Stmt → Nat
  | [] => n
  | s :: ss => stmtNesting (blockNesting n ss) s

end

/-- A continuation writes an expression of a level, if there is one. -/
def WritesCont (l : Level) (n : Nat) : Cont → Option Expr → Prop
  | none, none => True
  | some t, some e => Writes l false n t e
  | _, _ => False

theorem WritesCont.text {l' : Level} (h : WritesCont l n c k)
    (hl : test ≤ l') (hle : l' ≤ l) (ha : l ≤ atom) : Writes l' false n c.text (orNothing k) := by
  match c, k, h with
  | none, none, _ => exact Writes.none.undotted.lift (Nat.le_trans hle ha)
  | some _, some _, h => exact h.lift

theorem writes_letIn (x : Ident) (he : Writes atom false n t e) (hb : Writes test false n u b) :
    Writes atom false (n + 1) (constructLambda [(x.word, t)] u) (letIn x.word e b) := by
  have hparams : Writes.WritesParams n [x.word] [(x, none)] := .cons (Writes.param x) .nil
  have hf := (Writes.lambda hparams (pairwise_singleton _ _) hb).round
  have hargs : WritesEach ReadsArg n [t] ([e] ++ []) := .cons he.atTest.argument .nil
  have hvalue : ∀ a ∈ [e], IsValue a := by
    obtain ⟨_, _, hr⟩ := he.cuts
    exact forall_mem_singleton.mpr hr.value
  have hw := (hf.call hargs hvalue (fun _ h => absurd h not_mem_nil)).undotted
  have hword : x.word.isEmpty = false := by simpa using (Writes.name (k := n) x).text_ne
  have htext : "(" ++ Writes.lambdaText (.intercalate ", " [x.word]) u ++ ")" ++ "(" ++
      .intercalate ", " [t] ++ ")" = constructLambda [(x.word, t)] u := by
    simp only [Writes.lambdaText, constructLambda, String.intercalate_singleton, map_cons,
      map_nil, hword, Bool.false_eq_true, if_false, String.append_assoc]
    rfl
  exact htext ▸ hw

theorem writes_after (ha : Writes atom false n t a) (hb : Writes test false n u b) :
    Writes atom false (n + 1) ("[" ++ t ++ ", " ++ u ++ "][-1]") (after a b) := by
  have hlist : WritesEach (Reads test) n [t, u] [a, b] := .cons ha.atTest.cuts (.cons hb.cuts .nil)
  have hlast := (Writes.whole 1).lift.sign (k := n) (o := .minus) (by decide)
  have hw := (Writes.list hlist).subscript hlast.lift.index
  have htext : "[" ++ String.intercalate ", " [t, u] ++ "]" ++ "[" ++
      (UnaryOp.minus.text ++ toString ((1 : Nat) : Int)) ++ "]" = "[" ++ t ++ ", " ++ u ++ "][-1]" := by
    rw [String.intercalate_cons_cons, String.intercalate_singleton]
    simp only [String.append_assoc]
    rfl
  exact htext ▸ hw.undotted

theorem writes_ifExp {v : String} {c : Expr} (ha : Writes atom false n t a) (hc : Writes atom false n u c)
    (hb : Writes atom false n v b) :
    Writes atom false (n + 1) ("(" ++ t ++ " if " ++ u ++ " else " ++ v ++ ")") (.ifExp c a b) := by
  have hw := (ha.lift.ifExp
    hc.lift hb.atTest).round.undotted
  simpa only [String.append_assoc] using hw

/-- What is written for a statement around a continuation. -/
def StmtWrites (l : Level) (s : Stmt) : Prop :=
  ∀ {n : Nat} {c : Cont} {k : Option Expr}, WritesCont l n c k →
    ∃ c', Yields (flatStmt {} c s) c' ∧ WritesCont l (stmtNesting n s) c' (wrapStmt k s)

theorem flatBody_writes (h : ∀ s ∈ ss, counts s = true ∧ StmtWrites l s) (hk : WritesCont l n c k) :
    ∃ c', Yields (flatBody {} c ss) c' ∧ WritesCont l (blockNesting n ss) c' (wrapBlock k ss) := by
  induction ss with
  | nil => exact ⟨c, .pure c, hk⟩
  | cons s ss ih =>
    obtain ⟨⟨hcount, hs⟩, hss⟩ := forall_mem_cons.mp h
    obtain ⟨c₁, hy, hw⟩ := ih hss
    obtain ⟨c₂, hy', hw'⟩ := hs hw
    refine ⟨c₂, ?_, hw'⟩
    rw [flatBody]
    refine hy.bind ?_
    rw [if_pos hcount]
    exact hy'

theorem assign_writes (x : Ident) {m : Nat} (hy : Yields (exprText [] e) t) (ht : Writes atom false m t e)
    (hk : Writes test false n c.text b) :
    Yields (assignText [] [.name x.word] e c) (constructLambda [(x.word, t)] c.text) ∧
    Writes atom false (max m n + 1) (constructLambda [(x.word, t)] c.text) (letIn x.word e b) := by
  refine ⟨?_, writes_letIn x (ht.mono (le_max_left _ _)) (hk.mono (le_max_right _ _))⟩
  have hname : Yields (exprText [] (.name x.word)) x.word := by
    rw [exprText]
    exact .pure _
  exact hname.bind (hy.bind (.pure _))

/-- **A statement around a continuation writes the expression for it.** An `if` needs a continuation that
    is an atom, because it puts it in front of its condition. -/
theorem Plain.writes (h : Plain s) (hl : test ≤ l) (ha : l ≤ atom)
    (hif : l = atom ∨ ∀ c body orelse, s ≠ .if c body orelse) : counts s = true ∧ StmtWrites l s := by
  induction h with
  | @assign x e he =>
    refine ⟨rfl, fun {n c k} hk => ?_⟩
    obtain ⟨t, hy, hw⟩ := he.text
    obtain ⟨hy', hw'⟩ := assign_writes x hy hw (hk.text le_rfl hl ha)
    refine ⟨some _, ?_, hw'.lift⟩
    simp only [flatStmt, simpleText]
    exact hy'.bind (.pure _)
  | @update x o e ho he =>
    refine ⟨rfl, fun {n c k} hk => ?_⟩
    obtain ⟨t, hy, hw⟩ := (Simple.binary ho (.name x) he).text
    obtain ⟨hy', hw'⟩ := assign_writes x hy hw (hk.text le_rfl hl ha)
    refine ⟨some _, ?_, hw'.lift⟩
    simp only [flatStmt, simpleText]
    exact hy'.bind (.pure _)
  | @call f as has =>
    refine ⟨rfl, fun {n c k} hk => ?_⟩
    obtain ⟨t, hy, hw⟩ := (Simple.call f has).text
    cases c with
    | none =>
      cases k with
      | none =>
        refine ⟨some t, ?_, (hw.mono (Nat.le_succ_of_le (le_max_left _ _))).lift⟩
        simp only [flatStmt, simpleText]
        exact hy.bind (.pure _)
      | some b => exact hk.elim
    | some u =>
      cases k with
      | none => exact hk.elim
      | some b =>
        have hcont : Writes l false n u b := hk
        refine ⟨some ("[" ++ t ++ ", " ++ u ++ "][-1]"), ?_, (writes_after (hw.mono (le_max_left _ _))
          (hcont.lift.mono (le_max_right _ _))).lift⟩
        simp only [flatStmt, simpleText]
        refine hy.bind ?_
        split
        next hnone => cases hnone
        next hempty => exact absurd (Option.some.inj hempty) hcont.text_ne
        next hu =>
          cases hu
          exact .pure _
  | pass =>
    refine ⟨rfl, fun {n c k} hk => ⟨c, ?_, hk⟩⟩
    simp only [flatStmt, simpleText]
    exact .pure _
  | @«return» e he =>
    refine ⟨rfl, fun {n c k} hk => ?_⟩
    obtain ⟨t, hy, hw⟩ := he.text
    refine ⟨some t, ?_, hw.lift⟩
    simp only [flatStmt, simpleText, he.proper.1.isValue.2]
    exact hy.bind (.pure _)
  | @«if» c body orelse hc _ _ ihb iho =>
    obtain rfl := hif.resolve_right fun h => h _ _ _ rfl
    refine ⟨rfl, fun {n cont k} hk => ?_⟩
    obtain ⟨a, hya, hwa⟩ := flatBody_writes (fun s hs => ihb s hs (.inl rfl)) hk
    obtain ⟨t, hy, hw⟩ := hc.text
    obtain ⟨b, hyb, hwb⟩ := flatBody_writes (fun s hs => iho s hs (.inl rfl)) hk
    refine ⟨some ("(" ++ a.text ++ " if " ++ t ++ " else " ++ b.text ++ ")"), ?_, ?_⟩
    · rw [flatStmt]
      exact hya.bind (hy.bind (hyb.bind (.pure _)))
    · have hle := le_max_right c.nesting (max (blockNesting n body) (blockNesting n orelse))
      exact writes_ifExp ((hwa.text hl ha ha).mono (Nat.le_trans (le_max_left _ _) hle))
        (hw.mono (le_max_left _ _)) ((hwb.text hl ha ha).mono (Nat.le_trans (le_max_right _ _) hle))

/-! ## 3. Calls -/

theorem exists_of_mem_calledIn {f : Expr} (h : f ∈ calledIn s) : ∃ p ∈ s.withDepth 0, ∃ as ks, p.2 = .call f as ks := by
  obtain ⟨e, he, hcall⟩ := mem_filterMap.mp h
  obtain ⟨p, hp, rfl⟩ := mem_map.mp he
  refine ⟨p, mem_mergeSort.mp hp, ?_⟩
  split at hcall
  next g as ks hp =>
    cases hcall
    exact ⟨as, ks, hp⟩
  next => cases hcall

theorem not_mem_calledIn {f : Expr} (h : ∀ p ∈ s.withDepth 0, ∀ as ks, p.2 ≠ .call f as ks) : f ∉ calledIn s := by
  intro hf
  obtain ⟨p, hp, as, ks, hcall⟩ := exists_of_mem_calledIn hf
  exact h p hp as ks hcall

/-- All calls among some expressions are calls of names. -/
def CallsNames (es : List (Nat × Expr)) : Prop := ∀ p ∈ es, ∀ f as ks, p.2 = .call f as ks → ∃ x, f = .name x

namespace CallsNames

variable {es fs : List (Nat × Expr)} {d : Nat}

theorem nil : CallsNames [] := fun _ h => absurd h not_mem_nil

theorem append (h : CallsNames es) (h' : CallsNames fs) : CallsNames (es ++ fs) := forall_mem_append.mpr ⟨h, h'⟩

theorem cons (h : CallsNames es) (he : ∀ f as ks, e = .call f as ks → ∃ x, f = .name x) : CallsNames ((d, e) :: es) :=
  forall_mem_cons.mpr ⟨he, h⟩

theorem name (x : String) : CallsNames ((name x).withDepth d) := nil.cons nofun

theorem all {as : List Expr} (h : ∀ a ∈ as, ∀ d, CallsNames (a.withDepth d)) : CallsNames (allWithDepth d as) := by
  induction as with
  | nil => exact nil
  | cons a as ih =>
    obtain ⟨ha, has⟩ := forall_mem_cons.mp h
    exact (ha d).append (ih has)

theorem stmts (h : ∀ s ∈ ss, ∀ d, CallsNames (s.withDepth d)) : CallsNames (stmtsWithDepth d ss) := by
  induction ss with
  | nil => exact nil
  | cons s ss ih =>
    obtain ⟨hs, hss⟩ := forall_mem_cons.mp h
    exact (hs d).append (ih hss)

theorem calledIn (h : CallsNames (s.withDepth 0)) : ∀ f ∈ Flatten.calledIn s, ∃ x, f = .name x := by
  intro f hf
  obtain ⟨p, hp, as, ks, hcall⟩ := exists_of_mem_calledIn hf
  exact h p hp f as ks hcall

end CallsNames

theorem Simple.callsNames (h : Simple e) (d : Nat) : CallsNames (e.withDepth d) := by
  induction h generalizing d with
  | name x => exact CallsNames.name x.word
  | whole n => exact CallsNames.nil.cons nofun
  | call f _ ih =>
    refine (((CallsNames.name f.word).append (.all ih)).append .nil).cons ?_
    rintro _ _ _ ⟨⟩
    exact ⟨f.word, rfl⟩
  | binary _ _ _ iha ihb => exact ((iha _).append (ihb _)).cons nofun
  | compare _ _ _ _ iha ihb => exact ((iha _).append (.all ihb)).cons nofun

theorem Plain.callsNames (h : Plain s) (d : Nat) : CallsNames (s.withDepth d) := by
  induction h generalizing d with
  | assign x he => exact ((CallsNames.name x.word).append .nil).append (he.callsNames _)
  | update x _ he => exact (CallsNames.name x.word).append (he.callsNames _)
  | call f has => exact (Simple.call f has).callsNames _
  | pass => exact .nil
  | «return» he => exact he.callsNames _
  | «if» hc _ _ ihb iho => exact ((hc.callsNames _).append (.stmts ihb)).append (.stmts iho)

theorem anyCalled_names {x : String} {fs : List Expr} (h : ∀ f ∈ fs, ∃ y, f = .name y)
    (hx : .name x ∉ fs) : Yields (anyCalled [] x fs) false := by
  induction fs with
  | nil => exact .pure false
  | cons f fs ih =>
    obtain ⟨⟨y, rfl⟩, hfs⟩ := forall_mem_cons.mp h
    have hname : Yields (exprText [] (.name y)) y := by
      rw [exprText]
      exact .pure _
    rw [anyCalled]
    refine hname.bind ?_
    have hyx : (y == x) = false := by simpa using fun hyx : y = x => ne_of_not_mem_cons hx (congrArg name hyx.symm)
    simpa [hyx] using ih hfs (not_mem_of_not_mem_cons hx)

/-! ## 4. Functions -/

/-- The statement that defines a function with plain parameters. -/
def definition (name : Ident) (params : List Ident) (optional : List (Ident × Expr)) (body : List Stmt) : Stmt :=
  .functionDef false name.word (paramsOf (plainParams params optional)) body [] .absent

/-- A function without loops that returns a value on every path and does not call itself. -/
structure Routine where
  name : Ident
  params : List Ident
  /-- The parameters that have a value if no argument is given. -/
  optional : List (Ident × Expr)
  body : List Stmt
  simple : ∀ d ∈ optional, Simple d.2
  plain : ∀ s ∈ body, Plain s
  returns : anyReturns body = true
  notSelf : .name name.word ∉ calledIn (definition name params optional body)

theorem paramText_eq (xs : List Ident) {ds : List (Ident × Expr)} {ts : List String} (hlen : ts.length = ds.length) :
    paramText ((xs ++ ds.map (·.1)).map (·.word)) ts = .intercalate ", " (paramTexts xs ds ts) := by
  have hfirst : (((xs ++ ds.map (·.1)).map (·.word)).length : Int) - ts.length = xs.length := by simp [hlen]
  rw [paramText, hfirst, paramTexts, map_append, zipIdx_append, map_append]
  congr 2
  · -- the index of a parameter without a default is below their number
    refine .trans (map_congr_left fun p hp => ?_) (zipIdx_map_fst 0 _)
    have hlt := snd_lt_of_mem_zipIdx hp
    rw [length_map] at hlt
    exact if_neg (by omega)
  · refine ext_getElem (by simp [hlen]) fun i h h' => ?_
    have hi : i < ts.length := by
      rw [length_zipWith] at h'
      omega
    simp [getElem?_eq_getElem hi]

theorem lambdaText_eq (ps body : String) : Writes.lambdaText ps body =
    "lambda" ++ (if ps.isEmpty then "" else " ") ++ ps ++ ": " ++ body := by
  by_cases hp : ps = ""
  · simp [Writes.lambdaText, hp]
  · simp [Writes.lambdaText, hp, ← String.append_assoc]

theorem exists_texts {es : List Expr} (h : ∀ e ∈ es, Simple e) : ∃ ts, Yields (inOrder (exprTexts [] es)) ts ∧
      Forall₂ (Writes test false (allNesting es)) ts es := by
  induction es with
  | nil => exact ⟨[], .pure [], .nil⟩
  | cons e es ih =>
    obtain ⟨he, hes⟩ := forall_mem_cons.mp h
    obtain ⟨t, hy, hw⟩ := he.text
    obtain ⟨ts, hys, hws⟩ := ih hes
    refine ⟨t :: ts, ?_, .cons (hw.atTest.mono (le_max_left _ _))
      (hws.imp fun _ _ hw => hw.mono (le_max_right _ _))⟩
    rw [exprTexts, inOrder_cons]
    exact hy.bind (hys.bind (.pure _))

section Definitions

variable {name : Ident} {params : List Ident} {optional : List (Ident × Expr)} {body : List Stmt}
  (hsimple : ∀ d ∈ optional, Simple d.2) (hcalls : ∀ s ∈ body, ∀ d, CallsNames (s.withDepth d))

include hsimple hcalls

theorem definition_callsNames (d : Nat) : CallsNames ((definition name params optional body).withDepth d) := by
  have hparam :
    ∀ a ∈ (params ++ optional.map (·.1)).map fun x => param x.word .absent, ∀ d, CallsNames (a.withDepth d) := by
    intro a ha d
    obtain ⟨x, _, rfl⟩ := mem_map.mp ha
    exact CallsNames.nil.cons (by simp)
  have hdefault : ∀ e ∈ optional.map (·.2), ∀ d, CallsNames (e.withDepth d) := by
    intro e he d
    obtain ⟨p, hp, rfl⟩ := mem_map.mp he
    exact (hsimple p hp).callsNames d
  rw [definition, paramsOf_plainParams]
  simp only [Stmt.withDepth, withDepth, allWithDepth, append_nil]
  refine CallsNames.append (((CallsNames.all hparam).append (.all hdefault)).cons ?_) (.stmts hcalls)
  simp

/-- What is written for a function whose body writes an expression. What comes after it does not matter. -/
theorem definition_text (hself : .name name.word ∉ calledIn (definition name params optional body))
    (hy : Yields (flatBody {} none body) c) (hw : Writes test false n c.text e) :
    ∃ t, (∀ k, Yields (flatStmt {} k (definition name params optional body)) (some t)) ∧ Writes test false
    (max (allNesting (optional.map (·.2))) n) t (.lambda (paramsOf (plainParams params optional)) e) := by
  obtain ⟨ts, hys, hws⟩ := exists_texts (forall_mem_map.mpr hsimple)
  have hlen : ts.length = optional.length := by simpa using hws.length_eq
  have hparams := writesParams_paramTexts params (fun d hd => (hsimple d hd).proper.1.isValue.2)
    (hws.imp fun _ _ hw => hw.mono (le_max_left _ n))
  have hcalled := anyCalled_names (definition_callsNames hsimple hcalls 0).calledIn hself
  refine ⟨_, fun k => ?_, .lambda hparams (inOrder_plainParams _ _) (hw.mono (le_max_right _ n))⟩
  have htext : Yields (functionText {} (definition name params optional body) name.word
      (paramsOf (plainParams params optional)) none fun classes => flatBody { classes := classes } none body)
      (Writes.lambdaText (.intercalate ", " (paramTexts params optional ts)) c.text) := by
    unfold functionText
    rw [paramsOf_plainParams]
    refine hys.bind (.bind (.pure []) (hcalled.bind (hy.bind ?_)))
    rw [lambdaText_eq, ← paramText_eq params hlen, map_map]
    exact Yields.pure _
  exact htext.bind (Yields.bind (Yields.pure _) (Yields.pure _))

end Definitions

theorem unparse_definition {name : Ident} {params : List Ident} {optional : List (Ident × Expr)} {body : List Stmt}
    (hy : Yields (flatStmt {} none (definition name params optional body)) (some t)) (s : State) :
    ({ body := some [definition name params optional body], state := s } : Flattener).unparse.1 = .ok t := by
  obtain ⟨n, hrun⟩ := hy { subscripts := s.subscripts }
  have hmodule : flatModule [definition name params optional body] s = .ok t { subscripts := n } := by
    unfold flatModule
    exact (bind_run rfl).trans (bind_run hrun)
  simp only [Flattener.unparse, EStateM.run, hmodule]

namespace Routine

variable (f : Routine)

def stmt : Stmt := definition f.name f.params f.optional f.body

def function : Expr := .lambda (paramsOf (plainParams f.params f.optional)) (orNothing (wrapBlock none f.body))

/-- How many brackets are open at once in the text of the function. -/
def nesting : Nat := max (allNesting (f.optional.map (·.2))) (blockNesting 0 f.body)

/-- **What is written for the function is its expression.** -/
theorem text : ∃ t, (∀ k, Yields (flatStmt {} k f.stmt) (some t)) ∧ Writes test false f.nesting t f.function := by
  have hle : test ≤ atom := by decide
  obtain ⟨c, hy, hw⟩ := flatBody_writes (fun s hs => (f.plain s hs).writes hle le_rfl (.inl rfl))
    (n := 0) (c := none) (k := none) trivial
  exact definition_text f.simple (fun s hs => (f.plain s hs).callsNames) f.notSelf hy
    (hw.text le_rfl hle le_rfl)

theorem callDef_refines {V W : Type} {m : Machine V W} (hu : m.update = m.binary) (args : List V) :
    Machine.Refines (m.callDef f.stmt args) (m.callLambda f.function args) := by
  rw [stmt, definition, function, paramsOf_plainParams]
  exact Machine.callDef_refines hu f.plain f.returns _ _ _ _ _

end Routine

/-- **A function without loops is flattened to a function that does the same.** On all arguments for which
    the function returns a value, the text is that of a function which returns this value and leaves the
    same trace: the same world and the same calls, in the same order. -/
theorem unparse_routine (f : Routine) (hn : f.nesting ≤ bracketLimit) (s : State) :
    ∃ t ps b, ({ body := some [f.stmt], state := s } : Flattener).unparse.1 = .ok t ∧ expression? t =
    .ok (.lambda ps b) ∧ ∀ {V W : Type} (m : Machine V W), m.update = m.binary → ∀ args tr v tr',
    m.callDef f.stmt args tr = some (v, tr') → m.callLambda (.lambda ps b) args tr = some (v, tr') := by
  obtain ⟨t, hy, hw⟩ := f.text
  exact ⟨t, _, _, unparse_definition (hy none) s, hw.expression? hn,
    fun m hu args tr v tr' h => f.callDef_refines hu args tr _ h⟩

def sums : Machine Int Unit where
  global x _ := if x = "g" then some 1 else if x = "h" then some 2 else none
  whole := id
  nothing := 0
  binary _ a b w := some (a + b, w)
  update _ a b w := some (a + b, w)
  compare _ a b w := some (if a < b then 1 else 0, w)
  truth a w := some (a ≠ 0, w)
  call f vs w := some (f + vs.sum, w)

/-- `x` is changed on one of two paths that meet again. -/
def twoPaths : Routine :=
  let a : Ident := ⟨"a", by decide, by decide⟩
  let n : Ident := ⟨"n", by decide, by decide⟩
  let x : Ident := ⟨"x", by decide, by decide⟩
  let g : Ident := ⟨"g", by decide, by decide⟩
  let h : Ident := ⟨"h", by decide, by decide⟩
  { name := ⟨"f", by decide, by decide⟩
    params := [a]
    optional := [(n, .const (.int 9))]
    body := [.assign [.name "x"] (.call (.name "g") [.name "a"] []),
      .if (.compare (.name "x") [.lt] [.name "n"])
        [.augAssign (.name "x") .add (.name "n"), .expr (.call (.name "h") [.name "x"] [])] [.pass],
      .return (.name "x")]
    simple := forall_mem_singleton.mpr (.whole 9)
    plain := by
      have hx : ∀ e ∈ [name x.word], Simple e := forall_mem_singleton.mpr (.name x)
      have hn : ∀ e ∈ [name n.word], Simple e := forall_mem_singleton.mpr (.name n)
      have ha : ∀ e ∈ [name a.word], Simple e := forall_mem_singleton.mpr (.name a)
      refine forall_mem_cons.mpr ⟨.assign x (.call g ha),
        forall_mem_cons.mpr ⟨?_, forall_mem_singleton.mpr (.return (.name x))⟩⟩
      refine .if (.compare (.name x) hn rfl (by simp)) ?_ (forall_mem_singleton.mpr .pass)
      exact forall_mem_cons.mpr ⟨.update x (by simp) (.name n), forall_mem_singleton.mpr (.call h hx)⟩
    returns := rfl
    notSelf := not_mem_calledIn (by simp [definition, paramsOf, plainParams, Stmt.withDepth,
      stmtsWithDepth, withDepth, allWithDepth]) }

theorem unparse_routine_twoPaths : twoPaths.nesting ≤ bracketLimit ∧ sums.update = sums.binary ∧
    sums.callDef twoPaths.stmt [3] { world := () } = some (13, { world := (), calls := [(1, [3]), (2, [13])] }) ∧
    ∃ t ps b, ({ body := some [twoPaths.stmt] } : Flattener).unparse.1 = .ok t ∧ expression? t = .ok (.lambda ps b) ∧
    sums.callLambda (.lambda ps b) [3] { world := () } =
    some (13, { world := (), calls := [(1, [3]), (2, [13])] }) := by
  refine ⟨by decide, rfl, rfl, ?_⟩
  obtain ⟨t, ps, b, ht, hread, hsame⟩ := unparse_routine twoPaths (by decide) {}
  exact ⟨t, ps, b, ht, hread, hsame sums rfl [3] _ _ _ rfl⟩

/-! ## 5. Functions inside functions -/

theorem flatBody_append (before rest : List Stmt) (c : Cont) :
    flatBody {} c (before ++ rest) = flatBody {} c rest >>= fun k => flatBody {} k before := by
  induction before with
  | nil => simp [flatBody]
  | cons s before ih => simp [flatBody, ih]

/-- **What stands after the definition of an inner function is lost.** Whatever it is, the text is that of a
    function which does what stands before the definition and then returns the inner function. -/
theorem unparse_nested (name : Ident) (params : List Ident) (optional : List (Ident × Expr)) (before rest : List Stmt)
    (g : Routine) (hsimple : ∀ d ∈ optional, Simple d.2)
    (hbefore : ∀ s ∈ before, Plain s ∧ ∀ c body orelse, s ≠ .if c body orelse) (hrest : ∀ s ∈ rest, Plain s)
    (hself : .name name.word ∉ calledIn (definition name params optional (before ++ g.stmt :: rest)))
    (hn : max (Expr.allNesting (optional.map (·.2))) (blockNesting g.nesting before) ≤ bracketLimit) (s : State) : ∃ t,
    ({ body := some [definition name params optional (before ++ g.stmt :: rest)], state := s } : Flattener).unparse.1 =
    .ok t ∧ expression? t =
    .ok (.lambda (paramsOf (plainParams params optional)) (orNothing (wrapBlock (some g.function) before))) := by
  have hle : test ≤ atom := by decide
  obtain ⟨u, hyu, hwu⟩ := g.text
  obtain ⟨lost, hlost, _⟩ := flatBody_writes
    (fun s hs => (hrest s hs).writes hle le_rfl (.inl rfl)) (n := 0) (c := none) (k := none) trivial
  -- the continuation of the statements before is the inner function alone
  obtain ⟨c, hy, hw⟩ := flatBody_writes (fun s hs => (hbefore s hs).1.writes le_rfl hle (.inr (hbefore s hs).2))
    (n := g.nesting) (c := some u) (k := some g.function) hwu
  have hbody : Yields (flatBody {} none (before ++ g.stmt :: rest)) c := by
    rw [flatBody_append]
    exact (hlost.bind (hyu lost)).bind hy
  have hcalls : ∀ s ∈ before ++ g.stmt :: rest, ∀ d, CallsNames (s.withDepth d) :=
    forall_mem_append.mpr ⟨fun s hs => (hbefore s hs).1.callsNames, forall_mem_cons.mpr
      ⟨definition_callsNames g.simple fun s hs => (g.plain s hs).callsNames, fun s hs => (hrest s hs).callsNames⟩⟩
  obtain ⟨t, hyt, hwt⟩ := definition_text hsimple hcalls hself hbody (hw.text le_rfl le_rfl hle)
  exact ⟨t, unparse_definition (hyt none) s, hwt.expression? hn⟩

/-- A function that returns its argument. -/
def same : Routine where
  name := ⟨"g", by decide, by decide⟩
  params := [⟨"x", by decide, by decide⟩]
  optional := []
  body := [.return (.name "x")]
  simple := nofun
  plain := forall_mem_singleton.mpr (.return (.name ⟨"x", by decide, by decide⟩))
  returns := rfl
  notSelf := not_mem_calledIn (by simp [definition, paramsOf, plainParams, Stmt.withDepth, stmtsWithDepth, withDepth,
    allWithDepth])

/-- The call of the inner function is not in the text. -/
theorem unparse_nested_same : ∃ t, ({ body := some [.functionDef false "f" (.oneParam (.param "a" .absent)) [same.stmt,
      .return (.call (.name "g") [.name "a"] [])] [] .absent] } : Flattener).unparse.1 = .ok t ∧ expression? t =
    .ok (.lambda (.oneParam (.param "a" .absent)) (.lambda (.oneParam (.param "x" .absent)) (.name "x"))) := by
  let a : Ident := ⟨"a", by decide, by decide⟩
  let g : Ident := ⟨"g", by decide, by decide⟩
  have hreturn : Plain (.return (.call (.name g.word) [.name a.word] [])) :=
    .return (.call g (forall_mem_singleton.mpr (.name a)))
  exact unparse_nested ⟨"f", by decide, by decide⟩ [a] [] [] [_] same nofun nofun
    (forall_mem_singleton.mpr hreturn) (not_mem_calledIn (by simp [definition, paramsOf, plainParams,
      Stmt.withDepth, stmtsWithDepth, withDepth, allWithDepth, same, Routine.stmt, a, g])) (by decide) {}

end PuzzlePrograms.Flatten
