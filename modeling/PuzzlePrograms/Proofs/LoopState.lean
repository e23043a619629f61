import PuzzlePrograms.Proofs.FlatRun
import PuzzlePrograms.Proofs.Phrase

/-!
# The names that a loop carries along

A loop is written as a function that calls itself; the names that change in the loop are its parameters.
This file says which names these are, and when they are all the names that the body of the loop can bind.

* `allBoundIn` lists the names that statements can bind, at any depth: by an assignment of any kind, by a
  change in place, or as the target of a loop over items;
* `Carries` says which statements make a loop carry a name along: an assignment to the name alone, an
  assignment whose first target is a tuple that lists the name, and a change of the name in place;
* `loopFunction` is the function that a loop is written as (`flatStmt_loop`).
-/

namespace PuzzlePrograms.Flatten

open List Source Text

variable {e : Expr} {st l : Stmt} {cont : Cont} {body : List Stmt}
variable {x : String} {classes : List String} {ss : List Stmt}

/-! ## 1. The names that statements bind -/

mutual

def targetNames : Expr → List String
  | .name x => [x]
  | .tuple es | .list es => allTargetNames es
  | .starred e => targetNames e
  | _ => []

def allTargetNames : List Expr → List String
  | [] => []
  | e :: es => targetNames e ++ allTargetNames es

end

mutual

/-- The names that a statement can bind in the scope it stands in, at any depth. The bodies of functions and
    classes are scopes of their own. -/
def boundIn : Stmt → List String
  | .assign ts _ => allTargetNames ts
  | .augAssign t _ _ => targetNames t
  | .for _ t _ body orelse => targetNames t ++ allBoundIn body ++ allBoundIn orelse
  | .while _ body orelse | .if _ body orelse => allBoundIn body ++ allBoundIn orelse
  | .with _ _ body | .match _ body | .case _ _ body | .handler _ _ body => allBoundIn body
  | .try _ body hs orelse final =>
    allBoundIn body ++ allBoundIn hs ++ allBoundIn orelse ++ allBoundIn final
  | _ => []

def allBoundIn : List Stmt → List String
  | [] => []
  | s :: ss => boundIn s ++ allBoundIn ss

end

/-- A statement that makes a loop around it carry a name along. -/
def Carries (x : String) : Stmt → Prop
  | .assign ts _ => ts = [.name x] ∨ ∃ es more, ts = .tuple es :: more ∧ .name x ∈ es
  | .augAssign t _ _ => t = .name x
  | _ => False

/-- What a reader promises of a statement: it assigns to targets and changes places, and the names in them
    are names. -/
def WellTargeted : Stmt → Prop
  | .assign ts _ => areTargets ts = true ∧ ∀ x ∈ allTargetNames ts, isName x = true
  | .augAssign t _ _ => isPlace t = true ∧ ∀ x ∈ targetNames t, isName x = true
  | .for _ t _ _ _ => ∀ x ∈ targetNames t, isName x = true
  | _ => True

/-! ## 2. The statements of a loop -/

def loopBody : Stmt → Option (List Stmt)
  | .while _ body _ | .for false _ _ body _ => some body
  | _ => none

/-- The statements whose names a loop carries along, if it is the loop with a number: its own, and in a loop
    over items also the assignment of an item to the target and the step to the next item. -/
def loopStmts (classes : List String) (n : Nat) : Stmt → Flat (List Stmt)
  | .while _ body orelse => return body ++ orelse
  | .for false t _ body _ => do
    let bind ← exprText classes t
    let pre ← liftSource (module? (bind ++ " = " ++ ("_targ" ++ toString n)))
    let post ← liftSource (module? ("_targ" ++ toString n ++ " = " ++ nextItem n))
    return pre ++ body ++ post
  | _ => return []

/-- The function of the names `ps` that the loop with a number is written as, where `body` and `test` are
    the texts of its body and its condition. -/
def loopFunction (n : Nat) (ps : List String) (body test : String) (cont : Cont) : String :=
  "_Y(lambda " ++ ("_loop" ++ toString n) ++ ": (lambda " ++ .intercalate ", " ps ++ ": ("
    ++ body ++ ") if " ++ test ++ " else " ++ cont.text ++ "))"

/-- A text that stands somewhere in another. -/
def Inside (part whole : String) : Prop := ∃ a b, whole = a ++ part ++ b

theorem Inside.trans {y z : String} (h : Inside x y) (h' : Inside y z) : Inside x z := by
  obtain ⟨a, b, rfl⟩ := h
  obtain ⟨c, d, rfl⟩ := h'
  exact ⟨c ++ a, b ++ d, by simp only [String.append_assoc]⟩

theorem inside_body (vals : List (String × String)) (body : String) : Inside body (constructLambda vals body) := by
  refine ⟨"(lambda " ++ .intercalate ", " (vals.map (·.1)) ++ ": ", ")(" ++ .intercalate ", " (vals.map (·.2)) ++ ")",
    ?_⟩
  simp only [constructLambda, String.append_assoc]

theorem inside_value (x value body : String) : Inside value (constructLambda [(x, value)] body) := by
  refine ⟨"(lambda " ++ x ++ ": " ++ body ++ ")(", ")", ?_⟩
  simp [constructLambda]

/-! ## 3. The parameters of a loop -/

theorem mem_eraseReps_loop (a : String) (as acc : List String) :
    x ∈ eraseRepsBy.loop (· == ·) a as acc ↔ x = a ∨ x ∈ as ∨ x ∈ acc := by
  induction as generalizing a acc with
  | nil =>
    simp only [eraseRepsBy.loop, mem_reverse, mem_cons]
    grind
  | cons b as ih =>
    by_cases h : a = b
    · simp only [eraseRepsBy.loop, h, beq_self_eq_true, ih, mem_cons]
      grind
    · simp only [eraseRepsBy.loop, beq_false_of_ne h, ih, mem_cons]
      grind

theorem mem_sortedTexts {xs : List String} : x ∈ sortedTexts xs ↔ x ∈ xs := by
  have hm : x ∈ xs.mergeSort (fun a b => !decide (b < a)) ↔ x ∈ xs := mem_mergeSort
  rw [← hm, sortedTexts]
  cases xs.mergeSort (fun a b => !decide (b < a)) with
  | nil => rfl
  | cons a as => simp [eraseReps, eraseRepsBy, mem_eraseReps_loop]

theorem exprText_target {t : String} {s s' : State} (he : isTarget e = true) (hn : ∀ x, e ≠ .name x)
    (ha : ∀ v x, e ≠ .attr v x) (hi : ∀ v i, e ≠ .subscript v i) (h : exprText classes e s = .ok t s') :
    isName t = false := by
  have hfirst : ∀ c : Char, isNameStart c = false → ∀ u : String, isName (.singleton c ++ u) = false := by
    intro c hc u
    simp [isName, hc]
  cases e with
  | name x => exact absurd rfl (hn x)
  | attr v x => exact absurd rfl (ha v x)
  | subscript v i => exact absurd rfl (hi v i)
  | list es =>
    rw [exprText] at h
    obtain ⟨ts, s₁, -, h⟩ := bind_eq_ok h
    obtain ⟨rfl, -⟩ := pure_eq_ok h
    rw [String.append_assoc]
    exact hfirst '[' (by decide) _
  | tuple es =>
    rw [exprText] at h
    obtain ⟨ts, s₁, -, h⟩ := bind_eq_ok h
    obtain ⟨rfl, -⟩ := pure_eq_ok h
    rw [String.append_assoc, String.append_assoc]
    exact hfirst '(' (by decide) _
  | starred e =>
    have hp : exprText classes (.starred e) = plainText classes (.starred e) := by rw [exprText] <;> simp
    rw [hp, plainText, Expr.mapDeep, renameCall, Expr.text, Expr.doc] at h
    · simp only [Doc.solid] at h
      cases hd : (e.mapDeep (renameCall classes)).doc.text false .bitOr with
      | error u =>
        rw [hd] at h
        cases h
      | ok u =>
        rw [hd] at h
        cases h
        exact hfirst '*' (by decide) _
    · simp
  | _ => cases he

theorem mem_plainTargets (h : e ∈ plainTargets ss) :
    (∃ v, .assign [e] v ∈ ss) ∧ (∀ v x, e ≠ .attr v x) ∧ ∀ v i, e ≠ .subscript v i := by
  obtain ⟨st, hst, he⟩ := mem_filterMap.mp h
  split at he
  · rename_i t v
    split at he
    · cases he
    · cases he
    · cases he
    · rename_i h1 h2 h3
      cases he
      exact ⟨⟨v, hst⟩, h1, h2⟩
  · cases he

theorem mem_changedTargets (h : e ∈ changedTargets ss) :
    (∃ o v, .augAssign e o v ∈ ss) ∧ (∀ v x, e ≠ .attr v x) ∧ ∀ v i, e ≠ .subscript v i := by
  obtain ⟨st, hst, he⟩ := mem_filterMap.mp h
  split at he
  · rename_i t o v
    split at he
    · cases he
    · cases he
    · rename_i h1 h2
      cases he
      exact ⟨⟨o, v, hst⟩, h1, h2⟩
  · cases he

theorem mem_tupleTargets (h : e ∈ tupleTargets ss) : (∃ es more v, .assign (.tuple es :: more) v ∈ ss ∧ e ∈ es) ∧
    (∀ v x, e ≠ .attr v x) ∧ ∀ v i, e ≠ .subscript v i := by
  obtain ⟨st, hst, he⟩ := mem_flatMap.mp h
  split at he
  · rename_i es more v
    obtain ⟨hmem, hplace⟩ := mem_filter.mp he
    refine ⟨⟨es, more, v, hst, hmem⟩, ?_, ?_⟩
    · rintro u x rfl
      simp [hasPlace, Expr.withDepth] at hplace
    · rintro u i rfl
      simp [hasPlace, Expr.withDepth] at hplace
  · exact absurd he not_mem_nil

theorem isTarget_of_mem {es : List Expr} (h : areTargets es = true) (he : e ∈ es) : isTarget e = true := by
  induction es with
  | nil => exact absurd he not_mem_nil
  | cons d es ih =>
    rw [areTargets, Bool.and_eq_true] at h
    rcases mem_cons.mp he with rfl | he
    · exact h.1
    · exact ih h.2 he

theorem isTarget_of_isPlace (h : isPlace e = true) : isTarget e = true := by cases e <;> first | rfl | cases h

section Parameters

variable {classes : List String} {ss : List Stmt} {ps : List String} {s s' : State} {x : String}

theorem assignedTexts_eq_ok (h : assignedTexts classes ss s = .ok ps s') :
    ∃ xs ys zs s₁ s₂, inOrder (exprTexts classes (plainTargets (allStmts ss))) s = .ok xs s₁ ∧
      inOrder (exprTexts classes (changedTargets (allStmts ss))) s₁ = .ok ys s₂ ∧
      inOrder (exprTexts classes (tupleTargets (allStmts ss))) s₂ = .ok zs s' ∧ ps = sortedTexts (xs ++ ys ++ zs) := by
  obtain ⟨xs, s₁, hx, h⟩ := bind_eq_ok h
  obtain ⟨ys, s₂, hy, h⟩ := bind_eq_ok h
  obtain ⟨zs, s₃, hz, h⟩ := bind_eq_ok h
  obtain ⟨rfl, rfl⟩ := pure_eq_ok h
  exact ⟨xs, ys, zs, s₁, s₂, hx, hy, hz, rfl⟩

theorem mem_of_carries (h : assignedTexts classes ss s = .ok ps s') (hst : st ∈ allStmts ss) (hc : Carries x st) :
    x ∈ ps := by
  obtain ⟨xs, ys, zs, s₁, s₂, hx, hy, hz, rfl⟩ := assignedTexts_eq_ok h
  rw [mem_sortedTexts, mem_append, mem_append]
  cases st with
  | assign ts v =>
    rcases hc with rfl | ⟨es, more, rfl, hes⟩
    · exact .inl (.inl (mem_inOrder_name hx (mem_filterMap.mpr ⟨_, hst, rfl⟩)))
    · refine .inr (mem_inOrder_name hz (mem_flatMap.mpr ⟨_, hst, ?_⟩))
      exact mem_filter.mpr ⟨hes, rfl⟩
  | augAssign t o v =>
    obtain rfl : t = .name x := hc
    exact .inl (.inr (mem_inOrder_name hy (mem_filterMap.mpr ⟨_, hst, rfl⟩)))
  | _ => exact hc.elim

/-- **The parameters of a loop that are names are the names that its statements carry.** -/
theorem mem_assignedTexts_iff (h : assignedTexts classes ss s = .ok ps s')
    (hw : ∀ st ∈ allStmts ss, WellTargeted st) (hx : isName x = true) : x ∈ ps ↔ ∃ st ∈ allStmts ss, Carries x st := by
  refine ⟨fun hp => ?_, fun ⟨st, hst, hc⟩ => mem_of_carries h hst hc⟩
  obtain ⟨xs, ys, zs, s₁, s₂, hxs, hys, hzs, rfl⟩ := assignedTexts_eq_ok h
  rw [mem_sortedTexts, mem_append, mem_append] at hp
  -- a target with the text of a name is this name
  have hname : ∀ {e : Expr} {s₁ s₂ : State}, isTarget e = true → (∀ v y, e ≠ .attr v y) →
      (∀ v i, e ≠ .subscript v i) → exprText classes e s₁ = .ok x s₂ → e = .name x := by
    intro e s₁ s₂ ht ha hi he
    by_cases hn : ∃ y, e = .name y
    · obtain ⟨y, rfl⟩ := hn
      rw [exprText] at he
      obtain ⟨rfl, -⟩ := pure_eq_ok he
      rfl
    · have := exprText_target ht (fun y hy => hn ⟨y, hy⟩) ha hi he
      rw [hx] at this
      cases this
  rcases hp with (hp | hp) | hp
  · obtain ⟨e, he, _, _, ht⟩ := exists_of_mem_inOrder hxs hp
    obtain ⟨⟨v, hst⟩, ha, hi⟩ := mem_plainTargets he
    obtain rfl := hname (isTarget_of_mem (hw _ hst).1 mem_cons_self) ha hi ht
    exact ⟨_, hst, .inl rfl⟩
  · obtain ⟨e, he, _, _, ht⟩ := exists_of_mem_inOrder hys hp
    obtain ⟨⟨o, v, hst⟩, ha, hi⟩ := mem_changedTargets he
    obtain rfl := hname (isTarget_of_isPlace (hw _ hst).1) ha hi ht
    exact ⟨_, hst, rfl⟩
  · obtain ⟨e, he, _, _, ht⟩ := exists_of_mem_inOrder hzs hp
    obtain ⟨⟨es, more, v, hst, hes⟩, ha, hi⟩ := mem_tupleTargets he
    have hts : isTarget (.tuple es) = true := isTarget_of_mem (hw _ hst).1 mem_cons_self
    rw [isTarget] at hts
    obtain rfl := hname (isTarget_of_mem hts hes) ha hi ht
    exact ⟨_, hst, .inr ⟨es, more, rfl, hes⟩⟩

end Parameters

/-! ## 4. The text of a loop -/

section Loop

variable {classes : List String} {ss : List Stmt} {s s' : State} {t : String}

theorem loopText_eq_ok {test : Flat String} {target : Option String}
    {body : LoopCtx → Cont → Flat Cont} (h : loopText classes ss test target cont body s = .ok t s') :
    ∃ n ps b c s₁ s₂, assignedTexts classes ss s₁ = .ok ps s₂ ∧ Inside (loopFunction n ps b c cont) t := by
  obtain ⟨-, s₁, -, h⟩ := bind_eq_ok h
  obtain ⟨ps, s₂, hps, h⟩ := bind_eq_ok h
  obtain ⟨c, s₃, -, h⟩ := bind_eq_ok h
  obtain ⟨st, s₄, -, h⟩ := bind_eq_ok h
  obtain ⟨-, s₅, -, h⟩ := bind_eq_ok h
  obtain ⟨b, s₆, -, h⟩ := bind_eq_ok h
  obtain ⟨rfl, -⟩ := pure_eq_ok h
  exact ⟨st.loopNo, ps, b.text, c, s₁, s₂, hps, (inside_value _ _ _).trans (inside_body _ _)⟩

theorem flatStmt_loop {env : Env} {u : Cont} (hl : loopBody l = some body) (h : flatStmt env cont l s = .ok u s') :
    ∃ t n ps b c ss s₁ s₂ s₃, u = some t ∧ loopStmts env.classes s.loopNo l s = .ok ss s₁ ∧
      assignedTexts env.classes ss s₂ = .ok ps s₃ ∧ Inside (loopFunction n ps b c cont) t := by
  cases l with
  | «while» c body' orelse =>
    rw [flatStmt] at h
    obtain ⟨t, s₁, ht, h⟩ := bind_eq_ok h
    obtain ⟨rfl, -⟩ := pure_eq_ok h
    obtain ⟨n, ps, b, c', s₂, s₃, hps, hin⟩ := loopText_eq_ok ht
    exact ⟨t, n, ps, b, c', _, _, s₂, s₃, rfl, rfl, hps, hin⟩
  | «for» isAsync target source body' orelse =>
    cases isAsync with
    | true => cases hl
    | false =>
      rw [flatStmt] at h
      obtain ⟨st, s₁, hget, h⟩ := bind_eq_ok h
      obtain ⟨bind, s₂, hbind, h⟩ := bind_eq_ok h
      obtain ⟨pre, s₃, hpre, h⟩ := bind_eq_ok h
      obtain ⟨post, s₄, hpost, h⟩ := bind_eq_ok h
      obtain ⟨source', s₅, -, h⟩ := bind_eq_ok h
      obtain ⟨loop, s₆, hloop, h⟩ := bind_eq_ok h
      obtain ⟨rfl, -⟩ := pure_eq_ok h
      obtain ⟨n, ps, b, c, s₇, s₈, hps, hin⟩ := loopText_eq_ok hloop
      cases hget
      refine ⟨_, n, ps, b, c, pre ++ body' ++ post, s₄, s₇, s₈, rfl, ?_, hps,
        hin.trans ((inside_body _ _).trans (inside_body _ _))⟩
      rw [loopStmts, bind_run hbind, bind_run hpre, bind_run hpost]
      rfl
  | _ => cases hl

end Loop

/-! ## 5. Whether a loop carries all names that it binds -/

theorem allStmts_append (as bs : List Stmt) : allStmts (as ++ bs) = allStmts as ++ allStmts bs := by
  induction as with
  | nil => rfl
  | cons a as ih => rw [cons_append, allStmts, allStmts, ih, append_assoc]

theorem allStmts_loopBody {n : Nat} {s s' : State} (hl : loopBody l = some body)
    (h : loopStmts classes n l s = .ok ss s') (hst : st ∈ allStmts body) : st ∈ allStmts ss := by
  cases l with
  | «while» c body' orelse =>
    cases hl
    obtain ⟨rfl, -⟩ := pure_eq_ok h
    rw [allStmts_append]
    exact mem_append_left _ hst
  | «for» isAsync target source body' orelse =>
    cases isAsync with
    | true => cases hl
    | false =>
      cases hl
      rw [loopStmts] at h
      obtain ⟨_, s₁, -, h⟩ := bind_eq_ok h
      obtain ⟨pre, s₂, -, h⟩ := bind_eq_ok h
      obtain ⟨post, s₃, -, h⟩ := bind_eq_ok h
      obtain ⟨rfl, -⟩ := pure_eq_ok h
      rw [allStmts_append, allStmts_append]
      exact mem_append_left _ (mem_append_right _ hst)
  | _ => cases hl

mutual

theorem isName_of_boundIn : (st : Stmt) → (∀ u ∈ st.flatStmts, WellTargeted u) → x ∈ boundIn st → isName x = true
  | .assign ts v, h, hx => (h (.assign ts v) mem_cons_self).2 x hx
  | .augAssign t o v, h, hx => (h (.augAssign t o v) mem_cons_self).2 x hx
  | .for a t e body orelse, h, hx => by
    rw [Stmt.flatStmts, cons_append, forall_mem_cons, forall_mem_append] at h
    rw [boundIn, mem_append, mem_append] at hx
    rcases hx with (hx | hx) | hx
    · exact h.1 x hx
    · exact isName_of_allBoundIn body h.2.1 hx
    · exact isName_of_allBoundIn orelse h.2.2 hx
  | .while c body orelse, h, hx | .if c body orelse, h, hx => by
    rw [Stmt.flatStmts, cons_append, forall_mem_cons, forall_mem_append] at h
    rw [boundIn, mem_append] at hx
    rcases hx with hx | hx
    · exact isName_of_allBoundIn body h.2.1 hx
    · exact isName_of_allBoundIn orelse h.2.2 hx
  | .with _ _ body, h, hx | .match _ body, h, hx | .case _ _ body, h, hx | .handler _ _ body, h, hx =>
    isName_of_allBoundIn body (forall_mem_cons.mp h).2 hx
  | .try a body hs orelse final, h, hx => by
    simp only [Stmt.flatStmts, cons_append, forall_mem_cons, forall_mem_append] at h
    simp only [boundIn, mem_append] at hx
    obtain ⟨-, ⟨⟨h1, h2⟩, h3⟩, h4⟩ := h
    rcases hx with ((hx | hx) | hx) | hx
    · exact isName_of_allBoundIn body h1 hx
    · exact isName_of_allBoundIn hs h2 hx
    · exact isName_of_allBoundIn orelse h3 hx
    · exact isName_of_allBoundIn final h4 hx
  | .functionDef .., _, hx | .classDef .., _, hx | .return .., _, hx | .delete .., _, hx
  | .annAssign .., _, hx | .raise .., _, hx | .assert .., _, hx | .importModule .., _, hx
  | .importFrom .., _, hx | .global .., _, hx | .nonlocal .., _, hx | .expr .., _, hx
  | .pass, _, hx | .break, _, hx | .continue, _, hx => absurd hx not_mem_nil

theorem isName_of_allBoundIn :
  (ss : List Stmt) → (∀ u ∈ allStmts ss, WellTargeted u) → x ∈ allBoundIn ss → isName x = true
  | [], _, hx => absurd hx not_mem_nil
  | st :: ss, h, hx => by
    rw [allStmts, forall_mem_append] at h
    rw [allBoundIn, mem_append] at hx
    rcases hx with hx | hx
    · exact isName_of_boundIn st h.1 hx
    · exact isName_of_allBoundIn ss h.2 hx

end

/-- **Every loop is written as a function whose parameters hold all names that the body of the loop can
    bind, just if for each of these names some statement of the loop assigns to it alone, changes it in
    place, or assigns to a tuple, as its first target, that lists it.** -/
theorem loop_parameters_complete_iff {env : Env} {cont u : Cont} {l : Stmt} {body ss : List Stmt}
    {s s₁ s' : State} (hl : loopBody l = some body) (hss : loopStmts env.classes s.loopNo l s = .ok ss s₁)
    (hw : ∀ st ∈ allStmts ss, WellTargeted st) (h : flatStmt env cont l s = .ok u s') :
    ∃ t n ps b c, u = some t ∧ Inside (loopFunction n ps b c cont) t ∧ ((∀ x ∈ allBoundIn body, x ∈ ps) ↔
        ∀ x ∈ allBoundIn body, ∃ st ∈ allStmts ss, Carries x st) := by
  obtain ⟨t, n, ps, b, c, ss', s₂, s₃, s₄, rfl, hss', hps, hin⟩ := flatStmt_loop hl h
  rw [hss] at hss'
  cases hss'
  have hbody : ∀ st ∈ allStmts body, WellTargeted st := fun st hst =>
    hw st (allStmts_loopBody hl hss hst)
  refine ⟨t, n, ps, b, c, rfl, hin, forall_congr' fun x => ?_⟩
  exact imp_congr_right fun hx => mem_assignedTexts_iff hps hw (isName_of_allBoundIn body hbody hx)

/-- A body that assigns to two names at once. -/
def chainedBody : List Stmt :=
  [.assign [.name "a", .name "b"] (.name "i"), .augAssign (.name "i") .add (.const (.int 1))]

def chainedLoop : Stmt := .while (.compare (.name "i") [.lt] [.name "n"]) chainedBody []

theorem loop_parameters_chained : ∃ u s', flatStmt {} (some "a") chainedLoop {} = .ok u s' ∧
      ∃ t n ps b c, u = some t ∧ Inside (loopFunction n ps b c (some "a")) t ∧
        "a" ∈ allBoundIn chainedBody ∧ ¬ ∀ x ∈ allBoundIn chainedBody, x ∈ ps := by
  have hrun : ∃ u s', flatStmt {} (some "a") chainedLoop {} = .ok u s' := ⟨_, _, rfl⟩
  have hw : ∀ st ∈ allStmts (chainedBody ++ []), WellTargeted st := by
    intro st hst
    rcases mem_cons.mp hst with rfl | hst
    · exact ⟨by decide, by decide⟩
    · obtain rfl := mem_singleton.mp hst
      exact ⟨by decide, by decide⟩
  obtain ⟨u, s', h⟩ := hrun
  have hbody : loopBody chainedLoop = some chainedBody := rfl
  obtain ⟨t, n, ps, b, c, hu, hin, hiff⟩ := loop_parameters_complete_iff hbody rfl hw h
  refine ⟨u, s', h, t, n, ps, b, c, hu, hin, by decide, fun hall => ?_⟩
  obtain ⟨st, hst, hc⟩ := hiff.mp hall "a" (by decide)
  rcases mem_cons.mp hst with rfl | hst
  · rcases hc with hc | ⟨es, more, hc, -⟩
    all_goals cases hc
  · obtain rfl := mem_singleton.mp hst
    exact absurd (Expr.name.inj hc) (by decide)

end PuzzlePrograms.Flatten
