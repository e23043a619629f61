import PuzzlePrograms.Proofs.Painting
import PuzzlePrograms.Verifier.Collection

/-!
# Recipes and verifiers of one task

A run of a recipe starts with the bounds on difficulty alone, and a verifier goes through its steps with the results so
far. `Agree` says of a task that both exist, that every run of the recipe ends with an example or fails as allowed, and
that the verifier computes the output of the example from its input.
-/

namespace PuzzlePrograms

open List Value Dsl Recipe

/-! ## 1. Runs of verifiers -/

namespace Verifier

variable {g out v : Value} {ss : Verifier} {st : Step} {results : List Value}

/-- Going on from these results, the verifier ends with this output, whatever the session. -/
def Ends (g : Value) (ss : Verifier) (results : List Value) (out : Value) : Prop :=
  ∀ s : Session, ∃ res, traceFrom g ss results s = (res, none) ∧ res.head?.getD .nothing = out

theorem Ends.nil (h : v = out) : Ends g [] (v :: results) out := fun _ => ⟨_, rfl, h⟩

theorem Ends.call {x : Answer Value} (hx : x = .ok v) (hrun : st.run g results = (x : Eval Value))
    (hnext : Ends g ss (v :: results) out) : Ends g (st :: ss) results out := by
  intro s
  have hstep : (st.run g results).run s = .ok v s := by rw [hrun, hx]; rfl
  simpa only [traceFrom, hstep] using hnext s

/-- The output of a verifier, as its steps compute it. -/
abbrev Computes (vf : Verifier) (g out : Value) : Prop := Ends g vf [] out

theorem Computes.output {vf : Verifier} (h : Computes vf g out) : vf.output g = .ok out := by
  obtain ⟨res, htrace, hout⟩ := h { source := .ofNat 0 }
  simp [Verifier.output, trace, htrace, ← hout]

end Verifier

/-! ## 2. Agreement -/

/-- An example: an input and the output that belongs to it. -/
def exampleOf (i o : Value) : Value := .dict [(.str "input", i), (.str "output", o)]

/-- Whatever the source, a run of the recipe of the task ends with an example of two grids, and the verifier of the task
finds the output; the run can fail in no way but those allowed. -/
def Agree (E : Failure → Prop) (task : String) (lb ub : Value) (s : Session) : Prop :=
  ∃ r vf, ofTask? task = some r ∧ Verifier.ofTask? task = some vf ∧ Sure E (r.run lb ub) s fun e _ =>
    ∃ i o, e = exampleOf i o ∧ isGrid i = true ∧ isGrid o = true ∧ vf.output i = .ok o

def startEnv (lb ub : Value) : Env := fun x => [("diff_lb", lb), ("diff_ub", ub)].lookup x

def Solved (vf : Verifier) : Signal → Env → Prop
  | .return e, _ => ∃ i o, e = exampleOf i o ∧ isGrid i = true ∧ isGrid o = true ∧ vf.output i = .ok o
  | _, _ => False

theorem Agree.of_runs {E : Failure → Prop} {task : String} {lb ub : Value} {r : Recipe} {vf : Verifier}
    (hr : ofTask? task = some (r ++ [.finish Tasks.gi Tasks.go])) (hv : Verifier.ofTask? task = some vf)
    (h : Runs E (startEnv lb ub) (r ++ [.finish Tasks.gi Tasks.go]) (Solved vf)) (s : Session) :
    Agree E task lb ub s := by
  refine ⟨_, vf, hr, hv, ?_⟩
  refine (h { s with vars := [("diff_lb", lb), ("diff_ub", ub)] } rfl).bind fun sig s' hs => ?_
  cases sig with
  | «return» e => exact hs
  | next | «break» | «continue» => exact hs.elim

variable {E : Failure → Prop} {env : Env} {h w h' w' : Nat} {f f' : Int → Int → Int} {vf : Verifier}

theorem Recipe.Runs.solved (hi : env Tasks.gi = some (grid h w f)) (ho : env Tasks.go = some (grid h' w' f'))
    (hf : Coloured h w f) (hf' : Coloured h' w' f') (hout : vf.Computes (grid h w f) (grid h' w' f'))
    (hs : (1 ≤ h ∧ h ≤ 30) ∧ (1 ≤ w ∧ w ≤ 30) ∧ (1 ≤ h' ∧ h' ≤ 30) ∧ 1 ≤ w' ∧ w' ≤ 30) :
    Runs E env [.finish Tasks.gi Tasks.go] (Solved vf) :=
  .finish (.var hi) (.var ho) ⟨_, _, rfl, isGrid_grid hs.1 hs.2.1 hf, isGrid_grid hs.2.2.1 hs.2.2.2 hf', hout.output⟩

/-! ## 3. Expressions and commands that recipes share -/

section Expressions

variable {n : Nat} {sc : Scope} {e e' : Expr} {a b : Int}

theorem floorDiv_int (hb : b ≠ 0) : floorDiv (.int a) (.int b) = .ok (.int (Int.fdiv a b)) := by
  have hrun : floorDiv (.int a) (.int b) = if b == 0 then .error .divisionByZero else .ok (.int (Int.fdiv a b)) := rfl
  rw [hrun, if_neg (by simpa using hb)]

theorem floorDiv_nat {m k : Nat} (hk : 1 ≤ k) : floorDiv (.int m) (.int k) = .ok (.int (m / k : Nat)) := by
  rw [floorDiv_int (by omega), Int.fdiv_eq_ediv_of_nonneg _ (by omega), Int.natCast_ediv]

theorem mod_nat {m k : Nat} (hk : 1 ≤ k) : mod (.int m) (.int k) = .ok (.int (m % k : Nat)) := by
  have hrun : mod (.int m) (.int k) = if (k : Int) == 0 then .error .divisionByZero else .ok (.int (Int.fmod m k)) :=
    rfl
  rw [hrun, if_neg (by simp; omega), Int.fmod_eq_emod_of_nonneg _ (by omega), Int.natCast_emod]

theorem ite_max : (if decide (a < b) = true then int b else .int a) = .int (max a b) := by
  by_cases h : a < b
  · simp [h, h.le]
  · simp [h, not_lt.mp h]

theorem ite_min : (if decide (b < a) = true then int b else .int a) = .int (min a b) := by
  by_cases h : b < a
  · simp [h, h.le]
  · simp [h, not_lt.mp h]

theorem extremeOf_pair {r : Rel} {t : Bool} (hr : related r (.int b) (.int a) = .ok t) :
    extremeOf r [.int a, .int b] = .ok (if t = true then .int b else .int a) := by
  simp only [extremeOf, best, foldlM_cons, foldlM_nil, pure_bind, bind_ok hr]
  rfl

theorem gives_max (ha : Gives E env n sc e (.int a)) (hb : Gives E env n sc e' (.int b)) :
    Gives E env (n + 1) sc (.max e e') (.int (max a b)) :=
  .call₂ ha hb (.lift ((extremeOf_pair (related_gt_int b a)).trans (congrArg Except.ok ite_max)))

theorem gives_min (ha : Gives E env n sc e (.int a)) (hb : Gives E env n sc e' (.int b)) :
    Gives E env (n + 1) sc (.min e e') (.int (min a b)) :=
  .call₂ ha hb (.lift ((extremeOf_pair (related_lt_int b a)).trans (congrArg Except.ok ite_min)))

def colourList : List Int := [0, 1, 2, 3, 4, 5, 6, 7, 8, 9]

theorem mem_colourList {c : Int} : c ∈ colourList ↔ 0 ≤ c ∧ c ≤ 9 := by
  simp only [colourList, mem_cons, not_mem_nil, or_false]
  omega

theorem gives_colors : Gives E env (n + 2) sc .colors (.tuple (colourList.map .int)) :=
  .of₃ .int .int .int (rfl : interval 0 10 1 = .ok (.tuple (colourList.map .int))) rfl

end Expressions

variable {ss : List Stmt} {Q : Signal → Env → Prop} {x : String} {lo hi : Expr} {a b : Int} {lb ub : Value}

theorem Recipe.Runs.gradeIn {e : Expr} (hl : env "diff_lb" = some lb) (hu : env "diff_ub" = some ub)
    (hlb : IsDifficulty lb) (hub : IsDifficulty ub) (he : Gives E env (depthLimit - 1) [] e (.tuple [.int a, .int b]))
    (hab : a ≤ b ∧ a.natAbs < 2 ^ 40 ∧ b.natAbs < 2 ^ 40) (h : ∀ i, a ≤ i → i ≤ b → Runs E (env.set x (.int i)) ss Q) :
    Runs E env (.gradeIn x e :: ss) Q := by
  refine .draw (.call₃ (.var hl) (.var hu) he (yields_unifint hlb hub hab.1 hab.2.1 hab.2.2)) ?_
  rintro _ ⟨i, rfl, h1, h2⟩
  exact h i h1 h2

theorem Recipe.Runs.grade (hl : env "diff_lb" = some lb) (hu : env "diff_ub" = some ub) (hlb : IsDifficulty lb)
    (hub : IsDifficulty ub) (hlo : Gives E env (depthLimit - 2) [] lo (.int a))
    (hhi : Gives E env (depthLimit - 2) [] hi (.int b)) (hab : a ≤ b ∧ a.natAbs < 2 ^ 40 ∧ b.natAbs < 2 ^ 40)
    (h : ∀ i, a ≤ i → i ≤ b → Runs E (env.set x (.int i)) ss Q) : Runs E env (.grade x lo hi :: ss) Q :=
  .gradeIn hl hu hlb hub (.pair hlo hhi) hab h

theorem Recipe.Runs.choice {e : Expr} (he : Gives E env (depthLimit - 1) [] e (.tuple (l.map code))) (h0 : l ≠ [])
    (hlen : l.length < 2 ^ 53) (h : ∀ i ∈ l, Runs E (env.set x (code i)) ss Q) : Runs E env (.any x e :: ss) Q := by
  refine .draw (.call₁ he (yields_choice (by simpa using h0) (by simpa using hlen))) fun v hv => ?_
  obtain ⟨i, hi, rfl⟩ := mem_map.mp hv
  exact h i hi

theorem Recipe.Runs.sample [Nonempty α] (c : Coding code) {e n : Expr} {v : Value} {k : Nat}
    (he : Gives E env (depthLimit - 1) [] e v) (hseq : isSequence v = true) (hv : v.elements = .ok (l.map code))
    (hn : Gives E env (depthLimit - 1) [] n (.int k)) (hk : k ≤ l.length) (hlen : l.length < 2 ^ 53)
    (h : ∀ js : List α, js.length = k → js.Subperm l → Runs E (env.set x (.list (js.map code))) ss Q) :
    Runs E env (.sample x e n :: ss) Q := by
  refine .draw (.call₂ he hn (yields_sample hseq hv (by simpa using hk) (by simpa using hlen))) fun v hv => ?_
  obtain ⟨js, rfl, hjs, hsub⟩ := c.sample hv
  exact h js hjs hsub

theorem Recipe.Runs.filled {g c p : Expr} {k : Int} {S : Finset Loc} (hh : 1 ≤ h)
    (hg : Gives E env (depthLimit - 1) [] g (grid h w f)) (hc : Gives E env (depthLimit - 1) [] c (.int k))
    (hp : ∃ v, Gives E env (depthLimit - 1) [] p v ∧ IsPatch v S)
    (hrest : Runs E (env.set x (grid h w (PuzzlePrograms.filled f S k))) ss Q) :
    Runs E env (.dyed x g c p :: ss) Q := by
  obtain ⟨v, hv, hpatch⟩ := hp
  exact .set (.of₃ hg hc hv (fill_grid hh hpatch) rfl) hrest

theorem Recipe.Runs.coin {t e : List Stmt} (ht : Runs E env (t ++ ss) Q) (he : Runs E env (e ++ ss) Q) :
    Runs E env (.ite .coin t e :: ss) Q := by
  refine .ite (.call₁ (.pair .bool .bool) (yields_choice (by simp) (by decide))) fun v hv => ?_
  rcases mem_pair.mp hv with rfl | rfl
  · exact ht
  · exact he

theorem Recipe.Runs.mirrored (hi : env Tasks.gi = some (grid h w f)) (ho : env Tasks.go = some (grid h' w' f'))
    (hh : 1 ≤ h ∧ h ≤ 30) (hw : 1 ≤ w ∧ w ≤ 30) (hh' : 1 ≤ h' ∧ h' ≤ 30) (hw' : 1 ≤ w' ∧ w' ≤ 30)
    (hf : Coloured h w f) (hf' : Coloured h' w' f') (hout : vf.Computes (grid h w f) (grid h' w' f'))
    (hturn : vf.Computes (grid w h fun i j => f j i) (grid w' h' fun i j => f' j i)) :
    Runs E env [.when .coin [.dm Tasks.gi Tasks.gi, .dm Tasks.go Tasks.go], .finish Tasks.gi Tasks.go] (Solved vf) := by
  refine .coin ?_ (.solved hi ho hf hf' hout ⟨hh, hw, hh', hw'⟩)
  refine .set (.of₁ (.var hi) (dmirror_grid hh.1) rfl) ?_
  refine .set (.of₁ (.var ho) (dmirror_grid hh'.1) rfl) ?_
  exact .solved rfl rfl hf.dmirror hf'.dmirror hturn ⟨hw, hh, hw', hh'⟩

end PuzzlePrograms
