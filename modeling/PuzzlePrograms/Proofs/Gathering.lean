import PuzzlePrograms.Dataset
import Mathlib.Data.List.Basic

/-!
# What has been gathered, round by round

The examples of a task are gathered by attempts. An attempt may fail at any point, and so may the verifier. This file
fixes what one attempt can do (`step_cases`) and what holds whenever the next one starts:

* `Reached`: the states in which a round can start, with a record of the attempts so far;
* `Sound`: the examples are pairs of different grids that the verifier accepts, no two have equal inputs, and counters
  and lists of difficulties fit together;
* `reached_sound`: every state that is reached is sound, and an attempt that comes to nothing leaves it as it is.

Inputs are told apart by their codes alone. That is enough, since equal grids have equal codes (`code_congr`).
-/

namespace PuzzlePrograms.Dataset

open List Value Dsl

variable {generator : Eval Value} {verifier : Value → Answer Value} {n : Nat} {g g' : Gathered} {s s' s₀ : Session}
  {ex i o : Value}

variable {a b : Value}

/-! ## 1. Codes of grids -/

theorem int?_congr {m k : Int} (ha : a.int? = some m) (hb : b.int? = some k) (h : eqv a b = true) : m = k := by
  cases a <;> cases ha <;> cases b <;> cases hb <;> simpa [eqv, Value.compare, boolInt] using h

/-- A row of cells that are whole numbers. -/
def IsRow (v : Value) : Prop := ∃ cs, v = .tuple cs ∧ ∀ c ∈ cs, ∃ m, c.int? = some m

theorem rows_of_mapM {rows : List Value} {rs : List (List Value)} {cells : Value → Option (List Value)}
    (hcells : ∀ v cs, cells v = some cs → v = .tuple cs) (h : rows.mapM cells = some rs) : rows = rs.map .tuple := by
  induction rows generalizing rs with
  | nil =>
    obtain rfl : [] = rs := by simpa using h
    rfl
  | cons r rows ih =>
    rw [mapM_cons] at h
    obtain ⟨cs, hcs, h⟩ := Option.bind_eq_some_iff.mp h
    obtain ⟨rs', hrs, h⟩ := Option.bind_eq_some_iff.mp h
    obtain rfl : cs :: rs' = rs := by simpa using h
    rw [hcells r cs hcs, ih hrs, map_cons]

theorem rows_of_isGrid {v : Value} (h : isGrid v = true) : ∃ rows, v = .tuple rows ∧ ∀ r ∈ rows, IsRow r := by
  cases v with
  | tuple rows =>
    refine ⟨rows, rfl, ?_⟩
    simp only [isGrid] at h
    split at h
    · rename_i rs hrs
      simp only [Bool.and_eq_true, all_eq_true] at h
      rw [rows_of_mapM (fun v cs hv => by split at hv <;> simp_all) hrs]
      intro r hr
      obtain ⟨cs, hcs, rfl⟩ := mem_map.mp hr
      refine ⟨cs, rfl, fun c hc => ?_⟩
      have := h.2 cs hcs c hc
      split at this
      · exact ⟨_, ‹_›⟩
      · cases this
    · cases h
  | _ => cases h

theorem map_congr_of_eqvList {β : Type} {k : Value → β} {P : Value → Prop} (hk : ∀ a b, P a → P b → eqv a b = true →
      k a = k b) {xs ys : List Value} (hx : ∀ x ∈ xs, P x) (hy : ∀ y ∈ ys, P y) (h : eqvList xs ys = true) :
    xs.map k = ys.map k := by
  induction xs generalizing ys with
  | nil =>
    cases ys with
    | nil => rfl
    | cons y ys => cases h
  | cons x xs ih =>
    cases ys with
    | nil => cases h
    | cons y ys =>
      simp only [eqvList, Bool.and_eq_true] at h
      rw [map_cons, map_cons, hk x y (hx x (by simp)) (hy y (by simp)) h.1,
        ih (fun a ha => hx a (by simp [ha])) (fun b hb => hy b (by simp [hb])) h.2]

theorem cellCode_congr (ha : ∃ m, a.int? = some m) (hb : ∃ m, b.int? = some m) (h : eqv a b = true) :
    cellCode a = cellCode b := by
  obtain ⟨m, hm⟩ := ha
  obtain ⟨k, hk⟩ := hb
  rw [cellCode, cellCode, hm, hk, int?_congr hm hk h]

theorem code_congr (ha : isGrid a = true) (hb : isGrid b = true) (h : eqv a b = true) : code a = code b := by
  obtain ⟨rows, rfl, hrows⟩ := rows_of_isGrid ha
  obtain ⟨rows', rfl, hrows'⟩ := rows_of_isGrid hb
  rw [eqv] at h
  refine congrArg mixed (map_congr_of_eqvList ?_ hrows hrows' h)
  rintro _ _ ⟨cs, rfl, hcs⟩ ⟨ds, rfl, hds⟩ hrow
  rw [eqv] at hrow
  exact congrArg mixed (map_congr_of_eqvList (fun _ _ => cellCode_congr) hcs hds hrow)

/-! ## 2. What an attempt can do -/

/-- The session after a computation, also if it has failed. -/
def after {α : Type} (x : Eval α) (s : Session) : Session :=
  match x s with
  | .ok _ s' => s'
  | .error _ s' => s'

/-- What a computation comes to, if it does not fail. -/
def drawn? (x : Eval Value) (s : Session) : Option Value :=
  match x s with
  | .ok v _ => some v
  | .error _ _ => none

theorem attempt_run : attempt generator s = .ok (drawn? generator s) (after generator s) := by
  simp only [attempt, tryCatch, tryCatchThe, MonadExceptOf.tryCatch, EStateM.tryCatch, Bind.bind, EStateM.bind, drawn?,
    after]
  cases generator s <;> rfl

/-- An example that a dataset may hold: the verifier finds the output of the input, and it is another grid. -/
structure Good (verifier : Value → Answer Value) (ex i o : Value) : Prop where
  input : ex.item (.str "input") = .ok i
  output : ex.item (.str "output") = .ok o
  isGrid_input : isGrid i = true
  isGrid_output : isGrid o = true
  verified : ∃ found, verifier i = .ok found ∧ eqv found o = true
  differ : eqv i o = false

theorem grids?_eq_some : grids? ex = some (i, o) ↔ ex.item (.str "input") = .ok i ∧ ex.item (.str "output") = .ok o ∧
    isGrid i = true ∧ isGrid o = true := by
  unfold grids?
  split
  · rename_i a b ha hb
    rw [ha, hb]
    by_cases hg : (isGrid a && isGrid b) = true
    · rw [if_pos hg]
      rw [Bool.and_eq_true] at hg
      constructor
      · intro h
        cases h
        exact ⟨rfl, rfl, hg⟩
      · rintro ⟨h₁, h₂, -⟩
        cases h₁
        cases h₂
        rfl
    · rw [if_neg hg]
      refine ⟨nofun, ?_⟩
      rintro ⟨h₁, h₂, h₃⟩
      cases h₁
      cases h₂
      exact absurd (Bool.and_eq_true _ _ ▸ h₃) hg
  · rename_i hne
    exact ⟨nofun, fun h => absurd h.2.1 (hne _ _ h.1)⟩

theorem passes_iff : passes verifier i o = true ↔ ∃ found, verifier i = .ok found ∧ eqv found o = true := by
  unfold passes
  cases verifier i <;> simp

theorem judge_eq_good {drawn : Option Value} :
    judge verifier drawn = .good ex i o ↔ drawn = some ex ∧ Good verifier ex i o := by
  cases drawn with
  | none => simp [judge]
  | some e =>
    rw [judge]
    cases hg : grids? e with
    | none =>
      refine ⟨nofun, ?_⟩
      rintro ⟨he, h⟩
      cases he
      rw [grids?_eq_some.mpr ⟨h.input, h.output, h.isGrid_input, h.isGrid_output⟩] at hg
      cases hg
    | some p =>
      obtain ⟨a, b⟩ := p
      obtain ⟨h₁, h₂, h₃, h₄⟩ := grids?_eq_some.mp hg
      constructor
      · intro h
        dsimp only at h
        split at h
        · cases h
        · rename_i hp
          split at h
          · cases h
          · rename_i he
            cases h
            exact ⟨rfl, h₁, h₂, h₃, h₄, passes_iff.mp (by simpa using hp), by simpa using he⟩
      · rintro ⟨he, h⟩
        cases he
        obtain rfl : a = i := Except.ok.inj (h₁.symm.trans h.input)
        obtain rfl : b = o := Except.ok.inj (h₂.symm.trans h.output)
        dsimp only
        rw [passes_iff.mpr h.verified, h.differ]
        rfl

/-- What is kept of one state in the next when nothing is taken. -/
structure Kept (g g' : Gathered) : Prop where
  examples : g'.examples = g.examples
  seen : g'.seen = g.seen
  drawDifficulties : g'.drawDifficulties = g.drawDifficulties
  gridDifficulties : g'.gridDifficulties = g.gridDifficulties

theorem kept_count (v : Verdict) : Kept g (g.count v) := by cases v <;> exact ⟨rfl, rfl, rfl, rfl⟩

/-- The state after an example has been taken. -/
def withExample (g : Gathered) (ex i d p : Value) : Gathered :=
  { g with
    examples := g.examples ++ [ex]
    seen := code i :: g.seen
    drawDifficulties := g.drawDifficulties ++ [d]
    gridDifficulties := g.gridDifficulties ++ [p] }

/-- Either an attempt is only counted, or it has brought a good example with a new code, which is taken. -/
theorem step_cases (h : g.step generator verifier s = .ok g' s') :
    (g' = g.count (judge verifier (drawn? generator s)) ∧ s' = after generator s) ∨
      ∃ ex i o d p, drawn? generator s = some ex ∧ Good verifier ex i o ∧ code i ∉ g.seen ∧
        Difficulty.ofRecord (after generator s) = .ok d s' ∧ Difficulty.ofGrids i o = .ok p ∧
        g' = withExample (g.count (.good ex i o)) ex i d p := by
  simp only [Gathered.step, Bind.bind, EStateM.bind, attempt_run] at h
  cases hv : judge verifier (drawn? generator s) with
  | good ex i o =>
    rw [hv] at h
    obtain ⟨hex, hgood⟩ := judge_eq_good.mp hv
    have hseen : (g.count (.good ex i o)).seen = g.seen := (kept_count _).seen
    dsimp only at h
    split at h
    · cases h
      exact .inl ⟨rfl, rfl⟩
    · rename_i hnew
      refine .inr ⟨ex, i, o, ?_⟩
      simp only [Gathered.take, Bind.bind, EStateM.bind] at h
      cases hd : Difficulty.ofRecord (after generator s) with
      | error e s₁ => rw [hd] at h; cases h
      | ok d s₁ =>
        cases hp : Difficulty.ofGrids i o with
        | error e => rw [hd, hp] at h; cases h
        | ok p =>
          rw [hd, hp] at h
          cases h
          exact ⟨d, p, hex, hgood, by simpa [hseen] using hnew, rfl, rfl, rfl⟩
  | _ =>
    rw [hv] at h
    cases h
    exact .inl ⟨rfl, rfl⟩

/-! ## 3. Rounds -/

/-- One attempt: what the generator put on record meanwhile, and whether an example was taken. -/
structure Attempt where
  draws : List Float
  taken : Bool

def drawsOf {α : Type} (x : Eval α) (s : Session) : List Float := (after x s).record.drop s.record.length

/-- The states in which a round can start, with the attempts before it. -/
inductive Reached (generator : Eval Value) (verifier : Value → Answer Value) (n : Nat) (s₀ : Session) :
    List Attempt → Gathered → Session → Prop
  | start : Reached generator verifier n s₀ [] {} s₀
  | again {log : List Attempt} {g g' : Gathered} {s s' : Session} : Reached generator verifier n s₀ log g s →
      g.examples.length < n → g.step generator verifier s = .ok g' s' →
      Reached generator verifier n s₀ (log ++ [⟨drawsOf generator s, g.examples.length < g'.examples.length⟩]) g' s'

variable {log : List Attempt}

theorem Reached.gather_eq (h : Reached generator verifier n s₀ log g s) (fuel : Nat) :
    gather generator verifier n {} (fuel + log.length) s₀ = gather generator verifier n g fuel s := by
  induction h generalizing fuel with
  | start => rfl
  | @again log g g' s s' _ hlt hstep ih =>
    rw [length_append, length_singleton, show fuel + (log.length + 1) = fuel + 1 + log.length by omega, ih]
    rw [gather, if_pos hlt]
    simp only [Bind.bind, EStateM.bind, hstep]

/-- What holds of the state whenever a round starts. -/
structure Sound (verifier : Value → Answer Value) (g : Gathered) : Prop where
  good : ∀ ex ∈ g.examples, ∃ i o, Good verifier ex i o
  distinct : g.examples.Pairwise fun a b =>
    ∀ i j, a.item (.str "input") = .ok i → b.item (.str "input") = .ok j → eqv i j = false
  draws : g.drawDifficulties.length = g.examples.length
  grids : g.gridDifficulties.length = g.examples.length
  taken : g.examples.length ≤ g.nondegenerate
  nondegenerate : g.nondegenerate ≤ g.verified
  verified : g.verified ≤ g.generations

/-- The codes of the inputs are the codes that have been seen. -/
def Seen (g : Gathered) : Prop := ∀ ex ∈ g.examples, ∀ i, ex.item (.str "input") = .ok i → code i ∈ g.seen

theorem Sound.count (h : Sound verifier g) (v : Verdict) : Sound verifier (g.count v) := by
  obtain ⟨h₁, h₂, h₃, h₄, h₅, h₆, h₇⟩ := h
  cases v
  case noGrids => exact ⟨h₁, h₂, h₃, h₄, h₅, h₆, h₇⟩
  case unverified => exact ⟨h₁, h₂, h₃, h₄, h₅, h₆, Nat.le_succ_of_le h₇⟩
  case degenerate => exact ⟨h₁, h₂, h₃, h₄, h₅, Nat.le_succ_of_le h₆, Nat.succ_le_succ h₇⟩
  case good => exact ⟨h₁, h₂, h₃, h₄, Nat.le_succ_of_le h₅, Nat.succ_le_succ h₆, Nat.succ_le_succ h₇⟩

theorem Seen.take (h : Seen g) (hi : ex.item (.str "input") = .ok i) (d p : Value) : Seen (withExample g ex i d p) := by
  intro e he j hj
  rcases mem_append.mp he with he | he
  · exact mem_cons_of_mem _ (h e he j hj)
  · obtain rfl := mem_singleton.mp he
    obtain rfl : i = j := Except.ok.inj (hi.symm.trans hj)
    exact mem_cons_self ..

/-- Taking a good example with a new code keeps the state sound. The counter of examples that differ was raised
    before. -/
theorem Sound.take (h : Sound verifier g) (hseen : Seen g) (hgood : Good verifier ex i o) (hnew : code i ∉ g.seen)
    (d p : Value) : Sound verifier (withExample (g.count (.good ex i o)) ex i d p) := by
  have hcount := h.count (.good ex i o)
  refine ⟨?_, ?_, ?_, ?_, ?_, hcount.nondegenerate, hcount.verified⟩
  · intro e he
    rcases mem_append.mp he with he | he
    · exact h.good e he
    · obtain rfl := mem_singleton.mp he
      exact ⟨i, o, hgood⟩
  · refine pairwise_append.mpr ⟨h.distinct, pairwise_singleton .., ?_⟩
    intro a ha b hb j k hj hk
    obtain rfl := mem_singleton.mp hb
    obtain rfl : i = k := Except.ok.inj (hgood.input.symm.trans hk)
    -- two equal inputs would have one code, and that of the new input has not been seen
    by_contra heq
    obtain ⟨j', o', hgood'⟩ := h.good a ha
    obtain rfl : j' = j := Except.ok.inj (hgood'.input.symm.trans hj)
    have hcode := code_congr hgood'.isGrid_input hgood.isGrid_input (by simpa using heq)
    exact hnew (hcode ▸ hseen a ha j' hj)
  · simp [withExample, Gathered.count, h.draws]
  · simp [withExample, Gathered.count, h.grids]
  · simpa [withExample, Gathered.count] using h.taken

theorem Reached.sound (h : Reached generator verifier n s₀ log g s) : Sound verifier g ∧ Seen g := by
  induction h with
  | start => exact ⟨⟨nofun, .nil, rfl, rfl, Nat.le_refl _, Nat.le_refl _, Nat.le_refl _⟩, nofun⟩
  | @again log g g' s s' _ _ hstep ih =>
    obtain ⟨hsound, hseen⟩ := ih
    rcases step_cases hstep with ⟨rfl, -⟩ | ⟨ex, i, o, d, p, -, hgood, hnew, -, -, rfl⟩
    · refine ⟨hsound.count _, ?_⟩
      intro e he j hj
      rw [(kept_count _).seen]
      exact hseen e ((kept_count _).examples ▸ he) j hj
    · exact ⟨hsound.take hseen hgood hnew d p, Seen.take hseen hgood.input d p⟩

/-- An attempt that comes to nothing: the generator fails or gives no two grids, the verifier fails or finds another
output, the output equals the input, or the input equals that of an example that is there. -/
def Fruitless (verifier : Value → Answer Value) (g : Gathered) (drawn : Option Value) : Prop :=
  ∀ ex i o, drawn = some ex → Good verifier ex i o → ∃ e ∈ g.examples, ∃ j, e.item (.str "input") = .ok j ∧ eqv i j =
    true

theorem step_fruitless (hsound : Sound verifier g) (hseen : Seen g) (h : Fruitless verifier g (drawn? generator s)) :
    g.step generator verifier s = .ok (g.count (judge verifier (drawn? generator s))) (after generator s) := by
  simp only [Gathered.step, Bind.bind, EStateM.bind, attempt_run]
  cases hv : judge verifier (drawn? generator s) with
  | good ex i o =>
    obtain ⟨hex, hgood⟩ := judge_eq_good.mp hv
    obtain ⟨e, he, j, hj, heq⟩ := h ex i o hex hgood
    obtain ⟨j', o', hgood'⟩ := hsound.good e he
    obtain rfl : j' = j := Except.ok.inj (hgood'.input.symm.trans hj)
    have hcode : code i ∈ (g.count (.good ex i o)).seen := by
      rw [(kept_count _).seen, code_congr hgood.isGrid_input hgood'.isGrid_input heq]
      exact hseen e he j' hj
    dsimp only
    rw [if_pos (by simpa using hcode)]
    rfl
  | _ => rfl

/-- Whatever the generator and the verifier do, at the start of every round of the loop the state is sound; and if the
next attempt comes to nothing, it is caught and leaves the examples, the codes and the difficulties as they are. -/
theorem reached_sound (generator : Eval Value) (verifier : Value → Answer Value) (n : Nat) (s₀ : Session)
    {log : List Attempt} {g : Gathered} {s : Session} (h : Reached generator verifier n s₀ log g s) :
    (∀ fuel, gather generator verifier n {} (fuel + log.length) s₀ = gather generator verifier n g fuel s) ∧
      Sound verifier g ∧ (Fruitless verifier g (drawn? generator s) →
        ∃ g', g.step generator verifier s = .ok g' (after generator s) ∧ Kept g g') :=
  ⟨h.gather_eq, h.sound.1, fun hf => ⟨_, step_fruitless h.sound.1 h.sound.2 hf, kept_count _⟩⟩

/-- A generator that gives one example over and over, with one draw on record. -/
def sameExample : Eval Value := do
  modify fun s => { s with drawn := 0.5 :: s.drawn }
  return .dict [(.str "input", .tuple [.tuple [.int 0]]), (.str "output", .tuple [.tuple [.int 1]])]

theorem reached_sound_sameExample : ∃ log g s, g.examples.length = 1 ∧
    Reached sameExample (fun _ => .ok (.tuple [.tuple [.int 1]])) 2 (.ofSeed 0) log g s ∧
    Sound (fun _ => .ok (.tuple [.tuple [.int 1]])) g := by
  have hrun : (match ({} : Gathered).step sameExample (fun _ => .ok (.tuple [.tuple [.int 1]])) (.ofSeed 0) with
      | .ok g _ => g.examples.length == 1
      | .error _ _ => false) = true := by decide +kernel
  split at hrun
  · rename_i g s hstep
    have hreached := Reached.again (n := 2) .start (by decide) hstep
    exact ⟨_, g, s, by simpa using hrun, hreached, (reached_sound _ _ _ _ hreached).2.1⟩
  · cases hrun

end PuzzlePrograms.Dataset
