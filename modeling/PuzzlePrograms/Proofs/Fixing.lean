import PuzzlePrograms.Recipe.Run

/-!
# Fixing the first or the last argument of a function

A function with one argument fixed waits for as many arguments as the function reports to be left. A curried function
reports no parameters, whatever it takes: with one of its two or three arguments fixed it waits for three and fails on
the one or two that are left. Only with four parameters the number is right again.
-/

namespace PuzzlePrograms

open Value Dsl Recipe

/-- A function of `n` parameters: one that reports them, or a curried one. -/
inductive Takes (n : Nat) : (curried : Bool) → Value → Prop
  | plain {f : Value} : f.reported? = some n → Takes n false f
  | curried {p : Primitive} : p.rule = .curried n → Takes n true (.prim p)
  | wrapped {k : Nat} {g : Value} : g.reported? = some n → Takes n true (.closure k .curried [g])

/-- Which argument is fixed. -/
inductive Side where
  | first
  | last

namespace Side

def fixer : Side → Primitive
  | first => .lbind
  | last => .rbind

def shape : Side → Nat → Shape
  | first => .lbind
  | last => .rbind

def whole : Side → Value → List Value → List Value
  | first, z, args => z :: args
  | last, z, args => args ++ [z]

end Side

variable {n : Nat} {curried : Bool} {f : Value}

theorem reported?_curried {p : Primitive} (hp : p.rule = .curried n) : p.reported? = some 0 := by
  unfold Primitive.reported?
  split
  · cases hp
  · cases hp
  · simp_all
  · rfl
  · simp_all

theorem Takes.parameters_eq (h : Takes n curried f) : parameters f = .ok (if curried then 0 else n) := by
  unfold parameters
  cases h with
  | plain hf => rw [hf]; rfl
  | curried hp => rw [reported?, reported?_curried hp]; rfl
  | wrapped hg => rfl

theorem openAfterFixing_eq (hn : n = 2 ∨ n = 3 ∨ n = 4) :
    openAfterFixing (if curried then 0 else n) = if curried then 3 else n - 1 := by
  cases curried <;> rcases hn with rfl | rfl | rfl <;> rfl

theorem call_fixer {k : Nat} (h : parameters f = .ok k) (side : Side) (z : Value) (m : Nat) (s : Session) :
    call (m + 1) (.prim side.fixer) [f, z] s =
      .ok (.closure s.serial (side.shape (openAfterFixing k)) [f, z]) { s with serial := s.serial + 1 } := by
  have hrun : call (m + 1) (.prim side.fixer) [f, z] s =
      (parameters f >>= fun k => .closure (side.shape (openAfterFixing k)) [f, z] : Eval Value) s := by
    cases side <;> rfl
  rw [hrun, h]
  rfl

theorem call_fixed (side : Side) (c k m : Nat) (z : Value) (args : List Value) :
    call (m + 1) (.closure c (side.shape k) [f, z]) args =
    if args.length == k then call m f (side.whole z args) else throw .wrongType := by
  cases side <;> rfl

/-- **Fixing an argument** works for every function of two to four parameters that reports them, and for curried ones
    only of four: one of two or three is left with a function that fails on every number of arguments it should take. -/
theorem call_fixed_argument (hn : n = 2 ∨ n = 3 ∨ n = 4) (h : Takes n curried f) (side : Side) (z : Value) (m : Nat)
    (s : Session) : ∃ g s', call (m + 1) (.prim side.fixer) [f, z] s = .ok g s' ∧ ∀ k args t, args.length + 1 = n →
    call (k + 1) g args t = if curried = true ∧ n ≠ 4 then .error .wrongType t else call k f (side.whole z args) t := by
  refine ⟨_, _, call_fixer h.parameters_eq side z m s, fun k args t hlen => ?_⟩
  rw [call_fixed, openAfterFixing_eq hn]
  cases curried with
  | false => rw [if_pos (by simp; omega), if_neg (by simp)]
  | true =>
    by_cases h4 : n = 4
    · rw [if_pos (by simp; omega), if_neg (by simp [h4])]
    · rw [if_neg (by simp; omega), if_pos ⟨rfl, h4⟩]
      rfl

/-- Shifting is curried, so with the offset fixed it shifts nothing. -/
theorem call_fixed_argument_shift : ∃ g s', call 1 (.prim .rbind) [.prim .shift, Value.pair 1 1] (.ofSeed 0) =
    .ok g s' ∧ ∀ k args t, args.length + 1 = 2 → call (k + 1) g args t = .error .wrongType t :=
  call_fixed_argument (.inl rfl) (.curried rfl) .last (.pair 1 1) 0 (.ofSeed 0)

end PuzzlePrograms
