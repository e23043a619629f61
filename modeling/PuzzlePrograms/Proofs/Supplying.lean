import PuzzlePrograms.Recipe.Run

/-!
# Supplying the arguments of a curried function

A curried function runs on exactly its number of arguments; on any other number it waits, and each further argument is
tried again with all those before it.

* `Curries` says what follows for a first batch of arguments and the rest of them one at a time: the function under
  the curried one is called once, with all of them, if there are as many as it takes, and never after too many;
* `curry_calls_once`: this holds of `curry` applied to any function and of every curried primitive.
-/

namespace PuzzlePrograms

open Value Dsl Recipe List

variable {n k d : Nat} {c : Value} {f : Nat → List Value → Eval Value} {held : List Value}

/-- The session in which `k` more closures have been built and nothing else has happened. -/
def Session.afterClosures (s : Session) (k : Nat) : Session := { s with serial := s.serial + k }

theorem Session.afterClosures_one (s : Session) (k : Nat) :
    (s.afterClosures 1).afterClosures k = s.afterClosures (k + 1) := by
  simp only [afterClosures, Nat.add_assoc, Nat.add_comm 1 k]

/-- Call a function with a first batch of arguments, and what it answers with the others one at a time. -/
def inBatches (d : Nat) (c : Value) (first rest : List Value) : Eval Value := do
  rest.foldlM (fun g x => call d g [x]) (← call d c first)

/-- `c` takes the `n` arguments of a function in batches; `f d` is the function itself, called with depth `d` left. -/
structure Curries (n : Nat) (c : Value) (f : Nat → List Value → Eval Value) : Prop where
  /-- The one call of the function is the last thing that happens, and before it closures are built. -/
  once : ∀ d first rest s, first.length + rest.length = n →
    inBatches (d + 2) c first rest s = f (if rest = [] then d + 1 else d) (first ++ rest) (s.afterClosures rest.length)
  never : ∀ d first rest s, n < first.length → ∃ k,
    inBatches (d + 2) c first rest s =
      .ok (.closure k .pending (c :: first ++ rest)) (s.afterClosures (rest.length + 1))

/-- The rule of calls of a curried function. -/
def Waits (n : Nat) (c : Value) (f : Nat → List Value → Eval Value) : Prop :=
  ∀ d args, call (d + 1) c args = if args.length = n then f d args else .closure .pending (c :: args)

namespace Waits

theorem of_primitive {p : Primitive} (hp : p.rule = .curried n) : Waits n (.prim p) fun d => run (call d) p := by
  intro d args
  rw [call, invoke, hp]
  simp only [beq_iff_eq]

theorem of_curry {g : Value} (hg : g.reported? = some n) : Waits n (.closure k .curried [g]) fun d => call d g := by
  intro d args
  have hn : parameters g = .ok n := by rw [parameters, hg]
  rw [call, hn]
  show (if args.length == n then call d g args else _) = _
  simp only [beq_iff_eq]

variable (h : Waits n c f)

include h

/-- One more argument for a function that waits: all arguments are tried again. -/
theorem call_pending (x : Value) : call (d + 2) (.closure k .pending (c :: held)) [x] =
    if held.length + 1 = n then f d (held ++ [x]) else .closure .pending (c :: (held ++ [x])) := by
  rw [call, h, length_append, length_singleton]

/-- The arguments that are missing, one at a time: all but the last build a closure. -/
theorem supply_missing {x : Value} {rest : List Value} (hn : held.length + (rest.length + 1) = n) (s : Session) :
    (x :: rest).foldlM (fun g x => call (d + 2) g [x]) (.closure k .pending (c :: held)) s =
      f d (held ++ x :: rest) (s.afterClosures rest.length) := by
  induction rest generalizing x k held s with
  | nil =>
    have hlast : held.length + 1 = n := hn
    rw [foldlM_cons, h.call_pending, if_pos hlast]
    exact congrFun (bind_pure (f d (held ++ [x]))) s
  | cons y rest ih =>
    have hnot : held.length + 1 ≠ n := by
      rw [length_cons] at hn
      omega
    have hrest : (held ++ [x]).length + (rest.length + 1) = n := by
      rw [length_append, length_singleton, Nat.add_assoc, Nat.add_comm 1]
      exact hn
    have hi := ih (x := y) (k := s.serial) hrest (s.afterClosures 1)
    rw [Session.afterClosures_one, append_assoc] at hi
    rw [foldlM_cons, h.call_pending, if_neg hnot]
    exact hi

/-- After too many arguments, a function that waits goes on waiting. -/
theorem supply_more (hn : n < held.length) (rest : List Value) (s : Session) : ∃ l,
    rest.foldlM (fun g x => call (d + 2) g [x]) (.closure k .pending (c :: held)) s =
      .ok (.closure l .pending (c :: held ++ rest)) (s.afterClosures rest.length) := by
  induction rest generalizing k held s with
  | nil => exact ⟨k, by rw [append_nil]; rfl⟩
  | cons x rest ih =>
    have hmore : n < (held ++ [x]).length := by
      rw [length_append]
      omega
    obtain ⟨l, hl⟩ := ih (k := s.serial) hmore (s.afterClosures 1)
    rw [Session.afterClosures_one, ← cons_append, append_assoc] at hl
    refine ⟨l, ?_⟩
    rw [foldlM_cons, h.call_pending, if_neg (by omega)]
    exact hl

theorem curries : Curries n c f where
  once d first rest s hn := by
    cases rest with
    | nil =>
      have hall : first.length = n := hn
      rw [inBatches, h, if_pos hall, if_pos rfl, append_nil]
      exact congrFun (bind_pure (f (d + 1) first)) s
    | cons x rest =>
      have hnot : first.length ≠ n := by
        rw [length_cons] at hn
        omega
      have hs := h.supply_missing (d := d) (x := x) (k := s.serial) hn (s.afterClosures 1)
      rw [Session.afterClosures_one] at hs
      rw [inBatches, h, if_neg hnot, if_neg (cons_ne_nil x rest)]
      exact hs
  never d first rest s hn := by
    obtain ⟨l, hl⟩ := h.supply_more (d := d) (k := s.serial) hn rest (s.afterClosures 1)
    rw [Session.afterClosures_one] at hl
    refine ⟨l, ?_⟩
    rw [inBatches, h, if_neg (Nat.ne_of_gt hn)]
    exact hl

end Waits

/-- **Currying calls a function once.** With its `n` arguments in a first batch of any size and the rest one at a time,
    a curried function does what the function does with all of them, and before that only builds closures; after a
    first batch of more than `n` arguments it waits for ever. -/
theorem curry_calls_once : (∀ g : Value, g.reported? = some n → ∀ d s, ∃ c,
      call (d + 1) (.prim .curry) [g] s = .ok c (s.afterClosures 1) ∧ Curries n c fun d => call d g) ∧
    ∀ p : Primitive, p.rule = .curried n → Curries n (.prim p) fun d => run (call d) p := by
  refine ⟨fun g hg d s => ⟨.closure s.serial .curried [g], rfl, (Waits.of_curry hg).curries⟩, ?_⟩
  intro p hp
  exact (Waits.of_primitive hp).curries

theorem curry_calls_once_pair :
    (∃ c, call 1 (.prim .curry) [.prim .astuple] (.ofSeed 0) = .ok c ((Session.ofSeed 0).afterClosures 1) ∧
      Curries 2 c fun d => call d (.prim .astuple)) ∧ Curries 2 (.prim .shift) fun d => run (call d) .shift :=
  ⟨curry_calls_once.1 (.prim .astuple) rfl 0 _, curry_calls_once.2 .shift rfl⟩

end PuzzlePrograms
