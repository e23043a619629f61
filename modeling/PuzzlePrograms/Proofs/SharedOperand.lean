import Mathlib
import PuzzlePrograms.Pass.Curried
import PuzzlePrograms.Proofs.Printing

/-!
# The operand in the middle of a chain

A chain of two comparisons has one operand in the middle, the conjunction of the two comparisons has two
copies of it. The curried texts of both are the same if this operand is a leaf, whatever the outer operands
are (`curriedText_chain`). A string inside the operand in the middle is tagged twice (`curriedText_tagged`).
-/

namespace PuzzlePrograms.Pass

open Source Expr

variable {b : Expr}

theorem runAll_cons (p : Rule) (ps : List Rule) (s : Shared) : runAll (p :: ps) s = runAll ps (p.run s) := rfl

theorem visit_chain (hb : isLeaf b = true) (a c : Expr) (p q : CmpOp) (n : Nat) (t : Table) :
    visit operators (n + 1) (.compare a [p, q] [b, c]) t =
      (.boolOp .and [callName (comparisonName p) [a, b], callName (comparisonName q) [b, c]], t) := by
  have hlabel : labelButLast [b, c] = pure [b, c] := by simp [labelButLast, label, hb]
  change ((labelButLast [b, c] >>= fun rs => replacing _ _) >>= fun o => pure o.term) t = _
  rw [hlabel]
  rfl

theorem operators_chain (hb : isLeaf b = true) (a c : Expr) (p q : CmpOp) :
    operators.run { term := .compare a [p, q] [b, c] } =
      operators.run { term := .boolOp .and [.compare a [p] [b], .compare b [q] [c]] } :=
  congrArg (fun r : Expr × Table => Shared.mk r.1 r.2)
    (visit_chain hb a c p q (4 * size (Shared.resolved { term := .compare a [p, q] [b, c] }) + 3) #[])

/-- **A chain and the conjunction of its two comparisons have the same curried text** if the operand in the
    middle is a leaf: all passes leave what is shared alone. -/
theorem curriedText_chain {a b c : Expr} {p q : CmpOp} {s t : String} (hb : isLeaf b = true)
    (hs : expression? s = .ok (.compare a [p, q] [b, c]))
    (ht : expression? t = .ok (.boolOp .and [.compare a [p] [b], .compare b [q] [c]])) :
    curriedText s = curriedText t := by
  have hform :
    curriedForm (.compare a [p, q] [b, c]) = curriedForm (.boolOp .and [.compare a [p] [b], .compare b [q] [c]]) := by
    rw [curriedForm, allRules, runAll_cons, operators_chain hb]
    exact (runAll_cons _ _ _).symm
  unfold curriedText
  rw [hs, ht]
  dsimp only
  rw [hform]

/-- What the passes change stands beside the operand in the middle. -/
theorem curriedText_chain_beside :
    let a : Expr := .set [.const (.str "u v" false)]
    ∃ s t, expression? s = .ok (.compare a [.lt, .le] [.name "x", .name "y"]) ∧
      expression? t = .ok (.boolOp .and [.compare a [.lt] [.name "x"], .compare (.name "x") [.le] [.name "y"]]) ∧
      curriedText s = curriedText t := by
  intro a
  have ha : Proper a := .set (List.forall_mem_singleton.mpr (.text _)) nofun
  have hx : Proper (.name "x") := .name ⟨"x", by decide, by decide⟩
  have hy := List.forall_mem_singleton.mpr (Proper.name ⟨"y", by decide, by decide⟩)
  have hchain : Proper (.compare a [.lt, .le] [.name "x", .name "y"]) :=
    .compare ha (List.forall_mem_cons.mpr ⟨hx, hy⟩) rfl nofun
  have hfirst : Proper (.compare a [.lt] [.name "x"]) := .compare ha (List.forall_mem_singleton.mpr hx) rfl nofun
  have hlast : Proper (.compare (.name "x") [.le] [.name "y"]) := .compare hx hy rfl nofun
  obtain ⟨s, -, hs⟩ := hchain.text_reads (by decide)
  obtain ⟨t, -, ht⟩ := (Proper.joined .and hfirst (List.forall_mem_singleton.mpr hlast) nofun).text_reads (by decide)
  exact ⟨s, t, hs, ht, curriedText_chain rfl hs ht⟩

/-- A string inside the operand in the middle is tagged once for each of its places. -/
theorem curriedText_tagged : curriedText "(x) < (f('a b')) < (y)" =
    .ok "andOp(lt(x)(f(__str__(__str__('a b')))))(lt(f(__str__(__str__('a b'))))(y))" ∧
    curriedText "((x) < (f('a b'))) and ((f('a b')) < (y))" =
    .ok "andOp(lt(x)(f(__str__('a b'))))(lt(f(__str__('a b')))(y))" := by
  decide +kernel

end PuzzlePrograms.Pass
