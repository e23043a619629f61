import PuzzlePrograms.Indexed.Calls
import PuzzlePrograms.Proofs.OperatorCalls
import PuzzlePrograms.Proofs.TreeText

/-!
# What a tree of calls keeps of an expression

`callTree` goes through calls, functions and negations. It leaves out arguments with a name and the default values of
parameters, and of an operator before a term that is no minus it leaves nothing at all.

* `atoms e`: the words for all names and constants in `e`, a negated number as one;
* `Kept e`: nothing in `e` is left out;
* **`callTree_keeps`**: an expression in which nothing is left out is refused, or its tree has all its names and
  constants.
-/

namespace PuzzlePrograms

open List Source Pass PuzzlePrograms.Tree

variable {e : Expr} {w : String}

mutual

def Tree.leaves : Tree → List String
  | .word w => [w]
  | .scalar x => [x.text]
  | .node ts => allLeaves ts

def Tree.allLeaves : List Tree → List String
  | [] => []
  | t :: ts => t.leaves ++ allLeaves ts

end

namespace Indexed

/-- The word for a name, a constant or a negated number. -/
def leaf? : Expr → Option String
  | .name x => some x
  | .const c => some (constantWord c)
  | .unaryOp .minus e => negated? e
  | _ => none

/-- The words for the names and constants in an expression, in order. -/
def atoms (e : Expr) : List String :=
  match leaf? e with
  | some w => [w]
  | none => e.children.attach.flatMap fun c => atoms c.1
termination_by size e
decreasing_by exact size_lt_of_mem c.2

theorem atoms_leaf (h : leaf? e = some w) : atoms e = [w] := by rw [atoms, h]

theorem atoms_parts (h : leaf? e = none) : atoms e = e.children.flatMap atoms := by
  rw [atoms, h]
  conv_rhs => rw [← attach_map_subtype_val e.children, flatMap_map]

/-- No call has arguments with a name, no parameter a default value, and every operator before a term is a minus, as far
    as `callTree` looks. -/
inductive Kept : Expr → Prop where
  | call {f : Expr} {as : List Expr} (hf : Kept f) (has : ∀ a ∈ as, Kept a) : Kept (.call f as [])
  | function {ps b : Expr} (hps : atoms ps = []) (hb : Kept b) : Kept (.lambda ps b)
  | minus {e : Expr} (h : Kept e) : Kept (.unaryOp .minus e)
  | other {e : Expr} (hf : ∀ f as ks, e ≠ .call f as ks) (hl : ∀ ps b, e ≠ .lambda ps b)
      (hu : ∀ o x, e ≠ .unaryOp o x) : Kept e

/-- An expression is refused for a kind of term, or its tree has its atoms. -/
def Keeps (e : Expr) : Prop := (∃ kind, callTree e = .error (.unhandledTerm kind)) ∨
  ∃ t, callTree e = .ok t ∧ t.Words (fun _ => True) ∧ atoms e <+ t.leaves

theorem keeps_word (h : callTree e = .ok (.word w)) (hw : leaf? e = some w) : Keeps e :=
  .inr ⟨_, h, .word trivial, by rw [atoms_leaf hw]; exact .refl _⟩

theorem keeps_all : (∀ e, Kept e → Keeps e) ∧ ∀ es : List Expr, (∀ e ∈ es, Kept e) →
    (∃ kind, callTrees es = .error (.unhandledTerm kind)) ∨ ∃ ts, callTrees es = .ok ts ∧
    (∀ t ∈ ts, t.Words fun _ => True) ∧ es.flatMap atoms <+ allLeaves ts := by
  apply callTree.mutual_induct
  case case1 =>
    rintro f as ks ihf ihas (⟨hf, has⟩ | _ | _ | ⟨h, -, -⟩)
    · rw [Keeps, callTree, atoms_parts rfl]
      rcases ihf hf with ⟨k, he⟩ | ⟨t, ht, hw, hsub⟩
      · exact .inl ⟨k, by rw [he]; rfl⟩
      · rcases ihas has with ⟨k, he⟩ | ⟨ts, hts, hws, hsubs⟩
        · exact .inl ⟨k, by rw [ht, he]; rfl⟩
        · refine .inr ⟨.node (t :: ts), by rw [ht, hts]; rfl, .node (forall_mem_cons.mpr ⟨hw, hws⟩), ?_⟩
          simpa [Expr.children, leaves, allLeaves] using hsub.append hsubs
    · exact absurd rfl (h f as ks)
  case case2 => exact fun x _ => keeps_word rfl rfl
  case case3 =>
    rintro ps b ihb (_ | ⟨hps, hb⟩ | _ | ⟨-, h, -⟩)
    · rw [Keeps, callTree, atoms_parts rfl]
      rcases ihb hb with ⟨k, he⟩ | ⟨t, ht, hw, hsub⟩
      · exact .inl ⟨k, by rw [he]; rfl⟩
      · refine .inr ⟨.node [.word (lambdaHead ps), t], by rw [ht]; rfl, .node (by simpa using ⟨.word trivial, hw⟩), ?_⟩
        simpa [Expr.children, hps, leaves, allLeaves] using hsub.cons (lambdaHead ps)
    · exact absurd rfl (h ps b)
  case case4 => exact fun c _ => keeps_word rfl rfl
  case case5 =>
    rintro e ih (_ | _ | h | ⟨-, -, h⟩)
    · rcases ih h with ⟨k, he⟩ | ⟨t, ht, hw, hsub⟩
      · exact .inl ⟨k, by rw [callTree, he]; rfl⟩
      · cases hn : negated? e with
        | some w => exact keeps_word (by rw [callTree, ht, hn]; rfl) hn
        | none =>
          refine .inr ⟨.node [.word "neg", t], by rw [callTree, ht, hn]; rfl,
            .node (by simpa using ⟨.word trivial, hw⟩), ?_⟩
          rw [atoms_parts (e := .unaryOp .minus e) hn]
          simpa [Expr.children, leaves, allLeaves] using hsub.cons "neg"
    · exact absurd rfl (h .minus e)
  case case6 =>
    rintro o e ho (_ | _ | _ | ⟨-, -, h⟩)
    · exact absurd rfl ho
    · exact absurd rfl (h o e)
  case case7 =>
    intro e h1 h2 h3 h4 h5 h6 _
    exact .inl ⟨kindName e, by rw [callTree] <;> first | rfl | assumption⟩
  case case8 => exact fun _ => .inr ⟨[], rfl, by simp, by simp⟩
  case case9 =>
    intro e es ihe ihes h
    obtain ⟨he, hes⟩ := forall_mem_cons.mp h
    rw [callTrees]
    rcases ihe he with ⟨k, he⟩ | ⟨t, ht, hw, hsub⟩
    · exact .inl ⟨k, by rw [he]; rfl⟩
    · rcases ihes hes with ⟨k, he⟩ | ⟨ts, hts, hws, hsubs⟩
      · exact .inl ⟨k, by rw [ht, he]; rfl⟩
      · exact .inr ⟨t :: ts, by rw [ht, hts]; rfl, forall_mem_cons.mpr ⟨hw, hws⟩, hsub.append hsubs⟩

/-- **Nothing gets lost in an expression in which nothing is left out.** It is refused for a kind of term, or its tree
    is made of words, and those for the names and constants of the expression are among them in order. -/
theorem callTree_keeps {e : Expr} (h : Kept e) : (∃ kind, callTree e = .error (.unhandledTerm kind)) ∨
    ∃ t, callTree e = .ok t ∧ t.Words (fun _ => True) ∧ atoms e <+ t.leaves := keeps_all.1 e h

/-- In `f(lambda x: -y)` nothing is left out. -/
theorem callTree_keeps_negation : ∃ t,
    callTree (.call (.name "f") [.lambda (.oneParam (.param "x" .absent)) (.unaryOp .minus (.name "y"))] []) = .ok t ∧
      ["f", "y"] <+ t.leaves := by
  have hname : ∀ x, Kept (.name x) := fun x => .other (by simp) (by simp) (by simp)
  have habsent : atoms .absent = [] := atoms_parts rfl
  have hparam : atoms (.param "x" .absent) = [] := by
    rw [atoms_parts rfl]
    simp [Expr.children, habsent]
  have hps : atoms (.oneParam (.param "x" .absent)) = [] := by
    rw [Expr.oneParam, atoms_parts rfl]
    simp [Expr.children, habsent, hparam]
  have hminus : atoms (.unaryOp .minus (.name "y")) = ["y"] := by
    rw [atoms_parts rfl]
    simp [Expr.children, atoms_leaf (e := .name "y") rfl]
  rcases callTree_keeps (.call (hname "f") (forall_mem_singleton.mpr (.function hps (.minus (hname "y"))))) with
    ⟨k, h⟩ | ⟨t, ht, -, hsub⟩
  · cases h
  · refine ⟨t, ht, ?_⟩
    rw [atoms_parts rfl] at hsub
    simpa [Expr.children, atoms_leaf (e := .name "f") rfl, atoms_parts (e := .lambda _ _) rfl, hps, hminus] using hsub

end Indexed

end PuzzlePrograms
