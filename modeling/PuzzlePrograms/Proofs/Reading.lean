import PuzzlePrograms.Proofs.Phrase

/-!
# Steps of the reader of expressions

* what a reader does with the token before it;
* what is read in brackets.
-/

namespace PuzzlePrograms.Source

open List Reader Text

variable {α β : Type} {us : List Token} {e : Expr} {x y : Reader α} {f : α → Reader β} {a : α}
variable {ts : List Token} {c : Prop} {t : Token}

/-! ## 1. Single steps -/

theorem Reader.bind_ok (h : x ts = .ok (a, us)) : (x >>= f) ts = f a us := by
  simp only [bind, StateT.bind, h, Except.bind]

theorem Reader.after {r : Except Failing (β × List Token)} (h : x ts = .ok (a, us)) (k : f a us = r) :
    (x >>= f) ts = r :=
  (bind_ok h).trans k

def Token.isOp (s : String) : Token → Bool
  | .op o => o == s
  | _ => false

def Token.isWord (s : String) : Token → Bool
  | .name x => x == s
  | _ => false

section Steps

variable {s : String} {t : Token} {ts : List Token}

theorem peek_cons : peek (t :: ts) = .ok (t, t :: ts) := rfl

theorem advance_cons (h : ts ≠ []) : advance (t :: ts) = .ok ((), ts) := by
  obtain ⟨u, ts, rfl⟩ := exists_cons_of_ne_nil h
  rfl

theorem atOp_cons : atOp s (t :: ts) = .ok (t.isOp s, t :: ts) := by cases t <;> rfl

theorem atWord_cons : atWord s (t :: ts) = .ok (t.isWord s, t :: ts) := by cases t <;> rfl

theorem acceptOp_no (h : t.isOp s = false) : acceptOp s (t :: ts) = .ok (false, t :: ts) := by
  refine after atOp_cons ?_
  rw [h]
  rfl

theorem acceptOp_yes (h : ts ≠ []) : acceptOp s (.op s :: ts) = .ok (true, ts) := by
  obtain ⟨t, ts, rfl⟩ := exists_cons_of_ne_nil h
  refine after atOp_cons ?_
  rw [Token.isOp, beq_self_eq_true]
  rfl

theorem acceptWord_no (h : t.isWord s = false) : acceptWord s (t :: ts) = .ok (false, t :: ts) := by
  refine after atWord_cons ?_
  rw [h]
  rfl

theorem acceptWord_yes (h : ts ≠ []) : acceptWord s (.name s :: ts) = .ok (true, ts) := by
  obtain ⟨t, ts, rfl⟩ := exists_cons_of_ne_nil h
  refine after atWord_cons ?_
  rw [Token.isWord, beq_self_eq_true]
  rfl

theorem expectOp_yes (h : ts ≠ []) : expectOp s (.op s :: ts) = .ok ((), ts) := bind_ok (acceptOp_yes h)

theorem name_cons {w : Ident} : name (.name w.word :: t :: ts) = .ok (w.word, t :: ts) := by
  refine after peek_cons ?_
  simp only [w.notReserved]
  rfl

end Steps

/-! ## 2. What stands in brackets -/

/-- Operators that no expression starts with. -/
def neverFirst : List String := ["*", "**", ")", "]", "\x7d", ":", ",", "/", "=", ":="]

/-- Tokens that start an expression which is neither starred nor named. -/
def Leads (ts : List Token) : Prop :=
  ∃ t us, ts = t :: us ∧ (∀ s ∈ neverFirst, t.isOp s = false) ∧
    (us.headD .endMarker).isOp "=" = false ∧ (us.headD .endMarker).isOp ":=" = false

/-- An expression that may be an argument as it is. -/
def IsValue : Expr → Prop
  | .starred _ | .keyword _ _ => False
  | _ => True

theorem atNameThen_no {o : String} (h : (us.headD .endMarker).isOp o = false) :
    atNameThen o (t :: us) = .ok (false, t :: us) := by
  cases t with
  | name x =>
    match us with
    | [] => rfl
    | u :: us =>
      cases u with
      | op o' =>
        have ho : (o' == o) = false := h
        show Except.ok (!reserved.contains x && o' == o, _) = _
        rw [ho, Bool.and_false]
      | _ => rfl
  | _ => rfl

namespace Sub

variable {s : Sub} {ts : List Token}

theorem namedExpression_eq (h : Leads ts) : s.namedExpression ts = s.expression ts := by
  obtain ⟨t, us, rfl, _, _, hn⟩ := h
  exact bind_ok (atNameThen_no hn)

theorem argument_eq (h : Leads ts) : s.argument ts = s.expression ts := by
  rw [← namedExpression_eq h]
  obtain ⟨t, us, rfl, ho, he, _⟩ := h
  refine after (acceptOp_no (ho "*" (by decide))) ?_
  refine after (acceptOp_no (ho "**" (by decide))) ?_
  exact bind_ok (atNameThen_no he)

theorem starNamed_eq (h : Leads ts) : s.starNamed ts = s.expression ts := by
  rw [← namedExpression_eq h]
  obtain ⟨t, us, rfl, ho, _⟩ := h
  exact bind_ok (acceptOp_no (ho "*" (by decide)))

end Sub

end PuzzlePrograms.Source
