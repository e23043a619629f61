import PuzzlePrograms.Proofs.Writing

/-!
# Texts of phrases and of terms with names

The text of a phrase is read as the expression of the phrase, and every term with names has such a text: the body of a
function stands in brackets, and so does a function or a negative number that is applied.

* `Phrase.expr` is the expression that a phrase writes;
* `Phrase.expression?_text`: the text of a phrase is read as its expression, if its brackets are not too deep;
* `Named.phrase` is the text of a term by its parts, and `Named.expression?_phrase`: it reads as the term.
-/

namespace PuzzlePrograms

open Source

/-! ## 1. Phrases -/

namespace Source.Phrase

open List Reader

variable {p : Phrase}

/-- A phrase that can be called as it stands. -/
def IsPrimary : Phrase → Prop
  | .word _ | .num _ | .call _ _ | .paren _ => True
  | .neg _ | .fn _ _ => False

/-- Every phrase that is called in a phrase can be called as it stands. -/
def Proper : Phrase → Prop
  | .word _ | .num _ | .neg _ => True
  | .fn _ b => b.Proper
  | .call f a => f.IsPrimary ∧ f.Proper ∧ a.Proper
  | .paren p => p.Proper

def expr : Phrase → Expr
  | .word w => .name w.word
  | .num n => .const (.int n)
  | .neg n => .unaryOp .minus (.const (.int n))
  | .fn x b => .lambda (.oneParam (.param x.word .absent)) b.expr
  | .call f a => .call f.expr [a.expr] []
  | .paren p => p.expr

theorem writes_text {l k : Nat} {dot : Bool} {s : String} {e : Expr} (h : s.toList = p.chars)
    (hs : Writes l dot k s e) : Writes l dot k p.text e := by
  rwa [text, ← h, String.ofList_toList]

/-- The text of a phrase writes its expression, and in a form that can be called if the phrase can be called. -/
theorem writes (hp : p.Proper) : Writes .test false p.nesting p.text p.expr ∧
    (p.IsPrimary → ∃ dot, Writes .atom dot p.nesting p.text p.expr) := by
  have hprimary : ∀ {dot k s e} {P : Prop}, Writes .atom dot k s e →
      Writes .test false k s e ∧ (P → ∃ dot, Writes .atom dot k s e) := fun h => ⟨h.atTest.undotted, fun _ => ⟨_, h⟩⟩
  have hdigits : ∀ n : Nat, (toString (n : Int)).toList = Nat.toDigits 10 n := fun n =>
    Indexed.Named.toString_int_nonneg (Int.natCast_nonneg n)
  induction p with
  | word w => exact hprimary (writes_text rfl (.name w))
  | num n => exact hprimary (writes_text (hdigits n) (.whole n))
  | neg n =>
    have h := (Writes.whole (k := 0) n).lift.sign (o := .minus) (by decide)
    refine ⟨writes_text ?_ h.lift, False.elim⟩
    rw [String.toList_append, hdigits]
    rfl
  | fn x b ih =>
    have hparam : Writes.WritesParams b.nesting [x.word] [(x, none)] := .cons (Writes.param x) .nil
    have h := Writes.lambda hparam (by simp [InOrder]) (ih hp).1
    have hx : x.word ≠ "" := fun hx => by
      have hname := x.isName
      rw [hx] at hname
      cases hname
    exact ⟨writes_text (by simp [Writes.lambdaText, chars, lambdaChars_eq, text, hx]) h, False.elim⟩
  | call f a ihf iha =>
    obtain ⟨dot, hf⟩ := (ihf hp.2.1).2 hp.1
    have ha := (iha hp.2.2).1
    obtain ⟨ts, -, hread⟩ := ha.cuts
    obtain ⟨k, hk⟩ : ∃ k, max f.nesting (a.nesting + 1) = k + 1 := ⟨max f.nesting (a.nesting + 1) - 1, by omega⟩
    have hf' : Writes .atom dot (k + 1) f.text f.expr := hf.mono (by omega)
    have ha' : Writes .test false k a.text a.expr := ha.mono (by omega)
    have hargs : WritesEach ReadsArg k [a.text] ([a.expr] ++ []) := .cons ha'.argument .nil
    have h := hf'.call hargs (by simpa using hread.value) (by simp)
    rw [nesting, hk]
    exact hprimary (writes_text (by simp [chars, text]) h)
  | paren p ih => exact hprimary (writes_text (by simp [chars, text]) (ih hp).1.round)

/-- **The text of a phrase whose brackets are not too deep is read as the expression of the phrase.** -/
theorem expression?_text (hp : p.Proper) (h : p.nesting ≤ bracketLimit) : expression? p.text = .ok p.expr :=
  (writes hp).1.expression? h

end Source.Phrase

/-! ## 2. Terms with names -/

/-- A phrase in a form that can be called. -/
def Source.Phrase.callable : Phrase → Phrase
  | .neg n => .paren (.neg n)
  | .fn x b => .paren (.fn x b)
  | p => p

namespace Indexed

def varIdent (k : Nat) : Ident := ⟨varName k, isName_varName k, not_reserved_varName k⟩

def PrimName.ident (p : PrimName) : Ident := ⟨p.word, p.isName, p.notReserved⟩

namespace Named

def phrase : Named → Phrase
  | .var k => .word (varIdent k)
  | .prim p => .word p.ident
  | .int i => if 0 ≤ i then .num i.toNat else .neg (-i).toNat
  | .lam k b => .fn (varIdent k) (.paren b.phrase)
  | .app f a => .call f.phrase.callable a.phrase

theorem phrase_proper (t : Named) : t.phrase.Proper := by
  have hcall : ∀ p : Phrase, p.Proper → p.callable.IsPrimary ∧ p.callable.Proper := by
    intro p hp
    cases p <;> exact ⟨trivial, hp⟩
  induction t with
  | int i =>
    rw [phrase]
    split <;> trivial
  | lam k b ih => exact ih
  | app f a ihf iha => exact ⟨(hcall _ ihf).1, (hcall _ ihf).2, iha⟩
  | _ => trivial

theorem phrase_expr (t : Named) : t.phrase.expr = t.expr := by
  have hcall : ∀ p : Phrase, p.callable.expr = p.expr := by
    intro p
    cases p <;> rfl
  induction t with
  | var | prim => rfl
  | int i =>
    rw [phrase, expr, intExpr]
    split
    · rw [Phrase.expr, Int.toNat_of_nonneg (by assumption)]
    · rw [Phrase.expr, Int.toNat_of_nonneg (by omega)]
  | lam k b ih => rw [phrase, Phrase.expr, Phrase.expr, ih, expr, varIdent]
  | app f a ihf iha => rw [phrase, Phrase.expr, hcall, ihf, iha, expr]

theorem chars_int (i : Int) : (int i).phrase.chars = (toString i).toList := by
  rw [phrase]
  split
  · rw [Phrase.chars, toString_int_nonneg (by assumption)]
  · rw [Phrase.chars, toString_int_neg (by assumption)]

theorem nesting_int (i : Int) : (int i).phrase.nesting = 0 := by
  rw [phrase]
  split <;> rfl

/-- **The text of a term reads as the term.** -/
theorem expression?_phrase {t : Named} (h : t.phrase.nesting ≤ bracketLimit) :
    expression? t.phrase.text = .ok t.expr := by
  rw [Phrase.expression?_text t.phrase_proper h, t.phrase_expr]

end Named

end Indexed

end PuzzlePrograms
