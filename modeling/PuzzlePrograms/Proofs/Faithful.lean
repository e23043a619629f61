import PuzzlePrograms.Proofs.Program
import PuzzlePrograms.Proofs.Scoping

/-!
# The term that a written expression denotes

The expression written for a program with indices is read again, as an expression with names.

* `lambdaTerm?` is the term that an expression denotes: a name counts to the function whose parameter it
  is, and is an atom if there is none;
* `Program.seen` is what is denoted by the expression for a program, with the atoms that the names of new
  parameters capture, and `Program.Uncaptured` says that there are none;
* **`lambdaTerm?_toNamed_iff`**: the answer for a program denotes the program in small letters just if no
  atom is captured.
-/

namespace PuzzlePrograms.Indexed

open List Text Source Program Named

variable {n : Nat} {p : Program} {w : String} {q : Phrase}

/-! ## 1. Expressions as terms -/

/-- A name below functions with some parameters, the innermost first. -/
def wordTerm (bound : List String) (w : String) : Nameless :=
  match bound.idxOf? w with
  | some i => .index i
  | none => .atom w

/-- The term that an expression denotes, if it is made of names, whole numbers, functions of one parameter
    and calls with one argument. -/
def lambdaTerm? (bound : List String) : Expr → Option Nameless
  | .name w => some (wordTerm bound w)
  | .const (.int i) => some (.atom (toString i))
  | .unaryOp .minus (.const (.int i)) => some (.atom (toString (-i)))
  | .lambda (.params [] [.param x .absent] .absent [] [] .absent []) b =>
    (lambdaTerm? (x :: bound) b).map .lam
  | .call f [a] [] => applied? (lambdaTerm? bound f) (lambdaTerm? bound a)
  | _ => none

theorem wordTerm_eq_atom_iff {bound : List String} : wordTerm bound w = .atom w ↔ w ∉ bound := by
  rw [← idxOf?_eq_none_iff, wordTerm]
  cases bound.idxOf? w <;> simp

/-- The name for an index below `n` functions counts to the function that the index counts to. -/
theorem wordTerm_freshVar {i : Nat} (h : i < n) :
    wordTerm ((fresh n).map varName) (varName (freshVar n i)) = .index i := by
  have hidx : ((fresh n).map varName).idxOf? (varName (freshVar n i)) = some i := by
    induction n generalizing i with
    | zero => exact absurd h (Nat.not_lt_zero i)
    | succ n ih =>
      rw [fresh, map_cons, idxOf?_cons]
      cases i with
      | zero => rw [freshVar_zero, if_pos (beq_self_eq_true _)]
      | succ i =>
        have hne : 101 + n ≠ freshVar n i := by
          unfold freshVar
          split <;> omega
        rw [freshVar_succ, if_neg (by simpa [varName_inj] using hne), ih (by omega)]
        rfl
  rw [wordTerm, hidx]

/-! ## 2. Atoms that can be read -/

/-- A number, or a name that is neither a word of the language nor the mark of a function. -/
def Legible (w : String) : Prop :=
  (∃ i : Int, w = toString i) ∨ (isName w = true ∧ Reader.reserved.contains w = false ∧ w ≠ "lam")

theorem Legible.isWord (h : Legible w) : IsWord w := by
  rcases h with ⟨i, rfl⟩ | h
  · exact isWord_toString_int i
  · exact isName_isWord h.1

theorem Legible.plain (h : Legible w) : starts w "$" = false ∧ w ≠ "lam" := by
  rcases h with ⟨i, rfl⟩ | ⟨hn, _, hl⟩
  · refine ⟨Bool.eq_false_iff.mpr fun hs => ?_, isName_ne_toString_int (by decide) i⟩
    exact not_mem_toString_int (c := '$') (by decide) (by decide) i (mem_of_starts hs (by decide))
  · refine ⟨Bool.eq_false_iff.mpr fun hs => ?_, hl⟩
    exact isName_not_mem hn (d := '$') (by decide) (mem_of_starts hs (by decide))

theorem wordTerm_int (n : Nat) (i : Int) : wordTerm ((fresh n).map varName) (toString i) = .atom (toString i) := by
  refine wordTerm_eq_atom_iff.mpr fun hm => ?_
  obtain ⟨k, _, e⟩ := mem_map.mp hm
  exact isName_ne_toString_int (isName_varName k) i e.symm

/-! ## 3. What the written expression denotes -/

namespace Program

/-- The names of the parameters of the functions around a place, the innermost first. -/
def params (n : Nat) : List String := (fresh n).map varName

/-- The term that the expression for a program below `n` functions denotes. -/
def seen (n : Nat) : Program → Nameless
  | .index i => .index i
  | .atom w => wordTerm (params n) w
  | .lam b => .lam (b.seen (n + 1))
  | .app f a => .app (f.seen n) (a.seen n)
  | .group p => p.seen n

/-- No atom of a program below `n` functions is the name of a parameter around it. -/
def Uncaptured (n : Nat) : Program → Prop
  | .index _ => True
  | .atom w => w ∉ params n
  | .lam b => b.Uncaptured (n + 1)
  | .app f a => f.Uncaptured n ∧ a.Uncaptured n
  | .group p => p.Uncaptured n

theorem seen_eq_term_iff (p : Program) (n : Nat) : p.seen n = p.term ↔ p.Uncaptured n := by
  induction p generalizing n with
  | index i => simp [seen, term, Uncaptured]
  | atom w => exact wordTerm_eq_atom_iff
  | lam b ih => simp [seen, term, Uncaptured, ih]
  | app f a ihf iha => simp [seen, term, Uncaptured, ihf, iha]
  | group p ih => exact ih n

theorem Flat.lead (h : p.Flat) : p.lead.Flat := by
  induction p with
  | app f a ihf _ => exact ihf h.1
  | _ => exact h

theorem nesting_lowered (p : Program) : p.lowered.nesting = p.nesting := by
  induction p with
  | index | atom => rfl
  | lam b ih => rw [lowered, nesting, nesting, ih]
  | app f a ihf iha => rw [lowered, nesting, nesting, ihf, iha]
  | group p ih => exact ih

/-- A phrase for a program below `n` functions, which can be called if the program can be applied. -/
structure Says (n : Nat) (p : Program) (q : Phrase) : Prop where
  spelled : p.IsSpelled n q
  proper : q.Proper
  term : lambdaTerm? (params n) q.expr = some (p.seen n)
  primary : p.lead.Flat → starts p.front "-" = false → q.IsPrimary

theorem says_int (n : Nat) (i : Int) : (atom (toString i)).Says n (int i).phrase where
  spelled := isSpelled_int n i
  proper := phrase_proper _
  term := by
    rw [phrase_expr, expr, intExpr, seen, params, wordTerm_int]
    split
    · rw [lambdaTerm?]
    · rw [lambdaTerm?, Int.neg_neg]
  primary := by
    intro _ hs
    rw [phrase]
    split
    · trivial
    · rename_i hi
      have hstart : starts (toString i) "-" = true := by
        rw [starts_iff, toString_int_neg hi, show "-".toList = ['-'] from rfl]
        exact ⟨_, rfl⟩
      rw [front, hstart] at hs
      cases hs

theorem Says.lam {b : Program} (h : b.Says (n + 1) q) : (lam b).Says n (.fn (varIdent (101 + n)) (.paren q)) where
  spelled := h.spelled.lam
  proper := h.proper
  term := by
    have ht : lambdaTerm? (varName (101 + n) :: params n) q.expr = some (b.seen (n + 1)) := h.term
    rw [Phrase.expr, Phrase.expr, Expr.oneParam, lambdaTerm?, varIdent, ht, seen]
    rfl
  primary := fun hf => hf.elim

theorem Says.app {f a : Program} {r : Phrase} (hf : f.Says n q) (ha : a.Says n r)
    (hl : f.lead.Flat) (hs : starts f.front "-" = false) : (app f a).Says n (.call q r) where
  spelled := hf.spelled.app ha.spelled
  proper := ⟨hf.primary hl hs, hf.proper, ha.proper⟩
  term := by
    rw [Phrase.expr, lambdaTerm?, hf.term, ha.term, seen]
    rfl
  primary := fun _ _ => trivial

/-- The expression for a program is spelled as a phrase that denotes what is seen of the program. -/
theorem exists_says (ha : ∀ w ∈ p.atoms, Legible w) (hs : p.InScope 0 n) (hh : p.HeadsPlain) : ∃ q, p.Says n q := by
  induction p generalizing n with
  | index i =>
    refine ⟨.word (varIdent (freshVar n i)), ⟨rfl, rfl⟩, trivial, ?_, fun h => h.elim⟩
    have hi : i < n := hs
    rw [Phrase.expr, lambdaTerm?, varIdent, params, wordTerm_freshVar hi, seen]
  | atom w =>
    rcases ha w mem_cons_self with ⟨i, rfl⟩ | ⟨hn, hr, _⟩
    · exact ⟨_, says_int n i⟩
    · refine ⟨.word ⟨w, hn, hr⟩, ⟨rfl, rfl⟩, trivial, ?_, fun _ _ => trivial⟩
      rw [Phrase.expr, lambdaTerm?, seen]
  | lam b ih =>
    obtain ⟨q, hq⟩ := ih ha hs hh
    exact ⟨_, hq.lam⟩
  | app f a ihf iha =>
    obtain ⟨hl, hm, hhf, hha⟩ := hh
    obtain ⟨q, hq⟩ := ihf (fun w hw => ha w (by simp [atoms, hw])) hs.1 hhf
    obtain ⟨r, hr⟩ := iha (fun w hw => ha w (by simp [atoms, hw])) hs.2 hha
    exact ⟨_, hq.app hr hl hm⟩
  | group p ih =>
    obtain ⟨q, hq⟩ := ih ha hs hh
    exact ⟨q, ⟨hq.spelled.chars, hq.spelled.nesting⟩, hq.proper, hq.term,
      fun hf hm => hq.primary (.lead (p := p) hf) hm⟩

theorem InScope.mono {m m' : Nat} (h : p.InScope m n) (hm : m ≤ m') : p.InScope m' n := by
  induction p generalizing n with
  | index i => exact Nat.lt_of_lt_of_le h (Nat.add_le_add_left hm n)
  | atom w => trivial
  | lam b ih => exact ih h
  | app f a ihf iha => exact ⟨ihf h.1, iha h.2⟩
  | group p ih => exact ih h

end Program

/-! ## 4. The answer -/

/-- A word that is legible in small letters and has no letters but the common ones, which readers leave as they are. -/
structure Spellable (w : String) : Prop where
  common : ∀ c ∈ w.toList, c.toNat < 128
  isWord : IsWord w
  legible : Legible (lower w)

/-- A program of such words, in which all indices are bound and what is applied is plain. -/
structure Program.Closed (p : Program) : Prop where
  atoms : ∀ w ∈ p.atoms, Spellable w
  inScope : p.InScope 0 0
  headsPlain : p.lowered.HeadsPlain

/-- The answer for such a program is the expression for it. If it is read, it denotes what is seen of the program. -/
theorem Program.Closed.toNamed (h : p.Closed) (hm : p.Modest) :
    Indexed.toNamed p.text [] {} = .ok (p.lowered.written 0) ∧ ∃ e, expression? (p.lowered.written 0) = .ok e ∧
    lambdaTerm? [] e = some (p.lowered.seen 0) := by
  have hlegible : ∀ w ∈ p.lowered.atoms, Legible w := by
    intro w hw
    rw [atoms_lowered] at hw
    obtain ⟨v, hv, rfl⟩ := mem_map.mp hw
    exact (h.atoms v hv).legible
  have hanswer := toNamed_text (fun w hw => ⟨(h.atoms w hw).isWord, (h.atoms w hw).legible.isWord⟩)
    (h.inScope.mono (Nat.zero_le 100)) h.headsPlain fun w hw => (hlegible w hw).plain
  obtain ⟨q, hq⟩ := exists_says hlegible (inScope_lowered h.inScope) h.headsPlain
  have hread := hq.spelled.expression? hq.proper (nesting_lowered p ▸ hm.nesting)
  exact ⟨hanswer, q.expr, hread, hq.term⟩

/-- **The answer for a program with bound indices and plain heads denotes the program in small letters just if no atom
    is captured**, if the program is within the limits of readers. -/
theorem lambdaTerm?_toNamed_iff {p : Program} (h : p.Closed) (hm : p.Modest) : ∃ v e, toNamed p.text [] {} = .ok v ∧
    expression? v = .ok e ∧ (lambdaTerm? [] e = some p.lowered.term ↔ p.lowered.Uncaptured 0) := by
  obtain ⟨hanswer, e, he, ht⟩ := h.toNamed hm
  refine ⟨_, e, hanswer, he, ?_⟩
  rw [ht, Option.some.injEq]
  exact seen_eq_term_iff _ 0

theorem lower_getItem : lower "getItem" = "getitem" := by decide +kernel

theorem spellable_getItem : Spellable "getItem" := by
  refine ⟨forall_chars (by decide), ⟨by decide, forall_chars (by decide)⟩, .inr ?_⟩
  rw [lower_getItem]
  decide

theorem spellable_int (i : Int) : Spellable (toString i) := by
  have hsmall : ∀ c ∈ (toString i).toList, c.toNat < 128 ∧ c.isUpper = false := by
    intro c hc
    rcases mem_toString_int hc with h | rfl
    · exact digit_small h
    · decide
  exact ⟨fun c hc => (hsmall c hc).1, isWord_toString_int i, .inl ⟨i, lower_of_small hsmall⟩⟩

/-- Two functions, the inner one with the variable of the outer one. -/
theorem lambdaTerm?_toNamed_getItem :
    let p : Program := .lam (.app (.app (.atom "getItem") (.index 0))
      (.lam (.app (.app (.atom "getItem") (.index 1)) (.atom "-3"))))
    p.Closed ∧ p.text = "(lam (getItem $0 (lam (getItem $1 -3))))" ∧
    ∃ v, toNamed p.text [] {} = .ok v ∧ ∃ e, expression? v = .ok e ∧
      lambdaTerm? [] e = some (.lam (.app (.app (.atom "getitem") (.index 0))
        (.lam (.app (.app (.atom "getitem") (.index 1)) (.atom "-3"))))) := by
  intro p
  have hlow : lower "-3" = "-3" := lower_of_small (forall_chars (by decide))
  have hlowered : p.lowered = .lam (.app (.app (.atom "getitem") (.index 0))
      (.lam (.app (.app (.atom "getitem") (.index 1)) (.atom "-3")))) := by
    simp [p, lowered, lower_getItem, hlow]
  have hp : p.Closed := by
    refine ⟨?_, ⟨⟨trivial, Nat.zero_lt_one⟩, ⟨trivial, Nat.lt_add_one 1⟩, trivial⟩, ?_⟩
    · intro w hw
      simp only [p, Program.atoms, append_nil, cons_append, nil_append, mem_cons, not_mem_nil, or_false] at hw
      rcases hw with rfl | rfl | rfl
      · exact spellable_getItem
      · exact spellable_getItem
      · exact spellable_int (-3)
    · rw [hlowered]
      exact ⟨trivial, by decide, ⟨trivial, by decide, trivial, trivial⟩,
        ⟨trivial, by decide, ⟨trivial, by decide, trivial, trivial⟩, trivial⟩⟩
  obtain ⟨v, e, hv, he, hiff⟩ := lambdaTerm?_toNamed_iff hp ⟨by decide, by decide⟩
  have hc : p.lowered.Uncaptured 0 := by
    rw [hlowered]
    simp only [Program.Uncaptured]
    decide
  have ht := hiff.mpr hc
  rw [hlowered] at ht
  exact ⟨hp, by decide, v, hv, e, he, ht⟩

/-- The capital letter of `getItem` is lost. -/
theorem toNamed_capital : toNamed "(getItem 1 0)" [] {} = .ok "getitem(1)(0)" ∧ ∀ e, expression? "getitem(1)(0)" =
    .ok e → lambdaTerm? [] e ≠ some (.app (.app (.atom "getItem") (.atom "1")) (.atom "0")) := by
  have htext : (app (.app (.atom "getItem") (.atom "1")) (.atom "0")).text = "(getItem 1 0)" := by decide
  have h1 : lower "1" = "1" := lower_of_small (forall_chars (by decide))
  have h0 : lower "0" = "0" := lower_of_small (forall_chars (by decide))
  have hlowered : (app (.app (.atom "getItem") (.atom "1")) (.atom "0")).lowered =
      .app (.app (.atom "getitem") (.atom "1")) (.atom "0") := by
    simp [lowered, lower_getItem, h1, h0]
  have hp : (app (.app (.atom "getItem") (.atom "1")) (.atom "0")).Closed := by
    refine ⟨?_, ⟨⟨trivial, trivial⟩, trivial⟩, ?_⟩
    · intro w hw
      simp only [Program.atoms, cons_append, nil_append, mem_cons, not_mem_nil, or_false] at hw
      rcases hw with rfl | rfl | rfl
      · exact spellable_getItem
      · exact spellable_int 1
      · exact spellable_int 0
    · rw [hlowered]
      exact ⟨trivial, by decide, ⟨trivial, by decide, trivial, trivial⟩, trivial⟩
  have hwritten : (app (.app (.atom "getitem") (.atom "1")) (.atom "0")).written 0 = "getitem(1)(0)" := by decide
  obtain ⟨hanswer, e', he', ht'⟩ := hp.toNamed ⟨by decide, by decide⟩
  rw [htext, hlowered, hwritten] at hanswer
  rw [hlowered, hwritten] at he'
  refine ⟨hanswer, fun e he ht => ?_⟩
  rw [he] at he'
  cases he'
  rw [ht'] at ht
  exact absurd ht (by decide)

end PuzzlePrograms.Indexed
