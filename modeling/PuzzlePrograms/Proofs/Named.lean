import PuzzlePrograms.Proofs.Names

/-!
# Terms with names

The expressions of names, whole numbers, functions of one variable and calls with one argument, as
terms, and what they denote without names.

* `Named.expr` is the expression that a term is;
* `Named.nameless` is the term without names: a variable becomes the number of functions between it and
  the one that binds it, and a free variable the depth at which it stands and its number;
* `Named.AlphaEq` says that two terms differ in the names of bound variables only, and
  `alphaEq_iff`: they do if they are the same term without names;
* `Named.Applies` says what stands at the head of the applications of a term.
-/

namespace PuzzlePrograms.Indexed

open List Text Source

variable {i : Int} {bound : List Nat} {k : Nat} {c : Char}

/-! ## 1. Terms -/

/-- A term with names: variables by their number, primitives, whole numbers, functions, applications. -/
inductive Named where
  | var (k : Nat)
  | prim (p : PrimName)
  | int (i : Int)
  | lam (k : Nat) (b : Named)
  | app (f a : Named)
  deriving DecidableEq

namespace Named

/-- The expression for a whole number; a negative one has a sign before it. -/
def intExpr (i : Int) : Expr := if 0 ≤ i then .const (.int i) else .unaryOp .minus (.const (.int (-i)))

def expr : Named → Expr
  | .var k => .name (varName k)
  | .prim p => .name p.word
  | .int i => intExpr i
  | .lam k b => .lambda (.oneParam (.param (varName k) .absent)) b.expr
  | .app f a => .call f.expr [a.expr] []

/-- What is applied in a term, without its arguments. -/
def head : Named → Named
  | .app f _ => f.head
  | t => t

/-- Every application in a term has a head of some kind. -/
def Applies (ok : Named → Prop) : Named → Prop
  | .var _ | .prim _ | .int _ => True
  | .lam _ b => b.Applies ok
  | .app f a => ok f.head ∧ f.Applies ok ∧ a.Applies ok

/-- The variables that are free in a term. -/
def free : Named → List Nat
  | .var k => [k]
  | .prim _ | .int _ => []
  | .lam k b => b.free.filter (· != k)
  | .app f a => f.free ++ a.free

def IsVar : Named → Prop
  | .var _ => True
  | _ => False

def IsPrim : Named → Prop
  | .prim _ => True
  | _ => False

def IsLam : Named → Prop
  | .lam _ _ => True
  | _ => False

/-! ## 2. Terms without names -/

/-- The index of a variable below functions that bind some variables, the innermost first. A variable
    that none of them binds counts on from the last of them. -/
def position : List Nat → Nat → Nat
  | [], k => k
  | j :: js, k => if k = j then 0 else position js k + 1

/-- A term without names, below functions that bind some variables. -/
def nameless (bound : List Nat) : Named → Nameless
  | .var k => .index (position bound k)
  | .prim p => .atom p.word
  | .int i => .atom (toString i)
  | .lam k b => .lam (b.nameless (k :: bound))
  | .app f a => .app (f.nameless bound) (a.nameless bound)

theorem position_of_not_mem (h : k ∉ bound) : position bound k = bound.length + k := by
  induction bound with
  | nil => simp [position]
  | cons j js ih =>
    simp only [mem_cons, not_or] at h
    rw [position, if_neg h.1, ih h.2, length_cons]
    omega

theorem position_lt_of_mem (h : k ∈ bound) : position bound k < bound.length := by
  induction bound with
  | nil => exact absurd h not_mem_nil
  | cons j js ih =>
    by_cases e : k = j
    · rw [position, if_pos e, length_cons]
      omega
    · have hm : k ∈ js := by simpa [e] using h
      have := ih hm
      rw [position, if_neg e, length_cons]
      omega

/-! ## 3. Free variables -/

theorem free_nameless (t : Named) (bound : List Nat) :
    (t.nameless bound).free bound.length = t.free.filter (· ∉ bound) := by
  induction t generalizing bound with
  | var k =>
    by_cases h : k ∈ bound
    · have hp := position_lt_of_mem h
      simp only [nameless, Nameless.free, free]
      rw [if_neg (by omega)]
      simp [h]
    · simp only [nameless, Nameless.free, free, position_of_not_mem h]
      rw [if_pos (by omega)]
      simp [h]
  | prim | int => rfl
  | lam k b ih =>
    have hb := ih (k :: bound)
    simp only [nameless, Nameless.free, free, filter_filter]
    rw [length_cons] at hb
    rw [hb]
    congr 1
    funext j
    by_cases h1 : j = k <;> by_cases h2 : j ∈ bound <;> simp [h1, h2]
  | app f a ihf iha =>
    simp [nameless, Nameless.free, free, filter_append, ihf bound, iha bound]

/-! ## 4. Names of bound variables -/

/-- Two variables stand for each other below functions that bind variables pair by pair: the same
    function binds both, or no function binds either and they are the same. -/
def Paired : List (Nat × Nat) → Nat → Nat → Prop
  | [], j, k => j = k
  | (a, b) :: ρ, j, k => (j = a ∧ k = b) ∨ (j ≠ a ∧ k ≠ b ∧ Paired ρ j k)

/-- Two terms are the same but for the names of the variables they bind, below functions that bind
    variables pair by pair. -/
def Alike : List (Nat × Nat) → Named → Named → Prop
  | ρ, .var j, .var k => Paired ρ j k
  | _, .prim p, .prim q => p = q
  | _, .int i, .int j => i = j
  | ρ, .lam j b, .lam k c => Alike ((j, k) :: ρ) b c
  | ρ, .app f a, .app g c => Alike ρ f g ∧ Alike ρ a c
  | _, _, _ => False

/-- Two terms differ in the names of bound variables only. -/
def AlphaEq (t u : Named) : Prop := Alike [] t u

theorem paired_iff (ρ : List (Nat × Nat)) (j k : Nat) :
    Paired ρ j k ↔ position (ρ.map (·.1)) j = position (ρ.map (·.2)) k := by
  induction ρ with
  | nil => exact .rfl
  | cons p ρ ih =>
    obtain ⟨a, b⟩ := p
    simp only [Paired, map_cons, position]
    by_cases h1 : j = a <;> by_cases h2 : k = b <;> simp [h1, h2, ih]

theorem toString_int_nonneg (h : 0 ≤ i) : (toString i).toList = Nat.toDigits 10 i.toNat := by
  obtain ⟨n, rfl⟩ := Int.eq_ofNat_of_zero_le h
  simp [toString, Int.repr]

theorem toString_int_neg (h : ¬ 0 ≤ i) : (toString i).toList = '-' :: Nat.toDigits 10 (-i).toNat := by
  cases i with
  | ofNat n => exact absurd (Int.natCast_nonneg n) h
  | negSucc n =>
    have e : (-Int.negSucc n).toNat = n + 1 := rfl
    rw [e]
    simp [toString, Int.repr]

theorem toDigits_inj {m n : Nat} (h : Nat.toDigits 10 m = Nat.toDigits 10 n) : m = n := by
  have hm := Nat.ofDigitChars_ten_toDigits (n := m)
  rw [h, Nat.ofDigitChars_ten_toDigits] at hm
  exact hm.symm

theorem toDigits_ne_minus (n : Nat) (cs : List Char) : Nat.toDigits 10 n ≠ '-' :: cs := by
  intro h
  have hd : ('-').isDigit = true := isDigit_toDigits (n := n) (by rw [h]; simp)
  exact absurd hd (by decide)

theorem toString_int_inj {j : Int} (h : toString i = toString j) : i = j := by
  have hl := congrArg String.toList h
  by_cases hi : 0 ≤ i <;> by_cases hj : 0 ≤ j
  · rw [toString_int_nonneg hi, toString_int_nonneg hj] at hl
    have := toDigits_inj hl
    omega
  · rw [toString_int_nonneg hi, toString_int_neg hj] at hl
    exact absurd hl (toDigits_ne_minus _ _)
  · rw [toString_int_neg hi, toString_int_nonneg hj] at hl
    exact absurd hl.symm (toDigits_ne_minus _ _)
  · rw [toString_int_neg hi, toString_int_neg hj] at hl
    have := toDigits_inj (cons.inj hl).2
    omega

theorem mem_toString_int (h : c ∈ (toString i).toList) : c.isDigit = true ∨ c = '-' := by
  by_cases hi : 0 ≤ i
  · rw [toString_int_nonneg hi] at h
    exact .inl (isDigit_toDigits h)
  · rw [toString_int_neg hi, mem_cons] at h
    rcases h with h | h
    · exact .inr h
    · exact .inl (isDigit_toDigits h)

theorem not_mem_toString_int (h1 : c.isDigit = false) (h2 : c ≠ '-') (i : Int) : c ∉ (toString i).toList := by
  intro h
  rcases mem_toString_int h with h | h
  · rw [h1] at h
    cases h
  · exact h2 h

theorem starts_toString_int (i : Int) : starts (toString i) "x" = false :=
  Bool.eq_false_iff.mpr fun h =>
    not_mem_toString_int (c := 'x') (by decide) (by decide) i (mem_of_starts h (by decide))

theorem isWord_toString_int (i : Int) : IsWord (toString i) := by
  refine ⟨?_, fun c hc => ?_⟩
  · by_cases hi : 0 ≤ i
    · rw [toString_int_nonneg hi]
      exact Nat.toDigits_ne_nil
    · rw [toString_int_neg hi]
      simp
  · rcases mem_toString_int hc with h | rfl
    · exact digit_wordly h
    · decide

theorem isName_ne_toString_int {w : String} (h : isName w = true) (i : Int) : toString i ≠ w := by
  intro e
  obtain ⟨c, cs, hl, hc, _⟩ := isName_chars h
  rw [← e] at hl
  have hm : c ∈ (toString i).toList := by
    rw [hl]
    exact mem_cons_self
  rcases mem_toString_int hm with hd | rfl
  · rw [isNameStart_digit hd] at hc
    cases hc
  · exact absurd hc (by decide)

theorem PrimName.eq_of_word {p q : PrimName} (h : p.word = q.word) : p = q := by
  cases p
  cases q
  simp only at h
  subst h
  rfl

theorem alike_iff (ρ : List (Nat × Nat)) (t u : Named) :
    Alike ρ t u ↔ t.nameless (ρ.map (·.1)) = u.nameless (ρ.map (·.2)) := by
  induction t generalizing ρ u with
  | var j =>
    cases u with
    | var k => simp [Alike, nameless, Nameless.index.injEq, paired_iff]
    | _ => simp [Alike, nameless]
  | prim p =>
    cases u with
    | prim q =>
      simp only [Alike, nameless, Nameless.atom.injEq]
      exact ⟨fun h => by rw [h], PrimName.eq_of_word⟩
    | int i =>
      simp only [Alike, nameless, Nameless.atom.injEq, false_iff]
      exact fun h => isName_ne_toString_int p.isName i h.symm
    | _ => simp [Alike, nameless]
  | int i =>
    cases u with
    | prim q =>
      simp only [Alike, nameless, Nameless.atom.injEq, false_iff]
      exact isName_ne_toString_int q.isName i
    | int j =>
      simp only [Alike, nameless, Nameless.atom.injEq]
      exact ⟨fun h => by rw [h], toString_int_inj⟩
    | _ => simp [Alike, nameless]
  | lam k b ih =>
    cases u with
    | lam j c =>
      simp only [Alike, nameless, Nameless.lam.injEq]
      exact ih ((k, j) :: ρ) c
    | _ => simp [Alike, nameless]
  | app f a ihf iha =>
    cases u with
    | app g c => simp [Alike, nameless, Nameless.app.injEq, ihf, iha]
    | _ => simp [Alike, nameless]

/-- **Terms that differ in the names of bound variables only are the same term without names.** -/
theorem alphaEq_iff (t u : Named) : AlphaEq t u ↔ t.nameless [] = u.nameless [] := alike_iff [] t u

theorem AlphaEq.free_eq {t u : Named} (h : AlphaEq t u) : t.free = u.free := by
  have e := (alphaEq_iff t u).mp h
  have ht := free_nameless t []
  have hu := free_nameless u []
  rw [e, hu] at ht
  have hall : ∀ l : List Nat, l.filter (· ∉ []) = l := fun l => by
    rw [filter_eq_self]
    simp
  rw [hall, hall] at ht
  exact ht.symm

end Named

end PuzzlePrograms.Indexed
