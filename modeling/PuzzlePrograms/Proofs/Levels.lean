import PuzzlePrograms.Proofs.Reading

/-!
# Reading at a level

Which tokens are read as which expression where an expression of some level is asked for.

* `Token.strength` tells how tightly a token holds to an expression before it, `Token.opening` up to which
  level an expression may start with a token;
* `Reads l ts e`: the reader of level `l` reads the tokens `ts` as `e` before any token that does not hold
  to them. The levels whose operators are taken together from the left, and the calls, attributes and
  subscripts, go on from `e` with what follows, so that the left operand of a longer chain is read
  alike;
* `Reads.lift`: what is read at a level is read at every lower one.
-/

namespace PuzzlePrograms.Source

open List Reader Token
open Level (term compare atom test bitOr power factor)

variable {w o : String} {t : Token} {ts us : List Token} {s : Sub} {n : Nat}

/-! ## 1. Tokens around an expression -/

/-- The tightest thing to hold to an expression: no expression may end before it. -/
def Level.never : Level := 19

/-- How tightly operators hold to the expression before them. -/
def opStrengths : List (String × Level) :=
  [(".", atom), ("(", atom), ("[", atom), ("**", power), ("*", term), ("/", term), ("//", term), ("%", term),
    ("@", term),
   ("+", .arith), ("-", .arith), ("<<", .shift), (">>", .shift), ("&", .bitAnd), ("^", .bitXor), ("|", bitOr),
   ("==", compare), ("!=", compare), ("<", compare), ("<=", compare),
   (">", compare), (">=", compare), ("=", .never), (":=", .never)]

/-- How tightly words hold to the expression before them. -/
def wordStrengths : List (String × Level) :=
  [("in", compare), ("not", compare), ("is", compare), ("and", Level.and), ("or", Level.or), ("if", test)]

/-- How tightly a token holds to the expression before it. -/
def Token.strength : Token → Level
  | .op o => (opStrengths.lookup o).getD 0
  | .name x => (wordStrengths.lookup x).getD 0
  | .string _ _ => .never
  | _ => 0

/-- The highest level of an expression that starts with a token. -/
def Token.opening : Token → Level
  | .name x =>
    if x = "lambda" then test
    else if x = "not" then .not
    else if reserved.contains x && !(["None", "True", "False"].contains x) then 0
    else atom
  | .number _ | .string _ _ => atom
  | .op o =>
    if ["-", "+", "~"].contains o then factor
    else if ["(", "[", "\x7b", "..."].contains o then atom
    else 0
  | _ => 0

theorem Token.eq_of_isOp (h : t.isOp o = true) : t = .op o := by
  cases t <;> first | cases h | exact congrArg _ (beq_iff_eq.mp h)

theorem Token.eq_of_isWord (h : t.isWord w = true) : t = .name w := by
  cases t <;> first | cases h | exact congrArg _ (beq_iff_eq.mp h)

section Facts

variable {t : Token} {l : Level}

theorem isOp_of_strength (h : t.strength < l) (ho : l ≤ (op o).strength) : t.isOp o = false := by
  refine Bool.eq_false_iff.mpr fun hop => ?_
  rw [eq_of_isOp hop] at h
  exact Nat.lt_irrefl _ (Nat.lt_of_lt_of_le h ho)

theorem isWord_of_strength (h : t.strength < l) (hw : l ≤ (name w).strength) : t.isWord w = false := by
  refine Bool.eq_false_iff.mpr fun hop => ?_
  rw [eq_of_isWord hop] at h
  exact Nat.lt_irrefl _ (Nat.lt_of_lt_of_le h hw)

theorem isOp_of_opening (h : l ≤ t.opening) (ho : (op o).opening < l) : t.isOp o = false := by
  refine Bool.eq_false_iff.mpr fun hop => ?_
  rw [eq_of_isOp hop] at h
  exact Nat.lt_irrefl _ (Nat.lt_of_lt_of_le ho h)

theorem isWord_of_opening (h : l ≤ t.opening) (hw : (name w).opening < l) : t.isWord w = false := by
  refine Bool.eq_false_iff.mpr fun hop => ?_
  rw [eq_of_isWord hop] at h
  exact Nat.lt_irrefl _ (Nat.lt_of_lt_of_le hw h)

end Facts

/-- Tokens that do not start with a mark which gives a value to a name. -/
def Unmarked (ts : List Token) : Prop := ∀ t ∈ ts.head?, t.isOp "=" = false ∧ t.isOp ":=" = false

theorem Unmarked.nil : Unmarked [] := by simp [Unmarked]

theorem Unmarked.cons (h : t.isOp "=" = false := by rfl) (h' : t.isOp ":=" = false := by rfl) : Unmarked (t :: us) := by
  rintro u ⟨⟩
  exact ⟨h, h'⟩

/-- Tokens that an expression of a level may start with. -/
def Begins (l : Level) (ts : List Token) : Prop := ∃ t us, ts = t :: us ∧ l ≤ t.opening ∧ Unmarked us

theorem Begins.unmarked (h : Begins test ts) (hp : ts <+: us) : Unmarked us := by
  obtain ⟨t, ts, rfl, ho, _⟩ := h
  obtain ⟨vs, rfl⟩ := hp
  exact .cons (isOp_of_opening ho (by decide)) (isOp_of_opening ho (by decide))

theorem Begins.mono {l l' : Level} (h : Begins l ts) (hl : l' ≤ l) : Begins l' ts := by
  obtain ⟨t, us, rfl, ho, hu⟩ := h
  exact ⟨t, us, rfl, Nat.le_trans hl ho, hu⟩

theorem Begins.append {l : Level} (h : Begins l ts) (hu : Unmarked us) : Begins l (ts ++ us) := by
  obtain ⟨t, vs, rfl, ho, hv⟩ := h
  refine ⟨t, vs ++ us, rfl, ho, fun u hm => ?_⟩
  cases vs with
  | nil => exact hu u hm
  | cons v vs => exact hv u hm

/-- What starts an expression, before a token that may follow one, is neither starred nor named. -/
theorem Begins.leads (h : Begins test ts) (ht : t.strength < .never) : Leads (ts ++ t :: us) := by
  have hall : ∀ o ∈ neverFirst, (op o).opening < test := by decide
  have hmark : Unmarked (t :: us) := .cons (isOp_of_strength ht (by decide)) (isOp_of_strength ht (by decide))
  obtain ⟨u, vs, e, ho, hv⟩ := h.append hmark
  refine ⟨u, vs, e, fun o hm => isOp_of_opening ho (hall o hm), ?_⟩
  cases vs with
  | nil => exact ⟨rfl, rfl⟩
  | cons v vs => exact hv v rfl

/-! ## 2. Readers of a level -/

namespace Sub

variable (s : Sub)

/-- Operands joined by the operators of the `k` tightest levels. -/
def joinedBy (k : Nat) : Reader Expr := binaryOf s.limit (s.factor s.limit) (binaryLevels.take k)

def inverted (n : Nat) : Reader Expr := inversion s.limit s.bitOrWith n

def conjunction : Reader Expr := wordJoined s.limit "and" .and (s.inverted s.limit)

end Sub

/-- The operators of a level, with the tokens that write them. -/
def levelOps (l : Level) : List (String × BinOp) := binaryLevels.getD (term - l) []

/-- Readers that nest deep enough and take lists long enough for so many tokens. -/
structure Fits (s : Sub) (c : Nat) : Prop where
  long : c < s.limit
  deep : ∃ n, c < n ∧ s = sub s.limit n

theorem Fits.mono {c c' : Nat} (h : Fits s c) (hc : c' ≤ c) : Fits s c' := by
  obtain ⟨hl, n, hn, e⟩ := h
  exact ⟨by omega, n, by omega, e⟩

/-- The reader `r` reads tokens as an expression before every token that holds less tightly than a
    level. -/
def ReadsBefore (r : Reader Expr) (l : Level) (ts : List Token) (e : Expr) : Prop :=
  ∀ t us, t.strength < l → r (ts ++ t :: us) = .ok (e, t :: us)

/-- The reader `r` reads tokens as an expression and goes on from it with `tail`, up to any token that
    does not hold more tightly than a level. The tail has as much fuel for what follows as `r` has left
    of it. -/
def ReadsInto (r : Reader Expr) (tail : Nat → Expr → Reader Expr) (l : Level) (ts : List Token) (e : Expr) : Prop :=
  ∃ j ≤ ts.length, ∀ m t us, t.strength ≤ l → (r >>= tail (m + j)) (ts ++ t :: us) = tail m e (t :: us)

/-- The readers of a level read tokens as an expression. -/
def ReadsBy (s : Sub) (l : Level) (ts : List Token) (e : Expr) : Prop :=
  if l ≤ test then ReadsBefore s.expressionWith l ts e
  else if l = .or then ReadsBefore s.disjunctionWith l ts e
  else if l = .and then ReadsBefore s.conjunction l ts e
  else if l ≤ compare then ∀ n, ts.length < n → ReadsBefore (s.inverted n) l ts e
  else if l ≤ term then
    ReadsInto (s.joinedBy (term - l)) (binaryTail (levelOps l) (s.joinedBy (term - l))) l ts e
  else if l ≤ power then ∀ n, ts.length < n → ReadsBefore (s.factor n) l ts e
  else if l ≤ .await then ReadsBefore s.primary l ts e
  else ReadsInto s.atom s.trailers l ts e

/-- Tokens are read as an expression at a level. -/
structure Reads (l : Level) (ts : List Token) (e : Expr) : Prop where
  begins : Begins l ts
  value : IsValue e
  readsBy : ∀ s, Fits s ts.length → ReadsBy s l ts e

/-! ## 3. From a level to the next lower one -/

section Stops

variable {s : Sub} {l : Level} {n : Nat} {e : Expr} {t : Token} {us : List Token}

/-- The levels of binary operators that are taken together from the left. -/
def chainLevels : List Level := [bitOr, Level.bitXor, Level.bitAnd, Level.shift, Level.arith, term]

theorem binaryTail_stops {r : Reader Expr} (hl : l ∈ chainLevels) (ht : t.strength < l) :
    binaryTail (levelOps l) r (n + 1) e (t :: us) = .ok (e, t :: us) := by
  have hops : ∀ l ∈ chainLevels, ∀ p ∈ levelOps l, (Token.op p.1).strength = l := by decide
  refine after peek_cons ?_
  cases t with
  | op o =>
    have hnone : (levelOps l).lookup o = none := by
      refine lookup_eq_none_iff.mpr fun p hp => ?_
      refine bne_iff_ne.mpr fun ho => ?_
      rw [ho, hops l hl p hp] at ht
      exact Nat.lt_irrefl _ ht
    simp only [hnone]
    rfl
  | _ => rfl

theorem trailers_stops (ht : t.strength < atom) : s.trailers (n + 1) e (t :: us) = .ok (e, t :: us) := by
  refine after (acceptOp_no (isOp_of_strength ht (by decide))) ?_
  refine after (acceptOp_no (isOp_of_strength ht (by decide))) ?_
  exact bind_ok (acceptOp_no (isOp_of_strength ht (by decide)))

theorem comparison?_stops (ht : t.strength < compare) : comparison? (t :: us) = .ok (none, t :: us) := by
  have hsecond : peekSecond (t :: us) = .ok (us.headD .endMarker, t :: us) := by cases us <;> rfl
  refine after peek_cons ?_
  refine after hsecond ?_
  generalize us.headD .endMarker = u, t :: us = ts
  split
  all_goals first | exact absurd ht (by decide) | rfl

theorem whileM_stops {α : Type} {item : Reader α} (ht : t.isWord w = false) :
    whileM (atWord w) item (n + 1) (t :: us) = .ok ([], t :: us) := by
  refine after atWord_cons ?_
  rw [ht]
  rfl

end Stops

section Lift

variable {s : Sub} {l l' : Level} {ts : List Token} {e : Expr} {r : Reader Expr} {tail : Nat → Expr → Reader Expr}

theorem ReadsBefore.mono (h : ReadsBefore r l ts e) (hl : l' ≤ l) : ReadsBefore r l' ts e :=
  fun t us ht => h t us (Nat.lt_of_lt_of_le ht hl)

theorem ReadsBefore.into (h : ReadsBefore r (l + 1) ts e) : ReadsInto r tail l ts e :=
  ⟨0, Nat.zero_le _, fun _ t us ht => bind_ok (h t us (Nat.lt_succ_of_le ht))⟩

theorem ReadsInto.before (h : ReadsInto r tail l ts e) (hn : ts.length < n)
    (hstop : ∀ m t us, t.strength < l → tail (m + 1) e (t :: us) = .ok (e, t :: us)) :
    ReadsBefore (r >>= tail n) l ts e := by
  obtain ⟨j, hj, h⟩ := h
  intro t us ht
  obtain ⟨m, rfl⟩ : ∃ m, n = (m + 1) + j := ⟨n - j - 1, by omega⟩
  exact (h (m + 1) t us (Nat.le_of_lt ht)).trans (hstop m t us ht)

theorem joinedBy_eq (hl : l ∈ chainLevels) : s.joinedBy (factor - l) = (s.joinedBy (term - l) >>=
      binaryTail (levelOps l) (s.joinedBy (term - l)) s.limit) := by
  simp only [chainLevels, mem_cons, not_mem_nil, or_false] at hl
  rcases hl with rfl | rfl | rfl | rfl | rfl | rfl <;> rfl

theorem readsBy_chain (hl : l ∈ chainLevels) : ReadsBy s l ts e = ReadsInto (s.joinedBy (term - l))
      (binaryTail (levelOps l) (s.joinedBy (term - l))) l ts e := by
  simp only [chainLevels, mem_cons, not_mem_nil, or_false] at hl
  rcases hl with rfl | rfl | rfl | rfl | rfl | rfl <;> rfl

theorem ReadsBy.chain (hl : l ∈ chainLevels) (h : ReadsBy s l ts e) (hf : Fits s ts.length) :
    ReadsBefore (s.joinedBy (factor - l)) l ts e := by
  rw [readsBy_chain hl] at h
  rw [joinedBy_eq hl]
  exact h.before hf.long fun _ _ _ ht => binaryTail_stops hl ht

theorem ReadsBy.primary (h : ReadsBy s atom ts e) (hb : Begins test ts) (hf : Fits s ts.length) :
    ReadsBefore s.primary atom ts e := by
  have h' : ReadsInto s.atom s.trailers atom ts e := h
  have hbefore := h'.before hf.long fun _ _ _ ht => trailers_stops ht
  obtain ⟨u, vs, rfl, ho, _⟩ := hb
  intro t us ht
  refine .trans ?_ (hbefore t us ht)
  exact bind_ok (acceptWord_no (isWord_of_opening ho (by decide)))

theorem ReadsBefore.factor (h : ReadsBefore s.primary .await ts e)
    (hb : Begins power ts) : ReadsBefore (s.factor (n + 1)) power ts e := by
  obtain ⟨u, vs, rfl, ho, _⟩ := hb
  intro t us ht
  refine after (acceptOp_no (isOp_of_opening ho (by decide))) ?_
  refine after (acceptOp_no (isOp_of_opening ho (by decide))) ?_
  refine after (acceptOp_no (isOp_of_opening ho (by decide))) ?_
  refine after (h t us (Nat.lt_succ_of_lt ht)) ?_
  exact bind_ok (acceptOp_no (isOp_of_strength ht (by decide)))

theorem ReadsBefore.inverted (h : ReadsBefore s.bitOrWith bitOr ts e) (hb : Begins compare ts) (hf : Fits s ts.length) :
    ReadsBefore (s.inverted (n + 1)) compare ts e := by
  obtain ⟨u, vs, rfl, ho, _⟩ := hb
  obtain ⟨k, hk⟩ : ∃ k, s.limit = k + 1 := ⟨s.limit - 1, by have := hf.long; omega⟩
  intro t us ht
  have hnone : comparisons s.bitOrWith s.limit (t :: us) = .ok ([], t :: us) := by
    rw [hk]
    exact bind_ok (comparison?_stops ht)
  refine after (acceptWord_no (isWord_of_opening ho (by decide))) ?_
  refine after (h t us (Nat.lt_succ_of_lt ht)) ?_
  exact bind_ok hnone

theorem ReadsBefore.joined {word : String} {o : BoolOp} (h : ReadsBefore r (l + 1) ts e)
    (hw : l ≤ (name word).strength) : ReadsBefore (wordJoined (n + 1) word o r) l ts e := by
  intro t us ht
  refine after (h t us (Nat.lt_succ_of_lt ht)) ?_
  exact bind_ok (whileM_stops (isWord_of_strength ht hw))

theorem ReadsBefore.expression (h : ReadsBefore s.disjunctionWith .or ts e)
    (hb : Begins .or ts) : ReadsBefore s.expressionWith test ts e := by
  obtain ⟨u, vs, rfl, ho, _⟩ := hb
  intro t us ht
  refine after (acceptWord_no (isWord_of_opening ho (by decide))) ?_
  refine after (h t us (Nat.lt_succ_of_lt ht)) ?_
  refine after atWord_cons ?_
  rw [isWord_of_strength ht (by decide)]
  rfl

end Lift

namespace Reads

variable {l l' : Nat} {ts : List Token} {e : Expr}

theorem step (h : Reads (l + 1) ts e) (hl : test ≤ l) (hl' : l < atom) : Reads l ts e := by
  refine ⟨h.begins.mono (Nat.le_succ l), h.value, fun s hf => ?_⟩
  have hr := h.readsBy s hf
  have hb := h.begins
  obtain ⟨k, hk⟩ : ∃ k, s.limit = k + 1 := ⟨s.limit - 1, by have := hf.long; omega⟩
  have hcases : l ∈ [4, 5, 6, 7, 8, 9, 10, 11, 12, 13, 14, 15, 16, 17] := by
    have h4 : 4 ≤ l := hl
    have h18 : l < 18 := hl'
    simp only [mem_cons, not_mem_nil, or_false]
    omega
  -- the chains are operands of one another
  have hchain : l + 1 ∈ chainLevels → l ∈ chainLevels → ReadsBy s l ts e := by
    intro hm hm'
    have hterm : factor - (l + 1) = term - l := Nat.add_sub_add_right term 1 l
    rw [readsBy_chain hm']
    exact ReadsBefore.into (hterm ▸ ReadsBy.chain hm hr hf)
  simp only [mem_cons, not_mem_nil, or_false] at hcases
  rcases hcases with rfl | rfl | rfl | rfl | rfl | rfl | rfl | rfl | rfl | rfl | rfl | rfl | rfl | rfl
  · exact .expression hr hb
  · show ReadsBefore (wordJoined s.limit "or" .or s.conjunction) .or ts e
    rw [hk]
    exact .joined (l := .or) hr (by decide)
  · show ReadsBefore (wordJoined s.limit "and" .and (s.inverted s.limit)) .and ts e
    rw [hk]
    exact .joined (l := .and) (hr (k + 1) (hk ▸ hf.long)) (by decide)
  · exact fun n hn => .mono (hr n hn) (Nat.le_succ _)
  · rintro n hn
    rcases n with _ | n
    · omega
    exact .inverted (ReadsBy.chain (by decide) hr hf) (hb.mono (by decide)) hf
  · exact hchain (by decide) (by decide)
  · exact hchain (by decide) (by decide)
  · exact hchain (by decide) (by decide)
  · exact hchain (by decide) (by decide)
  · exact hchain (by decide) (by decide)
  · exact ReadsBefore.into (hr s.limit hf.long)
  · exact fun n hn => .mono (hr n hn) (Nat.le_succ _)
  · rintro n hn
    rcases n with _ | n
    · omega
    exact .factor hr (hb.mono (by decide))
  · exact .mono (ReadsBy.primary hr (hb.mono (by decide)) hf) (Nat.le_succ _)

theorem lift (h : Reads l ts e) (hle : l' ≤ l) (hl' : l ≤ atom) (hl : test ≤ l') : Reads l' ts e := by
  induction hle with
  | refl => exact h
  | step _ ih => exact ih (h.step (Nat.le_trans hl ‹_›) hl') (Nat.le_of_succ_le hl')

theorem operand (h : Reads (l + 1) ts e) (hl : l ∈ chainLevels) (hf : Fits s ts.length) :
    ReadsBefore (s.joinedBy (term - l)) (l + 1) ts e := by
  have hr := h.readsBy s hf
  simp only [chainLevels, mem_cons, not_mem_nil, or_false] at hl
  rcases hl with rfl | rfl | rfl | rfl | rfl | rfl
  · exact ReadsBy.chain (by decide) hr hf
  · exact ReadsBy.chain (by decide) hr hf
  · exact ReadsBy.chain (by decide) hr hf
  · exact ReadsBy.chain (by decide) hr hf
  · exact ReadsBy.chain (by decide) hr hf
  · exact hr s.limit hf.long

/-! ## 4. What stands inside an expression -/

section Inside

variable {s : Sub} {c : Nat}

theorem inside (hf : Fits s c) (hlen : ts.length < c) : ∃ s', Fits s' ts.length ∧ s.expression = s'.expressionWith ∧
      s.disjunction = s'.disjunctionWith ∧ s.bitOr = s'.bitOrWith := by
  obtain ⟨hlong, n, hn, hs⟩ := hf
  rcases n with _ | n
  · omega
  have hlimit : (sub s.limit n).limit = s.limit := by cases n <;> rfl
  refine ⟨sub s.limit n, ⟨by rw [hlimit]; omega, n, by omega, by rw [hlimit]⟩, ?_, ?_, ?_⟩
  · exact congrArg Sub.expression hs
  · exact congrArg Sub.disjunction hs
  · exact congrArg Sub.bitOr hs

theorem expression (h : Reads test ts e) (hf : Fits s c) (hlen : ts.length < c) :
    ReadsBefore s.expression test ts e := by
  obtain ⟨s', hf', hs, _⟩ := inside hf hlen
  rw [hs]
  exact h.readsBy s' hf'

theorem disjunction (h : Reads .or ts e) (hf : Fits s c) (hlen : ts.length < c) :
    ReadsBefore s.disjunction .or ts e := by
  obtain ⟨s', hf', _, hs, _⟩ := inside hf hlen
  rw [hs]
  exact h.readsBy s' hf'

theorem bitOr (h : Reads bitOr ts e) (hf : Fits s c) (hlen : ts.length < c) : ReadsBefore s.bitOr bitOr ts e := by
  obtain ⟨s', hf', _, _, hs⟩ := inside hf hlen
  rw [hs]
  exact ReadsBy.chain (by decide) (h.readsBy s' hf') hf'

end Inside

end Reads

end PuzzlePrograms.Source
