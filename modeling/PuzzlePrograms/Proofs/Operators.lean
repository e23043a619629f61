import PuzzlePrograms.Proofs.Grammar

/-!
# Which tokens say which operation

The operations that hold less tightly than atoms, from signs to functions. The left operand of a chain is
read at the level of the chain and the right one at the next level; comparisons, `and` and `or` take all
their operands together.
-/

namespace PuzzlePrograms.Source

open List Reader Token
open Level (factor power test)

variable {s : Sub} {t u : Token} {ts us vs : List Token} {a b e e' : Expr} {tss : List (List Token)} {es : List Expr}
  {w : String}
  {l : Level} {c n : Nat}

/-! ## 1. Signs and powers -/

def UnaryOp.sign : UnaryOp → String
  | .invert => "~"
  | .plus => "+"
  | .minus => "-"
  | .not => "not"

theorem strength_lt_factor (h : t.strength < power) : t.strength < factor := by
  have hop : ∀ p ∈ opStrengths, p.2 < power → p.2 < factor := by decide
  have hword : ∀ p ∈ wordStrengths, p.2 < power → p.2 < factor := by decide
  have hlookup : ∀ (ps : List (String × Level)) (x : String), (∀ p ∈ ps, p.2 < power → p.2 < factor) →
      (ps.lookup x).getD 0 < power → (ps.lookup x).getD 0 < factor := by
    intro ps x hps hx
    cases hl : ps.lookup x with
    | none => show 0 < 15; decide
    | some l =>
      obtain ⟨ps₁, ps₂, hps', _⟩ := lookup_eq_some_iff.mp hl
      rw [hl] at hx
      exact hps (x, l) (by simp [hps']) hx
  cases t with
  | op o => exact hlookup _ o hop h
  | name x => exact hlookup _ x hword h
  | string => exact absurd h (by show ¬(19 < 16); decide)
  | _ => show 0 < 15; decide

namespace Reads

theorem sign {o : UnaryOp} (ho : o ≠ .not) (h : Reads factor ts e) :
    Reads factor (.op o.sign :: ts) (.unaryOp o e) := by
  refine ⟨⟨_, _, rfl, ?_, (h.begins.mono (by decide)).unmarked prefix_rfl⟩, trivial, fun s hf n hn t vs ht => ?_⟩
  · cases o <;> first | exact absurd rfl ho | exact Nat.le_refl _
  · rw [length_cons] at hn
    rcases n with _ | n
    · omega
    have hr := h.readsBy s (hf.mono (by simp)) n (by omega) t vs ht
    cases o with
    | not => exact absurd rfl ho
    | plus =>
      refine after (acceptOp_yes (by simp)) ?_
      exact bind_ok hr
    | minus =>
      refine after (acceptOp_no rfl) ?_
      refine after (acceptOp_yes (by simp)) ?_
      exact bind_ok hr
    | invert =>
      refine after (acceptOp_no rfl) ?_
      refine after (acceptOp_no rfl) ?_
      refine after (acceptOp_yes (by simp)) ?_
      exact bind_ok hr

theorem pow (h : Reads .await ts e) (h' : Reads factor us e') :
    Reads power (ts ++ .op "**" :: us) (.binOp e .pow e') := by
  refine ⟨(h.begins.mono (by decide)).append .cons, trivial, fun s hf n hn t vs ht => ?_⟩
  · rw [length_append, length_cons] at hn
    rcases n with _ | n
    · omega
    have hleft : ReadsBefore s.primary .await ts e := h.readsBy s (hf.mono (by simp))
    have hbase := hleft (.op "**") (us ++ t :: vs) (by decide)
    have hexp := h'.readsBy s (hf.mono (by simp; omega)) n (by omega) t vs (strength_lt_factor ht)
    obtain ⟨u, ws, hts, ho, _⟩ := h.begins
    rw [append_assoc, cons_append]
    rw [hts] at hbase ⊢
    refine after (acceptOp_no (isOp_of_opening ho (by decide))) ?_
    refine after (acceptOp_no (isOp_of_opening ho (by decide))) ?_
    refine after (acceptOp_no (isOp_of_opening ho (by decide))) ?_
    refine after hbase ?_
    refine after (acceptOp_yes (by simp)) ?_
    exact bind_ok hexp

/-! ## 2. Binary operators -/

theorem binary (hl : l ∈ chainLevels) {o : BinOp} (ho : (levelOps l).lookup w = some o) (h : Reads l ts e)
    (h' : Reads (l + 1) us e') : Reads l (ts ++ .op w :: us) (.binOp e o e') := by
  have hops : ∀ l ∈ chainLevels, ∀ p ∈ levelOps l, (op p.1).strength = l := by decide
  have hlevel : ∀ l ∈ chainLevels, l < .never := by decide
  have hstrength : (op w).strength = l := by
    obtain ⟨ps, qs, hps, _⟩ := lookup_eq_some_iff.mp ho
    exact hops l hl (w, o) (by simp [hps])
  have hlt : (Token.op w).strength < Level.never := hstrength ▸ hlevel l hl
  refine ⟨h.begins.append (.cons (isOp_of_strength hlt (by decide)) (isOp_of_strength hlt (by decide))), trivial,
    fun s hf => ?_⟩
  · have hread := h.readsBy s (hf.mono (by simp))
    rw [readsBy_chain hl] at hread ⊢
    obtain ⟨j, hj, hread⟩ := hread
    refine ⟨j + 1, by simp; omega, fun m t vs ht => ?_⟩
    have hleft := hread (m + 1) (.op w) (us ++ t :: vs) (Nat.le_of_eq hstrength)
    have hright := h'.operand hl (hf.mono (by simp; omega)) t vs (Nat.lt_succ_of_le ht)
    rw [append_assoc, cons_append, Nat.add_comm j 1, ← Nat.add_assoc, hleft]
    refine after peek_cons ?_
    simp only [ho]
    refine after (advance_cons (by simp)) ?_
    exact bind_ok hright

end Reads

/-! ## 3. Comparisons -/

def CmpOp.cut : CmpOp → List Token
  | .eq => [.op "=="]
  | .ne => [.op "!="]
  | .lt => [.op "<"]
  | .le => [.op "<="]
  | .gt => [.op ">"]
  | .ge => [.op ">="]
  | .is => [.name "is"]
  | .isNot => [.name "is", .name "not"]
  | .mem => [.name "in"]
  | .notMem => [.name "not", .name "in"]

/-- The tokens of comparisons one after another. -/
def comparedWith : List (CmpOp × List Token) → List Token
  | [] => []
  | (o, ts) :: rest => o.cut ++ (ts ++ comparedWith rest)

/-- Each operand of some comparisons is read. -/
def ReadsOperands : List (CmpOp × List Token) → List (CmpOp × Expr) → Prop :=
  Forall₂ fun p q => p.1 = q.1 ∧ Reads .bitOr p.2 q.2

theorem comparison?_cut {o : CmpOp} (hu : u.isWord "not" = false) :
    comparison? (o.cut ++ u :: us) = .ok (some o, o.cut ++ u :: us) := by
  cases o with
  | is =>
    cases u with
    | name w =>
      have hw : w ≠ "not" := fun h => absurd hu (by simp [h, isWord])
      have hsecond : peekSecond (.name "is" :: .name w :: us) = .ok (.name w, _) := rfl
      refine after peek_cons ?_
      refine after hsecond ?_
      generalize hts : CmpOp.is.cut ++ name w :: us = ts
      show _ = Except.ok (some CmpOp.is, ts)
      rw [show name "is" :: name w :: us = ts from hts]
      generalize hx : name w = x, hy : name "is" = y
      split <;> first | rfl | (exfalso; simp_all)
    | _ => rfl
  | _ => rfl

theorem comparedWith_append (ps : List (CmpOp × List Token)) (t : Token) (us : List Token)
    (ht : t.strength < .compare) : ∃ v vs, comparedWith ps ++ t :: us = v :: vs ∧ v.strength < .bitOr := by
  cases ps with
  | nil => exact ⟨t, us, rfl, Nat.lt_succ_of_lt ht⟩
  | cons p ps =>
    obtain ⟨o, ts⟩ := p
    cases o <;> exact ⟨_, _, rfl, by decide⟩

section Comparisons

variable {ps : List (CmpOp × List Token)} {qs : List (CmpOp × Expr)}

theorem comparisons_ok (h : ReadsOperands ps qs) (hf : Fits s c) (hlen : (comparedWith ps).length ≤ c)
    (hn : ps.length < n) (ht : t.strength < .compare) (us : List Token) :
    comparisons s.bitOrWith n (comparedWith ps ++ t :: us) = .ok (qs, t :: us) := by
  induction h generalizing n with
  | nil =>
    rcases n with _ | n
    · omega
    exact bind_ok (comparison?_stops ht)
  | @cons p q ps qs hpq _ ih =>
    obtain ⟨o, ts⟩ := p
    obtain ⟨o', e⟩ := q
    obtain ⟨rfl, hr⟩ : o = o' ∧ Reads .bitOr ts e := hpq
    rw [length_cons] at hn
    simp only [comparedWith, length_append] at hlen
    rcases n with _ | n
    · omega
    have hrest := ih (by omega) (n := n) (by omega)
    obtain ⟨v, vs, hv, hs⟩ := comparedWith_append ps t us ht
    have hoperand : s.bitOrWith (ts ++ v :: vs) = .ok (e, v :: vs) :=
      (ReadsBy.chain (by decide) (hr.readsBy s (hf.mono (by omega))) (hf.mono (by omega))) v vs hs
    obtain ⟨u, ws, hts, hu, _⟩ := hr.begins
    have hcut : comparison? (o.cut ++ (ts ++ v :: vs)) = .ok (some o, o.cut ++ (ts ++ v :: vs)) := by
      rw [hts]
      exact comparison?_cut (isWord_of_opening hu (by decide))
    have hgo := (bind_ok (f := fun e => do
      return (o, e) :: (← comparisons s.bitOrWith n)) hoperand).trans (bind_ok (hv ▸ hrest))
    simp only [comparedWith, append_assoc, hv]
    refine after hcut ?_
    rw [hts] at hgo ⊢
    cases o <;> exact hgo

theorem length_le_comparedWith (ps : List (CmpOp × List Token)) : ps.length ≤ (comparedWith ps).length := by
  have hcut : ∀ o : CmpOp, 0 < o.cut.length := by
    intro o
    cases o <;> decide
  induction ps with
  | nil => exact Nat.le_refl _
  | cons p ps ih =>
    have := hcut p.1
    simp only [comparedWith, length_append, length_cons]
    omega

end Comparisons

namespace Reads

theorem compare {ps : List (CmpOp × List Token)} {qs : List (CmpOp × Expr)}
    (h : Reads .bitOr ts e) (hps : ReadsOperands ps qs) (hne : qs ≠ []) :
    Reads .compare (ts ++ comparedWith ps) (.compare e (qs.map (·.1)) (qs.map (·.2))) := by
  refine ⟨(h.begins.mono (by decide)).append ?_, trivial, fun s hf n hn t vs ht => ?_⟩
  · cases ps with
    | nil => exact .nil
    | cons p ps =>
      obtain ⟨o, us⟩ := p
      cases o <;> exact .cons
  · rcases n with _ | n
    · omega
    have hlong := hf.long
    rw [length_append] at hlong
    have hcount := length_le_comparedWith ps
    have hall := comparisons_ok hps hf (by simp) (n := s.limit) (by omega) ht vs
    obtain ⟨v, ws, hv, hs⟩ := comparedWith_append ps t vs ht
    have hfits : Fits s ts.length := hf.mono (by simp)
    have hread := ReadsBy.chain (by decide) (h.readsBy s hfits) hfits v ws hs
    obtain ⟨u, us, hts, hu, _⟩ := h.begins
    rw [append_assoc, hv]
    rw [hv] at hall
    rw [hts] at hread ⊢
    refine after (acceptWord_no (isWord_of_opening hu (by decide))) ?_
    refine after hread ?_
    refine after hall ?_
    cases qs with
    | nil => exact absurd rfl hne
    | cons q qs => rfl

/-! ## 4. Words -/

theorem not (h : Reads .not ts e) : Reads .not (.name "not" :: ts) (.unaryOp .not e) := by
  refine ⟨⟨_, _, rfl, by decide, (h.begins.mono (by decide)).unmarked prefix_rfl⟩, trivial, fun s hf n hn t vs ht => ?_⟩
  · rw [length_cons] at hn
    rcases n with _ | n
    · omega
    have hr := h.readsBy s (hf.mono (by simp)) n (by omega) t vs ht
    refine after (acceptWord_yes (by simp)) ?_
    exact bind_ok hr

end Reads

def afterWords (w : String) : List (List Token) → List Token
  | [] => []
  | ts :: tss => .name w :: (ts ++ afterWords w tss)

theorem length_le_afterWords (w : String) (tss : List (List Token)) : tss.length ≤ (afterWords w tss).length := by
  induction tss with
  | nil => exact Nat.le_refl _
  | cons ts tss ih =>
    simp only [afterWords, length_append, length_cons]
    omega

section Joined

variable {r : Reader Expr} {o : BoolOp}

/-- Each operand is read, and more tokens follow the word before it. -/
def ReadsEach (r : Reader Expr) (l : Level) : List (List Token) → List Expr → Prop :=
  Forall₂ fun ts e => ts ≠ [] ∧ ReadsBefore r (l + 1) ts e

theorem afterWords_append (hw : (name w).strength = l) (ht : t.strength < l)
    (us : List Token) : ∃ v vs, afterWords w tss ++ t :: us = v :: vs ∧ v.strength < l + 1 := by
  cases tss with
  | nil => exact ⟨t, us, rfl, Nat.lt_succ_of_lt ht⟩
  | cons ts tss => exact ⟨_, _, rfl, Nat.lt_succ_of_le (Nat.le_of_eq hw)⟩

theorem whileM_words (h : ReadsEach r l tss es) (hw : (name w).strength = l)
    (ht : t.strength < l) (us : List Token) (hn : tss.length < n) :
    whileM (atWord w) (do
      advance
      r) n (afterWords w tss ++ t :: us) = .ok (es, t :: us) := by
  induction h generalizing n with
  | nil =>
    rcases n with _ | n
    · omega
    exact whileM_stops (isWord_of_strength ht (Nat.le_of_eq hw.symm))
  | @cons ts e tss es hr _ ih =>
    rw [length_cons] at hn
    rcases n with _ | n
    · omega
    have hrest := ih (n := n) (by omega)
    obtain ⟨v, vs, hv, hs⟩ := @afterWords_append t tss w l hw ht us
    have hread := hr.2 v vs hs
    rw [hv] at hrest
    simp only [afterWords, cons_append, append_assoc, hv]
    refine after atWord_cons ?_
    rw [show (name w).isWord w = true from beq_self_eq_true w]
    refine after (after (advance_cons (by simp)) hread) ?_
    exact bind_ok hrest

theorem wordJoined_ok (h : ReadsBefore r (l + 1) ts e) (hes : ReadsEach r l tss es) (hne : es ≠ [])
    (hw : (name w).strength = l) (hn : tss.length < n) :
    ReadsBefore (wordJoined n w o r) l (ts ++ afterWords w tss) (.boolOp o (e :: es)) := by
  intro t us ht
  have hrest := whileM_words hes hw ht us hn
  obtain ⟨v, vs, hv, hs⟩ := @afterWords_append t tss w l hw ht us
  rw [hv] at hrest
  rw [append_assoc, hv]
  refine after (h v vs hs) ?_
  refine after hrest ?_
  cases es with
  | nil => exact absurd rfl hne
  | cons e' es => rfl

end Joined

namespace Reads

theorem joined (o : BoolOp) (h : Reads (o.level + 1) ts e) (hes : Forall₂ (Reads (o.level + 1)) tss es)
    (hne : es ≠ []) : Reads o.level (ts ++ afterWords o.text tss) (.boolOp o (e :: es)) := by
  refine ⟨(h.begins.mono (Nat.le_succ _)).append ?_, trivial, fun s hf => ?_⟩
  · cases tss with
    | nil => exact .nil
    | cons us tss => exact .cons
  · have hcount := length_le_afterWords o.text tss
    have hlong := hf.long
    rw [length_append] at hlong
    -- every operand is shorter than the whole
    have hshort : ∀ us ∈ tss, us.length ≤ (afterWords o.text tss).length := by
      clear hes hcount hlong hf
      induction tss with
      | nil => simp
      | cons us tss ih =>
        simp only [afterWords, length_cons, length_append]
        refine forall_mem_cons.mpr ⟨by omega, fun vs hvs => ?_⟩
        have := ih vs hvs
        omega
    have heach : ∀ r, (∀ ts e, Reads (o.level + 1) ts e → Fits s ts.length →
        ReadsBefore r (o.level + 1) ts e) → ReadsEach r o.level tss es := by
      intro r hr
      refine ((forall₂_and_left tss es).mpr ⟨hshort, hes⟩).imp fun us e' hu => ?_
      obtain ⟨t, ws, hts, _⟩ := hu.2.begins
      refine ⟨by simp [hts], hr us e' hu.2 (hf.mono ?_)⟩
      rw [length_append]
      have := hu.1
      omega
    have hfits : Fits s ts.length := hf.mono (by simp)
    cases o with
    | and =>
      have hr : ∀ ts e, Reads (.and + 1) ts e → Fits s ts.length → ReadsBefore (s.inverted s.limit) (.and + 1) ts e :=
        fun ts e h hf => h.readsBy s hf s.limit hf.long
      exact wordJoined_ok (hr ts e h hfits) (heach _ hr) hne rfl (by omega)
    | or =>
      have hr : ∀ ts e, Reads (.or + 1) ts e → Fits s ts.length → ReadsBefore s.conjunction (.or + 1) ts e :=
        fun ts e h hf => h.readsBy s hf
      exact wordJoined_ok (hr ts e h hfits) (heach _ hr) hne rfl (by omega)

theorem ifExp (hb : Reads .or ts b) (ha : Reads .or us a) (he : Reads test vs e) :
    Reads test (ts ++ .name "if" :: (us ++ .name "else" :: vs)) (.ifExp a b e) := by
  refine ⟨(hb.begins.mono (by decide)).append .cons, trivial, fun s hf t ws ht => ?_⟩
  · have hbody : ReadsBefore s.disjunctionWith .or ts b := hb.readsBy s (hf.mono (by simp))
    have hbody := hbody (.name "if") (us ++ .name "else" :: (vs ++ t :: ws)) (by decide)
    have htest := ha.disjunction hf (by simp; omega) (.name "else") (vs ++ t :: ws) (by decide)
    have helse := he.expression hf (by simp; omega) t ws ht
    obtain ⟨u, xs, hts, hu, _⟩ := hb.begins
    simp only [append_assoc, cons_append]
    rw [hts] at hbody ⊢
    refine after (acceptWord_no (isWord_of_opening hu (by decide))) ?_
    refine after hbody ?_
    refine after atWord_cons ?_
    refine after (advance_cons (by simp)) ?_
    refine after htest ?_
    refine after (bind_ok (acceptWord_yes (by simp))) ?_
    exact bind_ok helse

end Reads

/-! ## 5. Functions -/

/-- The tokens of a parameter: its name, or its name and the value that it has otherwise. -/
inductive ReadsParam : List Token → Ident × Option Expr → Prop where
  | plain (x : Ident) : ReadsParam [.name x.word] (x, none)
  | optional {ts d} (x : Ident) (h : Reads test ts d) (hd : d.isAbsent = false) :
    ReadsParam (.name x.word :: .op "=" :: ts) (x, some d)

/-- Parameters in the order that a function allows: after one with a value all have one. -/
def InOrder : List (Ident × Option Expr) → Prop := List.Pairwise fun p q => p.2.isSome = true → q.2.isSome = true

/-- The parameters of a function as a term. -/
def paramsOf (ps : List (Ident × Option Expr)) : Expr :=
  .params [] (ps.map fun p => .param p.1.word .absent) .absent [] [] .absent (ps.filterMap (·.2))

section Parameters

variable {ps : List (Ident × Option Expr)}

/-- The parameters read so far with some more. -/
def Sub.ParamList.add (p : Sub.ParamList) (ps : List (Ident × Option Expr)) : Sub.ParamList :=
  { p with args := p.args ++ ps.map (fun q => .param q.1.word .absent), defaults := p.defaults ++ ps.filterMap (·.2) }

theorem paramList_cons {q : Ident × Option Expr} (h : ReadsParam ts q)
    (hf : Fits s c) (hlen : ts.length < c) {p : Sub.ParamList} (hs : p.starred = false)
    (hd : p.defaults ≠ [] → q.2.isSome = true) {t : Token} (ht : t = .op "," ∨ t = .op ":")
    (us : List Token) :
    s.paramList false ":" (n + 1) p (ts ++ t :: us) = (do
      if ← acceptOp "," then s.paramList false ":" n (p.add [q])
      else if ← atOp ":" then return p.add [q]
      else .fail : Reader Sub.ParamList) (t :: us) := by
  have hparam : ∀ (x : Ident) (u : Token) (vs : List Token),
      s.parameter false (.name x.word :: u :: vs) = .ok (.param x.word .absent, u :: vs) :=
    fun x u vs => bind_ok name_cons
  cases h with
  | plain x =>
    have hno : p.defaults = [] := Classical.byContradiction fun h => by simpa using hd h
    refine after (rfl : atOp ":" (.name x.word :: t :: us) = .ok (false, _)) ?_
    refine after (acceptOp_no rfl) ?_
    refine after (acceptOp_no rfl) ?_
    refine after (acceptOp_no rfl) ?_
    refine after (hparam x t us) ?_
    refine after (bind_ok (acceptOp_no (by rcases ht with rfl | rfl <;> rfl))) ?_
    have hadd : p.add [(x, none)] = { p with args := p.args ++ [.param x.word .absent] } := by simp [Sub.ParamList.add]
    rw [hadd, if_neg (by simp [hs]), if_pos (show Expr.absent.isAbsent = true from rfl), if_pos (by simp [hno])]
  | @optional ts d x h habsent =>
    rw [length_cons, length_cons] at hlen
    have hstrength : t.strength < test := by rcases ht with rfl | rfl <;> decide
    have hval := h.expression hf (by omega) t us hstrength
    obtain ⟨u, vs, hts, _⟩ := h.begins
    rw [hts] at hval ⊢
    refine after (rfl : atOp ":" (.name x.word :: .op "=" :: _) = .ok (false, _)) ?_
    refine after (acceptOp_no rfl) ?_
    refine after (acceptOp_no rfl) ?_
    refine after (acceptOp_no rfl) ?_
    refine after (hparam x (.op "=") _) ?_
    refine after ((bind_ok (acceptOp_yes (by simp))).trans hval) ?_
    rw [if_neg (by simp [hs]), if_neg (by simp [habsent])]
    rfl

theorem ParamList.add_nil (p : Sub.ParamList) : p.add [] = p := by simp [Sub.ParamList.add]

theorem ParamList.add_add (p : Sub.ParamList) (ps qs : List (Ident × Option Expr)) :
    (p.add ps).add qs = p.add (ps ++ qs) := by
  simp [Sub.ParamList.add]

theorem paramList_ok (h : Forall₂ ReadsParam tss ps) (ho : InOrder ps) (hf : Fits s c)
    (hlen : (commas tss).length < c) {p : Sub.ParamList} (hs : p.starred = false)
    (hd : p.defaults ≠ [] → ∀ q ∈ ps, q.2.isSome = true) (hn : tss.length < n) (us : List Token) :
    s.paramList false ":" n p (commas tss ++ .op ":" :: us) = .ok (p.add ps, .op ":" :: us) := by
  induction h generalizing p n with
  | nil =>
    rcases n with _ | n
    · omega
    refine after (rfl : atOp ":" (.op ":" :: us) = .ok (true, .op ":" :: us)) ?_
    rw [ParamList.add_nil]
    show (if (p.starred && p.kwOnly.isEmpty && p.rest.isAbsent) = true then .fail else pure p :
      Reader Sub.ParamList) (.op ":" :: us) = _
    rw [hs]
    rfl
  | @cons ts q tss ps hq hqs ih =>
    rw [length_cons] at hn
    rcases n with _ | n
    · omega
    have hord := pairwise_cons.mp ho
    rw [commas_cons, length_append] at hlen
    have hone := fun t ht us => paramList_cons hq hf (by omega) hs
      (fun hne => hd hne q mem_cons_self) (t := t) ht (n := n) us
    rw [commas_cons, append_assoc]
    cases hqs with
    | nil =>
      rw [commaRest, nil_append, hone _ (Or.inr rfl)]
      refine after (acceptOp_no rfl) ?_
      exact bind_ok (rfl : atOp ":" (.op ":" :: us) = .ok (true, .op ":" :: us))
    | @cons ts' q' tss ps hq' hqs =>
      have hd' : (p.add [q]).defaults ≠ [] → ∀ r ∈ q' :: ps, r.2.isSome = true := by
        intro hne r hr
        by_cases hdef : p.defaults = []
        · refine hord.1 r hr ?_
          cases hq2 : q.2 with
          | none => simp [Sub.ParamList.add, hdef, hq2] at hne
          | some d => rfl
        · exact hd hdef r (mem_cons_of_mem _ hr)
      have hrest :=
        ih hord.2 (by rw [commaRest] at hlen; simp at hlen; omega) (p := p.add [q]) hs hd' (n := n) (by omega)
      rw [commaRest, cons_append, hone _ (Or.inl rfl)]
      refine after (acceptOp_yes (by simp)) ?_
      rw [ParamList.add_add] at hrest
      exact hrest

theorem ReadsParam.nonempty (h : Forall₂ ReadsParam tss ps) : ∀ ts ∈ tss, ts ≠ [] := by
  induction h with
  | nil => simp
  | cons hq _ ih => exact forall_mem_cons.mpr ⟨by cases hq <;> simp, ih⟩

end Parameters

theorem Reads.lambda {ps : List (Ident × Option Expr)} (hps : Forall₂ ReadsParam tss ps) (ho : InOrder ps)
    (h : Reads test ts e) : Reads test (.name "lambda" :: (commas tss ++ .op ":" :: ts)) (.lambda (paramsOf ps) e) := by
  refine ⟨⟨_, _, rfl, by decide, ?_⟩, trivial, fun s hf t us ht => ?_⟩
  · cases hps with
    | nil => exact .cons
    | cons hq _ =>
      rw [commas_cons]
      cases hq <;> exact .cons
  · have hlen : (commas tss).length < (.name "lambda" :: (commas tss ++ .op ":" :: ts)).length := by
      simp only [length_cons, length_append]
      omega
    have hcount := length_le_commas (ReadsParam.nonempty hps)
    have hlong := hf.long
    have hread := paramList_ok hps ho hf hlen (p := {}) rfl (fun h => absurd rfl h) (n := s.limit)
      (by omega) (ts ++ t :: us)
    have hbody := h.expression hf (by simp; omega) t us ht
    simp only [cons_append, append_assoc]
    refine after (acceptWord_yes (by simp)) ?_
    refine after ((bind_ok hread).trans (bind_ok (expectOp_yes (by simp)))) ?_
    exact bind_ok hbody

end PuzzlePrograms.Source
