import PuzzlePrograms.Proofs.Precedence

/-!
# When the text of an expression is read as the expression

Regrouping changes an expression just if some `and` joins an `and` or an `or`, or some `or` joins an `or`:
these are the brackets that flattening leaves out.
-/

namespace PuzzlePrograms.Flatten

open List Source

variable {α : Type} {e : Expr} {es : List Expr} {css : List (List Expr)}

/-! ## 1. Expressions without clashes -/

/-- An operand that needs brackets among operands joined by a word. -/
def clashes : BoolOp → Expr → Bool
  | .or, .boolOp .or _ => true
  | .and, .boolOp _ _ => true
  | _, _ => false

mutual

/-- No operand of `and` or `or` needs brackets, outside of functions. -/
def grouped : Expr → Bool
  | .boolOp o es => es.all (!clashes o ·) && allGrouped es
  | .list es | .tuple es | .set es => allGrouped es
  | .dict ks vs => allGrouped ks && allGrouped vs
  | .unaryOp _ e | .keyword _ e | .attr e _ => grouped e
  | .subscript a b | .binOp a _ b => grouped a && grouped b
  | .compare a _ bs => grouped a && allGrouped bs
  | .call f as ks => grouped f && allGrouped as && allGrouped ks
  | .ifExp c t e => grouped c && grouped t && grouped e
  | _ => true

def allGrouped : List Expr → Bool
  | [] => true
  | e :: es => grouped e && allGrouped es

end

theorem allGrouped_iff : allGrouped es = true ↔ ∀ e ∈ es, grouped e = true := by
  induction es with
  | nil => simp [allGrouped]
  | cons e es ih => rw [allGrouped, Bool.and_eq_true, ih, forall_mem_cons]

def conjuncts : Expr → List Expr
  | .boolOp .and es => es
  | e => [e]

/-- The alternatives of an expression as it stands. -/
def ownAlts : Expr → List (List Expr)
  | .boolOp .or es => es.map conjuncts
  | e => [conjuncts e]

theorem joinAll_conjuncts (h : Proper e) : joinAll .and (conjuncts e) = e := by
  cases h with
  | joined o _ _ hne =>
    cases o with
    | or => rfl
    | and =>
      obtain ⟨b, bs, rfl⟩ := exists_cons_of_ne_nil hne
      rfl
  | _ => rfl

theorem joinAll_cons (o : BoolOp) (a : Expr) {as : List Expr} (h : as ≠ []) :
    joinAll o (a :: as) = .boolOp o (a :: as) := by
  obtain ⟨b, bs, rfl⟩ := exists_cons_of_ne_nil h
  rfl

theorem ofAlts_ownAlts (h : Proper e) : ofAlts (ownAlts e) = e := by
  have hand := joinAll_conjuncts h
  cases h with
  | @joined o a as ha has hne =>
    cases o with
    | and => exact hand
    | or =>
      have hall : ∀ e ∈ a :: as, (joinAll .and ∘ conjuncts) e = id e :=
        forall_mem_cons.mpr ⟨joinAll_conjuncts ha, fun e he => joinAll_conjuncts (has e he)⟩
      rw [ownAlts, ofAlts, map_map, map_congr_left hall, map_id, joinAll_cons .or a hne]
  | _ => exact hand

/-! ## 2. Nothing is regrouped -/

theorem foldr_meet_singletons {xs : List α} (h : xs ≠ []) : (xs.map fun x => [[x]]).foldr meet [] = [xs] := by
  induction xs with
  | nil => exact absurd rfl h
  | cons x xs ih =>
    by_cases hx : xs = []
    · subst hx
      rfl
    · rw [map_cons, foldr_cons, ih hx]
      rfl

theorem ownAlts_or (h : clashes .or e = false) : ownAlts e = [conjuncts e] := by
  unfold ownAlts
  split
  · cases h
  · rfl

theorem ownAlts_and (h : clashes .and e = false) : ownAlts e = [[e]] := by
  cases e with
  | boolOp o es => cases h
  | _ => rfl

theorem alts_eq_ownAlts (h : Proper e) (hg : grouped e = true) : alts e = ownAlts e := by
  have hkept : ∀ {e : Expr}, Proper e → alts e = ownAlts e → ofAlts (alts e) = e := fun hp he => he ▸ ofAlts_ownAlts hp
  have hall : ∀ {es : List Expr}, (∀ e ∈ es, Proper e) → allGrouped es = true →
      (∀ e ∈ es, grouped e = true → alts e = ownAlts e) → (allAlts es).map ofAlts = es := by
    intro es hp hg ih
    have hid : ∀ e ∈ es, regrouped e = id e := fun e he =>
      hkept (hp e he) (ih e he (allGrouped_iff.mp hg e he))
    rw [map_ofAlts, map_congr_left hid, map_id]
  induction h with
  | name | none | bool | whole | text | lambda => rfl
  | list hp ih | tuple hp ih | set hp _ ih =>
    rw [grouped] at hg
    rw [alts, hall hp hg ih]
    rfl
  | @dict ps hk hv ihk ihv =>
    rw [grouped, Bool.and_eq_true] at hg
    rw [alts, hall (forall_mem_map.mpr hk) hg.1 (forall_mem_map.mpr ihk),
      hall (forall_mem_map.mpr hv) hg.2 (forall_mem_map.mpr ihv)]
    rfl
  | @call f as ks hf _ has hks ihf iha ihk =>
    simp only [grouped, Bool.and_eq_true] at hg
    have hkeys : ∀ k ∈ keywords ks, regrouped k = id k := forall_mem_map.mpr fun k hk => by
      have hkg := allGrouped_iff.mp hg.2 _ (mem_map_of_mem hk)
      rw [grouped] at hkg
      exact congrArg (Expr.keyword _) (hkept (hks k hk) (ihk k hk hkg))
    rw [alts, hkept hf (ihf hg.1.1), hall has hg.1.2 iha, map_ofAlts, map_congr_left hkeys, map_id]
    rfl
  | attr x he _ ih | unary o he ih =>
    rw [grouped] at hg
    rw [alts, hkept he (ih hg)]
    rfl
  | subscript ha _ hb _ iha ihb | binary o ha hb iha ihb =>
    rw [grouped, Bool.and_eq_true] at hg
    rw [alts, hkept ha (iha hg.1), hkept hb (ihb hg.2)]
    rfl
  | compare ha hb _ _ iha ihb =>
    rw [grouped, Bool.and_eq_true] at hg
    rw [alts, hkept ha (iha hg.1), hall hb hg.2 ihb]
    rfl
  | ifExp hc ht he ihc iht ihe =>
    simp only [grouped, Bool.and_eq_true] at hg
    rw [alts, hkept hc (ihc hg.1.1), hkept ht (iht hg.1.2), hkept he (ihe hg.2)]
    rfl
  | @joined o a as ha has hne iha ihb =>
    simp only [grouped, Bool.and_eq_true, all_eq_true, Bool.not_eq_true'] at hg
    have hown : ∀ e ∈ a :: as, alts e = ownAlts e := forall_mem_cons.mpr ⟨iha (allGrouped_iff.mp hg.2 a mem_cons_self),
        fun e he => ihb e he (allGrouped_iff.mp hg.2 e (mem_cons_of_mem _ he))⟩
    rw [alts, allAlts_eq]
    cases o with
    | or =>
      rw [map_congr_left fun e he => (hown e he).trans (ownAlts_or (hg.1 e he))]
      exact flatMap_pure_eq_map conjuncts (a :: as)
    | and =>
      rw [map_congr_left fun e he => (hown e he).trans (ownAlts_and (hg.1 e he))]
      exact foldr_meet_singletons (cons_ne_nil a as)

/-! ## 3. What is regrouped has no clashes -/

/-- Alternatives of conjunctions of expressions that are joined by no word and have no clashes. -/
def Separate (css : List (List Expr)) : Prop := ∀ cs ∈ css, ∀ c ∈ cs, grouped c = true ∧ clashes .and c = false

theorem Separate.meet {dss : List (List Expr)} (h : Separate css) (h' : Separate dss) : Separate (meet css dss) := by
  induction css with
  | nil => exact h'
  | cons cs css ih =>
    obtain ⟨hc, hcs⟩ := forall_mem_cons.mp h
    cases css with
    | nil =>
      cases dss with
      | nil => exact h
      | cons ds dss =>
        obtain ⟨hd, hds⟩ := forall_mem_cons.mp h'
        exact forall_mem_cons.mpr ⟨forall_mem_append.mpr ⟨hc, hd⟩, hds⟩
    | cons cs' css => exact forall_mem_cons.mpr ⟨hc, ih hcs⟩

theorem Separate.combine (o : BoolOp) {csss : List (List (List Expr))} (h : ∀ css ∈ csss, Separate css) :
    Separate (combine o csss) := by
  cases o with
  | or =>
    intro cs hcs
    obtain ⟨css, hcss, hmem⟩ := mem_flatten.mp hcs
    exact h css hcss cs hmem
  | and =>
    induction csss with
    | nil => exact fun _ h => absurd h not_mem_nil
    | cons css csss ih =>
      obtain ⟨hc, hcs⟩ := forall_mem_cons.mp h
      exact hc.meet (ih hcs)

theorem grouped_joinAll {o : BoolOp} (h : ∀ e ∈ es, grouped e = true ∧ clashes o e = false) :
    grouped (joinAll o es) = true := by
  unfold joinAll
  split
  · exact (h _ mem_cons_self).1
  · rw [grouped, Bool.and_eq_true, all_eq_true]
    exact ⟨fun e he => by rw [(h e he).2]; rfl, allGrouped_iff.mpr fun e he => (h e he).1⟩

theorem clashes_or_joinAll (h : ∀ e ∈ es, clashes .and e = false) : clashes .or (joinAll .and es) = false := by
  unfold joinAll
  split
  · rename_i e
    have he := h e mem_cons_self
    cases e with
    | boolOp => cases he
    | _ => rfl
  · rfl

theorem Separate.grouped (h : Separate css) : grouped (ofAlts css) = true :=
  grouped_joinAll (forall_mem_map.mpr fun cs hcs =>
    ⟨grouped_joinAll (h cs hcs), clashes_or_joinAll fun c hc => (h cs hcs c hc).2⟩)

theorem separate_alts (h : Proper e) : Separate (alts e) := by
  have hone : ∀ {e : Expr}, Flatten.grouped e = true → clashes .and e = false → Separate [[e]] :=
    fun hg hc => forall_mem_singleton.mpr (forall_mem_singleton.mpr ⟨hg, hc⟩)
  have hall : ∀ {es : List Expr}, (∀ e ∈ es, Separate (alts e)) → allGrouped ((allAlts es).map ofAlts) = true :=
    fun ih => by
    rw [map_ofAlts, allGrouped_iff]
    exact forall_mem_map.mpr fun e he => (ih e he).grouped
  induction h with
  | name | none | bool | whole | text | lambda => exact hone rfl rfl
  | list _ ih | tuple _ ih | set _ _ ih => exact hone (hall ih) rfl
  | dict _ _ ihk ihv =>
    refine hone ?_ rfl
    rw [grouped, hall (forall_mem_map.mpr ihk), hall (forall_mem_map.mpr ihv)]
    rfl
  | @call f as ks _ _ _ _ ihf iha ihk =>
    have hkeys : ∀ k ∈ keywords ks, Separate (alts k) := forall_mem_map.mpr fun k hk => hone (ihk k hk).grouped rfl
    refine hone ?_ rfl
    rw [grouped, ihf.grouped, hall iha, hall hkeys]
    rfl
  | attr _ _ _ ih | unary _ _ ih => exact hone ih.grouped rfl
  | subscript _ _ _ _ iha ihb | binary _ _ _ iha ihb =>
    refine hone ?_ rfl
    rw [grouped, iha.grouped, ihb.grouped]
    rfl
  | compare _ _ _ _ iha ihb =>
    refine hone ?_ rfl
    rw [grouped, iha.grouped, hall ihb]
    rfl
  | ifExp _ _ _ ihc iht ihe =>
    refine hone ?_ rfl
    rw [grouped, ihc.grouped, iht.grouped, ihe.grouped]
    rfl
  | joined o _ _ _ iha ihb =>
    rw [alts, allAlts_eq]
    exact Separate.combine o (forall_mem_map.mpr (forall_mem_cons.mpr ⟨iha, ihb⟩))

/-- **An expression is regrouped unless it has no clashes.** -/
theorem regrouped_eq_iff (h : Proper e) : regrouped e = e ↔ grouped e = true := by
  refine ⟨fun he => he ▸ (separate_alts h).grouped, fun hg => ?_⟩
  rw [regrouped, alts_eq_ownAlts h hg, ofAlts_ownAlts h]

/-! ## 4. Reading texts back -/

/-- **The text of an expression whose parts fit is read as the expression just if no operand of `and` or
    `or` needs brackets.** -/
theorem exprText_reads_iff {e : Expr} (h : Proper e) (hf : fits e = true) (hk : e.nesting ≤ bracketLimit) (s : State) :
    ∃ t s', exprText [] e s = .ok t s' ∧ (expression? t = .ok e ↔ grouped e = true) := by
  obtain ⟨t, ht⟩ := exists_text h hf
  obtain ⟨n, hn⟩ := ht.yields s
  have hread := (ht.atTest (Nat.le_refl _)).expression? hk
  refine ⟨t, _, hn, ?_⟩
  rw [hread, Except.ok.injEq, regrouped_eq_iff h]

/-- The brackets of `a and (b or c)` are lost. -/
theorem exprText_reads_regrouped :
    let e : Expr := .boolOp .and [.name "a", .boolOp .or [.name "b", .name "c"]]
    Proper e ∧ fits e = true ∧ e.nesting ≤ bracketLimit ∧
      ∃ t s', exprText [] e {} = .ok t s' ∧ expression? t ≠ .ok e := by
  intro e
  have ha : Proper (.name "a") := .name ⟨"a", by decide, by decide⟩
  have hb : Proper (.name "b") := .name ⟨"b", by decide, by decide⟩
  have hc : Proper (.name "c") := .name ⟨"c", by decide, by decide⟩
  have hor := Proper.joined .or hb (forall_mem_singleton.mpr hc) (cons_ne_nil _ _)
  have he : Proper e := .joined .and ha (forall_mem_singleton.mpr hor) (cons_ne_nil _ _)
  obtain ⟨t, s', ht, hread⟩ := exprText_reads_iff he (by decide) (by decide) {}
  exact ⟨he, by decide, by decide, t, s', ht, fun h => absurd (hread.mp h) (by decide)⟩

end PuzzlePrograms.Flatten
