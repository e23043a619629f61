import PuzzlePrograms.Proofs.FlatRun
import PuzzlePrograms.Proofs.Printing

/-!
# What the text of an expression is read as

Flattening writes operations, comparisons and conditional expressions in brackets, but neither `and` and
`or` nor what they join. So the text of `a and (b or c)` is read as `(a and b) or c`.

* `textLevel` is the level at which the text of an expression holds together; `fits` says that every part
  of an expression holds together at least as tightly as its place asks for, apart from what `and` and
  `or` join;
* `regrouped` is the expression as its text is read: alternatives of conjunctions, wherever they come
  from;
* `grouped` says that no operand of `and` is a conjunction or alternative and no operand of `or` is an
  alternative: then and only then nothing is regrouped (`regrouped_eq_iff`).
-/

namespace PuzzlePrograms.Flatten

open List Source Expr
open Level (atom test)

variable {α β : Type} {tss : List (List String)} {a b : Expr} {R : α → β → Prop} {as : List α} {bs : List β}
variable {e : Expr} {ts : List String} {es : List Expr} {t : String}
  {xss : List (List α)}

/-! ## 1. Alternatives of conjunctions -/

/-- The last of some lists and the first of some others in one. -/
def meet {α : Type} : List (List α) → List (List α) → List (List α)
  | [], yss => yss
  | [xs], ys :: yss => (xs ++ ys) :: yss
  | xs :: xss, yss => xs :: meet xss yss

/-- Alternatives joined by `or`, or by `and`: then the last conjunction of one goes on in the first of
    the next. -/
def combine {α : Type} : BoolOp → List (List (List α)) → List (List α)
  | .or, xsss => xsss.flatten
  | .and, xsss => xsss.foldr meet []

/-- Operands under a word, unless there is only one. -/
def joinAll (o : BoolOp) : List Expr → Expr
  | [e] => e
  | es => .boolOp o es

def ofAlts (css : List (List Expr)) : Expr := joinAll .or (css.map (joinAll .and))

def altsText (tss : List (List String)) : String := .intercalate " or " (tss.map (.intercalate " and "))

/-- A text is one of alternatives of conjunctions. -/
def WritesAlts (k : Nat) (t : String) (css : List (List Expr)) : Prop :=
  css ≠ [] ∧ ∃ tss, t = altsText tss ∧ Forall₂ (fun ts cs => cs ≠ [] ∧ Forall₂ (Writes .not false k) ts cs) tss css

theorem forall₂_ne_nil (h : Forall₂ R as bs) (hb : bs ≠ []) : as ≠ [] := by
  rintro rfl
  cases h
  exact hb rfl

theorem forall_left_of {P : α → Prop} (h : Forall₂ R as bs) (hR : ∀ a b, R a b → P a) : ∀ a ∈ as, P a := by
  induction h with
  | nil => exact fun _ ha => absurd ha not_mem_nil
  | cons hab _ ih => exact forall_mem_cons.mpr ⟨hR _ _ hab, ih⟩

theorem meet_nil (xss : List (List α)) : meet xss [] = xss := by
  induction xss with
  | nil => rfl
  | cons xs xss ih => simp [meet, ih]

theorem meet_ne_nil {yss : List (List α)} (h : xss ≠ []) : meet xss yss ≠ [] := by
  unfold meet
  split
  · exact absurd rfl h
  all_goals exact cons_ne_nil _ _

theorem meet_rel {R : List α → List β → Prop} {xss' : List (List α)} {yss yss' : List (List β)}
    (hR : ∀ {a b c d}, R a b → R c d → R (a ++ c) (b ++ d)) (h : Forall₂ R xss yss)
    (h' : Forall₂ R xss' yss') : Forall₂ R (meet xss xss') (meet yss yss') := by
  induction h with
  | nil => exact h'
  | cons hx hxs ih =>
    cases hxs with
    | nil =>
      cases h' with
      | nil => exact .cons hx .nil
      | cons hy hys => exact .cons (hR hx hy) hys
    | cons hx' hxs => exact .cons hx ih

theorem altsText_cons (ts : List String) (h : tss ≠ []) :
    altsText (ts :: tss) = .intercalate " and " ts ++ " or " ++ altsText tss := by
  rw [altsText, map_cons, String.intercalate_cons_of_ne_nil (by simpa using h)]
  rfl

theorem altsText_meet {uss : List (List String)} (ht : tss ≠ []) (hu : uss ≠ []) (hts : ∀ ts ∈ tss, ts ≠ [])
    (hus : ∀ us ∈ uss, us ≠ []) : altsText (meet tss uss) = altsText tss ++ " and " ++ altsText uss := by
  induction tss with
  | nil => exact absurd rfl ht
  | cons ts tss ih =>
    obtain ⟨h, hrest⟩ := forall_mem_cons.mp hts
    cases tss with
    | nil =>
      obtain ⟨us, uss, rfl⟩ := exists_cons_of_ne_nil hu
      have hjoin := String.intercalate_append_of_ne_nil (s := " and ") h (hus us mem_cons_self)
      cases uss with
      | nil => simp [meet, altsText, hjoin]
      | cons vs uss => simp [meet, altsText, hjoin, String.append_assoc]
    | cons ts' tss =>
      have hne : ts' :: tss ≠ [] := cons_ne_nil _ _
      rw [meet.eq_3 _ _ _ (by simp), altsText_cons _ (meet_ne_nil hne), ih hne hrest, altsText_cons _ hne]
      simp only [String.append_assoc]

namespace WritesAlts

variable {k k' : Nat} {t u : String} {css dss : List (List Expr)}

theorem mono (h : WritesAlts k t css) (hk : k ≤ k') : WritesAlts k' t css := by
  obtain ⟨hne, tss, rfl, hw⟩ := h
  exact ⟨hne, tss, rfl, hw.imp fun _ _ hc => ⟨hc.1, hc.2.imp fun _ _ hx => hx.mono hk⟩⟩

theorem single (h : Writes .not false k t e) : WritesAlts k t [[e]] :=
  ⟨by simp, [[t]], by simp [altsText], .cons ⟨by simp, .cons h .nil⟩ .nil⟩

theorem or (h : WritesAlts k t css) (h' : WritesAlts k u dss) : WritesAlts k (t ++ " or " ++ u) (css ++ dss) := by
  obtain ⟨hne, tss, rfl, hw⟩ := h
  obtain ⟨hne', uss, rfl, hw'⟩ := h'
  refine ⟨by simp [hne], tss ++ uss, ?_, rel_append hw hw'⟩
  unfold altsText
  rw [map_append, String.intercalate_append_of_ne_nil]
  · simpa using forall₂_ne_nil hw hne
  · simpa using forall₂_ne_nil hw' hne'

theorem and (h : WritesAlts k t css) (h' : WritesAlts k u dss) : WritesAlts k (t ++ " and " ++ u) (meet css dss) := by
  obtain ⟨hne, tss, rfl, hw⟩ := h
  obtain ⟨hne', uss, rfl, hw'⟩ := h'
  refine ⟨meet_ne_nil hne, meet tss uss, ?_, meet_rel (fun ha hb => ?_) hw hw'⟩
  · exact (altsText_meet (forall₂_ne_nil hw hne) (forall₂_ne_nil hw' hne')
      (forall_left_of hw fun _ _ h => forall₂_ne_nil h.2 h.1)
      (forall_left_of hw' fun _ _ h => forall₂_ne_nil h.2 h.1)).symm
  · exact ⟨by simp [ha.1], rel_append ha.2 hb.2⟩

theorem joined (o : BoolOp) {csss : List (List (List Expr))} (h : Forall₂ (WritesAlts k) ts csss) (hne : csss ≠ []) :
    WritesAlts k (.intercalate (" " ++ o.text ++ " ") ts) (combine o csss) := by
  induction h with
  | nil => exact absurd rfl hne
  | @cons t css ts csss ht hts ih =>
    by_cases hlast : csss = []
    · subst hlast
      cases hts
      cases o <;> simpa [combine, meet_nil] using ht
    · rw [String.intercalate_cons_of_ne_nil (forall₂_ne_nil hts hlast)]
      cases o with
      | or => exact ht.or (ih hlast)
      | and => exact ht.and (ih hlast)

theorem conjunction {cs : List Expr} (h : Forall₂ (Writes .not false k) ts cs) (hne : cs ≠ []) :
    Writes .and false k (.intercalate " and " ts) (joinAll .and cs) := by
  cases h with
  | nil => exact absurd rfl hne
  | @cons t c ts cs ht hts =>
    cases hts with
    | nil => simpa [joinAll] using ht.lift
    | cons ht' hts => exact ht.joined .and (writesEach_of (.cons ht' hts)) (cons_ne_nil _ _)

theorem writes (h : WritesAlts k t css) : Writes .or false k t (ofAlts css) := by
  obtain ⟨hne, tss, rfl, hw⟩ := h
  unfold altsText ofAlts
  cases hw with
  | nil => exact absurd rfl hne
  | @cons ts cs tss css hc hcs =>
    have hfirst := conjunction hc.2 hc.1
    have hrest : Forall₂ (Writes .and false k) (tss.map (.intercalate " and "))
        (css.map (joinAll .and)) := by
      rw [forall₂_map_left_iff, forall₂_map_right_iff]
      exact hcs.imp fun _ _ h => conjunction h.2 h.1
    cases hcs with
    | nil => simpa [joinAll] using hfirst.lift
    | cons hc' hcs => exact hfirst.joined .or (writesEach_of hrest) (cons_ne_nil _ _)

end WritesAlts

/-! ## 2. Parts and their places -/

/-- The level at which the text of an expression holds together. -/
def textLevel : Expr → Level
  | .unaryOp .not _ => .not
  | .unaryOp _ _ => .factor
  | .boolOp _ _ => .or
  | .lambda _ _ => test
  | _ => atom

mutual

/-- Every part holds together as tightly as its place asks for. What stands between brackets or commas may
    be anything; a function is written by the printer. -/
def fits : Expr → Bool
  | .list es | .tuple es | .set es => allFit test es
  | .dict ks vs => allFit test ks && allFit test vs
  | .unaryOp _ e | .keyword _ e => fits e
  | .attr e _ => decide (atom ≤ textLevel e) && fits e
  | .subscript e i => decide (atom ≤ textLevel e) && fits e && fits i
  | .call f as ks =>
    decide (atom ≤ textLevel f) && fits f && allFit test as && allFit test ks
  | .binOp a o b =>
    o != .matMul && decide (o.leftLevel ≤ textLevel a) && decide (o.rightLevel ≤ textLevel b) && fits a && fits b
  | .compare a _ bs => decide (.bitOr ≤ textLevel a) && fits a && allFit .bitOr bs
  | .boolOp _ es => allFit .or es
  | .ifExp c t e =>
    decide (.or ≤ textLevel c) && decide (.or ≤ textLevel t) && fits c && fits t && fits e
  | _ => true

def allFit (l : Level) : List Expr → Bool
  | [] => true
  | e :: es => decide (l ≤ textLevel e) && fits e && allFit l es

end

mutual

/-- The alternatives that the text of an expression is read as; each is a list of what `and` joins. -/
def alts : Expr → List (List Expr)
  | .boolOp o es => combine o (allAlts es)
  | .list es => [[.list ((allAlts es).map ofAlts)]]
  | .tuple es => [[.tuple ((allAlts es).map ofAlts)]]
  | .set es => [[.set ((allAlts es).map ofAlts)]]
  | .dict ks vs => [[.dict ((allAlts ks).map ofAlts) ((allAlts vs).map ofAlts)]]
  | .unaryOp o e => [[.unaryOp o (ofAlts (alts e))]]
  | .keyword x e => [[.keyword x (ofAlts (alts e))]]
  | .attr e x => [[.attr (ofAlts (alts e)) x]]
  | .subscript e i => [[.subscript (ofAlts (alts e)) (ofAlts (alts i))]]
  | .call f as ks =>
    [[.call (ofAlts (alts f)) ((allAlts as).map ofAlts) ((allAlts ks).map ofAlts)]]
  | .binOp a o b => [[.binOp (ofAlts (alts a)) o (ofAlts (alts b))]]
  | .compare a os bs => [[.compare (ofAlts (alts a)) os ((allAlts bs).map ofAlts)]]
  | .ifExp c t e => [[.ifExp (ofAlts (alts c)) (ofAlts (alts t)) (ofAlts (alts e))]]
  | e => [[e]]

def allAlts : List Expr → List (List (List Expr))
  | [] => []
  | e :: es => alts e :: allAlts es

end

/-- The expression that the text of an expression is read as. -/
def regrouped (e : Expr) : Expr := ofAlts (alts e)

theorem allAlts_eq (es : List Expr) : allAlts es = es.map alts := by
  induction es with
  | nil => rfl
  | cons e es ih => rw [allAlts, ih, map_cons]

theorem map_ofAlts (es : List Expr) : (allAlts es).map ofAlts = es.map regrouped := by
  rw [allAlts_eq, map_map]
  rfl

theorem alts_eq (h : ∀ o es, e ≠ .boolOp o es) : alts e = [[regrouped e]] := by
  cases e with
  | boolOp o es => exact absurd rfl (h o es)
  | _ => rfl

theorem mem_allFit {l : Nat} (h : allFit l es = true) : ∀ e ∈ es, l ≤ textLevel e ∧ fits e = true := by
  induction es with
  | nil => exact fun _ he => absurd he not_mem_nil
  | cons e es ih =>
    rw [allFit, Bool.and_eq_true, Bool.and_eq_true, decide_eq_true_eq] at h
    exact forall_mem_cons.mpr ⟨h.1, ih h.2⟩

/-! ## 3. Texts -/

/-- A text is written whatever has been written before; only the count of subscripts may change. -/
def Yields {α : Type} (x : Flat α) (a : α) : Prop := ∀ s, ∃ n, x s = .ok a { s with subscripts := n }

theorem Yields.pure (a : α) : Yields (pure a : Flat α) a := fun s => ⟨s.subscripts, rfl⟩

theorem Yields.bind {x : Flat α} {f : α → Flat β} {a : α} {b : β} (h : Yields x a) (h' : Yields (f a) b) :
    Yields (x >>= f) b := by
  intro s
  obtain ⟨n, hn⟩ := h s
  obtain ⟨m, hm⟩ := h' { s with subscripts := n }
  exact ⟨m, (bind_run hn).trans hm⟩

theorem Yields.inOrder (h : Forall₂ (fun t e => Yields (exprText [] e) t) ts es) :
    Yields (inOrder (exprTexts [] es)) ts := by
  induction h with
  | nil => exact .pure []
  | cons ht _ ih =>
    rw [exprTexts, inOrder_cons]
    exact ht.bind (ih.bind (.pure _))

/-- The text of an expression where it is the index of a subscript. -/
def indexText : Expr → String → String
  | .tuple _, t => inner t
  | _, t => t

/-- The text that an expression has, and what it is read as. -/
structure Shown (t : String) (e : Expr) : Prop where
  yields : Yields (exprText [] e) t
  writes : Writes (textLevel e) (textLevel e == atom && !e.isNumber) e.nesting t (regrouped e)
  joins : .or ≤ textLevel e → WritesAlts e.nesting t (alts e)
  index : e ≠ .tuple [] → ∀ k, e.nesting ≤ k → IsIndex k (indexText e t) (regrouped e)

theorem textLevel_bounds (e : Expr) : test ≤ textLevel e ∧ textLevel e ≤ atom := by
  unfold textLevel
  split <;> decide

/-- Neither operands in a row nor a tuple, whose text depends on where it stands. -/
def standsAlone : Expr → Bool
  | .boolOp .. | .tuple _ => false
  | _ => true

theorem not_le_textLevel (hb : ∀ o es, e ≠ .boolOp o es) (h : .or ≤ textLevel e) : .not ≤ textLevel e := by
  unfold textLevel at h ⊢
  split at h
  · decide
  · decide
  · exact absurd rfl (hb _ _)
  · exact absurd h (by decide)
  · decide

namespace Shown

variable {e : Expr} {t : String} {k l : Nat}

theorem plain (h : Shown t e) (hle : l ≤ textLevel e) (hk : e.nesting ≤ k) (hl : test ≤ l) :
    Writes l false k t (regrouped e) :=
  ((h.writes.lift hle (textLevel_bounds e).2 hl).mono hk).undotted

theorem atTest (h : Shown t e) (hk : e.nesting ≤ k) : Writes test false k t (regrouped e) :=
  h.plain (textLevel_bounds e).1 hk le_rfl

theorem isValue (h : Shown t e) : IsValue (regrouped e) := by
  obtain ⟨ts, _, hr⟩ := h.writes.cuts
  exact hr.value

theorem callee (h : Shown t e) (hl : atom ≤ textLevel e) (hn : e.isNumber = false)
    (hk : e.nesting ≤ k) : Writes atom true k t (regrouped e) := by
  have hlevel : textLevel e = atom := Nat.le_antisymm (textLevel_bounds e).2 hl
  have hw := h.writes.mono hk
  rw [hlevel, hn] at hw
  exact hw

theorem all (h : Forall₂ Shown ts es) (hle : ∀ e ∈ es, l ≤ textLevel e) (hk : allNesting es ≤ k) (hl : test ≤ l) :
    Forall₂ (Writes l false k) ts (es.map regrouped) := by
  induction h with
  | nil => exact .nil
  | cons ht _ ih =>
    obtain ⟨he, hes⟩ := forall_mem_cons.mp hle
    rw [allNesting, Nat.max_le] at hk
    exact .cons (ht.plain he hk.1 hl) (ih hes hk.2)

theorem allAtTest (h : Forall₂ Shown ts es) (hk : allNesting es ≤ k) :
    Forall₂ (Writes test false k) ts (es.map regrouped) :=
  all h (fun e _ => (textLevel_bounds e).1) hk le_rfl

theorem allJoins (h : Forall₂ Shown ts es) (hle : ∀ e ∈ es, Level.or ≤ textLevel e) (hk : allNesting es ≤ k) :
    Forall₂ (WritesAlts k) ts (allAlts es) := by
  induction h with
  | nil => exact .nil
  | cons ht _ ih =>
    obtain ⟨he, hes⟩ := forall_mem_cons.mp hle
    rw [allNesting, Nat.max_le] at hk
    exact .cons ((ht.joins he).mono hk.1) (ih hes hk.2)

theorem ofWrites (hy : Yields (exprText [] e) t)
    (hw : Writes (textLevel e) (textLevel e == atom && !e.isNumber) e.nesting t (regrouped e))
    (he : standsAlone e = true) : Shown t e := by
  have hb : ∀ o es, e ≠ .boolOp o es := by
    rintro o es rfl
    cases he
  refine ⟨hy, hw, fun hl => ?_, fun _ k hk _ _ hv => ?_⟩
  · rw [alts_eq hb]
    exact .single (hw.lift (not_le_textLevel hb hl) (textLevel_bounds e).2 (by decide)).undotted
  · have hi : indexText e t = t := by
      cases e with
      | tuple es => cases he
      | _ => rfl
    have htest := hw.lift (textLevel_bounds e).1 (textLevel_bounds e).2 le_rfl
    rw [hi]
    exact hv.subscript (htest.mono hk).index

end Shown

theorem exists_shown (h : ∀ e ∈ es, ∃ t, Shown t e) : ∃ ts, Forall₂ Shown ts es := by
  induction es with
  | nil => exact ⟨[], .nil⟩
  | cons e es ih =>
    obtain ⟨⟨t, ht⟩, hes⟩ := forall_mem_cons.mp h
    obtain ⟨ts, hts⟩ := ih hes
    exact ⟨t :: ts, .cons ht hts⟩

theorem yields_all (h : Forall₂ Shown ts es) : Yields (inOrder (exprTexts [] es)) ts :=
  .inOrder (h.imp fun _ _ ht => ht.yields)

/-! ## 4. Displays -/

section Displays

variable {es : List Expr} {ts : List String}

theorem shown_list (h : Forall₂ Shown ts es) : Shown ("[" ++ .intercalate ", " ts ++ "]") (.list es) := by
  refine .ofWrites ?_ ?_ rfl
  · rw [exprText]
    exact (yields_all h).bind (.pure _)
  · have hws := Shown.allAtTest h le_rfl
    rw [← map_ofAlts] at hws
    exact .list (writesEach_of hws)

theorem shown_set (h : Forall₂ Shown ts es) (hne : es ≠ []) :
    Shown ("\x7b" ++ .intercalate ", " ts ++ "\x7d") (.set es) := by
  refine .ofWrites ?_ ?_ rfl
  · rw [exprText]
    exact (yields_all h).bind (.pure _)
  · have hws := Shown.allAtTest h le_rfl
    rw [← map_ofAlts] at hws
    exact .set (writesEach_of hws) (by rw [map_ofAlts]; simpa using hne)

theorem tupleItems_eq (ts : List String) :
    .intercalate ", " ts ++ (if ts.length == 1 then "," else "") = tupleItems ts := by
  match ts with
  | [] => rfl
  | [t] => simp [tupleItems]
  | t :: u :: ts => simp [tupleItems]

theorem inner_round (t : String) : inner ("(" ++ t ++ ")") = t := by simp [inner]

theorem shown_tuple (h : Forall₂ Shown ts es) : Shown ("(" ++ tupleItems ts ++ ")") (.tuple es) := by
  have hws := Shown.allAtTest h le_rfl
  rw [← map_ofAlts] at hws
  have hw : Writes atom true (tuple es).nesting ("(" ++ tupleItems ts ++ ")")
      (regrouped (.tuple es)) := .tuple (writesEach_of hws)
  refine ⟨?_, hw, fun _ => ?_, fun hne k hk _ _ hv => ?_⟩
  · rw [exprText]
    have htext :
      "(" ++ .intercalate ", " ts ++ (if ts.length == 1 then "," else "") ++ ")" = "(" ++ tupleItems ts ++ ")" := by
      rw [← tupleItems_eq]
      simp only [String.append_assoc]
    exact (yields_all h).bind (htext ▸ .pure _)
  · exact WritesAlts.single (hw.lift (by decide) le_rfl (by decide)).undotted
  · rw [indexText, inner_round]
    refine hv.subscript_tuple (hws.imp fun _ _ hw => (hw.mono (Nat.le_of_succ_le hk)).index) ?_
    rw [map_ofAlts]
    simpa using fun h : es = [] => hne (by rw [h])

theorem shown_dict {ps : List (Expr × Expr)} (hk : ∀ p ∈ ps, ∃ t, Shown t p.1)
    (hv : ∀ p ∈ ps, ∃ t, Shown t p.2) : ∃ t, Shown t (.dict (ps.map (·.1)) (ps.map (·.2))) := by
  have hentries : ∀ k, allNesting (ps.map (·.1)) ≤ k → allNesting (ps.map (·.2)) ≤ k →
      ∃ ts, Yields (((exprTexts [] (ps.map (·.1))).zip (exprTexts [] (ps.map (·.2)))).mapM fun p => do
            let a ← p.1
            let b ← p.2
            return a ++ ": " ++ b) ts ∧
        WritesEach ReadsEntry k ts (ps.map fun p => (regrouped p.1, regrouped p.2)) := by
    intro k
    induction ps with
    | nil => exact fun _ _ => ⟨[], .pure _, .nil⟩
    | cons p ps ih =>
      intro h h'
      obtain ⟨⟨a, ha⟩, hps⟩ := forall_mem_cons.mp hk
      obtain ⟨⟨b, hb⟩, hqs⟩ := forall_mem_cons.mp hv
      rw [map_cons, allNesting, Nat.max_le] at h h'
      obtain ⟨ts, hts, hws⟩ := ih hps hqs h.2 h'.2
      have hwa := ha.atTest h.1
      have hwb := hb.atTest h'.1
      refine ⟨(a ++ ": " ++ b) :: ts, ?_, .cons (hwa.entry hwb) hws⟩
      have hentry : Yields (do
          let a ← exprText [] p.1
          let b ← exprText [] p.2
          return a ++ ": " ++ b) (a ++ ": " ++ b) := ha.yields.bind (hb.yields.bind (.pure _))
      simp only [map_cons, exprTexts, zip_cons_cons, mapM_cons]
      exact hentry.bind (hts.bind (.pure _))
  obtain ⟨ts, hts, hws⟩ := hentries _ (le_max_left _ _) (le_max_right _ _)
  refine ⟨"\x7b" ++ .intercalate ", " ts ++ "\x7d", .ofWrites ?_ ?_ rfl⟩
  · rw [exprText]
    exact hts.bind (.pure _)
  · have hw := Writes.dict hws
    rw [map_map, map_map] at hw
    have hre : regrouped (.dict (ps.map (·.1)) (ps.map (·.2))) =
      .dict (ps.map fun p => regrouped p.1) (ps.map fun p => regrouped p.2) := by
      show dict _ _ = _
      rw [map_ofAlts, map_ofAlts, map_map, map_map]
      rfl
    rw [hre]
    exact hw

end Displays

/-! ## 5. Calls, attributes and subscripts -/

theorem shown_call {f : Expr} {as : List Expr} {ks : List (Ident × Expr)} {g : String} (hf : Shown g f)
    (hl : atom ≤ textLevel f) (hn : f.isNumber = false) (has : Forall₂ Shown ts as) (hks : ∀ k ∈ ks, ∃ t, Shown t k.2) :
    ∃ t, Shown t (.call f as (keywords ks)) := by
  have hkeys : ∀ k, allNesting (keywords ks) ≤ k → ∃ us, Yields (inOrder (exprTexts [] (keywords ks))) us ∧
        WritesEach ReadsArg k us ((keywords ks).map regrouped) := by
    intro k
    induction ks with
    | nil => exact fun _ => ⟨[], Yields.pure _, .nil⟩
    | cons p ks ih =>
      intro hk
      obtain ⟨⟨t, ht⟩, hps⟩ := forall_mem_cons.mp hks
      rw [keywords, map_cons, allNesting, Nat.max_le, nesting] at hk
      obtain ⟨us, hus, hws⟩ := ih hps hk.2
      have hw := ht.atTest hk.1
      refine ⟨(p.1.word ++ "=" ++ t) :: us, ?_, .cons (hw.keyword p.1) hws⟩
      have hkey : Yields (exprText [] (.keyword (some p.1.word) p.2)) (p.1.word ++ "=" ++ t) := by
        rw [exprText]
        exact ht.yields.bind (Yields.pure _)
      rw [keywords, map_cons, exprTexts, inOrder_cons]
      exact hkey.bind (hus.bind (Yields.pure _))
  obtain ⟨us, hus, hws'⟩ := hkeys _ (Nat.le_trans (le_max_right _ _) (le_max_right f.nesting _))
  have hwf := hf.callee hl hn (Nat.le_succ_of_le
    (le_max_left _ (max (allNesting as) (allNesting (keywords ks)))))
  have hws := Shown.allAtTest has
    (Nat.le_trans (le_max_left _ (allNesting (keywords ks))) (le_max_right f.nesting _))
  refine ⟨g ++ "(" ++ String.intercalate ", " (ts ++ us) ++ ")", Shown.ofWrites ?_ ?_ rfl⟩
  · rw [exprText]
    refine (yields_all has).bind (hus.bind (hf.yields.bind ?_))
    cases f <;> exact Yields.pure _
  · have hre :
      regrouped (.call f as (keywords ks)) = .call (regrouped f) (as.map regrouped) ((keywords ks).map regrouped) := by
      show call _ _ _ = _
      rw [map_ofAlts, map_ofAlts]
      rfl
    rw [hre]
    refine hwf.call (rel_append (hws.imp fun _ _ hw => hw.argument) hws') ?_ ?_
    · simpa using forall_left_of has.flip fun _ _ ht => ht.isValue
    · intro a ha
      obtain ⟨b, hb, rfl⟩ := mem_map.mp ha
      obtain ⟨p, _, rfl⟩ := mem_map.mp hb
      rfl

theorem shown_attr (x : Ident) (h : Shown t e) (hl : atom ≤ textLevel e) (hn : e.isNumber = false) :
    Shown (t ++ "." ++ x.word) (.attr e x.word) := by
  refine .ofWrites ?_ ((h.callee hl hn le_rfl).attr x) rfl
  rw [exprText]
  exact h.yields.bind (.pure _)

theorem shown_subscript {i : Expr} {u : String} (he : Shown t e) (hi : Shown u i)
    (hl : atom ≤ textLevel e) (hn : e.isNumber = false) (hne : i ≠ .tuple []) :
    Shown (t ++ "[" ++ indexText i u ++ "]") (.subscript e i) := by
  have hcallee := he.callee hl hn (Nat.le_succ_of_le (le_max_left _ i.nesting))
  refine .ofWrites ?_ (hi.index hne _ (le_max_right _ _) hcallee) rfl
  rw [exprText]
  have hcount : Yields (modify fun s => { s with subscripts := s.subscripts + 1 } : Flat Unit) () :=
    fun s => ⟨s.subscripts + 1, rfl⟩
  refine hcount.bind (he.yields.bind (hi.yields.bind ?_))
  cases i <;> exact .pure _

/-! ## 6. Operations -/

theorem shown_unary (o : UnaryOp) (h : Shown t e) : ∃ u, Shown u (.unaryOp o e) := by
  -- names and constants go without brackets
  have hpart :
    ∃ u, Yields (exprText [] (.unaryOp o e)) (o.text ++ u) ∧ Writes atom false (e.nesting + 1) u (regrouped e) := by
    have hround := (h.atTest le_rfl).round
    have hbare : textLevel e = atom → Writes atom false (e.nesting + 1) t (regrouped e) :=
      fun hl => h.plain (Nat.le_of_eq hl.symm) (Nat.le_succ _) (by decide)
    have hassoc : o.text ++ "(" ++ t ++ ")" = o.text ++ ("(" ++ t ++ ")") := by simp only [String.append_assoc]
    rw [exprText]
    cases e with
    | name | const => exact ⟨t, h.yields.bind (.pure _), hbare rfl⟩
    | _ => exact ⟨"(" ++ t ++ ")", h.yields.bind (hassoc ▸ .pure _), hround.undotted⟩
  obtain ⟨u, hy, hw⟩ := hpart
  have hlevel : textLevel (.unaryOp o e) = o.level := by cases o <;> rfl
  refine ⟨o.text ++ u, .ofWrites hy ?_ rfl⟩
  rw [hlevel]
  cases o with
  | not => exact (hw.lift (by decide) le_rfl (by decide)).not
  | _ => exact (hw.lift (by decide) le_rfl (by decide)).sign (by decide)

theorem shown_binary {u : String} {o : BinOp} (ha : Shown t a) (hb : Shown u b)
    (ho : o ≠ .matMul) (hl : o.leftLevel ≤ textLevel a) (hr : o.rightLevel ≤ textLevel b) :
    Shown ("(" ++ t ++ " " ++ o.text ++ " " ++ u ++ ")") (.binOp a o b) := by
  have hlevel : test ≤ o.level ∧ o.level ≤ atom := by cases o <;> decide
  have hleft : test ≤ o.leftLevel := by cases o <;> decide
  have hright : test ≤ o.rightLevel := by cases o <;> decide
  refine .ofWrites ?_ ?_ rfl
  · have htext : Yields (binaryText o) o.text := by cases o <;> first | exact absurd rfl ho | exact .pure _
    rw [exprText]
    exact ha.yields.bind (htext.bind (hb.yields.bind (.pure _)))
  · have hw := Writes.binary o rfl rfl (ha.plain hl (le_max_left _ b.nesting) hleft)
      (hb.plain hr (le_max_right a.nesting _) hright)
    have hround := (hw.lift hlevel.1 hlevel.2 le_rfl).round
    simp only [← String.append_assoc] at hround
    exact hround

theorem shown_compare {os : List CmpOp} {bs : List Expr} (ha : Shown t a) (hbs : Forall₂ Shown ts bs)
    (hl : .bitOr ≤ textLevel a) (hle : ∀ b ∈ bs, .bitOr ≤ textLevel b) (hlen : os.length = bs.length) (hne : bs ≠ []) :
    Shown ("(" ++ (t ++ Writes.comparedText os ts) ++ ")") (.compare a os bs) := by
  refine .ofWrites ?_ ?_ rfl
  · have hassoc : ∀ u, "(" ++ (t ++ u) ++ ")" = "(" ++ t ++ u ++ ")" := fun u => by simp only [String.append_assoc]
    rw [exprText, hassoc]
    exact (yields_all hbs).bind (ha.yields.bind (.pure _))
  · have hws := Shown.all hbs hle (le_max_right a.nesting _) (by decide)
    rw [← map_ofAlts] at hws
    have hwa := ha.plain hl (le_max_left _ (allNesting bs)) (by decide)
    have hlen' : os.length = ((allAlts bs).map ofAlts).length := by rw [map_ofAlts, length_map, hlen]
    have hw := hwa.compare hws hlen' (by rw [map_ofAlts]; simpa using hne)
    exact (hw.lift (by decide) (by decide) le_rfl).round

theorem shown_ifExp {c t : Expr} {a b d : String} (hc : Shown b c) (ht : Shown a t)
    (he : Shown d e) (hlc : .or ≤ textLevel c) (hlt : .or ≤ textLevel t) :
    Shown ("(" ++ a ++ " if " ++ b ++ " else " ++ d ++ ")") (.ifExp c t e) := by
  refine .ofWrites ?_ ?_ rfl
  · rw [exprText]
    exact ht.yields.bind (hc.yields.bind (he.yields.bind (.pure _)))
  · have hwt := ht.plain hlt (k := max c.nesting (max t.nesting e.nesting))
      (Nat.le_trans (le_max_left _ _) (le_max_right _ _)) (by decide)
    have hwe := he.atTest (Nat.le_trans (le_max_right t.nesting _) (le_max_right c.nesting _))
    have hround := (hwt.ifExp (hc.plain hlc (le_max_left _ _) (by decide)) hwe).round
    simp only [← String.append_assoc] at hround
    exact hround

theorem shown_joined (o : BoolOp) (h : Forall₂ Shown ts es) (hle : ∀ e ∈ es, .or ≤ textLevel e) (hne : es ≠ []) :
    Shown (.intercalate (" " ++ o.text ++ " ") ts) (.boolOp o es) := by
  have hjoins : WritesAlts (boolOp o es).nesting
      (.intercalate (" " ++ o.text ++ " ") ts) (alts (.boolOp o es)) :=
    (WritesAlts.joined o (Shown.allJoins h hle le_rfl) (by simpa [allAlts_eq] using hne)).mono (Nat.le_succ _)
  have hw := hjoins.writes
  refine ⟨?_, hw, fun _ => hjoins, fun _ k hk _ _ hv => ?_⟩
  · rw [exprText]
    exact (yields_all h).bind (.pure _)
  · exact hv.subscript (hw.lift.mono hk).index

/-! ## 7. Functions -/

theorem renameCall_nil (e : Expr) : renameCall [] e = e := by
  unfold renameCall
  split <;> simp

mutual

theorem mapDeep_renameCall_nil : ∀ e : Expr, e.mapDeep (renameCall []) = e := by
  intro e
  cases e <;> simp [mapDeep, renameCall_nil, mapDeep_renameCall_nil, mapDeepAll_renameCall_nil]

theorem mapDeepAll_renameCall_nil : ∀ es : List Expr, mapDeepAll (renameCall []) es = es := by
  intro es
  cases es <;> simp [mapDeepAll, mapDeep_renameCall_nil, mapDeepAll_renameCall_nil]

end

theorem shown_lambda {ps : Expr} (h : Proper (.lambda ps b)) : ∃ t, Shown t (.lambda ps b) := by
  obtain ⟨t, ht, hw⟩ := h.printed.plain (l := test) le_rfl (by decide)
  refine ⟨t, .ofWrites ?_ hw rfl⟩
  have hplain : exprText [] (.lambda ps b) = pure t := by
    rw [exprText, plainText, mapDeep_renameCall_nil, text, ht]
    · rfl
    all_goals simp
  rw [hplain]
  exact .pure t

/-- **Every expression has a text, which is read as the regrouped expression.** -/
theorem exists_text (h : Proper e) (hf : fits e = true) : ∃ t, Shown t e := by
  induction h with
  | name x => exact ⟨_, .ofWrites (.pure _) (.name x) rfl⟩
  | none => exact ⟨_, .ofWrites (.pure _) .none rfl⟩
  | bool b => exact ⟨_, .ofWrites (.pure _) (Writes.bool b).undotted rfl⟩
  | whole n => exact ⟨_, .ofWrites (.pure _) (.whole n) rfl⟩
  | text s => exact ⟨_, .ofWrites (.pure _) (.quoted s) rfl⟩
  | list _ ih =>
    rw [fits] at hf
    obtain ⟨ts, hts⟩ := exists_shown fun e he => ih e he (mem_allFit hf e he).2
    exact ⟨_, shown_list hts⟩
  | tuple _ ih =>
    rw [fits] at hf
    obtain ⟨ts, hts⟩ := exists_shown fun e he => ih e he (mem_allFit hf e he).2
    exact ⟨_, shown_tuple hts⟩
  | set _ hne ih =>
    rw [fits] at hf
    obtain ⟨ts, hts⟩ := exists_shown fun e he => ih e he (mem_allFit hf e he).2
    exact ⟨_, shown_set hts hne⟩
  | dict _ _ ihk ihv =>
    rw [fits, Bool.and_eq_true] at hf
    exact shown_dict (fun p hp => ihk p hp (mem_allFit hf.1 _ (mem_map_of_mem hp)).2)
      fun p hp => ihv p hp (mem_allFit hf.2 _ (mem_map_of_mem hp)).2
  | call _ hn _ _ ihf iha ihk =>
    simp only [fits, Bool.and_eq_true, decide_eq_true_eq] at hf
    obtain ⟨⟨⟨hl, hff⟩, hfa⟩, hfk⟩ := hf
    obtain ⟨g, hg⟩ := ihf hff
    obtain ⟨ts, hts⟩ := exists_shown fun e he => iha e he (mem_allFit hfa e he).2
    refine shown_call hg hl hn hts fun k hk => ihk k hk ?_
    exact (mem_allFit hfk _ (mem_map_of_mem hk)).2
  | attr x _ hn ih =>
    rw [fits, Bool.and_eq_true, decide_eq_true_eq] at hf
    obtain ⟨t, ht⟩ := ih hf.2
    exact ⟨_, shown_attr x ht hf.1 hn⟩
  | subscript _ hn _ hne ihe ihi =>
    simp only [fits, Bool.and_eq_true, decide_eq_true_eq] at hf
    obtain ⟨t, ht⟩ := ihe hf.1.2
    obtain ⟨u, hu⟩ := ihi hf.2
    exact ⟨_, shown_subscript ht hu hf.1.1 hn hne⟩
  | unary o _ ih =>
    rw [fits] at hf
    obtain ⟨t, ht⟩ := ih hf
    exact shown_unary o ht
  | binary o _ _ iha ihb =>
    simp only [fits, Bool.and_eq_true, decide_eq_true_eq, bne_iff_ne] at hf
    obtain ⟨⟨⟨⟨ho, hl⟩, hr⟩, hfa⟩, hfb⟩ := hf
    obtain ⟨t, ht⟩ := iha hfa
    obtain ⟨u, hu⟩ := ihb hfb
    exact ⟨_, shown_binary ht hu ho hl hr⟩
  | compare _ _ hlen hne iha ihb =>
    simp only [fits, Bool.and_eq_true, decide_eq_true_eq] at hf
    obtain ⟨⟨hl, hfa⟩, hfb⟩ := hf
    obtain ⟨t, ht⟩ := iha hfa
    obtain ⟨ts, hts⟩ := exists_shown fun e he => ihb e he (mem_allFit hfb e he).2
    exact ⟨_, shown_compare ht hts hl (fun b hb => (mem_allFit hfb b hb).1) hlen hne⟩
  | joined o _ _ _ iha ihb =>
    rw [fits] at hf
    have hall := mem_allFit hf
    obtain ⟨ts, hts⟩ := exists_shown (forall_mem_cons.mpr
      ⟨iha (hall _ mem_cons_self).2, fun e he => ihb e he (hall e (mem_cons_of_mem _ he)).2⟩)
    exact ⟨_, shown_joined o hts (fun e he => (hall e he).1) (cons_ne_nil _ _)⟩
  | ifExp _ _ _ ihc iht ihe =>
    simp only [fits, Bool.and_eq_true, decide_eq_true_eq] at hf
    obtain ⟨⟨⟨⟨hlc, hlt⟩, hfc⟩, hft⟩, hfe⟩ := hf
    obtain ⟨b, hb⟩ := ihc hfc
    obtain ⟨a, ha⟩ := iht hft
    obtain ⟨d, hd⟩ := ihe hfe
    exact ⟨_, shown_ifExp hb ha hd hlc hlt⟩
  | lambda xs hds hb _ _ => exact shown_lambda (.lambda xs hds hb)

end PuzzlePrograms.Flatten
