import PuzzlePrograms.Proofs.Quoting

/-!
# Printed expressions are read as they were

The printer puts an expression in brackets where the place asks for a tighter level than the expression
has. So what it prints is read as the same expression (`Proper.text_reads`).

* `Proper` are the expressions that this is about: names, constants, displays, calls, attributes,
  subscripts, operations, conditional expressions and functions with plain parameters;
* `Expr.nesting` bounds how many brackets are open at once in the text of an expression;
* `Printed` says what one expression is printed as at each level; there is one lemma for each
  constructor.
-/

namespace PuzzlePrograms.Source

open List Source.Expr

open Level (atom test)

variable {e : Expr} {l k : Nat}

/-! ## 1. Expressions -/

namespace Expr

variable {ts : List String} {a b : Expr} {ds : List (Ident × Expr)} {as : List Expr}

/-- A number; one that stands right before a point would take it in. -/
def isNumber : Expr → Bool
  | .const (.int _) | .const (.bool _) => true
  | _ => false

mutual

/-- So many brackets are open at once in the text of an expression, or fewer. -/
def nesting : Expr → Nat
  | .boolOp _ es | .set es | .list es | .tuple es => allNesting es + 1
  | .unaryOp _ e => e.nesting + 1
  | .binOp a _ b | .subscript a b => max a.nesting b.nesting + 1
  | .compare a _ bs => max a.nesting (allNesting bs) + 1
  | .ifExp c t e => max c.nesting (max t.nesting e.nesting) + 1
  | .dict ks vs => max (allNesting ks) (allNesting vs) + 1
  | .call f as ks => max f.nesting (max (allNesting as) (allNesting ks)) + 1
  | .lambda ps b => max ps.nesting b.nesting + 1
  | .attr e _ | .keyword _ e => e.nesting
  | .params _ _ _ _ _ _ ds => allNesting ds
  | _ => 0

def allNesting : List Expr → Nat
  | [] => 0
  | e :: es => max e.nesting (allNesting es)

end

end Expr

/-- Parameters without defaults, then parameters with one. -/
def plainParams (xs : List Ident) (ds : List (Ident × Expr)) : List (Ident × Option Expr) :=
  xs.map (·, none) ++ ds.map fun d => (d.1, some d.2)

def keywords (ks : List (Ident × Expr)) : List Expr := ks.map fun k => .keyword (some k.1.word) k.2

inductive Proper : Expr → Prop where
  | name (x : Ident) : Proper (.name x.word)
  | none : Proper (.const .none)
  | bool (b : Bool) : Proper (.const (.bool b))
  | whole (n : Nat) : Proper (.const (.int n))
  | text (s : String) : Proper (.const (.str s false))
  | list {es : List Expr} (h : ∀ e ∈ es, Proper e) : Proper (.list es)
  | tuple {es : List Expr} (h : ∀ e ∈ es, Proper e) : Proper (.tuple es)
  | set {es : List Expr} (h : ∀ e ∈ es, Proper e) (hne : es ≠ []) : Proper (.set es)
  | dict {ps : List (Expr × Expr)} (hk : ∀ p ∈ ps, Proper p.1) (hv : ∀ p ∈ ps, Proper p.2) :
    Proper (.dict (ps.map (·.1)) (ps.map (·.2)))
  | call {f : Expr} {as : List Expr} {ks : List (Ident × Expr)} (hf : Proper f)
    (hn : f.isNumber = false) (has : ∀ a ∈ as, Proper a) (hks : ∀ k ∈ ks, Proper k.2) :
      Proper (.call f as (keywords ks))
  | attr {e : Expr} (x : Ident) (he : Proper e) (hn : e.isNumber = false) : Proper (.attr e x.word)
  | subscript {e i : Expr} (he : Proper e) (hn : e.isNumber = false) (hi : Proper i)
    (hne : i ≠ .tuple []) : Proper (.subscript e i)
  | unary (o : UnaryOp) {e : Expr} (he : Proper e) : Proper (.unaryOp o e)
  | binary {a b : Expr} (o : BinOp) (ha : Proper a) (hb : Proper b) : Proper (.binOp a o b)
  | compare {a : Expr} {os : List CmpOp} {bs : List Expr} (ha : Proper a) (hbs : ∀ b ∈ bs, Proper b)
    (hlen : os.length = bs.length) (hne : bs ≠ []) : Proper (.compare a os bs)
  | joined (o : BoolOp) {a : Expr} {as : List Expr} (ha : Proper a) (has : ∀ b ∈ as, Proper b)
    (hne : as ≠ []) : Proper (.boolOp o (a :: as))
  | ifExp {c t e : Expr} (hc : Proper c) (ht : Proper t) (he : Proper e) : Proper (.ifExp c t e)
  | lambda (xs : List Ident) {ds : List (Ident × Expr)} {b : Expr} (hds : ∀ d ∈ ds, Proper d.2)
    (hb : Proper b) : Proper (.lambda (paramsOf (plainParams xs ds)) b)

theorem Proper.isValue (h : Proper e) : IsValue e ∧ e.isAbsent = false := by cases h <;> exact ⟨trivial, rfl⟩

/-! ## 2. Texts of lists -/

theorem Writes.loosen {dot : Bool} {s : String} (h : Writes l true k s e) : Writes l dot k s e := by
  cases dot
  · exact h.undotted
  · exact h

/-- A text that stands in the brackets of a subscript. -/
def IsIndex (k : Nat) (t : String) (i : Expr) : Prop :=
  ∀ {s : String} {v : Expr}, Writes atom true (k + 1) s v →
    Writes atom true (k + 1) (s ++ "[" ++ t ++ "]") (.subscript v i)

/-- The level that an index is asked for: a tuple needs no brackets. -/
def indexLevel : Expr → Level
  | .tuple _ => .tuple
  | _ => test

/-- How an expression is printed, at each level and as an index. -/
structure Printed (e : Expr) : Prop where
  text :
    ∀ l : Nat, test ≤ l → l ≤ atom → ∃ t, e.doc.text false l = .ok t ∧ Writes l (l == atom && !e.isNumber) e.nesting t e
  index : e ≠ .tuple [] → ∃ t, e.doc.text false (indexLevel e) = .ok t ∧ ∀ k, e.nesting ≤ k → IsIndex k t e

namespace Printed

variable {e : Expr} {es : List Expr} {k l : Nat} {t : String}

theorem plain (h : Printed e) (hk : e.nesting ≤ k) (hl : test ≤ l ∧ l ≤ atom) :
    ∃ t, e.doc.text false l = .ok t ∧ Writes l false k t e := by
  obtain ⟨t, ht, hw⟩ := h.text l hl.1 hl.2
  exact ⟨t, ht, (hw.mono hk).undotted⟩

theorem callee (h : Printed e) (hn : e.isNumber = false) (hk : e.nesting ≤ k) :
    ∃ t, e.doc.text false atom = .ok t ∧ Writes atom true k t e := by
  obtain ⟨t, ht, hw⟩ := h.text atom (by decide) le_rfl
  rw [hn] at hw
  exact ⟨t, ht, hw.mono hk⟩

theorem allAt (h : ∀ e ∈ es, Printed e) (hk : allNesting es ≤ k) (hl : test ≤ l ∧ l ≤ atom) :
    ∃ ts, Doc.allAt false l (docs es) = .ok ts ∧ List.Forall₂ (Writes l false k) ts es := by
  induction es with
  | nil => exact ⟨[], rfl, .nil⟩
  | cons e es ih =>
    obtain ⟨he, hes⟩ := forall_mem_cons.mp h
    rw [allNesting, Nat.max_le] at hk
    obtain ⟨t, ht, hw⟩ := he.plain hk.1 hl
    obtain ⟨ts, hts, hws⟩ := ih hes hk.2
    refine ⟨t :: ts, ?_, .cons hw hws⟩
    unfold Doc.allAt at hts ⊢
    simp only [docs, mapM_cons, ht, hts]
    rfl

theorem all (h : ∀ e ∈ es, Printed e) (hk : allNesting es ≤ k) :
    ∃ ts, Doc.all false (docs es) = .ok ts ∧ List.Forall₂ (Writes test false k) ts es := allAt h hk (by decide)

theorem rising (h : ∀ e ∈ es, Printed e) {l' : Nat} (hl : test ≤ l) (hle : l ≤ l') (hl' : l' ≤ atom)
    (hk : allNesting es ≤ k) :
    ∃ ts, Doc.rising false l' (docs es) = .ok ts ∧ List.Forall₂ (Writes l false k) ts es := by
  induction es generalizing l' with
  | nil => exact ⟨[], rfl, .nil⟩
  | cons e es ih =>
    obtain ⟨he, hes⟩ := forall_mem_cons.mp h
    rw [allNesting, Nat.max_le] at hk
    obtain ⟨t, ht, hw⟩ := he.plain hk.1 ⟨Nat.le_trans hl hle, hl'⟩
    have hnext : l ≤ Level.next l' := Nat.le_min.mpr ⟨Nat.le_succ_of_le hle, Nat.le_trans hle hl'⟩
    obtain ⟨ts, hts, hws⟩ := ih hes hnext (Nat.min_le_right _ _) hk.2
    refine ⟨t :: ts, ?_, .cons (hw.lift hle hl' hl) hws⟩
    simp only [docs, Doc.rising, ht, hts]
    rfl

theorem ofText (h : ∀ l : Nat, test ≤ l → l ≤ atom → ∃ t, e.doc.text false l = .ok t ∧
    Writes l (l == atom && !e.isNumber) e.nesting t e) (he : indexLevel e = test) : Printed e := by
  refine ⟨h, fun _ => ?_⟩
  obtain ⟨t, ht, hw⟩ := h test le_rfl (by decide)
  exact ⟨t, he ▸ ht, fun _ hk _ _ hv => hv.subscript (hw.mono hk).index⟩

theorem solid (hdoc : ∀ l, e.doc.text false l = .ok t) (h : Writes atom (!e.isNumber) e.nesting t e)
    (he : indexLevel e = test) : Printed e := by
  refine ofText (fun l hl hl' => ⟨t, hdoc l, ?_⟩) he
  have hw : Writes l _ _ t e := h.lift hl' le_rfl hl
  by_cases ha : l = atom
  · simpa [ha] using hw
  · have hne : (l == atom) = false := beq_false_of_ne ha
    rw [hne, Bool.false_and]
    exact hw.undotted

theorem leveled (own : Nat) (hdoc : ∀ l : Nat, e.doc.text false l = .ok (bracketedIf (l > own) t))
    (h : Writes own false k t e) (hk : e.nesting = k + 1) (hown : test ≤ own ∧ own < atom) (he : indexLevel e = test) :
    Printed e := by
  refine ofText (fun l hl hl' => ⟨_, hdoc l, ?_⟩) he
  rw [hk]
  have ha : own ≤ atom := Nat.le_of_lt hown.2
  by_cases hlt : own < l
  · have hround := (h.lift hown.1 ha le_rfl).round
    rw [bracketedIf, if_pos (decide_eq_true hlt)]
    exact (hround.lift hl' le_rfl hl).loosen
  · have hle : l ≤ own := Nat.le_of_not_lt hlt
    have hne : (l == atom) = false := beq_false_of_ne (Nat.ne_of_lt (Nat.lt_of_le_of_lt hle hown.2))
    rw [bracketedIf, if_neg (by simpa using hle), hne, Bool.false_and]
    exact (h.lift hle ha hl).mono (Nat.le_succ k)

end Printed

theorem bind_written {α β : Type} {k : α → Written β} {x : Written α} {a : α} (h : x = .ok a) : (x >>= k) = k a := by
  rw [h]
  rfl

theorem leveled_text {own : Level} {body : Bool → Written String} {t : String} (h : body false = .ok t) :
    (Doc.leveled own body).text false l = .ok (bracketedIf (l > own) t) := bind_written h

theorem writesEach_of {es : List Expr} (h : List.Forall₂ (Writes l false k) ts es) : WritesEach (Reads l) k ts es :=
  h.imp fun _ _ hw => hw.cuts

/-! ## 3. Displays -/

section Displays

variable {es : List Expr}

theorem printed_list (h : ∀ e ∈ es, Printed e) : Printed (.list es) := by
  obtain ⟨ts, hts, hws⟩ := Printed.all h le_rfl
  exact .solid (fun l => (bind_written hts).trans rfl) (.list (writesEach_of hws)) rfl

theorem printed_set (h : ∀ e ∈ es, Printed e) (hne : es ≠ []) : Printed (.set es) := by
  obtain ⟨ts, hts, hws⟩ := Printed.all h le_rfl
  refine .solid (fun l => ?_) (.set (writesEach_of hws) hne) rfl
  obtain ⟨e, es, rfl⟩ := exists_cons_of_ne_nil hne
  exact (bind_written hts).trans rfl

theorem printed_tuple (h : ∀ e ∈ es, Printed e) : Printed (.tuple es) := by
  obtain ⟨ts, hts, hws⟩ := Printed.all h le_rfl
  have hdoc : ∀ l : Nat, (tuple es).doc.text false l =
      .ok (bracketedIf (es.isEmpty || decide (l > Level.tuple)) (tupleItems ts)) :=
        fun l => (bind_written hts).trans rfl
  refine ⟨fun l hl hl' => ⟨_, hdoc l, ?_⟩, fun hne => ⟨_, hdoc _, fun k hk _ _ hv => ?_⟩⟩
  · have hlt : Level.tuple < l := Nat.lt_of_lt_of_le (by decide) hl
    rw [decide_eq_true hlt, Bool.or_true]
    exact ((Writes.tuple (writesEach_of hws)).lift hl' le_rfl hl).loosen
  · have hes : es ≠ [] := fun h => hne (h ▸ rfl)
    rw [isEmpty_eq_false_iff.mpr hes]
    exact hv.subscript_tuple (hws.imp fun _ _ hw => (hw.mono (Nat.le_of_succ_le hk)).index) hes

theorem printed_dict {ps : List (Expr × Expr)} (hk : ∀ p ∈ ps, Proper p.1 ∧ Printed p.1)
    (hv : ∀ p ∈ ps, Printed p.2) : Printed (.dict (ps.map (·.1)) (ps.map (·.2))) := by
  have hentries : ∀ k, allNesting (ps.map (·.1)) ≤ k → allNesting (ps.map (·.2)) ≤ k →
      ∃ ts, Doc.entries false (ps.map (·.1)) (docs (ps.map (·.1))) (docs (ps.map (·.2))) = .ok ts ∧
        WritesEach ReadsEntry k ts ps := by
    intro k
    induction ps with
    | nil => exact fun _ _ => ⟨[], rfl, .nil⟩
    | cons p ps ih =>
      intro h h'
      obtain ⟨hp, hps⟩ := forall_mem_cons.mp hk
      obtain ⟨hq, hqs⟩ := forall_mem_cons.mp hv
      rw [map_cons, allNesting, Nat.max_le] at h h'
      obtain ⟨a, ha, hwa⟩ := hp.2.plain (l := test) h.1 (by decide)
      obtain ⟨b, hb, hwb⟩ := hq.plain (l := test) h'.1 (by decide)
      obtain ⟨ts, hts, hws⟩ := ih hps hqs h.2 h'.2
      refine ⟨(a ++ ": " ++ b) :: ts, ?_, .cons (hwa.entry hwb) hws⟩
      unfold Doc.entries at hts ⊢
      simp only [map_cons, docs, zip_cons_cons, mapM_cons, hp.1.isValue.2, ha, hb, hts]
      rfl
  obtain ⟨ts, hts, hws⟩ := hentries _ (le_max_left _ _) (le_max_right _ _)
  exact .solid (fun l => (bind_written hts).trans rfl) (.dict hws) rfl

end Displays

/-! ## 4. Calls, attributes and subscripts -/

theorem printed_call {f : Expr} {ks : List (Ident × Expr)} (hf : Printed f)
    (hn : f.isNumber = false) (has : ∀ a ∈ as, Proper a ∧ Printed a) (hks : ∀ k ∈ ks, Printed k.2) :
    Printed (.call f as (keywords ks)) := by
  have hkeys : ∀ k, allNesting (keywords ks) ≤ k → ∃ us,
      Doc.all false (docs (keywords ks)) = .ok us ∧ WritesEach ReadsArg k us (keywords ks) := by
    intro k
    induction ks with
    | nil => exact fun _ => ⟨[], rfl, .nil⟩
    | cons p ks ih =>
      intro hk
      obtain ⟨hp, hps⟩ := forall_mem_cons.mp hks
      rw [keywords, map_cons, allNesting, Nat.max_le, nesting] at hk
      obtain ⟨t, ht, hw⟩ := hp.plain (l := test) hk.1 (by decide)
      obtain ⟨us, hus, hws⟩ := ih hps hk.2
      refine ⟨(p.1.word ++ "=" ++ t) :: us, ?_, .cons (hw.keyword p.1) hws⟩
      have hdoc : (keyword (some p.1.word) p.2).doc.text false test = .ok (p.1.word ++ "=" ++ t) :=
        (bind_written ht).trans rfl
      unfold Doc.all at hus ⊢
      unfold keywords at hus ⊢
      simp only [map_cons, docs, mapM_cons, hdoc, hus]
      rfl
  obtain ⟨g, hg, hwg⟩ := hf.callee hn (Nat.le_succ_of_le (le_max_left _ _))
  obtain ⟨ts, hts, hws⟩ := Printed.all (fun a ha => (has a ha).2)
    (Nat.le_trans (le_max_left _ _) (le_max_right _ _))
  obtain ⟨us, hus, hws'⟩ := hkeys _ (Nat.le_trans (le_max_right _ _) (le_max_right _ _))
  have hargs := rel_append (hws.imp fun _ _ hw => hw.argument) hws'
  refine .solid (fun l => ?_) (hwg.call hargs (fun a ha => (has a ha).1.isValue.1) ?_) rfl
  · exact (bind_written hg).trans ((bind_written hts).trans ((bind_written hus).trans rfl))
  · intro a ha
    obtain ⟨p, _, rfl⟩ := mem_map.mp ha
    rfl

theorem printed_attr (x : Ident) (he : Printed e) (hn : e.isNumber = false) : Printed (.attr e x.word) := by
  obtain ⟨t, ht, hw⟩ := he.callee hn le_rfl
  refine .solid (fun l => (bind_written ht).trans ?_) (hw.attr x) rfl
  revert hn
  cases e with
  | const c => cases c <;> intro hn <;> first | rfl | cases hn
  | _ => exact fun _ => rfl

theorem printed_subscript {i : Expr} (he : Printed e) (hn : e.isNumber = false) (hi : Printed i)
    (hne : i ≠ .tuple []) : Printed (.subscript e i) := by
  obtain ⟨t, ht, hw⟩ := he.callee hn (Nat.le_succ_of_le (le_max_left _ _))
  obtain ⟨u, hu, hw'⟩ := hi.index hne
  refine .solid (fun l => ?_) (hw' _ (le_max_right _ _) hw) rfl
  exact (bind_written ht).trans ((bind_written hu).trans rfl)

/-! ## 5. Operations -/

theorem printed_unary (o : UnaryOp) (he : Printed e) : Printed (.unaryOp o e) := by
  have hlevel : test ≤ o.level ∧ o.level < atom := by cases o <;> decide
  obtain ⟨t, ht, hw⟩ := he.plain le_rfl ⟨hlevel.1, Nat.le_of_lt hlevel.2⟩
  refine Printed.leveled o.level (t := o.text ++ t) (fun l => ?_) ?_ rfl hlevel rfl
  · exact leveled_text ((bind_written ht).trans rfl)
  · cases o with
    | not => exact hw.not
    | _ => exact hw.sign (by decide)

/-- The level that the left operand of an operation has to have. -/
def BinOp.leftLevel (o : BinOp) : Level := if o == .pow then .next o.level else o.level

/-- The level that the right operand of an operation has to have; a power takes a sign. -/
def BinOp.rightLevel (o : BinOp) : Level := if o == .pow then .factor else .next o.level

theorem printed_binary (o : BinOp) (ha : Printed a) (hb : Printed b) : Printed (.binOp a o b) := by
  have hlevel : test ≤ o.level ∧ o.level < atom := by cases o <;> decide
  have hleft : test ≤ o.leftLevel ∧ o.leftLevel ≤ atom := by cases o <;> decide
  have hright : test ≤ o.rightLevel ∧ o.rightLevel ≤ (if o == .pow then o.level else Level.next o.level) ∧
      (if o == .pow then o.level else Level.next o.level) ≤ atom := by cases o <;> decide
  obtain ⟨t, ht, hw⟩ := ha.plain (le_max_left _ _) hleft
  obtain ⟨u, hu, hw'⟩ := hb.plain (le_max_right _ _) ⟨Nat.le_trans hright.1 hright.2.1, hright.2.2⟩
  refine Printed.leveled o.level (t := t ++ " " ++ o.text ++ " " ++ u) (fun l => ?_)
    (Writes.binary o rfl rfl hw (hw'.lift hright.2.1 hright.2.2 hright.1)) rfl hlevel rfl
  exact leveled_text ((bind_written ht).trans ((bind_written hu).trans rfl))

theorem printed_compare {os : List CmpOp} {bs : List Expr} (ha : Printed a)
    (hbs : ∀ b ∈ bs, Printed b) (hlen : os.length = bs.length) (hne : bs ≠ []) : Printed (.compare a os bs) := by
  obtain ⟨t, ht, hw⟩ := ha.plain (l := Level.bitOr) (le_max_left _ _) (by decide)
  obtain ⟨ts, hts, hws⟩ := Printed.allAt (l := Level.bitOr) hbs (le_max_right _ _) (by decide)
  refine Printed.leveled Level.compare (t := t ++ Writes.comparedText os ts) (fun l => ?_)
    (hw.compare hws hlen hne) rfl (by decide) rfl
  exact leveled_text ((bind_written ht).trans ((bind_written hts).trans rfl))

theorem printed_joined (o : BoolOp) (ha : Printed a) (has : ∀ b ∈ as, Printed b) (hne : as ≠ []) :
    Printed (.boolOp o (a :: as)) := by
  have hlevel : test ≤ o.level + 1 ∧ o.level + 1 ≤ .next o.level ∧ .next o.level ≤ atom := by cases o <;> decide
  have hown : test ≤ o.level ∧ o.level < atom := by cases o <;> decide
  obtain ⟨ts, hts, hws⟩ := Printed.rising (forall_mem_cons.mpr ⟨ha, has⟩) hlevel.1 hlevel.2.1
    hlevel.2.2 le_rfl
  obtain ⟨s, ss, hw, hws', rfl⟩ := forall₂_cons_right_iff.mp hws
  refine .leveled o.level (t := .intercalate (" " ++ o.text ++ " ") (s :: ss))
    (fun l => ?_) (hw.joined o (writesEach_of hws') hne) rfl hown rfl
  exact leveled_text ((bind_written hts).trans rfl)

theorem printed_ifExp {c t : Expr} (hc : Printed c) (ht : Printed t) (he : Printed e) : Printed (.ifExp c t e) := by
  obtain ⟨a, ha, hwa⟩ := ht.plain (l := Level.or) (Nat.le_trans (le_max_left _ _) (le_max_right _ _)) (by decide)
  obtain ⟨b, hb, hwb⟩ := hc.plain (l := Level.or) (le_max_left _ _) (by decide)
  obtain ⟨d, hd, hwd⟩ := he.plain (l := test) (Nat.le_trans (le_max_right _ _) (le_max_right _ _)) (by decide)
  refine Printed.leveled test (t := a ++ " if " ++ b ++ " else " ++ d) (fun l => ?_)
    (hwa.ifExp hwb hwd) rfl (by decide) rfl
  exact leveled_text ((bind_written ha).trans ((bind_written hb).trans ((bind_written hd).trans rfl)))

/-! ## 6. Functions -/

/-- The texts of parameters, given the texts of the values that some of them have otherwise. -/
def paramTexts (xs : List Ident) (ds : List (Ident × Expr)) (ts : List String) : List String :=
  xs.map (·.word) ++ zipWith (fun d t => d.1.word ++ "=" ++ t) ds ts

theorem inOrder_plainParams (xs : List Ident) (ds : List (Ident × Expr)) : InOrder (plainParams xs ds) := by
  refine pairwise_append.mpr ⟨?_, ?_, ?_⟩
  · exact pairwise_map.mpr (pairwise_of_forall fun _ _ h => absurd h Bool.false_ne_true)
  · exact pairwise_map.mpr (pairwise_of_forall fun _ _ _ => rfl)
  · intro p _ q hq _
    obtain ⟨d, _, rfl⟩ := mem_map.mp hq
    rfl

theorem writesParams_paramTexts (xs : List Ident) (hds : ∀ d ∈ ds, d.2.isAbsent = false)
    (h : List.Forall₂ (Writes test false k) ts (ds.map (·.2))) :
    Writes.WritesParams k (paramTexts xs ds ts) (plainParams xs ds) := by
  refine rel_append ?_ ?_
  · induction xs with
    | nil => exact .nil
    | cons x xs ih => exact .cons (Writes.param x) ih
  · induction ds generalizing ts with
    | nil =>
      cases h
      exact .nil
    | cons d ds ih =>
      obtain ⟨t, ts, hw, hws, rfl⟩ := forall₂_cons_right_iff.mp h
      obtain ⟨hd, hds⟩ := forall_mem_cons.mp hds
      exact .cons (Writes.optional d.1 hw hd) (ih hds hws)

theorem paramsOf_plainParams (xs : List Ident) (ds : List (Ident × Expr)) : paramsOf (plainParams xs ds) =
      .params [] ((xs ++ ds.map (·.1)).map fun x => .param x.word .absent) .absent [] [] .absent (ds.map (·.2)) := by
  simp [paramsOf, plainParams, Function.comp_def]

theorem parameters_plainParams (xs : List Ident) (h : Doc.all false (docs (ds.map (·.2))) = .ok ts)
    (hlen : ts.length = ds.length) :
    (paramsOf (plainParams xs ds)).doc.text false test = .ok (String.intercalate ", " (paramTexts xs ds ts)) := by
  have hplain : map (fun p : String × String => p.1 ++ p.2)
      ((xs.map (·.word)).zip (replicate xs.length "")) = xs.map (·.word) := by
    induction xs with
    | nil => rfl
    | cons x xs ih => simpa [replicate_succ] using ih
  have hshown : map (fun p : String × String => p.1 ++ p.2) ((xs.map (·.word) ++ ds.map (·.1.word)).zip
        (replicate xs.length "" ++ ts.map ("=" ++ ·))) = paramTexts xs ds ts := by
    rw [zip_append (by simp), map_append, hplain, paramTexts, map_zip_eq_zipWith, zipWith_map]
    simp only [Function.curry, String.append_assoc]
  rw [paramsOf_plainParams, ← hshown]
  show Doc.parameters .. = _
  simp only [Doc.parameters, docs, nil_append, all_params, h]
  simp [bind, Except.bind, pure, Except.pure, Doc.optional, isAbsent, Doc.all, hlen, Function.comp_def]

theorem printed_lambda (xs : List Ident) (hds : ∀ d ∈ ds, Proper d.2 ∧ Printed d.2) (hb : Printed b) :
    Printed (.lambda (paramsOf (plainParams xs ds)) b) := by
  have hnest : (paramsOf (plainParams xs ds)).nesting = allNesting (ds.map (·.2)) := by
    rw [paramsOf_plainParams, nesting]
  have hall : ∀ e ∈ ds.map (·.2), Printed e := by simpa using fun x d hd => (hds (d, x) hd).2
  obtain ⟨ts, hts, hws⟩ := Printed.all hall (le_max_left _ b.nesting)
  obtain ⟨t, ht, hw⟩ := hb.plain (l := test) (le_max_right (allNesting (ds.map (·.2))) _) (by decide)
  have hps := parameters_plainParams xs hts (by simpa using hws.length_eq)
  refine .leveled test
    (t := Writes.lambdaText (.intercalate ", " (paramTexts xs ds ts)) t) (fun l => ?_)
    (.lambda (writesParams_paramTexts xs (fun d hd => (hds d hd).1.isValue.2) hws) (inOrder_plainParams xs ds) hw)
    (by rw [nesting, hnest]) (by decide) rfl
  exact leveled_text ((bind_written hps).trans ((bind_written ht).trans rfl))

/-! ## 7. Every expression -/

/-- **What is printed is read as the expression that was printed.** -/
theorem Proper.printed (h : Proper e) : Printed e := by
  induction h with
  | name x => exact .solid (fun _ => rfl) (.name x) rfl
  | none => exact .solid (fun _ => rfl) .none rfl
  | bool b => exact .solid (fun _ => rfl) (Writes.bool b).undotted rfl
  | whole n => exact .solid (fun _ => rfl) (.whole n) rfl
  | text s => exact .solid (fun _ => rfl) (.quoted s) rfl
  | list _ ih => exact printed_list ih
  | tuple _ ih => exact printed_tuple ih
  | set _ hne ih => exact printed_set ih hne
  | dict hk _ ihk ihv => exact printed_dict (fun p hp => ⟨hk p hp, ihk p hp⟩) ihv
  | call _ hn has _ ihf iha ihk => exact printed_call ihf hn (fun a ha => ⟨has a ha, iha a ha⟩) ihk
  | attr x _ hn ih => exact printed_attr x ih hn
  | subscript _ hn _ hne ihe ihi => exact printed_subscript ihe hn ihi hne
  | unary o _ ih => exact printed_unary o ih
  | binary o _ _ iha ihb => exact printed_binary o iha ihb
  | compare _ _ hlen hne iha ihb => exact printed_compare iha ihb hlen hne
  | joined o _ _ hne iha ihb => exact printed_joined o iha ihb hne
  | ifExp _ _ _ ihc iht ihe => exact printed_ifExp ihc iht ihe
  | lambda xs hds _ ihd ihb => exact printed_lambda xs (fun d hd => ⟨hds d hd, ihd d hd⟩) ihb

theorem Proper.text_reads (h : Proper e) (hk : e.nesting ≤ bracketLimit) :
    ∃ t, e.text = .ok t ∧ expression? t = .ok e := by
  obtain ⟨t, ht, hw⟩ := h.printed.plain (l := test) le_rfl (by decide)
  exact ⟨t, ht, hw.expression? hk⟩

end PuzzlePrograms.Source
