import Mathlib.Data.List.Forall2
import PuzzlePrograms.Proofs.Levels

/-!
# Which tokens say what

One lemma for each way to write an expression: if its parts are read at the levels that the grammar asks
for, the whole is read at the level of the construct.

* atoms, brackets and displays are read at the level of an atom, and so are calls, attributes and
  subscripts of what is read there;
* the operands of binary operators are read from the left, powers from the right;
* comparisons, `and`, `or` and choices ask for operands of a higher level than their own.
-/

namespace PuzzlePrograms.Source

open List Reader Token
open Level (atom test)

variable {s : Sub} {c n : Nat} {o : String} {t : Token} {ts us : List Token} {tss : List (List Token)} {e e' i : Expr}
  {es as ks : List Expr}

/-! ## 1. Atoms -/

namespace Reads

theorem ofAtom (hb : Begins atom ts) (hv : IsValue e) (h : ∀ s, Fits s ts.length → ∀ t us, t.strength ≤ atom →
      s.atom (ts ++ t :: us) = .ok (e, t :: us)) : Reads atom ts e :=
  ⟨hb, hv, fun s hf => ⟨0, Nat.zero_le _, fun _ t us ht => bind_ok (h s hf t us ht)⟩⟩

theorem name (w : Ident) : Reads atom [.name w.word] (.name w.word) := by
  have hne : ∀ k ∈ reserved, w.word ≠ k := by
    rintro k hk e
    have hc : reserved.contains w.word = true := by simpa [e] using hk
    rw [w.notReserved] at hc
    exact absurd hc (by decide)
  refine ofAtom ⟨_, [], rfl, ?_, .nil⟩ trivial fun s _ t us _ => ?_
  · simp only [opening, hne "lambda" (by decide), hne "not" (by decide), w.notReserved, Bool.false_and, if_false,
      Bool.false_eq_true]
    exact Nat.le_refl _
  · have hN := hne "None" (by decide)
    have hT := hne "True" (by decide)
    have hF := hne "False" (by decide)
    refine after peek_cons ?_
    simp only
    exact bind_ok name_cons

theorem number (c : Constant) : Reads atom [.number c] (.const c) :=
  ofAtom ⟨_, [], rfl, Nat.le_refl _, .nil⟩ trivial fun _ _ _ _ _ => rfl

theorem none : Reads atom [.name "None"] (.const .none) :=
  ofAtom ⟨_, [], rfl, by decide, .nil⟩ trivial fun _ _ _ _ _ => rfl

theorem bool (b : Bool) : Reads atom [.name (if b then "True" else "False")] (.const (.bool b)) := by
  cases b <;> exact ofAtom ⟨_, [], rfl, by decide, .nil⟩ trivial fun _ _ _ _ _ => rfl

theorem string {m : StringMark} {body : List Char} (hv : IsValue e)
    (h : ∀ s : Sub, s.stringsOf [(m, body)] = some e) : Reads atom [.string m body] e := by
  refine ofAtom ⟨_, [], rfl, Nat.le_refl _, .nil⟩ hv fun s hf t us ht => ?_
  obtain ⟨k, hk⟩ : ∃ k, s.limit = k + 2 := ⟨s.limit - 2, by have := hf.long; simp at this; omega⟩
  refine after peek_cons ?_
  show s.strings (.string m body :: t :: us) = .ok (e, t :: us)
  unfold Sub.strings
  refine after (show _ = Except.ok ([(m, body)], t :: us) from ?_) ?_
  · rw [hk]
    cases t with
    | string _ _ => exact absurd ht (by show ¬(19 ≤ 18); decide)
    | _ => rfl
  · rw [h s]
    rfl

end Reads

/-! ## 2. Lists with commas -/

/-- Groups of tokens with commas between them. -/
def commas : List (List Token) → List Token
  | [] => []
  | [ts] => ts
  | ts :: us :: tss => ts ++ .op "," :: commas (us :: tss)

/-- A group of tokens is read as one item, before a comma and before the token that ends the list, and
    does not start with this token. -/
structure IsItem {α : Type} (item : Reader α) (atEnd : Reader Bool) (close : Token) (ts : List Token) (a : α) :
  Prop where
  nonempty : ts ≠ []
  reads : ∀ t us, t = .op "," ∨ t = close → item (ts ++ t :: us) = .ok (a, t :: us)
  goesOn : ∀ us, atEnd (ts ++ us) = .ok (false, ts ++ us)

section Commas

variable {α : Type} {item : Reader α} {atEnd : Reader Bool} {close : Token} {as : List α}

theorem length_le_commas (h : ∀ ts ∈ tss, ts ≠ []) : tss.length ≤ (commas tss).length := by
  induction tss with
  | nil => exact Nat.le_refl _
  | cons ts tss ih =>
    have hts := length_pos_iff.mpr (h ts mem_cons_self)
    cases tss with
    | nil =>
      rw [commas, length_singleton]
      omega
    | cons vs tss =>
      have := ih fun x hx => h x (mem_cons_of_mem _ hx)
      simp only [commas, length_append, length_cons] at this ⊢
      omega

theorem length_le_of_mem (h : us ∈ tss) : us.length ≤ (commas tss).length := by
  induction tss with
  | nil => cases h
  | cons ts tss ih =>
    cases tss with
    | nil =>
      rw [mem_singleton.mp h]
      exact Nat.le_refl _
    | cons vs tss =>
      rw [commas, length_append, length_cons]
      rcases mem_cons.mp h with rfl | h
      · omega
      · have := ih h
        omega

theorem nonempty_of_mem (h : Forall₂ (IsItem item atEnd close) tss as) : ∀ ts ∈ tss, ts ≠ [] := by
  induction h with
  | nil => simp
  | cons hi _ ih => exact forall_mem_cons.mpr ⟨hi.nonempty, ih⟩

theorem length_lt_limit (h : Forall₂ (IsItem item atEnd close) tss as)
    (hf : Fits s c) (hlen : (commas tss).length < c) : tss.length < s.limit := by
  have := length_le_commas (nonempty_of_mem h)
  have := hf.long
  omega

theorem isItems_of {R : List Token → α → Prop} (h : Forall₂ R tss as)
    (hR : ∀ ts a, R ts a → ts.length < c → IsItem item atEnd close ts a) (hlen : (commas tss).length < c) :
    Forall₂ (IsItem item atEnd close) tss as := by
  have hshort : ∀ ts ∈ tss, ts.length < c := fun ts hts =>
    Nat.lt_of_le_of_lt (length_le_of_mem hts) hlen
  exact ((forall₂_and_left tss as).mpr ⟨hshort, h⟩).imp fun ts a hr => hR ts a hr.2 hr.1

/-- Groups of tokens, each after a comma. -/
def commaRest : List (List Token) → List Token
  | [] => []
  | ts :: tss => .op "," :: commas (ts :: tss)

theorem commas_cons (ts : List Token) : commas (ts :: tss) = ts ++ commaRest tss := by
  cases tss <;> simp [commas, commaRest]

theorem commaRest_append (t : Token) (us : List Token) :
    ∃ u vs, commaRest tss ++ t :: us = u :: vs ∧ (u = .op "," ∨ u = t) := by
  cases tss with
  | nil => exact ⟨t, us, rfl, .inr rfl⟩
  | cons ts tss => exact ⟨_, _, rfl, .inl rfl⟩

theorem commaItems_ok (h : Forall₂ (IsItem item atEnd close) tss as) (hne : tss ≠ [])
    (hc : close.isOp "," = false) (hn : tss.length ≤ n) (us : List Token) :
    commaItems atEnd item n (commas tss ++ close :: us) = .ok ((as, false), close :: us) := by
  induction h generalizing n with
  | nil => exact absurd rfl hne
  | @cons ts a tss as hi his ih =>
    rw [length_cons] at hn
    rcases n with _ | n
    · omega
    cases his with
    | nil =>
      refine after (hi.reads close us (.inr rfl)) ?_
      exact bind_ok (acceptOp_no hc)
    | @cons vs b tss bs hj hjs =>
      have hrest := ih (by simp) (n := n) (by omega)
      have hend : atEnd (commas (vs :: tss) ++ close :: us) = .ok (false, commas (vs :: tss) ++ close :: us) := by
        rw [commas_cons, append_assoc]
        exact hj.goesOn _
      rw [commas, append_assoc, cons_append]
      refine after (hi.reads (.op ",") _ (.inl rfl)) ?_
      refine after (acceptOp_yes (by simp)) ?_
      refine after hend ?_
      exact bind_ok hrest

theorem moreItems_ok (h : Forall₂ (IsItem item (atOp o) (.op o)) tss as)
    (ho : (op o).isOp "," = false) (hn : tss.length ≤ n) (us : List Token) :
    moreItems o item n (commaRest tss ++ .op o :: us) = .ok (as, .op o :: us) := by
  cases h with
  | nil => exact bind_ok (acceptOp_no ho)
  | @cons ts a tss as hi his =>
    have hall := commaItems_ok (.cons hi his) (by simp) ho hn us
    rw [commaRest, cons_append]
    rw [commas_cons, append_assoc] at hall ⊢
    refine after (acceptOp_yes (by simp [hi.nonempty])) ?_
    refine after (hi.goesOn _) ?_
    exact bind_ok hall

end Commas

/-! ## 3. Displays -/

def closers : List String := [")", "]", "\x7d"]

theorem Reads.first (h : Reads test ts e) :
    ∃ t vs, ts = t :: vs ∧ (∀ o ∈ neverFirst, t.isOp o = false) ∧ t.isWord "yield" = false := by
  have hall : ∀ o ∈ neverFirst, (op o).opening < test := by decide
  obtain ⟨t, vs, rfl, ho, _⟩ := h.begins
  exact ⟨t, vs, rfl, fun o hm => isOp_of_opening ho (hall o hm), isWord_of_opening ho (by decide)⟩

theorem closers_neverFirst : ∀ o ∈ closers, o ∈ neverFirst := by decide

theorem closers_marks : ∀ o ∈ closers, (op o).strength < test ∧ ∀ p ∈ [",", "=", ":="], (op o).isOp p = false := by
  decide

theorem strength_comma (ht : t = .op "," ∨ t = .op o) (ho : o ∈ closers) : t.strength < test := by
  rcases ht with rfl | rfl
  · decide
  · exact (closers_marks o ho).1

theorem Reads.isItem (h : Reads test ts e) (hf : Fits s c) (hlen : ts.length < c)
    (ho : o ∈ closers) : IsItem s.starNamed (atOp o) (.op o) ts e := by
  obtain ⟨u, vs, hts, hfirst, _⟩ := h.first
  refine ⟨by simp [hts], fun t us ht => ?_, fun us => ?_⟩
  · have hs := strength_comma ht ho
    rw [Sub.starNamed_eq (h.begins.leads (Nat.lt_trans hs (by decide)))]
    exact h.expression hf hlen t us hs
  · rw [hts, cons_append, atOp_cons, hfirst o (closers_neverFirst o ho)]

/-- The tokens of a bracket, what stands in it, and the bracket that closes it. -/
def inBrackets (o : String) (ts : List Token) (o' : String) : List Token := .op o :: (ts ++ [.op o'])

theorem begins_inBrackets {o' : String} (h : Unmarked ts)
    (ho : atom ≤ (op o).opening ∧ o' ∈ closers) : Begins atom (inBrackets o ts o') := by
  refine ⟨_, _, rfl, ho.1, ?_⟩
  cases ts with
  | nil =>
    have hmarks := (closers_marks o' ho.2).2
    exact .cons (hmarks "=" (by decide)) (hmarks ":=" (by decide))
  | cons t ts => exact h

theorem commas_unmarked (h : Forall₂ (Reads test) tss es) : Unmarked (commas tss) := by
  cases h with
  | nil => exact .nil
  | cons hr _ =>
    rw [commas_cons]
    exact hr.begins.unmarked (prefix_append _ _)

/-- Tokens at which an expression starts that is neither starred nor named nor given away. -/
def Starts (ts : List Token) : Prop := Leads ts ∧ ∀ t ∈ ts.head?, t.isWord "yield" = false

theorem atom_round (h : Starts ts) : s.atom (.op "(" :: ts) = s.inRound ts := by
  obtain ⟨⟨u, vs, rfl, _⟩, _⟩ := h
  rfl

theorem atom_square (h : Starts ts) : s.atom (.op "[" :: ts) = s.inSquare ts := by
  obtain ⟨⟨u, vs, rfl, _⟩, _⟩ := h
  rfl

theorem atom_curly (h : Starts ts) : s.atom (.op "\x7b" :: ts) = s.inCurly ts := by
  obtain ⟨⟨u, vs, rfl, _⟩, _⟩ := h
  rfl

theorem Reads.starts (h : Reads test ts e) (ht : t.strength < .never) : Starts (ts ++ t :: us) := by
  refine ⟨h.begins.leads ht, ?_⟩
  obtain ⟨u, vs, rfl, _, hy⟩ := h.first
  rintro v ⟨⟩
  exact hy

/-- What a reader of displays meets after an opening bracket: an expression and what ends it, a comma with
    more expressions after it or the closing bracket. -/
structure Elements (s : Sub) (o : String) (us ts : List Token) (e : Expr) (es : List Expr) (w : Token)
  (ws : List Token) : Prop where
  starts : Starts ts
  reads : s.starNamed ts = .ok (e, w :: ws)
  ends : w = .op "," ∨ w = .op o
  plain : Sub.atClause (w :: ws) = .ok (false, w :: ws)
  more : moreItems o s.starNamed s.limit (w :: ws) = .ok (es, .op o :: us)

/-- After one expression without a comma there is no tuple. -/
theorem Elements.inRound {w : Token} {ws : List Token} (h : Elements s ")" (t :: us) ts e es w ws) : s.inRound ts =
    (if w.isOp "," then pure (.tuple (e :: es)) else if isStarred e then Reader.fail else pure e : Reader Expr)
    (t :: us) := by
  obtain ⟨⟨⟨u, vs, rfl, hu, _⟩, hy⟩, hread, _, hclause, hmore⟩ := h
  refine (bind_ok (acceptOp_no (hu ")" (by decide)))).trans ?_
  refine after atWord_cons ?_
  rw [hy u rfl]
  refine after hread ?_
  refine after hclause ?_
  simp only [Bool.and_false]
  refine after atOp_cons ?_
  refine after hmore ?_
  exact bind_ok (expectOp_yes (by simp))

namespace Reads

theorem elements (hr : Reads test ts e) (hrs : Forall₂ (Reads test) tss es) (hf : Fits s c)
    (hlen : (commas (ts :: tss)).length < c) (us : List Token) (ho : o ∈ closers) :
    ∃ w ws, commaRest tss ++ .op o :: us = w :: ws ∧ Elements s o us (ts ++ w :: ws) e es w ws := by
  have hitems := isItems_of (.cons hr hrs) (fun _ _ hr hl => hr.isItem hf hl ho) hlen
  have hlimit := length_lt_limit hitems hf hlen
  obtain ⟨hi, his⟩ := forall₂_cons.mp hitems
  obtain ⟨w, ws, hw, hend⟩ := @commaRest_append tss (.op o) us
  refine ⟨w, ws, hw, hr.starts (Nat.lt_trans (strength_comma hend ho) (by decide)), hi.reads w ws hend, hend, ?_, ?_⟩
  · rcases hend with rfl | rfl <;> rfl
  · rw [length_cons] at hlimit
    rw [← hw]
    exact moreItems_ok his ((closers_marks o ho).2 "," (by decide)) (by omega) us

theorem lt_inBrackets (ts : List Token) (o o' : String) : ts.length < (inBrackets o ts o').length := by
  simp only [inBrackets, length_cons, length_append]
  omega

theorem list (h : Forall₂ (Reads test) tss es) : Reads atom (inBrackets "[" (commas tss) "]") (.list es) := by
  refine ofAtom (begins_inBrackets (commas_unmarked h) (by decide)) trivial fun s hf t us _ => ?_
  cases h with
  | nil => rfl
  | cons hr hrs =>
    obtain ⟨w, ws, hw, hstart, hread, _, hclause, hrest⟩ :=
      hr.elements hrs hf (lt_inBrackets _ _ _) (o := "]") (t :: us) (by decide)
    simp only [inBrackets, commas_cons, cons_append, append_assoc, nil_append, hw]
    rw [atom_square hstart]
    obtain ⟨⟨u, vs, hts, hu, _⟩, _⟩ := hstart
    rw [hts] at hread ⊢
    refine (bind_ok (acceptOp_no (hu "]" (by decide)))).trans ?_
    refine after hread ?_
    refine after hclause ?_
    simp only [Bool.and_false]
    refine after hrest ?_
    exact bind_ok (expectOp_yes (by simp))

/-- The tokens of a tuple inside its brackets: one element has a comma after it. -/
def tupleTokens : List (List Token) → List Token
  | [ts] => ts ++ [.op ","]
  | tss => commas tss

theorem round (h : Reads test ts e) : Reads atom (inBrackets "(" ts ")") e := by
  refine ofAtom (begins_inBrackets (h.begins.unmarked prefix_rfl) (by decide)) h.value fun s hf t us _ => ?_
  obtain ⟨w, ws, hw, helem⟩ := h.elements .nil hf (lt_inBrackets ts "(" ")") (o := ")") (t :: us) (by decide)
  obtain ⟨rfl, rfl⟩ := cons.inj hw
  simp only [inBrackets, cons_append, append_assoc, nil_append]
  rw [atom_round helem.starts, helem.inRound]
  have hv := h.value
  cases e <;> first | exact hv.elim | rfl

theorem tuple_one (h : Reads test ts e) : Reads atom (inBrackets "(" (ts ++ [.op ","]) ")") (.tuple [e]) := by
  refine ofAtom (begins_inBrackets (h.begins.unmarked (prefix_append _ _)) (by decide)) trivial fun s hf t us _ => ?_
  have hlt := Nat.lt_of_le_of_lt (prefix_append ts [.op ","]).length_le (lt_inBrackets _ "(" ")")
  have hi := h.isItem hf hlt (o := ")") (by decide)
  have helem : Elements s ")" (t :: us) (ts ++ .op "," :: .op ")" :: t :: us) e [] (.op ",") (.op ")" :: t :: us) :=
    ⟨h.starts (by decide), hi.reads _ _ (.inl rfl), .inl rfl, rfl, rfl⟩
  simp only [inBrackets, cons_append, append_assoc, nil_append]
  rw [atom_round helem.starts, helem.inRound]
  rfl

theorem tuple_more (hr : Reads test ts e) (hr' : Reads test us i) (hrs : Forall₂ (Reads test) tss es) :
    Reads atom (inBrackets "(" (commas (ts :: us :: tss)) ")") (.tuple (e :: i :: es)) := by
  have hall : Forall₂ (Reads test) (us :: tss) (i :: es) := .cons hr' hrs
  refine ofAtom (begins_inBrackets (commas_unmarked (.cons hr hall)) (by decide)) trivial fun s hf t vs _ => ?_
  obtain ⟨w, ws, hw, helem⟩ := hr.elements hall hf (lt_inBrackets _ _ _) (o := ")") (t :: vs) (by decide)
  simp only [inBrackets, commas_cons ts, cons_append, append_assoc, nil_append, hw]
  obtain ⟨rfl, _⟩ := cons.inj hw
  rw [atom_round helem.starts, helem.inRound]
  rfl

theorem tuple (h : Forall₂ (Reads test) tss es) : Reads atom (inBrackets "(" (tupleTokens tss) ")") (.tuple es) := by
  cases h with
  | nil =>
    exact ofAtom (begins_inBrackets .nil (by decide)) trivial fun _ _ _ _ _ => rfl
  | @cons ts e tss es hr hrs =>
    cases hrs with
    | nil => exact hr.tuple_one
    | cons hr' hrs => exact hr.tuple_more hr' hrs

theorem set (h : Forall₂ (Reads test) tss es) (hne : tss ≠ []) :
    Reads atom (inBrackets "\x7b" (commas tss) "\x7d") (.set es) := by
  refine ofAtom (begins_inBrackets (commas_unmarked h) (by decide)) trivial fun s hf t us _ => ?_
  cases h with
  | nil => exact absurd rfl hne
  | cons hr hrs =>
    obtain ⟨w, ws, hw, hstart, hread, hend, hclause, hrest⟩ :=
      hr.elements hrs hf (lt_inBrackets _ _ _) (o := "\x7d") (t :: us) (by decide)
    have hcolon : w.isOp ":" = false := by rcases hend with rfl | rfl <;> decide
    simp only [inBrackets, commas_cons, cons_append, append_assoc, nil_append, hw]
    rw [atom_curly hstart]
    obtain ⟨⟨u, vs, hts, hu, _, hn⟩, _⟩ := hstart
    rw [hts] at hread ⊢
    refine after (acceptOp_no (hu "\x7d" (by decide))) ?_
    refine after (acceptOp_no (hu "**" (by decide))) ?_
    refine after (atNameThen_no hn) ?_
    refine after hread ?_
    refine after atOp_cons ?_
    rw [hcolon, Bool.and_false, if_neg Bool.false_ne_true]
    refine after hclause ?_
    simp only [Bool.and_false]
    refine after hrest ?_
    exact bind_ok (expectOp_yes (by simp))

end Reads

inductive ReadsEntry : List Token → Expr × Expr → Prop where
  | pair {ts us k v} (hk : Reads test ts k) (hv : Reads test us v) :
    ReadsEntry (ts ++ .op ":" :: us) (k, v)
  | spread {us v} (hv : Reads .bitOr us v) : ReadsEntry (.op "**" :: us) (.absent, v)

section Tables

variable {p : Expr × Expr} {ps : List (Expr × Expr)}

theorem ReadsEntry.isItem (h : ReadsEntry ts p) (hf : Fits s c) (hlen : ts.length < c) :
    IsItem s.tableEntry (atOp "\x7d") (.op "\x7d") ts p := by
  cases h with
  | @pair ts us k v hk hv =>
    rw [length_append, length_cons] at hlen
    obtain ⟨u, vs, hts, ho, _⟩ := hk.first
    refine ⟨by simp, fun t ws ht => ?_, fun ws => ?_⟩
    · have hs := strength_comma ht (by decide)
      have hkey := hk.expression hf (by omega) (.op ":") (us ++ t :: ws) (by decide)
      have hval := hv.expression hf (by omega) t ws hs
      rw [append_assoc, cons_append]
      rw [hts] at hkey ⊢
      refine after (acceptOp_no (ho "**" (by decide))) ?_
      refine after hkey ?_
      refine after (expectOp_yes (by simp)) ?_
      exact bind_ok hval
    · rw [hts, append_assoc, cons_append, atOp_cons, ho "\x7d" (by decide)]
  | @spread us v hv =>
    rw [length_cons] at hlen
    refine ⟨by simp, fun t ws ht => ?_, fun ws => rfl⟩
    have hs := strength_comma ht (by decide)
    have hval := hv.bitOr hf (by omega) t ws (Nat.lt_trans hs (by decide))
    refine after (acceptOp_yes (by simp)) ?_
    exact bind_ok hval

theorem moreEntries_ok (h : Forall₂ (IsItem s.tableEntry (atOp "\x7d") (.op "\x7d")) tss ps)
    (hlimit : tss.length ≤ s.limit) (t : Token) (us : List Token) :
    s.moreEntries p (commaRest tss ++ .op "\x7d" :: t :: us) =
    .ok (.dict (p.1 :: ps.map (·.1)) (p.2 :: ps.map (·.2)), t :: us) := by
  refine after (moreItems_ok h rfl hlimit _) ?_
  exact bind_ok (expectOp_yes (by simp))

theorem ReadsEntry.unmarked (h : ReadsEntry ts p) (us : List Token) : Unmarked (ts ++ us) := by
  cases h with
  | pair hk _ =>
    rw [append_assoc]
    exact hk.begins.unmarked (prefix_append _ _)
  | spread hv => exact .cons

theorem Reads.dict (h : Forall₂ ReadsEntry tss ps) : Reads atom (inBrackets "\x7b" (commas tss) "\x7d")
      (.dict (ps.map (·.1)) (ps.map (·.2))) := by
  refine ofAtom (begins_inBrackets ?_ (by decide)) trivial fun s hf t us _ => ?_
  · cases h with
    | nil => exact .nil
    | cons hr _ =>
      rw [commas_cons]
      exact hr.unmarked _
  · have hlen := lt_inBrackets (commas tss) "\x7b" "\x7d"
    have hitems := isItems_of h (fun _ _ hr hl => hr.isItem hf hl) hlen
    have hlimit := length_lt_limit hitems hf hlen
    simp only [inBrackets, cons_append, append_assoc, nil_append]
    generalize (inBrackets "\x7b" (commas tss) "\x7d").length = c at hf hlen
    cases h with
    | nil => rfl
    | @cons ts p tss ps hr _ =>
      have hrest := moreEntries_ok (p := p) (forall₂_cons.mp hitems).2 (Nat.le_of_succ_le (Nat.le_of_lt hlimit)) t us
      obtain ⟨w, ws, hw, hend⟩ := @commaRest_append tss (.op "\x7d") (t :: us)
      rw [commas_cons, append_assoc]
      rw [commas_cons] at hlen
      cases hr with
      | @pair ts us' k v hk hv =>
        have hs := strength_comma hend (by decide)
        have hstart : Starts (ts ++ .op ":" :: (us' ++ w :: ws)) := hk.starts (by decide)
        simp only [length_append, length_cons] at hlen
        have hkey := hk.expression hf (by omega) (.op ":") (us' ++ w :: ws) (by decide)
        have hval := hv.expression hf (by omega) w ws hs
        have hclause : Sub.atClause (w :: ws) = .ok (false, w :: ws) := by rcases hend with rfl | rfl <;> rfl
        rw [hw] at hrest
        simp only [append_assoc, cons_append, hw]
        rw [atom_curly hstart]
        rw [← Sub.starNamed_eq hstart.1] at hkey
        obtain ⟨⟨u, vs, hts, hu, _, hn⟩, _⟩ := hstart
        obtain ⟨u', vs', hus, _⟩ := hv.first
        rw [hts] at hkey ⊢
        refine after (acceptOp_no (hu "\x7d" (by decide))) ?_
        refine after (acceptOp_no (hu "**" (by decide))) ?_
        refine after (atNameThen_no hn) ?_
        refine after hkey ?_
        refine after atOp_cons ?_
        rw [hus] at hval ⊢
        -- the key is no starred expression, so the colon is taken
        have hgo := (bind_ok (f := fun v => do
          if ← Sub.atClause then
            let cs ← s.clauses
            expectOp "\x7d"
            return .dictComp k v cs
          else s.moreEntries (k, v)) hval).trans ((bind_ok hclause).trans hrest)
        have hkv := hk.value
        clear hkey hk hitems hrest
        cases k <;> first | exact hkv.elim | exact hgo
      | @spread us' v hv =>
        have hs := strength_comma hend (by decide)
        simp only [length_append, length_cons] at hlen
        have hval := hv.bitOr hf (by omega) w ws (Nat.lt_trans hs (by decide))
        rw [hw] at hrest ⊢
        obtain ⟨u', vs', hus, _⟩ := hv.begins
        rw [hus] at hval ⊢
        show s.inCurly (.op "**" :: (u' :: vs' ++ w :: ws)) = _
        refine after (acceptOp_no rfl) ?_
        refine after (acceptOp_yes (by simp)) ?_
        refine after hval ?_
        exact hrest

end Tables

/-! ## 4. Attributes, calls and subscripts -/

/-- What stands between the brackets of a call, argument by argument. -/
inductive ReadsArg : List Token → Expr → Prop where
  | value {ts v} (h : Reads test ts v) : ReadsArg ts v
  | keyword {ts v} (x : Ident) (h : Reads test ts v) :
    ReadsArg (.name x.word :: .op "=" :: ts) (.keyword (some x.word) v)
  | spread {ts v} (h : Reads test ts v) : ReadsArg (.op "**" :: ts) (.keyword .none v)

/-- The tokens of a part that may be absent. -/
def ReadsOptional (ts : List Token) (e : Expr) : Prop := (ts = [] ∧ e = .absent) ∨ Reads test ts e

inductive ReadsIndex : List Token → Expr → Prop where
  | value {ts v} (h : Reads test ts v) : ReadsIndex ts v
  | slice {ts us l u} (hl : ReadsOptional ts l) (hu : ReadsOptional us u) :
    ReadsIndex (ts ++ .op ":" :: us) (.slice l u .absent)
  | stepped {ts us vs l u s} (hl : ReadsOptional ts l) (hu : ReadsOptional us u)
      (hs : ReadsOptional vs s) : ReadsIndex (ts ++ .op ":" :: (us ++ .op ":" :: vs)) (.slice l u s)

theorem ReadsArg.isItem (h : ReadsArg ts e) (hf : Fits s c) (hlen : ts.length < c) :
    IsItem s.argument (atOp ")") (.op ")") ts e := by
  cases h with
  | value h =>
    obtain ⟨u, vs, hts, ho, _⟩ := h.first
    refine ⟨by simp [hts], fun t ws ht => ?_, fun ws => ?_⟩
    · have hs := strength_comma ht (by decide)
      rw [Sub.argument_eq (h.begins.leads (Nat.lt_trans hs (by decide)))]
      exact h.expression hf hlen t ws hs
    · rw [hts, cons_append, atOp_cons, ho ")" (by decide)]
  | @keyword ts e x h =>
    rw [length_cons, length_cons] at hlen
    refine ⟨by simp, fun t ws ht => ?_, fun ws => rfl⟩
    have hs := strength_comma ht (by decide)
    have hval := h.expression hf (by omega) t ws hs
    have hthen : atNameThen "=" (.name x.word :: .op "=" :: (ts ++ t :: ws)) =
      .ok (true, .name x.word :: .op "=" :: (ts ++ t :: ws)) := by
      show Except.ok (!reserved.contains x.word && "=" == "=", _) = _
      rw [x.notReserved]
      rfl
    obtain ⟨u, vs, rfl, _⟩ := h.first
    refine after (acceptOp_no rfl) ?_
    refine after (acceptOp_no rfl) ?_
    refine after hthen ?_
    refine after name_cons ?_
    refine after (rfl : advance (.op "=" :: (u :: vs ++ t :: ws)) = .ok ((), _)) ?_
    exact bind_ok hval
  | @spread ts e h =>
    rw [length_cons] at hlen
    refine ⟨by simp, fun t ws ht => ?_, fun ws => rfl⟩
    have hs := strength_comma ht (by decide)
    have hval := h.expression hf (by omega) t ws hs
    refine after (acceptOp_no rfl) ?_
    refine after (acceptOp_yes (by simp)) ?_
    exact bind_ok hval

theorem bound_ok (h : ReadsOptional ts e) (hf : Fits s c) (hlen : ts.length < c) (ho : o ∈ [":", ",", "]"])
    (us : List Token) : s.bound (ts ++ .op o :: us) = .ok (e, .op o :: us) := by
  have hstrength : ∀ o ∈ [":", ",", "]"], (op o).strength < test := by decide
  rcases h with ⟨rfl, rfl⟩ | h
  · refine after peek_cons ?_
    simp only [contains_iff_mem.mpr ho]
    rfl
  · have hr := h.expression hf hlen (.op o) us (hstrength o ho)
    obtain ⟨u, vs, hts, hfirst, _⟩ := h.first
    rw [hts] at hr ⊢
    refine after peek_cons ?_
    cases u with
    | op p =>
      have hp : [":", ",", "]"].contains p = false := by
        refine Bool.eq_false_iff.mpr fun hc => ?_
        have hall : ∀ q ∈ [":", ",", "]"], q ∈ neverFirst := by decide
        have := hfirst p (hall p (contains_iff_mem.mp hc))
        simp [isOp] at this
      simp only [hp]
      exact hr
    | _ => exact hr

theorem lower_ok (h : ReadsOptional ts e) (hf : Fits s c) (hlen : ts.length < c)
    (ht : t.strength < test) (hcolon : ts = [] → t = .op ":") (us : List Token) :
    (do if ← atOp ":" then return .absent else s.expression : Reader Expr) (ts ++ t :: us) =
      .ok (e, t :: us) := by
  rcases h with ⟨rfl, rfl⟩ | h
  · rw [hcolon rfl]
    rfl
  · have hr := h.expression hf hlen t us ht
    obtain ⟨u, vs, hts, hfirst, _⟩ := h.first
    rw [hts] at hr ⊢
    refine after atOp_cons ?_
    rw [hfirst ":" (by decide)]
    exact hr

theorem ReadsOptional.leads (h : ReadsOptional ts e) (us : List Token) : ∃ u vs, ts ++ .op ":" :: us = u :: vs ∧
    u.isOp "*" = false ∧ u.isOp "]" = false ∧ atNameThen ":=" (u :: vs) = .ok (false, u :: vs) := by
  rcases h with ⟨rfl, rfl⟩ | h
  · exact ⟨.op ":", us, rfl, rfl, rfl, rfl⟩
  · have hl : Leads (ts ++ .op ":" :: us) := h.begins.leads (by decide)
    obtain ⟨u, vs, hts, ho, _, hn⟩ := hl
    exact ⟨u, vs, hts, ho "*" (by decide), ho "]" (by decide), atNameThen_no hn⟩

theorem sliceItem_ok {xs ys zs : List Token} {u st : Expr} (h : ReadsOptional ts e) (hf : Fits s c)
  (hlen : ts.length < c)
    (hxs : xs ≠ []) (hup : s.bound xs = .ok (u, ys))
    (hstep : (do if ← acceptOp ":" then s.bound else return .absent : Reader Expr) ys = .ok (st, zs)) :
    s.sliceItem (ts ++ .op ":" :: xs) = .ok (.slice e u st, zs) := by
  have hlow := lower_ok h hf hlen (t := .op ":") (by decide) (fun _ => rfl) xs
  obtain ⟨v, vs, hts, hstar, _, hname⟩ := h.leads xs
  rw [hts] at hlow ⊢
  refine after (acceptOp_no hstar) ?_
  refine after hname ?_
  refine after hlow ?_
  refine after (acceptOp_yes hxs) ?_
  refine after hup ?_
  exact bind_ok hstep

theorem ReadsIndex.isItem (h : ReadsIndex ts e) (hf : Fits s c) (hlen : ts.length < c) :
    IsItem s.sliceItem (atOp "]") (.op "]") ts e := by
  have hmark :
    ∀ {t : Token}, t = .op "," ∨ t = .op "]" → ∃ o, t = .op o ∧ o ∈ [":", ",", "]"] ∧ (op o).isOp ":" = false := by
    rintro t (rfl | rfl)
    · exact ⟨",", rfl, by decide, by decide⟩
    · exact ⟨"]", rfl, by decide, by decide⟩
  cases h with
  | value h =>
    have hne : ts ≠ [] := by
      obtain ⟨u, vs, rfl, _⟩ := h.first
      simp
    refine ⟨hne, fun t ws ht => ?_, fun ws => ?_⟩
    · have hs := strength_comma ht (by decide)
      have hr := lower_ok (.inr h) hf hlen hs (fun e => absurd e hne) ws
      have hl : Leads (ts ++ t :: ws) := h.begins.leads (Nat.lt_trans hs (by decide))
      obtain ⟨u, vs, hts, ho, _, hn⟩ := hl
      obtain ⟨o, rfl, _, hcolon⟩ := hmark ht
      rw [hts] at hr ⊢
      refine after (acceptOp_no (ho "*" (by decide))) ?_
      refine after (atNameThen_no hn) ?_
      refine after hr ?_
      exact bind_ok (acceptOp_no hcolon)
    · obtain ⟨u, vs, hts, ho, _⟩ := h.first
      rw [hts, cons_append, atOp_cons, ho "]" (by decide)]
  | @slice ts us l u hl hu =>
    rw [length_append, length_cons] at hlen
    refine ⟨by simp, fun t ws ht => ?_, fun ws => ?_⟩
    · obtain ⟨o, rfl, ho, hcolon⟩ := hmark ht
      rw [append_assoc, cons_append]
      exact sliceItem_ok hl hf (by omega) (by simp) (bound_ok hu hf (by omega) ho ws) (bind_ok (acceptOp_no hcolon))
    · obtain ⟨v, vs, hts, _, hclose, _⟩ := hl.leads (us ++ ws)
      rw [append_assoc, cons_append, hts, atOp_cons, hclose]
  | @stepped ts us vs l u st hl hu hst =>
    simp only [length_append, length_cons] at hlen
    refine ⟨by simp, fun t ws ht => ?_, fun ws => ?_⟩
    · obtain ⟨o, rfl, ho, _⟩ := hmark ht
      have hup := bound_ok hu hf (by omega) (o := ":") (by decide) (vs ++ .op o :: ws)
      simp only [append_assoc, cons_append]
      exact sliceItem_ok hl hf (by omega)
        (by simp) hup (after (acceptOp_yes (by simp)) (bound_ok hst hf (by omega) ho ws))
    · obtain ⟨v, vs', hts, _, hclose, _⟩ := hl.leads (us ++ .op ":" :: (vs ++ ws))
      simp only [append_assoc, cons_append]
      rw [hts, atOp_cons, hclose]

theorem ReadsIndex.isValue (h : ReadsIndex ts e) : IsValue e := by
  cases h with
  | value h => exact h.value
  | slice | stepped => trivial

theorem argumentsInOrder_keywords (hks : ∀ k ∈ ks, Sub.isKeyword k = true) (seen spread : Bool) :
    Sub.argumentsInOrder seen spread ks = true := by
  induction ks generalizing seen spread with
  | nil => rfl
  | cons k ks ih =>
    have hk := hks k mem_cons_self
    have ih := ih fun k' hk' => hks k' (mem_cons_of_mem _ hk')
    cases k with
    | keyword x v => cases x <;> exact ih _ _
    | _ => cases hk

theorem argumentsInOrder_append (has : ∀ a ∈ as, IsValue a) (hks : ∀ k ∈ ks, Sub.isKeyword k = true) :
    Sub.argumentsInOrder false false (as ++ ks) = true := by
  induction as with
  | nil => exact argumentsInOrder_keywords hks _ _
  | cons a as ih =>
    have ha := has a mem_cons_self
    have ih := ih fun a' ha' => has a' (mem_cons_of_mem _ ha')
    cases a <;> first | exact ha.elim | exact ih

theorem isKeyword_of_isValue (h : IsValue e) : Sub.isKeyword e = false := by cases e <;> first | exact h.elim | rfl

theorem arguments_all (h : Forall₂ (IsItem s.argument (atOp ")") (.op ")")) tss (as ++ ks)) (hlimit : tss.length ≤
      s.limit) (has : ∀ a ∈ as, IsValue a) (hks : ∀ k ∈ ks, Sub.isKeyword k = true) (t : Token) (us : List Token) :
    s.arguments true (commas tss ++ .op ")" :: t :: us) = .ok ((as, ks), t :: us) := by
  have hpos : (as ++ ks).filter (!Sub.isKeyword ·) = as := by
    rw [filter_append, filter_eq_self.mpr, filter_eq_nil_iff.mpr, append_nil]
    · exact fun k hk => by simp [hks k hk]
    · exact fun a ha => by simp [isKeyword_of_isValue (has a ha)]
  have hkey : (as ++ ks).filter Sub.isKeyword = ks := by
    rw [filter_append, filter_eq_nil_iff.mpr, filter_eq_self.mpr, nil_append]
    · exact hks
    · exact fun a ha => by simp [isKeyword_of_isValue (has a ha)]
  have horder := argumentsInOrder_append has hks
  generalize as ++ ks = all at h hpos hkey horder
  cases h with
  | nil =>
    rw [← hpos, ← hkey]
    exact bind_ok (acceptOp_yes (by simp))
  | @cons ts a tss rest hi his =>
    obtain ⟨u, vs, hu⟩ := exists_cons_of_ne_nil hi.nonempty
    have hfirst := hi.goesOn []
    rw [hu, cons_append, atOp_cons] at hfirst
    rw [length_cons] at hlimit
    have hrest := moreItems_ok his rfl (n := s.limit) (by omega) (t :: us)
    obtain ⟨w, ws, hw, hend⟩ := @commaRest_append tss (.op ")") (t :: us)
    have hclause : Sub.atClause (w :: ws) = .ok (false, w :: ws) := by rcases hend with rfl | rfl <;> rfl
    have hread := hi.reads w ws hend
    rw [hw] at hrest
    rw [commas_cons, append_assoc, hw]
    rw [hu] at hread ⊢
    refine after (acceptOp_no (by simpa using hfirst)) ?_
    refine after hread ?_
    refine after hclause ?_
    refine after hrest ?_
    refine after (expectOp_yes (by simp)) ?_
    rw [horder, hpos, hkey]
    rfl

namespace Reads

theorem trailer (h : Reads atom ts e) (hv : IsValue e') (ho : (op o).strength = atom)
    (htrail : ∀ s, Fits s (ts ++ .op o :: us).length → ∀ m t vs, t.strength ≤ atom →
      s.trailers (m + 1) e (.op o :: (us ++ t :: vs)) = s.trailers m e' (t :: vs)) :
    Reads atom (ts ++ .op o :: us) e' := by
  have hlt : (op o).strength < Level.never := by
    rw [ho]
    decide
  refine ⟨h.begins.append (.cons (isOp_of_strength hlt (by decide)) (isOp_of_strength hlt (by decide))), hv,
    fun s hf => ?_⟩
  · obtain ⟨j, hj, hread⟩ := h.readsBy s (hf.mono (by simp))
    refine ⟨j + 1, by simp; omega, fun m t vs ht => ?_⟩
    have := hread (m + 1) (.op o) (us ++ t :: vs) (Nat.le_of_eq ho)
    rw [append_assoc, cons_append, Nat.add_comm j 1, ← Nat.add_assoc]
    rw [this]
    exact htrail s hf m t vs ht

theorem call (h : Reads atom ts e) (hargs : Forall₂ ReadsArg tss (as ++ ks)) (has : ∀ a ∈ as, IsValue a)
    (hks : ∀ k ∈ ks, Sub.isKeyword k = true) : Reads atom (ts ++ inBrackets "(" (commas tss) ")") (.call e as ks) := by
  refine h.trailer trivial (by decide) fun s hf m t vs _ => ?_
  have hlen : (commas tss).length < (ts ++ inBrackets "(" (commas tss) ")").length := by
    simp [inBrackets]
    omega
  have hitems := isItems_of hargs (fun _ _ hr hl => hr.isItem hf hl) hlen
  have hlimit := length_lt_limit hitems hf hlen
  have hread := arguments_all hitems (Nat.le_of_lt hlimit) has hks t vs
  rw [append_assoc, cons_append, nil_append]
  refine after (acceptOp_no rfl) ?_
  refine after (acceptOp_yes (by simp)) ?_
  exact bind_ok hread

theorem subscript_of (h : Reads atom ts e) (hi : ∀ s, Fits s (ts ++ inBrackets "[" us "]").length → ∀ t vs,
      s.slices (us ++ .op "]" :: t :: vs) = .ok (i, t :: vs)) :
    Reads atom (ts ++ inBrackets "[" us "]") (.subscript e i) := by
  refine h.trailer trivial (by decide) fun s hf m t vs _ => ?_
  have hread := hi s hf t vs
  rw [append_assoc, cons_append, nil_append]
  refine after (acceptOp_no rfl) ?_
  refine after (acceptOp_no rfl) ?_
  refine after (acceptOp_yes (by simp)) ?_
  exact bind_ok hread

theorem subscript (h : Reads atom ts e) (hi : ReadsIndex us i) :
    Reads atom (ts ++ inBrackets "[" us "]") (.subscript e i) := by
  refine h.subscript_of fun s hf t vs => ?_
  have hitem := hi.isItem hf (by simp [inBrackets]; omega)
  have hitems := commaItems_ok (.cons hitem .nil) (by simp) rfl (n := s.limit)
    (by have := hf.long; simp at this ⊢; omega) (t :: vs)
  refine after hitems ?_
  refine after (expectOp_yes (by simp)) ?_
  have hv := hi.isValue
  cases i <;> first | exact hv.elim | rfl

theorem subscript_one (h : Reads atom ts e) (hi : ReadsIndex us i) :
    Reads atom (ts ++ inBrackets "[" (us ++ [.op ","]) "]") (.subscript e (.tuple [i])) := by
  refine h.subscript_of fun s hf t vs => ?_
  have hitem := hi.isItem hf (by simp [inBrackets]; omega)
  obtain ⟨k, hk⟩ : ∃ k, s.limit = k + 1 := ⟨s.limit - 1, by have := hf.long; omega⟩
  have hread := hitem.reads (.op ",") (.op "]" :: t :: vs) (.inl rfl)
  have hitems : commaItems (atOp "]") s.sliceItem s.limit (us ++ .op "," :: .op "]" :: t :: vs) =
      .ok (([i], true), .op "]" :: t :: vs) := by
    rw [hk]
    refine after hread ?_
    exact bind_ok (acceptOp_yes (by simp))
  rw [append_assoc, cons_append, nil_append]
  refine after hitems ?_
  refine after (expectOp_yes (by simp)) ?_
  cases i <;> rfl

theorem subscript_more (h : Reads atom ts e) (hes : Forall₂ ReadsIndex tss es) (hmore : 2 ≤ es.length) :
    Reads atom (ts ++ inBrackets "[" (commas tss) "]") (.subscript e (.tuple es)) := by
  refine h.subscript_of fun s hf t vs => ?_
  have hlen : (commas tss).length < (ts ++ inBrackets "[" (commas tss) "]").length := by
    simp [inBrackets]
    omega
  have hitems := isItems_of hes (fun _ _ hr hl => hr.isItem hf hl) hlen
  have hne : tss ≠ [] := by
    rintro rfl
    cases hes
    simp at hmore
  have hall := commaItems_ok hitems hne rfl (n := s.limit) (Nat.le_of_lt (length_lt_limit hitems hf hlen)) (t :: vs)
  refine after hall ?_
  refine after (expectOp_yes (by simp)) ?_
  match es with
  | [] => simp at hmore
  | [_] => simp at hmore
  | a :: _ :: _ => cases a <;> rfl

theorem subscript_tuple (h : Reads atom ts e) (hes : Forall₂ ReadsIndex tss es) (hne : es ≠ []) :
    Reads atom (ts ++ inBrackets "[" (tupleTokens tss) "]") (.subscript e (.tuple es)) := by
  cases hes with
  | nil => exact absurd rfl hne
  | cons hr hrs =>
    cases hrs with
    | nil => exact h.subscript_one hr
    | cons hr' hrs => exact h.subscript_more (.cons hr (.cons hr' hrs)) (by simp)

theorem attr (h : Reads atom ts e) (x : Ident) : Reads atom (ts ++ [.op ".", .name x.word]) (.attr e x.word) := by
  refine h.trailer trivial (by decide) fun s _ m t vs _ => ?_
  refine after (acceptOp_yes (by simp)) ?_
  exact bind_ok name_cons

end Reads

end PuzzlePrograms.Source
