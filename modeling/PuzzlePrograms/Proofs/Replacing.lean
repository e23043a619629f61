import PuzzlePrograms.Library.Abstraction
import PuzzlePrograms.Proofs.TreeText

/-!
# Replacing a word in the text of a tree

`replaceName` replaces a word in a text by four passes, each for one kind of delimiters around the word: a blank and a
closing bracket, an opening bracket and a blank, and twice two blanks, since two words in a row share a blank.

A text is a list of cells, each a delimiter and the word after it. On cells a pass is `sweep`: it goes from cell to
cell, and a cell after one that is replaced is passed over. `swap` replaces all cells between delimiters that `P`
allows.

* `sweep_eq_swap`: with two different delimiters no cell is lost;
* `sweep_sweep`: with two blanks a second pass finds what the first has passed over;
* **`replaceName_line`**: replacing a word in the text of a program replaces it in the program.
-/

namespace PuzzlePrograms

open Text PuzzlePrograms.Tree
open List hiding replace count

variable {P : Char → Option Char → Prop} {cs : List Cell}

/-! ## 1. Trees in place of words -/

mutual

/-- A tree in place of every occurrence of a word. -/
def Tree.subst (name : String) (u : Tree) : Tree → Tree
  | .word w => if w = name then u else .word w
  | .scalar x => .scalar x
  | .node ts => .node (substAll name u ts)

def Tree.substAll (name : String) (u : Tree) : List Tree → List Tree
  | [] => []
  | t :: ts => .subst name u t :: substAll name u ts

end

theorem Tree.subst_node (name : String) (u : Tree) (ts : List Tree) :
    subst name u (.node ts) = .node (ts.map (subst name u)) := by
  have h : substAll name u ts = ts.map (subst name u) := by
    induction ts with
    | nil => rfl
    | cons t ts ih => rw [substAll, ih, map_cons]
  rw [subst, h]

/-- A text that is not empty and holds neither blanks nor brackets. -/
def IsAtom (w : String) : Prop := w.toList ≠ [] ∧ ∀ c ∈ w.toList, ¬Ends [c]

instance (c : Char) : Decidable (Ends [c]) := inferInstanceAs (Decidable (c = ' ' ∨ c = '(' ∨ c = ')'))

instance (w : String) : Decidable (IsAtom w) := @instDecidableAnd _ _ inferInstance (decidableBAll _ _)

/-- A tree of atoms in which every list has two elements or more. -/
inductive IsProgram : Tree → Prop where
  | atom {w : String} (h : IsAtom w) : IsProgram (.word w)
  | list {t u : Tree} {ts : List Tree} (h : ∀ v ∈ t :: u :: ts, IsProgram v) : IsProgram (.node (t :: u :: ts))

/-! ## 2. Cells -/

abbrev Cell := Char × List Char

variable {xs : List Cell}

def cellText (cs : List Cell) : List Char := cs.flatMap fun c => c.1 :: c.2

def nextMark (cs : List Cell) : Option Char := cs.head?.map (·.1)

/-- A delimiter and a word without delimiters. -/
def IsCell (c : Cell) : Prop := Ends [c.1] ∧ ∀ x ∈ c.2, ¬Ends [x]

mutual

/-- The cells of a tree after a delimiter. -/
def Tree.cells (d : Char) : Tree → List Cell
  | .word w => [(d, w.toList)]
  | .scalar x => [(d, x.text.toList)]
  | .node [] => [(d, []), ('(', []), (')', [])]
  | .node (t :: ts) => (d, []) :: (t.cells '(' ++ allCells ts ++ [(')', [])])

/-- The cells of trees, each after a blank. -/
def Tree.allCells : List Tree → List Cell
  | [] => []
  | t :: ts => t.cells ' ' ++ allCells ts

end

theorem allCells_eq (ts : List Tree) : allCells ts = ts.flatMap (cells ' ') := by
  induction ts with
  | nil => rfl
  | cons t ts ih => rw [allCells, ih, flatMap_cons]

theorem cellText_append (xs ys : List Cell) : cellText (xs ++ ys) = cellText xs ++ cellText ys := flatMap_append

theorem cellText_cells (t : Tree) : ∀ d, cellText (t.cells d) = d :: t.line.toList := by
  induction t using byNodes with
  | word | scalar => intro d; simp [cells, cellText, line]
  | node ts ih =>
    intro d
    cases ts with
    | nil => rfl
    | cons t ts =>
      have hrest : ∀ us : List Tree, (∀ u ∈ us, ∀ d, cellText (u.cells d) = d :: u.line.toList) → ∀ s : String,
          s.toList ++ cellText (allCells us) = (String.intercalate " " (s :: us.map line)).toList := by
        intro us hus
        induction us with
        | nil => simp [allCells, cellText]
        | cons u us ihu =>
          intro s
          rw [allCells, cellText_append, hus u mem_cons_self, map_cons, String.intercalate_cons_cons,
            String.toList_append, String.toList_append, ← ihu fun v hv => hus v (mem_cons_of_mem u hv)]
          simp
      have ht := ih t mem_cons_self '('
      have hts := hrest ts (fun u hu => ih u (mem_cons_of_mem t hu)) t.line
      have hcons : cellText ((d, []) :: (t.cells '(' ++ allCells ts ++ [(')', [])])) =
          d :: (cellText (t.cells '(') ++ cellText (allCells ts) ++ [')']) := by simp [cellText]
      rw [cells, hcons, ht, toList_line_node, map_cons, ← hts, cons_append]

theorem nextMark_cells (t : Tree) (d : Char) (cs : List Cell) : nextMark (t.cells d ++ cs) = some d := by
  cases t with
  | word | scalar => rfl
  | node ts => cases ts <;> rfl

theorem forall_cells {P : String → Prop} {Q : List Char → Prop} (hempty : Q []) (hQ : ∀ w, P w → Q w.toList) {t : Tree}
    (h : t.Words P) : ∀ d, ∀ c ∈ t.cells d, (c.1 = d ∨ Ends [c.1]) ∧ Q c.2 := by
  induction h with
  | word hw => exact fun d => forall_mem_singleton.mpr ⟨.inl rfl, hQ _ hw⟩
  | @node ts _ ih =>
    intro d
    have hmark : ∀ e x, Ends [e] → x = e ∨ Ends [x] → x = d ∨ Ends [x] := by
      rintro e x he (rfl | hx)
      · exact .inr he
      · exact .inr hx
    cases ts with
    | nil => simp [cells, hempty, Ends]
    | cons t ts =>
      rw [cells, allCells_eq, forall_mem_cons, forall_mem_append, forall_mem_append, forall_mem_singleton,
        forall_mem_flatMap]
      refine ⟨⟨.inl rfl, hempty⟩, ⟨fun c hc => ?_, fun u hu c hc => ?_⟩, .inr (ends_close []), hempty⟩
      · exact (ih t mem_cons_self _ c hc).imp_left (hmark _ _ (.inr (.inl rfl)))
      · exact (ih u (mem_cons_of_mem t hu) _ c hc).imp_left (hmark _ _ (ends_blank []))

/-- A word and a delimiter stand at the start of a text just if they are its first word and what follows it. -/
theorem prefix_word_mark {p w r : List Char} {b : Char} (hb : Ends [b]) (hp : ∀ c ∈ p, ¬Ends [c])
    (hw : ∀ c ∈ w, ¬Ends [c]) (hr : Ends r) : p ++ [b] <+: w ++ r ↔ p = w ∧ [b] <+: r := by
  induction p generalizing w with
  | nil =>
    cases w with
    | nil => simp
    | cons c w =>
      have hc : b ≠ c := fun e => hw c mem_cons_self (e ▸ hb)
      simp [hc]
  | cons d p ih =>
    cases w with
    | nil =>
      cases r with
      | nil => simp
      | cons c r =>
        have hc : d ≠ c := fun e => hp d mem_cons_self (e ▸ hr)
        simp [hc]
    | cons c w =>
      have := ih (fun e he => hp e (mem_cons_of_mem d he)) fun e he => hw e (mem_cons_of_mem c he)
      rw [cons_append, cons_append, cons_prefix_cons, this, cons.injEq, and_assoc]

/-! ## 3. Passes over cells -/

section Passes

variable {name : List Char} {u : Tree} {a b : Char} {cs : List Cell}

/-- The cells after a pass that replaces the word between the delimiters `a` and `b`; a cell whose delimiter has been
    taken with the cell before it is `blocked`. -/
def sweep (name : List Char) (u : Tree) (a b : Char) : Bool → List Cell → List Cell
  | _, [] => []
  | blocked, c :: cs =>
    if !blocked ∧ c = (a, name) ∧ nextMark cs = some b then u.cells a ++ sweep name u a b true cs
    else c :: sweep name u a b false cs

/-- The cells with the word replaced between the delimiters that `P` allows. -/
def swap (name : List Char) (u : Tree) (P : Char → Option Char → Prop) [∀ d e, Decidable (P d e)] :
  List Cell → List Cell
  | [] => []
  | c :: cs => (if c.2 = name ∧ P c.1 (nextMark cs) then u.cells c.1 else [c]) ++ swap name u P cs

theorem cellText_ends (h : ∀ c ∈ cs, IsCell c) : Ends (cellText cs) := by
  cases cs with
  | nil => trivial
  | cons c cs => exact (h c mem_cons_self).1

theorem nextMark_eq_some (b : Char) (cs : List Cell) : nextMark cs = some b ↔ [b] <+: cellText cs := by
  cases cs with
  | nil => simp [nextMark, cellText]
  | cons c cs => simp [nextMark, cellText, eq_comm]

/-- The word between two delimiters stands at the start of cells just if the first cell is this word and the second
    delimiter follows it. -/
theorem due_iff (hb : Ends [b]) (hname : ∀ c ∈ name, ¬Ends [c]) {c : Cell} (h : ∀ d ∈ c :: cs, IsCell d) :
    (a :: (name ++ [b])).isPrefixOf (cellText (c :: cs)) = true ↔ c = (a, name) ∧ nextMark cs = some b := by
  obtain ⟨hc, hcs⟩ := forall_mem_cons.mp h
  have htext : cellText (c :: cs) = c.1 :: (c.2 ++ cellText cs) := by simp [cellText]
  rw [htext, isPrefixOf_iff_prefix, cons_prefix_cons, prefix_word_mark hb hname hc.2 (cellText_ends hcs),
    nextMark_eq_some, ← and_assoc, Prod.ext_iff]
  simp [eq_comm]

theorem replaceChars_skip (old new cs r : List Char) :
    replaceChars old new cs.length (cs ++ r) = replaceChars old new 0 r := by
  induction cs with
  | nil => rfl
  | cons c cs ih => exact ih

theorem replaceChars_self {old : List Char} (h : old ≠ []) (new r : List Char) :
    replaceChars old new 0 (old ++ r) = new ++ replaceChars old new 0 r := by
  cases old with
  | nil => exact absurd rfl h
  | cons c cs =>
    rw [cons_append, replaceChars, if_pos (by simp), length_cons, Nat.add_sub_cancel, replaceChars_skip]

/-- **A pass over the text is a pass over its cells.** -/
theorem replaceChars_cells (ha : Ends [a]) (hb : Ends [b]) (hname : ∀ c ∈ name, ¬Ends [c]) (h : ∀ c ∈ cs, IsCell c) :
    replaceChars (a :: (name ++ [b])) (a :: (u.line.toList ++ [b])) 0 (cellText cs) =
    cellText (sweep name u a b false cs) := by
  let G := replaceChars (a :: (name ++ [b])) (a :: (u.line.toList ++ [b])) 0
  have pass : ∀ c : Cell, IsCell c → ∀ r, G (c.2 ++ r) = c.2 ++ G r := fun c hc r =>
    (scan_append G).chars (fun x hx r => by
      have hne : a ≠ x := fun e => hc.2 x hx (e ▸ ha)
      show replaceChars _ _ 0 _ = _
      rw [replaceChars, if_neg (by simp [isPrefixOf, hne])]
      rfl) r
  -- after a cell that is replaced the text goes on behind the next delimiter
  have hboth : G (cellText cs) = cellText (sweep name u a b false cs) ∧ ∀ d w ds, cs = (d, w) :: ds →
      d :: G (w ++ cellText ds) = cellText (sweep name u a b true cs) := by
    induction cs with
    | nil => exact ⟨rfl, fun _ _ _ e => by cases e⟩
    | cons c cs ih =>
      obtain ⟨hfree, hblocked⟩ := ih (forall_mem_cons.mp h).2
      have htext : cellText (c :: cs) = c.1 :: (c.2 ++ cellText cs) := by simp [cellText]
      have hkeep : cellText (c :: sweep name u a b false cs) = c.1 :: (c.2 ++ G (cellText cs)) := by
        rw [hfree]
        simp [cellText]
      refine ⟨?_, ?_⟩
      · have hdue := due_iff (a := a) hb hname h
        by_cases hd : c = (a, name) ∧ nextMark cs = some b
        · obtain ⟨rfl, hnext⟩ := hd
          cases cs with
          | nil => cases hnext
          | cons d ds =>
            obtain ⟨e, w⟩ := d
            obtain rfl : e = b := Option.some.inj hnext
            have hself : G ((a :: (name ++ [e])) ++ (w ++ cellText ds)) = _ := replaceChars_self (by simp) _ _
            rw [sweep, if_pos ⟨rfl, rfl, hnext⟩, cellText_append, cellText_cells, ← hblocked e w ds rfl, htext]
            simpa [cellText] using hself
        · have hp : ¬(a :: (name ++ [b])).isPrefixOf (cellText (c :: cs)) = true := mt hdue.mp hd
          rw [htext] at hp ⊢
          show replaceChars _ _ 0 _ = _
          rw [replaceChars, if_neg hp, sweep, if_neg (by simpa using hd), hkeep, ← pass c (h c mem_cons_self)]
      · rintro d w ds e
        obtain ⟨rfl, rfl⟩ := cons.inj e
        rw [sweep, if_neg (by simp), hkeep, ← pass _ (h _ mem_cons_self)]
  exact hboth.1

theorem sweep_clean (h : ∀ c ∈ xs, c.2 ≠ name) (hne : xs ≠ []) (blocked : Bool) :
    sweep name u a b blocked (xs ++ cs) = xs ++ sweep name u a b false cs := by
  have hkeep :
    ∀ c : Cell, c.2 ≠ name → ∀ blocked ds, sweep name u a b blocked (c :: ds) = c :: sweep name u a b false ds := by
    intro c hc blocked ds
    rw [sweep, if_neg]
    rintro ⟨-, rfl, -⟩
    exact hc rfl
  induction xs generalizing blocked with
  | nil => exact absurd rfl hne
  | cons c xs ih =>
    obtain ⟨hc, hxs⟩ := forall_mem_cons.mp h
    rw [cons_append, hkeep c hc]
    cases xs with
    | nil => rfl
    | cons d xs => exact congrArg (c :: ·) (ih hxs (by simp) false)

theorem swap_clean [∀ d e, Decidable (P d e)] (h : ∀ c ∈ xs, c.2 ≠ name) :
    swap name u P (xs ++ cs) = xs ++ swap name u P cs := by
  induction xs with
  | nil => rfl
  | cons c xs ih =>
    obtain ⟨hc, hxs⟩ := forall_mem_cons.mp h
    rw [cons_append, swap, if_neg fun hd => hc hd.1, ih hxs]
    rfl

theorem cells_ne_nil (t : Tree) (d : Char) : t.cells d ≠ [] := fun h => by
  have := nextMark_cells t d []
  rw [h] at this
  cases this

theorem nextMark_swap (P : Char → Option Char → Prop) [∀ d e, Decidable (P d e)] (cs : List Cell) :
    nextMark (swap name u P cs) = nextMark cs := by
  cases cs with
  | nil => rfl
  | cons c cs =>
    rw [swap]
    split
    · exact nextMark_cells u c.1 _
    · rfl

theorem nextMark_sweep (blocked : Bool) (cs : List Cell) : nextMark (sweep name u a b blocked cs) = nextMark cs := by
  cases cs with
  | nil => rfl
  | cons c cs =>
    rw [sweep]
    split
    · rename_i h
      rw [nextMark_cells, h.2.1]
      rfl
    · rfl

abbrev Between (a b d : Char) (e : Option Char) : Prop := d = a ∧ e = some b

theorem sweep_eq_swap (hab : a ≠ b) (blocked : Bool) (cs : List Cell)
    (h : blocked = true → nextMark cs ≠ some a) : sweep name u a b blocked cs = swap name u (Between a b) cs := by
  induction cs generalizing blocked with
  | nil => rfl
  | cons c cs ih =>
    rw [sweep, swap]
    by_cases hd : c = (a, name) ∧ nextMark cs = some b
    · obtain ⟨rfl, hnext⟩ := hd
      have hfree : blocked = false := Bool.eq_false_iff.mpr fun hb => h hb rfl
      rw [if_pos ⟨by simp [hfree], rfl, hnext⟩, if_pos ⟨rfl, rfl, hnext⟩, ih true fun _ => by
        rw [hnext]; simp [hab.symm]]
    · have hd' : ¬(c.2 = name ∧ Between a b c.1 (nextMark cs)) := fun hb => hd ⟨Prod.ext hb.2.1 hb.1, hb.2.2⟩
      rw [if_neg fun hb => hd hb.2, if_neg hd', ih false (by simp)]
      rfl

/-- **Two passes with one delimiter on both sides replace the word everywhere between two of them.** Of two cells in a
    row the first pass replaces one, and no pass is blocked where the other one is. -/
theorem sweep_sweep (hu : ∀ d, ∀ c ∈ u.cells d, c.2 ≠ name) (cs : List Cell) : ∀ first second : Bool,
    (first && second) = false → sweep name u a a second (sweep name u a a first cs) = swap name u (Between a a) cs := by
  induction cs with
  | nil => exact fun _ _ _ => rfl
  | cons c cs ih =>
    intro first second hfree
    by_cases hd : c = (a, name) ∧ nextMark cs = some a
    · obtain ⟨rfl, hnext⟩ := hd
      rw [swap, if_pos ⟨rfl, rfl, hnext⟩]
      cases first with
      | false =>
        rw [sweep, if_pos ⟨rfl, rfl, hnext⟩, sweep_clean (hu a) (cells_ne_nil u a), ih true false rfl]
      | true =>
        obtain rfl : second = false := hfree
        rw [sweep, if_neg (by simp), sweep, if_pos ⟨rfl, rfl, (nextMark_sweep _ _).trans hnext⟩, ih false true rfl]
    · have hkeep : ∀ (blocked : Bool) ds, nextMark ds = nextMark cs →
          sweep name u a a blocked (c :: ds) = c :: sweep name u a a false ds := fun blocked ds hds => by
        rw [sweep, if_neg fun h => hd (hds ▸ h.2)]
      have hd' : ¬(c.2 = name ∧ Between a a c.1 (nextMark cs)) := fun hb => hd ⟨Prod.ext hb.2.1 hb.1, hb.2.2⟩
      rw [hkeep first cs rfl, hkeep second _ (nextMark_sweep _ _), ih false false rfl, swap, if_neg hd']
      rfl

theorem swap_swap {Q : Char → Option Char → Prop} [∀ d e, Decidable (P d e)] [∀ d e, Decidable (Q d e)]
    (hu : ∀ d, ∀ c ∈ u.cells d, c.2 ≠ name) (cs : List Cell) :
    swap name u Q (swap name u P cs) = swap name u (fun d e => P d e ∨ Q d e) cs := by
  induction cs with
  | nil => rfl
  | cons c cs ih =>
    rw [swap, swap]
    by_cases hp : c.2 = name ∧ P c.1 (nextMark cs)
    · rw [if_pos hp, if_pos ⟨hp.1, .inl hp.2⟩, swap_clean (hu c.1), ih]
    · rw [if_neg hp, singleton_append, swap, nextMark_swap, ih]
      have hq : (c.2 = name ∧ Q c.1 (nextMark cs)) ↔ (c.2 = name ∧ (P c.1 (nextMark cs) ∨ Q c.1 (nextMark cs))) :=
        ⟨fun h => ⟨h.1, .inr h.2⟩, fun h => ⟨h.1, h.2.resolve_left fun h' => hp ⟨h.1, h'⟩⟩⟩
      simp [hq]

theorem isCell_sweep {n : List Char} (hu : ∀ d, Ends [d] → ∀ c ∈ u.cells d, IsCell c) (h : ∀ c ∈ cs, IsCell c)
    (blocked : Bool) : ∀ c ∈ sweep n u a b blocked cs, IsCell c := by
  induction cs generalizing blocked with
  | nil => exact h
  | cons c cs ih =>
    obtain ⟨hc, hcs⟩ := forall_mem_cons.mp h
    rw [sweep]
    split
    · rename_i hd
      obtain rfl := hd.2.1
      exact forall_mem_append.mpr ⟨hu a hc.1, ih hcs true⟩
    · exact forall_mem_cons.mpr ⟨hc, ih hcs false⟩

/-- Every occurrence of the word stands between delimiters that `P` allows. -/
def Framed (name : List Char) (P : Char → Option Char → Prop) : List Cell → Prop
  | [] => True
  | c :: cs => (c.2 = name → P c.1 (nextMark cs)) ∧ Framed name P cs

theorem swap_framed [∀ d e, Decidable (P d e)] (h : Framed name P cs) :
    swap name u P cs = swap name u (fun _ _ => True) cs := by
  induction cs with
  | nil => rfl
  | cons c cs ih =>
    have hc : (c.2 = name ∧ P c.1 (nextMark cs)) ↔ (c.2 = name ∧ True) :=
      ⟨fun hb => ⟨hb.1, trivial⟩, fun hb => ⟨hb.1, h.1 hb.1⟩⟩
    simp [swap, hc, ih h.2]

theorem countChars_clean (ha : Ends [a]) (hb : Ends [b]) (hname : ∀ c ∈ name, ¬Ends [c])
    (h : ∀ c ∈ cs, IsCell c ∧ c.2 ≠ name) : countChars (a :: (name ++ [b])) 0 (cellText cs) = 0 := by
  induction cs with
  | nil => rfl
  | cons c cs ih =>
    have hp : ¬(a :: (name ++ [b])).isPrefixOf (cellText (c :: cs)) = true := fun hp => by
      obtain ⟨rfl, -⟩ := (due_iff hb hname fun d hd => (h d hd).1).mp hp
      exact (h _ mem_cons_self).2 rfl
    have hscan : Scan (countChars (a :: (name ++ [b])) 0) fun _ n => n := ⟨fun _ => rfl, fun _ _ _ => rfl⟩
    have hword := hscan.chars (w := c.2) (fun x hx r => ?_) (cellText cs)
    · rw [show cellText (c :: cs) = c.1 :: (c.2 ++ cellText cs) by simp [cellText]] at hp ⊢
      rw [countChars, if_neg hp, hword, ih fun d hd => h d (mem_cons_of_mem c hd)]
    · have hne : a ≠ x := fun e => (h c mem_cons_self).1.2 x hx (e ▸ ha)
      rw [countChars, if_neg (by simp [isPrefixOf, hne])]

end Passes

/-! ## 4. Programs -/

section Programs

variable {name : String} {t u : Tree}

theorem IsProgram.words (ht : IsProgram t) : t.Words IsAtom := by
  induction ht with
  | atom hw => exact .word hw
  | list _ ih => exact .node ih

def OtherAtom (name w : String) : Prop := IsAtom w ∧ w ≠ name

theorem words_subst (ht : IsProgram t) (hu : u.Words (OtherAtom name)) : (subst name u t).Words (OtherAtom name) := by
  induction ht with
  | @atom w hw =>
    rw [subst]
    split
    · exact hu
    · exact .word ⟨hw, ‹_›⟩
  | list _ ih =>
    rw [subst_node]
    exact .node (forall_mem_map.mpr ih)

/-- The cells with the word replaced everywhere. -/
abbrev swapAll (name : String) (u : Tree) : List Cell → List Cell := swap name.toList u fun _ _ => True

theorem swapAll_cells (hname : name.toList ≠ []) (ht : IsProgram t) :
    ∀ d cs, swapAll name u (t.cells d ++ cs) = (subst name u t).cells d ++ swapAll name u cs := by
  have hempty : ∀ d cs, swapAll name u ((d, []) :: cs) = (d, []) :: swapAll name u cs := fun d cs => by
    rw [swapAll, swap, if_neg fun h => hname h.1.symm]
    rfl
  induction ht with
  | @atom w hw =>
    intro d cs
    by_cases hw : w = name
    · simp [swapAll, cells, swap, subst, hw]
    · simp [swapAll, cells, swap, subst, hw, mt String.toList_injective hw]
  | @list t v ts _ ih =>
    intro d cs
    have hall : ∀ us : List Tree, (∀ v ∈ us, ∀ d cs, swapAll name u (v.cells d ++ cs) =
        (subst name u v).cells d ++ swapAll name u cs) → ∀ cs,
        swapAll name u (us.flatMap (cells ' ') ++ cs) = (us.map (subst name u)).flatMap (cells ' ') ++
          swapAll name u cs := by
      intro us hus cs
      induction us with
      | nil => rfl
      | cons v us ihu =>
        rw [map_cons, flatMap_cons, flatMap_cons, append_assoc, hus v mem_cons_self,
          append_assoc, ihu fun w hw => hus w (mem_cons_of_mem v hw)]
    rw [subst_node, map_cons, cells, cells, allCells_eq, allCells_eq]
    simp only [cons_append, append_assoc, nil_append, hempty, ih t mem_cons_self,
      hall (v :: ts) fun w hw => ih w (mem_cons_of_mem t hw)]

/-- The delimiters around an element of a list. -/
abbrev InList (d : Char) (e : Option Char) : Prop := Between ' ' ')' d e ∨ Between '(' ' ' d e ∨ Between ' ' ' ' d e

theorem framed_cells (hname : name.toList ≠ []) (ht : IsProgram t) :
    ∀ d cs, (∀ w, t = .word w → InList d (nextMark cs)) → Framed name.toList InList cs →
    Framed name.toList InList (t.cells d ++ cs) := by
  induction ht with
  | atom => exact fun d cs hd hcs => ⟨fun _ => hd _ rfl, hcs⟩
  | @list t v ts _ ih =>
    intro d cs _ hcs
    have hclosed : Framed name.toList InList ((')', []) :: cs) := ⟨fun h => absurd h.symm hname, hcs⟩
    have hrest : ∀ us : List Tree, (∀ v ∈ us, ∀ d cs, (∀ w, v = .word w → InList d (nextMark cs)) →
        Framed name.toList InList cs → Framed name.toList InList (v.cells d ++ cs)) →
        Framed name.toList InList (us.flatMap (cells ' ') ++ (')', []) :: cs) := by
      intro us hus
      induction us with
      | nil => exact hclosed
      | cons v us ihu =>
        rw [flatMap_cons, append_assoc]
        refine hus v mem_cons_self _ _ (fun _ _ => ?_) (ihu fun w hw => hus w (mem_cons_of_mem v hw))
        cases us with
        | nil => exact .inl ⟨rfl, rfl⟩
        | cons w us => exact .inr (.inr ⟨rfl, by rw [flatMap_cons, append_assoc, nextMark_cells]⟩)
    have hargs := hrest (v :: ts) fun w hw => ih w (mem_cons_of_mem t hw)
    rw [cells, allCells_eq]
    simp only [cons_append, append_assoc, nil_append]
    refine ⟨fun h => absurd h.symm hname, ih t mem_cons_self _ _ (fun _ _ => .inr (.inl ⟨rfl, ?_⟩)) hargs⟩
    rw [flatMap_cons, append_assoc, nextMark_cells]

theorem isCell_cells (ht : t.Words IsAtom) {d : Char} (hd : Ends [d]) : ∀ c ∈ t.cells d, IsCell c := by
  intro c hc
  obtain ⟨hmark, hword⟩ := forall_cells (Q := fun w => ∀ x ∈ w, ¬Ends [x]) (by simp) (fun w hw => hw.2) ht d c hc
  exact ⟨hmark.elim (fun e => e ▸ hd) id, hword⟩

theorem clean_cells (hname : IsAtom name) (ht : t.Words (OtherAtom name)) (d : Char) :
    ∀ c ∈ t.cells d, c.2 ≠ name.toList :=
  fun c hc =>
    (forall_cells (Q := (· ≠ name.toList)) hname.1.symm (fun _ hw => mt String.toList_injective hw.2) ht d c hc).2

theorem replace_sweep {a b : Char} {s old new : String} (ha : Ends [a] ∧ a ≠ ')') (hb : Ends [b]) (hname : IsAtom name)
    (hold : old.toList = a :: (name.toList ++ [b])) (hnew : new.toList = a :: (u.line.toList ++ [b]))
    (hcs : ∀ c ∈ cs, IsCell c) (hs : cellText cs = ')' :: s.toList) :
    cellText (sweep name.toList u a b false cs) = ')' :: (replace s old new).toList := by
  rw [← replaceChars_cells ha.1 hb hname.2 hcs, hs, replaceChars, if_neg (by simp [isPrefixOf, ha.2])]
  simp [replace, hold, hnew]

theorem not_occurs_line {a b : Char} {sub : String} (ha : Ends [a] ∧ a ≠ ')') (hb : Ends [b]) (hname : IsAtom name)
    (hsub : sub.toList = a :: (name.toList ++ [b])) (ht : t.Words (OtherAtom name)) : occurs sub t.line = false := by
  have hcount := countChars_clean ha.1 hb hname.2 fun c hc =>
    ⟨isCell_cells (ht.imp fun _ => .left) (ends_close []) c hc, clean_cells hname ht _ c hc⟩
  rw [cellText_cells, countChars, if_neg (by simp [isPrefixOf, ha.2])] at hcount
  simp [occurs, count, hsub, hcount, bne_self_eq_false]

theorem not_outside_line (hname : IsAtom name) (ht : t.Words (OtherAtom name)) :
    starts t.line (name ++ " ") = false ∧ ends t.line (" " ++ name) = false ∧ (t.line == name) = false := by
  cases ht with
  | @word w hw =>
    have hblank : ' ' ∉ w.toList := fun h => hw.1.2 _ h (ends_blank [])
    refine ⟨Bool.eq_false_iff.mpr fun h => hblank ?_,
      Bool.eq_false_iff.mpr fun h => hblank ?_, by simpa [line] using hw.2⟩
    · have hpre := isPrefixOf_iff_prefix.mp h
      exact hpre.subset (by simp)
    · exact (isSuffixOf_iff_suffix.mp h).subset (by simp)
  | @node ts h =>
    obtain ⟨c, cs, hc⟩ := exists_cons_of_ne_nil hname.1
    have hopen : c ≠ '(' := fun e => hname.2 c (by simp [hc]) (e ▸ .inr (.inl rfl))
    have hclose : ')' ∉ name.toList := fun h => hname.2 _ h (ends_close [])
    have hline := toList_line_node ts
    refine ⟨Bool.eq_false_iff.mpr fun h => ?_, Bool.eq_false_iff.mpr fun h => ?_, Bool.eq_false_iff.mpr fun h => ?_⟩
    · have := isPrefixOf_iff_prefix.mp h
      simp [hline, hc, hopen] at this
    · have h := reverse_prefix.mpr (isSuffixOf_iff_suffix.mp h)
      obtain ⟨d, ds, hd⟩ := exists_cons_of_ne_nil (mt reverse_eq_nil_iff.mp hname.1)
      have hlast : d ≠ ')' := fun e => hclose (e ▸ mem_reverse.mp (hd ▸ mem_cons_self))
      simp [hline, hd, hlast] at h
    · rw [← eq_of_beq h, hline] at hclose
      simp at hclose

/-- The four passes over the cells of a text. -/
abbrev sweepAll (name : List Char) (u : Tree) (cs : List Cell) : List Cell :=
  sweep name u ' ' ' ' false (sweep name u ' ' ' ' false (sweep name u '(' ' ' false (sweep name u ' ' ')' false cs)))

theorem sweepAll_cells (ht : IsProgram t) (hlist : ∀ w, t ≠ .word w) (hname : IsAtom name)
    (hu : u.Words (OtherAtom name)) : sweepAll name.toList u (t.cells ')') = (subst name u t).cells ')' := by
  have hclean := clean_cells hname hu
  have hframed := framed_cells hname.1 ht ')' [] (fun w hw => absurd hw (hlist w)) trivial
  rw [append_nil] at hframed
  have hall := swapAll_cells (u := u) hname.1 ht ')' []
  rw [sweepAll, sweep_sweep hclean _ false false rfl, sweep_eq_swap (by decide) false _ (by simp),
    sweep_eq_swap (by decide) false _ (by simp), swap_swap hclean, swap_swap hclean, swap_framed hframed]
  simpa [swapAll, swap] using hall

theorem sweepAll_line (ht : IsProgram t) (hname : IsAtom name) (hu : u.Words (OtherAtom name)) :
    cellText (sweepAll name.toList u (t.cells ')')) =
      ')' :: (replace (replace (replace (replace t.line (" " ++ name ++ ")") (" " ++ u.line ++ ")"))
        ("(" ++ name ++ " ") ("(" ++ u.line ++ " ")) (" " ++ name ++ " ") (" " ++ u.line ++ " "))
        (" " ++ name ++ " ") (" " ++ u.line ++ " ")).toList := by
  have hcell : ∀ d, Ends [d] → ∀ c ∈ u.cells d, IsCell c := fun d hd => isCell_cells (hu.imp fun _ => .left) hd
  have hblank : Ends [' '] ∧ ' ' ≠ ')' := ⟨ends_blank [], by decide⟩
  have hopen : Ends ['('] ∧ '(' ≠ ')' := ⟨.inr (.inl rfl), by decide⟩
  have hc0 := isCell_cells ht.words (ends_close [])
  have hc1 := isCell_sweep (n := name.toList) (a := ' ') (b := ')') hcell hc0 false
  have hc2 := isCell_sweep (n := name.toList) (a := '(') (b := ' ') hcell hc1 false
  have hc3 := isCell_sweep (n := name.toList) (a := ' ') (b := ' ') hcell hc2 false
  refine replace_sweep hblank hblank.1 hname (by simp) (by simp) hc3 ?_
  refine replace_sweep hblank hblank.1 hname (by simp) (by simp) hc2 ?_
  refine replace_sweep hopen hblank.1 hname (by simp) (by simp) hc1 ?_
  exact replace_sweep hblank (ends_close []) hname (by simp) (by simp) hc0 (cellText_cells t ')')

/-- **Replacing a word in the text of a program replaces it in the program.** -/
theorem replaceName_line (ht : IsProgram t) (hname : IsAtom name) (hu : u.Words (OtherAtom name)) :
    Library.replaceName t.line name u.line = .ok (subst name u t).line := by
  have hr := words_subst ht hu
  obtain ⟨hstarts, hends, hne⟩ := not_outside_line hname hr
  have hblank : Ends [' '] ∧ ' ' ≠ ')' := ⟨ends_blank [], by decide⟩
  have hleft : (starts (subst name u t).line (name ++ " ") || ends (subst name u t).line (" " ++ name)
      || occurs (" " ++ name ++ " ") (subst name u t).line || occurs ("(" ++ name ++ " ") (subst name u t).line
      || occurs (" " ++ name ++ ")") (subst name u t).line || (subst name u t).line == name) = false := by
    rw [hstarts, hends, hne, not_occurs_line hblank hblank.1 hname (by simp) hr,
      not_occurs_line ⟨.inr (.inl rfl), by decide⟩ hblank.1 hname (by simp) hr,
        not_occurs_line hblank (ends_close []) hname (by simp) hr]
    rfl
  have hfinal : ∀ s : String, cellText (sweepAll name.toList u (t.cells ')')) = ')' :: s.toList →
      (if s == name then u.line else s) = (subst name u t).line := by
    intro s hs
    by_cases hlist : ∀ w, t ≠ .word w
    · rw [sweepAll_cells ht hlist hname hu, cellText_cells] at hs
      rw [← String.toList_injective (cons.inj hs).2, hne]
      rfl
    · simp only [ne_eq, Classical.not_forall, Classical.not_not] at hlist
      obtain ⟨w, rfl⟩ := hlist
      obtain rfl : w = s := String.toList_injective (by simpa [sweepAll, sweep, cells, cellText] using hs)
      by_cases hw : w = name <;> simp [subst, hw, line]
  unfold Library.replaceName
  simp only [hfinal _ (sweepAll_line ht hname hu), hleft]
  rfl

/-- A row of the word at the head of a list, in the middle and at its end, beside a longer one. -/
theorem replaceName_line_row :
    Library.replaceName "(f f f f (f2 f))" "f" "(g x)" = .ok "((g x) (g x) (g x) (g x) (f2 (g x)))" := by
  have hatom : ∀ w ∈ ["f", "f2", "g", "x"], IsAtom w := by decide
  have f : IsProgram (.word "f") := .atom (hatom _ (by simp))
  have ht : IsProgram (.node [.word "f", .word "f", .word "f", .word "f", .node [.word "f2", .word "f"]]) :=
    .list (by simpa using ⟨f, .list (by simpa using ⟨.atom (hatom _ (by simp)), f⟩)⟩)
  have hu : (node [.word "g", .word "x"]).Words (OtherAtom "f") :=
    .node (by simpa using ⟨.word ⟨hatom _ (by simp), by decide⟩, .word ⟨hatom _ (by simp), by decide⟩⟩)
  have h := replaceName_line ht (hatom _ (by simp)) hu
  simpa [line, lines, subst, substAll] using h

end Programs

end PuzzlePrograms
