import PuzzlePrograms.Proofs.TreeText

/-!
# Terms without names

What a program with indices denotes: `lam` binds, an index counts the functions between a variable and
the one that binds it, and elements that stand beside each other are applied.

* `Nameless` are these terms, `Nameless.text` writes one with every application in one list;
* `Nameless.read?` reads a text as a term;
* `read?_text`: reading what was written gives the term back.
-/

namespace PuzzlePrograms

namespace Text

variable {c : Char} {ts : List Tree}

/-! ## 1. Numbers in decimal digits -/

theorem digit_le (h : c.isDigit = true) : 48 ≤ c.toNat ∧ c.toNat ≤ 57 := by
  simp only [Char.isDigit, Bool.and_eq_true, decide_eq_true_eq] at h
  exact ⟨h.1, h.2⟩

theorem digit_lt (h : c.isDigit = true) : c.toNat < 128 := by
  have := digit_le h
  omega

theorem digit_small (h : c.isDigit = true) : c.toNat < 128 ∧ c.isUpper = false := by
  refine ⟨digit_lt h, Bool.eq_false_iff.mpr fun hu => ?_⟩
  have hb := digit_le h
  have hA : 65 ≤ c.toNat := (of_decide_eq_true hu).1
  omega

theorem decimal?_digit (h : c.isDigit = true) : decimal? c = some (c.toNat - 48) := by simp [decimal?, digit_lt h, h]

theorem digit_ne_underscore (h : c.isDigit = true) : c ≠ '_' := by
  rintro rfl
  exact absurd h (by decide)

theorem digitsFrom?_digits (ds : List Char) (h : ∀ c ∈ ds, c.isDigit = true) (n : Nat) :
    digitsFrom? n ds = some (Nat.ofDigitChars 10 ds n) := by
  induction ds generalizing n with
  | nil => simp [digitsFrom?]
  | cons c ds ih =>
    have hc := h c (by simp)
    have hne := digit_ne_underscore hc
    have hds : ∀ d ∈ ds, d.isDigit = true := fun d hd => h d (by simp [hd])
    rw [digitsFrom?.eq_3 n c ds (by intro _ _ e; exact absurd e hne), decimal?_digit hc]
    simp only [Option.bind_some]
    rw [ih hds, Nat.ofDigitChars_cons]
    rfl

theorem isDigit_toDigits {n : Nat} {c : Char} (h : c ∈ Nat.toDigits 10 n) : c.isDigit = true :=
  Nat.isDigit_of_mem_toDigits (by decide) (by decide) h

theorem unsigned?_toDigits (n : Nat) : unsigned? (Nat.toDigits 10 n) = some n := by
  have hd : ∀ c ∈ Nat.toDigits 10 n, c.isDigit = true := fun _ => isDigit_toDigits
  have hn := Nat.ofDigitChars_ten_toDigits (n := n)
  cases hl : Nat.toDigits 10 n with
  | nil => exact absurd hl Nat.toDigits_ne_nil
  | cons c cs =>
    rw [hl] at hd hn
    have hc := hd c (by simp)
    rw [unsigned?, decimal?_digit hc, Option.bind_some, digitsFrom?_digits cs fun d hm => hd d (by simp [hm])]
    rw [Nat.ofDigitChars_cons] at hn
    simpa using hn

theorem digit_wordly (h : c.isDigit = true) : isBlank c = false ∧ c ≠ '(' ∧ c ≠ ')' := by
  have h1 := digit_le h
  refine ⟨?_, ?_, ?_⟩
  · simp only [isBlank, Bool.or_eq_false_iff, Bool.and_eq_false_iff, decide_eq_false_iff_not, beq_eq_false_iff_ne]
    omega
  all_goals
    rintro rfl
    exact absurd h (by decide)

end Text

namespace Indexed

open List Text

/-! ## 2. Terms and their text -/

/-- A term without names. An atom is a word that is no index. -/
inductive Nameless where
  | index (i : Nat)
  | atom (w : String)
  | lam (b : Nameless)
  | app (f a : Nameless)
  deriving DecidableEq, Repr

variable {d : Nameless}

def indexText (i : Nat) : String := "$" ++ toString i

theorem indexText_toList (i : Nat) : (indexText i).toList = '$' :: Nat.toDigits 10 i := by
  simp [indexText, show "$".toList = ['$'] from rfl]

/-- Trees that stand beside each other as one tree. -/
def grouped : List Tree → Tree
  | [t] => t
  | ts => .node ts

theorem wordly_grouped (h : ∀ t ∈ ts, t.Wordly) : (grouped ts).Wordly := by
  match ts, h with
  | [], h => exact .node h
  | [t], h => exact h t (by simp)
  | _ :: _ :: _, h => exact .node h

theorem grouped_snoc (h : ts ≠ []) (t : Tree) : grouped (ts ++ [t]) = .node (ts ++ [t]) := by
  match ts, h with
  | [_], _ => rfl
  | _ :: _ :: _, _ => rfl

namespace Nameless

/-- The elements of the list that a term is written as: a function and its arguments. -/
def pieces : Nameless → List Tree
  | .index i => [.word (indexText i)]
  | .atom w => [.word w]
  | .lam b => [.node [.word "lam", grouped b.pieces]]
  | .app f a => f.pieces ++ [grouped a.pieces]

/-- A term as a tree, every application in one list. -/
def tree (d : Nameless) : Tree := grouped d.pieces

def text (d : Nameless) : String := d.tree.line

theorem pieces_ne_nil (d : Nameless) : d.pieces ≠ [] := by cases d <;> simp [pieces]

@[simp] theorem tree_index (i : Nat) : (index i).tree = .word (indexText i) := rfl

@[simp] theorem tree_atom (w : String) : (atom w).tree = .word w := rfl

@[simp] theorem tree_lam (b : Nameless) : (lam b).tree = .node [.word "lam", b.tree] := rfl

@[simp] theorem tree_app (f a : Nameless) : (app f a).tree = .node (f.pieces ++ [a.tree]) :=
  grouped_snoc (pieces_ne_nil f) a.tree

/-- The free variables of a term without names: the indices that count beyond its functions. -/
def free (depth : Nat) : Nameless → List Nat
  | .index i => if depth ≤ i then [i - depth] else []
  | .atom _ => []
  | .lam b => b.free (depth + 1)
  | .app f a => f.free depth ++ a.free depth

/-! ## 3. Reading a text as a term -/

/-- A word as a term: an index after its sign, or an atom. -/
def ofWord (w : String) : Option Nameless :=
  match w.toList with
  | '$' :: ds => (unsigned? ds).map .index
  | _ => some (.atom w)

mutual

/-- A tree as a term. Only a list of two binds with `lam`, and no other list starts with it. -/
def ofTree : Tree → Option Nameless
  | .word w => ofWord w
  | .scalar _ => none
  | .node [.word "lam", b] => (ofTree b).map .lam
  | .node (.word "lam" :: _) => none
  | .node (f :: a :: as) =>
    match ofTree f, ofTrees (a :: as) with
    | some f, some as => some (as.foldl .app f)
    | _, _ => none
  | .node _ => none

def ofTrees : List Tree → Option (List Nameless)
  | [] => some []
  | t :: ts =>
    match ofTree t, ofTrees ts with
    | some d, some ds => some (d :: ds)
    | _, _ => none

end

def read? (s : String) : Option Nameless :=
  match Tree.read s with
  | .ok t => ofTree t
  | .error _ => none

/-- A term whose text reads back: its atoms are words that start with no sign of an index, and `lam` is
    not applied as an atom. -/
def Readable : Nameless → Prop
  | .index _ => True
  | .atom w => IsWord w ∧ w.toList.head? ≠ some '$'
  | .lam b => b.Readable
  | .app f a => f ≠ .atom "lam" ∧ f.Readable ∧ a.Readable

theorem isWord_indexText (i : Nat) : IsWord (indexText i) := by
  refine ⟨by simp [indexText_toList], ?_⟩
  intro c hc
  rw [indexText_toList, mem_cons] at hc
  rcases hc with rfl | hc
  · decide
  · exact digit_wordly (isDigit_toDigits hc)

theorem ofWord_indexText (i : Nat) : ofWord (indexText i) = some (.index i) := by
  simp [ofWord, indexText_toList, unsigned?_toDigits]

theorem ofWord_atom {w : String} (h : w.toList.head? ≠ some '$') : ofWord w = some (.atom w) := by
  unfold ofWord
  split
  · rename_i hl
    rw [hl] at h
    exact absurd rfl h
  · rfl

theorem isWord_lam : IsWord "lam" := ⟨by decide, forall_chars (by decide)⟩

theorem wordly_pieces {d : Nameless} (h : d.Readable) : ∀ t ∈ d.pieces, t.Wordly := by
  induction d with
  | index i =>
    intro t ht
    simp only [pieces, mem_singleton] at ht
    subst ht
    exact .word (isWord_indexText i)
  | atom w =>
    intro t ht
    simp only [pieces, mem_singleton] at ht
    subst ht
    exact .word h.1
  | lam b ih =>
    intro t ht
    simp only [pieces, mem_singleton] at ht
    subst ht
    refine .node fun u hu => ?_
    simp only [mem_cons, not_mem_nil, or_false] at hu
    rcases hu with rfl | rfl
    · exact .word isWord_lam
    · exact wordly_grouped (ih h)
  | app f a ihf iha =>
    intro t ht
    simp only [pieces, mem_append, mem_singleton] at ht
    rcases ht with ht | rfl
    · exact ihf h.2.1 t ht
    · exact wordly_grouped (iha h.2.2)

theorem wordly_tree {d : Nameless} (h : d.Readable) : d.tree.Wordly := wordly_grouped (wordly_pieces h)

theorem ofTrees_append {us : List Tree} {ds es : List Nameless} (ht : ofTrees ts = some ds)
    (hu : ofTrees us = some es) : ofTrees (ts ++ us) = some (ds ++ es) := by
  induction ts generalizing ds with
  | nil =>
    simp only [ofTrees, Option.some.injEq] at ht
    subst ht
    exact hu
  | cons t ts ih =>
    simp only [ofTrees] at ht
    split at ht
    · rename_i d ds' hd hds
      cases ht
      simp [ofTrees, hd, ih hds]
    · cases ht

theorem ofTree_list {p q : Tree} {ps : List Tree} {f : Nameless} {as : List Nameless}
    (hp : p ≠ .word "lam") (hf : ofTree p = some f) (has : ofTrees (q :: ps) = some as) :
    ofTree (.node (p :: q :: ps)) = some (as.foldl .app f) := by
  rw [ofTree.eq_5 p q ps (by rintro rfl; exact absurd rfl hp) (by rintro rfl; exact absurd rfl hp)]
  simp [hf, has]

theorem ofTree_pieces (h : d.Readable) : ofTree d.tree = some d ∧
    ∃ p ps f as, d.pieces = p :: ps ∧ ofTree p = some f ∧ ofTrees ps = some as ∧
      as.foldl .app f = d ∧ (p = .word "lam" → d = .atom "lam") := by
  induction d with
  | index i =>
    refine ⟨ofWord_indexText i, _, [], .index i, [], rfl, ofWord_indexText i, rfl, rfl, ?_⟩
    intro e
    have hl : (indexText i).toList = "lam".toList := by rw [Tree.word.inj e]
    simp [indexText_toList, show "lam".toList = ['l', 'a', 'm'] from rfl] at hl
  | atom w =>
    refine ⟨ofWord_atom h.2, _, [], .atom w, [], rfl, ofWord_atom h.2, rfl, rfl, ?_⟩
    intro e
    rw [Tree.word.inj e]
  | lam b ih =>
    have hb : ofTree (lam b).tree = some (lam b) := by
      rw [tree_lam, ofTree.eq_3, (ih h).1]
      rfl
    refine ⟨hb, _, [], .lam b, [], rfl, hb, rfl, rfl, ?_⟩
    intro e
    cases e
  | app f a ihf iha =>
    obtain ⟨hne, hf, ha⟩ := h
    obtain ⟨_, p, ps, g, as, hps, hp, has, hfold, hlam⟩ := ihf hf
    have hpl : p ≠ .word "lam" := fun e => hne (hlam e)
    have hone : ofTrees [a.tree] = some [a] := by simp [ofTrees, (iha ha).1]
    have hall : ofTrees (ps ++ [a.tree]) = some (as ++ [a]) := ofTrees_append has hone
    have hfold' : (as ++ [a]).foldl .app g = app f a := by
      rw [foldl_append, hfold]
      rfl
    have hpieces : (app f a).pieces = p :: (ps ++ [a.tree]) := by
      show f.pieces ++ [a.tree] = _
      rw [hps]
      rfl
    refine ⟨?_, p, ps ++ [a.tree], g, as ++ [a], hpieces, hp, hall, hfold', ?_⟩
    · rw [tree_app, hps]
      cases ps with
      | nil | cons => rw [← hfold']; exact ofTree_list hpl hp hall
    · intro e
      exact absurd e hpl

/-- **Reading the text of a term gives the term.** -/
theorem read?_text (h : d.Readable) : read? d.text = some d := by
  unfold read? text
  rw [Tree.read_line (wordly_tree h)]
  exact (ofTree_pieces h).1

end Nameless

end Indexed

end PuzzlePrograms
