import PuzzlePrograms.Indexed.ToNamed
import PuzzlePrograms.Proofs.Lowering
import PuzzlePrograms.Proofs.NamedText

/-!
# Programs with indices and the expressions written for them

* `Program` are the programs of atoms, indices, functions and applications, with the brackets that
  their text has, and `Program.text` is this text;
* `Program.HeadsPlain` says that what is applied holds no function and no index and does not start with
  the sign of a negative number;
* `Program.written` is the expression written for a program: every function has a variable of its own,
  and an index is the variable of the function it counts to;
* **`toNamed_text`**: it is what is answered for the text of a program in small letters;
* `Program.IsSpelled` says that a phrase is spelled as this expression, and
  `Program.IsSpelled.expression?` that it is then read just if its brackets are not too deep.
-/

namespace PuzzlePrograms.Indexed

open List Text PuzzlePrograms.Tree Source

variable {n i : Nat} {ts args : List Tree} {xs : List String} {x : String} {q : Phrase} {h : Tree}

/-! ## 1. Names for indices -/

/-- The variables of the functions around a place, the innermost first. -/
def fresh : Nat → List Nat
  | 0 => []
  | n + 1 => (101 + n) :: fresh n

/-- The variable for an index below `n` functions. -/
def freshVar (n i : Nat) : Nat := if i < n then 100 + n - i else i - n

/-- The names in scope below `n` functions. -/
def freshNames (n : Nat) : List String := (fresh n).map varName ++ freeNames 100

theorem length_fresh (n : Nat) : (fresh n).length = n := by
  induction n with
  | zero => rfl
  | succ n ih => rw [fresh, length_cons, ih]

theorem length_freshNames (n : Nat) : (freshNames n).length = n + 100 := by simp [freshNames, length_fresh, freeNames]

theorem freshVar_zero (n : Nat) : freshVar (n + 1) 0 = 101 + n := by
  rw [freshVar, if_pos (by omega)]
  omega

theorem freshVar_succ (n i : Nat) : freshVar (n + 1) (i + 1) = freshVar n i := by
  unfold freshVar
  by_cases hi : i < n
  · rw [if_pos (by omega), if_pos hi]
    omega
  · rw [if_neg (by omega), if_neg hi]
    omega

theorem position_freshVar (h : i < n + 100) : Named.position (fresh n) (freshVar n i) = i := by
  induction n generalizing i with
  | zero => rfl
  | succ n ih =>
    cases i with
    | zero => rw [freshVar_zero, fresh, Named.position, if_pos rfl]
    | succ i =>
      have hne : freshVar n i ≠ 101 + n := by
        unfold freshVar
        split <;> omega
      rw [freshVar_succ, fresh, Named.position, if_neg hne, ih (by omega)]

theorem getElem?_freshNames (h : i < n + 100) : (freshNames n)[i]? = some (varName (freshVar n i)) := by
  induction n generalizing i with
  | zero =>
    have hi : i < 100 := by omega
    simp [freshNames, fresh, freeNames, freshVar, hi, varName]
  | succ n ih =>
    have hs : freshNames (n + 1) = varName (101 + n) :: freshNames n := rfl
    rw [hs]
    cases i with
    | zero =>
      rw [freshVar_zero]
      rfl
    | succ i => rw [getElem?_cons_succ, ih (by omega), freshVar_succ]

theorem nameWord_indexText (h : i < n + 100) :
    nameWord {} (freshNames n) (indexText i) = .ok (.word (varName (freshVar n i))) := by
  have hstart : starts (indexText i) "$" = true := by
    rw [starts_iff, indexText_toList, show "$".toList = ['$'] from rfl]
    exact ⟨_, rfl⟩
  have hint : int? (dropFirst (indexText i) 1) = some (i : Int) := by
    rw [dropFirst, indexText_toList, drop_one, tail_cons, int?_toDigits]
  have helem : element? (freshNames n) (i : Int) = some (varName (freshVar n i)) := by
    rw [element?, if_pos (Int.natCast_nonneg i), Int.toNat_natCast, getElem?_freshNames h]
  unfold nameWord
  rw [if_pos hstart]
  simp only [hint, helem]
  rfl

/-! ## 2. Programs -/

/-- A program with the brackets of its text: a list holds what is applied and its arguments, and what is
    applied may be a list of its own. -/
inductive Program where
  | index (i : Nat)
  | atom (w : String)
  | lam (b : Program)
  | app (f a : Program)
  | group (p : Program)

variable {p : Program}

namespace Program

/-- The elements of the list that a program is written as. -/
def pieces : Program → List Tree
  | .index i => [.word (indexText i)]
  | .atom w => [.word w]
  | .lam b => [.node [.word "lam", grouped b.pieces]]
  | .app f a => f.pieces ++ [grouped a.pieces]
  | .group p => [grouped p.pieces]

def tree (p : Program) : Tree := grouped p.pieces

def text (p : Program) : String := p.tree.line

/-- The term that a program denotes, whatever its brackets. -/
def term : Program → Nameless
  | .index i => .index i
  | .atom w => .atom w
  | .lam b => .lam b.term
  | .app f a => .app f.term a.term
  | .group p => p.term

def lowered : Program → Program
  | .index i => .index i
  | .atom w => .atom (lower w)
  | .lam b => .lam b.lowered
  | .app f a => .app f.lowered a.lowered
  | .group p => .group p.lowered

/-- The expression written for a program below `n` functions. -/
def written (n : Nat) : Program → String
  | .index i => varName (freshVar n i)
  | .atom w => w
  | .lam b => "lambda " ++ varName (101 + n) ++ ": " ++ "(" ++ b.written (n + 1) ++ ")"
  | .app f a => f.written n ++ "(" ++ a.written n ++ ")"
  | .group p => p.written n

/-- How deep the brackets of the written expression nest. -/
def nesting : Program → Nat
  | .index _ | .atom _ => 0
  | .lam b => b.nesting + 1
  | .app f a => max f.nesting (a.nesting + 1)
  | .group p => p.nesting

/-- How many functions, applications and brackets of a program stand within one another. -/
def height : Program → Nat
  | .index _ | .atom _ => 0
  | .lam p | .group p => p.height + 1
  | .app f a => max f.height a.height + 1

/-- Every index of a program below `n` functions counts to one of them or to one of `m` names around. -/
def InScope (m n : Nat) : Program → Prop
  | .index i => i < n + m
  | .atom _ => True
  | .lam b => b.InScope m (n + 1)
  | .app f a => f.InScope m n ∧ a.InScope m n
  | .group p => p.InScope m n

/-- The element at the head of the list that a program is written as. -/
def lead : Program → Program
  | .app f _ => f.lead
  | p => p

/-- A program without functions and indices. -/
def Flat : Program → Prop
  | .index _ | .lam _ => False
  | .atom _ => True
  | .app f a => f.Flat ∧ a.Flat
  | .group p => p.Flat

/-- The word that the expression for a flat program starts with. -/
def front : Program → String
  | .atom w => w
  | .app f _ => f.front
  | .group p => p.front
  | _ => ""

/-- What is applied is flat and does not start with the sign of a negative number. -/
def HeadsPlain : Program → Prop
  | .index _ | .atom _ => True
  | .lam b => b.HeadsPlain
  | .app f a => f.lead.Flat ∧ starts f.front "-" = false ∧ f.HeadsPlain ∧ a.HeadsPlain
  | .group p => p.HeadsPlain

def atoms : Program → List String
  | .index _ => []
  | .atom w => [w]
  | .lam b => b.atoms
  | .app f a => f.atoms ++ a.atoms
  | .group p => p.atoms

/-- A program within the limits of readers: it has not too many levels, and no number of too many digits. -/
structure Modest (p : Program) : Prop where
  height : p.height ≤ 100
  digits : ∀ w ∈ p.atoms, w.toList.countP Char.isDigit ≤ 4300

theorem Modest.nesting {p : Program} (h : p.Modest) : p.nesting ≤ bracketLimit := by
  have hle : ∀ p : Program, p.nesting ≤ p.height := by
    intro p
    induction p with
    | index | atom => exact le_rfl
    | lam p ih | group p ih => simp only [Program.nesting, Program.height]; omega
    | app f a ihf iha => simp only [Program.nesting, Program.height]; omega
  exact (hle p).trans (h.height.trans (by decide))

theorem pieces_ne_nil (p : Program) : p.pieces ≠ [] := by cases p <;> simp [pieces]

theorem tree_app (f a : Program) : (app f a).tree = .node (f.pieces ++ [a.tree]) :=
  grouped_snoc (pieces_ne_nil f) a.tree

/-! ## 3. Elements of a list -/

/-- Atoms that are taken neither for an index nor for the mark of a function. -/
def AtomsPlain (p : Program) : Prop := ∀ w ∈ p.atoms, starts w "$" = false ∧ w ≠ "lam"

/-- A tree of indices becomes the text of an expression. -/
def Writes (bound : List String) (t : Tree) (x : String) : Prop := ∃ u, named {} bound t = .ok u ∧ callText u = .ok x

/-- Trees of indices one after another become the texts of expressions. -/
inductive EachWrites (bound : List String) : List Tree → List String → Prop where
  | nil : EachWrites bound [] []
  | cons {t : Tree} {x : String} {ts : List Tree} {xs : List String} (h : Writes bound t x)
      (hs : EachWrites bound ts xs) : EachWrites bound (t :: ts) (x :: xs)

/-- Arguments one after another, each in brackets. -/
def bracketed (xs : List String) : String := .join (xs.map fun a => "(" ++ a ++ ")")

theorem bracketed_snoc (xs : List String) (a : String) : bracketed (xs ++ [a]) = bracketed xs ++ "(" ++ a ++ ")" := by
  induction xs with
  | nil => simp [bracketed, String.join_cons]
  | cons x xs ih =>
    simp only [bracketed, map_cons, cons_append, String.join_cons] at ih ⊢
    rw [ih]
    simp only [String.append_assoc]

section Lists

variable {bound : List String}

theorem EachWrites.snoc {t : Tree} (hs : EachWrites bound ts xs) (h : Writes bound t x) :
    EachWrites bound (ts ++ [t]) (xs ++ [x]) := by
  induction hs with
  | nil => exact .cons h .nil
  | cons ht _ ih => exact .cons ht ih

theorem EachWrites.all (hs : EachWrites bound ts xs) : ∃ us, allNamed {} bound ts = .ok us ∧ callTexts us = .ok xs := by
  induction hs with
  | nil => exact ⟨[], rfl, rfl⟩
  | cons h _ ih =>
    obtain ⟨u, hu, hx⟩ := h
    obtain ⟨us, hus, hxs⟩ := ih
    refine ⟨u :: us, ?_, ?_⟩
    · rw [allNamed, hu]
      show (allNamed {} bound _).bind _ = _
      rw [hus]
      rfl
    · rw [callTexts, hx]
      show (callTexts us).bind _ = _
      rw [hxs]
      rfl

theorem writes_node (hh : h.isWord "lam" = false) (hx : callText h = .ok x) (hs : EachWrites bound args xs) :
    Writes bound (.node (h :: args)) (x ++ bracketed xs) := by
  obtain ⟨us, hus, hxs⟩ := hs.all
  refine ⟨.node (h :: us), ?_, ?_⟩
  · rw [named, if_neg (by simp [hh]), hus]
    rfl
  · rw [callText, hx]
    show (callTexts us).bind _ = _
    rw [hxs]
    rfl

theorem writes_lam {b : Tree} (h : Writes (freshNames (n + 1)) b x) : Writes (freshNames n) (.node [.word "lam", b])
      ("lambda " ++ varName (101 + n) ++ ": " ++ "(" ++ x ++ ")") := by
  obtain ⟨u, hu, hx⟩ := h
  have hname : ({} : Marks).name ++ toString ((freshNames n).length + 1) = varName (101 + n) := by
    rw [length_freshNames, show n + 100 + 1 = 101 + n by omega]
    rfl
  have hall : allNamed {} (varName (101 + n) :: freshNames n) [b] = .ok [u] := by
    rw [allNamed]
    show (named {} (freshNames (n + 1)) b).bind _ = _
    rw [hu]
    rfl
  have hone : bracketed [x] = "(" ++ x ++ ")" := by
    rw [bracketed, map_singleton, String.join_cons, String.join_nil, String.append_empty]
  refine ⟨.node [.word ("lambda " ++ varName (101 + n) ++ ": "), u], ?_, ?_⟩
  · rw [named, if_pos (by decide)]
    simp only [hname, hall]
    rfl
  · rw [callText, callText, callTexts, hx]
    show Except.ok ("lambda " ++ varName (101 + n) ++ ": " ++ bracketed [x]) = _
    rw [hone]
    simp only [String.append_assoc]

end Lists

/-! ## 4. What is written -/

theorem pieces_head (hp : p.AtomsPlain) (e : p.pieces = h :: args) : h.isWord "lam" = false := by
  induction p generalizing h args with
  | index i =>
    obtain ⟨rfl, _⟩ := cons.inj e
    refine beq_eq_false_iff_ne.mpr fun hl => ?_
    have := congrArg String.toList hl
    rw [indexText_toList] at this
    cases this
  | atom w =>
    obtain ⟨rfl, _⟩ := cons.inj e
    exact beq_eq_false_iff_ne.mpr (hp w (by simp [atoms])).2
  | lam b _ =>
    obtain ⟨rfl, _⟩ := cons.inj e
    rfl
  | app f a ihf _ =>
    match hf : f.pieces with
    | [] => exact absurd hf (pieces_ne_nil f)
    | h' :: args' =>
      rw [pieces, hf, cons_append] at e
      obtain ⟨rfl, _⟩ := cons.inj e
      exact ihf (fun w hw => hp w (by simp [atoms, hw])) hf
  | group p ih =>
    obtain ⟨rfl, _⟩ := cons.inj e
    match hq : p.pieces with
    | [] => exact absurd hq (pieces_ne_nil p)
    | [t] => exact ih hp hq
    | _ :: _ :: _ => rfl

theorem allNamed_fixed {bound : List String} (h : ∀ t ∈ ts, named {} bound t = .ok t) :
    allNamed {} bound ts = .ok ts := by
  induction ts with
  | nil => rfl
  | cons t ts ih =>
    rw [allNamed, h t mem_cons_self]
    show (allNamed {} bound ts).bind _ = _
    rw [ih fun u hu => h u (mem_cons_of_mem t hu)]
    rfl

theorem named_flat (hf : p.Flat) (hp : p.AtomsPlain) (bound : List String) :
    (∀ t ∈ p.pieces, named {} bound t = .ok t) ∧ named {} bound p.tree = .ok p.tree := by
  induction p with
  | index | lam => exact hf.elim
  | atom w =>
    have hw : named {} bound (.word w) = .ok (.word w) := by
      rw [named, nameWord, if_neg (by simp [(hp w (by simp [atoms])).1])]
      rfl
    refine ⟨fun t ht => ?_, hw⟩
    rw [mem_singleton.mp ht]
    exact hw
  | app f a ihf iha =>
    have hpf : f.AtomsPlain := fun w hw => hp w (by simp [atoms, hw])
    have hpa : a.AtomsPlain := fun w hw => hp w (by simp [atoms, hw])
    have hall : ∀ t ∈ (app f a).pieces, named {} bound t = .ok t := by
      intro t ht
      rcases mem_append.mp ht with ht | ht
      · exact (ihf hf.1 hpf).1 t ht
      · rw [mem_singleton.mp ht]
        exact (iha hf.2 hpa).2
    refine ⟨hall, ?_⟩
    match hq : f.pieces with
    | [] => exact absurd hq (pieces_ne_nil f)
    | h :: args =>
      have hall' : ∀ t ∈ args ++ [a.tree], named {} bound t = .ok t := by
        intro t ht
        refine hall t ?_
        rw [pieces, hq, cons_append]
        exact mem_cons_of_mem h ht
      rw [tree_app, hq, cons_append, named, if_neg (by simp [pieces_head hpf hq]), allNamed_fixed hall']
      rfl
  | group p ih =>
    refine ⟨fun t ht => ?_, (ih hf hp).2⟩
    rw [mem_singleton.mp ht]
    exact (ih hf hp).2

/-- A program with plain heads becomes the expression written for it, and the elements of its list
    become those of this expression. -/
theorem writes_tree (hs : p.InScope 100 n) (hh : p.HeadsPlain) (hp : p.AtomsPlain) :
    Writes (freshNames n) p.tree (p.written n) ∧ (p.lead.Flat → ∃ h args x xs, p.pieces = h :: args ∧ callText h =
      .ok x ∧ EachWrites (freshNames n) args xs ∧ p.written n = x ++ bracketed xs) := by
  induction p generalizing n with
  | index i =>
    refine ⟨⟨.word (varName (freshVar n i)), ?_, rfl⟩, fun h => h.elim⟩
    rw [tree, pieces, grouped, named, nameWord_indexText hs]
  | atom w =>
    refine ⟨⟨.word w, (named_flat (p := .atom w) trivial hp _).2, rfl⟩, fun _ => ?_⟩
    refine ⟨.word w, [], w, [], rfl, rfl, .nil, ?_⟩
    rw [written, bracketed, map_nil, String.join_nil, String.append_empty]
  | lam b ih => exact ⟨writes_lam (ih hs hh hp).1, fun h => h.elim⟩
  | app f a ihf iha =>
    have hpf : f.AtomsPlain := fun w hw => hp w (by simp [atoms, hw])
    have hpa : a.AtomsPlain := fun w hw => hp w (by simp [atoms, hw])
    obtain ⟨hlead, _, hhf, hha⟩ := hh
    obtain ⟨h, args, x, xs, hq, hx, hxs, hw⟩ := (ihf hs.1 hhf hpf).2 hlead
    have hargs := hxs.snoc (iha hs.2 hha hpa).1
    have hwritten : (app f a).written n = x ++ bracketed (xs ++ [a.written n]) := by
      rw [written, hw, bracketed_snoc]
      simp only [String.append_assoc]
    refine ⟨?_, fun _ => ⟨h, args ++ [a.tree], x, _, ?_, hx, hargs, hwritten⟩⟩
    · rw [hwritten, tree_app, hq, cons_append]
      exact writes_node (pieces_head hpf hq) hx hargs
    · rw [pieces, hq, cons_append]
      rfl
  | group q ih =>
    have hq := (ih hs hh hp).1
    refine ⟨hq, fun hf => ?_⟩
    obtain ⟨u, hu, hx⟩ := hq
    rw [(named_flat (p := q) hf hp _).2] at hu
    cases hu
    refine ⟨q.tree, [], q.written n, [], rfl, hx, .nil, ?_⟩
    rw [written, bracketed, map_nil, String.join_nil, String.append_empty]

/-! ## 5. The answer -/

theorem wordly_pieces (h : ∀ w ∈ p.atoms, IsWord w) : ∀ t ∈ p.pieces, t.Wordly := by
  induction p with
  | index i =>
    intro t ht
    rw [mem_singleton.mp ht]
    exact .word (Nameless.isWord_indexText i)
  | atom w =>
    intro t ht
    rw [mem_singleton.mp ht]
    exact .word (h w mem_cons_self)
  | lam b ih =>
    intro t ht
    rw [mem_singleton.mp ht]
    refine .node fun u hu => ?_
    simp only [mem_cons, not_mem_nil, or_false] at hu
    rcases hu with rfl | rfl
    · exact .word Nameless.isWord_lam
    · exact wordly_grouped (ih h)
  | app f a ihf iha =>
    intro t ht
    rcases mem_append.mp ht with ht | ht
    · exact ihf (fun w hw => h w (by simp [atoms, hw])) t ht
    · rw [mem_singleton.mp ht]
      exact wordly_grouped (iha fun w hw => h w (by simp [atoms, hw]))
  | group p ih =>
    intro t ht
    rw [mem_singleton.mp ht]
    exact wordly_grouped (ih h)

theorem wordly_tree (h : ∀ w ∈ p.atoms, IsWord w) : p.tree.Wordly := wordly_grouped (wordly_pieces h)

theorem lower_indexText (i : Nat) : lower (indexText i) = indexText i := by
  refine lower_of_small fun c hc => ?_
  rw [indexText_toList] at hc
  rcases mem_cons.mp hc with rfl | hc
  · decide
  · exact digit_small (isDigit_toDigits hc)

theorem allLowered_append (ts us : List Tree) : allLowered (ts ++ us) = allLowered ts ++ allLowered us := by
  induction ts with
  | nil => rfl
  | cons t ts ih => simp [allLowered, ih]

theorem lowered_grouped (ts : List Tree) : (grouped ts).lowered = grouped (allLowered ts) := by
  match ts with
  | [] => rfl
  | [_] => rfl
  | _ :: _ :: _ => rfl

theorem pieces_lowered (p : Program) : p.lowered.pieces = allLowered p.pieces := by
  have hlam : lower "lam" = "lam" := lower_of_small (forall_chars (by decide))
  induction p with
  | index i => simp [lowered, pieces, allLowered, Tree.lowered, lower_indexText]
  | atom w => rfl
  | lam b ih => simp [lowered, pieces, allLowered, Tree.lowered, hlam, lowered_grouped, ih]
  | app f a ihf iha => simp [lowered, pieces, allLowered_append, allLowered, lowered_grouped, ihf, iha]
  | group p ih => simp [lowered, pieces, allLowered, lowered_grouped, ih]

theorem tree_lowered (p : Program) : p.lowered.tree = p.tree.lowered := by
  rw [tree, tree, pieces_lowered, lowered_grouped]

theorem atoms_lowered (p : Program) : p.lowered.atoms = p.atoms.map lower := by
  induction p with
  | index | atom => rfl
  | lam b ih => exact ih
  | app f a ihf iha => simp [lowered, atoms, ihf, iha]
  | group p ih => exact ih

theorem inScope_lowered {m : Nat} (h : p.InScope m n) : p.lowered.InScope m n := by
  induction p generalizing n with
  | lam b ih => exact ih h
  | app f a ihf iha => exact ⟨ihf h.1, iha h.2⟩
  | group p ih => exact ih h
  | _ => exact h

end Program

theorem adapt_nil (s : String) : adapt s [] = lower s := by
  unfold adapt
  split
  · rename_i h
    rw [String.isEmpty_iff.mp h]
    rfl
  · rfl

/-- **The answer for the text of a program is the expression written for the program in small
    letters.** -/
theorem toNamed_text (hw : ∀ w ∈ p.atoms, IsWord w ∧ IsWord (lower w)) (hs : p.InScope 100 0)
    (hh : p.lowered.HeadsPlain) (hp : p.lowered.AtomsPlain) : toNamed p.text [] {} = .ok (p.lowered.written 0) := by
  have hlow : adapt p.text [] = p.lowered.tree.line := by
    rw [adapt_nil, Program.text, lower_line (Program.wordly_tree fun w h => (hw w h).1), Program.tree_lowered]
  have hwords : ∀ w ∈ p.lowered.atoms, IsWord w := by
    intro w h
    rw [Program.atoms_lowered] at h
    obtain ⟨v, hv, rfl⟩ := mem_map.mp h
    exact (hw v hv).2
  obtain ⟨u, hu, hx⟩ := (Program.writes_tree (Program.inScope_lowered hs) hh hp).1
  have hread : Tree.read (adapt p.text []) = .ok p.lowered.tree := by rw [hlow, read_line (Program.wordly_tree hwords)]
  unfold toNamed
  rw [hread]
  show (named {} (freshNames 0) p.lowered.tree).bind callText = _
  rw [hu]
  exact hx

/-! ## 6. Phrases for programs -/

namespace Program

/-- A phrase that is spelled as the expression for a program below `n` functions. -/
structure IsSpelled (n : Nat) (p : Program) (q : Phrase) : Prop where
  chars : q.chars = (p.written n).toList
  nesting : q.nesting = p.nesting

theorem IsSpelled.lam {b : Program} (h : b.IsSpelled (n + 1) q) :
    (lam b).IsSpelled n (.fn (varIdent (101 + n)) (.paren q)) := by
  refine ⟨?_, ?_⟩
  · rw [Phrase.chars, Phrase.chars, h.chars, written, lambdaChars_eq]
    simp [varIdent]
  · rw [Phrase.nesting, Phrase.nesting, h.nesting, Program.nesting]

theorem IsSpelled.app {f a : Program} {r : Phrase} (hf : f.IsSpelled n q) (ha : a.IsSpelled n r) :
    (app f a).IsSpelled n (.call q r) := by
  refine ⟨?_, ?_⟩
  · rw [Phrase.chars, hf.chars, ha.chars, written]
    simp
  · rw [Phrase.nesting, hf.nesting, ha.nesting, Program.nesting]

theorem isSpelled_int (n : Nat) (i : Int) : (atom (toString i)).IsSpelled n (Named.int i).phrase :=
  ⟨Named.chars_int i, Named.nesting_int i⟩

theorem IsSpelled.expression? (h : p.IsSpelled 0 q) (hq : q.Proper) (hp : p.nesting ≤ bracketLimit) :
    Source.expression? (p.written 0) = .ok q.expr := by
  have htext : p.written 0 = q.text := by rw [Phrase.text, h.chars, String.ofList_toList]
  rw [htext]
  exact Phrase.expression?_text hq (h.nesting ▸ hp)

end Program

end PuzzlePrograms.Indexed
