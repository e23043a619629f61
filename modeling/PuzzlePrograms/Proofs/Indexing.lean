import PuzzlePrograms.Indexed.OfNamed
import PuzzlePrograms.Proofs.Named

/-!
# What putting indices for names does to a term

The conversion goes through the expression, the tree of its calls, the tree with all applications joined
and the tree with indices. Here each of them is given for a term with names.

* `Named.tree` is the tree with all applications joined;
* `Named.counted?` is the term without names that comes out. An argument of a function that is applied
  at once counts as if it stood below that function, and the head of an application stays a word;
* `Joined` relates a term without names to a tree in which the arguments of a function stand beside its
  body, and `text_joined` says how such a tree is written;
* `read_text`: the text of a tree with indices is read as `regrouped` says;
* `ofNamed_counted`: the text of `Named.counted?` is the answer, and there is none where that is none.
-/

namespace PuzzlePrograms.Indexed

open Text Source Named PuzzlePrograms.Tree
open List hiding replace dropLast

variable {w : String} {us ts : List Tree} {d : Nameless} {t : Tree} {bound : List String}

/-! ## 1. Names in scope -/

/-- The names in scope: those of the variables bound around a place, and the free ones. -/
def scopeNames (around : List Nat) : List String := around.map varName ++ freeNames 400

theorem idxOf?_range' (s n k : Nat) :
    ((range' s n).map varName).idxOf? (varName (s + k)) = if k < n then some k else none := by
  induction n generalizing s k with
  | zero => rfl
  | succ n ih =>
    rw [range'_succ, map_cons, idxOf?_cons]
    cases k with
    | zero => simp
    | succ k =>
      have hne : (varName s == varName (s + (k + 1))) = false := by
        rw [beq_eq_false_iff_ne, Ne, varName_inj]
        omega
      have hk := ih (s + 1) k
      rw [show s + 1 + k = s + (k + 1) by omega] at hk
      rw [hne, hk]
      by_cases h : k < n
      all_goals simp [h]

theorem idxOf?_scopeNames (around : List Nat) (k : Nat) : (scopeNames around).idxOf? (varName k) =
      if k ∈ around ∨ k < 400 then some (position around k) else none := by
  induction around with
  | nil =>
    have h := idxOf?_range' 0 400 k
    rw [Nat.zero_add, ← range_eq_range'] at h
    have hs : scopeNames [] = (range 400).map varName := rfl
    rw [hs, h]
    simp [position]
  | cons j js ih =>
    have hs : scopeNames (j :: js) = varName j :: scopeNames js := rfl
    rw [hs, idxOf?_cons]
    by_cases e : k = j
    · simp [e, position]
    · have hne : (varName j == varName k) = false := by
        rw [beq_eq_false_iff_ne, Ne, varName_inj]
        exact fun h => e h.symm
      rw [hne, ih]
      have hm : (k ∈ j :: js ∨ k < 400) ↔ (k ∈ js ∨ k < 400) := by simp [e]
      by_cases h : k ∈ js ∨ k < 400
      · rw [if_pos h, if_pos (hm.mpr h)]
        simp [position, e]
      · rw [if_neg h, if_neg fun h' => h (hm.mp h')]
        rfl

theorem indexWord_varName (around : List Nat) (k : Nat) : indexWord {} (scopeNames around) (varName k) =
      if k ∈ around ∨ k < 400 then .ok (.word (indexText (position around k))) else fail .badValue := by
  unfold indexWord
  rw [if_pos (starts_varName k), idxOf?_scopeNames]
  by_cases h : k ∈ around ∨ k < 400
  · simp [h, indexText, pure, Except.pure]
  · simp [h]

theorem indexWord_other (h : starts w "x" = false) (bound : List String) : indexWord {} bound w = .ok (.word w) := by
  unfold indexWord
  rw [h]
  rfl

/-! ## 2. What the first word of a list says -/

def lambdaWord (k : Nat) : String := "lambda " ++ varName k ++ ":"

theorem lambdaWord_toList (k : Nat) : (lambdaWord k).toList =
    ['l', 'a', 'm', 'b', 'd', 'a'] ++ ' ' :: ('x' :: Nat.toDigits 10 k) ++ [':'] := by
  simp [lambdaWord, varName_toList, show "lambda ".toList = ['l', 'a', 'm', 'b', 'd', 'a', ' '] from rfl,
    show ":".toList = [':'] from rfl]

theorem varName_not_blank {k : Nat} : ∀ c ∈ 'x' :: Nat.toDigits 10 k, isBlank c = false := by
  intro c hc
  rcases mem_cons.mp hc with rfl | hc
  · decide
  · exact (digit_wordly (isDigit_toDigits hc)).1

theorem words_lambda (k : Nat) : words (dropLast (trim (lambdaWord k))) = ["lambda", varName k] := by
  have ht : trim (lambdaWord k) = lambdaWord k :=
    trim_eq (lambdaWord_toList k) (lambdaWord_toList k) (by decide) (by decide)
  have hd : (dropLast (lambdaWord k)).toList = ['l', 'a', 'm', 'b', 'd', 'a'] ++ ' ' :: ('x' :: Nat.toDigits 10 k) := by
    rw [dropLast, String.toList_ofList, lambdaWord_toList, dropLast_concat]
  have hx := wordChars_append ('x' :: Nat.toDigits 10 k) [] [] varName_not_blank
  rw [append_nil, append_nil, wordChars_nil _ (by simp), reverse_reverse] at hx
  have hl := wordChars_append ['l', 'a', 'm', 'b', 'd', 'a'] [] (' ' :: 'x' :: Nat.toDigits 10 k)
    (forall_chars (by decide))
  rw [append_nil, wordChars_blank _ _ _ (by decide) (by decide), reverse_reverse] at hl
  have hb : wordChars [] (' ' :: 'x' :: Nat.toDigits 10 k) = wordChars [] ('x' :: Nat.toDigits 10 k) := by
    simp [wordChars, isBlank]
  unfold words
  rw [ht, hd, hl, hb, hx]
  simp [← varName_toList, show String.ofList ['l', 'a', 'm', 'b', 'd', 'a'] = "lambda" from rfl]

theorem headOf_lambdaWord (k : Nat) : headOf (lambdaWord k) = .binder (varName k) := by
  have h1 : starts (replace (lambdaWord k) " " "") "lambda:" = false := by
    have hl : (replace (lambdaWord k) " " "").toList = ['l', 'a', 'm', 'b', 'd', 'a', 'x'] ++
          ((Nat.toDigits 10 k ++ [':']).flatMap fun c => if c = ' ' then [] else [c]) := by
      unfold replace
      simp only [show " ".toList = [' '] from rfl, show "".toList = [] from rfl,
        replaceChars_single, String.toList_ofList, lambdaWord_toList]
      rfl
    unfold starts
    rw [hl]
    rfl
  have h2 : starts (lambdaWord k) "lambda" = true := by
    rw [starts_iff, lambdaWord_toList]
    exact ⟨_, rfl⟩
  unfold headOf
  rw [h1, h2, words_lambda]
  rfl

theorem headOf_word (hb : ∀ c ∈ w.toList, isBlank c = false) (hc : ':' ∉ w.toList) :
    headOf w = if starts w "lambda" then .nameless else .called := by
  have h0 : ' ' ∉ w.toList := fun h => absurd (hb ' ' h) (by decide)
  have h1 : replace w " " "" = w := replace_absent "" h0
  have h2 : starts w "lambda:" = false := Bool.eq_false_iff.mpr fun h => hc (mem_of_starts h (by decide))
  have h3 : (words (dropLast (trim w))).length ≤ 1 := by
    have ht : ∀ c ∈ (dropLast (trim w)).toList, isBlank c = false := fun c hc => hb c (mem_of_mem_dropLast_trim hc)
    by_cases hn : (dropLast (trim w)).toList = []
    · simp [words, hn, wordChars]
    · simp [words_of_not_blank hn ht]
  unfold headOf
  rw [h1, h2]
  simp only [Bool.false_eq_true, if_false]
  split
  · split
    · rename_i hw
      rw [hw] at h3
      simp at h3
    · rfl
  · rfl

theorem headOf_name (h : isName w = true) : headOf w = if starts w "lambda" then .nameless else .called :=
  headOf_word (fun c hc => ((isName_isWord h).2 c hc).1) (isName_not_mem h (by decide))

theorem headOf_varName (k : Nat) : headOf (varName k) = .called := by
  have h : starts (varName k) "lambda" = false := by
    unfold starts
    rw [varName_toList]
    rfl
  rw [headOf_name (isName_varName k), h]
  rfl

theorem headOf_int (i : Int) : headOf (toString i) = .called := by
  have hs : starts (toString i) "lambda" = false :=
    Bool.eq_false_iff.mpr fun h => not_mem_toString_int (c := 'l') (by decide) (by decide) i
      (mem_of_starts h (by decide))
  rw [headOf_word (fun c hc => ((isWord_toString_int i).2 c hc).1)
    (not_mem_toString_int (by decide) (by decide) i), hs]
  rfl

/-! ## 3. The tree with all applications joined -/

/-- The elements of a list; a word is its only element. -/
def elements : Tree → List Tree
  | .node ts => ts
  | t => [t]

namespace Named

/-- The first word of the list that a term is written as. -/
def headWord : Named → String
  | .var k => varName k
  | .prim p => p.word
  | .int i => toString i
  | .lam k _ => lambdaWord k
  | .app f _ => f.headWord

/-- The tree of a term with all applications joined. -/
def tree : Named → Tree
  | .var k => .word (varName k)
  | .prim p => .word p.word
  | .int i => .word (toString i)
  | .lam k b => .node [.word (lambdaWord k), b.tree]
  | .app f a => .node (elements f.tree ++ [a.tree])

theorem elements_tree (t : Named) : ∃ us, elements t.tree = .word t.headWord :: us := by
  induction t with
  | var | prim | int => exact ⟨[], rfl⟩
  | lam k b _ => exact ⟨[b.tree], rfl⟩
  | app f a ihf _ =>
    obtain ⟨us, h⟩ := ihf
    refine ⟨us ++ [a.tree], ?_⟩
    show elements f.tree ++ [a.tree] = _
    rw [h]
    rfl

theorem neg_text {i : Int} (h : ¬ 0 ≤ i) : "-" ++ toString (-i) = toString i := by
  rw [← String.toList_inj, String.toList_append, toString_int_neg h, toString_int_nonneg (by omega : 0 ≤ -i)]
  rfl

theorem callTree_expr (t : Named) : ∃ c, callTree t.expr = .ok c ∧ c.spine = t.tree := by
  induction t with
  | var | prim => exact ⟨_, rfl, rfl⟩
  | int i =>
    by_cases h : 0 ≤ i
    · refine ⟨.word (toString i), ?_, rfl⟩
      simp [expr, intExpr, h, callTree, constantWord, Constant.text, pure, Except.pure]
    · refine ⟨.word (toString i), ?_, rfl⟩
      simp only [expr, intExpr, if_neg h, callTree, negated?, constantWord, Constant.text, neg_text h]
      rfl
  | lam k b ih =>
    obtain ⟨c, hc, hs⟩ := ih
    refine ⟨.node [.word (lambdaWord k), c], ?_, ?_⟩
    · have hh : lambdaHead (.oneParam (.param (varName k) .absent)) = lambdaWord k := by
        simp [lambdaHead, Expr.oneParam, lambdaWord]
      simp only [expr, callTree, hc, hh]
      rfl
    · simp [spine, spines, joinHead, hs, tree]
  | app f a ihf iha =>
    obtain ⟨c, hc, hs⟩ := ihf
    obtain ⟨d, hd, hs'⟩ := iha
    refine ⟨.node [c, d], ?_, ?_⟩
    · simp only [expr, callTree, callTrees, hc, hd]
      rfl
    · obtain ⟨us, hus⟩ := elements_tree f
      simp only [spine, spines, hs, hs', tree]
      -- a list at the head is never empty: its first element is a word
      cases hf : f.tree with
      | word | scalar => rfl
      | node ts =>
        rw [hf] at hus
        simp only [elements] at hus ⊢
        rw [hus]
        rfl

/-- The variables that count at the arguments of a term: those around it, and the one it binds if it is
    a function that is applied at once. -/
def scope (around : List Nat) : Named → List Nat
  | .lam k _ => k :: around
  | .app f _ => f.scope around
  | _ => around

/-- An application, if both its parts are there. -/
def applied? : Option Nameless → Option Nameless → Option Nameless
  | some f, some a => some (.app f a)
  | _, _ => none

/-- The term without names that a term becomes, below variables that count. -/
def counted? (around : List Nat) : Named → Option Nameless
  | .var k => if k ∈ around ∨ k < 400 then some (.index (position around k)) else none
  | .prim p => some (.atom p.word)
  | .int i => some (.atom (toString i))
  | .lam k b => (b.counted? (k :: around)).map .lam
  | .app (.var k) a => (a.counted? around).map (.app (.atom (varName k)))
  | .app (.prim p) a =>
    if starts p.word "lambda" then none
    else (a.counted? around).map (if p.word = "lam" then .lam else .app (.atom p.word))
  | .app (.int i) a => (a.counted? around).map (.app (.atom (toString i)))
  | .app f a => applied? (f.counted? around) (a.counted? (f.scope around))

end Named

/-! ## 4. Indices in a tree -/

/-- The names in scope for the rest of a list, by its first word. -/
def headScope (w : String) (bound : List String) : List String :=
  match headOf w with
  | .binder x => x :: bound
  | _ => bound

theorem headScope_headWord (t : Named) (around : List Nat) :
    headScope t.headWord (scopeNames around) = scopeNames (t.scope around) := by
  induction t with
  | var k => simp only [headScope, headWord, scope, headOf_varName]
  | prim p =>
    simp only [headScope, headWord, scope, headOf_name p.isName]
    split
    · rename_i h
      split at h <;> cases h
    · rfl
  | int i => simp only [headScope, headWord, scope, headOf_int]
  | lam k b _ =>
    simp only [headScope, headWord, scope, headOf_lambdaWord]
    rfl
  | app f a ihf _ => exact ihf

theorem headOf_headWord (t : Named) : headOf t.headWord ≠ .thunk := by
  induction t with
  | var k => simp [headWord, headOf_varName]
  | prim p =>
    rw [headWord, headOf_name p.isName]
    split <;> simp
  | int i =>
    rw [headWord, headOf_int]
    simp
  | lam k b _ => simp [headWord, headOf_lambdaWord]
  | app f a ihf _ => exact ihf

theorem allIndexed_append (m : Marks) (bound : List String) (ts us : List Tree) : allIndexed m bound (ts ++ us) = (do
        let ts' ← allIndexed m bound ts
        let us' ← allIndexed m bound us
        return ts' ++ us') := by
  induction ts with
  | nil =>
    simp only [nil_append, allIndexed]
    cases allIndexed m bound us <;> rfl
  | cons t ts ih =>
    simp only [cons_append, allIndexed, ih]
    cases indexed m bound t with
    | error e => rfl
    | ok t' =>
      cases allIndexed m bound ts with
      | error e => rfl
      | ok ts' => cases allIndexed m bound us <;> rfl

theorem indexed_word (m : Marks) (bound : List String) (w : String) : indexed m bound (.word w) = indexWord m bound w :=
  rfl

theorem indexed_list (m : Marks) (bound : List String) (w : String) (args : List Tree) (hw : headOf w ≠ .thunk) :
    indexed m bound (.node (.word w :: args)) =
      match headOf w with
      | .binder x => (allIndexed m (x :: bound) args).map fun us => .node (.word "lam " :: us)
      | .called => (allIndexed m bound args).map fun us => .node (.word w :: us)
      | _ => fail .outOfRange := by
  unfold indexed
  cases hh : headOf w with
  | thunk => exact absurd hh hw
  | nameless => rfl
  | binder x =>
    simp only
    cases allIndexed m (x :: bound) args <;> rfl
  | called =>
    simp only
    cases allIndexed m bound args <;> rfl

theorem indexed_snoc (m : Marks) (bound : List String) (w : String) (us : List Tree) (u : Tree)
  (hw : headOf w ≠ .thunk) :
    indexed m bound (.node (.word w :: (us ++ [u]))) = (do
        let t ← indexed m bound (.node (.word w :: us))
        let a ← indexed m (headScope w bound) u
        return .node (elements t ++ [a])) := by
  rw [indexed_list m bound w _ hw, indexed_list m bound w us hw]
  simp only [headScope]
  cases headOf w with
  | thunk | nameless => rfl
  | binder x =>
    simp only [allIndexed_append, allIndexed]
    cases allIndexed m (x :: bound) us with
    | error e => rfl
    | ok us' => cases indexed m (x :: bound) u <;> rfl
  | called =>
    simp only [allIndexed_append, allIndexed]
    cases allIndexed m bound us with
    | error e => rfl
    | ok us' => cases indexed m bound u <;> rfl

/-! ## 5. The text of a tree with indices -/

/-- A tree with indices for a term without names: the arguments of a function stand beside its body. -/
inductive Joined : Nameless → Tree → Prop where
  | index (i : Nat) : Joined (.index i) (.word (indexText i))
  | atom (w : String) : Joined (.atom w) (.word w)
  | lam {w : String} {b : Nameless} {t : Tree} (hw : trim w = "lam") (hb : Joined b t) :
      Joined (.lam b) (.node [.word w, t])
  | call {w : String} {a : Nameless} {t : Tree} (hw : trim w = w) (hl : w ≠ "lam")
      (ha : Joined a t) : Joined (.app (.atom w) a) (.node [.word w, t])
  | more {f a : Nameless} {ts : List Tree} {t : Tree} (hf : Joined f (.node ts)) (ha : Joined a t) :
      Joined (.app f a) (.node (ts ++ [t]))

theorem intercalate_cons (x : String) (l : List String) :
    .intercalate " " (x :: l) = x ++ .join (l.map (" " ++ ·)) := by
  induction l generalizing x with
  | nil => simp
  | cons y l ih =>
    rw [String.intercalate_cons_cons, ih, map_cons, String.join_cons]
    simp [String.append_assoc]

theorem texts_append {xs ys : List String} (ht : texts ts = .ok xs) (hu : texts us = .ok ys) :
    texts (ts ++ us) = .ok (xs ++ ys) := by
  induction ts generalizing xs with
  | nil =>
    cases ht
    exact hu
  | cons t ts ih =>
    simp only [texts] at ht
    cases h1 : text t with
    | error e =>
      rw [h1] at ht
      cases ht
    | ok x =>
      cases h2 : texts ts with
      | error e =>
        rw [h1, h2] at ht
        cases ht
      | ok xs' =>
        rw [h1, h2] at ht
        cases ht
        simp only [cons_append, texts, h1, ih h2]
        rfl

/-- The list with the head `w` and some arguments. A function beside which arguments stand gets a list of its own. -/
def headed (w : String) : List Tree → Tree
  | b :: a :: as => .node (if trim w = "lam" then .node [.word "lam", b] :: a :: as else .word (trim w) :: b :: a :: as)
  | as => .node (.word (trim w) :: as)

theorem line_word_cons (w : String) (t : Tree) (ts : List Tree) :
    (node (.word w :: t :: ts)).line = "(" ++ w ++ " " ++ String.intercalate " " (lines (t :: ts)) ++ ")" := by
  simp only [line, lines, String.intercalate_cons_cons, String.append_assoc]

theorem text_node {t : Tree} (h : texts us = .ok (lines (t :: ts))) :
    text (.node (.word w :: us)) = .ok (headed w (t :: ts)).line := by
  rw [text.eq_4, h]
  simp only [bind, Except.bind]
  cases ts with
  | nil =>
    show _ = Except.ok (node [.word (trim w), t]).line
    rw [line_word_cons]
    split
    · rename_i e
      cases e
    · rfl
  | cons a as =>
    by_cases hw : trim w = "lam"
    · have hline : (node (.node [.word "lam", t] :: a :: as)).line =
          "((lam " ++ t.line ++ ")" ++ String.join ((lines (a :: as)).map (" " ++ ·)) ++ ")" := by
        rw [line, lines, intercalate_cons, line_word_cons, lines, lines, String.intercalate_singleton]
        simp only [← String.append_assoc]
        rfl
      rw [headed, if_pos hw, hw, hline]
      rfl
    · rw [headed, if_neg hw, line_word_cons]
      split
      · contradiction
      · rfl

theorem lines_trees (ds : List Nameless) : lines (ds.map Nameless.tree) = ds.map Nameless.text := by
  rw [lines_eq_map, map_map]
  rfl

/-- The first word of a list and the elements after it, for a term: `lam` and what stands under it are
    one element of the term, any other word is one. -/
def Starts (d : Nameless) (w : String) (ds : List Nameless) : Prop :=
  (trim w = "lam" ∧ ∃ b as, ds = b :: as ∧ d.pieces = (Nameless.lam b).tree :: as.map Nameless.tree) ∨
  (trim w ≠ "lam" ∧ ds ≠ [] ∧ d.pieces = .word (trim w) :: ds.map Nameless.tree)

theorem text_starts {ds : List Nameless} (h : Starts d w ds) (hus : texts us = .ok (ds.map Nameless.text)) :
    text (.node (.word w :: us)) = .ok d.text := by
  rw [← lines_trees] at hus
  rw [Nameless.text, Nameless.tree]
  rcases h with ⟨hw, b, as, rfl, hp⟩ | ⟨hw, hne, hp⟩
  · rw [hp, text_node hus]
    cases as with
    | nil =>
      show Except.ok (node [.word (trim w), b.tree]).line = _
      rw [hw]
      rfl
    | cons a as => rw [map_cons, headed, if_pos hw]; rfl
  · rw [hp]
    obtain ⟨a, as, rfl⟩ := exists_cons_of_ne_nil hne
    rw [map_cons] at hus
    rw [text_node hus]
    cases as with
    | nil => rfl
    | cons b as => rw [map_cons, headed, if_neg hw]; rfl

/-- **A joined tree is written as its term.** -/
theorem text_joined (h : Joined d t) : text t = .ok d.text ∧
    ∀ ts, t = .node ts → ∃ w us ds, ts = .word w :: us ∧ texts us = .ok (ds.map Nameless.text) ∧ Starts d w ds := by
  have hone : ∀ {a : Nameless} {t : Tree}, text t = .ok a.text → texts [t] = .ok ([a].map Nameless.text) := by
    intro a t ht
    simp only [texts, ht]
    rfl
  induction h with
  | index | atom => exact ⟨rfl, fun ts e => by cases e⟩
  | @lam w b t hw _ ih =>
    have hs : Starts (.lam b) w [b] := .inl ⟨hw, b, [], rfl, rfl⟩
    refine ⟨text_starts hs (hone ih.1), fun ts e => ?_⟩
    cases e
    exact ⟨w, [t], [b], rfl, hone ih.1, hs⟩
  | @call w a t hw hl _ ih =>
    have hs : Starts (.app (.atom w) a) w [a] := by
      refine .inr ⟨by rw [hw]; exact hl, by simp, ?_⟩
      rw [hw]
      rfl
    refine ⟨text_starts hs (hone ih.1), fun ts e => ?_⟩
    cases e
    exact ⟨w, [t], [a], rfl, hone ih.1, hs⟩
  | @more f a ts t _ _ ihf iha =>
    obtain ⟨w, us, ds, rfl, hus, hf⟩ := ihf.2 ts rfl
    have hus' : texts (us ++ [t]) = .ok ((ds ++ [a]).map Nameless.text) := by
      rw [map_append]
      exact texts_append hus (hone iha.1)
    have hs : Starts (.app f a) w (ds ++ [a]) := by
      rcases hf with ⟨hw, b, as, rfl, hp⟩ | ⟨hw, hne, hp⟩
      · refine .inl ⟨hw, b, as ++ [a], rfl, ?_⟩
        show f.pieces ++ [a.tree] = _
        rw [hp, map_append]
        rfl
      · refine .inr ⟨hw, by simp, ?_⟩
        show f.pieces ++ [a.tree] = _
        rw [hp, map_append]
        rfl
    refine ⟨text_starts hs hus', fun ts e => ?_⟩
    cases e
    exact ⟨w, us ++ [t], ds ++ [a], rfl, hus', hs⟩

theorem trim_lam : trim "lam " = "lam" := by decide +kernel

/-! ## 6. Reading the text of a tree with indices -/

mutual

/-- A tree as its text is read: every function beside which arguments stand is in a list of its own. -/
def regrouped : Tree → Tree
  | .node (.word w :: args) => headed w (allRegrouped args)
  | t => t

def allRegrouped : List Tree → List Tree
  | [] => []
  | t :: ts => regrouped t :: allRegrouped ts

end

/-- A tree of words in which every list has a head, which may have blanks around it, and an argument. -/
inductive Applied : Tree → Prop where
  | word {w : String} (hw : IsWord w) : Applied (.word w)
  | node {w : String} {t : Tree} {ts : List Tree} (hw : IsWord (trim w)) (h : ∀ u ∈ t :: ts, Applied u) :
      Applied (.node (.word w :: t :: ts))

theorem allRegrouped_eq_map (ts : List Tree) : allRegrouped ts = ts.map regrouped := by
  induction ts with
  | nil => rfl
  | cons t ts ih => rw [allRegrouped, ih, map_cons]

theorem texts_map (h : ∀ t ∈ ts, text t = .ok (regrouped t).line) : texts ts = .ok (lines (ts.map regrouped)) := by
  induction ts with
  | nil => rfl
  | cons t ts ih =>
    rw [texts, h t mem_cons_self, ih fun u hu => h u (mem_cons_of_mem t hu)]
    rfl

theorem wordly_headed (hw : IsWord (trim w)) (h : ∀ t ∈ ts, t.Wordly) : (headed w ts).Wordly := by
  have hall : (node (.word (trim w) :: ts)).Wordly := .node (forall_mem_cons.mpr ⟨.word hw, h⟩)
  rcases ts with _ | ⟨b, _ | ⟨a, as⟩⟩
  · exact hall
  · exact hall
  · rw [headed]
    split
    · have hb : (node [.word "lam", b]).Wordly := .node (by simpa [h b mem_cons_self] using .word Nameless.isWord_lam)
      exact .node (forall_mem_cons.mpr ⟨hb, fun t ht => h t (mem_cons_of_mem b ht)⟩)
    · exact hall

theorem text_applied (h : Applied t) : text t = .ok (regrouped t).line ∧ (regrouped t).Wordly := by
  induction h with
  | word hw => exact ⟨rfl, .word hw⟩
  | @node w t ts hw _ ih =>
    rw [regrouped, allRegrouped_eq_map]
    refine ⟨text_node (texts_map fun u hu => (ih u hu).1), wordly_headed hw ?_⟩
    exact forall_mem_map.mpr fun u hu => (ih u hu).2

/-- **The text of a tree with indices reads as the tree regrouped.** -/
theorem read_text (h : Applied t) : ∃ s, text t = .ok s ∧ Tree.read s = .ok (regrouped t) :=
  ⟨_, (text_applied h).1, read_line (text_applied h).2⟩

/-- A function applied in the body of a function that is applied. -/
theorem read_text_nested :
    ∃ s, text (.node [.word "lam ", .node [.word "lam ", .word "f", .word "a"], .word "b"]) = .ok s ∧ Tree.read s =
    .ok (.node [.node [.word "lam", .node [.node [.word "lam", .word "f"], .word "a"]], .word "b"]) := by
  have hlam : IsWord (trim "lam ") := trim_lam ▸ Nameless.isWord_lam
  have hpair {t u : Tree} (ht : Applied t) (hu : Applied u) : Applied (.node [.word "lam ", t, u]) :=
    .node hlam (by simp [ht, hu])
  have hf : Applied (.word "f") := .word ⟨by decide, forall_chars (by decide)⟩
  have ha : Applied (.word "a") := .word ⟨by decide, forall_chars (by decide)⟩
  have hb : Applied (.word "b") := .word ⟨by decide, forall_chars (by decide)⟩
  have h := read_text (hpair (hpair hf ha) hb)
  simpa [regrouped, allRegrouped, headed, trim_lam] using h

/-! ## 7. The answer -/

/-- What a term becomes below some variables: a tree for the term without names, or nothing. -/
def Becomes (bound : List String) (t : Tree) : Option Nameless → Prop
  | some d => ∃ u, indexed {} bound t = .ok u ∧ Joined d u
  | none => ∃ e, indexed {} bound t = .error e

theorem indexed_called (h : headOf w = .called) (bound : List String) (u : Tree) :
    indexed {} bound (.node [.word w, u]) = (indexed {} bound u).map fun a => .node [.word w, a] := by
  rw [indexed_list _ _ _ _ (by rw [h]; simp), h]
  simp only [allIndexed]
  cases indexed {} bound u <;> rfl

theorem indexed_list_node (hw : headOf w ≠ .thunk) (h : indexed {} bound (.node (.word w :: us)) = .ok t) :
    ∃ ts, t = .node ts := by
  rw [indexed_list _ _ _ _ hw] at h
  cases hh : headOf w with
  | thunk => exact absurd hh hw
  | nameless =>
    rw [hh] at h
    cases h
  | binder x =>
    rw [hh] at h
    cases hu : allIndexed {} (x :: bound) us with
    | error e =>
      simp only [hu] at h
      cases h
    | ok us' =>
      simp only [hu] at h
      cases h
      exact ⟨_, rfl⟩
  | called =>
    rw [hh] at h
    cases hu : allIndexed {} bound us with
    | error e =>
      simp only [hu] at h
      cases h
    | ok us' =>
      simp only [hu] at h
      cases h
      exact ⟨_, rfl⟩

theorem becomes_called (hw : headOf w = .called) (hi : IsWord w) {u : Tree} {d : Option Nameless}
    (h : Becomes bound u d) :
    Becomes bound (.node [.word w, u]) (d.map (if w = "lam" then .lam else .app (.atom w))) := by
  cases d with
  | none =>
    obtain ⟨e, he⟩ := h
    refine ⟨e, ?_⟩
    rw [indexed_called hw, he]
    rfl
  | some d =>
    obtain ⟨t, ht, hj⟩ := h
    refine ⟨.node [.word w, t], ?_, ?_⟩
    · rw [indexed_called hw, ht]
      rfl
    · by_cases hl : w = "lam"
      · rw [if_pos hl]
        exact .lam (by rw [trim_isWord hi]; exact hl) hj
      · rw [if_neg hl]
        exact .call (trim_isWord hi) hl hj

theorem becomes_more {f : Named} (hf : f.tree = .node ts) {a : Named} {around : List Nat} {d e : Option Nameless}
    (hd : Becomes (scopeNames around) f.tree d) (he : Becomes (scopeNames (f.scope around)) a.tree e) :
    Becomes (scopeNames around) (app f a).tree (applied? d e) := by
  obtain ⟨us, hus⟩ := f.elements_tree
  have hts : f.tree = .node (.word f.headWord :: us) := by
    rw [hf] at hus ⊢
    exact congrArg node hus
  have hstep : indexed {} (scopeNames around) (app f a).tree = (do
        let t ← indexed {} (scopeNames around) f.tree
        let u ← indexed {} (scopeNames (f.scope around)) a.tree
        return .node (elements t ++ [u])) := by
    have h := indexed_snoc {} (scopeNames around) f.headWord us a.tree (headOf_headWord f)
    rw [headScope_headWord, ← hts] at h
    simp only [tree]
    rw [hus]
    exact h
  cases d with
  | none =>
    obtain ⟨p, hp⟩ := hd
    refine ⟨p, ?_⟩
    rw [hstep, hp]
    rfl
  | some f' =>
    obtain ⟨t, ht, hj⟩ := hd
    cases e with
    | none =>
      obtain ⟨p, hp⟩ := he
      refine ⟨p, ?_⟩
      rw [hstep, ht, hp]
      rfl
    | some a' =>
      obtain ⟨u, hu, hj'⟩ := he
      have hn : ∃ ts, t = .node ts := by
        rw [hts] at ht
        exact indexed_list_node (headOf_headWord f) ht
      obtain ⟨vs, rfl⟩ := hn
      refine ⟨.node (vs ++ [u]), ?_, .more hj hj'⟩
      rw [hstep, ht, hu]
      rfl

/-- **A term becomes what `counted?` says.** -/
theorem becomes_counted (t : Named) (around : List Nat) : Becomes (scopeNames around) t.tree (t.counted? around) := by
  induction t generalizing around with
  | var k =>
    simp only [counted?, tree]
    by_cases h : k ∈ around ∨ k < 400
    · rw [if_pos h]
      refine ⟨_, ?_, .index _⟩
      rw [indexed_word, indexWord_varName, if_pos h]
    · rw [if_neg h]
      refine ⟨.failed .badValue, ?_⟩
      rw [indexed_word, indexWord_varName, if_neg h]
      rfl
  | prim p =>
    refine ⟨_, ?_, .atom _⟩
    rw [tree, indexed_word, indexWord_other p.notVariable]
  | int i =>
    refine ⟨_, ?_, .atom _⟩
    rw [tree, indexed_word, indexWord_other (starts_toString_int i)]
  | lam k b ih =>
    have hb := ih (k :: around)
    have hi : indexed {} (scopeNames around) (lam k b).tree =
        (indexed {} (scopeNames (k :: around)) b.tree).map fun t => .node [.word "lam ", t] := by
      rw [tree, indexed_list _ _ _ _ (by rw [headOf_lambdaWord]; simp), headOf_lambdaWord]
      simp only [allIndexed]
      show Except.map _ (do
        let t ← indexed {} (scopeNames (k :: around)) b.tree
        return [t]) = _
      cases indexed {} (scopeNames (k :: around)) b.tree <;> rfl
    rw [counted?]
    cases hc : b.counted? (k :: around) with
    | none =>
      rw [hc] at hb
      obtain ⟨e, he⟩ := hb
      refine ⟨e, ?_⟩
      rw [hi, he]
      rfl
    | some d =>
      rw [hc] at hb
      obtain ⟨u, hu, hj⟩ := hb
      refine ⟨_, ?_, .lam trim_lam hj⟩
      rw [hi, hu]
      rfl
  | app f a ihf iha =>
    cases f with
    | var k =>
      have h := becomes_called (headOf_varName k) (isName_isWord (isName_varName k)) (iha around)
      rw [if_neg (varName_ne (by decide) k).symm] at h
      exact h
    | prim p =>
      rw [counted?]
      by_cases hp : starts p.word "lambda" = true
      · rw [if_pos hp]
        refine ⟨.failed .outOfRange, ?_⟩
        have hh := headOf_name p.isName
        rw [if_pos hp] at hh
        show indexed {} (scopeNames around) (.node [.word p.word, a.tree]) = _
        rw [indexed_list _ _ _ _ (by rw [hh]; simp), hh]
        rfl
      · rw [if_neg hp]
        have hh := headOf_name p.isName
        rw [if_neg hp] at hh
        exact becomes_called hh (isName_isWord p.isName) (iha around)
    | int i =>
      have h := becomes_called (headOf_int i) (isWord_toString_int i) (iha around)
      rw [if_neg (isName_ne_toString_int (by decide) i)] at h
      exact h
    | lam | app => exact becomes_more rfl (ihf around) (iha _)

/-- **The answer for a text that reads as a term is the text of its counted form**, and there is no
    answer where there is no such form. -/
theorem ofNamed_counted {t : Named} {s : String} (hs : expression? s = .ok t.expr) :
    match t.counted? [] with
    | some d => ofNamed s {} = .ok d.text
    | none => ∃ e, ofNamed s {} = .error e := by
  obtain ⟨c, hc, hsp⟩ := t.callTree_expr
  have hr : readCalls s = .ok c := by
    unfold readCalls
    rw [hs]
    exact hc
  have ho : ofNamed s {} = (indexed {} (scopeNames []) t.tree).bind text := by
    unfold ofNamed removeNames
    rw [hr]
    show (indexed {} (freeNames 400) c.spine).bind text = _
    rw [hsp]
    rfl
  have hb := becomes_counted t []
  cases hd : t.counted? [] with
  | none =>
    rw [hd] at hb
    obtain ⟨e, he⟩ := hb
    refine ⟨e, ?_⟩
    rw [ho, he]
    rfl
  | some d =>
    rw [hd] at hb
    obtain ⟨u, hu, hj⟩ := hb
    show ofNamed s {} = _
    rw [ho, hu]
    exact (text_joined hj).1

end PuzzlePrograms.Indexed
