import PuzzlePrograms.Tree

/-!
# Trees on one line

The text of a tree with its lists in brackets and one blank between the elements of a list, and that
reading such a text gives the tree back.

* `Tree.line` is the text, `Tree.marks` the words and brackets in it;
* `lexemes_line`: cutting the text gives its words and brackets, if every word is a word (`IsWord`);
* `read_line`: reading the text gives the tree.
-/

namespace PuzzlePrograms

open List hiding replace

variable {t : Tree}

@[elab_as_elim]
theorem Tree.byNodes {P : Tree → Prop} (word : ∀ w, P (.word w)) (scalar : ∀ x, P (.scalar x))
    (node : ∀ ts, (∀ t ∈ ts, P t) → P (.node ts)) (t : Tree) : P t :=
  @Tree.rec P (fun ts => ∀ t ∈ ts, P t) word scalar node (fun _ h => absurd h not_mem_nil)
    (fun _ _ ht hts => forall_mem_cons.mpr ⟨ht, hts⟩) t

theorem Conversion.bind_eq_ok {α β : Type} {x : Conversion α} {f : α → Conversion β} {b : β}
    (h : x >>= f = .ok b) : ∃ a, x = .ok a ∧ f a = .ok b := by
  cases x with
  | error e => cases h
  | ok a => exact ⟨a, rfl, h⟩

theorem parens_toList : "(".toList = ['('] ∧ ")".toList = [')'] := ⟨rfl, rfl⟩

namespace Text

/-! ## 1. Words between blanks -/

/-- A text that reads as one word: it holds neither blanks nor brackets, and something. -/
def IsWord (w : String) : Prop := w.toList ≠ [] ∧ ∀ c ∈ w.toList, isBlank c = false ∧ c ≠ '(' ∧ c ≠ ')'

theorem forall_chars {p : Char → Prop} [DecidablePred p] {cs : List Char}
    (h : cs.all (fun c => decide (p c)) = true) : ∀ c ∈ cs, p c := fun c hc => of_decide_eq_true (all_eq_true.mp h c hc)

theorem wordChars_append (w : List Char) (acc r : List Char) (hw : ∀ c ∈ w, isBlank c = false) :
    wordChars acc (w ++ r) = wordChars (w.reverse ++ acc) r := by
  induction w generalizing acc with
  | nil => rfl
  | cons c w ih =>
    have hc : isBlank c = false := hw c (by simp)
    have hw' : ∀ d ∈ w, isBlank d = false := fun d hd => hw d (by simp [hd])
    simp only [cons_append, wordChars, hc, Bool.false_eq_true, if_false]
    rw [ih (c :: acc) hw']
    simp

theorem wordChars_blank (acc r : List Char) (b : Char) (hb : isBlank b = true) (hacc : acc ≠ []) :
    wordChars acc (b :: r) = acc.reverse :: wordChars [] (b :: r) := by
  have he : acc.isEmpty = false := by simpa using hacc
  simp [wordChars, hb, he]

theorem wordChars_nil (acc : List Char) (hacc : acc ≠ []) : wordChars acc [] = [acc.reverse] := by
  have he : acc.isEmpty = false := by simpa using hacc
  simp [wordChars, he]

theorem replaceChars_single (a : Char) (new cs : List Char) :
    replaceChars [a] new 0 cs = cs.flatMap fun c => if c = a then new else [c] := by
  induction cs with
  | nil => rfl
  | cons c cs ih =>
    by_cases h : c = a
    · subst h
      simp [replaceChars, ih]
    · have h' : (a == c) = false := by simpa using Ne.symm h
      simp [replaceChars, isPrefixOf, h, h', ih]

theorem splitChars_plain {a : Char} {p : List Char} (hp : a ∉ p) (sep part r : List Char) :
    splitChars (a :: sep) part 0 (p ++ r) = splitChars (a :: sep) (p.reverse ++ part) 0 r := by
  induction p generalizing part with
  | nil => rfl
  | cons c p ih =>
    rw [mem_cons, not_or] at hp
    rw [cons_append, splitChars, if_neg (by simp [isPrefixOf, hp.1]), ih hp.2]
    simp

end Text

namespace Tree

open Text

/-- A text with blanks around its brackets. -/
def spaced (cs : List Char) : List Char :=
  cs.flatMap fun c => if c = '(' then [' ', '(', ' '] else if c = ')' then [' ', ')', ' '] else [c]

/-- The words and brackets of a text, as characters. -/
def cut (cs : List Char) : List (List Char) := wordChars [] (spaced cs)

theorem lexemes_eq (s : String) : lexemes s = (cut s.toList).map String.ofList := by
  have h : ∀ cs : List Char, (cs.flatMap fun c => if c = '(' then [' ', '(', ' '] else [c]).flatMap
        (fun c => if c = ')' then [' ', ')', ' '] else [c]) = spaced cs := by
    intro cs
    induction cs with
    | nil => rfl
    | cons c cs ih =>
      simp only [spaced, flatMap_cons, flatMap_append] at ih ⊢
      rw [ih]
      by_cases h1 : c = '('
      · simp [h1]
      · by_cases h2 : c = ')' <;> simp [h1, h2]
  unfold lexemes words replace cut
  simp only [parens_toList,
    show " ( ".toList = [' ', '(', ' '] from rfl, show " ) ".toList = [' ', ')', ' '] from rfl,
    String.toList_ofList, replaceChars_single, h]

@[simp] theorem cut_nil : cut [] = [] := rfl

@[simp] theorem cut_open (cs : List Char) : cut ('(' :: cs) = ['('] :: cut cs := by
  simp [cut, spaced, wordChars, isBlank]

@[simp] theorem cut_close (cs : List Char) : cut (')' :: cs) = [')'] :: cut cs := by
  simp [cut, spaced, wordChars, isBlank]

@[simp] theorem cut_blank (cs : List Char) : cut (' ' :: cs) = cut cs := by simp [cut, spaced, wordChars, isBlank]

/-- A place at which a word ends: the end of a text, a blank or a bracket. -/
def Ends : List Char → Prop
  | [] => True
  | c :: _ => c = ' ' ∨ c = '(' ∨ c = ')'

theorem ends_blank (cs : List Char) : Ends (' ' :: cs) := .inl rfl

theorem ends_close (cs : List Char) : Ends (')' :: cs) := .inr (.inr rfl)

theorem spaced_word (w : List Char) (hw : ∀ c ∈ w, c ≠ '(' ∧ c ≠ ')') : spaced w = w := by
  induction w with
  | nil => rfl
  | cons c w ih =>
    have hc := hw c (by simp)
    have hw' : ∀ d ∈ w, d ≠ '(' ∧ d ≠ ')' := fun d hd => hw d (by simp [hd])
    have ih' := ih hw'
    simp only [spaced] at ih' ⊢
    rw [flatMap_cons, ih']
    simp [hc]

theorem cut_word (w : String) (hw : IsWord w) (r : List Char) (hr : Ends r) :
    cut (w.toList ++ r) = w.toList :: cut r := by
  have hs : spaced (w.toList ++ r) = w.toList ++ spaced r := by
    have h := spaced_word w.toList fun c hc => (hw.2 c hc).2
    simp only [spaced, flatMap_append] at h ⊢
    rw [h]
  have hne : w.toList.reverse ≠ [] := by simpa using hw.1
  unfold cut
  rw [hs, wordChars_append _ _ _ fun c hc => (hw.2 c hc).1, append_nil]
  match r, hr with
  | [], _ => simp [spaced, wordChars_nil _ hne, wordChars]
  | c :: r, hc =>
    -- blanks stand around brackets, so the next character is a blank in any case
    have hb : ∃ r', spaced (c :: r) = ' ' :: r' := by
      rcases hc with rfl | rfl | rfl
      all_goals exact ⟨_, rfl⟩
    obtain ⟨r', hr'⟩ := hb
    rw [hr', wordChars_blank _ _ _ (by decide) hne, reverse_reverse]

/-! ## 2. The text of a tree -/

mutual

/-- A tree on one line: a list in brackets, one blank between its elements. -/
def line : Tree → String
  | .word w => w
  | .scalar x => x.text
  | .node ts => "(" ++ .intercalate " " (lines ts) ++ ")"

def lines : List Tree → List String
  | [] => []
  | t :: ts => line t :: lines ts

end

mutual

def marks : Tree → List String
  | .word w => [w]
  | .scalar x => [x.text]
  | .node ts => "(" :: allMarks ts ++ [")"]

def allMarks : List Tree → List String
  | [] => []
  | t :: ts => marks t ++ allMarks ts

end

/-- A tree of words for each of which `P` holds. -/
inductive Words (P : String → Prop) : Tree → Prop where
  | word {w : String} (h : P w) : Words P (.word w)
  | node {ts : List Tree} (h : ∀ t ∈ ts, Words P t) : Words P (.node ts)

/-- A tree of words, each of which reads as one word. -/
abbrev Wordly : Tree → Prop := Words IsWord

theorem Words.imp {P Q : String → Prop} (h : ∀ w, P w → Q w) (ht : t.Words P) : t.Words Q := by
  induction ht with
  | word hw => exact .word (h _ hw)
  | node _ ih => exact .node ih

theorem allMarks_append (ts us : List Tree) : allMarks (ts ++ us) = allMarks ts ++ allMarks us := by
  induction ts with
  | nil => rfl
  | cons t ts ih => simp [allMarks, ih]

/-! ## 3. Going along the text of a tree -/

theorem lines_eq_map (ts : List Tree) : lines ts = ts.map line := by
  induction ts with
  | nil => rfl
  | cons t ts ih => rw [lines, ih, map_cons]

theorem toList_line_node (ts : List Tree) :
    (node ts).line.toList = '(' :: (String.intercalate " " (ts.map line)).toList ++ [')'] := by
  simp [line, lines_eq_map, parens_toList]

/-- What `G` answers for a text starts with what it answers for the first part of it, and `pre` puts this
    before the answer for the rest. -/
structure Scan {M : Type} (G : List Char → M) (pre : List Char → M → M) : Prop where
  nil : ∀ x, pre [] x = x
  append : ∀ as bs x, pre (as ++ bs) x = pre as (pre bs x)

section Scan

variable {M α : Type} {G : List Char → M} {pre : List Char → M → M}

theorem scan_append (G : List Char → List Char) : Scan G (· ++ ·) where
  nil _ := rfl
  append := append_assoc

theorem Scan.chars (h : Scan G pre) {w : List Char} (hw : ∀ c ∈ w, ∀ r, G (c :: r) = pre [c] (G r))
    (r : List Char) : G (w ++ r) = pre w (G r) := by
  induction w with
  | nil => exact (h.nil _).symm
  | cons c w ih =>
    rw [cons_append, hw c mem_cons_self, ih fun d hd => hw d (mem_cons_of_mem c hd), ← h.append]
    rfl

theorem Scan.joined (h : Scan G pre) (hb : ∀ r, G (' ' :: r) = pre [' '] (G r)) {f g : α → String} (ts : List α)
    (hts : ∀ t ∈ ts, ∀ r, Ends r → G ((f t).toList ++ r) = pre (g t).toList (G r)) {r : List Char} (hr : Ends r) :
    G ((String.intercalate " " (ts.map f)).toList ++ r) = pre (String.intercalate " " (ts.map g)).toList (G r) := by
  induction ts with
  | nil => exact (h.nil _).symm
  | cons t ts ih =>
    have ht := hts t mem_cons_self
    cases ts with
    | nil => simpa using ht r hr
    | cons u us =>
      have hus := ih fun v hv => hts v (mem_cons_of_mem t hv)
      simp only [map_cons, String.intercalate_cons_cons, String.toList_append, append_assoc,
        show " ".toList = [' '] from rfl, cons_append, nil_append] at hus ⊢
      rw [ht _ (ends_blank _), hb, hus, h.append, ← h.append [' ']]
      rfl

end Scan

/-! ## 4. Cutting the text of a tree -/

/-- What `G` answers for texts with blanks between them, if it passes over a blank. -/
theorem joined_foldr {M : Type} {G : List Char → M} (hb : ∀ r, G (' ' :: r) = G r) {f : Tree → String}
    {act : Tree → M → M} (ts : List Tree) (h : ∀ t ∈ ts, ∀ r, Ends r → G ((f t).toList ++ r) = act t (G r))
    {r : List Char} (hr : Ends r) : G ((String.intercalate " " (ts.map f)).toList ++ r) = ts.foldr act (G r) := by
  induction ts with
  | nil => rfl
  | cons t ts ih =>
    have ht := h t mem_cons_self
    cases ts with
    | nil => simpa using ht r hr
    | cons u ts =>
      have hts := ih fun v hv => h v (mem_cons_of_mem t hv)
      simp only [map_cons, String.intercalate_cons_cons, String.toList_append, append_assoc,
        show " ".toList = [' '] from rfl, cons_append, nil_append] at hts ⊢
      rw [ht _ (ends_blank _), hb, hts]
      rfl

theorem foldr_marks (ts : List Tree) (xs : List (List Char)) :
    ts.foldr (fun t xs => t.marks.map String.toList ++ xs) xs = (allMarks ts).map String.toList ++ xs := by
  induction ts with
  | nil => rfl
  | cons t ts ih => rw [foldr_cons, ih, allMarks, map_append, append_assoc]

theorem cut_line (h : Wordly t) : ∀ r, Ends r → cut (t.line.toList ++ r) = t.marks.map String.toList ++ cut r := by
  induction h with
  | word hw =>
    intro r hr
    simpa [line, marks] using cut_word _ hw r hr
  | @node ts _ ih =>
    intro r hr
    have hts := (joined_foldr cut_blank ts ih (ends_close r)).trans (foldr_marks ts _)
    simp only [line, lines_eq_map, marks, String.toList_append, append_assoc,
      parens_toList, cons_append, nil_append]
    rw [cut_open, hts, cut_close]
    simp [parens_toList]

/-- **Cutting the text of a tree gives its words and brackets.** -/
theorem lexemes_line (h : Wordly t) : lexemes t.line = t.marks := by
  have hc := cut_line h [] trivial
  rw [append_nil, cut_nil, append_nil] at hc
  rw [lexemes_eq, hc, map_map]
  simp [Function.comp_def]

/-! ## 5. Reading the text of a tree -/

/-- A word that is no bracket. -/
abbrev IsAtom (w : String) : Prop := w ≠ "(" ∧ w ≠ ")"

theorem IsWord_ne {w : String} (h : IsWord w) : IsAtom w := by
  refine ⟨?_, ?_⟩ <;> rintro rfl
  · exact absurd rfl (h.2 '(' (by decide)).2.1
  · exact absurd rfl (h.2 ')' (by decide)).2.2

/-- A reader that keeps the lists that are open, as `readOpen` and `readAll` do. -/
structure OpenReader (R : Open → List String → Conversion Tree) : Prop where
  opening : ∀ lists rest, R lists ("(" :: rest) = R ([] :: lists) rest
  closing : ∀ l m lists rest, R (l :: m :: lists) (")" :: rest) = R ((.node l.reverse :: m) :: lists) rest
  word : ∀ w l lists rest, IsAtom w → R (l :: lists) (w :: rest) = R ((.word w :: l) :: lists) rest

theorem openReader_readOpen : OpenReader readOpen where
  opening _ _ := by rw [readOpen]
  closing _ _ _ _ := by rw [readOpen]
  word w l lists rest h := by
    rw [readOpen.eq_5 l lists w rest h.1 (fun _ e => absurd e h.2) (fun _ _ _ e => absurd e h.2)]

section OpenReader

variable {R : Open → List String → Conversion Tree}

theorem OpenReader.allMarks (ts : List Tree) (ih : ∀ t ∈ ts, ∀ l lists rest, R (l :: lists) (t.marks ++ rest) =
      R ((t :: l) :: lists) rest) (l : List Tree) (lists : Open) (rest : List String) :
    R (l :: lists) (allMarks ts ++ rest) = R ((ts.reverse ++ l) :: lists) rest := by
  induction ts generalizing l with
  | nil => rfl
  | cons t ts iht =>
    rw [Tree.allMarks, append_assoc, ih t (by simp)]
    rw [iht fun u hu => ih u (mem_cons_of_mem t hu)]
    simp

/-- Reading takes the words and brackets of a tree for an element of the innermost open list. -/
theorem OpenReader.marks (hR : OpenReader R) (h : t.Words IsAtom) :
    ∀ l lists rest, R (l :: lists) (t.marks ++ rest) = R ((t :: l) :: lists) rest := by
  induction h with
  | word hw =>
    intro l lists rest
    exact hR.word _ l lists rest hw
  | @node ts _ ih =>
    intro l lists rest
    have hts := OpenReader.allMarks ts ih [] (l :: lists) (")" :: rest)
    simp only [Tree.marks, cons_append, append_assoc, nil_append]
    rw [hR.opening, hts, hR.closing]
    simp

end OpenReader

/-- Reading takes a tree from the words and brackets at the start of a text. -/
theorem read_of_marks {s : String} {rest : List String} (h : t.Words IsAtom) (hs : lexemes s = t.marks ++ rest) :
    read s = .ok t := by
  unfold read
  rw [hs]
  cases h with
  | @word w hw => simp [marks, hw.1, hw.2, pure, Except.pure]
  | @node ts hts =>
    have h' := OpenReader.allMarks ts (fun t ht => openReader_readOpen.marks (hts t ht)) [] [] (")" :: rest)
    simp only [marks, cons_append, append_assoc, nil_append]
    rw [h', readOpen]
    simp [pure, Except.pure]

/-- **Reading the text of a tree gives the tree.** -/
theorem read_line (h : Wordly t) : read t.line = .ok t :=
  read_of_marks (h.imp fun _ => IsWord_ne) ((lexemes_line h).trans (append_nil _).symm)

end Tree

end PuzzlePrograms
