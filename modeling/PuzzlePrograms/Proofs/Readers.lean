import PuzzlePrograms.Proofs.Showing

/-!
# Two readers of trees

`readWhole` wants the whole text to be one list and keeps the lists that are open; `read` reads the first tree of a text
and does not look at what comes after it. Both are compared with the words and brackets of a tree (`Tree.marks`).

* `readAll_ok`: what has been read and what is still to be read are the words and brackets of the answer;
* **`read_of_readWhole`**: without sharps, the answer of `readWhole` is that of `read`;
* **`readWhole_refusals`**: which texts are answered, and with what the others are refused.
-/

namespace PuzzlePrograms.Tree

open Text
open List hiding replace count

variable {s whole : String} {t : Tree} {lists : Open} {rest : List String}

/-! ## 1. What has been read -/

/-- The words and brackets that stand before the place where the lists `lists` are open. -/
def readMarks : Open → List String
  | [] => []
  | l :: lists => readMarks lists ++ "(" :: allMarks l.reverse

/-- The elements of the open lists are trees that can be read. -/
abbrev Readable (lists : Open) : Prop := ∀ l ∈ lists, ∀ t ∈ l, t.Words IsAtom

theorem readAll_ok (h : readAll whole lists rest = .ok t) (hl : Readable lists) :
    readMarks lists ++ rest = t.marks ∧ t.Words IsAtom := by
  fun_induction readAll whole lists rest with
  | case1 | case4 | case7 => cases h
  | case2 lists rest ih =>
    obtain ⟨hm, ht⟩ := ih h (by simpa [Readable] using hl)
    exact ⟨by simpa [readMarks, allMarks] using hm, ht⟩
  | case3 l =>
    cases h
    refine ⟨by simp [readMarks, marks], .node fun u hu => ?_⟩
    exact hl l mem_cons_self u (mem_reverse.mp hu)
  | case5 l m lists rest ih =>
    obtain ⟨hl, hm, hlists⟩ : _ ∧ _ ∧ _ := by simpa [Readable] using hl
    have hnode : (node l.reverse).Words IsAtom := .node fun u hu => hl u (mem_reverse.mp hu)
    obtain ⟨hmarks, ht⟩ := ih h (by simpa [Readable] using ⟨⟨hnode, hm⟩, hlists⟩)
    exact ⟨by simpa [readMarks, allMarks, allMarks_append, marks] using hmarks, ht⟩
  | case6 l lists w rest hopen _ hone hmore ih =>
    obtain ⟨hl, hlists⟩ : _ ∧ _ := by simpa [Readable] using hl
    have hw : IsAtom w := by
      refine ⟨hopen, fun hclose => ?_⟩
      cases lists with
      | nil => exact hone rfl hclose
      | cons m lists => exact hmore m lists rfl hclose
    obtain ⟨hmarks, ht⟩ := ih h (by simpa [Readable] using ⟨⟨.word hw, hl⟩, hlists⟩)
    exact ⟨by simpa [readMarks, allMarks, allMarks_append, marks] using hmarks, ht⟩

/-! ## 2. Texts without sharps -/

theorem opened_of_notMem {cs : List Char} (h : '#' ∉ cs) : opened cs = cs := by
  induction cs with
  | nil => rfl
  | cons c cs ih =>
    rw [mem_cons, not_or] at h
    rw [opened_cons (Ne.symm h.1), ih h.2]

theorem toList_replace_sharps : (replace s "#(" "(# ").toList = opened s.toList := String.toList_ofList

/-- **Without sharps, a text that is one list is read alike by both readers.** -/
theorem read_of_readWhole (hs : '#' ∉ s.toList) (h : readWhole s = .ok t) : read s = .ok t ∧ lexemes s = t.marks := by
  have hlex : lexemes (replace s "#(" "(# ") = lexemes s := by
    rw [lexemes_eq, lexemes_eq, toList_replace_sharps, opened_of_notMem hs]
  unfold readWhole at h
  rw [hlex] at h
  split at h
  · cases h
  · split at h
    · cases h
    · cases h
    · rename_i a b rest hcut
      split at h
      · cases h
      · obtain ⟨hmarks, ht⟩ := readAll_ok h (by simp [Readable])
        have hall : lexemes s = t.marks := hcut.trans hmarks
        exact ⟨read_of_marks ht (hall.trans (append_nil _).symm), hall⟩

/-- Lists inside one another and side by side, an empty one, and blanks of several kinds. -/
theorem read_of_readWhole_nested :
    let t := node [.word "f", .node [.node [], .word "a"], .node [.word "b"]]
    '#' ∉ " (f\n(( )a)\t( b))".toList ∧ readWhole " (f\n(( )a)\t( b))" = .ok t ∧ read " (f\n(( )a)\t( b))" = .ok t :=
  ⟨by decide, rfl, (read_of_readWhole (by decide) rfl).1⟩

/-! ## 3. Refusals -/

/-- The refusals that say that a text is no tree. -/
inductive IsParseError : Problem → Prop where
  | empty : IsParseError .noExpression
  | closed : IsParseError .startsClosed
  | trailing (s : String) : IsParseError (.trailing s)
  | unclosed (s : String) : IsParseError (.unclosed s)

/-- A conversion ends with an answer or such a refusal. -/
def Parses (x : Conversion Tree) : Prop := (∃ t, x = .ok t) ∨ ∃ e, x = .error e ∧ IsParseError e

theorem parses_readAll (hl : lists ≠ []) : Parses (readAll whole lists rest) := by
  fun_induction readAll whole lists rest with
  | case1 => exact .inr ⟨_, rfl, .unclosed whole⟩
  | case2 lists rest ih => exact ih (cons_ne_nil _ _)
  | case3 l => exact .inl ⟨_, rfl⟩
  | case4 => exact .inr ⟨_, rfl, .trailing whole⟩
  | case5 l m lists rest ih => exact ih (cons_ne_nil _ _)
  | case6 l lists w rest _ _ _ _ ih => exact ih (cons_ne_nil _ _)
  | case7 => exact absurd rfl hl

/-- Every sharp of a text stands before a bracket. -/
def SharpsOpen : List Char → Prop
  | [] => True
  | c :: cs => (c = '#' → ['('] <+: cs) ∧ SharpsOpen cs

theorem SharpsOpen.paired {cs : List Char} (h : SharpsOpen cs) : Paired cs := by
  induction cs with
  | nil => rfl
  | cons c cs ih =>
    by_cases hc : c = '#'
    · subst hc
      obtain ⟨r, rfl⟩ := h.1 rfl
      exact paired_sharp (by simpa [Paired, countChars, isPrefixOf] using ih h.2)
    · exact paired_cons hc (ih h.2)

/-- Words and brackets at which a list is looked for that is not there: a single one, or two that are no start of a
    list, the second of which does not close. -/
def Headless : List String → Prop
  | [] => False
  | [_] => True
  | a :: b :: _ => a ≠ "(" ∧ b ≠ ")"

/-- **A text whose sharps stand before brackets is read or refused as no tree, unless a list is looked for that is not
    there.** -/
theorem readWhole_refusals (hs : SharpsOpen s.toList) :
    (Headless (lexemes (replace s "#(" "(# ")) → readWhole s = fail .outOfRange) ∧
    (¬ Headless (lexemes (replace s "#(" "(# ")) → Parses (readWhole s)) := by
  have hcount : count s "#(" = count s "#" := hs.paired
  unfold readWhole
  rw [hcount, if_neg (by simp)]
  generalize lexemes (replace s "#(" "(# ") = ws
  rcases ws with _ | ⟨a, _ | ⟨b, rest⟩⟩
  · exact ⟨fun h => h.elim, fun _ => .inr ⟨_, rfl, .empty⟩⟩
  · exact ⟨fun _ => rfl, fun h => absurd trivial h⟩
  · by_cases hb : b = ")"
    · subst hb
      exact ⟨fun h => absurd rfl h.2, fun _ => .inr ⟨_, rfl, .closed⟩⟩
    · simp only [beq_iff_eq, hb, if_false]
      by_cases ha : a = "("
      · subst ha
        refine ⟨fun h => absurd rfl h.1, fun _ => ?_⟩
        rw [readAll]
        exact parses_readAll (cons_ne_nil _ _)
      · exact ⟨fun _ => by rw [readAll]; exact ha, fun h => absurd ⟨ha, hb⟩ h⟩

/-- A single word, and a list behind a sharp inside a list that is not closed. -/
theorem readWhole_refusals_word : readWhole "foo" = fail .outOfRange ∧ Parses (readWhole "(f #(g)") :=
  have hfoo : SharpsOpen "foo".toList := by simp [SharpsOpen]
  have hopen : SharpsOpen "(f #(g)".toList := by simp [SharpsOpen]
  ⟨(readWhole_refusals hfoo).1 trivial, (readWhole_refusals hopen).2 fun h => h.1 rfl⟩

end PuzzlePrograms.Tree
