import PuzzlePrograms.Proofs.TreeText

/-!
# Trees that are shown and read again

`shown?` writes a list that starts with a sharp with the sharp before its bracket, and `readWhole` moves it back by a
replacement in the text before it cuts the text.

* `Shows s t`: the text `s` is cut into the words and brackets of `t`, and every sharp in it stands before a bracket;
* `shows_shown`: what is written for a tree shows it, by induction on the tree;
* **`readWhole_shown`**: reading what is written for a list gives the list.
-/

namespace PuzzlePrograms.Tree

open Text
open List hiding replace count

variable {t : Tree} {c : Char} {r : List Char} {f : Tree → String} {ts : List Tree}

/-- A tree whose words have no sharps, except that a list may start with the word `#`. -/
inductive IsForm : Tree → Prop where
  | word {w : String} (h : IsWord w) (hsharp : '#' ∉ w.toList) : IsForm (.word w)
  | list {ts : List Tree} (h : ∀ t ∈ ts, IsForm t) : IsForm (.node ts)
  | sharp {ts : List Tree} (h : ∀ t ∈ ts, IsForm t) : IsForm (.node (.word "#" :: ts))

theorem isWord_sharp : IsWord "#" := ⟨by decide, forall_chars (by decide)⟩

theorem IsForm.wordly (h : IsForm t) : t.Wordly := by
  induction h with
  | word h => exact .word h
  | list _ ih => exact .node ih
  | sharp _ ih => exact .node (forall_mem_cons.mpr ⟨.word isWord_sharp, ih⟩)

/-! ## 1. Sharps before brackets -/

/-- A text with its sharps moved behind the brackets. -/
abbrev opened (cs : List Char) : List Char := replaceChars ['#', '('] ['(', '#', ' '] 0 cs

/-- Every sharp stands before a bracket. -/
abbrev Paired (cs : List Char) : Prop := countChars ['#', '('] 0 cs = countChars ['#'] 0 cs

theorem opened_cons (hc : c ≠ '#') (r : List Char) : opened (c :: r) = c :: opened r := by
  rw [opened, replaceChars, if_neg (by simp [isPrefixOf, hc.symm])]

theorem opened_sharp (r : List Char) : opened ('#' :: '(' :: r) = '(' :: '#' :: ' ' :: opened r := rfl

theorem paired_cons (hc : c ≠ '#') (h : Paired r) : Paired (c :: r) := by
  simpa [Paired, countChars, isPrefixOf, hc.symm] using h

theorem paired_sharp (h : Paired r) : Paired ('#' :: '(' :: r) := by simpa [Paired, countChars, isPrefixOf] using h

theorem ends_opened (h : Ends r) : Ends (opened r) := by
  cases r with
  | nil => trivial
  | cons c r =>
    rw [opened_cons (by rintro rfl; simp [Ends] at h)]
    exact h

/-! ## 2. What is written -/

structure Shows (s : String) (t : Tree) : Prop where
  cut : ∀ r, Ends r → cut (opened (s.toList ++ r)) = t.marks.map String.toList ++ Tree.cut (opened r)
  paired : ∀ r, Paired r → Paired (s.toList ++ r)

theorem shows_word {w : String} (h : IsWord w) (hsharp : '#' ∉ w.toList) : Shows w (.word w) where
  cut r hr := by
    have hw : opened (w.toList ++ r) = w.toList ++ opened r :=
      (scan_append opened).chars (fun c hc r => opened_cons (fun e => hsharp (e ▸ hc)) r) r
    rw [hw, cut_word w h _ (ends_opened hr)]
    rfl
  paired r hr := by
    generalize w.toList = cs at hsharp
    induction cs with
    | nil => exact hr
    | cons c cs ih =>
      rw [mem_cons, not_or] at hsharp
      exact paired_cons (.symm hsharp.1) (ih hsharp.2)

/-- The elements of a list with blanks between them, up to its bracket. -/
theorem shows_joined (h : ∀ t ∈ ts, Shows (f t) t) :
    let joined := (String.intercalate " " (ts.map f)).toList
    (∀ r, Tree.cut (opened (joined ++ ')' :: r)) = (allMarks ts).map String.toList ++ [')'] :: Tree.cut (opened r)) ∧
      ∀ r, Paired r → Paired (joined ++ ')' :: r) := by
  refine ⟨fun r => ?_, fun r hr => ?_⟩
  · have hb : ∀ r, Tree.cut (opened (' ' :: r)) = Tree.cut (opened r) :=
      fun r => by rw [opened_cons (by decide), cut_blank]
    rw [joined_foldr (G := fun cs => Tree.cut (opened cs)) hb ts (fun t ht => (h t ht).cut) (ends_close r), foldr_marks,
      opened_cons (by decide), cut_close]
  · have hclose : Paired (')' :: r) := paired_cons (by decide) hr
    induction ts with
    | nil => exact hclose
    | cons t ts ih =>
      have hts := ih fun u hu => h u (mem_cons_of_mem t hu)
      have ht := (h t mem_cons_self).paired
      cases ts with
      | nil => simpa using ht _ hclose
      | cons u ts => simpa using ht _ (paired_cons (by decide : ' ' ≠ '#') hts)

theorem shows_list (h : ∀ t ∈ ts, Shows (f t) t) :
    Shows ("(" ++ String.intercalate " " (ts.map f) ++ ")") (.node ts) := by
  obtain ⟨hcut, hpaired⟩ := shows_joined h
  refine ⟨fun r _ => ?_, fun r hr => ?_⟩
  · simpa [opened_cons, marks] using hcut r
  · simpa using paired_cons (by decide : '(' ≠ '#') (hpaired r hr)

theorem shows_sharp (h : ∀ t ∈ ts, Shows (f t) t) :
    Shows ("#(" ++ .intercalate " " (ts.map f) ++ ")") (.node (.word "#" :: ts)) := by
  obtain ⟨hcut, hpaired⟩ := shows_joined h
  refine ⟨fun r _ => ?_, fun r hr => ?_⟩
  · have hsharp :=
      cut_word "#" isWord_sharp _ (ends_blank (opened ((String.intercalate " " (ts.map f)).toList ++ ')' :: r)))
    rw [cut_blank, hcut] at hsharp
    simpa [opened_sharp, marks, allMarks] using hsharp
  · simpa using paired_sharp (hpaired r hr)

/-- What is written for a tree, if something is. -/
def shown (t : Tree) : String := (t.shown?.toOption.bind id).getD ""

theorem allShown_eq (h : ∀ t ∈ ts, t.shown? = .ok (some t.shown)) : allShown ts = .ok (ts.map shown) := by
  induction ts with
  | nil => rfl
  | cons t ts ih =>
    rw [allShown, h t mem_cons_self, ih fun u hu => h u (mem_cons_of_mem t hu)]
    rfl

/-- **What is written for a tree shows it.** -/
theorem shows_shown (h : IsForm t) : t.shown? = .ok (some t.shown) ∧ Shows t.shown t := by
  have hof : ∀ {u : Tree} {s : String}, u.shown? = .ok (some s) → Shows s u → u.shown? = .ok (some u.shown) ∧
    Shows u.shown u := by
    intro u s hs hshows
    obtain rfl : u.shown = s := by simp [shown, hs, Except.toOption]
    exact ⟨hs, hshows⟩
  induction h with
  | word h hsharp => exact hof rfl (shows_word h hsharp)
  | @list ts h ih =>
    refine hof ?_ (shows_list fun t ht => (ih t ht).2)
    cases ts with
    | nil => rfl
    | cons t ts =>
      cases h t mem_cons_self with
      | @word w _ hsharp =>
        have hw : starts w "#" = false := Bool.eq_false_iff.mpr fun hs => by
          have hpre := isPrefixOf_iff_prefix.mp hs
          exact hsharp (hpre.subset (by simp))
        rw [shown?, allShown_eq fun u hu => (ih u (mem_cons_of_mem _ hu)).1]
        simp only [bind, Except.bind, hw]
        rfl
      | list | sharp =>
        rw [shown?, allShown_eq fun u hu => (ih u hu).1]
        · rfl
        · simp
  | @sharp ts _ ih =>
    have hall := allShown_eq fun t ht => (ih t ht).1
    refine hof ?_ (shows_sharp fun t ht => (ih t ht).2)
    rw [shown?, hall]
    rfl

/-! ## 3. Reading -/

theorem openReader_readAll (whole : String) : OpenReader (readAll whole) where
  opening _ _ := by rw [readAll]
  closing _ _ _ _ := by rw [readAll]
  word w l lists rest h := by rw [readAll.eq_6 whole l lists w rest h.1] <;> simp [h.2]

theorem readAll_marks (h : (node ts).Words IsAtom) (whole : String) :
    readAll whole [] (node ts).marks = .ok (node ts) := by
  cases h with
  | node hts =>
    have hread := OpenReader.allMarks ts (fun t ht => (openReader_readAll whole).marks (hts t ht)) [] [] [")"]
    rw [marks, cons_append, readAll, hread]
    simp [readAll, pure, Except.pure]

/-- The second word or bracket of a list that is not empty does not close it. -/
theorem marks_second (h : t.Wordly) (ts : List Tree) :
    ∃ b rest, (node (t :: ts)).marks = "(" :: b :: rest ∧ b ≠ ")" := by
  cases h with
  | @word w hw => exact ⟨w, _, rfl, (IsWord_ne hw).2⟩
  | node => exact ⟨"(", _, rfl, by decide⟩

/-- **Reading what is written for a list gives the list.** -/
theorem readWhole_shown {ts : List Tree} (h : IsForm (.node ts)) (hne : ts ≠ []) :
    ∃ s, (node ts).shown? = .ok (some s) ∧ readWhole s = .ok (.node ts) := by
  obtain ⟨hshown, hcut, hpaired⟩ := shows_shown h
  refine ⟨_, hshown, ?_⟩
  generalize (node ts).shown = s at hcut hpaired
  have hcount : count s "#(" = count s "#" := by simpa [count] using hpaired [] rfl
  have hlex : lexemes (replace s "#(" "(# ") = (node ts).marks := by
    have h := hcut [] trivial
    simp only [append_nil, opened, replaceChars, cut_nil] at h
    simp [lexemes_eq, replace, h, Function.comp_def]
  obtain ⟨t, us, rfl⟩ := exists_cons_of_ne_nil hne
  have hfirst : t.Wordly := by
    cases h.wordly with
    | node hts => exact hts t mem_cons_self
  obtain ⟨b, rest, hmarks, hb⟩ := marks_second hfirst us
  have hread := readAll_marks (h.wordly.imp fun _ => IsWord_ne) s
  unfold readWhole
  rw [hcount, hlex, hmarks]
  rw [hmarks] at hread
  simpa [hb] using hread

/-- Lists that start with a sharp at the head of a list, inside one another and side by side, and empty lists. -/
theorem readWhole_shown_nested :
    ∃ s, (node [.node [.word "#", .node [.word "#"], .word "f"], .node [], .node [.word "#", .node []]]).shown? =
    .ok (some s) ∧ s = "(#(#() f) () #(()))" ∧ readWhole s =
    .ok (node [.node [.word "#", .node [.word "#"], .word "f"], .node [], .node [.word "#", .node []]]) := by
  have hf : IsForm (.word "f") := .word ⟨by decide, forall_chars (by decide)⟩ (by decide)
  have hempty : IsForm (.node []) := .list (by simp)
  have hsharp : IsForm (.node [.word "#"]) := .sharp (by simp)
  have h : IsForm (.node [.node [.word "#", .node [.word "#"], .word "f"], .node [], .node [.word "#", .node []]]) :=
    .list (by simpa using ⟨.sharp (by simpa using ⟨hsharp, hf⟩), hempty, .sharp (by simpa using hempty)⟩)
  obtain ⟨s, hs, hread⟩ := readWhole_shown h (by simp)
  exact ⟨s, hs, (Option.some.inj (Except.ok.inj hs)).symm, hread⟩

end PuzzlePrograms.Tree
