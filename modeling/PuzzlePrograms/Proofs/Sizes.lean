import PuzzlePrograms.Library.Size
import PuzzlePrograms.Proofs.Replacing

/-!
# The size of a program and the size of its text

`programSize` measures a text: it counts and deletes the openings of functions, counts the blanks that are left, deletes
the brackets and counts the words.

* `weigh` adds up weights of atoms, functions and applications over a program;
* `bare` is the text of a program without the openings of its functions;
* `Measured`: each of the four counts, for one program. It is shown for atoms, functions and applications in turn;
* **`programSize_line`**: the size of the text of a program is the cost of the program.
-/

namespace PuzzlePrograms.Library

open PuzzlePrograms.Tree Text
open List hiding replace count

variable {t b : Tree} {ts : List Tree}

/-! ## 1. Programs with functions -/

/-- An atom, a function or an application to one argument or more. -/
inductive IsCode : Tree → Prop where
  | atom {w : String} (h : IsAtom w) (hlam : w ≠ "lam") : IsCode (.word w)
  | lam {b : Tree} (h : IsCode b) : IsCode (.node [.word "lam", b])
  | app {f a : Tree} {ts : List Tree} (h : ∀ t ∈ f :: a :: ts, IsCode t) : IsCode (.node (f :: a :: ts))

mutual

/-- The weight of a program in which an atom weighs `atom`, a function `fn` more than its body and an application as
    much more than its elements as `app` says for their number. -/
def weigh (atom fn : Nat) (app : Nat → Nat) : Tree → Nat
  | .node [f, b] =>
    if f.isWord "lam" then fn + weigh atom fn app b else app 2 + (weigh atom fn app f + weigh atom fn app b)
  | .node ts => app ts.length + weighAll atom fn app ts
  | _ => atom

def weighAll (atom fn : Nat) (app : Nat → Nat) : List Tree → Nat
  | [] => 0
  | t :: ts => weigh atom fn app t + weighAll atom fn app ts

end

/-- The atoms of a program. -/
abbrev atoms : Tree → Nat := weigh 1 0 fun _ => 0

/-- The functions of a program. -/
abbrev functions : Tree → Nat := weigh 0 1 fun _ => 0

/-- The arguments of all applications of a program. -/
abbrev arguments : Tree → Nat := weigh 0 0 fun n => n - 1

section Weights

variable {atom fn : Nat} {app : Nat → Nat}

theorem IsCode.not_lam (h : IsCode t) : t.isWord "lam" = false := by
  cases h with
  | atom _ hlam => simpa [Tree.isWord] using hlam
  | lam | app => rfl

theorem weigh_lam (b : Tree) : weigh atom fn app (.node [.word "lam", b]) = fn + weigh atom fn app b := by
  simp [weigh, Tree.isWord]

theorem weigh_app (h : IsCode t) : weigh atom fn app (.node (t :: b :: ts)) =
    app (ts.length + 2) + weighAll atom fn app (t :: b :: ts) := by
  cases ts with
  | nil => simp [weigh, weighAll, h.not_lam]
  | cons u ts => rfl

theorem foldr_weigh (ts : List Tree) (n : Nat) :
    ts.foldr (fun t n => weigh atom fn app t + n) n = weighAll atom fn app ts + n := by
  induction ts with
  | nil => simp [weighAll]
  | cons t ts ih => rw [foldr_cons, ih, weighAll, Nat.add_assoc]

end Weights

/-! ## 2. Counts of a text -/

abbrev opening : List Char := ['(', 'l', 'a', 'm', ' ']

/-- A text without the openings of functions. -/
abbrev unopened (cs : List Char) : List Char := replaceChars opening [] 0 cs

abbrev openings (cs : List Char) : Nat := countChars opening 0 cs

/-- The words of a text after its brackets have been deleted. -/
def wordCount (cs : List Char) : Nat :=
  ((splitChars [' '] [] 0 (cs.filter fun c => c != '(' && c != ')')).filter (· != [])).length

theorem countChars_single (c : Char) (cs : List Char) : countChars [c] 0 cs = cs.count c := by
  induction cs with
  | nil => rfl
  | cons d cs ih =>
    by_cases hd : d = c
    · simp [countChars, hd, ih, Nat.add_comm]
    · simp [countChars, isPrefixOf, hd, Ne.symm hd, ih]

theorem flatMap_delete (a : Char) (cs : List Char) :
    (cs.flatMap fun c => if c = a then [] else [c]) = cs.filter (· != a) := by
  induction cs with
  | nil => rfl
  | cons c cs ih => by_cases h : c = a <;> simp [h, ih]

theorem splitChars_word {part w : List Char} (h : ' ' ∉ w) : splitChars [' '] part 0 w = [part.reverse ++ w] := by
  induction w generalizing part with
  | nil => simp [splitChars]
  | cons c w ih =>
    rw [mem_cons, not_or] at h
    simp [splitChars, isPrefixOf, h.1, ih h.2]

theorem splitChars_blank (part x y : List Char) :
    splitChars [' '] part 0 (x ++ ' ' :: y) = splitChars [' '] part 0 x ++ splitChars [' '] [] 0 y := by
  induction x generalizing part with
  | nil => simp [splitChars]
  | cons c x ih =>
    by_cases hc : c = ' '
    · simp [splitChars, hc, ih]
    · simp [splitChars, isPrefixOf, Ne.symm hc, ih]

theorem wordCount_blank (x y : List Char) : wordCount (x ++ ' ' :: y) = wordCount x + wordCount y := by
  simp [wordCount, splitChars_blank]

theorem wordCount_brackets (x : List Char) :
    wordCount ('(' :: x) = wordCount x ∧ wordCount (x ++ [')']) = wordCount x := by
  simp [wordCount]

theorem wordCount_atom {w : String} (h : IsAtom w) : wordCount w.toList = 1 := by
  have hmarks : (w.toList.filter fun c => c != '(' && c != ')') = w.toList :=
    filter_eq_self.mpr fun c hc => by
      have := h.2 c hc
      simp only [Ends, not_or] at this
      simp [this]
  have hblank : ' ' ∉ w.toList := fun hb => h.2 _ hb (ends_blank [])
  simp [wordCount, hmarks, splitChars_word hblank, h.1]

theorem programSize_eq (s : String) : programSize s =
    100 * wordCount (unopened s.toList) + openings s.toList + (unopened s.toList).count ' ' := by
  have hwords :
    ∀ cs : List (List Char), ((cs.map String.ofList).filter (· != "")).length = (cs.filter (· != [])).length := by
    intro cs
    induction cs with
    | nil => rfl
    | cons c cs ih => by_cases hc : c = [] <;> simp_all
  simp only [programSize, count, unopened, openings, replace, split, wordCount, show "(lam ".toList = opening from rfl,
    show " ".toList = [' '] from rfl, parens_toList,
    show "".toList = [] from rfl, String.toList_ofList, replaceChars_single, flatMap_delete, filter_filter, hwords,
    countChars_single, inner, leaf]
  simp only [Bool.and_comm]
  omega

/-! ## 3. The text of a program without the openings of its functions -/

def bare (t : Tree) : List Char := unopened t.line.toList

structure Measured (t : Tree) : Prop where
  text : ∀ r, Ends r → unopened (t.line.toList ++ r) = bare t ++ unopened r
  openings : ∀ r, Ends r → openings (t.line.toList ++ r) = functions t + Library.openings r
  blanks : (bare t).count ' ' = arguments t
  words : wordCount (bare t) = atoms t

theorem unopened_cons {c : Char} (hc : c ≠ '(') (r : List Char) : unopened (c :: r) = c :: unopened r := by
  rw [unopened, replaceChars, if_neg (by simp [isPrefixOf, hc.symm])]

theorem openings_cons {c : Char} (hc : c ≠ '(') (r : List Char) : openings (c :: r) = openings r := by
  rw [openings, countChars, if_neg (by simp [isPrefixOf, hc.symm])]

theorem measured_atom {w : String} (h : IsAtom w) : Measured (.word w) := by
  have hopen : ∀ c ∈ w.toList, c ≠ '(' := fun c hc e => h.2 c hc (.inr (.inl e))
  have htext : ∀ r, unopened (w.toList ++ r) = w.toList ++ unopened r :=
    (scan_append unopened).chars fun c hc => unopened_cons (hopen c hc)
  have hbare : bare (.word w) = w.toList := by simpa [bare, line, replaceChars] using htext []
  have hblank : ' ' ∉ w.toList := fun hb => h.2 _ hb (ends_blank [])
  have hscan : Scan openings fun _ n => n := ⟨fun _ => rfl, fun _ _ _ => rfl⟩
  refine ⟨fun r _ => ?_, fun r _ => ?_, ?_, ?_⟩
  · rw [hbare, line, htext]
  · rw [line, hscan.chars (fun c hc r => openings_cons (hopen c hc) r) r]
    simp [weigh]
  · simp [hbare, weigh, count_eq_zero.mpr hblank]
  · rw [hbare, wordCount_atom h]
    rfl

theorem line_lam (b : Tree) : (node [.word "lam", b]).line.toList = opening ++ (b.line.toList ++ [')']) := by
  rw [toList_line_node]
  simp [line]

theorem measured_lam (h : Measured b) : Measured (.node [.word "lam", b]) := by
  have htext : ∀ r, unopened ((node [.word "lam", b]).line.toList ++ r) = bare b ++ ')' :: unopened r := fun r => by
    have hbody : unopened (b.line.toList ++ ')' :: r) = _ := h.text _ (ends_close r)
    rw [unopened_cons (by decide)] at hbody
    rw [line_lam, append_assoc, unopened, replaceChars_self (by simp), nil_append, append_assoc, singleton_append]
    exact hbody
  have hbare : bare (.node [.word "lam", b]) = bare b ++ [')'] := by simpa [bare, replaceChars] using htext []
  refine ⟨fun r _ => ?_, fun r _ => ?_, ?_, ?_⟩
  · simp [hbare, htext]
  · have hopen : ∀ x, openings (opening ++ x) = 1 + openings x := fun x => by simp [countChars, isPrefixOf]
    rw [line_lam, append_assoc, hopen, append_assoc, singleton_append, h.openings _ (ends_close r),
      openings_cons (by decide),
      functions, weigh_lam, Nat.add_assoc]
  · simp [hbare, h.blanks, weigh_lam]
  · rw [hbare, (wordCount_brackets _).2, h.words, atoms, weigh_lam, Nat.zero_add]

/-- The opening bracket of an application does not open a function. -/
theorem not_opening (h : IsCode t) {r : List Char} (hr : Ends r) :
    ¬opening.isPrefixOf ('(' :: (t.line.toList ++ r)) = true := by
  intro hp
  have hpre := isPrefixOf_iff_prefix.mp hp
  obtain ⟨-, hp⟩ := cons_prefix_cons.mp hpre
  cases h with
  | @atom w h hlam =>
    obtain ⟨hw, -⟩ := (prefix_word_mark (p := ['l', 'a', 'm']) (ends_blank []) (by simp [Ends]) h.2 hr).mp hp
    exact hlam (String.toList_injective hw.symm)
  | lam | app => simp [toList_line_node] at hp

/-- The text of elements with blanks between them, up to the bracket. -/
theorem unopened_joined (h : ∀ t ∈ ts, Measured t) (r : List Char) :
    unopened ((String.intercalate " " (ts.map line)).toList ++ ')' :: r) = [' '].intercalate (ts.map bare) ++ ')' ::
    unopened r := by
  have hjoined := (scan_append unopened).joined (g := fun t => .ofList (bare t)) (unopened_cons (by decide)) ts
    (fun t ht r hr => by rw [(h t ht).text r hr, String.toList_ofList]) (ends_close r)
  rw [hjoined, unopened_cons (by decide)]
  simp [Function.comp_def]

theorem count_joined (h : ∀ t ∈ ts, Measured t) :
    ([' '].intercalate (ts.map bare)).count ' ' = (ts.length - 1) + weighAll 0 0 (fun n => n - 1) ts := by
  induction ts with
  | nil => rfl
  | cons t ts ih =>
    have ht := (h t mem_cons_self).blanks
    have hts := ih fun u hu => h u (mem_cons_of_mem t hu)
    cases ts with
    | nil => simp [weighAll, ht]
    | cons u ts =>
      simp [weighAll, ht, arguments] at hts ⊢
      omega

theorem wordCount_joined (h : ∀ t ∈ ts, Measured t) (hne : ts ≠ []) :
    wordCount ([' '].intercalate (ts.map bare)) = weighAll 1 0 (fun _ => 0) ts := by
  induction ts with
  | nil => exact absurd rfl hne
  | cons t ts ih =>
    have ht := (h t mem_cons_self).words
    cases ts with
    | nil => simp [weighAll, ht]
    | cons u ts =>
      have hts := ih (fun u hu => h u (mem_cons_of_mem t hu)) (by simp)
      simp [weighAll, ht, atoms, wordCount_blank] at hts ⊢
      omega

theorem measured_app {f a : Tree} (hf : IsCode f) (h : ∀ t ∈ f :: a :: ts, Measured t) :
    Measured (.node (f :: a :: ts)) := by
  have hline : ∀ r, (node (f :: a :: ts)).line.toList ++ r =
      '(' :: ((String.intercalate " " ((f :: a :: ts).map line)).toList ++ ')' :: r) := fun r => by
    rw [toList_line_node, append_assoc, singleton_append, cons_append]
  -- after the first element of an application there is a blank
  have hopen : ∀ r,
    ¬opening.isPrefixOf ('(' :: ((String.intercalate " " ((f :: a :: ts).map line)).toList ++ ')' :: r)) = true := by
    intro r
    have hfirst := not_opening hf (ends_blank ((String.intercalate " " ((a :: ts).map line)).toList ++ ')' :: r))
    rw [map_cons, map_cons, String.intercalate_cons_cons, String.toList_append, String.toList_append, append_assoc,
      append_assoc]
    exact hfirst
  have htext : ∀ r, unopened ((node (f :: a :: ts)).line.toList ++ r) =
      '(' :: ([' '].intercalate ((f :: a :: ts).map bare) ++ ')' :: unopened r) := fun r => by
    rw [hline, unopened, replaceChars, if_neg (hopen r)]
    exact congrArg _ (unopened_joined h r)
  have hbare : bare (.node (f :: a :: ts)) = '(' :: ([' '].intercalate ((f :: a :: ts).map bare) ++ [')']) := by
    simpa [bare, replaceChars] using htext []
  refine ⟨fun r _ => ?_, fun r _ => ?_, ?_, ?_⟩
  · rw [hbare, htext, cons_append, append_assoc, singleton_append]
  · have hjoined := joined_foldr (G := openings) (openings_cons (by decide)) (f :: a :: ts)
      (fun t ht => (h t ht).openings) (ends_close r)
    rw [foldr_weigh, openings_cons (by decide)] at hjoined
    rw [hline, openings, countChars, if_neg (hopen r), functions, weigh_app hf, Nat.zero_add]
    exact hjoined
  · rw [hbare, count_cons_of_ne (by decide), count_append, count_joined h, arguments, weigh_app hf]
    simp
  · rw [hbare, (wordCount_brackets _).1, (wordCount_brackets _).2, wordCount_joined h (by simp), atoms, weigh_app hf,
      Nat.zero_add]

theorem IsCode.measured (h : IsCode t) : Measured t := by
  induction h with
  | atom h => exact measured_atom h
  | lam _ ih => exact measured_lam ih
  | app h ih => exact measured_app (h _ mem_cons_self) ih

/-- **The size of the text of a program is the cost of the program.** -/
theorem programSize_line (h : IsCode t) : programSize t.line = 100 * atoms t + functions t + arguments t := by
  have hm := h.measured
  have hopenings := hm.openings [] trivial
  rw [append_nil, openings, openings, countChars, Nat.add_zero] at hopenings
  rw [programSize_eq, ← bare, hm.words, hm.blanks, openings, hopenings]

/-- Functions at the head, in arguments and under one another. -/
theorem programSize_line_functions : programSize "((lam (lam (f $0 $1))) (lam x) lamb)" = 100 * 5 + 3 + 4 := by
  have hatom : ∀ w ∈ ["f", "$0", "$1", "x", "lamb"], IsCode (.word w) :=
    fun w hw => .atom ((by decide : ∀ w ∈ ["f", "$0", "$1", "x", "lamb"], IsAtom w) w hw) (by rintro rfl; simp at hw)
  have hbody : IsCode (.node [.word "f", .word "$0", .word "$1"]) :=
    .app (by simpa using ⟨hatom _ (by simp), hatom _ (by simp), hatom _ (by simp)⟩)
  have h : IsCode (.node [.node [.word "lam", .node [.word "lam", .node [.word "f", .word "$0", .word "$1"]]],
      .node [.word "lam", .word "x"], .word "lamb"]) :=
    .app (by simpa using ⟨.lam (.lam hbody), .lam (hatom _ (by simp)), hatom _ (by simp)⟩)
  have hsize := programSize_line h
  simpa [line, lines, weigh, weighAll, Tree.isWord] using hsize

end PuzzlePrograms.Library
