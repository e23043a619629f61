import PuzzlePrograms.Text.SmallLetter
import PuzzlePrograms.Proofs.Names

/-!
# Small letters of the text of a tree

The small letter of the capital sigma depends on the letters around it. Blanks and brackets keep words
apart, so the text of a tree in small letters is the text of the tree with each of its words in small
letters.

* `Text.nextIsCased_append`: the search for a letter nearby stops at a blank or a bracket;
* `Tree.lowered` is a tree with its words in small letters, and **`Tree.lower_line`** is the statement
  above.
-/

namespace PuzzlePrograms

namespace Text

open List
open PuzzlePrograms.Tree (Ends)

variable {r : List Char} {t : Tree}

/-! ## 1. Letters around a word -/

/-- The blank and the brackets, as ranges. -/
def wallRanges : List (Nat × Nat) := [(0x20, 0x20), (0x28, 0x29)]

theorem apart_unnoticed : apart unnoticedRanges.toList wallRanges = true := by decide +kernel

theorem apart_cased : apart casedRanges.toList wallRanges = true := by decide +kernel

theorem nextIsCased_ends (h : Ends r) : nextIsCased r = false := by
  match r, h with
  | [], _ => rfl
  | c :: cs, h =>
    have hw : ∃ q ∈ wallRanges, q.1 ≤ c.toNat ∧ c.toNat ≤ q.2 := by
      rcases h with rfl | rfl | rfl
      · exact ⟨(0x20, 0x20), by decide, by decide, by decide⟩
      all_goals exact ⟨(0x28, 0x29), by decide, by decide, by decide⟩
    obtain ⟨q, hq, h1, h2⟩ := hw
    rw [nextIsCased, inRanges_of_apart apart_unnoticed hq h1 h2, inRanges_of_apart apart_cased hq h1 h2]
    rfl

theorem nextIsCased_append (cs : List Char) (h : Ends r) : nextIsCased (cs ++ r) = nextIsCased cs := by
  induction cs with
  | nil => exact nextIsCased_ends h
  | cons c cs ih => rw [cons_append, nextIsCased, nextIsCased, ih]

theorem lowerAfter_word (w acc : List Char) {before : List Char} (hb : Ends before) (hr : Ends r) :
    lowerAfter (acc ++ before) (w ++ r) = lowerAfter acc w ++ lowerAfter (w.reverse ++ (acc ++ before)) r := by
  induction w generalizing acc with
  | nil => rfl
  | cons c w ih =>
    have h := ih (c :: acc)
    rw [cons_append] at h
    rw [cons_append, lowerAfter, lowerAfter, nextIsCased_append acc hb, nextIsCased_append w hr, h,
      reverse_cons, append_assoc, append_assoc]
    rfl

theorem lowerAfter_mark {c : Char} (hc : c ∈ [' ', '(', ')']) (before r : List Char) :
    lowerAfter before (c :: r) = c :: lowerAfter (c :: before) r := by
  simp only [mem_cons, not_mem_nil, or_false] at hc
  rcases hc with rfl | rfl | rfl <;> rfl

theorem lower_of_small {w : String} (h : ∀ c ∈ w.toList, c.toNat < 128 ∧ c.isUpper = false) : lower w = w := by
  have hl : ∀ (cs before : List Char), (∀ c ∈ cs, c.toNat < 128 ∧ c.isUpper = false) → lowerAfter before cs = cs := by
    intro cs
    induction cs with
    | nil =>
      intro _ _
      rfl
    | cons c cs ih =>
      intro before hcs
      obtain ⟨h1, h2⟩ := hcs c mem_cons_self
      have hs : c ≠ 'Σ' := by
        rintro rfl
        exact absurd h1 (by decide)
      have hlow : c.toLower = c := by
        unfold Char.toLower
        exact dif_neg (of_decide_eq_false h2)
      rw [lowerAfter, if_neg (by simpa using hs), smallLetter, if_pos h1, hlow,
        ih _ fun d hd => hcs d (mem_cons_of_mem c hd)]
      rfl
  rw [lower, hl _ _ h, String.ofList_toList]

end Text

namespace Tree

open Text

/-! ## 2. Trees -/

mutual

/-- A tree with its words in small letters. -/
def lowered : Tree → Tree
  | .word w => .word (lower w)
  | .scalar x => .scalar x
  | .node ts => .node (allLowered ts)

def allLowered : List Tree → List Tree
  | [] => []
  | t :: ts => lowered t :: allLowered ts

end

/-- Characters that become other characters between blanks or brackets. -/
def Lowers (cs ds : List Char) : Prop :=
  ∀ before r, Ends before → Ends r → lowerAfter before (cs ++ r) = ds ++ lowerAfter (cs.reverse ++ before) r

theorem lowers_word (w : String) : Lowers w.toList (lower w).toList := by
  intro before r hb hr
  rw [lower, String.toList_ofList]
  exact lowerAfter_word w.toList [] hb hr

/-- The elements of a list one after another, if each of them is brought to small letters by itself. -/
theorem lowers_lines (ts : List Tree) (ih : ∀ t ∈ ts, Lowers t.line.toList t.lowered.line.toList) :
    Lowers (String.intercalate " " (lines ts)).toList (String.intercalate " " (lines (allLowered ts))).toList := by
  intro before r hb hr
  match ts, ih with
  | [], _ => simp [lines, allLowered]
  | [t], ih => simpa [lines, allLowered] using ih t (by simp) before r hb hr
  | t :: u :: ts, ih =>
    have hts := lowers_lines (u :: ts) fun v hv => ih v (List.mem_cons_of_mem t hv)
    simp only [lines, allLowered, String.intercalate_cons_cons, String.toList_append,
      List.append_assoc, show " ".toList = [' '] from rfl, List.cons_append, List.nil_append,
      List.reverse_append, List.reverse_cons] at hts ⊢
    have hafter : Ends (' ' :: ((String.intercalate " " (line u :: lines ts)).toList ++ r)) := Or.inl rfl
    rw [ih t (by simp) before _ hb hafter, lowerAfter_mark (by simp),
      hts (' ' :: (t.line.toList.reverse ++ before)) r (Or.inl rfl) hr]

theorem lowers_line (h : Wordly t) : Lowers t.line.toList t.lowered.line.toList := by
  induction h with
  | word _ => exact lowers_word _
  | @node ts _ ih =>
    intro before r hb hr
    have hts := lowers_lines ts ih ('(' :: before) (')' :: r) (.inr (.inl rfl)) (.inr (.inr rfl))
    simp only [line, lowered, String.toList_append, List.append_assoc, parens_toList,
      List.cons_append, List.nil_append, List.reverse_cons, List.reverse_append, List.reverse_nil]
    rw [lowerAfter_mark (by simp), hts, lowerAfter_mark (by simp)]

/-- **The text of a tree in small letters is the text of the tree with its words in small letters.** -/
theorem lower_line (h : Wordly t) : lower t.line = t.lowered.line := by
  have hl := lowers_line h [] [] trivial trivial
  rw [List.append_nil, lowerAfter, List.append_nil] at hl
  rw [lower, hl, String.ofList_toList]

end Tree

end PuzzlePrograms
