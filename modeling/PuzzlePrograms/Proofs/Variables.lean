import PuzzlePrograms.Library.Abstraction
import PuzzlePrograms.Proofs.Named

/-!
# Variables that become holes

`withHoles` goes through a tree below `depth` functions and puts a numbered hole in place of each variable that counts
to one of the `arity` functions around the tree. The farther out a variable counts, the smaller the number of its hole.

* `Stands k w t`: the word `w` stands in `t` under `k` functions of it;
* `Tree.mapUnder` changes each word by the number of functions around it;
* `withHoles_cases`: what is answered for a tree, from what is answered for its parts;
* **`withHoles_exact`**: a tree is refused just if a variable is free, and otherwise putting variables in place of the
  holes gives it back.
-/

namespace PuzzlePrograms.Library

open List Text Indexed PuzzlePrograms.Tree

variable {depth arity k : Nat} {w mark : String} {t h : Tree} {ts : List Tree}

/-! ## 1. Words under functions -/

/-- A word stands in a tree, under so many functions of the tree. -/
inductive Stands : Nat → String → Tree → Prop where
  | word {w : String} : Stands 0 w (.word w)
  | head {k : Nat} {w : String} {h : Tree} {ts : List Tree} (hw : Stands k w h) : Stands k w (.node (h :: ts))
  | function {k : Nat} {w : String} {h t : Tree} {ts : List Tree} (hb : isBinder h = true) (ht : t ∈ ts)
      (hw : Stands k w t) :
      Stands (k + 1) w (.node (h :: ts))
  | list {k : Nat} {w : String} {h t : Tree} {ts : List Tree} (hb : isBinder h = false) (ht : t ∈ ts)
      (hw : Stands k w t) :
      Stands k w (.node (h :: ts))

mutual

/-- A tree with other words, each by the number of functions around it, of which `depth` are around the tree. -/
def mapUnder (f : Nat → String → String) (depth : Nat) : Tree → Tree
  | .word w => .word (f depth w)
  | .scalar x => .scalar x
  | .node [] => .node []
  | .node (h :: ts) => .node (mapUnder f depth h :: mapAllUnder f (if isBinder h then depth + 1 else depth) ts)

def mapAllUnder (f : Nat → String → String) (depth : Nat) : List Tree → List Tree
  | [] => []
  | t :: ts => mapUnder f depth t :: mapAllUnder f depth ts

end

theorem mapAllUnder_eq (f : Nat → String → String) (depth : Nat) (ts : List Tree) :
    mapAllUnder f depth ts = ts.map (mapUnder f depth) := by
  induction ts with
  | nil => rfl
  | cons t ts ih => rw [mapAllUnder, ih, map_cons]

section Changes

variable {f g : Nat → String → String}

/-- A change of words that leaves the marks of functions and makes no new ones. -/
def KeepsBinders (f : Nat → String → String) : Prop := ∀ d w, isBinder (.word (f d w)) = isBinder (.word w)

theorem isBinder_mapUnder (hf : KeepsBinders f) (t : Tree) (depth : Nat) :
    isBinder (mapUnder f depth t) = isBinder t := by
  cases t with
  | word w => exact hf depth w
  | scalar x => rfl
  | node ts => cases ts <;> rfl

theorem stands_mapUnder (hf : KeepsBinders f) {v : String} (h : Stands k v (mapUnder f depth t)) :
    ∃ w, Stands k w t ∧ v = f (depth + k) w := by
  induction t using Tree.byNodes generalizing k depth with
  | word w =>
    cases h
    exact ⟨w, .word, rfl⟩
  | scalar x => cases h
  | node ts ih =>
    cases ts with
    | nil => cases h
    | cons t ts =>
      rw [mapUnder, mapAllUnder_eq] at h
      cases h with
      | head hv =>
        obtain ⟨w, hw, e⟩ := ih t mem_cons_self hv
        exact ⟨w, .head hw, e⟩
      | function hb hu hv =>
        rw [isBinder_mapUnder hf] at hb
        obtain ⟨u, hmem, rfl⟩ := mem_map.mp hu
        rw [if_pos hb] at hv
        obtain ⟨w, hw, e⟩ := ih u (mem_cons_of_mem t hmem) hv
        exact ⟨w, .function hb hmem hw, by rw [e, Nat.add_right_comm, Nat.add_assoc]⟩
      | list hb hu hv =>
        rw [isBinder_mapUnder hf] at hb
        obtain ⟨u, hmem, rfl⟩ := mem_map.mp hu
        rw [hb] at hv
        obtain ⟨w, hw, e⟩ := ih u (mem_cons_of_mem t hmem) hv
        exact ⟨w, .list hb hmem hw, e⟩

theorem mapUnder_mapUnder (hf : KeepsBinders f)
    (h : ∀ k w, Stands k w t → g (depth + k) (f (depth + k) w) = w) : mapUnder g depth (mapUnder f depth t) = t := by
  induction t using Tree.byNodes generalizing depth with
  | word w => exact congrArg Tree.word (h 0 w .word)
  | scalar x => rfl
  | node ts ih =>
    cases ts with
    | nil => rfl
    | cons t ts =>
      simp only [mapUnder, mapAllUnder_eq, isBinder_mapUnder hf, map_map, Tree.node.injEq, cons.injEq]
      refine ⟨ih t mem_cons_self fun k w hw => h k w (.head hw), ?_⟩
      refine (map_congr_left fun u hu => ?_).trans (map_id ts)
      refine ih u (mem_cons_of_mem t hu) fun k w hw => ?_
      cases hb : isBinder t with
      | true =>
        have := h (k + 1) w (.function hb hu hw)
        rwa [if_pos rfl, Nat.add_right_comm, Nat.add_assoc]
      | false => exact h k w (.list hb hu hw)

end Changes

/-! ## 2. Holes for variables -/

def holeText (j : Nat) : String := "#" ++ toString j

def numbered? (mark w : String) : Option Int := if starts w mark then int? (dropFirst w 1) else none

/-- A hole in place of a variable that counts out of `depth` functions, to one of `arity` around them. -/
def toHole (arity depth : Nat) (w : String) : String :=
  match numbered? "$" w with
  | some i => if i < depth then w else holeText (arity - 1 - (i.toNat - depth))
  | none => w

def toVariable (arity depth : Nat) (w : String) : String :=
  match numbered? "#" w with
  | some j => indexText (depth + arity - 1 - j.toNat)
  | none => w

theorem numbered?_text {c : Char} (hc : mark.toList = [c]) (i : Nat) :
    numbered? mark (mark ++ toString i) = some (i : Int) := by
  have hs : starts (mark ++ toString i) mark = true := starts_iff.mpr (by simp)
  have hd : dropFirst (mark ++ toString i) 1 = .ofList (Nat.toDigits 10 i) := by simp [dropFirst, hc]
  rw [numbered?, hs, hd, if_pos rfl, int?_toDigits]

theorem numbered?_index (i : Nat) : numbered? "$" (indexText i) = some (i : Int) := numbered?_text (c := '$') rfl i

theorem numbered?_hole (j : Nat) : numbered? "#" (holeText j) = some (j : Int) := numbered?_text (c := '#') rfl j

theorem numbered?_none (h : starts w mark = false) : numbered? mark w = none := by
  rw [numbered?, h]
  rfl

/-- A word without the mark of holes, and a variable if it has theirs. -/
def HoleFree (w : String) : Prop := starts w "#" = false ∧ (starts w "$" = true → ∃ i, w = indexText i)

theorem toHole_indexText (arity depth i : Nat) :
    toHole arity depth (indexText i) = if i < depth then indexText i else holeText (arity - 1 - (i - depth)) := by
  simp [toHole, numbered?_index]

theorem toHole_other (h : starts w "$" = false) (arity depth : Nat) : toHole arity depth w = w := by
  rw [toHole, numbered?_none h]

/-- A variable is free in a tree below `depth` functions if it counts beyond these, those of the tree and `arity`
    more. -/
def Free (arity depth : Nat) (t : Tree) : Prop := ∃ k i, Stands k (indexText i) t ∧ depth + k + arity ≤ i

theorem starts_indexText (i : Nat) : starts (indexText i) "$" = true := starts_iff.mpr ⟨_, (indexText_toList i).symm⟩

theorem free_index {i : Nat} : Free arity depth (.word (indexText i)) ↔ depth + arity ≤ i := by
  constructor
  · rintro ⟨k, j, hj, h⟩
    generalize hw : indexText j = w at hj
    cases hj
    have := numbered?_index j
    rw [hw, numbered?_index] at this
    have := Option.some.inj this
    omega
  · exact fun h => ⟨0, i, .word, h⟩

theorem free_node : Free arity depth (.node (h :: ts)) ↔
    Free arity depth h ∨ ∃ t ∈ ts, Free arity (if isBinder h then depth + 1 else depth) t := by
  constructor
  · rintro ⟨k, i, hw, hi⟩
    cases hw with
    | head hw => exact .inl ⟨k, i, hw, hi⟩
    | function hb ht hw => exact .inr ⟨_, ht, _, i, hw, by rw [if_pos hb]; omega⟩
    | list hb ht hw => exact .inr ⟨_, ht, _, i, hw, by rw [hb]; exact hi⟩
  · rintro (⟨k, i, hw, hi⟩ | ⟨t, ht, k, i, hw, hi⟩)
    · exact ⟨k, i, .head hw, hi⟩
    · cases hb : isBinder h with
      | true => exact ⟨k + 1, i, .function hb ht hw, by rw [if_pos hb] at hi; omega⟩
      | false => exact ⟨k, i, .list hb ht hw, by rwa [hb] at hi⟩

/-- A tree is refused for a variable that is free, and otherwise answered with holes. -/
def Answers (arity depth : Nat) (t : Tree) : Prop :=
  Free arity depth t ∧ withHoles depth arity t = .error .freeVariables ∨
    ¬Free arity depth t ∧ withHoles depth arity t = .ok (mapUnder (toHole arity) depth t)

theorem answers_word (hw : HoleFree w) (arity depth : Nat) : Answers arity depth (.word w) := by
  by_cases hs : starts w "$" = true
  · obtain ⟨i, rfl⟩ := hw.2 hs
    have hi : int? (dropFirst (indexText i) 1) = some (i : Int) := by
      have := numbered?_index i
      rwa [numbered?, if_pos hs] at this
    rw [Answers, free_index, mapUnder, toHole_indexText, withHoles, holeOf, if_pos hs, hi]
    simp only [Int.ofNat_lt]
    by_cases hlt : i < depth
    · exact .inr ⟨by omega, by simp [hlt]; rfl⟩
    · by_cases hle : depth + arity ≤ i
      · refine .inl ⟨hle, ?_⟩
        rw [if_neg hlt, if_pos (by omega)]
        rfl
      · refine .inr ⟨hle, ?_⟩
        have hhole : (arity : Int) - (i - depth) - 1 = (arity - 1 - (i - depth) : Nat) := by omega
        rw [if_neg hlt, if_neg hlt, if_neg (by omega), hhole]
        rfl
  · have hs := Bool.eq_false_iff.mpr hs
    refine .inr ⟨?_, ?_⟩
    · rintro ⟨k, j, hj, -⟩
      generalize hv : indexText j = v at hj
      cases hj
      rw [← hv, starts_indexText] at hs
      cases hs
    · rw [mapUnder, toHole_other hs, withHoles, holeOf, hs]
      rfl

theorem allWithHoles_cases (h : ∀ t ∈ ts, Answers arity depth t) :
    (∃ t ∈ ts, Free arity depth t) ∧ allWithHoles depth arity ts = .error .freeVariables ∨
      (¬∃ t ∈ ts, Free arity depth t) ∧ allWithHoles depth arity ts = .ok (ts.map (mapUnder (toHole arity) depth)) := by
  induction ts with
  | nil => exact .inr ⟨by simp, rfl⟩
  | cons t ts ih =>
    obtain ⟨ht, hts⟩ := forall_mem_cons.mp h
    simp only [mem_cons, exists_eq_or_imp, allWithHoles]
    rcases ht with ⟨hf, ht⟩ | ⟨hf, ht⟩
    · exact .inl ⟨.inl hf, by rw [ht]; rfl⟩
    · rcases ih hts with ⟨hfs, hts⟩ | ⟨hfs, hts⟩
      · exact .inl ⟨.inr hfs, by rw [ht, hts]; rfl⟩
      · exact .inr ⟨not_or.mpr ⟨hf, hfs⟩, by rw [ht, hts]; rfl⟩

theorem binder_word (hb : isBinder h = true) : ∃ w, h = .word w ∧ starts w "$" = false ∧ starts w "#" = false := by
  cases h with
  | word w =>
    have hw : w = "lambda" ∨ w = "lam" := by simpa [isBinder, Tree.isWord] using hb
    rcases hw with rfl | rfl <;> exact ⟨_, rfl, rfl, rfl⟩
  | scalar | node => cases hb

/-- **What is answered for a tree of words without holes.** -/
theorem withHoles_cases (ht : t.Words HoleFree) (arity : Nat) : ∀ depth, Answers arity depth t := by
  induction ht with
  | word hw => exact answers_word hw arity
  | @node ts hts ih =>
    intro depth
    cases ts with
    | nil =>
      refine .inr ⟨?_, rfl⟩
      rintro ⟨k, i, hw, -⟩
      cases hw
    | cons h ts =>
      have hrest := fun d => allWithHoles_cases fun t ht => ih t (mem_cons_of_mem h ht) d
      rw [Answers, free_node, mapUnder, mapAllUnder_eq, withHoles]
      cases hb : isBinder h with
      | true =>
        obtain ⟨w, rfl, hw, -⟩ := binder_word hb
        have hself : ¬Free arity depth (.word w) ∧ mapUnder (toHole arity) depth (.word w) = .word w := by
          rcases ih _ mem_cons_self depth with ⟨-, h⟩ | ⟨hf, -⟩
          · rw [withHoles, holeOf, hw] at h
            cases h
          · exact ⟨hf, congrArg Tree.word (toHole_other hw arity depth)⟩
        have hcast : (depth : Int) + 1 = (depth + 1 : Nat) := rfl
        rw [if_pos rfl, if_pos rfl, hself.2, hcast]
        rcases hrest (depth + 1) with ⟨hf, h⟩ | ⟨hf, h⟩
        · exact .inl ⟨.inr hf, by rw [h]; rfl⟩
        · exact .inr ⟨not_or.mpr ⟨hself.1, hf⟩, by rw [h]; rfl⟩
      | false =>
        simp only [Bool.false_eq_true, if_false]
        rcases ih h mem_cons_self depth with ⟨hf, hh⟩ | ⟨hf, hh⟩
        · exact .inl ⟨.inl hf, by rw [hh]; rfl⟩
        · rcases hrest depth with ⟨hfs, hs⟩ | ⟨hfs, hs⟩
          · exact .inl ⟨.inr hfs, by rw [hh, hs]; rfl⟩
          · exact .inr ⟨not_or.mpr ⟨hf, hfs⟩, by rw [hh, hs]; rfl⟩

/-! ## 3. There and back -/

theorem starts_holeText (j : Nat) : starts (holeText j) "#" = true := starts_iff.mpr (by simp [holeText])

theorem holeText_no_index (j : Nat) : starts (holeText j) "$" = false := by
  refine Bool.eq_false_iff.mpr fun h => ?_
  obtain ⟨cs, hcs⟩ := starts_iff.mp h
  simp [holeText] at hcs

theorem isBinder_marked (h : starts w mark = true) (hmark : mark = "$" ∨ mark = "#") : isBinder (.word w) = false := by
  refine Bool.eq_false_iff.mpr fun hb => ?_
  obtain ⟨v, hv, h1, h2⟩ := binder_word hb
  cases hv
  rcases hmark with rfl | rfl
  · rw [h1] at h
    cases h
  · rw [h2] at h
    cases h

theorem keepsBinders_toHole (arity : Nat) : KeepsBinders (toHole arity) := by
  intro d w
  by_cases hs : starts w "$" = true
  · rw [isBinder_marked hs (.inl rfl), toHole]
    split
    · split
      · exact isBinder_marked hs (.inl rfl)
      · exact isBinder_marked (starts_holeText _) (.inr rfl)
    · exact isBinder_marked hs (.inl rfl)
  · rw [toHole_other (Bool.eq_false_iff.mpr hs)]

theorem Stands.holds {P : String → Prop} (h : Stands k w t) (ht : t.Words P) : P w := by
  induction h with
  | word =>
    cases ht with
    | word hw => exact hw
  | head _ ih =>
    cases ht with
    | node hts => exact ih (hts _ mem_cons_self)
  | function _ hmem _ ih | list _ hmem _ ih =>
    cases ht with
    | node hts => exact ih (hts _ (mem_cons_of_mem _ hmem))

theorem toHole_word (hw : HoleFree w) (hfree : ∀ i, w = indexText i → i < depth + arity) :
    (∃ i, w = indexText i ∧ depth ≤ i ∧ ∃ j < arity, toHole arity depth w = holeText j ∧ i = depth + arity - 1 - j) ∨
      toHole arity depth w = w ∧ ∀ i, w = indexText i → i < depth := by
  by_cases hs : starts w "$" = true
  · obtain ⟨i, rfl⟩ := hw.2 hs
    have := hfree i rfl
    rw [toHole_indexText]
    by_cases hlt : i < depth
    · refine .inr ⟨if_pos hlt, fun j hj => ?_⟩
      have := numbered?_index i
      rw [hj, numbered?_index] at this
      have := Option.some.inj this
      omega
    · exact .inl ⟨i, rfl, by omega, arity - 1 - (i - depth), by omega, if_neg hlt, by omega⟩
  · refine .inr ⟨toHole_other (Bool.eq_false_iff.mpr hs) arity depth, fun i hi => absurd ?_ hs⟩
    rw [hi, starts_indexText]

/-- **Variables become holes and come back.** A tree of words without holes is refused just if a variable is free.
    Otherwise the variables that are left count to functions inside, every hole is one of `arity`, and the variables in
    place of the holes give the tree back. -/
theorem withHoles_exact {t : Tree} (ht : t.Words HoleFree) (arity depth : Nat) :
    (withHoles depth arity t = .error .freeVariables ↔ ∃ k i, Stands k (indexText i) t ∧ depth + k + arity ≤ i) ∧
    ((¬∃ k i, Stands k (indexText i) t ∧ depth + k + arity ≤ i) → ∃ u, withHoles depth arity t = .ok u ∧
      (∀ k w, Stands k w u → starts w "$" = true → ∃ i < depth + k, w = indexText i) ∧
      (∀ k w, Stands k w u → starts w "#" = true → ∃ j < arity, w = holeText j) ∧
      u = mapUnder (toHole arity) depth t ∧ mapUnder (toVariable arity) depth u = t) := by
  have hkeep := keepsBinders_toHole arity
  rcases withHoles_cases ht arity depth with ⟨hf, h⟩ | ⟨hf, h⟩
  · exact ⟨iff_of_true h hf, fun hn => absurd hf hn⟩
  · have hword := fun k w (hw : Stands k w t) => toHole_word (hw.holds ht) fun i hi =>
      Nat.lt_of_not_le fun hle => hf ⟨k, i, hi ▸ hw, hle⟩
    refine ⟨iff_of_false (by rw [h]; simp) hf, fun _ => ⟨_, h, fun k v hv hs => ?_, fun k v hv hs => ?_, rfl, ?_⟩⟩
    · obtain ⟨w, hw, rfl⟩ := stands_mapUnder hkeep hv
      rcases hword k w hw with ⟨i, -, -, j, -, e, -⟩ | ⟨e, hi⟩
      · rw [e, holeText_no_index] at hs
        cases hs
      · rw [e] at hs ⊢
        obtain ⟨i, rfl⟩ := (hw.holds ht).2 hs
        exact ⟨i, hi i rfl, rfl⟩
    · obtain ⟨w, hw, rfl⟩ := stands_mapUnder hkeep hv
      rcases hword k w hw with ⟨i, -, -, j, hj, e, -⟩ | ⟨e, -⟩
      · exact ⟨j, hj, e⟩
      · rw [e, (hw.holds ht).1] at hs
        cases hs
    · refine mapUnder_mapUnder hkeep fun k w hw => ?_
      rcases hword k w hw with ⟨i, rfl, -, j, -, e, hi⟩ | ⟨e, -⟩
      · rw [e, toVariable, numbered?_hole, hi]
        rfl
      · rw [e, toVariable, numbered?_none (hw.holds ht).1]

/-- The argument of the inner function stays, and those that count out of it become holes in the other order. -/
theorem withHoles_exact_inner :
    ∃ u, withHoles 0 2 (.node [.word "f", .node [.word "lambda", .node [.word "$0", .word "$1", .word "$2"]]]) = .ok u ∧
    mapUnder (toVariable 2) 0 u =
    .node [.word "f", .node [.word "lambda", .node [.word "$0", .word "$1", .word "$2"]]] := by
  have hword : ∀ w, starts w "#" = false → starts w "$" = false → HoleFree w :=
    fun w h1 h2 => ⟨h1, fun h => absurd (h2.symm.trans h) (by decide)⟩
  have hindex : ∀ i, starts (indexText i) "#" = false → HoleFree (indexText i) := fun i h => ⟨h, fun _ => ⟨i, rfl⟩⟩
  have h := withHoles_exact (.node (forall_mem_cons.mpr ⟨.word (hword "f" rfl rfl), forall_mem_singleton.mpr
    (.node (forall_mem_cons.mpr ⟨.word (hword "lambda" rfl rfl), forall_mem_singleton.mpr
      (.node (forall_mem_cons.mpr ⟨.word (hindex 0 rfl), forall_mem_cons.mpr
        ⟨.word (hindex 1 rfl), forall_mem_singleton.mpr (.word (hindex 2 rfl))⟩⟩))⟩))⟩)) 2 0
  obtain ⟨u, hu, -, -, -, hback⟩ := h.2 (mt h.1.mpr (by intro h; cases h))
  exact ⟨u, hu, hback⟩

end PuzzlePrograms.Library
