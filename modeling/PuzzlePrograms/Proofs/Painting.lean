import PuzzlePrograms.Proofs.Draws
import PuzzlePrograms.Proofs.Grids
import PuzzlePrograms.Proofs.PlainSets

/-!
# Places, colours and painting

Places and colours are plain values, so containers of them are given by lists and finite sets of pairs and numbers.
Filling a grid at some places gives those the new colour and leaves the others; what a grid shows of a colour is the
set of places where its colouring has that value.
-/

namespace PuzzlePrograms

open List Value Dsl Except

unseal grid

/-! ## 1. Containers of plain values -/

/-- Where a cell lies: a row and a column. -/
abbrev Loc := Int × Int

def place (p : Loc) : Value := .pair p.1 p.2

noncomputable def places (S : Finset Loc) : Value := .fset (listed place S)

theorem coding_int : Coding .int := ⟨.int, fun _ _ h => by simpa using h⟩

theorem coding_place : Coding place where
  plain p := .tuple (by simp [Plain.int])
  injective p q h := by simpa [place, Value.pair, Prod.ext_iff] using h

theorem filterM_map_ok {α β : Type} {k : β → Answer Bool} {code : α → β} {t : α → Bool} {l : List α}
    (hk : ∀ a ∈ l, k (code a) = .ok (t a)) : (l.map code).filterM k = .ok ((l.filter t).map code) := by
  have haux : ∀ acc, (l.map code).filterAuxM k acc = .ok (((l.filter t).map code).reverse ++ acc) := by
    induction l with
    | nil => exact fun _ => rfl
    | cons a l ih =>
      intro acc
      rw [map_cons, filterAuxM, bind_ok (hk a (by simp)), ih fun b hb => hk b (by simp [hb])]
      cases h : t a <;> simp [h]
  rw [filterM, bind_ok (haux [])]
  simp [pure, Except.pure]

section Containers

variable {α : Type} {code : α → Value} {S T : Finset α} {l m : List α} {a b : α}

theorem keep_tuple {test : Value → Answer Bool} {t : α → Bool} (h : ∀ a ∈ l, test (code a) = .ok (t a)) :
    keep (.tuple (l.map code)) test = .ok (.tuple ((l.filter t).map code)) :=
  bind_eq rfl (bind_ok (filterM_map_ok h))

namespace Coding

variable (c : Coding code)
include c

theorem asElements : (l.map code).mapM asElement = .ok (l.map code) :=
  mapM_map_ok fun a _ => if_pos (c.plain a).isHashable

theorem sample [Nonempty α] {k : Nat} {v : Value} (h : Recipe.IsSample (l.map code) k v) :
    ∃ js : List α, v = .list (js.map code) ∧ js.length = k ∧ js.Subperm l := by
  obtain ⟨ys, rfl, hlen, xs, hperm, hsub⟩ := h
  obtain ⟨is, his, rfl⟩ := sublist_map_iff.mp hsub
  obtain ⟨d, hd⟩ := c.injective.hasLeftInverse
  have hys : (ys.map d).map code = ys := by
    rw [map_map]
    refine (map_congr_left fun y hy => ?_).trans (map_id ys)
    obtain ⟨a, -, rfl⟩ := mem_map.mp (hperm.mem_iff.mpr hy)
    simp [hd a]
  refine ⟨ys.map d, by rw [hys], by simpa using hlen, is, ?_, his⟩
  simpa [map_map, hd.comp_eq_id] using hperm.map d

variable [DecidableEq α]

theorem beq_code : (code a == code b) = decide (a = b) := by
  rw [Bool.eq_iff_iff, (c.plain a).eqv_iff (c.plain b), c.injective.eq_iff, decide_eq_true_iff]

theorem bne_code : (code a != code b) = decide (a ≠ b) := by
  rw [bne, c.beq_code]
  simp

theorem fsetOf_map : fsetOf (l.map code) = .ok (.fset (listed code l.toFinset)) := by
  rw [fsetOf, bind_ok c.asElements, c.ofList_map]
  rfl

theorem msetOf_map : msetOf (l.map code) = .ok (.mset (listed code l.toFinset)) := by
  rw [msetOf, bind_ok c.asElements, c.ofList_map]
  rfl

theorem isIn_list : (code a).isIn (.list (l.map code)) = .ok (decide (a ∈ l)) := by
  have heqv : ∀ b, eqv (code b) (code a) = decide (b = a) := fun b => c.beq_code
  simp [isIn, heqv, any_eq]

theorem keep_fset {test : Value → Answer Bool} {t : α → Bool} (h : ∀ a ∈ S, test (code a) = .ok (t a)) :
    keep (.fset (listed code S)) test = .ok (.fset (listed code (S.filter fun a => t a))) := by
  obtain ⟨l, -, hl, heq⟩ := c.exists_list S
  have hS : (l.filter t).toFinset = S.filter fun a => t a := Finset.ext fun a => by simp [hl]
  rw [heq]
  refine bind_eq rfl (bind_eq (filterM_map_ok fun a ha => h a ((hl a).mp ha)) ?_)
  exact c.fsetOf_map.trans (by rw [hS])

theorem remove_tuple : remove (code b) (.tuple (l.map code)) = .ok (.tuple ((l.filter (· ≠ b)).map code)) :=
  keep_tuple fun _ _ => congrArg ok c.bne_code

theorem remove_fset : remove (code b) (.fset (listed code S)) = .ok (.fset (listed code (S.erase b))) := by
  have h := @keep_fset _ _ S c _ (fun e => .ok (e != code b)) (fun a => decide (a ≠ b))
    fun a _ => congrArg ok c.bne_code
  simpa [remove, Finset.filter_ne'] using h

theorem difference_tuple :
    difference (.tuple (l.map code)) (.list (m.map code)) = .ok (.tuple ((l.filter (· ∉ m)).map code)) := by
  have h : ∀ a ∈ l, (do return !(← (code a).isIn (.list (m.map code))) : Answer Bool) = .ok (decide (a ∉ m)) :=
    fun a _ => bind_eq c.isIn_list (by simp [pure, Except.pure])
  exact keep_tuple h

theorem difference_fset :
    difference (.fset (listed code S)) (.fset (listed code T)) = .ok (.fset (listed code (S \ T))) :=
  congrArg (ok ∘ fset) c.diff_listed

theorem combine_fset : combine (.fset (listed code S)) (.fset (listed code T)) = .ok (.fset (listed code (S ∪ T))) := by
  obtain ⟨l, -, hl, hS⟩ := c.exists_list S
  obtain ⟨m, -, hm, hT⟩ := c.exists_list T
  have hST : (l ++ m).toFinset = S ∪ T := Finset.ext fun a => by simp [hl, hm]
  rw [hS, hT, ← hST, ← c.fsetOf_map, map_append]
  rfl

end Coding

end Containers

/-! ## 2. The cells of a grid -/

def cellList (h w : Nat) : List Loc :=
  (range h).flatMap fun i : Nat => (range w).map fun j : Nat => ((i : Int), (j : Int))

def cellSet (h w : Nat) : Finset Loc := (cellList h w).toFinset

/-- The places where a grid shows a colour. -/
def shown (h w : Nat) (f : Int → Int → Int) (c : Int) : Finset Loc := (cellSet h w).filter fun p => f p.1 p.2 = c

variable {h w : Nat} {f g : Int → Int → Int} {p q : Loc} {S : Finset Loc} {c : Int} {o : Option Int} {v : Value}

@[simp]
theorem mem_cellList : p ∈ cellList h w ↔ (0 ≤ p.1 ∧ p.1 < h) ∧ 0 ≤ p.2 ∧ p.2 < w := by
  obtain ⟨i, j⟩ := p
  simp only [cellList, mem_flatMap, mem_range, mem_map, Prod.mk.injEq]
  constructor
  · rintro ⟨a, ha, b, hb, rfl, rfl⟩
    omega
  · rintro ⟨⟨h1, h2⟩, h3, h4⟩
    exact ⟨i.toNat, by omega, j.toNat, by omega, by omega, by omega⟩

@[simp]
theorem mem_cellSet : p ∈ cellSet h w ↔ (0 ≤ p.1 ∧ p.1 < h) ∧ 0 ≤ p.2 ∧ p.2 < w := by simp [cellSet]

theorem compare_place : (place p).compare (place q) = .lt ↔ p.1 < q.1 ∨ p.1 = q.1 ∧ p.2 < q.2 := by
  simp only [place, Value.pair, Value.compare, compareList]
  rcases lt_trichotomy p.1 q.1 with h | h | h
  · simp [compare_lt_iff_lt.mpr h, h]
  · rcases lt_trichotomy p.2 q.2 with h' | h' | h'
    · simp [compare_lt_iff_lt.mpr h', h, h']
    · simp [h, h']
    · simp [compare_gt_iff_gt.mpr h', h, h'.le]
  · simp [compare_gt_iff_gt.mpr h, h.le, h.ne']

theorem strict_cellList : SortedSet.Strict ((cellList h w).map place) := by
  refine ⟨fun v hv => ?_, pairwise_map.mpr ?_⟩
  · obtain ⟨p, -, rfl⟩ := mem_map.mp hv
    exact coding_place.plain p
  · rw [cellList, pairwise_flatMap]
    refine ⟨fun i _ => pairwise_map.mpr (pairwise_lt_range.imp fun hab => ?_),
      pairwise_lt_range.imp fun hab x hx y hy => ?_⟩
    · exact compare_place.mpr (.inr ⟨rfl, Int.ofNat_lt.mpr hab⟩)
    · obtain ⟨a, -, rfl⟩ := mem_map.mp hx
      obtain ⟨b, -, rfl⟩ := mem_map.mp hy
      exact compare_place.mpr (.inl (Int.ofNat_lt.mpr hab))

theorem filter_cellList (t : Loc → Bool) :
    ((cellList h w).filter t).map place = listed place ((cellSet h w).filter fun p => t p) :=
  coding_place.eq_listed (strict_cellList.sublist (filter_sublist.map _)) fun v => by simp

theorem map_cellList : (cellList h w).map place = listed place (cellSet h w) := by
  simpa using @filter_cellList h w fun _ => true

theorem length_cellList : (cellList h w).length = h * w := by simp [cellList]

theorem zipIdx_map_range {α : Type} (n : Nat) (k : Nat → α) :
    ((range n).map k).zipIdx = (range n).map fun i => (k i, i) := by
  refine ext_getElem (by simp) fun i h₁ h₂ => ?_
  simp

theorem elements_rows : (gridRows h w f).mapM elements = .ok ((range h).map fun i : Nat => gridRow w (f i)) :=
  mapM_map_ok fun _ _ => rfl

theorem cells_grid : cells (grid h w f) = .ok ((cellList h w).map fun p => (.int (f p.1 p.2), p.1, p.2)) := by
  refine bind_eq elements_grid (bind_eq elements_rows (congrArg ok ?_))
  simp [zipIdx_map_range, gridRow, cellList, flatMap_map, map_flatMap, Function.comp_def]

theorem item_grid {i : Nat} (hi : i < h) : (grid h w f).item (.int i) = .ok (.tuple (gridRow w (f i))) := by
  refine (Recipe.item_tuple (by simpa using hi)).trans ?_
  simp

theorem item_row {r : Int → Int} {j : Nat} (hj : j < w) : (tuple (gridRow w r)).item (.int j) = .ok (.int (r j)) := by
  refine (Recipe.item_tuple (by simpa [gridRow] using hj)).trans ?_
  simp [gridRow]

theorem extent_grid (hh : 1 ≤ h) : extent (grid h w f) = .ok (h, w) := by
  refine bind_eq size_grid (bind_eq (item_grid hh) ?_)
  exact bind_ok (by simp [Value.size, gridRow])

theorem asindices_grid (hh : 1 ≤ h) : asindices (grid h w f) = .ok (places (cellSet h w)) := by
  have hw : (Value.tuple (gridRow w (f 0))).size = .ok w := by simp [Value.size, gridRow]
  refine bind_eq size_grid ?_
  rw [if_neg (by simp; omega)]
  refine bind_eq (item_grid hh) (bind_eq hw (congrArg (ok ∘ fset) ?_))
  simp [← map_cellList, cellList, map_flatMap, place, Function.comp_def]

theorem map_shown :
    ((cellList h w).filter fun p => decide (f p.1 p.2 = c)).map place = listed place (shown h w f c) := by
  simpa [shown] using @filter_cellList h w fun p => decide (f p.1 p.2 = c)

theorem ofcolor_grid : ofcolor (grid h w f) (.int c) = .ok (places (shown h w f c)) := by
  refine bind_eq cells_grid (congrArg (ok ∘ fset) ?_)
  rw [← map_shown, filterMap_map, ← filterMap_eq_filter, map_filterMap]
  refine filterMap_congr fun p _ => ?_
  by_cases hp : f p.1 p.2 = c <;> simp [coding_int.beq_code, hp, place, Option.guard]

/-- Every cell shows one of the ten colours. -/
def Coloured (h w : Nat) (f : Int → Int → Int) : Prop := ∀ p ∈ cellSet h w, 0 ≤ f p.1 p.2 ∧ f p.1 p.2 ≤ 9

namespace Coloured

variable {h' w' : Nat}

theorem hmirror (hf : Coloured h w f) : Coloured h w fun i j => f (h - 1 - i) j :=
  fun p hp => hf (h - 1 - p.1, p.2) (by simp at hp ⊢; omega)

theorem vmirror (hf : Coloured h w f) : Coloured h w fun i j => f i (w - 1 - j) :=
  fun p hp => hf (p.1, w - 1 - p.2) (by simp at hp ⊢; omega)

theorem dmirror (hf : Coloured h w f) : Coloured w h fun i j => f j i :=
  fun p hp => hf (p.2, p.1) (by simp at hp ⊢; omega)

theorem hconcat (hf : Coloured h w f) (hg : Coloured h w' g) :
    Coloured h (w + w') fun i j => if j < w then f i j else g i (j - w) := by
  intro p hp
  dsimp only
  split
  · exact hf p (by simp at hp ⊢; omega)
  · exact hg (p.1, p.2 - w) (by simp at hp ⊢; omega)

theorem vconcat (hf : Coloured h w f) (hg : Coloured h' w g) :
    Coloured (h + h') w fun i j => if i < h then f i j else g (i - h) j := by
  intro p hp
  dsimp only
  split
  · exact hf p (by simp at hp ⊢; omega)
  · exact hg (p.1 - h, p.2) (by simp at hp ⊢; omega)

end Coloured

theorem isGrid_grid (hh : 1 ≤ h ∧ h ≤ 30) (hw : 1 ≤ w ∧ w ≤ 30) (hf : Coloured h w f) : isGrid (grid h w f) = true := by
  have hrows : ∀ k : Value → Option (List Value), (∀ cs, k (.tuple cs) = some cs) →
      (gridRows h w f).mapM k = some ((range h).map fun i : Nat => gridRow w (f i)) := by
    intro k hk
    unfold gridRows
    generalize range h = l
    induction l with
    | nil => rfl
    | cons i l ih => simp [hk, ih]
  have hhead : ((range h).head?.map fun i : Nat => (gridRow w (f i)).length) = some w := by
    obtain ⟨n, rfl⟩ := Nat.exists_eq_add_of_le' hh.1
    simp [range_succ_eq_map, gridRow]
  simp only [isGrid, grid]
  rw [hrows _ fun _ => rfl]
  simp only [length_map, length_range, all_map, head?_map, Option.map_map, Function.comp_def, hhead,
    Bool.and_eq_true, decide_eq_true_iff, all_eq_true, mem_range]
  refine ⟨⟨⟨hh, fun i hi => by simp [gridRow]; omega⟩, fun i hi => by simp [gridRow]⟩, fun i hi v hv => ?_⟩
  obtain ⟨j, hj, rfl⟩ := mem_map.mp hv
  have := hf (i, j) (by simpa [hi] using mem_range.mp hj)
  simpa [int?] using this

/-! ## 3. Filling -/

/-- The rows of a grid while it is painted. -/
def paintRows (h w : Nat) (f : Int → Int → Int) : List (Array Value) :=
  (range h).map fun i : Nat => (gridRow w (f i)).toArray

/-- A colouring with one colour at some places. -/
def filled (f : Int → Int → Int) (S : Finset Loc) (c : Int) (i j : Int) : Int := if (i, j) ∈ S then c else f i j

theorem Coloured.filled (hf : Coloured h w f) (hc : 0 ≤ c ∧ c ≤ 9) : Coloured h w (filled f S c) := by
  intro p hp
  unfold PuzzlePrograms.filled
  split
  · exact hc
  · exact hf p hp

theorem isInside_int (i j : Int) : isInside h w (.int i) (.int j) = .ok (decide ((i, j) ∈ cellSet h w)) := by
  have h1 : related .le 0 (.int i) = .ok (decide (0 ≤ i)) := Recipe.related_le_int 0 i
  have h2 : related .le 0 (.int j) = .ok (decide (0 ≤ j)) := Recipe.related_le_int 0 j
  simp only [isInside]
  rw [bind_ok h1, bind_ok (Recipe.related_lt_int i h), bind_ok h2, Recipe.related_lt_int j w]
  by_cases ha : 0 ≤ i <;> by_cases hb : i < h <;> by_cases hc : 0 ≤ j <;> by_cases hd : j < w <;>
    simp [ha, hb, hc, hd, pure, Except.pure]

theorem set_map_range {α : Type} (n m : Nat) (k : Nat → α) (x : α) :
    ((range n).map k).set m x = (range n).map fun i => if i = m then x else k i := by
  refine ext_getElem (by simp) fun i h₁ h₂ => ?_
  simp [getElem_set, eq_comm]

/-- A colouring after a cell was painted, on one colour only if a colour is given. -/
def stroke (o : Option Int) (f : Int → Int → Int) (e : Int × Loc) : Int → Int → Int :=
  if o.all (f e.2.1 e.2.2 = ·) then filled f {e.2} e.1 else f

theorem set_paintRows (hp : p ∈ cellSet h w) :
    (paintRows h w f).set p.1.toNat ((gridRow w (f p.1)).set p.2.toNat (.int c)).toArray =
    paintRows h w (filled f {p} c) := by
  obtain ⟨⟨h1, h2⟩, h3, h4⟩ := mem_cellSet.mp hp
  have hset : (gridRow w (f p.1)).set p.2.toNat (.int c) = gridRow w (filled f {p} c p.1) := by
    rw [gridRow, set_map_range]
    refine map_congr_left fun j _ => ?_
    by_cases hj : j = p.2.toNat
    · simp [hj, filled, h3]
    · simp [hj, filled, Prod.ext_iff, show (j : Int) ≠ p.2 by omega]
  rw [hset, paintRows, set_map_range]
  refine map_congr_left fun i _ => ?_
  by_cases hi : i = p.1.toNat
  · simp [hi, h1]
  · rw [if_neg hi]
    exact congrArg toArray (gridRow_ext fun j _ => by simp [filled, Prod.ext_iff, show (i : Int) ≠ p.1 by omega])

theorem writeCell_paintRows (hp : p ∈ cellSet h w) : writeCell (paintRows h w f).toArray (.int p.1) (.int p.2) (.int c)
    (o.map .int) = .ok (paintRows h w (stroke o f (c, p))).toArray := by
  obtain ⟨⟨h1, h2⟩, h3, h4⟩ := mem_cellSet.mp hp
  have hrow : (paintRows h w f).toArray.getD p.1.toNat #[] = (gridRow w (f p.1)).toArray := by
    simp [paintRows, Array.getD, show p.1.toNat < h by omega, h1]
  have hsize : p.2.toNat < (gridRow w (f p.1)).toArray.size := by simp; omega
  have hset :
    (paintRows h w f).toArray.setIfInBounds p.1.toNat ((gridRow w (f p.1)).toArray.set p.2.toNat (.int c) hsize) =
      (paintRows h w (filled f {p} c)).toArray := by
    simp only [setIfInBounds_toArray, set_toArray, set_paintRows hp]
  simp only [writeCell, int?, hrow]
  rw [dif_pos hsize]
  cases o with
  | none => exact congrArg ok hset
  | some b =>
    have hcell : (gridRow w (f p.1)).toArray[p.2.toNat] = .int (f p.1 p.2) := by simp [gridRow, h3]
    simp only [Option.map_some, hcell, coding_int.beq_code, stroke, Option.all_some, hset]
    split <;> rfl

theorem paintRows_step (e : Int × Loc) (o : Option Int) : (isInside h w (.int e.2.1) (.int e.2.2) >>= fun inside =>
      if inside then writeCell (paintRows h w f).toArray (.int e.2.1) (.int e.2.2) (.int e.1) (o.map .int)
      else pure (paintRows h w f).toArray) = .ok (paintRows h w (stroke o f e)).toArray := by
  rw [bind_ok (isInside_int e.2.1 e.2.2)]
  by_cases hp : e.2 ∈ cellSet h w
  · rw [if_pos (by simpa using hp), writeCell_paintRows hp]
  · rw [if_neg (by simpa using hp)]
    refine congrArg (ok ∘ toArray) (map_congr_left fun i hi => ?_)
    refine congrArg toArray (gridRow_ext fun j hj => ?_)
    have hne : ((i : Int), (j : Int)) ≠ e.2 := fun he => hp (he ▸ by simpa [hj] using mem_range.mp hi)
    unfold stroke
    split <;> simp [filled, hne]

/-- A colouring with the colours of another at some places. -/
def overlaid (f : Int → Int → Int) (S : Finset Loc) (g : Int → Int → Int) (i j : Int) : Int :=
  if (i, j) ∈ S then g i j else f i j

theorem filled_overlaid (hc : g p.1 p.2 = c) : filled (overlaid f S g) {p} c = overlaid f (S ∪ {p}) g := by
  funext i j
  simp only [filled, overlaid, Finset.mem_union, Finset.mem_singleton]
  by_cases hij : (i, j) = p
  · simp [← hc, ← hij]
  · simp [hij]

/-- Cells with one colour for each place are painted as if all at once: that a cell is painted before makes no
    difference to whether it shows the colour to paint on. -/
theorem foldl_stroke {l : List (Int × Loc)} (hl : ∀ e ∈ l, g e.2.1 e.2.2 = e.1) :
    l.foldl (stroke o) f = overlaid f ((l.filter fun e => o.all (f e.2.1 e.2.2 = ·)).map Prod.snd).toFinset g := by
  induction l using reverseRecOn with
  | nil => rfl
  | append_singleton l e ih =>
    rw [foldl_concat, ih fun e' he' => hl e' (by simp [he']), filter_append, map_append, toFinset_append]
    have hkept : e.2 ∈ ((l.filter fun e => o.all (f e.2.1 e.2.2 = ·)).map Prod.snd).toFinset →
        o.all (f e.2.1 e.2.2 = ·) = true := fun he => by
      obtain ⟨e', he', heq⟩ := mem_map.mp (mem_toFinset.mp he)
      exact heq ▸ (mem_filter.mp he').2
    generalize ((l.filter fun e => o.all (f e.2.1 e.2.2 = ·)).map Prod.snd).toFinset = T at hkept ⊢
    have hnew : e.2 ∉ T → overlaid f T g e.2.1 e.2.2 = f e.2.1 e.2.2 := fun he => if_neg he
    cases hk : o.all (f e.2.1 e.2.2 = ·) with
    | false => simp [stroke, hnew (by simpa [hk] using hkept), hk]
    | true =>
      have hone : (([e].filter fun e => o.all (f e.2.1 e.2.2 = ·)).map Prod.snd).toFinset = {e.2} := by simp [hk]
      rw [hone, stroke]
      split
      · exact filled_overlaid (hl e (by simp))
      · by_cases he : e.2 ∈ T
        · rw [Finset.union_eq_left.mpr (by simpa using he)]
        · simp_all

/-- Coloured places are painted one after another, those outside the grid passed over. -/
theorem write_grid {α : Type} {c : α → Value} {e : α → Int × Loc} {r : Value → Answer (Value × Value × Value)}
    {only : Value → Answer (Option Value)} {l : List α} (hh : 1 ≤ h) (honly : only (grid h w f) = .ok (o.map .int))
    (hread : ∀ a ∈ l, r (c a) = .ok (.int (e a).1, .int (e a).2.1, .int (e a).2.2)) :
    write (grid h w f) only (.ok (l.map c)) r = .ok (grid h w ((l.map e).foldl (stroke o) f)) := by
  have hrows : (gridRows h w f).mapM (fun r => do return (← r.elements).toArray) = .ok (paintRows h w f) :=
    mapM_map_ok fun _ _ => rfl
  have hfold : ∀ f, (l.map c).foldlM (fun rows v => do
      let p ← r v
      if ← isInside h w p.2.1 p.2.2 then writeCell rows p.2.1 p.2.2 p.1 (o.map .int) else return rows)
        (paintRows h w f).toArray = .ok (paintRows h w ((l.map e).foldl (stroke o) f)).toArray := by
    clear hrows honly
    induction l with
    | nil => exact fun _ => rfl
    | cons a l ih =>
      intro f
      rw [map_cons, foldlM_cons, map_cons, foldl_cons, bind_ok (hread a (by simp))]
      exact bind_eq (paintRows_step (e a) o) (ih (fun b hb => hread b (by simp [hb])) _)
  refine bind_eq (extent_grid hh) (bind_eq honly (bind_eq elements_grid (bind_eq hrows
    (bind_eq rfl (bind_eq (hfold f) (congrArg (ok ∘ tuple) ?_))))))
  simp [paintRows, Function.comp_def]

/-- The value is a patch with these places. -/
def IsPatch (v : Value) (S : Finset Loc) : Prop :=
  ∃ (u : Value) (ps : List Loc) (n : Nat), toindices v = .ok u ∧ u.elements = .ok (ps.map place) ∧ ps.toFinset = S ∧
    v.size = .ok n ∧ (n = 0 ↔ S = ∅)

theorem isPatch_of_elements {ps : List Loc} (hv : v.elements = .ok (ps.map place))
    (hs : v.size = .ok ps.length) : IsPatch v ps.toFinset := by
  cases ps with
  | nil => exact ⟨.fset [], [], 0, bind_ok hs, rfl, rfl, hs, by simp⟩
  | cons p ps =>
    have hhead : v.head = .ok (place p) := bind_eq hv rfl
    have hcolor : isColored v = .ok false := bind_eq hhead rfl
    refine ⟨v, p :: ps, ps.length + 1, ?_, hv, rfl, hs, by simp⟩
    refine bind_eq hs ?_
    exact bind_ok hcolor

theorem isPatch_places (S : Finset Loc) : IsPatch (places S) S := by
  obtain ⟨l, -, hl, heq⟩ := coding_place.exists_list S
  have hS : l.toFinset = S := Finset.ext fun p => by simp [hl]
  rw [places, heq]
  exact hS ▸ isPatch_of_elements rfl (by simp [Value.size])

theorem isPatch_mset (S : Finset Loc) : IsPatch (.mset (listed place S)) S := by
  obtain ⟨l, -, hl, heq⟩ := coding_place.exists_list S
  have hS : l.toFinset = S := Finset.ext fun p => by simp [hl]
  rw [heq]
  exact hS ▸ isPatch_of_elements rfl (by simp [Value.size])

theorem fill_grid (hh : 1 ≤ h) (hv : IsPatch v S) : fill (grid h w f) (.int c) v = .ok (grid h w (filled f S c)) := by
  obtain ⟨u, ps, n, hu, hps, rfl, -⟩ := hv
  have hplaces : placesOf v = .ok (ps.map place) := bind_eq hu hps
  have hcolor : ∀ e ∈ ps.map fun p => (c, p), c = e.1 := by
    rintro e he
    obtain ⟨p, -, rfl⟩ := mem_map.mp he
    rfl
  rw [fill, hplaces, write_grid (e := fun p => (c, p)) (o := none) hh rfl fun _ _ => rfl,
    foldl_stroke (g := fun _ _ => c) hcolor]
  simp only [Option.all_none, filter_true, map_map, Function.comp_def, map_id']
  rfl

/-! ## 4. Colours -/

theorem canvas_int (c : Int) (h w : Nat) : canvas (.int c) (.tuple [.int h, .int w]) = .ok (grid h w fun _ _ => c) := by
  have hrun : canvas (.int c) (.tuple [.int h, .int w]) = if (h : Int) ≤ 0 then .ok (.tuple []) else
      .ok (.tuple (replicate h (.tuple (replicate w (.int c))))) := rfl
  rw [hrun]
  split
  · rw [show h = 0 by omega]
    rfl
  · simp [grid, gridRow, map_const']

theorem colors_grid : colors (grid h w f) = .ok ((cellList h w).map fun p => .int (f p.1 p.2)) := by
  refine bind_eq elements_grid (bind_eq elements_rows (congrArg ok ?_))
  simp [cellList, gridRow, flatMap_def, map_flatten, Function.comp_def]

theorem toFinset_colors : ((cellList h w).map fun p => f p.1 p.2).toFinset = (cellSet h w).image fun p => f p.1 p.2 :=
  Finset.ext fun c => by simp

theorem map_colors :
    ((cellList h w).map fun p => int (f p.1 p.2)) = ((cellList h w).map fun p => f p.1 p.2).map .int := by simp

theorem palette_grid : palette (grid h w f) = .ok (.fset (listed .int ((cellSet h w).image fun p => f p.1 p.2))) := by
  refine bind_eq colors_grid ?_
  rw [map_colors, coding_int.fsetOf_map, toFinset_colors]

theorem cellAt_grid (hp : p ∈ cellSet h w) : cellAt (grid h w f) (.int p.1) (.int p.2) = .ok (.int (f p.1 p.2)) := by
  obtain ⟨⟨h1, h2⟩, h3, h4⟩ := mem_cellSet.mp hp
  obtain ⟨i, hi⟩ := Int.eq_ofNat_of_zero_le h1
  obtain ⟨j, hj⟩ := Int.eq_ofNat_of_zero_le h3
  rw [hi, hj]
  exact bind_eq (item_grid (by omega)) (item_row (by omega))

theorem height_grid : height (grid h w f) = .ok (.int h) := by
  refine bind_eq size_grid ?_
  split
  · rw [show h = 0 by simpa using ‹(h == 0) = true›]; rfl
  · exact bind_ok size_grid

theorem width_grid (hh : 1 ≤ h) : width (grid h w f) = .ok (.int w) := by
  refine bind_eq size_grid ?_
  rw [if_neg (by simp; omega)]
  refine bind_eq (item_grid hh) (bind_ok (by simp [Value.size, gridRow]))

theorem shape_grid (hh : 1 ≤ h) : shape (grid h w f) = .ok (place (h, w)) :=
  bind_eq height_grid (bind_ok (width_grid hh))

end PuzzlePrograms
