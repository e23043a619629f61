import PuzzlePrograms.Dsl.Object
import PuzzlePrograms.Dsl.Task
import Mathlib.Data.Int.Interval
import Mathlib.Tactic.Linarith

/-!
# Grids as colourings

`grid h w f` is the grid of height `h` and width `w` whose cell in row `i` and column `j` has the colour `f i j`. On
grids of this form the vocabulary of grids is composition: mirroring and turning change the arguments of the colouring,
halves restrict it, joining two grids puts their colourings side by side.
-/

namespace PuzzlePrograms

open Value Dsl Except
open List hiding transpose

variable {α β : Type} {k : α → Answer β}

def gridRow (w : Nat) (r : Int → Int) : List Value := (range w).map fun j : Nat => .int (r j)

abbrev gridRows (h w : Nat) (f : Int → Int → Int) : List Value := (range h).map fun i : Nat => .tuple (gridRow w (f i))

/-- The grid with the given height, width and colours. -/
def grid (h w : Nat) (f : Int → Int → Int) : Value := .tuple ((range h).map fun i : Nat => .tuple (gridRow w (f i)))

variable {h w h' w' : Nat} {f g : Int → Int → Int} {r r' : Int → Int}

theorem gridRow_ext (hr : ∀ j : Nat, j < w → r j = r' j) : gridRow w r = gridRow w r' :=
  map_congr_left fun j hj => by rw [hr j (mem_range.mp hj)]

theorem grid_ext (hfg : ∀ i j : Nat, i < h → j < w → f i j = g i j) : grid h w f = grid h w g := by
  refine congrArg tuple (map_congr_left fun i hi => ?_)
  rw [gridRow_ext fun j hj => hfg i j (mem_range.mp hi) hj]

@[simp] theorem gridRow_length : (gridRow w r).length = w := by simp [gridRow]

theorem range_reverse_map (n : Nat) (k : Nat → α) :
    ((range n).map k).reverse = (range n).map fun i => k (n - 1 - i) := by
  refine ext_getElem (by simp) fun i h₁ h₂ => ?_
  simp [getElem_reverse]

theorem gridRow_reverse : (gridRow w r).reverse = gridRow w fun j => r (w - 1 - j) := by
  rw [gridRow, range_reverse_map]
  refine map_congr_left fun j hj => ?_
  have : j < w := mem_range.mp hj
  congr 2
  omega

theorem range_append_map (m n : Nat) (k l : Nat → α) : (range m).map k ++ (range n).map l =
      (range (m + n)).map fun i => if i < m then k i else l (i - m) := by
  rw [range_add, map_append, map_map]
  congr 1
  · exact map_congr_left fun i hi => by simp [mem_range.mp hi]
  · exact map_congr_left fun i _ => by simp

theorem gridRow_append {w' : Nat} :
    gridRow w r ++ gridRow w' r' = gridRow (w + w') fun j => if j < w then r j else r' (j - w) := by
  rw [gridRow, gridRow, range_append_map]
  refine map_congr_left fun j _ => ?_
  by_cases hj : j < w
  · simp [hj]
  · have : ((j - w : Nat) : Int) = (j : Int) - w := by omega
    simp [hj, this]

theorem bind_ok {x : Answer α} {a : α} (hx : x = .ok a) : (x >>= k) = k a := by
  rw [hx]
  rfl

theorem bind_eq {x : Answer α} {a : α} {y : Answer β} (hx : x = .ok a) (hk : k a = y) : (x >>= k) = y :=
  (bind_ok hx).trans hk

/-! ## 1. Slices -/

theorem sliceList_take (xs : List α) (k : Nat) : sliceList xs none (some k) none = .ok (xs.take k) := by
  have hrun : sliceList xs none (some k) none = .ok ((xs.drop 0).take
      (max 0 (min (xs.length : Int) (if (k : Int) < 0 then (k : Int) + xs.length else k)) - 0).toNat) := rfl
  rw [hrun, if_neg (by omega), drop_zero]
  refine congrArg ok ?_
  rw [take_eq_take_iff]
  omega

theorem sliceList_drop (xs : List α) (k : Nat) : sliceList xs (some k) none none = .ok (xs.drop k) := by
  have hrun : sliceList xs (some k) none none = .ok ((xs.drop
      (max 0 (min (xs.length : Int) (if (k : Int) < 0 then (k : Int) + xs.length else k))).toNat).take
      ((xs.length : Int) - max 0 (min (xs.length : Int) (if (k : Int) < 0 then (k : Int) + xs.length else k))).toNat) :=
        rfl
  rw [hrun, if_neg (by omega)]
  refine congrArg ok ?_
  by_cases hk : k ≤ xs.length
  · have hmax : max 0 (min (xs.length : Int) k) = k := by omega
    rw [hmax, take_of_length_le (by rw [length_drop]; omega)]
    rfl
  · rw [drop_of_length_le (by omega), drop_of_length_le (by omega), take_nil]

theorem slice_tuple_take (xs : List Value) (k : Nat) :
    (tuple xs).slice .nothing (.int k) .nothing = .ok (.tuple (xs.take k)) := bind_ok (sliceList_take xs k)

theorem slice_tuple_drop (xs : List Value) (k : Nat) :
    (tuple xs).slice (.int k) .nothing .nothing = .ok (.tuple (xs.drop k)) := bind_ok (sliceList_drop xs k)


theorem filterMap_range (xs : List α) : (range xs.length).filterMap (fun k => xs[k]?) = xs := by
  induction xs with
  | nil => rfl
  | cons x xs ih =>
    simpa [range_succ_eq_map, filterMap_map, Function.comp_def] using ih

theorem sliceList_neg_one (xs : List α) : sliceList xs none none (some (-1)) = .ok xs.reverse := by
  have hps :
    slicePositions xs.length none none (some (-1)) = .ok ((range xs.length).map fun k => xs.length - 1 - k) := by
    have hcount : (xs.length : Int) - 1 - -1 + 1 - 1 = xs.length := by omega
    simp only [slicePositions, Option.getD_some, Option.map_none, Option.getD_none, Int.reduceBEq, Int.reduceNeg,
      Int.reduceLT, Bool.false_eq_true, if_false, if_true, Int.neg_neg, hcount, Int.fdiv_one, Int.toNat_natCast]
    refine congrArg ok (map_congr_left fun k hk => ?_)
    have : k < xs.length := mem_range.mp hk
    omega
  have hrun : sliceList xs none none (some (-1)) = (do
      let ps ← slicePositions xs.length none none (some (-1))
      .ok (ps.filterMap fun k => xs.toArray[k]?)) := rfl
  rw [hrun, hps]
  refine congrArg ok ?_
  rw [filterMap_map, ← filterMap_range xs.reverse, length_reverse]
  refine filterMap_congr fun k hk => ?_
  rw [getElem?_reverse (mem_range.mp hk)]
  simp

theorem reversed_tuple (xs : List Value) : (tuple xs).reversed = .ok (.tuple xs.reverse) := by
  have h : (tuple xs).reversed = (do return .tuple (← sliceList xs none none (some (-1)))) := rfl
  rw [h, sliceList_neg_one]
  rfl

/-! ## 2. Mirroring -/

theorem elements_grid : (grid h w f).elements = .ok (gridRows h w f) := rfl

theorem mapM_map_ok {γ ε : Type} {k : α → Except ε β} {l : γ → α} {m : γ → β} {xs : List γ}
    (hk : ∀ x ∈ xs, k (l x) = .ok (m x)) : (xs.map l).mapM k = .ok (xs.map m) := by
  induction xs with
  | nil => rfl
  | cons x xs ih =>
    rw [map_cons, mapM_cons, hk x (by simp), ih fun y hy => hk y (by simp [hy])]
    rfl

theorem hmirror_grid : hmirror (grid h w f) = .ok (grid h w fun i j => f (h - 1 - i) j) := by
  have hrun : hmirror (grid h w f) = (grid h w f).reversed := rfl
  rw [hrun, grid, reversed_tuple, range_reverse_map]
  refine congrArg (ok ∘ tuple) (map_congr_left fun i hi => ?_)
  have : i < h := mem_range.mp hi
  have hi' : ((h - 1 - i : Nat) : Int) = (h : Int) - 1 - i := by omega
  simp [hi']

theorem reversed_grid : (grid h w f).reversed = .ok (grid h w fun i j => f (h - 1 - i) j) := hmirror_grid

theorem reversed_rows : (gridRows h w f).mapM reversed = .ok (gridRows h w fun i j => f i (w - 1 - j)) :=
  mapM_map_ok fun i _ => by rw [reversed_tuple, gridRow_reverse]

theorem vmirror_grid : vmirror (grid h w f) = .ok (grid h w fun i j => f i (w - 1 - j)) := by
  have hrun : vmirror (grid h w f) = (do return .tuple (← (gridRows h w f).mapM reversed)) := rfl
  rw [hrun, reversed_rows]
  rfl

/-! ## 3. Turning -/

theorem foldl_min_length {rows : List (List α)} (hrows : ∀ r ∈ rows, r.length = w) :
    rows.foldl (fun m r => min m r.length) w = w := by
  induction rows with
  | nil => rfl
  | cons r rows ih =>
    rw [foldl_cons, hrows r (by simp), min_self]
    exact ih fun r' hr' => hrows r' (by simp [hr'])

theorem transpose_map (h w : Nat) (k : Nat → Nat → α) : transpose ((range (h + 1)).map fun i => (range w).map (k i)) =
      (range w).map fun j => (range (h + 1)).map fun i => k i j := by
  have hzip : ∀ (r : Nat → α) (c : Nat → List α),
      zipWith (· :: ·) ((range w).map r) ((range w).map c) = (range w).map fun j => r j :: c j := by
    intro r c
    rw [zipWith_map, zipWith_self]
  have hfold : ∀ (l : List Nat), (l.map fun i => (range w).map (k i)).foldr
      (fun row cols => zipWith (· :: ·) row cols) (replicate w []) = (range w).map fun j => l.map fun i => k i j := by
    intro l
    induction l with
    | nil => simp
    | cons i l ih => rw [map_cons, foldr_cons, ih, hzip]; rfl
  rw [range_succ_eq_map, map_cons, transpose]
  have hn : (((range h).map Nat.succ).map fun i => (range w).map (k i)).foldl
      (fun m r => min m r.length) ((range w).map (k 0)).length = w := by
    rw [length_map, length_range]
    exact foldl_min_length fun r hr => by
      obtain ⟨i, _, rfl⟩ := mem_map.mp hr
      simp
  simp only [hn, hfold, hzip, map_cons]

theorem columns_tuple (h w : Nat) (k : Nat → Nat → Value) :
    columns (.tuple ((range (h + 1)).map fun i => .tuple ((range w).map (k i)))) =
    .ok ((range w).map fun j => .tuple ((range (h + 1)).map fun i => k i j)) := by
  have hrows : rowsOf (.tuple ((range (h + 1)).map fun i => .tuple ((range w).map (k i)))) =
      .ok ((range (h + 1)).map fun i => (range w).map (k i)) := mapM_map_ok fun _ _ => rfl
  rw [columns, hrows]
  exact congrArg ok (by rw [transpose_map, map_map]; rfl)

theorem dmirror_grid (hh : 1 ≤ h) : dmirror (grid h w f) = .ok (grid w h fun i j => f j i) := by
  obtain ⟨h, rfl⟩ := Nat.exists_eq_add_of_le' hh
  have hrun : dmirror (grid (h + 1) w f) = (do return .tuple (← columns (grid (h + 1) w f))) := rfl
  rw [hrun]
  simp only [grid, gridRow]
  rw [columns_tuple]
  rfl

theorem rot90_grid (hh : 1 ≤ h) : rot90 (grid h w f) = .ok (grid w h fun i j => f (h - 1 - j) i) := by
  have hrun : rot90 (grid h w f) = (do return .tuple (← columns (← (grid h w f).reversed))) := rfl
  rw [hrun, reversed_grid]
  exact dmirror_grid (f := fun i j => f (h - 1 - i) j) hh

theorem backwards_gridRow : backwards (.tuple (gridRow w r)) = .ok (.tuple (gridRow w fun j => r (w - 1 - j))) := by
  rw [backwards, reversed_tuple, gridRow_reverse]
  rfl

theorem rot180_grid : rot180 (grid h w f) = .ok (grid h w fun i j => f (h - 1 - i) (w - 1 - j)) :=
  bind_eq reversed_grid (bind_eq elements_grid (bind_ok (mapM_map_ok fun _ _ => backwards_gridRow)))

theorem cmirror_grid (hh : 1 ≤ h) : cmirror (grid h w f) = .ok (grid w h fun i j => f (h - 1 - j) (w - 1 - i)) :=
  bind_eq reversed_grid (bind_eq elements_grid (bind_eq reversed_rows
    (dmirror_grid (f := fun i j => f (h - 1 - i) (w - 1 - j)) hh)))

theorem rot270_grid (hh : 1 ≤ h) : rot270 (grid h w f) = .ok (grid w h fun i j => f j (w - 1 - i)) := by
  obtain ⟨k, rfl⟩ := Nat.exists_eq_add_of_le' hh
  have hcols : columns (grid (k + 1) w fun i j => f ((k + 1 : Nat) - 1 - i) j) =
      .ok (gridRows w (k + 1) fun i j => f ((k + 1 : Nat) - 1 - j) i) := columns_tuple k w _
  have hrows : (gridRows w (k + 1) fun i j => f ((k + 1 : Nat) - 1 - j) i).mapM backwards =
      .ok (gridRows w (k + 1) fun i j => f ((k + 1 : Nat) - 1 - ((k + 1 : Nat) - 1 - j)) i) :=
    mapM_map_ok fun i _ => backwards_gridRow
  have hrun : rot270 (grid (k + 1) w f) = (do
      return .tuple (← (← columns (← (grid (k + 1) w f).reversed)).mapM backwards).reverse) := rfl
  rw [hrun, bind_ok reversed_grid, bind_ok hcols, bind_ok hrows]
  refine congrArg (ok ∘ tuple) ?_
  rw [range_reverse_map]
  refine map_congr_left fun i hi => ?_
  have : i < w := mem_range.mp hi
  refine congrArg tuple (gridRow_ext fun j _ => ?_)
  dsimp only
  congr 1 <;> omega

/-! ## 4. Parts and joins -/

theorem size_grid : (grid h w f).size = .ok h := by simp [grid, Value.size]

theorem range_take_map {m n : Nat} (hmn : m ≤ n) (k : Nat → α) : ((range n).map k).take m = (range m).map k := by
  rw [← map_take, take_range, min_eq_left hmn]

theorem range_drop_map (m n : Nat) (k : Nat → α) :
    ((range n).map k).drop m = (range (n - m)).map fun i => k (i + m) := by
  refine ext_getElem (by simp) fun i h₁ h₂ => ?_
  simp [Nat.add_comm]

theorem take_grid {k : Nat} (hk : k ≤ h) : (grid h w f).slice .nothing (.int k) .nothing = .ok (grid k w f) := by
  rw [grid, slice_tuple_take, range_take_map hk]
  rfl

theorem drop_grid {k : Nat} :
    (grid h w f).slice (.int k) .nothing .nothing = .ok (grid (h - k) w fun i j => f (i + k) j) := by
  rw [grid, slice_tuple_drop, range_drop_map]
  rfl

theorem tophalf_grid : tophalf (grid h w f) = .ok (grid (h / 2) w f) := bind_eq size_grid (take_grid (by omega))

theorem bottomhalf_grid :
    bottomhalf (grid h w f) = .ok (grid (h / 2) w fun i j => f (i + (h / 2 + h % 2 : Nat)) j) := by
  refine bind_eq size_grid (drop_grid.trans ?_)
  rw [show h - (h / 2 + h % 2) = h / 2 by omega]

theorem lefthalf_grid (hh : 1 ≤ h) (hw : 2 ≤ w) : lefthalf (grid h w f) = .ok (grid h (w / 2) f) := by
  refine bind_eq (rot90_grid hh) (bind_eq tophalf_grid ((rot270_grid (by omega)).trans ?_))
  refine congrArg ok (grid_ext fun i j _ _ => ?_)
  congr 1
  omega

theorem righthalf_grid (hh : 1 ≤ h) (hw : 2 ≤ w) :
    righthalf (grid h w f) = .ok (grid h (w / 2) fun i j => f i (j + (w / 2 + w % 2 : Nat))) := by
  refine bind_eq (rot90_grid hh) (bind_eq bottomhalf_grid ((rot270_grid (by omega)).trans ?_))
  refine congrArg ok (grid_ext fun i j _ _ => ?_)
  congr 1
  omega

theorem hconcat_grid :
    hconcat (grid h w f) (grid h w' g) = .ok (grid h (w + w') fun i j => if j < w then f i j else g i (j - w)) := by
  have hrows : ((gridRows h w f).zip (gridRows h w' g)).mapM (fun p => p.1.add p.2) =
      .ok (gridRows h (w + w') fun i j => if j < w then f i j else g i (j - w)) := by
    rw [zip_map']
    exact mapM_map_ok fun i _ => by rw [← gridRow_append]; rfl
  have hrun : hconcat (grid h w f) (grid h w' g) = (do
      return .tuple (← ((gridRows h w f).zip (gridRows h w' g)).mapM fun p => p.1.add p.2)) := rfl
  rw [hrun, hrows]
  rfl

theorem vconcat_grid :
    vconcat (grid h w f) (grid h' w g) = .ok (grid (h + h') w fun i j => if i < h then f i j else g (i - h) j) := by
  have hrun : vconcat (grid h w f) (grid h' w g) = .ok (.tuple (gridRows h w f ++ gridRows h' w g)) := rfl
  rw [hrun, range_append_map]
  refine congrArg (ok ∘ tuple) (map_congr_left fun i _ => ?_)
  by_cases hi : i < h
  · simp [hi]
  · have : ((i - h : Nat) : Int) = (i : Int) - h := by omega
    simp [hi, this]

-- from here on a grid is known by what the vocabulary does to it
attribute [irreducible] grid

end PuzzlePrograms
