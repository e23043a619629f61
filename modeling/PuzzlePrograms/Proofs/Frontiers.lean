import PuzzlePrograms.Proofs.Rings

/-!
# Frontiers

A frontier of a grid is a row or a column of one colour. Compressing a grid leaves out its frontiers.
-/

namespace PuzzlePrograms

open Value Dsl Patch
open List hiding transpose map_map

variable {h w : Nat} {f : Int → Int → Int} {p : Loc}

/-! ## 1. Lines of one colour -/

/-- The first values of a line are one value. -/
def oneColour (n : Nat) (r : Int → Int) : Bool := ((range n).map fun j : Nat => r j).toFinset.card == 1

theorem isUniform_line (n : Nat) (r : Int → Int) :
    isUniform ((range n).map fun j : Nat => .int (r j)) = .ok (oneColour n r) := by
  have hmap : ((range n).map fun j : Nat => int (r j)) = ((range n).map fun j : Nat => r j).map .int := by simp
  rw [hmap]
  refine bind_eq coding_int.asElements ?_
  rw [coding_int.ofList_map, coding_int.length_listed]
  rfl

theorem uniformRows_grid : uniformRows (grid h w f) = .ok ((range h).filter fun i : Nat => oneColour w (f i)) := by
  refine bind_eq elements_grid ?_
  rw [zipIdx_map_range]
  refine bind_eq (filterM_map_ok (t := fun i : Nat => oneColour w (f i)) fun i _ => ?_) ?_
  · exact bind_eq rfl (isUniform_line w (f i))
  · rw [List.map_map]
    exact congrArg Except.ok (map_id _)

theorem uniformColumns_grid :
    uniformColumns (grid h w f) h w = .ok ((range w).filter fun j : Nat => oneColour h (f · j)) := by
  have hcells : ∀ j ∈ range w, (rangeList 0 h 1).mapM (fun i => cellAt (grid h w f) i (.int j)) =
      .ok ((range h).map fun i : Nat => .int (f i j)) := fun j hj => by
    rw [rangeList_nat]
    exact mapM_map_ok fun i hi => cellAt_grid (p := (i, j)) (by simpa using ⟨mem_range.mp hi, mem_range.mp hj⟩)
  have hrun :=
    @filterM_map_ok _ _ (fun j : Nat => do isUniform (← (rangeList 0 h 1).mapM fun i => cellAt (grid h w f) i (.int j)))
    id _ _ fun j hj => bind_eq (hcells j hj) (isUniform_line h (f · j))
  rwa [map_id, map_id] at hrun

/-- The place lies on a row or a column of one colour. -/
def onFrontier (h w : Nat) (f : Int → Int → Int) (p : Loc) : Bool := oneColour w (f p.1) || oneColour h (f · p.2)

/-! ## 2. What is left -/

/-- The rows that compressing a grid leaves. -/
def remaining (h w : Nat) (f : Int → Int → Int) : List (List Int) :=
  ((range h).filter fun i : Nat => !oneColour w (f i)).map fun i : Nat =>
    ((range w).filter fun j : Nat => !oneColour h (f · j)).map fun j : Nat => f i j

theorem filter_zipIdx {α : Type} (n : Nat) (k : Nat → α) (t : Nat → Bool) :
    ((range n).map k).zipIdx.filter (fun e => !((range n).filter t).contains e.2) =
      ((range n).filter fun i => !t i).map fun i => (k i, i) := by
  rw [zipIdx_map_range, filter_map]
  refine congrArg _ (filter_congr fun i hi => ?_)
  simp [mem_range.mp hi]

theorem compress_grid (hh : 1 ≤ h) :
    compress (grid h w f) = .ok (.tuple ((remaining h w f).map fun r => .tuple (r.map .int))) := by
  refine bind_eq uniformRows_grid (bind_eq (extent_grid hh) (bind_eq uniformColumns_grid
    (bind_eq elements_grid ?_)))
  rw [filter_zipIdx, remaining, List.map_map]
  refine bind_ok (mapM_map_ok fun i _ => bind_eq rfl (congrArg (Except.ok ∘ tuple) ?_))
  rw [gridRow, filter_zipIdx]
  simp

theorem flatten_remaining :
    (remaining h w f).flatten = ((cellList h w).filter fun p => !onFrontier h w f p).map fun p => f p.1 p.2 := by
  rw [remaining, ← flatMap_def, cellList, filter_flatMap, map_flatMap]
  induction range h with
  | nil => rfl
  | cons i l ih =>
    rw [flatMap_cons, ← ih, filter_map, List.map_map, Function.comp_def, Function.comp_def]
    cases hi : oneColour w (f i) <;> simp [onFrontier, hi]

/-! ## 3. The frontiers -/

/-- The coloured places of the frontiers, one set for each. -/
def frontierSets (h w : Nat) (f : Int → Int → Int) : Finset (Finset (Int × Loc)) :=
  (((range h).filter fun i : Nat => oneColour w (f i)).map fun i : Nat =>
    ((range w).map fun j : Nat => (f i j, ((i : Int), (j : Int)))).toFinset).toFinset ∪
  (((range w).filter fun j : Nat => oneColour h (f · j)).map fun j : Nat =>
    ((range h).map fun i : Nat => (f i j, ((i : Int), (j : Int)))).toFinset).toFinset

theorem mapM_ok {α β : Type} {k : α → Answer β} {m : α → β} {l : List α} (hk : ∀ a ∈ l, k a = .ok (m a)) :
    l.mapM k = .ok (l.map m) := by simpa using mapM_map_ok (l := fun a => a) hk

theorem fsetOf_lines {n : Nat} {l : List Nat} {cell : Nat → Nat → Answer Value} {e : Nat → Nat → Int × Loc}
    (hcell : ∀ k ∈ l, ∀ x < n, cell k x = .ok (spot (e k x))) : ∃ vs,
    l.mapM (fun k => do fsetOf (← (range n).mapM fun x => cell k x)) = .ok vs ∧ fsetOf vs =
      .ok
        (.fset (listed (fun S => .fset (listed spot S)) (l.map fun k => ((range n).map (e k)).toFinset).toFinset)) := by
  refine ⟨(l.map fun k => ((range n).map (e k)).toFinset).map fun S => .fset (listed spot S), ?_,
    coding_spot.set.fsetOf_map⟩
  rw [List.map_map]
  refine mapM_ok fun k hk => bind_eq (mapM_ok fun x hx => hcell k hk x (mem_range.mp hx)) ?_
  rw [Function.comp, ← coding_spot.fsetOf_map, List.map_map]
  rfl

theorem frontiers_grid (hh : 1 ≤ h) :
    frontiers (grid h w f) = .ok (.fset (listed (fun S => .fset (listed spot S)) (frontierSets h w f))) := by
  have hcell {i j : Nat} (hi : i < h) (hj : j < w) : ((do
      return .tuple [← cellAt (grid h w f) (.int i) (.int j), pair i j]) : Answer Value) = .ok (spot (f i j, (i, j))) :=
    bind_eq (cellAt_grid (p := (i, j)) (by simpa using ⟨hi, hj⟩)) rfl
  obtain ⟨hs, hrows, hhs⟩ := fsetOf_lines (l := (range h).filter fun i : Nat => oneColour w (f i)) fun i hi j hj =>
    hcell (mem_range.mp (mem_filter.mp hi).1) hj
  obtain ⟨vs, hcols, hvs⟩ := fsetOf_lines (l := (range w).filter fun j : Nat => oneColour h (f · j)) fun j hj i hi =>
    hcell hi (mem_range.mp (mem_filter.mp hj).1)
  refine bind_eq (extent_grid hh) (bind_eq uniformRows_grid (bind_eq uniformColumns_grid
    (bind_eq hrows (bind_eq hcols (bind_eq hhs (bind_eq hvs ?_))))))
  exact congrArg (Except.ok ∘ fset) coding_spot.set.union_listed

theorem locs_frontiers :
    (tinted ((frontierSets h w f).biUnion id)).locs = (cellSet h w).filter fun p => onFrontier h w f p := by
  ext p
  simp only [locs, frontierSets, Finset.mem_image, Finset.mem_biUnion, Finset.mem_union, Finset.mem_filter,
    mem_toFinset, mem_map,
    mem_filter, mem_range, id, onFrontier, Bool.or_eq_true, mem_cellSet]
  constructor
  · rintro ⟨_, ⟨_, ⟨i, ⟨hi, hone⟩, rfl⟩ | ⟨j, ⟨hj, hone⟩, rfl⟩, he⟩, rfl⟩
    · obtain ⟨j, hj, rfl⟩ := mem_map.mp (mem_toFinset.mp he)
      have := mem_range.mp hj
      exact ⟨by simp only; omega, .inl hone⟩
    · obtain ⟨i, hi, rfl⟩ := mem_map.mp (mem_toFinset.mp he)
      have := mem_range.mp hi
      exact ⟨by simp only; omega, .inr hone⟩
  · obtain ⟨x, y⟩ := p
    rintro ⟨⟨⟨hx, hh⟩, hy, hw⟩, hone⟩
    obtain ⟨i, rfl⟩ := Int.eq_ofNat_of_zero_le hx
    obtain ⟨j, rfl⟩ := Int.eq_ofNat_of_zero_le hy
    have hi : i < h := by omega
    have hj : j < w := by omega
    refine ⟨(f i j, (i, j)), ?_, rfl⟩
    rcases hone with hone | hone
    · exact ⟨_, .inl ⟨i, ⟨hi, hone⟩, rfl⟩, mem_toFinset.mpr (mem_map.mpr ⟨j, mem_range.mpr hj, rfl⟩)⟩
    · exact ⟨_, .inr ⟨j, ⟨hj, hone⟩, rfl⟩, mem_toFinset.mpr (mem_map.mpr ⟨i, mem_range.mpr hi, rfl⟩)⟩

/-- **Compressing removes exactly the frontiers**: what is left, row by row, are the colours at the places that are on
no frontier, and the rows that are left are of one length. -/
theorem compress_leaves (h w : Nat) (f : Int → Int → Int) : let g := grid (h + 1) (w + 1) f
    ∃ (rows : List (List Int)) (frs fr : Value) (I F : Finset Loc) (ps : List Loc),
      compress g = .ok (.tuple (rows.map fun r => .tuple (r.map .int))) ∧
      asindices g = .ok (places I) ∧ frontiers g = .ok frs ∧ merge frs = .ok fr ∧ toindices fr = .ok (places F) ∧
      (∀ p, p ∈ ps ↔ p ∈ I ∧ p ∉ F) ∧ (ps.Pairwise fun p q => p.1 < q.1 ∨ p.1 = q.1 ∧ p.2 < q.2) ∧
      rows.flatten = ps.map (fun p => f p.1 p.2) ∧ ∃ n, ∀ r ∈ rows, r.length = n := by
  intro g
  refine ⟨remaining (h + 1) (w + 1) f, _, _, cellSet (h + 1) (w + 1), _, _, compress_grid (by omega),
    asindices_grid (by omega),
    frontiers_grid (by omega), coding_spot.merge_fset _, toindices_value (P := tinted _), fun p => ?_, ?_,
      flatten_remaining,
    ((range (w + 1)).filter fun j : Nat => !oneColour (h + 1) (f · j)).length, fun r hr => ?_⟩
  · rw [locs_frontiers, mem_filter, Finset.mem_filter, cellSet, mem_toFinset, Bool.not_eq_true', ← Bool.not_eq_true]
    tauto
  · exact ((pairwise_map.mp strict_cellList.sorted).filter _).imp compare_place.mp
  · obtain ⟨i, -, rfl⟩ := mem_map.mp hr
    exact length_map _

end PuzzlePrograms
