import PuzzlePrograms.Proofs.Patches

/-!
# Scaling

A grid that is scaled up has a square of cells for each cell: its colouring is asked at the quotients of row and column.
Scaled down it is asked at the multiples. An object is scaled up around its upper left corner.
-/

namespace PuzzlePrograms

open Value Dsl Patch
open List hiding transpose map_map

unseal grid

variable {α : Type} {h w n a b : Nat} {f : Int → Int → Int} {r : Int → Int}

/-! ## 1. Grids -/

theorem range_mul (k : Nat → α) (n a : Nat) :
    (range (n * a)).map k = (range n).flatMap fun i => (range a).map fun x => k (i * a + x) := by
  induction n with
  | zero => simp
  | succ n ih => rw [Nat.add_one_mul, range_add, map_append, ih, range_succ, flatMap_append, List.map_map]; simp

theorem flatten_copies (ha : 1 ≤ a) (k : Nat → α) :
    ((range n).map fun i => replicate a (k i)).flatten = (range (n * a)).map fun i => k (i / a) := by
  rw [range_mul, flatMap_def]
  refine congrArg flatten (map_congr_left fun i _ => ?_)
  have hdiv : ∀ x ∈ range a, k ((i * a + x) / a) = k i := fun x hx => by
    rw [Nat.add_comm, Nat.add_mul_div_right _ _ ha, Nat.div_eq_of_lt (mem_range.mp hx), Nat.zero_add]
  rw [map_congr_left hdiv, map_const', length_range]

theorem mapM_copies {v : Nat → Value} (ha : 1 ≤ a) : ∃ vss, ((range n).map v).mapM (copies (.int a)) = .ok vss ∧
    vss.flatten = (range (n * a)).map fun i => v (i / a) :=
  ⟨_, mapM_map_ok fun _ _ => rfl, flatten_copies ha v⟩

theorem copies_row (ha : 1 ≤ a) : ∃ vss, (gridRow w r).mapM (copies (.int a)) = .ok vss ∧
    vss.flatten = gridRow (w * a) fun j => r (j / a) := by
  obtain ⟨vss, hrun, hvss⟩ := mapM_copies (v := fun j : Nat => .int (r j)) (n := w) ha
  exact ⟨vss, hrun, hvss.trans (by simp [gridRow])⟩

theorem hupscale_grid (ha : 1 ≤ a) : hupscale (grid h w f) (.int a) = .ok (grid h (w * a) fun i j => f i (j / a)) := by
  refine bind_eq elements_grid (bind_ok (mapM_map_ok fun i _ => ?_))
  obtain ⟨vss, hrun, hvss⟩ := copies_row (r := f i) (w := w) ha
  exact bind_eq rfl (bind_eq hrun (by rw [hvss]; rfl))

theorem vupscale_grid (ha : 1 ≤ a) : vupscale (grid h w f) (.int a) = .ok (grid (h * a) w fun i j => f (i / a) j) := by
  obtain ⟨vss, hrun, hvss⟩ := mapM_copies (v := fun i : Nat => .tuple (gridRow w (f i))) (n := h) ha
  refine bind_eq elements_grid (bind_eq hrun ?_)
  rw [hvss]
  simp [grid, pure, Except.pure]

theorem upscale_grid (ha : 1 ≤ a) :
    upscale (grid h w f) (.int a) = .ok (grid (h * a) (w * a) fun i j => f (i / a) (j / a)) := by
  refine bind_eq elements_grid (bind_eq (mapM_map_ok (m := fun i : Nat =>
    replicate a (.tuple (gridRow (w * a) fun j => f i (j / a)))) fun i _ => ?_) ?_)
  · obtain ⟨vss, hrun, hvss⟩ := copies_row (r := f i) (w := w) ha
    exact bind_eq rfl (bind_eq hrun (by rw [hvss]; rfl))
  · rw [flatten_copies ha fun i : Nat => tuple (gridRow (w * a) fun j => f i (j / a))]
    simp [grid, pure, Except.pure]

theorem filter_multiples (ha : 1 ≤ a) :
    (range (n * a)).filter (fun k => decide (k % a = 0)) = (range n).map (· * a) := by
  have hblock (i : Nat) : ((range a).map fun x => i * a + x).filter (fun k => decide (k % a = 0)) = [i * a] := by
    have hzero : ∀ x ∈ range a, decide ((i * a + x) % a = 0) = decide (x = 0) := fun x hx => by
      rw [Nat.mul_add_mod', Nat.mod_eq_of_lt (mem_range.mp hx)]
    rw [filter_map, Function.comp_def, filter_congr hzero, filter_eq,
      count_eq_one_of_mem nodup_range (mem_range.mpr ha)]
    rfl
  have hall := range_mul id n a
  simp only [map_id, id] at hall
  rw [hall, filter_flatMap, ← flatMap_pure_eq_map]
  exact congrArg (flatMap · _) (funext fun i => hblock i)

theorem chosen_multiples (ha : 1 ≤ a) (n : Nat) :
  (rangeList 0 (n * a : Nat) 1).filterM (fun k => do return (← k.mod (.int a)) == 0) =
    .ok ((range n).map fun k : Nat => .int (k * a : Nat)) := by
  have hmod (k : Nat) : ((do return (← (int k).mod (.int a)) == 0) : Answer Bool) = .ok (decide (k % a = 0)) := by
    rw [bind_ok (mod_nat ha)]
    exact congrArg Except.ok (coding_int.beq_code.trans (decide_eq_decide.mpr Int.natCast_eq_zero))
  rw [rangeList_nat, filterM_map_ok fun k _ => hmod k, filter_multiples ha, List.map_map]
  rfl

theorem downscale_grid (ha : 1 ≤ a) (hh : 1 ≤ h) :
    downscale (grid (h * a) (w * a) f) (.int a) = .ok (grid h w fun i j => f (i * a) (j * a)) := by
  have hlt {n k : Nat} (hk : k ∈ range n) : k * a < n * a := Nat.mul_lt_mul_of_pos_right (mem_range.mp hk) ha
  have hrows : (rangeList 0 (h * a : Nat) 1).mapM (fun i => do
      return tuple (← (← (rangeList 0 (w * a : Nat) 1).filterM fun k : Value => do return (← k.mod (.int a)) == 0).mapM
        fun j => cellAt (grid (h * a) (w * a) f) i j)) =
      .ok ((range (h * a)).map fun i : Nat => .tuple (gridRow w fun j => f i (j * a))) := by
    rw [rangeList_nat (h * a)]
    refine mapM_map_ok fun i hi => ?_
    refine bind_eq (chosen_multiples ha w) (bind_ok (mapM_map_ok fun j hj => ?_))
    have hcell : ((i : Int), ((j * a : Nat) : Int)) ∈ cellSet (h * a) (w * a) := mem_cellSet.mpr
      ⟨⟨by omega, Int.ofNat_lt.mpr (mem_range.mp hi)⟩, by omega, Int.ofNat_lt.mpr (hlt hj)⟩
    exact (cellAt_grid hcell).trans (by simp)
  refine bind_eq (extent_grid (Nat.mul_pos hh ha)) (bind_eq hrows (bind_eq (chosen_multiples ha h) ?_))
  refine bind_ok (mapM_map_ok fun i hi => ?_)
  exact (item_grid (f := fun i j => f i (j * a)) (hlt hi)).trans (by simp)

/-! ## 2. Objects -/

/-- The square that a coloured place becomes when an object is scaled around a place, one place of it. -/
def swell (o : Loc) (a : Nat) (e : (Int × Loc) × Loc) : Int × Loc :=
  (e.1.1, a * (e.1.2.1 - o.1) + e.2.1 + o.1, a * (e.1.2.2 - o.2) + e.2.2 + o.2)

/-- An object scaled around a place. -/
def blocks (O : Finset (Int × Loc)) (o : Loc) (a : Nat) : Finset (Int × Loc) := (O ×ˢ cellSet a a).image (swell o a)

/-- The place that becomes the square around a place. -/
def source (o : Loc) (a : Nat) (p : Loc) : Loc := ((p.1 - o.1) / a + o.1, (p.2 - o.2) / a + o.2)

variable {O : Finset (Int × Loc)} {o p : Loc} {c : Int} {e : (Int × Loc) × Loc}

theorem ediv_swell {x q : Int} (hq : 0 ≤ q ∧ q < a) (o : Int) : (a * x + q + o - o) / a = x := by
  rw [Int.add_sub_cancel, Int.add_comm, Int.add_mul_ediv_left _ _ (by omega), Int.ediv_eq_zero_of_lt hq.1 hq.2,
    Int.zero_add]

theorem source_swell (he : e.2 ∈ cellSet a a) : source o a (swell o a e).2 = e.1.2 := by
  obtain ⟨hi, hj⟩ := mem_cellSet.mp he
  simp only [source, swell, ediv_swell hi, ediv_swell hj, sub_add_cancel]

theorem mem_blocks (ha : 1 ≤ a) : (c, p) ∈ blocks O o a ↔ (c, source o a p) ∈ O := by
  refine Finset.mem_image.trans ⟨?_, fun hc => ⟨((c, source o a p), ((p.1 - o.1) % a, (p.2 - o.2) % a)), ?_, ?_⟩⟩
  · rintro ⟨e, he, hcp⟩
    obtain ⟨he, hq⟩ := Finset.mem_product.mp he
    obtain ⟨hc, hp⟩ := Prod.mk.inj hcp
    rw [← hp, ← hc]
    exact (source_swell hq).symm ▸ he
  · have hmod (x : Int) : 0 ≤ x % a ∧ x % a < a := ⟨Int.emod_nonneg _ (by omega), Int.emod_lt_of_pos _ (by omega)⟩
    exact Finset.mem_product.mpr ⟨hc, mem_cellSet.mpr ⟨hmod _, hmod _⟩⟩
  · simp [swell, source, Int.mul_ediv_add_emod]

theorem card_blocks : (blocks O o a).card = O.card * (a * a) := by
  have hinj : Set.InjOn (swell o a) (O ×ˢ cellSet a a : Finset _) := by
    intro e he e' he' heq
    have hsource : e.1.2 = e'.1.2 := by
      rw [← source_swell (Finset.mem_product.mp he).2, heq, source_swell (Finset.mem_product.mp he').2]
    obtain ⟨hc, hi, hj⟩ : e.1.1 = e'.1.1 ∧ e.2.1 = e'.2.1 ∧ e.2.2 = e'.2.2 := by simpa [swell, hsource] using heq
    exact Prod.ext (Prod.ext hc hsource) (Prod.ext hi hj)
  have hcells : (cellSet a a).card = a * a := by
    rw [cellSet, toFinset_card_of_nodup (.of_map _ strict_cellList.nodup), length_cellList]
  rw [blocks, Finset.card_image_of_injOn hinj, Finset.card_product, hcells]

theorem blocks_spots (ha : 1 ≤ a) : blocks (spots h w f) 0 a = spots (h * a) (w * a) fun i j => f (i / a) (j / a) := by
  ext ⟨c, p⟩
  have ha : (0 : Int) < a := by omega
  have hrow {n : Nat} (x : Int) : (0 ≤ x / a ∧ x / a < n) ↔ 0 ≤ x ∧ x < (n * a : Nat) := by
    rw [Int.ediv_nonneg_iff_of_pos ha, Int.ediv_lt_iff_lt_mul ha, Nat.cast_mul]
  rw [mem_blocks (by omega), mem_spots, mem_spots, mem_cellSet, mem_cellSet, ← hrow, ← hrow]
  simp [source]

/-- The squares of an object that stands at the origin, as a list. -/
def blockList (a : Nat) (l : List (Int × Loc)) : List (Int × Loc) :=
  l.flatMap fun e => (cellList a a).map fun q => (e.1, e.2.1 * a + q.1, e.2.2 * a + q.2)

theorem moved_blockList {l : List (Int × Loc)} (hl : ∀ e, e ∈ l ↔ e ∈ O.image fun e => (e.1, e.2 + -o)) :
    (tinted (blockList a l).toFinset).moved o = tinted (blocks O o a) := by
  refine congrArg tinted (Finset.ext fun e => ?_)
  simp only [blockList, blocks, swell, Finset.mem_image, Finset.mem_product, mem_toFinset, mem_flatMap, mem_map, hl]
  constructor
  · rintro ⟨_, ⟨_, ⟨e, he, rfl⟩, q, hq, rfl⟩, rfl⟩
    refine ⟨(e, q), ⟨he, mem_toFinset.mpr hq⟩, ?_⟩
    simp [Prod.ext_iff, mul_comm, sub_eq_add_neg]
  · rintro ⟨⟨e, q⟩, ⟨he, hq⟩, rfl⟩
    refine ⟨_, ⟨_, ⟨e, he, rfl⟩, q, mem_toFinset.mp hq, rfl⟩, ?_⟩
    simp [Prod.ext_iff, mul_comm, sub_eq_add_neg]

theorem upscale_tinted {x y b d : Int} (hO : Spans (tinted O).locs x b y d) :
    upscale (tinted O).value (.int a) = .ok (tinted (blocks O (x, y) a)).value := by
  obtain ⟨n, hn, hpos, hset⟩ := hO.size_pos
  obtain ⟨l, -, hl, heq⟩ := coding_spot.exists_list (O.image fun e => (e.1, e.2 + -(x, y)))
  simp only [upscale, hset, upscaleObject, Bool.false_eq_true, if_false]
  refine bind_eq hn ?_
  rw [hpos]
  refine bind_eq hO.ulcorner (bind_eq rfl (bind_eq rfl (bind_eq rfl
    (bind_eq (shift_value (-x, -y)) (bind_eq (congrArg Except.ok heq) (bind_eq (mapM_map_ok (m := fun e =>
      (blockList a [e]).map spot) fun e _ => ?_) ?_))))))
  · refine bind_eq rfl (bind_eq (span_nat a) (bind_eq (mapM_map_ok (m := fun i : Nat => (range a).map fun j : Nat =>
      spot (e.1, e.2.1 * a + i, e.2.2 * a + j)) fun i _ => ?_) (congrArg Except.ok ?_)))
    · exact mapM_map_ok fun j _ => rfl
    · simp [blockList, cellList, spot, place, Value.pair, flatMap_def, Function.comp_def]
  · have hflat : (l.map fun e => (blockList a [e]).map spot).flatten = (blockList a l).map spot := by
      simp [blockList, flatMap_def, map_flatten, Function.comp_def]
    rw [hflat]
    refine bind_eq coding_spot.fsetOf_map ((shift_value (P := tinted _) (x, y)).trans ?_)
    rw [moved_blockList hl]

theorem ulcorner_blocks {x y b d : Int} (ha : 1 ≤ a) (hO : Spans (tinted O).locs x b y d) :
    ulcorner (tinted (blocks O (x, y) a)).value = .ok (place (x, y)) := by
  have hmem {p : Loc} : p ∈ (tinted (blocks O (x, y) a)).locs ↔ source (x, y) a p ∈ (tinted O).locs := by
    simp [locs, mem_blocks ha]
  have hleast {z o : Int} (hz : o ≤ (z - o) / a + o) : o ≤ z := by
    have := (Int.ediv_nonneg_iff_of_pos (show (0 : Int) < a by omega)).mp (show 0 ≤ (z - o) / a by omega)
    omega
  -- the places of the object in its first row and its first column stay there
  have hself {p : Loc} (hp : p ∈ (tinted O).locs) :
    (a * (p.1 - x) + x, a * (p.2 - y) + y) ∈ (tinted (blocks O (x, y) a)).locs := by
    have ha : (a : Int) ≠ 0 := by omega
    simpa [hmem, source, Int.mul_ediv_cancel_left _ ha] using hp
  obtain ⟨t, ht, rfl⟩ := hO.top
  obtain ⟨l, hl, rfl⟩ := hO.left
  obtain ⟨x', b', y', d', hspans⟩ := exists_spans ⟨_, hself ht⟩
  obtain ⟨t', ht', hx⟩ := hspans.top
  obtain ⟨l', hl', hy⟩ := hspans.left
  have hrow := (hspans.inside _ (hself ht)).1.1
  have hcol := (hspans.inside _ (hself hl)).2.1
  have hrow' := hleast (hO.inside _ (hmem.mp ht')).1.1
  have hcol' := hleast (hO.inside _ (hmem.mp hl')).2.1
  simp only [Int.sub_self, Int.mul_zero, Int.zero_add] at hrow hcol
  rw [hspans.ulcorner, show x' = t.1 by omega, show y' = l.2 by omega]

/-- Scaling down undoes scaling up, scaling up twice multiplies the factors, it may be done along the rows and then
along the columns, and to the object of a grid. A scaled object has a square of places for each place and the same upper
left corner. -/
theorem scaling_laws (ha : 1 ≤ a) (hb : 1 ≤ b) :
    (∀ (h w : Nat) (f : Int → Int → Int), let g := grid (h + 1) (w + 1) f
      ∃ u, upscale g (.int a) = .ok u ∧ downscale u (.int a) = .ok g ∧
        (∃ v, upscale u (.int b) = .ok v ∧ upscale g (.int (a * b)) = .ok v) ∧
        (∃ v, hupscale g (.int a) = .ok v ∧ vupscale v (.int a) = .ok u) ∧
        ∃ o v, asobject g = .ok o ∧ upscale o (.int a) = .ok v ∧ asobject u = .ok v) ∧
    ∀ O : Finset (Int × Loc), O.Nonempty → ∃ v p, upscale (tinted O).value (.int a) = .ok v ∧
      (tinted O).value.size = .ok O.card ∧ v.size = .ok (O.card * (a * a)) ∧
      ulcorner (tinted O).value = .ok p ∧ ulcorner v = .ok p := by
  refine ⟨fun h w f => ⟨_, upscale_grid ha, ?_, ⟨_, upscale_grid hb, ?_⟩, ⟨_, hupscale_grid ha, vupscale_grid ha⟩,
    _, _, asobject_grid, upscale_tinted (spans_grid (by omega) (by omega)), ?_⟩, fun O hO => ?_⟩
  · rw [downscale_grid ha (by omega)]
    exact congrArg Except.ok (grid_ext fun i j _ _ => by simp [Int.mul_ediv_cancel _ (show (a : Int) ≠ 0 by omega)])
  · rw [← Int.natCast_mul, upscale_grid (Nat.mul_pos ha hb), ← Nat.mul_assoc, ← Nat.mul_assoc]
    refine congrArg Except.ok (grid_ext fun i j _ _ => ?_)
    rw [Int.ediv_ediv_of_nonneg (by omega), Int.ediv_ediv_of_nonneg (by omega), Nat.cast_mul, Int.mul_comm]
  · rw [asobject_grid]
    exact congrArg (Except.ok ∘ value ∘ tinted) (blocks_spots ha).symm
  · obtain ⟨x, b, y, d, hspans⟩ := exists_spans (hO.image Prod.snd)
    exact ⟨_, _, upscale_tinted hspans, coding_spot.size_fset, coding_spot.size_fset.trans (by rw [card_blocks]),
      Spans.ulcorner (P := tinted O) hspans, ulcorner_blocks ha hspans⟩

theorem scaling_laws_dot :
    ∃ v p, upscale (tinted {(3, (-2, 5))}).value (.int 2) = .ok v ∧ v.size = .ok 4 ∧ ulcorner v = .ok p := by
  obtain ⟨v, p, hrun, -, hsize, -, hcorner⟩ :=
    (scaling_laws (a := 2) (b := 3) (by decide) (by decide)).2 {(3, (-2, 5))} (by simp)
  exact ⟨v, p, hrun, hsize, hcorner⟩

end PuzzlePrograms
