import PuzzlePrograms.Proofs.Rings

/-!
# Splitting

A grid is split into bands of the same breadth. Where the number of bands does not divide the breadth of the grid, every
band but the first is set off by one, and what lies over the border is left out.
-/

namespace PuzzlePrograms

open Value Dsl
open List hiding transpose

unseal grid

variable {h w n i j m : Nat} {f : Int → Int → Int}

/-! ## 1. Parts of a grid -/

theorem sliceList_window {α : Type} (xs : List α) (i m : Nat) :
    sliceList xs (some i) (some (i + m : Nat)) none = .ok ((xs.drop i).take m) := by
  have hrun : sliceList xs (some i) (some (i + m : Nat)) none = .ok ((xs.drop
      (max 0 (min (xs.length : Int) (if (i : Int) < 0 then (i : Int) + xs.length else i))).toNat).take
      (max 0 (min (xs.length : Int) (if ((i + m : Nat) : Int) < 0 then ((i + m : Nat) : Int) +
        xs.length else (i + m : Nat))) -
        max 0 (min (xs.length : Int) (if (i : Int) < 0 then (i : Int) + xs.length else i))).toNat) := rfl
  rw [hrun, if_neg (by omega), if_neg (by omega)]
  refine congrArg Except.ok ?_
  by_cases hi : i ≤ xs.length
  · rw [show (max 0 (min (xs.length : Int) i)).toNat = i by omega, take_eq_take_iff, length_drop]
    omega
  · rw [drop_of_length_le (by omega), drop_of_length_le (by omega), take_nil, take_nil]

theorem slice_map_range (k : Nat → Value) : (tuple ((range n).map k)).slice (.int i) (.int (i + m : Nat)) .nothing =
    .ok (.tuple ((range (min m (n - i))).map fun x => k (x + i))) := by
  refine bind_eq (sliceList_window _ i m) ?_
  rw [range_drop_map, ← map_take, take_range]
  rfl

theorem crop_grid (h w i j m n : Nat) (f : Int → Int → Int) : crop (grid h w f) (.tuple [.int i, .int j])
    (.tuple [.int m, .int n]) = .ok (grid (min m (h - i)) (min n (w - j)) fun x y => f (x + i) (y + j)) := by
  refine bind_eq rfl (bind_eq rfl (bind_eq rfl (bind_eq rfl (bind_eq (slice_map_range _)
    (bind_eq rfl (bind_ok (mapM_map_ok fun x _ => ?_)))))))
  exact bind_eq rfl (bind_eq rfl (bind_eq rfl (bind_eq rfl (slice_map_range _))))

/-- Where the band begins. -/
def bandStart (n len i : Nat) : Nat := len / n * i + i * if len % n = 0 then 0 else 1

/-- How broad the band is. -/
def bandSize (n len i : Nat) : Nat := min (len / n) (len - bandStart n len i)

theorem start_band {k : Value → Answer Value} (n len i : Nat) : (do
    let x ← (int (len / n : Nat)).mul (.int i)
    let y ← (int i).mul (.bool (int (len % n : Nat) != 0))
    let j ← x.add y
    k j) = k (.int (bandStart n len i)) := by
  have hoffset : (int (len % n : Nat) != 0) = decide (len % n ≠ 0) :=
    coding_int.bne_code.trans (decide_eq_decide.mpr (not_congr Int.natCast_eq_zero))
  refine bind_eq rfl ?_
  rw [hoffset, bandStart]
  by_cases hm : len % n = 0
  · simp only [hm, ne_eq, not_true, decide_false, if_true]
    rfl
  · simp only [hm, ne_eq, not_false_iff, decide_true, if_false]
    rfl

theorem hsplit_grid (hh : 1 ≤ h) (hn : 1 ≤ n) : hsplit (grid h w f) (.int n) =
    .ok (.tuple ((range n).map fun i => grid h (bandSize n w i) fun x y => f x (y + bandStart n w i))) := by
  refine bind_eq (extent_grid hh) (bind_eq (floorDiv_nat hn) (bind_eq (mod_nat hn)
    (bind_eq (span_nat n) (bind_ok (mapM_map_ok fun i _ => ?_)))))
  refine (start_band n w i).trans ((crop_grid h w 0 (bandStart n w i) h (w / n) f).trans ?_)
  simp [bandSize]

theorem vsplit_grid (hh : 1 ≤ h) (hn : 1 ≤ n) : vsplit (grid h w f) (.int n) =
    .ok (.tuple ((range n).map fun i => grid (bandSize n h i) w fun x y => f (x + bandStart n h i) y)) := by
  have hsize : (Value.tuple (gridRow w (f 0))).size = .ok w := by simp [Value.size, gridRow]
  refine bind_eq size_grid (bind_eq (floorDiv_nat hn) (bind_eq (item_grid hh) (bind_eq hsize
    (bind_eq (mod_nat hn) (bind_eq (span_nat n) (bind_ok (mapM_map_ok fun i _ => ?_)))))))
  refine (start_band n h i).trans ((crop_grid h w (bandStart n h i) 0 (h / n) w f).trans ?_)
  simp [bandSize]

/-! ## 2. Bands -/

/-- The last band reaches over the border unless nothing or one less than a whole round is left over. -/
theorem bandSize_eq_iff {len : Nat} (hn : 1 ≤ n) (hlen : n ≤ len) :
    (∀ i < n, bandSize n len i = len / n) ↔ len % n = 0 ∨ len % n = n - 1 := by
  obtain ⟨m, rfl⟩ := Nat.exists_eq_add_of_le' hn
  have hpos : 1 ≤ len / (m + 1) := Nat.div_pos hlen hn
  have hrest : len % (m + 1) ≤ m := Nat.le_of_lt_succ (Nat.mod_lt _ hn)
  have heq : len = len / (m + 1) * (m + 1) + len % (m + 1) := (Nat.div_add_mod' _ _).symm
  simp only [bandSize, bandStart]
  generalize len / (m + 1) = q at *
  generalize len % (m + 1) = r at *
  subst heq
  have hlast : q * (m + 1) = q * m + q := Nat.mul_succ q m
  constructor
  · intro hall
    have := hall m (Nat.lt_succ_self m)
    split at this <;> omega
  · intro hr i hi
    have := Nat.mul_le_mul_left q (Nat.le_of_lt_succ hi)
    split <;> omega

theorem join_columns {a b : Nat} : hconcat (grid h a f) (grid h b fun x y => f x (y + a)) = .ok (grid h (a + b) f) := by
  rw [hconcat_grid]
  refine congrArg Except.ok (grid_ext fun x y _ _ => ?_)
  split <;> simp

theorem join_bands (q k : Nat) :
    ((range k).map fun i : Nat => grid h q fun x y => f x (y + (q * (i + 1) : Nat))).foldlM hconcat (grid h q f) =
    .ok (grid h (q * (k + 1)) f) := by
  induction k with
  | zero => simp [pure, Except.pure]
  | succ k ih =>
    rw [range_succ, map_append, foldlM_append]
    refine bind_eq ih (bind_eq join_columns ?_)
    rw [← Nat.mul_succ]
    rfl

theorem apply_dmirror {k : Nat} (hh : 1 ≤ h) (size : Nat → Nat) (g : Nat → Int → Int → Int) :
    apply (Recipe.call (k + 1)) (.prim .dmirror) (.tuple ((range n).map fun i => grid h (size i) (g i))) =
      pure (.tuple ((range n).map fun i => grid (size i) h fun x y => g i y x)) := by
  have hcall : ∀ i, (do return some (← Recipe.call (k + 1) (.prim .dmirror) [grid h (size i) (g i)])) =
      (pure (some (grid (size i) h fun x y => g i y x)) : Eval (Option Value)) := fun i => by
    have hrun :
      Recipe.call (k + 1) (.prim .dmirror) [grid h (size i) (g i)] = (dmirror (grid h (size i) (g i)) : Eval Value) :=
      rfl
    rw [hrun, dmirror_grid hh]
    rfl
  exact gather_built (m := id) hcall (fun _ => rfl) (by rw [map_id]; rfl)

theorem shapes_bands (hh : 1 ≤ h) (hn : 1 ≤ n) (hw : n ≤ w) (g : Nat → Int → Int → Int) :
    (∀ p ∈ (range n).map fun i => grid h (bandSize n w i) (g i), shape p = .ok (place (h, (w / n : Nat)))) ↔ w % n = 0 ∨
    w % n = n - 1 := by
  rw [← bandSize_eq_iff hn hw, forall_mem_map]
  refine forall_congr' fun i => imp_congr mem_range ?_
  rw [shape_grid hh, Except.ok.injEq, coding_place.injective.eq_iff, Prod.mk.injEq]
  exact (and_iff_right rfl).trans Int.natCast_inj

theorem join_hsplit (hn : 1 ≤ n) (hdvd : n ∣ w) : ∃ p qs,
    ((range n).map fun i => grid h (bandSize n w i) fun x y => f x (y + bandStart n w i)) = p :: qs ∧
      qs.foldlM hconcat p = .ok (grid h w f) := by
  obtain ⟨q, rfl⟩ := hdvd
  obtain ⟨m, rfl⟩ := Nat.exists_eq_add_of_le' hn
  have hstart (i : Nat) : bandStart (m + 1) ((m + 1) * q) i = q * i := by simp [bandStart, Nat.mul_div_cancel_left q hn]
  have hsize : ∀ i ≤ m, bandSize (m + 1) ((m + 1) * q) i = q := fun i hi => by
    have := Nat.mul_le_mul_left q hi
    rw [bandSize, hstart, Nat.mul_div_cancel_left q hn, Nat.succ_mul, Nat.mul_comm m q]
    omega
  have hlist : ((range (m + 1)).map fun i => grid h (bandSize (m + 1) ((m + 1) * q) i) fun x y => f x
      (y + bandStart (m + 1) ((m + 1) * q) i)) =
        (range (m + 1)).map fun i : Nat => grid h q fun x y => f x (y + (q * i : Nat)) :=
    map_congr_left fun i hi => by rw [hsize i (Nat.le_of_lt_succ (mem_range.mp hi)), hstart]
  rw [hlist, range_succ_eq_map, map_cons, map_map]
  refine ⟨_, _, rfl, ?_⟩
  rw [Nat.mul_comm (m + 1), ← join_bands q m]
  simp [Function.comp_def]

theorem two_bands (hw : 2 ≤ w) :
    (∀ i < 2, bandSize 2 w i = w / 2) ∧ bandStart 2 w 0 = 0 ∧ bandStart 2 w 1 = w / 2 + w % 2 := by
  refine ⟨(bandSize_eq_iff (by decide) hw).mpr (by omega), by simp [bandStart], ?_⟩
  rw [bandStart]
  split <;> omega

/-- **Splitting is exact**: the bands are of the same breadth if and only if nothing is left over, or one less than the
number of bands; if nothing is left over they join to the grid. Mirrored in the diagonal, columns are split where rows
were. Splitting in two gives the halves. -/
theorem split_bands (h w n k : Nat) (f : Int → Int → Int) (hn : 1 ≤ n) : let g := grid (h + 1) (w + 1) f
    (n ≤ w + 1 → ∃ ps, hsplit g (.int n) = .ok (.tuple ps) ∧ ps.length = n ∧ (∀ p ∈ ps, ∃ b f', p = grid (h + 1) b f') ∧
      ((∀ p ∈ ps, shape p = .ok (place (h + 1, ((w + 1) / n : Nat)))) ↔ (w + 1) % n = 0 ∨ (w + 1) % n = n - 1) ∧
      (n ∣ w + 1 → ∃ p qs, ps = p :: qs ∧ qs.foldlM hconcat p = .ok g)) ∧
    (∃ m ps qs, dmirror g = .ok m ∧ hsplit g (.int n) = .ok ps ∧ vsplit m (.int n) = .ok qs ∧
      apply (Recipe.call (k + 1)) (.prim .dmirror) ps = pure qs) ∧
    (2 ≤ w + 1 → ∃ l r, lefthalf g = .ok l ∧ righthalf g = .ok r ∧ hsplit g (.int 2) = .ok (.tuple [l, r])) ∧
    (2 ≤ h + 1 → ∃ t b, tophalf g = .ok t ∧ bottomhalf g = .ok b ∧ vsplit g (.int 2) = .ok (.tuple [t, b])) := by
  intro g
  refine ⟨fun hw => ⟨_, hsplit_grid (by omega) hn, by simp, ?_, shapes_bands (by omega) hn hw _, join_hsplit hn⟩,
    ⟨_, _, _, dmirror_grid (by omega), hsplit_grid (by omega) hn, vsplit_grid (by omega) hn,
      apply_dmirror (by omega) _ _⟩,
    fun hw => ⟨_, _, lefthalf_grid (by omega) hw, righthalf_grid (by omega) hw, ?_⟩,
      fun hh => ⟨_, _, tophalf_grid, bottomhalf_grid, ?_⟩⟩
  · rintro p hp
    obtain ⟨i, -, rfl⟩ := mem_map.mp hp
    exact ⟨_, _, rfl⟩
  · obtain ⟨hsize, hstart, hstart'⟩ := two_bands hw
    refine (hsplit_grid (n := 2) (by omega) (by decide)).trans ?_
    simp [range_succ, hsize, hstart, hstart']
  · obtain ⟨hsize, hstart, hstart'⟩ := two_bands hh
    refine (vsplit_grid (n := 2) (by omega) (by decide)).trans ?_
    simp [range_succ, hsize, hstart, hstart']

/-- A row of five split in three: the last band ends at the border. -/
theorem split_bands_five : ∃ ps, hsplit (grid 1 5 fun _ j => j) (.int 3) = .ok (.tuple ps) ∧ ps.length = 3 ∧
    ∀ p ∈ ps, shape p = .ok (place (1, 1)) := by
  obtain ⟨ps, hrun, hlen, -, hshape, -⟩ := (split_bands 0 4 3 0 (fun _ j => j) (by decide)).1 (by decide)
  exact ⟨ps, hrun, hlen, hshape.mpr (by decide)⟩

end PuzzlePrograms
