import PuzzlePrograms.Proofs.Mirrors

/-!
# Periods of objects

The period of an object is the least shift under which the part of it that stays in its first row or column lies on the
object again. On a tiling the least period divides the width of the tile: two periods of a row that goes round have
their greatest common divisor as a period.
-/

namespace PuzzlePrograms

open Value Dsl Patch
open List hiding transpose

variable {O : Finset (Int × Loc)} {keep : Loc → Bool} {r : Int → Int}

/-! ## 1. The first shift that repeats an object -/

/-- Moved by an offset, the coloured places that are kept are coloured places of the object. -/
def repeats (O : Finset (Int × Loc)) (keep : Loc → Bool) (d : Loc) : Bool :=
  decide (∀ e ∈ O, keep (e.2 + d) = true → (e.1, e.2 + d) ∈ O)

theorem leastShift_value {stays : Value → Value → Answer Bool}
    (hk : ∀ p : Loc, stays (.int p.1) (.int p.2) = .ok (keep p)) (step : Int → Loc) (n : Nat) (ps : List Nat) :
    leastShift (tinted O).value (fun p => place (step p)) stays n ps =
      .ok (.int ((ps.find? fun p : Nat => repeats O keep (step p)).getD n : Nat)) := by
  induction ps with
  | nil => rfl
  | cons p ps ih =>
    set N := O.image fun e => (e.1, e.2 + step p) with hN
    obtain ⟨l, -, hl, heq⟩ := coding_spot.exists_list N
    have hshift : shift (tinted O).value (place (step p)) = .ok (.fset (l.map spot)) := by
      rw [← heq]
      exact (tinted O).shift_value (step p)
    have hstrict : SortedSet.Strict ((l.filter fun e => keep e.2).map spot) :=
      (heq ▸ coding_spot.strict N).sublist (filter_sublist.map _)
    have hsub :
      SortedSet.isSubset ((l.filter fun e => keep e.2).map spot) (listed spot O) = repeats O keep (step p) := by
      rw [Bool.eq_iff_iff, SortedSet.isSubset_iff hstrict (coding_spot.strict O), repeats, decide_eq_true_iff]
      simp only [forall_mem_map, mem_filter, hl, coding_spot.code_mem, and_imp, hN, Finset.forall_mem_image]
    rw [leastShift, bind_ok hshift]
    refine bind_eq rfl (bind_eq (filterM_map_ok (t := fun e => keep e.2) fun e _ => ?_) ?_)
    · exact bind_eq rfl (hk e.2)
    · change (if SortedSet.isSubset _ (listed spot O) = true then _ else _) = _
      rw [hsub, ih, find?_cons]
      cases repeats O keep (step p) <;> rfl

theorem related_ge_zero (i : Int) : related .ge (.int i) 0 = .ok (decide (0 ≤ i)) := by
  show Except.ok (Ord.compare i 0 != .lt) = _
  rw [Bool.eq_iff_iff.mpr (by simp [bne, compare_lt_iff_lt] : (Ord.compare i 0 != .lt) = true ↔ decide (0 ≤ i) = true)]

/-- The first of the shifts from one to before `n` that repeats the object, or else `n`. -/
def period (O : Finset (Int × Loc)) (keep : Loc → Bool) (step : Nat → Loc) (n : Nat) : Nat :=
  (((range n).drop 1).find? fun p => repeats O keep (step p)).getD n

section Periods

variable {O : Finset (Int × Loc)} {a b c d : Int}

/-- The object with its upper left corner at the origin. -/
def normed (O : Finset (Int × Loc)) (a c : Int) : Finset (Int × Loc) := O.image fun e => (e.1, e.2 + (-a, -c))

theorem hperiod_value (h : Spans (tinted O).locs a b c d) : hperiod (tinted O).value =
    .ok (.int (period (normed O a c) (fun q => decide (0 ≤ q.2)) (fun p => (0, -p)) (d - c + 1).toNat)) := by
  have hwidth : width (tinted (normed O a c)).value = .ok (.int (d - c + 1)) := by
    have hcols : d + -c - (c + -c) + 1 = d - c + 1 := by omega
    exact hcols ▸ (h.moved (-a) (-c)).width
  refine bind_eq h.normalize (bind_eq hwidth ?_)
  exact leastShift_value (fun q => related_ge_zero q.2) (fun p => (0, -p)) _ _

theorem vperiod_value (h : Spans (tinted O).locs a b c d) : vperiod (tinted O).value =
    .ok (.int (period (normed O a c) (fun q => decide (0 ≤ q.1)) (fun p => (-p, 0)) (b - a + 1).toNat)) := by
  have hheight : height (tinted (normed O a c)).value = .ok (.int (b - a + 1)) := by
    have hrows : b + -a - (a + -a) + 1 = b - a + 1 := by omega
    exact hrows ▸ (h.moved (-a) (-c)).height
  refine bind_eq h.normalize (bind_eq hheight ?_)
  exact leastShift_value (fun q => related_ge_zero q.1) (fun p => (-p, 0)) _ _

/-! ## 2. Rows and columns exchanged -/

theorem repeats_swap {p : Loc} :
    repeats (O.image fun e => (e.1, e.2.swap)) keep p = repeats O (fun q => keep q.swap) p.swap := by
  have hmem : ∀ c q, (c, q) ∈ (O.image fun e => (e.1, e.2.swap)) ↔ (c, q.swap) ∈ O := fun c q => by
    rw [Finset.mem_image]
    constructor
    · rintro ⟨e, he, heq⟩
      obtain ⟨rfl, rfl⟩ := Prod.mk.inj heq
      exact he
    · exact fun he => ⟨_, he, rfl⟩
  refine decide_eq_decide.mpr (Finset.forall_mem_image.trans (forall₂_congr fun e _ => ?_))
  simp only [hmem, Prod.swap_add, Prod.swap_swap]

theorem period_swap (n : Nat) : period (O.image fun e => (e.1, e.2.swap)) (fun q => decide (0 ≤ q.2))
    (fun p => (0, -p)) n = period O (fun q => decide (0 ≤ q.1)) (fun p => (-p, 0)) n := by
  simp only [period, repeats_swap]
  rfl

theorem exists_period_dmirror (hO : O.Nonempty) : ∃ n : Nat, vperiod (tinted O).value = .ok (.int n) ∧
    (dmirror (tinted O).value >>= hperiod) = .ok (.int n) := by
  obtain ⟨a, b, c, d, h⟩ := exists_spans (S := (tinted O).locs) (hO.image Prod.snd)
  have hmirror := h.swapped.moved (a - c) (c - a)
  have hset :
    normed ((O.image fun e => (e.1, e.2.swap)).image fun e => (e.1, e.2 + (a - c, c - a))) (c + (a - c)) (a + (c - a)) =
      (normed O a c).image fun e => (e.1, e.2.swap) := by
    simp only [normed, Finset.image_image]
    refine Finset.image_congr fun e _ => Prod.ext rfl (Prod.ext ?_ ?_)
    · show e.2.2 + (a - c) + -(c + (a - c)) = e.2.2 + -c
      omega
    · show e.2.1 + (c - a) + -(a + (c - a)) = e.2.1 + -a
      omega
  have hrows : b + (c - a) - (a + (c - a)) + 1 = b - a + 1 := by omega
  refine ⟨_, vperiod_value h, bind_eq (h.dmirror) ((hperiod_value hmirror).trans ?_)⟩
  rw [hset, period_swap, hrows]

end Periods

/-! ## 3. Tilings -/

section Tilings

variable {h w : Nat} {f : Int → Int → Int}

theorem normed_zero (O : Finset (Int × Loc)) : normed O 0 0 = O := by
  refine Finset.ext fun e => ?_
  simp [normed, show ((0 : Int), (0 : Int)) = 0 from rfl]

theorem repeats_spots (p : Nat) : repeats (spots h w f) (fun q => decide (0 ≤ q.2)) (0, -p) = true ↔
    ∀ q ∈ cellSet h w, (p : Int) ≤ q.2 → f q.1 (q.2 - p) = f q.1 q.2 := by
  have hspot : ∀ q : Loc, (f q.1 q.2, q + (0, -(p : Int))) ∈ spots h w f ↔ q + (0, -(p : Int)) ∈ cellSet h w ∧
    f q.1 (q.2 - p) = f q.1 q.2 :=
    fun q => by simp only [mem_spots, Prod.fst_add, Prod.snd_add, add_zero, sub_eq_add_neg]
  refine decide_eq_true_iff.trans (Finset.forall_mem_image.trans (forall₂_congr fun q hq => ?_))
  simp only [hspot, decide_eq_true_eq, mem_cellSet, Prod.fst_add, Prod.snd_add] at hq ⊢
  constructor
  · exact fun h hle => (h (by omega)).2
  · exact fun h hle => ⟨by omega, h (by omega)⟩

theorem period_spec {s : Nat → Loc} {q n : Nat} (hq : 1 ≤ q) (hqn : q < n) (hrep : repeats O keep (s q) = true) :
    1 ≤ period O keep s n ∧ period O keep s n ≤ q ∧ repeats O keep (s (period O keep s n)) = true ∧ ∀ r, 1 ≤ r →
    repeats O keep (s r) = true → period O keep s n ≤ r := by
  have hrange : (range n).drop 1 = range' 1 (n - 1) := by rw [range_eq_range', drop_range']
  have hsome : ((range' 1 (n - 1)).find? fun p => repeats O keep (s p)).isSome = true :=
    find?_isSome.mpr ⟨q, mem_range'_1.mpr ⟨hq, by omega⟩, hrep⟩
  obtain ⟨p, hp⟩ := Option.isSome_iff_exists.mp hsome
  have hperiod : period O keep s n = p := by rw [period, hrange, hp]; rfl
  obtain ⟨hrepeats, hmem, hleast⟩ := find?_range'_eq_some.mp hp
  have hmin : ∀ r, 1 ≤ r → repeats O keep (s r) = true → p ≤ r := fun r hr h => by
    by_contra hlt
    simpa [h] using hleast r hr (by omega)
  rw [hperiod]
  exact ⟨(mem_range'_1.mp hmem).1, hmin q hq hrep, hrepeats, hmin⟩

/-- Two periods of a row that goes on without end have their greatest common divisor as a period. -/
theorem periodic_gcd {p q : Nat} (hp : Function.Periodic r p) (hq : Function.Periodic r q) :
    Function.Periodic r (Nat.gcd p q) := by
  rw [Nat.gcd_eq_gcd_ab, mul_comm (p : Int), mul_comm (q : Int)]
  exact (hp.int_mul _).add_period (hq.int_mul _)

theorem periodic_emod (r : Int → Int) (w : Int) : Function.Periodic (fun j => r (j % w)) w := fun j => by simp

/-- A shift that repeats two tiles side by side repeats the row that goes on without end. -/
theorem periodic_of_repeats {p : Nat} (hp : p ≤ w) (hw : 1 ≤ w)
    (hrep : ∀ j : Int, p ≤ j → j < 2 * w → r ((j - p) % w) = r (j % w)) : Function.Periodic (fun j => r (j % w)) p := by
  intro j
  have hround := periodic_emod r w
  have h0 := Int.emod_nonneg (j + p) (show (w : Int) ≠ 0 by omega)
  have h1 := Int.emod_lt_of_pos (j + p) (show (0 : Int) < w by omega)
  have hj := hrep ((j + p) % w + w) (by omega) (by omega)
  have heq : (j + p) % w + w = j + p + (1 - (j + p) / w) * w := by
    have := Int.emod_add_mul_ediv (j + p) w
    linarith
  have hleft : (fun j => r (j % w)) ((j + p) % w + w - p) = (fun j => r (j % w)) j := by
    rw [heq, show j + p + (1 - (j + p) / w) * w - p = j + (1 - (j + p) / w) * w by ring]
    exact hround.int_mul _ j
  have hright : (fun j => r (j % w)) ((j + p) % w + w) = (fun j => r (j % w)) (j + p) := by
    rw [heq]
    exact hround.int_mul _ (j + p)
  exact hright.symm.trans (hj.symm.trans hleft)

/-- A grid set side by side with itself. -/
theorem tile_grid (n : Nat) : (replicate n (grid h w f)).foldlM hconcat (grid h w f) =
    .ok (grid h ((n + 1) * w) fun i j => f i (j % w)) := by
  have hfirst : grid h w f = grid h (1 * w) fun i j => f i (j % w) := by
    rw [Nat.one_mul]
    exact grid_ext fun i j _ hj => by rw [Int.emod_eq_of_lt (by omega) (by omega)]
  have hnext : ∀ m, hconcat (grid h (m * w) fun i j => f i (j % w)) (grid h w f) =
      .ok (grid h ((m + 1) * w) fun i j => f i (j % w)) := fun m => by
    rw [hconcat_grid, Nat.succ_mul]
    refine congrArg Except.ok (grid_ext fun i j _ hj => ?_)
    split
    · rfl
    · rename_i hge
      have hr : ((j : Int) - (m * w : Nat)) % w = j % w := by
        rw [Nat.cast_mul]
        exact Int.sub_mul_emod_self_right _ _ _
      rw [← hr, Int.emod_eq_of_lt (by omega) (by omega)]
  have hrest : ∀ m, (replicate n (grid h w f)).foldlM hconcat (grid h (m * w) fun i j => f i (j % w)) =
      .ok (grid h ((n + m) * w) fun i j => f i (j % w)) := by
    induction n with
    | zero => exact fun m => by rw [Nat.zero_add]; rfl
    | succ n ih =>
      intro m
      rw [replicate_succ, foldlM_cons, bind_ok (hnext m), ih, Nat.add_right_comm]
      rfl
  calc (replicate n (grid h w f)).foldlM hconcat (grid h w f)
    _ = (replicate n (grid h w f)).foldlM hconcat (grid h (1 * w) fun i j => f i (j % w)) := by rw [← hfirst]
    _ = _ := hrest 1

theorem exists_period_tiles (hh : 1 ≤ h) (hw : 1 ≤ w) {k : Nat} (hk : 2 ≤ k) :
    ∃ p : Nat, (asobject (grid h (k * w) fun i j => f i (j % w)) >>= hperiod) = .ok (.int p) ∧ p ∣ w := by
  have htiles : 2 * w ≤ k * w := Nat.mul_le_mul_right w hk
  set O := spots h (k * w) fun i j => f i (j % w) with hO
  have hrow : ∀ q, Function.Periodic (fun j => f q (j % w)) w := fun q => periodic_emod (f q) w
  have htile : repeats O (fun q => decide (0 ≤ q.2)) (0, -w) = true :=
    (repeats_spots w).mpr fun q _ _ => (hrow q.1).sub_eq q.2
  obtain ⟨hp, hpw, hrep, hleast⟩ := period_spec (s := fun p => (0, -(p : Int))) (n := k * w) hw (by omega) htile
  generalize hperiod : period O (fun q => decide (0 ≤ q.2)) (fun p => (0, -(p : Int))) (k * w) = p at hp hpw hrep hleast
  refine ⟨p, ?_, ?_⟩
  · have hspans := spans_grid (f := fun i j => f i (j % w)) hh (show 1 ≤ k * w by omega)
    refine bind_eq asobject_grid ((hperiod_value hspans).trans ?_)
    rw [normed_zero, ← hO, show (((k * w : Nat) : Int) - 1 - 0 + 1).toNat = k * w by omega, hperiod]
  · have hgcd : repeats O (fun q => decide (0 ≤ q.2)) (0, -(Nat.gcd p w : Nat)) = true := by
      refine (repeats_spots _).mpr fun q hq _ => ?_
      obtain ⟨hq1, -⟩ := mem_cellSet.mp hq
      have hp' : Function.Periodic (fun j => f q.1 (j % w)) p := periodic_of_repeats hpw hw fun j hj hlt =>
        (repeats_spots p).mp hrep (q.1, j) (mem_cellSet.mpr ⟨hq1, by omega, by omega⟩) hj
      exact (periodic_gcd hp' (hrow q.1)).sub_eq q.2
    have hle := hleast _ (Nat.gcd_pos_of_pos_left w hp) hgcd
    have heq : Nat.gcd p w = p := le_antisymm (Nat.gcd_le_left w hp) hle
    exact Nat.gcd_eq_left_iff_dvd.mp heq

end Tilings

/-- **The horizontal period of a tiling divides the width of the tile, and the vertical period of an object is the
    horizontal one of its mirror image.** -/
theorem period_dvd_and_dual : (∀ (h w : Nat) (f : Int → Int → Int) (k : Nat), 1 ≤ h → 1 ≤ w → 2 ≤ k →
      ∃ p : Nat, (do hperiod (← asobject (← (replicate (k - 1) (grid h w f)).foldlM hconcat (grid h w f)))) =
        .ok (.int p) ∧ p ∣ w) ∧
    ∀ O : Finset (Int × Loc), O.Nonempty → ∃ n : Nat, vperiod (tinted O).value = .ok (.int n) ∧
      (do hperiod (← dmirror (tinted O).value)) = .ok (.int n) := by
  refine ⟨fun h w f k hh hw hk => ?_, fun O hO => exists_period_dmirror hO⟩
  obtain ⟨p, hp, hdvd⟩ := exists_period_tiles (f := f) hh hw hk
  refine ⟨p, bind_eq (tile_grid (k - 1)) ?_, hdvd⟩
  rw [Nat.sub_add_cancel (by omega)]
  exact hp

/-- Two tiles of two colours side by side, and an object of one column. -/
theorem period_dvd_and_dual_row : (∃ p : Nat, (do hperiod (← asobject (← (replicate 1 (grid 1 2 fun _ j => j)).foldlM
      hconcat (grid 1 2 fun _ j => j)))) = .ok (.int p) ∧ p ∣ 2) ∧
    ∃ n : Nat, vperiod (tinted {(3, 0, 0), (3, 1, 0)}).value = .ok (.int n) ∧
      (do hperiod (← dmirror (tinted {(3, 0, 0), (3, 1, 0)}).value)) = .ok (.int n) :=
  ⟨period_dvd_and_dual.1 1 2 (fun _ j => j) 2 (by decide) (by decide) (by decide),
    period_dvd_and_dual.2 {(3, 0, 0), (3, 1, 0)} (by decide)⟩

end PuzzlePrograms
