import PuzzlePrograms.Proofs.Shifts

/-!
# Falling until contact

A patch falls towards another one step at a time, as long as the two do not touch. No step changes the distance of two
places by more than one, so from a gap of two or more it leads to a gap and not into the other patch (`fall_value`).
-/

namespace PuzzlePrograms

open List Value Dsl

/-! ## 1. Distances -/

/-- How many steps along rows and columns lead from a place to another. -/
def steps (p q : Loc) : Int := (p.1 - q.1).natAbs + (p.2 - q.2).natAbs

theorem foldl_min (l : List Int) (m : Int) : l.foldl (fun acc d => match acc with
      | some m => some (if d < m then d else m)
      | none => some d) (some m) = some (l.foldl min m) := by
  induction l generalizing m with
  | nil => rfl
  | cons d l ih =>
    have hmin : (if d < m then d else m) = min m d := by split <;> omega
    rw [foldl_cons, foldl_cons, ih, hmin]

theorem leastDistance_eq (xs ys : List Loc) : leastDistance xs ys = (xs.flatMap fun p => ys.map (steps p)).min? := by
  have hfold : leastDistance xs ys = (xs.flatMap fun p => ys.map (steps p)).foldl (fun acc d => match acc with
      | some m => some (if d < m then d else m)
      | none => some d) none := by
    simp only [leastDistance, foldl_flatMap, foldl_map]
    rfl
  rw [hfold]
  cases xs.flatMap fun p => ys.map (steps p) with
  | nil => rfl
  | cons d l => exact foldl_min l d

namespace Patch

variable {P Q : Patch}

theorem intPlaces?_map (ps : List Loc) : intPlaces? (ps.map fun p => (.int p.1, .int p.2)) = some ps := by
  induction ps with
  | nil => rfl
  | cons p ps ih => rw [map_cons, intPlaces?, ih]; rfl

/-- The distance of two patches is the least distance of a place of one from a place of the other. -/
theorem manhattan_value (hP : P.locs.Nonempty) (hQ : Q.locs.Nonempty) :
    ∃ m, manhattan P.value Q.value = .ok (.int m) ∧ (∀ p ∈ P.locs, ∀ q ∈ Q.locs, m ≤ steps p q) ∧
      ∃ p ∈ P.locs, ∃ q ∈ Q.locs, steps p q = m := by
  obtain ⟨ps, hps, hcp⟩ := P.coordinates_value
  obtain ⟨qs, hqs, hcq⟩ := Q.coordinates_value
  obtain ⟨p, hp⟩ := hP
  obtain ⟨q, hq⟩ := hQ
  have hmem : steps p q ∈ ps.flatMap fun p => qs.map (steps p) :=
    mem_flatMap.mpr ⟨p, (hps p).mpr hp, mem_map_of_mem ((hqs q).mpr hq)⟩
  obtain ⟨m, hm⟩ := Option.isSome_iff_exists.mp (isSome_min?_of_mem hmem)
  obtain ⟨hm₁, hm₂⟩ := min?_eq_some_iff.mp hm
  refine ⟨m, ?_, fun p hp q hq => hm₂ _ (mem_flatMap.mpr ⟨p, (hps p).mpr hp, mem_map_of_mem ((hqs q).mpr hq)⟩), ?_⟩
  · have hpe : (ps.map fun p => (int p.1, int p.2)).isEmpty = false := by simpa using ne_nil_of_mem ((hps p).mpr hp)
    have hqe : (qs.map fun p => (int p.1, int p.2)).isEmpty = false := by simpa using ne_nil_of_mem ((hqs q).mpr hq)
    rw [manhattan, bind_ok hcp, hpe]
    refine bind_eq hcq ?_
    rw [hqe]
    simp only [intPlaces?_map, leastDistance_eq, hm]
    rfl
  · obtain ⟨p, hp, hq⟩ := mem_flatMap.mp hm₁
    obtain ⟨q, hq, he⟩ := mem_map.mp hq
    exact ⟨p, (hps p).mp hp, q, (hqs q).mp hq, he⟩

theorem adjacent_value {m : Int} (h : manhattan P.value Q.value = .ok (.int m)) :
    adjacent P.value Q.value = .ok (.bool (decide (m = 1))) :=
  bind_eq h (congrArg (Except.ok ∘ bool) coding_int.beq_code)

theorem vmatching_value (P Q : Patch) : ∃ b, vmatching P.value Q.value = .ok (.bool b) := by
  obtain ⟨ps, -, hcp⟩ := P.coordinates_value
  obtain ⟨qs, -, hcq⟩ := Q.coordinates_value
  have hcolumns : ∀ rs : List Loc, (rs.map fun p => (int p.1, int p.2)).mapM (fun p => p.2.asElement) =
      .ok (rs.map fun p => .int p.2) := fun rs => mapM_map_ok fun _ _ => rfl
  exact ⟨_, bind_eq hcp (bind_eq (hcolumns ps) (bind_eq hcq (bind_eq (hcolumns qs) rfl)))⟩

end Patch

/-! ## 2. Falling -/

/-- How far `k` steps lead. -/
def along (d : Loc) (k : Nat) : Loc := (k * d.1, k * d.2)

@[simp]
theorem along_zero (d : Loc) : along d 0 = 0 := by simp [along]

theorem along_succ (d : Loc) (k : Nat) : along d (k + 1) = d + along d k := by
  simp [along, Prod.ext_iff]
  constructor <;> ring

namespace Patch

variable {P Q : Patch}

/-- **A step from a gap of two or more leads to a gap.** -/
theorem disjoint_step {d : Loc} (hd : d.1.natAbs + d.2.natAbs = 1) {m : Int}
    (hm : ∀ p ∈ P.locs, ∀ q ∈ Q.locs, m ≤ steps p q) (hgap : 2 ≤ m) : Disjoint (P.moved d).locs Q.locs := by
  refine Finset.disjoint_left.mpr fun q hq hqQ => ?_
  have := hm _ (mem_moved.mp hq) q hqQ
  simp only [steps, Prod.fst_sub, Prod.snd_sub] at this
  omega

theorem two_le_of_disjoint (h : Disjoint P.locs Q.locs) {m : Int} (hm : ∃ p ∈ P.locs, ∃ q ∈ Q.locs, steps p q = m)
    (hne : m ≠ 1) : 2 ≤ m := by
  obtain ⟨p, hp, q, hq, rfl⟩ := hm
  have hpq : p ≠ q := fun he => Finset.disjoint_left.mp h hp (he ▸ hq)
  rw [Ne, Prod.ext_iff, not_and_or] at hpq
  unfold steps at hne ⊢
  omega

/-- A patch that falls stays clear of the other, and if it stops before its steps are used up, it touches. -/
theorem fall_value {d : Loc} (hd : d.1.natAbs + d.2.natAbs = 1) (hP : P.locs.Nonempty) (hQ : Q.locs.Nonempty)
    (h : Disjoint P.locs Q.locs) (n : Nat) (gi gj : Int) :
    ∃ c ≤ n, fall (place d) Q.value n P.value (.int gi) (.int gj) (.int d.1) (.int d.2) =
    .ok (.int (gi + (along d c).1), .int (gj + (along d c).2)) ∧ (∀ k ≤ c, Disjoint (P.moved (along d k)).locs Q.locs) ∧
    (c < n → adjacent (P.moved (along d c)).value Q.value = .ok (.bool true)) := by
  induction n generalizing P gi gj with
  | zero => exact ⟨0, le_rfl, by simp [fall], by simpa [moved_zero] using h, by simp⟩
  | succ n ih =>
    obtain ⟨m, hm, hleast, hreached⟩ := manhattan_value hP hQ
    have hadj := adjacent_value hm
    by_cases h1 : m = 1
    · refine ⟨0, Nat.zero_le _, ?_, by simpa [moved_zero] using h, fun _ => ?_⟩
      · rw [fall, bind_ok hadj]
        simp [h1, truthy, pure, Except.pure]
      · simpa [h1, moved_zero] using hadj
    · have hstep := disjoint_step hd hleast (two_le_of_disjoint h hreached h1)
      obtain ⟨c, hc, hfall, hclear, htouch⟩ := ih (nonempty_moved.mpr hP) hstep (gi + d.1) (gj + d.2)
      have hmoved : ∀ k, (P.moved d).moved (along d k) = P.moved (along d (k + 1)) :=
        fun k => by rw [moved_moved, along_succ]
      refine ⟨c + 1, by omega, ?_, fun k hk => ?_, fun hlt => ?_⟩
      · rw [fall, bind_ok hadj]
        simp only [h1, decide_false, truthy]
        refine bind_eq (P.shift_value d) (hfall.trans ?_)
        simp [along_succ, add_assoc]
      · cases k with
        | zero => simpa [moved_zero] using h
        | succ k => exact hmoved k ▸ hclear k (by omega)
      · exact hmoved c ▸ htouch (by omega)

/-- The direction is up or down if the patches share a column, else left or right. -/
theorem gravitate_eq_fall (hP : P.locs.Nonempty) (hQ : Q.locs.Nonempty) :
    ∃ d : Loc, d.1.natAbs + d.2.natAbs = 1 ∧ gravitate P.value Q.value =
      fall (place d) Q.value 42 P.value (.int d.1) (.int d.2) (.int d.1) (.int d.2) >>= fun g => do
        return .tuple [← g.1.sub (.int d.1), ← g.2.sub (.int d.2)] := by
  obtain ⟨a, b, l, r, hs⟩ := exists_spans hP
  obtain ⟨a', b', l', r', hs'⟩ := exists_spans hQ
  have hsense : ∀ x y : Int, (do return if ← related .lt (.int x) (.int y) then 1 else .int (-1) : Answer Value) =
      .ok (.int (if x < y then 1 else -1)) := fun x y => by
    refine bind_eq (Recipe.related_lt_int x y) ?_
    by_cases hxy : x < y
    · simp [hxy, pure, Except.pure]
      rfl
    · simp [hxy, pure, Except.pure]
  have hunit : ∀ x y : Int, (if x < y then (1 : Int) else -1).natAbs = 1 := fun x y => by split <;> rfl
  obtain ⟨vertical, hv⟩ := vmatching_value P Q
  cases vertical with
  | true =>
    exact ⟨(_, 0), hunit _ _, bind_eq hs.center (bind_eq rfl (bind_eq hs'.center (bind_eq rfl
      (bind_eq hv (bind_eq (hsense _ _) rfl)))))⟩
  | false =>
    have hzero : (pure 0 : Answer Value) = .ok 0 := rfl
    exact ⟨(0, _), (Nat.zero_add _).trans (hunit _ _), bind_eq hs.center (bind_eq rfl (bind_eq hs'.center
      (bind_eq rfl (bind_eq hv (bind_eq hzero (bind_eq (hsense _ _) rfl))))))⟩

/-- **Gravitation never overlaps and stops at contact.** -/
theorem gravitate_contact (hP : P.locs.Nonempty) (hQ : Q.locs.Nonempty) (h : Disjoint P.locs Q.locs) :
    ∃ (d : Loc) (c : Nat), d.1.natAbs + d.2.natAbs = 1 ∧ c ≤ 42 ∧ gravitate P.value Q.value = .ok (place (along d c)) ∧
      (∀ k ≤ c, ∃ R : Patch, shift P.value (place (along d k)) = .ok R.value ∧ Disjoint R.locs Q.locs) ∧
      (c < 42 → ∃ v, shift P.value (place (along d c)) = .ok v ∧ adjacent v Q.value = .ok (.bool true)) := by
  obtain ⟨d, hd, hrun⟩ := gravitate_eq_fall hP hQ
  obtain ⟨c, hc, hfall, hclear, htouch⟩ := fall_value hd hP hQ h 42 d.1 d.2
  refine ⟨d, c, hd, hc, ?_, fun k hk => ⟨_, P.shift_value _, hclear k hk⟩, fun hlt => ⟨_, P.shift_value _, htouch hlt⟩⟩
  rw [hrun, bind_ok hfall]
  refine congrArg Except.ok ?_
  show tuple [.int (d.1 + (along d c).1 - d.1), .int (d.2 + (along d c).2 - d.2)] = _
  simp only [add_sub_cancel_left]
  rfl

/-- A place above a coloured place of the same column. -/
theorem gravitate_contact_column : ∃ (d : Loc) (c : Nat), d.1.natAbs + d.2.natAbs = 1 ∧ c ≤ 42 ∧
    gravitate (bare {(0, 0)}).value (tinted {(3, 5, 0)}).value = .ok (place (along d c)) ∧
    (∀ k ≤ c, ∃ R : Patch, shift (bare {(0, 0)}).value (place (along d k)) = .ok R.value ∧ Disjoint R.locs {(5, 0)}) ∧
    (c < 42 → ∃ v, shift (bare {(0, 0)}).value (place (along d c)) = .ok v ∧ adjacent v (tinted {(3, 5, 0)}).value =
      .ok (.bool true)) :=
  gravitate_contact (P := bare {(0, 0)}) (Q := tinted {(3, 5, 0)}) (by decide) (by decide) (by decide)

end Patch

end PuzzlePrograms
