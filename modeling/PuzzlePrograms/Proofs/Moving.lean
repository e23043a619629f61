import PuzzlePrograms.Proofs.Components
import PuzzlePrograms.Proofs.Shifts

/-!
# Moving objects and moving them back

Moving an object takes its colours from where it was to where it goes and leaves the most frequent colour behind. If it
goes where the grid has only that colour or the object itself, every colour is shown as often as before
(`sum_moved`). So the most frequent colour is the same, unless another is as frequent and is met first in the moved grid
(`mostcolor_moved`), and only if it is the same does the way back restore the grid.
-/

namespace PuzzlePrograms

open Value Dsl Patch
open List hiding transpose

/-! ## 1. How often colours are shown -/

/-- If something moves to where only it or one colour was, and leaves that colour behind, every colour is shown as
    often as before. -/
theorem sum_moved {C S T : Finset Loc} {f F : Loc → Int} {m : Int} {d : Loc} (himage : T = S.image (· + d)) (hS : S ⊆ C)
    (hT : T ⊆ C) (hbg : ∀ p ∈ T \ S, f p = m) (hthere : ∀ p ∈ S, F (p + d) = f p) (hleft : ∀ p ∈ S \ T, F p = m)
    (helse : ∀ p ∈ C \ (S ∪ T), F p = f p) : ∑ p ∈ C, ({F p} : Multiset Int) = ∑ p ∈ C, {f p} := by
  have hsub : S ∪ T ⊆ C := Finset.union_subset hS hT
  have hcard : (S \ T).card = (T \ S).card := Finset.card_sdiff_comm (by
    rw [himage, Finset.card_image_of_injective _ (add_left_injective d)])
  have hF : ∑ p ∈ S ∪ T, ({F p} : Multiset Int) = (S \ T).card • {m} + ∑ p ∈ S, {f p} := by
    rw [← Finset.sum_sdiff (@Finset.subset_union_right _ _ S T), Finset.union_sdiff_right,
      Finset.sum_congr rfl fun p hp => by rw [hleft p hp], Finset.sum_const, himage,
      Finset.sum_image fun a _ b _ => add_left_injective d |>.eq_iff.mp,
        Finset.sum_congr rfl fun p hp => by rw [hthere p hp]]
  have hf : ∑ p ∈ S ∪ T, ({f p} : Multiset Int) = (T \ S).card • {m} + ∑ p ∈ S, {f p} := by
    rw [← Finset.sum_sdiff (@Finset.subset_union_left _ _ S T), Finset.union_sdiff_left,
      Finset.sum_congr rfl fun p hp => by rw [hbg p hp], Finset.sum_const]
  rw [← Finset.sum_sdiff hsub, ← Finset.sum_sdiff hsub, hF, hf, hcard,
    Finset.sum_congr rfl fun p hp => by rw [helse p hp]]

section Colours

variable {h w : Nat} {f F : Int → Int → Int} {arrange : Arrangement} {m : Int}

theorem perm_colors (hsum : ∑ p ∈ cellSet h w, ({F p.1 p.2} : Multiset Int) = ∑ p ∈ cellSet h w, {f p.1 p.2}) :
    (cellList h w).map (fun p => F p.1 p.2) ~ (cellList h w).map fun p => f p.1 p.2 := by
  have hnodup : (cellList h w).Nodup := .of_map _ strict_cellList.nodup
  have hcolors : ∀ g : Int → Int → Int,
      ∑ p ∈ cellSet h w, ({g p.1 p.2} : Multiset Int) = ((cellList h w).map fun p => g p.1 p.2 : List Int) :=
        fun g => by
    rw [cellSet, sum_toFinset _ hnodup]
    induction cellList h w with
    | nil => rfl
    | cons p l ih => rw [map_cons, sum_cons, ih]; rfl
  rw [hcolors, hcolors] at hsum
  exact Multiset.coe_eq_coe.mp hsum

/-- A colour more frequent than all others stays the most frequent one, and so does any if the order in which colours
    are met depends on nothing but the colours. -/
theorem mostcolor_moved (hp : (cellList h w).map (fun p => F p.1 p.2) ~ (cellList h w).map fun p => f p.1 p.2)
    (ha : arrange.Faithful) (hh : 1 ≤ h) (hw : 1 ≤ w) (hm : mostcolor (grid h w f) arrange = .ok (.int m))
    (hmore : (∀ c ≠ m, (shown h w f c).card < (shown h w f m).card) ∨
      ∀ cs cs' : List Int, cs ~ cs' → arrange (cs.map .int) = arrange (cs'.map .int)) :
    mostcolor (grid h w F) arrange = .ok (.int m) := by
  have hcount : ∀ v, countIn (((cellList h w).map fun p => F p.1 p.2).map .int) v =
      countIn (((cellList h w).map fun p => f p.1 p.2).map .int) v := fun v => (hp.map _).countP_eq _
  rcases hmore with hmore | hmore
  · obtain ⟨m', hm', hmost⟩ := exists_mostcolor (f := F) ha hh hw
    have hle := hmost m
    rw [← countIn_colors, ← countIn_colors, hcount, hcount, countIn_colors, countIn_colors] at hle
    obtain rfl : m' = m := by_contra fun hne => absurd (hmore m' hne) hle.not_gt
    exact hm'
  · rw [mostcolor_eq] at hm ⊢
    rw [hmore _ _ hp, ← hm]
    simp only [byCount, hcount]

end Colours

/-! ## 2. There and back -/

/-- The colouring after what it shows at some places was carried off and one colour left behind. -/
def carried (f : Int → Int → Int) (S : Finset Loc) (m : Int) (d : Loc) : Int → Int → Int :=
  overlaid (filled f S m) (S.image (· + d)) fun i j => f (i - d.1) (j - d.2)

section Carrying

variable {f : Int → Int → Int} {S : Finset Loc} {m : Int} {d p : Loc}

theorem carried_there (hp : p ∈ S) : carried f S m d (p + d).1 (p + d).2 = f p.1 p.2 := by
  refine (if_pos (Finset.mem_image_of_mem _ hp)).trans ?_
  simp

theorem carried_left (hp : p ∈ S) (hp' : p ∉ S.image (· + d)) : carried f S m d p.1 p.2 = m :=
  (if_neg hp').trans (if_pos hp)

theorem carried_else (hp : p ∉ S) (hp' : p ∉ S.image (· + d)) : carried f S m d p.1 p.2 = f p.1 p.2 :=
  (if_neg hp').trans (if_neg hp)

theorem image_add_neg (S : Finset Loc) (d : Loc) : (S.image (· + d)).image (· + -d) = S := by
  rw [Finset.image_image]
  exact (Finset.image_congr fun p _ => add_neg_cancel_right p d).trans S.image_id

theorem carried_carried {m' : Int} (hbg : p ∈ S.image (· + d) → p ∈ S ∨ m' = f p.1 p.2) :
    carried (carried f S m d) (S.image (· + d)) m' (-d) p.1 p.2 = f p.1 p.2 := by
  by_cases hS : p ∈ S
  · have hback := carried_there (f := carried f S m d) (m := m') (d := -d) (Finset.mem_image_of_mem (· + d) hS)
    rw [add_neg_cancel_right] at hback
    exact hback.trans (carried_there hS)
  · have hS' : p ∉ (S.image (· + d)).image (· + -d) := by rwa [image_add_neg]
    by_cases hp : p ∈ S.image (· + d)
    · exact (carried_left hp hS').trans ((hbg hp).resolve_left hS)
    · exact (carried_else hp hS').trans (carried_else hS hp)

/-- Only a set that stays where it is lies within itself. -/
theorem eq_zero_of_image_subset (hne : S.Nonempty) (h : S.image (· + d) ⊆ S) : d = 0 := by
  have heq : S.image (· + d) = S :=
    Finset.eq_of_subset_of_card_le h (Finset.card_image_of_injective _ (add_left_injective d)).ge
  have hsum := calc
    ∑ p ∈ S, (p + d) = ∑ q ∈ S.image (· + d), q :=
      (Finset.sum_image (f := fun q => q) fun a _ b _ => (add_left_injective d).eq_iff.mp).symm
    _ = ∑ p ∈ S, p := by rw [heq]
  rw [Finset.sum_add_distrib, add_eq_left, Finset.sum_const] at hsum
  exact (smul_eq_zero.mp hsum).resolve_left hne.card_ne_zero

end Carrying

section Moves

variable {h w : Nat} {f : Int → Int → Int} {O : Finset (Int × Loc)} {m : Int} {d : Loc} {arrange : Arrangement}

theorem perm_carried {S : Finset Loc} (hS : S ⊆ cellSet h w)
    (hd : ∀ p ∈ S.image (· + d), p ∈ cellSet h w ∧ (p ∈ S ∨ m = f p.1 p.2)) :
    (cellList h w).map (fun p => carried f S m d p.1 p.2) ~ (cellList h w).map fun p => f p.1 p.2 := by
  refine perm_colors (sum_moved (m :=
    m) rfl hS (fun p hp => (hd p hp).1) (fun p hp => ?_) (fun p hp => carried_there hp)
    (fun p hp => ?_) fun p hp => ?_)
  · obtain ⟨hp', hp⟩ := Finset.mem_sdiff.mp hp
    exact ((hd p hp').2.resolve_left hp).symm
  · obtain ⟨hp, hp'⟩ := Finset.mem_sdiff.mp hp
    exact carried_left hp hp'
  · obtain ⟨-, hp⟩ := Finset.mem_sdiff.mp hp
    rw [Finset.mem_union, not_or] at hp
    exact carried_else hp.1 hp.2

theorem move_grid (hh : 1 ≤ h) (hm : mostcolor (grid h w f) arrange = .ok (.int m)) (hO : O ⊆ spots h w f) :
    move (grid h w f) (tinted O).value (place d) arrange = .ok (grid h w (carried f (tinted O).locs m d)) := by
  have hcover : cover (grid h w f) (tinted O).value arrange = .ok (grid h w (filled f (tinted O).locs m)) :=
    bind_eq hm ((bind_ok (tinted O).toindices_value).trans (fill_grid hh (isPatch_places _)))
  have hcolor : ∀ e ∈ O.image fun e => (e.1, e.2 + d), f (e.2.1 - d.1) (e.2.2 - d.2) = e.1 :=
    Finset.forall_mem_image.mpr fun e he => by simpa using (mem_spots.mp (hO he)).2
  have hpaint := paint_grid (w := w) (f := filled f (tinted O).locs m) (g := fun i j => f (i - d.1) (j - d.2)) hh hcolor
  refine bind_eq hcover (bind_eq ((tinted O).shift_value d) (hpaint.trans ?_))
  rw [carried, ← locs_map]
  rfl

/-- The way back restores the grid if it leaves behind what the way there did, and in no other case but one: the object
    stayed where it was. -/
theorem carried_back_iff {S : Finset Loc} {m' : Int} (hne : S.Nonempty)
    (hd : ∀ p ∈ S.image (· + d), p ∈ cellSet h w ∧ (p ∈ S ∨ m = f p.1 p.2)) :
    grid h w (carried (carried f S m d) (S.image (· + d)) m' (-d)) = grid h w f ↔ d = 0 ∨ m' = m := by
  constructor
  · intro heq
    by_cases hsub : S.image (· + d) ⊆ S
    · exact .inl (eq_zero_of_image_subset hne hsub)
    · obtain ⟨p, hp, hpS⟩ := Finset.not_subset.mp hsub
      have hp' : p ∉ (S.image (· + d)).image (· + -d) := by rwa [image_add_neg]
      have hcell := cellAt_grid (f := f) (hd p hp).1
      rw [← heq, cellAt_grid (hd p hp).1, carried_left hp hp'] at hcell
      have hm : m' = f p.1 p.2 := by simpa using hcell
      exact .inr (hm.trans ((hd p hp).2.resolve_left hpS).symm)
  · rintro (rfl | rfl)
    · exact grid_ext fun i j _ _ => carried_carried (p := (i, j)) fun hp => .inl (by simpa using hp)
    · exact grid_ext fun i j _ _ => carried_carried (p := (i, j)) fun hp => (hd _ hp).2

/-- **Moving an object and moving it back**: moved to places that it has itself or that have the most frequent colour,
    and back again, it leaves the grid as it was if and only if it did not move or the most frequent colour is still the
    same. That is so if no other colour was as frequent, and also if the order in which colours are met depends on
    nothing but the colours. -/
theorem move_back (ha : arrange.Faithful) (hO : O ⊆ spots h w f) (hne : O.Nonempty) (hd : ∀ p ∈ (tinted O).locs, p + d ∈
      cellSet h w ∧ (p + d ∈ (tinted O).locs ∨ mostcolor (grid h w f) arrange = .ok (.int (f (p + d).1 (p + d).2)))) :
    ∃ m g v, mostcolor (grid h w f) arrange = .ok (.int m) ∧ move (grid h w f) (tinted O).value (place d) arrange =
    .ok g ∧ shift (tinted O).value (place d) = .ok v ∧
    (move g v (place (-d)) arrange = .ok (grid h w f) ↔ d = 0 ∨ mostcolor g arrange = .ok (.int m)) ∧
    ((∀ c ≠ m, (shown h w f c).card < (shown h w f m).card) ∨ (∀ cs cs' : List Int, cs ~ cs' → arrange (cs.map .int) =
      arrange (cs'.map .int)) → mostcolor g arrange = .ok (.int m)) := by
  have hS : (tinted O).locs ⊆ cellSet h w := Finset.image_subset_iff.mpr fun e he => (mem_spots.mp (hO he)).1
  obtain ⟨hh, hw⟩ : 1 ≤ h ∧ 1 ≤ w := by
    have := mem_cellSet.mp (hS (Finset.mem_image_of_mem _ hne.choose_spec))
    omega
  obtain ⟨m, hm, -⟩ := exists_mostcolor (f := f) ha hh hw
  simp only [hm, Except.ok.injEq, int.injEq] at hd
  have hthere : ∀ q ∈ (tinted O).locs.image (· + d), q ∈ cellSet h w ∧ (q ∈ (tinted O).locs ∨ m = f q.1 q.2) :=
    Finset.forall_mem_image.mpr hd
  obtain ⟨m', hm', -⟩ := exists_mostcolor (f := carried f (tinted O).locs m d) ha hh hw
  have hO' : (O.image fun e => (e.1, e.2 + d)) ⊆ spots h w (carried f (tinted O).locs m d) := by
    refine Finset.image_subset_iff.mpr fun e he => mem_spots.mpr ⟨(hd e.2 (Finset.mem_image_of_mem _ he)).1, ?_⟩
    exact (carried_there (Finset.mem_image_of_mem _ he)).trans (mem_spots.mp (hO he)).2
  have hlocs : (tinted (O.image fun e => (e.1, e.2 + d))).locs = (tinted O).locs.image (· + d) :=
    locs_map (P := tinted O) (m := (· + d))
  have hback := move_grid (d := -d) hh hm' hO'
  rw [hlocs] at hback
  refine ⟨m, _, _, hm, move_grid hh hm hO, (tinted O).shift_value d, ?_,
    mostcolor_moved (perm_carried hS hthere) ha hh hw hm⟩
  rw [hm', Except.ok.injEq, int.injEq]
  exact (Eq.congr_left hback).trans ((Except.ok.injEq _ _).to_iff.trans (carried_back_iff (hne.image _) hthere))

/-- Two cells of a row move by one, so that one of them comes to where the other was. -/
theorem move_back_overlap : ∃ m g v, mostcolor (grid 1 3 fun _ j => j) = .ok (.int m) ∧
    move (grid 1 3 fun _ j => j) (tinted {(1, 0, 1), (2, 0, 2)}).value (place (0, -1)) = .ok g ∧
    shift (tinted {(1, 0, 1), (2, 0, 2)}).value (place (0, -1)) = .ok v ∧
    (move g v (place (0, 1)) = .ok (grid 1 3 fun _ j => j) ↔ (0, -1) = (0 : Loc) ∨ mostcolor g = .ok (.int m)) ∧
    ((∀ c ≠ m, (shown 1 3 (fun _ j => j) c).card < (shown 1 3 (fun _ j => j) m).card) ∨
      (∀ cs cs' : List Int, cs ~ cs' → SortedSet.ofList (cs.map .int) = SortedSet.ofList (cs'.map .int)) →
        mostcolor g = .ok (.int m)) := by
  refine move_back (d := (0, -1)) faithful_ofList (by decide) (by decide) fun p hp => ?_
  obtain rfl | rfl : p = (0, 1) ∨ p = (0, 2) := by simpa [locs] using hp
  · exact ⟨by decide, .inr (bind_eq colors_grid rfl)⟩
  · exact ⟨by decide, .inl (by simp [locs])⟩

/-- Two cells of a row change places. Both colours are equally frequent, and the table of slots shows first the one that
    came first, so the way back leaves the wrong one behind. -/
theorem move_back_tie : mostcolor (grid 1 2 fun _ j => 8 * j) Slots.arrange = .ok (.int 0) ∧
    move (grid 1 2 fun _ j => 8 * j) (tinted {(8, 0, 1)}).value (place (0, -1)) Slots.arrange =
      .ok (grid 1 2 fun _ j => 8 - 8 * j) ∧
    shift (tinted {(8, 0, 1)}).value (place (0, -1)) = .ok (tinted {(8, 0, 0)}).value ∧
    move (grid 1 2 fun _ j => 8 - 8 * j) (tinted {(8, 0, 0)}).value (place (0, 1)) Slots.arrange =
      .ok (grid 1 2 fun _ _ => 8) := by
  have hm : mostcolor (grid 1 2 fun _ j => 8 * j) Slots.arrange = .ok (.int 0) := bind_eq colors_grid rfl
  have hm' : mostcolor (grid 1 2 fun _ j => 8 - 8 * j) Slots.arrange = .ok (.int 8) := bind_eq colors_grid rfl
  refine ⟨hm, (move_grid (by decide) hm (by decide)).trans ?_, (shift_value _).trans ?_,
    (move_grid (by decide) hm' (by decide)).trans ?_⟩
  · exact congrArg Except.ok (grid_ext fun i j hi hj => by interval_cases i; interval_cases j <;> rfl)
  · rfl
  · exact congrArg Except.ok (grid_ext fun i j hi hj => by interval_cases i; interval_cases j <;> rfl)

end Moves

end PuzzlePrograms
