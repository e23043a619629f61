import PuzzlePrograms.Proofs.Brushes
import PuzzlePrograms.Proofs.Splitting

/-!
# Parts of a grid and where they occur

The part of a grid around a patch, put back where it was cut out, changes nothing. An object occurs in a grid where its
cells, moved from the origin, are cells of the grid.
-/

namespace PuzzlePrograms

open Value Dsl Patch
open List hiding transpose map_map

variable {h w : Nat} {f : Int → Int → Int} {P : Patch} {O : Finset (Int × Loc)} {a b c d : Int} {p q : Loc}

/-! ## 1. Cutting out -/

theorem mem_image_moved {x : Int} : (x, q) ∈ O.image (fun e => (e.1, e.2 + p)) ↔ (x, q - p) ∈ O := by
  rw [Finset.mem_image]
  constructor
  · rintro ⟨e, he, heq⟩
    obtain ⟨rfl, rfl⟩ := Prod.mk.inj heq
    simpa using he
  · exact fun hq => ⟨(x, q - p), hq, by simp⟩

namespace Spans

variable (hs : Spans P.locs a b c d) (hin : P.locs ⊆ cellSet h w)
include hs

theorem shape : shape P.value = .ok (place (b - a + 1, d - c + 1)) := bind_eq hs.height (bind_ok hs.width)

include hin

theorem inGrid : (0 ≤ a ∧ a ≤ b ∧ b < h) ∧ 0 ≤ c ∧ c ≤ d ∧ d < w := by
  obtain ⟨t, ht, rfl⟩ := hs.top
  obtain ⟨u, hu, rfl⟩ := hs.bottom
  obtain ⟨l, hl, rfl⟩ := hs.left
  obtain ⟨r, hr, rfl⟩ := hs.right
  have := hs.le
  have := mem_cellSet.mp (hin ht)
  have := mem_cellSet.mp (hin hu)
  have := mem_cellSet.mp (hin hl)
  have := mem_cellSet.mp (hin hr)
  omega

theorem subgrid :
    subgrid P.value (grid h w f) = .ok (grid (b - a + 1).toNat (d - c + 1).toNat fun x y => f (x + a) (y + c)) := by
  obtain ⟨⟨ha, hab, hb⟩, hc, hcd, hd⟩ := hs.inGrid hin
  lift a to Nat using ha
  lift c to Nat using hc
  have hshape : Dsl.shape P.value = .ok (.tuple [.int (b - a + 1).toNat, .int (d - c + 1).toNat]) := by
    rw [hs.shape, place, Int.toNat_of_nonneg (by omega), Int.toNat_of_nonneg (by omega)]
    rfl
  refine bind_eq hs.ulcorner (bind_eq hshape ((crop_grid h w a c _ _ f).trans ?_))
  rw [min_eq_left (by omega), min_eq_left (by omega)]

/-- What a grid shows in the least rectangle around a patch, moved to the origin, is what the part of the grid shows. -/
theorem moved_shownAt : (tinted (shownAt h w f (rect a b c d))).moved (-(a, c)) =
    tinted (spots (b - a + 1).toNat (d - c + 1).toNat fun x y => f (x + a) (y + c)) := by
  have hbounds := hs.inGrid hin
  refine congrArg tinted (Finset.ext fun ⟨x, q⟩ => mem_image_moved.trans ?_)
  simp only [mem_shownAt, mem_spots, mem_cellSet, mem_rect, sub_neg_eq_add, Prod.fst_add, Prod.snd_add]
  omega

end Spans

/-- **Cutting out and putting back changes nothing**: the part of a grid around a patch has the size of the patch, shows
    what the grid shows at the backdrop of the patch, and painted where it was cut out it leaves the grid as it is. -/
theorem cut_and_paste (h w : Nat) (f : Int → Int → Int) (P : Patch) (hP : P.locs.Nonempty)
  (hin : P.locs ⊆ cellSet (h + 1) (w + 1)) :
    let g := grid (h + 1) (w + 1) f
    ∃ part size corner B shown A, subgrid P.value g = .ok part ∧ shape P.value = .ok size ∧ shape part = .ok size ∧
      ulcorner P.value = .ok (place corner) ∧ backdrop P.value = .ok B ∧ toobject B g = .ok shown ∧
      asobject part = .ok A ∧ shift shown (place (-corner)) = .ok A ∧
      ∃ back, shift A (place corner) = .ok back ∧ paint g back = .ok g := by
  obtain ⟨a, b, c, d, hs⟩ := exists_spans hP
  have hle := hs.le
  have hmoved := hs.moved_shownAt (f := f) hin
  refine ⟨_, _, (a, c), _, _, _, hs.subgrid hin, hs.shape, ?_, hs.ulcorner, hs.backdrop,
    toobject_value (P := bare _) (by omega), asobject_grid, (shift_value _).trans (by rw [← hmoved]; rfl), _,
      shift_value _, ?_⟩
  · rw [shape_grid (by omega), Int.toNat_of_nonneg (by omega), Int.toNat_of_nonneg (by omega)]
  · rw [← hmoved, moved_moved, neg_add_cancel, moved_zero, paint_grid (by omega) fun e he => (mem_shownAt.mp he).1.2,
      overlaid_self]

/-- Two cells at the border whose rectangle reaches over three columns. -/
theorem cut_and_paste_corner : ∃ part A back, subgrid (bare {(0, 2), (1, 0)}).value (grid 2 3 fun i j => 3 * i + j) =
    .ok part ∧ asobject part = .ok A ∧ shift A (place (0, 0)) = .ok back ∧ paint (grid 2 3 fun i j => 3 * i + j) back =
    .ok (grid 2 3 fun i j => 3 * i + j) := by
  have hs : Spans (bare {(0, 2), (1, 0)}).locs 0 1 0 2 := ⟨by decide, by decide, by decide, by decide, by decide⟩
  obtain ⟨part, _, corner, _, _, A, hpart, -, -, hcorner, -, -, hA, -, back, hback, hpaint⟩ :=
    cut_and_paste 1 2 (fun i j => 3 * i + j) (bare {(0, 2), (1, 0)}) (by decide) (by decide)
  rw [hs.ulcorner, Except.ok.injEq, coding_place.injective.eq_iff] at hcorner
  subst hcorner
  exact ⟨part, A, back, hpart, hA, hback, hpaint⟩

/-! ## 2. Occurrences -/

theorem occursAt_spots (l : List (Int × Loc)) (p : Loc) :
    occursAt (grid h w f) h w (l.map fun e => (.int e.1, .int e.2.1, .int e.2.2)) (.int p.1) (.int p.2) =
      .ok (decide (∀ e ∈ l, (e.1, e.2 + p) ∈ spots h w f)) := by
  obtain ⟨k, m⟩ := p
  show occursAt.go _ _ _ _ _ _ = _
  induction l with
  | nil => rfl
  | cons e l ih =>
    obtain ⟨v, i, j⟩ := e
    have hadd : ∀ x y : Int, (int x).add (.int y) = .ok (.int (x + y)) := fun _ _ => rfl
    rw [map_cons, occursAt.go, bind_ok (hadd _ _), bind_ok (hadd _ _), bind_ok (isInside_int _ _)]
    simp only [forall_mem_cons, Prod.mk_add_mk, mem_spots]
    by_cases hp : (i + k, j + m) ∈ cellSet h w
    · rw [if_pos (by simpa using hp), bind_ok (cellAt_grid hp), coding_int.bne_code]
      by_cases hv : f (i + k) (j + m) = v
      · rw [if_neg (by simpa using hv), ih]
        simp only [hp, hv, and_self, true_and, mem_spots]
      · rw [if_pos (by simpa using hv)]
        simp only [hv, and_false, false_and, decide_false]
        rfl
    · rw [if_neg (by simpa using hp)]
      simp only [hp, false_and, decide_false]
      rfl

/-- Where the cells of an object, moved, are cells of the grid. -/
def foundAt (h w : Nat) (f : Int → Int → Int) (O : Finset (Int × Loc)) : Finset Loc :=
  (cellSet h w).filter fun p => ∀ e ∈ O, (e.1, e.2 + p) ∈ spots h w f

unseal grid in
theorem occurrences_normalized {N : Finset (Int × Loc)} (hh : 1 ≤ h) (hw : 1 ≤ w)
    (hN : normalize (tinted O).value = .ok (tinted N).value) :
    occurrences (grid h w f) (tinted O).value = .ok (places (foundAt h w f N)) := by
  obtain ⟨l, -, hl, heq⟩ := coding_spot.exists_list N
  have hrows : (gridRows h w f).mapM (fun r => do return tuple (← r.elements)) = .ok (gridRows h w f) :=
    mapM_map_ok fun _ _ => rfl
  have hshift : shift (tinted N).value (pair 0 0) = .ok (tinted N).value := (shift_value 0).trans (by rw [moved_zero])
  have hparts : (l.map spot).mapM cell = .ok (l.map fun e => (.int e.1, .int e.2.1, .int e.2.2)) :=
    mapM_map_ok fun _ _ => rfl
  have hplaces : ((rangeList 0 h 1).flatMap fun i => (rangeList 0 w 1).map fun j => (i, j)) =
      (cellList h w).map fun p => (.int p.1, .int p.2) := by
    simp only [rangeList_nat, cellList, flatMap_map, map_flatMap, List.map_map, Function.comp_def]
  refine bind_eq hN (bind_eq (extent_grid hh) ?_)
  simp only [if_neg (show ¬(h == 0 || w == 0) = true by simp; omega)]
  refine bind_eq elements_grid (bind_eq hrows (bind_eq hshift (bind_eq (congrArg Except.ok heq) (bind_eq hparts ?_))))
  refine bind_eq ((congrArg _ hplaces).trans (filterM_map_ok fun p _ => occursAt_spots l p))
    (congrArg (Except.ok ∘ fset) ?_)
  rw [List.map_map]
  refine (filter_cellList _).trans ?_
  simp only [hl, decide_eq_true_eq]
  rfl

theorem normalize_moved (P : Patch) :
    ∃ e, normalize P.value = .ok (P.moved e).value ∧ ∀ d, normalize (P.moved d).value = .ok (P.moved e).value := by
  rcases P.locs.eq_empty_or_nonempty with he | hP
  · obtain ⟨n, hn, hempty⟩ := P.size_value
    have hself : normalize P.value = .ok P.value := by
      refine bind_eq hn ?_
      rw [if_pos (by simpa using hempty.mpr he)]
      rfl
    refine ⟨0, moved_zero.symm ▸ hself, fun d => ?_⟩
    rw [moved, map_empty he, moved_zero, hself]
  · obtain ⟨a, b, c, d, hs⟩ := exists_spans hP
    refine ⟨(-a, -c), hs.normalize, Prod.forall.mpr fun x y => (hs.moved x y).normalize.trans ?_⟩
    rw [moved_moved]
    simp

/-- **Occurrences are the embeddings**: an object occurs at the places of the grid to which it can be moved from the
    origin so that its cells are cells of the grid. So it does not matter where it lies, and what a grid shows at the
    places of a patch occurs at the corner of the patch. -/
theorem occurrences_embeddings (h w : Nat) (f : Int → Int → Int) (O : Finset (Int × Loc)) :
    let g := grid (h + 1) (w + 1) f
    (∃ n S, normalize (tinted O).value = .ok n ∧ occurrences g (tinted O).value = .ok (places S) ∧
      (∀ p, p ∈ S ↔ p ∈ cellSet (h + 1) (w + 1) ∧ ∃ M A, shift n (place p) = .ok (tinted M).value ∧
        asobject g = .ok (tinted A).value ∧ M ⊆ A) ∧
      ∀ d, ∃ o, shift (tinted O).value (place d) = .ok o ∧ occurrences g o = .ok (places S)) ∧
    ∀ P : Patch, P.locs.Nonempty → P.locs ⊆ cellSet (h + 1) (w + 1) → ∃ o c T, toobject P.value g = .ok o ∧
      ulcorner P.value = .ok (place c) ∧ occurrences g o = .ok (places T) ∧ c ∈ T := by
  have hh : 1 ≤ h + 1 := by omega
  have hw : 1 ≤ w + 1 := by omega
  refine ⟨?_, fun P hP hin => ?_⟩
  · obtain ⟨e, he, hmoved⟩ := normalize_moved (tinted O)
    refine ⟨_, _, he, occurrences_normalized hh hw he, fun p => ?_,
      fun d => ⟨_, shift_value d, occurrences_normalized hh hw (hmoved d)⟩⟩
    rw [foundAt, Finset.mem_filter, ← Finset.image_subset_iff (f := fun e : Int × Loc => (e.1, e.2 + p))]
    refine and_congr_right fun _ => ⟨fun hsub => ⟨_, _, shift_value p, asobject_grid, hsub⟩, ?_⟩
    rintro ⟨M, A, hM, hA, hsub⟩
    rw [shift_value, Except.ok.injEq] at hM
    rw [asobject_grid, Except.ok.injEq] at hA
    rwa [← coding_spot.set.injective hM, ← coding_spot.set.injective hA] at hsub
  · obtain ⟨a, b, c, d, hs⟩ := exists_spans hP
    have hlocs : (tinted (shownAt (h + 1) (w + 1) f P.locs)).locs = P.locs := by
      refine Finset.ext fun p => ⟨fun hp => ?_, fun hp => ?_⟩
      · obtain ⟨e, he, rfl⟩ := Finset.mem_image.mp hp
        exact (mem_shownAt.mp he).2
      · exact Finset.mem_image.mpr ⟨(f p.1 p.2, p), mem_shownAt.mpr ⟨⟨hin hp, rfl⟩, hp⟩, rfl⟩
    have hs' : Spans (tinted (shownAt (h + 1) (w + 1) f P.locs)).locs a b c d := by rwa [hlocs]
    have hbounds := hs.inGrid hin
    refine ⟨_, (a, c), _, toobject_value hh, hs.ulcorner, occurrences_normalized hh hw hs'.normalize, ?_⟩
    refine Finset.mem_filter.mpr ⟨by simp; omega, Finset.forall_mem_image.mpr fun e he => ?_⟩
    have hback : e.2 + (-a, -c) + (a, c) = e.2 := neg_add_cancel_right e.2 (a, c)
    rw [hback]
    exact mem_spots.mpr (mem_shownAt.mp he).1

/-- The middle cell of a row occurs where it lies. -/
theorem occurrences_embeddings_row :
    ∃ o c T, toobject (bare {(0, 1)}).value (grid 1 3 fun _ j => if j = 0 then 0 else 5) = .ok o ∧
    ulcorner (bare {(0, 1)}).value = .ok (place c) ∧ occurrences (grid 1 3 fun _ j => if j = 0 then 0 else 5) o =
    .ok (places T) ∧ c ∈ T :=
  (occurrences_embeddings 0 2 (fun _ j => if j = 0 then 0 else 5) ∅).2 (bare {(0, 1)}) (by decide) (by decide)

end PuzzlePrograms
