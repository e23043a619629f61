import PuzzlePrograms.Proofs.Dihedral
import PuzzlePrograms.Proofs.Shifts

/-!
# Mirror images of patches

A patch is mirrored inside the least rectangle around it: every place goes where the mirror takes it, and the rectangle
keeps its upper left corner. Mirroring the coloured places of a grid gives the coloured places of the mirrored grid.
-/

namespace PuzzlePrograms

open Value Dsl Patch DihedralGroup

variable {P Q : Patch} {a b c d : Int} {t : Loc → Loc} {m : Value → Answer Value}

/-! ## 1. Where mirrors take places -/

namespace Spans

variable (h : Spans P.locs a b c d)
include h

theorem mirrorPatch {part : Value} {x y : Int} {f : Value → Value → Value → Answer (Value × Value)}
    (hx : (place (a, c)).item part = .ok (.int x)) (hy : (place (b, d)).item part = .ok (.int y))
    (hf : ∀ p : Loc, f (.int (x + y)) (.int p.1) (.int p.2) = .ok (.int (t p).1, .int (t p).2)) :
    mirrorPatch part f P.value = .ok (P.map t).value :=
  bind_eq h.ulcorner (bind_eq hx (bind_eq h.lrcorner (bind_eq hy
    (bind_eq rfl (mapPlaces_value h.nonempty hf)))))

theorem hmirror : hmirror P.value = .ok (P.map fun p => (a + b - p.1, p.2)).value := by
  rw [Dsl.hmirror, isTuple_value]
  exact h.mirrorPatch rfl rfl fun _ => rfl

theorem vmirror : vmirror P.value = .ok (P.map fun p => (p.1, c + d - p.2)).value := by
  rw [Dsl.vmirror, isTuple_value]
  exact h.mirrorPatch rfl rfl fun _ => rfl

theorem dmirror : dmirror P.value = .ok ((P.map .swap).moved (a - c, c - a)).value := by
  rw [Dsl.dmirror, isTuple_value, Patch.moved, Patch.map_map]
  refine bind_eq h.ulcorner (bind_eq rfl (mapPlaces_value h.nonempty fun p => congrArg Except.ok ?_))
  simp only [Function.comp_def, Prod.fst_add, Prod.snd_add, Prod.fst_swap, Prod.snd_swap]
  congr 2 <;> omega

/-- Turned upside down, a patch has the same rectangle. -/
theorem flipped : Spans (P.map fun p => (a + b - p.1, p.2)).locs a b c d := by
  have hflip : ∀ p ∈ P.locs, (a + b - p.1, p.2) ∈ (P.map fun p => (a + b - p.1, p.2)).locs := fun p hp => by
    rw [locs_map]
    exact Finset.mem_image_of_mem (fun p : Loc => (a + b - p.1, p.2)) hp
  refine ⟨fun q hq => ?_, ?_, ?_, ?_, ?_⟩
  · obtain ⟨p, hp, rfl⟩ := Finset.mem_image.mp (locs_map ▸ hq)
    have := h.inside p hp
    simp only
    omega
  · exact h.bottom.elim fun p hp => ⟨_, hflip p hp.1, by simp [hp.2]⟩
  · exact h.top.elim fun p hp => ⟨_, hflip p hp.1, by simp [hp.2]⟩
  · exact h.left.elim fun p hp => ⟨_, hflip p hp.1, hp.2⟩
  · exact h.right.elim fun p hp => ⟨_, hflip p hp.1, hp.2⟩

end Spans

/-! ## 2. Mirror images -/

/-- `Q` is the image of `P` in a mirror, and `P` that of `Q`; they have the same size and the same first row and
    column. -/
structure Mirrored (m : Value → Answer Value) (P Q : Patch) : Prop where
  there : m P.value = .ok Q.value
  back : m Q.value = .ok P.value
  size : Q.value.size = P.value.size
  upper : uppermost Q.value = uppermost P.value
  left : leftmost Q.value = leftmost P.value

/-- Every patch with a place has a mirror image. -/
def Mirrors (m : Value → Answer Value) : Prop := ∀ P : Patch, P.locs.Nonempty → ∃ Q, Q.locs.Nonempty ∧ Mirrored m P Q

theorem Mirrored.of_map (ht : Function.Involutive t) (h : Spans P.locs a b c d) {b' d' : Int}
    (h' : Spans (P.map t).locs a b' c d') (there : m P.value = .ok (P.map t).value)
    (back : m (P.map t).value = .ok ((P.map t).map t).value) : Mirrored m P (P.map t) := by
  have hback : (P.map t).map t = P := by
    rw [map_map, ht.comp_self]
    cases P <;> simp [map]
  have hsize : (P.map t).value.size = P.value.size := by
    cases P with
    | bare S =>
      refine coding_place.size_fset.trans (.trans ?_ coding_place.size_fset.symm)
      rw [Finset.card_image_of_injective S ht.injective]
    | tinted O =>
      refine coding_spot.size_fset.trans (.trans ?_ coding_spot.size_fset.symm)
      rw [Finset.card_image_of_injective O fun e e' he => Prod.ext (Prod.mk.inj he).1 (ht.injective (Prod.mk.inj he).2)]
  exact ⟨there, back.trans (by rw [hback]), hsize, h'.uppermost.trans h.uppermost.symm,
    h'.leftmost.trans h.leftmost.symm⟩

theorem mirrors_hmirror : Mirrors hmirror := fun P hP => by
  obtain ⟨a, b, c, d, h⟩ := exists_spans hP
  exact ⟨_, h.flipped.nonempty, .of_map (fun p => Prod.ext (by simp) rfl) h h.flipped h.hmirror h.flipped.hmirror⟩

theorem mirrors_vmirror : Mirrors vmirror := fun P hP => by
  obtain ⟨a, b, c, d, h⟩ := exists_spans hP
  -- exchange rows and columns, turn upside down, and exchange them again
  have h' := h.swapped.flipped.swapped
  rw [map_map, map_map] at h'
  exact ⟨_, h'.nonempty, .of_map (fun p => Prod.ext rfl (by simp)) h h' h.vmirror h'.vmirror⟩

theorem mirrors_dmirror : Mirrors dmirror := fun P hP => by
  obtain ⟨a, b, c, d, h⟩ := exists_spans hP
  have h' := h.swapped.moved (a - c) (c - a)
  rw [moved, map_map, add_sub_cancel, add_sub_cancel] at h'
  refine ⟨_, h'.nonempty, .of_map (fun p => ?_) h h' ?_ ?_⟩
  · exact Prod.ext (by simp; omega) (by simp; omega)
  · rw [h.dmirror, moved, map_map]
  · rw [h'.dmirror, moved, map_map]

/-- A mirror between two other mirrors. -/
theorem mirrors_cmirror : Mirrors cmirror := fun P hP => by
  have hrun : ∀ P : Patch, cmirror P.value = (do vmirror (← dmirror (← vmirror P.value))) := fun P => by
    rw [cmirror, isTuple_value]
    rfl
  obtain ⟨P₁, hP₁, h₁⟩ := mirrors_vmirror P hP
  obtain ⟨P₂, hP₂, h₂⟩ := mirrors_dmirror P₁ hP₁
  obtain ⟨Q, hQ, h₃⟩ := mirrors_vmirror P₂ hP₂
  exact ⟨Q, hQ, (hrun P).trans (bind_eq h₁.there (bind_eq h₂.there h₃.there)),
    (hrun Q).trans (bind_eq h₃.back (bind_eq h₂.back h₁.back)), h₃.size.trans (h₂.size.trans h₁.size),
    h₃.upper.trans (h₂.upper.trans h₁.upper), h₃.left.trans (h₂.left.trans h₁.left)⟩

/-! ## 3. Mirrored grids -/

section Grids

variable {h w H W : Nat} {f : Int → Int → Int}

theorem map_spots (ht : Function.Involutive t) (hcell : ∀ p, p ∈ cellSet H W ↔ t p ∈ cellSet h w) :
    (tinted (spots h w f)).map t = tinted (spots H W fun i j => f (t (i, j)).1 (t (i, j)).2) := by
  refine congrArg tinted (Finset.ext fun e => ?_)
  have hmem : e ∈ (spots h w f).image (fun e => (e.1, t e.2)) ↔ (e.1, t e.2) ∈ spots h w f := by
    rw [Finset.mem_image]
    constructor
    · rintro ⟨e, he, rfl⟩
      rwa [ht e.2]
    · exact fun he => ⟨_, he, by rw [ht e.2]⟩
  rw [hmem, mem_spots, mem_spots, hcell]

/-- On every grid with a cell, a mirror does to the grid what it does to the coloured places. -/
def Agrees (m : Value → Answer Value) : Prop := ∀ (h w : Nat) (f : Int → Int → Int), ∃ h' w' g,
  m (grid (h + 1) (w + 1) f) = .ok (grid (h' + 1) (w' + 1) g) ∧
    m (tinted (spots (h + 1) (w + 1) f)).value = .ok (tinted (spots (h' + 1) (w' + 1) g)).value

theorem agrees_hmirror : Agrees hmirror := fun h w f => by
  refine ⟨h, w, _, hmirror_grid, (spans_grid (by omega) (by omega)).hmirror.trans ?_⟩
  rw [map_spots (H := h + 1) (W := w + 1) (fun p => Prod.ext (by simp) rfl) fun p => by simp; omega]
  simp

theorem agrees_vmirror : Agrees vmirror := fun h w f => by
  refine ⟨h, w, _, vmirror_grid, (spans_grid (by omega) (by omega)).vmirror.trans ?_⟩
  rw [map_spots (H := h + 1) (W := w + 1) (fun p => Prod.ext rfl (by simp)) fun p => by simp; omega]
  simp

theorem agrees_dmirror : Agrees dmirror := fun h w f => by
  refine ⟨w, h, _, dmirror_grid (by omega), (spans_grid (by omega) (by omega)).dmirror.trans ?_⟩
  rw [map_spots (H := w + 1) (W := h + 1) Prod.swap_swap fun p => by simp [and_comm]]
  exact congrArg (fun P : Patch => Except.ok P.value) moved_zero

theorem agrees_cmirror : Agrees cmirror := fun h w f => by
  obtain ⟨h₁, w₁, f₁, hg₁, hs₁⟩ := agrees_vmirror h w f
  obtain ⟨h₂, w₂, f₂, hg₂, hs₂⟩ := agrees_dmirror h₁ w₁ f₁
  obtain ⟨h₃, w₃, f₃, hg₃, hs₃⟩ := agrees_vmirror h₂ w₂ f₂
  refine ⟨h₃, w₃, f₃, ?_, ?_⟩
  · have h₁ := composes (sr 1) (h + 1) (w + 1) f (sr 0) (by omega) (by omega)
    have h₂ := composes (sr 0) (h + 1) (w + 1) f (sr 1 * sr 0) (by omega) (by omega)
    rw [← h₁] at h₂
    exact h₂.symm.trans (bind_eq (bind_eq hg₁ hg₂) hg₃)
  · rw [cmirror, isTuple_value]
    exact bind_eq hs₁ (bind_eq hs₂ hs₃)

end Grids

/-- **Mirrors of grids and of patches agree**: the coloured places of a mirrored grid are the mirrored coloured places,
    and a mirror takes every patch to one with as many cells and the same first row and column, and back again. -/
theorem mirrors_agree (hm : m ∈ [hmirror, vmirror, dmirror, cmirror]) :
    (∀ (h w : Nat) (f : Int → Int → Int), ∃ o g o', asobject (grid (h + 1) (w + 1) f) = .ok o ∧
      m (grid (h + 1) (w + 1) f) = .ok g ∧ m o = .ok o' ∧ asobject g = .ok o') ∧
    ∀ P : Patch, P.locs.Nonempty → ∃ Q, Mirrored m P Q ∧ ∃ a c : Int, uppermost Q.value = .ok (.int a) ∧
      leftmost Q.value = .ok (.int c) := by
  have hboth : Agrees m ∧ Mirrors m := by
    simp only [List.mem_cons, List.not_mem_nil, or_false] at hm
    rcases hm with rfl | rfl | rfl | rfl
    · exact ⟨agrees_hmirror, mirrors_hmirror⟩
    · exact ⟨agrees_vmirror, mirrors_vmirror⟩
    · exact ⟨agrees_dmirror, mirrors_dmirror⟩
    · exact ⟨agrees_cmirror, mirrors_cmirror⟩
  refine ⟨fun h w f => ?_, fun P hP => ?_⟩
  · obtain ⟨h', w', g, hgrid, hspots⟩ := hboth.1 h w f
    exact ⟨_, _, _, asobject_grid, hgrid, hspots, asobject_grid⟩
  · obtain ⟨Q, hQ, hmirrored⟩ := hboth.2 P hP
    obtain ⟨a, b, c, d, h⟩ := exists_spans hQ
    exact ⟨Q, hmirrored, a, c, h.uppermost, h.leftmost⟩

/-- Three coloured places that fill no rectangle, away from the origin. -/
theorem mirrors_agree_corner : ∃ Q, Mirrored cmirror (tinted {(1, -2, 5), (2, -2, 7), (2, -1, 7)}) Q ∧
    ∃ a c : Int, uppermost Q.value = .ok (.int a) ∧ leftmost Q.value = .ok (.int c) :=
  (mirrors_agree (m := cmirror) (by simp)).2 _ (by decide)

end PuzzlePrograms
