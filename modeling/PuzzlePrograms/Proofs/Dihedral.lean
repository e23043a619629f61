import PuzzlePrograms.Proofs.Painting

/-!
# Turning and mirroring as a group

The eight ways to turn and mirror a grid are the symmetries of a square: `r k` is `k` quarter turns and `sr k` the
mirror that exchanges left and right, after `k` quarter turns. A quarter turn and this mirror generate the group, so to
see that doing one after another is the product of the group it is enough to follow each of the eight by these two.
-/

namespace PuzzlePrograms

open Value Dsl DihedralGroup

/-- What a symmetry does to a grid. -/
def act : DihedralGroup 4 → Value → Answer Value
  | .r k => ![.ok, rot90, rot180, rot270] k
  | .sr k => ![vmirror, dmirror, hmirror, cmirror] k

variable {h w h' w' : Nat} {f g : Int → Int → Int} {x y : Answer Value} {a b : DihedralGroup 4}

theorem same_grid (hx : x = .ok (grid h w f)) (hy : y = .ok (grid h w g)) (hfg : ∀ i j, f i j = g i j) : x = y := by
  rw [hx, hy, funext₂ hfg]

theorem forall_symmetry {P : DihedralGroup 4 → Prop} (hr : P (r 0) ∧ P (r 1) ∧ P (r 2) ∧ P (r 3))
    (hs : P (sr 0) ∧ P (sr 1) ∧ P (sr 2) ∧ P (sr 3)) (a : DihedralGroup 4) : P a := by
  obtain ⟨h0, h1, h2, h3⟩ := hr
  obtain ⟨s0, s1, s2, s3⟩ := hs
  rcases a with k | k <;> fin_cases k <;> assumption

/-- A quarter turn after a symmetry. -/
theorem act_turn (hh : 1 ≤ h) (hw : 1 ≤ w) (b : DihedralGroup 4) :
    (act b (grid h w f) >>= rot90) = act (r 1 * b) (grid h w f) := by
  revert b
  refine forall_symmetry ⟨rfl, ?_, ?_, ?_⟩ ⟨?_, ?_, ?_, ?_⟩
  · exact same_grid (bind_eq (rot90_grid hh) (rot90_grid hw)) rot180_grid fun i j => by congr 1
  · exact same_grid (bind_eq rot180_grid (rot90_grid hh)) (rot270_grid hh) fun i j => by congr 1; omega
  · exact same_grid (bind_eq (rot270_grid hh) (rot90_grid hw)) rfl fun i j => by congr 1; omega
  · exact same_grid (bind_eq vmirror_grid (rot90_grid hh)) (cmirror_grid hh) fun i j => by congr 1
  · exact same_grid (bind_eq (dmirror_grid hh) (rot90_grid hw)) vmirror_grid fun i j => by congr 1
  · exact same_grid (bind_eq hmirror_grid (rot90_grid hh)) (dmirror_grid hh) fun i j => by congr 1; omega
  · exact same_grid (bind_eq (cmirror_grid hh) (rot90_grid hw)) hmirror_grid fun i j => by congr 1; omega

/-- The mirror that exchanges left and right, after a symmetry. -/
theorem act_flip (hh : 1 ≤ h) (b : DihedralGroup 4) :
    (act b (grid h w f) >>= vmirror) = act (sr 0 * b) (grid h w f) := by
  revert b
  refine forall_symmetry ⟨rfl, ?_, ?_, ?_⟩ ⟨?_, ?_, ?_, ?_⟩
  · exact same_grid (bind_eq (rot90_grid hh) vmirror_grid) (dmirror_grid hh) fun i j => by congr 1; omega
  · exact same_grid (bind_eq rot180_grid vmirror_grid) hmirror_grid fun i j => by congr 1; omega
  · exact same_grid (bind_eq (rot270_grid hh) vmirror_grid) (cmirror_grid hh) fun i j => by congr 1
  · exact same_grid (bind_eq vmirror_grid vmirror_grid) rfl fun i j => by congr 1; omega
  · exact same_grid (bind_eq (dmirror_grid hh) vmirror_grid) (rot90_grid hh) fun i j => by congr 1
  · exact same_grid (bind_eq hmirror_grid vmirror_grid) rot180_grid fun i j => by congr 1
  · exact same_grid (bind_eq (cmirror_grid hh) vmirror_grid) (rot270_grid hh) fun i j => by congr 1; omega

theorem exists_act (hh : 1 ≤ h) (hw : 1 ≤ w) (b : DihedralGroup 4) :
    ∃ h' w' g, 1 ≤ h' ∧ 1 ≤ w' ∧ act b (grid h w f) = .ok (grid h' w' g) := by
  revert b
  exact forall_symmetry ⟨⟨h, w, f, hh, hw, rfl⟩, ⟨w, h, _, hw, hh, rot90_grid hh⟩, ⟨h, w, _, hh, hw, rot180_grid⟩,
      ⟨w, h, _, hw, hh, rot270_grid hh⟩⟩
    ⟨⟨h, w, _, hh, hw, vmirror_grid⟩, ⟨w, h, _, hw, hh, dmirror_grid hh⟩, ⟨h, w, _, hh, hw, hmirror_grid⟩,
      ⟨w, h, _, hw, hh, cmirror_grid hh⟩⟩

/-- Doing a symmetry after another is doing their product. -/
def Composes (a : DihedralGroup 4) : Prop := ∀ (h w : Nat) (f : Int → Int → Int) (b : DihedralGroup 4), 1 ≤ h → 1 ≤ w →
  (act b (grid h w f) >>= act a) = act (a * b) (grid h w f)

theorem Composes.mul (ha : Composes a) (hb : Composes b) : Composes (a * b) := by
  intro h w f c hh hw
  obtain ⟨h', w', g, hh', hw', hc⟩ := exists_act (f := f) hh hw c
  calc (act c (grid h w f) >>= act (a * b))
    _ = act (a * b) (grid h' w' g) := bind_ok hc
    _ = (act b (grid h' w' g) >>= act a) := (ha h' w' g b hh' hw').symm
    _ = (act c (grid h w f) >>= act b) >>= act a := by rw [bind_ok hc]
    _ = act (a * b * c) (grid h w f) := by rw [hb h w f c hh hw, ha h w f (b * c) hh hw, mul_assoc]

theorem composes (a : DihedralGroup 4) : Composes a := by
  have hturn : Composes (r 1) := fun h w f b hh hw => act_turn hh hw b
  have hturns : ∀ n : Nat, Composes (r 1 ^ n) := fun n => by
    induction n with
    | zero => exact fun h w f b _ _ => by cases hb : act b (grid h w f) <;> rw [pow_zero, one_mul, hb] <;> rfl
    | succ n ih => exact ih.mul hturn
  have hr : ∀ k, Composes (r k) := fun k => by simpa using hturns k.val
  cases a with
  | r k => exact hr k
  | sr k =>
    have hflip : Composes (sr 0) := fun h w f b hh _ => act_flip hh b
    simpa using hflip.mul (hr k)

theorem foldlM_act (as : List (DihedralGroup 4)) (hh : 1 ≤ h) (hw : 1 ≤ w) :
    as.foldlM (fun v a => act a v) (grid h w f) = act as.reverse.prod (grid h w f) := by
  induction as generalizing h w f with
  | nil => rfl
  | cons a as ih =>
    obtain ⟨h', w', g, hh', hw', ha⟩ := exists_act (f := f) hh hw a
    rw [List.foldlM_cons, bind_ok ha, ih hh' hw', List.reverse_cons, List.prod_append, List.prod_singleton,
      ← composes _ h w f a hh hw, bind_ok ha]

/-- Four cells of four colours: no symmetry but the identity leaves the first two in their places. -/
theorem eq_one_of_act : ∀ a, act a (grid 2 2 fun i j => 2 * i + j) = .ok (grid 2 2 fun i j => 2 * i + j) → a = 1 := by
  have hmoves :
    ∀ {x : Answer Value} {g : Int → Int → Int} {b : DihedralGroup 4}, x = .ok (grid 2 2 g) → g 0 0 ≠ 0 ∨ g 0 1 ≠ 1 →
      x = .ok (grid 2 2 fun i j => 2 * i + j) → b = 1 := by
    intro x g b hx hne heq
    have hcell : ∀ p ∈ cellSet 2 2, g p.1 p.2 = 2 * p.1 + p.2 := fun p hp => by
      have hp' := cellAt_grid (f := g) hp
      rw [Except.ok.inj (hx.symm.trans heq), cellAt_grid hp] at hp'
      simpa using hp'.symm
    have h0 := hcell (0, 0) (by decide)
    have h1 := hcell (0, 1) (by decide)
    simp only at h0 h1
    omega
  refine forall_symmetry ⟨fun _ => rfl, ?_, ?_, ?_⟩ ⟨?_, ?_, ?_, ?_⟩
  · exact hmoves (rot90_grid (by decide)) (by decide)
  · exact hmoves rot180_grid (by decide)
  · exact hmoves (rot270_grid (by decide)) (by decide)
  · exact hmoves vmirror_grid (by decide)
  · exact hmoves (dmirror_grid (by decide)) (by decide)
  · exact hmoves hmirror_grid (by decide)
  · exact hmoves (cmirror_grid (by decide)) (by decide)

theorem act_injective : Function.Injective act := by
  intro a b hab
  have hback := composes b⁻¹ 2 2 (fun i j => 2 * i + j) b (by omega) (by omega)
  rw [← hab, composes b⁻¹ 2 2 _ a (by omega) (by omega), inv_mul_cancel] at hback
  exact (inv_mul_eq_one.mp (eq_one_of_act _ hback)).symm

/-- **The turns and mirrors of grids are the symmetries of a square**: the relations between them hold on every grid
    with a cell, doing any number of them one after another is one of the eight, and the eight are different. -/
theorem turns_and_mirrors : (∀ (h w : Nat) (f : Int → Int → Int), let g := grid (h + 1) (w + 1) f
      (rot90 g >>= rot90) = rot180 g ∧ (rot180 g >>= rot90) = rot270 g ∧ (rot90 g >>= rot90 >>= rot90 >>= rot90) =
        .ok g ∧
      (hmirror g >>= hmirror) = .ok g ∧ (vmirror g >>= vmirror) = .ok g ∧ (dmirror g >>= dmirror) = .ok g ∧
      (cmirror g >>= cmirror) = .ok g ∧ (rot180 g >>= vmirror) = hmirror g ∧ (rot90 g >>= vmirror) = dmirror g ∧
      (rot90 g >>= hmirror) = cmirror g ∧
      ∀ as : List (DihedralGroup 4), as.foldlM (fun v a => act a v) g = act as.reverse.prod g) ∧
        Function.Injective act := by
  refine ⟨fun h w f => ?_, act_injective⟩
  have hact : ∀ a b, (act b (grid (h + 1) (w + 1) f) >>= act a) = act (a * b) (grid (h + 1) (w + 1) f) :=
    fun a b => composes a _ _ f b (by omega) (by omega)
  have hfour : (rot90 (grid (h + 1) (w + 1) f) >>= rot90 >>= rot90 >>= rot90) = .ok (grid (h + 1) (w + 1) f) := by
    rw [show (rot90 (grid (h + 1) (w + 1) f) >>= rot90) = _ from hact (r 1) (r 1),
      show (act (r 1 * r 1) (grid (h + 1) (w + 1) f) >>= rot90) = _ from hact (r 1) _]
    exact hact (r 1) _
  exact ⟨hact (r 1) (r 1), hact (r 1) (r 2), hfour, hact (sr 2) (sr 2), hact (sr 0) (sr 0), hact (sr 1) (sr 1),
    hact (sr 3) (sr 3), hact (sr 0) (r 2), hact (sr 0) (r 1), hact (sr 2) (r 1),
    fun as => foldlM_act as (by omega) (by omega)⟩

end PuzzlePrograms
