import PuzzlePrograms.Proofs.Shifts
import PuzzlePrograms.Proofs.Solving

/-!
# Rectangles and what a grid shows at some places

The places of a rectangle are those of a range of rows and a range of columns. A set of places together with the colours
that a grid shows there is a coloured patch.
-/

namespace PuzzlePrograms

open List Value Dsl

variable {h w : Nat} {f : Int → Int → Int} {S T : Finset Loc} {a b c d : Int} {v : Value}

/-! ## 1. Ranges -/

/-- The whole numbers from `a` to before `b`. -/
def intsFrom (a b : Int) : List Int := (range (b - a).toNat).map fun k : Nat => a + k

theorem mem_intsFrom {x : Int} : x ∈ intsFrom a b ↔ a ≤ x ∧ x < b := by
  simp only [intsFrom, mem_map, mem_range]
  exact ⟨by rintro ⟨k, hk, rfl⟩; omega, fun hx => ⟨(x - a).toNat, by omega, by omega⟩⟩

theorem rangeList_one : rangeList a b 1 = (intsFrom a b).map .int := by
  simp [rangeList, intsFrom, Int.fdiv_one, Function.comp_def]

theorem span_int : span (.int a) (.int b) = .ok ((intsFrom a b).map .int) := by
  rw [← rangeList_one]
  rfl

theorem rangeList_nat (n : Nat) : rangeList 0 n 1 = (range n).map fun k : Nat => .int k := by
  simp [rangeList, Int.fdiv_one]

theorem span_nat (n : Nat) : span 0 (.int n) = .ok ((range n).map fun k : Nat => .int k) :=
  congrArg Except.ok (rangeList_nat n)

theorem smaller_int : smaller (.int a) (.int b) = .ok (.int (min a b)) :=
  bind_eq (Recipe.related_lt_int b a) (congrArg Except.ok ite_min)

theorem larger_int : larger (.int a) (.int b) = .ok (.int (max a b)) :=
  bind_eq (Recipe.related_gt_int b a) (congrArg Except.ok ite_max)

/-- The places in the given rows and columns, bounds included. -/
def rect (a b c d : Int) : Finset Loc := (intsFrom a (b + 1)).toFinset ×ˢ (intsFrom c (d + 1)).toFinset

@[simp]
theorem mem_rect {p : Loc} : p ∈ rect a b c d ↔ (a ≤ p.1 ∧ p.1 ≤ b) ∧ c ≤ p.2 ∧ p.2 ≤ d := by
  simp only [rect, Finset.mem_product, mem_toFinset, mem_intsFrom]
  omega

/-! ## 2. What a grid shows at some places -/

theorem filterMapM_map_ok {α β γ : Type} {k : β → Answer (Option γ)} {l : α → β} {m : α → Option γ} {xs : List α}
    (hk : ∀ x ∈ xs, k (l x) = .ok (m x)) : (xs.map l).filterMapM k = .ok (xs.filterMap m) := by
  have hloop : ∀ acc, filterMapM.loop k (xs.map l) acc = .ok (acc.reverse ++ xs.filterMap m) := by
    induction xs with
    | nil => exact fun acc => by simp [filterMapM.loop, pure, Except.pure]
    | cons x xs ih =>
      intro acc
      rw [map_cons, filterMapM.loop, bind_ok (hk x (by simp))]
      cases hm : m x <;> exact (ih (fun y hy => hk y (by simp [hy])) _).trans (by simp [hm])
  exact hloop []

namespace Patch

variable {P : Patch} {O : Finset (Int × Loc)}

/-- What a grid shows at some places. -/
def shownAt (h w : Nat) (f : Int → Int → Int) (S : Finset Loc) : Finset (Int × Loc) :=
  (spots h w f).filter fun e => e.2 ∈ S

theorem mem_shownAt {x : Int} {p : Loc} : (x, p) ∈ shownAt h w f S ↔ (p ∈ cellSet h w ∧ f p.1 p.2 = x) ∧ p ∈ S := by
  rw [shownAt, Finset.mem_filter, mem_spots]

theorem toobject_value (hh : 1 ≤ h) : toobject P.value (grid h w f) = .ok (tinted (shownAt h w f P.locs)).value := by
  obtain ⟨ps, hps, hcoord⟩ := P.coordinates_value
  have hcells : ps.filterMap (fun p => if p ∈ cellSet h w then some (spot (f p.1 p.2, p)) else none) =
      ((ps.filter (· ∈ cellSet h w)).map fun p => (f p.1 p.2, p)).map spot := by
    rw [List.map_map, ← filterMap_eq_map, filterMap_filter]
    exact filterMap_congr fun p _ => by simp
  have hset : ((ps.filter (· ∈ cellSet h w)).map fun p => (f p.1 p.2, p)).toFinset = shownAt h w f P.locs := by
    ext ⟨x, p⟩
    simp only [mem_shownAt, mem_toFinset, mem_map, mem_filter, hps, Prod.mk.injEq, decide_eq_true_eq]
    grind
  have hlisted := coding_spot.fsetOf_map (l := (ps.filter (· ∈ cellSet h w)).map fun p => (f p.1 p.2, p))
  rw [← hcells, hset] at hlisted
  refine bind_eq (extent_grid hh) (bind_eq hcoord (bind_eq (filterMapM_map_ok fun p _ => ?_) hlisted))
  refine bind_eq (isInside_int p.1 p.2) ?_
  by_cases hp : p ∈ cellSet h w
  · rw [if_pos (by simpa using hp), if_pos hp]
    exact bind_ok (cellAt_grid hp)
  · rw [if_neg (by simpa using hp), if_neg hp]
    rfl

theorem palette_tinted : palette (tinted O).value = .ok (.fset (listed .int (O.image Prod.fst))) := by
  obtain ⟨l, -, hl, heq⟩ := coding_spot.exists_list O
  have hcolors : colors (tinted O).value = .ok ((l.map Prod.fst).map .int) := by
    rw [value, heq, List.map_map]
    exact mapM_map_ok fun _ _ => rfl
  have himage : (l.map Prod.fst).toFinset = O.image Prod.fst := Finset.ext fun x => by simp [hl]
  exact bind_eq hcolors (coding_int.fsetOf_map.trans (by rw [himage]))

theorem numcolors_tinted : numcolors (tinted O).value = .ok (.int (O.image Prod.fst).card) := by
  refine bind_eq palette_tinted (bind_eq rfl ?_)
  rw [coding_int.length_listed]
  rfl

end Patch

end PuzzlePrograms
