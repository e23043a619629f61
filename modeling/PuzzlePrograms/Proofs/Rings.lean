import PuzzlePrograms.Proofs.Patches

/-!
# Boxes around patches

The backdrop of a patch is the least rectangle around it, and its boxes are rings: the edge of that rectangle, of the
one a step inside and of the one a step outside. A rectangle is its edge and the rectangle a step inside, and the places
next to a rectangle are the ring a step outside.
-/

namespace PuzzlePrograms

open Value Dsl Patch
open List hiding transpose

variable {P : Patch} {a b c d : Int} {p q : Loc}

/-! ## 1. Rings -/

/-- The edge of a rectangle. -/
def ring (a b c d : Int) : Finset Loc := (rect a b c d).filter fun p => p.1 = a ∨ p.1 = b ∨ p.2 = c ∨ p.2 = d

theorem mem_ring :
    p ∈ ring a b c d ↔ ((a ≤ p.1 ∧ p.1 ≤ b) ∧ c ≤ p.2 ∧ p.2 ≤ d) ∧ (p.1 = a ∨ p.1 = b ∨ p.2 = c ∨ p.2 = d) := by
  rw [ring, Finset.mem_filter, mem_rect]

theorem ring_union_rect : ring a b c d ∪ rect (a + 1) (b - 1) (c + 1) (d - 1) = rect a b c d :=
  Finset.ext fun p => by
    rw [Finset.mem_union, mem_ring, mem_rect, mem_rect]
    omega

theorem disjoint_ring_rect : Disjoint (ring a b c d) (rect (a + 1) (b - 1) (c + 1) (d - 1)) :=
  Finset.disjoint_left.mpr fun p hp hp' => by
    rw [mem_ring] at hp
    rw [mem_rect] at hp'
    omega

theorem spans_ring (hab : a ≤ b) (hcd : c ≤ d) : Spans (bare (ring a b c d)).locs a b c d := by
  have hul : (a, c) ∈ ring a b c d := mem_ring.mpr ⟨⟨⟨le_rfl, hab⟩, le_rfl, hcd⟩, .inl rfl⟩
  have hlr : (b, d) ∈ ring a b c d := mem_ring.mpr ⟨⟨⟨hab, le_rfl⟩, hcd, le_rfl⟩, .inr (.inl rfl)⟩
  exact ⟨fun p hp => (mem_ring.mp hp).1, ⟨_, hul, rfl⟩, ⟨_, hlr, rfl⟩, ⟨_, hul, rfl⟩, ⟨_, hlr, rfl⟩⟩

theorem add_one_int : (int a).add 1 = .ok (.int (a + 1)) := rfl

theorem sub_one_int : (int a).sub 1 = .ok (.int (a - 1)) := rfl

theorem outline_int :
    outline (.int a) (.int c) (.int b) (.int d) = .ok (places (ring (min a b) (max a b) (min c d) (max c d))) := by
  set rows := intsFrom (min a b) (max a b + 1) with hrows
  set cols := intsFrom (min c d) (max c d + 1) with hcols
  have hlist : ((rows.map .int).map fun i => tuple [i, .int (min c d)]) ++ ((rows.map .int).map fun i =>
      .tuple [i, .int (max c d)]) ++ ((cols.map .int).map fun j => .tuple [.int (min a b), j]) ++
      ((cols.map .int).map fun j => .tuple [.int (max a b), j]) = ((rows.map fun i => (i, min c d)) ++
        (rows.map fun i => (i, max c d)) ++ (cols.map fun j => (min a b, j)) ++
          (cols.map fun j => (max a b, j))).map place := by
    simp only [map_append, List.map_map]
    rfl
  refine bind_eq smaller_int (bind_eq smaller_int (bind_eq larger_int (bind_eq larger_int
    (bind_eq add_one_int (bind_eq span_int (bind_eq add_one_int (bind_eq span_int ?_)))))))
  rw [hlist, coding_place.fsetOf_map, places]
  refine congrArg (fun S => Except.ok (fset (listed place S))) (Finset.ext fun p => ?_)
  simp only [mem_toFinset, mem_append, mem_map, hrows, hcols, mem_intsFrom, mem_ring, Prod.ext_iff]
  constructor
  · rintro (((⟨i, hi, h1, h2⟩ | ⟨i, hi, h1, h2⟩) | ⟨j, hj, h1, h2⟩) | ⟨j, hj, h1, h2⟩) <;> omega
  · rintro ⟨⟨hi, hj⟩, h | h | h | h⟩
    · exact .inl (.inr ⟨p.2, by omega, h.symm, rfl⟩)
    · exact .inr ⟨p.2, by omega, h.symm, rfl⟩
    · exact .inl (.inl (.inl ⟨p.1, by omega, rfl, h.symm⟩))
    · exact .inl (.inl (.inr ⟨p.1, by omega, rfl, h.symm⟩))

/-! ## 2. Boxes -/

namespace Spans

variable (h : Spans P.locs a b c d)
include h

theorem le : a ≤ b ∧ c ≤ d := by
  obtain ⟨p, hp⟩ := h.nonempty
  have := h.inside p hp
  omega

theorem backdrop : backdrop P.value = .ok (places (rect a b c d)) := by
  obtain ⟨n, hn, hpos, -⟩ := h.size_pos
  have hbare : Spans (bare P.locs).locs a b c d := h
  have hlist :
    ((intsFrom a (b + 1)).map int).flatMap (fun i => ((intsFrom c (d + 1)).map .int).map fun j => .tuple [i, j]) =
      ((intsFrom a (b + 1)).flatMap fun i => (intsFrom c (d + 1)).map fun j => (i, j)).map place := by
    simp only [flatMap_map, map_flatMap, List.map_map]
    rfl
  refine bind_eq hn ?_
  rw [hpos]
  refine bind_eq P.toindices_value (bind_eq hbare.ulcorner (bind_eq rfl (bind_eq h.lrcorner
    (bind_eq rfl (bind_eq add_one_int (bind_eq span_int ?_))))))
  have hrows : ((intsFrom a (b + 1)).map int).isEmpty = false := by
    have ha : a ∈ intsFrom a (b + 1) := mem_intsFrom.mpr ⟨le_rfl, by have := h.le; omega⟩
    simpa using ne_nil_of_mem ha
  rw [hrows]
  refine bind_eq add_one_int (bind_eq span_int ?_)
  rw [hlist, coding_place.fsetOf_map, places]
  refine congrArg (fun S => Except.ok (fset (listed place S))) (Finset.ext fun p => ?_)
  simp only [mem_toFinset, mem_flatMap, mem_map, rect, Finset.mem_product]
  exact ⟨by rintro ⟨i, hi, j, hj, rfl⟩; exact ⟨hi, hj⟩, fun hp => ⟨p.1, hp.1, p.2, hp.2, rfl⟩⟩

theorem box : box P.value = .ok (places (ring a b c d)) := by
  obtain ⟨n, hn, hpos, -⟩ := h.size_pos
  have hle := h.le
  refine bind_eq hn ?_
  rw [hpos]
  refine bind_eq h.ulcorner (bind_eq rfl (bind_eq h.lrcorner (bind_eq rfl
    (outline_int.trans ?_))))
  rw [min_eq_left hle.1, max_eq_right hle.1, min_eq_left hle.2, max_eq_right hle.2]

theorem outbox : outbox P.value = .ok (places (ring (a - 1) (b + 1) (c - 1) (d + 1))) := by
  have hle := h.le
  refine bind_eq h.uppermost (bind_eq sub_one_int (bind_eq h.leftmost (bind_eq sub_one_int
    (bind_eq h.lowermost (bind_eq add_one_int (bind_eq h.rightmost (bind_eq add_one_int
      (outline_int.trans ?_))))))))
  rw [min_eq_left (by omega), max_eq_right (by omega), min_eq_left (by omega), max_eq_right (by omega)]

theorem inbox (hab : a + 1 ≤ b - 1) (hcd : c + 1 ≤ d - 1) :
    inbox P.value = .ok (places (ring (a + 1) (b - 1) (c + 1) (d - 1))) := by
  refine bind_eq h.uppermost (bind_eq add_one_int (bind_eq h.leftmost (bind_eq add_one_int
    (bind_eq h.lowermost (bind_eq sub_one_int (bind_eq h.rightmost (bind_eq sub_one_int
      (outline_int.trans ?_))))))))
  rw [min_eq_left hab, max_eq_right hab, min_eq_left hcd, max_eq_right hcd]

end Spans

/-! ## 3. The places next to a set of places -/

/-- The eight places around a place. -/
def nextTo (p : Loc) : Finset Loc :=
  [(p.1 - 1, p.2), (p.1 + 1, p.2), (p.1, p.2 - 1), (p.1, p.2 + 1)].toFinset ∪
    [(p.1 - 1, p.2 - 1), (p.1 - 1, p.2 + 1), (p.1 + 1, p.2 - 1), (p.1 + 1, p.2 + 1)].toFinset

theorem mem_nextTo :
    q ∈ nextTo p ↔ ((p.1 - 1 ≤ q.1 ∧ q.1 ≤ p.1 + 1) ∧ p.2 - 1 ≤ q.2 ∧ q.2 ≤ p.2 + 1) ∧ (q.1 ≠ p.1 ∨ q.2 ≠ p.2) := by
  simp only [nextTo, Finset.mem_union, mem_toFinset, mem_cons, not_mem_nil, or_false, Prod.ext_iff]
  omega

theorem neighbors_place (p : Loc) : neighbors (place p) = .ok (places (nextTo p)) := by
  have hdirect :
    dneighbors (place p) = fsetOf ([(p.1 - 1, p.2), (p.1 + 1, p.2), (p.1, p.2 - 1), (p.1, p.2 + 1)].map place) := rfl
  have hoblique : ineighbors (place p) =
      fsetOf ([(p.1 - 1, p.2 - 1), (p.1 - 1, p.2 + 1), (p.1 + 1, p.2 - 1), (p.1 + 1, p.2 + 1)].map place) := rfl
  rw [coding_place.fsetOf_map] at hdirect hoblique
  exact bind_eq hdirect (bind_eq hoblique (congrArg (Except.ok ∘ fset) coding_place.union_listed))

section Gathering

variable {α β : Type} {code : α → Value} {d : β → Value} {m : α → β} {l : List α}

theorem foldlM_collects {step : List Value → Value → Eval (List Value)}
    (hstep : ∀ a acc, step acc (code a) = pure (d (m a) :: acc)) (acc : List Value) :
    (l.map code).foldlM step acc = pure (((l.map m).map d).reverse ++ acc) := by
  induction l generalizing acc with
  | nil => rfl
  | cons a l ih =>
    rw [map_cons, foldlM_cons, hstep, pure_bind, ih]
    simp

/-- What a function gives for the elements, gathered in a container. -/
theorem gather_built {k : Kind} {v : Value} {f : Value → Eval (Option Value)}
    (hf : ∀ a, f (code a) = pure (some (d (m a)))) (hadmits : ∀ a, k.admits (d (m a)) = .ok (d (m a)))
    (hbuild : k.build ((l.map m).map d) = .ok v) : gather k f (l.map code) = pure v := by
  unfold gather
  rw [foldlM_collects (d := d) (m := m) fun a acc => ?_, pure_bind, append_nil, reverse_reverse, hbuild]
  · rfl
  · rw [hf]
    show (do return (← (k.admits (d (m a)) : Eval Value)) :: acc) = _
    rw [hadmits]
    rfl

theorem Coding.admits_fset (c : Coding code) (a : α) : Kind.fset.admits (code a) = .ok (code a) :=
  if_pos (c.plain a).isHashable

/-- Merging a set of sets is their union. -/
theorem Coding.merge_fset [DecidableEq α] (c : Coding code) (Ts : Finset (Finset α)) :
    merge (.fset (listed (fun S => fset (listed code S)) Ts)) = .ok (.fset (listed code (Ts.biUnion id))) := by
  obtain ⟨l, -, hl, heq⟩ := c.set.exists_list Ts
  choose members _ hmembers hlisted using c.exists_list
  have hparts : (l.map fun S => fset (listed code S)).mapM elements = .ok (l.map fun S => (members S).map code) :=
    mapM_map_ok fun S _ => congrArg Except.ok (hlisted S)
  have hunion : (l.flatMap members).toFinset = Ts.biUnion id := Finset.ext fun a => by simp [hl, hmembers]
  refine bind_eq (congrArg Except.ok heq) (bind_eq hparts ?_)
  rw [← hunion, ← c.fsetOf_map, map_flatMap, flatMap_def]
  rfl

end Gathering

/-- The neighbours of all places of a set, merged. -/
theorem mapply_neighbors (n : Nat) (S : Finset Loc) :
    mapply (Recipe.call (n + 1)) (.prim .neighbors) (places S) = pure (places (S.biUnion nextTo)) := by
  obtain ⟨ps, -, hps, heq⟩ := coding_place.exists_list S
  have hcall : ∀ p, (do return some (← Recipe.call (n + 1) (.prim .neighbors) [place p])) =
      (pure (some (places (nextTo p))) : Eval (Option Value)) := fun p => by
    have hrun : Recipe.call (n + 1) (.prim .neighbors) [place p] = (neighbors (place p) : Eval Value) := rfl
    rw [hrun, neighbors_place]
    rfl
  have happly : apply (Recipe.call (n + 1)) (.prim .neighbors) (places S) =
      pure (.fset (listed places (ps.map nextTo).toFinset)) := by
    rw [places, heq]
    exact gather_built hcall (fun p => coding_place.set.admits_fset (nextTo p)) coding_place.set.fsetOf_map
  have hunion : (ps.map nextTo).toFinset.biUnion id = S.biUnion nextTo := Finset.ext fun p => by simp [hps]
  rw [mapply, happly, pure_bind, ← hunion]
  exact congrArg liftM (coding_place.merge_fset _)

/-- The places next to a rectangle are the ring a step outside. -/
theorem nextTo_rect (hab : a ≤ b) (hcd : c ≤ d) :
    (rect a b c d).biUnion nextTo \ rect a b c d = ring (a - 1) (b + 1) (c - 1) (d + 1) := by
  refine Finset.ext fun p => ?_
  simp only [Finset.mem_sdiff, Finset.mem_biUnion, mem_rect, mem_nextTo, mem_ring]
  constructor
  · rintro ⟨⟨q, hq, hp⟩, hout⟩
    omega
  · intro hp
    -- the place of the rectangle that is nearest
    exact ⟨⟨(max a (min b p.1), max c (min d p.2)), by simp only; omega, by simp only; omega⟩, by omega⟩

/-- **Boxes are concentric rings**: the outer box of a patch is what lies next to its backdrop, its inner box is the
    edge of the backdrop, and with the backdrop it makes up its own; a backdrop of three rows and columns or more is its
    edge and the backdrop of the inner box. -/
theorem concentric_boxes (P : Patch) (hP : P.locs.Nonempty) : ∃ B O X : Finset Loc, backdrop P.value = .ok (places B) ∧
    outbox P.value = .ok (places O) ∧ box P.value = .ok (places X) ∧ (∀ n, ∃ N,
      mapply (Recipe.call (n + 1)) (.prim .neighbors) (places B) = pure N ∧ difference N (places B) = .ok (places O)) ∧
    inbox (places O) = .ok (places X) ∧ backdrop (places O) = .ok (places (B ∪ O)) ∧ Disjoint B O ∧ ∀ m n : Int,
    height P.value = .ok (.int m) → width P.value = .ok (.int n) → 3 ≤ m → 3 ≤ n → ∃ I J, inbox P.value =
    .ok (places I) ∧ backdrop (places I) = .ok (places J) ∧ B = X ∪ J ∧ Disjoint X J := by
  obtain ⟨a, b, c, d, h⟩ := exists_spans hP
  obtain ⟨hab, hcd⟩ := h.le
  have hout := spans_ring (show a - 1 ≤ b + 1 by omega) (show c - 1 ≤ d + 1 by omega)
  have hin := hout.inbox (by omega) (by omega)
  have hunion := ring_union_rect (a := a - 1) (b := b + 1) (c := c - 1) (d := d + 1)
  have hdisjoint := disjoint_ring_rect (a := a - 1) (b := b + 1) (c := c - 1) (d := d + 1)
  simp only [sub_add_cancel, add_sub_cancel_right] at hin hunion hdisjoint
  refine ⟨_, _, _, h.backdrop, h.outbox, h.box, fun n => ⟨_, mapply_neighbors n _, ?_⟩, hin, ?_, hdisjoint.symm, ?_⟩
  · rw [← nextTo_rect hab hcd]
    exact coding_place.difference_fset
  · rw [Finset.union_comm, hunion]
    exact hout.backdrop
  · intro m n hm hn hm3 hn3
    obtain rfl : b - a + 1 = m := by simpa [h.height] using hm
    obtain rfl : d - c + 1 = n := by simpa [h.width] using hn
    have hinner := spans_ring (show a + 1 ≤ b - 1 by omega) (show c + 1 ≤ d - 1 by omega)
    exact ⟨_, _, h.inbox (by omega) (by omega), hinner.backdrop, ring_union_rect.symm, disjoint_ring_rect⟩

/-- Two opposite corners of a rectangle of three rows and four columns. -/
theorem concentric_boxes_corners : ∃ B X I J, backdrop (bare {(0, 0), (2, 3)}).value = .ok (places B) ∧
    box (bare {(0, 0), (2, 3)}).value = .ok (places X) ∧ inbox (bare {(0, 0), (2, 3)}).value = .ok (places I) ∧
    backdrop (places I) = .ok (places J) ∧ B = X ∪ J ∧ Disjoint X J := by
  have hspans : Spans (bare {(0, 0), (2, 3)}).locs 0 2 0 3 := ⟨by decide, by decide, by decide, by decide, by decide⟩
  obtain ⟨B, O, X, hB, -, hX, -, -, -, -, hinner⟩ := concentric_boxes (bare {(0, 0), (2, 3)}) (by decide)
  obtain ⟨I, J, hI, hJ, hunion, hdisjoint⟩ := hinner _ _ hspans.height hspans.width (by decide) (by decide)
  exact ⟨B, X, I, J, hB, hX, hI, hJ, hunion, hdisjoint⟩

end PuzzlePrograms
