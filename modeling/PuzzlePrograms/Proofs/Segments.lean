import PuzzlePrograms.Proofs.Patches

/-!
# Segments

Two places in one row, in one column or on one diagonal are joined by the places between them. A line is drawn from its
upper end down, or from left to right, so it is the segment from one of its ends; and a segment is the same from both.
-/

namespace PuzzlePrograms

open List Value Dsl

variable {a b p q s t : Loc} {x y : Int} {n : Nat}

/-! ## 1. Segments -/

/-- The places that are passed in `n` steps from `p`. -/
def segment (p s : Loc) (n : Nat) : Finset Loc :=
  ((range (n + 1)).map fun k : Nat => (p.1 + k * s.1, p.2 + k * s.2)).toFinset

theorem mem_segment : q ∈ segment p s n ↔ ∃ k : Nat, k ≤ n ∧ p.1 + k * s.1 = q.1 ∧ p.2 + k * s.2 = q.2 := by
  simp only [segment, mem_toFinset, mem_map, mem_range, Nat.lt_succ_iff, Prod.ext_iff]

/-- The segment from its other end. -/
theorem segment_reverse : segment (p.1 + n * s.1, p.2 + n * s.2) (-s) n = segment p s n := by
  have hback : ∀ p s : Loc, segment (p.1 + n * s.1, p.2 + n * s.2) (-s) n ⊆ segment p s n := by
    intro p s q hq
    obtain ⟨k, hk, h1, h2⟩ := mem_segment.mp hq
    simp only [Prod.fst_neg, Prod.snd_neg] at h1 h2
    refine mem_segment.mpr ⟨n - k, n.sub_le k, ?_, ?_⟩
    · rw [← h1, Nat.cast_sub hk]
      ring
    · rw [← h2, Nat.cast_sub hk]
      ring
  refine (hback p s).antisymm ?_
  simpa using hback (p.1 + n * s.1, p.2 + n * s.2) (-s)

theorem segment_eq (h : p.1 = a.1 ∧ p.2 = a.2 ∧ (n = 0 ∨ s.1 = t.1 ∧ s.2 = t.2) ∨
    p.1 = a.1 + n * t.1 ∧ p.2 = a.2 + n * t.2 ∧ s.1 = -t.1 ∧ s.2 = -t.2) :
    (.ok (places (segment p s n)) : Answer Value) = .ok (places (segment a t n)) := by
  congr 2
  obtain ⟨h1, h2, rfl | ⟨h3, h4⟩⟩ | ⟨h1, h2, h3, h4⟩ := h
  · simp [segment, h1, h2]
  · rw [Prod.ext h1 h2, Prod.ext h3 h4]
  · rw [← segment_reverse (p := a), ← show s = -t from Prod.ext h3 h4, ← h1, ← h2]

/-! ## 2. Lines -/

theorem fsetOf_segment (p s : Loc) (n : Nat) :
    fsetOf ((range (n + 1)).map fun k : Nat => place (p.1 + k * s.1, p.2 + k * s.2)) =
    .ok (places (segment p s n)) := by
  rw [places, segment, ← coding_place.fsetOf_map, map_map]
  rfl

theorem span_ends : span (.int (min x y)) (.int (max x y + 1)) =
    .ok ((range ((y - x).natAbs + 1)).map fun k : Nat => .int (min x y + k)) := by
  rw [span_int, intsFrom, show (max x y + 1 - min x y).toNat = (y - x).natAbs + 1 by omega, map_map]
  rfl

theorem connect_drawn : connect (place a) (place b) =
    if a.1 = b.1 then .ok (places (segment (a.1, min a.2 b.2) (0, 1) (b.2 - a.2).natAbs))
    else if a.2 = b.2 then .ok (places (segment (min a.1 b.1, a.2) (1, 0) (b.1 - a.1).natAbs))
    else if b.1 - a.1 = b.2 - a.2 then .ok (places (segment (min a.1 b.1, min a.2 b.2) (1, 1) (b.1 - a.1).natAbs))
    else if b.1 - a.1 = a.2 - b.2 then .ok (places (segment (min a.1 b.1, max a.2 b.2) (1, -1) (b.1 - a.1).natAbs))
    else .ok (places ∅) := by
  refine bind_eq rfl (bind_eq rfl (bind_eq smaller_int (bind_eq larger_int
    (bind_eq rfl (bind_eq smaller_int (bind_eq larger_int (bind_eq rfl ?_)))))))
  simp only [coding_int.beq_code, decide_eq_true_iff]
  split
  · refine bind_eq span_ends ?_
    rw [← fsetOf_segment, List.map_map]
    simp [Function.comp_def, place, Value.pair]
  split
  · refine bind_eq span_ends ?_
    rw [← fsetOf_segment, List.map_map]
    simp [Function.comp_def, place, Value.pair]
  refine bind_eq rfl (bind_eq rfl ?_)
  simp only [coding_int.beq_code, decide_eq_true_iff]
  split
  · rename_i hd
    refine bind_eq span_ends (bind_eq span_ends ?_)
    rw [← hd, ← fsetOf_segment, zipWith_map, zipWith_self]
    simp [place, Value.pair]
  refine bind_eq rfl (bind_eq rfl ?_)
  simp only [coding_int.beq_code, decide_eq_true_iff]
  split
  · rename_i hd
    refine bind_eq span_ends (bind_eq span_ends ?_)
    rw [show (b.2 - a.2).natAbs = (b.1 - a.1).natAbs by omega, ← fsetOf_segment, range_reverse_map, zipWith_map,
      zipWith_self]
    refine congrArg fsetOf (map_congr_left fun k hk => ?_)
    have := mem_range.mp hk
    simp only [place, Value.pair, mul_one, mul_neg]
    congr 4
    omega
  rw [places, listed, Finset.toList_empty]
  rfl

/-- Two places in one row, in one column or on one diagonal. -/
def Aligned (a b : Loc) : Prop := a.1 = b.1 ∨ a.2 = b.2 ∨ (b.1 - a.1).natAbs = (b.2 - a.2).natAbs

instance : Decidable (Aligned a b) := inferInstanceAs (Decidable (_ ∨ _ ∨ _))

/-- The segment from `a` to `b`, in steps to the next row and column on the way. -/
def between (a b : Loc) : Finset Loc :=
  segment a ((b.1 - a.1).sign, (b.2 - a.2).sign) (max (b.1 - a.1).natAbs (b.2 - a.2).natAbs)

theorem sign_cases (z : Int) : z.sign = -1 ∧ z < 0 ∨ z.sign = 0 ∧ z = 0 ∨ z.sign = 1 ∧ 0 < z := by
  rcases lt_trichotomy z 0 with h | h | h
  · exact .inl ⟨Int.sign_eq_neg_one_of_neg h, h⟩
  · exact .inr (.inl ⟨by simp [h], h⟩)
  · exact .inr (.inr ⟨Int.sign_eq_one_of_pos h, h⟩)

theorem connect_aligned (h : Aligned a b) : connect (place a) (place b) = .ok (places (between a b)) := by
  rw [connect_drawn, between]
  unfold Aligned at h
  split_ifs with h1 h2 h3 h4
  · rw [show b.1 - a.1 = 0 by omega, Int.sign_zero, Int.natAbs_zero, Nat.zero_max]
    refine segment_eq ?_
    rcases sign_cases (b.2 - a.2) with ⟨hs, hlt⟩ | ⟨hs, hlt⟩ | ⟨hs, hlt⟩ <;> simp [hs, -Nat.cast_natAbs] <;> omega
  · rw [show b.2 - a.2 = 0 by omega, Int.sign_zero, Int.natAbs_zero, Nat.max_zero]
    refine segment_eq ?_
    rcases sign_cases (b.1 - a.1) with ⟨hs, hlt⟩ | ⟨hs, hlt⟩ | ⟨hs, hlt⟩ <;> simp [hs, -Nat.cast_natAbs] <;> omega
  · rw [← h3, max_self]
    refine segment_eq ?_
    rcases sign_cases (b.1 - a.1) with ⟨hs, hlt⟩ | ⟨hs, hlt⟩ | ⟨hs, hlt⟩ <;> simp [hs, -Nat.cast_natAbs] <;> omega
  · rw [show b.2 - a.2 = -(b.1 - a.1) by omega, Int.natAbs_neg, max_self, Int.sign_neg]
    refine segment_eq ?_
    rcases sign_cases (b.1 - a.1) with ⟨hs, hlt⟩ | ⟨hs, hlt⟩ | ⟨hs, hlt⟩ <;> simp [hs, -Nat.cast_natAbs] <;> omega
  · omega

theorem connect_column (h : x ≤ y) (j : Int) : connect (place (x, j)) (place (y, j)) = .ok (places (rect x y j j)) := by
  have hset : segment (x, j) (1, 0) (y - x).natAbs = rect x y j j := Finset.ext fun q => by
    rw [mem_segment, mem_rect]
    simp only [mul_one, mul_zero, add_zero]
    exact ⟨fun ⟨k, hk, h1, h2⟩ => by omega, fun hq => ⟨(q.1 - x).toNat, by omega⟩⟩
  rw [connect_drawn, ← hset, min_eq_left h, if_pos (c := j = j) rfl]
  split_ifs with heq
  · obtain rfl : x = y := heq
    simp [segment]
  · rfl

theorem connect_comm : connect (place a) (place b) = connect (place b) (place a) := by
  have habs : ∀ x y : Int, (x - y).natAbs = (y - x).natAbs := fun x y => by omega
  rw [connect_drawn, connect_drawn, min_comm b.1, min_comm b.2, max_comm b.2, habs a.1, habs a.2]
  by_cases h1 : a.1 = b.1
  · rw [if_pos h1, if_pos h1.symm, h1]
  by_cases h2 : a.2 = b.2
  · rw [if_neg h1, if_pos h2, if_neg (Ne.symm h1), if_pos h2.symm, h2]
  split_ifs <;> first | rfl | omega

theorem shoot_place {d : Loc} (hd : d.1 ∈ [-1, 0, 1] ∧ d.2 ∈ [-1, 0, 1]) :
    shoot (place s) (place d) = .ok (places (segment s d 42)) := by
  have hrun : shoot (place s) (place d) = connect (place s) (place (s.1 + 42 * d.1, s.2 + 42 * d.2)) := rfl
  simp only [mem_cons, not_mem_nil, or_false] at hd
  have hsign : ∀ {x y : Int}, y = -1 ∨ y = 0 ∨ y = 1 → (x + 42 * y - x).sign = y := by
    rintro x y (rfl | rfl | rfl) <;> simp
  rw [hrun, connect_aligned (by unfold Aligned; omega), between, hsign hd.1, hsign hd.2]
  by_cases h0 : d = 0
  · subst h0
    refine congrArg (fun S => Except.ok (places S)) (Finset.ext fun q => ?_)
    simp only [mem_segment, Prod.fst_zero, Prod.snd_zero, mul_zero, add_zero]
    exact ⟨fun ⟨_, _, h⟩ => ⟨0, Nat.zero_le _, h⟩, fun ⟨_, _, h⟩ => ⟨0, Nat.zero_le _, h⟩⟩
  · rw [show max _ _ = 42 by rw [Prod.ext_iff] at h0; simp at h0 ⊢; omega]

/-- **A line is the segment between its ends**: two places in one row, in one column or on one diagonal are connected by
    the segment from one to the other, in any order, and other places by nothing; a shot goes 42 steps in its
    direction. -/
theorem connect_draws_segment (a b s d : Loc) (hd : d.1 ∈ [-1, 0, 1] ∧ d.2 ∈ [-1, 0, 1]) :
    connect (place a) (place b) = .ok (places (if Aligned a b then between a b else ∅)) ∧ connect (place a) (place b) =
    connect (place b) (place a) ∧ shoot (place s) (place d) = .ok (places (segment s d 42)) := by
  refine ⟨?_, connect_comm, shoot_place hd⟩
  split_ifs with h
  · exact connect_aligned h
  · unfold Aligned at h
    rw [connect_drawn, if_neg (by omega), if_neg (by omega), if_neg (by omega), if_neg (by omega)]

/-- A line up and to the right, two places that no line connects, and a shot down and to the left. -/
theorem connect_draws_segment_diagonal :
    connect (place (3, 1)) (place (1, 3)) = .ok (places {(3, 1), (2, 2), (1, 3)}) ∧ connect (place (0, 0))
    (place (1, 2)) = .ok (places ∅) ∧ shoot (place (0, 0)) (place (1, -1)) = .ok (places (segment (0, 0) (1, -1) 42)) :=
  ⟨(connect_draws_segment (3, 1) (1, 3) 0 0 (by decide)).1.trans (congrArg (fun S => Except.ok (places S)) (by decide)),
    (connect_draws_segment (0, 0) (1, 2) (0, 0) (1, -1) (by decide)).1,
      (connect_draws_segment 0 0 (0, 0) (1, -1) (by decide)).2.2⟩

end PuzzlePrograms
