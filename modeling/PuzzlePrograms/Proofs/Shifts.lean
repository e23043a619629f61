import PuzzlePrograms.Proofs.Painting

/-!
# Where patches lie

A `Patch` is a set of places, or of coloured places. Moving every place of a patch moves the patch; the rows and columns
that it reaches are those of the least rectangle around its places (`Spans`), and its corners and its size are read off
there.
-/

namespace PuzzlePrograms

open Value Dsl Recipe Except
open List hiding transpose

/-! ## 1. Patches -/

namespace Coding

variable {α β : Type} {code : α → Value} {code' : β → Value} {S : Finset α} (c : Coding code)
include c

theorem head_fset (hS : S.Nonempty) : ∃ a ∈ S, (Value.fset (listed code S)).head = .ok (code a) := by
  obtain ⟨l, -, hl, heq⟩ := c.exists_list S
  obtain ⟨a, l, rfl⟩ := exists_cons_of_ne_nil (ne_nil_of_mem ((hl _).mpr hS.choose_spec))
  exact ⟨a, (hl a).mp (by simp), by rw [heq]; rfl⟩

theorem fsetOf_mapM [DecidableEq β] (c' : Coding code') {m : α → β} {k : Value → Answer Value}
    (hk : ∀ a, k (code a) = .ok (code' (m a))) (S : Finset α) :
    ((listed code S).mapM k >>= fsetOf) = .ok (.fset (listed code' (S.image m))) := by
  obtain ⟨l, -, hl, heq⟩ := c.exists_list S
  have himage : (l.map m).toFinset = S.image m := Finset.ext fun b => by simp [hl]
  rw [heq, bind_ok (mapM_map_ok fun a _ => hk a), ← himage, ← c'.fsetOf_map, map_map]
  rfl

theorem size_fset : (Value.fset (listed code S)).size = .ok S.card := congrArg Except.ok (c.length_listed S)

end Coding

/-- A coloured place. -/
def spot (e : Int × Loc) : Value := .tuple [.int e.1, place e.2]

theorem coding_spot : Coding spot where
  plain e := .tuple (by simpa using ⟨.int _, coding_place.plain e.2⟩)
  injective e e' h := by
    obtain ⟨hc, hp⟩ : e.1 = e'.1 ∧ place e.2 = place e'.2 := by simpa [spot] using h
    exact Prod.ext hc (coding_place.injective hp)

/-- A set of places, or of coloured places. -/
inductive Patch where
  | bare (S : Finset Loc)
  | tinted (O : Finset (Int × Loc))

namespace Patch

noncomputable def value : Patch → Value
  | bare S => places S
  | tinted O => .fset (listed spot O)

def locs : Patch → Finset Loc
  | bare S => S
  | tinted O => O.image Prod.snd

def map (m : Loc → Loc) : Patch → Patch
  | bare S => bare (S.image m)
  | tinted O => tinted (O.image fun e => (e.1, m e.2))

variable {P : Patch} {m : Loc → Loc}

@[simp]
theorem locs_map : (P.map m).locs = P.locs.image m := by
  cases P with
  | bare S => rfl
  | tinted O => simp [map, locs, Finset.image_image, Function.comp_def]

theorem size_value : ∃ n, P.value.size = .ok n ∧ (n = 0 ↔ P.locs = ∅) := by
  cases P with
  | bare S => exact ⟨_, coding_place.size_fset, Finset.card_eq_zero⟩
  | tinted O => exact ⟨_, coding_spot.size_fset, by simp [locs]⟩

theorem isTuple_value (P : Patch) : P.value.isTuple = false := by cases P <;> rfl

def isTinted : Patch → Bool
  | bare _ => false
  | tinted _ => true

theorem isColored_value (hP : P.locs.Nonempty) : isColored P.value = .ok P.isTinted := by
  cases P with
  | bare S =>
    obtain ⟨p, -, hp⟩ := coding_place.head_fset hP
    exact bind_eq hp rfl
  | tinted O =>
    obtain ⟨e, -, he⟩ := coding_spot.head_fset (Finset.image_nonempty.mp hP)
    exact bind_eq he rfl

theorem toindices_value : toindices P.value = .ok (places P.locs) := by
  obtain ⟨n, hn, hempty⟩ := P.size_value
  refine bind_eq hn ?_
  rcases P.locs.eq_empty_or_nonempty with he | hP
  · rw [if_pos (by simpa using hempty.mpr he), he, places, listed, Finset.toList_empty]
    rfl
  · rw [if_neg (by simpa [hempty] using hP.ne_empty), bind_ok (isColored_value hP)]
    cases P with
    | bare S => rfl
    | tinted O => exact coding_spot.fsetOf_mapM coding_place (fun _ => rfl) O

theorem coordinates_value (P : Patch) : ∃ ps : List Loc, (∀ p, p ∈ ps ↔ p ∈ P.locs) ∧
    coordinates P.value = .ok (ps.map fun p => (.int p.1, .int p.2)) := by
  obtain ⟨ps, -, hps, heq⟩ := coding_place.exists_list P.locs
  exact ⟨ps, hps, bind_eq P.toindices_value (bind_eq (congrArg Except.ok heq) (mapM_map_ok fun _ _ => rfl))⟩

theorem mapPlaces_value {f : Value → Value → Answer (Value × Value)} (hP : P.locs.Nonempty)
    (hf : ∀ p : Loc, f (.int p.1) (.int p.2) = .ok (.int (m p).1, .int (m p).2)) :
    mapPlaces f P.value = .ok (P.map m).value := by
  have hc := isColored_value hP
  cases P with
  | bare S =>
    refine bind_eq rfl (bind_eq hc ?_)
    exact coding_place.fsetOf_mapM coding_place (fun p => bind_eq rfl (bind_ok (hf p))) S
  | tinted O =>
    refine bind_eq rfl (bind_eq hc ?_)
    exact coding_spot.fsetOf_mapM coding_spot (fun e => bind_eq rfl (bind_ok (hf e.2))) O

theorem map_map {m' : Loc → Loc} : (P.map m).map m' = P.map (m' ∘ m) := by
  cases P <;> simp [map, Finset.image_image, Function.comp_def]

theorem map_empty (hP : P.locs = ∅) : P.map m = P := by
  cases P with
  | bare | tinted => simp_all [map, locs]

/-- The patch with every place moved by the same offset. -/
def moved (P : Patch) (d : Loc) : Patch := P.map (· + d)

theorem moved_zero : P.moved 0 = P := by cases P <;> simp [moved, map]

theorem moved_moved (d d' : Loc) : (P.moved d).moved d' = P.moved (d + d') := by
  simp only [moved, map_map, Function.comp_def, add_assoc]

theorem mem_moved {d q : Loc} : q ∈ (P.moved d).locs ↔ q - d ∈ P.locs := by
  simp only [moved, locs_map, Finset.mem_image, ← eq_sub_iff_add_eq, exists_eq_right]

theorem nonempty_moved {d : Loc} : (P.moved d).locs.Nonempty ↔ P.locs.Nonempty := by
  rw [moved, locs_map, Finset.image_nonempty]

theorem shift_value (d : Loc) : shift P.value (place d) = .ok (P.moved d).value := by
  obtain ⟨n, hn, hempty⟩ := P.size_value
  refine bind_eq hn ?_
  rcases P.locs.eq_empty_or_nonempty with he | hP
  · rw [if_pos (by simpa using hempty.mpr he), moved, map_empty he]
    rfl
  · rw [if_neg (by simpa [hempty] using hP.ne_empty)]
    exact bind_eq rfl (mapPlaces_value hP fun _ => rfl)

/-! ## 2. The coloured places of a grid -/

variable {h w : Nat} {f : Int → Int → Int}

/-- The coloured places of a grid. -/
def spots (h w : Nat) (f : Int → Int → Int) : Finset (Int × Loc) := (cellSet h w).image fun p => (f p.1 p.2, p)

theorem mem_spots {c : Int} {p : Loc} : (c, p) ∈ spots h w f ↔ p ∈ cellSet h w ∧ f p.1 p.2 = c := by
  rw [spots, Finset.mem_image]
  constructor
  · rintro ⟨q, hq, heq⟩
    obtain ⟨rfl, rfl⟩ := Prod.mk.inj heq
    exact ⟨hq, rfl⟩
  · rintro ⟨hp, rfl⟩
    exact ⟨p, hp, rfl⟩

theorem asobject_grid : asobject (grid h w f) = .ok (tinted (spots h w f)).value := by
  refine bind_eq cells_grid ?_
  have hset : ((cellList h w).map fun p => (f p.1 p.2, p)).toFinset = spots h w f := Finset.ext fun e => by simp [spots]
  rw [List.map_map, value, ← hset, ← coding_spot.fsetOf_map, List.map_map]
  rfl

/-- Coloured places with one colour for each place are painted as if all at once. -/
theorem write_spots {g : Int → Int → Int} {only : Value → Answer (Option Value)} {o : Option Int} {l : List (Int × Loc)}
    (hh : 1 ≤ h) (honly : only (grid h w f) = .ok (o.map .int)) (hl : ∀ e ∈ l, g e.2.1 e.2.2 = e.1) :
    write (grid h w f) only (.ok (l.map spot)) Value.cell =
      .ok (grid h w (overlaid f ((l.filter fun e => o.all (f e.2.1 e.2.2 = ·)).map .snd).toFinset g)) := by
  rw [write_grid (e := id) hh honly fun _ _ => rfl, List.map_id, foldl_stroke hl]

theorem paint_grid {g : Int → Int → Int} {O : Finset (Int × Loc)} (hh : 1 ≤ h) (hO : ∀ e ∈ O, g e.2.1 e.2.2 = e.1) :
    paint (grid h w f) (tinted O).value = .ok (grid h w (overlaid f (tinted O).locs g)) := by
  obtain ⟨l, -, hl, heq⟩ := coding_spot.exists_list O
  have hlocs : (l.map Prod.snd).toFinset = O.image Prod.snd := Finset.ext fun p => by simp [hl]
  have hvalue : (tinted O).value.elements = .ok (l.map spot) := congrArg Except.ok heq
  rw [paint, hvalue, write_spots (o := none) hh rfl fun e he => hO e ((hl e).mp he)]
  simp only [Option.all_none, filter_true, hlocs]
  rfl

end Patch

/-! ## 3. Extreme rows and columns -/

section Extremes

variable {α : Type} {r : Rel} {R : Int → Int → Prop} [DecidableRel R] {code : α → Value} {g : α → Int}
  {k : Value → Answer Value} (hr : ∀ a b, related r (.int a) (.int b) = .ok (decide (R a b)))
  (hR : ∀ a b, ¬R a b → ¬R b a → a = b)
include hr hR

/-- Going through numbers and keeping the better one ends with a number that none of them betters. -/
theorem foldlM_better (hk : ∀ a, k (code a) = .ok (.int (g a))) {l : List α} {x m : Int}
    (hx : ¬R x m) (hl : ∀ a ∈ l, ¬R (g a) m) (hm : x = m ∨ ∃ a ∈ l, g a = m) :
    (l.map code).foldlM (fun acc y => do
      let v ← k y
      return if ← related r v acc then v else acc) (.int x) = .ok (.int m) := by
  induction l generalizing x with
  | nil => exact congrArg (Except.ok ∘ Value.int) (by simpa using hm)
  | cons a l ih =>
    have hstep : (do
        let v ← k (code a)
        return if ← related r v (.int x) then v else .int x) = .ok (.int (if R (g a) x then g a else x)) := by
      refine bind_eq (hk a) (bind_eq (hr (g a) x) ?_)
      by_cases h : R (g a) x <;> simp [h, pure, Except.pure]
    rw [map_cons, foldlM_cons, bind_ok hstep]
    have ha := hl a (by simp)
    refine ih ?_ (fun b hb => hl b (by simp [hb])) ?_
    · split
      · exact ha
      · exact hx
    · rcases hm with rfl | ⟨b, hb, hbm⟩
      · simp [ha]
      · rcases mem_cons.mp hb with rfl | hb
        · subst hbm
          by_cases h : R (g b) x
          · simp [h]
          · simp [hR x (g b) hx h]
        · exact .inr ⟨b, hb, hbm⟩

theorem extreme_value {P : Patch} {g : Loc → Int} (hk : ∀ p, k (place p) = .ok (.int (g p))) {m : Int}
    (hl : ∀ p ∈ P.locs, ¬R (g p) m) (hm : ∃ p ∈ P.locs, g p = m) :
    (do extreme r k (← (← toindices P.value).elements)) = .ok (.int m) := by
  obtain ⟨ps, -, hps, heq⟩ := coding_place.exists_list P.locs
  refine bind_eq P.toindices_value (bind_eq (congrArg Except.ok heq) ?_)
  simp only [← hps] at hl hm
  cases ps with
  | nil => simp at hm
  | cons p ps =>
    refine bind_eq (hk p) (foldlM_better hr hR hk (hl p (by simp)) (fun q hq => hl q (by simp [hq])) ?_)
    simpa only [mem_cons, exists_eq_or_imp] using hm

theorem best_ints {g : Loc → Int} {ps : List Loc} {m : Int} (hl : ∀ p ∈ ps, ¬R (g p) m) (hm : ∃ p ∈ ps, g p = m) :
    best r (ps.map fun p => .int (g p)) = .ok (some (.int m)) := by
  cases ps with
  | nil => simp at hm
  | cons p ps =>
    exact bind_ok (foldlM_better hr hR (fun _ => rfl) (hl p (by simp)) (fun q hq => hl q (by simp [hq]))
      (by simpa only [mem_cons, exists_eq_or_imp] using hm))

end Extremes

theorem transpose_pairs {α : Type} (x y : Loc → α) (p : Loc) (ps : List Loc) :
    transpose ((p :: ps).map fun p => [x p, y p]) = [(p :: ps).map x, (p :: ps).map y] := by
  have hrows : ∀ l : List Loc, (l.map fun p => [x p, y p]).foldr (fun row cols => zipWith (· :: ·) row cols)
      (replicate 2 []) = [l.map x, l.map y] := fun l => by
    induction l with
    | nil => rfl
    | cons q l ih => rw [map_cons, foldr_cons, ih]; rfl
  have hlen : (ps.map fun p => [x p, y p]).foldl (fun m r => min m r.length) 2 = 2 :=
    foldl_min_length fun r hr => by
      obtain ⟨q, -, rfl⟩ := mem_map.mp hr
      rfl
  rw [map_cons, transpose]
  simp only [length_cons, length_nil, hlen, hrows]
  rfl

/-- The least rectangle around some places: rows `a` to `b` and columns `c` to `d`. -/
structure Spans (S : Finset Loc) (a b c d : Int) : Prop where
  inside : ∀ p ∈ S, (a ≤ p.1 ∧ p.1 ≤ b) ∧ c ≤ p.2 ∧ p.2 ≤ d
  top : ∃ p ∈ S, p.1 = a
  bottom : ∃ p ∈ S, p.1 = b
  left : ∃ p ∈ S, p.2 = c
  right : ∃ p ∈ S, p.2 = d

theorem exists_spans {S : Finset Loc} (hS : S.Nonempty) : ∃ a b c d, Spans S a b c d := by
  obtain ⟨t, ht, htop⟩ := S.exists_min_image Prod.fst hS
  obtain ⟨u, hu, hbot⟩ := S.exists_max_image Prod.fst hS
  obtain ⟨l, hl, hleft⟩ := S.exists_min_image Prod.snd hS
  obtain ⟨r, hr, hright⟩ := S.exists_max_image Prod.snd hS
  exact ⟨t.1, u.1, l.2, r.2, fun p hp => ⟨⟨htop p hp, hbot p hp⟩, hleft p hp, hright p hp⟩,
    ⟨t, ht, rfl⟩, ⟨u, hu, rfl⟩, ⟨l, hl, rfl⟩, ⟨r, hr, rfl⟩⟩

theorem spans_grid {h w : Nat} {f : Int → Int → Int} (hh : 1 ≤ h) (hw : 1 ≤ w) :
    Spans (Patch.tinted (Patch.spots h w f)).locs 0 (h - 1) 0 (w - 1) := by
  have hlocs : (Patch.tinted (Patch.spots h w f)).locs = cellSet h w := by
    simp [Patch.locs, Patch.spots, Finset.image_image, Function.comp_def]
  rw [hlocs]
  refine ⟨fun p hp => ?_, ⟨(0, 0), ?_⟩, ⟨(h - 1, 0), ?_⟩, ⟨(0, 0), ?_⟩, ⟨(0, w - 1), ?_⟩⟩
  · have := mem_cellSet.mp hp
    omega
  all_goals
    simp
    omega

namespace Spans

variable {S : Finset Loc} {a b c d : Int} {P : Patch}

theorem nonempty (h : Spans S a b c d) : S.Nonempty := h.top.imp fun _ => And.left

variable (h : Spans P.locs a b c d)
include h

theorem moved (x y : Int) : Spans (P.moved (x, y)).locs (a + x) (b + x) (c + y) (d + y) := by
  have hadd : ∀ p ∈ P.locs, p + (x, y) ∈ (P.moved (x, y)).locs := fun p hp => by simpa [Patch.mem_moved] using hp
  refine ⟨fun q hq => ?_, ?_, ?_, ?_, ?_⟩
  · have := h.inside _ (Patch.mem_moved.mp hq)
    simp only [Prod.fst_sub, Prod.snd_sub] at this
    omega
  · exact h.top.elim fun p hp => ⟨_, hadd p hp.1, by simp [hp.2]⟩
  · exact h.bottom.elim fun p hp => ⟨_, hadd p hp.1, by simp [hp.2]⟩
  · exact h.left.elim fun p hp => ⟨_, hadd p hp.1, by simp [hp.2]⟩
  · exact h.right.elim fun p hp => ⟨_, hadd p hp.1, by simp [hp.2]⟩

theorem swapped : Spans (P.map .swap).locs c d a b := by
  have hswap : ∀ p ∈ P.locs, p.swap ∈ (P.map .swap).locs := fun p hp => by
    rw [Patch.locs_map]
    exact Finset.mem_image_of_mem _ hp
  refine ⟨fun q hq => ?_, ?_, ?_, ?_, ?_⟩
  · obtain ⟨p, hp, rfl⟩ := Finset.mem_image.mp (Patch.locs_map ▸ hq)
    exact (h.inside p hp).symm
  · exact h.left.elim fun p hp => ⟨_, hswap p hp.1, hp.2⟩
  · exact h.right.elim fun p hp => ⟨_, hswap p hp.1, hp.2⟩
  · exact h.top.elim fun p hp => ⟨_, hswap p hp.1, hp.2⟩
  · exact h.bottom.elim fun p hp => ⟨_, hswap p hp.1, hp.2⟩

theorem uppermost : uppermost P.value = .ok (.int a) :=
  extreme_value (g := Prod.fst) Recipe.related_lt_int (by omega) (fun _ => rfl)
    (fun p hp => not_lt.mpr (h.inside p hp).1.1) h.top

theorem lowermost : lowermost P.value = .ok (.int b) :=
  extreme_value (g := Prod.fst) Recipe.related_gt_int (by omega) (fun _ => rfl)
    (fun p hp => not_lt.mpr (h.inside p hp).1.2) h.bottom

theorem leftmost : leftmost P.value = .ok (.int c) :=
  extreme_value (g := Prod.snd) Recipe.related_lt_int (by omega) (fun _ => rfl)
    (fun p hp => not_lt.mpr (h.inside p hp).2.1) h.left

theorem rightmost : rightmost P.value = .ok (.int d) :=
  extreme_value (g := Prod.snd) related_gt_int (by omega) (fun _ => rfl)
    (fun p hp => not_lt.mpr (h.inside p hp).2.2) h.right

theorem placeParts : ∃ ps : List Loc, (∀ p, p ∈ ps ↔ p ∈ P.locs) ∧
    placeParts P.value = .ok [ps.map fun p => .int p.1, ps.map fun p => .int p.2] := by
  obtain ⟨ps, -, hps, heq⟩ := coding_place.exists_list P.locs
  obtain ⟨p, ps, rfl⟩ := exists_cons_of_ne_nil (ne_nil_of_mem ((hps _).mpr h.nonempty.choose_spec))
  have hrows : ((p :: ps).map place).mapM elements = .ok ((p :: ps).map fun p => [.int p.1, .int p.2]) :=
    mapM_map_ok fun _ _ => rfl
  refine ⟨p :: ps, hps, bind_eq P.toindices_value (bind_eq (congrArg ok heq) (bind_eq hrows ?_))⟩
  exact congrArg ok (transpose_pairs (fun p => int p.1) (fun p => .int p.2) p ps)

theorem ulcorner : ulcorner P.value = .ok (place (a, c)) := by
  obtain ⟨ps, hps, hparts⟩ := h.placeParts
  have hrow : minOf (ps.map fun p => .int p.1) = .ok (.int a) := bind_ok (best_ints related_lt_int (by omega)
    (fun p hp => not_lt.mpr (h.inside p ((hps p).mp hp)).1.1) (by simpa only [hps] using h.top))
  have hcol : minOf (ps.map fun p => .int p.2) = .ok (.int c) := bind_ok (best_ints related_lt_int (by omega)
    (fun p hp => not_lt.mpr (h.inside p ((hps p).mp hp)).2.1) (by simpa only [hps] using h.left))
  refine bind_eq hparts ?_
  rw [mapM_cons, mapM_cons, mapM_nil, hrow, hcol]
  rfl

theorem lrcorner : lrcorner P.value = .ok (place (b, d)) := by
  obtain ⟨ps, hps, hparts⟩ := h.placeParts
  have hrow : maxOf (ps.map fun p => .int p.1) = .ok (.int b) := bind_ok (best_ints related_gt_int (by omega)
    (fun p hp => not_lt.mpr (h.inside p ((hps p).mp hp)).1.2) (by simpa only [hps] using h.bottom))
  have hcol : maxOf (ps.map fun p => .int p.2) = .ok (.int d) := bind_ok (best_ints related_gt_int (by omega)
    (fun p hp => not_lt.mpr (h.inside p ((hps p).mp hp)).2.2) (by simpa only [hps] using h.right))
  refine bind_eq hparts ?_
  rw [mapM_cons, mapM_cons, mapM_nil, hrow, hcol]
  rfl

theorem size_pos : ∃ n, P.value.size = .ok n ∧ (n == 0) = false ∧ P.value.isTuple = false := by
  obtain ⟨n, hn, hempty⟩ := P.size_value
  exact ⟨n, hn, by simpa [hempty] using h.nonempty.ne_empty, P.isTuple_value⟩

theorem height : height P.value = .ok (.int (b - a + 1)) := by
  obtain ⟨n, hn, hpos, hset⟩ := h.size_pos
  refine bind_eq hn ?_
  rw [hpos, hset]
  exact bind_eq h.lowermost (bind_eq h.uppermost rfl)

theorem width : width P.value = .ok (.int (d - c + 1)) := by
  obtain ⟨n, hn, hpos, hset⟩ := h.size_pos
  refine bind_eq hn ?_
  rw [hpos, hset]
  exact bind_eq h.rightmost (bind_eq h.leftmost rfl)

theorem center : center P.value = .ok (place (a + (b - a + 1).fdiv 2, c + (d - c + 1).fdiv 2)) :=
  bind_eq h.uppermost (bind_eq h.height (bind_eq rfl (bind_eq rfl (bind_eq h.leftmost (bind_eq h.width rfl)))))

theorem normalize : normalize P.value = .ok (P.moved (-a, -c)).value := by
  obtain ⟨n, hn, hpos, -⟩ := h.size_pos
  refine bind_eq hn ?_
  rw [hpos]
  exact bind_eq h.uppermost (bind_eq rfl (bind_eq h.leftmost (bind_eq rfl
    (P.shift_value (-a, -c)))))

end Spans

end PuzzlePrograms
