import PuzzlePrograms.Proofs.Painting

/-!
# The connected parts of a grid

`objects` floods a grid from each cell that no earlier object has taken. A flood goes on in rings: it takes the cells of
a ring that belong to the object and looks next at the cells around them that nothing has taken.

* `Plane`: a grid and what decides which of its cells belong together;
* `Plane.component`: the cells that a cell is joined to, over any number of cells;
* `Plane.Growing`: what stays true from ring to ring, so that a flood without a ring left has taken a component;
* **`objects_components`**: the objects of a grid are its components, in whatever order places and colours are met.
-/

namespace PuzzlePrograms

open List Value Dsl
open Relation (ReflTransGen)

/-- A cell as a value: its colour and its place. -/
def cellValue (f : Int → Int → Int) (p : Nat × Nat) : Value := .tuple [.int (f p.1 p.2), pair p.1 p.2]

noncomputable def objectValue (f : Int → Int → Int) (S : Finset (Nat × Nat)) : Value := .fset (listed (cellValue f) S)

theorem coding_cellValue (f : Int → Int → Int) : Coding (cellValue f) where
  plain p := .tuple (by simpa using ⟨.int _, coding_place.plain (p.1, p.2)⟩)
  injective p q h := by
    simp only [cellValue, Value.pair, Value.tuple.injEq, cons.injEq, Value.int.injEq, Int.natCast_inj] at h
    exact Prod.ext h.2.1.1 h.2.1.2.1

/-- An order that meets each of the colours of a list once. -/
def Arrangement.Faithful (arrange : Arrangement) : Prop :=
  ∀ cs : List Int, arrange (cs.map .int) ~ cs.dedup.map .int

/-- An order that meets each of the places that are given. -/
def Dsl.Flood.Tour.Faithful (tour : Flood.Tour) : Prop := ∀ taken ps, tour taken ps ~ ps

/-! ## 1. Cells that belong together -/

/-- A grid, the colour that belongs to no object, if there is one, whether the cells of an object have one colour, and
    whether cells that touch in a corner are next to each other. -/
structure Plane where
  height : Nat
  width : Nat
  color : Int → Int → Int
  background : Option Int
  univalued : Bool
  diagonal : Bool

namespace Plane

variable (g : Plane) {c : Int} {p q p₀ : Nat × Nat} {T S C : Finset (Nat × Nat)} {taken : Array Bool}
  {front ps : List (Nat × Nat)}
  {tour : Flood.Tour}

def cells : Finset (Nat × Nat) := Finset.range g.height ×ˢ Finset.range g.width

def vertices : Finset (Nat × Nat) := g.cells.filter fun p => some (g.color p.1 p.2) ≠ g.background

def Near (p q : Nat × Nat) : Prop :=
  let rows := ((p.1 : Int) - q.1).natAbs
  let columns := ((p.2 : Int) - q.2).natAbs
  if g.diagonal then max rows columns = 1 else rows + columns = 1

/-- Two cells of one object that are next to each other. -/
def Joined (p q : Nat × Nat) : Prop :=
  p ∈ g.vertices ∧ q ∈ g.vertices ∧ g.Near p q ∧ (g.univalued = true → g.color p.1 p.2 = g.color q.1 q.2)

open Classical in
/-- The cells that a cell is joined to, over any number of cells. -/
noncomputable def component (p : Nat × Nat) : Finset (Nat × Nat) := g.vertices.filter (ReflTransGen g.Joined p)

variable {g}

theorem Joined.symm (h : g.Joined p q) : g.Joined q p := by
  obtain ⟨hp, hq, hn, hc⟩ := h
  refine ⟨hq, hp, ?_, fun hu => (hc hu).symm⟩
  unfold Near at hn ⊢
  split at hn <;> simp_all <;> omega

theorem mem_component : q ∈ g.component p ↔ q ∈ g.vertices ∧ ReflTransGen g.Joined p q := by simp [component]

theorem self_mem_component (hp : p ∈ g.vertices) : p ∈ g.component p := mem_component.mpr ⟨hp, .refl⟩

theorem component_joined (hp : p ∈ g.component p₀) (h : g.Joined p q) : q ∈ g.component p₀ :=
  mem_component.mpr ⟨h.2.1, (mem_component.mp hp).2.tail h⟩

theorem reach_symm (h : ReflTransGen g.Joined p q) : ReflTransGen g.Joined q p := by
  induction h with
  | refl => exact .refl
  | tail _ h ih => exact .head h.symm ih

theorem component_eq (h : q ∈ g.component p) : g.component q = g.component p := by
  have hpq := (mem_component.mp h).2
  have hqp := reach_symm hpq
  ext r
  rw [mem_component, mem_component]
  exact and_congr_right fun _ => ⟨hpq.trans, hqp.trans⟩

/-- Whether a flood that started at a cell of colour `c` takes a cell. -/
def fits (g : Plane) (c : Int) (q : Nat × Nat) : Bool :=
  if g.univalued then c = g.color q.1 q.2 else some (g.color q.1 q.2) ≠ g.background

theorem color_component (hu : g.univalued = true) (h : ReflTransGen g.Joined p q) :
    g.color p.1 p.2 = g.color q.1 q.2 := by
  induction h with
  | refl => rfl
  | tail _ h ih => exact ih.trans (h.2.2.2 hu)

theorem fits_self (h : p₀ ∈ g.vertices) : g.fits (g.color p₀.1 p₀.2) p₀ = true := by
  have := (Finset.mem_filter.mp h).2
  simp [fits, this]

theorem fits_iff (hp₀ : p₀ ∈ g.vertices) (hp : p ∈ g.component p₀) (hq : q ∈ g.cells) (hn : g.Near p q) :
    g.fits (g.color p₀.1 p₀.2) q = true ↔ g.Joined p q := by
  obtain ⟨hpv, hreach⟩ := mem_component.mp hp
  have hbg := (Finset.mem_filter.mp hp₀).2
  unfold fits Joined
  cases hu : g.univalued with
  | true =>
    have hcolor := color_component hu hreach
    simp only [if_true, decide_eq_true_eq, hpv, hn, ← hcolor, true_and, forall_const, iff_and_self]
    exact fun h => Finset.mem_filter.mpr ⟨hq, h ▸ hbg⟩
  | false =>
    have hqv : q ∈ g.vertices ↔ some (g.color q.1 q.2) ≠ g.background := by simp [vertices, hq]
    simp [hpv, hn, hqv]

/-! ## 2. The state of a flood -/

variable (g) in
def flood : Flood where
  rows := ((List.range g.height).map fun i : Nat => (gridRow g.width (g.color i)).toArray).toArray
  height := g.height
  width := g.width
  background := g.background.elim .nothing .int
  univalued := g.univalued
  offsets := if g.diagonal then [(-1, 0), (1, 0), (0, -1), (0, 1)] ++ [(-1, -1), (-1, 1), (1, -1), (1, 1)]
    else [(-1, 0), (1, 0), (0, -1), (0, 1)]

theorem mem_cells : p ∈ g.cells ↔ p.1 < g.height ∧ p.2 < g.width := by simp [cells]

theorem color_flood (hp : p ∈ g.cells) : g.flood.color p.1 p.2 = .ok (.int (g.color p.1 p.2)) := by
  obtain ⟨h1, h2⟩ := mem_cells.mp hp
  simp [Flood.color, flood, gridRow, h1, h2]

theorem beq_background (a : Int) : (.int a == g.flood.background) = decide (some a = g.background) := by
  show (int a == g.background.elim .nothing .int) = _
  cases g.background with
  | none => rfl
  | some b => simp [coding_int.beq_code]

theorem mem_nearby : q ∈ g.flood.nearby p.1 p.2 ↔ q ∈ g.cells ∧ g.Near p q := by
  obtain ⟨i, j⟩ := p
  obtain ⟨a, b⟩ := q
  simp only [Flood.nearby, mem_filterMap, Near, mem_cells, Prod.exists, Option.ite_none_right_eq_some, Bool.and_eq_true,
    decide_eq_true_eq, Option.some.injEq, Prod.mk.injEq]
  simp only [flood]
  constructor
  · rintro ⟨di, dj, hmem, h⟩
    cases hd : g.diagonal <;> simp [hd] at hmem ⊢ <;> omega
  · rintro ⟨hc, hn⟩
    refine ⟨(a : Int) - i, (b : Int) - j, ?_, ?_⟩
    · have hi : (a : Int) - i = -1 ∨ (a : Int) - i = 0 ∨ (a : Int) - i = 1 := by split at hn <;> omega
      have hj : (b : Int) - j = -1 ∨ (b : Int) - j = 0 ∨ (b : Int) - j = 1 := by split at hn <;> omega
      cases hd : g.diagonal <;> rcases hi with hi | hi | hi <;> rcases hj with hj | hj | hj <;>
        simp [hd, hi, hj] at hn ⊢ <;> omega
    · omega

theorem number_inj (hp : p ∈ g.cells) (hq : q ∈ g.cells) : g.flood.number p = g.flood.number q ↔ p = q := by
  refine ⟨fun h => ?_, fun h => h ▸ rfl⟩
  have h : p.1 * g.width + p.2 = q.1 * g.width + q.2 := h
  have hp := (mem_cells.mp hp).2
  have hq := (mem_cells.mp hq).2
  rcases Nat.lt_trichotomy p.1 q.1 with hlt | heq | hlt
  · have := Nat.succ_mul p.1 g.width ▸ Nat.mul_le_mul_right g.width hlt
    omega
  · exact Prod.ext heq (by rw [heq] at h; omega)
  · have := Nat.succ_mul q.1 g.width ▸ Nat.mul_le_mul_right g.width hlt
    omega

/-- The array of the places taken says which they are. -/
def Marks (g : Plane) (taken : Array Bool) (T : Finset (Nat × Nat)) : Prop :=
  ∀ p ∈ g.cells, taken[g.flood.number p]? = some (decide (p ∈ T))

theorem Marks.insert (h : g.Marks taken T) (hp : p ∈ g.cells) :
    g.Marks (taken.setIfInBounds (g.flood.number p) true) (insert p T) := by
  intro q hq
  obtain ⟨hlt, -⟩ := Array.getElem?_eq_some_iff.mp (h p hp)
  rw [Array.getElem?_setIfInBounds]
  by_cases hpq : p = q
  · simp [hpq ▸ hlt, hpq]
  · simp [number_inj hp hq, hpq, h q hq, Ne.symm hpq]

theorem Marks.getD (h : g.Marks taken T) (hp : p ∈ g.cells) (b : Bool) :
    taken.getD (g.flood.number p) b = decide (p ∈ T) := by
  rw [Array.getD_eq_getD_getElem?, h p hp]
  rfl

theorem mem_fresh (h : g.Marks taken T) (hps : ∀ p ∈ ps, p ∈ g.cells) :
    q ∈ g.flood.fresh taken ps ↔ q ∈ ps ∧ q ∉ T := by
  let mark := fun (acc : Array Bool × List (Nat × Nat)) p =>
    if acc.1.getD (g.flood.number p) true then acc else (acc.1.setIfInBounds (g.flood.number p) true, p :: acc.2)
  have hmark : ∀ (ps : List (Nat × Nat)) acc T, (∀ p ∈ ps, p ∈ g.cells) → g.Marks acc.1 T →
      (q ∈ (ps.foldl mark acc).2 ↔ q ∈ acc.2 ∨ q ∈ ps ∧ q ∉ T) := by
    intro ps
    induction ps with
    | nil => simp
    | cons p ps ih =>
      intro acc T hps hT
      obtain ⟨hp, hps⟩ := forall_mem_cons.mp hps
      rw [foldl_cons]
      by_cases hpT : p ∈ T
      · rw [show mark acc p = acc by simp only [mark, hT.getD hp, hpT, decide_true, if_true], ih acc T hps hT]
        grind
      · rw [show mark acc p = (acc.1.setIfInBounds (g.flood.number p) true, p :: acc.2) by
          simp only [mark, hT.getD hp, hpT, decide_false, Bool.false_eq_true, if_false], ih _ _ hps (hT.insert hp)]
        grind
  exact (hmark ps (taken, []) T hps h).trans (by simp)

/-- The cells of an object as they are collected. -/
def Lists (g : Plane) (members : List Value) (S : Finset (Nat × Nat)) : Prop :=
  ∃ ps : List (Nat × Nat), members = ps.map (cellValue g.color) ∧ ps.toFinset = S

def took (g : Plane) (p : Nat × Nat) (s : Flood.Growth) : Flood.Growth where
  taken := s.taken.setIfInBounds (g.flood.number p) true
  members := cellValue g.color p :: s.members
  front := g.flood.nearby p.1 p.2 ++ s.front

theorem visit_eq (hp : p ∈ g.cells) (s : Flood.Growth) :
    g.flood.visit (.int c) s p = .ok (if g.fits c p then g.took p s else s) := by
  have htest : (if g.flood.univalued then Value.int c == .int (g.color p.1 p.2)
      else .int (g.color p.1 p.2) != g.flood.background) = g.fits c p := by
    have hu : g.flood.univalued = g.univalued := rfl
    rw [fits, hu, coding_int.beq_code, bne, beq_background, decide_not]
  refine bind_eq (color_flood hp) ?_
  rw [htest]
  split <;> rfl

theorem ring_spec (hfront : ∀ p ∈ front, p ∈ g.cells) {s : Flood.Growth} (hT : g.Marks s.taken T)
    (hS : g.Lists s.members S) :
    ∃ s', front.foldlM (g.flood.visit (.int c)) s = .ok s' ∧ g.Marks s'.taken (T ∪ front.toFinset.filter (g.fits c ·)) ∧
    g.Lists s'.members (S ∪ front.toFinset.filter (g.fits c ·)) ∧ ∀ q, q ∈ s'.front ↔ q ∈ s.front ∨ ∃ p ∈ front,
    g.fits c p = true ∧ q ∈ g.flood.nearby p.1 p.2 := by
  induction front generalizing s T S with
  | nil => exact ⟨s, rfl, by simpa using hT, by simpa using hS, by simp⟩
  | cons p front ih =>
    obtain ⟨hp, hfront⟩ := forall_mem_cons.mp hfront
    rw [foldlM_cons, visit_eq hp]
    cases hfit : g.fits c p with
    | false =>
      obtain ⟨s', hs', h1, h2, h3⟩ := ih hfront hT hS
      refine ⟨s', hs', ?_, ?_, fun q => ?_⟩
      · simpa [Finset.filter_insert, hfit] using h1
      · simpa [Finset.filter_insert, hfit] using h2
      · simp [h3, hfit]
    | true =>
      obtain ⟨ps, hps, rfl⟩ := hS
      obtain ⟨s', hs', h1, h2, h3⟩ :=
        ih (s := g.took p s) hfront (hT.insert hp) ⟨p :: ps, by rw [took, hps, map_cons], rfl⟩
      refine ⟨s', hs', ?_, ?_, fun q => ?_⟩
      · simpa [Finset.filter_insert, hfit] using h1
      · simpa [Finset.filter_insert, hfit] using h2
      · rw [h3, took, mem_append, exists_mem_cons_iff, or_assoc, or_left_comm]
        simp [hfit]

/-! ## 3. Whole objects -/

/-- A set of cells that no joined cell leaves. -/
def Closed (g : Plane) (T : Finset (Nat × Nat)) : Prop := ∀ p ∈ T, ∀ q, g.Joined p q → q ∈ T

/-- A flood from `p₀` that has taken the cells of `C`, with those of `T` taken before, and is about to look at a
    ring. -/
structure Growing (g : Plane) (p₀ : Nat × Nat) (T C : Finset (Nat × Nat)) (front : List (Nat × Nat)) : Prop where
  part : C ⊆ g.component p₀
  inside : ∀ q ∈ front, q ∈ g.cells
  free : ∀ q ∈ front, q ∉ T ∪ C
  reach : ∀ q ∈ front, g.fits (g.color p₀.1 p₀.2) q = true → q ∈ g.component p₀
  start : p₀ ∈ C ∨ p₀ ∈ front
  next : ∀ p ∈ C, ∀ q, g.Joined p q → q ∈ C ∨ q ∈ front

theorem Growing.done (h : g.Growing p₀ T C []) : C = g.component p₀ := by
  refine h.part.antisymm fun q hq => ?_
  have hmem : ∀ r, r ∈ C ∨ r ∈ ([] : List (Nat × Nat)) → r ∈ C := by simp
  induction (mem_component.mp hq).2 with
  | refl => exact hmem _ h.start
  | tail hr hj ih => exact hmem _ (h.next _ (ih (mem_component.mpr ⟨hj.1, hr⟩)) _ hj)

/-- The next ring: a place around a cell just taken is joined to it, was taken with it, or is looked at next. -/
theorem Growing.ring (hp₀ : p₀ ∈ g.vertices) (hT : g.Closed T) (h : g.Growing p₀ T C front) {front' : List (Nat × Nat)}
    (hF : F = front.toFinset.filter (g.fits (g.color p₀.1 p₀.2) ·))
    (hfront' : ∀ q, q ∈ front' ↔ (∃ p ∈ F, q ∈ g.flood.nearby p.1 p.2) ∧ q ∉ T ∪ (C ∪ F)) :
    g.Growing p₀ T (C ∪ F) front' := by
  have hmem : ∀ {q}, q ∈ F ↔ q ∈ front ∧ g.fits (g.color p₀.1 p₀.2) q = true := by simp [hF]
  have hpart : C ∪ F ⊆ g.component p₀ := Finset.union_subset h.part fun q hq => h.reach q (hmem.mp hq).1 (hmem.mp hq).2
  refine ⟨hpart, fun q hq => ?_, fun q hq => ((hfront' q).mp hq).2, fun q hq hfit => ?_, ?_, fun p hp q hj => ?_⟩
  · obtain ⟨⟨p, -, hn⟩, -⟩ := (hfront' q).mp hq
    exact (mem_nearby.mp hn).1
  · obtain ⟨⟨p, hp, hn⟩, -⟩ := (hfront' q).mp hq
    have hpc := hpart (Finset.mem_union_right C hp)
    exact component_joined hpc ((fits_iff hp₀ hpc (mem_nearby.mp hn).1 (mem_nearby.mp hn).2).mp hfit)
  · exact .inl (Finset.mem_union.mpr (h.start.imp_right fun hs => hmem.mpr ⟨hs, fits_self hp₀⟩))
  · have hq : q ∈ g.cells := (Finset.mem_filter.mp hj.2.1).1
    rcases Finset.mem_union.mp hp with hC | hF
    · refine .inl (Finset.mem_union.mpr ((h.next p hC q hj).imp_right fun hs => hmem.mpr ⟨hs, ?_⟩))
      exact (fits_iff hp₀ (h.part hC) hq hj.2.2.1).mpr hj
    · by_cases hqC : q ∈ C ∪ F
      · exact .inl hqC
      · -- a cell of an earlier object is joined to no cell of this one
        have hqT : q ∉ T := fun hq =>
          h.free p (hmem.mp hF).1 (Finset.mem_union_left C (hT q hq p hj.symm))
        exact .inr ((hfront' q).mpr ⟨⟨p, hF, mem_nearby.mpr ⟨hq, hj.2.2.1⟩⟩, by simp [hqT, hqC]⟩)

theorem Growing.finish (hp₀ : p₀ ∈ g.vertices) (h : g.Growing p₀ T C []) (hm : g.Marks taken (T ∪ C))
    {members : List Value} (hl : g.Lists members (insert p₀ C)) (fuel : Nat) (v : Value) :
    ∃ taken' members', g.flood.grow tour v fuel taken members [] = .ok (taken', members') ∧
    g.Marks taken' (T ∪ g.component p₀) ∧ g.Lists members' (g.component p₀) := by
  have hC := h.done
  rw [hC, Finset.insert_eq_of_mem (self_mem_component hp₀)] at hl
  exact ⟨taken, members, by rw [Flood.grow], hC ▸ hm, hl⟩

/-- **A flood takes a component**, with as many rings as there are places that nothing has taken. -/
theorem grow_spec (htour : tour.Faithful) (hp₀ : p₀ ∈ g.vertices) (hT : g.Closed T) (fuel : Nat) {members : List Value}
    (h : g.Growing p₀ T C front) (hm : g.Marks taken (T ∪ C)) (hl : g.Lists members (insert p₀ C))
    (hfuel : front = [] ∨ (g.cells \ (T ∪ C)).card ≤ fuel) :
    ∃ taken' members', g.flood.grow tour (.int (g.color p₀.1 p₀.2)) fuel taken members front = .ok (taken', members') ∧
      g.Marks taken' (T ∪ g.component p₀) ∧ g.Lists members' (g.component p₀) := by
  have hfree : ∀ {C front}, g.Growing p₀ T C front → ∀ q ∈ front, q ∈ g.cells \ (T ∪ C) :=
    fun h q hq => Finset.mem_sdiff.mpr ⟨h.inside q hq, h.free q hq⟩
  induction fuel generalizing C taken members front with
  | zero =>
    have hnil : front = [] := hfuel.elim id fun h0 => eq_nil_iff_forall_not_mem.mpr fun q hq => by
      have := Finset.card_pos.mpr ⟨q, hfree h q hq⟩
      omega
    subst hnil
    exact h.finish hp₀ hm hl 0 _
  | succ fuel ih =>
    by_cases hnil : front = []
    · subst hnil
      exact h.finish hp₀ hm hl _ _
    · obtain ⟨s, hs, hmarks, hlists, hfront⟩ :=
        ring_spec (c := g.color p₀.1 p₀.2) h.inside (s := ⟨taken, members, []⟩) hm hl
      generalize hF : front.toFinset.filter (g.fits (g.color p₀.1 p₀.2) ·) = F at hmarks hlists
      have hnear : ∀ q, q ∈ s.front ↔ ∃ p ∈ F, q ∈ g.flood.nearby p.1 p.2 := fun q => by simp [hfront, ← hF, and_assoc]
      have hcells : ∀ q ∈ s.front, q ∈ g.cells := fun q hq => by
        obtain ⟨p, -, hn⟩ := (hnear q).mp hq
        exact (mem_nearby.mp hn).1
      rw [Finset.union_assoc] at hmarks
      rw [Finset.insert_union] at hlists
      have hfresh : ∀ q, q ∈ tour s.taken (g.flood.fresh s.taken s.front) ↔
          (∃ p ∈ F, q ∈ g.flood.nearby p.1 p.2) ∧ q ∉ T ∪ (C ∪ F) :=
        fun q => by rw [(htour _ _).mem_iff, mem_fresh hmarks hcells, hnear]
      obtain ⟨taken', members', hgrow, hrest⟩ := ih (h.ring hp₀ hT hF.symm hfresh) hmarks hlists (by
        -- a ring without a cell that fits is the last one
        rcases F.eq_empty_or_nonempty with hempty | ⟨q, hq⟩
        · exact .inl (eq_nil_iff_forall_not_mem.mpr fun q hq => by simp [hempty] at hfresh; exact hfresh _ _ hq)
        · have hq' := hfree h q (by simp [← hF] at hq; exact hq.1)
          have hlt : g.cells \ (T ∪ (C ∪ F)) ⊂ g.cells \ (T ∪ C) :=
            (Finset.ssubset_iff_of_subset (Finset.sdiff_subset_sdiff subset_rfl (by grind))).mpr ⟨q, hq', by simp [hq]⟩
          have := Finset.card_lt_card hlt
          have := hfuel.resolve_left hnil
          exact .inr (by omega))
      refine ⟨taken', members', ?_, hrest⟩
      rw [Flood.grow]
      · exact bind_eq hs hgrow
      · exact hnil

theorem Closed.component (hT : g.Closed T) (p : Nat × Nat) : g.Closed (T ∪ g.component p) := by
  intro q hq r hj
  rcases Finset.mem_union.mp hq with hq | hq
  · exact Finset.mem_union_left _ (hT q hq r hj)
  · exact Finset.mem_union_right T (component_joined hq hj)

/-- **The objects found from some places** are the components of those that were not taken. -/
theorem collect_spec (htour : tour.Faithful) (hps : ∀ p ∈ ps, p ∈ g.cells) (hT : g.Closed T) (hm : g.Marks taken T)
    (objs : List Value) : ∃ l : List (Finset (Nat × Nat)), g.flood.collect tour ps taken objs =
    .ok (l.map (objectValue g.color) ++ objs) ∧ ∀ S, S ∈ l ↔ ∃ p ∈ ps, p ∈ g.vertices ∧ p ∉ T ∧ g.component p = S := by
  induction ps generalizing T taken objs with
  | nil => exact ⟨[], rfl, by simp⟩
  | cons p ps ih =>
    obtain ⟨hp, hps⟩ := forall_mem_cons.mp hps
    rw [Flood.collect, hm.getD hp]
    by_cases hpT : p ∈ T
    · obtain ⟨l, hl, hmem⟩ := ih hps hT hm objs
      exact ⟨l, by simpa [hpT] using hl, fun S => by simp [hmem, hpT]⟩
    · simp only [hpT, decide_false, Bool.false_eq_true, if_false]
      rw [bind_ok (color_flood hp), beq_background]
      by_cases hv : p ∈ g.vertices
      · have hne := (Finset.mem_filter.mp hv).2
        rw [if_neg (by simpa using hne)]
        have hstart : g.Growing p T ∅ [p] := ⟨by simp, by simpa using hp, by simpa using hpT,
          by simpa using fun _ => self_mem_component hv, .inr (by simp), by simp⟩
        obtain ⟨taken', members, hgrow, hm', qs, rfl, hqs⟩ := grow_spec htour hv hT (g.height * g.width) hstart
          (by simpa using hm) ⟨[p], rfl, rfl⟩ (.inr ((Finset.card_le_card Finset.sdiff_subset).trans (by simp [cells])))
        obtain ⟨l, hl, hmem⟩ := ih hps (hT.component p) hm' (objectValue g.color (g.component p) :: objs)
        have hset :
          SortedSet.ofList (qs.map (cellValue g.color)).reverse = listed (cellValue g.color) (g.component p) := by
          rw [← map_reverse, (coding_cellValue g.color).ofList_map, toFinset_reverse, hqs]
        refine ⟨l ++ [g.component p], ?_, fun S => ?_⟩
        · refine bind_eq rfl (bind_eq hgrow ?_)
          rw [hset, map_append, append_assoc]
          exact hl
        · rw [mem_append, hmem, mem_singleton, exists_mem_cons_iff]
          constructor
          · rintro (⟨q, hq, hqv, hqT, e⟩ | rfl)
            · exact .inr ⟨q, hq, hqv, fun h => hqT (Finset.mem_union_left _ h), e⟩
            · exact .inl ⟨hv, hpT, rfl⟩
          · rintro (⟨-, -, rfl⟩ | ⟨q, hq, hqv, hqT, rfl⟩)
            · exact .inr rfl
            · by_cases hqp : q ∈ g.component p
              · exact .inr (component_eq hqp)
              · exact .inl ⟨q, hq, hqv, by simp [hqT, hqp], rfl⟩
      · obtain ⟨l, hl, hmem⟩ := ih hps hT hm objs
        have hbg : some (g.color p.1 p.2) = g.background := by simpa [vertices, hp] using hv
        exact ⟨l, by simpa [hbg] using hl, fun S => by simp [hmem, hv]⟩

end Plane

/-! ## 4. The objects of a grid -/

theorem foldl_max {α : Type} (key : α → Nat) (l : List α) (a : α) :
    ∃ b ∈ a :: l, l.foldl (fun acc c => if key acc < key c then c else acc) a = b ∧ ∀ c ∈ a :: l, key c ≤ key b := by
  induction l generalizing a with
  | nil => simp
  | cons c l ih =>
    rw [foldl_cons]
    split
    · obtain ⟨b, hb, hrun, hmax⟩ := ih c
      have := hmax c mem_cons_self
      exact ⟨b, mem_cons_of_mem a hb, hrun, forall_mem_cons.mpr ⟨by omega, hmax⟩⟩
    · obtain ⟨b, hb, hrun, hmax⟩ := ih a
      obtain ⟨ha, hl⟩ := forall_mem_cons.mp hmax
      exact ⟨b, by grind, hrun, forall_mem_cons.mpr ⟨ha, forall_mem_cons.mpr ⟨by omega, hl⟩⟩⟩

/-- A candidate that comes most often is found. -/
theorem byCount_max {elems : List Value} (vs : List Value) (hne : elems ≠ []) :
    ∃ v ∈ elems, byCount true elems vs = .ok v ∧ ∀ u ∈ elems, countIn vs u ≤ countIn vs v := by
  obtain ⟨e, elems, rfl⟩ := exists_cons_of_ne_nil hne
  obtain ⟨b, hb, hrun, hmax⟩ := foldl_max Prod.snd (elems.map fun e => (e, countIn vs e)) (e, countIn vs e)
  rw [← map_cons (f := fun e => (e, countIn vs e))] at hb hmax
  obtain ⟨v, hv, rfl⟩ := mem_map.mp hb
  exact ⟨v, hv, congrArg (Except.ok ∘ Prod.fst) hrun, forall_mem_map.mp hmax⟩

variable {h w : Nat} {f : Int → Int → Int} {arrange : Arrangement}

theorem countIn_colors (c : Int) :
    countIn (((cellList h w).map fun p => f p.1 p.2).map .int) (.int c) = (shown h w f c).card := by
  have hnodup : (cellList h w).Nodup := .of_map _ strict_cellList.nodup
  have hshown : shown h w f c = ((cellList h w).filter fun p => f p.1 p.2 = c).toFinset := by
    simp [shown, cellSet, toFinset_filter]
  rw [hshown, toFinset_card_of_nodup (hnodup.filter _), ← countP_eq_length_filter, countIn, countP_map, countP_map]
  exact countP_congr fun p _ => by simp [← coding_int.beq_code]; rfl

theorem mostcolor_eq : mostcolor (grid h w f) arrange =
    byCount true (arrange (((cellList h w).map fun p => f p.1 p.2).map .int))
      (((cellList h w).map fun p => f p.1 p.2).map .int) := by
  refine bind_eq colors_grid ?_
  rw [map_colors, bind_ok coding_int.asElements]

/-- The most frequent colour is shown as often as any. -/
theorem exists_mostcolor (ha : arrange.Faithful) (hh : 1 ≤ h) (hw : 1 ≤ w) :
    ∃ m : Int, mostcolor (grid h w f) arrange = .ok (.int m) ∧ ∀ c, (shown h w f c).card ≤ (shown h w f m).card := by
  have hmet : ∀ p ∈ cellSet h w, .int (f p.1 p.2) ∈ arrange (((cellList h w).map fun p => f p.1 p.2).map .int) :=
    fun p hp => (ha _).mem_iff.mpr (mem_map_of_mem (mem_dedup.mpr (mem_map_of_mem (mem_toFinset.mp hp))))
  obtain ⟨v, hv, hrun, hmax⟩ := byCount_max (((cellList h w).map fun p => f p.1 p.2).map .int)
    (ne_nil_of_mem (hmet (0, 0) (mem_cellSet.mpr (by simp; omega))))
  obtain ⟨m, -, rfl⟩ := mem_map.mp ((ha _).mem_iff.mp hv)
  refine ⟨m, mostcolor_eq.trans hrun, fun c => ?_⟩
  rcases (shown h w f c).eq_empty_or_nonempty with hc | ⟨p, hp⟩
  · simp [hc]
  · obtain ⟨hcell, rfl⟩ := Finset.mem_filter.mp hp
    simpa only [countIn_colors] using hmax _ (hmet p hcell)

theorem faithful_ofList : Arrangement.Faithful SortedSet.ofList := by
  intro cs
  obtain ⟨l, hnd, hl, heq⟩ := coding_int.exists_list cs.toFinset
  rw [coding_int.ofList_map, heq]
  exact (((perm_ext_iff_of_nodup hnd cs.nodup_dedup).mpr fun a => by simp [hl])).map _

/-- **The objects of a grid are its connected components**, and the flood comes to an end, in whatever order the places
    of a set and the colours are met. The cells, or those not of the most frequent colour, are joined to the four (or
    eight) around them, if need be only to those of the same colour. -/
theorem objects_components {tour : Flood.Tour} (ha : arrange.Faithful) (htour : tour.Faithful) (hh : 1 ≤ h) (hw : 1 ≤ w)
    (univalued diagonal withoutBg : Bool) :
    ∃ m : Int, mostcolor (grid h w f) arrange = .ok (.int m) ∧
      let g : Plane := ⟨h, w, f, if withoutBg then some m else none, univalued, diagonal⟩
      objects (grid h w f) (.bool univalued) (.bool diagonal) (.bool withoutBg) arrange tour =
        .ok (.fset (listed (objectValue f) (g.vertices.image g.component))) := by
  obtain ⟨m, hmost, -⟩ := exists_mostcolor (f := f) ha hh hw
  refine ⟨m, hmost, ?_⟩
  intro g
  have hcells : ∀ p : Nat × Nat, p ∈ tour (.replicate (h * w) false) ((List.range h).flatMap fun i =>
      (List.range w).map fun j => (i, j)) ↔ p ∈ g.cells := by
    simp [(htour _ _).mem_iff, Plane.mem_cells, g, Prod.forall]
  have hmarks : g.Marks (.replicate (h * w) false) ∅ := by
    intro p hp
    obtain ⟨h1, h2⟩ : p.1 < h ∧ p.2 < w := Plane.mem_cells.mp hp
    have := Nat.succ_mul p.1 w ▸ Nat.mul_le_mul_right w h1
    have hlt : g.flood.number p < h * w := by
      show p.1 * w + p.2 < h * w
      omega
    simp [hlt]
  obtain ⟨l, hl, hmem⟩ := Plane.collect_spec htour (fun p => (hcells p).mp) (T := ∅) (by simp [Plane.Closed]) hmarks []
  have hrows : (gridRows h w f).mapM (fun r => do return (← r.elements).toArray) =
      .ok ((List.range h).map fun i : Nat => (gridRow w (f i)).toArray) := mapM_map_ok fun _ _ => rfl
  have hlast :
    SortedSet.ofList (l.map (objectValue f) ++ []).reverse = listed (objectValue f) (g.vertices.image g.component) := by
    have himage : l.reverse.toFinset = g.vertices.image g.component := by
      ext S
      simp only [toFinset_reverse, mem_toFinset, hmem, hcells, Finset.mem_image]
      have hsub : ∀ p ∈ g.vertices, p ∈ g.cells := fun p hp => (Finset.mem_filter.mp hp).1
      grind
    rw [append_nil, ← map_reverse, ← himage]
    exact (coding_cellValue f).set.ofList_map l.reverse
  rw [objects]
  cases withoutBg
  case' false => refine bind_eq rfl ?_
  case' true => refine bind_eq hmost ?_
  all_goals exact bind_eq (extent_grid hh) (bind_eq elements_grid (bind_eq hrows
    (bind_eq hl (congrArg (Except.ok ∘ Value.fset) hlast))))

/-- Two rows of two colours, where all orders are turned round. -/
theorem objects_components_reversed : ∃ m : Int,
    mostcolor (grid 2 3 fun i j => (i + j) / 2) (fun vs => (SortedSet.ofList vs).reverse) = .ok (.int m) ∧
      let g : Plane := ⟨2, 3, fun i j => (i + j) / 2, some m, true, false⟩
      objects (grid 2 3 fun i j => (i + j) / 2) (.bool true) (.bool false) (.bool true)
        (fun vs => (SortedSet.ofList vs).reverse) (fun _ ps => ps.reverse) =
          .ok (.fset (listed (objectValue fun i j => (i + j) / 2) (g.vertices.image g.component))) :=
  objects_components (fun cs => by exact (reverse_perm _).trans (faithful_ofList cs)) (fun _ ps => reverse_perm ps)
    (by decide) (by decide) true false true

end PuzzlePrograms
