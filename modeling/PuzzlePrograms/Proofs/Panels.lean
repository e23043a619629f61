import PuzzlePrograms.Proofs.Segments

/-!
# Two panels and a bar

The recipes of this family paint some cells of two blank panels, join them by a bar, and mark the cells that the two
panels determine. A verifier looks at the middle column: it shows one colour when the bar is upright, and the bar
together with a cell of a panel when rows and columns are exchanged.
-/

namespace PuzzlePrograms

open List Value Dsl Recipe Recipe.Tasks Verifier Except

variable {E : Failure → Prop} {env : Env} {h w : Nat} {lb ub : Value} {S T U : Finset Loc} {a b c : Int}
  {F : Int → Int → Int} {g A B out : Value} {tail : Verifier}

variable {i j k : Int} {n : Nat}

/-! ## 1. Panels -/

/-- The colours of a panel: blank but for the painted cells. -/
def panel (S : Finset Loc) (c : Int) : Int → Int → Int := filled (fun _ _ => 0) S c

/-- What is known of a panel: some of its cells are painted, and the paint is visible. -/
structure Painted (h w : Nat) (S : Finset Loc) (c : Int) : Prop where
  nonempty : S.Nonempty
  inside : S ⊆ cellSet h w
  colour : 1 ≤ c ∧ c ≤ 9

theorem panel_swap : (fun i j => panel S c j i) = panel (S.image Prod.swap) c := by
  funext i j
  simp [panel, filled]

theorem image_swap_inside (hS : S ⊆ cellSet h w) : S.image Prod.swap ⊆ cellSet w h := by
  intro p hp
  obtain ⟨q, hq, rfl⟩ := Finset.mem_image.mp hp
  simpa [and_comm] using hS hq

theorem Painted.swap (hS : Painted h w S c) : Painted w h (S.image Prod.swap) c :=
  ⟨hS.nonempty.image _, image_swap_inside hS.inside, hS.colour⟩

theorem Painted.coloured (hS : Painted h w S c) : Coloured h w (panel S c) :=
  .filled (fun _ _ => by simp) ⟨by have := hS.colour; omega, hS.colour.2⟩

theorem shown_panel (hS : Painted h w S c) : shown h w (panel S c) c = S := by
  have hc : (0 : Int) ≠ c := by have := hS.colour; omega
  ext p
  by_cases hp : p ∈ S
  · simpa [shown, panel, filled, hp] using hS.inside hp
  · simp [shown, panel, filled, hp, hc]

theorem shown_panel_zero (hS : Painted h w S c) : shown h w (panel S c) 0 = cellSet h w \ S := by
  have hc : c ≠ 0 := by have := hS.colour; omega
  ext p
  by_cases hp : p ∈ S <;> simp [shown, panel, filled, hp, hc]

theorem other_panel (hS : Painted h w S c) :
    other (.fset (listed .int ((cellSet h w).image fun p => panel S c p.1 p.2))) (.int 0) = .ok (.int c) := by
  have hc : c ≠ 0 := by have := hS.colour; omega
  have hcolors : ((cellSet h w).image fun p => panel S c p.1 p.2).erase 0 = {c} := by
    ext x
    simp only [Finset.mem_erase, Finset.mem_image, Finset.mem_singleton, panel, filled, Prod.mk.eta]
    constructor
    · rintro ⟨hx, p, -, rfl⟩
      split at hx
      · rw [if_pos ‹_›]
      · exact absurd rfl hx
    · rintro rfl
      obtain ⟨p, hp⟩ := hS.nonempty
      exact ⟨hc, p, hS.inside hp, if_pos hp⟩
  refine bind_eq coding_int.remove_fset ?_
  rw [hcolors, listed, Finset.toList_singleton]
  rfl

/-! ## 2. Cutting at the middle -/

/-- The steps that cut a grid in two, at the middle column if that shows one colour and at the middle row otherwise. -/
def halves : Verifier := Verifier.Tasks.task0520fde7.take 14

def middle (h w : Nat) (F : Int → Int → Int) : Finset Int :=
  (rect 0 (h - 1) (w / 2 : Nat) (w / 2 : Nat)).image fun p => F p.1 p.2

theorem computes_halves (t : Bool) (hh : 1 ≤ h) (hw : 1 ≤ w) (ht : (middle h w F).card = 1 ↔ t = true)
    (hA : (if t then lefthalf (grid h w F) else tophalf (grid h w F)) = .ok A)
    (hB : (if t then righthalf (grid h w F) else bottomhalf (grid h w F)) = .ok B)
    (hnext : ∀ rs, Ends (grid h w F) tail (B :: A :: rs) out) : Computes (halves ++ tail) (grid h w F) out := by
  have hhalf : halve (.int w) = .ok (.int (w / 2 : Nat)) := floorDiv_nat (by decide)
  have hshown : (Patch.shownAt h w F (rect 0 (h - 1) (w / 2 : Nat) (w / 2 : Nat))).image Prod.fst = middle h w F := by
    ext x
    simp only [middle, Finset.mem_image, Prod.exists, exists_and_right, exists_eq_right, Patch.mem_shownAt, mem_cellSet,
      mem_rect]
    constructor
    · rintro ⟨i, j, hp⟩
      exact ⟨i, j, hp.2, hp.1.2⟩
    · rintro ⟨i, j, hp, hx⟩
      exact ⟨i, j, ⟨by omega, hx⟩, hp⟩
  refine .call (width_grid hh) rfl ?_
  refine .call hhalf rfl ?_
  refine .call (v := place (0, (w / 2 : Nat))) rfl rfl ?_
  refine .call height_grid rfl ?_
  refine .call (v := .int (h - 1)) rfl rfl ?_
  refine .call (v := place (h - 1, (w / 2 : Nat))) rfl rfl ?_
  refine .call (connect_column (by omega) _) rfl ?_
  refine .call (Patch.toobject_value (P := .bare _) hh) rfl ?_
  refine .call (hshown ▸ Patch.numcolors_tinted) rfl ?_
  refine .call (v := .bool t) (x := .ok (equality (.int (middle h w F).card) (.int 1))) ?_ rfl ?_
  · have hone : ((middle h w F).card : Int) = 1 ↔ t = true := by rw [← ht]; omega
    refine congrArg (ok ∘ bool) (coding_int.beq_code.trans ?_)
    cases t <;> simpa [middle] using hone
  cases t with
  | true =>
    refine .call (v := .prim .lefthalf) rfl rfl ?_
    refine .call (v := .prim .righthalf) rfl rfl ?_
    refine .call (x := lefthalf _) hA rfl ?_
    refine .call (x := righthalf _) hB rfl (hnext _)
  | false =>
    refine .call (v := .prim .tophalf) rfl rfl ?_
    refine .call (v := .prim .bottomhalf) rfl rfl ?_
    refine .call (x := tophalf _) hA rfl ?_
    refine .call (x := bottomhalf _) hB rfl (hnext _)

/-! ## 3. What the panels determine -/

theorem ends_0520fde7 (hS : Painted h w S a) (hT : Painted h w T b) (hh : 1 ≤ h) (rs : List Value) :
    Ends g (Verifier.Tasks.task0520fde7.drop 14) (grid h w (panel T b) :: grid h w (panel S a) :: rs)
    (grid h w (panel (S ∩ T) 2)) := by
  refine .call palette_grid rfl ?_
  refine .call (other_panel hS) rfl ?_
  refine .call palette_grid rfl ?_
  refine .call (other_panel hT) rfl ?_
  refine .call (shape_grid hh) rfl ?_
  refine .call (canvas_int 0 h w) rfl ?_
  refine .call ofcolor_grid rfl ?_
  refine .call ofcolor_grid rfl ?_
  rw [shown_panel hS, shown_panel hT]
  refine .call (v := places (S ∩ T)) (congrArg (ok ∘ fset) coding_place.inter_listed) rfl ?_
  refine .call (fill_grid hh (isPatch_places _)) rfl (.nil rfl)

theorem ends_1b2d62fb (hS : Painted h w S a) (hT : Painted h w T b) (hh : 1 ≤ h) (rs : List Value) :
    Ends g (Verifier.Tasks.task1b2d62fb.drop 14) (grid h w (panel T b) :: grid h w (panel S a) :: rs)
      (grid h w (panel ((cellSet h w \ S) ∩ (cellSet h w \ T)) 8)) := by
  refine .call (shape_grid hh) rfl ?_
  refine .call (canvas_int 0 h w) rfl ?_
  refine .call ofcolor_grid rfl ?_
  refine .call ofcolor_grid rfl ?_
  rw [shown_panel_zero hS, shown_panel_zero hT]
  refine .call (congrArg (ok ∘ fset) coding_place.inter_listed) rfl ?_
  refine .call (fill_grid hh (isPatch_places _)) rfl (.nil rfl)

theorem ends_3428a4f5 (hS : Painted h w S a) (hT : Painted h w T b) (hh : 1 ≤ h) (rs : List Value) :
    Ends g (Verifier.Tasks.task3428a4f5.drop 14) (grid h w (panel T b) :: grid h w (panel S a) :: rs)
      (grid h w (panel ((S ∪ T) \ (S ∩ T)) 3)) := by
  refine .call palette_grid rfl ?_
  refine .call (other_panel hS) rfl ?_
  refine .call palette_grid rfl ?_
  refine .call (other_panel hT) rfl ?_
  refine .call (shape_grid hh) rfl ?_
  refine .call (canvas_int 0 h w) rfl ?_
  refine .call ofcolor_grid rfl ?_
  refine .call ofcolor_grid rfl ?_
  rw [shown_panel hS, shown_panel hT]
  refine .call coding_place.combine_fset rfl ?_
  refine .call (congrArg (ok ∘ fset) coding_place.inter_listed) rfl ?_
  refine .call coding_place.difference_fset rfl ?_
  refine .call (fill_grid hh (isPatch_places _)) rfl (.nil rfl)

/-- The colours of two panels with a bar between them. -/
def joined (w : Nat) (fa : Int → Int → Int) (bar : Int) (fb : Int → Int → Int) (i j : Int) : Int :=
  if j < (w + 1 : Nat) then if j < w then fa i j else bar else fb i (j - (w + 1 : Nat))

variable {fa fb : Int → Int → Int} {bar : Int}

theorem joined_left (hj : j < w) : joined w fa bar fb i j = fa i j := by rw [joined, if_pos (by omega), if_pos hj]

theorem joined_right (hj : 0 ≤ j) : joined w fa bar fb i (j + (w + 1 : Nat)) = fb i j := by
  rw [joined, if_neg (by omega), Int.add_sub_cancel]

theorem joined_bar : joined w fa bar fb i w = bar := by simp [joined]

theorem computes_upright (hh : 1 ≤ h) (hw : 1 ≤ w)
    (hnext : ∀ g rs, Ends g tail (grid h w fb :: grid h w fa :: rs) out) :
    Computes (halves ++ tail) (grid h (w + 1 + w) (joined w fa bar fb)) out := by
  have hhalf : (w + 1 + w) / 2 = w := by omega
  have hrest : (w + 1 + w) % 2 = 1 := by omega
  refine computes_halves true hh (by omega) ?_ ((lefthalf_grid hh (by omega)).trans (congrArg ok ?_))
    ((righthalf_grid hh (by omega)).trans (congrArg ok ?_)) (hnext _)
  · have hmiddle : middle h (w + 1 + w) (joined w fa bar fb) = {bar} := by
      rw [middle, hhalf]
      have hmem : ((0, w) : Loc) ∈ rect 0 (h - 1) w w := mem_rect.mpr (by
        dsimp only
        omega)
      refine Finset.eq_singleton_iff_unique_mem.mpr ⟨Finset.mem_image.mpr ⟨(0, w), hmem, joined_bar⟩, fun x hx => ?_⟩
      obtain ⟨p, hp, rfl⟩ := Finset.mem_image.mp hx
      rw [show p.2 = w by simp at hp; omega, joined_bar]
    simp [hmiddle]
  · rw [hhalf]
    exact grid_ext fun i j _ hj => joined_left (by omega)
  · rw [hhalf, hrest]
    exact grid_ext fun i j _ hj => joined_right (by omega)

/-- With rows and columns exchanged the middle column shows the bar and something else, and the halves are the panels
with rows and columns exchanged. -/
theorem computes_level (hh : 1 ≤ h) (hw : 1 ≤ w) (hbar : ∀ j, fa j 0 ≠ bar)
    (hnext : ∀ g rs, Ends g tail ((grid w h fun i j => fb j i) :: (grid w h fun i j => fa j i) :: rs) out) :
    Computes (halves ++ tail) (grid (w + 1 + w) h fun i j => joined w fa bar fb j i) out := by
  have hhalf : (w + 1 + w) / 2 = w := by omega
  have hrest : (w + 1 + w) % 2 = 1 := by omega
  refine computes_halves false (by omega) hh ?_ (tophalf_grid.trans (congrArg ok ?_))
    (bottomhalf_grid.trans (congrArg ok ?_)) (hnext _)
  · have hmiddle : 1 < (middle (w + 1 + w) h fun i j => joined w fa bar fb j i).card := by
      have hmem : ∀ i : Int, 0 ≤ i → i ≤ w → (i, ((h / 2 : Nat) : Int)) ∈
        rect 0 ((w + 1 + w : Nat) - 1) (h / 2 : Nat) (h / 2 : Nat) := by
        intro i hi hiw
        refine mem_rect.mpr ?_
        dsimp only
        omega
      refine Finset.one_lt_card.mpr ⟨fa (h / 2 : Nat) 0, Finset.mem_image.mpr ⟨_, hmem 0 le_rfl (by omega), ?_⟩,
        bar, Finset.mem_image.mpr ⟨_, hmem w (by omega) le_rfl, joined_bar⟩, hbar _⟩
      exact joined_left (by omega)
    exact iff_of_false (by omega) Bool.false_ne_true
  · rw [hhalf]
    exact grid_ext fun i j hi _ => joined_left (by omega)
  · rw [hhalf, hrest]
    exact grid_ext fun i j hi _ => joined_right (by omega)

/-! ## 4. Drawing the panels -/

/-- How many cells are painted, whatever the deviation from one half: at least one, and no more than there are. -/
theorem painted_count (hh : 1 ≤ h) (hw : 1 ≤ w) (x : Int) :
    ∃ n : Nat, max (min ((h : Int) * w - 1) x) 1 = n ∧ 1 ≤ n ∧ n ≤ h * w := by
  have hpos : 1 ≤ h * w := Nat.mul_pos hh hw
  have hcast : ((h * w : Nat) : Int) = (h : Int) * w := by push_cast; rfl
  exact ⟨(max (min ((h : Int) * w - 1) x) 1).toNat, by omega, by omega, by omega⟩

/-- The colours but the blank one and the mark. -/
abbrev visible (k : Int) : List Int := (colourList.filter (· ≠ k)).filter (· ≠ 0)

/-- There is a colour for the bar and one for the cells, different from the blank one and from the mark. -/
theorem other_colour (k x : Int) : (visible k).filter (· ≠ x) ≠ [] := by
  have hsome : ∃ c : Int, (1 ≤ c ∧ c ≤ 3) ∧ c ≠ k ∧ c ≠ x := by
    by_contra hno
    push Not at hno
    have h1 := hno 1 (by omega)
    have h2 := hno 2 (by omega)
    have h3 := hno 3 (by omega)
    omega
  obtain ⟨c, hc, hk, hx⟩ := hsome
  exact ne_nil_of_mem (a := c) (by simp [mem_colourList, hk, hx]; omega)

theorem painted_of_sample {js : List Loc} (hjs : js.length = n) (hn : 1 ≤ n) (hsub : js.Subperm (cellList h w))
    (hc : 1 ≤ c ∧ c ≤ 9) : Painted h w js.toFinset c where
  nonempty := toFinset_nonempty_iff js |>.mpr (by rintro rfl; simp at hjs; omega)
  inside p hp := by simpa using hsub.subset (mem_toFinset.mp hp)
  colour := hc

/-- The end of a run: rows and columns may be exchanged, and the verifier finds the panels either way. -/
theorem runs_joined (hi : env gi = some (grid h (w + 1 + w) (joined w (panel S a) bar (panel T b))))
    (ho : env go = some (grid h w (panel U k))) (hh : 1 ≤ h ∧ h ≤ 30) (hw : 1 ≤ w ∧ w ≤ 14) (hS : Painted h w S a)
    (hT : Painted h w T b) (hbar : 1 ≤ bar ∧ bar ≤ 9) (hne : a ≠ bar) (hk : 0 ≤ k ∧ k ≤ 9)
    (hup : ∀ g rs, Ends g tail (grid h w (panel T b) :: grid h w (panel S a) :: rs) (grid h w (panel U k)))
    (hlevel : ∀ g rs, Ends g tail (grid w h (panel (T.image Prod.swap) b) :: grid w h (panel (S.image Prod.swap) a) ::
      rs) (grid w h (panel (U.image Prod.swap) k))) :
    Runs E env [.when .coin [.dm gi gi, .dm go go], .finish gi go] (Solved (halves ++ tail)) := by
  have hbarCol : Coloured h 1 fun _ _ => bar := fun _ _ => by dsimp only; omega
  have hpaint : ∀ j, panel S a j 0 ≠ bar := by
    intro j
    have := hS.colour
    simp only [panel, filled]
    split <;> omega
  rw [← panel_swap, ← panel_swap, ← panel_swap] at hlevel
  exact .mirrored hi ho hh (by omega) hh (by omega) ((hS.coloured.hconcat hbarCol).hconcat hT.coloured)
    (.filled (fun _ _ => by simp) hk) (computes_upright hh.1 hw.1 hup) (computes_level hh.1 hw.1 hpaint hlevel)

theorem image_swap_inter : (S ∩ T).image Prod.swap = S.image Prod.swap ∩ T.image Prod.swap :=
  Finset.image_inter _ _ Prod.swap_injective

theorem image_swap_sdiff : (S \ T).image Prod.swap = S.image Prod.swap \ T.image Prod.swap :=
  Finset.image_sdiff _ _ Prod.swap_injective

theorem image_swap_cells : (cellSet h w).image .swap = cellSet w h := by
  ext ⟨i, j⟩
  simp [and_comm]

theorem gives_setOf {ps : List Loc} {x : String} (hx : env x = some (.list (ps.map place))) :
    Gives E env (n + 2) [] (.setOf x) (.mset (listed place ps.toFinset)) :=
  .call₁ (.var hx) (.bindEq (.lift rfl) (.lift coding_place.msetOf_map))

theorem gives_inter {x y : Expr} (hS : Gives E env n [] x (.mset (listed place S)))
    (hT : Gives E env n [] y (.mset (listed place T))) :
    Gives E env (n + 1) [] (.inter x y) (.mset (listed place (S ∩ T))) :=
  .bin hS hT (congrArg (ok ∘ mset) coding_place.inter_listed)

section Runs

variable (hlb : IsDifficulty lb) (hub : IsDifficulty ub)
include hlb hub

theorem runs_panels {m : Int} {blank chosen : Expr} (U : Nat → Nat → Finset Loc → Finset Loc → Finset Loc)
    (hlo : 1 ≤ m ∧ m ≤ 2) (hk : 0 ≤ k ∧ k ≤ 9)
    (hblank : ∀ env : Env, env bgc = some (.int 0) → Gives E env 1999 [] blank (.int 0))
    (hchosen : ∀ (env : Env) h w (ps qs : List Loc) ca cb, Painted h w ps.toFinset ca → Painted h w qs.toFinset cb →
      env Tasks.a = some (.list (ps.map place)) → env Tasks.b = some (.list (qs.map place)) → env "gia" =
      some (grid h w (panel ps.toFinset ca)) → env gib = some (grid h w (panel qs.toFinset cb)) → ∃ v,
      Gives E env 1999 [] chosen v ∧ IsPatch v (U h w ps.toFinset qs.toFinset))
    (hswap : ∀ h w S T, U w h (S.image Prod.swap) (T.image Prod.swap) = (U h w S T).image Prod.swap)
    (htail : ∀ g h w S T ca cb rs, Painted h w S ca → Painted h w T cb → 1 ≤ h →
      Ends g tail (grid h w (panel T cb) :: grid h w (panel S ca) :: rs) (grid h w (panel (U h w S T) k))) :
    Runs E (startEnv lb ub) (Tasks.mirrored (twoPanels (.int k) (.int m) blank chosen) ++ [.finish gi go])
    (Solved (halves ++ tail)) := by
  refine .set (.of₂ .int gives_colors (@Coding.remove_tuple _ _ colourList k coding_int _) rfl) ?_
  refine .grade (a := m) (b := 30) rfl rfl hlb hub .int .int (by omega) fun i hi hi' => ?_
  refine .grade (a := m) (b := 14) rfl rfl hlb hub .int .int (by omega) fun j hj hj' => ?_
  obtain ⟨h, rfl⟩ := Int.eq_ofNat_of_zero_le (show 0 ≤ i by omega)
  obtain ⟨w, rfl⟩ := Int.eq_ofNat_of_zero_le (show 0 ≤ j by omega)
  have hHW : h * w ≤ 30 * 14 := Nat.mul_le_mul (by omega) (by omega)
  refine .set (v := .int 0) .int ?_
  refine .set (.of₂ (.var rfl) (.var rfl) (@Coding.remove_tuple _ _ (colourList.filter (· ≠ k)) 0 coding_int _) rfl) ?_
  have hlen : ∀ p q : Int → Bool, ((colourList.filter p).filter q).length < 2 ^ 53 := fun p q =>
    ((length_filter_le ..).trans (length_filter_le ..)).trans_lt (by decide)
  have hsome : visible k ≠ [] := fun h0 => other_colour k 0 (by rw [h0]; rfl)
  refine .choice (l := visible k) (.var rfl) hsome (hlen _ _) fun bar hbar => ?_
  refine .set (.of₂ (.var rfl) (.var rfl)
    (@Coding.remove_tuple _ _ (visible k) bar coding_int _) rfl) ?_
  have hlen' := (length_filter_le (· ≠ bar) _).trans_lt (hlen (· ≠ k) (· ≠ 0))
  refine .choice (l := (visible k).filter (· ≠ bar)) (.var rfl) (other_colour k bar) hlen' fun ca hca => ?_
  refine .choice (l := (visible k).filter (· ≠ bar)) (.var rfl) (other_colour k bar) hlen' fun cb hcb => ?_
  simp only [mem_filter, mem_colourList, decide_eq_true_eq] at hbar hca hcb
  refine .set (.of₂ (hblank _ rfl) (.pair (.var rfl) (.var rfl)) (canvas_int 0 h w) rfl) ?_
  have htuple : totuple (places (cellSet h w)) = .ok (.tuple ((cellList h w).map place)) := by
    rw [map_cellList]
    rfl
  refine .set (.of₁ (.of₁ (.var rfl) (asindices_grid (by omega)) rfl) htuple rfl) ?_
  refine .set (.of₂ (.var rfl) (.pair (.var rfl) .int) (canvas_int bar h 1) rfl) ?_
  refine .set (.bin (.bin (.var rfl) (.var rfl) rfl) .int (floorDiv_int (by decide))) ?_
  refine .set (.pair .int (.var rfl)) ?_
  have hmp : 0 ≤ Int.fdiv ((h : Int) * w) 2 ∧ Int.fdiv ((h : Int) * w) 2 ≤ 420 := by
    rw [Int.fdiv_eq_ediv_of_nonneg _ (by decide)]
    have : (h : Int) * w ≤ 30 * 14 := by exact_mod_cast hHW
    have : 0 ≤ (h : Int) * w := by positivity
    omega
  refine .gradeIn (a := 0) (b := Int.fdiv ((h : Int) * w) 2) rfl rfl hlb hub (.var rfl) (by omega) fun da _ _ => ?_
  refine .gradeIn (a := 0) (b := Int.fdiv ((h : Int) * w) 2) rfl rfl hlb hub (.var rfl) (by omega) fun db _ _ => ?_
  refine .choice (l := [1, -1]) (.pair (.un .int rfl) .int) (by decide) (by decide) fun sa _ => ?_
  refine .choice (l := [1, -1]) (.pair (.un .int rfl) .int) (by decide) (by decide) fun sb _ => ?_
  refine .set (.bin (.var rfl) (.var rfl) rfl) (.set (.bin (.var rfl) (.var rfl) rfl) ?_)
  refine .set (.bin (.var rfl) (.var rfl) rfl) (.set (.bin (.var rfl) (.var rfl) rfl) ?_)
  refine .set (gives_max (gives_min (.bin (.bin (.var rfl) (.var rfl) rfl) .int rfl) (.var rfl)) .int) ?_
  refine .set (gives_max (gives_min (.bin (.bin (.var rfl) (.var rfl) rfl) .int rfl) (.var rfl)) .int) ?_
  obtain ⟨na, hna, hna1, hna2⟩ := @painted_count h w (by omega) (by omega) (Int.fdiv ((h : Int) * w) 2 + sa * da)
  obtain ⟨nb, hnb, hnb1, hnb2⟩ := @painted_count h w (by omega) (by omega) (Int.fdiv ((h : Int) * w) 2 + sb * db)
  refine .sample coding_place (.var rfl) rfl rfl (.var (congrArg (some ∘ Value.int) hna))
    (by rw [length_cellList]; omega)
    (by rw [length_cellList]; omega) fun ps hps hsub => ?_
  refine .sample coding_place (.var rfl) rfl rfl (.var (congrArg (some ∘ Value.int) hnb))
    (by rw [length_cellList]; omega)
    (by rw [length_cellList]; omega) fun qs hqs hsub' => ?_
  have hS := painted_of_sample hps hna1 hsub (c := ca) (by omega)
  have hT := painted_of_sample hqs hnb1 hsub' (c := cb) (by omega)
  refine .filled (by omega) (.var rfl) (.var rfl) ⟨_, .var rfl, @isPatch_of_elements _ ps rfl (by simp [Value.size])⟩ ?_
  refine .filled (by omega) (.var rfl) (.var rfl) ⟨_, .var rfl, @isPatch_of_elements _ qs rfl (by simp [Value.size])⟩ ?_
  refine .set (.of₂ (.of₂ (.var rfl) (.var rfl) hconcat_grid rfl) (.var rfl) hconcat_grid rfl) ?_
  refine .filled (by omega) (.var rfl) .int (hchosen _ h w ps qs ca cb hS hT rfl rfl rfl rfl) ?_
  exact runs_joined rfl rfl (by omega) (by omega) hS hT (by omega)
    (by omega) hk (fun g rs => htail g h w _ _ ca cb rs hS hT (by omega))
    fun g rs => hswap h w _ _ ▸ htail g w h _ _ ca cb rs hS.swap hT.swap (by omega)

theorem runs_0520fde7 :
    Runs E (startEnv lb ub) (task0520fde7 ++ [.finish gi go]) (Solved Verifier.Tasks.task0520fde7) := by
  refine runs_panels hlb hub (k := 2) (m := 2) (fun _ _ S T => S ∩ T) (by omega) (by omega) (fun _ hb => .var hb) ?_
    (fun _ _ _ _ => image_swap_inter.symm) fun g h w S T a b rs hS hT hh => ends_0520fde7 hS hT hh rs
  intro env h w ps qs ca cb _ _ ha hb _ _
  exact ⟨_, gives_inter (gives_setOf ha) (gives_setOf hb), isPatch_mset _⟩

theorem runs_1b2d62fb :
    Runs E (startEnv lb ub) (task1b2d62fb ++ [.finish gi go]) (Solved Verifier.Tasks.task1b2d62fb) := by
  refine runs_panels hlb hub (k := 8) (m := 2) (fun h w S T => (cellSet h w \ S) ∩ (cellSet h w \ T)) (by omega)
    (by omega)
    (fun _ _ => .int) ?_ (fun h w _ _ => ?_) fun g h w S T a b rs hS hT hh => ends_1b2d62fb hS hT hh rs
  · intro env h w ps qs ca cb hS hT _ _ ha hb
    refine ⟨_, .bin (.of₂ (.var ha) .int (ofcolor_grid (c := 0)) rfl) (.of₂ (.var hb) .int (ofcolor_grid (c := 0)) rfl)
      (congrArg (ok ∘ fset) coding_place.inter_listed), ?_⟩
    rw [shown_panel_zero hS, shown_panel_zero hT]
    exact isPatch_places _
  · rw [image_swap_inter, image_swap_sdiff, image_swap_sdiff, image_swap_cells]

theorem runs_3428a4f5 :
    Runs E (startEnv lb ub) (task3428a4f5 ++ [.finish gi go]) (Solved Verifier.Tasks.task3428a4f5) := by
  refine runs_panels hlb hub (k := 3) (m := 1) (fun _ _ S T => (S ∪ T) \ (S ∩ T)) (by omega) (by omega)
    (fun _ hb => .var hb) ?_
    (fun _ _ _ _ => ?_) fun g h w S T a b rs hS hT hh => ends_3428a4f5 hS hT hh rs
  · intro env h w ps qs ca cb _ _ ha hb _ _
    exact ⟨_, .bin (.bin (gives_setOf ha) (gives_setOf hb) (congrArg (ok ∘ mset) coding_place.union_listed))
      (gives_inter (gives_setOf ha) (gives_setOf hb)) (congrArg (ok ∘ mset) coding_place.diff_listed), isPatch_mset _⟩
  · rw [image_swap_sdiff, image_swap_inter, Finset.image_union]

end Runs

/-- The three recipes that join two panels by a bar never fail, whatever the source, and the verifiers find what the
panels determine: the cells painted in both, in none, or in exactly one. -/
theorem joined_panels_agree {task : String} (ht : task ∈ ["0520fde7", "1b2d62fb", "3428a4f5"]) {lb ub : Value}
    (hlb : IsDifficulty lb) (hub : IsDifficulty ub) (s : Session) : Agree (fun _ => False) task lb ub s := by
  simp only [mem_cons, not_mem_nil, or_false] at ht
  rcases ht with rfl | rfl | rfl
  · exact .of_runs rfl rfl (runs_0520fde7 hlb hub) s
  · exact .of_runs rfl rfl (runs_1b2d62fb hlb hub) s
  · exact .of_runs rfl rfl (runs_3428a4f5 hlb hub) s

theorem joined_panels_agree_unit : Agree (fun _ => False) "3428a4f5" (.int 0) (.int 1) (.ofSeed 0) :=
  joined_panels_agree (by decide) ⟨rfl, rfl⟩ ⟨rfl, rfl⟩ _

end PuzzlePrograms
