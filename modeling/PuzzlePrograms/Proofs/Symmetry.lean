import PuzzlePrograms.Proofs.Solving

/-!
# Grids with strewn cells, mirrored

The recipes of this family strew cells of several colours over a grid of one colour and join the grid with mirror images
of itself. In each round of the colouring at most a fair share of the free cells is taken, so there is a free cell for
every colour that is still to come.
-/

namespace PuzzlePrograms

open List Value Dsl Recipe Recipe.Tasks

variable {E : Failure → Prop} {env : Env} {H W : Nat} {lb ub : Value} {ss : List Stmt} {Q : Signal → Env → Prop}

variable {α : Type} {n : Nat} {t : String}

theorem length_filter_notMem [DecidableEq α] {l m : List α} (hl : l.Nodup) (hm : m.Subperm l) :
    (l.filter (· ∉ m)).length + m.length = l.length := by
  have hmn : m.Nodup := by
    obtain ⟨k, hk, hsub⟩ := hm
    exact hk.nodup_iff.mp (hl.sublist hsub)
  have hperm : (l.filter (· ∈ m)).Perm m :=
    (perm_ext_iff_of_nodup (hl.filter _) hmn).mpr fun a => by simpa using fun ha => hm.subset ha
  have := length_eq_length_filter_add (l := l) fun a => decide (a ∈ m)
  simp only [decide_not] at *
  rw [← hperm.length_eq]
  omega

/-- What holds before each round: the colours to come, the grid so far, and the free cells, which are no fewer than the
colours. -/
structure Strewing (H W : Nat) (lb ub : Value) (rest : List Value) (env : Env) : Prop where
  lower : env "diff_lb" = some lb
  upper : env "diff_ub" = some ub
  colours : ∃ cs : List Int, rest = cs.map .int ∧ (∀ c ∈ cs, 0 ≤ c ∧ c ≤ 9) ∧ ∃ n : Nat, env numc = some (.int n) ∧
    cs.length ≤ n ∧
    ∃ free : List Loc, env inds = some (.tuple (free.map place)) ∧ free.Nodup ∧ free.length ≤ H * W ∧ cs.length ≤
      free.length
  shows : ∃ f, env gi = some (grid H W f) ∧ Coloured H W f

/-- After a round there are still enough free cells: a share of the cells leaves the others their share. -/
theorem enough_left {L num k : Nat} (hk : k + 1 ≤ n) (hL : k + 1 ≤ L) (hnum : 1 ≤ num) (hmax : num ≤ max 1 (L / n)) :
    num ≤ L ∧ k ≤ L - num := by
  rcases le_max_iff.mp hmax with h1 | h1
  · omega
  · have hmul : num * n ≤ L := (Nat.le_div_iff_mul_le (by omega)).mp h1
    obtain ⟨m, rfl⟩ := Nat.exists_eq_add_of_le' (show 1 ≤ n by omega)
    have hone : m ≤ num * m := Nat.le_mul_of_pos_left m (by omega)
    rw [Nat.mul_add, Nat.mul_one] at hmul
    omega

theorem size_tuple {code : α → Value} (l : List α) : Dsl.size (.tuple (l.map code)) = .ok (.int l.length) := by
  have hrun : Dsl.size (.tuple (l.map code)) = .ok (.int (l.map code).length) := rfl
  rw [hrun, length_map]

theorem other_colours : ∀ b ∈ colourList, 9 ≤ (colourList.filter (· ≠ b)).length ∧
    (colourList.filter (· ≠ b)).length ≤ 10 ∧ ∀ c ∈ colourList.filter (· ≠ b), 0 ≤ c ∧ c ≤ 9 := by decide

section Strewn

variable (hlb : IsDifficulty lb) (hub : IsDifficulty ub)
include hlb hub

theorem strewing_round (hH : 1 ≤ H) (hHW : H * W ≤ 900) {x : Value} {rest : List Value}
    (h : Strewing H W lb ub (x :: rest) env) :
    Runs E (env.set col x) (Stmt.scatter gi) (Runs.round (Strewing H W lb ub rest) (Strewing H W lb ub [])) := by
  obtain ⟨hl, hu, ⟨cs, hcs, hcols, n, hn, hcn, free, hfree, hnodup, hsize, henough⟩, f, hgi, hf⟩ := h
  obtain ⟨c, cs, rfl⟩ : ∃ c cs', cs = c :: cs' := exists_cons_of_ne_nil (by rintro rfl; simp at hcs)
  obtain ⟨rfl, rfl⟩ : x = .int c ∧ rest = cs.map .int := by simpa using hcs
  simp only [length_cons] at hcn henough
  have hlen : Gives E (env.set col (.int c)) 1996 [] (.len inds) (.int free.length) :=
    .of₁ (.var hfree) (size_tuple free) rfl
  have hshare : free.length / n ≤ free.length := Nat.div_le_self _ _
  refine .grade (a := 1) (b := max 1 (free.length / n : Nat)) hl hu hlb hub .int
    (gives_max .int (.bin hlen (.var hn) (floorDiv_nat (by omega)))) (by omega) fun i hi1 hi2 => ?_
  obtain ⟨k, rfl⟩ := Int.eq_ofNat_of_zero_le (show 0 ≤ i by omega)
  obtain ⟨hkL, hrest⟩ := @enough_left n free.length k cs.length hcn henough (by omega) (by omega)
  refine .sample coding_place (.var hfree) rfl rfl (.var rfl) hkL (by omega) fun js hjs hsub => ?_
  refine .set (.of₃ (.var hgi) (.var rfl) (.var rfl)
    (fill_grid hH (isPatch_of_elements (v := .list (js.map place)) rfl (by simp [Value.size]))) rfl) ?_
  refine .set (.of₂ (.var hfree) (.var rfl) coding_place.difference_tuple rfl) (.nil ?_)
  have hleft := length_filter_notMem hnodup hsub
  refine ⟨hl, hu,
    ⟨cs, rfl, fun c hc => hcols c (by simp [hc]), n, hn, by omega, _, rfl, hnodup.filter _, by omega, by omega⟩,
    _, rfl, hf.filled (hcols c (by simp))⟩

theorem runs_strewing {l : List Int} {f : Int → Int → Int} (hl : env "diff_lb" = some lb) (hu : env "diff_ub" = some ub)
    (hH : 1 ≤ H) (hHW : H * W ≤ 900) (ht : env t = some (.tuple (l.map .int)))
    (hlist : 9 ≤ l.length ∧ l.length ≤ 10 ∧ ∀ c ∈ l, 0 ≤ c ∧ c ≤ 9) (hn : env numc = some (.int n))
    (hn9 : n ≤ 9 ∧ n ≤ H * W) (hgi : env gi = some (grid H W f)) (hf : Coloured H W f)
    (hrest : ∀ env f, env gi = some (grid H W f) → Coloured H W f → Runs E env ss Q) :
    Runs E env ([.sample colsch t numc, .cells inds gi, .for col colsch (Stmt.scatter gi)] ++ ss) Q := by
  have htuple : totuple (places (cellSet H W)) = .ok (.tuple ((cellList H W).map place)) := by
    rw [map_cellList]
    rfl
  refine .sample coding_int (.var ht) rfl rfl (.var hn) (by omega) (by omega) fun cs hcs hsub => ?_
  refine .set (.of₁ (.of₁ (.var hgi) (asindices_grid hH) rfl) htuple rfl) ?_
  refine .«for» (Strewing H W lb ub)
    (.var rfl) rfl ?_ (fun x rest env' hI => ⟨_, rfl, strewing_round hlb hub hH hHW hI⟩) ?_
  · refine ⟨hl, hu, ⟨cs, rfl, fun c hc => hlist.2.2 c (hsub.subset hc), n, hn, hcs.le, _, rfl, ?_, ?_, ?_⟩, f, hgi, hf⟩
    · exact strict_cellList.nodup.of_map _
    · rw [length_cellList]
    · rw [length_cellList]
      omega
  · rintro env' ⟨-, -, -, f, hf, hcol⟩
    exact hrest env' f hf hcol

/-- After the start and the strewing, the grid has the drawn size and its colours are colours. -/
theorem runs_strewn (ht : t = cols ∨ t = rest) (hl : env "diff_lb" = some lb) (hu : env "diff_ub" = some ub)
    {a b c d : Int} (hs : (1 ≤ a ∧ a ≤ b ∧ b ≤ 30) ∧ 1 ≤ c ∧ c ≤ d ∧ d ≤ 30) (hrest : ∀ (H W : Nat) env f, 1 ≤ H ∧ H ≤
      b → 1 ≤ W ∧ W ≤ d → env gi = some (grid H W f) → Coloured H W f → Runs E env ss Q) :
    Runs E env (sized (.int a) (.int b) (.int c) (.int d) (speckled t ss)) Q := by
  refine .set gives_colors (.grade (a := a) (b := b) hl hu hlb hub .int .int (by omega) fun i hi1 hi2 =>
    .grade (a := c) (b := d) hl hu hlb hub .int .int (by omega) fun j hj1 hj2 => ?_)
  obtain ⟨H, rfl⟩ := Int.eq_ofNat_of_zero_le (show 0 ≤ i by omega)
  obtain ⟨W, rfl⟩ := Int.eq_ofNat_of_zero_le (show 0 ≤ j by omega)
  have hHW : H * W ≤ 30 * 30 := Nat.mul_le_mul (by omega) (by omega)
  refine .choice (l := colourList) (.var rfl) (by decide) (by decide) fun bg hbg => ?_
  have hbg9 : 0 ≤ bg ∧ bg ≤ 9 := by revert bg; decide
  refine .set (.of₂ (.var rfl) (.pair (.var rfl) (.var rfl)) (canvas_int bg H W) rfl) ?_
  refine .set (.of₂ (.var rfl) (.var rfl) (@Coding.remove_tuple _ _ colourList bg coding_int _) rfl) ?_
  refine .grade (a := 0) (b := min 9 (H * W : Nat)) hl hu hlb hub .int (gives_min .int (.bin (.var rfl) (.var rfl) rfl))
    (by omega) fun k hk1 hk2 => ?_
  obtain ⟨n, rfl⟩ := Int.eq_ofNat_of_zero_le hk1
  rcases ht with rfl | rfl
  · exact runs_strewing (l := colourList) hlb hub hl hu (by omega) hHW rfl (by decide) rfl (by omega) rfl
      (fun _ _ => hbg9) fun env f => hrest H W env f (by omega) (by omega)
  · exact runs_strewing (l := colourList.filter (· ≠ bg)) hlb hub hl hu (by omega) hHW rfl (other_colours bg hbg) rfl
      (by omega) rfl (fun _ _ => hbg9) fun env f => hrest H W env f (by omega) (by omega)

theorem runs_8be77c9e :
    Runs E (startEnv lb ub) (task8be77c9e ++ [.finish gi go]) (Solved Verifier.Tasks.task8be77c9e) := by
  refine runs_strewn (a := 1) (b := 15) (c := 1) (d :=
    30) hlb hub (.inl rfl) rfl rfl (by omega) fun H W env f hH hW hgi hf => ?_
  refine .set (.of₂ (.var hgi) (.of₁ (.var hgi) hmirror_grid rfl) vconcat_grid rfl) ?_
  refine .solved hgi rfl hf (hf.vconcat hf.hmirror) ?_ (by omega)
  refine .call hmirror_grid rfl ?_
  refine .call vconcat_grid rfl (.nil rfl)

theorem runs_6d0aefbc :
    Runs E (startEnv lb ub) (task6d0aefbc ++ [.finish gi go]) (Solved Verifier.Tasks.task6d0aefbc) := by
  refine .set (v := .tuple [.int 1, .int 30]) (.pair .int .int) ?_
  refine runs_strewn (a := 1) (b := 30) (c := 1) (d :=
    15) hlb hub (.inr rfl) rfl rfl (by omega) fun H W env f hH hW hgi hf => ?_
  refine .set (.of₂ (.var hgi) (.of₁ (.var hgi) vmirror_grid rfl) hconcat_grid rfl) ?_
  refine .solved hgi rfl hf (hf.hconcat hf.vmirror) ?_ (by omega)
  refine .call vmirror_grid rfl ?_
  refine .call hconcat_grid rfl (.nil rfl)

theorem runs_62c24649 :
    Runs E (startEnv lb ub) (task62c24649 ++ [.finish gi go]) (Solved Verifier.Tasks.task62c24649) := by
  refine runs_strewn (a := 1) (b := 15) (c := 1) (d :=
    15) hlb hub (.inr rfl) rfl rfl (by omega) fun H W env f hH hW hgi hf => ?_
  refine .set (.of₂ (.of₂ (.var hgi) (.of₁ (.var hgi) vmirror_grid rfl) hconcat_grid rfl)
    (.of₂ (.of₁ (.var hgi) hmirror_grid rfl)
      (.of₁ (.of₁ (.var hgi) vmirror_grid rfl) hmirror_grid rfl) hconcat_grid rfl)
    vconcat_grid rfl) ?_
  refine .solved hgi rfl hf
    ((hf.hconcat hf.vmirror).vconcat (hf.hmirror.hconcat hf.vmirror.hmirror)) ?_ (by omega)
  refine .call vmirror_grid rfl ?_
  refine .call hconcat_grid rfl ?_
  refine .call hmirror_grid rfl ?_
  refine .call vconcat_grid rfl (.nil rfl)

theorem runs_8d5021e8 :
    Runs E (startEnv lb ub) (task8d5021e8 ++ [.finish gi go]) (Solved Verifier.Tasks.task8d5021e8) := by
  refine runs_strewn (a := 1) (b := 10) (c := 1) (d :=
    15) hlb hub (.inr rfl) rfl rfl (by omega) fun H W env f hH hW hgi hf => ?_
  have hrow := hf.vmirror.hconcat hf
  refine .set (.of₂ (.of₁ (.var hgi) vmirror_grid rfl) (.var hgi) hconcat_grid rfl) ?_
  refine .set (.of₂ (.var rfl) (.of₁ (.var rfl) hmirror_grid rfl) vconcat_grid rfl) ?_
  refine .set (.of₂ (.of₁ (.var rfl) hmirror_grid rfl) (.var rfl) vconcat_grid rfl) ?_
  refine .solved hgi rfl hf (hrow.hmirror.vconcat (hrow.vconcat hrow.hmirror)) ?_ (by omega)
  refine .call vmirror_grid rfl ?_
  refine .call hconcat_grid rfl ?_
  refine .call hmirror_grid rfl ?_
  refine .call vconcat_grid rfl ?_
  refine .call vconcat_grid rfl ?_
  refine .call hmirror_grid rfl (.nil ?_)
  rw [Nat.add_assoc]
  refine grid_ext fun i j hi hj => ?_
  push_cast
  -- which of the three blocks a row lies in, before and after the mirroring
  by_cases h1 : (i : Int) < H
  · rw [if_neg (by omega), if_pos h1, show (H + (H + H) : Int) - 1 - i - (H + H) = H - 1 - i by omega]
  · by_cases h2 : (i : Int) - H < H
    · rw [if_pos (by omega), if_neg (by omega), if_neg h1, if_pos h2,
        show (H : Int) - 1 - ((H + (H + H)) - 1 - i - H) = i - H by omega]
    · rw [if_pos (by omega), if_pos (by omega), if_neg h1, if_neg h2, show (H : Int) - 1 - (i - H - H) = H +
        (H + H) - 1 - i by omega]

end Strewn

/-- The four recipes that mirror a grid with strewn cells never fail, whatever the source: there are always enough cells
left to strew. Their examples are grids, and the verifiers find the outputs. -/
theorem mirrored_speckles_agree {task : String} (ht : task ∈ ["8be77c9e", "6d0aefbc", "62c24649", "8d5021e8"])
    {lb ub : Value} (hlb : IsDifficulty lb) (hub : IsDifficulty ub) (s : Session) :
    Agree (fun _ => False) task lb ub s := by
  simp only [mem_cons, not_mem_nil, or_false] at ht
  rcases ht with rfl | rfl | rfl | rfl
  · exact .of_runs rfl rfl (runs_8be77c9e hlb hub) s
  · exact .of_runs rfl rfl (runs_6d0aefbc hlb hub) s
  · exact .of_runs rfl rfl (runs_62c24649 hlb hub) s
  · exact .of_runs rfl rfl (runs_8d5021e8 hlb hub) s

theorem mirrored_speckles_agree_unit : Agree (fun _ => False) "62c24649" (.int 0) (.int 1) (.ofSeed 0) :=
  mirrored_speckles_agree (by decide) ⟨rfl, rfl⟩ ⟨rfl, rfl⟩ _

end PuzzlePrograms
