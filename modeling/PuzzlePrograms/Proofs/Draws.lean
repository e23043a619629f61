import PuzzlePrograms.Proofs.FiniteFloats
import PuzzlePrograms.Proofs.Running

/-!
# What a draw can come to

A draw from a non-empty sequence is one of its elements, a sample has elements from different places, and a whole
number that is drawn between bounds lies between them, whatever the state of the source. For a number drawn by
difficulty this needs that the arithmetic of fractions stays finite.
-/

namespace PuzzlePrograms

variable {k K : Nat} {xs : List Value}

namespace Random.Source

open List

/-! ## 1. Positions -/

theorem belowByBits_lt {n : Nat} (h0 : 0 < n) (k fuel : Nat) (s : Source) : (belowByBits n k fuel s).1 < n := by
  induction fuel generalizing s with
  | zero => exact h0
  | succ fuel ih =>
    simp only [belowByBits]
    split
    · assumption
    · exact ih _

theorem below_lt {n : Nat} (h0 : 0 < n) (hn : n < 2 ^ 53) (s : Source) : (below n s).1 < n := by
  have hmod : ∀ r, stepsMod n r < n := fun r => Nat.mod_lt _ h0
  unfold below
  split
  · rw [belowByFraction, if_pos hn]
    exact hmod _
  · exact belowByBits_lt h0 _ attempts s

theorem freshBelow_spec {n : Nat} {taken : List Nat} (hlen : taken.length < n) (hn : n < 2 ^ 53) (fuel : Nat)
    (s : Source) : (freshBelow n taken fuel s).1 < n ∧ (freshBelow n taken fuel s).1 ∉ taken := by
  induction fuel generalizing s with
  | zero =>
    -- fewer numbers are taken than there are, so one of them is free
    have hfree : ∃ j ∈ range n, j ∉ taken := by
      by_contra! hall
      have := (nodup_range.subperm hall).length_le
      rw [length_range] at this
      omega
    cases hfind : (range n).find? fun j => !taken.contains j with
    | none =>
      obtain ⟨j, hj, hjt⟩ := hfree
      exact absurd (find?_eq_none.mp hfind j hj) (by simpa using hjt)
    | some j =>
      have hj := find?_some hfind
      have hmem := mem_of_find?_eq_some hfind
      simp only [freshBelow, hfind, Option.getD_some]
      exact ⟨mem_range.mp hmem, by simpa using hj⟩
  | succ fuel ih =>
    simp only [freshBelow]
    split
    · exact ih _
    · exact ⟨below_lt (by omega) hn s, by simpa using ‹¬ taken.contains _ = true›⟩

theorem distinct_spec {n : Nat} (hn : n < 2 ^ 53) (k : Nat) (s : Source) (acc : List Nat) (hk : k + acc.length ≤ n)
    (hacc : acc.Nodup) (hlt : ∀ p ∈ acc, p < n) : (distinct n k s acc).1.Nodup ∧ (distinct n k s acc).1.length = k +
    acc.length ∧ ∀ p ∈ (distinct n k s acc).1, p < n := by
  induction k generalizing s acc with
  | zero => simpa [distinct, nodup_reverse] using ⟨hacc, hlt⟩
  | succ k ih =>
    obtain ⟨hj, hfresh⟩ := @freshBelow_spec n acc (by omega) hn attempts s
    have := ih (freshBelow n acc attempts s).2 ((freshBelow n acc attempts s).1 :: acc)
      (by simp only [length_cons]; omega) (nodup_cons.mpr ⟨hfresh, hacc⟩) (by simpa using ⟨hj, hlt⟩)
    rw [length_cons, ← Nat.add_assoc, Nat.add_right_comm] at this
    exact this

/-- What stays true of a shrinking pool: its first `n` entries differ, and none of them has been drawn. -/
structure Pool (N n : Nat) (pool : Array Nat) (acc : List Nat) : Prop where
  size : n ≤ pool.size
  drawn : acc.Nodup
  differ : ∀ i < n, ∀ j < n, pool.getD i 0 = pool.getD j 0 → i = j
  fresh : ∀ i < n, pool.getD i 0 ∉ acc
  bounded : ∀ i < n, pool.getD i 0 < N
  low : ∀ p ∈ acc, p < N

theorem Pool.draw {N n j : Nat} {pool : Array Nat} {acc : List Nat} (h : Pool N n pool acc) (hj : j < n) :
    Pool N (n - 1) (pool.setIfInBounds j (pool.getD (n - 1) 0)) (pool.getD j 0 :: acc) := by
  have hsize := h.size
  have hget :
    ∀ i < n - 1, (pool.setIfInBounds j (pool.getD (n - 1) 0)).getD i 0 = pool.getD (if j = i then n - 1 else i) 0 := by
    intro i hi
    simp only [Array.getD_eq_getD_getElem?, Array.getElem?_setIfInBounds, if_pos (show j < pool.size by omega)]
    split <;> rfl
  have hidx : ∀ i < n - 1, (if j = i then n - 1 else i) < n := by
    intro i hi
    split <;> omega
  refine ⟨by simp only [Array.size_setIfInBounds]; omega, nodup_cons.mpr ⟨h.fresh j hj, h.drawn⟩, ?_, ?_, ?_, ?_⟩
  · intro i hi k hk heq
    rw [hget i hi, hget k hk] at heq
    have := h.differ _ (hidx i hi) _ (hidx k hk) heq
    split at this <;> split at this <;> omega
  · intro i hi
    rw [hget i hi, mem_cons, not_or]
    refine ⟨fun heq => ?_, h.fresh _ (hidx i hi)⟩
    have := h.differ _ (hidx i hi) _ hj heq
    split at this <;> omega
  · intro i hi
    rw [hget i hi]
    exact h.bounded _ (hidx i hi)
  · intro p hp
    rcases mem_cons.mp hp with rfl | hp
    · exact h.bounded j hj
    · exact h.low p hp

theorem fromPool_spec {N : Nat} (k n : Nat) (pool : Array Nat) (s : Source) (acc : List Nat) (hk : k ≤ n)
    (hn : n < 2 ^ 53) (h : Pool N n pool acc) : (fromPool k n pool s acc).1.Nodup ∧ (fromPool k n pool s acc).1.length =
    k + acc.length ∧ ∀ p ∈ (fromPool k n pool s acc).1, p < N := by
  induction k generalizing n pool s acc with
  | zero => simpa [fromPool, nodup_reverse] using ⟨h.drawn, h.low⟩
  | succ k ih =>
    have := ih (n - 1) _ (below n s).2 _ (by omega) (by omega) (h.draw (below_lt (by omega) hn s))
    rw [length_cons, ← Nat.add_assoc, Nat.add_right_comm] at this
    exact this

theorem positions_spec {n : Nat} (hk : k ≤ n) (hn : n < 2 ^ 53) (s : Source) :
    (positions n k s).1.Nodup ∧ (positions n k s).1.length = k ∧ ∀ p ∈ (positions n k s).1, p < n := by
  unfold positions
  split
  · have hget : ∀ i < n, (Array.range n).getD i 0 = i := by
      intro i hi
      simp [Array.getD, hi]
    refine fromPool_spec k n _ s [] hk hn ⟨by simp, .nil, ?_, by simp, fun i hi => by rwa [hget i hi], by simp⟩
    intro i hi j hj heq
    rwa [hget i hi, hget j hj] at heq
  · exact distinct_spec hn k s [] hk .nil (by simp)

end Random.Source

namespace Recipe

open Value Dsl

variable {E : Failure → Prop} {env : Env}

/-! ## 2. Choices and samples -/

theorem related_lt_int (i j : Int) : related .lt (.int i) (.int j) = .ok (decide (i < j)) := by
  show Except.ok (Ord.compare i j == .lt) = _
  rw [Bool.eq_iff_iff.mpr (by simp [compare_lt_iff_lt] : (Ord.compare i j == .lt) = true ↔ decide (i < j) = true)]

theorem related_gt_int (i j : Int) : related .gt (.int i) (.int j) = .ok (decide (j < i)) := by
  show Except.ok (Ord.compare i j == .gt) = _
  rw [Bool.eq_iff_iff.mpr (by simp [compare_gt_iff_gt] : (Ord.compare i j == .gt) = true ↔ decide (j < i) = true)]

theorem related_le_int (i j : Int) : related .le (.int i) (.int j) = .ok (decide (i ≤ j)) := by
  show Except.ok (Ord.compare i j != .gt) = _
  rw [Bool.eq_iff_iff.mpr (by simp [compare_gt_iff_gt] : (Ord.compare i j != .gt) = true ↔ decide (i ≤ j) = true)]

theorem item_tuple (h : k < xs.length) : (tuple xs).item (.int k) = .ok (xs.get ⟨k, h⟩) := by
  have hplace : place? xs.length k = some k := by simp [place?, h, Int.not_lt.mpr (Int.natCast_nonneg k)]
  simp [item, nth, int?, hplace, h]

theorem yields_choice (h0 : xs ≠ []) (hlen : xs.length < 2 ^ 53) : Yields E env (choice (.tuple xs)) (· ∈ xs) := by
  have hpos : 0 < xs.length := List.length_pos_iff.mpr h0
  have hne : (xs.length == 0) = false := by simpa using h0
  refine .bindEq (a := xs.length) (.lift rfl) ?_
  rw [hne]
  refine .bind (P := (· < xs.length)) (.draw (Random.Source.below_lt hpos hlen)) fun k hk => ?_
  exact (Yields.lift (item_tuple hk)).mono fun v hv => hv ▸ List.get_mem xs ⟨k, hk⟩

/-- A sample of `k` elements of a sequence: they stand at different places. -/
def IsSample (xs : List Value) (k : Nat) (v : Value) : Prop := ∃ ys, v = .list ys ∧ ys.length = k ∧ ys.Subperm xs

theorem yields_sample {seq : Value} (hseq : isSequence seq = true)
    (hxs : seq.elements = .ok xs) (hk : k ≤ xs.length) (hlen : xs.length < 2 ^ 53) :
    Yields E env (sample seq (.int k)) (IsSample xs k) := by
  have hle : related .le 0 (.int k) = .ok true := by
    rw [← decide_eq_true (Int.natCast_nonneg k)]
    exact related_le_int 0 k
  have hfit : related .le (.int k) (.int xs.length) = .ok true := by
    rw [← decide_eq_true (Int.ofNat_le.mpr hk)]
    exact related_le_int k xs.length
  unfold sample
  rw [hseq]
  refine .bindEq (a := xs) (.lift hxs) (.bindEq (a := true) (.lift hle)
    (.bindEq (a := true) (.lift hfit) (.bindEq (a := (k : Int)) (.lift rfl) ?_)))
  refine .bind (.draw (P := fun ps => ps.Nodup ∧ ps.length = k ∧ ∀ p ∈ ps, p < xs.length)
    (Random.Source.positions_spec hk hlen)) fun ps hps => .pure ?_
  refine ⟨_, rfl, by simpa using hps.2.1, ?_⟩
  have hsub : ps.Subperm (List.range xs.length) := hps.1.subperm fun p hp => List.mem_range.mpr (hps.2.2 p hp)
  have hall : (List.range xs.length).map (fun p => xs.toArray.getD p .nothing) = xs := by
    refine List.ext_getElem (by simp) fun i h₁ h₂ => ?_
    simp [h₂]
  obtain ⟨qs, hperm, hqs⟩ := hsub
  have hmap := hqs.map fun p => xs.toArray.getD p .nothing
  rw [hall] at hmap
  exact ⟨_, hperm.map _, hmap⟩

/-! ## 3. Numbers drawn by difficulty -/

/-- A number that can bound difficulty. Those in use lie between 0 and 1; any other will do that is not too large to
compute with. -/
def IsDifficulty (v : Value) : Prop :=
  related .le (.int (-10 ^ 50)) v = .ok true ∧ related .le v (.int (10 ^ 50)) = .ok true

/-- As a floating point number, it has an exponent field of at most `K`. -/
def Fits (K : Nat) : Num → Prop
  | .int i => i.natAbs < 2 ^ (K - 1023)
  | .float x => Binary64.exponentField x ≤ K

theorem toFloat_fits {n : Num} (h : Fits K n) (hK : 1023 ≤ K ∧ K ≤ 2000) :
    ∃ x, n.toFloat = .ok x ∧ Binary64.exponentField x ≤ K := by
  cases n with
  | float x => exact ⟨x, rfl, h⟩
  | int i =>
    obtain ⟨x, hx, hfield⟩ := Binary64.exponentField_ofInt h (by omega)
    exact ⟨x, by simp only [Num.toFloat, hx], by omega⟩

theorem fits_of_compare {x : Float} {N : Int} (hN : N.natAbs < 2 ^ 200)
    (hlow : compareFloatInt x (-N) ≠ .lt) (hhigh : compareFloatInt x N ≠ .gt) : Binary64.exponentField x ≤ 1250 := by
  by_contra! hlarge
  unfold compareFloatInt Binary64.compareInt at hlow hhigh
  cases hdec : Binary64.decode x with
  | none =>
    simp only [hdec] at hlow hhigh
    split at hhigh
    · exact hhigh rfl
    · split at hhigh <;> simp_all
  | some p =>
    obtain ⟨m, e⟩ := p
    -- a number that large has its full mantissa and a large exponent
    have hme : 2 ^ 52 ≤ m.natAbs ∧ 175 ≤ e := by
      have hfield : x.toBits.toNat / 2 ^ 52 % 2048 = Binary64.exponentField x := rfl
      simp only [Binary64.decode, hfield] at hdec
      split at hdec
      · cases hdec
      · simp only [beq_iff_eq, show Binary64.exponentField x ≠ 0 by omega, if_false, Option.some.injEq,
          Prod.mk.injEq] at hdec
        obtain ⟨rfl, rfl⟩ := hdec
        refine ⟨?_, by omega⟩
        generalize x.toBits.toNat % 2 ^ 52 = f
        split <;> omega
    simp only [hdec, if_pos (show 0 ≤ e by omega), Option.getD_some, ne_eq, compare_lt_iff_lt, compare_gt_iff_gt,
      not_lt] at hlow hhigh
    have hbig : 2 ^ 227 ≤ (m * 2 ^ e.toNat).natAbs := by
      rw [Int.natAbs_mul, Int.natAbs_pow]
      calc 2 ^ 227 = 2 ^ 52 * 2 ^ 175 := by decide
        _ ≤ m.natAbs * 2 ^ e.toNat := Nat.mul_le_mul hme.1 (Nat.pow_le_pow_right (by decide) (by omega))
    generalize m * 2 ^ e.toNat = z at *
    omega

theorem IsDifficulty.fits {v : Value} (h : IsDifficulty v) : ∃ n, v.num? = some n ∧ Fits 1250 n := by
  obtain ⟨hlow, hhigh⟩ := h
  cases v
  case int i =>
    refine ⟨.int i, rfl, ?_⟩
    have hlow' : Ord.compare (-10 ^ 50 : Int) i ≠ .gt := by
      simpa [related, isNumber, Value.compare, Rel.holds] using hlow
    have hhigh' : Ord.compare i (10 ^ 50) ≠ .gt := by simpa [related, isNumber, Value.compare, Rel.holds] using hhigh
    simp only [ne_eq, compare_gt_iff_gt, not_lt] at hlow' hhigh'
    show i.natAbs < 2 ^ 227
    omega
  case bool b => exact ⟨_, rfl, by cases b <;> exact show _ < 2 ^ 227 by decide⟩
  case float x =>
    refine ⟨.float x, rfl, fits_of_compare (N := 10 ^ 50) (by decide) ?_ ?_⟩
    · simpa [related, isNumber, Value.compare, Rel.holds] using hlow
    · simpa [related, isNumber, Value.compare, Rel.holds] using hhigh
  all_goals cases hhigh

theorem eq_combine {a b : Value} {m n : Num} (ha : a.num? = some m) (hb : b.num? = some n) : a.sub b =
    m.combine n (· - ·) (· - ·) ∧ a.mul b = m.combine n (· * ·) (· * ·) ∧ a.add b = m.combine n (· + ·) (· + ·) := by
  cases a <;> cases ha <;> cases b <;> cases hb <;> exact ⟨rfl, rfl, rfl⟩

theorem combine_float {L : Nat} {m : Num} {y : Float} {f : Int → Int → Int} {g : Float → Float → Float} (hm : Fits K m)
    (hK : 1023 ≤ K ∧ K ≤ 2000) (hg : ∀ x, Binary64.exponentField x ≤ K → Binary64.exponentField (g x y) ≤ L) :
    ∃ z, m.combine (.float y) f g = .ok (.float z) ∧ Binary64.exponentField z ≤ L := by
  obtain ⟨x, hx, hfield⟩ := toFloat_fits hm hK
  refine ⟨g x y, ?_, hg x hfield⟩
  cases m with
  | int i => simp only [Num.combine, hx]; rfl
  | float x' => cases hx; rfl

theorem combine_sub {m n : Num} (hm : Fits K m) (hn : Fits K n) (hK : 1023 ≤ K ∧ K ≤ 1900) :
    ∃ c : Num, m.combine n (· - ·) (· - ·) = .ok c.toValue ∧ Fits (K + 2) c := by
  have hfloat : ∀ x y, Binary64.exponentField x ≤ K → Binary64.exponentField y ≤ K → Fits (K + 2) (.float (x - y)) :=
    fun x y hx hy => (Binary64.exponentField_add_sub hx hy ⟨by omega, by omega⟩).2
  obtain ⟨x, hx, hxK⟩ := toFloat_fits hm (by omega)
  obtain ⟨y, hy, hyK⟩ := toFloat_fits hn (by omega)
  cases m with
  | float x' =>
    refine ⟨.float (x - y), ?_, hfloat x y hxK hyK⟩
    simp only [Num.combine, hx, hy]
    rfl
  | int i =>
    cases n with
    | float y' =>
      refine ⟨.float (x - y), ?_, hfloat x y hxK hyK⟩
      simp only [Num.combine, hx, hy]
      rfl
    | int j =>
      refine ⟨.int (i - j), rfl, ?_⟩
      have hpow : 2 ^ (K + 2 - 1023) = 2 ^ (K - 1023) * 2 ^ 2 := by
        rw [show K + 2 - 1023 = K - 1023 + 2 by omega, Nat.pow_add]
      simp only [Fits] at hm hn ⊢
      omega

theorem num?_toValue (n : Num) : n.toValue.num? = some n := by cases n <;> rfl

theorem exponentField_fraction (r : Random.Source) : Binary64.exponentField r.fraction.1 ≤ 1027 := by
  have hword : ∀ w : UInt32, w.toNat < 2 ^ 32 := fun w => w.toNat_lt
  have hshift : ∀ (w : UInt32), (w >>> 5).toNat < 2 ^ 27 ∧ (w >>> 6).toNat < 2 ^ 26 := by
    intro w
    have := hword w
    simp only [UInt32.toNat_shiftRight, Nat.shiftRight_eq_div_pow]
    constructor <;> simp <;> omega
  have hsteps : ∀ a b : UInt32, Binary64.exponentField
      (.ofNat ((a >>> 5).toNat * 2 ^ 26 + (b >>> 6).toNat) * (1.0 / 9007199254740992.0)) ≤ 1027 := by
    intro a b
    have ha := (hshift a).1
    have hb := (hshift b).2
    exact Binary64.exponentField_mul (Binary64.exponentField_ofNat (by omega)) Binary64.exponentField_unit.le
  exact hsteps _ _

theorem yields_uniform {lb ub : Value} (hl : IsDifficulty lb) (hu : IsDifficulty ub) :
    Yields E env (uniform lb ub) fun v => ∃ x, v = .float x ∧ Binary64.exponentField x ≤ 1260 := by
  obtain ⟨m, hm, hmK⟩ := hl.fits
  obtain ⟨n, hn, hnK⟩ := hu.fits
  obtain ⟨c, hc, hcK⟩ := combine_sub hnK hmK (by omega)
  refine .bindEq (.lift ((eq_combine hn hm).1.trans hc)) (.bind
    (.draw (P := fun x => Binary64.exponentField x ≤ 1027) exponentField_fraction) fun x hx => ?_)
  obtain ⟨y, hy, hyK⟩ := @combine_float 1252 1258 c x (· * ·) (· * ·) hcK (by omega) fun z hz =>
    Binary64.exponentField_mul hz hx
  refine .bindEq (.lift ((eq_combine (num?_toValue c) rfl).2.1.trans hy)) ?_
  obtain ⟨z, hz, hzK⟩ := @combine_float 1250 1260 m y (· + ·) (· + ·) hmK (by omega) fun z hz =>
    (Binary64.exponentField_add_sub (hz.trans (by omega)) hyK (by omega)).1
  exact (Yields.lift ((eq_combine hm rfl).2.2.trans hz)).mono fun v hv => ⟨z, hv, hzK⟩

theorem yields_unifint {lb ub : Value} {a b : Int} (hl : IsDifficulty lb) (hu : IsDifficulty ub) (hab : a ≤ b)
    (ha : a.natAbs < 2 ^ 40) (hb : b.natAbs < 2 ^ 40) :
    Yields E env (unifint lb ub (.tuple [.int a, .int b])) fun v => ∃ i, v = .int i ∧ a ≤ i ∧ i ≤ b := by
  refine Yields.bindEq (a := (.int a, .int b)) (.lift rfl) ((yields_uniform hl hu).bind ?_)
  rintro _ ⟨d, rfl, hd⟩
  have hrecord : Yields E env (modify fun s => { s with drawn := d :: s.drawn }) (· = .unit) := fun s hs => ⟨hs, rfl⟩
  refine hrecord.bindEq (.bindEq (a := .int (b - a)) (.lift rfl) ?_)
  obtain ⟨y, hy, hyK⟩ := @combine_float 1064 1303 (.int (b - a)) d (· * ·) (· * ·)
    (show (b - a).natAbs < 2 ^ 41 by omega) (by omega) fun z hz =>
    Binary64.exponentField_mul hz hd
  refine .bindEq (.lift ((eq_combine rfl rfl).2.1.trans hy)) ?_
  obtain ⟨z, hz, hzK⟩ := @combine_float 1064 1305 (.int a) y (· + ·) (· + ·)
    (show a.natAbs < 2 ^ 41 by omega) (by omega) fun z hz =>
    (Binary64.exponentField_add_sub (hz.trans (by omega)) hyK (by omega)).1
  refine .bindEq (.lift ((eq_combine rfl rfl).2.2.trans hz)) ?_
  obtain ⟨i, hi⟩ := Binary64.roundEven_isSome (show Binary64.exponentField z < 2047 by omega)
  have hround : (Value.float z).rounded = .ok (.int i) := by
    have hnumber : (Value.float z).number = pure (.float z) := rfl
    rw [Value.rounded, toWhole, hnumber, pure_bind]
    simp only [hi]
    rfl
  refine .bindEq (.lift hround) (.bindEq (.lift (related_gt_int i a)) ?_)
  refine .bindEq (.lift ((congrArg _ (apply_ite Value.int (decide (a < i) = true) i a).symm).trans
    (related_lt_int b _))) (.pure ?_)
  by_cases hai : a < i
  · by_cases hbi : b < i
    · exact ⟨b, by simp [hai, hbi], hab, le_refl b⟩
    · exact ⟨i, by simp [hai, hbi], by omega, by omega⟩
  · exact ⟨a, by simp [hai, Int.not_lt.mpr hab], le_refl a, hab⟩

end Recipe

end PuzzlePrograms
