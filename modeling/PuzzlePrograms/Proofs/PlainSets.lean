import PuzzlePrograms.Value.Access
import Mathlib.Data.Finset.Basic
import Mathlib.Data.Finset.Card
import Mathlib.Data.Set.List

/-!
# Plain values, and sets of them

Whole numbers, and tuples and fixed sets of plain values, are plain. On plain values the order of values is a
linear order, equality is identity, and a sorted list is determined by its elements. So the operations on sets do
on plain elements what their names say.
-/

namespace PuzzlePrograms

open List
open Value (compare compareList eqv eqvList)

variable {a b x : Value} {v : Value} {xs ys : List Value}

/-! ## 1. The order on plain values -/

/-- Values made of whole numbers by tuples and fixed sets. -/
inductive Value.Plain : Value → Prop
  | int (i : Int) : Plain (.int i)
  | tuple {xs : List Value} : (∀ x ∈ xs, Plain x) → Plain (.tuple xs)
  | fset {xs : List Value} : (∀ x ∈ xs, Plain x) → Plain (.fset xs)

namespace Value

theorem Plain.isHashable (h : v.Plain) : v.isHashable = true := by
  induction h with
  | int | fset => rfl
  | @tuple xs _ ih =>
    rw [Value.isHashable]
    induction xs with
    | nil => rfl
    | cons x xs hxs => simp_all [allHashable]

theorem compareList_swap (h : ∀ x ∈ xs, ∀ y ∈ ys, compare y x = (compare x y).swap) :
    compareList ys xs = (compareList xs ys).swap := by
  induction xs generalizing ys with
  | nil => cases ys <;> simp [compareList]
  | cons x xs ih =>
    cases ys with
    | nil => simp [compareList]
    | cons y ys =>
      have hxy := h x (by simp) y (by simp)
      have hrest := @ih ys fun a ha b hb => h a (by simp [ha]) b (by simp [hb])
      rw [compareList, compareList, hxy]
      cases compare x y <;> simp_all [Ordering.swap]

theorem compareList_trans {zs : List Value} (heq : ∀ a b, compare a b = .eq → a.Plain → b.Plain → a = b)
    (hx : ∀ x ∈ xs, x.Plain) (hy : ∀ y ∈ ys, y.Plain) (hz : ∀ z ∈ zs, z.Plain)
    (h : ∀ x ∈ xs, ∀ y z, y.Plain → z.Plain → compare x y = .lt → compare y z = .lt → compare x z = .lt)
    (h₁ : compareList xs ys = .lt) (h₂ : compareList ys zs = .lt) : compareList xs zs = .lt := by
  induction xs generalizing ys zs with
  | nil =>
    cases ys with
    | nil => simp [compareList] at h₁
    | cons y ys => cases zs <;> simp_all [compareList]
  | cons x xs ih =>
    cases ys with
    | nil => simp [compareList] at h₁
    | cons y ys =>
      cases zs with
      | nil => simp [compareList] at h₂
      | cons z zs =>
        have px := hx x (by simp)
        have py := hy y (by simp)
        have pz := hz z (by simp)
        rw [compareList] at h₁ h₂ ⊢
        cases hc : compare x y with
        | gt => simp [hc] at h₁
        | eq =>
          obtain rfl := heq x y hc px py
          rw [hc] at h₁
          cases hd : compare x z with
          | gt => simp [hd] at h₂
          | lt => rfl
          | eq =>
            rw [hd] at h₂
            exact ih (fun a ha => hx a (by simp [ha])) (fun a ha => hy a (by simp [ha]))
              (fun a ha => hz a (by simp [ha])) (fun a ha => h a (by simp [ha])) h₁ h₂
        | lt =>
          cases hd : compare y z with
          | gt => simp [hd] at h₂
          | lt => rw [h x (by simp) y z py pz hc hd]
          | eq =>
            obtain rfl := heq y z hd py pz
            rw [hc]

theorem Plain.compare_eq_iff (ha : a.Plain) (hb : b.Plain) : compare a b = .eq ↔ a = b := by
  induction ha generalizing b with
  | int i => cases hb <;> simp [compare, rank]
  | tuple _ ih =>
    cases hb with
    | tuple hys => simpa [compare_tuple] using compareList_eq_iff fun x hx y hy => ih x hx (hys y hy)
    | _ => simp [compare, rank]
  | fset _ ih =>
    cases hb with
    | fset hys => simpa [compare] using compareList_eq_iff fun x hx y hy => ih x hx (hys y hy)
    | _ => simp [compare, rank]

theorem Plain.compare_swap (ha : a.Plain) (hb : b.Plain) : compare b a = (compare a b).swap := by
  induction ha generalizing b with
  | int i =>
    cases hb with
    | int j => simpa only [compare] using Std.OrientedCmp.eq_swap
    | _ => rfl
  | tuple _ ih =>
    cases hb with
    | tuple hys => simpa [compare_tuple] using compareList_swap fun x hx y hy => ih x hx (hys y hy)
    | _ => rfl
  | fset _ ih =>
    cases hb with
    | fset hys => simpa [compare] using compareList_swap fun x hx y hy => ih x hx (hys y hy)
    | _ => rfl

theorem Plain.compare_trans {c : Value} (ha : a.Plain) (hb : b.Plain) (hc : c.Plain)
    (h₁ : compare a b = .lt) (h₂ : compare b c = .lt) : compare a c = .lt := by
  have heq : ∀ a b, compare a b = .eq → a.Plain → b.Plain → a = b := fun a b h ha hb => (ha.compare_eq_iff hb).1 h
  have gt_ne : Ordering.gt ≠ .lt := nofun
  -- values of different kinds follow each other by kind, so three of one kind are left
  induction ha generalizing b c with
  | int i =>
    cases hb <;> cases hc <;>
      first | rfl | exact absurd h₂ gt_ne | exact @Std.TransCmp.lt_trans _ Ord.compare _ _ _ _ h₁ h₂
  | tuple hxs ih | fset hxs ih =>
    cases hb <;> cases hc <;>
      first | rfl | exact absurd h₁ gt_ne | exact absurd h₂ gt_ne | simp only [compare] at h₁ h₂ ⊢
    rename_i hys _ hzs
    exact compareList_trans heq hxs hys hzs (fun x hx y z hy hz => ih x hx hy hz) h₁ h₂

theorem eqvList_iff (h : ∀ x ∈ xs, ∀ y ∈ ys, (eqv x y = true ↔ x = y)) : eqvList xs ys = true ↔ xs = ys := by
  induction xs generalizing ys with
  | nil => cases ys <;> simp [eqvList]
  | cons x xs ih =>
    cases ys with
    | nil => simp [eqvList]
    | cons y ys =>
      have hrest := @ih ys fun a ha b hb => h a (by simp [ha]) b (by simp [hb])
      rw [eqvList, Bool.and_eq_true, h x (by simp) y (by simp), hrest, cons.injEq]

theorem Plain.eqv_iff (ha : a.Plain) (hb : b.Plain) : (a == b) = true ↔ a = b := by
  change eqv a b = true ↔ a = b
  induction ha generalizing b with
  | int i => cases hb <;> simp [eqv, compare, rank]
  | tuple _ ih =>
    cases hb with
    | tuple hys => simpa [eqv] using eqvList_iff fun x hx y hy => ih x hx (hys y hy)
    | _ => simp [eqv, compare, rank]
  | fset _ ih =>
    cases hb with
    | fset hys => simpa [eqv] using eqvList_iff fun x hx y hy => ih x hx (hys y hy)
    | _ => simp [eqv, compare, rank]

end Value

/-! ## 2. Sorted lists of plain values -/

namespace SortedSet

/-- Plain values, each strictly before the next. -/
structure Strict (xs : List Value) : Prop where
  plain : ∀ x ∈ xs, x.Plain
  sorted : xs.Pairwise fun a b => compare a b = .lt

theorem Strict.tail (h : Strict (x :: xs)) : Strict xs := ⟨fun v hv => h.plain v (by simp [hv]), h.sorted.of_cons⟩

theorem Strict.head (h : Strict (x :: xs)) : x.Plain := h.plain x mem_cons_self

theorem Strict.head_lt (h : Strict (x :: xs)) (hv : v ∈ xs) : compare x v = .lt := (pairwise_cons.1 h.sorted).1 v hv

theorem Strict.cons (hx : x.Plain) (h : Strict xs) (hlt : ∀ v ∈ xs, compare x v = .lt) : Strict (x :: xs) :=
  ⟨by simpa using ⟨hx, h.plain⟩, pairwise_cons.2 ⟨hlt, h.sorted⟩⟩

theorem lt_irrefl (hx : x.Plain) : compare x x ≠ .lt := by
  rw [(hx.compare_eq_iff hx).2 rfl]
  nofun

theorem Strict.nodup (h : Strict xs) : xs.Nodup := by
  refine h.sorted.imp_of_mem fun ha _ hlt he => ?_
  subst he
  exact lt_irrefl (h.plain _ ha) hlt

/-- **A strictly sorted list is determined by its elements.** -/
theorem Strict.ext (hx : Strict xs) (hy : Strict ys) (h : ∀ v, v ∈ xs ↔ v ∈ ys) : xs = ys := by
  have hp : xs.Perm ys := (perm_ext_iff_of_nodup hx.nodup hy.nodup).2 h
  refine hp.eq_of_pairwise (fun a b ha hb hab hba => ?_) hx.sorted hy.sorted
  rw [(hx.plain a ha).compare_swap (hy.plain b hb), hab] at hba
  cases hba

theorem isSorted_iff (h : ∀ x ∈ xs, x.Plain) : isSorted xs = true ↔ xs.Pairwise fun a b => compare a b = .lt := by
  induction xs with
  | nil => simp [isSorted]
  | cons x xs ih =>
    have hxs : ∀ y ∈ xs, y.Plain := fun y hy => h y (by simp [hy])
    cases xs with
    | nil => simp [isSorted]
    | cons y rest =>
      rw [isSorted, Bool.and_eq_true, beq_iff_eq, ih hxs]
      constructor
      · rintro ⟨hxy, hs⟩
        refine pairwise_cons.2 ⟨fun v hv => ?_, hs⟩
        rcases mem_cons.1 hv with rfl | hv
        · exact hxy
        · exact (h x (by simp)).compare_trans (hxs y (by simp)) (hxs v (by simp [hv])) hxy ((pairwise_cons.1 hs).1 v hv)
      · intro hs
        exact ⟨(pairwise_cons.1 hs).1 y (by simp), hs.of_cons⟩

theorem dedupe_spec (h : ∀ x ∈ xs, x.Plain) (hs : xs.Pairwise fun a b => compare a b ≠ .gt) :
    Strict (dedupe xs) ∧ ∀ v, v ∈ dedupe xs ↔ v ∈ xs := by
  fun_induction dedupe xs with
  | case1 x y rest he ih =>
    obtain rfl := ((h x (by simp)).compare_eq_iff (h y (by simp))).1 he
    have := ih (fun a ha => h a (by simp at ha ⊢; tauto)) (hs.sublist (by simp))
    exact ⟨this.1, fun v => by rw [this.2]; simp⟩
  | case2 x y rest he ih =>
    obtain ⟨hd, hm⟩ := ih (fun a ha => h a (by simp [ha])) hs.of_cons
    refine ⟨.cons (h x (by simp)) hd fun v hv => ?_, fun v => by simp [hm]⟩
    have hxy : compare x y = .lt := by
      have := (pairwise_cons.1 hs).1 y (by simp)
      cases hc : compare x y <;> simp_all
    rcases mem_cons.1 ((hm v).1 hv) with rfl | hv'
    · exact hxy
    · have hyv := (pairwise_cons.1 hs.of_cons).1 v hv'
      cases hc : compare y v with
      | gt => exact absurd hc hyv
      | eq =>
        obtain rfl := ((h y (by simp)).compare_eq_iff (h v (by simp [hv']))).1 hc
        exact hxy
      | lt => exact (h x (by simp)).compare_trans (h y (by simp)) (h v (by simp [hv'])) hxy hc
  | case3 xs hne =>
    refine ⟨⟨h, ?_⟩, fun v => .rfl⟩
    match xs, hne with
    | [], _ => exact .nil
    | [x], _ => simp
    | x :: y :: rest, hne => exact absurd rfl (hne x y rest)

theorem sorted_mergeSort (h : ∀ x ∈ xs, x.Plain) :
    (xs.mergeSort fun a b => compare a b != .gt).Pairwise fun a b => compare a b ≠ .gt := by
  let r : {v : Value // v.Plain} → {v : Value // v.Plain} → Bool := fun a b => compare a.1 b.1 != .gt
  have htrans : ∀ a b c, r a b = true → r b c = true → r a c = true := by
    rintro ⟨a, ha⟩ ⟨b, hb⟩ ⟨c, hc⟩ hab hbc
    simp only [r, bne_iff_ne] at hab hbc ⊢
    cases h₁ : compare a b with
    | gt => exact absurd h₁ hab
    | eq => rwa [(ha.compare_eq_iff hb).1 h₁]
    | lt =>
      cases h₂ : compare b c with
      | gt => exact absurd h₂ hbc
      | eq => rw [← (hb.compare_eq_iff hc).1 h₂]; exact hab
      | lt => rw [ha.compare_trans hb hc h₁ h₂]; nofun
  have htotal : ∀ a b, (r a b || r b a) = true := by
    rintro ⟨a, ha⟩ ⟨b, hb⟩
    have := ha.compare_swap hb
    cases hc : compare a b <;> simp_all [r]
  let ys : List {v : Value // v.Plain} := xs.attach.map fun x => ⟨x.1, h x.1 x.2⟩
  have hmap : ys.map Subtype.val = xs := by simp [ys]
  have hsort : (ys.map Subtype.val).mergeSort (fun a b => compare a b != .gt) = (ys.mergeSort r).map Subtype.val :=
    (@List.map_mergeSort _ _ r (fun a b => compare a b != .gt) Subtype.val ys fun _ _ _ _ => rfl).symm
  rw [← hmap, hsort]
  exact pairwise_map.2 ((pairwise_mergeSort htrans htotal ys).imp fun hab => by simpa [r] using hab)

/-- **The set of the elements of a list** is strictly sorted and has these elements. -/
theorem ofList_spec (h : ∀ x ∈ xs, x.Plain) : Strict (ofList xs) ∧ ∀ v, v ∈ ofList xs ↔ v ∈ xs := by
  unfold ofList
  split
  · rename_i hs
    exact ⟨⟨h, (isSorted_iff h).1 hs⟩, fun v => .rfl⟩
  · have hm : ∀ v, v ∈ xs.mergeSort (fun a b => compare a b != .gt) ↔ v ∈ xs := fun v => mem_mergeSort
    obtain ⟨hd, hmem⟩ := dedupe_spec (fun x hx => h x ((hm x).1 hx)) (sorted_mergeSort h)
    exact ⟨hd, fun v => (hmem v).trans (hm v)⟩

/-! ## 3. Operations on sets -/

theorem Strict.not_mem_of_lt (h : Strict (x :: xs)) (hv : v.Plain) (hlt : compare v x = .lt) : v ∉ x :: xs := by
  intro hm
  rcases mem_cons.1 hm with rfl | hm
  · exact lt_irrefl hv hlt
  · exact lt_irrefl hv (hv.compare_trans h.head hv hlt (h.head_lt hm))

theorem lt_of_gt (ha : a.Plain) (hb : b.Plain) (h : compare a b = .gt) : compare b a = .lt := by
  rw [ha.compare_swap hb, h]
  rfl

section Operations

variable {xs ys : List Value} {v : Value}

theorem Strict.sublist (hx : Strict xs) (h : ys.Sublist xs) : Strict ys :=
  ⟨fun y hy => hx.plain y (h.subset hy), hx.sorted.sublist h⟩

theorem mem_consIf {k : Bool} : v ∈ consIf k x xs ↔ v = x ∧ k = true ∨ v ∈ xs := by cases k <;> simp [consIf]

theorem mem_merge (hx : Strict xs) (hy : Strict ys) (f k s : Bool) :
    v ∈ merge f k s xs ys ↔ v ∈ xs ∧ v ∉ ys ∧ f = true ∨ v ∈ xs ∧ v ∈ ys ∧ k = true ∨ v ∉ xs ∧ v ∈ ys ∧ s = true := by
  fun_induction merge f k s xs ys with
  | case1 | case2 | case3 | case4 => simp_all
  | case5 x xs y ys hc ih =>
    have := hy.not_mem_of_lt hx.head hc
    have := (nodup_cons.1 hx.nodup).1
    grind [ih hx.tail hy, mem_consIf]
  | case6 x xs y ys hc ih =>
    have := (hx.head.compare_eq_iff hy.head).1 hc
    have := (nodup_cons.1 hx.nodup).1
    have := (nodup_cons.1 hy.nodup).1
    grind [ih hx.tail hy.tail, mem_consIf]
  | case7 x xs y ys hc ih =>
    have := hx.not_mem_of_lt hy.head (lt_of_gt hx.head hy.head hc)
    have := (nodup_cons.1 hy.nodup).1
    grind [ih hx hy.tail, mem_consIf]

theorem Strict.merge (hx : Strict xs) (hy : Strict ys) (f k s : Bool) : Strict (merge f k s xs ys) := by
  have hcons : ∀ {c : Bool} {x : Value} {xs ys : List Value}, x.Plain → Strict xs → Strict ys →
      Strict (SortedSet.merge f k s xs ys) → (∀ v, v ∈ xs ∨ v ∈ ys → compare x v = .lt) →
      Strict (consIf c x (SortedSet.merge f k s xs ys)) := by
    intro c x xs ys px hx hy h hlt
    cases c with
    | false => exact h
    | true => exact .cons px h fun v hv => hlt v (by grind [mem_merge hx hy f k s])
  fun_induction SortedSet.merge f k s xs ys with
  | case1 => exact hy
  | case3 => exact hx
  | case2 | case4 => exact ⟨by simp, .nil⟩
  | case5 x xs y ys hc ih =>
    refine hcons hx.head hx.tail hy (ih hx.tail hy) fun v hv => hv.elim hx.head_lt fun h => ?_
    rcases mem_cons.1 h with rfl | h
    · exact hc
    · exact hx.head.compare_trans hy.head (hy.plain v (by simp [h])) hc (hy.head_lt h)
  | case6 x xs y ys hc ih =>
    obtain rfl := (hx.head.compare_eq_iff hy.head).1 hc
    exact hcons hx.head hx.tail hy.tail (ih hx.tail hy.tail) fun v hv => hv.elim hx.head_lt hy.head_lt
  | case7 x xs y ys hc ih =>
    have hyx := lt_of_gt hx.head hy.head hc
    refine hcons hy.head hx hy.tail (ih hx hy.tail) fun v hv => hv.elim (fun h => ?_) hy.head_lt
    rcases mem_cons.1 h with rfl | h
    · exact hyx
    · exact hy.head.compare_trans hx.head (hx.plain v (by simp [h])) hyx (hx.head_lt h)

theorem isSubset_eq : isSubset xs ys = (diff xs ys).isEmpty := by
  fun_induction isSubset xs ys <;> simp_all [diff, merge, consIf]

theorem isSubset_iff (hx : Strict xs) (hy : Strict ys) : isSubset xs ys = true ↔ ∀ v ∈ xs, v ∈ ys := by
  simp [isSubset_eq, diff, eq_nil_iff_forall_not_mem, mem_merge hx hy]

end Operations

end SortedSet

/-! ## 4. Finite sets as values -/

/-- A way to write the elements of a type as plain values, each in its own way. -/
structure Coding {α : Type} (code : α → Value) : Prop where
  plain : ∀ a, (code a).Plain
  injective : Function.Injective code

/-- The elements of a finite set in the order of values. -/
noncomputable def listed {α : Type} (code : α → Value) (S : Finset α) : List Value :=
  SortedSet.ofList (S.toList.map code)

namespace Coding

open SortedSet

variable {α : Type} {code : α → Value} (c : Coding code) {S T : Finset α}
include c

theorem listed_spec (S : Finset α) : Strict (listed code S) ∧ ∀ v, v ∈ listed code S ↔ ∃ a ∈ S, code a = v := by
  obtain ⟨hs, hm⟩ := @ofList_spec (S.toList.map code) (by simpa using fun a _ => c.plain a)
  exact ⟨hs, fun v => by simp [listed, hm]⟩

theorem strict (S : Finset α) : Strict (listed code S) := (c.listed_spec S).1

theorem mem_listed : v ∈ listed code S ↔ ∃ a ∈ S, code a = v := (c.listed_spec S).2 v

theorem code_mem {a : α} : code a ∈ listed code S ↔ a ∈ S := by
  rw [c.mem_listed]
  exact ⟨fun ⟨b, hb, e⟩ => c.injective e ▸ hb, fun h => ⟨a, h, rfl⟩⟩

theorem eq_listed (h : Strict xs) (hm : ∀ v, v ∈ xs ↔ ∃ a ∈ S, code a = v) : xs = listed code S :=
  h.ext (c.strict S) fun v => (hm v).trans c.mem_listed.symm

theorem ofList_map [DecidableEq α] (l : List α) : ofList (l.map code) = listed code l.toFinset := by
  obtain ⟨hs, hm⟩ := @ofList_spec (l.map code) (by simpa using fun a _ => c.plain a)
  exact c.eq_listed hs fun v => by simp [hm]

theorem exists_list (S : Finset α) : ∃ l : List α, l.Nodup ∧ (∀ a, a ∈ l ↔ a ∈ S) ∧ listed code S = l.map code := by
  have hl : listed code S ∈ Set.range (map code) := by
    rw [Set.range_list_map]
    intro v hv
    obtain ⟨a, _, rfl⟩ := c.mem_listed.1 hv
    exact ⟨a, rfl⟩
  obtain ⟨l, hl⟩ := hl
  refine ⟨l, .of_map code (hl ▸ (c.strict S).nodup), fun a => ?_, hl.symm⟩
  rw [← c.code_mem, ← hl, mem_map_of_injective c.injective]

theorem length_listed (S : Finset α) : (listed code S).length = S.card := by
  classical
  obtain ⟨l, hn, hm, hl⟩ := c.exists_list S
  have : l.toFinset = S := Finset.ext fun a => by simp [hm]
  rw [hl, length_map, ← this, toFinset_card_of_nodup hn]

theorem merge_listed (f k s : Bool) {U : Finset α}
    (h : ∀ a, a ∈ U ↔ a ∈ S ∧ a ∉ T ∧ f = true ∨ a ∈ S ∧ a ∈ T ∧ k = true ∨ a ∉ S ∧ a ∈ T ∧ s = true) :
    merge f k s (listed code S) (listed code T) = listed code U := by
  refine c.eq_listed ((c.strict S).merge (c.strict T) f k s) fun v => ?_
  rw [mem_merge (c.strict S) (c.strict T)]
  constructor
  · intro hv
    obtain ⟨a, rfl⟩ : ∃ a, code a = v := by grind [c.mem_listed]
    exact ⟨a, by simpa only [h, c.code_mem] using hv, rfl⟩
  · rintro ⟨a, ha, rfl⟩
    simpa only [h, c.code_mem] using ha

variable [DecidableEq α]

theorem union_listed : union (listed code S) (listed code T) = listed code (S ∪ T) :=
  c.merge_listed _ _ _ fun a => by grind

theorem meet_listed : meet (listed code S) (listed code T) = listed code (S ∩ T) :=
  c.merge_listed _ _ _ fun a => by simp

theorem inter_listed : inter (listed code S) (listed code T) = listed code (S ∩ T) := by
  unfold inter
  split
  · exact c.meet_listed
  · rw [c.meet_listed, Finset.inter_comm]

theorem diff_listed : diff (listed code S) (listed code T) = listed code (S \ T) :=
  c.merge_listed _ _ _ fun a => by simp

omit [DecidableEq α] in
theorem set : Coding fun S : Finset α => .fset (listed code S) where
  plain S := .fset (c.strict S).plain
  injective S T h := by
    simp only [Value.fset.injEq] at h
    exact Finset.ext fun a => by rw [← c.code_mem, h, c.code_mem]

end Coding

end PuzzlePrograms
