import Mathlib
import PuzzlePrograms.Library.Invention
import PuzzlePrograms.Proofs.Named
import PuzzlePrograms.Proofs.Replacing

/-!
# The order of the holes of a body

`canonical` numbers the holes of a body again. It puts a mark in place of each hole, from hole 100 down to hole 0, cuts
the text at the marks to see in which order the holes are used, and puts the new holes in place of the marks.

* `Body`: a text with holes that stand apart, as the text before the first hole and each hole with the text after it;
* `replaceChars_spell`: one replacement changes one hole, wherever it is used, and nothing else;
* `canonical_text`: each hole gets the place of its first use among all uses as its number;
* **`canonical_eq_iff`**: two bodies are numbered alike just if they differ in the names of their holes;
* **`canonical_ordered_iff`**: the numbers follow each other just if no hole is used again before all have been used.
-/

namespace PuzzlePrograms.Library

open PuzzlePrograms.Tree Text
open List hiding replace count

variable {x p : List Char} {n m : Nat} {c : Char} {f : Hole → List Char} {k : String → Conversion Int} {s : String}
  {b : Body}

/-! ## 1. First places in lists -/

section Places

variable {α : Type} [DecidableEq α] {l us : List α}

theorem idxOf?_map {β : Type} [DecidableEq β] {f : α → β} (hf : Set.InjOn f {x | x ∈ l}) {x : α} (hx : x ∈ l) :
    (l.map f).idxOf? (f x) = some (l.idxOf x) := by
  have hlt := idxOf_lt_length_of_mem hx
  refine idxOf?_eq_some_iff.mpr ⟨by simpa using hlt, by simp, fun j hj hjx => ?_⟩
  have hjl : j < l.length := hj.trans hlt
  rw [getElem_map] at hjx
  have hfirst := not_of_lt_findIdx hj
  simp [hf (getElem_mem hjl) hx hjx] at hfirst

theorem idxOf_map {f : α → α} (hf : Set.InjOn f {x | x ∈ l}) {x : α} (hx : x ∈ l) :
    (l.map f).idxOf (f x) = l.idxOf x := by
  rw [idxOf_eq_getD_idxOf?, idxOf?_map hf hx]
  rfl

/-- Two lists in which the same places are first places differ in the names of their elements. -/
theorem exists_renaming [Inhabited α] {m : List α} (h : (l.map fun x => l.idxOf x) = m.map fun y => m.idxOf y) :
    ∃ f : α → α, Set.InjOn f {x | x ∈ l} ∧ m = l.map f := by
  have hlen : l.length = m.length := by simpa using congrArg length h
  have hfirst : ∀ n (hn : n < l.length), l.idxOf l[n] = m.idxOf (m.get ⟨n, hlen ▸ hn⟩) := fun n hn => by
    have := congrArg (·[n]?) h
    simpa [hn, hlen ▸ hn] using this
  have hget : ∀ n (hn : n < l.length), m.getD (l.idxOf l[n]) default = m.get ⟨n, hlen ▸ hn⟩ := fun n hn => by
    rw [hfirst n hn, getD_eq_getElem _ _ (idxOf_lt_length_of_mem (get_mem _ _)), getElem_idxOf]
  refine ⟨fun x => m.getD (l.idxOf x) default, fun x hx y hy hxy => ?_, ext_getElem (by simp [hlen]) fun n _ _ => ?_⟩
  · obtain ⟨j, hj, rfl⟩ := getElem_of_mem hx
    obtain ⟨k, hk, rfl⟩ := getElem_of_mem hy
    have hsame : m.get ⟨j, hlen ▸ hj⟩ = m.get ⟨k, hlen ▸ hk⟩ := by rw [← hget j hj, ← hget k hk]; exact hxy
    have hidx : l.idxOf l[j] = l.idxOf l[k] := by rw [hfirst j hj, hfirst k hk, hsame]
    exact (idxOf_inj hx).mp hidx
  · rw [getElem_map, hget]
    rfl

theorem nodup_eraseDups (l : List α) : l.eraseDups.Nodup := by
  induction hn : l.length using Nat.strong_induction_on generalizing l with
  | _ n ih =>
    cases l with
    | nil => exact nodup_nil
    | cons a l =>
      rw [eraseDups_cons, nodup_cons, mem_eraseDups]
      refine ⟨by simp, ih _ ?_ _ rfl⟩
      rw [← hn, length_cons]
      exact Nat.lt_succ_of_le (length_filter_le _ _)

theorem eraseDups_of_nodup (h : us.Nodup) : us.eraseDups = us := by
  induction us with
  | nil => rfl
  | cons a us ih =>
    obtain ⟨ha, hus⟩ := nodup_cons.mp h
    have hfilter : us.filter (fun b => !b == a) = us :=
      filter_eq_self.mpr fun b hb => by simpa using ne_of_mem_of_not_mem hb ha
    rw [eraseDups_cons, hfilter, ih hus]

/-- Each element has the same first place in a list as in the list without repetitions just if all repetitions come
    last. -/
theorem idxOf_eraseDups_iff :
    (∀ x ∈ l, l.idxOf x = l.eraseDups.idxOf x) ↔ ∃ us vs, l = us ++ vs ∧ us.Nodup ∧ vs ⊆ us := by
  constructor
  · intro h
    have hnodup := nodup_eraseDups l
    have hstart : l.eraseDups <+: l := prefix_iff_getElem?.mpr fun n hn => by
      have hmem : l.eraseDups[n] ∈ l := mem_eraseDups.mp (getElem_mem hn)
      have hplace : l.idxOf l.eraseDups[n] = n := (h _ hmem).trans (hnodup.idxOf_getElem n hn)
      have hget := getElem?_idxOf hmem
      rwa [hplace] at hget
    obtain ⟨vs, hvs⟩ := hstart
    refine ⟨l.eraseDups, vs, hvs.symm, hnodup, fun x hx => mem_eraseDups.mpr ?_⟩
    rw [← hvs]
    exact mem_append_right _ hx
  · rintro ⟨us, vs, rfl, hus, hvs⟩ x hx
    have hx : x ∈ us := (mem_append.mp hx).elim id fun h => hvs h
    have hnew : vs.removeAll us = [] := by simpa [removeAll] using fun x hx => hvs hx
    rw [eraseDups_append, eraseDups_of_nodup hus, hnew, eraseDups_nil, append_nil, idxOf_append_of_mem hx]

end Places

/-! ## 2. Texts with holes -/

abbrev Hole := Fin 101

/-- A blank or a bracket, or the end of the text. -/
def Apart : List Char → Prop
  | [] => True
  | c :: _ => isBlank c = true ∨ c = '(' ∨ c = ')'

/-- No sharps in the text `p` nor in the texts after the holes, and around each hole a blank, a bracket or the end. -/
def SetOff : List Char → List (Hole × List Char) → Prop
  | p, [] => '#' ∉ p
  | p, (_, q) :: rest => '#' ∉ p ∧ Apart p.reverse ∧ Apart q ∧ (q = [] → rest = []) ∧ SetOff q rest

/-- A text with holes: the text before the first hole, and each hole with the text after it. -/
structure Body where
  start : List Char
  rest : List (Hole × List Char)
  setOff : SetOff start rest

def spell (f : Hole → List Char) : List Char → List (Hole × List Char) → List Char
  | p, [] => p
  | p, (i, q) :: rest => p ++ (f i ++ spell f q rest)

def holeChars (n : Nat) : List Char := '#' :: Nat.toDigits 10 n

namespace Body

/-- The text with what `f` says in place of each hole. -/
def written (b : Body) (f : Hole → List Char) : String := .ofList (spell f b.start b.rest)

/-- The text with the number that `f` gives to each hole. -/
def numbered (b : Body) (f : Hole → Nat) : String := b.written fun i => holeChars (f i)

def text (b : Body) : String := b.numbered Fin.val

/-- The holes of a body, as often as they are used. -/
def holes (b : Body) : List Hole := b.rest.map (·.1)

theorem setOff_rename {rest : List (Hole × List Char)} (h : SetOff p rest) (f : Hole → Hole) :
    SetOff p (rest.map fun e => (f e.1, e.2)) := by
  induction rest generalizing p with
  | nil => exact h
  | cons e rest ih =>
    obtain ⟨hp, hbefore, hafter, hlast, hrest⟩ := h
    exact ⟨hp, hbefore, hafter, fun hq => by simp [hlast hq], ih hrest⟩

def rename (b : Body) (f : Hole → Hole) : Body where
  start := b.start
  rest := b.rest.map fun e => (f e.1, e.2)
  setOff := setOff_rename b.setOff f

/-- A single word that is made of digits and is no number. -/
def Refused (b : Body) : Prop := b.rest = [] ∧ isDigits (.ofList b.start) = true ∧ int? (.ofList b.start) = none

end Body

section Spelling

variable {p q r : List Char} {rest : List (Hole × List Char)} {f g : Hole → List Char}

theorem spell_congr (h : ∀ e ∈ rest, f e.1 = g e.1) : spell f p rest = spell g p rest := by
  induction rest generalizing p with
  | nil => rfl
  | cons e rest ih =>
    obtain ⟨he, hrest⟩ := forall_mem_cons.mp h
    rw [spell, spell, he, ih hrest]

theorem apart_spell (hq : Apart q) (hlast : q = [] → rest = []) : Apart (spell f q rest) := by
  cases q with
  | nil =>
    rw [hlast rfl]
    trivial
  | cons c q => cases rest <;> exact hq

/-! ## 3. Digits -/

theorem toDigits_cons (n : Nat) : ∃ d ds, Nat.toDigits 10 n = d :: ds ∧ d.isDigit = true := by
  obtain ⟨d, ds, h⟩ := exists_cons_of_ne_nil (Nat.toDigits_ne_nil (n := n) (b := 10))
  exact ⟨d, ds, h, isDigit_toDigits (h ▸ mem_cons_self)⟩

theorem sharp_notMem_toDigits (n : Nat) : '#' ∉ Nat.toDigits 10 n := fun h => absurd (isDigit_toDigits h) (by decide)

def apartCodes : List Nat :=
  range' 9 5 ++ range' 28 5 ++ range' 0x2000 11 ++ [40, 41, 0x85, 0xa0, 0x1680, 0x2028, 0x2029, 0x202f, 0x205f, 0x3000]

/-- What sets a hole off is neither a sharp nor a digit of any script. -/
theorem Apart.head (h : Apart (c :: r)) : isDigit c = false ∧ c.isDigit = false ∧ c ≠ '#' := by
  have hcodes : ∀ n ∈ apartCodes, isDigit (.ofNat n) = false ∧ (Char.ofNat n).isDigit = false ∧ .ofNat n ≠ '#' := by
    decide +kernel
  have hmem : c.toNat ∈ apartCodes := by
    simp only [apartCodes, mem_append, mem_range'_1, mem_cons, not_mem_nil, or_false]
    rcases h with h | rfl | rfl
    · simp only [isBlank, Bool.or_eq_true, Bool.and_eq_true, decide_eq_true_eq, beq_iff_eq] at h
      omega
    · decide
    · decide
  exact Char.ofNat_toNat c ▸ hcodes _ hmem

theorem Apart.no_digit (h : Apart r) : ∀ c ∈ r.head?, c.isDigit = false := by
  cases r with
  | nil => simp
  | cons c r => simpa using h.head.2.1

theorem takeWhile_toDigits (hr : ∀ c ∈ r.head?, c.isDigit = false) :
    (Nat.toDigits 10 n ++ r).takeWhile Char.isDigit = Nat.toDigits 10 n := takeWhile_run (fun _ => isDigit_toDigits) hr

theorem digits_append_inj {y : List Char} (hx : ∀ c ∈ x.head?, c.isDigit = false)
    (hy : ∀ c ∈ y.head?, c.isDigit = false) (h : Nat.toDigits 10 m ++ x = Nat.toDigits 10 n ++ y) : m = n ∧ x = y := by
  have hdigits : Nat.toDigits 10 m = Nat.toDigits 10 n := by rw [← takeWhile_toDigits hx, h, takeWhile_toDigits hy]
  exact ⟨Indexed.Named.toDigits_inj hdigits, append_cancel_left (hdigits ▸ h)⟩

/-- A number whose digits start another number is not larger. -/
theorem le_of_toDigits_append (h : Nat.toDigits 10 n = Nat.toDigits 10 m ++ x) : m ≤ n := by
  have hn := Nat.ofDigitChars_ten_toDigits (n := n)
  rw [h, Nat.ofDigitChars_append, Nat.ofDigitChars_ten_toDigits, Nat.ofDigitChars_eq_ofDigitChars_zero] at hn
  have := Nat.le_mul_of_pos_left m (Nat.pow_pos (n := x.length) (by decide : 0 < 10))
  omega

/-! ## 4. One replacement -/

def markChars (n : Nat) : List Char := ['#', '_', '#', '_'] ++ (Nat.toDigits 10 n ++ ['#', '_', '#', '_'])

variable {old new : List Char}

theorem replaceChars_pass (h : ¬old <+: c :: r) : replaceChars old new 0 (c :: r) = c :: replaceChars old new 0 r := by
  rw [replaceChars, if_neg (mt isPrefixOf_iff_prefix.mp h)]

theorem replaceChars_plain (hp : '#' ∉ p) (hold : '#' ∈ old.head?) (r : List Char) :
    replaceChars old new 0 (p ++ r) = p ++ replaceChars old new 0 r := by
  obtain ⟨cs, rfl⟩ : ∃ cs, old = '#' :: cs := by cases old <;> simp_all
  refine (scan_append (replaceChars ('#' :: cs) new 0)).chars (fun c hc r => replaceChars_pass fun h => hp ?_) r
  exact (cons_prefix_cons.mp h).1 ▸ hc

theorem replaceChars_pair (hold : '#' ∈ old.head?) (h : ¬old <+: '#' :: '_' :: r) :
    replaceChars old new 0 ('#' :: '_' :: r) = '#' :: '_' :: replaceChars old new 0 r :=
  (replaceChars_pass h).trans (congrArg _ (replaceChars_plain (p := ['_']) (by decide) hold r))

/-- A replacement of `old` leaves a text alone that is set off from what follows it. -/
def Passes (old x : List Char) : Prop :=
  ∀ new r, Apart r → replaceChars old new 0 (x ++ r) = x ++ replaceChars old new 0 r

theorem passes_hole (h : n < m) : Passes (holeChars m) (holeChars n) := by
  intro new r hr
  have hno : ¬holeChars m <+: '#' :: (Nat.toDigits 10 n ++ r) := by
    rintro ⟨x, hx⟩
    have hrun : Nat.toDigits 10 m ++ x = Nat.toDigits 10 n ++ r := (cons.inj hx).2
    have htake := congrArg (takeWhile Char.isDigit) hrun
    rw [takeWhile_append_of_pos fun c => isDigit_toDigits, takeWhile_toDigits hr.no_digit] at htake
    exact absurd (le_of_toDigits_append htake.symm) (by omega)
  exact (replaceChars_pass hno).trans (congrArg _ (replaceChars_plain (sharp_notMem_toDigits n) rfl r))

theorem passes_hole_mark (m n : Nat) : Passes (holeChars m) (markChars n) := by
  intro new r _
  obtain ⟨d, ds, hm, hd⟩ := toDigits_cons m
  have hno : ∀ x, ¬holeChars m <+: '#' :: '_' :: x := fun x h => by
    have := (cons_prefix_cons.mp (hm ▸ (cons_prefix_cons.mp h).2)).1
    exact absurd (this ▸ hd) (by decide)
  have hold : '#' ∈ (holeChars m).head? := rfl
  simp [markChars, replaceChars_pair hold (hno _), replaceChars_plain (sharp_notMem_toDigits n) hold]

theorem passes_mark_hole (m n : Nat) : Passes (markChars m) (holeChars n) := by
  intro new r _
  obtain ⟨d, ds, hn, hd⟩ := toDigits_cons n
  have hno : ¬markChars m <+: '#' :: (Nat.toDigits 10 n ++ r) := fun h => by
    rw [hn] at h
    have := (cons_prefix_cons.mp (cons_prefix_cons.mp h).2).1
    exact absurd (this ▸ hd) (by decide)
  exact (replaceChars_pass hno).trans (congrArg _ (replaceChars_plain (sharp_notMem_toDigits n) rfl r))

theorem passes_mark (h : m ≠ n) : Passes (markChars m) (markChars n) := by
  intro new r hr
  have hnext : ∀ z, '#' ∉ z.head? → ¬markChars m <+: '#' :: '_' :: z := fun z hz h => by
    obtain ⟨x, rfl⟩ := (cons_prefix_cons.mp (cons_prefix_cons.mp h).2).2
    exact hz rfl
  have hdigits : ∀ z, markChars m <+: '#' :: '_' :: '#' :: '_' :: z → ∃ x, Nat.toDigits 10 m ++ '#' :: x = z := by
    rintro z ⟨x, hx⟩
    refine ⟨'_' :: '#' :: '_' :: x, ?_⟩
    simpa [markChars] using hx
  -- at the first mark the numbers differ, in its middle a digit comes too soon and at its end none comes
  have hfirst : ¬markChars m <+: '#' :: '_' :: '#' :: '_' :: (Nat.toDigits 10 n ++ '#' :: '_' :: '#' :: '_' :: r) :=
    fun hp => by
    obtain ⟨x, hx⟩ := hdigits _ hp
    exact h (digits_append_inj (by simp) (by simp) hx).1
  have hlast : ¬markChars m <+: '#' :: '_' :: '#' :: '_' :: r := fun hp => by
    obtain ⟨x, rfl⟩ := hdigits _ hp
    obtain ⟨d, ds, hm, hd⟩ := toDigits_cons m
    rw [hm] at hr
    exact absurd hd (by simp [hr.head.2.1])
  have hmiddle : '#' ∉ (Nat.toDigits 10 n ++ '#' :: '_' :: '#' :: '_' :: r).head? := by
    obtain ⟨d, ds, hn, hd⟩ := toDigits_cons n
    rw [hn]
    rintro ⟨⟩
    exact absurd hd (by decide)
  have hend : '#' ∉ r.head? := by
    cases r with
    | nil => simp
    | cons c r => simpa using hr.head.2.2
  have htext :
    ∀ y, markChars n ++ y = '#' :: '_' :: '#' :: '_' :: (Nat.toDigits 10 n ++ '#' :: '_' :: '#' :: '_' :: y) := by
    simp [markChars]
  rw [htext, htext, replaceChars_pair rfl hfirst, replaceChars_pair rfl (hnext _ hmiddle),
    replaceChars_plain (sharp_notMem_toDigits n) rfl, replaceChars_pair rfl hlast, replaceChars_pair rfl (hnext _ hend)]

/-- **A replacement changes one hole, wherever it is used, and nothing else.** -/
theorem replaceChars_spell {i : Hole} (hold : '#' ∈ old.head?) (hi : f i = old) (hpass : ∀ j, j ≠ i → Passes old (f j))
    (h : SetOff p rest) (new : List Char) :
    replaceChars old new 0 (spell f p rest) = spell (fun j => if j = i then new else f j) p rest := by
  induction rest generalizing p with
  | nil =>
    have hp : replaceChars old new 0 (p ++ []) = _ := replaceChars_plain h hold []
    simpa [spell, replaceChars] using hp
  | cons e rest ih =>
    obtain ⟨hp, -, hafter, hlast, hrest⟩ := h
    have hnext : replaceChars old new 0 (f e.1 ++ spell f e.2 rest) =
        (if e.1 = i then new else f e.1) ++ replaceChars old new 0 (spell f e.2 rest) := by
      by_cases he : e.1 = i
      · rw [if_pos he, he, hi, replaceChars_self (by rintro rfl; cases hold)]
      · rw [if_neg he, hpass _ he new _ (apart_spell hafter hlast)]
    rw [spell, replaceChars_plain hp hold, hnext, ih hrest]
    rfl

/-! ## 5. Cutting at the marks -/

abbrev markEnd : List Char := ['#', '_', '#', '_']

theorem splitChars_markEnd (part r : List Char) :
    splitChars markEnd part 0 (markEnd ++ r) = part.reverse :: splitChars markEnd [] 0 r := by
  simp [splitChars]

theorem splitChars_spell (h : SetOff p rest) (part : List Char) :
    splitChars markEnd part 0 (spell (fun i => markChars i) p rest) = (part.reverse ++ p) ::
    rest.flatMap fun e => [Nat.toDigits 10 e.1, e.2] := by
  induction rest generalizing p part with
  | nil => simpa [spell, splitChars] using splitChars_plain h _ part []
  | cons e rest ih =>
    obtain ⟨hp, -, -, -, hrest⟩ := h
    have hmark : ∀ x, markChars e.1 ++ x = markEnd ++ (Nat.toDigits 10 e.1 ++ (markEnd ++ x)) := by simp [markChars]
    rw [spell, splitChars_plain hp, hmark, splitChars_markEnd, splitChars_plain (sharp_notMem_toDigits _),
      splitChars_markEnd, ih hrest]
    simp

theorem isDigits_iff (p : List Char) : isDigits (.ofList p) = true ↔ p ≠ [] ∧ ∀ c ∈ p, isDigit c = true := by
  simp [isDigits]

theorem Apart.not_digits (h : Apart p) : ¬(p ≠ [] ∧ ∀ c ∈ p, isDigit c = true) := by
  rintro ⟨hne, hall⟩
  obtain ⟨c, cs, rfl⟩ := exists_cons_of_ne_nil hne
  exact absurd (hall c mem_cons_self) (by simp [h.head.1])

theorem isDigits_toDigits (n : Nat) : isDigits (.ofList (Nat.toDigits 10 n)) = true := by
  refine (isDigits_iff _).mpr ⟨Nat.toDigits_ne_nil, fun c hc => ?_⟩
  simp [isDigit, isDecimal, decimal?_digit (isDigit_toDigits hc)]

/-- The parts between the marks that are made of digits are the numbers of the holes. -/
theorem filter_parts (h : SetOff p rest) (hne : rest ≠ []) :
    ((p :: rest.flatMap fun e => [Nat.toDigits 10 e.1, e.2]).map .ofList).filter isDigits =
      rest.map fun e => .ofList (Nat.toDigits 10 e.1) := by
  have hpart : ∀ {q : List Char}, Apart q → isDigits (.ofList q) = false := fun hq =>
    Bool.eq_false_iff.mpr fun hd => hq.not_digits ((isDigits_iff _).mp hd)
  have hstart : isDigits (.ofList p) = false := by
    obtain ⟨e, es, rfl⟩ := exists_cons_of_ne_nil hne
    have hb := h.2.1.not_digits
    simp only [ne_eq, reverse_eq_nil_iff, mem_reverse] at hb
    exact Bool.eq_false_iff.mpr fun hd => hb ((isDigits_iff _).mp hd)
  rw [map_cons, filter_cons_of_neg (by simp [hstart])]
  clear hstart hne
  induction rest generalizing p with
  | nil => rfl
  | cons e rest ih =>
    obtain ⟨-, -, hafter, -, hrest⟩ := h
    simp [isDigits_toDigits, hpart hafter, ih hrest]

end Spelling

/-! ## 6. All replacements -/

namespace Body

variable {b : Body} {i : Hole}

/-- What stands for the holes after the replacements for the holes from `n` on: `c` for these and `a` for the others. -/
def stage (a c : Hole → List Char) (n : Nat) (j : Hole) : List Char := if n ≤ j.val then c j else a j

theorem stage_other {a c : Hole → List Char} {j : Hole} (h : j ≠ i) : stage a c (i.val + 1) j = stage a c i.val j := by
  have hne := Fin.val_ne_of_ne h
  have hiff : i.val + 1 ≤ j.val ↔ i.val ≤ j.val := by omega
  simp [stage, hiff]

/-- Replacing what stands for one hole. -/
theorem replace_written (hsharp : '#' ∈ (f i).head?) (hpass : ∀ j, j ≠ i → Passes (f i) (f j)) (new : String) :
    replace (b.written f) (.ofList (f i)) new = b.written fun j => if j = i then new.toList else f j := by
  have h := replaceChars_spell hsharp rfl hpass b.setOff new.toList
  obtain ⟨cs, hcs⟩ : ∃ cs, f i = '#' :: cs := by cases hf : f i <;> simp_all
  rw [written, written, ← h, replace, String.toList_ofList, hcs, String.toList_ofList]

/-- A step for each hole that replaces what `a` says by what `c` says, or the hole is not used. What stands for the
    other holes at that time is passed over. -/
structure Round (b : Body) (a c : Hole → List Char) (step : String → Nat → String) : Prop where
  sharp : ∀ i, '#' ∈ (a i).head?
  below : ∀ i j : Hole, j.val < i.val → Passes (a i) (a j)
  above : ∀ i j : Hole, i.val < j.val → Passes (a i) (c j)
  step : ∀ (i : Hole) (t : String), (i ∉ b.holes ∧ step t i = t) ∨
    ∃ new, (i ∈ b.holes → new.toList = c i) ∧ step t i = replace t (.ofList (a i)) new

variable {a c : Hole → List Char} {step : String → Nat → String}

theorem written_stage (hfi : i ∈ b.holes → f i = c i) (hfj : ∀ j, j ≠ i → f j = stage a c (i.val + 1) j) :
    b.written f = b.written (stage a c i.val) := by
  refine congrArg String.ofList (spell_congr fun e he => ?_)
  by_cases hei : e.1 = i
  · rw [hei, hfi (hei ▸ mem_map_of_mem he), stage, if_pos (Nat.le_refl _)]
  · rw [hfj _ hei, stage_other hei]

theorem Round.replaced (h : Round b a c step) (i : Hole) :
    step (b.written (stage a c (i.val + 1))) i = b.written (stage a c i.val) := by
  have hi : stage a c (i.val + 1) i = a i := if_neg (by omega)
  rcases h.step i (b.written (stage a c (i.val + 1))) with ⟨hnone, ht⟩ | ⟨new, hnew, ht⟩
  · rw [ht, written_stage (fun h => absurd h hnone) fun _ _ => rfl]
  · have hpass : ∀ j, j ≠ i → Passes (a i) (stage a c (i.val + 1) j) := fun j hj => by
      have hne := Fin.val_ne_of_ne hj
      unfold stage
      split
      · exact h.above i j (by omega)
      · exact h.below i j (by omega)
    rw [ht, ← hi, replace_written (hi ▸ h.sharp i) (hi ▸ hpass) new]
    exact written_stage (fun h => by rw [if_pos rfl, hnew h]) fun j hj => if_neg hj

/-- **All replacements**, from hole 100 down to hole 0. -/
theorem Round.foldl (h : Round b a c step) : holeNumbers.foldl step (b.written a) = b.written c := by
  have hall : ∀ n ≤ 101, (range n).reverse.foldl step (b.written (stage a c n)) = b.written (stage a c 0) := by
    intro n
    induction n with
    | zero => exact fun _ => rfl
    | succ n ih =>
      intro hn
      rw [range_succ, reverse_append, reverse_singleton, singleton_append, foldl_cons, h.replaced ⟨n, by omega⟩,
        ih (by omega)]
  have hstart : stage a c 101 = a := funext fun j => if_neg (by omega)
  exact hstart ▸ hall 101 (Nat.le_refl _)

theorem ofList_holeChars (n : Nat) : "#" ++ toString n = .ofList (holeChars n) :=
  String.toList_injective (by simp [holeChars])

theorem ofList_markChars (n : Nat) : holeMark n = .ofList (markChars n) :=
  String.toList_injective (by simp [holeMark, markChars])

theorem foldl_marks (b : Body) : holeNumbers.foldl (fun t i => replace t ("#" ++ toString i) (holeMark i)) b.text =
    b.written fun i => markChars i := by
  refine Round.foldl ⟨fun _ => rfl, fun _ _ => passes_hole, fun i j _ => passes_hole_mark i j,
    fun i t => .inr ⟨holeMark i, ?_⟩⟩
  exact ⟨fun _ => by rw [ofList_markChars, String.toList_ofList], by rw [ofList_holeChars]⟩

/-- The replacements for the marks, if `uses` tells the first use of each hole. -/
theorem foldl_order {uses : List Int} (huses : ∀ i ∈ b.holes, uses.idxOf? (Int.ofNat i) = some (b.holes.idxOf i)) :
    holeNumbers.foldl (fun t i => match uses.idxOf? (Int.ofNat i) with
      | some k => replace t (holeMark i) ("#" ++ toString k)
      | none => t) (b.written fun i => markChars i) = b.numbered fun i => b.holes.idxOf i := by
  refine Round.foldl ⟨fun _ => rfl, fun _ _ h => passes_mark h.ne', fun i _ _ => passes_mark_hole i _, fun i t => ?_⟩
  cases hk : uses.idxOf? (Int.ofNat i) with
  | none =>
    refine .inl ⟨fun hi => ?_, rfl⟩
    rw [huses i hi] at hk
    cases hk
  | some k =>
    refine .inr ⟨"#" ++ toString k, fun hi => ?_, by rw [ofList_markChars]⟩
    rw [huses i hi] at hk
    rw [ofList_holeChars, String.toList_ofList, ← Option.some.inj hk]

theorem split_marks (b : Body) : split (b.written fun i => markChars i) "#_#_" =
    (b.start :: b.rest.flatMap fun e => [Nat.toDigits 10 e.1, e.2]).map .ofList := by
  have h := splitChars_spell b.setOff []
  simp only [split, written, String.toList_ofList]
  exact congrArg _ h

theorem mapM_numbers (hk : ∀ n : Nat, k (.ofList (Nat.toDigits 10 n)) = .ok n)
    (rest : List (Hole × List Char)) : (rest.map fun e => .ofList (Nat.toDigits 10 e.1)).mapM k =
      .ok (rest.map fun e => Int.ofNat e.1) := by
  induction rest with
  | nil => rfl
  | cons e rest ih =>
    rw [map_cons, mapM_cons, hk, ih]
    rfl

/-- What follows the reading of the numbers is told the first use of each hole. -/
theorem uses_bind (h : ¬b.Refused) (hk : ∀ d n, int? d = some n → k d = .ok n) {g : List Int → Conversion String}
    (hg : ∀ uses : List Int, (∀ i ∈ b.holes, uses.idxOf? (Int.ofNat i) = some (b.holes.idxOf i)) → g uses = .ok s) :
    (((b.start :: b.rest.flatMap fun e => [Nat.toDigits 10 e.1, e.2]).map .ofList).filter isDigits).mapM k >>= g =
    .ok s := by
  by_cases hrest : b.rest = []
  · have hany : ∀ uses, g uses = .ok s := fun uses => hg uses (by simp [holes, hrest])
    by_cases hdigits : isDigits (.ofList b.start) = true
    · obtain ⟨n, hn⟩ := Option.ne_none_iff_exists'.mp fun hint => h ⟨hrest, hdigits, hint⟩
      simpa [hrest, hdigits, hk _ n hn, bind, Except.bind, pure, Except.pure] using hany [n]
    · simpa [hrest, hdigits, bind, Except.bind, pure, Except.pure] using hany []
  · rw [filter_parts b.setOff hrest, mapM_numbers fun n => hk _ n (int?_toDigits n)]
    refine hg _ fun i hi => ?_
    have huses : (b.rest.map fun e => Int.ofNat e.1) = b.holes.map fun i : Hole => Int.ofNat i := by simp [holes]
    rw [huses]
    exact idxOf?_map (fun x _ y _ hxy => Fin.ext (Int.ofNat.inj hxy)) hi

/-- **Each hole gets the place of its first use among all uses as its number.** -/
theorem canonical_text (h : ¬b.Refused) : canonical b.text = .ok (b.numbered fun i => b.holes.idxOf i) := by
  unfold canonical
  simp only [foldl_marks, split_marks]
  exact uses_bind h (fun d n hd => by rw [hd]; rfl) fun uses huses => congrArg Except.ok (foldl_order huses)

theorem canonical_refused (h : b.Refused) : canonical b.text = fail .badValue := by
  obtain ⟨hrest, hdigits, hint⟩ := h
  unfold canonical
  simp only [foldl_marks, split_marks]
  simp [hrest, hdigits, hint, fail, bind, Except.bind]

end Body

/-! ## 7. Texts that are numbered alike -/

section Alike

variable {p q : List Char} {rest more : List (Hole × List Char)} {f g : Hole → Nat}

theorem sharp_append_inj {q y : List Char} (hp : '#' ∉ p) (hq : '#' ∉ q) (h : p ++ '#' :: x = q ++ '#' :: y) :
    p = q ∧ x = y := by
  have hrun : ∀ {p x : List Char}, '#' ∉ p → (p ++ '#' :: x).takeWhile (· != '#') = p := fun {p x} hp => by
    rw [takeWhile_append_of_pos (p := (· != '#')) fun c hc => by simpa using ne_of_mem_of_not_mem hc hp]
    simp
  have hpq : p = q := by rw [← hrun hp, h, hrun hq]
  exact ⟨hpq, (cons.inj (append_cancel_left (hpq ▸ h))).2⟩

/-- The text with the numbers of the holes tells the numbers and the texts around them. -/
theorem spell_inj (hp : SetOff p rest) (hq : SetOff q more)
    (h : spell (fun i => holeChars (f i)) p rest = spell (fun i => holeChars (g i)) q more) :
    p = q ∧ (rest.map fun e => (f e.1, e.2)) = more.map fun e => (g e.1, e.2) := by
  induction rest generalizing p q more with
  | nil =>
    cases more with
    | nil => exact ⟨h, rfl⟩
    | cons e more =>
      refine absurd ?_ hp
      rw [show p = _ from h]
      simp [spell, holeChars]
  | cons d rest ih =>
    cases more with
    | nil =>
      refine absurd ?_ hq
      rw [← show _ = q from h]
      simp [spell, holeChars]
    | cons e more =>
      obtain ⟨hp, -, hafter, hlast, hrest⟩ := hp
      obtain ⟨hq, -, hafter', hlast', hmore⟩ := hq
      obtain ⟨rfl, htail⟩ := sharp_append_inj hp hq h
      obtain ⟨hnum, htail⟩ :=
        digits_append_inj (apart_spell hafter hlast).no_digit (apart_spell hafter' hlast').no_digit htail
      obtain ⟨htext, hall⟩ := ih hrest hmore htail
      exact ⟨rfl, by rw [map_cons, map_cons, hall, hnum, htext]⟩

theorem spell_rename {f : Hole → Hole} {g : Hole → List Char} :
    spell g p (rest.map fun e => (f e.1, e.2)) = spell (fun i => g (f i)) p rest := by
  induction rest generalizing p with
  | nil => rfl
  | cons e rest ih => rw [map_cons, spell, spell, ih]

theorem holes_rename (b : Body) (f : Hole → Hole) : (b.rename f).holes = b.holes.map f := by
  simp [Body.holes, Body.rename]

theorem refused_rename (b : Body) (f : Hole → Hole) : (b.rename f).Refused ↔ b.Refused := by
  simp [Body.Refused, Body.rename]

/-- A body with other names for its holes is numbered in the same way. -/
theorem numbered_rename {f : Hole → Hole} (hf : Set.InjOn f {i | i ∈ b.holes}) :
    ((b.rename f).numbered fun i => (b.rename f).holes.idxOf i) = b.numbered fun i => b.holes.idxOf i := by
  rw [holes_rename]
  refine congrArg String.ofList (spell_rename.trans (spell_congr fun e he => ?_))
  exact congrArg holeChars (idxOf_map hf (mem_map_of_mem he))

theorem not_refused (h : canonical b.text = .ok s) : ¬b.Refused := fun hr => by
  rw [Body.canonical_refused hr] at h
  cases h

/-- Bodies that are numbered alike differ in the names of their holes. -/
theorem rename_of_numbered {a : Body}
    (h : (a.numbered fun i => a.holes.idxOf i) = b.numbered fun i => b.holes.idxOf i) :
    ∃ f : Hole → Hole, Set.InjOn f {i | i ∈ a.holes} ∧ b.text = (a.rename f).text := by
  obtain ⟨hstart, hrest⟩ := spell_inj a.setOff b.setOff (String.ofList_injective h)
  have hplaces : (a.holes.map fun i => a.holes.idxOf i) = b.holes.map fun i => b.holes.idxOf i := by
    simpa [Body.holes, Function.comp_def] using congrArg (map Prod.fst) hrest
  have htexts : a.rest.map Prod.snd = b.rest.map Prod.snd := by
    simpa [Function.comp_def] using congrArg (map Prod.snd) hrest
  obtain ⟨f, hf, hholes⟩ := exists_renaming hplaces
  refine ⟨f, hf, ?_⟩
  have hb : b.rest = a.rest.map fun e => (f e.1, e.2) :=
    (zip_of_prod hholes htexts.symm).trans (zip_of_prod (by simp [Body.holes]) (by simp)).symm
  show String.ofList (spell _ b.start b.rest) = .ofList (spell _ a.start (a.rest.map _))
  rw [hstart, hb]

/-- **Two bodies are numbered alike just if they differ in the names of their holes**, unless the first one is
    refused. -/
theorem canonical_eq_iff (a b : Body) : (∃ s, canonical a.text = .ok s ∧ canonical b.text = .ok s) ↔
    ¬a.Refused ∧ ∃ f : Hole → Hole, Set.InjOn f {i | i ∈ a.holes} ∧ b.text = (a.rename f).text := by
  constructor
  · rintro ⟨s, ha, hb⟩
    have hra := not_refused ha
    rw [Body.canonical_text hra] at ha
    rw [Body.canonical_text (not_refused hb)] at hb
    exact ⟨hra, rename_of_numbered (Except.ok.inj (ha.trans hb.symm))⟩
  · rintro ⟨hra, f, hf, hb⟩
    refine ⟨_, Body.canonical_text hra, ?_⟩
    rw [hb, Body.canonical_text (mt (refused_rename a f).mp hra), numbered_rename hf]

end Alike

/-! ## 8. Numbers that follow each other -/

/-- The text with its holes numbered in the order of their first use, without gaps. -/
def Body.ordered (b : Body) : String := b.numbered fun i => b.holes.eraseDups.idxOf i

/-- **The numbers follow each other just if no hole is used again before all holes have been used**, and the body is not
    refused. -/
theorem canonical_ordered_iff (b : Body) : canonical b.text = .ok b.ordered ↔
    ¬b.Refused ∧ ∃ us vs, b.holes = us ++ vs ∧ us.Nodup ∧ vs ⊆ us := by
  rw [← idxOf_eraseDups_iff]
  constructor
  · intro h
    have hr := not_refused h
    rw [Body.canonical_text hr] at h
    obtain ⟨-, hrest⟩ := spell_inj b.setOff b.setOff (String.ofList_injective (Except.ok.inj h))
    refine ⟨hr, fun i hi => ?_⟩
    obtain ⟨e, he, rfl⟩ := mem_map.mp hi
    exact congrArg Prod.fst (map_inj_left.mp hrest e he)
  · rintro ⟨hr, h⟩
    rw [Body.canonical_text hr]
    refine congrArg (fun cs => Except.ok (String.ofList cs)) (spell_congr fun e he => ?_)
    exact congrArg holeChars (h _ (mem_map_of_mem he))

end PuzzlePrograms.Library
