import PuzzlePrograms.Source.Module
import PuzzlePrograms.Proofs.Named

/-!
# Phrases, and tokens one at a time

Texts of names, whole numbers, functions of one parameter, calls with one argument and brackets, written without any
blank that is not needed: `Phrase` is such a text by its parts, `Phrase.text` the text itself. For names, whole numbers
and round brackets there is a lemma for the token that the cutter finds next.
-/

namespace PuzzlePrograms.Source

open List Text Indexed

variable {c d : Char} {cs ds : List Char}

/-! ## 1. Phrases -/

/-- A word that may be the name of something. -/
structure Ident where
  word : String
  isName : Text.isName word = true
  notReserved : Reader.reserved.contains word = false

inductive Phrase where
  | word (w : Ident)
  | num (n : Nat)
  | neg (n : Nat)
  | fn (x : Ident) (b : Phrase)
  | call (f a : Phrase)
  | paren (p : Phrase)

/-- The word before the parameter of a function. -/
def lambdaChars : List Char := ['l', 'a', 'm', 'b', 'd', 'a']

theorem lambdaChars_eq : lambdaChars = "lambda".toList := by simp [lambdaChars]

namespace Phrase

def chars : Phrase → List Char
  | .word w => w.word.toList
  | .num n => Nat.toDigits 10 n
  | .neg n => '-' :: Nat.toDigits 10 n
  | .fn x b => lambdaChars ++ ' ' :: (x.word.toList ++ ':' :: ' ' :: b.chars)
  | .call f a => f.chars ++ '(' :: (a.chars ++ [')'])
  | .paren p => '(' :: (p.chars ++ [')'])

def text (p : Phrase) : String := .ofList p.chars

/-- How deep the brackets of a phrase nest. -/
def nesting : Phrase → Nat
  | .word _ | .num _ | .neg _ => 0
  | .fn _ b => b.nesting
  | .call f a => max f.nesting (a.nesting + 1)
  | .paren p => p.nesting + 1

end Phrase

/-! ## 2. One token at a time -/

/-- What cannot lengthen a name, nor make it the mark of a string. -/
def EndsName (cs : List Char) : Prop := ∀ c ∈ cs.head?, isNameLike c = false ∧ c ≠ '"' ∧ c ≠ '\''

def EndsWhole (cs : List Char) : Prop := ∀ c ∈ cs.head?, isNameLike c = false ∧ c ≠ '.'

theorem isNameLike_of_isNamePart (h : isNamePart c = true) : isNameLike c = true := by
  unfold isNamePart at h
  unfold isNameLike
  split at h
  · rw [h]
    rfl
  · have hc : 128 ≤ c.toNat := by omega
    simp [hc]

section Steps

variable {n : Nat} {blocks : List (Nat × Nat)} {brackets rest : List Char}

theorem isNameStart_ne (h : isNameStart c = true) :
    c ≠ ' ' ∧ c ≠ '\t' ∧ c ≠ '\x0c' ∧ c ≠ '#' ∧ c ≠ '\n' ∧ c ≠ '\\' ∧ c ≠ '"' ∧ c ≠ '\'' ∧ c ≠ '.' := by
  refine ⟨?_, ?_, ?_, ?_, ?_, ?_, ?_, ?_, ?_⟩ <;> (rintro rfl; revert h; decide)

theorem lexFrom_name {w : String} (hw : isName w = true) (hr : EndsName rest) :
    lexFrom (n + 1) blocks brackets false (w.toList ++ rest) = .name w :: lexFrom n blocks brackets false rest := by
  obtain ⟨c, cs, hl, hc, hall⟩ := isName_chars hw
  have hlike : ∀ d ∈ w.toList, isNameLike d = true := fun d hd =>
    isNameLike_of_isNamePart (hall d (hl ▸ hd))
  have hdigit : c.isDigit = false := Bool.eq_false_iff.mpr fun hd => by simp [isNameStart_digit hd] at hc
  have hfirst : isNameLike c = true := hlike c (by simp [hl])
  obtain ⟨h1, h2, h3, h4, h5, h6, h7, h8, h9⟩ := isNameStart_ne hc
  have hend : ∀ c ∈ rest.head?, isNameLike c = false := fun c hc => (hr c hc).1
  have ht := takeWhile_run hlike hend
  have hd := dropWhile_run hlike hend
  rw [hl, cons_append] at ht hd ⊢
  rw [lexFrom.eq_11 _ _ _ _ _ h1 h2 h3 h4 h5 (fun _ e => absurd e h6) h6,
    if_neg (by simp [h7, h8]), if_neg (by simp [hdigit, h9]), if_pos hfirst, ht, hd, ← hl]
  simp only [String.ofList_toList]
  -- the letters of the name may mark a string, but no quote follows them
  cases hm : stringMark? w.toList with
  | none => simp [hw]
  | some mark =>
    cases rest with
    | nil => simp [hw]
    | cons q rest => simp [(hr q rfl).2.1, (hr q rfl).2.2]

theorem ne_of_isNameLike (hc : isNameLike c = false) (hd : isNameLike d = true) : c ≠ d := by
  rintro rfl
  rw [hc] at hd
  cases hd

theorem isDigitOf_ten (h : c.isDigit = false) : isDigitOf 10 c = false := by
  simp only [isDigitOf, digitValue, h, Bool.false_eq_true, if_false, decide_eq_false_iff_not]
  split
  · omega
  · split <;> omega

theorem digitRun?_digits (hd : ∀ c ∈ ds, c.isDigit = true) (hr : EndsWhole rest) :
    digitRun? 10 (ds ++ rest) = some (ds, rest) := by
  induction ds with
  | nil =>
    cases rest with
    | nil => rfl
    | cons c rest =>
      have hc := (hr c rfl).1
      have hdigit : c.isDigit = false := by
        refine Bool.eq_false_iff.mpr fun hd => ?_
        simp [isNameLike, Char.isAlphanum, hd] at hc
      simp [digitRun?, isDigitOf_ten hdigit, ne_of_isNameLike (d := '_') hc (by decide)]
  | cons c ds ih =>
    have hc := hd c mem_cons_self
    have hv : isDigitOf 10 c = true := by
      have := digit_le hc
      simp only [isDigitOf, digitValue, hc, if_true, decide_eq_true_eq]
      change c.toNat - 48 < 10
      omega
    rw [cons_append, digitRun?.eq_def]
    simp [hv, ih fun d h => hd d (mem_cons_of_mem _ h)]

theorem valueOf_digits (hd : ∀ c ∈ ds, c.isDigit = true) : valueOf 10 ds = Nat.ofDigitChars 10 ds 0 := by
  rw [valueOf, Nat.ofDigitChars_eq_foldl]
  generalize 0 = m
  induction ds generalizing m with
  | nil => rfl
  | cons c ds ih =>
    have hc := hd c mem_cons_self
    have hne := digit_ne_underscore hc
    rw [foldl_cons, foldl_cons, if_neg (by simpa using hne), digitValue, if_pos hc,
      ih fun d h => hd d (mem_cons_of_mem _ h)]

theorem toDigits_head_zero {k : Nat} (h : (Nat.toDigits 10 k).head? = some '0') : k = 0 := by
  induction k using Nat.strongRecOn with
  | ind k ih =>
    by_cases hk : k < 10
    · rw [Nat.toDigits_of_lt_base hk] at h
      have ht : ∀ j < 10, j.digitChar = '0' → j = 0 := by decide
      exact ht k hk (by simpa using h)
    · rw [Nat.toDigits_of_base_le (by decide) (by omega), head?_append] at h
      cases hd : (Nat.toDigits 10 (k / 10)).head? with
      | none => exact absurd (head?_eq_none_iff.mp hd) Nat.toDigits_ne_nil
      | some c =>
        rw [hd, Option.some_or] at h
        have := ih (k / 10) (by omega) (hd.trans h)
        omega

theorem toDigits_append_ne (k : Nat) (hr : EndsWhole rest) {x : Char} (hx : x.isDigit = false)
    (hb : isNameLike x = true) (c : Char) (cs : List Char) : Nat.toDigits 10 k ++ rest ≠ c :: x :: cs := by
  intro h
  have hd : ∀ d ∈ Nat.toDigits 10 k, d.isDigit = true := fun d => isDigit_toDigits
  match e : Nat.toDigits 10 k with
  | [] => exact Nat.toDigits_ne_nil e
  | [_] =>
    rw [e, cons_append, nil_append] at h
    have := (hr x (by rw [(cons.inj h).2]; rfl)).1
    rw [hb] at this
    cases this
  | _ :: d :: _ =>
    rw [e] at h hd
    have hdx : d = x := (cons.inj (cons.inj h).2).1
    have := hd d (by simp)
    rw [hdx, hx] at this
    exact absurd this (by decide)

theorem exponentPart?_ends (hr : EndsWhole rest) : exponentPart? rest = some (none, rest) := by
  cases rest with
  | nil => rfl
  | cons c rest =>
    have hc := (hr c rfl).1
    have he : (c == 'e' || c == 'E') = false := by
      simp [ne_of_isNameLike (d := 'e') hc (by decide), ne_of_isNameLike (d := 'E') hc (by decide)]
    simp [exponentPart?, he]

theorem endsNumber_ends (hr : EndsWhole rest) : endsNumber rest = true := by
  cases rest with
  | nil => rfl
  | cons c rest =>
    have hc := (hr c rfl).1
    unfold endsNumber
    split
    all_goals try rfl
    · rename_i d _ _ _ _ _ _ _ _ _ e
      rw [(cons.inj e).1] at hc
      rw [isNameLike] at hc
      rw [hc]
      rfl

theorem number?_toDigits (k : Nat) (hr : EndsWhole rest) :
    number? (Nat.toDigits 10 k ++ rest) = some (.int k, rest) := by
  have hd : ∀ c ∈ Nat.toDigits 10 k, c.isDigit = true := fun c => isDigit_toDigits
  have hbase := @toDigits_append_ne rest k hr
  -- no point, exponent or letter follows the digits
  have hplain : number? (Nat.toDigits 10 k ++ rest) =
      if (Nat.toDigits 10 k).head? == some '0' && (Nat.toDigits 10 k).any fun c => c != '0' && c != '_' then none
      else some (.int (valueOf 10 (Nat.toDigits 10 k)), rest) := by
    rw [number?.eq_7 _ (hbase (x := 'x') rfl (by decide) '0') (hbase (x := 'X') rfl (by decide) '0')
      (hbase (x := 'o') rfl (by decide) '0') (hbase (x := 'O') rfl (by decide) '0')
      (hbase (x := 'b') rfl (by decide) '0') (hbase (x := 'B') rfl (by decide) '0'), digitRun?_digits hd hr]
    cases rest with
    | nil => rfl
    | cons c rest =>
      have hc := hr c rfl
      have hj := ne_of_isNameLike (d := 'j') hc.1 (by decide)
      have hJ := ne_of_isNameLike (d := 'J') hc.1 (by decide)
      simp [exponentPart?_ends hr, endsNumber_ends hr, hc.2, hj, hJ]
  have hzero : ¬((Nat.toDigits 10 k).head? == some '0' &&
      (Nat.toDigits 10 k).any fun c => c != '0' && c != '_') = true := by
    intro h
    rw [Bool.and_eq_true, beq_iff_eq] at h
    rw [toDigits_head_zero h.1] at h
    exact absurd h.2 (by decide)
  rw [hplain, if_neg hzero, valueOf_digits hd, Nat.ofDigitChars_ten_toDigits]

theorem lexFrom_number (k : Nat) (hr : EndsWhole rest) :
    lexFrom (n + 1) blocks brackets false (Nat.toDigits 10 k ++ rest) = .number (.int k) ::
    lexFrom n blocks brackets false rest := by
  have hd : ∀ c ∈ Nat.toDigits 10 k, c.isDigit = true := fun c => isDigit_toDigits
  have hnum := number?_toDigits k hr
  match e : Nat.toDigits 10 k with
  | [] => exact absurd e Nat.toDigits_ne_nil
  | c :: cs =>
    rw [e] at hd hnum
    have hc := hd c mem_cons_self
    have hb := digit_le hc
    have hne : ∀ x : Char, (x.toNat < 48 ∨ 57 < x.toNat) → c ≠ x := by
      rintro x hx rfl
      omega
    rw [cons_append] at hnum ⊢
    rw [lexFrom.eq_11 _ _ _ _ _ (hne _ (by decide)) (hne _ (by decide)) (hne _ (by decide))
      (hne _ (by decide)) (hne _ (by decide)) (fun _ h => absurd h (hne _ (by decide)))
      (hne _ (by decide)), if_neg (by simp [hne '"' (by decide), hne '\'' (by decide)]),
      if_pos (by simp [hc]), hnum]

end Steps

theorem unifyBreaks_eq (h : '\r' ∉ cs) : unifyBreaks cs = cs := by
  induction cs with
  | nil => rfl
  | cons c cs ih =>
    simp only [mem_cons, not_or] at h
    rw [unifyBreaks, ih h.2]
    · rintro _ rfl
      exact absurd rfl h.1
    · rintro rfl
      exact absurd rfl h.1

/-- A first line that starts with no blank, is no comment and is not continued opens no block. -/
theorem lexFrom_fresh {n : Nat} (h : c ∉ [' ', '\t', '\x0c', '\\', '#', '\n']) :
    lexFrom (n + 1) [(0, 0)] [] true (c :: cs) = lexFrom n [(0, 0)] [] false (c :: cs) := by
  simp only [mem_cons, not_mem_nil, or_false, not_or] at h
  obtain ⟨h1, h2, h3, h4, h5, h6⟩ := h
  have hne : ∀ {d : Char} {ds : List Char}, c ≠ d → c :: cs = d :: ds → False := fun h e =>
    h (cons.inj e).1
  rw [lexFrom.eq_2, depth.eq_9 _ _ _ _ (fun _ => hne h1) (fun _ => hne h2) (fun _ => hne h3)
    (fun _ => hne h4) (fun _ => hne h4)]
  dsimp only
  split
  · rename_i e
    exact (hne h5 e).elim
  · rename_i e
    exact (hne h6 e).elim
  · rfl

end PuzzlePrograms.Source
