import PuzzlePrograms.Source.Parser
import PuzzlePrograms.Proofs.Nameless

/-!
# Names

What a name is made of, and the names that variables and primitives have.

* `isNamePart_wordly`: a character of a name is neither a blank nor a bracket, whatever its script;
* `varName` are the names of variables, a letter and a number, each number giving another name;
* `PrimName` are the names that a primitive can have.
-/

namespace PuzzlePrograms

namespace Text

open List String

variable {c d : Char} {w s p : String} {rs : Array (Nat × Nat)} {cs : List Char} {k : Nat}

/-! ## 1. Characters of names -/

section Runs

variable {q : Char → Bool} {rest : List Char} (h : ∀ c ∈ cs, q c = true) (hr : ∀ c ∈ rest.head?, q c = false)

include h hr

/-- A run of characters ends with the first that does not belong to it. -/
theorem takeWhile_run : (cs ++ rest).takeWhile q = cs := by
  rw [takeWhile_append_of_pos h]
  cases rest with
  | nil => simp
  | cons c rest => simp [hr c rfl]

theorem dropWhile_run : (cs ++ rest).dropWhile q = rest := by
  rw [dropWhile_append_of_pos h]
  cases rest with
  | nil => rfl
  | cons c rest => simp [hr c rfl]

end Runs

def blankRanges : List (Nat × Nat) :=
  [(0x85, 0x85), (0xa0, 0xa0), (0x1680, 0x1680), (0x2000, 0x200a), (0x2028, 0x2029), (0x202f, 0x202f), (0x205f, 0x205f),
    (0x3000, 0x3000)]

/-- Whether no range of a list meets a range of another. -/
def apart (rs qs : List (Nat × Nat)) : Bool := rs.all fun r => qs.all fun q => Nat.blt r.2 q.1 || Nat.blt q.2 r.1

theorem inRanges_of_apart {qs : List (Nat × Nat)} (h : apart rs.toList qs = true) {n : Nat} {q : Nat × Nat}
    (hq : q ∈ qs) (h1 : q.1 ≤ n) (h2 : n ≤ q.2) : inRanges rs n = false := by
  refine Bool.eq_false_iff.mpr fun hr => ?_
  simp only [inRanges, ← Array.any_toList, any_eq_true, Bool.and_eq_true, decide_eq_true_eq] at hr
  obtain ⟨r, hr, hr1, hr2⟩ := hr
  simp only [apart, all_eq_true, Bool.or_eq_true, Nat.blt_eq] at h
  have := h r hr q hq
  omega

theorem apart_nameStart : apart nameStartRanges.toList blankRanges = true := by decide +kernel

theorem apart_nameTail : apart nameTailRanges.toList blankRanges = true := by decide +kernel

theorem isBlank_mem (hb : isBlank c = true) (hc : 128 ≤ c.toNat) :
    ∃ q ∈ blankRanges, q.1 ≤ c.toNat ∧ c.toNat ≤ q.2 := by
  simp only [isBlank, Bool.or_eq_true, Bool.and_eq_true, decide_eq_true_eq, beq_iff_eq] at hb
  rcases hb with (((((((((h | h) | h) | h) | h) | h) | h) | h) | h) | h)
  · omega
  · omega
  · exact ⟨(0x85, 0x85), by decide, by omega, by omega⟩
  · exact ⟨(0xa0, 0xa0), by decide, by omega, by omega⟩
  · exact ⟨(0x1680, 0x1680), by decide, by omega, by omega⟩
  · exact ⟨(0x2000, 0x200a), by decide, by omega, by omega⟩
  · exact ⟨(0x2028, 0x2029), by decide, by omega, by omega⟩
  · exact ⟨(0x202f, 0x202f), by decide, by omega, by omega⟩
  · exact ⟨(0x205f, 0x205f), by decide, by omega, by omega⟩
  · exact ⟨(0x3000, 0x3000), by decide, by omega, by omega⟩

theorem not_blank_of_apart (h : apart rs.toList blankRanges = true)
    (hc : 128 ≤ c.toNat) (hr : inRanges rs c.toNat = true) : isBlank c = false := by
  refine Bool.eq_false_iff.mpr fun hb => ?_
  obtain ⟨q, hq, hq1, hq2⟩ := isBlank_mem hb hc
  rw [inRanges_of_apart h hq hq1 hq2] at hr
  exact absurd hr (by decide)

theorem isNamePart_wordly (h : isNamePart c = true) : isBlank c = false ∧ c ≠ '(' ∧ c ≠ ')' := by
  refine ⟨?_, ?_, ?_⟩
  · unfold isNamePart at h
    split at h
    · rename_i hc
      have hn : isBlank c = true → False := by
        intro hb
        have hc' : c.toNat = 9 ∨ c.toNat = 10 ∨ c.toNat = 11 ∨ c.toNat = 12 ∨ c.toNat = 13 ∨
            c.toNat = 28 ∨ c.toNat = 29 ∨ c.toNat = 30 ∨ c.toNat = 31 ∨ c.toNat = 32 := by
          simp only [isBlank, Bool.or_eq_true, Bool.and_eq_true, decide_eq_true_eq, beq_iff_eq]
            at hb
          omega
        rcases hc' with e | e | e | e | e | e | e | e | e | e <;>
          (rw [← Char.ofNat_toNat c, e] at h; exact absurd h (by decide))
      simpa using hn
    · rename_i hc
      rw [Bool.or_eq_true] at h
      rcases h with h | h
      · exact not_blank_of_apart apart_nameStart (by omega) h
      · exact not_blank_of_apart apart_nameTail (by omega) h
  all_goals
    rintro rfl
    exact absurd h (by decide)

theorem isNamePart_of_isNameStart (h : isNameStart c = true) : isNamePart c = true := by
  unfold isNameStart at h
  unfold isNamePart
  split at h
  · rename_i hc
    rw [if_pos hc]
    simp only [Bool.or_eq_true, Char.isAlphanum] at h ⊢
    rcases h with h | h
    · exact .inl (.inl h)
    · exact .inr h
  · rename_i hc
    rw [if_neg hc]
    simp [h]

theorem isDigit_isNamePart (h : c.isDigit = true) : isNamePart c = true := by
  simp [isNamePart, digit_lt h, Char.isAlphanum, h]

theorem isNameStart_digit (h : c.isDigit = true) : isNameStart c = false := by
  have hd := digit_le h
  have ha : c.isAlpha = false := by
    refine Bool.eq_false_iff.mpr fun ha => ?_
    have hl : 65 ≤ c.toNat ∨ 97 ≤ c.toNat := by
      unfold Char.isAlpha Char.isUpper Char.isLower at ha
      simp only [Bool.or_eq_true, Bool.and_eq_true, decide_eq_true_eq] at ha
      exact ha.imp (·.1) (·.1)
    omega
  simp [isNameStart, digit_lt h, ha, digit_ne_underscore h]

theorem isName_chars (h : isName w = true) :
    ∃ c cs, w.toList = c :: cs ∧ isNameStart c = true ∧ ∀ d ∈ c :: cs, isNamePart d = true := by
  unfold isName at h
  split at h
  · cases h
  · rename_i c cs hl
    rw [Bool.and_eq_true, all_eq_true] at h
    refine ⟨c, cs, hl, h.1, ?_⟩
    intro d hd
    rcases mem_cons.mp hd with rfl | hd
    · exact isNamePart_of_isNameStart h.1
    · exact h.2 d hd

theorem isName_isWord (h : isName w = true) : IsWord w := by
  obtain ⟨c, cs, hl, _, hall⟩ := isName_chars h
  refine ⟨by simp [hl], ?_⟩
  rw [hl]
  exact fun d hd => isNamePart_wordly (hall d hd)

theorem isName_not_mem (h : isName w = true) (hd : isNamePart d = false) : d ∉ w.toList := by
  obtain ⟨c, cs, hl, _, hall⟩ := isName_chars h
  rw [hl]
  intro hm
  rw [hall d hm] at hd
  cases hd

/-! ## 2. Parts of a text -/

theorem starts_iff : starts s p = true ↔ p.toList <+: s.toList := by simp [starts]

theorem mem_of_starts (h : starts s p = true) (hc : c ∈ p.toList) : c ∈ s.toList := (starts_iff.mp h).subset hc

theorem replace_absent {a : Char} (new : String) (h : a ∉ s.toList) : replace s (.singleton a) new = s := by
  have hl : (singleton a).toList = [a] := by simp
  have hcs : ∀ cs : List Char, a ∉ cs → (cs.flatMap fun c => if c = a then new.toList else [c]) = cs := by
    intro cs hn
    induction cs with
    | nil => rfl
    | cons c cs ih =>
      simp only [mem_cons, not_or] at hn
      rw [flatMap_cons, ih hn.2, if_neg (Ne.symm hn.1)]
      rfl
  unfold replace
  rw [hl]
  simp [replaceChars_single, hcs s.toList h]

theorem dropBlanks_of_head (h : isBlank c = false) : dropBlanks (c :: cs) = c :: cs := by
  simp [dropBlanks, List.dropWhile, h]

theorem mem_of_mem_dropLast_trim (h : c ∈ (dropLast (trim w)).toList) : c ∈ w.toList := by
  simp only [dropLast, trim, trimBlanks, dropBlanks, toList_ofList] at h
  have hrev := (dropWhile_suffix _).subset (mem_reverse.mp ((dropLast_sublist _).subset h))
  exact (dropWhile_suffix _).subset (mem_reverse.mp hrev)

theorem trim_eq {ds : List Char} (hc : w.toList = c :: cs) (hd : w.toList = ds ++ [d]) (hbc : isBlank c = false)
    (hbd : isBlank d = false) : trim w = w := by
  have h1 : dropBlanks w.toList = ds ++ [d] := by rw [hc, dropBlanks_of_head hbc, ← hc, hd]
  have h2 : dropBlanks (dropBlanks w.toList).reverse = d :: ds.reverse := by
    rw [h1, reverse_append, reverse_singleton, singleton_append, dropBlanks_of_head hbd]
  unfold trim trimBlanks
  rw [h2, reverse_cons, reverse_reverse, ← hd, ofList_toList]

theorem trim_isWord (h : IsWord w) : trim w = w := by
  obtain ⟨hne, hall⟩ := h
  cases hc : w.toList with
  | nil => exact absurd hc hne
  | cons c cs =>
    rcases eq_nil_or_concat (c :: cs) with h0 | ⟨ds, d, hd⟩
    · cases h0
    · have hd' : w.toList = ds ++ [d] := by rw [hc, hd, concat_eq_append]
      exact trim_eq hc hd' (hall c (by simp [hc])).1 (hall d (by simp [hd'])).1

theorem int?_toDigits (n : Nat) : int? (.ofList (Nat.toDigits 10 n)) = some (n : Int) := by
  have hd : ∀ c ∈ Nat.toDigits 10 n, c.isDigit = true := fun _ => isDigit_toDigits
  have hw : IsWord (.ofList (Nat.toDigits 10 n)) := by
    refine ⟨by simp [Nat.toDigits_ne_nil], fun c hc => ?_⟩
    rw [toList_ofList] at hc
    exact digit_wordly (hd c hc)
  have htrim : trimBlanks (Nat.toDigits 10 n) = Nat.toDigits 10 n := by
    have := congrArg toList (trim_isWord hw)
    rwa [trim, toList_ofList, toList_ofList] at this
  rw [int?, toList_ofList, htrim]
  split
  · rename_i e
    exact absurd (hd '-' (by simp [e])) (by decide)
  · rename_i e
    exact absurd (hd '+' (by simp [e])) (by decide)
  · rw [unsigned?_toDigits]
    rfl

theorem words_of_not_blank (hne : w.toList ≠ []) (h : ∀ c ∈ w.toList, isBlank c = false) : words w = [w] := by
  have hr : w.toList.reverse ≠ [] := by simpa using hne
  have := wordChars_append w.toList [] [] h
  rw [append_nil, append_nil, wordChars_nil _ hr, reverse_reverse] at this
  unfold words
  rw [this]
  simp

end Text

namespace Indexed

open Text

/-! ## 3. Variables and primitives -/

def varName (k : Nat) : String := "x" ++ toString k

theorem varName_toList (k : Nat) : (varName k).toList = 'x' :: Nat.toDigits 10 k := by
  simp [varName, show "x".toList = ['x'] from rfl]

theorem varName_inj {j : Nat} : varName j = varName k ↔ j = k := by
  refine ⟨fun h => ?_, fun h => by rw [h]⟩
  have hl : Nat.toDigits 10 j = Nat.toDigits 10 k := by
    have := congrArg String.toList h
    rw [varName_toList, varName_toList, List.cons.injEq] at this
    exact this.2
  have h' := Nat.ofDigitChars_ten_toDigits (n := j)
  rw [hl, Nat.ofDigitChars_ten_toDigits] at h'
  exact h'.symm

theorem isName_varName (k : Nat) : isName (varName k) = true := by
  unfold isName
  rw [varName_toList]
  simp only [Bool.and_eq_true, List.all_eq_true]
  exact ⟨by decide, fun c hc => isDigit_isNamePart (isDigit_toDigits hc)⟩

theorem starts_varName (k : Nat) : starts (varName k) "x" = true := by
  rw [starts_iff, varName_toList, show "x".toList = ['x'] from rfl]
  exact ⟨_, rfl⟩

theorem varName_ne (h : starts w "x" = false) (k : Nat) : w ≠ varName k := by
  rintro rfl
  rw [starts_varName] at h
  cases h

theorem not_reserved_varName (k : Nat) : Source.Reader.reserved.contains (varName k) = false := by
  have h : ∀ w ∈ Source.Reader.reserved, starts w "x" = false := by decide
  refine Bool.eq_false_iff.mpr fun hc => ?_
  have hm : varName k ∈ Source.Reader.reserved := by simpa using hc
  have := h _ hm
  rw [starts_varName] at this
  cases this

/-- The name of a primitive: a name that is no word of the language and that no variable has. -/
structure PrimName where
  word : String
  isName : Text.isName word = true
  notReserved : Source.Reader.reserved.contains word = false
  notVariable : starts word "x" = false
  deriving DecidableEq

end Indexed

end PuzzlePrograms
