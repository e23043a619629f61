import PuzzlePrograms.Proofs.Writing

/-!
# Strings in quotes

A string that is put in quotes is read as the string it was (`Writes.quoted`): every character is written
either as itself or as an escape that stands for it (`Spells`), and the text ends at the quote at its end.
-/

namespace PuzzlePrograms.Source

open List Text

variable {q : Char}

attribute [local instance] natPow

variable {c d : Char} {ds : List Char} {w n k : Nat}

/-! ## 1. Hexadecimal digits -/

/-- The number that hexadecimal digits stand for after a number that has been read. -/
def hexValue (n : Nat) (ds : List Char) : Nat := ds.foldl (fun n d => 16 * n + digitValue d) n

theorem hexDigits?_append (h : ∀ d ∈ ds, isDigitOf 16 d = true) (n : Nat)
    (rest : List Char) : hexDigits? ds.length n (ds ++ rest) = some (hexValue n ds, rest) := by
  induction ds generalizing n with
  | nil => rfl
  | cons d ds ih =>
    obtain ⟨hd, hds⟩ := forall_mem_cons.mp h
    rw [length_cons, cons_append, hexDigits?, if_pos hd]
    exact ih hds _

theorem digitValue_digitChar : ∀ d < 16, digitValue d.digitChar = d := by decide

theorem toDigits_sixteen (n : Nat) :
    (∀ d ∈ Nat.toDigits 16 n, isDigitOf 16 d = true) ∧ hexValue 0 (Nat.toDigits 16 n) = n := by
  induction n using Nat.strongRecOn with
  | _ n ih =>
    have hdigit : ∀ d < 16, isDigitOf 16 d.digitChar = true := fun d hd => by
      rw [isDigitOf, digitValue_digitChar d hd]
      exact decide_eq_true hd
    by_cases hn : n < 16
    · rw [Nat.toDigits_of_lt_base hn]
      exact ⟨forall_mem_singleton.mpr (hdigit n hn), by simp [hexValue, digitValue_digitChar n hn]⟩
    · obtain ⟨hall, hval⟩ := ih (n / 16) (by omega)
      have hlt : n % 16 < 16 := Nat.mod_lt _ (by omega)
      rw [Nat.toDigits_of_base_le (by omega) (by omega)]
      refine ⟨forall_mem_append.mpr ⟨hall, forall_mem_singleton.mpr (hdigit _ hlt)⟩, ?_⟩
      unfold hexValue at hval ⊢
      rw [foldl_append, hval, foldl_cons, foldl_nil, digitValue_digitChar _ hlt]
      omega

theorem hexValue_zeros (k : Nat) (ds : List Char) : hexValue 0 (replicate k '0' ++ ds) = hexValue 0 ds := by
  induction k with
  | zero => rfl
  | succ k ih => exact ih

theorem hexDigits?_hex (hw : 0 < w) (hn : n < 16 ^ w) : (∀ d ∈ (hex w n).toList, isDigitOf 16 d = true) ∧
      ∀ rest, hexDigits? w 0 ((hex w n).toList ++ rest) = some (n, rest) := by
  obtain ⟨hall, hval⟩ := toDigits_sixteen n
  have hle : (Nat.toDigits 16 n).length ≤ w := (Nat.length_toDigits_le_iff (by omega) hw).mpr hn
  have hs : (hex w n).toList = replicate (w - (Nat.toDigits 16 n).length) '0' ++ Nat.toDigits 16 n := by simp [hex]
  have hdigits : ∀ d ∈ (hex w n).toList, isDigitOf 16 d = true := by
    rw [hs]
    refine forall_mem_append.mpr ⟨fun d hd => ?_, hall⟩
    rw [eq_of_mem_replicate hd]
    decide
  have hlen : (hex w n).toList.length = w := by
    rw [hs, length_append, length_replicate]
    omega
  refine ⟨hdigits, fun rest => ?_⟩
  have hread := hexDigits?_append hdigits 0 rest
  rw [hlen] at hread
  rw [hread, hs, hexValue_zeros, hval]

/-! ## 2. Characters between quotes -/

/-- Characters that are neither quotes nor the start of an escape, on one line. -/
def Inert (q : Char) (cs : List Char) : Prop := ∀ c ∈ cs, c ≠ q ∧ c ≠ '\\' ∧ c ≠ '\n' ∧ c ≠ '\r' ∧ c ≠ '\x00'

theorem stringBody?_inert {cs : List Char} (h : Inert q cs) (acc rest : List Char) :
    stringBody? q 1 0 acc (cs ++ rest) = stringBody? q 1 0 (cs.reverse ++ acc) rest := by
  induction cs generalizing acc with
  | nil => rfl
  | cons c cs ih =>
    obtain ⟨⟨hq, hb, hn, _⟩, hcs⟩ := forall_mem_cons.mp h
    rw [cons_append, stringBody?.eq_def]
    simp only [beq_iff_eq, hq, hb, hn, if_false, Bool.and_eq_true, false_and]
    rw [ih hcs, reverse_cons, append_assoc]
    rfl

/-- What stands for a character between quotes. -/
structure Spells (q : Char) (cs : List Char) (c : Char) : Prop where
  unescapes : ∀ n rest, unescape? (n + 1) (cs ++ rest) = (unescape? n rest).map (c :: ·)
  goesOn : ∀ acc rest, stringBody? q 1 0 acc (cs ++ rest) = stringBody? q 1 0 (cs.reverse ++ acc) rest
  clean : ∀ d ∈ cs, d ≠ '\r' ∧ d ≠ '\x00'
  first : ∃ d ds, cs = d :: ds ∧ d ≠ q

theorem Spells.self (h : Inert q [c]) : Spells q [c] c := by
  obtain ⟨hc, _⟩ := forall_mem_cons.mp h
  refine ⟨fun n rest => ?_, stringBody?_inert h, forall_mem_singleton.mpr hc.2.2.2, c, [], rfl, hc.1⟩
  rw [singleton_append, unescape?.eq_def]
  simp [hc.2.1]

theorem Spells.escape (hq : q ≠ '\\') (hds : Inert q ds) (hd : d ≠ '\r' ∧ d ≠ '\x00')
    (h : ∀ n rest, unescape? (n + 1) ('\\' :: d :: ds ++ rest) = (unescape? n rest).map (c :: ·)) :
    Spells q ('\\' :: d :: ds) c := by
  refine ⟨h, fun acc rest => ?_, ?_, _, _, rfl, hq.symm⟩
  · rw [cons_append, cons_append, stringBody?.eq_def]
    simp only [beq_iff_eq, hq.symm, if_false, Bool.and_eq_true, if_true, show ¬('\\' = '\n') by decide, false_and]
    rw [stringBody?_inert hds]
    simp
  · refine forall_mem_cons.mpr ⟨by decide, forall_mem_cons.mpr ⟨hd, fun e he => ?_⟩⟩
    exact (hds e he).2.2.2

theorem Spells.letter (hq : q ≠ '\\') (hd : simpleEscape? d = some c) : Spells q ['\\', d] c := by
  have hne : d ≠ '\n' ∧ d ≠ '\r' ∧ d ≠ '\x00' := by refine ⟨?_, ?_, ?_⟩ <;> (rintro rfl; cases hd)
  refine .escape hq (fun _ h => absurd h not_mem_nil) hne.2 fun n rest => ?_
  rw [cons_append, cons_append, nil_append, unescape?.eq_def]
  simp [hne.1, hd]

theorem inert_of_isDigitOf (hq : q = '\'' ∨ q = '"') (h : ∀ d ∈ ds, isDigitOf 16 d = true) : Inert q ds := by
  intro d hd
  have hdigit := h d hd
  rcases hq with rfl | rfl <;>
    (refine ⟨?_, ?_, ?_, ?_, ?_⟩ <;> (rintro rfl; revert hdigit; decide))

theorem toNat_valid (c : Char) : c.toNat < 0x110000 ∧ ¬(0xD800 ≤ c.toNat ∧ c.toNat < 0xE000) := by
  have hv : c.toNat < 0xd800 ∨ 0xdfff < c.toNat ∧ c.toNat < 0x110000 := c.valid
  omega

theorem charOf?_toNat (c : Char) : charOf? c.toNat = some c := by
  rw [charOf?, if_pos (toNat_valid c).1, if_neg (toNat_valid c).2, Char.ofNat_toNat]

theorem Spells.code (hq : q = '\'' ∨ q = '"') (hd : (d, w) ∈ [('x', 2), ('u', 4), ('U', 8)]) (hc : c.toNat < 16 ^ w) :
    Spells q ('\\' :: d :: (hex w c.toNat).toList) c := by
  have hw : 0 < w := by
    simp only [mem_cons, Prod.mk.injEq, not_mem_nil, or_false] at hd
    omega
  obtain ⟨hdigits, hread⟩ := hexDigits?_hex hw hc
  refine .escape (by rcases hq with rfl | rfl <;> decide) (inert_of_isDigitOf hq hdigits) ?_ fun n rest => ?_
  · simp only [mem_cons, Prod.mk.injEq, not_mem_nil, or_false] at hd
    rcases hd with ⟨rfl, _⟩ | ⟨rfl, _⟩ | ⟨rfl, _⟩ <;> decide
  · have hbind : ∀ x : Option (List Char), (do return (← charOf? c.toNat) :: (← x)) = x.map (c :: ·) := by
      intro x
      rw [charOf?_toNat]
      cases x <;> rfl
    rw [← hbind]
    simp only [mem_cons, Prod.mk.injEq, not_mem_nil, or_false] at hd
    rcases hd with ⟨rfl, rfl⟩ | ⟨rfl, rfl⟩ | ⟨rfl, rfl⟩ <;>
      simp [unescape?, simpleEscape?, hread]

theorem spells_escape (hq : q = '\'' ∨ q = '"') (c : Char) : Spells q (Text.escape c).toList c := by
  have hq' : q ≠ '\\' := by rcases hq with rfl | rfl <;> decide
  have hlt : c.toNat < 16 ^ (8 : Nat) := by
    have := (toNat_valid c).1
    omega
  have hletter : ∀ {d e : Char}, (c == d) = true → simpleEscape? e = some d →
      Spells q ['\\', e] c := fun h he => beq_iff_eq.mp h ▸ Spells.letter hq' he
  unfold Text.escape
  split
  · exact hletter ‹_› rfl
  split
  · exact hletter ‹_› rfl
  split
  · exact hletter ‹_› rfl
  split
  · exact hletter ‹_› rfl
  split
  · simpa using Spells.code hq (d := 'x') (w := 2) (by decide) (by omega)
  split
  · simpa using Spells.code hq (d := 'u') (w := 4) (by decide) (by omega)
  · simpa using Spells.code hq (d := 'U') (w := 8) (by decide) hlt

theorem spells_quotedChar (hq : q = '\'' ∨ q = '"') (c : Char) : Spells q (quotedChar q c).toList c := by
  have hq' : q ≠ '\\' := by rcases hq with rfl | rfl <;> decide
  unfold quotedChar
  split
  · rename_i h
    rw [beq_iff_eq.mp h]
    rcases hq with rfl | rfl <;> exact .letter (by decide) rfl
  split
  · exact spells_escape hq c
  · rename_i hne h
    have hprint : isPrintable '\n' = false ∧ isPrintable '\r' = false ∧ isPrintable '\x00' = false := by decide
    simp only [Bool.or_eq_true, beq_iff_eq, Bool.not_eq_true', not_or, Bool.not_eq_false] at h hne
    have hself : Spells q [c] c := by
      refine .self (forall_mem_singleton.mpr ⟨hne, h.1, ?_, ?_, ?_⟩) <;>
        (rintro rfl; simp_all)
    simpa using hself

/-! ## 3. Strings -/

def quotedBody (q : Char) (cs : List Char) : List Char := cs.flatMap fun c => (quotedChar q c).toList

theorem quoteFor_cases (cs : List Char) : quoteFor cs = '\'' ∨ quoteFor cs = '"' := by
  unfold quoteFor
  split
  · exact Or.inr rfl
  · exact Or.inl rfl

theorem quoted_toList (s : String) : (quoted s).toList =
    quoteFor s.toList :: (quotedBody (quoteFor s.toList) s.toList ++ [quoteFor s.toList]) := by
  simp [quoted, quotedBody, List.flatMap, Function.comp_def]

section Body

variable {q : Char} (hq : q = '\'' ∨ q = '"') (cs : List Char)

include hq

theorem length_le_quotedBody : cs.length ≤ (quotedBody q cs).length := by
  induction cs with
  | nil => exact Nat.le_refl _
  | cons c cs ih =>
    obtain ⟨d, ds, hd, _⟩ := (spells_quotedChar hq c).first
    rw [quotedBody, flatMap_cons, length_append, hd, length_cons, length_cons]
    unfold quotedBody at ih
    omega

theorem unescape?_quotedBody (hn : cs.length < n) : unescape? n (quotedBody q cs) = some cs := by
  induction cs generalizing n with
  | nil =>
    rcases n with _ | n
    · omega
    rfl
  | cons c cs ih =>
    rcases n with _ | n
    · omega
    rw [quotedBody, flatMap_cons, (spells_quotedChar hq c).unescapes]
    have hrest := ih (n := n) (by simpa using hn)
    rw [quotedBody] at hrest
    rw [hrest]
    rfl

theorem stringBody?_quotedBody (acc rest : List Char) : stringBody? q 1 0 acc (quotedBody q cs ++ q :: rest) =
      some ((quotedBody q cs).reverse ++ acc, rest) := by
  induction cs generalizing acc with
  | nil =>
    rw [quotedBody, flatMap_nil, nil_append, stringBody?.eq_def]
    simp
  | cons c cs ih =>
    rw [quotedBody, flatMap_cons, append_assoc, (spells_quotedChar hq c).goesOn]
    have hrest := ih ((quotedChar q c).toList.reverse ++ acc)
    rw [quotedBody] at hrest
    rw [hrest, reverse_append, append_assoc]

theorem string?_quotedBody {rest : List Char} (hr : ∀ c ∈ rest.head?, c ≠ q) :
    string? (q :: (quotedBody q cs ++ q :: rest)) = some (quotedBody q cs, rest) := by
  have hbody := stringBody?_quotedBody hq cs [] rest
  cases cs with
  | nil =>
    cases rest with
    | nil => simp [quotedBody, string?]
    | cons c rest =>
      have hc : ¬(q = c) := fun e => hr c rfl e.symm
      simp [quotedBody, string?, hc]
  | cons c cs =>
    obtain ⟨d, ds, hd, hne⟩ := (spells_quotedChar hq c).first
    have hcons : quotedBody q (c :: cs) = d :: (ds ++ quotedBody q cs) := by
      rw [quotedBody, flatMap_cons, hd]
      rfl
    obtain ⟨e, es, he⟩ : ∃ e es, ds ++ quotedBody q cs ++ q :: rest = e :: es := exists_cons_of_ne_nil (by simp)
    have hqd : ¬(q = d) := fun x => hne x.symm
    rw [hcons, cons_append, he] at hbody ⊢
    simp [string?, hqd, hbody]

theorem Cuts.quotedBody : Cuts true k (q :: (quotedBody q cs ++ [q])) [.string {} (Source.quotedBody q cs)] := by
  have hclean : q ≠ '\r' ∧ q ≠ '\x00' := by rcases hq with rfl | rfl <;> decide
  refine ⟨fun blocks brackets rest us _ hr hl => ?_, by simp, ?_⟩
  · have hend : ∀ c ∈ rest.head?, c ≠ q := fun c hc e => by
      have hquote := hr.endsName c hc
      rcases hq with rfl | rfl
      · exact hquote.2.2 e
      · exact hquote.2.1 e
    have hstring := string?_quotedBody hq cs hend
    rw [cons_append, append_assoc, singleton_append]
    refine hl.step (.string {} (Source.quotedBody q cs) :: ·) (by simp; omega) fun n => ?_
    rcases hq with rfl | rfl <;> simp [lexFrom, hstring]
  · refine forall_mem_cons.mpr ⟨hclean, forall_mem_append.mpr ⟨fun d hd => ?_, forall_mem_singleton.mpr hclean⟩⟩
    obtain ⟨c, _, hc⟩ := mem_flatMap.mp hd
    exact (spells_quotedChar hq c).clean d hc

theorem stringsOf_quotedBody (s : Sub) :
    s.stringsOf [({}, quotedBody q cs)] = some (.const (.str (.ofList cs) false)) := by
  have hlen := length_le_quotedBody hq cs
  have htext : textOf? false (quotedBody q cs) = some cs := unescape?_quotedBody hq cs (Nat.lt_succ_of_le hlen)
  cases cs <;> simp [Sub.stringsOf, Sub.addLiteral, Sub.addText, htext]

end Body

/-- **A string in quotes is read as the string.** -/
theorem Writes.quoted (s : String) : Writes Level.atom true k (quoted s) (.const (.str s false)) := by
  have hq := quoteFor_cases s.toList
  have hcut := Cuts.quotedBody hq s.toList (k := k)
  have hread : Reads .atom [.string {} (quotedBody (quoteFor s.toList) s.toList)] (.const (.str s false)) :=
    .string trivial fun sub => by rw [stringsOf_quotedBody hq, String.ofList_toList]
  rw [← quoted_toList] at hcut
  refine ⟨⟨_, _, quoted_toList s, ?_⟩, _, hcut, hread⟩
  rcases hq with h | h <;> (rw [h]; decide)

end PuzzlePrograms.Source
