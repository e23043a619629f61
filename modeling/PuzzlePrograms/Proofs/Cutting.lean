import Mathlib.Data.List.Find
import PuzzlePrograms.Proofs.Phrase

/-!
# Texts that are cut alike wherever they stand

A part of a text is cut into the same tokens whatever comes before and after it, if what follows cannot
lengthen its last token and its brackets fit inside those that are open around it.

* `LexesTo` tells what the rest of a text is cut into; it has one lemma for each kind of token;
* `Follows` is what may stand after an expression without a blank, `startsTerm` what one may start with;
* `Cuts` is a text that is cut alike before all that may follow it, with one lemma for each way to put
  texts together.
-/

namespace PuzzlePrograms.Source

open List Text Indexed

variable {c : Char} {o w : String} {rest : List Char} {dot : Bool} {cs : List Char}

/-! ## 1. Operators -/

/-- Whether a character after an operator makes it the start of a longer one. -/
def lengthens (o : String) (c : Char) : Bool := longOps.any fun l => (o.toList ++ [c]).isPrefixOf l.toList

/-- The operators other than brackets that expressions are written with. -/
def plainOps : List String :=
  ["+", "-", "*", "/", "//", "%", "@", "**", "<<", ">>", "&", "|", "^", "~", "==", "!=", "<", "<=", ">", ">=", ",", ":",
    ".", "=", "..."]

/-- What follows an operator without making it longer. -/
def EndsOp (o : String) (rest : List Char) : Prop :=
  ∀ c ∈ rest.head?, lengthens o c = false ∧ (o = "." → c.isDigit = false)

theorem prefix_of_append {l o : List Char} (h : l <+: o ++ c :: rest) (hl : o.length < l.length) : o ++ [c] <+: l := by
  have hc : o ++ [c] <+: o ++ c :: rest := ⟨rest, by simp⟩
  refine prefix_of_prefix_length_le hc h ?_
  rw [length_append, length_singleton]
  omega

theorem op?_append (ho : op? o.toList = some (o, []))
    (h : ∀ c ∈ rest.head?, lengthens o c = false) : op? (o.toList ++ rest) = some (o, rest) := by
  -- a long operator at the start of the text is one at the start of the operator
  have hpre : ∀ l ∈ longOps, l.toList.isPrefixOf (o.toList ++ rest) = l.toList.isPrefixOf o.toList := by
    intro l hl
    rw [Bool.eq_iff_iff, isPrefixOf_iff_prefix, isPrefixOf_iff_prefix]
    refine ⟨fun hp => ?_, fun hp => hp.trans (prefix_append _ _)⟩
    by_cases hlen : l.toList.length ≤ o.toList.length
    · exact prefix_of_prefix_length_le hp (prefix_append _ _) hlen
    · cases rest with
      | nil => simpa using hp
      | cons c rest =>
        have hany : lengthens o c = true :=
          any_eq_true.mpr ⟨l, hl, isPrefixOf_iff_prefix.mpr (prefix_of_append hp (by omega))⟩
        rw [h c rfl] at hany
        cases hany
  have hfind : (longOps.find? fun l => l.toList.isPrefixOf (o.toList ++ rest)) =
    longOps.find? fun l => l.toList.isPrefixOf o.toList :=
    find?_congr hpre
  unfold op? at ho ⊢
  rw [hfind]
  cases hf : longOps.find? fun l => l.toList.isPrefixOf o.toList with
  | some l =>
    rw [hf] at ho
    simp only [Option.some.injEq, Prod.mk.injEq] at ho ⊢
    obtain ⟨rfl, _⟩ := ho
    exact ⟨rfl, by rw [← String.length_toList, drop_left]⟩
  | none =>
    rw [hf] at ho
    cases hc : o.toList with
    | nil => simp [hc] at ho
    | cons c cs =>
      simp only [hc, cons_append] at ho ⊢
      split at ho
      · rename_i hshort
        obtain ⟨hword, rfl⟩ := Prod.mk.inj (Option.some.inj ho)
        rw [if_pos hshort, hword, nil_append]
      · cases ho

theorem mem_of_lengthens (ho : o ≠ "") (h : lengthens o c = true) : c ∈ ['=', '*', '>', '/', '<', '.'] := by
  have htail : ∀ l ∈ longOps, l.toList.tail.all (fun d => decide (d ∈ ['=', '*', '>', '/', '<', '.'])) = true := by
    decide
  obtain ⟨l, hl, hp⟩ := any_eq_true.mp h
  obtain ⟨cs, e⟩ := isPrefixOf_iff_prefix.mp hp
  refine forall_chars (htail l hl) c ?_
  rw [← e]
  cases hc : o.toList with
  | nil => exact absurd (String.toList_eq_nil_iff.mp hc) ho
  | cons d ds => simp

/-! ## 2. One token after another -/

section Steps

variable {n : Nat} {blocks : List (Nat × Nat)} {brackets cs : List Char}

/-- Whether a character starts nothing but an operator that is no bracket. -/
def startsOp (c : Char) : Bool :=
  !([' ', '\t', '\x0c', '#', '\n', '\\', '"', '\'', '(', '[', '\x7b', ')', ']', '\x7d'].contains c ||
    c.isDigit || isNameLike c)

theorem lexFrom_op (ho : o ∈ plainOps) (hr : EndsOp o cs) : lexFrom (n + 1) blocks brackets false (o.toList ++ cs) =
      .op o :: lexFrom n blocks brackets false cs := by
  have hwhole : ∀ p ∈ plainOps, op? p.toList = some (p, []) := by decide
  have hfirst : ∀ p ∈ plainOps, (p.toList.head?.map startsOp) = some true := by decide
  have hpoint : ∀ p ∈ plainOps, p.toList.head? = some '.' → p = "." ∨ p = "..." := by decide
  have hop := op?_append (hwhole o ho) fun c hc => (hr c hc).1
  match e : o.toList with
  | [] => have := hfirst o ho; rw [e] at this; cases this
  | c :: ds =>
    have hc : startsOp c = true := by
      have := hfirst o ho
      rw [e] at this
      exact Option.some.inj this
    simp only [startsOp, Bool.not_eq_true', Bool.or_eq_false_iff, contains_eq_mem,
      decide_eq_false_iff_not, mem_cons, not_mem_nil, or_false, not_or] at hc
    obtain ⟨⟨⟨h1, h2, h3, h4, h5, h6, h7, h8, h9, h10, h11, h12, h13, h14⟩, hdigit⟩, hname⟩ := hc
    -- a point starts a number only before a digit
    have hnumber : ¬(c.isDigit || c == '.' && ((ds ++ cs).head?.map Char.isDigit).getD false) = true := by
      rw [hdigit, Bool.false_or, Bool.and_eq_true, not_and, beq_iff_eq]
      rintro rfl
      rcases hpoint o ho (by rw [e]; rfl) with rfl | rfl
      · obtain rfl : ds = [] := (List.cons.inj (e.symm.trans rfl : '.' :: ds = ['.'])).2
        cases cs with
        | nil => simp
        | cons d cs => simp [(hr d rfl).2 rfl]
      · obtain rfl : ds = ['.', '.'] := (List.cons.inj (e.symm.trans rfl : '.' :: ds = ['.', '.', '.'])).2
        simp
    rw [e, cons_append] at hop
    rw [cons_append, lexFrom.eq_11 _ _ _ _ _ h1 h2 h3 h4 h5 (fun _ x => absurd x h6) h6,
      if_neg (by simp [h7, h8]), if_neg hnumber, if_neg (by simp [hname]), hop]
    simp [h9, h10, h11, h12, h13, h14, or_self]

theorem lexFrom_opening (hc : c ∈ ['(', '[', '\x7b']) (hb : brackets.length < bracketLimit) :
    lexFrom (n + 1) blocks brackets false (c :: cs) = .op c.toString ::
    lexFrom n blocks (closing c :: brackets) false cs := by
  have hop : op? (c :: cs) = some (c.toString, cs) := by
    simp only [mem_cons, not_mem_nil, or_false] at hc
    rcases hc with rfl | rfl | rfl <;> rfl
  simp only [mem_cons, not_mem_nil, or_false] at hc
  rcases hc with rfl | rfl | rfl <;> simp [lexFrom, hop, isNameLike, Nat.not_le.mpr hb]

theorem lexFrom_closing (hc : c ∈ [')', ']', '\x7d']) : lexFrom (n + 1) blocks (c :: brackets) false (c :: cs) =
      .op c.toString :: lexFrom n blocks brackets false cs := by
  have hop : op? (c :: cs) = some (c.toString, cs) := by
    simp only [mem_cons, not_mem_nil, or_false] at hc
    rcases hc with rfl | rfl | rfl <;> rfl
  simp only [mem_cons, not_mem_nil, or_false] at hc
  rcases hc with rfl | rfl | rfl <;> simp [lexFrom, hop, isNameLike]

end Steps

/-- What is left of a text, inside some open brackets, is cut into the given tokens whatever the
    fuel. -/
def LexesTo (blocks : List (Nat × Nat)) (brackets cs : List Char) (ts : List Token) : Prop :=
  ∀ m, cs.length < m → lexFrom m blocks brackets false cs = ts

namespace LexesTo

variable {blocks : List (Nat × Nat)} {brackets cs : List Char} {ts : List Token}

theorem step {ds brackets' : List Char} (f : List Token → List Token) (h : LexesTo blocks brackets' cs ts)
    (hlen : cs.length < ds.length)
    (hstep : ∀ n, lexFrom (n + 1) blocks brackets false ds = f (lexFrom n blocks brackets' false cs)) :
    LexesTo blocks brackets ds (f ts) := by
  intro m hm
  rcases m with _ | m
  · omega
  rw [hstep, h m (by omega)]

theorem blank (h : LexesTo blocks brackets cs ts) : LexesTo blocks brackets (' ' :: cs) ts :=
  h.step id (by simp) fun _ => lexFrom_blank

theorem name (h : LexesTo blocks brackets cs ts) (hw : isName w = true)
    (hr : EndsName cs) : LexesTo blocks brackets (w.toList ++ cs) (.name w :: ts) := by
  obtain ⟨c, ds, e, _⟩ := isName_chars hw
  exact h.step (.name w :: ·) (by simp only [e, length_append, length_cons]; omega) fun _ => lexFrom_name hw hr

theorem whole (k : Nat) (h : LexesTo blocks brackets cs ts) (hr : EndsWhole cs) :
    LexesTo blocks brackets (Nat.toDigits 10 k ++ cs) (.number (.int k) :: ts) := by
  have := @Nat.length_toDigits_pos 10 k
  exact h.step (.number (.int k) :: ·) (by rw [length_append]; omega) fun _ =>
    lexFrom_number k hr

theorem op (h : LexesTo blocks brackets cs ts) (ho : o ∈ plainOps) (hr : EndsOp o cs) :
    LexesTo blocks brackets (o.toList ++ cs) (.op o :: ts) := by
  have hlen : ∀ p ∈ plainOps, 0 < p.toList.length := by decide
  have := hlen o ho
  exact h.step (.op o :: ·) (by rw [length_append]; omega) fun _ => lexFrom_op ho hr

theorem opening (h : LexesTo blocks (closing c :: brackets) cs ts) (hc : c ∈ ['(', '[', '\x7b'])
    (hb : brackets.length < bracketLimit) : LexesTo blocks brackets (c :: cs) (.op c.toString :: ts) :=
  h.step (.op c.toString :: ·) (by simp) fun _ => lexFrom_opening hc hb

theorem closed (h : LexesTo blocks brackets cs ts) (hc : c ∈ [')', ']', '\x7d']) :
    LexesTo blocks (c :: brackets) (c :: cs) (.op c.toString :: ts) :=
  h.step (.op c.toString :: ·) (by simp) fun _ => lexFrom_closing hc

end LexesTo

/-! ## 3. What may stand around an expression -/

/-- What may follow an expression without a blank; a point may not follow a whole number. -/
def follows (dot : Bool) (c : Char) : Bool :=
  [' ', ',', ':', '(', ')', '[', ']', '\x7d', '='].contains c || (dot && c == '.')

def Follows (dot : Bool) (cs : List Char) : Prop := ∀ c ∈ cs.head?, follows dot c = true

/-- The characters that an expression may start with. -/
def startsTerm (c : Char) : Bool := isNameLike c || ['-', '+', '~', '(', '[', '\x7b', '"', '\'', '.'].contains c

theorem follows_mem (h : follows dot c = true) : c ∈ [' ', ',', ':', '(', ')', '[', ']', '\x7d', '=', '.'] := by
  simp only [follows, Bool.or_eq_true, contains_iff_mem, Bool.and_eq_true, beq_iff_eq] at h
  rcases h with h | ⟨_, rfl⟩
  · exact mem_append_left ['.'] h
  · decide

theorem Follows.mono (h : Follows false cs) : Follows dot cs := by
  intro c hc
  have := h c hc
  rw [follows, Bool.false_and, Bool.or_false] at this
  rw [follows, this, Bool.true_or]

theorem Follows.endsName (h : Follows dot cs) : EndsName cs := by
  have hall : ∀ c ∈ [' ', ',', ':', '(', ')', '[', ']', '\x7d', '=', '.'], isNameLike c = false ∧ c ≠ '"' ∧ c ≠ '\'' :=
    forall_chars (by decide)
  exact fun c hc => hall c (follows_mem (h c hc))

theorem Follows.endsWhole (h : Follows false cs) : EndsWhole cs := by
  have hall : ∀ c ∈ [' ', ',', ':', '(', ')', '[', ']', '\x7d', '='], isNameLike c = false ∧ c ≠ '.' :=
    forall_chars (by decide)
  intro c hc
  have := h c hc
  rw [follows, Bool.false_and, Bool.or_false, contains_iff_mem] at this
  exact hall c this

theorem lengthens_of_startsTerm (ho : o ≠ "") (hpoint : lengthens o '.' = false) (hc : startsTerm c = true) :
    lengthens o c = false := by
  refine Bool.eq_false_iff.mpr fun h => ?_
  have hnone : ∀ d ∈ ['=', '*', '>', '/', '<'], startsTerm d = false := forall_chars (by decide)
  have hmem : c ∈ ['=', '*', '>', '/', '<'] ++ ['.'] := mem_of_lengthens ho h
  rcases mem_append.mp hmem with hm | hm
  · rw [hnone c hm] at hc
    cases hc
  · rw [mem_singleton.mp hm, hpoint] at h
    cases h

/-! ## 4. Parts of a text -/

/-- A text is cut into the given tokens wherever it stands, if at most `bracketLimit - k` brackets are
    open around it and what follows does not lengthen it. -/
structure Cuts (dot : Bool) (k : Nat) (cs : List Char) (ts : List Token) : Prop where
  lexes : ∀ blocks brackets rest us, brackets.length + k ≤ bracketLimit → Follows dot rest →
    LexesTo blocks brackets rest us → LexesTo blocks brackets (cs ++ rest) (ts ++ us)
  short : ts.length ≤ cs.length
  /-- No line break has to be unified, and no character ends the text. -/
  clean : ∀ c ∈ cs, c ≠ '\r' ∧ c ≠ '\x00'

namespace Cuts

variable {dot dot' : Bool} {k k' : Nat} {cs ds : List Char} {ts us : List Token}

theorem nil : Cuts dot k [] [] := ⟨fun _ _ _ _ _ _ h => h, Nat.le_refl _, by simp⟩

theorem mono (h : Cuts dot k cs ts) (hk : k ≤ k') : Cuts dot k' cs ts :=
  ⟨fun b br rest us hb hr hl => h.lexes b br rest us (by omega) hr hl, h.short, h.clean⟩

theorem undotted (h : Cuts dot k cs ts) : Cuts false k cs ts :=
  ⟨fun b br rest us hb hr hl => h.lexes b br rest us hb hr.mono hl, h.short, h.clean⟩

theorem clean_of_isNamePart (h : isNamePart c = true) : c ≠ '\r' ∧ c ≠ '\x00' := by
  constructor <;> (rintro rfl; revert h; decide)

theorem name (hw : isName w = true) : Cuts dot k w.toList [.name w] := by
  obtain ⟨c, ds, e, _, hall⟩ := isName_chars hw
  refine ⟨fun _ _ _ _ _ hr hl => hl.name hw hr.endsName, by simp [e], fun d hd => ?_⟩
  exact clean_of_isNamePart (hall d (e ▸ hd))

theorem whole (n : Nat) : Cuts false k (Nat.toDigits 10 n) [.number (.int n)] :=
  ⟨fun _ _ _ _ _ hr hl => hl.whole n hr.endsWhole, @Nat.length_toDigits_pos 10 n,
    fun _ hd => clean_of_isNamePart (isDigit_isNamePart (isDigit_toDigits hd))⟩

theorem append (h : Cuts dot k cs ts) (hc : follows dot c = true)
    (h' : Cuts dot' k (c :: ds) us) : Cuts dot' k (cs ++ c :: ds) (ts ++ us) := by
  refine ⟨fun b br rest vs hb hr hl => ?_, ?_, ?_⟩
  · have hfollow : Follows dot (c :: ds ++ rest) := by
      rintro d ⟨⟩
      exact hc
    rw [append_assoc, append_assoc]
    exact h.lexes b br _ _ hb hfollow (h'.lexes b br rest vs hb hr hl)
  · rw [length_append, length_append]
    exact Nat.add_le_add h.short h'.short
  · exact forall_mem_append.mpr ⟨h.clean, h'.clean⟩

theorem blank (h : Cuts dot k cs ts) : Cuts dot k (' ' :: cs) ts :=
  ⟨fun b br rest us hb hr hl => (h.lexes b br rest us hb hr hl).blank, Nat.le_succ_of_le h.short,
    forall_mem_cons.mpr ⟨by decide, h.clean⟩⟩

theorem word (hw : isName w = true) (hc : follows true c = true)
    (h : Cuts dot k (c :: cs) ts) : Cuts dot k (w.toList ++ c :: cs) (.name w :: ts) := (name (k := k) hw).append hc h

theorem op (ho : o ∈ plainOps) (hc : lengthens o c = false ∧ (o = "." → c.isDigit = false))
    (h : Cuts dot k (c :: cs) ts) : Cuts dot k (o.toList ++ c :: cs) (.op o :: ts) := by
  have hchars :
    ∀ p ∈ plainOps, 0 < p.toList.length ∧ p.toList.all (fun c => decide (c ≠ '\r' ∧ c ≠ '\x00')) = true := by decide
  refine ⟨fun b br rest us hb hr hl => ?_, ?_, ?_⟩
  · rw [append_assoc]
    refine (h.lexes b br rest us hb hr hl).op ho ?_
    rintro d ⟨⟩
    exact hc
  · have := (hchars o ho).1
    have := h.short
    rw [length_append, length_cons]
    omega
  · exact forall_mem_append.mpr ⟨forall_chars (hchars o ho).2, h.clean⟩

theorem bracketed {o : Char} (ho : o ∈ ['(', '[', '\x7b']) (h : Cuts false k cs ts) :
    Cuts dot (k + 1) (o :: (cs ++ [closing o])) (.op o.toString :: (ts ++ [.op (closing o).toString])) := by
  have hclosing : closing o ∈ [')', ']', '\x7d'] ∧ follows false (closing o) = true :=
    forall_chars (p := fun o => closing o ∈ [')', ']', '\x7d'] ∧ follows false (closing o) = true) (by decide) o ho
  have hclean : ∀ c ∈ ['(', '[', '\x7b', ')', ']', '\x7d'], c ≠ '\r' ∧ c ≠ '\x00' := forall_chars (by decide)
  refine ⟨fun b br rest us hb _ hl => ?_, ?_, ?_⟩
  · simp only [cons_append, append_assoc, nil_append]
    refine .opening ?_ ho (by omega)
    refine h.lexes b (closing o :: br) _ _ (by rw [length_cons]; omega) ?_ (hl.closed hclosing.1)
    rintro c ⟨⟩
    exact hclosing.2
  · simpa using h.short
  · refine forall_mem_cons.mpr ⟨hclean o (mem_append_left [')', ']', '\x7d'] ho), ?_⟩
    refine forall_mem_append.mpr ⟨h.clean, forall_mem_singleton.mpr ?_⟩
    exact hclean _ (mem_append_right ['(', '[', '\x7b'] hclosing.1)

end Cuts

end PuzzlePrograms.Source
