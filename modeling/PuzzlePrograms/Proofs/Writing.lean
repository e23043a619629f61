import PuzzlePrograms.Proofs.Cutting
import PuzzlePrograms.Proofs.Operators

/-!
# Texts that write expressions

`Writes l dot k s e`: the text `s` is cut into tokens that are read as `e` at level `l`, wherever it
stands with at least `k` brackets left to open; a point may follow it if `dot` is set. There is one lemma
for each way to put texts together, whichever printer does it, and `Writes.expression?`: a text that
writes an expression is read as this expression.
-/

namespace PuzzlePrograms.Source

open List Text String Reads
open Level (atom test)

variable {ts us : List Token} {cs ds : List Char} {w : String} {tss : List (List Token)} {o : Char} {os : List CmpOp}
variable {ss : List String} {es : List Expr}

/-! ## 1. Texts and their parts -/

/-- A text that starts as an expression may. -/
def Opens (cs : List Char) : Prop := ∃ c ds, cs = c :: ds ∧ startsTerm c = true

theorem Opens.append (h : Opens cs) (ds : List Char) : Opens (cs ++ ds) := by
  obtain ⟨c, es, rfl, hc⟩ := h
  exact ⟨c, es ++ ds, rfl, hc⟩

theorem opens_name (hw : isName w = true) : Opens w.toList := by
  obtain ⟨c, cs, e, _, hall⟩ := isName_chars hw
  refine ⟨c, cs, e, ?_⟩
  rw [startsTerm, isNameLike_of_isNamePart (hall c mem_cons_self), Bool.true_or]

/-- A text is cut into tokens of which something holds. -/
def CutsTo (R : List Token → Prop) (dot : Bool) (k : Nat) (s : String) : Prop := ∃ ts, Cuts dot k s.toList ts ∧ R ts

structure Writes (l : Level) (dot : Bool) (k : Nat) (s : String) (e : Expr) : Prop where
  opens : Opens s.toList
  cuts : CutsTo (Reads l · e) dot k s

/-- Texts, one for each of some things that stand between commas. -/
def WritesEach {α : Type} (R : List Token → α → Prop) (k : Nat) : List String → List α → Prop :=
  List.Forall₂ fun s a => CutsTo (R · a) false k s

section Commas

variable {α : Type} {R : List Token → α → Prop} {k : Nat} {ss : List String} {as : List α}

theorem WritesEach.tokens (h : WritesEach R k ss as) :
    ∃ tss, List.Forall₂ (fun s ts => Cuts false k (toList s) ts) ss tss ∧ List.Forall₂ R tss as := by
  induction h with
  | nil => exact ⟨[], .nil, .nil⟩
  | cons ha _ ih =>
    obtain ⟨ts, hcut, hr⟩ := ha
    obtain ⟨tss, hcuts, hrs⟩ := ih
    exact ⟨ts :: tss, .cons hcut hcuts, .cons hr hrs⟩

theorem Cuts.comma (h : Cuts false k cs ts) (h' : Cuts false k ds us) :
    Cuts false k (cs ++ ',' :: ' ' :: ds) (ts ++ .op "," :: us) :=
  h.append (c := ',') rfl (h'.blank.op (o := ",") (by decide) (by decide))

theorem Cuts.commas (h : List.Forall₂ (fun s ts => Cuts false k (toList s) ts) ss tss) :
    Cuts false k (intercalate ", " ss).toList (commas tss) := by
  induction h with
  | nil => exact .nil
  | @cons s ts ss tss hs hss ih =>
    cases hss with
    | nil => simpa [Source.commas] using hs
    | @cons s' ts' ss tss hs' hss =>
      rw [String.intercalate_cons_cons]
      simpa [Source.commas] using hs.comma ih

theorem WritesEach.commas (h : WritesEach R k ss as) :
    ∃ tss, Cuts false k (intercalate ", " ss).toList (commas tss) ∧ List.Forall₂ R tss as := by
  obtain ⟨tss, hcuts, hr⟩ := h.tokens
  exact ⟨tss, .commas hcuts, hr⟩

theorem WritesEach.tuple (h : WritesEach R k ss as) :
    ∃ tss, Cuts false k (tupleItems ss).toList (tupleTokens tss) ∧ List.Forall₂ R tss as := by
  obtain ⟨tss, hcuts, hr⟩ := h.tokens
  refine ⟨tss, ?_, hr⟩
  cases hcuts with
  | nil => exact .nil
  | @cons s ts ss tss hs hss =>
    cases hss with
    | nil =>
      have hend : Cuts false k [','] [.op ","] := by
        refine ⟨fun b br rest us _ hr hl => hl.op (o := ",") (by decide) fun c hc => ?_, by decide,
          forall_chars (by decide)⟩
        refine ⟨?_, fun e => absurd e (by decide)⟩
        have hfollow : ∀ c ∈ [' ', ',', ':', '(', ')', '[', ']', '\x7d', '=', '.'], lengthens "," c = false :=
          forall_chars (by decide)
        exact hfollow c (follows_mem (hr c hc))
      simpa [tupleItems, tupleTokens] using hs.append (c := ',') rfl hend
    | cons hs' hss => exact .commas (.cons hs (.cons hs' hss))

end Commas

namespace Writes

variable {l l' : Nat} {dot : Bool} {k k' : Nat} {s t u : String} {a b e : Expr}

theorem lift (h : Writes l dot k s e) (hle : l' ≤ l := by first | decide | assumption) (ha : l ≤ atom := by
      first | decide | assumption) (hl : test ≤ l' := by first | decide | assumption) : Writes l' dot k s e := by
  obtain ⟨ts, hcut, hr⟩ := h.cuts
  exact ⟨h.opens, ts, hcut, hr.lift hle ha hl⟩

theorem mono (h : Writes l dot k s e) (hk : k ≤ k') : Writes l dot k' s e := by
  obtain ⟨ts, hcut, hr⟩ := h.cuts
  exact ⟨h.opens, ts, hcut.mono hk, hr⟩

theorem undotted (h : Writes l dot k s e) : Writes l false k s e := by
  obtain ⟨ts, hcut, hr⟩ := h.cuts
  exact ⟨h.opens, ts, hcut.undotted, hr⟩

theorem atTest (h : Writes atom dot k s e) : Writes test dot k s e := h.lift

theorem text_ne (h : Writes l dot k s e) : s ≠ "" := by
  rintro rfl
  obtain ⟨_, _, hs, _⟩ := h.opens
  cases hs

/-! ## 2. Atoms -/

theorem name (w : Ident) : Writes atom true k w.word (.name w.word) := ⟨opens_name w.isName, _, .name w.isName, .name w⟩

theorem whole (n : Nat) : Writes atom false k (toString (n : Int)) (.const (.int n)) := by
  have hs : (toString (n : Int)).toList = Nat.toDigits 10 n := Indexed.Named.toString_int_nonneg (Int.natCast_nonneg n)
  refine ⟨?_, _, hs ▸ .whole n, number _⟩
  rw [hs]
  match hd : Nat.toDigits 10 n with
  | [] => exact absurd hd Nat.toDigits_ne_nil
  | c :: cs =>
    have hc := isDigit_isNamePart (isDigit_toDigits (n := n) (c := c) (by simp [hd]))
    exact ⟨c, cs, rfl, by rw [startsTerm, isNameLike_of_isNamePart hc, Bool.true_or]⟩

theorem none : Writes atom true k "None" (.const .none) := ⟨opens_name (by decide), _, .name (by decide), .none⟩

theorem bool (b : Bool) : Writes atom true k (if b then "True" else "False") (.const (.bool b)) := by
  have hb : isName (if b then "True" else "False") = true := by cases b <;> decide
  exact ⟨opens_name hb, _, .name hb, .bool b⟩

theorem brackets (ho : o ∈ ['(', '[', '\x7b']) {cs : List Char} {ts : List Token}
    (hs : s.toList = o :: (cs ++ [closing o])) (h : Cuts false k cs ts)
    (hr : Reads atom (inBrackets o.toString ts (closing o).toString) e) : Writes atom true (k + 1) s e := by
  refine ⟨?_, _, hs ▸ h.bracketed ho, hr⟩
  rw [hs]
  refine ⟨o, _, rfl, ?_⟩
  simp only [mem_cons, not_mem_nil, or_false] at ho
  rcases ho with rfl | rfl | rfl <;> decide

theorem round (h : Writes test dot k s e) : Writes atom true (k + 1) ("(" ++ s ++ ")") e := by
  obtain ⟨ts, hcut, hr⟩ := h.cuts
  exact brackets (o := '(') (by decide) (by simp [closing]) hcut.undotted hr.round

section Displays

variable {ss : List String} {es : List Expr}

theorem list (h : WritesEach (Reads test) k ss es) :
    Writes atom true (k + 1) ("[" ++ intercalate ", " ss ++ "]") (.list es) := by
  obtain ⟨tss, hcut, hr⟩ := h.commas
  exact brackets (o := '[') (by decide) (by simp [closing]) hcut (Reads.list hr)

theorem tuple (h : WritesEach (Reads test) k ss es) :
    Writes atom true (k + 1) ("(" ++ tupleItems ss ++ ")") (.tuple es) := by
  obtain ⟨tss, hcut, hr⟩ := h.tuple
  exact brackets (o := '(') (by decide) (by simp [closing]) hcut (.tuple hr)

theorem set (h : WritesEach (Reads test) k ss es) (hne : es ≠ []) :
    Writes atom true (k + 1) ("\x7b" ++ .intercalate ", " ss ++ "\x7d") (.set es) := by
  obtain ⟨tss, hcut, hr⟩ := h.commas
  refine brackets (o := '\x7b') (by decide) (by simp [closing]) hcut (.set hr ?_)
  rintro rfl
  cases hr
  exact hne rfl

theorem entry (hs : Writes test dot k s a) (ht : Writes test dot k t b) :
    CutsTo (ReadsEntry · (a, b)) false k (s ++ ": " ++ t) := by
  obtain ⟨ts, hcut, hr⟩ := hs.cuts
  obtain ⟨us, hcut', hr'⟩ := ht.cuts
  refine ⟨_, ?_, .pair hr hr'⟩
  have h := hcut.undotted.append (c := ':') rfl
    (hcut'.undotted.blank.op (o := ":") (by decide) (by decide))
  simpa using h

theorem dict {ps : List (Expr × Expr)} (h : WritesEach ReadsEntry k ss ps) :
    Writes atom true (k + 1) ("\x7b" ++ intercalate ", " ss ++ "\x7d") (.dict (ps.map (·.1)) (ps.map (·.2))) := by
  obtain ⟨tss, hcut, hr⟩ := h.commas
  exact brackets (o := '\x7b') (by decide) (by simp [closing]) hcut (.dict hr)

end Displays

/-! ## 3. Calls, attributes and subscripts -/

theorem trailing (h : Writes atom dot (k + 1) s a) (ho : o ∈ ['(', '[']) {cs : List Char} {ts : List Token}
    (hc : Cuts false k cs ts) (hs : u.toList = s.toList ++ o :: (cs ++ [closing o]))
    (hr : ∀ us, Reads atom us a → Reads atom (us ++ inBrackets o.toString ts (closing o).toString) e) :
    Writes atom true (k + 1) u e := by
  obtain ⟨us, hcut, hread⟩ := h.cuts
  have hfollow : follows dot o = true := by
    simp only [mem_cons, not_mem_nil, or_false] at ho
    rcases ho with rfl | rfl <;> rfl
  have ho' : o ∈ ['(', '[', '\x7b'] := mem_append_left ['\x7b'] ho
  exact ⟨hs ▸ h.opens.append _, _, hs ▸ hcut.append hfollow (hc.bracketed ho'), hr us hread⟩

theorem call (h : Writes atom dot (k + 1) s e) {as ks : List Expr} (hargs : WritesEach ReadsArg k ss (as ++ ks))
    (has : ∀ a ∈ as, IsValue a) (hks : ∀ a ∈ ks, Sub.isKeyword a = true) :
    Writes atom true (k + 1) (s ++ "(" ++ intercalate ", " ss ++ ")") (.call e as ks) := by
  obtain ⟨tss, hcut, hr⟩ := hargs.commas
  exact h.trailing (o := '(') (by decide) hcut (by simp [closing]) fun _ hf => hf.call hr has hks

theorem argument (h : Writes test dot k s e) : CutsTo (ReadsArg · e) false k s := by
  obtain ⟨ts, hcut, hr⟩ := h.cuts
  exact ⟨ts, hcut.undotted, .value hr⟩

theorem marked {o : String} (ho : o ∈ plainOps) (hpoint : lengthens o '.' = false)
    (hdot : o ≠ ".") (hcs : Opens cs) (h : Cuts dot k cs ts) : Cuts dot k (o.toList ++ cs) (.op o :: ts) := by
  obtain ⟨c, ds, rfl, hc⟩ := hcs
  have hne : ∀ p ∈ plainOps, p ≠ "" := by decide
  exact h.op ho ⟨lengthens_of_startsTerm (hne o ho) hpoint hc, fun e => absurd e hdot⟩

theorem named (x : Ident) (h : Writes test dot k s e) (hcut : Cuts dot k s.toList ts) :
    Cuts false k (x.word ++ "=" ++ s).toList (.name x.word :: .op "=" :: ts) := by
  have hval := marked (o := "=") (by decide) (by decide) (by decide) h.opens hcut.undotted
  have hname : Cuts true k x.word.toList [.name x.word] := .name x.isName
  simpa using hname.append (c := '=') rfl hval

theorem keyword (x : Ident) (h : Writes test dot k s e) :
    CutsTo (ReadsArg · (.keyword (some x.word) e)) false k (x.word ++ "=" ++ s) := by
  obtain ⟨ts, hcut, hr⟩ := h.cuts
  exact ⟨_, named x h hcut, .keyword x hr⟩

theorem attr (h : Writes atom true k s e) (x : Ident) : Writes atom true k (s ++ "." ++ x.word) (.attr e x.word) := by
  obtain ⟨ts, hcut, hr⟩ := h.cuts
  have hname : Cuts true k x.word.toList [.name x.word] := .name x.isName
  obtain ⟨c, cs, hx, hc, hall⟩ := isName_chars x.isName
  have hfirst : lengthens "." c = false ∧ ("." = "." → c.isDigit = false) := by
    refine ⟨Bool.eq_false_iff.mpr fun hl => ?_, fun _ => Bool.eq_false_iff.mpr fun hd => ?_⟩
    · have hmem : ∀ d ∈ ['=', '*', '>', '/', '<', '.'], isNameStart d = false := forall_chars (by decide)
      rw [hmem c (mem_of_lengthens (by decide) hl)] at hc
      cases hc
    · simp [isNameStart_digit hd] at hc
  rw [hx] at hname
  refine ⟨?_, _, ?_, hr.attr x⟩
  · simpa using h.opens.append ('.' :: x.word.toList)
  · simpa [hx] using hcut.append (c := '.') rfl (hname.op (o := ".") (by decide) hfirst)

theorem subscript (h : Writes atom dot (k + 1) s e) (hi : CutsTo (ReadsIndex · a) false k t) :
    Writes atom true (k + 1) (s ++ "[" ++ t ++ "]") (.subscript e a) := by
  obtain ⟨ts, hcut, hr⟩ := hi
  exact h.trailing (o := '[') (by decide) hcut (by simp [closing]) fun _ hf => hf.subscript hr

theorem subscript_tuple (h : Writes atom dot (k + 1) s e) (hes : WritesEach ReadsIndex k ss es) (hne : es ≠ []) :
    Writes atom true (k + 1) (s ++ "[" ++ tupleItems ss ++ "]") (.subscript e (.tuple es)) := by
  obtain ⟨tss, hcut, hr⟩ := hes.tuple
  exact h.trailing (o := '[') (by decide) hcut (by simp [closing]) fun _ hf =>
    hf.subscript_tuple hr hne

theorem index (h : Writes test dot k s e) : CutsTo (ReadsIndex · e) false k s := by
  obtain ⟨ts, hcut, hr⟩ := h.cuts
  exact ⟨ts, hcut.undotted, .value hr⟩

/-! ## 4. Operations -/

theorem sign {o : UnaryOp} (ho : o ≠ .not) (h : Writes .factor dot k s e) :
    Writes .factor false k (o.text ++ s) (.unaryOp o e) := by
  obtain ⟨ts, hcut, hr⟩ := h.cuts
  have htext : o.text = o.sign := by cases o <;> first | exact absurd rfl ho | rfl
  have hmem : o.sign ∈ plainOps ∧ lengthens o.sign '.' = false ∧ o.sign ≠ "." ∧ Opens o.sign.toList := by
    cases o with
    | not => exact absurd rfl ho
    | plus => exact ⟨by decide, by decide, by decide, '+', [], rfl, by decide⟩
    | minus => exact ⟨by decide, by decide, by decide, '-', [], rfl, by decide⟩
    | invert => exact ⟨by decide, by decide, by decide, '~', [], rfl, by decide⟩
  rw [htext]
  refine ⟨?_, _, ?_, hr.sign ho⟩
  · rw [String.toList_append]
    exact hmem.2.2.2.append _
  · rw [String.toList_append]
    exact marked hmem.1 hmem.2.1 hmem.2.2.1 h.opens hcut.undotted

theorem between (hw : isName w = true) (h : Cuts dot k cs ts) (h' : Cuts dot k ds us) :
    Cuts false k (cs ++ ' ' :: (w.toList ++ ' ' :: ds)) (ts ++ .name w :: us) :=
  h.undotted.append (c := ' ') rfl (h'.undotted.blank.word hw rfl).blank

theorem amid (hw : w ∈ plainOps) (h : Cuts dot k cs ts) (h' : Cuts dot k ds us) :
    Cuts false k (cs ++ ' ' :: (w.toList ++ ' ' :: ds)) (ts ++ .op w :: us) := by
  have hend : ∀ w ∈ plainOps, lengthens w ' ' = false ∧ (w = "." → ' '.isDigit = false) := by decide
  exact h.undotted.append (c := ' ') rfl (h'.undotted.blank.op hw (hend w hw)).blank

theorem not (h : Writes .not dot k s e) : Writes .not false k ("not " ++ s) (.unaryOp .not e) := by
  obtain ⟨ts, hcut, hr⟩ := h.cuts
  refine ⟨?_, _, ?_, hr.not⟩
  · simpa using (opens_name (w := "not") (by decide)).append (' ' :: s.toList)
  · simpa using hcut.undotted.blank.word (w := "not") (by decide) rfl

theorem binary (o : BinOp) {m n : Nat} (hm : m = if o == .pow then .next o.level else o.level) (hn : n =
      if o == .pow then Level.factor else Level.next o.level) (h : Writes m dot k s a) (h' : Writes n dot k t b) :
    Writes o.level false k (s ++ " " ++ o.text ++ " " ++ t) (.binOp a o b) := by
  obtain ⟨ts, hcut, hr⟩ := h.cuts
  obtain ⟨us, hcut', hr'⟩ := h'.cuts
  have htext : o.text ∈ plainOps := by cases o <;> decide
  refine ⟨?_, _, ?_, (?_ : Reads o.level (ts ++ .op o.text :: us) (.binOp a o b))⟩
  · simpa using h.opens.append (' ' :: (o.text.toList ++ ' ' :: t.toList))
  · simpa using amid htext hcut hcut'
  · subst hm hn
    cases o with
    | pow => exact hr.pow hr'
    | _ => exact .binary (by decide) (by decide) hr hr'

/-- The text of comparisons one after another. -/
def comparedText (os : List CmpOp) (ss : List String) : String :=
  join ((os.zip ss).map fun (o, t) => " " ++ o.text ++ " " ++ t)

theorem cuts_compared (h : Cuts false k cs ts) (o : CmpOp) (h' : Cuts false k ds us) :
    Cuts false k (cs ++ ' ' :: (o.text.toList ++ ' ' :: ds)) (ts ++ (o.cut ++ us)) := by
  cases o with
  | isNot =>
    have hnot : Cuts false k ("not".toList ++ ' ' :: ds) _ := h'.blank.word (by decide) rfl
    exact h.append (c := ' ') rfl (hnot.blank.word (w := "is") (by decide) rfl).blank
  | notMem =>
    have hin : Cuts false k ("in".toList ++ ' ' :: ds) _ := h'.blank.word (by decide) rfl
    exact h.append (c := ' ') rfl (hin.blank.word (w := "not") (by decide) rfl).blank
  | is => exact between (w := "is") (by decide) h h'
  | mem => exact between (w := "in") (by decide) h h'
  | eq => exact amid (w := "==") (by decide) h h'
  | ne => exact amid (w := "!=") (by decide) h h'
  | lt => exact amid (w := "<") (by decide) h h'
  | le => exact amid (w := "<=") (by decide) h h'
  | gt => exact amid (w := ">") (by decide) h h'
  | ge => exact amid (w := ">=") (by decide) h h'

theorem cuts_comparedText (hes : List.Forall₂ (Writes .bitOr false k) ss es) (hlen : os.length = es.length)
    (h : Cuts false k cs ts) :
    ∃ ps, Cuts false k (cs ++ (comparedText os ss).toList) (ts ++ comparedWith ps) ∧ ReadsOperands ps (os.zip es) := by
  induction hes generalizing os cs ts with
  | nil => exact ⟨[], by simpa [comparedText, comparedWith] using h, by simp [ReadsOperands]⟩
  | @cons s e ss es hs _ ih =>
    cases os with
    | nil => simp at hlen
    | cons o os =>
      obtain ⟨us, hcut, hr⟩ := hs.cuts
      obtain ⟨ps, hcuts, hps⟩ := ih (by simpa using hlen) (cuts_compared h o hcut)
      refine ⟨(o, us) :: ps, ?_, .cons ⟨rfl, hr⟩ hps⟩
      simpa [comparedText, comparedWith] using hcuts

theorem compare (h : Writes .bitOr dot k s e) (hes : List.Forall₂ (Writes .bitOr false k) ss es)
    (hlen : os.length = es.length) (hne : es ≠ []) :
    Writes .compare false k (s ++ comparedText os ss) (.compare e os es) := by
  obtain ⟨ts, hcut, hr⟩ := h.cuts
  obtain ⟨ps, hcuts, hps⟩ := cuts_comparedText hes hlen hcut.undotted
  have hread := hr.compare hps (by cases os <;> cases es <;> simp_all)
  rw [map_fst_zip (Nat.le_of_eq hlen), map_snd_zip (Nat.le_of_eq hlen.symm)] at hread
  rw [← toList_append] at hcuts
  refine ⟨?_, _, hcuts, hread⟩
  rw [toList_append]
  exact h.opens.append _

theorem cuts_joined (o : BoolOp) (h : List.Forall₂ (fun s ts => Cuts false k (toList s) ts) ss tss)
    (hs : Cuts false k s.toList ts) :
    Cuts false k (intercalate (" " ++ o.text ++ " ") (s :: ss)).toList (ts ++ afterWords o.text tss) := by
  have hw : isName o.text = true := by cases o <;> decide
  induction h generalizing s ts with
  | nil => simpa [afterWords] using hs
  | @cons s' ts' ss tss hs' _ ih =>
    rw [String.intercalate_cons_cons]
    simpa [afterWords] using between hw hs (ih hs')

theorem joined (o : BoolOp) (h : Writes (o.level + 1) dot k s e) (hes : WritesEach (Reads (o.level + 1)) k ss es)
    (hne : es ≠ []) : Writes o.level false k (intercalate (" " ++ o.text ++ " ") (s :: ss)) (.boolOp o (e :: es)) := by
  obtain ⟨ts, hcut, hr⟩ := h.cuts
  obtain ⟨tss, hcuts, hrs⟩ := hes.tokens
  refine ⟨?_, _, cuts_joined o hcuts hcut.undotted, hr.joined o hrs hne⟩
  cases ss with
  | nil => simpa using h.opens
  | cons s' ss =>
    rw [String.intercalate_cons_cons, String.append_assoc, String.toList_append]
    exact h.opens.append _

theorem ifExp (hs : Writes .or dot k s b) (ht : Writes .or dot k t a) (hu : Writes test dot k u e) :
    Writes test false k (s ++ " if " ++ t ++ " else " ++ u) (.ifExp a b e) := by
  obtain ⟨ts, hcut, hr⟩ := hs.cuts
  obtain ⟨us, hcut', hr'⟩ := ht.cuts
  obtain ⟨vs, hcut'', hr''⟩ := hu.cuts
  refine ⟨?_, _, ?_, hr.ifExp hr' hr''⟩
  · simpa using hs.opens.append (" if ".toList ++ (t.toList ++ " else ".toList ++ u.toList))
  · have helse := between (w := "else") (by decide) hcut' hcut''
    simpa using between (w := "if") (by decide) hcut.undotted helse

/-! ## 5. Functions -/

def WritesParams (k : Nat) : List String → List (Ident × Option Expr) → Prop := WritesEach ReadsParam k

theorem param (x : Ident) : CutsTo (ReadsParam · (x, .none)) false k x.word := ⟨_, .name x.isName, .plain x⟩

theorem optional (x : Ident) (h : Writes test dot k s e) (he : e.isAbsent = false) :
    CutsTo (ReadsParam · (x, some e)) false k (x.word ++ "=" ++ s) := by
  obtain ⟨ts, hcut, hr⟩ := h.cuts
  exact ⟨_, named x h hcut, .optional x hr he⟩

def lambdaText (ps body : String) : String := "lambda" ++ (if ps.isEmpty then "" else " " ++ ps) ++ ": " ++ body

theorem lambda {ps : List (Ident × Option Expr)} (hps : WritesParams k ss ps) (ho : InOrder ps)
    (h : Writes test dot k s e) :
    Writes test false k (lambdaText (intercalate ", " ss) s) (.lambda (paramsOf ps) e) := by
  obtain ⟨ts, hcut, hr⟩ := h.cuts
  obtain ⟨tss, hcuts, hpr⟩ := hps.commas
  refine ⟨?_, _, ?_, hr.lambda hpr ho⟩
  · rw [lambdaText, String.append_assoc, String.append_assoc, String.toList_append]
    exact (opens_name (by decide)).append _
  · have hbody : Cuts false k (':' :: ' ' :: s.toList) (.op ":" :: ts) :=
      hcut.undotted.blank.op (o := ":") (by decide) (by decide)
    by_cases hp : intercalate ", " ss = ""
    · -- no parameter has an empty text
      have hnil : tss = [] := by
        rw [hp] at hcuts
        have hshort := hcuts.short
        have hcount := length_le_commas (ReadsParam.nonempty hpr)
        simp only [toList_empty, length_nil, Nat.le_zero] at hshort
        exact length_eq_zero_iff.mp (by omega)
      subst hnil
      simpa [lambdaText, hp, commas] using hbody.word (w := "lambda") (by decide) rfl
    · have hall := (hcuts.append (c := ':') rfl hbody).blank.word (w := "lambda") (by decide) rfl
      simpa [lambdaText, hp] using hall

/-! ## 6. Whole texts -/

theorem lex_eq (h : Writes l dot k s e) :
    lex false s = lexFrom (2 * s.toList.length + 3) [(0, 0)] [] false s.toList := by
  obtain ⟨ts, hcut, -⟩ := h.cuts
  have hbreaks : unifyBreaks s.toList = s.toList := unifyBreaks_eq fun hm => absurd rfl (hcut.clean _ hm).1
  have hnull : s.toList.contains '\x00' = false := by simpa using fun hm => absurd rfl (hcut.clean _ hm).2
  obtain ⟨c, cs, hs, hc⟩ := h.opens
  have hfirst : c ∉ [' ', '\t', '\x0c', '\\', '#', '\n'] := by
    have hnone : ∀ x ∈ [' ', '\t', '\x0c', '\\', '#', '\n'], startsTerm x = false := forall_chars (by decide)
    intro hm
    rw [hnone c hm] at hc
    cases hc
  unfold lex
  simp only [hbreaks, hnull]
  rw [if_neg (by decide), if_neg (by simp), hs, lexFrom_fresh hfirst]

theorem lexes (h : Writes l dot k s e) (hk : k ≤ bracketLimit) :
    ∃ ts, lex false s = ts ++ [.endMarker] ∧ ts.length ≤ s.length ∧ Reads l ts e := by
  obtain ⟨ts, hcut, hr⟩ := h.cuts
  have hend : LexesTo [(0, 0)] [] [] [.endMarker] := by
    intro m hm
    obtain ⟨m, rfl⟩ : ∃ j, m = j + 1 := ⟨m - 1, by simp at hm; omega⟩
    rfl
  have hlex := hcut.lexes [(0, 0)] [] [] _ (by simpa using hk) (by simp [Follows]) hend
  rw [append_nil] at hlex
  exact ⟨ts, h.lex_eq.trans (hlex _ (by omega)), by simpa only [length_toList] using hcut.short, hr⟩

/-- **A text that writes an expression is read as this expression.** -/
theorem expression? (h : Writes test dot k s e) (hk : k ≤ bracketLimit) : Source.expression? s = .ok e := by
  obtain ⟨ts, hlex, hlen, hr⟩ := h.lexes hk
  have hfits : Fits (sub (s.length + 8) (s.length + 8)) (ts.length + 1) :=
    ⟨by show _ < s.length + 8; omega, s.length + 8, by omega, rfl⟩
  have hread := hr.expression hfits (Nat.lt_succ_self _) .endMarker [] (by decide)
  have hitems : Reader.commaItems Sub.atListEnd (sub (s.length + 8) (s.length + 8)).expression (s.length + 8)
      (ts ++ [.endMarker]) = .ok (([e], false), [.endMarker]) := Reader.after hread (Reader.bind_ok (acceptOp_no rfl))
  have hall : (sub (s.length + 8) (s.length + 8)).expressions (ts ++ [.endMarker]) = .ok (e, [.endMarker]) :=
    Reader.bind_ok hitems
  unfold Source.expression? readText
  simp only [hlex]
  rw [Reader.bind_ok hall]
  rfl

end Writes

end PuzzlePrograms.Source
