import PuzzlePrograms.Pass.Rename
import PuzzlePrograms.Proofs.NamedText

/-!
# When numbered parameters keep what names stand for

`renumberParams` goes through a text once and knows no scopes: from the declaration of a parameter on it
replaces every word that is its name. This file says what that does to an expression of names, whole
numbers, calls and functions of one parameter.

* `Scoped` are these expressions, `Scoped.chars` their text (`text_expr`);
* `Scoped.renumbered` is the expression that the renumbered text writes (`renumberParams_chars`);
* `Scoped.AlphaEq` says that two expressions differ in the names of parameters only;
* `Scoped.places` lists the names of an expression with the functions around them and those declared
  before them in the text; `Place.Kept` says when a name still stands for the same thing.
-/

namespace PuzzlePrograms.Pass

open List Source Text Indexed Except Expr

variable {w cs rest out : List Char} {c : Char} {x : String} {j : Nat}

/-! ## 1. Expressions with scopes -/

/-- Names, whole numbers, calls with positional arguments, and functions of one parameter. -/
inductive Scoped where
  | name (x : Ident)
  | int (i : Int)
  | call (f : Scoped) (args : List Scoped)
  | fn (x : Ident) (b : Scoped)

/-- The functions declared so far by the names of their parameters, each with its number; the latest
    first. -/
abbrev Decls := List (String × Nat)

variable {ds scope before : Decls}

def Decls.declare (ds : Decls) (x : String) : Decls := (x, ds.length + 1) :: ds

/-- The name that a word gets after some declarations. -/
def Decls.rename (ds : Decls) (x : Ident) : Ident :=
  match ds.lookup x.word with
  | some k => varIdent k
  | none => x

structure Place where
  name : Ident
  /-- The functions around it, the innermost first. -/
  scope : Decls
  /-- The functions declared before it in the text, the latest first. -/
  before : Decls

/-- A name that a function binds is kept if this function is the latest that declares it, and a name that
    no function binds is kept if it stays as it is and is not the new name of a function around it. -/
def Place.Kept (p : Place) : Prop :=
  match p.scope.lookup p.name.word with
  | some k => p.before.lookup p.name.word = some k
  | none => (p.before.rename p.name).word = p.name.word ∧
      ∀ d ∈ p.scope, varName d.2 ≠ p.name.word

instance (p : Place) : Decidable p.Kept := by
  unfold Place.Kept
  split <;> infer_instance

namespace Scoped

mutual

def expr : Scoped → Expr
  | .name x => .name x.word
  | .int i => .const (.int i)
  | .call f as => .call f.expr (exprs as) []
  | .fn x b => .lambda (.oneParam (.param x.word .absent)) b.expr

def exprs : List Scoped → List Expr
  | [] => []
  | e :: es => e.expr :: exprs es

end

mutual

/-- Every name is one word: it holds letters, digits and low lines only. -/
def Worded : Scoped → Prop
  | .name x => ∀ c ∈ x.word.toList, isWord c = true
  | .int _ => True
  | .call f as => f.Worded ∧ AllWorded as
  | .fn x b => (∀ c ∈ x.word.toList, isWord c = true) ∧ b.Worded

def AllWorded : List Scoped → Prop
  | [] => True
  | e :: es => e.Worded ∧ AllWorded es

end

mutual

/-- The declarations after an expression. -/
def declared (ds : Decls) : Scoped → Decls
  | .name _ | .int _ => ds
  | .call f as => allDeclared (f.declared ds) as
  | .fn x b => b.declared (ds.declare x.word)

def allDeclared (ds : Decls) : List Scoped → Decls
  | [] => ds
  | e :: es => allDeclared (e.declared ds) es

end

mutual

/-- An expression after some declarations, with its parameters renumbered. -/
def renumbered (ds : Decls) : Scoped → Scoped
  | .name x => .name (ds.rename x)
  | .int i => .int i
  | .call f as => .call (f.renumbered ds) (allRenumbered (f.declared ds) as)
  | .fn x b => .fn (varIdent (ds.length + 1)) (b.renumbered (ds.declare x.word))

def allRenumbered (ds : Decls) : List Scoped → List Scoped
  | [] => []
  | e :: es => e.renumbered ds :: allRenumbered (e.declared ds) es

end

mutual

/-- The names of an expression inside some functions and after some declarations. -/
def places (scope before : Decls) : Scoped → List Place
  | .name x => [⟨x, scope, before⟩]
  | .int _ => []
  | .call f as => f.places scope before ++ allPlaces scope (f.declared before) as
  | .fn x b => b.places ((x.word, before.length + 1) :: scope) (before.declare x.word)

def allPlaces (scope before : Decls) : List Scoped → List Place
  | [] => []
  | e :: es => e.places scope before ++ allPlaces scope (e.declared before) es

end

/-! ## 2. Names of parameters -/

/-- Two names stand for each other below functions that bind names pair by pair: the same function binds
    both, or no function binds either and they are the same. -/
def Paired : List (String × String) → String → String → Prop
  | [], x, y => x = y
  | (a, b) :: ρ, x, y => (x = a ∧ y = b) ∨ (x ≠ a ∧ y ≠ b ∧ Paired ρ x y)

mutual

/-- Two expressions are the same but for the names of parameters, below functions that bind names pair by
    pair. -/
def Alike : List (String × String) → Scoped → Scoped → Prop
  | ρ, .name x, .name y => Paired ρ x.word y.word
  | _, .int i, .int j => i = j
  | ρ, .call f as, .call g bs => Alike ρ f g ∧ AllAlike ρ as bs
  | ρ, .fn x b, .fn y c => Alike ((x.word, y.word) :: ρ) b c
  | _, _, _ => False

def AllAlike : List (String × String) → List Scoped → List Scoped → Prop
  | _, [], [] => True
  | ρ, e :: es, f :: fs => Alike ρ e f ∧ AllAlike ρ es fs
  | _, _, _ => False

end

/-- Two expressions differ in the names of parameters only. -/
def AlphaEq (e f : Scoped) : Prop := Alike [] e f

/-! ## 3. Declarations -/

/-- The numbers of declarations are those of their places. -/
def Numbered : Decls → Prop
  | [] => True
  | (_, k) :: ds => k = ds.length + 1 ∧ Numbered ds

theorem Numbered.declare (h : Numbered ds) (x : String) : Numbered (ds.declare x) := ⟨rfl, h⟩

theorem Numbered.le_length (h : Numbered ds) {d : String × Nat} (hd : d ∈ ds) : d.2 ≤ ds.length := by
  induction ds with
  | nil => exact absurd hd not_mem_nil
  | cons c ds ih =>
    obtain ⟨x, k⟩ := c
    rw [length_cons]
    rcases mem_cons.mp hd with rfl | hd
    · exact Nat.le_of_eq h.1
    · have := ih h.2 hd
      omega

theorem Numbered.nodup (h : Numbered ds) : (ds.map (·.2)).Nodup := by
  induction ds with
  | nil => exact nodup_nil
  | cons c ds ih =>
    obtain ⟨x, k⟩ := c
    refine nodup_cons.mpr ⟨fun hk => ?_, ih h.2⟩
    obtain ⟨d, hd, e⟩ := mem_map.mp hk
    have hle := h.2.le_length hd
    have hlt : k = ds.length + 1 := h.1
    simp only at e
    omega

/-- What holds of the declarations around a name: they are among those before it, in the same order. -/
structure Within (scope before : Decls) : Prop where
  sub : scope.Sublist before
  numbered : Numbered before

theorem Within.declare (h : Within scope before) (x : String) :
    Within ((x, before.length + 1) :: scope) (before.declare x) := ⟨h.sub.cons_cons _, h.numbered.declare x⟩

mutual

theorem Within.declared {scope before : Decls} (h : Within scope before) :
  (e : Scoped) → Within scope (e.declared before)
  | .name _ | .int _ => h
  | .call f as => (h.declared f).allDeclared as
  | .fn x b => by
    have hx := h.declare x.word
    have hb := hx.declared b
    exact ⟨(sublist_cons_self _ _).trans hb.sub, hb.numbered⟩

theorem Within.allDeclared {scope before : Decls} (h : Within scope before) :
  (es : List Scoped) → Within scope (allDeclared before es)
  | [] => h
  | e :: es => (h.declared e).allDeclared es

end

/-! ## 4. The names that are kept -/

/-- The functions around a name with their old and new parameters. -/
def Decls.pairs (scope : Decls) : List (String × String) := scope.map fun d => (d.1, varName d.2)

theorem mem_of_lookup {k : Nat} (h : ds.lookup x = some k) : (x, k) ∈ ds := by
  obtain ⟨l₁, l₂, e, _⟩ := lookup_eq_some_iff.mp h
  rw [e]
  simp

/-- A name that a function binds stands for the new name of the function with the same number. -/
theorem paired_of_bound (hn : (scope.map (·.2)).Nodup)
    (h : scope.lookup x = some j) (k : Nat) : Paired (Decls.pairs scope) x (varName k) ↔ j = k := by
  induction scope with
  | nil => cases h
  | cons d scope ih =>
    obtain ⟨a, i⟩ := d
    rw [map_cons, nodup_cons] at hn
    show (x = a ∧ varName k = varName i) ∨ (x ≠ a ∧ varName k ≠ varName i ∧ Paired (Decls.pairs scope) x (varName k)) ↔
      j = k
    by_cases hx : x = a
    · subst hx
      rw [lookup_cons_self, Option.some.injEq] at h
      rw [varName_inj, ← h]
      simp [eq_comm]
    · have hl : scope.lookup x = some j := by rwa [lookup_cons, beq_false_of_ne hx] at h
      have hij : i ≠ j := by
        rintro rfl
        exact hn.1 (mem_map.mpr ⟨_, mem_of_lookup hl, rfl⟩)
      rw [ih hn.2 hl]
      constructor
      · rintro (⟨e, _⟩ | ⟨_, _, e⟩)
        · exact absurd e hx
        · exact e
      · rintro rfl
        exact .inr ⟨hx, fun e => hij (varName_inj.mp e).symm, rfl⟩

/-- A name that no function binds stands for itself, unless a function has it as its new name. -/
theorem paired_of_free {y : String} (h : scope.lookup x = none) :
    Paired (Decls.pairs scope) x y ↔ y = x ∧ ∀ d ∈ scope, varName d.2 ≠ x := by
  induction scope with
  | nil => simp [Decls.pairs, Paired, eq_comm]
  | cons d scope ih =>
    obtain ⟨a, i⟩ := d
    show (x = a ∧ y = varName i) ∨ (x ≠ a ∧ y ≠ varName i ∧ Paired (Decls.pairs scope) x y) ↔ _
    have hx : x ≠ a := by
      rintro rfl
      rw [lookup_cons_self] at h
      cases h
    have hl : scope.lookup x = none := by rwa [lookup_cons, beq_false_of_ne hx] at h
    rw [ih hl]
    simp only [hx, false_and, ne_eq, not_false_eq_true, true_and, false_or, mem_cons, forall_eq_or_imp]
    constructor
    · rintro ⟨h1, rfl, h2⟩
      exact ⟨rfl, fun e => h1 e.symm, h2⟩
    · rintro ⟨rfl, h1, h2⟩
      exact ⟨fun e => h1 e.symm, rfl, h2⟩

theorem Within.lookup (h : Within scope before) (hj : scope.lookup x = some j) : ∃ k, before.lookup x = some k := by
  have hm : (x, j) ∈ before := h.sub.subset (mem_of_lookup hj)
  match hk : before.lookup x with
  | some k => exact ⟨k, rfl⟩
  | none => exact absurd rfl (bne_iff_ne.mp (lookup_eq_none_iff.mp hk _ hm))

theorem kept_iff (h : Within scope before) (x : Ident) :
    Paired (Decls.pairs scope) x.word (before.rename x).word ↔ Place.Kept ⟨x, scope, before⟩ := by
  unfold Place.Kept
  simp only
  cases hj : scope.lookup x.word with
  | some j =>
    obtain ⟨k, hk⟩ := h.lookup hj
    have hn : (scope.map (·.2)).Nodup := h.numbered.nodup.sublist (h.sub.map _)
    have hr : (before.rename x).word = varName k := by
      simp only [Decls.rename, hk]
      rfl
    rw [hr, paired_of_bound hn hj, hk]
    simp [eq_comm]
  | none => exact paired_of_free hj

mutual

/-- The renumbered expression is the same but for the names of parameters just if every name is
    kept. -/
theorem alike_renumbered_iff {scope before : Decls} (h : Within scope before) : (e : Scoped) →
      (Alike (Decls.pairs scope) e (e.renumbered before) ↔ ∀ p ∈ e.places scope before, p.Kept)
  | .name x => by
    rw [renumbered, places, Alike, kept_iff h]
    simp
  | .int i => by simp [renumbered, places, Alike]
  | .call f as => by rw [renumbered, places, Alike, alike_renumbered_iff h f,
      allAlike_renumbered_iff (h.declared f) as, forall_mem_append]
  | .fn x b => by
    rw [renumbered, places, Alike]
    exact alike_renumbered_iff (h.declare x.word) b

theorem allAlike_renumbered_iff {scope before : Decls} (h : Within scope before) :
    (es : List Scoped) →
      (AllAlike (Decls.pairs scope) es (allRenumbered before es) ↔ ∀ p ∈ allPlaces scope before es, p.Kept)
  | [] => by simp [allRenumbered, allPlaces, AllAlike]
  | e :: es => by
    rw [allRenumbered, allPlaces, AllAlike, alike_renumbered_iff h e, allAlike_renumbered_iff (h.declared e) es,
      forall_mem_append]

end

/-! ## 5. The text of an expression -/

/-- The characters of what is called; a function stands in brackets. -/
def callChars : Scoped → List Char → List Char
  | .fn _ _, cs => '(' :: (cs ++ [')'])
  | _, cs => cs

mutual

def chars : Scoped → List Char
  | .name x => x.word.toList
  | .int i => (toString i).toList
  | .call f as => f.callChars f.chars ++ '(' :: (argChars as ++ [')'])
  | .fn x b => lambdaChars ++ ' ' :: (x.word.toList ++ ':' :: ' ' :: b.chars)

def argChars : List Scoped → List Char
  | [] => []
  | e :: es => e.chars ++ moreChars es

def moreChars : List Scoped → List Char
  | [] => []
  | e :: es => ',' :: ' ' :: (e.chars ++ moreChars es)

end

def text (e : Scoped) : String := .ofList e.chars

theorem toList_join (e : Scoped) (es : List Scoped) :
    (String.intercalate ", " (e.text :: es.map text)).toList = e.chars ++ moreChars es := by
  induction es generalizing e with
  | nil => simp [text, moreChars]
  | cons f es ih =>
    have hc : (", " : String).toList = [',', ' '] := rfl
    rw [map_cons, String.intercalate_cons_cons, String.toList_append, String.toList_append, ih, hc, text,
      String.toList_ofList, moreChars]
    simp

theorem toList_args (es : List Scoped) : (String.intercalate ", " (es.map text)).toList = argChars es := by
  cases es with
  | nil => rfl
  | cons e es => rw [map_cons, toList_join, argChars]

/-- The text of an expression at a place that asks for a level. -/
def shown (level : Level) (e : Scoped) : String := .ofList (if level > .test then e.callChars e.chars else e.chars)

theorem shown_test (e : Scoped) : e.shown .test = e.text := by simp [shown, text]

mutual

theorem doc_text (plain : Bool) (level : Level) : (e : Scoped) → e.expr.doc.text plain level = .ok (e.shown level)
  | .name x => by simp [expr, doc, Doc.solid, shown, callChars, chars]
  | .int i => by simp [expr, doc, Constant.doc, Constant.text, Doc.solid, shown, callChars, chars]
  | .call f as => by
    have hf := doc_text plain Level.atom f
    have has := docs_text plain as
    have hks : Doc.all plain (docs []) = .ok [] := rfl
    simp only [expr, Expr.doc, Doc.solid, hf, has, hks, bind, Except.bind, pure, Except.pure, append_nil]
    congr 1
    apply String.toList_inj.mp
    have ho : ("(" : String).toList = ['('] := rfl
    have hc : (")" : String).toList = [')'] := rfl
    have ha : Level.atom > Level.test := by decide
    simp only [String.toList_append, toList_args, shown, String.toList_ofList, ho, hc, if_pos ha, callChars,
      chars, ite_self, append_assoc, cons_append, nil_append]
  | .fn x b => by
    have hb := doc_text plain Level.test b
    have hps : (oneParam (.param x.word .absent)).doc.text plain Level.test = .ok x.word := by
      simp [oneParam, doc, Doc.solid, Doc.parameters, Doc.all, docs, Doc.optional,
        Expr.isAbsent, bind, Except.bind, pure, Except.pure]
    have hx : x.word.isEmpty = false := by
      obtain ⟨c, cs, e, _⟩ := isName_chars x.isName
      refine Bool.eq_false_iff.mpr fun h => ?_
      rw [String.isEmpty_iff.mp h] at e
      cases e
    simp only [expr, Expr.doc, Doc.leveled, hps, hb, bind, Except.bind, pure, Except.pure, hx, shown_test]
    congr 1
    apply String.toList_inj.mp
    have hl : ("lambda" : String).toList = lambdaChars := rfl
    have hs : (" " : String).toList = [' '] := rfl
    have hc : (": " : String).toList = [':', ' '] := rfl
    have ho : ("(" : String).toList = ['('] := rfl
    have he : (")" : String).toList = [')'] := rfl
    by_cases h : level > Level.test <;>
      simp [bracketedIf, shown, callChars, chars, text, h, hl, hs, hc, ho, he]

theorem docs_text (plain : Bool) : (es : List Scoped) → Doc.all plain (docs (exprs es)) = .ok (es.map text)
  | [] => rfl
  | e :: es => by
    have he := doc_text plain Level.test e
    have hes := docs_text plain es
    unfold Doc.all at hes ⊢
    simp only [exprs, docs, mapM_cons, he, hes, bind, Except.bind, pure, Except.pure, shown_test, map_cons]

end

/-- **The printer writes an expression with these characters.** -/
theorem text_expr (e : Scoped) : e.expr.text = .ok e.text := by rw [Expr.text, doc_text, shown_test]

end Scoped

/-! ## 6. The words of a text -/

/-- What may follow a word: nothing, or a character that is part of no word. -/
def EndsWord (rest : List Char) : Prop := ∀ c ∈ rest.head?, isWord c = false

theorem afterWord?_eq_some : afterWord? w cs = some rest ↔ cs = w ++ rest := by
  induction w generalizing cs with
  | nil => simp [afterWord?]
  | cons c w ih =>
    cases cs with
    | nil => simp [afterWord?]
    | cons d cs =>
      by_cases h : c = d
      · simp [afterWord?, h, ih]
      · have hd : ¬ d = c := fun e => h e.symm
        simp [afterWord?, h, hd]

theorem apart_wordExtra : apart wordExtraRanges.toList blankRanges = true := by decide +kernel

theorem isBlank_of_isWord (h : isWord c = true) : isBlank c = false := by
  unfold isWord at h
  split at h
  · rename_i hc
    have hn : isNamePart c = true := by simp [isNamePart, hc, h]
    exact (isNamePart_wordly hn).1
  · rename_i hc
    rw [Bool.or_eq_true, Bool.and_eq_true] at h
    rcases h with h | h
    · exact not_blank_of_apart apart_nameStart (by omega) h.1
    · exact not_blank_of_apart apart_wordExtra (by omega) h

theorem declared?_eq_none (h : ∀ rest, cs = lambdaChars ++ rest → rest.takeWhile isBlank = []) :
    declared? cs = none := by
  unfold declared?
  rw [← lambdaChars_eq]
  cases ha : afterWord? lambdaChars cs with
  | none => rfl
  | some rest =>
    have hrest := h rest (afterWord?_eq_some.mp ha)
    simp only [Option.bind_eq_bind, Option.bind_some, hrest, isEmpty_nil, Bool.true_or, reduceIte]

theorem declared?_word (hw : ∀ c ∈ w, isWord c = true) (hr : EndsWord rest) (hl : w ≠ lambdaChars) :
    declared? (w ++ rest) = none := by
  refine declared?_eq_none fun after h => ?_
  rcases append_eq_append_iff.mp h with ⟨cs, e, rfl⟩ | ⟨cs, e, rfl⟩
  · -- the word is too short, and what follows it is no part of a word
    cases cs with
    | nil => exact absurd (by simpa using e.symm) hl
    | cons c cs =>
      have hm : c ∈ lambdaChars := by rw [e]; simp
      have ht : ∀ d ∈ lambdaChars, isWord d = true := forall_chars (by decide)
      have hc := hr c rfl
      rw [ht c hm] at hc
      cases hc
  · cases cs with
    | nil => exact absurd (by simpa using e) hl
    | cons c cs =>
      have hc : isWord c = true := hw c (by rw [e]; simp)
      simp [isBlank_of_isWord hc]

theorem declared?_mark (h : isWord c = false) : declared? (c :: rest) = none := by
  refine declared?_eq_none fun after e => ?_
  have hc : c = 'l' := (cons.inj e).1
  rw [hc] at h
  exact absurd h (by decide)

theorem declared?_lambda {blanks x : List Char} (hb : blanks ≠ []) (hbs : ∀ c ∈ blanks, isBlank c = true) (hx : x ≠ [])
    (hxs : ∀ c ∈ x, isWord c = true) (rest : List Char) :
    declared? (lambdaChars ++ (blanks ++ (x ++ ':' :: rest))) = some (x, rest) := by
  have hcolon : EndsWord (':' :: rest) := by
    rintro d ⟨⟩
    decide
  have ha :
    afterWord? lambdaChars (lambdaChars ++ (blanks ++ (x ++ ':' :: rest))) = some (blanks ++ (x ++ ':' :: rest)) :=
    afterWord?_eq_some.mpr rfl
  have ht := takeWhile_run hxs hcolon
  have hd := dropWhile_run hxs hcolon
  have hblank : ∀ c ∈ (x ++ ':' :: rest).head?, isBlank c = false := by
    obtain ⟨c, x, rfl⟩ := exists_cons_of_ne_nil hx
    rintro d ⟨⟩
    exact isBlank_of_isWord (hxs c mem_cons_self)
  generalize x ++ ':' :: rest = after at *
  unfold declared?
  rw [← lambdaChars_eq, ha]
  simp only [Option.bind_eq_bind, Option.bind_some, takeWhile_run hbs hblank, dropWhile_run hbs hblank, ht, hd]
  rw [if_neg (by simp [hb, hx])]

/-! ## 7. Going through the text -/

/-- The new names of words after some declarations. -/
def Decls.newNames (ds : Decls) : Renaming := ds.map fun d => (d.1.toList, (varName d.2).toList)

/-- What becomes of a text after some declarations, whatever the fuel. -/
def Scans (ds : Decls) (cs out : List Char) : Prop :=
  ∀ m, cs.length ≤ m → renumberFrom m (ds.length + 1) ds.newNames cs = out

theorem Scans.nil : Scans ds [] [] := by
  intro m _
  cases m <;> rfl

theorem Scans.mark (h : Scans ds rest out) (hc : isWord c = false := by decide) : Scans ds (c :: rest) (c :: out) := by
  intro m hm
  rw [length_cons] at hm
  rcases m with _ | m
  · omega
  simp [renumberFrom, declared?_mark hc, hc, h m (by omega)]

theorem Scans.word (hw : ∀ c ∈ w, isWord c = true) (hne : w ≠ [])
    (hd : declared? (w ++ rest) = none) (hr : EndsWord rest) (h : Scans ds rest out) :
    Scans ds (w ++ rest) ((ds.newNames.lookup w).getD w ++ out) := by
  intro m hm
  have ht := takeWhile_run hw hr
  have hdrop := dropWhile_run hw hr
  cases w with
  | nil => exact absurd rfl hne
  | cons c w =>
    have hc := hw c mem_cons_self
    rw [cons_append] at hd ht hdrop hm ⊢
    rw [length_cons, length_append] at hm
    rcases m with _ | m
    · omega
    simp [renumberFrom, hd, hc, ht, hdrop, h m (by omega)]

theorem Scans.lambda {blanks : List Char} (hb : blanks ≠ []) (hbs : ∀ c ∈ blanks, isBlank c = true) (hx : x.toList ≠ [])
    (hxs : ∀ c ∈ x.toList, isWord c = true) (h : Scans (ds.declare x) rest out) :
    Scans ds (lambdaChars ++ (blanks ++ (x.toList ++ ':' :: rest)))
      (lambdaChars ++ ' ' :: ((varName (ds.length + 1)).toList ++ ':' :: out)) := by
  intro m hm
  have hd := declared?_lambda hb hbs hx hxs rest
  simp only [length_append, length_cons] at hm
  rcases m with _ | m
  · omega
  have hrest := h m (by omega)
  have hvar : 'x' :: (toString (ds.length + 1)).toList = (varName (ds.length + 1)).toList := by
    rw [varName_toList]
    simp
  have hword : ("lambda " : String).toList = lambdaChars ++ [' '] := rfl
  rw [lambdaChars, cons_append] at hd ⊢
  simp only [renumberFrom, hd, hvar, hword]
  rw [← hrest]
  simp [lambdaChars, Decls.declare, Decls.newNames]

/-- The names that have been declared are names. -/
def Decls.Named (ds : Decls) : Prop := ∀ d ∈ ds, isName d.1 = true

theorem Decls.Named.declare (h : ds.Named) (x : Ident) : (ds.declare x.word).Named := by
  intro d hd
  rcases mem_cons.mp hd with rfl | hd
  · exact x.isName
  · exact h d hd

theorem Decls.lookup_newNames (ds : Decls) (x : String) :
    ds.newNames.lookup x.toList = (ds.lookup x).map fun k => (varName k).toList := by
  induction ds with
  | nil => rfl
  | cons d ds ih =>
    obtain ⟨y, k⟩ := d
    rw [newNames, map_cons, lookup_cons, lookup_cons]
    by_cases h : x = y
    · simp [h]
    · have hl : (x.toList == y.toList) = false := beq_false_of_ne fun e => h (String.toList_inj.mp e)
      simp only [hl, beq_false_of_ne h]
      exact ih

theorem Decls.rename_toList (ds : Decls) (x : Ident) :
    (ds.newNames.lookup x.word.toList).getD x.word.toList = (ds.rename x).word.toList := by
  rw [lookup_newNames, rename]
  cases ds.lookup x.word <;> rfl

theorem Decls.Named.lookup_digits (h : ds.Named) (n : Nat) : ds.newNames.lookup (Nat.toDigits 10 n) = none := by
  refine lookup_eq_none_iff.mpr fun p hp => ?_
  obtain ⟨d, hd, rfl⟩ := mem_map.mp hp
  obtain ⟨c, cs, e, hc, -⟩ := isName_chars (h d hd)
  refine bne_iff_ne.mpr fun he => ?_
  have hm : c ∈ Nat.toDigits 10 n := by
    rw [he, e]
    exact mem_cons_self
  rw [isNameStart_digit (isDigit_toDigits hm)] at hc
  cases hc

namespace Scoped

mutual

theorem named_declared {ds : Decls} (h : ds.Named) : (e : Scoped) → (e.declared ds).Named
  | .name _ | .int _ => h
  | .call f as => named_allDeclared (named_declared h f) as
  | .fn x b => named_declared (h.declare x) b

theorem named_allDeclared {ds : Decls} (h : ds.Named) : (es : List Scoped) → Decls.Named (allDeclared ds es)
  | [] => h
  | e :: es => named_allDeclared (named_declared h e) es

end

theorem callChars_renumbered (ds : Decls) (e : Scoped) (cs : List Char) :
    (e.renumbered ds).callChars cs = e.callChars cs := by
  cases e <;> rfl

theorem isWord_digit (h : c.isDigit = true) : isWord c = true := by simp [isWord, digit_lt h, Char.isAlphanum, h]

theorem scans_digits (hn : ds.Named) (hr : EndsWord rest) (h : Scans ds rest out) (n : Nat) :
    Scans ds (Nat.toDigits 10 n ++ rest) (Nat.toDigits 10 n ++ out) := by
  have hl : Nat.toDigits 10 n ≠ lambdaChars := by
    intro e
    have hd : ('l').isDigit = true := isDigit_toDigits (n := n) (by rw [e]; decide)
    exact absurd hd (by decide)
  have hw : ∀ c ∈ Nat.toDigits 10 n, isWord c = true := fun c hc => isWord_digit (isDigit_toDigits hc)
  have hs := h.word hw Nat.toDigits_ne_nil (declared?_word hw hr hl) hr
  rwa [hn.lookup_digits, Option.getD_none] at hs

theorem scans_int (hn : ds.Named) (hr : EndsWord rest) (h : Scans ds rest out) (i : Int) :
    Scans ds ((toString i).toList ++ rest) ((toString i).toList ++ out) := by
  by_cases hi : 0 ≤ i
  · rw [Named.toString_int_nonneg hi]
    exact scans_digits hn hr h _
  · rw [Named.toString_int_neg hi]
    exact (scans_digits hn hr h _).mark

theorem endsWord_mark (h : isWord c = false := by decide) : EndsWord (c :: rest) := by
  rintro d ⟨⟩
  exact h

theorem endsWord_more (es : List Scoped) (hr : EndsWord rest) : EndsWord (moreChars es ++ rest) := by
  cases es with
  | nil => exact hr
  | cons e es => exact endsWord_mark

mutual

/-- The text of an expression after some declarations becomes that of the renumbered expression. -/
theorem scans_chars {ds : Decls} (hn : ds.Named) {rest out : List Char} (hr : EndsWord rest) :
    (e : Scoped) → e.Worded → Scans (e.declared ds) rest out →
      Scans ds (e.chars ++ rest) ((e.renumbered ds).chars ++ out)
  | .name x, hw, h => by
    obtain ⟨c, cs, e, -⟩ := isName_chars x.isName
    have hl : x.word.toList ≠ lambdaChars := by
      intro e
      have hx : x.word = "lambda" := String.toList_inj.mp (e.trans lambdaChars_eq)
      have := x.notReserved
      rw [hx] at this
      exact absurd this (by decide)
    have hs := Scans.word hw (by simp [e]) (declared?_word hw hr hl) hr h
    rwa [Decls.rename_toList] at hs
  | .int i, _, h => scans_int hn hr h i
  | .call f as, hw, h => by
    have hargs := scans_args (named_declared hn f) endsWord_mark as hw.2
      (h.mark (c := ')'))
    have hopen := hargs.mark (c := '(')
    have hf := scans_called hn f hw.1 endsWord_mark hopen
    simpa [chars, renumbered, callChars_renumbered] using hf
  | .fn x b, hw, h => by
    obtain ⟨c, cs, e, -⟩ := isName_chars x.isName
    have hb := (scans_chars (hn.declare x) hr b hw.2 h).mark (c := ' ')
    have hfn := hb.lambda (cons_ne_nil ' ' []) (forall_chars (by decide)) (by simp [e]) hw.1
    simpa [chars, renumbered, varIdent] using hfn

theorem scans_called {ds : Decls} (hn : ds.Named) {rest out : List Char} :
    (f : Scoped) → f.Worded → EndsWord rest → Scans (f.declared ds) rest out →
      Scans ds (f.callChars f.chars ++ rest) (f.callChars (f.renumbered ds).chars ++ out)
  | .name x, hw, hr, h => scans_chars hn hr (.name x) hw h
  | .int i, hw, hr, h => scans_chars hn hr (.int i) hw h
  | .call f as, hw, hr, h => scans_chars hn hr (.call f as) hw h
  | .fn x b, hw, hr, h => by
    have hb := scans_chars hn endsWord_mark (.fn x b) hw (h.mark (c := ')'))
    simpa [callChars] using hb.mark (c := '(')

theorem scans_args {ds : Decls} (hn : ds.Named) {rest out : List Char} (hr : EndsWord rest) :
    (es : List Scoped) → AllWorded es → Scans (allDeclared ds es) rest out →
      Scans ds (argChars es ++ rest) (argChars (allRenumbered ds es) ++ out)
  | [], _, h => h
  | e :: es, hw, h => by
    have hes := scans_more (named_declared hn e) hr es hw.2 h
    have he := scans_chars hn (endsWord_more es hr) e hw.1 hes
    simpa [argChars, allRenumbered] using he

theorem scans_more {ds : Decls} (hn : ds.Named) {rest out : List Char} (hr : EndsWord rest) :
    (es : List Scoped) → AllWorded es → Scans (allDeclared ds es) rest out →
      Scans ds (moreChars es ++ rest) (moreChars (allRenumbered ds es) ++ out)
  | [], _, h => h
  | e :: es, hw, h => by
    have hes := scans_more (named_declared hn e) hr es hw.2 h
    have he := scans_chars hn (endsWord_more es hr) e hw.1 hes
    simpa [moreChars, allRenumbered] using (he.mark (c := ' ')).mark (c := ',')

end

/-- **The renumbered text of an expression is the text of the renumbered expression.** -/
theorem renumberParams_text {e : Scoped} (h : e.Worded) : renumberParams e.text = (e.renumbered []).text := by
  have hnone : Decls.Named [] := fun _ hd => absurd hd not_mem_nil
  have hend : EndsWord [] := fun _ hc => absurd hc (by simp)
  have hs := scans_chars hnone hend e h .nil
  rw [append_nil, append_nil] at hs
  unfold renumberParams text
  rw [String.toList_ofList, String.length_ofList]
  exact congrArg String.ofList (hs _ (Nat.le_refl _))

/-- **Renumbering the parameters in the text of an expression gives the text of an expression, and this
    differs from the first in the names of parameters only just if every name is kept:** the function that
    binds it is the latest that declares it before it, or no function binds it, it stays as it is and is not
    the new name of a function around it. -/
theorem renumberParams_alphaEq_iff {e : Scoped} (h : e.Worded) :
    ∃ t, e.expr.text = .ok t ∧ (e.renumbered []).expr.text = .ok (renumberParams t) ∧
      (e.AlphaEq (e.renumbered []) ↔ ∀ p ∈ e.places [] [], p.Kept) := by
  refine ⟨e.text, text_expr e, ?_, ?_⟩
  · rw [renumberParams_text h, text_expr]
  · have hwithin : Within [] [] := ⟨.refl _, trivial⟩
    exact alike_renumbered_iff hwithin e

/-- A function that is called with a free name which is also the name of its parameter. -/
def selfNamed : Scoped :=
  .call (.fn ⟨"v", by decide, by decide⟩ (.name ⟨"v", by decide, by decide⟩))
    [.name ⟨"v", by decide, by decide⟩]

theorem renumberParams_alphaEq_selfNamed : selfNamed.Worded ∧ selfNamed.expr.text = .ok "(lambda v: v)(v)" ∧
    (selfNamed.renumbered []).expr.text = .ok "(lambda x1: x1)(x1)" ∧ renumberParams "(lambda v: v)(v)" =
    "(lambda x1: x1)(x1)" ∧ ¬ selfNamed.AlphaEq (selfNamed.renumbered []) := by
  have hw : selfNamed.Worded := by
    have hv : ∀ c ∈ ("v" : String).toList, isWord c = true := forall_chars (by decide)
    exact ⟨⟨hv, hv⟩, hv, trivial⟩
  have ht : selfNamed.expr.text = .ok "(lambda v: v)(v)" := text_expr selfNamed
  have hr : (selfNamed.renumbered []).expr.text = .ok "(lambda x1: x1)(x1)" := text_expr _
  obtain ⟨t, h1, h2, h3⟩ := renumberParams_alphaEq_iff hw
  rw [ht] at h1
  obtain rfl := ok.inj h1
  rw [hr] at h2
  refine ⟨hw, ht, hr, (ok.inj h2).symm, fun h => ?_⟩
  exact absurd (h3.mp h) (by decide)

end Scoped

end PuzzlePrograms.Pass
