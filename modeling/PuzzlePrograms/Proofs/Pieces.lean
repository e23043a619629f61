import PuzzlePrograms.Proofs.Renumbering

/-!
# What numbering parameters does to any text

Every text, program or not, falls apart in one way into characters that are part of no word, words, and declarations
`lambda x:` of one parameter. `renumberParams` works piece by piece.

* `Piece`, `Piece.Apart`: the pieces, and that a list of them is how its text falls apart;
* `exists_pieces`, `Apart.unique`: every text falls apart in one way;
* `scans_numbered`: the text of the pieces becomes that of the numbered pieces (`Piece.numbered`), which are pieces
  again;
* **`renumberParams_pieces`**: what stays, what the declarations declare, and that a second run changes nothing.
-/

namespace PuzzlePrograms.Pass

open List Source Text Indexed

variable {ps : List Piece} {w x : Word} {blanks : List Char} {s : String}

/-! ## 1. Pieces -/

/-- A word: characters of which words are made, and at least one. -/
structure Word where
  text : String
  ne_nil : text.toList ≠ []
  isWord : ∀ c ∈ text.toList, isWord c = true

inductive Piece where
  /-- A character that is part of no word. -/
  | mark (c : Char) (h : isWord c = false)
  | word (w : Word)
  /-- The word `lambda`, blanks, the name of the parameter, and a colon. -/
  | binder (blanks : List Char) (hne : blanks ≠ []) (hb : ∀ c ∈ blanks, isBlank c = true) (x : Word)

namespace Piece

def chars : Piece → List Char
  | .mark c _ => [c]
  | .word w => w.text.toList
  | .binder blanks _ _ x => lambdaChars ++ (blanks ++ (x.text.toList ++ [':']))

/-- The characters of a list of pieces. -/
def allChars (ps : List Piece) : List Char := ps.flatMap chars

/-- Blanks, a word and a colon: after the word `lambda` they make a declaration. -/
def Declares : List Piece → Prop
  | .mark c _ :: ps => isBlank c = true ∧ Declares ps
  | .word _ :: .mark c _ :: _ => c = ':'
  | _ => False

/-- The list starts with no word. -/
def StartsApart : List Piece → Prop
  | [] => True
  | .mark _ _ :: _ => True
  | _ => False

/-- The pieces are those of their text: a word ends where it is followed by something else, and the word `lambda` is
    no declaration. -/
def Apart : List Piece → Prop
  | [] => True
  | .word w :: ps => StartsApart ps ∧ (w.text = "lambda" → ¬ Declares ps) ∧ Apart ps
  | _ :: ps => Apart ps

/-! ## 2. Declarations -/

theorem StartsApart.endsWord (h : StartsApart ps) : EndsWord (allChars ps) := by
  cases ps with
  | nil => simp [EndsWord, allChars]
  | cons p ps =>
    cases p with
    | mark c hc => exact Scoped.endsWord_mark hc
    | word | binder => exact h.elim

/-- After blanks there is a word and a colon. -/
def DeclaresChars (cs : List Char) : Prop :=
  (cs.dropWhile isBlank).takeWhile isWord ≠ [] ∧ ∃ rest, (cs.dropWhile isBlank).dropWhile isWord = ':' :: rest

theorem isBlank_word {w : List Char} (hne : w ≠ []) (hw : ∀ c ∈ w, isWord c = true) (rest : List Char) :
    (w ++ rest).dropWhile isBlank = w ++ rest := by
  obtain ⟨c, w, rfl⟩ := exists_cons_of_ne_nil hne
  simp [isBlank_of_isWord (hw c mem_cons_self)]

theorem isWord_lambda : ∀ c ∈ lambdaChars, isWord c = true := forall_chars (by decide)

theorem declaresChars_iff (h : Apart ps) : DeclaresChars (allChars ps) ↔ Declares ps := by
  induction ps with
  | nil => simp [DeclaresChars, Declares, allChars]
  | cons p ps ih =>
    cases p with
    | mark c hc =>
      by_cases hb : isBlank c = true
      · simpa [DeclaresChars, Declares, allChars, chars, hb] using ih h
      · simp [DeclaresChars, Declares, allChars, chars, hb, hc]
    | word w =>
      have hend := h.1.endsWord
      have hchars : allChars (.word w :: ps) = w.text.toList ++ allChars ps := rfl
      rw [DeclaresChars, hchars, isBlank_word w.ne_nil w.isWord, takeWhile_run w.isWord hend,
        dropWhile_run w.isWord hend]
      cases ps with
      | nil => simp [Declares, allChars]
      | cons q ps =>
        cases q with
        | mark c hc => simp [Declares, allChars, chars, w.ne_nil]
        | word | binder => exact h.1.elim
    | binder blanks hne hb x =>
      obtain ⟨b, blanks, rfl⟩ := exists_cons_of_ne_nil hne
      have hblank := hb b mem_cons_self
      have hw : isWord b = false := Bool.eq_false_iff.mpr fun hw => by rw [isBlank_of_isWord hw] at hblank; cases hblank
      have hend : EndsWord (b :: (blanks ++ (x.text.toList ++ [':'])) ++ allChars ps) := Scoped.endsWord_mark hw
      have hchars : allChars (.binder (b :: blanks) hne hb x :: ps) =
          lambdaChars ++ (b :: (blanks ++ (x.text.toList ++ [':'])) ++ allChars ps) := by
        simp [allChars, chars]
      rw [DeclaresChars, hchars, isBlank_word (by decide) isWord_lambda, dropWhile_run isWord_lambda hend]
      have hcolon : b ≠ ':' := by rintro rfl; exact absurd hblank (by decide)
      simp [Declares, hcolon]

/-- The word `lambda` before some pieces is taken for a declaration just if they make it one. -/
theorem declared?_eq_none_iff (h : Apart ps) (hs : StartsApart ps) :
    declared? (lambdaChars ++ allChars ps) = none ↔ ¬ Declares ps := by
  rw [← declaresChars_iff h]
  unfold declared?
  rw [← lambdaChars_eq, afterWord?_eq_some.mpr rfl]
  simp only [Option.bind_eq_bind, Option.bind_some]
  constructor
  · intro hnone hd
    have hblank : (allChars ps).takeWhile isBlank ≠ [] := by
      have hps := (declaresChars_iff h).mp hd
      cases ps with
      | nil => exact hps.elim
      | cons p ps =>
        cases p with
        | mark c hc => simp [allChars, chars, hps.1]
        | word | binder => exact hs.elim
    obtain ⟨hw, rest, hcolon⟩ := hd
    simp [hw, hblank, hcolon] at hnone
  · intro hd
    split
    · rfl
    · rename_i hw
      split
      · rename_i rest hcolon
        refine absurd ⟨fun h => hw ?_, rest, hcolon⟩ hd
        simp [h]
      · rfl

theorem declared?_pieces_word (h : Apart (.word w :: ps)) : declared? (w.text.toList ++ allChars ps) = none := by
  by_cases hw : w.text = "lambda"
  · rw [hw, ← lambdaChars_eq]
    exact (declared?_eq_none_iff h.2.2 h.1).mpr (h.2.1 hw)
  · refine declared?_word w.isWord h.1.endsWord fun e => hw ?_
    exact String.toList_inj.mp (e.trans lambdaChars_eq)

theorem allChars_binder {hne hb} :
    allChars (.binder blanks hne hb x :: ps) = lambdaChars ++ (blanks ++ (x.text.toList ++ ':' :: allChars ps)) := by
  simp [allChars, chars]

theorem declared?_pieces_binder {hne hb} :
    declared? (allChars (.binder blanks hne hb x :: ps)) = some (x.text.toList, allChars ps) := by
  rw [allChars_binder, declared?_lambda hne hb x.ne_nil x.isWord]

/-! ## 3. Every text falls apart in one way -/

theorem eq_of_declared? {cs x rest : List Char} (h : declared? cs = some (x, rest)) :
    ∃ blanks, blanks ≠ [] ∧ (∀ c ∈ blanks, isBlank c = true) ∧ x ≠ [] ∧ (∀ c ∈ x, isWord c = true) ∧
      cs = lambdaChars ++ (blanks ++ (x ++ ':' :: rest)) := by
  unfold declared? at h
  rw [← lambdaChars_eq] at h
  cases ha : afterWord? lambdaChars cs with
  | none => simp [ha] at h
  | some after =>
    simp only [ha, Option.bind_eq_bind, Option.bind_some] at h
    split at h
    · cases h
    · rename_i hne
      split at h
      · rename_i tail hcolon
        obtain ⟨rfl, rfl⟩ := Prod.mk.inj (Option.some.inj h)
        rw [Bool.or_eq_true, List.isEmpty_iff, List.isEmpty_iff, not_or] at hne
        refine ⟨after.takeWhile isBlank, hne.1, all_eq_true.mp all_takeWhile, hne.2, all_eq_true.mp all_takeWhile, ?_⟩
        rw [← hcolon, takeWhile_append_dropWhile, takeWhile_append_dropWhile]
        exact afterWord?_eq_some.mp ha
      · cases h

theorem startsApart_of_endsWord (h : EndsWord (allChars ps)) : StartsApart ps := by
  cases ps with
  | nil => trivial
  | cons p ps =>
    cases p with
    | mark => trivial
    | word w =>
      obtain ⟨c, cs, e⟩ := exists_cons_of_ne_nil w.ne_nil
      have hc := h c (by simp [allChars, chars, e])
      rw [w.isWord c (by simp [e])] at hc
      cases hc
    | binder =>
      have hl : isWord 'l' = false := h 'l' (by rw [allChars_binder]; rfl)
      exact absurd hl (by decide)

theorem exists_pieces (cs : List Char) : ∃ ps, Apart ps ∧ allChars ps = cs := by
  induction hn : cs.length using Nat.strongRecOn generalizing cs with
  | ind n ih =>
    subst hn
    rcases cs with _ | ⟨c, cs⟩
    · exact ⟨[], trivial, rfl⟩
    by_cases hc : isWord c = true
    · cases hd : declared? (c :: cs) with
      | some d =>
        obtain ⟨blanks, hne, hb, hx, hxs, e⟩ := eq_of_declared? hd
        have hlen : d.2.length < (c :: cs).length := by simp [e, lambdaChars]; omega
        obtain ⟨ps, hps, hrest⟩ := ih _ hlen d.2 rfl
        refine ⟨.binder blanks hne hb ⟨.ofList d.1, by simpa, by simpa⟩ :: ps, hps, ?_⟩
        rw [allChars_binder, hrest, e, String.toList_ofList]
      | none =>
        have hsplit := takeWhile_append_dropWhile (p := isWord) (l := c :: cs)
        have hlen : ((c :: cs).dropWhile isWord).length < (c :: cs).length := by
          simp [hc, Nat.lt_succ_of_le (dropWhile_sublist isWord).length_le]
        obtain ⟨ps, hps, hrest⟩ := ih _ hlen _ rfl
        have hs : StartsApart ps := startsApart_of_endsWord fun d hd' => by
          have h := head?_dropWhile_not isWord (c :: cs)
          rwa [← hrest, show (allChars ps).head? = some d from hd'] at h
        refine ⟨.word ⟨.ofList ((c :: cs).takeWhile isWord), by simp [hc], ?_⟩ :: ps, ⟨hs, fun hw => ?_, hps⟩, ?_⟩
        · rw [String.toList_ofList]
          exact all_eq_true.mp all_takeWhile
        · have hl : (c :: cs).takeWhile isWord = lambdaChars := by rw [lambdaChars_eq, ← hw, String.toList_ofList]
          rw [hl, ← hrest] at hsplit
          exact (declared?_eq_none_iff hps hs).mp (hsplit ▸ hd)
        · rw [← hrest] at hsplit
          simpa only [allChars, flatMap_cons, chars, String.toList_ofList] using hsplit
    · obtain ⟨ps, hps, rfl⟩ := ih _ (Nat.lt_succ_self _) cs rfl
      exact ⟨.mark c (Bool.eq_false_iff.mpr hc) :: ps, hps, rfl⟩

theorem chars_ne_nil (p : Piece) : p.chars ≠ [] := by
  cases p with
  | mark => exact cons_ne_nil _ _
  | word w => exact w.ne_nil
  | binder => simp [chars]

/-- What stands at the start of the text of some pieces: a declaration, or a word or none. -/
theorem declared?_first {p : Piece} (h : Apart (p :: ps)) :
    declared? (allChars (p :: ps)) =
      (match p with | .binder _ _ _ x => some (x.text.toList, allChars ps) | _ => none) := by
  cases p with
  | mark c hc => exact declared?_mark hc
  | word w => exact declared?_pieces_word h
  | binder => exact declared?_pieces_binder

theorem takeWhile_mark {c : Char} {hc} : (allChars (.mark c hc :: ps)).takeWhile isWord = [] := by
  simp [allChars, chars, hc]

theorem takeWhile_word (h : Apart (.word w :: ps)) :
    (allChars (.word w :: ps)).takeWhile isWord = w.text.toList := takeWhile_run w.isWord h.1.endsWord

theorem Word.ext {v : Word} (h : v.text.toList = w.text.toList) : v = w := by
  obtain ⟨v, _, _⟩ := v
  obtain ⟨w, _, _⟩ := w
  obtain rfl : v = w := String.toList_inj.mp h
  rfl

theorem Apart.unique {qs : List Piece} (hp : Apart ps) (hq : Apart qs) (h : allChars ps = allChars qs) : ps = qs := by
  induction ps generalizing qs with
  | nil =>
    cases qs with
    | nil => rfl
    | cons q qs => exact absurd (append_eq_nil_iff.mp h.symm).1 q.chars_ne_nil
  | cons p ps ih =>
    cases qs with
    | nil => exact absurd (append_eq_nil_iff.mp h).1 p.chars_ne_nil
    | cons q qs =>
      have hfirst := (declared?_first hp).symm.trans ((congrArg declared? h).trans (declared?_first hq))
      have hword := congrArg (takeWhile isWord) h
      cases p with
      | mark c hc =>
        rw [takeWhile_mark] at hword
        cases q with
        | mark d hd =>
          obtain ⟨rfl, htail⟩ := cons.inj h
          have hps : ps = qs := ih hp hq htail
          rw [hps]
        | word w => exact absurd (hword.trans (takeWhile_word hq)).symm w.ne_nil
        | binder => cases hfirst
      | word w =>
        rw [takeWhile_word hp] at hword
        cases q with
        | mark => exact absurd (hword.trans takeWhile_mark) w.ne_nil
        | word v =>
          obtain rfl : w = v := Word.ext (hword.trans (takeWhile_word hq))
          have hps : ps = qs := ih hp.2.2 hq.2.2 (append_cancel_left h)
          rw [hps]
        | binder => cases hfirst
      | binder blanks hne hb x =>
        cases q with
        | mark | word => cases hfirst
        | binder blanks' hne' hb' y =>
          obtain ⟨hx, hrest⟩ := Prod.mk.inj (Option.some.inj hfirst)
          obtain rfl := Word.ext hx
          rw [allChars_binder, allChars_binder, hrest] at h
          obtain rfl := append_cancel_right (append_cancel_left h)
          have hps : ps = qs := ih hp hq hrest
          rw [hps]

/-! ## 4. Numbered pieces -/

def varWord (k : Nat) : Word where
  text := varName k
  ne_nil := by simp [varName_toList]
  isWord c hc := by
    rw [varName_toList, mem_cons] at hc
    rcases hc with rfl | hc
    · decide
    · exact Scoped.isWord_digit (isDigit_toDigits hc)

/-- The word that stands in the place of a word after some declarations. -/
def renamed (ds : Decls) (w : Word) : Word :=
  match ds.lookup w.text with
  | some k => varWord k
  | none => w

/-- The pieces of the numbered text, after some declarations. -/
def numbered (ds : Decls) : List Piece → List Piece
  | [] => []
  | .mark c h :: ps => .mark c h :: numbered ds ps
  | .word w :: ps => .word (renamed ds w) :: numbered ds ps
  | .binder _ _ _ x :: ps =>
    .binder [' '] (cons_ne_nil _ _) (forall_chars (by decide)) (varWord (ds.length + 1)) ::
      numbered (ds.declare x.text) ps

theorem scans_numbered (h : Apart ps) (ds : Decls) : Scans ds (allChars ps) (allChars (numbered ds ps)) := by
  induction ps generalizing ds with
  | nil => exact .nil
  | cons p ps ih =>
    cases p with
    | mark c hc => exact (ih h ds).mark hc
    | word w =>
      have hs := (ih h.2.2 ds).word w.isWord w.ne_nil (declared?_pieces_word h) h.1.endsWord
      have hw : (ds.newNames.lookup w.text.toList).getD w.text.toList = (renamed ds w).text.toList := by
        rw [ds.lookup_newNames, renamed]
        cases ds.lookup w.text <;> rfl
      rwa [hw] at hs
    | binder blanks hne hb x =>
      rw [numbered, allChars_binder, allChars_binder]
      exact (ih h (ds.declare x.text)).lambda hne hb x.ne_nil x.isWord

theorem declares_numbered (ds : Decls) (ps : List Piece) : Declares (numbered ds ps) ↔ Declares ps := by
  induction ps with
  | nil => rfl
  | cons p ps ih =>
    cases p with
    | mark c hc => exact and_congr_right fun _ => ih
    | word w =>
      cases ps with
      | nil => rfl
      | cons q ps => cases q <;> rfl
    | binder => rfl

theorem renamed_lambda {ds : Decls} (h : (renamed ds w).text = "lambda") : w.text = "lambda" := by
  rw [renamed] at h
  split at h
  · rename_i k _
    have hx : 'x' = 'l' := (cons.inj ((varName_toList k).symm.trans (congrArg String.toList h))).1
    exact absurd hx (by decide)
  · exact h

theorem apart_numbered (h : Apart ps) (ds : Decls) : Apart (numbered ds ps) := by
  induction ps generalizing ds with
  | nil => exact h
  | cons p ps ih =>
    cases p with
    | mark => exact ih h ds
    | word w =>
      refine ⟨?_, fun hw hd => h.2.1 (renamed_lambda hw) ((declares_numbered ds ps).mp hd), ih h.2.2 ds⟩
      have hs := h.1
      cases ps with
      | nil => trivial
      | cons q ps => cases q <;> exact hs
    | binder => exact ih h _

/-- Declarations that give every name to itself change no piece that they have given a name. -/
theorem numbered_numbered {ds es : Decls} (hlen : es.length = ds.length) (hes : ∀ d ∈ es, d.1 = varName d.2)
    (ps : List Piece) : numbered es (numbered ds ps) = numbered ds ps := by
  induction ps generalizing ds es with
  | nil => rfl
  | cons p ps ih =>
    cases p with
    | mark c hc => rw [numbered, numbered, ih hlen hes]
    | word w =>
      have hw : ∀ w, renamed es w = w := fun w => by
        rw [renamed]
        split
        · rename_i k hk
          obtain ⟨v, hv, hvs⟩ := w
          obtain rfl : v = varName k := hes _ (Scoped.mem_of_lookup hk)
          rfl
        · rfl
      rw [numbered, numbered, hw, ih hlen hes]
    | binder blanks hne hb x =>
      rw [numbered, numbered, hlen]
      refine congrArg _ (ih (congrArg (· + 1) hlen) fun d hd => ?_)
      rcases mem_cons.mp hd with rfl | hd
      · simp [varWord, hlen]
      · exact hes d hd

/-- What a piece is, whatever word or blanks it has. -/
inductive Kind where
  | mark (c : Char)
  | word
  | binder

def kind : Piece → Kind
  | .mark c _ => .mark c
  | .word _ => .word
  | .binder _ _ _ _ => .binder

/-- The parameters that are declared, in order. -/
def declared : List Piece → List String
  | [] => []
  | .binder _ _ _ x :: ps => x.text :: declared ps
  | _ :: ps => declared ps

theorem kind_numbered (ds : Decls) (ps : List Piece) : (numbered ds ps).map kind = ps.map kind := by
  induction ps generalizing ds with
  | nil => rfl
  | cons p ps ih => cases p <;> exact congrArg (cons _) (ih _)

theorem declared_numbered (ds : Decls) (ps : List Piece) :
    declared (numbered ds ps) = (range' (ds.length + 1) (declared ps).length).map varName := by
  induction ps generalizing ds with
  | nil => rfl
  | cons p ps ih =>
    cases p with
    | mark | word => exact ih ds
    | binder blanks hne hb x => exact congrArg _ (ih (ds.declare x.text))

/-! ## 5. Numbering the parameters of a text -/

/-- A text falls apart into these pieces. -/
def FallsApart (s : String) (ps : List Piece) : Prop := Apart ps ∧ allChars ps = s.toList

theorem FallsApart.iff (h : FallsApart s ps) (rs : List Piece) : FallsApart s rs ↔ rs = ps :=
  ⟨fun hr => hr.1.unique h.1 (hr.2.trans h.2.symm), fun e => e ▸ h⟩

theorem FallsApart.renumberParams (h : FallsApart s ps) : FallsApart (renumberParams s) (numbered [] ps) := by
  refine ⟨apart_numbered h.1 [], ?_⟩
  rw [Pass.renumberParams, String.toList_ofList, ← h.2]
  exact (scans_numbered h.1 [] _ (h.2 ▸ Nat.le_of_eq String.length_toList)).symm

/-- **Numbering the parameters of a text keeps all but words and the blanks of declarations, makes the k-th declaration
    declare `xk`, and changes nothing when it is done again.** -/
theorem renumberParams_pieces (s : String) : ∃ ps qs, (∀ rs, FallsApart s rs ↔ rs = ps) ∧
    (∀ rs, FallsApart (renumberParams s) rs ↔ rs = qs) ∧ qs.map kind = ps.map kind ∧ declared qs =
    (range' 1 (declared qs).length).map varName ∧ renumberParams (renumberParams s) = renumberParams s := by
  obtain ⟨ps, hps⟩ : ∃ ps, FallsApart s ps := exists_pieces s.toList
  have hqs := hps.renumberParams
  refine ⟨ps, numbered [] ps, hps.iff, hqs.iff, kind_numbered [] ps, ?_, ?_⟩
  · rw [declared_numbered, length_map, length_range']
    rfl
  · apply String.toList_inj.mp
    rw [← hqs.renumberParams.2, ← hqs.2, numbered_numbered rfl (by simp)]

end Piece

end PuzzlePrograms.Pass
