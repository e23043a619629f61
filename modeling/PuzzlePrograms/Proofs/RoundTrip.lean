import PuzzlePrograms.Proofs.Program
import PuzzlePrograms.Proofs.Scoping

/-!
# From names to indices and back

Terms in which only names are applied, in small letters, go from names to indices and back.

* `Named.FirstOrder` and `Nameless.FirstOrder` are these terms, with names and without;
* `Named.ofNamed_firstOrder` and `Nameless.toNamed_firstOrder`: either direction answers for them, the one
  with the text of the term without names, the other with the expression that is written for it;
* `Nameless.exists_written`: this expression is the text of a term with names, whose functions have
  variables that no free variable has;
* **`roundTrip_of_modest`**: either way round leads back, if the term is within the limits of readers.
-/

namespace PuzzlePrograms.Indexed

open List Text Source Nameless Named Program

variable {t : Named} {d : Nameless} {w s : String} {n : Nat} {c : Char}

/-! ## 1. Terms that apply names -/

/-- A name in small letters that is neither a variable nor taken for a function. -/
structure SmallName (w : String) : Prop where
  isName : Text.isName w = true
  notReserved : Reader.reserved.contains w = false
  small : ∀ c ∈ w.toList, c.toNat < 128 ∧ c.isUpper = false
  notVariable : starts w "x" = false
  notFunction : starts w "lam" = false

/-- A word that is a number or a name in small letters. -/
def SmallAtom (w : String) : Prop := (∃ k : Nat, w = toString (k : Int)) ∨ SmallName w

/-- A term in which only names are applied, its names in small letters and its numbers not negative. -/
def Named.FirstOrder : Named → Prop
  | .var _ => True
  | .prim p => SmallName p.word
  | .int i => 0 ≤ i
  | .lam _ b => b.FirstOrder
  | .app f a => f.head.IsPrim ∧ f.FirstOrder ∧ a.FirstOrder

namespace Nameless

/-- What is applied in a term, without its arguments. -/
def head : Nameless → Nameless
  | .app f _ => f.head
  | d => d

/-- Such a term without names below `n` functions; its indices count to these functions or to one of
    a hundred names around them. -/
def FirstOrder (n : Nat) : Nameless → Prop
  | .index i => i < n + 100
  | .atom w => SmallAtom w
  | .lam b => b.FirstOrder (n + 1)
  | .app f a => (∃ w, f.head = .atom w ∧ SmallName w) ∧ f.FirstOrder n ∧ a.FirstOrder n

def program : Nameless → Program
  | .index i => .index i
  | .atom w => .atom w
  | .lam b => .lam b.program
  | .app f a => .app f.program a.program

theorem pieces_program (d : Nameless) : d.program.pieces = d.pieces := by
  induction d with
  | index | atom => rfl
  | lam b ih => rw [program, Program.pieces, pieces, ih]
  | app f a ihf iha => rw [program, Program.pieces, pieces, ihf, iha]

theorem text_program (d : Nameless) : d.program.text = d.text := by
  rw [Program.text, Program.tree, pieces_program, text, tree]

theorem atoms_program (d : Nameless) : d.program.atoms = d.atoms := by
  induction d with
  | index | atom => rfl
  | lam b ih => exact ih
  | app f a ihf iha => rw [program, Program.atoms, atoms, ihf, iha]

end Nameless

/-! ## 2. Words in small letters -/

theorem SmallName.plain (h : SmallName w) : w ≠ "lam" ∧ starts w "lambda" = false := by
  have hn := h.notFunction
  refine ⟨?_, Bool.eq_false_iff.mpr fun hl => ?_⟩
  · rintro rfl
    exact absurd hn (by decide)
  · have hlam : "lam".toList <+: "lambda".toList := by decide
    rw [starts_iff.mpr (hlam.trans (starts_iff.mp hl))] at hn
    cases hn

theorem SmallName.not_starts (h : SmallName w) {p : String} (hc : c ∈ p.toList) (hp : isNamePart c = false) :
    starts w p = false :=
  Bool.eq_false_iff.mpr fun hs => isName_not_mem h.isName hp (mem_of_starts hs hc)

namespace SmallAtom

theorem number_small {k : Nat} (h : c ∈ (toString (k : Int)).toList) : c.isDigit = true := by
  rw [toString_int_nonneg (Int.natCast_nonneg k)] at h
  exact isDigit_toDigits h

theorem isWord (h : SmallAtom w) : IsWord w := by
  rcases h with ⟨k, rfl⟩ | h
  · exact isWord_toString_int k
  · exact isName_isWord h.isName

theorem lower_eq (h : SmallAtom w) : lower w = w := by
  rcases h with ⟨k, rfl⟩ | h
  · exact lower_of_small fun c hc => digit_small (number_small hc)
  · exact lower_of_small h.small

theorem plain (h : SmallAtom w) : starts w "$" = false ∧ w ≠ "lam" := by
  rcases h with ⟨k, rfl⟩ | h
  · refine ⟨Bool.eq_false_iff.mpr fun hs => ?_, ?_⟩
    · exact absurd (number_small (mem_of_starts hs (c := '$') (by decide))) (by decide)
    · exact isName_ne_toString_int (by decide) k
  · exact ⟨h.not_starts (c := '$') (by decide) (by decide), h.plain.1⟩

end SmallAtom

/-! ## 3. From names to indices -/

namespace Named

theorem FirstOrder.head (h : t.FirstOrder) : t.head.FirstOrder := by
  induction t with
  | app f a ihf _ => exact ihf h.2.1
  | _ => exact h

theorem head_nameless (t : Named) (bound : List Nat) : (t.nameless bound).head = t.head.nameless bound := by
  induction t with
  | app f a ihf _ => exact ihf
  | _ => rfl

theorem FirstOrder.applies (h : t.FirstOrder) : t.HeadsPlain ∧ t.Applies fun f => f.IsPrim ∨ f.IsVar := by
  induction t with
  | lam k b ih => exact ih h
  | app f a ihf iha =>
    have hf := ihf h.2.1
    have ha := iha h.2.2
    refine ⟨⟨?_, hf.1, ha.1⟩, .inl h.1, hf.2, ha.2⟩
    have hk := h.1
    have hh := h.2.1.head
    cases hd : f.head <;> rw [hd] at hk hh <;> first | exact hk.elim | exact hh.plain
  | _ => exact ⟨trivial, trivial⟩

theorem ofNamed_firstOrder (h : t.FirstOrder) (hf : ∀ k ∈ t.free, k < 100)
    (hs : expression? s = .ok t.expr) : ofNamed s {} = .ok (t.nameless []).text := by
  have hagree : t.skewed [] = t.nameless [] :=
    (skewed_eq_nameless_iff t [] []).mpr
      (agrees_of_argumentsClosed (argumentsClosed_of_applies h.applies.2) fun _ _ => rfl)
  have hc : t.counted? [] = some (t.nameless []) := by
    rw [counted?_eq_skewed h.applies.1 fun k hk => Or.inr (Nat.lt_trans (hf k hk) (by decide)), hagree]
  have ho := ofNamed_counted hs
  rw [hc] at ho
  exact ho

theorem FirstOrder.nameless {bound : List Nat} (h : t.FirstOrder)
    (hf : ∀ k ∈ t.free, k ∈ bound ∨ k < 100) : (t.nameless bound).FirstOrder bound.length := by
  induction t generalizing bound with
  | var k =>
    show position bound k < bound.length + 100
    by_cases hk : k ∈ bound
    · have := position_lt_of_mem hk
      omega
    · have := (hf k (by simp [free])).resolve_left hk
      rw [position_of_not_mem hk]
      omega
  | prim p => exact .inr h
  | int i =>
    refine .inl ⟨i.toNat, ?_⟩
    rw [Int.toNat_of_nonneg h]
  | lam k b ih =>
    refine @ih (k :: bound) h fun j hj => ?_
    by_cases e : j = k
    · exact .inl (by simp [e])
    · exact (hf j (by simp [free, hj, e])).imp_left (mem_cons_of_mem k)
  | app f a ihf iha =>
    refine ⟨?_, ihf h.2.1 fun j hj => hf j (by simp [free, hj]), iha h.2.2 fun j hj => hf j (by simp [free, hj])⟩
    have hk := h.1
    have hh := h.2.1.head
    rw [head_nameless]
    cases hd : f.head <;> rw [hd] at hk hh <;> first | exact hk.elim | exact ⟨_, rfl, hh⟩

end Named

/-! ## 4. From indices to names -/

namespace Program

theorem lowered_eq {p : Program} (h : ∀ w ∈ p.atoms, lower w = w) : p.lowered = p := by
  induction p with
  | index i => rfl
  | atom w => rw [lowered, h w (by simp [atoms])]
  | lam b ih => rw [lowered, ih h]
  | app f a ihf iha =>
    rw [lowered, ihf fun w hw => h w (by simp [atoms, hw]), iha fun w hw => h w (by simp [atoms, hw])]
  | group p ih => rw [lowered, ih h]

end Program

namespace Nameless

theorem FirstOrder.atoms (h : d.FirstOrder n) (hw : w ∈ d.atoms) : SmallAtom w := by
  induction d generalizing n with
  | index i => exact absurd hw not_mem_nil
  | atom v =>
    rw [mem_singleton.mp hw]
    exact h
  | lam b ih => exact ih h hw
  | app f a ihf iha =>
    rcases mem_append.mp hw with hw | hw
    · exact ihf h.2.1 hw
    · exact iha h.2.2 hw

theorem FirstOrder.inScope (h : d.FirstOrder n) : d.program.InScope 100 n := by
  induction d generalizing n with
  | index i => exact h
  | atom w => trivial
  | lam b ih => exact ih h
  | app f a ihf iha => exact ⟨ihf h.2.1, iha h.2.2⟩

theorem lead_program (h : d.head = .atom w) : d.program.lead = .atom w ∧ d.program.front = w := by
  induction d with
  | atom v =>
    cases h
    exact ⟨rfl, rfl⟩
  | app f a ihf _ => exact ihf h
  | _ => cases h

theorem FirstOrder.headsPlain (h : d.FirstOrder n) : d.program.HeadsPlain := by
  induction d generalizing n with
  | index | atom => trivial
  | lam b ih => exact ih h
  | app f a ihf iha =>
    obtain ⟨⟨w, hw, hn⟩, hf, ha⟩ := h
    obtain ⟨hl, hfront⟩ := lead_program hw
    refine ⟨?_, ?_, ihf hf, iha ha⟩
    · rw [hl]
      trivial
    · rw [hfront]
      exact hn.not_starts (c := '-') (by decide) (by decide)

theorem toNamed_firstOrder (h : d.FirstOrder 0) : toNamed d.text [] {} = .ok (d.program.written 0) := by
  have hatoms : ∀ w ∈ d.program.atoms, SmallAtom w := by
    rw [atoms_program]
    exact fun w hw => h.atoms hw
  have hlow : d.program.lowered = d.program := lowered_eq fun w hw => (hatoms w hw).lower_eq
  have hwords : ∀ w ∈ d.program.atoms, IsWord w ∧ IsWord (lower w) := by
    intro w hw
    rw [(hatoms w hw).lower_eq]
    exact ⟨(hatoms w hw).isWord, (hatoms w hw).isWord⟩
  have ht := toNamed_text hwords h.inScope (by rw [hlow]; exact h.headsPlain)
    (by rw [hlow]; exact fun w hw => (hatoms w hw).plain)
  rwa [hlow, text_program] at ht

/-- A term with names that a term without names below `n` functions is written as. -/
structure IsWritten (n : Nat) (d : Nameless) (t : Named) : Prop where
  firstOrder : t.FirstOrder
  nameless : t.nameless (fresh n) = d
  free : ∀ k ∈ t.free, k ∈ fresh n ∨ k < 100
  spelled : d.program.IsSpelled n t.phrase

theorem freshVar_mem {i : Nat} (h : i < n + 100) : freshVar n i ∈ fresh n ∨ freshVar n i < 100 := by
  by_cases hm : freshVar n i ∈ fresh n
  · exact .inl hm
  · have := position_of_not_mem hm
    rw [position_freshVar h, length_fresh] at this
    omega

theorem IsWritten.isPrim (h : d.IsWritten n t) (hd : d.head = .atom w) (hw : SmallName w) : t.head.IsPrim := by
  have e := t.head_nameless (fresh n)
  rw [h.nameless, hd] at e
  cases hk : t.head with
  | prim p => trivial
  | int i =>
    rw [hk] at e
    exact isName_ne_toString_int hw.isName i (atom.inj e).symm
  | _ =>
    rw [hk] at e
    cases e

theorem callable_of_isPrim (h : t.head.IsPrim) : t.phrase.callable = t.phrase := by
  cases t with
  | prim | app => rfl
  | _ => exact h.elim

theorem IsWritten.lam {b : Nameless} (h : b.IsWritten (n + 1) t) : (Nameless.lam b).IsWritten n (.lam (101 + n) t) where
  firstOrder := h.firstOrder
  nameless := by
    rw [Named.nameless]
    exact congrArg Nameless.lam h.nameless
  free := by
    intro k hk
    simp only [Named.free, mem_filter, bne_iff_ne] at hk
    have := h.free k hk.1
    rw [fresh, mem_cons] at this
    exact this.imp_left fun h => h.resolve_left hk.2
  spelled := h.spelled.lam

theorem IsWritten.app {f a : Nameless} {u : Named} (hf : f.IsWritten n t)
    (ha : a.IsWritten n u) (hp : t.head.IsPrim) : (app f a).IsWritten n (.app t u) where
  firstOrder := ⟨hp, hf.firstOrder, ha.firstOrder⟩
  nameless := by rw [Named.nameless, hf.nameless, ha.nameless]
  free := by
    intro k hk
    exact (mem_append.mp hk).elim (hf.free k) (ha.free k)
  spelled := by
    rw [phrase, callable_of_isPrim hp]
    exact hf.spelled.app ha.spelled

/-- **What is written for a term without names is the text of a term with names.** -/
theorem exists_written (h : d.FirstOrder n) : ∃ t, d.IsWritten n t := by
  induction d generalizing n with
  | index i =>
    refine ⟨.var (freshVar n i), trivial, ?_, ?_, rfl, rfl⟩
    · rw [nameless, position_freshVar h]
    · intro k hk
      rw [mem_singleton.mp hk]
      exact freshVar_mem h
  | atom w =>
    rcases h with ⟨k, rfl⟩ | h
    · exact ⟨.int k, Int.natCast_nonneg k, rfl, by simp [Named.free], Program.isSpelled_int n k⟩
    · exact ⟨.prim ⟨w, h.isName, h.notReserved, h.notVariable⟩, h, rfl, by simp [Named.free], rfl, rfl⟩
  | lam b ih =>
    obtain ⟨t, ht⟩ := ih h
    exact ⟨_, ht.lam⟩
  | app f a ihf iha =>
    obtain ⟨⟨w, hw, hn⟩, hf, ha⟩ := h
    obtain ⟨t, ht⟩ := ihf hf
    obtain ⟨u, hu⟩ := iha ha
    exact ⟨_, ht.app hu (ht.isPrim hw hn)⟩

end Nameless

/-! ## 5. There and back -/

theorem ofNamed_error (h : ∃ f, expression? s = .error f) (u : String) : ofNamed s {} ≠ .ok u := by
  obtain ⟨f, hf⟩ := h
  unfold ofNamed readCalls
  rw [hf]
  exact nofun

namespace Nameless

theorem IsWritten.expression? (h : d.IsWritten 0 t) (hd : d.program.Modest) :
    expression? (d.program.written 0) = .ok t.expr := by
  rw [← t.phrase_expr]
  exact h.spelled.expression? t.phrase_proper hd.nesting

theorem IsWritten.free_lt (h : d.IsWritten 0 t) : ∀ k ∈ t.free, k < 100 :=
  fun k hk => (h.free k hk).resolve_left not_mem_nil

end Nameless

/-- **A term with names comes back up to the names of its bound variables, and a term without names as it was**, if the
    term is within the limits of readers. -/
theorem roundTrip_of_modest : (∀ (t : Named) (s : String), t.FirstOrder → (∀ k ∈ t.free, k < 100) →
      (t.nameless []).program.Modest → expression? s = .ok t.expr → ∃ u v, ofNamed s {} = .ok u ∧ toNamed u [] {} =
      .ok v ∧ ∃ t' : Named, expression? v = .ok t'.expr ∧ t.AlphaEq t' ∧ t'.free = t.free) ∧ ∀ d : Nameless,
    d.FirstOrder 0 → d.program.Modest → ∃ v, toNamed d.text [] {} = .ok v ∧ ofNamed v {} = .ok d.text := by
  refine ⟨fun t s ht hf hm hs => ?_, fun d hd hm => ?_⟩
  · have hd : (t.nameless []).FirstOrder 0 := @Named.FirstOrder.nameless t [] ht fun k hk => .inr (hf k hk)
    obtain ⟨t', hw⟩ := exists_written hd
    have ha : t.AlphaEq t' := (alphaEq_iff t t').mpr hw.nameless.symm
    exact ⟨_, _, ofNamed_firstOrder ht hf hs, toNamed_firstOrder hd, t', hw.expression? hm, ha,
      ha.free_eq.symm⟩
  · obtain ⟨t, hw⟩ := exists_written hd
    refine ⟨_, toNamed_firstOrder hd, ?_⟩
    have ho := ofNamed_firstOrder hw.firstOrder hw.free_lt (hw.expression? hm)
    have hn : t.nameless [] = d := hw.nameless
    rwa [hn] at ho

theorem smallName_f : SmallName "f" := ⟨by decide, by decide, forall_chars (by decide), by decide, by decide⟩

/-- The free variable `x2` and the function `f` of `x1` come back, and so does the term without names. -/
theorem roundTrip_two_arguments :
    let t : Named := .lam 1 (.app (.app (.prim primF) (.var 1)) (.var 2))
    let s := "lambda x1: (f(x1)(x2))"
    let d : Nameless := .lam (.app (.app (.atom "f") (.index 0)) (.index 3))
    (t.FirstOrder ∧ (∀ k ∈ t.free, k < 100) ∧ expression? s = .ok t.expr) ∧
    (∃ u v, ofNamed s {} = .ok u ∧ toNamed u [] {} = .ok v ∧
      ∃ t' : Named, expression? v = .ok t'.expr ∧ t.AlphaEq t' ∧ t'.free = t.free) ∧
    d.FirstOrder 0 ∧ ∃ v, toNamed d.text [] {} = .ok v ∧ ofNamed v {} = .ok d.text := by
  intro t s d
  have ht : t.FirstOrder := ⟨trivial, ⟨trivial, smallName_f, trivial⟩, trivial⟩
  have hf : ∀ k ∈ t.free, k < 100 := by decide
  have hs : expression? s = .ok t.expr := expression?_phrase (t := t) (by decide)
  have hi : (Nameless.index 0).FirstOrder 1 ∧ (Nameless.index 3).FirstOrder 1 :=
    ⟨Nat.le_of_ble_eq_true rfl, Nat.le_of_ble_eq_true rfl⟩
  have hd : d.FirstOrder 0 := ⟨⟨"f", rfl, smallName_f⟩, ⟨⟨"f", rfl, smallName_f⟩, .inr smallName_f, hi.1⟩, hi.2⟩
  have hm : (t.nameless []).program.Modest := ⟨by decide, by decide⟩
  exact ⟨⟨ht, hf, hs⟩, roundTrip_of_modest.1 t s ht hf hm hs, hd, roundTrip_of_modest.2 d hd ⟨by decide, by decide⟩⟩

/-- The function `f` applied to `1` some times one after another. -/
def nested : Nat → Nameless
  | 0 => .atom "1"
  | n + 1 => .app (.atom "f") (nested n)

theorem nested_firstOrder (n : Nat) : (nested n).FirstOrder 0 := by
  induction n with
  | zero => exact .inl ⟨1, by decide⟩
  | succ n ih => exact ⟨⟨"f", rfl, smallName_f⟩, .inr smallName_f, ih⟩

/-- Letter by letter, the expression for `nested n`. -/
def nestedChars : Nat → List Char
  | 0 => ['1']
  | n + 1 => 'f' :: '(' :: (nestedChars n ++ [')'])

theorem written_nested (n : Nat) : (nested n).program.written 0 = .ofList (nestedChars n) := by
  induction n with
  | zero => rfl
  | succ n ih =>
    rw [nested, program, Program.written, ih, nestedChars, String.ofList_cons, String.ofList_cons, String.ofList_append]
    simp only [String.append_assoc, program, Program.written]
    rfl

theorem nestedChars_clean (n : Nat) : ∀ c ∈ nestedChars n, c ≠ '\r' ∧ c ≠ '\x00' := by
  induction n with
  | zero => exact forall_chars (by decide)
  | succ n ih => simpa [nestedChars, or_imp, forall_and] using ih

/-- A text is no expression if the reader refuses its tokens. -/
theorem expression?_refused {cs : List Char} (hcs : ∀ c ∈ cs, c ≠ '\r' ∧ c ≠ '\x00')
    (h : ((sub (cs.length + 8) (cs.length + 8)).expressions
      (lexFrom (2 * cs.length + 4) [(0, 0)] [] true cs)).toOption.isNone = true) :
    ∃ f, expression? (.ofList cs) = .error f := by
  have hbreaks : unifyBreaks cs = cs := unifyBreaks_eq fun hm => absurd rfl (hcs _ hm).1
  have hnull : cs.contains '\x00' = false := by simpa using fun hm => absurd rfl (hcs _ hm).2
  have hlex : Source.lex false (.ofList cs) = lexFrom (2 * cs.length + 4) [(0, 0)] [] true cs := by
    unfold Source.lex
    simp only [String.toList_ofList, hbreaks, hnull]
    rfl
  unfold expression? readText
  simp only [hlex, String.length_ofList]
  cases hx : (sub (cs.length + 8) (cs.length + 8)).expressions (lexFrom (2 * cs.length + 4) [(0, 0)] [] true cs) with
  | ok p =>
    rw [hx] at h
    cases h
  | error e =>
    simp only [bind, StateT.bind, hx, Except.bind]
    exact ⟨_, rfl⟩

/-- With one bracket too many nothing comes back. -/
theorem roundTrip_too_deep :
    (nested 201).FirstOrder 0 ∧ ∃ v, toNamed (nested 201).text [] {} = .ok v ∧ ∀ u, ofNamed v {} ≠ .ok u := by
  have hrefused : ∃ f, expression? ((nested 201).program.written 0) = .error f := by
    rw [written_nested]
    exact expression?_refused (nestedChars_clean _) (by decide +kernel)
  exact ⟨nested_firstOrder 201, _, toNamed_firstOrder (nested_firstOrder 201), ofNamed_error hrefused⟩

end PuzzlePrograms.Indexed
