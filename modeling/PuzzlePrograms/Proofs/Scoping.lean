import PuzzlePrograms.Proofs.Indexing
import PuzzlePrograms.Proofs.NamedText

/-!
# Which function binds an index

The answer for a term with names is compared with the term without names.

* `Named.skewed` is the term that the answer reads as: the arguments of a function that is applied at
  once are counted as if they stood in its body;
* `Named.Agrees` says that this makes no difference, variable by variable, and
  `Named.HeadsPlain` that no applied word is a variable or is taken for a function;
* **`read?_ofNamed_iff`**: the answer reads as the term without names just where both hold;
* `Named.ArgumentsClosed`: where all variables of a term have different names, there is no difference
  just if the arguments of applied functions are closed;
* **`lexemes_ofNamed_iff`**: where no function is applied at once, every variable becomes an index just
  if none of them is applied and the free ones are in scope.
-/

namespace PuzzlePrograms.Indexed

open List Text Source Nameless PuzzlePrograms.Tree Option

variable {t f : Named} {around bound : List Nat} {w : String} {d : Nameless} {k : Nat}

/-! ## 1. Words that are applied -/

/-- A word that is not taken for a function when it is applied. -/
def PrimName.Plain (p : PrimName) : Prop := p.word ≠ "lam" ∧ starts p.word "lambda" = false

namespace Named

/-- What may be applied without being mistaken. -/
def PlainHead : Named → Prop
  | .var _ => False
  | .prim p => p.Plain
  | _ => True

/-- No variable is applied in a term, and no word that is taken for a function. -/
def HeadsPlain (t : Named) : Prop := t.Applies PlainHead

/-! ## 2. The term that is counted -/

/-- The term without names if the arguments of an applied function count its variable. -/
def skewed (around : List Nat) : Named → Nameless
  | .var k => .index (position around k)
  | .prim p => .atom p.word
  | .int i => .atom (toString i)
  | .lam k b => .lam (b.skewed (k :: around))
  | .app f a => .app (f.skewed around) (a.skewed (f.scope around))

/-- Every variable has the same index whether or not the arguments of applied functions count the
    variables of these functions. -/
def Agrees (around bound : List Nat) : Named → Prop
  | .var k => position around k = position bound k
  | .prim _ | .int _ => True
  | .lam k b => b.Agrees (k :: around) (k :: bound)
  | .app f a => f.Agrees around bound ∧ a.Agrees (f.scope around) bound

theorem skewed_eq_nameless_iff (t : Named) (around bound : List Nat) :
    t.skewed around = t.nameless bound ↔ t.Agrees around bound := by
  induction t generalizing around bound with
  | var | prim | int => simp [skewed, nameless, Agrees]
  | lam k b ih => simp [skewed, nameless, Agrees, ih]
  | app f a ihf iha => simp [skewed, nameless, Agrees, ihf, iha]

theorem scope_eq (f : Named) (around : List Nat) : (¬f.head.IsLam ∧ f.scope around = around) ∨
      ∃ k b, f.head = .lam k b ∧ f.scope around = k :: around := by
  induction f with
  | lam k b _ => exact .inr ⟨k, b, rfl, rfl⟩
  | app f a ihf _ => exact ihf
  | _ => exact .inl ⟨id, rfl⟩

theorem subset_scope (f : Named) (around : List Nat) : around ⊆ f.scope around := by
  rcases f.scope_eq around with ⟨_, h⟩ | ⟨k, b, _, h⟩
  · rw [h]
    exact fun j hj => hj
  · rw [h]
    exact subset_cons_self k around

theorem applied?_eq_some {f a : Option Nameless} (h : applied? f a = some d) :
    ∃ f' a', f = some f' ∧ a = some a' ∧ d = .app f' a' := by
  match f, a, h with
  | some f', some a', h => exact ⟨f', a', rfl, rfl, (some.inj h).symm⟩

/-- The variables of an applied function are in scope at its body and at its arguments alike. -/
theorem counted?_eq_skewed (hp : t.HeadsPlain) (hf : ∀ k ∈ t.free, k ∈ around ∨ k < 400) :
    t.counted? around = some (t.skewed around) := by
  induction t generalizing around with
  | var k => rw [counted?, if_pos (hf k (by simp [free])), skewed]
  | prim | int => rfl
  | lam k b ih =>
    have hb : b.counted? (k :: around) = some (b.skewed (k :: around)) := by
      refine ih hp fun j hj => ?_
      by_cases e : j = k
      · exact .inl (by simp [e])
      · exact (hf j (by simp [free, hj, e])).imp_left (mem_cons_of_mem k)
    rw [counted?, hb, skewed]
    rfl
  | app f a ihf iha =>
    obtain ⟨hh, hpf, hpa⟩ := hp
    have hcf := ihf hpf fun j hj => hf j (by simp [free, hj])
    have hca := @iha (f.scope around) hpa fun j hj =>
      (hf j (by simp [free, hj])).imp_left fun h => subset_scope f around h
    cases f with
    | var k => exact hh.elim
    | prim p =>
      have ha : a.counted? around = some (a.skewed around) := hca
      rw [counted?, if_neg (by simp [hh.2]), ha, if_neg hh.1]
      rfl
    | int i =>
      have ha : a.counted? around = some (a.skewed around) := hca
      rw [counted?, ha]
      rfl
    | lam | app =>
      rw [counted?, hcf, hca]
      · rfl
      all_goals simp

/-- A counted form that is the term without names has no variable and no word for a function at its
    heads. -/
theorem headsPlain_of_counted? (h : t.counted? around = some (t.nameless bound)) : t.HeadsPlain := by
  induction t generalizing around bound with
  | var | prim | int => trivial
  | lam k b ih =>
    rw [counted?, nameless, map_eq_some_iff] at h
    obtain ⟨d, hd, e⟩ := h
    rw [Nameless.lam.inj e] at hd
    exact ih hd
  | app f a ihf iha =>
    cases f with
    | var k =>
      rw [counted?, nameless, nameless, map_eq_some_iff] at h
      obtain ⟨d, _, e⟩ := h
      cases e
    | prim p =>
      rw [counted?] at h
      split at h
      · cases h
      · rename_i hl
        rw [nameless, nameless, map_eq_some_iff] at h
        obtain ⟨d, hd, e⟩ := h
        split at e
        · cases e
        · rename_i hw
          rw [(Nameless.app.inj e).2] at hd
          exact ⟨⟨hw, Bool.eq_false_iff.mpr hl⟩, trivial, iha hd⟩
    | int i =>
      rw [counted?, nameless, map_eq_some_iff] at h
      obtain ⟨d, hd, e⟩ := h
      rw [(Nameless.app.inj e).2] at hd
      exact ⟨trivial, trivial, iha hd⟩
    | lam k b =>
      rw [counted?, nameless] at h
      · obtain ⟨f', a', hf, ha, e⟩ := applied?_eq_some h
        obtain ⟨rfl, rfl⟩ := Nameless.app.inj e
        exact ⟨trivial, ihf hf, iha ha⟩
      all_goals simp
    | app g c =>
      rw [counted?, nameless] at h
      · obtain ⟨f', a', hf, ha, e⟩ := applied?_eq_some h
        obtain ⟨rfl, rfl⟩ := Nameless.app.inj e
        have hg := ihf hf
        exact ⟨hg.1, hg, iha ha⟩
      all_goals simp

/-! ## 3. The answer as a term -/

theorem readable_name (h : isName w = true) : (atom w).Readable :=
  ⟨isName_isWord h, fun e => isName_not_mem h (d := '$') (by decide) (mem_of_mem_head? e)⟩

theorem readable_int (i : Int) : (atom (toString i)).Readable :=
  ⟨isWord_toString_int i, fun e =>
    not_mem_toString_int (c := '$') (by decide) (by decide) i (mem_of_mem_head? e)⟩

theorem counted?_app_ne_atom {a : Named} : (app f a).counted? around ≠ some (.atom w) := by
  intro h
  cases f with
  | var | int =>
    obtain ⟨_, _, e⟩ := map_eq_some_iff.mp h
    cases e
  | prim p =>
    rw [counted?] at h
    split at h
    · cases h
    · obtain ⟨_, _, e⟩ := map_eq_some_iff.mp h
      split at e <;> cases e
  | lam | app =>
    rw [counted?] at h
    · obtain ⟨_, _, _, _, e⟩ := applied?_eq_some h
      cases e
    all_goals simp

theorem readable_of_counted? (h : t.counted? around = some d) : d.Readable := by
  have hmap : ∀ {o : Option Nameless} {f : Nameless → Nameless} {d : Nameless}, o.map f = some d →
      (∀ a, o = some a → a.Readable) → (∀ a : Nameless, a.Readable → (f a).Readable) → d.Readable := by
    intro o f d h ho hf
    obtain ⟨a, ha, rfl⟩ := map_eq_some_iff.mp h
    exact hf a (ho a ha)
  induction t generalizing around d with
  | var k =>
    rw [counted?] at h
    split at h
    · cases h
      trivial
    · cases h
  | prim p =>
    cases h
    exact readable_name p.isName
  | int i =>
    cases h
    exact readable_int i
  | lam k b ih => exact hmap h (fun a ha => ih ha) fun a ha => ha
  | app f a ihf iha =>
    cases f with
    | var k =>
      refine hmap h (fun a ha => iha ha) fun a ha => ?_
      refine ⟨fun e => ?_, readable_name (isName_varName k), ha⟩
      exact varName_ne (w := "lam") (by decide) k (atom.inj e).symm
    | prim p =>
      rw [counted?] at h
      split at h
      · cases h
      · refine hmap h (fun a ha => iha ha) fun a ha => ?_
        split
        · exact ha
        · rename_i hw
          exact ⟨fun e => hw (atom.inj e), readable_name p.isName, ha⟩
    | int i =>
      refine hmap h (fun a ha => iha ha) fun a ha => ?_
      refine ⟨fun e => ?_, readable_int i, ha⟩
      exact isName_ne_toString_int (w := "lam") (by decide) i (atom.inj e)
    | lam k b =>
      rw [counted?] at h
      · obtain ⟨f', a', hf, ha, rfl⟩ := applied?_eq_some h
        refine ⟨?_, ihf hf, iha ha⟩
        rintro rfl
        obtain ⟨_, _, e⟩ := map_eq_some_iff.mp hf
        cases e
      all_goals simp
    | app g c =>
      rw [counted?] at h
      · obtain ⟨f', a', hf, ha, rfl⟩ := applied?_eq_some h
        refine ⟨?_, ihf hf, iha ha⟩
        rintro rfl
        exact counted?_app_ne_atom hf
      all_goals simp

theorem read?_ofNamed {s : String} (hs : expression? s = .ok t.expr) (d : Nameless) :
    (∃ u, ofNamed s {} = .ok u ∧ read? u = some d) ↔ t.counted? [] = some d := by
  have ho := ofNamed_counted hs
  cases hc : t.counted? [] with
  | none =>
    rw [hc] at ho
    obtain ⟨e, he⟩ := ho
    refine ⟨fun ⟨u, hu, _⟩ => ?_, nofun⟩
    rw [he] at hu
    cases hu
  | some d' =>
    rw [hc] at ho
    have hr := read?_text (readable_of_counted? hc)
    refine ⟨fun ⟨u, hu, hd⟩ => ?_, fun e => ?_⟩
    · rw [ho] at hu
      cases hu
      exact hr.symm.trans hd
    · cases e
      exact ⟨_, ho, hr⟩

/-! ## 4. Closed arguments -/

/-- The arguments of functions that are applied at once have no free variables. -/
def ArgumentsClosed : Named → Prop
  | .var _ | .prim _ | .int _ => True
  | .lam _ b => b.ArgumentsClosed
  | .app f a => (f.head.IsLam → a.free = []) ∧ f.ArgumentsClosed ∧ a.ArgumentsClosed

/-- The variables that the functions of a term bind. -/
def binders : Named → List Nat
  | .var _ | .prim _ | .int _ => []
  | .lam k b => k :: b.binders
  | .app f a => f.binders ++ a.binders

/-- No two functions of a term bind the same variable, and none binds a free one. -/
def Apart (t : Named) : Prop := t.binders.Nodup ∧ ∀ k ∈ t.free, k ∉ t.binders

theorem agrees_of_argumentsClosed (h : t.ArgumentsClosed)
    (hf : ∀ k ∈ t.free, position around k = position bound k) : t.Agrees around bound := by
  induction t generalizing around bound with
  | var k => exact hf k (by simp [free])
  | prim | int => trivial
  | lam k b ih =>
    refine ih h fun j hj => ?_
    by_cases e : j = k
    · simp [position, e]
    · simp only [position, e, if_false]
      rw [hf j (by simp [free, hj, e])]
  | app f a ihf iha =>
    obtain ⟨hc, hcf, hca⟩ := h
    refine ⟨ihf hcf fun j hj => hf j (by simp [free, hj]), iha hca fun j hj => ?_⟩
    rcases f.scope_eq around with ⟨_, e⟩ | ⟨k, b, hk, _⟩
    · rw [e]
      exact hf j (by simp [free, hj])
    · rw [hc (by rw [hk]; trivial)] at hj
      exact absurd hj not_mem_nil

theorem head_mem_binders {b : Named} (h : f.head = .lam k b) : k ∈ f.binders := by
  induction f with
  | lam j c _ =>
    cases h
    exact mem_cons_self
  | app f a ihf _ => exact mem_append_left _ (ihf h)
  | _ => cases h

theorem Agrees.position_eq (h : t.Agrees around bound) (hk : k ∈ t.free) (hb : k ∉ t.binders)
    (hle : position bound k ≤ position around k) : position around k = position bound k := by
  induction t generalizing around bound with
  | var j =>
    simp only [free, mem_singleton] at hk
    rw [hk]
    exact h
  | prim | int => exact absurd hk not_mem_nil
  | lam j b ih =>
    simp only [free, mem_filter, bne_iff_ne] at hk
    simp only [binders, mem_cons, not_or] at hb
    have hle' : position (j :: bound) k ≤ position (j :: around) k := by
      simp only [position, hk.2, if_false]
      omega
    have := ih h hk.1 hb.2 hle'
    simpa [position, hk.2] using this
  | app f a ihf iha =>
    simp only [free, mem_append] at hk
    simp only [binders, mem_append, not_or] at hb
    by_cases hkf : k ∈ f.free
    · exact ihf h.1 hkf hb.1 hle
    · have hka := hk.resolve_left hkf
      have ha := h.2
      rcases f.scope_eq around with ⟨_, e⟩ | ⟨j, b, hj, e⟩
      · rw [e] at ha
        exact iha ha hka hb.2 hle
      · -- the variable of the function cannot make up for the one place that it takes
        have hne : k ≠ j := fun h => hb.1 (h ▸ head_mem_binders hj)
        have hstep : position (j :: around) k = position around k + 1 := by rw [position, if_neg hne]
        rw [e] at ha
        have := iha ha hka hb.2 (by omega)
        omega

theorem argumentsClosed_of_agrees (h : t.Agrees around bound) (hd : t.Apart)
    (hle : ∀ k ∈ t.free, position bound k ≤ position around k) : t.ArgumentsClosed := by
  induction t generalizing around bound with
  | var | prim | int => trivial
  | lam k b ih =>
    obtain ⟨hnd, hfree⟩ := hd
    rw [binders, nodup_cons] at hnd
    refine ih h ⟨hnd.2, fun j hj => ?_⟩ fun j hj => ?_
    · by_cases e : j = k
      · rw [e]
        exact hnd.1
      · have := hfree j (by simp [free, hj, e])
        simp only [binders, mem_cons, not_or] at this
        exact this.2
    · by_cases e : j = k
      · simp [position, e]
      · have := hle j (by simp [free, hj, e])
        simp only [position, e, if_false]
        omega
  | app f a ihf iha =>
    obtain ⟨hnd, hfree⟩ := hd
    rw [binders, nodup_append] at hnd
    simp only [free, binders, mem_append, not_or] at hfree hle
    have hdf : f.Apart := ⟨hnd.1, fun j hj => (hfree j (Or.inl hj)).1⟩
    have hda : a.Apart := ⟨hnd.2.1, fun j hj => (hfree j (Or.inr hj)).2⟩
    have hcf := ihf h.1 hdf fun j hj => hle j (Or.inl hj)
    have ha := h.2
    rcases f.scope_eq around with ⟨hl, e⟩ | ⟨k, b, hk, e⟩
    · rw [e] at ha
      exact ⟨fun hl' => absurd hl' hl, hcf, iha ha hda fun j hj => hle j (Or.inr hj)⟩
    · have hclosed : a.free = [] := by
        refine eq_nil_iff_forall_not_mem.mpr fun j hj => ?_
        have hb := hfree j (Or.inr hj)
        have hne : j ≠ k := fun h => hb.1 (h ▸ head_mem_binders hk)
        have hstep : position (k :: around) j = position around j + 1 := by rw [position, if_neg hne]
        have hj' := hle j (Or.inr hj)
        rw [e] at ha
        have := ha.position_eq hj hb.2 (by omega)
        omega
      refine ⟨fun _ => hclosed, hcf, iha ha hda fun j hj => ?_⟩
      rw [hclosed] at hj
      exact absurd hj not_mem_nil

end Named

open Named

/-- **The answer for a term reads as the term without names just if no head is a variable or taken for a
    function and no index is skewed.** It always reads as the term in which the arguments of an applied
    function count its variable. No index is skewed if the arguments of applied functions are closed;
    where no name is used twice, only then. -/
theorem read?_ofNamed_iff {t : Named} {s : String} (hs : expression? s = .ok t.expr) (hf : ∀ k ∈ t.free, k < 400) :
    (t.HeadsPlain → ∃ u, ofNamed s {} = .ok u ∧ Nameless.read? u = some (t.skewed [])) ∧
    ((∃ u, ofNamed s {} = .ok u ∧ Nameless.read? u = some (t.nameless [])) ↔ t.HeadsPlain ∧ t.Agrees [] []) ∧
    (t.ArgumentsClosed → t.Agrees [] []) ∧ (t.Apart → t.Agrees [] [] → t.ArgumentsClosed) := by
  have hcount : t.HeadsPlain → t.counted? [] = some (t.skewed []) := fun hp =>
    counted?_eq_skewed hp fun k hk => .inr (hf k hk)
  refine ⟨fun hp => (read?_ofNamed hs _).mpr (hcount hp), ?_, fun hc => agrees_of_argumentsClosed hc fun _ _ => rfl,
    fun hd ha => argumentsClosed_of_agrees ha hd fun _ _ => Nat.le_refl _⟩
  rw [read?_ofNamed hs]
  refine ⟨fun h => ?_, fun ⟨hp, ha⟩ => ?_⟩
  · have hp := headsPlain_of_counted? h
    rw [hcount hp] at h
    exact ⟨hp, (skewed_eq_nameless_iff t [] []).mp (some.inj h)⟩
  · rw [hcount hp, (skewed_eq_nameless_iff t [] []).mpr ha]

def primF : PrimName := ⟨"f", rfl, rfl, by decide⟩

/-- The free variable `x2` counts the function that it is the argument of. -/
theorem read?_ofNamed_argument :
    let t : Named := .app (.lam 1 (.app (.prim primF) (.var 1))) (.var 2)
    let s := "(lambda x1: (f(x1)))(x2)"
    (expression? s = .ok t.expr ∧ ∀ k ∈ t.free, k < 400) ∧
    t.nameless [] = .app (.lam (.app (.atom "f") (.index 0))) (.index 2) ∧
    (∃ u, ofNamed s {} = .ok u ∧
      read? u = some (.app (.lam (.app (.atom "f") (.index 0))) (.index 3))) ∧
    ¬∃ u, ofNamed s {} = .ok u ∧ read? u = some (t.nameless []) := by
  intro t s
  have hs : expression? s = .ok t.expr := expression?_phrase (t := t) (by decide)
  have hf : ∀ k ∈ t.free, k < 400 := by decide
  have h := read?_ofNamed_iff hs hf
  have hp : t.HeadsPlain := ⟨trivial, ⟨⟨by decide, by decide⟩, trivial, trivial⟩, trivial⟩
  refine ⟨⟨hs, hf⟩, rfl, h.1 hp, fun hn => ?_⟩
  have ha := (h.2.1.mp hn).2
  exact absurd ha (by simp [t, Agrees, position, scope])

/-! ## 5. Words of the answer -/

def Nameless.atoms : Nameless → List String
  | .index _ => []
  | .atom w => [w]
  | .lam b => b.atoms
  | .app f a => f.atoms ++ a.atoms

theorem Nameless.mem_marks_grouped {ts : List Tree} (h : w ∈ (grouped ts).marks) :
    w = "(" ∨ w = ")" ∨ w ∈ allMarks ts := by
  match ts with
  | [] => simpa [grouped, marks, allMarks] using h
  | [t] => exact .inr (Or.inr (by simpa [grouped, allMarks] using h))
  | t :: u :: ts =>
    simp only [grouped, marks, mem_append, mem_cons, not_mem_nil, or_false] at h
    rcases h with (h | h) | h
    · exact .inl h
    · exact .inr (Or.inr h)
    · exact .inr (Or.inl h)

theorem Nameless.mem_allMarks (h : w ∈ allMarks d.pieces) :
    w ∈ ["(", ")", "lam"] ∨ (∃ i, w = indexText i) ∨ w ∈ d.atoms := by
  induction d with
  | index i =>
    simp only [pieces, allMarks, marks, append_nil, mem_singleton] at h
    exact Or.inr (Or.inl ⟨i, h⟩)
  | atom v =>
    simp only [pieces, allMarks, marks, append_nil, mem_singleton] at h
    exact Or.inr (Or.inr (by simp [atoms, h]))
  | lam b ih =>
    simp only [pieces, allMarks, marks, append_nil, mem_append, mem_cons, not_mem_nil, or_false] at h
    rcases h with (h | h | h) | h
    · exact Or.inl (by simp [h])
    · exact Or.inl (by simp [h])
    · rcases mem_marks_grouped h with h | h | h
      · exact Or.inl (by simp [h])
      · exact Or.inl (by simp [h])
      · exact ih h
    · exact Or.inl (by simp [h])
  | app f a ihf iha =>
    simp only [pieces, allMarks_append, allMarks, append_nil, mem_append] at h
    rcases h with h | h
    · exact (ihf h).imp_right fun h => h.imp_right fun h => by simp [atoms, h]
    · rcases mem_marks_grouped h with h | h | h
      · exact Or.inl (by simp [h])
      · exact Or.inl (by simp [h])
      · exact (iha h).imp_right fun h => h.imp_right fun h => by simp [atoms, h]

namespace Named

theorem starts_atoms (h : w ∈ (t.nameless bound).atoms) : starts w "x" = false := by
  induction t generalizing bound with
  | var k => exact absurd h not_mem_nil
  | prim p =>
    rw [mem_singleton.mp h]
    exact p.notVariable
  | int i =>
    rw [mem_singleton.mp h]
    exact starts_toString_int i
  | lam k b ih => exact ih h
  | app f a ihf iha => exact (mem_append.mp h).elim ihf iha

theorem starts_lexemes (hr : (t.nameless []).Readable) (h : w ∈ lexemes (t.nameless []).text) :
    starts w "x" = false := by
  rw [Nameless.text, Tree.lexemes_line (Nameless.wordly_tree hr)] at h
  have hm : w ∈ ["(", ")", "lam"] ∨ (∃ i, w = indexText i) ∨ w ∈ (t.nameless []).atoms := by
    rcases mem_marks_grouped h with h | h | h
    · exact .inl (by simp [h])
    · exact .inl (by simp [h])
    · exact mem_allMarks h
  rcases hm with h | ⟨i, rfl⟩ | h
  · have ht : ∀ v ∈ ["(", ")", "lam"], starts v "x" = false := by decide
    exact ht w h
  · refine Bool.eq_false_iff.mpr fun h => ?_
    rw [starts_iff, indexText_toList] at h
    obtain ⟨_, h⟩ := h
    cases h
  · exact starts_atoms h

/-- A term that is counted has its free variables in scope, if no function is applied at once. -/
theorem free_of_counted? (h : t.counted? around = some d) (hp : t.HeadsPlain)
    (ht : t.Applies fun f => f.IsPrim ∨ f.IsVar) : ∀ k ∈ t.free, k ∈ around ∨ k < 400 := by
  induction t generalizing around d with
  | var k =>
    intro j hj
    rw [mem_singleton.mp hj]
    rw [counted?] at h
    split at h
    · assumption
    · cases h
  | prim | int => simp [free]
  | lam k b ih =>
    intro j hj
    obtain ⟨d, hd, _⟩ := map_eq_some_iff.mp h
    simp only [free, mem_filter, bne_iff_ne] at hj
    refine (ih hd hp ht j hj.1).imp_left fun hm => ?_
    simpa [hj.2] using hm
  | app f a ihf iha =>
    obtain ⟨hh, hpf, hpa⟩ := hp
    obtain ⟨hk, htf, hta⟩ := ht
    cases f with
    | var k => exact hh.elim
    | prim p =>
      rw [counted?] at h
      split at h
      · cases h
      · obtain ⟨d, hd, _⟩ := map_eq_some_iff.mp h
        exact iha hd hpa hta
    | int | lam => exact (hk.elim id id).elim
    | app g c =>
      rw [counted?] at h
      · obtain ⟨f', a', hf, ha, _⟩ := applied?_eq_some h
        rcases (app g c).scope_eq around with ⟨_, e⟩ | ⟨j, b, hj, _⟩
        · rw [e] at ha
          intro j hj
          rcases mem_append.mp hj with hj | hj
          · exact ihf hf hpf htf j hj
          · exact iha ha hpa hta j hj
        · rw [hj] at hk
          exact (hk.elim id id).elim
      all_goals simp

theorem argumentsClosed_of_applies (h : t.Applies fun f => f.IsPrim ∨ f.IsVar) : t.ArgumentsClosed := by
  induction t with
  | lam k b ih => exact ih h
  | app f a ihf iha =>
    refine ⟨fun hl => ?_, ihf h.2.1, iha h.2.2⟩
    have hk := h.1
    cases hf : f.head <;> rw [hf] at hk hl <;> first | exact hl.elim | exact (hk.elim id id).elim
  | _ => trivial

end Named

/-- **Where no function is applied at once, no variable is left in the answer and every index counts to
    the function that binds it, just if no variable is applied, no applied word is taken for a function
    and the free variables are in scope.** -/
theorem lexemes_ofNamed_iff {t : Named} {s : String} (hs : expression? s = .ok t.expr)
    (ht : t.Applies fun f => f.IsPrim ∨ f.IsVar) :
    (∃ u, ofNamed s {} = .ok u ∧ (∀ w ∈ Tree.lexemes u, starts w "x" = false) ∧ Nameless.read? u =
      some (t.nameless [])) ↔ t.HeadsPlain ∧ ∀ k ∈ t.free, k < 400 := by
  have hagree : t.skewed [] = t.nameless [] :=
    (skewed_eq_nameless_iff t [] []).mpr (agrees_of_argumentsClosed (argumentsClosed_of_applies ht) fun _ _ => rfl)
  refine ⟨fun ⟨u, hu, _, hr⟩ => ?_, fun ⟨hp, hf⟩ => ?_⟩
  · have hc := (read?_ofNamed hs _).mp ⟨u, hu, hr⟩
    have hp := headsPlain_of_counted? hc
    refine ⟨hp, fun k hk => ?_⟩
    exact (free_of_counted? hc hp ht k hk).resolve_left not_mem_nil
  · have hc : t.counted? [] = some (t.nameless []) := by rw [counted?_eq_skewed hp fun k hk => Or.inr (hf k hk), hagree]
    have hr := readable_of_counted? hc
    have ho := ofNamed_counted hs
    rw [hc] at ho
    exact ⟨_, ho, fun w hw => starts_lexemes hr hw, read?_text hr⟩

/-- A variable that is applied is left in the answer; one that is an argument is not. -/
theorem lexemes_ofNamed_head :
    let t : Named := .lam 1 (.app (.var 1) (.int 2))
    let u : Named := .lam 1 (.app (.prim primF) (.var 1))
    (expression? "lambda x1: (x1(2))" = .ok t.expr ∧ t.Applies fun f => f.IsPrim ∨ f.IsVar) ∧
    (¬∃ v, ofNamed "lambda x1: (x1(2))" {} = .ok v ∧
      (∀ w ∈ lexemes v, starts w "x" = false) ∧ read? v = some (t.nameless [])) ∧
    (expression? "lambda x1: (f(x1))" = .ok u.expr ∧ u.Applies fun f => f.IsPrim ∨ f.IsVar) ∧
    ∃ v, ofNamed "lambda x1: (f(x1))" {} = .ok v ∧
      (∀ w ∈ lexemes v, starts w "x" = false) ∧ read? v = some (u.nameless []) := by
  intro t u
  have hs : expression? "lambda x1: (x1(2))" = .ok t.expr := expression?_phrase (t := t) (by decide)
  have ht : t.Applies fun f => f.IsPrim ∨ f.IsVar := ⟨Or.inr trivial, trivial, trivial⟩
  have hu : expression? "lambda x1: (f(x1))" = .ok u.expr := expression?_phrase (t := u) (by decide)
  have hk : u.Applies fun f => f.IsPrim ∨ f.IsVar := ⟨Or.inl trivial, trivial, trivial⟩
  refine ⟨⟨hs, ht⟩, fun h => ?_, ⟨hu, hk⟩, ?_⟩
  · exact ((lexemes_ofNamed_iff hs ht).mp h).1.1
  · have hp : u.HeadsPlain := ⟨⟨by decide, by decide⟩, trivial, trivial⟩
    exact (lexemes_ofNamed_iff hu hk).mpr ⟨hp, by decide⟩

end PuzzlePrograms.Indexed
