import Mathlib
import PuzzlePrograms.Pass.Operators

/-!
# Operators as calls keep values

What the rules for operators, connectives and conditionals make of an expression has the value of the expression
(`value_operatorCalls`).

* `Algebra` says what names, numbers, operators and calls are. `Algebra.value` evaluates an expression,
  `Algebra.strict` all its parts as well, and all comparisons of a chain;
* `Sense` says what values the numbers of shared parts stand for, and `Holds` that a table agrees;
* a rule is `Faithful` if what it makes of a term has the value of the term. A visit then keeps all values, although
  it changes shared parts in place and meets them again (`Faithful.visit`);
* a term without numbers has the value of the term with numbers (`Holds.value_resolveTo`). With each value comes a
  bound on the calls that can come to stand around one another, which shows that no entry lies within itself.
-/

namespace PuzzlePrograms.Pass

open List Source Expr

theorem sizes_append (es fs : List Expr) : sizes (es ++ fs) = sizes es + sizes fs := by
  induction es with
  | nil => simp [sizes]
  | cons e es ih => simp [sizes, ih, Nat.add_assoc]

theorem size_eq (e : Expr) : size e = 1 + sizes e.children := by
  cases e <;> simp [size, children, sizes, sizes_append] <;> omega

theorem size_lt_of_mem {e : Expr} (h : c ∈ e.children) : size c < size e := by
  have hle : ∀ es : List Expr, c ∈ es → size c ≤ sizes es := by
    intro es h
    induction es with
    | nil => cases h
    | cons e es ih => grind [sizes]
  have := hle _ h
  rw [size_eq e]
  omega

theorem resolveTo_empty (n : Nat) (e : Expr) : resolveTo #[] n e = e := by
  induction n generalizing e with
  | zero => rfl
  | succ n ih => cases e <;> simp [resolveTo, mapPartsM, ih]

/-! ## 1. Values -/

/-- What names, numbers, operators, truth and calls are. -/
structure Algebra (V : Type) where
  name : String → Option V
  whole : Int → V
  binary : BinOp → V → V → Option V
  compare : CmpOp → V → V → Option V
  truth : V → Bool
  apply : V → List V → Option V

namespace Algebra

variable {V : Type} (m : Algebra V)

/-- The operand that a connective returns: the first that settles the matter, or the last. -/
def select (o : BoolOp) : List (Option V) → Option V
  | [] => none
  | [x] => x
  | x :: xs => do
    let v ← x
    if m.truth v = (o == .and) then select o xs else return v

/-- Comparisons one after another, up to the first that does not hold. -/
def chain (left : V) : List (CmpOp × Option V) → Option V
  | [] => none
  | [(o, x)] => do m.compare o left (← x)
  | (o, x) :: rest => do
    let right ← x
    let v ← m.compare o left right
    if m.truth v then chain right rest else return v

mutual

def value : Expr → Option V
  | .name x => m.name x
  | .const (.int i) => some (m.whole i)
  | .binOp a o b => do m.binary o (← value a) (← value b)
  | .compare a os bs => do m.chain (← value a) (os.zip (values bs))
  | .boolOp o vs => m.select o (values vs)
  | .ifExp c a b => do if m.truth (← value c) then value a else value b
  | .call f as [] => do m.apply (← value f) (← (values as).mapM id)
  | _ => none

def values : List Expr → List (Option V)
  | [] => []
  | e :: es => value e :: values es

end

/-- The comparisons of a chain, all of them. -/
def comparisons (left : V) : List (CmpOp × V) → Option (List V)
  | [] => some []
  | (o, right) :: rest => do return (← m.compare o left right) :: (← comparisons right rest)

/-- The value of an expression, given the values of all its parts. -/
def join : Expr → List V → Option V
  | .name x, [] => m.name x
  | .const (.int i), [] => some (m.whole i)
  | .binOp _ o _, [x, y] => m.binary o x y
  | .compare _ os _, x :: ys => do m.select .and ((← m.comparisons x (os.zip ys)).map some)
  | .boolOp o _, xs => m.select o (xs.map some)
  | .ifExp _ _ _, [c, x, y] => some (if m.truth c then x else y)
  | .call _ _ [], f :: xs => m.apply f xs
  | _, _ => none

/-- The value of an expression of which every part is evaluated, also those that `value` skips. -/
def strict (e : Expr) : Option V := do m.join e (← e.children.attach.mapM fun c => strict c.1)
termination_by size e
decreasing_by exact size_lt_of_mem c.2

theorem strict_eq (e : Expr) : m.strict e = (e.children.mapM m.strict).bind (m.join e) := by
  rw [strict]
  simp [mapM_subtype]

/-- The functions do what the operators do. -/
structure Standard : Prop where
  arithmetic {o : BinOp} {f : String} (h : arithmeticName? o = some f) :
    ∃ g, m.name f = some g ∧ ∀ x y, m.apply g [x, y] = m.binary o x y
  comparison (o : CmpOp) : ∃ g, m.name (comparisonName o) = some g ∧ ∀ x y, m.apply g [x, y] = m.compare o x y
  connective (o : BoolOp) :
    ∃ g, m.name (connectiveName o) = some g ∧ ∀ x y, m.apply g [x, y] = m.select o [some x, some y]
  conditional : ∃ g, m.name "ifElse" = some g ∧ ∀ c x y, m.apply g [c, x, y] = some (if m.truth c then x else y)

variable {m}

theorem values_eq_map (es : List Expr) : m.values es = es.map m.value := by
  induction es with
  | nil => rfl
  | cons e es ih => rw [values, ih, map_cons]

theorem comparisons_cons {y : V} {o : CmpOp} : m.comparisons x ((o, y) :: l) = some zs ↔
      ∃ z, m.compare o x y = some z ∧ ∃ zs', m.comparisons y l = some zs' ∧ zs = z :: zs' := by
  simp only [comparisons, Option.bind_eq_bind, Option.bind_eq_some_iff, Option.pure_def, Option.some.injEq,
    eq_comm (a := zs)]

theorem chain_eq_select (h : m.comparisons x l = some zs) :
    m.chain x (l.map (.map id some)) = m.select .and (zs.map some) := by
  induction l generalizing x zs with
  | nil =>
    obtain rfl := Option.some.inj h
    rfl
  | cons p l ih =>
    obtain ⟨z, hz, zs, hzs, rfl⟩ := comparisons_cons.mp h
    have hrest := ih hzs
    cases l with
    | nil =>
      obtain rfl := Option.some.inj hzs
      simp [chain, hz, select]
    | cons q l =>
      obtain ⟨z', _, zs, _, rfl⟩ := comparisons_cons.mp hzs
      simp only [map_cons] at hrest
      simp [chain, hz, hrest, select]

/-- If the parts of an expression have values and these join, the expression has the value to which they join. -/
theorem value_of_join {e : Expr} {vs : List V} {v : V} (hvs : e.children.map m.value = vs.map some)
    (h : m.join e vs = some v) : m.value e = some v := by
  cases e with
  | name x => cases vs <;> simp_all [join, value]
  | const c => cases c <;> cases vs <;> simp_all [join, value]
  | binOp a o b => rcases vs with _ | ⟨x, _ | ⟨y, _ | _⟩⟩ <;> simp_all [join, children, value]
  | ifExp c a b =>
    rcases vs with _ | ⟨x, _ | ⟨y, _ | ⟨z, _ | _⟩⟩⟩ <;> simp_all [join, children, value, apply_ite]
  | boolOp o es => simp_all [join, children, value, values_eq_map]
  | compare a os bs =>
    match vs, hvs with
    | x :: ys, hvs =>
      obtain ⟨zs, hzs, h⟩ := Option.bind_eq_some_iff.mp h
      obtain ⟨ha, hbs⟩ := cons_eq_cons.mp hvs
      rw [value, values_eq_map, ha, hbs, zip_map_right]
      exact (chain_eq_select hzs).trans h
  | call f as ks =>
    match ks, vs, hvs with
    | [], g :: xs, hvs =>
      obtain ⟨hf, has⟩ : m.value f = some g ∧ as.map m.value = xs.map some := by simpa [children] using hvs
      have hxs : (xs.map some).mapM id = some xs := by
        rw [mapM_map]
        exact (mapM_pure (m := Option) (f := id)).trans (by simp)
      rw [value, values_eq_map, hf, has, hxs]
      exact h
  | _ => simp [join] at h

end Algebra

/-! ## 2. Terms with numbers -/

def Whole (e : Expr) : Prop := ∀ k, e ≠ .shared k

/-- How many calls can come to stand around a part of a term that has so many parts. -/
def levels : Expr → Nat → Nat
  | .compare _ _ _, n => n + 2
  | .boolOp _ _, n => n + 1
  | .name _, _ | .const _, _ => 0
  | _, _ => 1

section Parts

variable {V : Type} {m : Algebra V} {f : Expr → Share Expr} {t : Table}

theorem run_bind {α β : Type} {x : Share α} {f : α → Share β} {t : Table} {a : α} (h : x.run t = (a, t')) :
    (x >>= f).run t = (f a).run t' := by
  show (f (x.run t).1).run (x.run t).2 = _
  rw [h]

theorem run_mapM_cons : ((a :: as).mapM f).run t =
    (((f a).run t).1 :: ((as.mapM f).run ((f a).run t).2).1, ((as.mapM f).run ((f a).run t).2).2) := by
  rw [mapM_cons]
  rfl

theorem run_mapM_append {bs : List Expr} : ((as ++ bs).mapM f).run t = (((as.mapM f).run t).1 ++
      ((bs.mapM f).run ((as.mapM f).run t).2).1, ((bs.mapM f).run ((as.mapM f).run t).2).2) := by
  rw [mapM_append]
  rfl

theorem run_children (e : Expr) :
    (e.children.mapM f).run t = (((mapPartsM f e).run t).1.children, ((mapPartsM f e).run t).2) := by
  cases e <;> simp only [children, run_mapM_append, run_mapM_cons] <;> rfl

theorem levels_mapPartsM (e : Expr) : levels ((mapPartsM f e).run t).1 = levels e := by cases e <;> rfl

theorem whole_mapPartsM {e : Expr} (h : Whole e) : Whole ((mapPartsM f e).run t).1 := by
  cases e with
  | shared k => exact absurd rfl (h k)
  | _ => nofun

theorem join_mapPartsM (e : Expr) (vs : List V) : m.join ((mapPartsM f e).run t).1 vs = m.join e vs := by
  cases e with
  | call g as ks =>
    match ks with
    | [] => cases vs <;> rfl
    | k :: ks =>
      show m.join (.call _ _ (((k :: ks).mapM f).run _).1) vs = none
      rw [run_mapM_cons]
      cases vs <;> rfl
  | _ => rcases vs with _ | ⟨x, _ | ⟨y, _ | ⟨z, _ | _⟩⟩⟩ <;> rfl

theorem levels_pos {e : Expr} (h : c ∈ e.children) (n : Nat) : 0 < levels e n := by
  cases e with
  | name | const => exact absurd h not_mem_nil
  | _ => exact Nat.succ_pos _

end Parts

/-- What numbers stand for: values, each with a bound on the calls that can come to stand around one another. -/
abbrev Sense (V : Type) := Nat → Option (V × Nat)

def Sense.rank {V : Type} (w : Sense V) (k : Nat) : Nat := ((w k).map Prod.snd).getD 0

namespace Algebra

variable {V : Type} {m : Algebra V} {w w' : Sense V} {t : Table} {e : Expr} {v : V} {i n : Nat}

/-- A term has a value together with all its parts, and such a bound. -/
inductive Full (m : Algebra V) (w : Sense V) : Expr → V → Nat → Prop where
  | shared {k i n : Nat} {v : V} (h : w k = some (v, i)) (hn : i ≤ n) : Full m w (.shared k) v n
  | parts {e : Expr} {vs : List V} {v : V} {i n : Nat} (hs : Whole e) (hlen : e.children.length = vs.length)
    (h : ∀ p ∈ e.children.zip vs, Full m w p.1 p.2 i) (hv : m.join e vs = some v)
    (hn : i + levels e vs.length ≤ n) : Full m w e v n

theorem Full.of_parts {vs : List V} (hs : Whole e) (h : Forall₂ (m.Full w · · i) e.children vs)
    (hv : m.join e vs = some v) (hn : i + levels e vs.length ≤ n) : m.Full w e v n :=
  .parts hs h.length_eq (fun _ hp => (forall₂_iff_zip.mp h).2 hp) hv hn

theorem Full.exists_parts (h : m.Full w e v n) (hs : Whole e) : ∃ vs i, Forall₂ (m.Full w · · i) e.children vs ∧
    m.join e vs = some v ∧ i + levels e vs.length ≤ n := by
  cases h with
  | shared => exact absurd rfl (hs _)
  | parts _ hlen h hv hn => exact ⟨_, _, forall₂_iff_zip.mpr ⟨hlen, fun hp => h _ hp⟩, hv, hn⟩

theorem Full.mono (h : m.Full w e v i) (hn : i ≤ n) : m.Full w e v n := by
  cases h with
  | shared h hi => exact .shared h (hi.trans hn)
  | parts hs hlen h hv hi => exact .parts hs hlen h hv (hi.trans hn)

def Extends (w w' : Sense V) : Prop := ∀ k p, w k = some p → w' k = some p

theorem Extends.trans {w'' : Sense V} (h : Extends w w') (h' : Extends w' w'') : Extends w w'' :=
  fun k p hk => h' k p (h k p hk)

theorem Full.extend (h : m.Full w e v n) (hw : Extends w w') : m.Full w' e v n := by
  induction h with
  | shared h hn => exact .shared (hw _ _ h) hn
  | parts hs hlen _ hv hn ih => exact .parts hs hlen ih hv hn

/-- A table whose entries have the values for which their numbers stand. No entry is a number. -/
def Holds (m : Algebra V) (w : Sense V) (t : Table) : Prop :=
  ∀ k v i, w k = some (v, i) → ∃ c, t[k]? = some (.node c) ∧ Whole c ∧ m.Full w c v i

/-- What becomes of a table: all numbers stand for what they stood for. -/
def Grows (m : Algebra V) (w : Sense V) (t : Table) (P : (Sense V) → Prop) : Prop :=
  ∃ w', Extends w w' ∧ m.Holds w' t ∧ P w'

/-- A computation on terms that keeps all values. -/
def Keeps (m : Algebra V) (f : Expr → Share Expr) : Prop :=
  ∀ ⦃w t e v n⦄, m.Holds w t → m.Full w e v n → m.Grows w ((f e).run t).2 fun w' => m.Full w' ((f e).run t).1 v n

theorem Holds.grows (h : m.Holds w t) (hP : P w) : m.Grows w t P := ⟨w, fun _ _ h => h, h, hP⟩

theorem Grows.bind {Q : (Sense V) → Prop} (h : m.Grows w t P)
    (hQ : ∀ w', Extends w w' → m.Holds w' t → P w' → m.Grows w' t' Q) : m.Grows w t' Q := by
  obtain ⟨w', hw, ht, hP⟩ := h
  obtain ⟨w'', hw', ht', hq⟩ := hQ w' hw ht hP
  exact ⟨w'', hw.trans hw', ht', hq⟩

variable {f : Expr → Share Expr}

theorem Keeps.mapM (hf : m.Keeps f) {es : List Expr} {vs : List V} (ht : m.Holds w t)
    (h : Forall₂ (m.Full w · · n) es vs) : m.Grows w ((es.mapM f).run t).2 fun w' =>
      Forall₂ (m.Full w' · · n) ((es.mapM f).run t).1 vs := by
  induction es generalizing w t vs with
  | nil => exact ht.grows h
  | cons e es ih =>
    obtain ⟨v, vs, hv, hvs, rfl⟩ := forall₂_cons_left_iff.mp h
    rw [run_mapM_cons]
    refine (hf ht hv).bind fun w₁ hw₁ ht₁ h₁ => ?_
    refine (ih ht₁ (hvs.imp fun _ _ h => h.extend hw₁)).bind fun w₂ hw₂ ht₂ h₂ => ?_
    exact ht₂.grows (.cons (h₁.extend hw₂) h₂)

theorem Keeps.mapPartsM (hf : m.Keeps f) (ht : m.Holds w t) (hs : Whole e) (he : m.Full w e v n) :
    m.Grows w ((mapPartsM f e).run t).2 fun w' => m.Full w' ((mapPartsM f e).run t).1 v n := by
  obtain ⟨vs, i, hvs, hv, hn⟩ := he.exists_parts hs
  have hmap := hf.mapM ht hvs
  rw [run_children] at hmap
  refine hmap.bind fun w' _ ht' h' => ht'.grows ?_
  exact .of_parts (whole_mapPartsM hs) h' ((join_mapPartsM e vs).trans hv) (by rwa [levels_mapPartsM])

theorem Holds.lt_size (ht : m.Holds w t) (hk : w k = some (v, i)) : k < t.size := by
  obtain ⟨c, hc, _⟩ := ht k v i hk
  exact (Array.getElem?_eq_some_iff.mp hc).1

theorem keeps_label : m.Keeps label := by
  intro w t e v n ht he
  unfold label
  split
  · exact ht.grows he
  · rename_i hleaf
    have hw : Extends w (Function.update w t.size (some (v, n))) :=
      fun k p hk => by rw [Function.update_of_ne (ht.lt_size hk).ne, hk]
    refine ⟨_, hw, fun k v' i hk => ?_, .shared (Function.update_self ..) le_rfl⟩
    show ∃ c, (t.push (.node e))[k]? = _ ∧ _
    rw [Array.getElem?_push]
    rcases eq_or_ne k t.size with rfl | hkt
    · rw [Function.update_self] at hk
      obtain ⟨rfl, rfl⟩ := Prod.mk.inj (Option.some.inj hk)
      exact ⟨e, if_pos rfl, fun j hj => hleaf (by rw [hj]; rfl), he.extend hw⟩
    · rw [Function.update_of_ne hkt] at hk
      obtain ⟨c, hc, hs, hfull⟩ := ht k v' i hk
      exact ⟨c, (if_neg hkt).trans hc, hs, hfull.extend hw⟩

theorem keeps_spread (ht : m.Holds w t) (hs : Whole e) (he : m.Full w e v n) :
    m.Grows w ((spread e).run t).2 fun w' => m.Full w' ((spread e).run t).1 v n ∧ Whole ((spread e).run t).1 := by
  have hspread : spread e = mapPartsM label e := by
    obtain ⟨vs, i, _, hv, _⟩ := he.exists_parts hs
    cases e with
    | list | tuple | set => simp [join] at hv
    | _ => rfl
  rw [hspread]
  exact (keeps_label.mapPartsM ht hs he).bind fun w' _ ht' h => ht'.grows ⟨h, whole_mapPartsM hs⟩

/-! ## 3. Rules -/

/-- What a rule may make of a term: the term that others share and the one that takes its place have its value. -/
def KeepsAt (m : Algebra V) (w : Sense V) (t : Table) (x : Share Outcome) (v : V) (n : Nat) : Prop :=
  m.Grows w (x.run t).2 fun w' => m.Full w' (x.run t).1.content v n ∧ Whole (x.run t).1.content ∧
    ∀ r, (x.run t).1.result? = some r → m.Full w' r v n

def Faithful (m : Algebra V) (p : Rule) : Prop :=
  ∀ ⦃w t e v n⦄, m.Holds w t → Whole e → m.Full w e v n → m.KeepsAt w t (p.finish e) v n

theorem keepsAt_unchanged (ht : m.Holds w t) (hs : Whole e) (he : m.Full w e v n) : m.KeepsAt w t (unchanged e) v n :=
  ht.grows ⟨he, hs, nofun⟩

theorem keepsAt_replacing {r : Expr} (ht : m.Holds w t) (hs : Whole e) (he : m.Full w e v n)
    (hr : m.Full w r v n) : m.KeepsAt w t (replacing e r) v n := ht.grows ⟨he, hs, fun _ h => Option.some.inj h ▸ hr⟩

theorem Faithful.at (hp : m.Faithful p) (part ready : Expr → Share Expr) (hpart : m.Keeps part)
    (hready : ∀ ⦃w t e v n⦄, m.Holds w t → Whole e → m.Full w e v n →
      m.Grows w ((ready e).run t).2 fun w' => m.Full w' ((ready e).run t).1 v n ∧ Whole ((ready e).run t).1)
    (ht : m.Holds w t) (hs : Whole e) (he : m.Full w e v n) : m.KeepsAt w t (p.at part ready e) v n := by
  unfold Rule.at
  split
  · exact hp ht hs he
  · refine (hpart.mapPartsM ht hs he).bind fun w₁ hw₁ ht₁ h₁ => ?_
    refine (hready ht₁ (whole_mapPartsM hs) h₁).bind fun w₂ hw₂ ht₂ h₂ => ?_
    refine .bind (hp ht₂ h₂.2 h₂.1) fun w₃ hw₃ ht₃ h₃ => ht₃.grows ?_
    have he₃ := ((he.extend hw₁).extend hw₂).extend hw₃
    show m.Full w₃ (if p.keepsParts e then { content := e, result? := _ } else _ : Outcome).content v n ∧
      Whole (if p.keepsParts e then { content := e, result? := _ } else _ : Outcome).content ∧
      ∀ r, (if p.keepsParts e then { content := e, result? := _ } else _ : Outcome).result? = some r → m.Full w₃ r v n
    split
    · exact ⟨he₃, hs, h₃.2.2⟩
    · exact h₃

theorem Holds.set (ht : m.Holds w t) (hk : w k = some (v, i)) (hs : Whole c)
    (hc : m.Full w c v i) : m.Holds w (t.setIfInBounds k (.node c)) := by
  intro j v' i' hj
  rcases eq_or_ne k j with rfl | hkj
  · obtain ⟨rfl, rfl⟩ := Prod.mk.inj (Option.some.inj (hk.symm.trans hj))
    exact ⟨c, by simp [ht.lt_size hk], hs, hc⟩
  · rw [Array.getElem?_setIfInBounds_ne hkj]
    exact ht j v' i' hj

theorem visit_shared {n : Nat} (hc : t[k]? = some (.node c)) : (visit p (n + 1) (.shared k)).run t =
      let r := (spread c).run t
      let x := (p.at (visit p n) spread r.1).run (r.2.setIfInBounds k (.node r.1))
      (x.1.result?.getD (.shared k), x.2.setIfInBounds k (.node x.1.content)) := by
  have hview : (view (.shared k)).run t = (((spread c).run t).1,
      ((spread c).run t).2.setIfInBounds k (.node ((spread c).run t).1)) := by
    simp only [view, StateT.run_bind, StateT.run_get, pure_bind, hc]
    rfl
  rw [visit, StateT.run_bind, StateT.run_get, pure_bind]
  simp only [hc]
  exact (run_bind hview).trans rfl

/-- **A visit keeps all values**, also where it meets a shared part again. -/
theorem Faithful.visit (hp : m.Faithful p) (d : Nat) : m.Keeps (visit p d) := by
  induction d with
  | zero => exact fun w t e v n ht he => ht.grows he
  | succ d ih =>
    intro w t e v n ht he
    by_cases hs : Whole e
    · have hrun : (Pass.visit p (d + 1) e).run t = (((p.at (Pass.visit p d) pure e).run t).1.term,
          ((p.at (Pass.visit p d) pure e).run t).2) := by
        cases e with
        | shared k => exact absurd rfl (hs k)
        | _ => rfl
      rw [hrun]
      refine Grows.bind (hp.at _ pure ih (fun _ _ _ _ _ ht hs he => ht.grows ⟨he, hs⟩) ht hs he)
        fun w' _ ht' h => ht'.grows ?_
      unfold Outcome.term
      cases hr : ((p.at (Pass.visit p d) pure e).run t).1.result? with
      | none => exact h.1
      | some r => exact h.2.2 r hr
    · obtain ⟨k, rfl⟩ := not_forall_not.mp hs
      obtain ⟨i, hk, hi⟩ : ∃ i, w k = some (v, i) ∧ i ≤ n := by
        cases he with
        | shared hk hi => exact ⟨_, hk, hi⟩
        | parts hs => exact absurd rfl (hs k)
      obtain ⟨c, hc, hcs, hfull⟩ := ht k v i hk
      rw [visit_shared hc]
      refine (keeps_spread ht hcs hfull).bind fun w₁ hw₁ ht₁ h₁ => ?_
      have hset := ht₁.set (hw₁ _ _ hk) h₁.2 h₁.1
      refine Grows.bind (hp.at _ _ ih (fun _ _ _ _ _ => keeps_spread) hset h₁.2 h₁.1) fun w₂ hw₂ ht₂ h₂ => ?_
      have hk₂ := hw₂ _ _ (hw₁ _ _ hk)
      refine (ht₂.set hk₂ h₂.2.1 h₂.1).grows ?_
      -- what takes the place has the value of the entry
      dsimp only
      cases hr : ((p.at (Pass.visit p d) spread ((spread c).run t).1).run
        (((spread c).run t).2.setIfInBounds k (.node ((spread c).run t).1))).1.result? with
      | none => exact .shared hk₂ hi
      | some r => exact (h₂.2.2 r hr).mono hi

/-! ## 4. The three rules -/

variable {vs : List V} {es : List Expr}

theorem full_callName {h : String} {g : V} (hg : m.name h = some g) (hes : Forall₂ (m.Full w · · i) es vs)
    (hv : m.apply g vs = some v) (hn : i < n) : m.Full w (callName h es) v n := by
  have hname : m.Full w (.name h) g i := .of_parts nofun .nil hg (Nat.le_refl i)
  have hparts : Forall₂ (m.Full w · · i) (callName h es).children (g :: vs) := by
    simpa [callName, children] using ⟨hname, hes⟩
  exact .of_parts nofun hparts hv hn

theorem exists_select (o : BoolOp) (x : V) (xs : List V) : ∃ z, m.select o ((x :: xs).map some) = some z := by
  induction xs generalizing x with
  | nil => exact ⟨x, rfl⟩
  | cons y ys ih =>
    obtain ⟨z, hz⟩ := ih y
    cases hx : decide (m.truth x = (o == .and)) with
    | true => exact ⟨z, (if_pos (of_decide_eq_true hx)).trans hz⟩
    | false => exact ⟨x, if_neg (of_decide_eq_false hx)⟩

theorem full_nestRight (hm : m.Standard) {o : BoolOp} (hes : Forall₂ (m.Full w · · i) es vs)
    (hv : m.select o (vs.map some) = some v) (hn : i + es.length ≤ n) :
    m.Full w (nestRight (connectiveName o) es) v n := by
  obtain ⟨g, hg, happly⟩ := hm.connective o
  induction hes generalizing v n with
  | nil => cases hv
  | @cons a x as xs ha has ih =>
    cases has with
    | nil =>
      obtain rfl := Option.some.inj hv
      exact ha.mono (by simp at hn; omega)
    | @cons b y bs ys hb hbs =>
      obtain ⟨z, hz⟩ := exists_select o y ys
      have hrest := ih hz le_rfl
      have hpair : Forall₂ (m.Full w · · (i + (b :: bs).length)) [a, nestRight (connectiveName o) (b :: bs)] [x, z] :=
        .cons (ha.mono (Nat.le_add_right _ _)) (.cons hrest .nil)
      refine full_callName hg hpair ?_ (by simp at hn ⊢; omega)
      rw [happly, ← hv]
      simp only [map_cons, select] at hz ⊢
      rw [hz]

theorem faithful_connectives (hm : m.Standard) : m.Faithful connectives := by
  intro w t e v n ht hs he
  cases e with
  | boolOp o es =>
    obtain ⟨vs, i, hes, hv, hn⟩ := he.exists_parts hs
    refine keepsAt_replacing ht hs he (full_nestRight hm hes hv ?_)
    have := hes.length_eq
    simp only [levels, children] at hn this
    omega
  | _ => exact keepsAt_unchanged ht hs he

theorem faithful_conditionals (hm : m.Standard) : m.Faithful conditionals := by
  intro w t e v n ht hs he
  cases e with
  | ifExp c a b =>
    obtain ⟨g, hg, happly⟩ := hm.conditional
    obtain ⟨vs, i, hes, hv, hn⟩ := he.exists_parts hs
    refine keepsAt_replacing ht hs he (full_callName hg hes ?_ hn)
    obtain ⟨x, y, z, rfl⟩ := length_eq_three.mp hes.length_eq.symm
    exact (happly x y z).trans hv
  | _ => exact keepsAt_unchanged ht hs he

theorem keeps_labelButLast (ht : m.Holds w t) (hes : Forall₂ (m.Full w · · n) es vs) :
    m.Grows w ((labelButLast es).run t).2 fun w' => Forall₂ (m.Full w' · · n) ((labelButLast es).run t).1 vs := by
  induction es generalizing w t vs with
  | nil => exact ht.grows hes
  | cons e es ih =>
    cases es with
    | nil => exact ht.grows hes
    | cons e' es =>
      obtain ⟨v, vs, hv, hvs, rfl⟩ := forall₂_cons_left_iff.mp hes
      refine (keeps_label ht hv).bind fun w₁ hw₁ ht₁ h₁ => ?_
      refine (ih ht₁ (hvs.imp fun _ _ h => h.extend hw₁)).bind fun w₂ hw₂ ht₂ h₂ => ht₂.grows ?_
      exact .cons (h₁.extend hw₂) h₂

theorem full_comparisonCalls (hm : m.Standard) {os : List CmpOp}
    (ha : m.Full w a x i) (hes : Forall₂ (m.Full w · · i) es vs) (hzs : m.comparisons x (os.zip vs) = some zs) :
    Forall₂ (m.Full w · · (i + 1)) (comparisonCalls a (os.zip es)) zs := by
  induction hes generalizing a x os zs with
  | nil =>
    rw [zip_nil_right] at hzs ⊢
    obtain rfl := Option.some.inj hzs
    exact .nil
  | cons hb _ ih =>
    cases os with
    | nil =>
      obtain rfl := Option.some.inj hzs
      exact .nil
    | cons o os =>
      obtain ⟨z, hz, zs, hrest, rfl⟩ := comparisons_cons.mp hzs
      obtain ⟨g, hg, happly⟩ := hm.comparison o
      have hcall := full_callName hg (.cons ha (.cons hb .nil)) ((happly _ _).trans hz) (Nat.lt_succ_self i)
      exact .cons hcall (ih hb hrest)

theorem length_comparisons (h : m.comparisons x l = some zs) : zs.length = l.length := by
  induction l generalizing x zs with
  | nil => exact congrArg length (Option.some.inj h).symm
  | cons p l ih =>
    obtain ⟨z, _, zs, hrest, rfl⟩ := comparisons_cons.mp h
    exact congrArg (· + 1) (ih hrest)

theorem faithful_arithmeticCall (hm : m.Standard) (ht : m.Holds w t) (hs : Whole e) (he : m.Full w e v n) :
    m.KeepsAt w t (arithmeticCall e) v n := by
  cases e with
  | binOp a o b =>
    unfold arithmeticCall
    dsimp only
    split
    · rename_i f hf
      obtain ⟨g, hg, happly⟩ := hm.arithmetic hf
      obtain ⟨vs, i, hes, hv, hn⟩ := he.exists_parts hs
      refine keepsAt_replacing ht hs he (full_callName hg hes ?_ hn)
      obtain ⟨x, y, rfl⟩ := length_eq_two.mp hes.length_eq.symm
      exact (happly x y).trans hv
    · exact keepsAt_unchanged ht hs he
  | _ => exact keepsAt_unchanged ht hs he

theorem faithful_operators (hm : m.Standard) : m.Faithful operators := by
  intro w t e v n ht hs he
  cases e with
  | compare a os bs =>
    obtain ⟨vs, i, hes, hv, hn⟩ := he.exists_parts hs
    obtain ⟨x, ys, ha, hbs, rfl⟩ := forall₂_cons_left_iff.mp hes
    obtain ⟨zs, hzs, hv⟩ := Option.bind_eq_some_iff.mp hv
    simp only [levels, length_cons] at hn
    unfold operators
    dsimp only
    split
    · rename_i h
      obtain ⟨rfl, rfl, rfl⟩ := compare.inj h
      obtain ⟨z, _, hz, hnil, rfl⟩ := forall₂_cons_left_iff.mp (full_comparisonCalls hm ha hbs hzs)
      obtain rfl := forall₂_nil_left_iff.mp hnil
      obtain rfl := Option.some.inj hv
      exact keepsAt_replacing ht hs he (hz.mono (by omega))
    · rename_i h
      obtain ⟨rfl, rfl, rfl⟩ := compare.inj h
      refine .bind (keeps_labelButLast ht hbs) fun w' hw ht' hbs' => ?_
      have hcalls := full_comparisonCalls hm (ha.extend hw) hbs' hzs
      refine keepsAt_replacing ht' hs (he.extend hw) (.of_parts nofun hcalls hv ?_)
      have := (length_comparisons hzs).trans length_zip
      simp only [levels]
      omega
    · rename_i h
      exact absurd rfl (h a os bs)
  | _ => exact faithful_arithmeticCall hm ht hs he

end Algebra

/-! ## 5. Terms without numbers -/

/-- How much deeper a term can get by what an entry holds. -/
def cellDepth : Option Cell → Nat
  | some (.node c) | some (.slot c) => 1 + size c
  | none => 0

/-- How much deeper a term can get by the entries of lower rank. -/
def depthBelow (rank : Nat → Nat) (t : Table) (q : Nat) : Nat :=
  ∑ j ∈ (Finset.range t.size).filter (rank · < q), cellDepth t[j]?

theorem depthBelow_entry (rank : Nat → Nat) {t : Table} {q : Nat} (hk : k < t.size) (hq : rank k < q) :
    depthBelow rank t (rank k) + cellDepth t[k]? ≤ depthBelow rank t q := by
  have hnot : k ∉ (Finset.range t.size).filter (rank · < rank k) := by simp
  unfold depthBelow
  rw [add_comm, ← Finset.sum_insert (f := fun j => cellDepth t[j]?) hnot]
  refine Finset.sum_le_sum_of_subset fun j hj => ?_
  simp only [Finset.mem_insert, Finset.mem_filter, Finset.mem_range] at hj ⊢
  rcases hj with rfl | ⟨hj, hlt⟩
  · exact ⟨hk, hq⟩
  · exact ⟨hj, hlt.trans hq⟩

theorem depthBelow_le (rank : Nat → Nat) (t : Table) (q : Nat) (e : Expr) :
    size e + depthBelow rank t q ≤ depthBound t e := by
  have hfold : ∀ (f : Nat → Cell → Nat), (∀ n c, f n c = n + cellDepth (some c)) → ∀ (l : List Cell) n,
      l.foldl f n = n + ∑ j ∈ Finset.range l.length, cellDepth l[j]? := by
    intro f hf l
    induction l with
    | nil => exact fun n => rfl
    | cons c l ih =>
      intro n
      rw [foldl_cons, ih, hf, length_cons, Finset.sum_range_succ']
      simp [add_assoc, add_comm]
  have hle : depthBelow rank t q ≤ ∑ j ∈ Finset.range t.size, cellDepth t[j]? :=
    Finset.sum_le_sum_of_subset (Finset.filter_subset _ _)
  rw [depthBound, ← Array.foldl_toList, hfold _ fun n c => by cases c <;> simp [cellDepth, add_assoc]]
  simp only [Array.length_toList, Array.getElem?_toList]
  omega

theorem children_resolveTo {e : Expr} (hs : Whole e) (t : Table) (n : Nat) :
    (resolveTo t (n + 1) e).children = e.children.map (resolveTo t n) := by
  cases e with
  | shared k => exact absurd rfl (hs k)
  | _ => simp [resolveTo, mapPartsM, children]

theorem join_resolveTo {V : Type} (m : Algebra V) {e : Expr} (hs : Whole e) (t : Table) (n : Nat) (vs : List V) :
    m.join (resolveTo t (n + 1) e) vs = m.join e vs := by
  cases e with
  | shared k => exact absurd rfl (hs k)
  | call g as ks => cases ks <;> cases vs <;> simp [resolveTo, mapPartsM, Algebra.join]
  | _ => rcases vs with _ | ⟨x, _ | ⟨y, _ | ⟨z, _ | _⟩⟩⟩ <;> rfl

namespace Algebra

variable {V : Type} {m : Algebra V} {w : Sense V} {t : Table} {e : Expr} {v : V} {i n q : Nat}

/-- **A resolved term has the value of the term with numbers.** -/
theorem Holds.value_resolveTo (ht : m.Holds w t) (he : m.Full w e v i) (hi : i < q ∨ i ≤ q ∧ Whole e)
    (hn : size e + depthBelow w.rank t q ≤ n) : m.value (resolveTo t n e) = some v := by
  induction n generalizing e v i q with
  | zero =>
    rw [size_eq] at hn
    omega
  | succ n ih =>
    by_cases hs : Whole e
    · obtain ⟨vs, j, hvs, hv, hj⟩ := he.exists_parts hs
      refine value_of_join ?_ ((join_resolveTo m hs t n vs).trans hv)
      rw [children_resolveTo hs, map_map]
      have hpart : ∀ c ∈ e.children, ∀ v, m.Full w c v j → m.value (resolveTo t n c) = some v := by
        intro c hc v h
        have := size_lt_of_mem hc
        have := levels_pos hc vs.length
        exact ih h (q := q) (.inl (by omega)) (by omega)
      have hall : ∀ {cs : List Expr} {vs : List V}, (∀ c ∈ cs, c ∈ e.children) → Forall₂ (m.Full w · · j) cs vs →
          cs.map (m.value ∘ resolveTo t n) = vs.map some := by
        intro cs vs hsub h
        induction h with
        | nil => rfl
        | cons h _ ih =>
          obtain ⟨hc, hsub⟩ := forall_mem_cons.mp hsub
          exact congrArg₂ cons (hpart _ hc _ h) (ih hsub)
      exact hall (fun _ h => h) hvs
    · obtain ⟨k, rfl⟩ := not_forall_not.mp hs
      obtain ⟨j, hk, hj⟩ : ∃ j, w k = some (v, j) ∧ j ≤ i := by
        cases he with
        | shared hk hi => exact ⟨_, hk, hi⟩
        | parts hs => exact absurd rfl (hs k)
      obtain ⟨c, hc, hcs, hfull⟩ := ht k v j hk
      have hlt : j < q := by
        rcases hi with hi | hi
        · omega
        · exact absurd hi.2 hs
      have hrank : w.rank k = j := by rw [Sense.rank, hk]; rfl
      have hdeep := depthBelow_entry w.rank (ht.lt_size hk) (hrank.trans_lt hlt)
      rw [hrank, hc, cellDepth] at hdeep
      rw [resolveTo, hc]
      refine ih hfull (q := j) (.inr ⟨le_rfl, hcs⟩) ?_
      have : size (.shared k) = 1 := rfl
      omega

theorem full_of_strict {e : Expr} {v : V} (h : m.strict e = some v) : ∃ i, m.Full (fun _ => none) e v i := by
  rw [strict] at h
  obtain ⟨vs, hvs, hv⟩ := Option.bind_eq_some_iff.mp h
  have hall : ∀ (cs : List { c // c ∈ e.children }) {vs}, cs.mapM (fun c => m.strict c.1) = some vs →
      ∃ i, Forall₂ (m.Full (fun _ => none) · · i) (cs.map Subtype.val) vs := by
    intro cs
    induction cs with
    | nil =>
      intro vs h
      obtain rfl := Option.some.inj h
      exact ⟨0, .nil⟩
    | cons c cs ih =>
      intro vs h
      simp only [mapM_cons, Option.bind_eq_bind, Option.bind_eq_some_iff, Option.pure_def, Option.some.injEq] at h
      obtain ⟨v, hc, vs, hcs, rfl⟩ := h
      obtain ⟨i, hc⟩ := full_of_strict hc
      obtain ⟨j, hcs⟩ := ih hcs
      exact ⟨max i j, .cons (hc.mono (le_max_left i j)) (hcs.imp fun _ _ h => h.mono (le_max_right i j))⟩
  obtain ⟨i, hparts⟩ := hall _ hvs
  rw [attach_map_subtype_val] at hparts
  refine ⟨_, .of_parts ?_ hparts hv le_rfl⟩
  rintro k rfl
  cases vs <;> cases hv
termination_by size e
decreasing_by exact size_lt_of_mem c.2

/-- The term of a run stands for a value, whatever parts it shares. -/
def Stands (m : Algebra V) (v : V) (s : Shared) : Prop := ∃ w n, m.Holds w s.table ∧ m.Full w s.term v n

theorem Stands.runAll (h : m.Stands v s) {ps : List Rule} (hps : ∀ p ∈ ps, m.Faithful p) :
    m.Stands v (runAll ps s) := by
  unfold Pass.runAll
  induction ps generalizing s with
  | nil => exact h
  | cons p ps ih =>
    obtain ⟨hp, hps⟩ := forall_mem_cons.mp hps
    obtain ⟨w, n, ht, he⟩ := h
    obtain ⟨w', _, ht', he'⟩ := hp.visit _ ht he
    exact ih ⟨w', n, ht', he'⟩ hps

theorem Stands.resolved (h : m.Stands v s) : m.value s.resolved = some v := by
  obtain ⟨w, n, ht, he⟩ := h
  exact ht.value_resolveTo he (.inl (Nat.lt_succ_self n)) (depthBelow_le _ _ _ _)

end Algebra

/-- **Operators as calls have the value of the operators.** If an expression of names, whole numbers, operators,
    comparisons, connectives, conditionals and calls can be evaluated with all its parts, and the functions do what the
    operators do, then what the three rules make of it has the value of the expression. -/
theorem value_operatorCalls {V : Type} (m : Algebra V) (hm : m.Standard) (e : Expr) (v : V)
    (he : m.strict e = some v) : m.value e = some v ∧
      m.value (runAll [operators, connectives, conditionals] { term := e }).resolved = some v := by
  obtain ⟨i, hfull⟩ := Algebra.full_of_strict he
  have hrules : ∀ p ∈ [operators, connectives, conditionals], m.Faithful p := by
    simpa using ⟨Algebra.faithful_operators hm, Algebra.faithful_connectives hm, Algebra.faithful_conditionals hm⟩
  have hstart : m.Stands v { term := e } := ⟨fun _ => none, i, nofun, hfull⟩
  refine ⟨?_, (hstart.runAll hrules).resolved⟩
  rw [← hstart.resolved]
  exact congrArg m.value (resolveTo_empty _ e).symm

/-- Two truth values and a third value, with which comparison and arithmetic fail. -/
def threeValues : Algebra (Option Bool) where
  name x := some (if x == "andOp" then some true else if x == "orOp" || x == "c" then none else some false)
  whole i := some (i != 0)
  binary _ x y := do return some ((← x) || (← y))
  compare _ x y := do return some ((← x) || (← y))
  truth x := x == some true
  apply
    | some false, [x, y] => do return some ((← x) || (← y))
    | g, [x, y] => some (if (x == some true) = g.isSome then y else x)
    | _, [c, x, y] => some (if c == some true then x else y)
    | _, _ => none

theorem standard_threeValues : threeValues.Standard where
  arithmetic {o f} h := ⟨some false, by cases o <;> cases h <;> decide, fun _ _ => rfl⟩
  comparison o := ⟨some false, by cases o <;> decide, fun _ _ => rfl⟩
  connective o := ⟨if o == .and then some true else none, by cases o <;> decide, by cases o <;> decide⟩
  conditional := ⟨some false, by decide, fun _ _ _ => rfl⟩

/-- The chain `a < b + 1 < d`, whose middle part is shared. -/
theorem value_operatorCalls_chain : threeValues.value (runAll [operators, connectives, conditionals]
    { term := .compare (.name "a") [.lt, .lt] [.binOp (.name "b") .add (.const (.int 1)), .name "d"] }).resolved =
      some (some true) :=
  (value_operatorCalls threeValues standard_threeValues _ _ (by simp [Algebra.strict_eq, children]; decide)).2

/-- The chain `a < b < c`, of which only `a < b` is evaluated because it does not hold. As a call, `b < c` is evaluated
    too and fails. -/
theorem value_operatorCalls_skipped : threeValues.Standard ∧ (∀ x, (threeValues.name x).isSome) ∧
    threeValues.value (.compare (.name "a") [.lt, .lt] [.name "b", .name "c"]) = some (some false) ∧
    threeValues.value (runAll [operators, connectives, conditionals]
      { term := .compare (.name "a") [.lt, .lt] [.name "b", .name "c"] }).resolved = none :=
  ⟨standard_threeValues, fun _ => rfl, by decide, by decide⟩

end PuzzlePrograms.Pass
