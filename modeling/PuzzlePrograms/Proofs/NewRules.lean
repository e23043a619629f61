import Mathlib
import PuzzlePrograms.Library.Meaning
import PuzzlePrograms.Proofs.TreeText

/-!
# Rules for new primitives, found in two ways

`Transfer.take` puts the abstractions of a search into a grammar one after another: the type of each is found
from the rules so far, those for the abstractions before it included. `expandGrammar` finds the types of all
of them from the grammar alone.

* `lookups` are the names whose rules the type of a tree is found from;
* `older_inferTypes`: fewer rules give the same type if all these names have a rule, and no type otherwise;
* `expandGrammar_take`: so the two ways add the same rules exactly if each abstraction is made of names of the
  grammar, and one that uses another is refused by `expandGrammar`.
-/

namespace PuzzlePrograms.Library

open List Indexed Conversion

variable {α β : Type} {ws : List String} {w : String} {x y : Conversion α} {f : α → Conversion β}

/-! ## 1. What the type of a tree is found from -/

mutual

/-- The names that are looked up for the type of a tree. -/
def lookups (rules : Rules) : Tree → List String
  | .word w => if w.isEmpty || Text.starts w "y" then [] else [w]
  | .node (.word w :: args) =>
    if Text.starts w "lambda" then argumentLookups rules 1 args
    else w :: argumentLookups rules ((rules.lookup w).elim 0 (·.takes.length)) args
  | _ => []

/-- The same for the first so many arguments. -/
def argumentLookups (rules : Rules) : Nat → List Tree → List String
  | n + 1, t :: ts => lookups rules t ++ argumentLookups rules n ts
  | _, _ => []

end

/-- Whether each of some names has a rule. -/
def Rules.holdAll (rules : Rules) (ws : List String) : Bool := ws.all fun w => (rules.lookup w).isSome

theorem Rules.holdAll_append (rules : Rules) (ws vs : List String) :
    rules.holdAll (ws ++ vs) = (rules.holdAll ws && rules.holdAll vs) := all_append

section Older

variable {rules later : Rules}

/-- Fewer rules give the same if each name that is looked up has a rule, and nothing otherwise. -/
def Older (rules later : Rules) (ws : List String) {α : Type} (old new : Conversion α) : Prop :=
  (∀ w ∈ ws, rules.lookup w = none ∨ later.lookup w = rules.lookup w) → ∀ a, new = .ok a →
    old = if rules.holdAll ws then .ok a else fail .missingKey

theorem Older.nil : Older rules later [] x x := fun _ _ h => h

theorem Older.bind {vs : List String} {g : α → Conversion β} (hx : Older rules later ws x y)
    (hf : ∀ a, Older rules later vs (f a) (g a)) : Older rules later (ws ++ vs) (x >>= f) (y >>= g) := by
  intro hw b h
  obtain ⟨a, ha, hb⟩ := bind_eq_ok h
  have hold := hx (fun w hm => hw w (mem_append_left _ hm)) a ha
  have hrest := hf a (fun w hm => hw w (mem_append_right _ hm)) b hb
  rw [hold, Rules.holdAll_append]
  cases rules.holdAll ws with
  | false => rfl
  | true => exact hrest

theorem Older.map (hx : Older rules later ws x y) : Older rules later ws (x >>= f) (y >>= f) := by
  simpa using hx.bind fun _ => .nil

theorem Older.lookup {f g : Signature → Conversion α}
    (hf : ∀ s, rules.lookup w = some s → Older rules later ws (f s) (g s)) : Older rules later (w :: ws)
    ((rules.lookup w).elim (fail .missingKey) f) ((later.lookup w).elim (fail .missingKey) g) := by
  intro hw a h
  rw [Rules.holdAll, all_cons]
  cases hl : rules.lookup w with
  | none => rfl
  | some s =>
    rw [((hw w mem_cons_self).resolve_left (by simp [hl])).trans hl] at h
    exact hf s hl (fun v hv => hw v (mem_cons_of_mem w hv)) a h

theorem older_argumentTypes (ts : List Tree)
    (ih : ∀ t ∈ ts, ∀ k, Older rules later (lookups rules t) (inferTypes rules k t) (inferTypes later k t))
    (takes : List Json) (vars : VarTypes) : Older rules later (argumentLookups rules takes.length ts)
    (argumentTypes rules takes vars ts) (argumentTypes later takes vars ts) := by
  induction ts generalizing takes vars with
  | nil => cases takes <;> exact .nil
  | cons t ts iht =>
    cases takes with
    | nil => exact .nil
    | cons k ks =>
      exact (ih t mem_cons_self k).bind fun r => iht (fun u hu => ih u (mem_cons_of_mem t hu)) ks _

theorem inferTypes_word (h0 : ¬w.isEmpty) (hy : ¬Text.starts w "y") (rules : Rules) (known : Json) :
    inferTypes rules known (.word w) = (rules.lookup w).elim (fail .missingKey) fun s => pure (s.gives, []) := by
  rw [inferTypes, if_neg h0, if_neg hy]
  cases rules.lookup w <;> rfl

theorem inferTypes_call (h : ¬Text.starts w "lambda") (rules : Rules) (known : Json) (args : List Tree) :
    inferTypes rules known (.node (.word w :: args)) = (rules.lookup w).elim (fail .missingKey) fun s =>
      argumentTypes rules s.takes [] args >>= fun vars => pure (.arr [s.gives], vars) := by
  rw [inferTypes.eq_def]
  simp only [if_neg h]
  cases rules.lookup w <;> rfl

/-- **Types from fewer rules.** Names are looked up in one order, so the first one without a rule stops it. -/
theorem older_inferTypes (t : Tree) (known : Json) :
    Older rules later (lookups rules t) (inferTypes rules known t) (inferTypes later known t) := by
  induction t using Tree.byNodes generalizing known with
  | scalar x => exact .nil
  | word w =>
    rw [lookups]
    by_cases h0 : w.isEmpty
    · rw [if_pos (by simp [h0]), inferTypes, inferTypes, if_pos h0, if_pos h0]
      exact .nil
    by_cases hy : Text.starts w "y"
    · rw [if_pos (by simp [hy]), inferTypes, inferTypes, if_neg h0, if_pos hy, if_neg h0, if_pos hy]
      exact Older.nil
    · rw [if_neg (by simp [h0, hy]), inferTypes_word h0 hy, inferTypes_word h0 hy]
      exact Older.lookup fun s _ => Older.nil
  | node ts ih =>
    rcases ts with _ | ⟨w | x | us, args⟩
    · exact .nil
    · by_cases hw : Text.starts w "lambda"
      · rw [lookups, if_pos hw]
        rcases args with _ | ⟨b, _ | ⟨c, cs⟩⟩
        · simp only [inferTypes, if_pos hw]
          exact .nil
        · simp only [inferTypes, argumentLookups, append_nil, if_pos hw]
          exact (ih b (by simp) .null).map
        · simp only [inferTypes, if_pos hw]
          intro _ _ h
          cases h
      · rw [lookups, if_neg hw, inferTypes_call hw, inferTypes_call hw]
        refine .lookup fun s hs => .map ?_
        rw [hs]
        exact older_argumentTypes args (fun t ht => ih t (mem_cons_of_mem _ ht)) _ _
    all_goals exact .nil

/-! ## 2. The rule for one abstraction -/

/-- The names that are looked up for the type of an abstraction. -/
def references (rules : Rules) (expression : String) : List String :=
  (readCalls expression >>= Tree.applications).toOption.elim [] (lookups rules)

theorem older_ruleFor (name expression : String) : Older rules later (references rules expression)
    (ruleFor rules name expression) (ruleFor later name expression) := by
  unfold ruleFor references
  rw [← bind_assoc (readCalls expression) Tree.applications, ← bind_assoc (readCalls expression) Tree.applications]
  cases readCalls expression >>= Tree.applications with
  | error e => exact Older.nil
  | ok t => exact (older_inferTypes t .null).map

end Older

theorem Rules.lookup_put (rules : Rules) (name w : String) (sig : Signature) :
    (Rules.put name sig rules).lookup w = if w = name then some sig else rules.lookup w := by
  induction rules with
  | nil | cons => grind [Rules.put, lookup]

theorem primitiveName_placed (name : String) (args : List α) :
    primitiveName (placed name args) = primitiveName name := by
  have hstop :
    ∀ cs : List Char, (name.toList ++ '(' :: cs).takeWhile (· != '(') = name.toList.takeWhile (· != '(') := by
    intro cs
    rw [takeWhile_append]
    split_ifs with hall
    · have hall := takeWhile_prefix _ |>.eq_of_length hall
      simp [hall]
    · rfl
  cases args with
  | nil => simp [placed, String.join]
  | cons a args =>
    simp only [primitiveName, placed, map_cons, String.join_cons, String.toList_append]
    exact congrArg _ (hstop _)

theorem ruleFor_name {rules : Rules} {name expression shown : String} {gives : Json} {args : List Json}
    (h : ruleFor rules name expression = .ok (gives, shown, args)) : shown = placed name args := by
  obtain ⟨_, _, h⟩ := bind_eq_ok h
  obtain ⟨_, _, h⟩ := bind_eq_ok h
  obtain ⟨_, _, h⟩ := bind_eq_ok h
  obtain ⟨parts, _, h⟩ := bind_eq_ok h
  cases hl : parts.getLast? with
  | none => simp [hl, fail] at h
  | some result =>
    simp only [hl, pure, Except.pure, Except.ok.injEq, Prod.mk.injEq] at h
    rw [← h.2.1, h.2.2]

/-! ## 3. Abstractions one after another -/

/-- A rule in which a name without arguments has an empty list of them. -/
def AddedRule.plain (r : AddedRule) : AddedRule := { r with takes := some (r.takes.getD []) }

/-- The abstractions in `xs` are taken over in turn, while `expandGrammar` keeps to the rules at the start. The rules
    differ at new names only, those that `N` holds of. -/
theorem expandGrammar_foldlM {rules : Rules} {weight : Json} {N : String → Prop} {xs : List (String × String)}
    {acc taken : Taken} (hnew : ∀ x ∈ xs, N (primitiveName x.1)) (hrefs : ∀ x ∈ xs, ∀ w ∈ references rules x.2, N w →
      rules.lookup w = none) (hacc : ∀ w, ¬N w → acc.rules.lookup w = rules.lookup w)
    (h : xs.foldlM (fun acc x => acc.add x.1 x.2 weight) acc = .ok taken) : ∃ added, taken.added = acc.added ++ added ∧
    taken.expressions = acc.expressions ++ xs ∧ expandGrammar rules xs weight =
    if xs.all fun x => rules.holdAll (references rules x.2) then .ok (added.map .plain) else fail .missingKey := by
  induction xs generalizing acc with
  | nil =>
    cases h
    exact ⟨[], by simp, by simp, rfl⟩
  | cons x xs ih =>
    obtain ⟨name, e⟩ := x
    rw [foldlM_cons] at h
    obtain ⟨next, hnext, h⟩ := bind_eq_ok h
    obtain ⟨m, _, hnext⟩ := bind_eq_ok hnext
    obtain ⟨⟨gives, shown, args⟩, hrule, hnext⟩ := bind_eq_ok hnext
    have hnames : ∀ w ∈ references rules e, rules.lookup w = none ∨ acc.rules.lookup w = rules.lookup w := by
      intro w hw
      by_cases hn : N w
      · exact .inl (hrefs _ mem_cons_self w hw hn)
      · exact .inr (hacc w hn)
    have hold := older_ruleFor name e hnames _ hrule
    have hkept : ∀ w, ¬N w → next.rules.lookup w = rules.lookup w := by
      intro w hw
      have hne : w ≠ primitiveName shown := by
        rw [ruleFor_name hrule, primitiveName_placed]
        rintro rfl
        exact hw (hnew _ mem_cons_self)
      cases hnext
      rw [Rules.lookup_put, if_neg hne, hacc w hw]
    obtain ⟨added, hadded, hexprs, hrest⟩ := ih (fun y hy => hnew y (mem_cons_of_mem _ hy))
      (fun y hy => hrefs y (mem_cons_of_mem _ hy)) hkept h
    cases hnext
    refine ⟨⟨gives, shown, if args.isEmpty then none else some args, weight⟩ ::
      added, by simp [hadded], by simp [hexprs], ?_⟩
    rw [expandGrammar] at hrest ⊢
    rw [mapM_cons, hrest, all_cons]
    simp only [hold]
    cases rules.holdAll (references rules e) with
    | false => rfl
    | true =>
      cases xs.all fun x => rules.holdAll (references rules x.2) with
      | false => rfl
      | true => cases args <;> rfl

/-- **Both ways add the same rules if every abstraction is made of names of the grammar.** If one uses another, which
    the grammar does not know, `expandGrammar` finds no rule for that name. -/
theorem expandGrammar_take {t : Transfer} {rules : Rules} {c : Compression} {es : List String} {taken : Taken}
    (h : t.take rules c = .ok (es, taken)) (hrefs : ∀ e ∈ es, ∀ w ∈ references rules e, ∀ i < es.length, w =
      primitiveName (t.baseName ++ toString i) → rules.lookup w = none) :
    expandGrammar rules taken.expressions t.weight = if es.all fun e =>
    rules.holdAll (references rules e) then .ok (taken.added.map AddedRule.plain) else fail .missingKey := by
  obtain ⟨_, _, h⟩ := bind_eq_ok h
  obtain ⟨_, htaken, h⟩ := bind_eq_ok h
  cases h
  let xs := es.zipIdx.map fun p => (t.baseName ++ toString p.2, p.1)
  have hxs : ∀ x ∈ xs, x.2 ∈ es ∧ ∃ i < es.length, x.1 = t.baseName ++ toString i := by
    intro x hx
    obtain ⟨⟨e, i⟩, hmem, rfl⟩ := mem_map.mp hx
    obtain ⟨hi, he⟩ := mem_zipIdx' hmem
    exact ⟨he ▸ getElem_mem hi, i, hi, rfl⟩
  have hfold : xs.foldlM (fun (acc : Taken) x => acc.add x.1 x.2 t.weight) { rules } = .ok taken := by
    rw [foldlM_map]
    exact htaken
  have hall :
    (xs.all fun x => rules.holdAll (references rules x.2)) = es.all fun e => rules.holdAll (references rules e) := by
    conv_rhs => rw [← zipIdx_map_fst 0 es]
    rw [all_map, all_map]
    rfl
  obtain ⟨added, hadded, hexprs, hexpand⟩ := expandGrammar_foldlM
    (N := fun w => ∃ i < es.length, w = primitiveName (t.baseName ++ toString i))
    (fun x hx => (hxs x hx).2.imp fun i hi => ⟨hi.1, by rw [hi.2]⟩)
    (fun x hx w hw hnew => hnew.elim fun i hi => hrefs x.2 (hxs x hx).1 w hw i hi.1 hi.2) (fun _ _ => rfl) hfold
  rw [hexprs, nil_append, hexpand, hall, hadded, nil_append]

/-- Two rules, and two abstractions of which the second uses the first. -/
def negationRules : Rules :=
  [("neg_", ⟨.str "BOOL", [.str "BOOL"]⟩), ("subset_", ⟨.str "BOOL", [.str "SET", .str "SET"]⟩)]

def nestedNegations : Compression where
  abstractions := [⟨"fn__0", "(neg_ (subset_ #0 #1))", 2⟩, ⟨"fn__1", "(neg_ (fn__0 #0 #0))", 1⟩]
  programs := .arr []
  json := .null

theorem expandGrammar_take_nested :
    let es := ["lambda y0: lambda y1: neg_(subset_(y0)(y1))", "lambda y0: neg_(fn__0(y0)(y0))"]
    ∃ taken, Transfer.take {} negationRules nestedNegations = .ok (es, taken) ∧
      expandGrammar negationRules taken.expressions (.int 1) = fail .missingKey := by
  intro es
  have hes : (Transfer.take {} negationRules nestedNegations).toOption.map (·.1) = some es := by decide +kernel
  have hrefs : ∀ e ∈ es, ∀ w ∈ references negationRules e, ∀ i < es.length,
      w = primitiveName (Transfer.baseName {} ++ toString i) → (negationRules.lookup w).isNone := by decide +kernel
  have hall : ¬(es.all fun e => negationRules.holdAll (references negationRules e)) := by decide +kernel
  cases htake : Transfer.take {} negationRules nestedNegations with
  | error e =>
    rw [htake] at hes
    cases hes
  | ok r =>
    obtain ⟨es', taken⟩ := r
    have he : es' = es := by simpa [htake, Except.toOption] using hes
    subst he
    have h := expandGrammar_take htake fun e he w hw i hi hn => Option.isNone_iff_eq_none.mp (hrefs e he w hw i hi hn)
    rw [if_neg hall] at h
    exact ⟨taken, rfl, h⟩

end PuzzlePrograms.Library
