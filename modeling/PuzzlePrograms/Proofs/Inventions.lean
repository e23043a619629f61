import Mathlib
import PuzzlePrograms.Library.Invention
import PuzzlePrograms.Proofs.Named

/-!
# Names of inventions

`inventionsOf` names the inventions it adds by their place among the new ones, so an extension starts with the name
that the first invention of every library has.

* `names_inventionsOf`: the names of the inventions that are added;
* **`nodup_inventionsOf`**: names stay apart just if nothing is added or nothing was there.
-/

namespace PuzzlePrograms.Library

open List Conversion

variable {r : List Json}

def nameOf (e : Json) : Option Json := (e.item "name").toOption

/-- The name of the invention at a place. -/
def placeName (i : Nat) : Option Json := some (.str ("fn_" ++ toString i))

theorem placeName_injective : Function.Injective placeName := by
  intro i j h
  have h := congrArg String.toList (Json.str.inj (Option.some.inj h))
  rw [String.toList_append, String.toList_append, append_cancel_left_eq] at h
  exact Indexed.Named.toDigits_inj (by simpa using h)

theorem names_foldlM {F : List Json → String × Nat → Conversion (List Json)}
    (hF : ∀ known f k next, F known (f, k) = .ok next → ∃ e, next = known ++ [e] ∧ nameOf e = placeName k)
    {fs : List String} {k : Nat} {known : List Json} (h : (fs.zipIdx k).foldlM F known = .ok r) :
    r.map nameOf = known.map nameOf ++ (range' k fs.length).map placeName := by
  induction fs generalizing known k with
  | nil =>
    cases h
    simp
  | cons f fs ih =>
    rw [zipIdx_cons, foldlM_cons] at h
    obtain ⟨next, hnext, h⟩ := bind_eq_ok h
    obtain ⟨e, rfl, he⟩ := hF _ _ _ _ hnext
    simp [ih h, range'_succ, he]

theorem names_inventionsOf {forms : Json} {start? : Option (List Json)} (h : inventionsOf forms start? = .ok r) :
    ∃ n, r.map nameOf = (start?.getD []).map nameOf ++ (range n).map placeName := by
  obtain ⟨fs, -, h⟩ := bind_eq_ok h
  refine ⟨fs.length, range_eq_range' ▸ names_foldlM (fun known f k next hnext => ?_) h⟩
  obtain ⟨text, -, hnext⟩ := bind_eq_ok hnext
  dsimp only at hnext
  split at hnext
  · cases hnext
  · split at hnext
    · cases hnext
    · obtain ⟨⟨body, arity⟩, -, hnext⟩ := bind_eq_ok hnext
      obtain ⟨ordered, -, hnext⟩ := bind_eq_ok hnext
      cases hnext
      exact ⟨_, rfl, rfl⟩

/-- A library that `inventionsOf` has built, from nothing or on top of another. -/
inductive Built : List Json → Prop where
  | first {forms : Json} {r : List Json} (h : inventionsOf forms none = .ok r) : Built r
  | next {forms : Json} {s r : List Json} (hs : Built s) (h : inventionsOf forms (some s) = .ok r) : Built r

theorem Built.first_name {s : List Json} (h : Built s) (hne : s ≠ []) : placeName 0 ∈ s.map nameOf := by
  have added : ∀ (r : List Json) n, r ≠ [] → r.map nameOf = (range n).map placeName → placeName 0 ∈ r.map nameOf :=
    fun r n hr hn => by
    cases n with
    | zero => exact absurd (map_eq_nil_iff.mp hn) hr
    | succ n => exact hn ▸ mem_map_of_mem (mem_range.mpr n.succ_pos)
  induction h with
  | first h =>
    obtain ⟨n, hn⟩ := names_inventionsOf h
    exact added _ n hne hn
  | @next forms s r _ h ih =>
    obtain ⟨n, hn⟩ := names_inventionsOf h
    cases s with
    | nil => exact added _ n hne hn
    | cons e s => exact hn ▸ mem_append_left _ (ih (cons_ne_nil e s))

/-- **A library that is extended keeps its names apart just if nothing is added or nothing was there.** -/
theorem nodup_inventionsOf {forms : Json} {s r : List Json} (hs : Built s) (h : inventionsOf forms (some s) = .ok r) :
    (r.map nameOf).Nodup ↔ (s.map nameOf).Nodup ∧ (s = [] ∨ r.length = s.length) := by
  obtain ⟨n, hn⟩ := names_inventionsOf h
  have hlen : r.length = s.length + n := by simpa using congrArg length hn
  have hnew : ((range n).map placeName).Nodup := nodup_range.map placeName_injective
  rw [hn, nodup_append', hlen]
  refine ⟨fun ⟨hs', _, hd⟩ => ⟨hs', ?_⟩, fun ⟨hs', h⟩ => ⟨hs', hnew, ?_⟩⟩
  · by_cases he : s = []
    · exact .inl he
    · cases n with
      | zero => exact .inr rfl
      | succ n => exact absurd (mem_map_of_mem (mem_range.mpr n.succ_pos)) (hd (hs.first_name he))
  · rcases h with rfl | h
    · simp
    · obtain rfl : n = 0 := by omega
      simp

/-- Two inventions that become one primitive, since the library is extended with the second. -/
theorem nodup_inventionsOf_clash : ∃ s r, inventionsOf (.arr [.str "#(lambda (f $0))"]) none = .ok s ∧
      inventionsOf (.arr [.str "#(lambda (g $0))"]) (some s) = .ok r ∧ ¬(r.map nameOf).Nodup ∧
      shortProgram "#(lambda (f $0))" r = .ok "fn_0" ∧ shortProgram "#(lambda (g $0))" r = .ok "fn_0" := by
  let run : Conversion (Nat × Nat × String × String) := do
    let s ← inventionsOf (.arr [.str "#(lambda (f $0))"]) none
    let r ← inventionsOf (.arr [.str "#(lambda (g $0))"]) (some s)
    return (s.length, r.length, ← shortProgram "#(lambda (f $0))" r, ← shortProgram "#(lambda (g $0))" r)
  have hrun : run.toOption = some (1, 2, "fn_0", "fn_0") := by decide +kernel
  cases h : run with
  | error e =>
    rw [h] at hrun
    cases hrun
  | ok a =>
    rw [h] at hrun
    obtain ⟨s, hs, h⟩ := bind_eq_ok h
    obtain ⟨r, hr, h⟩ := bind_eq_ok h
    obtain ⟨p, hp, h⟩ := bind_eq_ok h
    obtain ⟨q, hq, h⟩ := bind_eq_ok h
    cases h
    simp only [Except.toOption, Option.some.injEq, Prod.mk.injEq] at hrun
    obtain ⟨hsl, hrl, rfl, rfl⟩ := hrun
    refine ⟨s, r, hs, hr, fun hn => ?_, hp, hq⟩
    rcases ((nodup_inventionsOf (.first hs) hr).mp hn).2 with rfl | e
    · cases hsl
    · omega

end PuzzlePrograms.Library
