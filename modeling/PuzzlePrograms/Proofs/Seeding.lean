import PuzzlePrograms.Script.Datasets

/-!
# What the seed of a dataset decides

A dataset is written after the general source has been seeded, but recipes draw from the source of the session. This
file compares two runs that differ in the seed and in the state of the general source: `Blind` says that a script
neither reads the general source nor changes it, and a dataset is written by such a script once the seed has been given.
So the seed decides nothing about the examples (`generateDataset_reseeded`); only the state of the session does.
-/

namespace PuzzlePrograms

variable {α β : Type}

/-! ## 1. Worlds that differ in their general source -/

/-- The world with another general source. -/
def World.reseeded (w : World) (r : Random.Source) : World := { w with general := r }

namespace World

variable (w : World) (r : Random.Source)

@[simp] theorem here_reseeded : (w.reseeded r).here = w.here := rfl

@[simp] theorem session_reseeded : (w.reseeded r).session = w.session := rfl

@[simp] theorem file?_reseeded (p : Path) : (w.reseeded r).file? p = w.file? p := rfl

@[simp] theorem isFolder_reseeded (p : Path) : (w.reseeded r).isFolder p = w.isFolder p := rfl

@[simp] theorem put_reseeded (p : Path) (t : String) : (w.reseeded r).put p t = (w.put p t).reseeded r := rfl

end World

namespace Script

theorem makeFolders_run (p : Path) (w : World) : makeFolders p w =
    if (w.file? (w.here.placeFrom p)).isSome then .error .alreadyThere w else if !w.isFolder (w.here.placeFrom p)
    then .ok ⟨⟩ { w with folders := w.folders ++ [w.here.placeFrom p] } else .ok ⟨⟩ w := by
  simp only [makeFolders, place, Bind.bind, EStateM.bind, get, getThe, MonadStateOf.get]
  unfold EStateM.get
  simp only [Pure.pure, EStateM.pure]
  split
  · rfl
  · split <;> rfl

theorem write_run (p : Path) (t : String) (w : World) : write p t w =
    if w.isFolder (w.here.placeFrom p) then .error .isFolder w else if !w.isFolder (w.here.placeFrom p).parent
    then .error .noFile w else .ok ⟨⟩ (w.put (w.here.placeFrom p) t) := by
  simp only [write, place, Bind.bind, EStateM.bind, get, getThe, MonadStateOf.get]
  unfold EStateM.get
  simp only [Pure.pure, EStateM.pure]
  split
  · rfl
  · split <;> rfl

/-- What a script has come to, with another general source. -/
def outcomeReseeded (r : Random.Source) : EStateM.Result Problem World α → EStateM.Result Problem World α
  | .ok a w => .ok a (w.reseeded r)
  | .error p w => .error p (w.reseeded r)

/-- Started with another general source, the script does the same and keeps that source. -/
def Blind (x : Script α) : Prop := ∀ w r, x (w.reseeded r) = outcomeReseeded r (x w)

/-! ## 2. Scripts that do not look at the general source -/

namespace Blind

theorem pure (a : α) : Blind (.pure a) := fun _ _ => rfl

theorem throw (p : Problem) : Blind (throw p : Script α) := fun _ _ => rfl

theorem bind {x : Script α} {f : α → Script β} (hx : Blind x) (hf : ∀ a, Blind (f a)) : Blind (x >>= f) := by
  intro w r
  simp only [Bind.bind, EStateM.bind, hx w r]
  cases x w with
  | error p w' => rfl
  | ok a w' => exact hf a w' r

theorem makeFolders (p : Path) : Blind (makeFolders p) := by
  intro w r
  rw [makeFolders_run, makeFolders_run, World.here_reseeded, World.file?_reseeded, World.isFolder_reseeded]
  split
  · rfl
  · split <;> rfl

theorem write (p : Path) (t : String) : Blind (write p t) := by
  intro w r
  rw [write_run, write_run, World.here_reseeded, World.isFolder_reseeded, World.isFolder_reseeded, World.put_reseeded]
  split
  · rfl
  · split <;> rfl

theorem draw (x : Eval α) : Blind (.draw x) := by
  intro w r
  simp only [Script.draw, Bind.bind, EStateM.bind, get, getThe, MonadStateOf.get]
  unfold EStateM.get
  simp only [World.session_reseeded]
  cases x.run w.session <;> rfl

theorem forIn {f : α → β → Script (ForInStep β)} (hf : ∀ a b, Blind (f a b)) (xs : List α) (b : β) :
    Blind (forIn xs b f) := by
  induction xs generalizing b with
  | nil => exact pure b
  | cons x xs ih =>
    rw [List.forIn_cons]
    refine (hf x b).bind fun step => ?_
    cases step with
    | done b => exact pure b
    | yield b => exact ih b

end Blind

/-! ## 3. Datasets -/

theorem seedGeneral_bind {x : Script α} (hx : Blind x) (seed : Int) (w : World) :
    (do seedGeneral seed; x) w = outcomeReseeded (.ofNat seed.natAbs) (x w) := by
  generalize hr : Random.Source.ofNat seed.natAbs = r
  refine Eq.trans ?_ (hx w r)
  rw [← hr]
  rfl

theorem blind_writeDataset (folder : Path) (tasks : List String) (n : Nat) (lb ub : Value) :
    Blind (writeDataset folder tasks n lb ub) := by
  refine (Blind.makeFolders _).bind fun _ => Blind.bind (.forIn (fun key counted => ?_) _ _) fun _ =>
    (Blind.write _ _).bind fun _ => .pure _
  split
  · exact (Blind.draw _).bind fun g => (Blind.write _ _).bind fun _ => .pure _
  · exact .throw _

/-- Two runs that start with one session come to the same, whatever the seeds and the states of the general source: they
write the same files, print the same and end alike, and only the general source is left in the state that the seed
gives. -/
theorem generateDataset_reseeded (folder : Path) (tasks : List String) (n : Nat) (lb ub : Value) (seed seed' : Int)
    (w : World) (r : Random.Source) : generateDataset folder seed' tasks n lb ub (w.reseeded r) =
    outcomeReseeded (.ofNat seed'.natAbs) (generateDataset folder seed tasks n lb ub w) := by
  have hblind := blind_writeDataset folder tasks n lb ub
  unfold generateDataset
  rw [seedGeneral_bind hblind, seedGeneral_bind hblind, hblind]
  generalize Random.Source.ofNat seed.natAbs = r₁
  generalize Random.Source.ofNat seed'.natAbs = r₂
  cases writeDataset folder tasks n lb ub w <;> rfl

end Script

end PuzzlePrograms
