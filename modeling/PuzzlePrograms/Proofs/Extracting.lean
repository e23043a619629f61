import Mathlib
import PuzzlePrograms.Script.Functions
import PuzzlePrograms.Proofs.Seeding
import PuzzlePrograms.Proofs.TreeText

/-!
# Cutting a source text into functions

A function reaches from its first line to the next line without indentation that begins a definition. Such a `Cut` is
given by the numbers of its lines; the cuts of a text lie one after the other, and no first line is lost between them or
inside one. Of the functions that are complete, the last of each name is what its file holds (`extract_cuts`).
-/

namespace PuzzlePrograms

open List Text Script

namespace Extraction

variable {line name : String} {lines : List String}

/-! ## 1. Lines -/

/-- The line is the first of a function of this name. -/
def Opens (line name : String) : Prop :=
  ∃ part rest : List Char, part ≠ [] ∧ (∀ c ∈ part, c.isDigit ∨ 'a' ≤ c ∧ c ≤ 'z') ∧
  line.toList = "def generate_".toList ++ part ++ "(diff_lb: float, diff_ub: float) -> dict:".toList ++ rest ∧
  name = "generate_" ++ .ofList part

/-- The characters that names of tasks are made of. -/
def isPart (c : Char) : Bool := c.isDigit || ('a' ≤ c && c ≤ 'z')

theorem nameOf?_append {cs : List Char} (h : line.toList = "def generate_".toList ++ cs) : nameOf? line =
    if !(cs.takeWhile isPart).isEmpty && signature.toList.isPrefixOf (cs.dropWhile isPart) then
      some ("generate_" ++ .ofList (cs.takeWhile isPart)) else none := by
  unfold nameOf?
  rw [h]
  rfl

theorem nameOf?_eq_some : nameOf? line = some name ↔ Opens line name := by
  have hpart : ∀ c, isPart c = true ↔ c.isDigit = true ∨ 'a' ≤ c ∧ c ≤ 'z' := fun c => by simp [isPart]
  constructor
  · intro h
    by_cases hstart : "def generate_".toList <+: line.toList
    · obtain ⟨cs, hcs⟩ := hstart
      rw [nameOf?_append hcs.symm] at h
      split at h
      · rename_i hcond
        obtain ⟨hne, hsig⟩ := Bool.and_eq_true_iff.mp hcond
        obtain ⟨rest, hrest⟩ := isPrefixOf_iff_prefix.mp hsig
        refine ⟨cs.takeWhile isPart, rest, by simpa using hne,
          fun c hc => (hpart c).mp (all_eq_true.mp all_takeWhile c hc), ?_,
          (Option.some.inj h).symm⟩
        rw [← hcs, append_assoc, append_assoc]
        exact congrArg _ ((congrArg _ hrest).trans takeWhile_append_dropWhile).symm
      · cases h
    · unfold nameOf? at h
      rw [if_neg (by simpa using hstart)] at h
      cases h
  · rintro ⟨part, rest, hne, hall, hline, rfl⟩
    have hall' : ∀ c ∈ part, isPart c = true := fun c hc => (hpart c).mpr (hall c hc)
    have hopen : "(diff_lb: float, diff_ub: float) -> dict:".toList = '(' :: signature.toList.tail := rfl
    have hstop : ¬isPart '(' = true := by decide
    rw [append_assoc, append_assoc, hopen, cons_append] at hline
    rw [nameOf?_append hline, takeWhile_append_of_pos hall', dropWhile_append_of_pos hall', takeWhile_cons_of_neg hstop,
      dropWhile_cons_of_neg hstop, append_nil, if_pos]
    refine Bool.and_eq_true_iff.mpr ⟨by simpa using hne, isPrefixOf_iff_prefix.mpr ⟨rest, rfl⟩⟩

theorem prefix_trimBlanks {x y : Char} (hx : isBlank x = false) (hy : isBlank y = false) (a b : List Char) :
    x :: (a ++ [y]) <+: trimBlanks (x :: (a ++ y :: b)) := by
  obtain ⟨z, hz⟩ : ∃ z, dropBlanks (x :: (a ++ y :: b)).reverse = z ++ y :: (a.reverse ++ [x]) := by
    rw [dropBlanks, reverse_cons, reverse_append, reverse_cons, append_assoc, append_assoc, dropWhile_append]
    split
    · exact ⟨[], by simp [hy]⟩
    · exact ⟨_, rfl⟩
  have htrim : trimBlanks (x :: (a ++ y :: b)) = x :: (a ++ [y]) ++ z.reverse := by
    rw [trimBlanks, show dropBlanks (x :: (a ++ y :: b)) = x :: (a ++ y :: b) by simp [dropBlanks, hx], hz]
    simp
  exact ⟨_, htrim.symm⟩

/-- A first line begins a definition. -/
theorem Opens.starts (h : Opens line name) : startsFunction line = true := by
  obtain ⟨part, rest, -, -, hline, -⟩ := h
  have hlong : line.toList = 'd' :: ("ef ".toList ++ 'g' :: line.toList.drop 5) := by rw [hline]; rfl
  have hd : isBlank 'd' = false := by decide
  have hprefix := prefix_trimBlanks hd (show isBlank 'g' = false by decide) "ef ".toList (line.toList.drop 5)
  rw [← hlong] at hprefix
  have htrim : (trim line).toList = trimBlanks line.toList := String.toList_ofList
  rw [startsFunction, Text.starts, htrim, Bool.and_eq_true, isPrefixOf_iff_prefix]
  exact ⟨by rw [hlong]; simp [hd], .trans ⟨['g'], rfl⟩ hprefix⟩

/-! ## 2. Cuts -/

theorem nameOf?_eq_none (h : startsFunction line = false) : nameOf? line = none :=
  Option.eq_none_iff_forall_ne_some.mpr fun _ hn => by simp [(nameOf?_eq_some.mp hn).starts] at h

/-- The functions that start on one of the lines. -/
def functions : List String → List Function
  | [] => []
  | line ::
      rest => ((nameOf? line).map fun name => { name, lines := line :: rest.takeWhile (!startsFunction ·) }).toList ++
    functions rest

theorem collect_eq (lines : List String) : collect none lines = functions lines ∧ ∀ f, collect (some f) lines =
    { f with lines := f.lines ++ lines.takeWhile (!startsFunction ·) } :: functions lines := by
  induction lines with
  | nil => simp [collect, functions]
  | cons line rest ih =>
    have hnext :
      collect ((nameOf? line).map fun name => { name, lines := [line] }) rest = functions (line :: rest) := by
      cases hn : nameOf? line with
      | none => simp [functions, hn, ih.1]
      | some name => simp [functions, hn, ih.2]
    refine ⟨hnext, fun f => ?_⟩
    rw [collect]
    cases hs : startsFunction line with
    | true => simp [hnext, hs]
    | false =>
      simp [ih.2, hs, functions, nameOf?_eq_none hs]

/-- A function that is cut from some lines: from its first line to before the next line that starts a function. -/
structure Cut (lines : List String) where
  start : Nat
  stop : Nat
  name : String
  opens : ∃ line, lines[start]? = some line ∧ Opens line name
  inside : start < stop ∧ stop ≤ lines.length
  within : ∀ i line, start < i → i < stop → lines[i]? = some line → startsFunction line = false
  ends : ∀ line, lines[stop]? = some line → startsFunction line = true

namespace Cut

def function (c : Cut lines) : Function := { name := c.name, lines := (lines.take c.stop).drop c.start }

theorem not_opens (c : Cut lines) {i : Nat} (hi : c.start < i) (hstop : i < c.stop) (hline : lines[i]? = some line) :
    ¬Opens line name := fun h => by simpa [h.starts] using c.within i line hi hstop hline

/-- A cut that starts later starts behind the end. -/
theorem stop_le (c d : Cut lines) (h : c.start < d.start) : c.stop ≤ d.start := by
  obtain ⟨line, hline, hopens⟩ := d.opens
  exact not_lt.mp fun hlt => c.not_opens h hlt hline hopens

end Cut

theorem exists_cut {before rest : List String} (h : lines = before ++ line :: rest) (hopens : Opens line name) :
    ∃ c : Cut lines, c.start = before.length ∧ c.name = name ∧ c.function =
    { name, lines := line :: rest.takeWhile (!startsFunction ·) } := by
  set inner := rest.takeWhile (!startsFunction ·) with hinner
  set tail := rest.dropWhile (!startsFunction ·) with htail
  have hlines : lines = before ++ [line] ++ (inner ++ tail) := by
    rw [h, hinner, htail, takeWhile_append_dropWhile, append_assoc, singleton_append]
  have hafter : ∀ k, lines[before.length + 1 + k]? = (inner ++ tail)[k]? := fun k => by
    rw [hlines, getElem?_append_right (by simp)]
    simp
  have htake : (lines.take (before.length + 1 + inner.length)).drop before.length = line :: inner := by
    rw [hlines, ← append_assoc, take_left' (by simp; omega), append_assoc, drop_left]
    rfl
  refine ⟨{ start := before.length, stop := before.length + 1 + inner.length, name, opens :=
    ⟨line, by simp [h], hopens⟩,
            inside := ⟨by omega, by simp [hlines]; omega⟩, within := fun i line' hi hstop hline' => ?_,
            ends := fun line' hline' => ?_ }, rfl, rfl, ?_⟩
  · obtain ⟨k, rfl⟩ := Nat.exists_eq_add_of_le (show before.length + 1 ≤ i from hi)
    rw [hafter, getElem?_append_left (by omega)] at hline'
    simpa using all_eq_true.mp all_takeWhile line' (mem_of_getElem? hline')
  · rw [hafter, getElem?_append_right le_rfl, Nat.sub_self, ← head?_eq_getElem?] at hline'
    have := head?_dropWhile_not (!startsFunction ·) rest
    rw [← htail, hline'] at this
    simpa using this
  · exact congrArg (Function.mk name) htake

theorem exists_cuts (before after : List String) (h : lines = before ++ after) :
    ∃ cuts : List (Cut lines), functions after = cuts.map Cut.function ∧ (∀ c ∈ cuts, before.length ≤ c.start) ∧
    cuts.Pairwise (fun c d => c.stop ≤ d.start) ∧ ∀ i line name, before.length ≤ i → lines[i]? = some line →
    Opens line name → ∃ c ∈ cuts, c.start = i ∧ c.name = name := by
  induction after generalizing before with
  | nil =>
    refine ⟨[], rfl, by simp, .nil, fun i line name hi hline => ?_⟩
    simp [h, hi] at hline
  | cons line rest ih =>
    obtain ⟨cuts, hcuts, hstart, hpair, hall⟩ := ih (before ++ [line]) (by simp [h])
    simp only [length_append, length_singleton] at hstart hall
    have hline : lines[before.length]? = some line := by simp [h]
    cases hn : nameOf? line with
    | none =>
      refine ⟨cuts, by simpa [functions, hn] using hcuts, fun c hc => Nat.le_of_succ_le (hstart c hc), hpair, ?_⟩
      intro i line' name hi hline' hopens
      refine hall i line' name (Nat.lt_of_le_of_ne hi fun heq => ?_) hline' hopens
      obtain rfl : line = line' := by simpa [← heq, hline] using hline'
      simp [nameOf?_eq_some.mpr hopens] at hn
    | some name =>
      obtain ⟨c, hcstart, hcname, hc⟩ := exists_cut h (nameOf?_eq_some.mp hn)
      refine ⟨c :: cuts, by simp [functions, hn, hc, hcuts], ?_, ?_, ?_⟩
      · exact forall_mem_cons.mpr ⟨hcstart.ge, fun d hd => Nat.le_of_succ_le (hstart d hd)⟩
      · exact pairwise_cons.mpr ⟨fun d hd => c.stop_le d (hcstart ▸ hstart d hd), hpair⟩
      · intro i line' name' hi hline' hopens
        rcases Nat.eq_or_lt_of_le hi with rfl | hlt
        · obtain rfl : line = line' := by simpa [hline] using hline'
          have hname : name' = name := by simpa [nameOf?_eq_some.mpr hopens] using hn
          exact ⟨c, by simp, hcstart, hcname.trans hname.symm⟩
        · obtain ⟨d, hd, hstart, hname⟩ := hall i line' name' hlt hline' hopens
          exact ⟨d, by simp [hd], hstart, hname⟩

/-! ## 3. Complete functions -/

theorem countChars_eq_zero {sub : List Char} (h : sub ≠ []) (cs : List Char) :
    countChars sub 0 cs = 0 ↔ ¬sub <:+: cs := by
  induction cs with
  | nil => simpa [countChars] using h
  | cons c cs ih =>
    rw [countChars, infix_cons_iff]
    split
    · rename_i hpre
      have hpre := isPrefixOf_iff_prefix.mp hpre
      simp [hpre]
    · rename_i hpre
      rw [ih, not_or, and_iff_right (mt isPrefixOf_iff_prefix.mpr hpre)]

theorem isIncomplete_eq (f : Function) : f.isIncomplete = decide ("...".toList <:+: f.text.toList) := by
  have hcount := countChars_eq_zero (show "...".toList ≠ [] by simp) f.text.toList
  rw [Bool.eq_iff_iff, decide_eq_true_iff]
  show (countChars "...".toList 0 f.text.toList != 0) = true ↔ _
  rw [bne_iff_ne, ne_eq, hcount, not_not]

/-! ## 4. The world after a function -/

variable {w : World} {place folder : Path}

theorem file?_put (w : World) (place p : Path) (text : String) :
    (w.put place text).file? p = if p = place then some text else w.file? p := by
  have hfilter :
    p ≠ place → ∀ files : List (Path × String), (files.filter (·.1 != place)).lookup p = files.lookup p := by
    intro hp files
    induction files with
    | nil => rfl
    | cons e files ih => grind
  rw [World.file?, World.put, lookup_cons]
  split_ifs with hp
  · simp [hp]
  · rw [beq_false_of_ne hp]
    exact hfilter hp w.files

/-- The world after a function has been saved or reported. -/
def leave (place : Path) (w : World) (f : Function) : World :=
  if f.isIncomplete then { w with printed := w.printed ++ skipped f ++ "\n" }
  else w.put (place ++ [f.name ++ ".py"]) f.text

theorem printed_leave (fs : List Function) (w : World) : (fs.foldl (leave place) w).printed =
    w.printed ++ .join ((fs.filter (·.isIncomplete)).map (skipped · ++ "\n")) := by
  induction fs generalizing w with
  | nil => simp
  | cons f fs ih =>
    rw [foldl_cons, ih, filter_cons, leave]
    cases f.isIncomplete with
    | false => simp [World.put]
    | true => simp [String.append_assoc, String.join_cons]

theorem file?_leave (fs : List Function) (w : World) (p : Path) : (fs.foldl (leave place) w).file? p =
    (((fs.filter (!·.isIncomplete)).filter fun f => p = place ++ [f.name ++ ".py"]).getLast?.map Function.text).or
      (w.file? p) := by
  induction fs using reverseRecOn with
  | nil => rfl
  | append_singleton fs f ih =>
    rw [foldl_concat, leave, filter_append, filter_append]
    cases hf : f.isIncomplete with
    | true =>
      show (fs.foldl (leave place) w).file? p = _
      rw [ih]
      simp [hf]
    | false =>
      rw [if_neg (by simp), file?_put, ih]
      by_cases hp : p = place ++ [f.name ++ ".py"] <;> simp [hf, hp]

/-! ## 5. The script -/

theorem split_slash {s : String} (h : '/' ∉ s.toList) : split s "/" = [s] := by
  have h := splitChars_plain h [] [] []
  rw [append_nil, append_nil, splitChars, reverse_reverse] at h
  exact (congrArg (map String.ofList) h).trans (by simp)

theorem Opens.path_eq (h : Opens line name) : Path.of (name ++ ".py") = [name ++ ".py"] ∧ name ++ ".py" ≠ ".." := by
  obtain ⟨part, rest, -, hall, -, rfl⟩ := h
  have hslash : '/' ∉ ("generate_" ++ String.ofList part ++ ".py").toList := by
    simp only [String.toList_append, String.toList_ofList, mem_append, not_or]
    refine ⟨⟨by decide, fun h => ?_⟩, by decide⟩
    simpa using hall '/' h
  have hhead : ("generate_" ++ String.ofList part ++ ".py").toList.head? = some 'g' := by simp
  have hne : ∀ t : String, t.toList.head? ≠ some 'g' → "generate_" ++ String.ofList part ++ ".py" ≠ t :=
    fun t ht heq => ht (heq ▸ hhead)
  refine ⟨?_, hne _ (by decide)⟩
  rw [Path.of, split_slash hslash, filter_cons_of_pos, filter_nil]
  simp only [Bool.and_eq_true, bne_iff_ne]
  exact ⟨hne _ (by decide), hne _ (by decide)⟩

/-- A world that has the folder and no folder where a file is to be written. -/
structure Ready (place : Path) (w : World) : Prop where
  folder : w.isFolder place = true
  free : ∀ name, w.isFolder (place ++ [name ++ ".py"]) = false

theorem Ready.leave (h : Ready place w) (f : Function) : Ready place (leave place w f) := by
  unfold Extraction.leave
  split
  · exact ⟨h.folder, h.free⟩
  · refine ⟨by simp [World.isFolder, World.put], fun name => ?_⟩
    have hfree := h.free name
    simp [World.isFolder, World.put] at hfree ⊢
    exact ⟨hfree.1, fun p text hp _ => hfree.2 p text hp⟩

theorem here_leave (place : Path) (w : World) (f : Function) : (leave place w f).here = w.here := by
  unfold leave
  split <;> rfl

theorem readText_run {source : Path} {raw : String} (h : w.file? (w.here.placeFrom source) = some raw) :
    readText source w = .ok (String.ofList (unifyLineEnds raw.toList)) w := by
  simp only [readText, readRaw, Script.place, Bind.bind, EStateM.bind, MonadState.get, getThe,
    MonadStateOf.get]
  unfold EStateM.get
  simp only [Pure.pure, EStateM.pure, h]

theorem bind_run {α β : Type} {x : Script α} {g : α → Script β} {a : α} {w w' : World} (h : x w = .ok a w') :
    (x >>= g) w = g a w' := by
  simp only [Bind.bind, EStateM.bind, h]

/-- One round of the loop. -/
theorem save_run {f : Function} (hready : Ready (w.here.placeFrom folder) w)
    (hpath : Path.of (f.name ++ ".py") = [f.name ++ ".py"] ∧ f.name ++ ".py" ≠ "..") :
    (if f.isIncomplete then do
        print (skipped f)
        pure (ForInStep.yield PUnit.unit)
      else do
        write (folder.child (f.name ++ ".py")) f.text
        pure (ForInStep.yield PUnit.unit) : Script _) w =
      .ok (.yield ⟨⟩) (leave (w.here.placeFrom folder) w f) := by
  have htarget : w.here.placeFrom (folder.child (f.name ++ ".py")) = w.here.placeFrom folder ++ [f.name ++ ".py"] := by
    rw [Path.child, hpath.1, Path.placeFrom, foldl_concat, Path.step, if_neg (by simpa using hpath.2)]
    rfl
  have hparent : Path.parent (w.here.placeFrom folder ++ [f.name ++ ".py"]) = w.here.placeFrom folder := dropLast_concat
  rw [leave]
  cases f.isIncomplete with
  | true => rfl
  | false =>
    simp only [Bool.false_eq_true, if_false, Bind.bind, EStateM.bind, write_run, htarget, hready.free, hparent,
      hready.folder, Bool.not_true]
    rfl

theorem saveAll_run {fs : List Function} (hready : Ready (w.here.placeFrom folder) w)
    (hpath : ∀ f ∈ fs, Path.of (f.name ++ ".py") = [f.name ++ ".py"] ∧ f.name ++ ".py" ≠ "..") :
    (do for f in fs do
          if f.isIncomplete then print (skipped f)
          else write (folder.child (f.name ++ ".py")) f.text : Script Unit) w =
      .ok () (fs.foldl (leave (w.here.placeFrom folder)) w) := by
  induction fs generalizing w with
  | nil => rfl
  | cons f fs ih =>
    obtain ⟨hf, hfs⟩ := forall_mem_cons.mp hpath
    have hrest := ih (w := leave (w.here.placeFrom folder) w f) (by rw [here_leave]; exact hready.leave f) hfs
    rw [here_leave] at hrest
    rw [foldl_cons, ← hrest, forIn_cons, bind_assoc]
    exact bind_run (save_run hready hf)

theorem makeFolders_ready {place : Path} (hplace : w.here.placeFrom folder = place) (hfile : w.file? place = none)
    (hfree : ∀ name, w.isFolder (place ++ [name ++ ".py"]) = false) : ∃ w', makeFolders folder w = .ok ⟨⟩ w' ∧
      Ready place w' ∧ w'.here = w.here ∧ w'.printed = w.printed ∧ ∀ p, w'.file? p = w.file? p := by
  rw [makeFolders_run, hplace, hfile, if_neg (by simp)]
  cases hfolder : w.isFolder place with
  | true => exact ⟨w, rfl, ⟨hfolder, hfree⟩, rfl, rfl, fun _ => rfl⟩
  | false =>
    refine ⟨_, rfl, ⟨by simp [World.isFolder], fun name => ?_⟩, rfl, rfl, fun _ => rfl⟩
    have hnot : ¬(place ++ [name ++ ".py"]).isPrefixOf place := fun h => by
      have hle := isPrefixOf_iff_prefix.mp h |>.length_le
      simp at hle
    have := hfree name
    simp only [World.isFolder, any_append, Bool.or_eq_false_iff] at this ⊢
    simpa [hnot] using this

/-- **What a script leaves that saves the functions of a text.** The functions are cut one after the other, each first
line starts one of them and none lies inside one. Those that are not complete are reported, in order, and each file
holds the last of the others that has its name, or else what it held before. -/
theorem extract_cuts {source : Path} {raw : String} (hsource : w.file? (w.here.placeFrom source) = some raw)
    (hfile : w.file? (w.here.placeFrom folder) = none)
    (hfree : ∀ name, w.isFolder (w.here.placeFrom folder ++ [name ++ ".py"]) = false) :
    let lines := split (String.ofList (unifyLineEnds raw.toList)) "\n"
    ∃ (cuts : List (Cut lines)) (w' : World), extract source folder w = .ok () w' ∧
      cuts.Pairwise (fun c d => c.stop ≤ d.start) ∧
      (∀ i line name, lines[i]? = some line → Opens line name → ∃ c ∈ cuts, c.start = i ∧ c.name = name) ∧
      (∀ c ∈ cuts, ∀ i line name, c.start < i → i < c.stop → lines[i]? = some line → ¬Opens line name) ∧
      w'.printed = w.printed ++
        String.join ((cuts.filter fun c => "...".toList <:+: c.function.text.toList).map fun c =>
        "Skipping incomplete function: " ++ c.name ++ "\n") ∧
      ∀ p, w'.file? p = (((cuts.filter fun c => ¬"...".toList <:+: c.function.text.toList).filter fun c =>
        p = w.here.placeFrom folder ++ [c.name ++ ".py"]).getLast?.map (·.function.text)).or (w.file? p) := by
  intro lines
  obtain ⟨cuts, hcuts, -, hpair, hall⟩ := exists_cuts [] lines (nil_append _).symm
  have hfound : functionsOf (String.ofList (unifyLineEnds raw.toList)) = cuts.map Cut.function :=
    (collect_eq _).1.trans hcuts
  obtain ⟨w₁, hmake, hready, hhere, hprinted, hfiles⟩ := makeFolders_ready rfl hfile hfree
  rw [← hhere] at hready hsource
  rw [← hfiles] at hsource
  have hpath : ∀ f ∈ cuts.map Cut.function, Path.of (f.name ++ ".py") = [f.name ++ ".py"] ∧ f.name ++ ".py" ≠ ".." :=
    forall_mem_map.mpr fun c _ => c.opens.choose_spec.2.path_eq
  have hrun : extract source folder w =
      .ok () ((cuts.map Cut.function).foldl (leave (w₁.here.placeFrom folder)) w₁) := by
    refine (bind_run hmake).trans ((bind_run (readText_run hsource)).trans ?_)
    rw [hfound]
    exact saveAll_run hready hpath
  refine ⟨cuts, _, hrun, hpair, fun i line name => hall i line name (Nat.zero_le i),
    fun c _ i line name hi hstop hline => c.not_opens hi hstop hline, ?_, fun p => ?_⟩
  · rw [printed_leave, hprinted, filter_map, map_map]
    simp only [Function.comp_def, isIncomplete_eq]
    rfl
  · rw [file?_leave, hfiles, hhere, filter_map, filter_map, getLast?_map, Option.map_map]
    simp only [Function.comp_def, isIncomplete_eq, ← decide_not]
    rfl

/-- A text with a function that is not complete and one that is. -/
def twoFunctions : String := "def generate_a(diff_lb: float, diff_ub: float) -> dict:\n    ...\n" ++
  "def generate_b(diff_lb: float, diff_ub: float) -> dict:\r\n    return 1"

/-- The second function starts on the third line, and the text is still there afterwards. -/
theorem extract_cuts_two :
    ∃ (cuts : List (Cut (split (String.ofList (unifyLineEnds twoFunctions.toList)) "\n"))) (w' : World),
      Script.extract ["all.py"] ["out"] { files := [(["all.py"], twoFunctions)] } = .ok () w' ∧
      (∃ c ∈ cuts, c.start = 2 ∧ c.name = "generate_b") ∧ w'.file? ["all.py"] = some twoFunctions := by
  obtain ⟨cuts, w', hrun, -, hall, -, -, hfiles⟩ := @extract_cuts { files := [(["all.py"], twoFunctions)] } ["out"]
    ["all.py"] twoFunctions rfl rfl fun name => by simp [World.isFolder, Path.placeFrom, Path.step]
  have hopens : Opens "def generate_b(diff_lb: float, diff_ub: float) -> dict:" "generate_b" :=
    ⟨['b'], [], by simp, by simp, by decide +kernel, rfl⟩
  have hline : (split (String.ofList (unifyLineEnds twoFunctions.toList)) "\n")[2]? =
      some "def generate_b(diff_lb: float, diff_ub: float) -> dict:" := by decide +kernel
  refine ⟨cuts, w', hrun, hall 2 _ _ hline hopens, ?_⟩
  rw [hfiles]
  simp [World.file?, Path.placeFrom, Path.step]

end Extraction

end PuzzlePrograms
