import PuzzlePrograms.Recipe.Words

/-!
# Names of variables in recipes, phrases and frames

The variables that recipes use, each called by its name. A phrase is a few commands that many recipes have in the same
way, as one command. A frame is what many recipes have around their own commands: how they start, or what they do to the
two grids at the end.
-/

namespace PuzzlePrograms.Recipe

/-! ## 1. Names -/

namespace Tasks

abbrev A := "A"
abbrev a := "a"
abbrev B := "B"
abbrev b := "b"
abbrev barcol := "barcol"
abbrev bd := "bd"
abbrev bgc := "bgc"
abbrev bounds := "bounds"
abbrev bx := "bx"
abbrev C := "C"
abbrev c := "c"
abbrev cands := "cands"
abbrev canv := "canv"
abbrev ccols := "ccols"
abbrev cells := "cells"
abbrev ch := "ch"
abbrev chos := "chos"
abbrev cij := "cij"
abbrev col := "col"
abbrev cola := "cola"
abbrev colb := "colb"
abbrev cols := "cols"
abbrev colsch := "colsch"
abbrev D := "D"
abbrev d := "d"
abbrev deva := "deva"
abbrev devb := "devb"
abbrev devrng := "devrng"
abbrev dns := "dns"
abbrev E := "E"
abbrev e := "e"
abbrev F := "F"
abbrev f := "f"
abbrev fn := "fn"
abbrev fullinds := "fullinds"
abbrev G := "G"
abbrev g := "g"
abbrev gi := "gi"
abbrev gi2 := "gi2"
abbrev gib := "gib"
abbrev go := "go"
abbrev H := "H"
abbrev h := "h"
abbrev i := "i"
abbrev ij := "ij"
abbrev inds := "inds"
abbrev indss := "indss"
abbrev J := "J"
abbrev j := "j"
abbrev k := "k"
abbrev kk := "kk"
abbrev L := "L"
abbrev l := "l"
abbrev loc := "loc"
abbrev li := "li"
abbrev loci2 := "loci2"
abbrev lj := "lj"
abbrev locj2 := "locj2"
abbrev m := "m"
abbrev maxtr := "maxtr"
abbrev maxtrials := "maxtrials"
abbrev mfs := "mfs"
abbrev mp := "mp"
abbrev N := "N"
abbrev n := "n"
abbrev nc := "nc"
abbrev nmfs := "nmfs"
abbrev num := "num"
abbrev numa := "numa"
abbrev numb := "numb"
abbrev numc := "numc"
abbrev o := "o"
abbrev obj := "obj"
abbrev objs := "objs"
abbrev oh := "oh"
abbrev ow := "ow"
abbrev p := "p"
abbrev q := "q"
abbrev r := "r"
abbrev rest := "rest"
abbrev rotf := "rotf"
abbrev s := "s"
abbrev shp := "shp"
abbrev sqc := "sqc"
abbrev subs := "subs"
abbrev succ := "succ"
abbrev t := "t"
abbrev tr := "tr"
abbrev u := "u"
abbrev v := "v"
abbrev w := "w"
abbrev x := "x"
abbrev y := "y"
abbrev z := "z"

-- The tables write a letter for each of the names that come most often.
abbrev I := gi
abbrev K := rest
abbrev M := shp
abbrev O := go
abbrev P := obj
abbrev Q := cands
abbrev R := cols
abbrev S := inds
abbrev T := col
abbrev U := bgc
abbrev V := bounds
abbrev W := lj
abbrev X := objs
abbrev Y := ccols
abbrev Z := loc

end Tasks

/-! ## 2. Phrases -/

open Tasks

namespace Expr

abbrev eachIf (a : Expr) (x : Pat) (s : Expr) (cs : List Expr) : Expr := .gather .list a [.mk x s cs]
abbrev collect (g : Gather) (a : Expr) (x : Pat) (s : Expr) : Expr := .gather g a [.mk x s []]
abbrev each := collect .list
abbrev pairs (a b : Expr) : Pat → Expr → Expr := .collect .set (.pair a b)
abbrev motley (cs : Expr) : Expr → Expr := .pairs (.any cs) (.arg ij) ij
abbrev mirrors : Expr := .tuple [.fn .identity, .fn .dmirror, .fn .cmirror, .fn .hmirror, .fn .vmirror]
abbrev draw (a n : Expr) : Expr := .sample (.seq a) n
abbrev span (a b : Expr) : Expr := .interval a b 1

instance : Singleton String Expr := ⟨fun x => .set [x]⟩

instance : Union Expr := ⟨.union⟩

instance : Inter Expr := ⟨.inter⟩

end Expr

namespace Stmt

abbrev pick (x : String) (s : Expr) : Stmt := .block [.any x s, .remove rest x s]

abbrev blank (x : String) : Stmt := .canvas x bgc h w
abbrev hues (n : String) (lo hi : Expr) (x : String) : Stmt := .block [.grade n lo hi, .sample x rest n]
abbrev rands (x : String) (lo hi : Expr) (y : String) (hj : Expr) : Stmt := .block [.rand x lo hi, .rand y lo hj]
abbrev openings (i j : Expr) : Stmt :=
  .seq subs (.sfilter indss (.lam [ij] (.and [.lt (.part ij 0) (h - i), .lt (.part ij 1) (w - j)])))
abbrev tryBox : Stmt :=
  .block [.openings oh ow,
    .when (.isEmpty subs) [.inc tr, .continue], .parts [li, lj] (.any subs),
    .frozen obj [.pair li lj, .pair (li + oh - 1) (lj + ow - 1)], .hull bd obj]

abbrev portion (d : String) (lo hi : Expr) (n : String) (all m k : Expr) : Stmt :=
  .block [.grade d lo hi, .any n (.pair d (all - d)), .min n (.max m n) k]

abbrev copy (x : String) (a : Expr) : Stmt := .tuples x (.arg e) e a
abbrev grades (x : String) (lo hi : Expr) (y : String) (hj : Expr) : Stmt := .block [.grade x lo hi, .grade y lo hj]

abbrev grow (x : String) (a p : Expr) : Stmt := .adjoin x (.one (.inter (a - x) p))

abbrev seek (x : String) (a : Expr) (y : String) (i j k l : Expr) : Stmt :=
  .block [.within x a (i - j) (k - l), .skip (.isEmpty x), .one y x]
abbrev tries (n : String) (lo hi k : Expr) : Stmt := .block [.grade n lo hi, .set succ 0, .set tr 0, .set maxtr (k * n)]
abbrev both (k p q : Expr) : Stmt := .block [.fill gi k p, .fill go k q]
abbrev trials (hi : Expr) : Stmt :=
  .block [.blank gi, .blank go, .grade num 1 hi, .plot indss gi, .set maxtrials (4 * num), .set tr 0, .set succ 0]
abbrev twoParts : Stmt :=
  .block [.grades n 0 (h * w / 2) u (h * w / 2), .any numa (.pair n (h * w - n)),
    .any numb (.pair n (h * w - u)), .min numa (.max 1 numa) (h * w - 1), .min numb (.max 1 numb) (h * w - 1),
    .sample a inds numa, .sample b inds numb]
abbrev attach : Stmt :=
  .block [.near dns (.locs obj), .one ch (.inter bx dns), .adjoin obj (.pair (.any rest) ch), .set bx (bx - .set [ch])]
abbrev sprawl : Stmt := .block [.set obj (.set [.pair (.any rest) (.one bx)]), .for kk (.range (nc - 1)) [.attach]]
abbrev kaleidoscope : Stmt :=
  .block [.sprawl, .laid gi canv obj,
    .sfilter tr (.whole (.dm gi)) (.lam [cij] (.ge (.index (.part cij 1) 1) (.index (.part cij 1) 0))),
    .paint gi tr, .hcat gi gi (.vm gi), .vcat gi gi (.hm gi)]
abbrev corner (i j : Expr) : Stmt := .rands li 0 (h - i) lj (w - j)
abbrev except (cs lo hi : Expr) : Stmt := .block [.diff cols .colors cs, .grades h lo hi w hi]
abbrev only (x : String) (a : Expr) (y : String) (p : Expr) : Stmt := .sfilter x a (.lam [y] p)
abbrev times (x : Pat) (n : Expr) (body : List Stmt) : Stmt := .for x (.range n) body
abbrev need (a : Expr) : Stmt := .quit (.isEmpty a)
abbrev tile : Stmt := .plot inds gi
abbrev scatter (x : String) : List Stmt :=
  [.grade num 1 (.max 1 (.len inds / numc)), .sample chos inds num, .fill x col chos, .diff inds inds chos]
abbrev sprinkle (x : String) (lo hi : Expr) : Stmt :=
  .block [.any bgc cols, .blank x, .remove rest bgc cols, .hues numc lo (.min 9 hi) colsch, .cells inds x,
    .for col colsch (scatter x)]
abbrev dot (x : String) (k i j : Expr) : Stmt := .fill x k (.set [.pair i j])
abbrev pose (n : Expr) : Stmt :=
  .block [.set shp (.set [ch]), .remove bounds ch bounds, .times j n [.grow shp bounds (.near shp)],
    .normalize shp shp, .dims oh ow shp, .corner oh ow, .pair loc li lj]
abbrev tint (ps : List Pat) (n : Expr) (x : String) : Stmt := .block [.samples ps cols n, .blank x]
abbrev pickTwo (x y : String) : Stmt := .block [.samples [x, y] cols 2, .remove rest x (.remove y cols)]
abbrev tryRect (lo hi hj : Expr) (x : String) : Stmt :=
  .block [.inc tr, .rands oh lo hi ow hj, .seek cands inds loc h oh w ow, .parts [li, lj] loc,
    .rect x li lj (li + oh - 1) (lj + ow - 1)]
abbrev few (n : String) (lo hi : Expr) (x : String) (s : Expr) : Stmt := .block [.grade n lo hi, .sample x s n]
abbrev set3 (x : String) (a : Expr) (y : String) (b : Expr) (z : String) (c : Expr) : Stmt :=
  .block [.set x a, .set y b, .set z c]
abbrev free (p : Expr) (body : List Stmt) : Stmt := .when (.sub p inds) body
abbrev hue (x : String) : Stmt := .any x rest
abbrev count (x : Pat) (es : List Expr) (body : List Stmt) : Stmt := .for x (.call .range es) body
abbrev scheme (n : String) (lo hi : Expr) : Stmt := .block [.pick bgc cols, .hues n lo hi ccols]
abbrev fill2 (x : String) (a p b q : Expr) : Stmt := .block [.fill x a p, .fill x b q]
abbrev land (a : Expr) (x : String) (p : Expr) : Stmt := .block [.one loc a, .shift x p loc]
abbrev either (x : String) (a b : Expr) : Stmt := .any x (.pair a b)
abbrev raise (n a p : Expr) : Stmt := .block [.times k n [.grow obj a p], .normalize obj obj, .dims oh ow obj]
abbrev parted (d : Expr) (x : String) (k : Expr) : Stmt := .block [.objects objs gi true d false, .colorfilter x objs k]
abbrev blanks : Stmt := .block [.blank gi, .blank go]
abbrev bg : Stmt := .pick bgc cols
abbrev allCols : Stmt := .set cols .colors
abbrev locate : Stmt := .pair loc li lj
abbrev needBoth : Stmt := .quit (.or [.isEmpty rest, .isEmpty indss])
abbrev seeking (n : Expr) (body : List Stmt) : Stmt := .while (.and [.lt succ n, .le tr maxtrials]) body
abbrev fewOf (n : String) (lo hi : Expr) (x : String) (s : Expr) : Stmt := .block [.grade n lo hi, .draw x s n]
abbrev seekBox : Stmt := .seek cands inds loc h oh w ow
abbrev avoid : Expr → Stmt := .diff cols .colors
abbrev nonzero : Stmt := .interval cols 1 10 1
abbrev ans : Expr → Expr → Stmt := .dyed go gi
abbrev fullInds : Stmt := .plot fullinds gi
abbrev boxes (s t : Stmt) : Stmt := .seeking num [.needBoth, s, .tryBox, .hue col, t, .inc tr]
abbrev strikes (x : String) (a b : Expr) : Stmt := .block [.remove x a x, .remove x b x]
abbrev aim (lo hi hj : Expr) : Stmt := .rands li lo hi lj hj
abbrev duo (x : Pat) : Stmt := .samples [bgc, x] cols 2
abbrev trio (x y : Pat) : Stmt := .samples [bgc, x, y] cols 3
abbrev stamp (k p : Expr) : Stmt := .both k p p
abbrev sizes (lo hi : Expr) : Stmt := .rands oh lo hi ow hi
abbrev share (d : String) (a : Expr) (x : String) : Stmt := .portion d 0 (a / 2) x a 1 (a - 1)
abbrev other (x : String) (a s : Expr) : Stmt := .any x (.remove a s)
abbrev ink (k p : Expr) : Stmt := .fill gi k p
abbrev dye (k p : Expr) : Stmt := .fill go k p
abbrev whenClear (body : List Stmt) : Stmt := .when (.sub bd indss) body
abbrev field : Stmt := .area bounds oh ow
abbrev split (x y : Pat) (s : Expr) : Stmt := .parts [x, y] (.any s)
abbrev rests : Stmt := .remove rest bgc cols
abbrev tone : Stmt := .any col ccols
abbrev during (cs : List Expr) (body : List Stmt) : Stmt := .while (.and cs) body
abbrev given (cs : List Expr) (body : List Stmt) : Stmt := .when (.and cs) body
abbrev room : Stmt := .within cands inds (h - oh) (w - ow)
abbrev keep : Stmt := .copy go gi
abbrev bare (x : String) (a b : Expr) : Stmt := .canvas x bgc a b
abbrev these (x : String) (es : List Expr) : Stmt := .set x (.set es)
abbrev boxed (body : List Stmt) : Stmt := .boxes (.sizes 3 7) (.whenClear (.remove rest col rest :: body))
abbrev fresh (a p : Expr) : Stmt := .dyed gi c a p
abbrev restore (k a b : Expr) : Stmt := .both k (.dots a k) (.dots b k)
abbrev besides (cs : List Expr) (lo : Expr) : Stmt := .except (.tuple cs) lo 30
abbrev needOne (a : Expr) (x : String) : Stmt := .block [.need a, .any x a]
abbrev rise (x : String) (lo hi : Expr) : Stmt := .grade x lo (.max lo hi)
abbrev extents : Stmt := .dims oh ow obj
abbrev paper : Stmt := .any bgc cols
abbrev add : Place → Expr → Stmt := adjoin
abbrev sheet : Stmt := .blank gi
abbrev tick : Stmt := .inc tr
abbrev alike (x y : String) (lo hi : Expr) : Stmt := .grades x lo hi y hi
abbrev maySwap (x y : String) : Stmt := .when .coin [.parts [x, y] (.pair y x)]
abbrev pull (x y : Pat) : Expr → Stmt := .parts [x, y]
abbrev calls (x : String) (f : Primitive) (es : List Expr) : Stmt := .set x (.call f es)
abbrev tint2 (x : Pat) : String → Stmt := .tint [bgc, x] 2
abbrev aimIn (a b : Expr) : Stmt := .aim 1 (h - a - 1) (w - b - 1)
abbrev forPair (x y : Pat) : Expr → List Stmt → Stmt := .for (.pair x y)
abbrev forZip (x y : Pat) (s t : Expr) : List Stmt → Stmt := .forPair x y (.zip s t)
abbrev items (x y : Pat) (s : Expr) : List Stmt → Stmt := .forPair x y (.enumerate s)

section Loops

variable (n : Expr) (body : List Stmt)

abbrev trying : Stmt := .while (.and [.lt succ n, .lt tr maxtr]) body
abbrev retry : Stmt := .while (.and [.lt tr maxtr, .lt succ n]) body
abbrev again : Stmt := .times k (n - 1) body
abbrev loop : Stmt := .times k n body
abbrev whenAny : Stmt := .when (.gt (.len n) 0) body
abbrev redo : Stmt := .while true body

end Loops

section Single

variable (a : Expr)

abbrev placed : Stmt := .block [.inc succ, .set inds a]
abbrev sides : Stmt := .grades h a 30 w 30
abbrev spots : Stmt := .cells inds a
abbrev gradesIn : Stmt := .block [.gradeIn h a, .gradeIn w a]
abbrev want : Stmt := .skip (.isEmpty a)
abbrev lay : Stmt := .paint gi a
abbrev put : Stmt := .paint go a
abbrev taken : Stmt := .block [.inc succ, .set indss a]
abbrev find : Stmt := .block [.need a, .one loc a]
abbrev inks : Stmt := .sample ccols rest a
abbrev leave : Stmt := .diff rest cols a
abbrev budget : Stmt := .set3 succ 0 tr 0 maxtr a
abbrev occupy : Stmt := .set inds (inds - a)
abbrev settle : Stmt := .placed (inds - a - .beside a)

end Single

section Variable

variable (x : String)

abbrev picks : Stmt := .block [.pick bgc cols, .pick x rest]
abbrev empty : Stmt := .set x (.call .set [])
abbrev seed : Stmt := .set x (.set [.one bounds])
abbrev clear : Stmt := .set x (.list [])
abbrev rectAt : Stmt := .rect x li lj (li + oh - 1) (lj + ow - 1)
abbrev frameAt : Stmt := .frame x li lj (li + oh - 1) (lj + ow - 1)
abbrev sprout : Stmt := .block [.one ij (.inter (bounds - x) (.near x)), .adjoin x ij]
abbrev norm : Stmt := .normalize x x

end Variable

section Named

variable (x : String) (a : Expr)

abbrev strike : Stmt := .remove x a x
abbrev swell : Stmt := .grow x a (.near x)
abbrev extend : Stmt := .grow x a (.beside x)
abbrev spray : Stmt := .sample x inds a
abbrev mottle : Stmt := .set x (.motley ccols a)
abbrev upTo : Stmt := .interval x 0 a 1
abbrev gradeBy : Stmt := .grade x 1 (h * w / a)
abbrev cut : Stmt := .diff x x a
abbrev among : Stmt := .only x inds ij a
abbrev roll : Stmt := .rand x 0 a
abbrev flat : Stmt := .canvas x a h w
abbrev tones : Stmt := .hues x 1 a ccols
abbrev rate : Stmt := .grade x 1 a
abbrev dim : Stmt := .grade x a 30
abbrev spare : Stmt := .remove x a .colors
abbrev bump : Stmt := .update ⟨x, [a]⟩ .add 1
abbrev lodge : Stmt := .shift x a loc
abbrev shun : Stmt := .set x (x - a - .near a)

end Named

end Stmt

end PuzzlePrograms.Recipe

/-! ## 3. Frames -/

namespace PuzzlePrograms.Recipe.Tasks

export Stmt (dyed rect)

export Expr
  (arg argmax ask beside box call center cmp coin collect color colorcount colors combine compose cond corners crop
  decrement dist div dnbrs drop each eachIf east enumerate eq fork gather gatherTable ge gt hray ht hupscale inbox
  increment int invert isEmpty isNone lam last lbind le len link list listOf ll low lr lt matcher mem mfilter mirrors
  motley mult nbrs ne near notMem occ pairs pal part pow product range rbind rim rot180 rot270 rotations shape slice
  sorted span spread sub subgrid symmetries tables take toivec tojvec toobject top trim tup ul un ur valmax valmin vray
  wd west zip)

abbrev vec : Expr → Expr → Expr := .pair
abbrev nth : Expr → Expr → Expr := .index
abbrev anyHue : Expr := .any rest
abbrev row : Expr := .part ij 0
abbrev column : Expr := .part ij 1
abbrev map : List Expr → Expr := .call .apply
abbrev placedAt (x : String) (s l : Expr) : Expr := eachIf (arg x) (.pair j x) (enumerate s) [mem (arg j) l]
abbrev those (a : Expr) (xs : List String) (p : Expr) : Expr := .sfilter a (.lam xs p)
abbrev ofHue (a k : Expr) : Expr := those a [cij] (eq (part cij 0) k)
abbrev back (a : Expr) : Expr := slice a none none (some .neg1)
abbrev mid (a i j : Expr) : Expr := slice a (some i) (some j) none
abbrev anyOf (s : Expr) (x : Pat) (n : Expr) : Expr := each (.any s) x (range n)
abbrev flips : Expr := .tuple [.fn .identity, .fn .dmirror, .fn .vmirror, .fn .cmirror, .fn .hmirror]
abbrev seen (k : Expr) : Expr := .dots gi k
abbrev cell (g i j : Expr) : Expr := nth (nth g i) j
abbrev slab (a b : Expr) : Expr := .canvas bgc (vec a b)
abbrev here : Expr := vec li lj
abbrev rays (d : Expr) : Expr := rbind (.fn .shoot) d
abbrev vbar (j n : Expr) : Expr := .line 0 j (n - 1) j
abbrev hbar (i n : Expr) : Expr := .line i 0 i (n - 1)
abbrev fits (p a : Expr) : Expr := sub (.shift p (arg ij)) a
abbrev copies (a n : Expr) : Expr := call .repeat [a, n]
abbrev shifter (p : Expr) : Expr := lbind (.fn .shift) p
abbrev inner : Expr := compose (.fn .flip) (rbind (.fn .bordering) gi)
abbrev vecs (a b c d : Expr) : Expr := .set [vec a b, vec c d]
abbrev idf : Expr := .fn .identity
abbrev m1 : Expr := .neg1
abbrev uniq : Expr → Expr := .setOf
abbrev has (a : Expr) : Expr := gt (len a) 0
abbrev sq (a : Expr) : Expr := vec a a
abbrev unit : Expr := sq 1
abbrev base : Expr := sq 0
abbrev south : Expr := vec 1 0
abbrev right : Expr := vec 0 1
abbrev spot (i j : Expr) : Expr := .set [vec i j]
abbrev trunc (a : Expr) : Expr := call .int [a]
abbrev tableOf (x : String) (a s : Expr) : Expr := gatherTable (arg x) a [.mk x s []]
abbrev rising (a b n : Expr) : Expr := sorted (.sample (span a b) n)
abbrev vseg (i j k : Expr) : Expr := .line i j k j
abbrev hseg (i j k : Expr) : Expr := .line i j i k

def sized (hmin hmax wmin wmax : Expr) (r : Recipe) : Recipe :=
  .set cols .colors :: .grade h hmin hmax :: .grade w wmin wmax :: r

def big (n : Expr) : Recipe → Recipe := sized n 30 n 30

def without (k hmin hmax wmin wmax : Expr) (r : Recipe) : Recipe :=
  .remove cols k .colors :: .grade h hmin hmax :: .grade w wmin wmax :: r

def sans (k n : Expr) : Recipe → Recipe := without k n 30 n 30

def speckled (source : Expr) (r : Recipe) : Recipe :=
  [.any bgc cols, .canvas gi bgc h w, .remove rest bgc cols, .grade numc 0 (.min 9 (h * w)), .sample colsch source numc,
   .cells inds gi, .for col colsch (Stmt.scatter gi)] ++ r

def twoPanels (k lo blank chosen : Expr) : Recipe :=
  [.remove cols k .colors, .grade h lo 30, .grade w lo 14, .set bgc 0, .remove rest bgc cols,
    .any barcol rest, .remove rest barcol rest, .any cola rest,
    .any colb rest, .canvas canv blank h w, .cells inds canv, .canvas "gbar" barcol h 1,
    .set mp (h * w / 2), .pair devrng 0 mp, .gradeIn deva devrng, .gradeIn devb devrng,
    .any "sgna" (.pair (.un .pos 1) .neg1),
    .any "sgnb" (.pair (.un .pos 1) .neg1), .set deva ("sgna" * deva),
    .set devb ("sgnb" * devb), .set numa (mp + deva), .set numb (mp + devb),
    .max numa (.min (h * w - 1) numa) 1, .max numb (.min (h * w - 1) numb) 1, .sample a inds numa,
    .sample b inds numb, .dyed "gia" canv cola a, .dyed gib canv colb b, .hcat gi (.hcat "gia" "gbar") gib,
    .dyed go canv k chosen]

def mirrored (r : Recipe) : Recipe := r ++ [.when .coin [.dm gi gi, .dm go go]]

def spun (r : Recipe) : Recipe := r ++ [.any rotf .rotations, .apply gi rotf, .apply go rotf]

def turned (r : Recipe) : Recipe :=
  r ++ [.set mfs .symmetries, .any nmfs (.pair 1 2), .for fn (.sample mfs nmfs) [.apply gi fn, .apply go fn]]

/-! ## 4. Passages that a few tasks share -/

open Stmt

def motleyCopies : Recipe :=
  big 8 [alike o B 2 5,plot V (.canvas 0 (vec o B)),seed M,grade nc 2 (len V-2),times j nc [one ij ((V-M)∩beside M),add
  M ij],norm M,picks d,dims oh ow M,corner oh ow,move s M li W,hues u 2 8 c,fset p (motley c s),.while (eq (call
  .numcolors [p]) 1) [fset p (motley c s)],normalize a p,sheet,lay p,keep,set g (div (h*w) (oh*ow)/2),max g 1 g,rate n
  g,set3 t 0 f 0 m (5*n),set i (.plot I-s-beside s),within i i (h-oh) (w-ow),during [lt t n,lt f m] [need i,land i L
  a,locs l L,ite (sub l i) [put L,ink d l,inc t,set i (i-l-beside l)] [inc f]]]

def bounce (x : String) : Stmt :=
  redo [plus s s (vec m1 d),when (.or [eq (nth s 1) (w-1),eq (nth s 1) 0]) [update d .mul m1],dyed G x l {s},quit (eq G
  x),set x G]

def zigzag : Recipe :=
  turned [grade w 2 10,dim h (w+1),tint2 l c,pair s (h-1) 0,fresh l {s},keep,set a true,set d 1,bounce O] ++ [copy g
  I,copy o O,rate n 4,when (gt n 1) [restore l (.hm g) (.hm o)],when (gt n 2) [restore l (.vm g) (.vm o)],when (gt n 3)
  [restore l (.hm (.vm g)) (.hm (.vm o))]]

def rowSpan (y : String) (a n : Expr) : Stmt :=
  .block [calls y .frozenset [],items x r a [when (gt (ask .count r [f]) 1) [set y (combine y (hseg x (ask .position r
  [f]) (m1+n-ask .position (back r) [f])))]]]

def spans (n : Expr) : Recipe :=
  [pair i 3 30,spare o n,gradesIn i,any U o,blank c,spots c,pair d 0 (.max 1 (h*w/4)),gradeIn num d,spray a num,other f
  U o,fresh f a,rowSpan e I w,dyed O c n e,rowSpan s (.dm I) h,dm O (.fill (.dm O) n s),dye f a]

def barred (t : Stmt) : Recipe :=
  mirrored (without 3 2 30 2 14 [picks l,pick o K,hue C,blank c,spots c,canvas d l h 1,twoParts,dyed A c o a,dyed B c C
  b,hcat I (.hcat A d) B,t,dyed O c 3 e])

def halved (t : Stmt) : Recipe :=
  mirrored (without 2 2 30 2 14 [picks o,hue l,blank c,spots c,twoParts,dyed A c o a,dyed B c l b,hcat I A B,t,dyed O c
  2 e])

def mandala : Stmt :=
  .block [grade h 3 15,set w h,bg,hues u 1 8 K,blank canv,rate nc (h*w),plot bx canv,kaleidoscope]

def hiddenBox (t : Stmt) (n : Expr) : Recipe :=
  spun [t,mandala,grades l 1 (2*h) o w,set li (2*h-l),set W (w-o),grade c li (2*h-1),grade j W (w-1),rect bd li W c
  j,set O (subgrid bd I),ink n bd]

def loneShape (n : Expr) : Recipe :=
  [set o colors,sides 3,any U o,other f U o,sheet,grades b 1 (.min n (h-1)) a (.min n (w-1)),plot V (.canvas 0 (vec b
  a)),these M [.one (corners V)],set mp (b*a/2),grade e 0 mp,either nc e (b*a-e),max nc 0 (.min (b*a-1) nc),times j nc
  [swell M V],norm M,rands d 0 (h-ht M) c (w-wd M),move s M d c,ink f s,dyed O (.canvas U (shape M)) f M]

def markedShape (r : List Stmt) : Recipe :=
  big 10 [grade j 2 (h*w/15),set3 tr 0 maxtr (4*j) d false,set succ 0,bg,sheet,tile,retry j [sizes 2 6,area bx oh
  ow,rand nc 3 (oh*ow),one e bx,strike bx e,set P {e},again nc [swell P bx],ite (un .not d) ([set d true,one D P,hue
  c,these B [vec c D]] ++ r) [hued P anyHue P],within l S (h-oh) (w-ow),tick,want l,land l L P,locs i L,free i [lay
  L,placed (S-i-near i)]]]

def plates (r : List Stmt) : Recipe :=
  mirrored (sized 10 30 4 30 [grade u 10 h,grade f 3 w,tint [U,J,o] 3 n,corner u f,locate,bare c u f,bare a u f,set B
  ((u/2-3)/2),line b (B+1) 0 (B+1) (f-1),cup b b (vecs (B+2) 0 (B+2) (f-1)),rect Q 0 1 (B-1) (f-2),loop 2 ([fill c o
  b,fill a o b,portion l 0 (B*(f-2)/2) e (B*(f-2)) 1 (B*(f-2)),fset cells (.draw Q e)] ++ r ++ [fill c J cells,fill a J
  (.move (.hm cells) (B+3) 0),hm c c,hm a a]),laid I n (.shift (.whole c) Z),laid O n (.shift (.whole a) Z)])

def pinwheel : Recipe :=
  [allCols,rate h 15,set w h,sprinkle I 0 (h*w),hcat g I (.rot90 I),hcat o (rot270 I) (rot180 I),vcat O g o]

def elbow (x y : Expr) : Recipe :=
  [grades l 1 (h-1) o (w-1),pair e l o,paper,blank g,fill g x {e},set g (rot180 g),set i (center (.dots g x)),pull n v
  i,grade r (n+1) (h-1),grade j (v+1) (w-1),pair f r j,fill g 2 {f},any rotf rotations,set I (.apply rotf [g]),pull a b
  (center (seen 2)),pull c d (center (seen x)),ans y (hseg a b d),dye y (vseg a d c),dot O 2 a b,dot O x c d]

def quartered (x y : Expr) : Recipe :=
  [grades oh 2 ((h-3)/2) ow ((w-3)/2),picks C,hue j,bare s oh ow,pair L (oh-1) (ow-1),fill s C {L},seq E (.remove L
  (.plot s)),few l 1 (.max 1 (trunc (div 2 3*oh*ow))) cells E,during [eq l x,eq (shape cells) (sq y)] [few l 1 (.max 1
  (trunc (div 2 3*oh*ow))) cells E],fill s j cells,set g s,vm a s,hm d s,vm e (.hm s),bare v oh 1,bare b 1 ow,canvas q C
  1 1,hcat t (.hcat g v) a,hcat o (.hcat d v) e,hcat m (.hcat b q) b,vcat f (.vcat t m) o,whole i f,blank canv,aim 0
  (h-2*oh-1) (w-2*ow-1),locate,laid O canv (.shift i Z),laid I canv (.shift (.whole s) Z),ink C (.dots O C)]

def smallShapes : Stmt :=
  .block [frozen b [.frozen [base,right],.frozen [base,south]],frozen c [.frozen [base,south,unit],.frozen
  [base,south,right],.frozen [unit,south,right],.frozen [unit,base,right],.move (.frozen [base,vec m1 0,south]) 1
  0,.move (.frozen [base,vec 0 m1,right]) 0 1]]

def strewn (m : Expr) (q : List Stmt) : Stmt :=
  .block [besides [1,2,3] 5,bg,hue f,blanks,plot r I,rate j (h*w/2/m),set maxtr 10,loop j [set n 0,split X T p,any P
  X,.while (lt n maxtr) (q ++ [land r o P,when (sub o r) [ink f o,dye T o,set r (r-o-beside o),.break],inc n])]]

def lattice : Stmt :=
  .block [allCols,alike oh ow 1 4,grades n 3 (31/(oh+1)) u (31/(ow+1)),duo l,leave (vec U l),tones o (.min 8
  (n*n/3)),set f (n*oh+n-1),set w (u*ow+u-1),canvas I l f w,plot g (slab oh ow),times a n [times b u [ink U (.move g
  (a*(oh+1)) (b*(ow+1)))]],keep]

def chains (a b : Expr) : Stmt :=
  .block [find S,rand m 1 4,draw d (dnbrs base) m,set succ 0,.for c d [pull x y c,clear r,count k [1,.max n u] [plus t Z
  (vec (k*x*(oh+1)) (k*y*(ow+1))),quit (notMem t S),push r t],skip (lt (len r) 2),rate i (len r-1),set p (nth r i),both
  T a b,inc succ]]

def legible : List Expr :=
  [ge (len (those g [r] (notMem s (arg r)))) 2,ge (len (those (.dm g) [r] (notMem s (arg r)))) 2]

def cutouts : Expr :=
  map [.fn .normalize,map [rbind (.fn .toobject) g,l]]

def holed (q : List Stmt) : Stmt :=
  .block [copy I O,set3 l (map [shifter i,L]) succ 0 tr 0,set maxtr (5*n),trying n ([tick,rands d 2 6 f 6,corner d
  f,rect t li W (li+d-1) (W+f-1),dyed g I s t] ++ q)]

def wornTiles : Stmt :=
  .block [gradeBy n 20,holed [when (mem o cutouts) [given legible [inc succ,set I g]]]]

def innerShape : Stmt :=
  .block [whole b O,area V (oh-2) (ow-2),seed o,rate e ((oh-2)*(ow-2)/2),again e [swell o V],.while (ne (shape o) (vec
  (oh-2) (ow-2))) [swell o V],fullInds,aim 0 (h-2*oh+2) (w-ow),move l b li W,locs L l,only r (fullinds-L) ij (.and [cmp
  (li+oh) [(.le,part ij 0),(.le,h-oh+2)],le column (w-ow+2)]),land r p o]

def strata (n a : Expr) : Stmt :=
  .block [blank c,pair e 0 (.max 0 (h*w/2-1)),gradeIn num e,grade f 0 (.min n num),spots c,spray g num,sample i K f,upTo
  l (len g),sample j l f,sheet,forZip T k i (back (sorted j)) [ink T (take g k)],objects X I false a true,merge r (call
  .sizefilter [X,1])]

def frames (m n : Expr) (r : List Stmt) : Stmt :=
  .block [gradeBy num m,tint2 f I,blank O,tile,frame bx 0 0 n n,hull bd bx,set3 maxtrials (4*num) succ 0 tr 0,during [lt
  succ num,lt tr maxtrials] [land S b bx,when (sub b (uniq S)) (r ++ [cut S (.shift bd Z),inc succ]),tick]]

def nodes (x y : Expr) : Stmt :=
  .block [empty l,count a [0,x,h+1] [count b [0,y,w+1] [add l (vec a b)]],tupleOf l l]

def meshed : Stmt :=
  .block [set f (h*H+H-1),set u (w*v+v-1),bare I f u,count i [h,f,h+1] [ink L (hray (vec i 0))],count j [w,u,w+1] [ink L
  (vray (vec 0 j))]]

def blob : Stmt :=
  .block [area B oh ow,one f B,set P {f},strike B f,portion l 0 (oh*ow/2) e (oh*ow) 0 (oh*ow-1),raise e B (near P),roll
  li (h-oh)]

def waves : Stmt :=
  .block [cup m P (.move P 0 p),roll a p,only d P cij (lt (nth (part cij 1) 1) a),cup f m d,roll q a,move f f 0 (un .neg
  q)]

def flipped : Stmt :=
  .block [set mfs (tup [idf,.fn .dmirror,.fn .cmirror,.fn .vmirror,.fn .hmirror]),either nmfs 1 2,.for fn (.sample mfs
  nmfs) [apply P fn,norm P],extents,seekBox]

def lone : Stmt :=
  .block [rate nc (h*w/2-1),bg,hue f,blank c,plot V c,one ch V,pose (nc-1),lodge l M,fresh f l]

def outward : Expr :=
  tup [vec base (sq m1),vec right (vec m1 1),vec south (vec 1 m1),sq unit]

def ring : Stmt :=
  .block [pair u d d,pair l (h*2-1-d) (w*2-1-d),set bx (box (.frozen [u,l])),ink i bx]

def someRows : Stmt :=
  .block [few n 1 h L (span 0 h),.while (sub (uniq L) (.set [0,h-1])) [sample L (span 0 h) n]]

def symmetric : Stmt :=
  .block [among r (ge column row),sample o R nc,fset t (collect .elements (vec (.any o) (arg ij)) ij r),cup t t (.dm
  t),laid g c t]

def linking : Stmt :=
  .block [colorfilter o (.objects I true false false) m,sfilter s o (fork (.fn .both) (rbind (.fn .adjacent) e) (rbind
  (.fn .adjacent) t))]

def arms : Stmt :=
  .block [either s p (.rand (p+3) (h-6)),rand a 3 (.min 8 (h-s-3)),.for g n [count u [s,s+a,1] [shoot L (vec u W) (vec 0
  g),both U L (L- .dots O 3)]],.for g n [count u [cond (gt s 0) (s+1) s,s+a-1,1] [shoot L (vec u (cond (eq g m1) (W+d-2)
  (W+1))) (vec 0 g),dye 3 L]]]

def toRow (x y : String) (k z : Expr) : Stmt :=
  .block [locs x (ofHue t k),set y (map [.fn .last,x]),given [eq (len y) (w-4),gt w 5] [strike y (.one y)],.for J y [any
  li (each row ij (those x [ij] (eq column J))),both k (spot li J) (spot z J)]]

def toColumn (x y : String) (k z : Expr) : Stmt :=
  .block [locs x (ofHue t k),set y (map [.fn .first,x]),given [eq (len y) (h-4),gt h 5] [strike y (.one y)],.for g y
  [any W (each column ij (those x [ij] (eq row g))),both k (spot g W) (spot g z)]]

def reaching (f : Expr) (x : String) (y z : Expr) : Stmt :=
  .for x (map [f,y]) [any T d,set "M" (matcher f x),sfilter subs y "M",both T subs z]

def jolted (x a b : String) : Stmt :=
  .block [grade a 0 (nth x 0-1),update ⟨x,[0]⟩ .sub a,update ⟨x,[1]⟩ .add a,grade b 0 (.min (nth x 1) (nth x
  2)-1),either b (un .pos b) (un .neg b),update ⟨x,[1]⟩ .add b,update ⟨x,[2]⟩ .sub b]

def patched (q r : List Stmt) : Recipe :=
  spun (big 10 ([grades p 2 (h/2-1) c (w/2-1),area i p c,duo s,remove K s R,hues numc 2 9 Y,fset o (motley Y i),blank
  O,empty L,times a (h/p+1) [times b (w/c+1) q]] ++ r))

end PuzzlePrograms.Recipe.Tasks
