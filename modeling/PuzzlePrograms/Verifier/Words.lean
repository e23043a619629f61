import PuzzlePrograms.Verifier.Basic

/-!
# How steps are written in verifiers

A step is written with the name of its primitive, and so is a primitive that is an operand. A numeral
counts results back: `mapply delta 1` calls `mapply` on the primitive `delta` and on the result before the last one. The
last operands may be left out: they are the last results in their order. A truth value stands for itself.
-/

namespace PuzzlePrograms.Verifier

instance (n : Nat) : OfNat Operand n := ⟨.x n⟩

instance : Coe Bool Operand := ⟨.bool⟩

instance : Coe Primitive Operand := ⟨.fn⟩

instance (n : Nat) : OfNat (Option Operand) n := ⟨some (.x n)⟩

/-! ## 1. Steps -/

def params (p : Primitive) : Nat :=
  match p.rule with
  | .fixed n | .curried n => n
  | .free => 0

@[reducible] def Step.of (p : Primitive) (a b c d : Option Operand := none) : Step :=
  let given := [a, b, c, d].reduceOption
  .call p (given ++ (List.range (params p - given.length)).reverse.map .x)

instance : CoeFun Primitive fun _ => (a b c d : Option Operand := none) → Step := ⟨@Step.of⟩

instance : Coe Primitive Step := ⟨fun p => .of p⟩

abbrev Step.insert (a : Operand) (b : Operand := 0) : Step := .of .insert a b

/-! ## 2. The grid, small numbers and directions -/

namespace Tasks

abbrev I : Operand := .grid
abbrev T : Operand := .bool true
abbrev F : Operand := .bool false
abbrev zero : Operand := .int 0
abbrev one : Operand := .int 1
abbrev two : Operand := .int 2
abbrev three : Operand := .int 3
abbrev four : Operand := .int 4
abbrev five : Operand := .int 5
abbrev six : Operand := .int 6
abbrev seven : Operand := .int 7
abbrev eight : Operand := .int 8
abbrev nine : Operand := .int 9
abbrev ten : Operand := .int 10
abbrev neg1 : Operand := .int (-1)
abbrev neg2 : Operand := .int (-2)
abbrev base : Operand := .vec 0 0
abbrev unit : Operand := .vec 1 1
abbrev upLeft : Operand := .vec (-1) (-1)
abbrev down : Operand := .vec 1 0
abbrev right : Operand := .vec 0 1
abbrev up : Operand := .vec (-1) 0
abbrev left : Operand := .vec 0 (-1)
abbrev upRight : Operand := .vec (-1) 1
abbrev downLeft : Operand := .vec 1 (-1)
abbrev id : Operand := .fn .identity

/-! ## 3. Steps that many verifiers have, and shorter names -/

section Idioms

open Primitive

abbrev extent : Step := fork multiply height width
abbrev bg : Step := mostcolor I
abbrev rarest : Step := leastcolor I
abbrev hues : Step := palette I
abbrev shapes : Step := fgpartition I
abbrev tiles : Step := partition I
abbrev places : Step := asindices I
abbrev lines : Step := frontiers I
abbrev parts (a b c : Operand) : Step := objects I a b c
abbrev counts (a : Operand) : Step := lbind colorcount a
abbrev lbinds (a : Operand) : Step := lbind lbind a
abbrev rbinds (a : Operand) : Step := lbind rbind a
abbrev shots (a : Operand) : Step := rbind shoot a
abbrev blobs : Step := parts T F T
abbrev pieces : Step := parts T F F
abbrev motes : Step := parts T T T
abbrev lumps : Step := parts F F T
abbrev clumps : Step := parts F T T
abbrev slides : Step := lbinds shift
abbrev nudge : Step := shift 0 unit
abbrev hlines : Step := sfilter 0 hline
abbrev borders : Step := rbind bordering I
abbrev meet := intersection
abbrev plot := asindices
abbrev hcat := hconcat
abbrev vcat := vconcat
abbrev sized := sizefilter
abbrev dist := manhattan
abbrev vray := vfrontier
abbrev hray := hfrontier
abbrev figs := fgpartition
abbrev modal := mostcommon
abbrev swap := replace
abbrev quot := divide
abbrev isIn := contained
abbrev prod := product
abbrev mkeep := mfilter
abbrev heads : Step := lbind matcher first
abbrev lifts : Step := rbind toobject I
abbrev whole : Step := asobject I
abbrev tones : Step := lbind ofcolor I
abbrev twin (a : Operand) : Step := astuple identity a
abbrev above (a : Operand) : Step := rbind greater a
abbrev minus := difference
abbrev comp := compose
abbrev succ := increment
abbrev pred := decrement
abbrev keep := sfilter
abbrev tup := astuple
abbrev join := combine
abbrev norm := normalize
abbrev cells := toindices
abbrev tint := colorfilter
abbrev lb := lbind
abbrev rb := rbind
abbrev seq := chain
abbrev lay := paint
abbrev fst := first
abbrev map := apply
abbrev hue := color
abbrev flat := merge
abbrev ht := height
abbrev wd := width
abbrev bare := canvas
abbrev drop := remove
abbrev pal := palette
abbrev dims := shape
abbrev diff := subtract
abbrev mult := multiply
abbrev alt := branch
abbrev sole := initset
abbrev dots := ofcolor
abbrev test := matcher
abbrev mmap := mapply
abbrev most := mostcolor
abbrev ncol := numcolors
abbrev west := leftmost
abbrev east := rightmost
abbrev top := uppermost
abbrev low := lowermost
abbrev back := backdrop
abbrev occ := occurrences
abbrev dm := dmirror
abbrev hm := hmirror
abbrev vm := vmirror
abbrev cm := cmirror
abbrev find := extract
abbrev pos := positive
abbrev equal := equality
abbrev amax := argmax
abbrev amin := argmin
abbrev obj := asobject
abbrev objs := objects
abbrev dye := recolor
abbrev line := connect
abbrev span := interval
abbrev peak := maximum
abbrev neg := invert
abbrev more := greater
abbrev jvec := tojvec
abbrev ivec := toivec
abbrev mid := center
abbrev ul := ulcorner
abbrev ur := urcorner
abbrev ll := llcorner
abbrev lr := lrcorner
abbrev least := leastcolor
abbrev nbrs := neighbors
abbrev dnbrs := dneighbors
abbrev link (a b : Operand) : Step := chain a 0 b
abbrev single (a : Operand) : Step := .call .repeat [a, one]
abbrev onGrid : Step := .use 0 [I]
abbrev onIt (k : Nat := 1) : Step := .use k [0]

-- an operand that is left out is the result that its place names
section LastTwo

variable (a : Operand := 1) (b : Operand := 0)

abbrev same : Step := fork equality a b
abbrev joined : Step := fork combine a b
abbrev dyed : Step := fork recolor a b
abbrev less : Step := fork difference a b
abbrev links : Step := fork connect a b
abbrev also : Step := fork both a b
abbrev any : Step := fork either a b
abbrev upTo : Step := interval zero a b
abbrev self : Step := fork a identity b
abbrev firsts : Step := chain first a b

end LastTwo

section Last

variable (a : Operand := 0)

abbrev spots : Step := ofcolor I a
abbrev non : Step := compose flip a
abbrev firstOf : Step := compose first a
abbrev alone : Step := compose initset a
abbrev sizes : Step := compose size a
abbrev headIs : Step := matcher first a
abbrev shifts : Step := lbind shift a
abbrev sieve : Step := rbind sfilter a
abbrev scale : Step := rbind multiply a
abbrev among : Step := rbind contained a
abbrev dyes : Step := lbind recolor a
abbrev after : Step := lbind compose a
abbrev before : Step := rbind compose a
abbrev ofHead : Step := compose a first
abbrev ofLast : Step := compose a last
abbrev ofSize : Step := compose a size
abbrev mults : Step := lbind multiply a
abbrev alike : Step := same toindices a
abbrev lift : Step := toobject a I
abbrev covers : Step := fork contained a toindices
abbrev tinted : Step := lbind colorfilter a
abbrev calls : Step := rbind rapply a
abbrev turn : Step := branch a dmirror identity
abbrev from1 : Step := interval one a one
abbrev isZero : Step := matcher a zero
abbrev isOne : Step := matcher a one
abbrev maps : Step := lbind apply a
abbrev filters : Step := lbind sfilter a
abbrev tally : Step := rbind colorcount a
abbrev has : Step := lbind contained a
abbrev each : Step := fork rapply a identity
abbrev largest : Step := argmax a size
abbrev adds : Step := rbind add a
abbrev moves : Step := rbind shift a
abbrev window : Step := subgrid a I

end Last

section Before

variable (a : Operand := 1)

abbrev mapIt : Step := mapply 0 a
abbrev atop : Step := apply 0 a
abbrev upon : Step := compose 0 a
abbrev is : Step := equality 0 a

end Before

/-! ## 4. Passages that a few verifiers share -/

def halving (r : Verifier) : Verifier :=
  [width I, halve, tojvec, height I, decrement, astuple 0 3, connect 3, toobject 0 I, numcolors, equality 0
   one, branch 0 lefthalf tophalf, branch 1 righthalf bottomhalf, .use 1 [I], .use 1 [I]] ++ r

def tiledPlane : Verifier :=
  [hues,pieces,tinted,sizes,valmin 3,test,keep 5,counts I,amin,whole,headIs 1,non,keep 2,has 4,non,keep I,obj,hperiod,
   dm I,keep 0 4,obj,hperiod,tup 0 4,mults,nbrs base,mmap nbrs,map 2,shifts 14,mapIt,lay I]

def mosaic (r : Verifier) : Verifier :=
  [portrait I,alt 0 id dm,onGrid,plot,shoot base unit,meet 0 1,lr,shoot 0 downLeft,meet 0 4,join 3,ll,drop 0 1,shifts,
   ht 1,mults 0,seq 2 ivec,ht 13,ht 5,quot,succ,upTo 0 one,mmap 5,among,keep 19,places,corners,minus,lift,most 0,hues,
   other 0 1,ul 27,index 29,is 2,ur 30,index 32,is 5,ll 33,index 35,is 8,lr 36,index 38,is 11,tup 9 6,tup 4 1,join,
   vm 22,tup 23,hm 24,hm 2,tup,join 3,pair 6,keep 0 fst,mmap last,fill 52 24,onIt 54] ++ r

def upright (r : Verifier) : Verifier :=
  [maps last,ofHead pos,lb span zero,rb 0 one,sieve 2,ofSize 1,fork pair 0 id,seq 6 2,rb alt id,rb 0 1,
   seq size dedupe fst,lb equal one,link 2 1,alone,each,firstOf,rb alt id,rb 0 1,seq 0 pos size,alone,each,firstOf,
   mult ten three,power,comp rot90,power 0 four,onGrid] ++ r

def turns (r : Verifier) : Verifier :=
  [twin rot90,tup rot180 rot270,join,twin rot270,tup rot180 rot90,join,pair 3] ++ r

def poses (r : Verifier) : Verifier :=
  [twin id,tup rot90 rot270,tup,tup rot180 rot180,tup rot270 rot90,tup,join 3] ++ r

end Idioms

end Tasks

end PuzzlePrograms.Verifier
