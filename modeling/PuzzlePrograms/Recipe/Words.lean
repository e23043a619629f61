import PuzzlePrograms.Recipe.Run

/-!
# How calls are written in recipes

A call of a primitive with its usual number of operands is written with the name of the primitive or a short one:
`.fill g c p` is `.call .fill [g, c, p]`. As a command it names the variable that it sets first:
`.shift x a d` is `.set x (.shift a d)`; but `.fill` and `.paint` as commands change the grid of that
name, and `.dyed` and `.laid` set the variable to a changed copy of another grid. What most recipes
do has a word of its own.
-/

namespace PuzzlePrograms.Recipe

abbrev Pat.pair (a b : Pat) : Pat := .tuple [a, b]

namespace Expr

abbrev call1 (p : Primitive) (a : Expr) : Expr := .call p [a]
abbrev call2 (p : Primitive) (a b : Expr) : Expr := .call p [a, b]
abbrev call3 (p : Primitive) (a b c : Expr) : Expr := .call p [a, b, c]

/-! ## 1. Functions as values -/

abbrev compose := call2 .compose
abbrev matcher := call2 .matcher
abbrev rbind := call2 .rbind
abbrev lbind := call2 .lbind
abbrev fork := call3 .fork

/-! ## 2. Numbers, vectors and truth values -/

abbrev mult := call2 .multiply
abbrev invert := call1 .invert
abbrev plus := call2 .plus
abbrev increment := call1 .increment
abbrev decrement := call1 .decrement
abbrev toivec := call1 .toivec
abbrev tojvec := call1 .tojvec

/-! ## 3. Containers -/

abbrev combine := call2 .combine
abbrev diff := call2 .difference
abbrev order := call2 .order
abbrev merge := call1 .merge
abbrev valmax := call2 .valmax
abbrev valmin := call2 .valmin
abbrev argmax := call2 .argmax
abbrev sfilter := call2 .sfilter
abbrev mfilter := call2 .mfilter
abbrev seq := call1 .totuple
abbrev first := call1 .first
abbrev last := call1 .last
abbrev insert := call2 .insert
abbrev remove := call2 .remove
abbrev interval := call3 .interval
abbrev product := call2 .product
abbrev mapply := call2 .mapply

/-! ## 4. Measures of grids and patches -/

abbrev ht := call1 .height
abbrev wd := call1 .width
abbrev shape := call1 .shape
abbrev colorcount := call2 .colorcount
abbrev colorfilter := call2 .colorfilter
abbrev pal := call1 .palette
abbrev color := call1 .color

/-! ## 5. Patches -/

abbrev plot := call1 .asindices
abbrev dots := call2 .ofcolor
abbrev ul := call1 .ulcorner
abbrev ur := call1 .urcorner
abbrev ll := call1 .llcorner
abbrev lr := call1 .lrcorner
abbrev locs := call1 .toindices
abbrev hued := call2 .recolor
abbrev shift := call2 .shift
abbrev norm := call1 .normalize
abbrev dnbrs := call1 .dneighbors
abbrev nbrs := call1 .neighbors
abbrev top := call1 .uppermost
abbrev low := call1 .lowermost
abbrev west := call1 .leftmost
abbrev east := call1 .rightmost
abbrev dist := call2 .manhattan
abbrev toobject := call2 .toobject
abbrev whole := call1 .asobject
abbrev center := call1 .center
abbrev corners := call1 .corners
abbrev hull := call1 .backdrop
abbrev inbox := call1 .inbox
abbrev rim := call1 .outbox
abbrev box := call1 .box
abbrev link := call2 .connect
abbrev shoot := call2 .shoot
abbrev vray := call1 .vfrontier
abbrev hray := call1 .hfrontier

/-! ## 6. Grids -/

abbrev crop := call3 .crop
abbrev rot90 := call1 .rot90
abbrev rot180 := call1 .rot180
abbrev rot270 := call1 .rot270
abbrev hm := call1 .hmirror
abbrev vm := call1 .vmirror
abbrev dm := call1 .dmirror
abbrev fill := call3 .fill
abbrev paint := call2 .paint
abbrev hupscale := call2 .hupscale
abbrev upscale := call2 .upscale
abbrev hcat := call2 .hconcat
abbrev vcat := call2 .vconcat
abbrev subgrid := call2 .subgrid
abbrev replace := call3 .replace
abbrev canvas := call2 .canvas
abbrev trim := call1 .trim

/-! ## 7. Objects -/

abbrev objects (a b c d : Expr) : Expr := .call .objects [a, b, c, d]
abbrev occ := call2 .occurrences

/-! ## 8. Draws from the random source -/

abbrev any := call1 .choice
abbrev rand := call2 .randint
abbrev sample := call2 .sample

/-! ## 9. Operations of the program language itself -/

abbrev len := call1 .len
abbrev min := call2 .min
abbrev max := call2 .max
abbrev sum := call1 .sum
abbrev sorted := call1 .sorted
abbrev range := call1 .range
abbrev fset := call1 .frozenset
abbrev zip := call2 .zip
abbrev enumerate := call1 .enumerate
abbrev setOf := call1 .set
abbrev tupleOf := call1 .tuple
abbrev listOf := call1 .list

/-! ## 10. Comparisons -/

abbrev compare (o : CmpOp) (a b : Expr) : Expr := .cmp a [(o, b)]
abbrev eq := compare .eq
abbrev ne := compare .ne
abbrev lt := compare .lt
abbrev le := compare .le
abbrev gt := compare .gt
abbrev ge := compare .ge
abbrev mem := compare .mem
abbrev notMem := compare .notMem
abbrev isNone := compare .isNone
abbrev sub (a b : Expr) : Expr := .ask .subset a [b]
abbrev isEmpty (a : Expr) : Expr := .eq (.len a) 0

/-! ## 11. Phrases -/

abbrev tup := tuple
abbrev cup := union
abbrev cap := inter
abbrev pair (a b : Expr) : Expr := .tuple [a, b]

abbrev part (x : String) (i : Expr) : Expr := .index (.arg x) i

abbrev drop (a i : Expr) : Expr := .slice a (some i) none none
abbrev take (a i : Expr) : Expr := .slice a none (some i) none
abbrev tuples (e : Expr) (cs : List Clause) : Expr := .tupleOf (.gather .elements e cs)

abbrev gradeIn (b : Expr) : Expr := .call .unifint [.var "diff_lb", .var "diff_ub", b]

abbrev frozen (es : List Expr) : Expr := .fset (.set es)

abbrev neg1 : Expr := .int (-1)

abbrev colors : Expr := .interval 0 10 1

abbrev coin : Expr := .any (.pair true false)

abbrev one (a : Expr) : Expr := .any (.seq a)

abbrev cells (g : Expr) : Expr := .seq (.plot g)

abbrev near (a : Expr) : Expr := .mapply (.fn .neighbors) a
abbrev beside (a : Expr) : Expr := .mapply (.fn .dneighbors) a

abbrev move (a i j : Expr) : Expr := .shift a (.pair i j)
abbrev line (i j k l : Expr) : Expr := .link (.pair i j) (.pair k l)
abbrev rect (i j k l : Expr) : Expr := .hull (.frozen [.pair i j, .pair k l])
abbrev frame (i j k l : Expr) : Expr := .box (.frozen [.pair i j, .pair k l])

abbrev area (h w : Expr) : Expr := .plot (.canvas (.int (-1)) (.pair h w))

abbrev within (a i j : Expr) : Expr := .sfilter a (.lam ["ij"] (.and [.le (.part "ij" 0) i, .le (.part "ij" 1) j]))

abbrev rotations : Expr := .tuple [.fn .identity, .fn .rot90, .fn .rot180, .fn .rot270]

abbrev symmetries : Expr :=
  .tuple [.fn .identity, .fn .dmirror, .fn .cmirror, .fn .vmirror, .fn .hmirror, .fn .rot90, .fn .rot180, .fn .rot270]

end Expr

namespace Stmt

/-! ## 12. Commands -/

abbrev put1 (f : Expr → Expr) (x : String) (a : Expr) : Stmt := .set x (f a)
abbrev put2 (f : Expr → Expr → Expr) (x : String) (a b : Expr) : Stmt := .set x (f a b)
abbrev put3 (f : Expr → Expr → Expr → Expr) (x : String) (a b c : Expr) : Stmt := .set x (f a b c)
abbrev put4 (f : Expr → Expr → Expr → Expr → Expr) (x : String) (a b c d : Expr) : Stmt := .set x (f a b c d)

abbrev when (c : Expr) (body : List Stmt) : Stmt := .ite c body []

abbrev inc (x : String) : Stmt := .update x .add 1
abbrev grade := put2 .grade
abbrev rand := put2 .rand
abbrev any := put1 .any
abbrev one := put1 .one
abbrev sample := put2 .sample
abbrev canvas (x : String) (c h w : Expr) : Stmt := .set x (.canvas c (.pair h w))
abbrev fill (x : String) (c p : Expr) : Stmt := .set x (.fill x c p)
abbrev paint (x : String) (o : Expr) : Stmt := .set x (.paint x o)
abbrev dyed := put3 .fill
abbrev laid := put2 .paint

abbrev apply (x : String) (f : Expr) : Stmt := .set x (.apply f [x])

abbrev parts (ps : List Pat) (e : Expr) : Stmt := .unpack (.tuple ps) e
abbrev samples (ps : List Pat) (a n : Expr) : Stmt := .parts ps (.sample a n)
abbrev draw (x : String) (a n : Expr) : Stmt := .sample x (.seq a) n
abbrev dims (h w : String) (a : Expr) : Stmt := .parts [h, w] (.shape a)
abbrev quit (c : Expr) : Stmt := .when c [.break]
abbrev skip (c : Expr) : Stmt := .when c [.continue]

abbrev remove := put2 .remove
abbrev pair := put2 .pair
abbrev plot := put1 .plot
abbrev diff := put2 .diff
abbrev shift := put2 .shift
abbrev sfilter := put2 .sfilter
abbrev dm := put1 .dm
abbrev cup := put2 .union
abbrev cells := put1 .cells
abbrev min := put2 .min
abbrev tuples (x : String) (e : Expr) (p : Pat) (s : Expr) : Stmt := .set x (.tuples e [.mk p s []])
abbrev move := put3 .move
abbrev interval := put3 .interval
abbrev line := put4 .line
abbrev normalize := put1 .norm
abbrev area := put2 .area
abbrev gradeIn := put1 .gradeIn
abbrev rect := put4 .rect
abbrev hcat := put2 .hcat
abbrev within := put3 .within
abbrev seq := put1 .seq
abbrev hull := put1 .hull
abbrev whole := put1 .whole
abbrev locs := put1 .locs
abbrev vcat := put2 .vcat
abbrev max := put2 .max
abbrev fset := put1 .fset
abbrev cap := put2 .inter
abbrev dots := put2 .dots
abbrev objects := put4 .objects
abbrev frozen (x : String) (es : List Expr) : Stmt := .set x (.frozen es)
abbrev shoot := put2 .shoot
abbrev frame := put4 .frame
abbrev replace := put3 .replace
abbrev vm := put1 .vm
abbrev mapply := put2 .mapply
abbrev hued := put2 .hued
abbrev setOf := put1 .setOf
abbrev plus := put2 .plus
abbrev hm := put1 .hm
abbrev colorfilter := put2 .colorfilter
abbrev len := put1 .len
abbrev merge := put1 .merge
abbrev rot90 := put1 .rot90
abbrev near := put1 .near
abbrev drop := put2 .drop
abbrev order := put2 .order
abbrev tupleOf := put1 .tupleOf
abbrev upscale := put2 .upscale

end Stmt

end PuzzlePrograms.Recipe
