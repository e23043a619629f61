/-!
# The vocabulary of puzzle programs

`Primitive` lists every operation a puzzle program may name. This file fixes three things about a
primitive and nothing else: its name in program text (section 3), how it takes arguments
(`Primitive.rule`), and which vocabulary it belongs to (`Vocabulary`).
-/

namespace PuzzlePrograms

/-! ## 1. The primitives -/

inductive Primitive where
  -- Functions as values
  | curry | identity | compose | chain | matcher | rbind | lbind | power | fork | branch
  -- Numbers, vectors and truth values
  | add | subtract | multiply | divide | invert | even | double | halve | flip | equality
  | greater | both | either | increment | decrement | crement | sign | positive | toivec
  | tojvec
  -- Containers
  | contained | combine | intersection | difference | dedupe | order | repeat | size | merge
  | maximum | minimum | valmax | valmin | argmax | argmin | mostcommon | leastcommon | initset
  | sfilter | mfilter | extract | totuple | first | last | insert | remove | other | interval
  | astuple | product | pair | apply | rapply | mapply | papply | mpapply | prapply
  -- Measures of grids and patches
  | mostcolor | leastcolor | height | width | shape | portrait | colorcount | colorfilter
  | sizefilter | palette | numcolors | color | square | vline | hline
  -- Patches
  | asindices | ofcolor | ulcorner | urcorner | llcorner | lrcorner | toindices | recolor
  | shift | normalize | dneighbors | ineighbors | neighbors | uppermost | lowermost | leftmost
  | rightmost | hmatching | vmatching | manhattan | adjacent | bordering | centerofmass
  | toobject | asobject | center | position | corners | backdrop | delta | gravitate | inbox
  | outbox | box | connect | shoot | vfrontier | hfrontier
  -- Grids
  | crop | rot90 | rot180 | rot270 | hmirror | vmirror | dmirror | cmirror | fill | paint
  | underfill | underpaint | hupscale | vupscale | upscale | downscale | hconcat | vconcat
  | subgrid | hsplit | vsplit | cellwise | replace | switch | index | canvas | cover | trim
  | move | tophalf | bottomhalf | lefthalf | righthalf | compress
  -- Objects
  | objects | partition | fgpartition | occurrences | frontiers | hperiod | vperiod
  -- The extended vocabulary
  | plus | sub | div | floordiv | eq | neq | gt | gte | lt | lte | unifint | isGrid
  | stripPrefix | formatGrid | formatExample | formatTask | plotTask | fixBugs
  -- Bitwise operations
  | bitOr | bitAnd | bitXor | lshift | rshift | bitNot
  -- Draws from the random source
  | choice | randint | sample | shuffle | uniform
  -- Operations of the program language itself
  | len | min | max | sum | sorted | sortedBy | sortedDown | abs | int | range | tuple | list
  | set | frozenset | dict | zip | enumerate | all
  deriving DecidableEq, Repr

inductive CallRule where
  | fixed (params : Nat)
  | curried (params : Nat)
  | free
  deriving DecidableEq, Repr

namespace Primitive

/-! ## 2. How arguments are taken -/

def rule : Primitive → CallRule
  | .curry | .identity | .invert | .even | .double | .halve | .flip | .increment | .decrement
  | .crement | .sign | .positive | .toivec | .tojvec | .dedupe | .size | .merge | .maximum
  | .minimum | .mostcommon | .leastcommon | .initset | .totuple | .first | .last | .mostcolor
  | .leastcolor | .height | .width | .shape | .portrait | .palette | .numcolors | .color
  | .square | .vline | .hline | .ulcorner | .urcorner | .llcorner | .lrcorner | .toindices
  | .normalize | .dneighbors | .ineighbors | .neighbors | .uppermost | .lowermost | .leftmost
  | .rightmost | .centerofmass | .asobject | .center | .corners | .backdrop | .delta | .inbox
  | .outbox | .box | .vfrontier | .hfrontier | .rot90 | .rot180 | .rot270 | .hmirror | .vmirror
  | .dmirror | .cmirror | .trim | .tophalf | .bottomhalf | .lefthalf | .righthalf | .compress
  | .partition | .fgpartition | .frontiers | .hperiod | .vperiod => .fixed 1
  | .other | .astuple | .rapply => .fixed 2
  | .asindices | .isGrid | .formatGrid | .formatExample | .formatTask | .fixBugs | .bitNot => .curried 1
  | .chain | .fork | .branch | .interval | .papply | .mpapply | .prapply | .crop | .fill
  | .underfill | .cellwise | .replace | .switch | .move | .unifint => .curried 3
  | .objects => .curried 4
  | .choice | .shuffle => .fixed 1
  | .len | .min | .max | .sum | .sorted | .sortedBy | .sortedDown | .abs | .int | .range
  | .tuple | .list | .set | .frozenset | .dict | .zip | .enumerate | .all => .free
  | _ => .curried 2

/-- The number of parameters a primitive reports: none for a curried one, which takes any number,
    and one more than it takes for a draw that carries its source along. -/
def reported? (p : Primitive) : Option Nat :=
  match p, p.rule with
  | .choice, _ | .shuffle, _ => some 2
  | _, .fixed n => some n
  | _, .curried _ => some 0
  | _, .free => none

/-! ## 3. Names -/

def ownName (p : Primitive) : String := ((reprStr p).splitOn ".").getLastD ""

/-- The primitives up to the extended vocabulary, in the order above. -/
def gridNames : List (String × Primitive) := (List.range plus.ctorIdx).map fun i => (ownName (ofNat i), ofNat i)

def extendedNames : List (String × Primitive) :=
  [("add", .plus), ("sub", .sub), ("div", .div), ("floordiv", .floordiv), ("eq", .eq),
   ("neq", .neq), ("gt", .gt), ("gte", .gte), ("lt", .lt), ("lte", .lte), ("unifint", .unifint),
   ("is_grid", .isGrid), ("strip_prefix", .stripPrefix), ("format_grid", .formatGrid),
   ("format_example", .formatExample), ("format_task", .formatTask), ("plot_task", .plotTask),
   ("fix_bugs", .fixBugs), ("choice", .choice), ("randint", .randint), ("sample", .sample), ("shuffle", .shuffle),
     ("uniform", .uniform)]

def bitwiseNames : List (String × Primitive) :=
  [("__bitOr__", .bitOr), ("__bitAnd__", .bitAnd), ("__bitXor__", .bitXor),
   ("__lshift__", .lshift), ("__rshift__", .rshift), ("__bitNot__", .bitNot), ("curry", .curry)]

end Primitive

/-! ## 4. Vocabularies -/

inductive Vocabulary where
  | grid
  | extended
  | bitwise
  deriving DecidableEq, Repr

def Vocabulary.primitive? : Vocabulary → String → Option Primitive
  | .grid, s => Primitive.gridNames.lookup s
  | .extended, s => (Primitive.extendedNames.lookup s).or (Primitive.gridNames.lookup s)
  | .bitwise, s => Primitive.bitwiseNames.lookup s

end PuzzlePrograms
