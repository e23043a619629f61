import PuzzlePrograms.Dsl.Draw
import PuzzlePrograms.Dsl.HigherOrder
import PuzzlePrograms.Dsl.Object
import PuzzlePrograms.Dsl.Task

/-!
# Calling primitives

`invoke` is the rule of calls: a primitive that takes a fixed number of arguments fails on any other
number, and a curried one that has not got exactly its number yields a function that waits for one
more. What a primitive does with its arguments is in the other files of this folder; here each name is
only given its meaning, by the number of arguments.
-/

namespace PuzzlePrograms.Dsl

open Value

/-! ## 1. One, two, three and four arguments -/

def unary (p : Primitive) (x : Value) : Eval Value :=
  match p with
  | .curry => Eval.closure .curried [x]
  | .identity => return x
  | .invert => invert x
  | .even => even x
  | .double => double x
  | .halve => halve x
  | .flip => return flip x
  | .increment => increment x
  | .decrement => decrement x
  | .crement => crement x
  | .sign => sign x
  | .positive => positive x
  | .toivec => return toivec x
  | .tojvec => return tojvec x
  | .dedupe => dedupe x
  | .size => size x
  | .merge => merge x
  | .maximum => maximum x
  | .minimum => minimum x
  | .mostcommon => mostcommon x
  | .leastcommon => leastcommon x
  | .initset => initset x
  | .totuple => totuple x
  | .first => first x
  | .last => last x
  | .mostcolor => Eval.arranged (mostcolor x ·)
  | .leastcolor => Eval.arranged (leastcolor x ·)
  | .height => height x
  | .width => width x
  | .shape => shape x
  | .portrait => portrait x
  | .palette => palette x
  | .numcolors => numcolors x
  | .color => color x
  | .square => square x
  | .vline => vline x
  | .hline => hline x
  | .ulcorner => ulcorner x
  | .urcorner => urcorner x
  | .llcorner => llcorner x
  | .lrcorner => lrcorner x
  | .toindices => toindices x
  | .normalize => normalize x
  | .dneighbors => dneighbors x
  | .ineighbors => ineighbors x
  | .neighbors => neighbors x
  | .uppermost => uppermost x
  | .lowermost => lowermost x
  | .leftmost => leftmost x
  | .rightmost => rightmost x
  | .centerofmass => centerofmass x
  | .asobject => asobject x
  | .asindices => asindices x
  | .center => center x
  | .corners => corners x
  | .backdrop => backdrop x
  | .delta => delta x
  | .inbox => inbox x
  | .outbox => outbox x
  | .box => box x
  | .vfrontier => vfrontier x
  | .hfrontier => hfrontier x
  | .rot90 => rot90 x
  | .rot180 => rot180 x
  | .rot270 => rot270 x
  | .hmirror => hmirror x
  | .vmirror => vmirror x
  | .dmirror => dmirror x
  | .cmirror => cmirror x
  | .trim => trim x
  | .tophalf => tophalf x
  | .bottomhalf => bottomhalf x
  | .lefthalf => lefthalf x
  | .righthalf => righthalf x
  | .compress => compress x
  | .partition => partition x
  | .fgpartition => Eval.arranged (fgpartition x ·)
  | .frontiers => frontiers x
  | .hperiod => hperiod x
  | .vperiod => vperiod x
  | .isGrid => return .bool (isGrid x)
  | .formatGrid => formatGrid x
  | .formatExample => formatExample x
  | .formatTask => formatTask x
  | .fixBugs => do
    match (fixBugs x).2 with
    | some e => throw e
    | none => return .nothing
  | .bitNot => x.bitNot
  | .choice => choice x
  | .shuffle => do
    let _ ← shuffled x
    return .nothing
  | _ => throw .wrongType

def binary (call : Caller) (p : Primitive) (a b : Value) : Eval Value :=
  match p with
  | .compose => Eval.closure .compose [a, b]
  | .matcher => Eval.closure .matcher [a, b]
  | .rbind => rbind a b
  | .lbind => lbind a b
  | .power => power a powerLimit b
  | .add => add a b
  | .subtract => subtract a b
  | .multiply => multiply a b
  | .divide => divide a b
  | .equality => return equality a b
  | .greater => greater a b
  | .both => return both a b
  | .either => return either a b
  | .contained => contained a b
  | .combine => combine a b
  | .intersection => intersection a b
  | .difference => difference a b
  | .order => order call a b
  | .repeat => repeatItem a b
  | .valmax => valmax call a b
  | .valmin => valmin call a b
  | .argmax => argmax call a b
  | .argmin => argmin call a b
  | .sfilter => sfilter call a b
  | .mfilter => mfilter call a b
  | .extract => extract call a b
  | .insert => insert a b
  | .remove => remove a b
  | .other => other a b
  | .astuple => return astuple a b
  | .product => product a b
  | .pair => pair a b
  | .apply => apply call a b
  | .rapply => rapply call a b
  | .mapply => mapply call a b
  | .colorcount => colorcount a b
  | .colorfilter => colorfilter a b
  | .sizefilter => sizefilter a b
  | .ofcolor => ofcolor a b
  | .recolor => recolor a b
  | .shift => shift a b
  | .hmatching => hmatching a b
  | .vmatching => vmatching a b
  | .manhattan => manhattan a b
  | .adjacent => adjacent a b
  | .bordering => bordering a b
  | .toobject => toobject a b
  | .position => position a b
  | .gravitate => gravitate a b
  | .connect => connect a b
  | .shoot => shoot a b
  | .paint => paint a b
  | .underpaint => Eval.arranged (underpaint a b ·)
  | .hupscale => hupscale a b
  | .vupscale => vupscale a b
  | .upscale => upscale a b
  | .downscale => downscale a b
  | .hconcat => hconcat a b
  | .vconcat => vconcat a b
  | .subgrid => subgrid a b
  | .hsplit => hsplit a b
  | .vsplit => vsplit a b
  | .index => index a b
  | .canvas => canvas a b
  | .cover => Eval.arranged (cover a b ·)
  | .occurrences => occurrences a b
  | .plus => a.add b
  | .sub => a.sub b
  | .div => a.div b
  | .floordiv => a.floorDiv b
  | .eq => return .bool (a == b)
  | .neq => return .bool (a != b)
  | .gt => do return .bool (← (related .gt a b : Answer Bool))
  | .gte => do return .bool (← (related .ge a b : Answer Bool))
  | .lt => do return .bool (← (related .lt a b : Answer Bool))
  | .lte => do return .bool (← (related .le a b : Answer Bool))
  | .stripPrefix => stripPrefix a b
  | .plotTask => do
    if (← a.size) == 2 then return .nothing else throw (.refused .pictureCount)
  | .bitOr => a.or b
  | .bitAnd => a.and b
  | .bitXor => a.xor b
  | .lshift => a.shiftLeft b
  | .rshift => a.shiftRight b
  | .randint => randint a b
  | .sample => sample a b
  | .uniform => uniform a b
  | _ => throw .wrongType

def ternary (call : Caller) (p : Primitive) (a b c : Value) : Eval Value :=
  match p with
  | .chain => Eval.closure .chain [a, b, c]
  | .fork => Eval.closure .fork [a, b, c]
  | .branch => return branch a b c
  | .interval => interval a b c
  | .papply => papply call a b c
  | .mpapply => mpapply call a b c
  | .prapply => prapply call a b c
  | .crop => crop a b c
  | .fill => fill a b c
  | .underfill => Eval.arranged (underfill a b c ·)
  | .cellwise => cellwise a b c
  | .replace => replace a b c
  | .switch => switch a b c
  | .move => Eval.arranged (move a b c ·)
  | .unifint => unifint a b c
  | _ => throw .wrongType

def run (call : Caller) (p : Primitive) : List Value → Eval Value
  | [a] => unary p a
  | [a, b] => binary call p a b
  | [a, b, c] => ternary call p a b c
  | [a, b, c, d] =>
    match p with
    | .objects => Eval.arranged (objects a b c d ·)
    | _ => throw .wrongType
  | _ => throw .wrongType

/-! ## 2. Operations of the program language -/

def extremeOf (r : Rel) : List Value → Answer Value
  | [] => .error .wrongType
  | [c] => do
    match ← best r (← c.elements) with
    | some x => return x
    | none => .error .badValue
  | xs => do
    match ← best r xs with
    | some x => return x
    | none => .error .badValue

def rangeOf : List Value → Answer Value
  | [b] => interval 0 b 1
  | [a, b] => interval a b 1
  | [a, b, s] => interval a b s
  | _ => .error .wrongType

def builtin (call : Caller) (p : Primitive) (args : List Value) : Eval Value :=
  match p, args with
  | .len, [x] => size x
  | .min, xs => extremeOf .lt xs
  | .max, xs => extremeOf .gt xs
  | .sum, [x] => do total (← x.elements)
  | .sorted, [x] => do return .list (← (sorted (← x.elements) : Answer _))
  | .sortedBy, [x, f] => do
    match ← order call x f with
    | .tuple xs => return .list xs
    | v => return v
  | .sortedDown, [x] => do
    let xs ← (sorted (← x.elements).reverse : Answer _)
    return .list xs.reverse
  | .abs, [x] => x.abs
  | .int, [x] => x.whole
  | .range, xs => rangeOf xs
  | .tuple, [] => return .tuple []
  | .tuple, [x] => totuple x
  | .list, [] => return .list []
  | .list, [x] => do return .list (← x.elements)
  | .set, [] => return .mset []
  | .set, [x] => do msetOf (← x.elements)
  | .frozenset, [] => return .fset []
  | .frozenset, [x] => do fsetOf (← x.elements)
  | .dict, [] => return .dict []
  | .dict, [x] => do dictOf (← x.elements)
  | .zip, xs => do
    return .tuple ((transpose (← (xs.mapM Value.elements : Answer _))).map .tuple)
  | .enumerate, [x] => do
    return .tuple ((← x.elements).zipIdx.map fun (v, i) => .tuple [.int i, v])
  | .all, [x] => do return .bool ((← x.elements).all Value.truthy)
  | _, _ => throw .wrongType

/-! ## 3. The rule of calls -/

def invoke (call : Caller) (p : Primitive) (args : List Value) : Eval Value :=
  match p.rule with
  | .fixed n => if args.length == n then run call p args else throw .wrongType
  | .curried n =>
    if args.length == n then run call p args else Eval.closure .pending (.prim p :: args)
  | .free => builtin call p args

end PuzzlePrograms.Dsl
