import PuzzlePrograms.Recipe.Names

/-!
# Recipes of the tasks whose identifier starts with 8 to b
-/

namespace PuzzlePrograms.Recipe.Tasks

open Stmt

set_option maxRecDepth 20000

def task8be77c9e : Recipe :=
  sized 1 15 1 30 (speckled R [.vcat O I (.hm I)])

def task8d5021e8 : Recipe :=
  sized 1 10 1 15 (speckled K [.hcat "go1" (.vm I) I,
   .vcat "go2" "go1" (.hm "go1"), .vcat O (.hm "go1") "go2"])

def id8 : Recipes := [
("80af3007",[set f colors,alike h w 2 5,any U f,remove R U f,blank c,portion n 0 (h*w/2) numc (h*w) 0 (h*w),spots
c,tupleOf l (uniq (.sample S numc)∪uniq (.draw (corners S) 3)),any G R,fresh G l,bare O (pow h 2) (pow w 2),.for Z l
[dye G (.shift l (mult Z (vec h w)))],dim F (pow h 2+2),dim L (pow w 2+2),bare u F L,aim 1 (F-pow h 2-1) (L-pow w
2-1),locate,set g (hupscale (call .vupscale [I,h]) w),laid I u (.shift (.whole g) Z)]),
("810b9b61",[besides [3] 10,scheme C 1 6,tries N 3 (h*w/10) 5,blanks,tile,trying N [tick,sizes 3 5,seekBox,pull li W
Z,frameAt P,flipped,lodge c P,ite coin [rate n (len c-1),fset o (.draw c n)] [set o c],free o [settle o,tone,ink T o,dye
(cond (.and [eq (box o) o,gt (call .min [shape o]) 2]) 3 T) o]]]),
("82819916",spun (big 5 [bg,samples [s,f] K 2,upTo i w,rand n 2 (w-2),sample l i n,diff o i l,when (gt (call .min [l])
(call .min [o])) [pull l o (vec o l)],roll c (h-1),sheet,fill2 I s (pairs c (arg j) j l) f (pairs c (arg j) j o),rise u
1 ((h-1)/2),remove m c (span 0 h),loop u [any d m,strike m d,samples [a,b] K 2,fill2 I a (pairs d (arg j) j l) b (pairs
d (arg j) j o)],set t (call .min [o]+1),keep,fill2 I U (.rect 0 t (h-1) (w-1)) s (pairs c (arg j) j l),ink f (pairs c
(arg j) j o)])),
("83302e8f",[except (vec 3 4) 2 5,grades H 3 (30/(h+1)) v (30/(w+1)),duo L,meshed,dots F I L,only s F ij (sub (dnbrs
(arg ij)) F),dyed t I U s,set l (map [.fn .toindices,.colorfilter (.objects t true false false) L]),set d (map [.fn
.initset,s]),cup Q l d,grade n 0 (len Q/2),empty b,draw r Q n,.for e r [one Z e,add b Z],ink U b,parted false X U,only X
X o (eq (len (arg o)) (h*w)),locs E (.merge X),ans 3 E,replace O O U 4]),
("834ec97d",sans 4 2 [grade li 0 (h-2),portion l 0 (w/2) W w 0 (w-1),locate,tint2 f c,fresh f {Z},dyed O c f (.set
[.plus Z south]),times j (w/2+1) [fill2 O 4 (vseg 0 (W+2*j) li) 4 (vseg 0 (W-2*j) li)]]),
("8403a5d5",sans 5 3 [rate l (w-1),set o (w-l),tint2 f c,pair d (h-1) o,fresh f {d},blank O,count j [o,w,2] [dye f (vbar
j h)],count j [o+1,w,4] [dot O 5 0 j],count j [o+3,w,4] [dot O 5 (h-1) j]]),
("846bdb03",spun (big 12 [grades oh 4 (h/2-2) ow (w/2-2),tint [U,t,C,g] 4 I,bare O oh ow,line N 1 0 (oh-2) 0,line f 1
(ow-1) (oh-2) (ow-1),fill2 O C N g f,dye t (corners (.plot O)),innerShape,set mp (nth (center p) 1),only c p ij (lt
column mp),set d (p-c),cup p (.hued C c) (.hued g d),lay l,set i coin,lay (cond i (.vm p) p),move o (.norm p) 1
1,objects X O true false true,put o])),
("855e0971",mirrored [allCols,rate a 4,either n a (11-a),max n 3 n,dim h n,dim w 3,set b (list [2]*n),.while (lt (.sum
b) h) [roll j (n-1),bump b j],calls I .tuple [],calls O .tuple [],upTo L w,pick D R,set t m1,set l (anyOf right k (len
b)),when (lt (.sum l) 2) [samples [c,d] (span 0 (len l)) 2,store ⟨l,[c]⟩ 1,store ⟨l,[d]⟩ 1],forZip s e b l [other T t
K,canvas g T s w,canvas o T s w,few f e (w/2) i L,.for J i [pair m (.rand 0 (s-1)) J,fill g D {m},fill o D (vray
m)],set3 t T I (I+g) O (O+o)]]),
("85c4e7cd",[set t colors,alike h w 1 15,few N 1 10 R t,set c (anyOf R j (.min h w)),pair M (h*2) (w*2),set I (.canvas 0
M),set O (.canvas 0 M),items d (.pair i o) (zip c (back c)) [ring,dye o bx]]),
("868de0fa",[except (vec 2 7) 9 30,bg,trials 9,seeking num [need indss,rand oh 3 8,set ow oh,tryBox,hue T,whenClear [ink
T (box bd),ite (eq (oh%2) 1) [dye 7 bd] [dye 2 bd],dye T (box bd),taken (indss-bd-rim bd)],tick]]),
("8731374e",big 10 [rands i 5 (h-2) n (w-2),duo F,rate num (.min i n),bare m (i-2) (n-2),set t (lam [g] (listOf (collect
.elements (listOf (arg e)) e (arg g)))),set o (lam [g] (.tuples (.tupleOf (arg e)) [.mk e (arg g) []])),fill m F (.line
0 0 (num-1) (num-1)),apply m t,shuffle m,set m (.apply t [.dm (.apply o [m])]),shuffle m,dm m (.apply o [m]),laid s
(slab i n) (.move (.whole m) 1 1),dots S s F,mapply l (fork (.fn .combine) (.fn .vfrontier) (.fn .hfrontier)) S,dyed O s
F l,grade u 3 10,set numc (13-u),sample Y R numc,flat c m1,plot S c,mottle P S,laid I c P,aimIn i n,locate,lodge L
(.whole s),lay L,pull a b (ul L),pull c d (lr L),one p (hseg (a-1) b d),one f (vseg a (b-1) c),one j (hseg (c+1) b
d),one k (vseg a (d+1) c),remove K U Y,these x [vec anyHue p,vec anyHue f,vec anyHue j,vec anyHue k],lay x]),
("88a10436",big 8 [grade o 0 2,grade B (cond (gt o 0) 0 1) 2,set o (o*2+1),set B (B*2+1),area g o B,pair m (o/2)
(B/2),set P {m},strike g m,grade e (.max o B) (o*B),again e [extend P g],.while (.or [ne (ht P) o,ne (wd P) B]) [extend
P g],pickTwo U f,tones N 8,mottle P P,norm P,blanks,corner o B,locate,lodge l P,lay l,put l,set S (.plot I- .locs l-near
(.locs l)),gradeBy s (2*e),set3 maxtrials (4*s) tr 0 succ 0,seeking s [need S,land S l P,locs d l,free d [put l,ink f
(.set [center d]),settle d],tick]]),
("88a62173",[pair m 1 30,allCols,alike h w 1 14,sprinkle g 1 (h*w),grade n 0 (h*w-1),set u (h*w-n),.cells d g,sample
subs d u,hm O (.hm g),forPair x y subs [dot O (.any (.remove (cell O x y) (colsch+list [U]))) x y],bare I (h*2+1)
(w*2+1),set i (tup [base,vec (h+1) (w+1),vec (h+1) 0,vec 0 (w+1)]),any t i,remove r t i,whole o O,whole e g,lay (.shift
o t),.for ij r [lay (.shift e ij)]]),
("890034e9",[nonzero,sides 10,rands oh 2 (h/4) ow (w/4),pick m R,hues n 1 8 b,flat I 0,tile,set P (motley b S),lay
P,fewOf u 0 (h*w/2) l S,ink 0 l,area p oh ow,empty t,.for o (occ I (.hued 0 p)) [add t (.one (.shift p o))],set t
(motley b t),lay t,grade N 2 (h*w/((oh+2)*(ow+2))),set3 tr 0 succ 0 maxtr (5*N),keep,retry N [tick,room,need Q,land Q bd
p,set d (rim bd),free d [placed (S-d),stamp 0 bd,when (eq succ 1) [ink m d],dye m d,pull li W Z,line L (li-1) W (li-1)
(W+ow-1),line g (li+oh) W (li+oh) (W+ow-1),line a li (W-1) (li+oh-1) (W-1),line c li (W+ow) (li+oh-1) (W+ow),when (gt
succ 1) [set f (pairs (.any b) (.one (arg x)) x (list [L,g,a,c])),lay f]]]]),
("8a004b2b",turned (big 10 [grades oh 2 (h/5) ow (w/5),field,tint [U,r,d,e,J] 5 I,seed P,portion E 0 (oh*ow/2) N (oh*ow)
3 (oh*ow),raise (N-1) V (near P),one f P,other p f (.seq P),set n (P- .set [f,p]),cup P (.hued J n) (vecs d f e p),set x
((h-oh-4)/oh),set t ((w-ow-4)/ow),grades s 1 x c t,aim 0 2 2,move o P li W,lay o,set u (s*oh),set v (c*ow),grade a (u+2)
(h-oh-2),grade b (v+2) w,rand q (li+oh) (h-a),roll l (w-b),set D (corners (.frozen [vec q l,vec (q+a-1) (l+b-1)])),ink r
D,set y (subgrid o I),calls g .vupscale [hupscale y c,s],whole g g,rand i (q+1) (q+a-1-ht g),rand j (l+1) (l+b-1-wd
g),move m g i j,laid O I m,set O (subgrid D O),only z m cij (mem (part cij 0) (vec d e)),lay z,given [coin,gt (len P) 3]
[one F (.locs (ofHue P J)),pull A B F,move C (.area s c) (i+A*s) (j+B*c),ink J C]])),
("8be77c9e",task8be77c9e),
("8d5021e8",task8d5021e8),
("8d510a79",mirrored [avoid (vec 1 2),dim h 5,dim w 3,rand b 2 (h-3),bg,hue a,sheet,line B b 0 b (w-1),ink a B,keep,upTo
j w,alike n u 1 (w-1),sample o j n,sample s j u,.for t o [roll li (b-2),either T 1 2,pair Z li t,ink T {Z},ite (eq T 1)
[dye T (link Z (vec 0 t))] [dye T (link Z (vec (b-1) t))]],.for t s [rand li (b+2) (h-1),either T 1 2,pair Z li t,ink T
{Z},ite (eq T 1) [dye T (link Z (vec (h-1) t))] [dye T (link Z (vec (b+1) t))]]]),
("8e1813be",mirrored [allCols,pickTwo U s,hues n 3 8 Y,dim w (n+3),grade m (2*n) (30-n),set Y (listOf Y),tuples O
(copies (arg T) n) T Y,tuples I (copies (arg T) w) T Y,set r (copies U w),loop m [roll i (len O-1),set I (take I i+tup
[r]+drop I i)],set a (n+m),pull oh ow (sq n),aim 1 (a-oh-2) (w-ow-2),rectAt c,fill2 I s c U (rim c)]),
("8e5a5113",[set t colors,grade d 2 9,pick U t,set k (cond (lt d 7) 4 3),pair n 2 k,gradeIn num n,set r rotations,pick b
K,pair o 1 8,gradeIn N o,sample p K N,bare g d d,bare c d d,spots c,pair l 1 (pow d 2-1),gradeIn e l,spray i e,.for ij i
[fill c (.any p) {ij}],canvas a b d 1,any f (span 0 num),rot90 I (rot270 (cond (eq f 0) c g)),rot90 O (rot270 c),times j
(num-1) [rot90 c c,hcat I (.hcat I a) (cond (eq (j+1) f) c g),hcat O (.hcat O a) c],when coin [rot90 I I,rot90 O O]]),
("8eb1be9a",sized 8 30 4 30 [grades oh 2 (h/3) ow w,field,grade e 2 (oh*ow/3*2),normalize P (.fset (.draw V
e)),extents,scheme o 1 9,fset P (motley Y P),corner oh ow,move P P li W,blank c,laid I c P,laid O c P,loop (h/oh+1) [put
(.move P (un .neg oh*k) 0),put (.move P (oh*k) 0)]]),
("8efcae92",big 10 [trio q t,gradeBy num 25,set3 succ 0 maxtr (4*num) tr 0,sheet,set O .nothing,tile,pull o a (sq
.nothing),trying num [ite (.and [isNone o .nothing,isNone a .nothing]) [rands oh 2 (h-1) ow (w-1),set o oh,set a ow]
[grades d 0 (.min o (h-1-o)) b (.min a (w-1-a)),set d (.min o (h-1-o)-d),set b (.min a (w-1-a)-b),either oh (o-d)
(o+d),either ow (a-b) (a+b),min oh (.max 2 oh) (h-1),min ow (.max 2 ow) (w-1)],canvas m q oh ow,plot i m,room,tick,want
Q,one Z Q,skip (un .not (sub (.shift i Z) S)),inc succ,ite (isNone O .nothing) [rate n (oh*ow/2-1),set c n] [grade c 0
(.min (oh*ow/2-1) (n-1))],draw s i c,fill m t s,when (isNone O .nothing) [set O m],whole P m,lodge l P,lay l,set S (S-
.locs l-beside (.locs l))]]),
("8f2ea7aa",[set c colors,grade d 2 5,pick U c,set a (pow d 2),bare I a a,bare O a a,bare m d d,spots m,set mp
(a/2),pair e 0 mp,gradeIn D e,either v (un .pos 1) m1,set num (mp+v*D),max num (.min num a) 0,setOf o (.sample S
num),.while (ne (shape o) (sq d)) [add o (.one (uniq S-o))],hues N 1 9 R,.for ij o [fill m (.any R) {ij}],interval i 0 a
d,seq p (product i i),any l p,whole n m,lay (.shift n l),.for ij o [put (.shift n (mult ij d))]])]

def id9 : Recipes := [
("90c28cc7",[nonzero,alike h w 2 10,grade nc 2 9,flat I m1,spots I,sample c R nc,.for ij S [ink (.any c) {ij}],dm I
(call .dedupe [.dm (call .dedupe [I])]),keep,dims h w I,dim f h,dim u w,grade i h f,grade n w u,.while (.or [lt h i,lt w
n]) [clear o,ite (lt h i) [push o (vec h idf)] [when (lt w n) [push o (vec w (.fn .dmirror))]],split d m o,roll D
(d-1),apply I m,set I (take I (D+1)+drop I D),apply I m,dims h w I],.while (.or [lt h f,lt w u]) [clear o,ite (lt h f)
[push o idf] [when (lt w u) [push o (.fn .dmirror)]],any m o,apply I m,merge I (.tupleOf (.sample (vec (tup [tup [0]*wd
I]) I) 2)),apply I m,dims h w I]]),
("90f3ed37",[spare R 1,redo [sides 8,rise p 1 (h/4),grade p p (.max 1 (h/4)),alike l r 1 (w/7),rand a 1 p,area y a
l,area z a r,grades g 0 (a*l/2) j (a*r/2),either s g (a*l-g),either b j (a*r-j),min s (.max l s) (a*l),min b (.max r b)
(a*r),setOf t (.draw y s),setOf d (.draw z b),roll m (w-2*l-2*r),ite (.or [eq m 0,cmp l [(.eq,a),(.eq,1)]]) [empty i,set
m 0] [setOf i (.draw (.area a m) (.rand m (a*m)))],when (sub (.move i 0 (2*l-m)) t) [empty i,set m 0],roll li (h-p),cup
n (.move t li 0) (.move t li l),move A i li (2*l),cup q (.move d li (2*l+m)) (.move d li (2*l+m+r)),set E (2*l+m+r),loop
(w/l+1) [update n .union (.move t li (un .neg k*l))],loop (w/r+1) [update q .union (.move d li (E+k*r))],cup u (.cup n
A) q,move v u (un .neg li) 0,tint2 F I,ink F u,upTo N (h-p+1),cut N (span (li-p-1) (li+2*p)),rise B 1 (len
N/p),keep,loop B [needOne N o,cut N (span (o-p-1) (o+2*p)),roll f (.max r (w-E-2)),interval c (2*l+m) (2*l+m+f+1) 1,set
c (back c),grade D 0 (len c-1),set C (nth c D),only x v ij (le column C),dye 1 (.move v o f),stamp F (.move x o f)],quit
(mem 1 (pal O))]]),
("913fb3ed",[pair d 1 30,avoid (tup [1,2,3,4,6,8]),set3 s (tup [2,3,8]) tr (tup [1,6,4]) p (listOf (zip s tr)),sides
1,paper,blanks,rise numc 1 (h*w/10),tile,loop numc [find S,split a b p,set S (S-nbrs Z-rim (nbrs Z)),strike S Z,stamp a
{Z},dye b (nbrs Z)]]),
("91413438",[nonzero,alike h w 2 5,min m (h*w-1) (.min (30/h) (30/w)),set i (trunc (.dec 5 1*(pow (4*h*w+1) (.dec 5
1)-1))+1),grade b 0 (m-i),min n (.max i (m-b)) m,any f R,flat c 0,sample P (.cells c) (h*w-n),fresh f P,canvas O 0 (h*n)
(w*n),times j (h*w-n) [pair Z (j/n) (j%n),dye f (.shift P (mult (vec h w) Z))]]),
("91714a58",big 6 [duo t,rests,gradeBy o 2,sheet,spots I,spray s o,rands H 2 (h/2) a (w/2),corner H a,locate,rect bd li
W (li+H-1) (W+a-1),ans t bd,.for ij s [hue T,ink T {ij}],ink t bd]),
("9172f3a0",sized 1 10 1 10 (speckled K [upscale O I 3])),
("928ad970",big 10 [grades H 9 h g w,trio L D,corner H g,pair u li W,pair l (li+H-1) (W+g-1),one o (link u (vec (li+H-1)
W)- .set [u,vec (li+H-1) W]),one t (link u (vec li (W+g-1))- .set [u,vec li (W+g-1)]),one e (link l (vec (li+H-1) W)-
.set [l,vec (li+H-1) W]),one f (link l (vec li (W+g-1))- .set [l,vec li (W+g-1)]),pull a b (rising (li+2) (li+H-2)
2),.while (eq (a+1) b) [pull a b (rising (li+2) (li+H-2) 2)],pull c d (rising (W+2) (W+g-2) 2),.while (eq (c+1) d) [pull
c d (rising (W+2) (W+g-2) 2)],frame s a c b d,these bx [o,t,e,f],blanks,fill2 I D bx L s,ans L (inbox bx)]),
("93b581b8",big 10 [scheme m 1 9,tries n 1 (h*w/50) 10,blanks,tile,fullInds,retry n [tick,within Q S (h-2) (w-2),find
Q,parts [c,C,d,e] (anyOf Y k 4),these q [base,right,south,unit],these b [vec c base,vec C right,vec d south,vec e
unit],cup t (b∪.hued e (.move q (int (-2)) (int (-2)))∪.hued d (.move q (int (-2)) 2)∪.hued C (.move q 2 (int (-2))))
(.hued c (.move q 2 2)),lodge i b,lodge o t,only o o cij (mem (part cij 1) fullinds),locs u o,free u [placed (S-u-beside
(.locs i)),lay i,put o]]]),
("941d9a10",[besides [1,2,3] 5,interval t 2 ((h-1)/2+1) 2,grade n 0 (len t-1),set N (nth t n),interval t 2 ((w-1)/2+1)
2,grade i 0 (len t-1),set m (nth t i),duo F,bare r (2*N+1) w,count j [1,h,2] [fill r F (hseg j 0 w)],loop (h-(2*N+1))
[roll Z (ht r-1),set r (take r Z+slab 1 w+drop r Z)],bare g (2*m+1) h,count j [1,w,2] [fill g F (hseg j 0 h)],loop
(w-(2*m+1)) [roll Z (ht g-1),set g (take g Z+slab 1 h+drop g Z)],dm g g,sheet,cup f (.dots r F) (.dots g F),ink F
f,parted true X U,set3 b (call .argmin [X,lam [o] (west (arg o)+top (arg o))]) e (argmax X (lam [o] (west (arg o)+top
(arg o)))) c (lam [o] (eq (len (those X [a] (lt (west (arg a)) (west (arg o))))) (len (those X [a] (gt (west (arg a))
(west (arg o))))))),set d (lam [o] (eq (len (those X [a] (lt (top (arg a)) (top (arg o))))) (len (those X [a] (gt (top
(arg a)) (top (arg o))))))),calls l .extract [X,lam [o] (.and [.apply c [arg o],.apply d [arg o]])],ans 1 b,fill2 O 3 e
2 l]),
("94f9d214",halved (cap e (uniq S-uniq a) (uniq S-uniq b))),
("952a094c",big 6 [grades i 4 (h-2) g (w-2),aimIn i g,pair s li W,pair E (li+i-1) (W+g-1),set bx (box (.frozen
[s,E])),tint [U,f,a,b,c,d] 6 canv,dyed n canv f bx,copy I n,copy O n,both a (spot (li+1) (W+1)) (spot (li+i) (W+g)),both
b (spot (li+1) (W+g-2)) (spot (li+i) (W-1)),both c (spot (li+i-2) (W+1)) (spot (li-1) (W+g)),both d (spot (li+i-2)
(W+g-2)) (spot (li-1) (W-1))]),
("9565186b",sans 5 2 [flat g 5,grade N 2 (.min (h*w-1) 8),any m R,set3 t (h*w/N+1) u (h*w-N+1) e (u-t),grade v 0 e,set n
(u-v),min n (.max n t) u,spots g,spray s n,dyed I g m s,dyed O g m s,remove K m R,sample o K (N-1),diff i S s,sample b i
(N-1),forZip c l o b [ink c {l}],cut i b,set d (tableOf c 1 o),.for ij i [ite (isEmpty o) [stamp m {ij}] [any a o,ink a
{ij},bump d a,when (eq (nth d a) (n-1)) [strike o a]]]]),
("95990924",[besides [1,2,3,4] 6,frames 16 3 [stamp f (inbox b),fill2 O 1 {Z} 2 (.set [.plus Z (vec 0 3)]),fill2 O 3
(.set [.plus Z (vec 3 0)]) 4 (.set [.plus Z (sq 3)])]]),
("963e52fc",sized 3 30 6 15 [grade p 2 (w/2),scheme numc 1 9,empty P,times j p [grade B 0 (h/2),set B (h/2-B),grade l B
(h-1),rate u (l-B+1),.for i (.sample (span B (l+1)) u) [pair Z i j,tone,pair c T Z,add P c]],bare O h (w*2),waves,put
f,times j (2*w/(2*p)+1) [put (.move f 0 (j*2*p))],calls I .lefthalf [O]]),
("97999447",sans 5 3 [upTo o h,few num 1 h l o,scheme numc 1 8,blanks,.for i l [tone,roll j (w-1),pair d i j,both T {d}
(pairs i (arg x) x (call .range [j,w,2])),dye 5 (pairs i (arg x) x (call .range [j+1,w,2]))]]),
("97a05b5b",big 15 [rand s (h/3) (h/3*2),rand a (w/3) (w/3*2),pickTwo U F,sheet,rands oh 2 (s/2) ow (a/2),rate N 8,empty
X,area Q oh ow,set3 f (call .set []) tr 0 maxtr (4*N),during [ne (len X) N,lt tr maxtr] [tick,these P [.one Q],rand E 1
(oh*ow-1),again E [swell P Q],update P .union (.apply (.any (tup [.fn .dmirror,.fn .cmirror,.fn .vmirror,.fn .hmirror]))
[P]),skip (eq (len P) (ht P*wd P)),fset P P,normalize o P,when (notMem o f) [add X o],.for m mirrors [.for q mirrors
[add f (.apply m [.apply q [o]])]]],set3 tr 0 maxtr (5*N) succ 0,corner s a,rect bd li W (li+s-1) (W+a-1),ink F
bd,canvas O F s a,plot g O,set i (.plot I- .move g li W),set i (i-near (.move g li W)),during [lt succ N,lt tr maxtr,has
X] [tick,one P X,hue T,dyed u (.canvas T (shape P)) F P,skip (eq (len (pal u)) 1),any r flips,any t flips,set v (compose
r t),set x (.apply v [u]),whole b u,whole j x,dims y z b,dims A B j,seek c g C s A a B,shift p j C,locs d p,when (sub d
g) [within n i (h-y) z,want n,one D n,shift e b D,locs l e,when (sub l i) [inc succ,strike K T,strike X P,set g
(g-d),shun i l,lay e,ink U (ofHue (.move p li W) F),put p]]]]),
("98cf29f8",turned (big 10 [grades B 2 (h-5) J (w-5),corner B J,locate,rect P li W (li+B-1) (W+J-1),tint [U,C,r] 3 I,ink
C P,set3 b (h-(li+B)) m (w-(W+J)) a li,set3 g W s (tup [b,m,a,g]) N (eachIf (arg D) (.pair D d) (enumerate s) [gt (arg
d) 2]),any p N,loop p [rot90 I I],dims h w I,dots o I C,rand l (low o+2) (h-2),rand i (l+1) (h-1),roll c (.min (w-2)
(east o)),rand f (.max (c+1) (west o)) (w-1),rect t l c i f,min u (east o) (east t),max n (west o) (west t),rand j n
u,line L (low o+1) j (top t-1) j,copy q I,fill2 I r t r L,dyed O q r (.move t (un .neg (len L)) 0)])),
("995c5fa3",[allCols,area o 4 4,set3 a (box (.area 4 4)) b (.area 4 4- .set [south,vec 2 0,vec 1 3,vec 2 3]) d (o- .move
(.area 2 2) 2 1),set m (list [vec o 2,vec a 8,vec b 3,vec d 4]),rate num 6,set h 4,set w (4*num+num-1),bg,sheet,clear
Y,loop num [hue T,split P u m,set W (5*k),ink T (.move P 0 W),push Y u],tuples O (copies (arg c) num) c Y]),
("99b1bc43",barred (cup e (uniq b-uniq a) (uniq a-uniq b))),
("99fa7670",big 3 [rate num (h/2),upTo S h,set t (sorted (.sample S num)),set n (each (arg x-1) x (drop t 1)+list
[h-1]),rate nc 9,bg,inks nc,blanks,forZip s e t n [tone,roll W (w-2),line l s W s (w-1),line a s (w-1) e (w-1),both T
(spot s W) (.cup l a)]]),
("9aec4887",spun (big 12 [grades oh 4 (h/2-2) ow (w/2-2),tint [U,i,C,t,u,v] 6 I,bare O oh ow,line N 1 0 (oh-2) 0,line g
1 (ow-1) (oh-2) (ow-1),line n 0 1 0 (ow-2),line d (oh-1) 1 (oh-1) (ow-2),fill2 O C N t g,fill2 O u n v d,innerShape,lay
l,ink i p,move o o 1 1,objects X O true false true,.for ij o [set3 m (tableOf P (dist (arg P) {ij}) X) a (listOf (ask
.values m [])) c (call .min [a]),ite (eq (ask .count a [c]) 1) [set T (color (nth (eachIf (arg j) (.pair j f) (ask
.entries m []) [eq c (arg f)]) 0))] [set T i],dye T {ij}]])),
("9af7a82c",[nonzero,calls p .dict [],count a [1,31,1] [count b [1,31,1] [set r (a*b),ite (mem r p) [push ⟨p,[r]⟩ (vec a
b)] [store ⟨p,[r]⟩ (list [vec a b])]]],grade N 2 9,set3 s (.sum (call .range [1,N+1,1])) m (.sum (call .range
[30,30-N,m1])) Q (gatherTable (arg k) (arg v) [.mk (.pair k v) (ask .entries p []) [cmp s [(.le,arg k),(.le,m)]]]),empty
t,.for v (ask .values Q []) [.for o v [add t o]],calls t .sortedBy [t,lam [ij] (part ij 0*part ij 1)],grade i 0 (len
t-1),pull h w (nth t i),sample Y R N,set c (listOf (call .range [1,N+1,1])),these e [N-1],.while (lt (.sum c) (h*w))
[calls l .sortedDown [e],grade i 0 (len l-1),set i (nth l i),bump c i,when (gt i 0) [add e (i-1)],when (lt i (N-1))
[when (eq (nth c i) (nth c (i+1)-1)) [set e (e- .set [i])]],when (eq (nth c i) 30) [set e (e- .set [i])]],flat I
m1,canvas O 0 (call .max [c]) N,tile,set c (back c),items j (.pair T n) (zip Y c) [draw L S n,ink T L,occupy (uniq
L),dye T (vbar j n)]]),
("9d9215db",spun (sized 5 14 5 14 [set h (h*2+1),set w (w*2+1),bg,set u (.min h w/4),rate r u,tupleOf n (each (sq (2*arg
k+1)) k (range u)),sample o n r,set o (motley K o),sheet,lay o,set s (map [rbind (.fn .plus) (vec 0 2),take n m1]),few e
1 (len s) l s,set3 c (each anyHue k (range e)) t (pairs (arg T) (arg ij) (.pair T ij) (zip c l)) d (pairs (arg T) (back
(arg ij)) (.pair T ij) (zip c l)),lay (.cup t d),set f (lam [ij] (eq (part ij 1%2) 1)),set a (lam [ij] (eq (part ij 0%2)
1)),tuples p (back (arg x)) x l,tuples i (.sfilter (link (arg ij) (vec row (w-part ij 1-1))) f) ij l,tuples b (.sfilter
(link (arg ij) (vec (h-part ij 0-1) column)) a) ij p,merge i (collect .set (.hued (arg T) (arg j∪arg m)) (.pair T (.pair
j m)) (zip c (zip i b))),laid g I i,laid O g (.merge (call .fgpartition [.vm g])),put (.merge (call .fgpartition [.hm
g])),put (.merge (call .fgpartition [.vm (.hm g)]))])),
("9dfd6313",[allCols,rate a 14,set d (2*a+1),picks c,bare I d d,tile,rand l 1 4,ite (eq l 1) [line L a 0 a (d-1),set m
(.fn .hmirror),among Q (gt row a)] [ite (eq l 2) [line L 0 a (d-1) a,set m (.fn .vmirror),among Q (gt column a)] [ite
(eq l 3) [line L 0 0 (d-1) (d-1),set m (.fn .dmirror),among Q (gt row column)] [when (eq l 4) [line L (d-1) 0 0
(d-1),set m (.fn .cmirror),among Q (gt (part ij 0+part ij 1) d)]]]],ink c L,set mp (d*(d-1)/2),hues u 1 (.min 7 mp)
colsch,fewOf n 1 (len Q) p Q,.for i p [ink (.any colsch) {i}],set O (.apply m [I]),maySwap I O]),
("9ecd008a",hiddenBox nonzero 0),
("9edfc990",[interval R 2 10 1,sides 5,grade m (trunc (.dec 4 1*h*w)) (trunc (.dec 7 1*h*w)),flat I 0,tile,draw l S
m,set o (motley R l),lay o,set r (S-uniq l),fewOf numc 1 (.max 1 (len r/10)) b r,ink 1 b,parted false X 0,set e (mfilter
X (rbind (.fn .adjacent) b)),ans 1 e]),
("9f236235",[allCols,alike n u 2 14,grades h 1 (31/n-1) w (31/u-1),bg,hue f,remove K f R,tones o (.min 9 (n*u)),rate m
(n*u),area Q n u,area S h w,draw l Q m,canvas I f (h*n+n-1) (w*u+u-1),bare O n u,.for c Q [pull a b c,move d S (a*(h+1))
(b*(w+1)),set T (cond (mem c l) anyHue U),both T d {c}],vm O O])]

def idA : Recipes := [
("a1570a43",big 4 [grades oh 3 h ow w,corner oh ow,these s [here,vec (li+oh-1) W,vec li (W+ow-1),vec (li+oh-1)
(W+ow-1)],move Q (.area (oh-2) (ow-2)) (li+1) (W+1),pickTwo U t,tones numc 8,blank g,fill g t s,one b Q,set P {b},strike
Q b,rise c (oh+ow-5) ((oh-2)*(ow-2)/2),again c [swell P Q],.while (ne (shape P) (vec (oh-2) (ow-2))) [swell P Q],mottle
P P,laid O g P,rate n (.max h w),set k 0,plot fullinds O,.while (.or [eq (ul P) (vec (li+1) (W+1)),lt k n]) [inc k,only
o (nbrs base) ij (.and [isEmpty (s∩.shift (.locs P) (arg ij)),fits (.locs P) fullinds]),one d o,shift P P d],laid I g
P]),
("a2fd1cf0",besides [2,3,8] 4 :: elbow 3 8),
("a3325580",big 10 [rate N 9,bg,inks N,sheet,empty l,tile,budget (4*N),empty s,rand m (N+1) 30,trying N [tick,sizes 1
6,.while (lt (oh*ow) m) [sizes 1 6],field,rand e 1 (oh*ow),rate e (.min (oh*ow) m),grade e e (.min (oh*ow) m),one f
V,set P {f},again e [extend P V],skip (mem P s),norm P,extents,among Q (.and [le row (h-oh),le column (w-ow),notMem
column l]),want Q,land Q d P,free d [set S (S-d-beside d),ink (nth Y succ) d,inc succ,add l (nth Z 1)]],objects X I true
false true,set m (valmax X (.fn .size)),sfilter X X (matcher (.fn .size) m),order X X (.fn .leftmost),canvas O m1 m (len
X),items i o X [dye (color o) (vbar i m)]]),
("a3df8b1e",allCols :: zigzag),
("a416b8f3",sized 1 30 1 15 (speckled K [hcat O I I])),
("a48eeaf7",spun (big 8 [grades H 2 (h/2) t (w/2),aim 2 (h-H-2) (w-t-2),tint [U,m,o] 3 I,blank O,rect u li W (li+H-1)
(W+t-1),set3 A (each (vec (arg x) (W-1)) x (span li (li+H))) p (each (vec (arg x) (.rand 0 (W-2))) x (span li (li+H))) B
(each (vec (arg x) (W+t)) x (span li (li+H))),set3 b (each (vec (arg x) (.rand (W+t+1) (w-1))) x (span li (li+H))) c
(each (vec (li-1) (arg x)) x (span W (W+t))) f (each (vec (.rand 0 (li-2)) (arg x)) x (span W (W+t))),set3 g (each (vec
(li+H) (arg x)) x (span W (W+t))) i (each (vec (.rand (li+H+1) (h-1)) (arg x)) x (span W (W+t))) s (p+b+f+i),set a
(A+B+c+g),upTo S (len s),few num 1 (len s) C S,set s (placedAt e s C),set a (placedAt e a C),stamp m u,forZip k d s a
[both o {k} {d}],grade n 0 4,fullInds,when (gt n 0) [dot O o (li-1) (W-1),cap Q (.shoot (vec (li-2) (W-2)) (sq m1))
fullinds,one L Q,ink o {L}],when (gt n 1) [dot O o (li-1) (W+t),cap Q (.shoot (vec (li-2) (W+t+1)) (vec m1 1))
fullinds,one L Q,ink o {L}],when (gt n 2) [dot O o (li+H) (W-1),cap Q (.shoot (vec (li+H+1) (W-2)) (vec 1 m1))
fullinds,one L Q,ink o {L}],when (gt n 3) [dot O o (li+H) (W+t),cap Q (.shoot (vec (li+H+1) (W+t+1)) unit) fullinds,one
L Q,ink o {L}]])),
("a5313dff",sans 1 10 [tint2 f I,tries o 1 (h*w/20) 10,move S (.area (h+2) (w+2)) m1 m1,.while (.or [.and [lt tr
maxtr,lt succ o],isEmpty (.sfilter (.colorfilter (.objects I true false false) U) inner)]) [tick,sizes 3 8,frame bx 0 0
(oh-1) (ow-1),hull i (inbox bx),land S p i,when (isEmpty (p∩seen f)) [inc succ,ink f (.shift bx Z),when (.any (tup
[true,true,false])) [draw s p (.rand 1 (.max 1 (len i/2))),ink f s]]],set e (mfilter (.colorfilter (.objects I true
false false) U) inner),ans 1 e]),
("a5f85a15",[spare c 4,sides 3,set s (map [.fn .toivec,.interval (h-1) 0 m1]+map [.fn .tojvec,span 0 w]),upTo Q
(h+w-1),rate num ((h+w-1)/3),clear l,loop num [needOne Q Z,push l Z,strikes Q Z (Z-1),strike Q (Z+1)],setOf l (each (nth
s (arg Z)) Z l),samples [U,f] c 2,blanks,.for Z l [order L (.shoot Z unit) (.fn .first),stamp f L,dye 4 (slice L (some
1) none (some 2))]]),
("a61ba2ce",sized 4 15 4 15 [rands i 2 (h-2) r (h-2),rands j 2 (w-2) b (w-2),samples [U,C,g,m,t] R 5,cup u (vbar 0 i)
(hbar 0 j),cup a (hseg 0 (w-1) j) (vbar (w-1) r),cup d (vseg (h-1) 0 i) (hbar (h-1) b),cup e (hseg (h-1) (w-1) b) (vseg
(h-1) (w-1) r),blank O,fill2 O C u g a,fill2 O m d t e,dim f (2*h),dim F (2*w),bare I f F,set X (tup [u,a,d,e]),set s
(tup [C,g,m,t]),redo [tile,clear L,forZip o c X s [among Q (fits o S),find Q,push L Z,occupy (.shift o Z)],quit (eq (len
L) 4)],.for (.tuple [o,c,l]) (call .zip [X,s,L]) [ink c (.shift o l)]]),
("a61f2674",spun [remove R 2 (.remove 1 colors),grade w 5 28,dim h (w/2+1),tint2 f I,blank O,grade n 2 (w/2),clear a,
upTo o w,during [has o,lt (len a) n] [any Z o,push a Z,strikes o Z (Z+1),strike o (Z-1)],sample r (span 0 h) n,forZip j
b a r [ink f (vseg 0 j b),when (eq b (call .max [r])) [dye 1 (vseg 0 j b)],when (eq b (call .min [r])) [dye 2 (vseg 0 j
b)]]]),
("a64e4611",sans 3 18 [duo N,calls l .int [.dec 4 1*h*w],calls B .int [.dec 5 1*h*w],grade m l B,flat I N,spots I,spray
q m,ink U q,area i 3 3,hued r U i,hued t N i,empty f,empty k,.for o (occ I r) [pull c b o,add f (vec (.rand 0 2+c)
(.rand 0 2+b))],.for o (occ I t) [pull c b o,add k (vec (.rand 0 2+c) (.rand 0 2+b))],fill2 I N f U k,keep,rand d (.rand
3 8) 8,rand W 3 (h-d-4),either p 0 (.rand 3 (h/2)),count j [W,W+d] [line L p j (h-1) j,stamp U L],count j [W+1,W+d-1]
[line L (cond (gt p 0) (p+1) p) j (h-1) j,dye 3 L],any n (tup [tup [m1],tup [1],vec m1 1]),arms,given [eq (len n) 1,eq
(.grade 0 1) 1] [set n (tup [un .neg (nth n 0)]),arms]]),
("a65b410d",spun [diff c colors (vec 1 3),sides 3,set m (h/2),set p (w/2),grades d 0 m e p,ite coin [set W e,set li d]
[set li (h-d),set W (w-e)],max li (.min (h-2) li) 1,max W (.min (w-2) W) 1,locate,any U c,other l U c,sheet,ink l (hseg
li 0 W),shoot b (vec (li+1) (W-1)) (vec 1 m1),set f (lam [ij] (cond (ge column 0) (link (arg ij) (vec row 0)) (.fset
(.table [])))),mapply b f b,shoot g (vec (li-1) (W+1)) (vec m1 1),mapply g f g,ans 1 b,dye 3 g]),
("a68b268e",sized 2 14 2 4 [tint [U,L,C,s,t,v] 6 canv,plot S canv,share d (h*w) n,share e (h*w) c,share f (h*w) a,share
g (h*w) b,draw o S n,draw i S c,draw j S a,draw k S b,dyed O canv C o,fill2 O s i t j,dye v k,whole l (.fill canv C
o),whole m (.fill canv s i),whole u (.fill canv t j),whole p (.fill canv v k),canvas I L (2*h+1) (2*w+1),lay (.move l
(h+1) (w+1)),lay (.move m (h+1) 0),lay (.move u 0 (w+1)),lay (.move p 0 0)]),
("a699fb00",sans 2 4 [rate n (h-1),upTo o h,sample l o n,tint2 g I,blank O,.for i l [grade e 2 (w-2),set f (.grade 1
(e/2)*2),min f (.max 2 f) e,set s (e-f),line L i s i e,dye 2 L,set p (pairs i (arg j) j (call .range [s,e+1,2])),dye g
p,ink g p]]),
("a740d043",sans 0 2 [rise n 1 ((h-1)*(w-1)/2),either nc n ((h-1)*(w-1)-n),min nc (.max 1 n) ((h-1)*(w-1)-1),bg,hues
numc 1 (len K) K,blank c,area V (h-1) (w-1),one ch V,pose nc,lodge l M,set P (motley K l),laid I c P,calls O .compress
[I],replace O O U 0]),
("a78176bb",big 6 [rate a ((h+w)/8),bg,budget (10*a),blanks,tile,fullInds,clear s,count D [h-5,m1,m1] [push s (vec D
0)],count D [1,w-4,1] [push s (vec 0 D)],trying a [tick,needOne s v,cap L (.shoot v unit) fullinds,skip (un .not (sub L
S)),calls l .sortedBy [L,lam [x] (part x 0)],rands r 2 (.min 5 (len l-3)) i (.min 5 (len l-3)),only b (.area r r) ij (ge
column row),plus o (.any (mid l 1 (un .neg r-1))) right,dm d (those (.area i i) [ij] (ge column row)),plus g (.any (mid
l 1 (un .neg i-1))) south,plus p v (vec 0 (un .neg i-2)),cap j (collect .set (.plus p (sq (arg k))) k (range (.max h
w))) fullinds,plus m v (vec (un .neg r-2) 0),cap q (collect .set (.plus m (sq (arg k))) k (range (.max h w)))
fullinds,items D (.tuple [t,u,e]) (.sample (list [tup [b,o,q],tup [d,g,j]]) 2) [shift t t u,cup f (.cup L t) e,ite (eq D
0) [samples [n,c] K 2] [other c n K],when (cond (eq D 0) (sub f S) (sub (.cup t e) f)) [placed (S-f-near f),ink c
t,stamp n L,dye n e]]],when coin [hm I I,hm O O]]),
("a79310a0",sans 2 2 [lone,dyed O c 2 (.move l 1 0)]),
("a85d4709",[avoid (tup [2,3,4]),dim h 2,rate a 10,set w (a*3),tint2 d I,blank O,times b h [roll Z (a-1),grade e 0
(a/2+1),set Z (a/3+.any (vec (un .pos e) (un .neg e))),min Z (.max 0 Z) (a-1),split o T (tup [vec 0 2,vec 1 4,vec 2
3]),update Z .add (o*a),dot I d b Z,line l b 0 b (w-1),dye T l]]),
("a87f7484",mirrored (sized 2 5 2 30 [grade num 3 (.min (30/h) 9),bg,inks num,share d (h*w) nc,blank c,plot S c,draw r S
nc,set3 a (collect .set (arg l) l r) n (S-uniq r) o (collect .set (arg l) l r),grade e 0 (h*w-1),set s (h*w-e),loop s
[ite coin [ite (gt (len a) 1) [one ch a,strike o ch,strike a ch] [when (gt (len n) 1) [one ch n,set o (.insert ch
o),strike n ch]]] [ite (gt (len n) 1) [one ch n,set o (.insert ch o),strike n ch] [when (gt (len a) 1) [one ch a,strike
o ch,strike a ch]]]],dyed O c (nth Y 0) r,set g (list [O]),.for C (drop Y 1) [push g (.fill c C o)],shuffle g,tupleOf g
g,merge I g])),
("a8c38be5",turned [allCols,alike d g 9 20,dim h (d+4),dim w (g+4),pickTwo U sqc,tones numc 8,canvas O sqc d g,dye U
(box (.plot O)),rand l 2 (d-7),rand loci2 (l+4) (d-3),rand c 2 (g-7),rand locj2 (c+4) (g-3),set3 s (hray (vec l 0)) u
(hray (vec loci2 0)) y (vray (vec 0 c)),set z (vray (vec 0 locj2)),cup A (.cup s u∪y) z,dye sqc A,dot O U ((l+loci2)/2)
1,dot O U ((l+loci2)/2) (g-2),dot O U 1 ((c+locj2)/2),dot O U (d-2) ((c+locj2)/2),objects X O true false true,merge X
(uniq (collect .elements (.hued (.any Y) (arg P)) P X)),put X,set I O,set f (h-d),rands e 1 (f-3) j (f-e-2),rand q 1
(f-e-j-1),set B (f-e-j-q),set i (w-g),rands t 1 (i-3) n (i-t-2),rand r 1 (i-t-n-1),set3 C (i-t-n-r) I (take I
loci2+copies (copies U g) j+drop I loci2) I (take I (l+1)+copies (copies U g) q+drop I (l+1)),set I (copies (copies U g)
e+I+copies (copies U g) B),dm I I,set3 I (take I locj2+copies (copies U h) n+drop I locj2) I (take I (c+1)+copies
(copies U h) r+drop I (c+1)) I (copies (copies U h) t+I+copies (copies U h) C),dm I I,grade D 0 10,when coin [set I
(drop I (l+e+1)+take I (l+e+1))],when coin [dm I I,set I (drop I (c+t+1)+take I (c+t+1)),dm I I],loop D [whole o I,bare
m (h+12) (w+12),paint m (.move o 6 6),objects X m false true true,set X (map [rbind (.fn .shift) (sq (int
(-6))),X]),calls p .dict [],.for P X [set M (shape P),ite (mem M p) [push ⟨p,[M]⟩ P] [store ⟨p,[M]⟩ (list [P])]],quit
(eq (call .max [each (len (arg x)) x (ask .values p [])]) 1),set E (eachIf (vec (arg kk) (arg v)) (.pair kk v) (ask
.entries p []) [gt (len (arg v)) 1]),split "res" F E,samples [a,b] F 2,set G (ul a),set H (ul b),shift J (.norm a)
H,shift "K" (.norm b) G,lay (.cup J "K")],dim L 0,loop L [whole o I,bare m (h+12) (w+12),paint m (.move o 6 6),objects X
m false false true,set X (map [rbind (.fn .shift) (sq (int (-6))),X]),sfilter X X inner,need X,one P X,pair "M" (.rand
m1 1) (.rand m1 1),calls N .position [spot (h/2) (w/2),.set [center P]],either "direc" "M" N,ink U P,lay (.shift P
"direc")]]),
("a8d7556c",[except (vec 0 2) 6 30,any f R,flat c f,rate n (h*w/3*2),spots c,spray l n,fresh 0 l,few u 1 (h*w/10) s
S,fill2 I 0 (.move s 0 0) 0 (.move s 0 1),fill2 I 0 (.move s 1 0) 0 (.move s 1 1),keep,times a (h-1) [times b (w-1)
[given [eq (cell I a b) 0,eq (cell I (a+1) b) 0,eq (cell I a (b+1)) 0,eq (cell I (a+1) (b+1)) 0] [dye 2 (.set [vec a
b,vec (a+1) b,vec a (b+1),vec (a+1) (b+1)])]]]]),
("a9f96cdd",[besides [3,6,7,8] 3,paper,other f U R,blanks,plot o I,rise c 1 (h*w/10),loop c [find o,set o (o-near (nbrs
Z)),set l {Z},ink f l,fill2 O 3 (.move l m1 m1) 7 (.move l 1 1),fill2 O 8 (.move l 1 m1) 6 (.move l m1 1)]]),
("aabf363d",sized 3 28 3 28 [picks o,hue l,blank c,plot V c,one d V,min u (h*w-1) (.max 1 (div 2 3*h*w)),rate e u,set M
{d},loop e [sprout M],move M M 1 1,bare C (h+2) (w+2),dyed I C o M,dyed O C l M,ink l (.set [.one (seen U)])]),
("aba27056",spun (sans 4 6 [tint2 s canv,rand oh 3 h,grade ow 5 (w-1),grade li 0 (h-oh),roll W (w-ow),frameAt bx,set m
((ow-4)/2),roll k m,line o li (W+2+k) li (W+ow-3-k),dyed I canv s bx,ink U o,dyed O canv 4 (.hull bx),dye s bx,mapply B
(rays (vec m1 0)) o,fill2 O 4 B 4 (.shoot (.plus (vec m1 1) (ur o)) (vec m1 1)),dye 4 (.shoot (.plus (sq m1) (ul o)) (sq
m1))])),
("ac0a08a4",sized 2 5 2 5 [rate num (.min (.min 9 (h*w-2)) (.min (30/h) (30/w))),paper,blank c,plot S c,draw l S
num,rests,set P (pairs (arg T) (arg Z) (.pair T Z) (zip (.sample K num) l)),laid I c P,upscale O I num]),
("ae3edfdc",[besides [1,2,3,7] 8,paper,blank O,plot S O,rands i 1 (h-2) j (w-2),pair r i j,set E (S-({r}∪nbrs r)),only E
E ij (.and [cmp 1 [(.le,part ij 0),(.le,h-2)],cmp 1 [(.le,part ij 1),(.le,w-2)]]),one bd E,pull f l bd,fill2 O 2 {r} 1
{bd},fewOf a 1 8 g (nbrs r),fewOf b 1 8 o (nbrs bd),fill2 O 3 g 7 o,set3 p (tableOf d (vec 3 (call .position [.set [r],
.set [arg d]])) g) c (tableOf d (vec 7 (call .position [.set [bd],.set [arg d]])) o) m (tables [p,c]),set B ((len g+len
o)*((h+w)/5)),rate s B,copy I O,fullInds,loop s [clear t,forPair Z (.pair T D) (ask .entries m []) [pull u J (.plus Z
D),given [mem (vec u J) fullinds,eq (cell I u J) U] [push t (tup [Z,T,D])]],need t,parts [Z,T,D] (.any t),delete ⟨m,
[Z]⟩,plus n Z D,store ⟨m,[n]⟩ (vec T D),fill2 I U {Z} T {n}]]),
("ae4f1146",[spare R 1,bg,hue f,sides 6,grades d 2 (h/3) a (w/3),gradeBy num (2*d*a),upTo c (d*a),set r (sorted (.sample
c (.min num (len c)))),clear s,canvas C f d a,spots C,.for b r [spray x b,dyed e C 1 x,push s (.whole e)],laid O C (nth
s m1),sheet,plot i (slab (h-d) (w-a)),set maxtr 10,.for g (back s) [need i,land i l g,set tr 0,during [un .not (sub
(.locs l) i),lt tr maxtr] [land i l g,tick],when (lt tr maxtr) [cut i (.locs l∪rim l),lay l]]]),
("aedd82e4",[spare t 1,sides 1,set U 0,remove K U t,strata 8 false,ans 1 r]),
("af902bf9",sans 2 10 [scheme u 1 8,gradeBy n 20,set3 succ 0 maxtr (5*n) tr 0,blanks,tile,retry n [tryRect 3 5 5 d,free
d [occupy d,inc succ,tone,set C (corners d),stamp T C,hull i (inbox C),dye 2 i]]])]

def idB : Recipes := [
("b0c4d837",big 5 [grades oh 3 (h-1) ow (w-1),corner oh ow,trio b f,canvas s b oh ow,canvas u f (oh-1) (ow-2),rate n
(.min 9 (oh-2)),times j n [fill u U (hseg j 0 (ow-2))],paint s (.move (.whole u) 0 1),sheet,lay (.move (.whole s) li
W),set O (copies f n+copies U (9-n)),set O (tup [take O 3,back (mid O 3 6),drop O 6]),any rotf rotations,apply I rotf]),
("b190f7f5",[set f colors,alike h w 2 5,any U f,remove R U f,blank c,share u (h*w) numc,portion m 0 (h*w/2) n (h*w) 2
(h*w-1),spots c,spray s numc,pick o R,grade l 2 8,spray t n,inks l,any i Y,set r (list [vec i (nth t 0),vec (.any
(.remove i Y)) (nth t 1)]+each (vec (.any Y) (arg ij)) ij (drop t 2)),fset r r,dyed d c o s,laid g c r,either e (.fn
.hconcat) (.fn .vconcat),either j (list [d,g]) (list [g,d]),set I (spread e j),bare O (pow h 2) (pow w 2),.for Z t [pull
a b Z,dye (cell g a b) (.shift s (mult Z (vec h w)))]]),
("b1948b0a",sans 6 2 [grade n 0 (h*w/2),either p n (h*w-n),min p (.max 0 n) (h*w),flat I 6,spots I,spray a p,diff b S
a,.for ij b [ink (.any R) {ij}],ans 2 a]),
("b230c067",[avoid (vec 1 2),redo [sides 10,grades oh 2 (h/3-1) ow (w/3-1),grade u 0 (oh*ow/2),either numc u
(oh*ow-u),min b (.max 2 numc) (oh*ow-2),field,one e V,set M {e},loop b [sprout M],normalize p M,setOf s (.norm M),set m
(oh*ow-len p),rate i m,set n (m-i),min n (.max 1 n) m,loop n [sprout s],maySwap p s,tint2 f c,plot S c,within d S (h-ht
p) (w-wd p),one o d,shift a p o,fresh f a,dyed O c 2 a,set3 maxtrials 10 tr 0 succ 0,shun S a,within S S (h-ht s) (w-wd
s),seeking 2 [need S,land S l s,free l [ink f l,dye 1 l,placed (S-l-near l)],tick],quit (eq succ 2)]]),
("b27ca6d3",sans 3 4 [tint2 o c,blanks,grades N 0 (h*w/5) n (h*w/12),cup d (.frozen [vec o unit]) (.hued U (dnbrs
unit)),dyed b (slab 4 3) o (vecs 1 1 2 1),dm a b,whole b b,whole a a,set t (list [d]*N+anyOf (vec b a) k n),shuffle
t,move S (.area (h+2) (w+2)) m1 m1,.for e t [pair Z m1 m1,set tr 0,during [un .not (sub (.locs (.shift e Z)) S),lt tr 5]
[one Z S,tick],lodge x e,free (.locs x) [lay x,ite (eq (len e) 12) [put (collect .set (cond (ne (part l 0) U) (arg l)
(vec 3 (part l 1))) l x)] [put x],occupy (.locs x)]]]),
("b2862040",[avoid (tup [8]),redo [sides 10,tries N 1 (h*w/16) 10,bg,sheet,tile,trying N [tick,sizes 3 6,frame P 0 0
(oh-1) (ow-1),when coin [grade n 2 (len P-1),set r (len P-n),strike P (.one (P-corners P)),again r [only x P ij (eq (len
(dnbrs (arg ij)∩P)) 1),need x,strike P (.one x)]],grade p 0 (oh+ow),cup o (rim P∪rim (rim P)) (rim (rim (rim P))),setOf
P P,raise p o (beside P∩o),seekBox,lodge c P,free c [ink anyHue c,placed (S-c-near c)]],parted false b U,set j (mfilter
b inner),whenAny j [set e (mfilter (X-b) (rbind (.fn .adjacent) j)),ans 8 e,.break]]]),
("b527c5c6",big 8 [scheme C 2 9,blanks,tile,fullInds,rate N 10,set3 tr 0 succ 0 maxtr (10*N),trying N [tick,rand a 3
(.rand 3 (.min h w/2-1)),rand b (a*2+1) (.rand (a*2+1) (.min h w-1)),samples [oh,ow] (list [a,b]) 2,among Q (.and [cmp 1
[(.le,part ij 0),(.le,h-oh-1)],cmp 1 [(.le,part ij 1),(.le,w-ow-1)]]),want Q,one Z Q,pull li W Z,frameAt bx,hull bd
bx,ite (lt ow oh) [set l true,line d (li+ow-1) W (li+oh-1-ow+1) W,move c d 0 (ow-1)] [set l false,line d li (W+oh-1) li
(W+ow-1-oh+1),move c d (oh-1) 0],cup n d c,one Z n,set s (cond (mem Z d) m1 1),pair D (s*cond l 0 1) (s*cond (un .not l)
0 1),shoot L Z D,empty e,again (.min oh ow) [update e .union (.apply (call .power [.fn .outbox,k+1]) [L])],samples [q,t]
Y 2,cup i (.hued q (.remove Z bd)) (spot t Z),cup g (.hued q (.cup bd e-L)) (.hued t L),only g g cij (mem (part cij 1)
fullinds),locs o g,free o [placed (S-o-beside bd),lay i,put g]]]),
("b548a754",spun (sized 5 30 4 30 [grade i 4 (h-1),grade a 3 (w-1),corner i a,frame bx li W (li+i-1) (W+a-1),hull s
(inbox bx),tint [U,b,n,o] 4 c,dyed O c b bx,dye n s,rand u (li+2) (li+i-2),frame x li W u (W+a-1),hull d (inbox x),fresh
b x,ink n d,one l (hseg (li+i-1) W (W+a-1)),ink o {l}])),
("b60334d2",sans 1 6 [frames 9 2 [set c (center b),both f {c} (call .ineighbors [c]),dye 1 (dnbrs c)]]),
("b6afb2da",[besides [1,2,4] 10,bg,trials 9,boxed [ink T bd,dye 2 bd,dye 4 (box bd),dye 1 (corners bd),taken
(indss-bd)]]),
("b7249182",mirrored (sized 7 30 5 30 [grade H 3 ((h-1)/2),trio c b,bare s H 5,blanks,fill2 s c (vseg 0 2 (H-2)) c (hseg
(H-2) 0 4),dot s c (H-1) 0,dyed u s c (spot (H-1) 4),replace g u c b,vcat s u (.hm g),corner (2*H) 5,whole P s,move P P
li W,dot I c li (W+2),dot I b (li+2*H-1) (W+2),put P])),
("b775ac94",big 10 [canvas I 0 1 1,bg,tries B 1 (h*w/25) 5,blanks,tile,trying B [tick,sizes 2 5,bare canv oh ow,samples
[q,A,D,v] K 4,these P [base],share C (oh*ow) N,plot V canv,loop N [swell P V],dyed l canv q P,replace d (.vm l) q
A,replace u (.hm l) q D,replace e (.vm (.hm l)) q v,hcat f e u,hcat i d l,vcat g f i,bare a (oh*2) (ow*2),fill a q
(.move P oh ow),few n 1 3 s (tup [A,D,v]),.for z (tup [A,D,v]) [ite (notMem z s) [replace g g z U] [set j (cond (mem z
(vec D v)) m1 0),set m (cond (mem z (vec A v)) m1 0),dot a z (oh+j) (ow+m)]],any rotf rotations,apply g rotf,apply a
rotf,whole b a,whole o g,only o o cij (ne (part cij 0) U),only b b cij (ne (part cij 0) U),set t (invert (ul o)),shift b
b t,shift o o t,dims oh ow o,seekBox,lodge L b,lodge c o,locs p c,free p [placed (S-p-near p),lay L,put c]]]),
("b782dc8a",spun [set3 R colors i (.table [(.str "N",.str "S"),(.str "S",.str "N"),(.str "E",.str "W"),(.str "W",.str
"E")]) t (list [vec (.str "W") (vec m1 0),vec (.str "E") south,vec (.str "S") right,vec (.str "N") (vec 0 m1)]),set k
(.table [(.str "N",true),(.str "S",true),(.str "E",true),(.str "W",true)]),redo [alike h w 3 15,set3 m (each (each k y
(range h)) x (range w)) kk (h*w) s (list []),pair C 0 0,set v 1,.while (lt v kk) [clear n,forPair D (.pair q u) t [pull
a b (vec (nth C 0+q) (nth C 1+u)),given [cmp 0 [(.le,a),(.lt,w)],cmp 0 [(.le,b),(.lt,h)]] [when (call .all [ask .values
(cell m a b) []]) [push n (vec D (vec a b))]]],when (un .not n) [set C (nth s m1),set s (take s m1),.continue],split D e
n,store ⟨m,[nth C 0,nth C 1,D]⟩ false,store ⟨m,[nth e 0,nth e 1,nth i D]⟩ false,push s C,set C e,inc v],samples [p,l,d,
f] R 4,set g (list [each p x (range (w*2))]),times y h [set o (list [p]),times x w [push o l,push o (cond (cell (nth m
x) y (.str "E")) p l)],push g o,set o (list [p]),times x w [push o (cond (cell (nth m x) y (.str "S")) p l),push o p],
push g o],tuples I (.tupleOf (mid (arg r) 1 m1)) r (mid g 1 m1),parted false X p,only X X P (gt (call .size [arg P]) 4),
want X,order X X (.fn .size),.len B X,grade A 0 (B-1),locs P (nth X A),one c P,ink d {c},cap n (dnbrs c) (seen p),ink f
n,only j P ij (call .even [dist (.set [arg ij]) {c}]),set J (P-j),ans d j,dye f J,.break]]),
("b8825c91",turned [spare R 4,mandala,keep,.for a (vec 2 1) [grades l 1 (a*h) o w,set li (a*h-l),set W (w-o),grade c li
(a*h-1),grade j W (w-1),rect bd li W c j,ink 4 bd,pull I O (vec (rot180 I) (rot180 O))]]),
("b8cdaf2b",spun (big 3 [trio L d,line l 0 0 0 (w-1),grade i 2 (w-1),set a (w-i),min a (.max a 1) (w-2),rand W 1
(w-a-1),line b 0 W 0 (W+a-1),blank c,fresh L l,fill2 I d b L (.move b 1 0),ans d (.shoot (vec 2 (W-1)) (vec 1 m1)),dye d
(.shoot (vec 2 (W+a)) unit)])),
("b91ae062",sized 2 5 2 5 [few numc 3 (.min (h*w) (.min 10 (30/.max h w))) Y R,flat c m1,spots c,spray f numc,set P
(pairs (arg C) (arg ij) (.pair C ij) (zip Y f)),.for ij (.diff S f) [add P (vec (.any Y) ij)],laid I c P,upscale O I
(numc-1)]),
("b94a9452",big 4 [tint [U,u,i] 3 c,grades oh 3 (h-1) ow (w-1),corner oh ow,grades d 0 (oh/2) b (ow/2),either o d
(oh-d),min o (.max 1 o) (oh-2),either a b (ow-b),min a (.max 1 a) (ow-2),rand l (li+1) (li+oh-o-1),rand L (W+1)
(W+ow-a-1),rectAt j,rect B l L (l+o-1) (L+a-1),fresh u j,ink i B,calls O .compress [I],calls O .switch [O,u,i]]),
("b9b7f026",big 10 [bg,sheet,rate num 9,plot indss I,set3 maxtrials (4*num) succ 0 tr 0,set o .nothing,boxes (sizes 3 7)
(whenClear [strike K T,ink T bd,taken (indss-bd),when (isNone o .nothing) [set o T,seq Q (.hull (inbox bd)),hull b (cond
(gt (len Q) 2) (.fset (.sample Q 2)) (.fset Q)),ink U b]]),canvas O o 1 1]),
("ba26e723",[except (vec 0 6) 2 30,flat I 0,flat O 0,upTo o h,few c 1 8 Y R,times j w [few nc 1 (h-1) l o,fset P (pairs
(.any Y) (vec (arg i) j) i l),lay P,when (eq (j%3) 0) [hued P 6 P],put P]]),
("ba97ae07",mirrored (big 3 [bg,blanks,grades l 1 (h/3) i (w/3),aimIn l i,hue c,other o c K,times a l [ink c (hbar
(li+a) w)],times b i [ink o (vbar (W+b) h)],times b i [dye o (vbar (W+b) h)],times a l [dye c (hbar (li+a) w)]])),
("bb43febb",sans 2 10 [bg,trials 8,boxed [ink T bd,fill2 O 2 bd T (box P),taken (indss-bd)]]),
("bbc9ae5d",[allCols,grade w 2 15,set w (w*2),grade l 2 w,set W (w-l),pair Z 0 W,pick C R,line L 0 0 0 W,line r 0 (W+1)
0 (w-1),tones numc 9,mottle r r,canvas I m1 1 w,canvas O m1 (w/2) w,shoot N Z unit,ink C L,lay r,dye C (.mapply (rays
(vec 0 m1)) N),forPair c ij r [dye c (.shoot ij unit)]]),
("bc1d5164",sized 3 15 2 14 [set f (2*h-1),set u (2*w+1),duo o,area S h w,rands n 1 ((h-1)*(w-1)-1) b
((h-1)*(w-1)-1),rands a 1 ((h-1)*(w-1)-1) e ((h-1)*(w-1)-1),draw A (those S [ij] (.and [lt row (h-1),lt column (w-1)]))
n,draw B (those S [ij] (.and [lt row (h-1),gt column 0])) b,draw c (those S [ij] (.and [gt row 0,lt column (w-1)]))
a,draw d (those S [ij] (.and [gt row 0,gt column 0])) e,bare I f u,fill2 I o A o (.move B 0 (u-w)),fill2 I o (.move c
(f-h) 0) o (.move d (f-h) (u-w)),blank O,dye o (uniq A∪uniq B∪uniq c∪uniq d)]),
("bd4472b8",spun [nonzero,rate h 28,grade w 2 8,bg,hue i,inks w,set c (tup [.tupleOf Y]),canvas b i 1 w,blank l,vcat I
(.vcat c b) l,vcat O (.vcat c b) l,set p (hupscale (.dm c) w),whole t p,set d 2,.while (lt d (h+3)) [put (.move t d
0),update d .add w]]),
("bda2d7a6",[set t colors,alike h w 2 14,few N 2 10 R t,set c (anyOf R j (.min h w)),pair M (h*2) (w*2),set I (.canvas 0
M),items d (.pair i b) (zip c (drop c m1+take c m1)) [ring],set a I,order o (.objects a true false false) (compose (.fn
.maximum) (.fn .shape)),when (eq (color (nth o 0)) (color (nth o m1))) [set o (tup [combine (nth o 0) (nth o m1)]+mid o
1 m1)],calls r .mpapply [.fn .recolor,map [.fn .color,o],tup [nth o m1]+take o m1],laid O I r]),
("bdad9b1f",spun (sans 4 4 [grades n 1 (h/2-1) u (w/2-1),sample l (span 2 (h-1)) n,sample o (span 2 (w-1)) u,grade m 2
8,bg,inks m,blanks,set f m1,.for c (sorted l) [other T f Y,set f T,rand B 2 c,both T (hbar c B) (hbar c w)],set f
m1,.for d (sorted o) [other T f Y,set f T,rand J 2 d,both T (vbar d J) (vbar d h)],set y (product (uniq l) (uniq o)),dye
4 y])),
("be94b721",big 6 [rise n 3 (h*w/16),bg,blank c,rise nc (n+1) (2*n),plot S c,one ch S,set M {ch},strike S ch,again nc
[extend M S],shun S M,hue t,fresh t M,dyed O (.canvas U (shape M)) t (.norm M),loop n [need S,one ch S,set M {ch},rate a
(nc-1),again a [seq Q ((S-M)∩beside M),need Q,add M (.any Q)],hue T,ink T M,shun S M]]),
("beb8660c",spun [spare R 8,dim w 3,dim h w,bg,sheet,min k 8 (w-1),hues k 1 k o,set d (rising 1 w k),items j (.pair c l)
(zip o d) [set j (h-k-1+j),ink c (hbar j l)],ink 8 (hbar (h-1) w),vm O I,set I (listOf (collect .elements (listOf (arg
r)) r (take I m1))),shuffle I,tuples I (.tupleOf (arg r)) r I,set I (I+drop O m1),calls g .tuple [],.for r I [set n (ask
.count r [U]),roll f n,set g (g+tup [drop r (un .neg f)+take r (un .neg f)])],vm I g])]

end PuzzlePrograms.Recipe.Tasks
