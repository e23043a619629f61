import PuzzlePrograms.Recipe.Names

/-!
# Recipes of the tasks whose identifier starts with 0 to 3
-/

namespace PuzzlePrograms.Recipe.Tasks

open Stmt

set_option maxRecDepth 20000

def task0520fde7 : Recipe :=
  mirrored (twoPanels 2 2 U (.cap (.setOf a) (.setOf b)))

def id0 : Recipes := [
("007bbfb7",[nonzero,alike h w 2 5,flat c 0,share n (h*w) numc,spots c,spray l numc,any f R,fresh f l,canvas O 0 (pow h
2) (pow w 2),.for Z l [dye f (.shift l (mult Z (vec h w)))]]),
("00d62c1b",sans 4 5 [tint2 f I,tries n 1 (h*w/20) 5,tile,trying n [tick,sizes 3 8,seekBox,pull li W Z,frameAt bx,set bx
(bx-uniq (.draw (corners bx) (.rand 0 4))),given [sub bx S,gt (len (S-bx)) (h*w/2+1)] [ink f bx,placed (S-bx)]],max m 0
(h*w/2-1-colorcount I f),fewOf t 0 m o S,ink f o,parted false Q U,set e (mfilter Q inner),ans 4 e]),
("017c7c7b",[avoid (vec 0 2),grade h 3 10,dim w 2,update h .add h,any f R,canvas O 0 (h+h/2) w,grades oh 1 (h/3*2) ow
w,roll W (w-ow),field,portion e 0 (h*w/2) c (oh*ow) 1 (oh*ow),draw P V c,loop (2*h/oh) [dye 2 (.move P (k*oh)
0)],replace I (take O h) 2 f]),
("025d127b",big 5 [scheme u 1 9,tries B 1 (h*w/20) 5,blanks,tile,trying B [tick,sizes 3 6,seekBox,line t 0 0 0
(ow-1),line l 1 0 (oh-2) (oh-3),line r 1 ow (oh-2) (ow+oh-3),line b (oh-1) (oh-2) (oh-1) (oh-3+ow),cup N (.cup t l∪r)
b,cup o (.move t 0 1∪b∪.move l 0 1∪.line 1 (ow+1) (oh-3) (ow+oh-3)) (spot (oh-2) (ow+oh-3)),only o o ij (le column (east
N)),cup f N o,lodge N N,lodge o o,lodge f f,free f [shun S f,inc succ,tone,both T N o]]]),
("045e512c",big 11 [redo [grades oh 2 (.min 4 ((h-2)/3)) ow (.min 4 ((w-2)/3)),field,one g (vbar 0 oh),one m (hbar 0
ow),one q (hseg (oh-1) (ow-1) 0),one u (vseg (oh-1) (ow-1) 0),these P [g,m,q,u],seq r (V-P),grade l 0 (len r),loop l
[any Z r,add P Z,strike r Z],normalize o P,set C (.canvas 0 (shape P)),fill C 1 o,quit (eq (len (.colorfilter (.objects
C true true false) 1)) 1)],rand li (oh+1) (h-2*oh-1),rand W (ow+1) (w-2*ow-1),locate,pickTwo U B,tones N 8,blanks,lodge
P (.hued B P),lay P,put P,seq t (nbrs base),few n 1 8 d t,set c (anyOf Y k n),cup b (hray (vec (li-2) 0)) (hray (vec
(li+oh+1) 0)),cup v (vray (vec 0 (W-2))) (vray (vec 0 (W+ow+1))),cup a b v,set f (increment (vec oh ow)),forZip D T d c
[shift i P (mult D (increment (vec oh ow))),only i i cij (mem (part cij 1) a),grade s 0 (len i-1),set e (len i-s),setOf
i (.draw i e),given [has i,lt (len i) (len P)] [ink T i,count k [1,10] [dye T (.shift P (mult (mult k D) f))]]]]),
("0520fde7",task0520fde7),
("05269061",[pair i 2 30,interval c 1 10 1,gradeIn d i,canvas O 0 d d,canvas I 0 d d,ite coin [pair p 2 (.min (2*d-2)
9),gradeIn num p,tuples R (.any c) k (range num),set e (anyOf (.interval (arg j) (2*d-1) num) j num),items k T (take
(R*30) (2*d-1)) [shoot l (toivec k) (vec m1 1),dye T l,when (eq (nth e (k%num)) k) [ink T l]]] [pair p 2 (.min d
9),gradeIn num p,tuples R (.any c) k (range num),set e (anyOf (.interval (arg j) d num) j num),items k T (take (R*30) d)
[set l (hray (toivec k)),dye T l,when (eq (nth e (k%num)) k) [ink T l]]],when coin [vm I I,vm O O]]),
("05f2a901",turned (big 8 [grade j 2 (.min (w/2) (h/2)),grade B j (w/2),area g j B,one i g,set P {i},strike g i,grade e
(j+B) (j*B),again e [extend P g],when (eq (ht P*wd P) (len P)) [strike P (.one P)],norm P,dims j B P,grade li 3
(h-j),grade W 0 (w-B),locate,tint [U,f,d] 3 I,blank O,lodge P P,ink f P,rand s 1 (.min w (li-1)),roll l (li-s-1),rand o
(W-s+1) (W+B-1),pair c l o,hull m (vecs l o (l+s-1) (o+s-1)),stamp d m,.while (isEmpty (.cap P m)) [move P P m1 0],move
P P 1 0,dye f P])),
("06df4c85",[lattice,area s oh ow,.for T Y [set S (occ O (.hued U s)),chains (.shift s p) (.mapply (shifter s) (uniq
(take r (i+1)))),stamp T (.shift s Z)]]),
("08ed6ac7",[set t colors,sides 4,any U (.diff t (tup [1,2,3,4])),remove K U t,blanks,pair r 4 w,upTo L w,gradeIn n
r,sample l L n,upTo o h,sample b o 4,set c (each anyHue j (range n)),set a (anyOf b j (n-4)+listOf b),shuffle a,set d
(sorted b),interval e 1 5 1,forZip T (.pair li W) c (listOf (zip a l)) [line B li W (h-1) W,ink T B,dye (nth e (ask
.position d [li])) B]]),
("09629e4f",sized 2 5 2 5 [pull n u (vec h w),picks b,grade N 2 (.min 7 (h*w-2)),blank c,spots c,pull f F (vec (h*n+n-1)
(w*u+u-1)),canvas I b f F,seq L (product (.interval 0 f (h+1)) (.interval 0 F (w+1))),any t L,remove E t L,sample o K
N,remove s (.any o) o,spray r (N-1),ink U (.shift S t),forZip ij l r s [ink l (.set [.plus t ij])],.for a E [spray g
N,copy m c,forZip ij l g o [fill m l {ij}],lay (.shift (.whole m) a)],bare O f F,dye b (seen b),forZip ij l r s [dye l
(.shift S (mult ij (vec (h+1) (w+1))))]]),
("0962bcdd",[except (vec 3 4) 10 30,scheme numc 2 7,trials (h*w/25),pull oh ow (sq 5),openings oh ow,seeking num [need
indss,when (isEmpty subs) [tick,.continue],split li W subs,frozen P [here,vec (li+4) (W+4)],hull bd P,tone,whenClear
[samples [c,b] Y 2,pair C (li+2) (W+2),line l li W (li+4) (W+4),line i (li+4) W li (W+4),cup n l i,line s (li+2) W
(li+2) (W+4),line a li (W+2) (li+4) (W+2),cup d s a,fill2 O b d c n,fill2 I c {C} b (dnbrs C),taken (indss-bd)],tick]]),
("0a938d79",[allCols,grade h 4 29,dim w (h+1),tint [U,c,b] 3 I,blank O,grade l 3 (w-2),rate o (l-2),either i 0
(h-1),either d 0 (h-1),dot I c i l,dot I b d o,set f (int (-2)*(l-o)),count a [l,m1,f] [dye c (vbar a h)],count B
[o,m1,f] [dye b (vbar B h)],either rotf (.fn .rot180) (.fn .rot270),apply I rotf,apply O rotf]),
("0b148d64",[set i colors,sides 7,any U i,remove e U i,blank g,rands x 3 (h-3) y (w-3),rands d 2 (h-x-1) j (w-y-1),rect
A 0 0 x y,rect B (x+d) 0 (h-1) y,rect c 0 (y+j) x (w-1),rect a (x+d) (y+j) (h-1) (w-1),any o e,other l o e,any t (tup
[A,B,c,a]),remove b t (tup [A,B,c,a]),set s (lam [bx] (.set [.one (link (ul (arg bx)) (ur (arg bx))),.one (link (ul (arg
bx)) (ll (arg bx))),.one (link (ur (arg bx)) (lr (arg bx))),.one (link (ll (arg bx)) (lr (arg bx)))])),set m (lam [bx]
(uniq (.draw (arg bx) (len (arg bx)- .grade 0 (len (arg bx)-1))))),dyed I g o (.apply m [t]∪.apply s [t]),.for r b [ink
l (.apply m [r]∪.apply s [r])],set O (subgrid (.fset t) I)]),
("0ca9ddb6",[avoid (tup [1,2,4,6,7,8]),set3 x (spot 8 base) a (spot 8 base) i (spot 6 base),these b [vec 6 base],these c
[vec 2 unit],cup d (spot 2 unit) (.hued 4 (call .ineighbors [unit])),these e [vec 1 unit],cup f (spot 1 unit) (.hued 7
(dnbrs unit)),set r (tup [vec i b,vec c d,vec e f,vec x a]),sides 4,gradeBy j 4,set3 maxtr (5*j) tr 0 succ
0,paper,blanks,tile,trying j [split n u r,land S o u,locs p o,free p [inc succ,lay (.shift n Z),put o,occupy p],tick]]),
("0d3d703e",[set i (tup [1,2,3,4,5,6,8,9]),set o (tup [5,6,4,3,1,2,9,8]),.len k i,sides 4,flat I m1,flat O m1,tile,few
numc 1 k d (span 0 k),.for ij S [any D d,ink (nth i D) {ij},dye (nth o D) {ij}]]),
("0dfd9992",patched [set li (p*a),set W (c*b),add L here,set3 m (cond (eq (a%2) 0) idf (.fn .hmirror)) k (cond (eq (b%2)
0) idf (.fn .vmirror)) "M" (compose m k),put (.move (.apply "M" [o]) li W)] [rate n (trunc (pow (h*w) (.dec 5
1)/2)),holed [set N cutouts,given (legible ++ [.or [mem o N,mem (.hm o) N,mem (.vm o) N,mem (.hm (.vm o)) N]]) [inc
succ,set I g]]]),
("0e206a2e",big 10 [tint [U,A,B,o,d] 5 I,blank O,tile,rate n (.min h w/5),set3 r (list []) i (list []) f (5*n),set t
0,set u 0,during [lt t f,lt u n] [inc t,grade j 5 20,area v 7 7,one C v,strike v C,set M {C},again j [extend M v],.while
(mem 1 (shape M)) [extend M v],.while (.or [eq (len (uniq (each (arg x-arg y) (.pair x y) M))) 1,eq (len (uniq (each
(arg x+arg y) (.pair x y) M))) 1]) [extend M v],norm M,set M (listOf M),shuffle M,parts [a,b,c] (take M 3),.while (.or
[mem 1 (shape (.set [a,b,c])),.or [eq (len (uniq (each (arg x-arg y) (.pair x y) (.set [a,b,c])))) 1,eq (len (uniq (each
(arg x+arg y) (.pair x y) (.set [a,b,c])))) 1]]) [shuffle M,parts [a,b,c] (take M 3)],skip (mem (sorted (shape (.set
[a,b,c]))) i),.drop e M 3,these m [vec A a,vec B b,vec o c],cup P m (pairs d (arg ij) ij e),fset P P,extents,among q
(fits (uniq M) S),want q,one Z q,inc u,lay (.shift P Z),lodge s (uniq M),dye m1 s,shun S s,push r (vec P m),push i
(sorted (shape (.set [a,b,c])))],gradeBy num 30,set3 maxtrials (10*num) tr 0 succ 0,during [lt succ num,lt tr maxtrials]
[set mfs symmetries,any fn mfs,apply I fn,apply O fn,plot g O,set fullinds (.dots O U-near (g- .dots O U)),split P m
r,locs M P,need fullinds,one l fullinds,shift p M l,when (sub p fullinds) [inc succ,lay (.shift m l),put (.shift P
l)],tick],replace O O m1 U])]

def task1b2d62fb : Recipe :=
  mirrored (twoPanels 8 2 0 (.cap (.dots "gia" 0) (.dots gib 0)))

def id1 : Recipes := [
("10fcaaa3",without 8 2 15 2 15 [grades e 1 (.max 1 (h*w/6)) o 8,bg,inks o,blank c,plot S c,fset l (.draw S e),fset P
(motley Y l),laid I c P,hcat O I I,vcat O O O,cup f (l∪.move l 0 w∪.move l h 0) (.move l h w),mapply n (.fn .ineighbors)
f,cap t n (.dots O U),dye 8 t]),
("11852cab",[set3 R colors b (tup [base,vec 0 4,vec 4 0,sq 4]) c (tup [vec 2 0,vec 0 2,vec 4 2,vec 2 4]),set3 d (tup
[unit,vec 3 1,vec 1 3,sq 3]) f (tup [sq 2]) g (list [f,d,c,b]),hull bx (.fset b),sides 7,scheme numc 1 9,blanks,move S
(.plot (trim I)) 1 1,tries N 1 (.max 1 (h*w/36)) 10,trying N [tick,among Q (.and [le row (h-5),le row (w-5)]),need
Q,land Q L bx,free L [set3 S (S-L-rim L) i (anyOf Y k 4) p (each (.shift (arg r) Z) r g),stamp (nth i 0) (nth p 0),rand
D 1 3,stamp (nth i D) (nth p D),set e (mid p 1 D+drop p (D+1)),set m (mid i 1 D+drop i (D+1)),few u 1 2 C right,set e
(placedAt a e C),set m (placedAt a m C),merge t (.fset (collect .elements (.hued (arg T) (.fset (.draw (arg n) (4-
.grade 0 3)))) (.pair n T) (zip e m))),merge o (.fset (collect .elements (.hued (arg T) (arg n)) (.pair n T) (zip e
m))),when (eq (call .min [shape t]) 5) [inc succ,lay t,put o]]]]),
("1190e5a7",[pair i 3 30,set l colors,gradesIn i,any U l,blank c,pair b 1 (h/3),pair u 1 (w/3),gradeIn n b,gradeIn a
u,interval o 1 (h-1) 1,interval p 1 (w-1) 1,clear s,loop n [any f o,push s f,cut o (tup [f-1,f,f+1])],clear e,loop a
[any v p,push e v,cut p (tup [v-1,v,v+1])],remove K U l,set r (lam [x] (.hued anyHue (arg x))),mapply d (call .chain
[r,.fn .hfrontier,.fn .toivec]) (.tupleOf s),mapply g (call .chain [r,.fn .vfrontier,.fn .tojvec]) (.tupleOf e),laid I c
(combine d g),bare O (n+1) (a+1)]),
("137eaa0f",sized 2 4 2 4 [picks t,flat O t,spots O,any Z S,remove e Z S,hues nc 1 (.min (h*w-1) 8) o,set d (tableOf c
(call .set []) o),.for c o [any ij e,add ⟨d,[c]⟩ ij,strike e ij],.for r e [add ⟨d,[.any o]⟩ r],forPair c x (ask .entries
d []) [dye c x],alike g i (.min h w*2) 30,tuples X (.norm (.insert (vec t Z) (.fset (pairs (arg c) (arg ij) ij (nth d
(arg c)))))) c o,set maxtr (.min h w*2),set m 1000,redo [set succ true,bare I g i,tile,.for P X [extents,set s false,set
tr 0,during [lt tr maxtr,un .not s] [aim 0 (g-oh) (i-ow),move l P li W,tick,free (.locs l) [set s true]],ite s [lay l,
cut S (.locs l),cut S (near (.locs l))] [set succ false,.break]],quit succ,inc m,quit (lt m 1000),calls maxtr .int
[maxtr*.dec 15 1],rand g g 30,rand i i 30]]),
("150deff5",[avoid (vec 2 8),set3 a (.set [base,right,south,unit]) o (.set [base,right,vec 0 2]) c (.set [base,south,vec
2 0]),empty b,empty r,sides 8,tint2 f I,blank O,grade N 2 (h*w/10),tile,clear n,loop N [split P T (vec (vec a 8) (vec
(.any (vec o c)) 2)),extents,among Q (.and [le row (h-oh),le column (w-ow),fits P S]),ite (eq T 8) [only Q Q ij (notMem
(arg ij) b)] [only Q Q ij (notMem (arg ij) r)],find Q,when (eq T 8) [add b (.plus Z (vec (int (-2)) 0)),add b (.plus Z
(vec 2 0)),add b (.plus Z (vec 0 2)),add b (.plus Z (vec 0 (int (-2))))],when (eq T 2) [ite (eq P o) [add r (.plus Z
(vec 0 3)),add r (.plus Z (vec 0 (int (-3))))] [add r (.plus Z south),add r (.plus Z (vec m1 0))]],lodge l P,ink f l,dye
T l,occupy l]]),
("178fcbfb",[besides [1,2,3] 3,paper,blanks,spots I,set3 i (call .set []) j (call .set []) mp (h*w/3),.for T (tup
[2,1,3]) [rate b (cond (eq T 2) w (h/2)),times d b [when (eq T 2) [any ij (those S [ij] (notMem (last (arg ij)) j)),add
j (last ij)],when (.or [eq T 1,eq T 3]) [any ij (those S [ij] (notMem (.first (arg ij)) i)),add i (.first ij)],both T
(call .initset [ij]) (.apply (cond (eq T 2) (.fn .vfrontier) (.fn .hfrontier)) [ij]),strike S ij]]]),
("1a07d186",mirrored (big 8 [bg,hues n 1 (w/5) l,cut K l,hues o 0 (len K) s,upTo C w,clear L,loop n [needOne C Z,cut C
(span (Z-2) (Z+3)),push L Z],set L (sorted L),.len n L,set l (take l n),sheet,forZip Z T L l [ink T (vbar Z h)],keep,few
c 1 h a (span 0 h),diff t (span 0 w) L,.for g a [few N 1 (.min (n+o) ((w-n)/2-1)) b t,draw f (uniq l∪uniq s) N,forZip d
T b f [dot I T g d,when (mem T l) [set D (ask .position l [T]),set i (nth L D),ite (gt d i) [dot O T g (i+1)] [dot O T g
(i-1)]]]]])),
("1b2d62fb",task1b2d62fb),
("1b60fb0c",sans 2 10 [grade o 2 (.min h w/2),corner (2*o) (2*o),locate,duo B,bare q o o,share l (pow o 2) e,draw cells
(.area o o) e,dyed g q B cells,rot90 a g,rot90 b a,rot90 d b,move C (.dots g B) 0 0,move f (.dots a B) 0 o,move t (.dots
b B) o o,move u (.dots d B) o 0,roll s o,move C C 0 s,move f f s 0,move t t 0 (un .neg s),move u u (un .neg s) 0,set c
(tup [C,f,t,u]),any r c,remove i r c,merge N (uniq i),set r (r-N),lodge N N,lodge r r,sheet,ink B N,ans 2 r]),
("1bfc4729",big 4 [when (eq (h%2) 1) [either h (.max 4 (h-1)) (.min 30 (h+1))],grade a (w/2) (w-1),when coin [max a
(.min (w/2) (a-w/2)) 1],rand c 1 (h/2-1),grade b (w/2) (w-1),when coin [max b (.min (w/2) (b-w/2)) 1],rand i (h/2)
(h-2),picks A,hue B,sheet,pair l c a,pair o i b,fill2 I A {l} B {o},ans A (hray l),fill2 O B (hray o) A (hbar 0 w),fill2
O B (hbar (h-1) w) A (vbar 0 (h/2)),fill2 O A (vbar (w-1) (h/2)) B (vseg (h/2) 0 (h-1)),dye B (vseg (h/2) (w-1)
(h-1))]),
("1c786137",[pair D 3 30,pair n 1 8,interval C 1 10 1,gradesIn D,pair i 0 (h*w),flat c 0,spots c,gradeIn m i,gradeIn d
n,spray e m,sample s C d,any t (.diff C s),fset N (collect .elements (vec (.any s) (arg ij)) ij e),laid I c N,pair x 3
(.max 3 (h/2)),pair g 3 (.max 3 (w/2)),gradeIn b x,gradeIn o g,any f (span 0 (h-b+1)),any j (span 0 (w-o+1)),pair Z f
j,plus a Z (toivec (b-1)),plus u Z (tojvec (o-1)),plus r Z (vec (b-1) (o-1)),set3 k (link Z a) p (link Z u) q (link u
r),set v (link a r),cup l (.cup k p∪q) v,ink t l,set O (crop I (increment Z) (vec (b-2) (o-2)))]),
("1caeab9d",[avoid (tup [1]),dim h 3,dim w 6,grades oh 1 (h/2) ow (w/3),blob,set n (.grade 2 (.min 8 (w/ow))-1),upTo i
w,roll W (w-ow),move o P li W,bg,blank c,fresh 1 o,dyed O c 1 o,cut i (span W (W+ow)),loop n [only Q i j (sub (uniq
(span (arg j) (arg j+ow))) (uniq i)),needOne Q W,pick T K,both T (.move P (.rand 0 (h-oh)) W) (.move P li W),cut i (span
W (W+ow))]]),
("1cf80156",loneShape 15),
("1e0a9b12",[allCols,calls f .chain [.fn .dmirror,lbind (.fn .apply) (rbind (.fn .order) idf),.fn .dmirror],redo [sides
3,rate nc w,paper,sheet,rests,set s (each anyHue j (range nc)),sample o (span 0 w) nc,seq S (vbar 0 h),forZip c l s o
[rand n 1 (h-1),spray e n,ink c (.shift e (tojvec l))],replace O (.apply f [.replace I U m1]) m1 U,quit (gt (colorcount
I U) (argmax (.remove U (pal I)) (lbind (.fn .colorcount) I)))]]),
("1e32b0e9",sized 4 6 4 6 [rate H 4,grade q (cond (gt H 1) 1 2) 3,trio C G,set F (h*H+(H-1)),set L (w*q+(q-1)),canvas c
C F L,blank s,nodes F L,any o l,remove E o l,grade N 0 ((h-2)*(w-2)-1),bare m (h-2) (w-2),plot S m,one t S,strike S
t,set M {t},times j N [one ij ((S-M)∩near M),add M ij],move M M 1 1,whole g (.fill s G M),whole d (.fill s C M),laid I c
(.shift g o),keep,set n (N+1),.for r E [roll f n,draw u M f,whole i (.fill s G u),lay (.shift i r),put (.shift d r),dye
G (.shift u r)]]),
("1f0c79e5",sans 2 5 [tint2 o I,blank O,gradeBy j 24,tile,set P (tup [base,right,south,unit]),loop j [among Q (fits
(uniq P) S),need Q,land Q l P,fewOf n 1 3 r l,fill2 I o l 2 r,.for i r [set d (decrement (mult 2 (.plus i (invert
Z)))),dye o (.mapply (rays d) (.fset l))],set S (S-l-beside (uniq l))]]),
("1f642eb9",big 6 [grades H 2 (.min (h-4) (2*(h/3))) d (.min (w-4) (2*(w/3))),aim 2 (h-H-2) (w-d-2),duo q,leave (vec U
q),rate u (2*H+2*d-4),set3 o (list []) i (list []) C coin,set3 f coin g coin m coin,count a [li+un .not C,li+H-un .not
f] [push o (vec a 0),push i (vec a W)],count a [li+un .not g,li+H-un .not m] [push o (vec a (w-1)),push i (vec a
(W+d-1))],count b [W+C,W+d-g] [push o (vec 0 b),push i (vec li b)],count b [W+f,W+d-m] [push o (vec (h-1) b),push i (vec
(li+H-1) b)],upTo S (2*H+2*d-4),spray L u,tones numc 8,set o (placedAt e o L),set i (placedAt e i L),blank c,rect bd li
W (li+H-1) (W+d-1),fresh q bd,set s (anyOf Y k u),forZip c Z s o [ink c {Z}],keep,forZip c Z s i [dye c {Z}]]),
("1f85a75f",big 10 [rands oh 3 (.min 8 (h/2)) ow (.min 8 (w/2)),field,rand c (.max oh ow) (oh*ow),one d V,set P
{d},remove Q d V,raise (c-1) V (beside P),corner oh ow,pickTwo U B,tones numc 8,rise s 0 ((h*w-len (.hull
P))/4),sheet,move P P li W,ink B P,tile,draw n (S- .hull P) s,fset o (motley Y n),lay o,dyed O (slab oh ow) B (.norm
P)]),
("1f876c06",big 5 [rate n (.min (.min h w) 9),bg,inks n,budget (10*n),calls d .ineighbors [base],blanks,tile,trying n
[tick,find S,clear l,.for i d [set L (list [Z]),set o 1,redo [plus e Z (mult o i),inc o,quit (notMem e S),push L e],when
(gt (len L) 2) [push l L]],whenAny l [inc succ,calls l .sortedBy [l,.fn .len],grade D 0 (len l-1),set L (nth l D),set T
(nth Y 0),.drop Y Y 1,both T (.set [nth L 0,nth L m1]) (uniq L),occupy (uniq L)]]]),
("1fad071e",sans 1 10 [roll n 5,rise s n (h*w/10),duo o,budget (5*s),set b 0,sheet,tile,set f (.table [(1,call .set
[]),(o,call .set [])]),trying s [tick,either T 1 o,sizes 1 3,ite (lt b n) [set T 1,pull oh ow (sq 2)] [during [eq T
1,cmp oh [(.eq,ow),(.eq,2)]] [either T 1 o,sizes 1 3]],rect bd 0 0 (oh-1) (ow-1),seekBox,pull li W Z,lodge bd bd,given
[sub bd S,isEmpty (beside bd∩nth f T)] [placed (S-bd),store ⟨f,[T]⟩ (nth f T∪beside bd∪bd),ink T bd,given [eq T 1,cmp oh
[(.eq,ow),(.eq,2)]] [inc b]]],set O (tup [copies 1 b+copies U (5-b)])])]

def id2 : Recipes := [
("2013d3e2",[nonzero,grade h 3 10,set w h,bg,hues m 1 8 K,blank canv,grade nc 2 (h*w-1),plot bx canv,sprawl,laid I canv
P,hcat g I (.rot90 I),hcat G (rot270 I) (rot180 I),vcat I g G,dim f (2*h),dim u (2*w),whole i I,bare c f u,aim 0 (f-2*h)
(u-2*w),laid I c (.move i li W),diff r (.plot I) (seen U),calls O .lefthalf [call .tophalf [subgrid r I]]]),
("2204b7a8",mirrored [pair d 4 30,set e colors,redo [gradesIn d,pick U e,blank c,seq S (.move (.plot (.canvas 0 (vec h
(w-2)))) 0 1),hue f,remove g f K,any i g,other j i g,pair k 1 (h*(w-2)/2-1),gradeIn n k,spray l n,when (eq (w%2) 1) [cut
l (vray (tojvec (w/2)))],fresh i (vray base),ink j (vray (tojvec (w-1))),ink f l,only a l ij (lt (last (arg ij))
(w/2)),diff b l a,ans i a,dye j b,quit (eq (len (pal I)) 4)]]),
("22168020",big 6 [rate num (.min 9 (h*w/10)),bg,blanks,budget (6*num),tile,retry num [grade d 2 5,set oh (d+1),set ow
(2*d),when (isEmpty S) [tick,.continue],one Z S,pull li W Z,set a (link Z (vec (li+d-1) (W+d-1))),line b li (W+ow-1)
(li+d-1) (W+d),cup i (.cup a b) (vecs (li+d) (W+d-1) (li+d) (W+d)),merge o (.sfilter (call .prapply [.fn .connect,i,i])
(.fn .hline)),any m mirrors,apply i m,apply o m,hue T,free o [both T i o,placed (S-o),strike K T],tick]]),
("22233c11",sans 8 5 [tries j 1 (h*w/10) 10,bg,blanks,tile,fullInds,tones l 8,trying j [need S,tick,rand d 1 3,set f
(4*d),bare g 4 4,fill g 8 (vecs 0 3 3 0),tone,fill g T (vecs 1 1 2 2),when coin [hm g g],upscale g g d,hued i T (.dots g
T),cup o i (.hued 8 (.dots g 8)),land S o o,lodge i i,locs u o,given [sub (.locs i) S,sub (.cap u fullinds) S] [placed
(S-u-near u),lay i,put o]]]),
("2281f1f4",spun [pair i 3 30,spare o 2,gradesIn i,pair c 1 (h/2+1),pair a 1 (w/2+1),gradeIn n a,gradeIn u c,when (cmp n
[(.eq,u),(.eq,1)]) [samples [n,u] (list [1,2]) 2],sample t (span 0 (w-1)) n,sample r (span 1 h) u,set e (combine (map
[lbind (.fn .astuple) 0,t]) (map [rbind (.fn .astuple) (w-1),r])),any U o,other d U o,dyed I (slab h w) d e,ans 2
(product r t)]),
("228f6490",big 10 [tries s 1 (h*w/50) 5,picks C,blanks,tile,clear f,retry s [tick,sizes 3 6,area bd oh ow,move V (.area
(oh-2) (ow-2)) 1 1,seed P,rand c 1 ((oh-2)*(ow-2)),again c [extend P V],seek q S Z h oh w ow,lodge b bd,free b [set t
(S-b),normalize n P,extents,seek o S l h oh w ow,shift i n l,set d (bd-P),given [sub i t,notMem d f,notMem n f] [push f
d,push f n,placed (S- .cup b i-beside i),hue T,lodge p P,both C (b-p) b,dye T p,ink T i]]],tries r 0 (len S/25) 10,retry
r [tick,sizes 1 4,field,seed P,rand c 1 (oh*ow),again c [extend P V],norm P,skip (mem P f),seekBox,lodge L P,free L
[settle L,hue T,stamp T L]]]),
("22eb0ac0",mirrored [set t colors,canvas I 0 1 1,sides 4,pick U t,blanks,someRows,set mp (n/2),grade s 0 mp,either r s
(h-s),max r 0 (.min r n),sample c L r,diff o L c,set3 f (each anyHue j (range r)) d (each anyHue j (range (len o))) g
(anyOf (.remove (nth d (arg j)) K) j (len o)),forZip e l f c [both e (vec (vec l 0) (vec l (w-1))) (hbar l w)],forZip
(.pair a b) Z (zip d g) o [stamp a (spot Z 0),stamp b (spot Z (w-1))]]),
("234bbc79",[allCols,redo [dim h 5,grade w 6 20,duo D,leave (vec U D),bare O h 30,tones C 8,roll b (h-1),set s (list
[vec b 0]),dyed I O D (spot b 0),redo [pull p r (nth s m1),when (eq r (w-1)) [quit (.any (tup
[true,false,false]))],clear N,when (lt p (h-1)) [when (eq (cell O (p+1) r) U) [push N (vec (p+1) r)]],when (gt p 0)
[when (eq (cell O (p-1) r) U) [push N (vec (p-1) r)]],when (lt r (w-1)) [push N (vec p (r+1))],needOne N Z,push s Z,dye
D {Z}],clear X,clear c,items v e s [ite (.and [gt (len c) 2,gt (wd (.fset c)) 1,eq (nth s (v-1)) (.plus e (vec 0 m1))])
[push X c,set c (list [e])] [push c e]],update ⟨X,[m1]⟩ .add c,.len B X,skip (lt B 2),grade n 2 B,set t (B-n),loop t
[roll v (len X-2),set X (take X v+list [nth X v+nth X (v+1)]+drop X (v+2))],clear i,items v P X [tone,dye T (uniq
P),hued d T (uniq (mid P 1 m1)),these f [vec (cond (gt v 0) D T) (nth P 0)],these g [vec (cond (lt v (len X-1)) D T)
(nth P m1)],cup J (.cup d f) g,push i J],set a (each 1 v (range (len i-1))),dim F w,again (F-w-len i) [roll v (len
a-1),bump a v],set j (list [0]+a),bare I h F,set y 0,items m (.pair l P) (zip j i) [setOf P P,ite (eq m 0) [set z (ul
P)] [roll u (h-ht P),set o (y+l),pair z u o],update y .add (wd P+l),shift L (.norm P) z,lay L],.break],calls q .size
[.merge (call .fgpartition [I])],redo [dm G (take (.dm O) m1),ite (lt (call .size [those (.whole G) [cij] (ne (part cij
0) U)]) q) [.break] [set O G]]]),
("23581191",[pair o 3 30,spare t 2,set m (fork (.fn .combine) (.fn .hfrontier) (.fn .vfrontier)),gradesIn o,pick g
t,flat c g,spots c,hue A,other B A K,pair r 1 (h*w/4),gradeIn n r,gradeIn d r,spray a n,sample b (.diff S a) d,fresh A
a,ink B b,set3 f (map [.fn .first,a]) e (map [.fn .last,a]) j (map [.fn .first,b]),set k (map [.fn .last,b]),among l
(.or [mem (.first (arg ij)) f,mem (last (arg ij)) e]),among i (.or [mem (.first (arg ij)) j,mem (last (arg ij)) k]),dyed
O c A l,fill2 O B i 2 (call .intersection [uniq l,uniq i]),fill2 O A a B b]),
("239be575",[these j [base,unit,right,south],nonzero,redo [sides 6,flat c 0,.cells f (.canvas 0 (vec (h-1) (w-1))),any a
f,other b a f,grade i 3 (.min h w-3),.while (un .not (gt (dist {a} {b}) i)) [any a f,other b a f],samples [m,q] R
2,shift e j a,shift t j b,fresh q (.cup e t),seq Q (seen 0),few num (trunc (.dec 25 2*len Q)) (trunc (.dec 75 2*len Q))
d Q,ink m d,linking,set u coin,ite (.and [u,isEmpty s]) [.while (isEmpty s) [seq p (seen 0),need p,ink m (.set [.any
p]),linking]] [given [un .not u,has s] [.while (has s) [seq p (seen m),need p,ink 0 (.set [.any p]),linking]]],quit (eq
(len (pal I)) 3)],set g (cond u m 0),canvas O g 1 1]),
("23b5c85d",big 5 [paper,remove o U R,sheet,grades oh 2 (h-1) ow (w-1),rate num 8,set c 0,.while (lt c num) [corner oh
ow,any T o,strike o T,rectAt P,dyed g I T P,ite (ne (color (call .argmin [.sfilter (call .partition [g]) (fork (.fn
.equality) (.fn .size) (fork (.fn .multiply) (.fn .height) (.fn .width))),fork (.fn .multiply) (.fn .height) (.fn
.width)])) T) [.break] [set I g,set O (.canvas T (shape P))],grade oh (.max 0 (oh-4)) (oh-1),grade ow (.max 0 (ow-4))
(ow-1),quit (.or [lt oh 1,lt ow 1]),inc c]]),
("253bf280",spans 3),
("25d487eb",big 10 [scheme c 2 8,blanks,tries b 1 (h*w/30) 10,plot S O,retry b [need S,tick,rand d 1 3,rect P 0 0 d
d,only P P ij (le row column),cup P P (.move (.vm P) 0 d),these mp [vec 0 d],samples [t,l] Y 2,cup j (.hued t (P-mp))
(.hued l mp),land S i j,pull li W Z,cup o i (.hued l (vseg li (W+d) (h-1)- .locs i)),fullInds,locs p o,free p [inc
succ,lay i,put o],any rotf rotations,apply I rotf,apply O rotf,dims h w I,dots f O U,set S (f-beside (.plot O-f))]]),
("25d8a9c8",big 2 [clear I,clear O,few c 2 10 Y R,loop h [set s coin,tone,set r (copies T w),ite s [push I r,push O
(copies 5 w)] [remove K T Y,rate o (w-1),set n (w-1-o),min n (.max 1 n) (w-1),set r (listOf r),upTo indss w,.for j
(.sample indss n) [store ⟨r,[j]⟩ anyHue],push I (.tupleOf r),push O (copies 0 w)]],tupleOf I I,tupleOf O O]),
("25ff71a9",big 2 [lone,dyed O c f (.move l 1 0)]),
("264363fd",[allCols,pair H 2 2,set y (nbrs H),move e (.frozen [right,vec m1 1]) 1 1,move f (.frozen [south,vec 1 m1]) 1
1,move i (.frozen [vec 2 1,vec 3 1]) 1 1,move j (.frozen [vec 1 2,vec 1 3]) 1 1,set m (.table [(e,vec m1 0),(f,vec 0
m1),(i,south),(j,right)]),sides 15,trio F L,leave (tup [U,F,L]),hue n,hue z,rand A 1 4,sample q (tup [e,f,i,j]) A,merge
G (uniq q),cup P (spot n H∪.hued L G) (.hued z (y-G)),corner 5 5,locate,blanks,lay (.shift P Z),tries u 1 (h*w/100)
10,set S (seen U-near (.locs (.shift P Z))),trying u [tick,rands a 5 (h/2+1) b (w/2+1),seek Q S Z h a w b,canvas c F a
b,canvas d F a b,plot g c,plot B c,lodge k g,free k [rate N (a*b/25),set3 s 0 t 0 C (5*N),during [lt s N,lt t C] [inc
t,within r g (a-5) (b-5),need r,one o r,merge l (.fset (collect .set (.shoot (.plus H (.plus o (nth m (arg v)))) (nth m
(arg v))) v q)),cap l l B,shift x P o,locs p x,given [sub p g,sub l (g∪.dots d L),has (l-p)] [inc s,set g (g-p-near
p-l),fill c n (.set [.plus H o]),paint d x,fill d L l]],when (gt s 0) [placed (S-k-rim k),lodge D (.whole c),lodge E
(.whole d),lay D,put E]]]]),
("272f95fa",[besides [1,2,3,4,6] 5,duo L,bare c 5 5,line f 1 0 1 4,line g 3 0 3 4,cup s f g,dyed I (.dm (.fill c L s)) L
s,set3 d (list [0,0,0]) i (list [0,0,0]) D 0,loop (h-2) [bump d D,set D ((D+1)%3)],loop (w-2) [bump i D,set D
((D+1)%3)],shuffle d,shuffle i,jolted d t e,jolted i a l,set I (take I 1*nth d 0+mid I 1 2+mid I 2 3*nth d 1+mid I 3
4+mid I 4 5*nth d 2),dm I I,set I (take I 1*nth i 0+mid I 1 2+mid I 2 3*nth i 1+mid I 3 4+mid I 4 5*nth i 2),dm I I,set
mfs symmetries,either nmfs 1 2,.for fn (.sample mfs nmfs) [apply I fn],parted true b U,set n (corners (.plot I)),only b
b o (isEmpty (.locs (arg o)∩n)),set3 p (call .extract [b,lam [o] (un .not (call .bordering [arg o,I]))]) y (call .argmin
[b,.fn .leftmost]) r (argmax b (.fn .rightmost)),calls j .argmin [b,.fn .uppermost],set u (argmax b (.fn
.lowermost)),ans 6 p,fill2 O 4 y 3 r,fill2 O 2 j 1 u]),
("27a28665",[allCols,set m (list [vec 1 (.set [base,right,south,vec 1 2,vec 2 1]),vec 2 (.set [base,unit,vec 2 0,vec 0
2,sq 2]),vec 3 (.set [vec 2 0,right,vec 0 2,unit,vec 1 2]),vec 6 (.set [unit,right,south,vec 1 2,vec 2 1])]),sides
3,split T P m,duo o,rate f (.min h w/3),canvas O T 1 1,sheet,bare canv 3 3,fill canv o P,upscale canv canv f,whole P
canv,corner (3*f) (3*f),locate,lay (.shift P Z)]),
("28bf18c6",loneShape 14 ++ [hcat O O O]),
("28e73c20",[avoid (tup [3]),set d (.table [(right,south),(south,vec 0 m1),(vec 0 m1,vec m1 0),(vec m1 0,right)]),dim h
3,dim w 4,pair e 0 (w-1),pair r 1 0,few o 1 9 Y R,flat I m1,tile,mottle P S,lay P,ans 3 (link base e),set3 a w b h l
h,set i false,.while (gt l 0) [update a .sub 1,update b .sub 1,plus E e (mult r (l-1)),set L (link e E),dye 3 L,set r
(nth d r),ite i [set l b] [set l a],set i (un .not i),set e E],dm I (drop (.dm I) 1),dm O (drop (.dm O) 1)]),
("29623171",sized 2 6 2 6 [alike N j 2 4,trio i G,set u (h*N+(N-1)),set F (w*j+(j-1)),canvas c i u F,blank s,spots
s,nodes u F,any o l,few n 1 (h*w/2-1) m S,dyed g s G m,whole P g,shift f P o,laid I c f,dyed O c G f,remove E o l,whole
d (.fill s U S),.for r E [grade t 0 n,dyed e s G (.sample S t),lay (.shift (.whole e) r),ite (eq t n) [dye G (.shift P
r)] [put (.shift d r)]]]),
("29c11459",mirrored [spare l 5,canvas I 0 1 1,grades h 5 30 w 29,when (eq (w%2) 0) [either w (.max 5 (w-1)) (.min 29
(w+1))],pick U l,hues N 2 (len K) Y,blanks,someRows,set3 c (list []) o (list []) f m1,set r m1,loop n [other d f Y,push
c d,set f d,other e r Y,push o e,set r e],forZip (.pair a b) Z (zip c o) (sorted L) [dot I a Z 0,dot I b Z (w-1),fill2 O
a (hbar Z (w/2)) b (hseg Z (w/2+1) (w-1)),dot O 5 Z (w/2)]]),
("29ec7d0e",patched [set li (a+1+p*a),set W (b+1+c*b),add L here,put (.move o li W)] [wornTiles]),
("2bcee788",turned (without 3 2 20 2 10 [tint [U,s,j] 3 c,spots c,roll p (h-1),pair i p (w-1),set M {i},portion n 0
(h*w/2) numc (h*w) 2 (h*w-1),setOf e (.remove i S),loop numc [swell M e],.while (eq (wd M) 1) [swell M e],dyed C c j
M,only b M ij (eq column (w-1)),dyed q c s b,whole g (.hcat C (.vm q)),whole o (.hcat C (.vm C)),dim u (h+1),dim l
(2*w+1),bare f u l,aim 0 (u-h) (l-2*w),locate,laid I f g,laid O f o]) ++ [replace O O U 3]),
("2bee17df",sans 3 7 [bg,blank c,set3 e (map [.fn .tojvec,span 0 w]) f (map [rbind (.fn .astuple) (w-1),span 1 (h-1)]) g
(map [lbind (.fn .astuple) (h-1),.interval (w-1) 0 m1]),set j (map [.fn .toivec,.interval (h-1) 0 m1]),set i
(e+f+g+j),.len k i,roll u k,set d (drop i u+take i u),rand v (k/2-3) (k/2+1),set a (take d v),.drop b d v,pick o K,hue
l,fresh o a,ink l b,rate m (.min 4 (.min h w/2)),times kk m [frame p (1+kk) (1+kk) (h-1-kk) (w-1-kk),.for r (vec o l)
[dots t I r,seq n (p∩seen U∩beside (seen r)),.len J n,rand q (.max 0 (J/2-2)) (.min J (J/2+1)),sample s n q,ink r
s]],move E (.merge (call .frontiers [trim I])) 1 1,ans 3 E]),
("2c608aff",big 10 [grades o 2 (h/2) x (w/2),corner o x,picks c,hue d,rect bd li W (li+o-1) (W+x-1),sheet,ink c bd,seq m
(.plot I- .hull (rim bd)),max n 1 (len m/4),few E 0 n N m,ink d N,keep,interval s li (li+o) 1,interval f W (W+x) 1,.for
ij N [pull a b ij,ite (mem a s) [dye d (link ij (vec a W))] [when (mem b f) [dye d (link ij (vec li b))]]],dye c bd]),
("2dc579da",spun (big 3 [picks L,hue D,grade d 0 ((h-2)/2),either l d (h-2-d),max l (.min (h-2) l) 1,grade e 0
((w-2)/2),either i e (w-2-e),max i (.min (w-2) i) 1,rate o (h/2),either li (h/2-o) (h/2+o),min li (.max 1 li)
(h-l-1),rate c (w/2),either W (w/2-c) (w/2+c),min W (.max 1 W) (w-i-1),sheet,count a [li,li+l] [ink L (hbar a w)],count
b [W,W+i] [ink L (vbar b h)],rands t 1 li f W,rands g 0 (li-t) j (W-f),rect k g j (g+t-1) (j+f-1),ink D k,set O (crop I
base here)])),
("2dd70a9a",turned [except (vec 2 3) 10 30,tint2 f I,blank O,ite coin [grade oh 5 (h-2),grade ow 3 (w-2),aimIn oh
ow,rand l (li+2) (li+oh-3),these d [vec (li+oh-1) W,vec (li+oh-2) W],these E [vec li (W+ow-1),vec (li+1) (W+ow-1)],pair
b (l-1) W,pair p l (W+ow),line L (li+oh-1) W l W,line N l W l (W+ow-1),line n l (W+ow-1) (li+2) (W+ow-1)] [grades oh 3
(h-2) ow (w-2),aimIn oh ow,ite coin [rand s W (W+ow-3),set e W] [rand e W (W+ow-3),set s W],these d [vec li s,vec li
(s+1)],these E [vec (li+oh-1) e,vec (li+oh-1) (e+1)],pair b li (W+ow),pair p (li+oh) (W+ow-1),line L li (s+2) li
(W+ow-1),line N li (W+ow-1) (li+oh-1) (W+ow-1),line n (li+oh-1) (e+2) (li+oh-1) (W+ow-1)],fill2 I 3 d 2 E,fill2 O 3 d 2
E,cup c (.cup L N) n,these a [b,p],stamp f a,dye 3 c,dots S O U,fewOf m 0 (len S/2) o S,stamp f o]),
("2dee498d",[pair d 1 30,allCols,grades h 1 30 w 10,sprinkle O 1 (h*w),hcat I O (.hcat O O)])]

def task3428a4f5 : Recipe :=
  mirrored (twoPanels 3 1 U (.cup (.setOf a) (.setOf b) - .cap (.setOf a) (.setOf b)))

def id3 : Recipes := [
("31aa019c",[allCols,redo [sides 5,bg,blank canv,spots canv,set mp (h*w/2-1),few N 2 (.min 9 (mp/2-1)) o R,set t (nth o
0),.drop o o 1,set d (tableOf c (call .set []) o),grade i (2*(N-1)) mp,any L S,strike S L,spray e i,.for c o [any ij S,
add ⟨d,[c]⟩ ij,strike S ij],.for c o [any ij S,add ⟨d,[c]⟩ ij,strike S ij],.for ij e [any c o,add ⟨d,[c]⟩ ij,strike S
ij],dyed I canv t {L},forPair c s (ask .entries d []) [ink c s],ink t {L},quit (eq (len (those (pal I) [c] (eq
(colorcount I (arg c)) 1))) 1)],calls l .leastcolor [I],dots L I l,dyed O canv l L,dye 2 (nbrs (.first L))]),
("321b1fc6",motleyCopies ++ [dye U s]),
("32597951",sans 3 10 [grades H 2 (h/2) d (w/2),tint [U,s,f] 3 c,spots c,gradeBy n 2,either num n (h*w-n),min num (.max
num 0) (h*w),spray o num,fill c s o,corner H d,rect bd li W (li+H-1) (W+d-1),cap t bd (.dots c U),fresh f t,ite (has t)
[ans 3 (.hull t∩seen s)] [set O I]]),
("3345333e",turned (big 10 [grades oh 4 (h-2) ow ((w-2)/2),grade nc (.min oh ow) (oh*ow/3*2),these M [base],field,times
j nc [sprout M],.while (.or [lt (ht M) 3,lt (wd M) 3]) [sprout M],vm v M,when coin [only v v ij (ne column (wd
M-1))],normalize M (combine M (.move v 0 (un .neg (wd v)))),dims oh ow M,trio B a,aimIn oh ow,locate,lodge M M,blank
c,dyed O c B M,grades b 2 (oh-1) o (ow/2),rand u (li-1) (li+oh-b+1),rand l (W+ow/2+1) (W+ow-o+1),rect bx u l (u+b-1)
(l+o-1),dyed I O a bx])),
("3428a4f5",task3428a4f5),
("3618c87e",spun (big 4 [tint [U,i,d] 3 c,line L 0 0 0 (w-1),rate n (w/2),clear s,upTo o w,loop n [needOne o ch,push s
ch,strikes o ch (ch-1),strike o (ch+1)],.len n o,fresh i L,dyed O c i L,.for j s [rand a 1 (h-3),line l 0 j a j,stamp i
l,both d (spot (a+1) j) (spot 0 j)]])),
("3631a71a",[allCols,grade h 6 15,set w h,duo p,any p R,other U p R,leave (vec U p),blank c,only S (.plot c) ij (ge row
column),tones "M" 8,rate N (len S),setOf cells (.draw S N),mottle P cells,laid c (.dm (.paint c P)) P,hcat c c (.vm
c),vcat c c (.hm c),set u 2,dm O (take (.dm (take c (un .neg u))) (un .neg u)),copy I O,area f u u,move d (.area
(h*2-2*u) u) u 0,move m (.area u (2*w-2*u)) 0 u,only i (.plot I) ij (.and [cmp u [(.le,part ij 0),(.lt,h)],cmp u
[(.le,part ij 1),(.lt,w)],ge row column]),dm n i,move a (.hm i) (h-u) 0,move b (.hm n) (h-u) 0,move g (.vm i) 0
(w-u),move j (.vm n) 0 (w-u),move k (.hm (.vm i)) (h-u) (w-u),move l (.hm (.vm n)) (h-u) (w-u),set3 q idf v (.fn
.dmirror) y (lam [x] (.hm (.shift (arg x) (invert (vec (h-u) 0))))),set3 z (lam [x] (.dm (.hm (.shift (arg x) (invert
(vec (h-u) 0)))))) A (lam [x] (.vm (.shift (arg x) (invert (vec 0 (w-u)))))) B (lam [x] (.dm (.vm (.shift (arg x)
(invert (vec 0 (w-u))))))),set3 C (lam [x] (.vm (.hm (.shift (arg x) (invert (vec (h-u) (w-u))))))) D (lam [x] (.dm (.vm
(.hm (.shift (arg x) (invert (vec (h-u) (w-u)))))))) E (list [i,n,a,b,g,j,k,l]),set F (list [q,v,y,z,A,B,C,D]),tries t 1
(trunc (pow (2*h*2*w) (.dec 5 1))) 10,dims L "K" I,trying t [tick,rands oh 2 (h/2+1) ow (w/2+1),aim 0 (L-oh)
("K"-ow),rectAt bd,empty s,dyed gi2 I p bd,skip (mem p (pal (toobject f gi2))),locs G (those (toobject d gi2) [cij] (ne
(part cij 0) p)),locs o (those (toobject m gi2) [cij] (ne (part cij 0) p)),fset o (pairs column row ij o),skip (ne (.cup
G o) d),forZip "ii" H E F [set J (toobject "ii" gi2),locs r (those J [cij] (ne (part cij 0) p)),whenAny r [cup s s
(.apply H [r])]],skip (ne s i),inc succ,set I gi2]]),
("363442ee",turned (sized 1 3 1 3 [set h (h*2+1),set w (w*2+1),grades n 2 (30/h) e ((30-w-1)/w),set r (n*h),set s
(e*w),pair a r s,picks b,set i (.canvas U a),set c (.canvas U a),bare l ((n-1)*h) w,blank L,canvas B b (n*h) 1,seq o
(product (.interval 0 r h) (.interval 0 s w)),hue t,portion v 1 (len o/2) N (len o) 1 (len o),sample D o N,hues f 1 8
u,.for ij (.plot L) [fill L (.any u) {ij}],whole g L,pair j (h/2) (w/2),.for d D [fill i t (.set [.plus j d]),paint c
(.shift g d)],hcat I (.hcat (.vcat L l) B) i,hcat O (.hcat (.vcat L l) B) c])),
("36d67576",[allCols,redo [sides 10,trio m a,leave (tup [U,m,a]),tones A (len K),sheet,grade oh 2 5,grade ow (cond (eq
oh 2) 3 2) 5,maySwap oh ow,field,grade N 4 (len V),seed P,raise (N-1) V (near P),rate n (N-3),one r P,remove j r P,these
c [vec a r],setOf t (.draw j n),set p (P- .set [r]-t),hued i m p,set d (motley K t),cup P (.cup d i) c,cup g i
c,normalize s g,set f false,.for y (list [.fn .dmirror,.fn .cmirror,.fn .hmirror,.fn .vmirror]) [given [eq (.apply y
[s]) s,ne (.apply y [P]) P] [set f true,.break]],skip f,corner oh ow,move D P li W,lay D,locs L D,set S (.plot I-L-near
L),rise C 1 (h*w/(2*len P)),budget (C*5),keep,retry C [tick,any l mirrors,any q mirrors,set "M" (compose l q),normalize
o (.apply "M" [P]),only B o cij (mem (part cij 0) (list [m,a])),dims oh ow o,seekBox,lodge b o,lodge v B,locs u b,free u
[placed (S-u-near u),lay v,put b]],.break]]),
("36fdfd69",[besides [4] 10,gradeBy o 30,tint [U,f,B] 3 I,tile,budget (5*o),rand m (trunc (.dec 35 2*h*w)) (trunc (.dec
65 2*h*w)),draw N S m,ink f N,keep,trying o [tryRect 2 7 7 bd,free bd [rand s 2 (oh*ow-1),these P [.one bd],again s
[grow P bd (near (beside P))],.while (eq (len P) (ht P*wd P)) [these P [.one bd],again s [grow P bd (near (beside
P))]],norm P,extents,lodge P P,hull bd P,dyed g I f bd,fill g B P,when (lt (colorcount g B) (.min (colorcount g f)
(colorcount g U))) [placed (S-bd-(rim bd∪rim (rim bd))),set I g,fill2 O 4 bd B P]]]]),
("3906de3d",spun (big 5 [grade oh 2 (h/2),grade ow 3 (w-2),trio b L,rand W 1 (w-ow-1),rect bx 0 W (oh-1)
(W+ow-1),sheet,ink b bx,calls r .range [W,W+ow],set u (each (.rand 1 (oh-1)) j r),forZip J c r u [ink U (vseg c J
(oh-1))],few n 1 (ow-1) o (listOf r),keep,forZip J c r u [when (mem J o) [rand l 1 (h-c-1),line i (h-l) J (h-1) J,line a
c J (c+l-1) J,both L i a]]])),
("39a8645d",big 15 [sizes 2 4,bg,rate j (oh+ow),inks (j+1),set x (nth Y 0),.drop l Y 1,rise n (j+2) (h*w/16),set3 tr 0
maxtr (10*n) succ 0,clear a,field,loop (j+1) [redo [rand N (oh+ow-1) (oh*ow),seed c,during [ne (shape c) (vec oh ow),lt
(len c) N] [swell c V],quit (notMem c a)],push a (.fset c)],normalize m (nth a 0),set3 e (map [.fn .normalize,drop a 1])
b 0 r (tableOf o 0 e),sheet,tile,retry n [tick,set d (eachIf (arg o) (.pair o t) (ask .entries r []) [lt (arg t+1)
b]),ite (.or [isEmpty d,gt (div (.rand 0 100) 100) "diff_lb"]) [set P m,set T x] [any P d,set T (nth l (ask .position e
[P]))],room,need Q,land Q L P,when (sub L (S-near (seen T))) [settle L,ink T L,ite (mem P r) [bump r P] [inc b]]],dyed O
(.canvas U (shape m)) x m]),
("39e1d7f9",sized 5 10 5 10 [trio L D,leave (tup [U,L,D]),sheet,aim 1 (h-2) (w-2),when (eq h 5) [either li 1 (h-2)],when
(eq w 5) [either W 1 (w-2)],rate n 8,tones v 7,set s (nbrs here),these p [here],loop n [add p (.one (beside p∩s-p))],seq
p (.remove here p),mottle P p,dot I D li W,lay P,keep,tries N 1 (h*w/(2*len p+1)) 6,set S (seen U-beside (nbrs
here)),move o P (un .neg li) (un .neg W),empty t,.while (.or [.and [lt tr maxtr,lt succ N],eq succ 0]) [seq l (S-t),need
l,tick,split li W l,move m o li W,locs C m,ite (sub C S) [occupy (C∪.set [here]),inc succ,stamp D (.set [here]),put m]
[add t here]],grades f 1 ((30-h+1)/h) d ((30-w+1)/w),set u (f*h+h-1),set F (d*w+w-1),canvas G L u F,canvas z L u F,area
bd f d,times a h [times b w [set c (cell I a b),fill G c (.move bd (a*(f+1)) (b*(d+1)))]],times a h [times b w [set c
(cell O a b),fill z c (.move bd (a*(f+1)) (b*(d+1)))]],pull I O (vec G z)]),
("3aa6fb7a",[set b (tup [base,right,south,unit]),spare R 1,sides 3,bg,hue f,sheet,spots I,set m (h*w/2/3),rate num
m,pull kk tr base,set maxtrials (num*2),empty i,during [lt kk num,lt tr maxtrials] [any Z S,any a b,remove c a b,lodge o
c,free (uniq o) [cut S (.seq (combine o (.seq (beside o)))),ink f o,add i (.plus a Z),inc kk],tick],ans 1 i]),
("3ac3eb23",big 3 [bg,rise n 1 ((w-2)/3),interval l 1 (w-1) 1,blanks,loop n [needOne l W,cut l (span (W-2) (W+3)),hue
T,both T (spot 0 W) (pairs (arg p) W p (.interval 0 h 2)),fill2 O T (pairs (arg p) (W-1) p (.interval 1 h 2)) T (pairs
(arg p) (W+1) p (.interval 1 h 2))],any m rotations,apply I m,apply O m]),
("3af2c5a8",[pair d 1 30,allCols,alike h w 1 15,sprinkle I 0 (h*w),hcat O I (.vm I),vcat O O (.hm O)]),
("3bd67248",[except (vec 2 4) 3 15,duo l,rate f (30/.max h w),sheet,ink l (vbar 0 h),ans 4 (hseg (h-1) 1 (w-1)),dye 2
(.shoot (vec (h-2) 1) (vec m1 1)),any rotf rotations,apply I rotf,apply O rotf,upscale I I f,upscale O O f]),
("3bdb4ada",big 10 [bg,trials 8,boxes (ite coin [set oh 3,set ow (.grade 1 (.max 1 (w/2-1))*2+1)] [set ow 3,set oh
(.grade 1 (.max 1 (h/2-1))*2+1)]) (whenClear [strike K T,stamp T bd,ite (eq oh 3) [set l (pairs (li+1) (arg j) j (call
.range [W+1,W+ow,2]))] [set l (pairs (arg j) (W+1) j (call .range [li+1,li+oh,2]))],dye U l,taken (indss-bd)])]),
("3befdf3e",big 10 [scheme m 2 9,gradeBy N 40,set3 succ 0 maxtr (5*N) tr 0,blanks,tile,trying N [tick,need S,either r 1
2,either a 1 2,set F (2+3*r),set L (2+3*a),seek Q S Z h F w L,pull li W Z,hull u (.frozen [Z,vec (li+F-1) (W+L-1)]),free
u [placed (S-u),samples [i,t] Y 2,rect f (li+r+1) (W+a+1) (li+2*r) (W+2*a),set o (rim f),ink i f,both t o f,dye i o,set3
l (map [.fn .first,o]) j (map [.fn .last,o]) b (lam [ij] (.or [mem row l,mem column j])),sfilter d (u- .cup f o) b,dye t
d]]]),
("3c9b0459",[pair d 1 30,allCols,sides 1,sprinkle I 0 (h*w),set O (rot180 I)]),
("3de23699",big 5 [paper,blank c,grades i 4 h a w,corner i a,rests,pick o K,hue l,frozen t [here,vec (li+i-1)
(W+a-1)],seq n (.hull (inbox t)),set mp (len n/2),portion e 0 mp d (len n) 0 (len n),sample s n d,fresh o (corners
t),ink l s,set O (trim (crop (call .switch [I,o,l]) here (vec i a)))]),
("3e980e27",[except (vec 2 3) 11 30,trio a d,clear X,forPair i m (vec (vec 2 a) (vec 3 d)) [alike oh ow 2 5,field,seed
P,portion E 0 (oh*ow/2) N (oh*ow) 2 (oh*ow),again N [swell P V],norm P,one f P,remove n f P,cup P (spot i f) (.hued m
n),push X P],pull r g X,samples [b,B] X 2,rands l 0 (h-ht b-ht B-1) q (w-wd b),rand v (l+ht b+1) (h-ht B),roll J (w-wd
B),sheet,move j b l q,move p B v J,lay j,lay p,tries z 1 (h*w/trunc (.dec 15 1*(len r+len g))) 5,vm r r,set S (seen
U-(near (.locs j)∪near (.locs p))),keep,set t (list [r,g]),retry z [tick,any P t,extents,seekBox,lodge C P,locs L C,free
L [placed (S-L-near L),lay (those C [cij] (mem (part cij 0) (vec 2 3))),put C]],when (lt (.grade 1 100) 30) [either c 2
3,objects s I false true true,objects u O false true true,both U (mfilter s (lam [o] (mem c (pal (arg o))))) (mfilter u
(lam [o] (mem c (pal (arg o)))))]]),
("3eda0437",[diff R (span 1 10) (tup [6]),grades h 3 8 w 30,maySwap h w,few N 1 8 f R,flat I m1,lay (motley f (.plot
I)),rate g (h*w/3*2),tile,draw P S g,ink 0 P,pair l (.rand 0 (h-1)) (.rand 0 (w-1)),ink 0 (.set [l,.plus l right,.plus l
south,.plus l unit]),set3 m m1 p (call .dict []) x (call .max [each (ask .count (arg r) [0]) r I]),calls i .max [each
(ask .count (arg c) [0]) c (.dm I)],count a [2,i+1] [count b [2,x+1] [set s (a*b),skip (lt s m),hued o 0 (.area a b),set
d (occ I o),whenAny d [ite (eq s m) [store ⟨p,[o]⟩ d] [when (gt s m) [set p (.table [(o,d)]),set m s]]]]],keep,forPair P
L (ask .entries p []) [dye 6 (.mapply (shifter P) L)]]),
("3f7978a0",mirrored (big 5 [tint [U,o,l] 3 c,rise oh 4 (trunc (div 2 3*h)),min oh oh h,rise ow 4 (trunc (div 2
3*w)),min ow ow w,corner oh ow,grade s 0 (h*w/4),spots c,spray e s,fresh o e,pair L li W,pair r (li+oh-1) (W+ow-1),pair
a (li+oh-1) W,pair u li (W+ow-1),fill2 I l (link L a) l (link u r),these C [L,r,a,u],ink o C,set O (subgrid C I)]))]

end PuzzlePrograms.Recipe.Tasks
