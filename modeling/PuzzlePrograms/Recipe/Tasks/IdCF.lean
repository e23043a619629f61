import PuzzlePrograms.Recipe.Names

/-!
# Recipes of the tasks whose identifier starts with c to f
-/

namespace PuzzlePrograms.Recipe.Tasks

open Stmt

set_option maxRecDepth 20000

def idC : Recipes := [
("c0f76784",[besides [6,7,8] 10,scheme u 1 (len K),trials (h*w/20),seeking num [need indss,any oh (tup [3,4,5]),set ow
oh,tryBox,tone,whenClear [stamp T bd,set c (oh+3),hull b (inbox P),ink U b,dye c b,taken (indss-bd-rim bd)],tick]]),
("c1d99e64",[pair d 4 30,spare c 2,gradesIn d,any n c,other o n c,flat I n,.cells Q I,pair r 1 (h/4),pair v 1
(w/4),gradeIn f r,gradeIn a v,mapply s (compose (.fn .vfrontier) (.fn .tojvec)) (.sample (span 0 w) a),mapply b (compose
(.fn .hfrontier) (.fn .toivec)) (.sample (span 0 h) f),ink o (combine s b),seq Q (seen n),calls kk .size [Q],set m
(h*w/2),pair i 0 (.max 0 (kk-m-1)),gradeIn u i,sample e Q u,ink o e,ans 2 (.merge (.colorfilter (call .frontiers [I])
o))]),
("c3e719e8",without 0 2 5 2 5 [canvas g m1 (pow h 2) (pow w 2),flat a m1,rate N (.min (h*w-1) 8),rand n (.max 1
(h*w/(N+1)+1)) (h*w),spots a,pick m R,spray c n,cut S c,dyed I a m c,sample l K N,set k (len S/N+1),.for b l [need S,min
u (n-1) (len S),min u u k,max u u 1,spray L (.grade 1 u),cut S L,ink b L],replace I I m1 m,whole o I,replace g g m1
0,laid O g (.mapply (shifter o) (map [rbind (.fn .multiply) (vec h w),seen m]))]),
("c3f564a4",big 7 [grade p 2 (.min 9 (.min (h/3) (w/3))),pick f R,set Y (listOf (.sample K p)),shuffle Y,flat c m1,set b
(pairs (arg C) (vec 0 (arg J)) (.pair C J) (zip Y (range p))),set P (collect .set (arg c) c b),.while (lt (east P)
(2*.max w h)) [cup P P (.move P 0 p)],ite coin [mapply P (shifter P) (pairs (arg J) 0 J (span 0 h))] [mapply P (shifter
P) (pairs (arg J) (un .neg (arg J)) J (span 0 h))],laid O c P,copy I O,rise n 1 (h*w/25),set3 maxtr (4*n) tr 0 succ
0,trying n [alike oh ow 2 5,corner oh ow,dyed t I f (.rect li W (li+oh-1) (W+ow-1)),given [gt (len (occ t b)) 1,has
(eachIf (arg r) r t [notMem f (arg r)]),has (eachIf (arg r) r (.dm t) [notMem f (arg r)])] [set I t,inc succ],tick],when
coin [rot90 I I,rot90 O O]]),
("c444b776",sized 2 9 2 9 [rate N 3,grade k (cond (gt N 1) 1 2) 3,sample g R 2,pull U i g,leave g,set f (h*N+(N-1)),set
F (w*k+(k-1)),canvas c i f F,blank s,spots s,tones n 8,few u 1 (h*w/2) d S,mottle P d,laid m s P,nodes f F,any o l,whole
P m,laid I c (.shift P o),remove E o l,whole j s,.for r E [lay (.shift j r)],keep,.for r E [put (.shift P r)]]),
("c59eb873",sized 1 15 1 15 (speckled K [upscale O I 2])),
("c8cbb738",[allCols,alike g a 3 10,dim h (g*2),dim w (a*2),scheme N 1 9,sheet,bare O g a,plot j O,set3 i (box j) C
(corners i) r (i-C),.len k r,set s (nth Y 0),dye s C,corner g a,ink s (.move C li W),.drop Y Y 1,set u true,line b 0 0
(g-1) 0,line d 0 (a-1) (g-1) (a-1),line t 0 0 0 (a-1),line e (g-1) 0 (g-1) (a-1),set v (list [vec b t,vec b e,vec d
t,vec d e]),.for c Y [quit (lt (len r) 3),setOf P (.draw r (.grade 3 (.max 3 (.min (len r) (k/len Y))))),set f
false,forPair l m v [given [has (.cap P l),has (.cap P m)] [set f true,.break]],when f [extents,dots L I U,within Q L
(h-oh) (w-ow),whenAny Q [normalize o P,only n Q ij (fits o L),whenAny n [one Z n,both c (.shift o Z) P,update r .sub
P]]]]]),
("c8f0f002",sans 7 2 [few numc 1 9 Y R,flat c m1,spots c,few n 0 (h*w/2) o S,diff r S o,fresh 7 o,dyed O c 5 o,.for ij r
[tone,stamp T {ij}]]),
("c909285e",big 5 [rate n ((h+w)/2),picks b,sheet,spots I,loop n [either f (.fn .hfrontier) (.fn .vfrontier),any Z
S,strike S Z,hue T,ink T (.apply f [Z])],grades oh 3 (.max 3 ((h-2)/2)) ow (.max 3 ((w-2)/2)),aimIn oh ow,frameAt bx,ink
b bx,set O (subgrid bx I)]),
("c9e6f938",[pair d 1 30,allCols,grades h 1 30 w 15,sprinkle I 0 (h*w),hcat O I (.vm I)]),
("c9f8e694",spun [nonzero,sides 5,set U 0,rests,pick q K,grades N 1 (.min h 8) n 8,bare g h (w-1),tuples i (tup [.any
K]) j (range h),plot S g,set3 succ 0 f 0 m (n*5),during [lt succ n,lt f m] [corner 3 3,rand l (li+1) (.min (li+.max 1
(2*h/3)) (h-1)),rand o (W+1) (.min (W+.max 1 (2*w/3)) (w-1)),rect bd li W l o,ite (sub bd S) [fill g q bd,taken (S-bd)]
[inc f]],dots L g q,tuples i (cond (mem (arg d) (map [.fn .first,L])) (arg e) (tup [U])) (.pair d e) (enumerate i),set u
(toobject L (hupscale i w)),hcat I i g,laid r g u,hcat O i r]),
("caa06a1f",spun (big 10 [grades v 2 (h/2-1) p (w/2-1),paper,grade numc 2 (.min 8 (.max 2 (p*v))),rests,inks numc,cut K
Y,hue t,mottle P (.area v p),blank O,sheet,count a [un .neg v,h+1,v] [count b [un .neg p,w+1,p] [put (.move P a
(b+1))]],count a [un .neg v,h+1,v] [count b [un .neg p,w+1,p] [lay (.move P a b)]],grades i 1 (h-2*v) j (w-2*p),times a
i [ink t (hbar a w)],times b j [ink t (vbar b h)]])),
("cbded52d",[lattice,.for T Y [dots S O U,chains {p} (uniq (take r (i+1))),when (gt succ 0) [stamp T {Z}]]]),
("cce03e0d",[except (vec 2 8) 2 5,grades n 1 (h*w-1) o (.min 8 n),rate c (h*w-n),sample Y R o,flat I 0,tile,draw r S
n,diff m S r,ink 2 r,draw e m c,mottle e e,lay e,canvas O 0 (pow h 2) (pow w 2),set l (map [rbind (.fn .multiply) (vec h
w),r]),mapply s (shifter (.whole I)) l,put s]),
("cdecee7f",big 3 [rate numc (.min 9 w),scheme u 1 9,upTo S w,spray l numc,order l l idf,sheet,clear O,.for j l [roll i
(h-1),tone,dot I T i j,push O T],set O (O+list [U]*(9-len O)),tupleOf O O,tupleOf O (list [take O 3,back (mid O 3
6),drop O 6])]),
("ce22a75a",sans 1 3 [bg,hue f,blank c,few o 1 (h*w/3) d (.cells c),fresh f d,dyed O c 1 (near d),dye 1 d]),
("ce4f8723",mirrored (without 3 2 30 2 14 [picks r,hue c,other o c K,blank canv,spots canv,canvas g r h 1,set mp
(h*w/2),pair v 0 mp,gradeIn d v,gradeIn e v,either s (un .pos 1) m1,either n (un .pos 1) m1,set3 d (s*d) e (n*e) numa
(mp+d),set numb (mp+e),max numa (.min (h*w-1) numa) 1,max numb (.min (h*w-1) numb) 1,spray a numa,spray b numb,dyed i
canv c a,dyed f canv o b,hcat I (.hcat i g) f,dyed O canv 3 (uniq a∪uniq b)])),
("ce602527",big 12 [samples [U,H,J,"K"] R 4,redo [clear X,loop 2 [grades c 3 (h/3-1) d (w/3-1),bare B c d,plot u
B,portion m 0 (c*d/2-4) n (c*d) 3 (c*d-3),these o [.one u],.while (.or [lt (len o) n,ne (shape o) (vec c d)]) [extend o
u],push X (.norm o)],pull a b X,dyed g (.canvas 0 (shape a)) 1 a,dyed e (.canvas 0 (shape b)) 1 b,set x (.min (ht a) (ht
b)/2+1),set i (.min (wd a) (wd b)/2+1),pair s x i,set g (crop g base s),set e (crop e base s),quit (ne g e)],pull a b
X,any t X,dots r (.upscale (.fill (.canvas 0 (shape t)) 1 t) 2) 1,grade C (x*2) (ht t*2),set D (ht r-C),set li (h-ht
r+D),roll W (w-i*2),sheet,ink "K" (.move r li W),samples [.pair E l,.pair F j] (list [vec H a,vec J b]) 2,set Q (seen
U-box (.plot I)),only f Q ij (lt column (w/3*2)),only p Q ij (gt column (w/3)),only q f ij (fits l f),only G p ij (fits
j p),redo [one v q,one y q,shift z l v,shift A j y,quit (.and [sub z Q,sub A Q,isEmpty (.cap z A)])],fill2 I E (.shift l
v) F (.shift j y),dyed O (.canvas U (shape t)) (cond (eq t a) H J) t,set mfs (tup [idf,.fn .rot90,.fn .rot180,.fn
.rot270,.fn .cmirror,.fn .dmirror,.fn .hmirror,.fn .vmirror]),any "M" mfs,pull I O (vec (.apply "M" [I]) (.apply "M"
[O]))]),
("ce9e57f2",spun (sans 8 6 [grade n 2 ((w-2)/2),interval o 1 (w-1) 1,clear a,loop n [needOne o Z,push a Z,strikes o Z
(Z+1),strike o (Z-1)],bg,hues numc 1 8 c,blanks,.for j a [rate b (h-2),line f 0 j b j,line l 0 j (cond (eq (b%2) 1)
(b/2) ((b-1)/2)) j,any r c,stamp r f,dye 8 l]])),
("cf98881b",sized 2 30 2 9 [tint [U,r,o,l,j] 5 canv,spots canv,canvas g r h 1,set mp (h*w/2),pair d 0 mp,gradeIn e
d,gradeIn v d,gradeIn f d,either s (un .pos 1) m1,either n (un .pos 1) m1,either k (un .pos 1) m1,set3 e (s*e) v (n*v) f
(k*f),set3 numa (mp+e) numb (mp+v) numc (mp+f),max numa (.min (h*w-1) numa) 1,max numb (.min (h*w-1) numb) 1,max numc
(.min (h*w-1) numc) 1,spray a numa,spray b numb,spray c numc,dyed m canv o a,dyed p canv l b,dyed i canv j c,hcat I
(.hcat (.hcat m g) (.hcat p g)) i,dyed O i l b,dye o a])]

def idD : Recipes := [
("d037b0a7",big 3 [bg,blanks,few n 1 w l (span 0 w),.for j l [hue T,roll li (h-1),pair Z li j,both T {Z} (link Z (vec
(h-1) j))]]),
("d06dbe63",[spare R 5,mapply b (shifter (.frozen [vec m1 0,vec (int (-2)) 0,vec (int (-2)) 1,vec (int (-2)) 2])) (pairs
(un .neg (arg k)*2) (2*arg k) k (range 15)),mapply B (shifter (.frozen [south,vec 2 0,vec 2 m1,vec 2 (int (-2))]))
(pairs (2*arg k) (un .neg (arg k)*2) k (range 15)),cup P b B,set j (lam [ij] (.shift P (arg ij))),sides 5,tries d 1
(.min h w) 4,tint2 t I,blank O,tile,fullInds,retry d [tick,find S,set o (.apply j [Z]),free (.cap o fullinds) [placed
(S-o- .set [Z]),stamp t {Z},dye 5 o]]]),
("d07ae81c",[allCols,set l (lam [ij] (.shoot (arg ij) unit∪.shoot (arg ij) (sq m1)∪.shoot (arg ij) (vec m1 1)∪.shoot
(arg ij) (vec 1 m1))),sides 10,samples [C,j,t,u] R 4,set m 0,flat I 0,gradeBy d 10,loop d [objects X I true false
false,only X X o (.and [gt (call .min [shape (arg o)]) 3,gt (call .max [shape (arg o)]) 4]),only X X o (eq (ht (arg
o)*wd (arg o)) (len (arg o))),need X,one P X,ite coin [rand li (top P+2) (low P-1),hull n (.frozen [vec li (west P),lr
P])] [rand W (west P+2) (east P-1),hull n (.frozen [vec (top P) W,lr P])],inc m,ink m n],objects X I true false
false,items v P X [set T (cond (eq v 0) C (cond (eq v 1) j (.any (vec C j)))),ink T (.locs P)],dots f I C,dots c I j,min
a (len f) (len c),alike b e 1 (.max 1 (trunc (pow a (.dec 5 1)))),empty s,loop b [seq Q (f-s-near s),need Q,add s (.any
Q)],empty r,loop e [seq Q (c-r-near r),need Q,add r (.any Q)],fill2 I t s u r,cup L (.mapply l s) (.mapply l r),cap g f
L,cap i c L,ans t g,dye u i]),
("d0f5fe59",big 10 [rate o (.min 30 (h*w/9)),bg,hue f,set3 n 0 t 0 maxtrials (o*5),sheet,tile,during [lt t maxtrials,lt
n o] [alike oh ow 1 5,area bx oh ow,one g bx,set M {g},share v (oh*ow) e,loop e [one ij ((bx-M)∩beside M),add M ij],norm
M,need S,land S l M,free l [ink f l,shun S l,inc n],inc t],bare O n n,dye f (.line 0 0 (n-1) (n-1))]),
("d10ecb37",big 2 (speckled K [set O (crop I base (sq 2))])),
("d13f3404",sized 3 15 3 15 [set v (pairs (arg i) 0 i (span 0 h)),set o (pairs 0 (arg j) j (span 1 w)),tupleOf t (.cup v
o),few num 1 (len t) c t,bg,sheet,bare O (h*2) (w*2),tile,.for Z c [tupleOf L (.shoot Z unit∩S),any l L,hue T,both T {l}
(.shoot l unit)]]),
("d22278a0",big 4 [bg,blanks,tile,set C (corners S),fewOf n 1 4 C C,inks n,forZip T c Y C [stamp T {c},set r {c},count k
[1,.max h w/2+2,1] [cup r r (rim (rim r))],ite (gt (len C) 1) [set f (lam [ij] (lt (dist (.set [arg ij]) {c}) (call .min
[map [rbind (.fn .manhattan) (.set [arg ij]),map [.fn .initset,.remove c C]]])))] [set f (lam [ij] true)],cap l
(.sfilter S f) r,dye T l]]),
("d23f8c26",[allCols,dim h 2,rate c 14,set w (2*c+1),bg,blanks,rate n (h*w/2-1),hues u 1 9 K,spots I,spray l n,.for ij l
[hue T,ink T {ij},pull a b ij,when (eq b (w/2)) [dye T {ij}]]]),
("d2abd087",big 8 [any U (.diff R (vec 1 2)),rests,blanks,tile,gradeBy j 10,set3 maxtrials (4*j) tr 0 succ 0,seeking j
[need S,area t 5 5,one s t,strike t s,rate l 5,interval o l 6 1,rate u 5,set B (12-u),interval p 7 (B+1) 1,ite coin [set
m 6] [any m (o+p)],set P {s},again m [extend P t],norm P,land S d P,free d [ink anyHue d,dye (1+eq (len P) 6) d,settle
d],tick]]),
("d364b489",[besides [2,6,7,8] 4,tint2 f I,spots I,gradeBy num 5,empty e,times j num [needOne S r,strike S r,cut S (nbrs
r),cut S (.seq (.shift (map [rbind (.fn .multiply) 2,dnbrs base]) r)),add e r],ink f e,ans 7 (.move e 0 m1),fill2 O 6
(.move e 0 1) 8 (.move e 1 0),dye 2 (.move e m1 0)]),
("d406998b",without 3 3 30 2 30 [tint2 d I,blank O,upTo i h,times j w [few n 1 (cond (eq (h%2) 0) (h/2-1) (h/2)) l i,set
o (pairs (arg c) j c l),ink d o,dye (cond (eq ((j-w)%2) 0) d 3) o]]),
("d43fd935",big 10 [grades b 2 (h/2) o (w/2),corner b o,picks c,hues n 1 8 d,rect bd li W (li+b-1) (W+o-1),sheet,ink c
bd,seq E (.plot I-bd),max s 1 (len E/4),few f 0 s N E,only t N ij (.and [.or [lt row li,gt row (li+b-1)],.or [lt column
W,gt column (W+o-1)]]),diff r N t,only p r ij (lt row li),only m r ij (gt row (li+b-1)),only l r ij (lt column W),only i
r ij (gt column (W+o-1)),set u (motley d t),lay u,keep,reaching (.fn .last) J p (vseg (valmin subs (.fn .first)) J
(li-1)),reaching (.fn .last) J m (vseg (valmax subs (.fn .first)) J (li+b)),reaching (.fn .first) g l (hseg g (valmin
subs (.fn .last)) (W-1)),reaching (.fn .first) g i (hseg g (valmax subs (.fn .last)) (W+o))]),
("d4469b4b",[avoid (tup [1,2,3]),canvas canv 5 3 3,dyed A canv 0 (.set [south,vec 2 0,vec 1 2,sq 2]),dyed B canv 0
(corners (.plot canv)),dyed c canv 0 (.set [base,right,south,unit]),set o (tup [vec 2 A,vec 1 B,vec 3 c]),sides 2,split
T O o,flat I T,tile,few numc 1 7 Y R,fewOf u 0 (h*w-1) l S,mottle t l,lay t]),
("d4a91cb9",besides [2,4,8] 4 :: elbow 8 4),
("d4f3cd78",sans 8 10 [grades H 3 (h/3*2) l (w/3*2),aimIn H l,frozen C [here,vec (li+H-1) (W+l-1)],set3 f (corners C) bx
(box C) t (bx-f),tint2 F c,fewOf n 1 (len t) o t,fresh F (bx-uniq o),hull b (inbox bx),ans 8 b,pull A B (ul b),pull a e
(lr b),set3 g (lam [D] (cond (gt (arg D) a) 1 (cond (lt (arg D) A) m1 0))) i (lam [D] (cond (gt (arg D) e) 1 (cond (lt
(arg D) B) m1 0))) j (lam [d] (.shoot (arg d) (vec (.apply g [part d 0]) (.apply i [part d 1])))),mapply E j (uniq
o),dye 8 E]),
("d511f180",[except (vec 5 8) 2 30,few numc 1 8 Y R,flat c m1,spots c,few n 0 (h*w/2) b S,roll i n,set l (take b
i),.drop g b i,diff r S b,fresh 8 l,ink 5 g,dyed O c 5 l,dye 8 g,.for ij r [tone,stamp T {ij}]]),
("d5d6de2d",sans 3 10 [bg,trials 16,boxes (sizes 1 7) (whenClear [ink T (box bd),given [gt oh 2,gt ow 2] [dye 3 (.hull
(inbox bd))],taken (indss-bd-rim bd)])]),
("d631b094",big 2 [set U 0,rests,hue f,rate nc (.min 30 (h*w/2-1)),blank c,.cells Q c,sample e Q nc,fresh f e,canvas O f
1 nc]),
("d687bc17",big 5 [tint [U,C,l,m,u] 5 I,fill2 I C (hbar 0 w) l (vbar 0 h),fill2 I m (vseg (h-1) (w-1) 0) u (hseg (h-1)
(w-1) 0),tile,ink U (corners S),keep,hull Q (inbox (inbox S)),fewOf D 1 (.min (len Q) (h+h+w+w)) t Q,set t (motley (tup
[C,l,m,u]) t),toRow a n C 1,toColumn b c l 1,toRow d o u (h-2),toColumn f v m (w-2),dots i I U,diff s R (tup
[U,C,l,m,u]),grade N 0 (len i),set B ((h*w-2*h-2*(w-2))/2-D-1),fewOf N 0 (.max 0 B) E i,set j (motley s E),lay j]),
("d6ad076f",mirrored (sans 8 3 [grades i 3 h n w,trio s u,upTo t i,grade l 2 (i-1),set L (nth t l),set t (back (take t
(l-1))),grade d 0 (len t-1),set o (nth t d),rand C 1 (n-2),roll a (C-1),rand j (C+1) (n-1),roll b (C-1),rand e (C+1)
(n-1),rect f 0 a o j,rect g L b (i-1) e,bare c i n,fill2 c s f u g,whole P c,corner i n,locate,lodge P P,sheet,lay
P,rect m (o+1) (.max a b+1) (L-1) (.min j e-1),ans 8 (.shift m Z)])),
("d89b689b",sans 5 4 [samples [U,C,a,b,c,d] R 6,aim 1 (h-3) (w-3),blank canv,dyed O canv a (.set [here]),dot O b li
(W+1),dot O c (li+1) W,dot O d (li+1) (W+1),spots canv,among o (.and [lt row li,lt column W]),among p (.and [lt row
li,gt column (W+1)]),among t (.and [gt row (li+1),lt column W]),among s (.and [gt row (li+1),gt column (W+1)]),order o o
(lam [ij] (dist (.set [arg ij]) (.set [here]))),order p p (lam [ij] (dist (.set [arg ij]) (spot li (W+1)))),order t t
(lam [ij] (dist (.set [arg ij]) (spot (li+1) W))),order s s (lam [ij] (dist (.set [arg ij]) (spot (li+1) (W+1)))),grades
i 0 (len o-1) x (len p-1),grades e 0 (len t-1) f (len s-1),set3 l (nth o i) g (nth p x) L (nth t e),set j (nth s f),dyed
I canv C (.hull (.set [here,vec (li+1) (W+1)])),fill2 I a {l} b {g},fill2 I c {L} d {j}]),
("d8c310e9",sized 3 30 10 30 [grade p 2 ((w-1)/3),scheme numc 1 9,empty P,times j p [rate u (h-1),count i [h-1,h-u-1,m1]
[pair Z i j,tone,pair c T Z,add P c]],sheet,waves,lay f,keep,times j (w/(2*p)+2) [put (.move f 0 (j*2*p))],set mfs
rotations,any fn mfs,apply I fn,apply O fn]),
("d90796e8",[besides [8,2,3] 3,tint2 s I,gradeBy n 3,tile,draw l S n,fset P (motley (tup [s,2,3]) l),lay P,one f S,one x
(dnbrs f∩S),fill2 I 2 {f} 3 {x},keep,dots d I 2,dots g I 3,empty o,empty t,.for r d [cap i (dnbrs r) g,whenAny i [add o
r,cup t t i]],fill2 O U o 8 t]),
("d9f24cd1",spun (big 5 [picks L,hue D,interval c 1 (w-1) 1,set m ((w-2)/2),rate n m,clear C,loop n [needOne c Z,strikes
c Z (Z-1),strike c (Z+1),push C Z],rate t m,interval c 1 (w-1) 1,clear d,loop t [needOne c Z,strikes c Z (Z-1),strike c
(Z+1),push d Z],sheet,.for l C [dot I L (h-1) l],clear o,.for l d [rand J 1 (h-2),dot I D J l,push o J],keep,.for i C
[ite (mem i d) [set J (nth o (ask .position d [i])),fill2 O L (vseg (h-1) i (J+1)) L (vseg (J+1) (i+1) 0)] [dye L (vseg
(h-1) i 0)]]])),
("d9fac9be",big 6 [tint [U,N,i] 3 I,grades o 1 (h*w/3-1) s (.max 1 (h*w/3-9)),tile,draw n S o,sample e (.diff (.seq S)
n) s,fill2 I N n i e,set r (nbrs unit),hued f N r,hued p i r,set c (occ I f),set a (occ I p),.for b c [one Z (.shift r
b),ink (.any (vec U i)) {Z}],.for d a [one Z (.shift r d),ink (.any (vec U N)) {Z}],corner 3 3,move g r li W,ink i g,dot
I N (li+1) (W+1),canvas O N 1 1]),
("dae9d2b5",mirrored (without 6 2 30 2 14 [picks o,hue l,blank c,spots c,twoParts,when (isEmpty (uniq a∩uniq b)) [set b
(take b m1+list [.any a])],dyed A c o a,dyed B c l b,hcat I A B,cup e (uniq a) (uniq b),dyed O c 6 e])),
("db3e9e38",spun (sans 8 3 [bg,hue f,grades b 1 (.max 1 (w/5)) li (h-2),rand W 1 (w-b-1),rect a li W 0 (W+b-1),sheet,ink
f a,blank O,loop 16 [set r (mult (2*k) (vec m1 b)),dye f (.shift a r),set l (mult (2*k) (vec m1 (un .neg b))),dye f
(.shift a l),set r (mult (2*k+1) (vec m1 b)),dye 8 (.shift a r),set l (mult (2*k+1) (vec m1 (un .neg b))),dye 8 (.shift
a l)]])),
("db93a21d",[avoid (vec 1 3),grades h 12 31 w 32,gradeBy num 25,tint2 g I,blank O,plot indss I,set3 maxtrials (4*num) tr
0 succ 0,seeking num [need indss,rand oh 1 (h/4),set3 ow oh f (4*oh) u (4*ow),openings f u,when (isEmpty subs)
[tick,.continue],split li W subs,rect b li W (li+f-1) (W+u-1),rect s (li+oh) (W+ow) (li+f-1-oh) (W+u-1-ow),when (sub b
(indss∪.dots O 3)) [ink g s,fill2 O 3 b g s,mapply t (rays south) (link (lr s) (ll s)),dye 1 (.dots O U∩t),taken
(indss-b)],tick],.drop I I 1,.drop O O 1,tuples I (mid (arg r) 1 m1) r I,tuples O (mid (arg r) 1 m1) r O]),
("dbc1a6ce",spans 8),
("dc0a314f",hiddenBox (spare R 3) 3),
("dc1df850",[except (vec 1 2) 4 30,bg,blank c,grade nc 0 (h*w/2-1),portion d 0 (nc/2) n nc 0 nc,spots c,spray o
nc,sample e o n,diff t o e,fill c 2 e,fset P (motley K t),paint c P,tuples I (arg r) r c,calls O .underfill [c,1,near
(.fset e)]]),
("dc433765",turned (sans 4 4 [tint2 s I,blank O,tile,ite coin [cup t (pairs (arg i) 0 i (range (h-2))) (pairs 0 (arg J)
J (call .range [1,w-2,1])),tupleOf t (each (S∩.shoot (arg s) unit) s t),order t t (.fn .size),.len k t,grade o 0
(k-1),order L (nth t o) (.fn .first),grade e 2 (len L-1),set E (nth L e),set L (back (take L (e-1))),grade p 0 (len
L-1),set d (nth L p),fill2 I s {d} 4 {E},fill2 O s (.set [.plus d unit]) 4 {E}] [roll li (h-1),grade j 3 w,roll l
(w-j),set c (l+j-1),pair d li l,pair E li c,fill2 I s {d} 4 {E},fill2 O s (.set [.plus d right]) 4 {E}]])),
("ddf7fa4f",spun (big 10 [rate n (.min (w/3) (h*w/36)),bg,blanks,budget (10*n),tile,among S (gt row 1),trying n
[tick,sizes 2 7,room,set3 a (gather .set (arg c) [.mk (.pair c T) (enumerate (nth I 0)) [eq (arg T) U]]) t (gather .set
(arg c) [.mk (.pair c T) (enumerate (nth I 0)) [ne (arg T) U]]) o (eachIf (arg j) j (range w) [.and [has (uniq (span
(arg j) (arg j+ow))∩a),isEmpty (uniq (span (arg j) (arg j+ow))∩t)]]),only Q Q ij (mem column o),want Q,pull li W (.one
Q),any l (those (span W (W+ow)) [J] (mem (arg J) a)),rectAt d,free d [settle d,hue T,other g T K,stamp T (spot 0 l),ink
g d,dye T d]]])),
("de1cd16c",big 6 [pick i R,hues N 2 9 Y,set s (nth Y 0),.drop Y Y 1,flat I s,again N [objects X I true false false,only
X X o (.or [gt (ht (arg o)) 5,gt (wd (arg o)) 5]),need X,seq X X,any P X,ite (.and [gt (ht P) 5,gt (wd P) 5]) [either a
0 1] [ite (gt (ht P) 5) [set a 0] [when (gt (wd P) 5) [set a 1]]],ite (eq a 0) [rand li (top P+3) (low P-2),only b
(.locs P) ij (ge row li)] [when (eq a 1) [rand W (west P+3) (east P-2),only b (.locs P) ij (ge column W)]],ink (nth Y k)
b],order X (.objects I true false false) (.fn .size),set l (each (.max 1 ((ht (arg o)-2)*(wd (arg o)-2)/2)) o X),max m 1
(trunc (div (.sum l) (len l))),set c (each (.rand 0 (.min m (arg e))) e l),.while (eq (call .max [c]) 0) [set c (each
(.rand 0 (.min m (arg e))) e l)],set3 x (call .max [c]) f (eachIf (arg D) (.pair D n) (enumerate c) [eq (arg n) x]) g
(nth f 0),set d (color (nth X g)),.drop f f 1,.for D f [update ⟨c,[D]⟩ .sub 1],forZip P n X c [draw L (.hull (inbox
(.locs P))) n,ink i L],canvas O d 1 1]),
("ded97339",big 5 [tint2 c I,grade N 2 (h*w/9),tile,empty t,ite coin [rands i 0 (h-1) l (w-3),rand j (l+2) (w-1),add t
(vec i l),add t (vec i j)] [rands d 0 (w-1) o (h-3),rand L (o+2) (h-1),add t (vec o d),add t (vec L d)],loop (N-2) [find
S,add t Z,set S (S- .set [Z]-nbrs Z)],ink c t,keep,items f r I [when (gt (ask .count r [c]) 1) [set a (ask .position r
[c]),set b (w-ask .position (slice r none none (some m1)) [c]-1),dye c (hseg f a b)]],dm O O,dm I I,items f r I [when
(gt (ask .count r [c]) 1) [set a (ask .position r [c]),set b (h-ask .position (back r) [c]-1),dye c (hseg f a b)]]])]

def idE : Recipes := [
("e179c5f4",spare R 8 :: zigzag ++ [replace O O U 8]),
("e21d9049",big 10 [alike p c 2 9,bg,fset b (pairs anyHue (vec (arg k) 0) k (range p)),fset a (pairs anyHue (vec 0 (arg
k)) k (range c)),rands i 0 (h-p) l (w-1),pair d i l,rands j 0 (w-c) o (h-1),pair e o j,blank canv,shift b b d,shift a a
e,pair C o l,hue T,set r (nth (call .extract [b,lam [cij] (eq (call .abs [nth (part cij 1) 0-o]%p) 0)]) 1),cup b (those
b [cij] (ne (call .abs [nth (part cij 1) 0-o]%p) 0)) (spot T r),set f (nth (call .extract [a,lam [cij] (eq (call .abs
[nth (part cij 1) 1-l]%c) 0)]) 1),cup a (those a [cij] (ne (call .abs [nth (part cij 1) 1-l]%c) 0)) (spot T f),laid I
canv (.cup b a),laid O canv (.cup b a),loop (h/p+1) [put (.move b (k*p) 0),put (.move b (un .neg k*p) 0)],loop (w/c+1)
[put (.move a 0 (k*c)),put (.move a 0 (un .neg k*c))]]),
("e26a3af2",mirrored [allCols,rate n 10,dim w 4,sample o R n,set c (each (.canvas (arg T) (vec 2 w)) T o),grade u 0
(30-n),loop u [roll D (n-1),store ⟨c,[D]⟩ (nth c D+drop (nth c D) m1)],clear d,items D T o [set g (nth c D),dims a b
g,set B (a*b/2-1),grade E 0 B,spots g,spray N E,remove f T R,fset N (motley f N),laid s g N,.for i (list [0,m1]) [.while
(lt (.sum (each (eq (arg e) T) e (nth s i))) (w/2)) [set l (eachIf (arg j) (.pair j e) (enumerate (nth s i)) [ne (arg e)
T]),any ch l,ite (eq i 0) [set s (tup [take (nth s 0) ch+tup [T]+drop (nth s 0) (ch+1)]+drop s 1)] [set s (take s m1+tup
[take (nth s m1) ch+tup [T]+drop (nth s m1) (ch+1)])]]],push d s],set I (.tuples (arg r) [.mk g d [],.mk r (arg g)
[]]),set O (.tuples (arg r) [.mk g c [],.mk r (arg g) []])]),
("e3497940",sized 4 30 3 14 [duo b,remove K b (.remove U R),tones c 8,rate n h,upTo o h,sample i o n,blank r,blank
l,blank O,.for d i [rate j (w-1),set P (each (vec (.any Y) (vec d (arg J))) J (range j)),put P,rand s 1 j,set B (take P
s),maySwap P B,paint r P,paint l B],hcat I (.hcat (.vm l) (.canvas b (vec h 1))) r,vm O O]),
("e40b9e2f",big 6 [grade d 4 (.min h w-2),corner d d,locate,scheme m 1 9,bare u d d,plot S u,ite (eq (d%2) 0) [among q
(.and [lt row (d/2),lt column (d/2)]),these C [sq (d/2-1),vec (d/2) (d/2-1),vec (d/2-1) (d/2),sq (d/2)]] [among q (.and
[lt row (d/2),le column (d/2)]),cup C (spot (d/2) (d/2)) (call .ineighbors [sq (d/2)])],rise g 1 ((d-2)/2),empty r,loop
g [set c (box (vecs k k (d-k-1) (d-k-1))),cup r r c],set i (q-r),cap o r q,fewOf n 1 (len q) t q,cup t (uniq t∪.set
[.one i]) (.set [.one o]),mottle a t,during [eq (.hm a) a,eq (.vm a) a] [fewOf n 1 (len q) t q,cup t (uniq t∪.set [.one
i]) (.set [.one o]),mottle a t],loop 4 [paint u a,rot90 u u],hued f (.any Y) C,paint u f,set s u,copy b s,fill s U
r,rate l 4,set p (each (call .set []) k (range l)),items D j a [add ⟨p,[D%l]⟩ j],times J 4 [when (lt J (len p)) [paint s
(nth p J)],rot90 s s],paint s f,any rotf rotations,apply s rotf,apply b rotf,laid I (slab h w) (.shift (.whole s)
Z),laid O (slab h w) (.shift (.whole b) Z)]),
("e48d4e1a",spun (big 3 [aim 1 (h-2) (w-2),area S li W,min m (.min (h-li-1) (w-W-1)) (len S),fewOf n 1 m s S,tint
[U,f,d] 3 I,blank O,fill2 I f (hray (vec li 0)∪vray (vec 0 W)) d s,dye f (hray (vec (li+n) 0)∪vray (vec 0 (W+n)))])),
("e5062a87",[nonzero,sides 10,samples [e,b] R 2,flat I e,tile,one d S,set P {d},grade l 3 9,again l [swell P S],norm
P,fewOf N (trunc (.dec 2 1*h*w)) (trunc (.dec 5 1*h*w)) L S,ink 0 L,rise c 2 (h*w/(len P*3)),extents,loop c [corner oh
ow,locate,ink (cond (eq k (c-1)) b 0) (.shift P Z)],set o (occ I (.hued 0 P)),mapply r (shifter P) o,ans b r]),
("e509e548",[avoid (tup [1,2,6]),set3 g (lam [h,w] (vbar 0 (arg h)∪hbar 0 (arg w))) e (lam [h,w] (hbar 0 (arg w)∪vseg 0
0 (.rand 1 (arg h-1))∪vseg 0 (arg w-1) (.rand 1 (arg h-1)))) t (lam [h,w] (hbar 0 (arg w)∪.move (vbar 0 (arg h)∪hseg
(arg h-1) 0 (.rand 1 (arg w-1))) 0 (.rand 1 (arg w-2)))),set m (tup [tup [2,2,g],tup [2,3,e],tup [3,3,t]]),set c (.table
[(g,1),(e,6),(t,2)]),sides 10,scheme N 1 6,tries o 3 (h*w/10) 5,blanks,tile,trying o [tick,parts [i,n,r] (.any m),rand
oh i 6,rand ow n 6,set P (.apply r [oh,ow]),flipped,lodge d P,free d [settle d,tone,ink T d,dye (nth c r) d]]]),
("e50d258f",sans 2 10 [picks p,trials 10,set b .nothing,set O .nothing,seeking num [needBoth,sizes 3 8,tryBox,whenClear
[tones u 7,ite (eq succ 0) [rate n (oh*ow),set b n] [grade n 0 (.min (oh*ow) (b-1))],canvas C (.any Y) oh ow,plot c
C,draw subs c n,mottle o (c-uniq subs),set j (pairs 2 (arg ij) ij subs),cup P o j,lay (.move P li W),when (isNone O
.nothing) [laid O C P],taken (indss-bd-rim bd)],tick]]),
("e6721834",turned (sized 6 15 8 30 [samples [a,c,C] R 3,leave (tup [a,c,C]),flat g a,flat G c,gradeBy N 16,set3 tr 0
succ 0 maxtr (5*N),plot i g,plot n G,flat O c,clear s,retry N [tick,rands oh 2 (.min 6 (h/2)) ow (.min 6 (w/2)),seek Q i
Z h oh w ow,lodge V (.area oh ow),rate e (oh*ow/2),setOf P (.draw V e),hue B,normalize o P,skip (mem (vec o B) s),push s
(vec o B),when (sub V i) [inc succ,shun i V,fill2 g C V B P,seek d n l h oh w ow,shift b (.shift V (invert Z)) l,shift J
(.shift P (invert Z)) l,when (sub b n) [shun n b,fill G B J,fill2 O C b B J]]],vcat I g G])),
("e73095fd",[spare R 4,redo [alike h w 10 32,tint2 F I,grade n 2 (.min h w/3),loop n [parted false X U,set X (map [.fn
.toindices,X]),only j X o (gt (ht (arg o)) 6),only s X o (gt (wd (arg o)) 6),quit (.and [isEmpty j,isEmpty s]),set p
(eachIf (vec (arg g) (arg a)) (.pair g a) (zip (list [j,s]) (list [0,1])) [has (arg g)]),split g a p,one P g,pull u l
(ul P),extents,ite (eq a 0) [rand m (u+3) (u+oh-3),only B P ij (eq row m)] [rand q (l+3) (l+ow-3),only B P ij (eq column
q)],ink F B],only c (seen F) ij (gt (len (ofHue (toobject (dnbrs (arg ij)) I) F)) 2),only c c ij (mem (len (ofHue
(toobject (rim (rim (.set [arg ij]))) I) F)) (.set [3,4])),want c,rate N (len c),fewOf N N (len c) t c,keep,empty f,.for
d t [pull u l (decrement d),pull r i (increment d),when (mem (len (ofHue (toobject (box (vecs u l r i)) I) F)) (.set
[3,4])) [clear b,.for v (list [int (-2),m1,0]) [.for y (list [int (-2),m1,0]) [.for z (list [0,1,2]) [.for A (list
[0,1,2]) [set bx (box (vecs (u+v) (l+y) (r+z) (i+A))),set x (toobject bx I),given [mem (len (ofHue (toobject x I) F))
(.set [3,4]),mem (len (ofHue (toobject (rim x) I) F)) (.set [3,4])] [push b bx]]]]],only b b bx (isEmpty (.hull (arg
bx)∩f)),whenAny b [any bx b,hull bd bx,fill2 I U bd F bx,fill2 O 4 bd F bx,update f .union bd]]],set I (trim I),set O
(trim O),quit (mem 4 (pal O))]]),
("e76a88a6",motleyCopies),
("e8593010",[frozen a [.frozen [base]],smallShapes,parts [a,b,c] (tup [.seq a,.seq b,.seq c]),set p (list [vec a 3,vec b
2,vec c 1]),strewn 2 [need r]]),
("e8dc4411",spun (big 9 [grade d 3 (.min h w/2-1),trio j r,bare c d d,only S (.plot c) ij (.and [ge row (d/2),ge column
(d/2)]),portion a 1 (len S/2) nc (len S) 2 (len S-1),draw cells S nc,cup cells (uniq cells) (.set [.any (vec (sq (d/2))
(vec (d/2) (d/2-1)))]),cup cells cells (pairs (arg J) (arg f) (.pair f J) cells),loop 4 [fill c j cells,rot90 c
c],during [eq (pal (toobject (box (.plot c)) c)) (.frozen [U]),gt (ht c) 3] [set c (trim c)],dots P c j,set o (ht P),aim
1 (h-2*o) (w-2*o),move P P li W,hull bd P,set p 0,.while (has (.move P p p∩bd)) [inc p],move B P p p,.near n P,.while
(isEmpty (.cap B n)) [.near n n],cap i B n,sheet,fill2 I j P r i,keep,loop 30 [dyed g O r (.move P (p*(k+1))
(p*(k+1))),quit (eq g O),set O g]])),
("e9614598",mirrored (sans 3 5 [roll r (h-1),grade i 2 (w/2),set s (2*i+1),min s (.max 5 s) w,roll W (w-s),tint2 d
c,pair A r W,pair B r (W+s-1),fresh d (.set [A,B]),pair l r (W+s/2),ans 3 {l},dye 3 (dnbrs l)])),
("e98196ab",mirrored (sized 3 14 3 30 [picks l,pick t K,hue b,blank c,spots c,few n 2 (h*w/2) subs S,rand numa 1
(n-1),sample A subs numa,diff B subs A,dyed o c t A,dyed g c b B,dyed O o b B,canvas r l 1 w,vcat I (.vcat o r) g])),
("e9afcf9a",sized 2 30 4 30 [few numc 1 (.min 10 h) c R,tuples r (.any c) k (range h),set3 a (back r) I (list []) O
(list []),loop w [push I r,ite (eq (k%2) 0) [push O r] [push O a]],dm I (.tupleOf I),dm O (.tupleOf O)]),
("ea32f347",[besides [1,2,4] 5,dim a 3,grade b 2 a,rate c b,when (eq (c-a) 2) [ite (gt a 1) [update a .sub 1] [when (lt
c (.min h w)) [inc c]]],bg,blanks,tile,forZip T l (tup [1,4,2]) (tup [a,b,c]) [line n 0 0 0 (l-1),line N 0 0 (l-1) 0,
dyed t I m1 (.plot I-S),set3 o (occ t (.hued U n)) s (occ t (.hued U N)) p (list []),whenAny o [push p (vec n o)],
whenAny s [push p (vec N s)],split e d p,land d L e,ink anyHue L,dye T L,set S (S-L-beside L)]]),
("ea786f4a",sized 1 14 1 14 [pair mp h w,set h (2*h+1),set w (2*w+1),pick i R,flat I i,remove S mp (.plot I),tones c
9,mottle P S,lay P,shoot L mp (sq m1),shoot N mp unit,shoot l mp (vec m1 1),shoot n mp (vec 1 m1),ans i (.cup L
N∪l∪n)]),
("eb281b96",sized 3 8 3 30 [scheme numc 1 9,blank c,plot S c,fewOf e 1 (h*w) l S,mottle P l,laid I c P,vcat O I (.hm
(take I m1)),vcat O O (.hm (take O m1))]),
("eb5a1d5d",[allCols,grade d 2 10,canvas O m1 (d*2-1) (d*2-1),sample c R d,items j C c [dye C (.frame j j (2*d-2-j)
(2*d-2-j))],alike v l 0 (30-d),set n (list [v,l]),copy I O,during [.or [gt (nth n 0) 0,gt (nth n 1) 0],lt (call .max
[shape I]) 30] [clear o,when (gt (nth n 0) 0) [push o (vec idf 0)],when (gt (nth n 1) 0) [push o (vec (.fn .dmirror)
1)],split m ch o,apply I m,roll i (len I-1),set I (take I (i+1)+drop I i),apply I m,update ⟨n,[ch]⟩ .sub 1]]),
("ec883f72",big 6 [grades i 0 (h-6) a (w-6),set oh (h-5-i),set ow (w-5-a),corner oh ow,tint [U,s,c] 3 I,rectAt P,ink s
P,set o (rim (rim P)),ink c o,shoot L (lr o) unit,shoot N (ul o) (sq m1),shoot l (ll o) (vec 1 m1),shoot n (ur o) (vec
m1 1),cap b (.cup L N∪l∪n) (seen U),ans s b]),
("ecdecbb3",mirrored (big 4 [tint [U,t,c] 3 I,rate n (h/4),upTo S h,clear o,loop n [needOne S D,push o D,strikes S D
(D-1),strikes S (D+1) (D-2),strike S (D+2)],set o (sorted o),.for g o [ink c (hray (vec g 0))],diff i (.diff (.diff
(span 0 h) o) (map [.fn .increment,o])) (map [.fn .decrement,o]),upTo j w,rate N (.min (len i) (w/2)),clear l,loop N
[quit (.or [isEmpty i,isEmpty j]),any li i,any W j,push l here,strikes j W (W+1),strike j (W-1)],set O I,.for d l [pull
li W d,ite (lt li (call .min [o])) [fill2 O t (link d (vec (call .min [o]) W)) c (nbrs (vec (call .min [o]) W))] [ite
(gt li (call .max [o])) [fill2 O t (link d (vec (call .max [o]) W)) c (nbrs (vec (call .max [o]) W))] [set f (nth
(eachIf (arg e) e o [lt (arg e) li]) m1),set E (nth (eachIf (arg e) e o [gt (arg e) li]) 0),fill2 O t (vseg f W E) c
(nbrs (vec f W)),dye c (nbrs (vec E W))]],ink t {d}]])),
("ed36ccf7",big 1 (speckled K [set O (rot270 I)])),
("ef135b50",[spare R 9,redo [sides 8,scheme numc 1 8,sheet,tries n 2 (h*w/30) 5,tile,empty t,retry n [tryRect 1 (h/3*2)
(w/3*2) bd,free bd [placed (S-bd-near bd),ink (.any Y) bd,add t bd]],empty e,dots o I U,.for p t [.for a (.remove p t)
[when (call .hmatching [p,a]) [max u (top p) (top a),min b (low p) (low a),set l (.min (east p) (east a)+1),set r (.max
(west p) (west a)-1),cup e e (.rect u l b r)]]],set e (.cap e o-box (.plot I)),ans 9 e,quit (ne O I)]])]

def idF : Recipes := [
("f15e1fac",turned (sans 2 4 [grades n 1 ((w-1)/2) p ((h-1)/2),set3 s (rising 1 (w-1) n) g (rising 1 (h-1) p) o 0,tint2
l I,fill2 I l (pairs 0 (arg j) j s) 2 (pairs (arg i) 0 i g),keep,forZip a b (list [0]+g) (each (arg x-1) x g+list [h-1])
[.for j s [dye l (vseg a (j+o) b)],inc o]])),
("f1cefba8",big 7 [grades H 6 (h-1) d (w-1),corner H d,trio n i,frozen P [here,vec (li+H-1) (W+d-1)],set g (box P),set r
(inbox P),hull bd P,blank c,fill2 c i bd n (.cup g r),seq Q (r-corners r),few numc 1 (len Q/2) L Q,fresh i L,set l (low
r),only o L ij (.and [gt row (li+1),lt row l]),diff v L o,mapply e (.fn .hfrontier) o,mapply s (.fn .vfrontier) v,cup f
(uniq e) (uniq s),cap t f (.dots c U),cap p f (.dots c i),dyed O c i t,dye n p]),
("f25fbde4",big 2 [rise n 1 (.min 15 (h-1)*.min 15 (w-1)/2),either nc n ((h-1)*(w-1)-n),min nc (.max 1 n)
((h-1)*(w-1)-1),bg,hue f,blank c,area V (.min 15 (h-1)) (.min 15 (w-1)),one ch V,pose nc,lodge l M,fresh f l,calls O
.compress [I],upscale O O 2]),
("f25ffba3",[nonzero,rate h 14,set h (h*2+1),grade w 3 15,bg,hues u 1 8 K,blank canv,grade nc 2 (h*w-2),plot bx
canv,sprawl,.while (.or [gt (top P) (h/2-1),lt (low P) (h/2+1)]) [attach],laid g canv P,set g (map [rbind (.fn .order)
(matcher idf U),g]),hcat I g canv,hcat O g (.vm g),when coin [vm I I,vm O O],when coin [hm I I,hm O O]]),
("f2829549",barred (cap e (uniq S-uniq a) (uniq S-uniq b))),
("f35d900a",sans 5 4 [trio C d,grades oh 4 h ow w,corner oh ow,frameAt bx,blanks,fill2 I C (.set [ul bx,lr bx]) d (.set
[ur bx,ll bx]),fill2 O C (.set [ul bx,lr bx]) d (.set [ur bx,ll bx]),fill2 O C (nbrs (ur bx)∪nbrs (ll bx)) d (nbrs (ul
bx)∪nbrs (lr bx)),set s (corners bx),.for c s [set o {c},remove r c s,only b bx ij (le (dist o (.set [arg ij])) (valmin
r (lam [e] (dist (.set [arg ij]) (.set [arg e]))))),only v b ij (.and [gt (dist o (.set [arg ij])) 1,eq (dist o (.set
[arg ij])%2) 0]),dye 5 v]]),
("f5b8619d",without 8 2 15 2 15 [rate c (h*w/2-1),bg,sheet,tile,draw l S c,roll b (w-1),only l l ij (ne column b),tones
u 8,fset P (motley Y l),lay P,ans 8 (.mapply (.fn .vfrontier) (uniq l)∩(S-uniq l)),hcat O O O,vcat O O O]),
("f76d97a5",[remove R 0 (.remove 5 colors),sides 4,any T R,flat I 5,flat O T,portion n 0 (h*w/2) num (h*w) 1 (h*w),spots
I,spray l num,ink T l,dye 0 l]),
("f8a8fe49",plates [set cells (.insert (.one (those Q [ij] (eq row (low Q)))) cells)] ++ [pull O I (vec I O)]),
("f8b3ba0a",sized 1 5 1 5 [grades H 3 (29/(h+1)) e (29/(w+1)),set u ((h+1)*H+1),set F ((w+1)*e+1),pickTwo f U,move M
(.area h w) 1 1,canvas I f u F,empty o,times a H [times b e [pair Z (a*(h+1)) (b*(w+1)),add o Z,ink U (.shift M
Z)]],rate numc (H*e/2-1),set3 s (list []) n (numc+1) N 0,during [gt n 1,gt numc 0,has K] [calls d .int [.dec 5 1*pow
(8*numc+1) (.dec 5 1)-1],min n (.max 1 d) (n-1),pick T K,update numc .sub n,push s (vec T n)],dm O (tup [.tuples (arg c)
[.mk (.pair c n) s []]]),forPair T n s [draw l o n,ink T (.mapply (shifter M) l),set o (o-uniq l)]]),
("f8c80d96",sans 5 8 [rands ow 1 (cond (gt h 10) 3 2) oh (cond (gt w 10) 3 2),rand li (un .neg oh+1) (h-1),rand W (un
.neg ow+1) (w-1),rectAt P,tint2 i I,flat O 5,set L (rim P),pull u l (decrement (ul P)),pull r c (increment (lr P)),rands
o 2 (cond (gt h 12) 4 3) f (cond (gt w 12) 4 3),clear s,loop (.max h w/.min o f+1) [frame x (u-o*k) (l-f*k) (r+o*k)
(c+f*k),push s x],tile,only s s N (has (arg N∩S)),.len n s,grade m 0 (n-2),set p (n-m),loop p [ink i (nth s k)],.for N s
[dye i N]]),
("f8ff0b80",big 10 [bg,rate o (.min 30 (h*w/25)),sheet,grade u (o+1) 36,area b 6 6,set maxtr 10,tile,clear O,loop o
[quit (.or [isEmpty S,lt u 2]),grade u (o-k) (u-1),quit (eq u 0),one c b,set M {c},remove e c b,times kk (u-1) [swell M
e],norm M,set v false,within r S (h-ht M) (w-wd M),find r,set tr 0,during [un .not v,lt tr maxtr] [one Z S,set v (sub
(.shift M Z) S),tick],when v [lodge l M,hue T,push O T,shun S l,ink T l]],dm O (tup [.tupleOf O])]),
("f9012d9b",[nonzero,alike p a 2 10,canvas s 0 p a,plot S s,few nc 1 9 Y R,mottle P S,paint s P,laid I s P,grades n 3
(30/p) u (30/a),again n [vcat I I s],copy s I,again u [hcat I I s],roll c p,loop c [set I (take I m1)],dm I I,roll r
a,loop r [set I (take I m1)],dm I I,dims h w I,grades g 1 (h-p-1) b (w-a-1),corner g b,locate,pair M g b,these P
[Z,decrement (.plus Z M)],hull P P,set O (subgrid P I),ink 0 P,any m (tup [idf,.fn .rot90,.fn .rot180,.fn .rot270,.fn
.dmirror,.fn .vmirror,.fn .hmirror,.fn .cmirror]),apply I m,apply O m]),
("fafffa47",halved (set e (uniq S-(uniq a∪uniq b)))),
("fcb5c309",big 10 [trio d q,gradeBy n 25,sheet,tile,set3 maxtr (4*n) tr 0 succ 0,set u .nothing,set t false,retry n
[sizes 3 7,room,find Q,pull li W Z,frameAt f,hull bd f,free bd [ink q f,hull i (inbox f),ite (isNone u .nothing) [fewOf
u 1 (len i) cells i,set t true] [fewOf nc 0 (.min (.max 0 (u-1)) (len i)) cells i],ink d cells,when t [replace O
(subgrid f I) q d,set t false],set S (S-bd-rim bd),inc succ],tick],fewOf e 0 (.max 0 (len S/2-1)) o S,ink d o]),
("fcc82909",sans 3 7 [rate N (w/3),upTo t w,set3 tr 0 maxtr (4*N) succ 0,bg,blanks,trying N [tick,only o t j (sub (uniq
(span (arg j) (arg j+2))) t),need o,rate numc 4,any s o,strikes t s (s+1),upTo e (h-2-numc+1),needOne e i,inks numc,rect
bd i s (i+1) (s+1),set bd (listOf bd),shuffle bd,cup P (pairs (arg c) (arg ij) (.pair c ij) (zip Y (take bd numc)))
(motley Y (drop bd numc)),skip (un .not (sub (beside (.locs P)) (seen U))),lay P,put P,loop numc [dye 3 (vecs (i+k+2) s
(i+k+2) (s+1))]]]),
("feca6190",[allCols,grade w 2 6,set U 0,rests,tones c (.min w 5),upTo Q w,sample l Q c,bare I 1 w,bare O (w*c)
(w*c),forZip T j Y l [both T (spot 0 j) (.shoot (vec (w*c-1) j) (vec m1 1))]]),
("ff28f65a",[avoid (vec 1 2),set m (.table [(1,base),(2,vec 0 2),(3,unit),(4,vec 2 0),(5,sq 2)]),sides 3,paper,rand n 1
5,sheet,budget (5*n),tile,retry n [tryRect 1 (h/2+1) (w/2+1) bd,free bd [settle bd,ink 2 bd]],set b succ,tries t 0 (n*2)
5,rests,tick,retry t [tryRect 1 (h/2+1) (w/2+1) bd,free bd [settle bd,ink anyHue bd]],bare O 3 3,loop b [dye 1 (.set
[nth m (k+1)])]]),
("ff805c23",hiddenBox nonzero 0)]

end PuzzlePrograms.Recipe.Tasks
