import PuzzlePrograms.Recipe.Names

/-!
# Recipes of the tasks whose identifier starts with 4 to 7
-/

namespace PuzzlePrograms.Recipe.Tasks

open Stmt

set_option maxRecDepth 20000

def id4 : Recipes := [
("40853293",big 5 [grade s 2 (.min 8 (h*w/2)),rand o 1 (s-1),set v (s-o),upTo i h,sample i i (.min o (len
i)),bg,blanks,.for A i [grade n 2 (w-1),roll d (w-n),set f (d+n-1),pair a A d,pair b A f,set k (link a b),pick T K,both
T (.set [a,b]) k],upTo l w,dm g I,only l l j (gt (.sum (gather .elements 1 [.mk e (nth g (arg j)) [eq (arg e) U]]))
1),min v v (len l),sample l l v,.for J l [set c (eachIf (arg D) (.pair D e) (enumerate (nth g J)) [eq (arg e) U]),.len
kk c,upTo t kk,grade n 2 kk,roll u (kk-n),set3 E (u+n-1) u (nth c u) E (nth c E),pair a u J,pair b E J,set m (link a
b),pick T K,both T (.set [a,b]) m]]),
("4093f84a",mirrored (big 7 [pull l L (rising 2 (h-2) 2),tint [U,b,t] 3 I,count g [l,L+1,1] [ink b (hbar g w)],keep,upTo
f w,alike n u 1 (w/2),sample s f n,sample d f u,.for a s [few k 1 (l-1) o (span 0 l),ink t (map [rbind (.fn .astuple)
a,o]),dye b (vseg (l-1) a (l-k))],.for c d [few k 1 (h-L-2) o (span (L+1) h),ink t (map [rbind (.fn .astuple) c,o]),dye
b (vseg (L+1) c (L+k))]])),
("41e4d17e",sans 6 6 [frames 16 4 [stamp f b,set c (center b),cup g (hray c) (vray c),cap k g (.dots O U),dye 6 k]]),
("4258a5f9",[spare c 1,sides 2,pick U c,hue f,sheet,set mp (cond (eq (h*w%2) 1) (h*w/2) (h*w/2-1)),rate o mp,spots
I,spray d o,ans 1 (near (.fset d)),dye f d,ink f d]),
("4290ef0e",[allCols,redo [grade d 2 7,pull h w (sq d),alike u F (4*d) 30,bg,inks d,bare q (d+1) (d+1),items i c Y [rand
l 2 (w-i+1),fill2 q c (vseg i i (i+l-1)) c (hseg i i (i+l-1))],bare O (d+1) (2*d+1),whole e q,move g (.whole (.vm q)) 0
d,put e,put g,vcat O O (drop (.hm O) 1),when coin [dye (.any (.diff K Y)) (.set [center (.plot O)])],calls X .partition
[O],only X X o (ne (color (arg o)) U),bare I u F,order X X (.fn .width),fullInds,tile,set f true,.for P X [normalize b
P,locs j b,set d (wd P),max a 0 (d/2-1),within Q fullinds (u-d) (F-d),cup Q (Q∪.move Q (un .neg a) 0∪.move Q 0 (un .neg
a)∪.move Q a 0) (.move Q 0 a),set3 maxtr 10 tr 0 succ false,need Q,during [lt tr maxtr,un .not succ] [tick,one Z Q,free
(.shift j Z∩fullinds) [set succ true,.break]],when (un .not succ) [set f false,.break],lay (.shift b Z),occupy (.shift j
Z)],skip (un .not f),.break]]),
("42a50994",[set d colors,sides 1,pick U d,strata 9 true,ans U r]),
("4347f46a",big 10 [bg,trials 9,boxed [both T bd (box P),taken (indss-bd)]]),
("444801d8",big 10 [gradeBy B 25,scheme m 2 9,budget (5*B),blanks,tile,trying B [tick,rand oh 4 6,set ow 5,set bx (box
(vecs 1 0 (oh-1) 4)-spot 1 2),hull f (vecs 0 0 (oh-1) 4),set Q (.hull bx-bx),one a Q,samples [d,b] Y 2,cup N (.hued b
bx) (.hued d {a}),cup o (.hued b bx) (.hued d (f-bx)),when coin [move N (.hm N) m1 0,hm o o],seekBox,lodge u o,locs t
u,free t [inc succ,lodge i N,set S (S-t-rim i),lay i,put u]]]),
("445eab21",big 10 [bg,sheet,rate num 9,plot indss I,set3 maxtrials (4*num) succ 0 tr 0,pull b a base,seeking num
[needBoth,sizes 3 7,skip (eq (oh*ow) a),tryBox,hue T,whenClear [strike K T,ink T (box bd),taken (indss-bd),when (gt
(oh*ow) a) [pull b a (vec T (oh*ow))]],tick],canvas O b 2 2]),
("447fd412",big 12 [trio i m,alike oh ow 1 4,when (lt (oh*ow) 3) [ite coin [grade oh 3 4] [grade ow 3 4]],field,grade N
3 (oh*ow),seed P,raise (N-1) V (near P),seq j P,.len kk P,rand d 1 (cond (eq (kk%2) 1) (kk/2) (kk/2-1)),setOf n (.sample
j d),set a (P-n),cup P (.hued i n) (.hued m a),corner oh ow,blanks,move L P li W,lay L,put L,set S (seen U-near (.locs
L)),fullInds,rise s 1 (h*w/(4*len L)),set3 tr 0 maxtr (5*s) succ 0,trying s [tick,rand f 1 (.min 5 (.min h w/.max oh
ow-1)),upscale u P f,only B u cij (eq (part cij 0) i),dims c e u,seek Q S Z h c w e,lodge b B,lodge o u,only o o cij
(mem (part cij 1) fullinds),locs t o,free t [placed (S-t-near (.locs b)),lay b,put o]]]),
("44d8ac46",sans 2 10 [bg,trials 10,seeking num [tick,needBoth,sizes 5 7,openings oh ow,want subs,split li W subs,frozen
P [here,vec (li+oh-1) (W+ow-1)],hull bd P,hue T,whenClear [set e coin,ite e [rands d 1 (.min oh ow-2) l (oh-d-1),rand o
1 (ow-d-1),hull i (vecs (li+l) (W+o) (li+l+d-1) (W+o+d-1))] [hull c (inbox bd),one ch c,set i {ch},rate kk (len c),again
kk [extend i c]],fset i i,dims a b i,ite (.and [eq a b,eq (len i) (a*b)]) [set n 2] [set n U],stamp T bd,ink U i,dye n
i,taken (indss-bd-rim bd)]]]),
("44f52bb0",turned (big 3 [scheme c 2 9,sheet,rate u (h*w-1),tile,.while (eq I (.hm I)) [draw cells S u,sheet,.for ij
cells [pull a b ij,tone,ink T {ij},dot I T a (w-1-b)]],set i coin,ite (un .not i) [rate n (h*(w/2)),area Q h (w/2),draw
l Q n,forPair a b l [set T (cell I a b),one e (.remove T (.insert U (uniq Y))),dot I e a b],canvas O 7 1 1] [canvas O 1
1 1]])),
("4522001f",spun (sized 3 10 3 10 [tint [U,C,d] 3 I,bare O (3*h) (3*w),cup q (spot d unit) (.hued C (.set
[base,right,south])),rect s 0 0 3 3,update s .union (.move s 4 4),aim 0 (.min (h-2) (3*h-8)) (.min (w-2)
(3*w-8)),locate,lodge c q,lodge p s,lay c,dye C p,tries o 0 (h*w/9) 10,set i (seen U-beside (.locs c)),retry o
[tick,within Q i (h-2) (w-2),need Q,land Q c q,lodge p s,locs l c,when (sub l i) [inc succ,set i (i-l-beside l),lay
c,dye C p]]])),
("4612dd53",sans 2 8 [grades H 5 (h-1) g (w-1),duo T,corner H g,frame bx li W (li+H-1) (W+g-1),ite coin [rand l (li+2)
(li+H-3),line b l (W+1) l (W+g-2)] [rand l (W+2) (W+g-3),line b (li+1) l (li+H-2) l],blank c,draw s (corners bx) 3,seq f
s,diff r bx s,draw n b 2,diff e b n,grades x 0 (len r) d (len e),draw o r x,draw a e d,fill2 c T bx T b,fresh U o,ink U
a,dyed O c 2 o,dye 2 a,when coin [stamp U b]]),
("46442a0e",pinwheel),
("469497ad",spun (without 2 3 6 3 6 [tint2 C I,rands s 1 (h-2) q (w-2),rands o 0 (h-s-2) j (w-q-2),rect g o j (o+s-1)
(j+q-1),ink C g,min u (.min (.min h w+1) (30/.max h w)) 7,grade numc 2 u,set n (numc-1),remove K U (.remove C R),inks
n,set I (rot180 I),sample L (span 1 (.min h w)) (n-1),set L (list [0]+sorted L),forZip c l Y L [fill2 I c (.shoot (vec 0
l) right) c (.shoot (vec l 0) south)],set I (rot180 I),upscale O I numc,dots r O C,shoot a (lr r) unit,shoot b (ul r)
(sq m1),shoot d (ur r) (vec m1 1),shoot e (ll r) (vec 1 m1),cup f (.cup a b∪d) e,dye 2 (f∩.dots O U)])),
("46f33fce",sized 2 7 2 7 [grade nc 0 (h*w/2-1),bg,blank O,bare I (h*2) (w*2),spots O,spray l nc,fset o (motley K l),set
f (lam [cij] (vec (part cij 0) (call .double [part cij 1]))),move b (map [f,o]) 1 1,lay b,put o,upscale O O 4]),
("47c1f68c",[nonzero,alike h w 2 14,duo l,leave (vec U l),hue o,blank canv,rate nc (h*w-1),plot bx canv,these P [.one
bx],times kk (nc-1) [.near dns P,one ch (.cap bx dns),add P ch,set bx (bx- .set [ch])],hued P o P,laid I canv P,hcat g
(.hcat I (.canvas l (vec h 1))) canv,hcat i (.hcat canv (.canvas l (vec h 1))) canv,vcat I (.vcat g (.canvas l (vec 1
(2*w+1)))) i,laid O canv P,hcat O O (.vm O),vcat O O (.hm O),replace O O o l,any s (tup [idf,.fn .hmirror,.fn
.vmirror,compose (.fn .hmirror) (.fn .vmirror)]),apply I s,apply O s]),
("484b58aa",spun (big 10 [grades p 2 (h/2-1) c (w/2-1),area i p c,pick s R,hues numc 2 9 Y,fset o (motley Y i),flat O
m1,empty L,rand F 1 (p-1),times a (2*(h/p+1)) [times b (w/c+1) [set li (p*a-F*b),set W (c*b),add L here,put (.move o li
W)]],wornTiles])),
("48d8fb45",markedShape [hued o (.any (.remove c K)) (.remove D P),cup P B o,laid O (.canvas U (shape o)) (.norm o)]),
("4938f0c2",spun (sized 10 31 10 31 (quartered 4 2)) ++ [pull c p (center (seen C)),set I (take I c+drop I (c+1)),tuples
I (take (arg r) p+drop (arg r) (p+1)) r I,set O (take O c+drop O (c+1)),tuples O (take (arg r) p+drop (arg r) (p+1)) r
O]),
("496994bd",[nonzero,grades h 3 30 w 14,bg,hues u 1 8 K,blank canv,grade nc 2 (h*w-1),plot bx canv,these P [vec anyHue
(.one (those bx [ij] (lt row (h/2)))),vec anyHue (.one (those bx [ij] (gt row (h/2))))],times kk (nc-2) [attach],laid g
canv P,set g (map [rbind (.fn .order) (matcher idf U),g]),set f coin,hcat I g (cond f canv (.hcat (slab h 1) canv)),hcat
O g (cond f (.vm g) (.hcat (slab h 1) (.vm g))),when coin [vm I I,vm O O],when coin [hm I I,hm O O]]),
("49d1d64f",sized 2 28 2 28 [few c 1 10 Y R,flat I m1,mottle P (.plot I),lay P,canvas O 0 (h+2) (w+2),put (.move (.whole
I) 1 1),only t P cij (eq (nth (part cij 1) 0) 0),only b P cij (eq (nth (part cij 1) 0) (h-1)),only l P cij (eq (nth
(part cij 1) 1) 0),only r P cij (eq (nth (part cij 1) 1) (w-1)),move t t 1 1,move b b 1 1,move l l 1 1,move r r 1 1,put
(.move t m1 0),put (.move b 1 0),put (.move l 0 m1),put (.move r 0 1)]),
("4be741c5",mirrored (sized 4 30 6 30 [few n 2 (w/3) Y R,set O (tup [.tupleOf Y]),merge I (.tuples (copies (copies (arg
c) h) 3) [.mk c Y []]),.while (lt (len I) w) [roll D (len I-1),set I (take I D+mid I D (D+1)+drop I D)],dm I I,grade d 0
(3*h*n),loop d [clear o,times a h [times b (w-3) [given [eq (cell I a b) (cell I a (b+1)),eq (cell I a (b+2)) (cell I a
(b+3))] [push o (tup [a,b,cell I a b,cell I a (b+2)])]]],need o,parts [a,b,C,e] (.any o),ite coin [dot I e a (b+1)] [dot
I C a (b+2)]]])),
("4c4377d9",sized 1 15 1 30 (speckled R [vcat O (.hm I) I])),
("4c5c2cf0",spun (big 10 (quartered 5 3)))]

def id5 : Recipes := [
("50846271",[spare R 8,set3 f (lam [d] (vecs (arg d/2) 0 (arg d/2) (arg d-1)∪uniq (.draw (hbar (arg d/2) (arg d)) (.rand
1 (arg d))))) a (lam [d] (vecs 0 (arg d/2) (arg d-1) (arg d/2)∪uniq (.draw (vbar (arg d/2) (arg d)) (.rand 1 (arg d)))))
k (lam [d] (uniq (.draw (.remove (sq (arg d/2)) (hbar (arg d/2) (arg d))) (.rand 1 (arg d-1)))∪uniq (.draw (.remove (sq
(arg d/2)) (vbar (arg d/2) (arg d))) (.rand 1 (arg d-1))))),set l (lam [d] (.apply (.any (tup [f,a,k])) [arg d])),sides
10,rate i 3,set i (2*i+1),cup c (hbar (i/2) i) (vbar (i/2) i),tint [U,r,N] 3 I,grade A (trunc (.dec 35 2*h*w)) (trunc
(.dec 65 2*h*w)),tile,draw E S A,ink N E,set n (.apply (.any (vec f a)) [i]),corner i i,move e (c-n) li W,fill2 I r
(.move n li W) N e,ans 8 e,move L c li W,hull bd L,.near b L,set S (S-L-b),.near s b,occupy s,occupy (near s),tries C 1
(div (h*w) (10*i)) 5,trying C [tick,within Q S (h-i) (w-i),need Q,land Q m (.apply l [i]),lodge p c,set u (p-m),cup B
(.hued N u) (.hued r m),cup t (.hued 8 u) (.hued r m),locs o t,free o [.near g o,.near j g,set S (S-o-(.cup g j∪near
j)),inc succ,lay B,put t]]]),
("508bd3b6",turned [spare R 3,dim h 5,dim w h,rate a (h/2),grade b 2 (h-a),picks r,hue c,sheet,count j [b,b+a] [ink r
(hbar j w)],grade d 0 (b-1),min t (.max 0 (b-2-d)) (b-1),shoot L (vec t 0) unit,dots o I U,only L (.cap L o) ij (lt row
b),order L L (.fn .first),shoot N (nth L m1) (vec m1 1),only N (.cap N o) ij (lt row b),.drop N (.order N (.fn .last))
1,set f (L+N),.len k L,grade i 0 (k-2),set l (k-i),set g (take f l),.drop e f l,ink c g,ans 3 e]),
("50cb2852",sans 8 10 [bg,trials 8,boxed [ink T bd,fill2 O 8 bd T (box P),taken (indss-bd)]]),
("5117e062",markedShape [other o c K,hued b o (.remove D P),cup P B b,dyed O (.canvas U (shape P)) o (.norm P)]),
("5168d44c",big 7 [grades d 1 (h/3) o (w/3),grades b 1 (h/4) r (w/4),any D (tup [south,right,unit]),rands t 0 (cond (eq
D right) (h-d-1) (h-d-b-1)) l (cond (eq D south) (w-o-1) (w-o-r-1)),pair c t l,picks a,hue x,sheet,pair s d o,hull e
(.frozen [c,.plus c (decrement s)]),pair p b r,plus f (mult D s) (mult D p),interval i (int (-15)) 16 1,set i (map
[lbind (.fn .multiply) f,i]),mapply m (shifter e) i,ink a m,rect g (t-b) (l-r) (t+d+b-1) (l+o+r-1),set bx (g-e),shift j
bx f,ans x j,ink x bx]),
("539a4f51",spun [nonzero,grade d 2 15,pull h w (sq d),flat I 0,few numc 2 9 Y R,rate n d,set a (anyOf Y k n),.while (eq
(len (uniq a)) 1) [set a (anyOf Y k d)],items j T a [ink T (hseg j 0 j∪vseg 0 j j)],canvas O 0 (2*d) (2*d),times j (2*d)
[set T (nth a (j%len a)),dye T (hseg j 0 j∪vseg 0 j j)]]),
("53b68214",[allCols,redo [grade h 2 6,dim w 8,scheme N 1 9,grades oh 1 (h/2) ow (w/2-1),field,fewOf c 1 (oh*ow) P
V,mottle P P,norm P,extents,roll W (w/2),move l P 0 W,bare O 10 w,roll o (ow/2+1),loop (10/oh+1) [put (.move l (k*oh)
(k*o))],quit (gt (len (pal (drop O h))) 1)],set I (take O h),when coin [vm I I,vm O O]]),
("543a7ed5",[except (vec 3 4) 10 30,scheme numc 1 7,trials (h*w/25),seeking num [need indss,sizes 4
8,tryBox,tone,whenClear [rect b (li+1) (W+1) (li+oh-2) (W+ow-2),fill2 O T b 3 (box bd),ink T b,given [gt oh 5,gt ow 5,ne
(.rand 1 10) 1] [pull u c (ul b),pull l r (lr b),rands a (u+1) (l-1) a a,rands B (c+1) (r-1) B B,rand C a (l-1),rand d B
(r-1),rand C C (l-1),rand d d (r-1),hull i (vecs a B C d),dye 4 i,ink U i],taken (indss-bd)],tick]]),
("54d82841",spun (sans 4 5 [bg,rate n (w/3),blanks,interval l 1 (w-1) 1,loop n [needOne l Z,strikes l Z (Z+1),strikes l
(Z-1) (Z+2),strike l (Z-2),rand li 1 (h-1),hue T,pair ij li Z,set M (nbrs ij-hseg (li+1) (Z-1) (Z+1)),stamp T M,dot O 4
(h-1) Z]])),
("54d9e175",[pair R 0 5,alike h w 2 5,rate N (31/(h+1)),grade e (cond (gt N 1) 1 2) (31/(w+1)),set f ((h+1)*N-1),set u
((w+1)*e-1),samples [c,U] R 2,canvas I c f u,canvas O c f u,plot P (slab h w),times a N [times b e [move l P (a*(h+1))
(b*(w+1)),rand i 1 4,set o (i+5),ink U l,dye o l,one d l,ink i {d}]]]),
("5521c0d9",spun (sized 4 30 6 30 [upTo S w,rate o (w/3),spray s (o*2),.while (.or [mem 0 s,mem (w-1) s]) [rate o
(w/3),spray s (o*2)],set3 s (sorted s) t (slice s none none (some 2)) n (slice s (some 1) none (some 2)),scheme N 2
9,set f m1,blanks,set f m1,forZip g E t n [other T f Y,set f T,share d h e,pair u (h-e) g,pair l (h-1) E,hull P (.frozen
[u,l]),both T P (.move P (un .neg e) 0)]])),
("5582e5ca",[set C colors,sides 2,few numc 2 (.min 10 (h*w-1)) Y C,set o (nth Y 0),.drop K Y 1,set l (h*w/numc+1),set m
(h*w-numc+1),grade u 0 (m-l),min n (.max l (m-u)) m,.len kk K,set e (h*w-n-kk),set r (each 1 k (range kk)),times j e
[set Q (eachIf (arg i) (.pair i c) (enumerate r) [lt (arg c) (n-1)]),needOne Q i,bump r i],set n (h*w- .sum r),flat I
m1,tile,draw s S n,ink o s,flat O o,occupy (uniq s),forZip T t K r [draw L S t,occupy (uniq L),ink T L]]),
("5614dbcf",[pair D 2 10,pair c 1 8,pair i 0 8,remove t 5 (span 1 10),.cells n (.canvas 0 (sq 3)),gradeIn d D,pair e 1
(d*d),canvas O 0 d d,spots O,gradeIn u e,gradeIn m c,spray s u,sample l t m,upscale I O 3,.for o S [set f (mult 3
o),gradeIn a i,sample N n a,when (mem o s) [any T l,dye T (call .initset [o]),ink T (.shift n f)],ink 5 (.shift N f)]]),
("56dc2b01",turned [avoid (vec 2 8),dim h 4,dim w 6,grades oh 1 h ow ((w-1)/2-1),blob,rate W (w-ow),tint2 o I,grade a 0
W,set b (W-a),min b (.max 0 b) (W-1),ink 2 (vbar b h),ans o (.move P li (b+1)),dye 8 (vbar (b+ow+1) h),ink o (.move P li
W)]),
("56ff96f3",big 10 [bg,trials 9,boxes (sizes 2 7) (whenClear [strike K T,ite coin [pair c here (vec (li+oh-1) (W+ow-1))]
[pair c (vec (li+oh-1) W) (vec li (W+ow-1))],both T c bd,taken (indss-bd)])]),
("57aa92db",big 10 [sizes 2 5,field,seed P,portion C 0 (oh*ow/2) N (oh*ow) 3 (oh*ow),raise (N-1) V (near P),one x P,trio
i m,leave (tup [U,i,m]),sheet,cup P (spot i x) (.hued m (.remove x P)),corner oh ow,move L P li W,lay L,keep,set S (seen
U-near (.locs L)),gradeBy n (4*len P),set3 tr 0 succ 0 maxtr (5*n),trying n [tick,rand a 1 4,upscale b P a,dims d g
b,seek Q S Z h d w g,lodge o b,locs j o,free j [inc succ,hue c,only f o cij (eq (part cij 0) i),occupy (near j),lay
f,put f,locs r (o-f),rise l 0 (len r-1),set p (len r-l),these t [.one (r∩rim f)],locs q f,again p [cap u r (near (.cup t
q)),set s (u-t),add t (.one s)],both c t r]]]),
("5ad4f10b",[set3 R colors n (.set [base,south,right,unit]) b (map [shifter n,.set [base,vec m1 0,vec 0 m1,sq
m1]]),alike oh ow 2 6,field,portion l 1 (oh*ow/2) e (oh*ow) 1 (oh*ow-1),setOf P (.draw V e),.while (isEmpty (those P
[ij] (gt (.sum (each (lt (len (P∩.shift (arg n) (arg ij))) 4) n b)) 0))) [portion l 1 (oh*ow/2) e (oh*ow) 1
(oh*ow),setOf P (.draw V e)],norm P,extents,trio o j,bare O oh ow,dye o P,grade f 2 (.min (28/oh) (28/ow)),whole g
(.upscale (.replace O o j) f),dims oh ow g,dim h (oh+2),dim w (ow+2),aimIn oh ow,sheet,lay (.move g li W),dots Q I
U,fewOf t 2 (.max 1 (len Q/4)) i Q,ink o i]),
("5bd6f4ac",big 4 (speckled K [rot90 O (crop (rot270 I) base (sq 3))])),
("5c0a986e",[except (vec 1 2) 5 30,paper,grade o 2 (h*w/10),blanks,set3 tr 0 maxtr (5*o) succ 0,tile,fullInds,trying o
[tick,among Q (.and [cmp 0 [(.lt,part ij 0),(.le,h-3)],cmp 0 [(.lt,part ij 1),(.le,w-3)]]),find Q,either T 1 2,these s
[Z,.plus Z right,.plus Z south,.plus Z unit],ite (eq T 1) [cup P s (.shoot Z (sq m1)∩fullinds)] [cup P s (.shoot Z
unit∩fullinds)],free P [placed (S-P-beside s),both T s P]]]),
("5c2c9af4",mirrored (big 5 [grades x 0 (h/2) d (w/2),either b x (h-x),either o d (w-d),when (eq (b%2) 0) [either b
(b-1) (b+1)],when (eq (o%2) 0) [either o (o-1) (o+1)],min b (.max 1 b) (cond (eq (h%2) 1) h (h-1)),min o (.max 1 o)
(cond (eq (w%2) 1) w (w-1)),pair s b o,corner b o,locate,bg,hue F,blank c,set p (li+b/2),set j (W+o/2),pair C p j,pair A
li W,pair B (li+b-1) (W+o-1),fresh F (.set [A,B,C]),dyed O c F (.set [A,B,C]),set n true,these a [A,B,C],given [call
.hline [a],eq (len a) 3] [dye F (hray C),set n false],given [call .vline [a],eq (len a) 3] [dye F (vray C),set n
false],set k 1,.while n [set3 f (k*(b/2)) e (k*(o/2)) u (p-f),set3 l (j-e) r (p+f) g (j+e),pair L u l,pair i r g,set bx
(box (.frozen [L,i])),dyed G O F bx,set n (ne O G),set O G,inc k]])),
("5daaa586",spun (big 7 [rands l 1 (h-4) o (w-4),grades c 0 (l-1) j (o-1),update l .sub c,update o .sub j,grade L (l+2)
(h-2),grade C (o+2) (w-2),bg,samples [g,m,q,t] K 4,hued a g (hray (toivec l)),hued b m (hray (toivec L)),hued d q (vray
(tojvec o)),hued e t (vray (tojvec C)),sheet,set f (list [a,b,d,e]),shuffle f,.for r f [lay r],seq Q (seen U),.len n
Q,few N 1 (.max 1 (n/3)) i Q,ink g i,.while (gt (len (call .frontiers [I])) 4) [ink U i,few N 1 (.max 1 (n/3)) i Q,quit
(ge (len (uniq i∩seen g)) (len (seen U))),ink g i],set O (crop I (vec l o) (vec (L-l+1) (C-o+1))),dots s O g,dye g
(.mapply (rays (vec m1 0)) s)]))]

def task62c24649 : Recipe :=
  sized 1 15 1 15 (speckled K [
   .vcat O (.hcat I (.vm I)) (.hcat (.hm I) (.hm (.vm I)))])

def task6d0aefbc : Recipe :=
  [.pair d 1 30, .set R .colors, .grade h 1 30, .grade w 1 15, .any U R,
   .canvas I U h w, .remove K U R, .grade numc 0 (.min 9 (h * w)),
   .sample colsch K numc, .cells S I,
   .for T colsch [.grade num 1 (.max 1 (.len S / numc)), .sample chos S num,
    .fill I T chos, .diff S S chos], .hcat O I (.vm I)]

def id6 : Recipes := [
("60b61512",sans 7 10 [scheme u 1 8,trials (h*w/20),seeking num [need indss,sizes 2 7,openings oh ow,when (isEmpty subs)
[tick,.continue],split li W subs,area i oh ow,one c i,set P {c},strike i c,portion n 0 (oh*ow/2) numc (oh*ow) 2
(oh*ow-1),loop numc [add P (.one (i∩near P)),set i (i-P)],extents,move P P li W,hull bd P,tone,whenClear [ink T P,fill2
O 7 bd T P,taken (indss-bd-rim bd)],tick]]),
("6150a2bd",big 1 (speckled K [set O (rot180 I)])),
("623ea044",[pair d 3 30,set o colors,gradesIn d,any U o,blank g,plot fullinds g,spots g,pair c 0 (.max (trunc (h*w*.dec
1 1)) 1),gradeIn n c,spray t n,sheet,other f U o,ink f t,ans f (.mapply (rays (vec m1 1)) t),fill2 O f (.mapply (rays
(vec 1 m1)) t) f (.mapply (rays unit) t),dye f (.mapply (rays (sq m1)) t)]),
("62c24649",task62c24649),
("63613498",spun (big 10 [pickTwo U s,tones C 8,grades o 1 (h/3) j (w/3),area V o j,one d V,set P {d},rate c (o*j),again
c [extend P V],sheet,any B Y,ink B P,cup p (hseg (o+1) 0 (j+1)) (vseg 0 (j+1) (o+1)),ink s p,tile,update S .sub (.hull
p),tries N 1 (h*w/20) 5,normalize b P,norm P,keep,.while (.or [.and [lt succ N,lt tr maxtr],eq succ 0])
[tick,extents,room,need Q,land Q l P,free l [tone,ink T l,dye (cond (eq succ 0) s T) l,settle l],rand o 1 (h/3),rand j
(cond (eq o 1) 2 1) (w/3),maySwap o j,area V o j,one d V,set P {d},rate c (o*j),again c [extend P V],norm P,setOf P
P,when (eq P b) [ite (lt (len P) (o*j)) [extend P V] [strike P (.one (corners P))]],norm P]])),
("6430c8c4",barred (set e (uniq S-uniq a-uniq b))),
("6455b5f5",[avoid (vec 1 8),redo [sides 6,paper,other f U R,sheet,calls u .int [pow (h*w) (.dec 5 1)*.dec 15 1],rate
num u,loop num [colorfilter X (.objects I true true false) U,only e X o (.or [gt (ht (arg o)) 2,gt (wd (arg o)) 2]),need
e,ite coin [set r (argmax e (.fn .size))] [one r e],ite coin [set v (lt (ht r) (wd r))] [set v coin],given [v,lt (wd r)
3] [set v false],given [un .not v,lt (ht r) 3] [set v true],ite v [rand j (west r+1) (east r-1),line L (top r) j (low r)
j] [rand j (top r+1) (low r-1),line L j (west r) j (east r)],ink f L],colorfilter X (.objects I true true false) U,quit
(ne (valmin X (.fn .size)) (valmax X (.fn .size)))],set l (mfilter X (matcher (.fn .size) (valmin X (.fn .size)))),set d
(mfilter X (matcher (.fn .size) (valmax X (.fn .size)))),ans 8 l,dye 1 d]),
("662c240a",[allCols,grades d 2 7 a (30/d),grade nc 2 (.min 9 (pow d 2)),canvas c m1 d d,spots c,symmetric,grade i 0
(d*(d-1)/2-1),set s (d*(d-1)/2-i),sample b (.diff S (those S [ij] (eq row column))) s,.for ij b [ite (eq (cell g (nth ij
0) (nth ij 1)) (cell g (nth ij 1) (nth ij 0))) [fill g (.any (.remove (cell g (nth ij 0) (nth ij 1)) o)) {ij}] [fill g
(cell g (nth ij 1) (nth ij 0)) {ij}]],set I g,copy O g,either n (.fn .hconcat) (.fn .vconcat),again a [symmetric,ite
coin [set I (.apply n [I,g])] [set I (.apply n [g,I])]]]),
("67385a82",[remove R 0 (.remove 8 colors),sides 3,any T R,flat I 0,spots I,share n (len S) nc,spray l nc,ink T
l,objects X I true false false,locs r (.merge (call .sizefilter [.colorfilter X T,1])),diff b (seen T) r,ans 8 b]),
("673ef223",turned (sans 4 5 [grade b 2 ((h-1)/2),rate N b,trio a d,bare c b w,dyed t c a (vbar 0 b),vm s t,copy p
t,copy g s,upTo i b,sample l i N,.for k l [rand j 2 (w-2),dot t d k j,dot p 4 k j,fill p d (hseg k 1 (j-1)),fill g d
(hseg k 0 (w-2))],pair o t s,pair u p g,bare r 1 w,.while (lt (len (.merge o)) h) [roll D (len o-1),set o (take o D+tup
[r]+drop o D),set u (take u D+tup [r]+drop u D)],merge I o,merge O u])),
("6773b310",without 1 2 5 2 5 [alike N q 2 5,trio L G,set f (h*N+(N-1)),set F (w*q+(q-1)),canvas c L f F,blank s,nodes f
F,share d (N*q) n,sample o l n,diff g l o,spots s,copy I c,bare O N q,.for ij o [whole u (.fill s G (.sample S 2)),lay
(.shift u ij),pull a b ij,set li (a/(h+1)),set W (b/(w+1)),dot O 1 li W],.for ij g [whole u (.fill s G (.sample S
1)),lay (.shift u ij)]]),
("67a3c6ac",big 1 (speckled K [vm O I])),
("67a423a3",mirrored (sans 4 3 [bg,sheet,rate l (h/3),rate m (w/3),aimIn l m,hue n,other e n K,times a l [ink n (hbar
(li+a) w)],times b m [ink e (vbar (W+b) h)],set bx (rim (.frozen [here,vec (li+l-1) (W+m-1)])),ans 4 bx])),
("67e8384a",sized 1 14 1 14 [bg,hues u 1 9 K,blank canv,rate nc (h*w),plot bx canv,sprawl,laid I canv P,laid O canv
P,hcat O O (.vm O),vcat O O (.hm O)]),
("681b3aeb",[allCols,set f false,.while (un .not f) [alike i u 2 8,dim h (3*i),dim w (3*u),canvas c m1 i i,tint [U,a,b]
3 I,pull o n (sq true),during [o,n] [spots c,any p S,remove E p S,any d E,strike E d,set A {p},set B {d},loop (len E)
[cap s (uniq E) (beside A),cap e (uniq E) (beside B),clear D,whenAny s [push D 0],whenAny e [push D 1],any F D,ite (eq F
0) [one Z s,add A Z] [one Z e,add B Z],strike E Z],set o (eq (len A) (ht A*wd A)),set n (eq (len B) (ht B*wd B))],dyed O
c a A,dye b B,.cells v I,norm A,norm B,dims g j A,dims x y B,set m false,when (un .not (.or [gt g h,gt j w])) [times z
10 [rands C 0 (h-g) l (w-j),move q A l l,diff "M" v q,within r "M" (h-x) (w-y),want r,any ch r,shift t B ch,when (sub
(uniq t) (uniq r)) [set m true,.break]]],when m [set f true]],fill2 I a q b t]),
("6855a6e4",plates []),
("68b16354",big 1 (speckled K [hm O I])),
("694f12f3",spun [except (vec 1 2) 9 30,rand s 4 (h-5),grade e 4 s,grade f 3 (w-1),roll i (s-e),roll j (w-f),set k
(h-s-1),set l (w-1),clear Q,set m (e*f),count a [3,k+1] [count b [3,l+1] [when (lt (a*b) m) [push Q (vec a b)]]],calls Q
.sortedBy [Q,lam [ij] (row*column)],.len num Q,grade d 0 (num-1),pull n o (nth Q d),rand r (s+1) (h-n),roll t (w-o),duo
q,sheet,rect u i j (i+e-1) (j+f-1),rect v r t (r+n-1) (t+o-1),ink q (.cup u v),ans 2 (.hull (inbox u)),dye 1 (.hull
(inbox v))]),
("6a1e5592",spun (without 1 9 30 5 30 [rand b 3 (h/3),set x (h-b-1),rate N (w/3),samples [a,U,B] R 3,canvas v a b w,bare
A (h-b) w,vcat I v A,keep,set3 tr 0 succ 0 maxtr (10*N),interval p 1 (w-1) 1,dots i I U,plot n O,dots g I a,empty
f,retry N [tick,rands oh 1 x ow (.min 4 (w/2)),field,rand C 1 (oh*ow),one D (hbar 0 ow),set P {D},raise (C-1) V (beside
P),rand m 1 (.min oh (b-1)),only t P ij (lt row m),normalize r t,set s false,count k [1,m+1] [when (mem (.norm (those r
[ij] (lt row k))) f) [set s true]],skip s,count k [1,m+1] [add f (.norm (those r [ij] (lt row k)))],only c p J (sub
(uniq (span (arg J) (arg J+ow+1))) (uniq p)),want c,any q c,set u (b-m),move o P u q,when (sub o n) [seek d i Z h oh w
ow,lodge l P,when (sub l i) [inc succ,shun i l,set n (n-o),fill2 I B l U (.cap o g),dye 1 o,set j (map [.fn .last,.dots
O 1]),set p (sorted (.diff p (j∪map [.fn .decrement,j]∪map [.fn .increment,j])))]],need p]])),
("6aa20dc0",big 10 [grade o 2 4,rand l 1 (.max 1 ((pow o 2-2)/2)),area s o o,setOf x (.draw (s-vecs 0 0 (o-1) (o-1))
l),add x (.one (dnbrs base∩s)),add x (.one (dnbrs (sq (o-1))∩s)),fset x x,samples [U,F,q,t] R 4,cup P (.frozen [vec q
base,vec t (sq (o-1))]) (.hued F x),cup P P (.dm P),when coin [hm P P],sheet,corner o o,move L P li W,lay
L,keep,tile,occupy (.hull (rim L)),tries n 1 (.max 1 (h*w/(pow o 2*2))) 4,trying n [tick,rand f 1 4,any m flips,any a
flips,set "M" (compose a m),normalize b (.upscale (.apply "M" [P]) f),dims d g b,seek Q S C h d w g,shift c b C,only i c
cij (ne (part cij 0) F),locs j c,free j [placed (S- .hull (rim j)),lay i,put c]]]),
("6b9890af",spun [allCols,alike oh ow 2 5,dim h (2*oh+2),dim w (2*ow+2),field,seed P,.while (ne (shape P) (vec oh ow))
[swell P V],set m 1,during [le (oh*m+2) (h-oh),le (ow*m+2) (w-ow)] [inc m],update m .sub 1,rate f m,pickTwo U s,tones
numc 8,mottle P P,sheet,frame q 0 0 (oh*f+1) (ow*f+1),aim 0 (h-(oh*f+2)-oh) (w-(ow*f+2)),ink s (.move q li W),rand li
(li+oh*f+2) (h-oh),roll W (w-ow),move o P li W,lay o,bare O (oh*f+2) (ow*f+2),dye s q,laid g (slab oh ow) P,whole u
(.upscale g f),put (.move u 1 1)]),
("6c434453",sans 2 10 [scheme C 1 8,tries N 2 (h*w/16) 5,blanks,tile,trying N [tick,ite coin [either oh 3 5,either ow 3
5,frame o 0 0 (oh-1) (ow-1)] [sizes 1 5,field,rand e 1 (oh*ow),seed o,again e [extend o V],norm o],dims oh ow o,set f
(.and [eq o (box o),sub (uniq (shape o)) (.set [3,5])]),ite f [cup b (vbar (ow/2) oh) (hbar (oh/2) ow),hull t o] [set b
o,set t o],room,land Q l o,free l [lodge p b,inc succ,lodge c t,set S (S-c-beside c),tone,ink T l,dye (cond f 2 T)
p]]]),
("6cdd2623",big 8 [picks L,hues n 1 7 o,blank c,seq d (.move (.area (h-2) (w-1)) 1 1),sample f d n,set x (pairs (arg T)
(arg ij) (.pair T ij) (zip (listOf o) f)),blanks,lay x,fewOf N 1 ((h*w-n)/3) e (.plot c-uniq f),set e (motley K e),lay
e,interval i 1 (h-1) 1,interval j 1 (w-1) 1,samples [a,B] right 2,grade l a ((h-2)/2),grade s B ((w-2)/2),sample i i
l,sample j j s,.for g i [dot I L g 0,both L (spot g (w-1)) (hbar g w)],.for J j [dot I L 0 J,both L (spot (h-1) J) (vbar
J h)]]),
("6cf79266",[except right 6 30,few n 1 8 Y R,flat I m1,mottle f (.plot I),lay f,grade num (trunc (.dec 25 2*h*w)) (trunc
(.dec 6 1*h*w)),tile,draw l S num,ink 0 l,gradeBy N 16,area Q (h-2) (w-2),draw l Q N,area m 3 3,.for ij l [ink 0 (.shift
m ij)],hued t 0 m,set o (occ I t),keep,.for c o [dye 1 (.shift m c)]]),
("6d0160f0",[except (tup [4]) 2 5,pull H v (vec h w),duo L,meshed,rate N (h*w),area d h w,set s (pairs (arg a*(h+1))
(arg b*(w+1)) (.pair a b) d),draw C s N,any r C,remove m r C,rate n (h*w-1),one p d,few q 1 9 Y R,seq c (.remove p
d),sample t c n,mottle t t,cup g (spot 4 p) t,laid O I (.shift (those g [cij] (ne (part cij 0) L)) (mult p (increment
(vec h w)))),lay (.shift g r),set o Y,.for e m [one l Y,fewOf E 1 (h*w-1) S d,set P (motley (cond (gt (len Y) 1)
(.remove l Y) Y) S),strike o l,lay (.shift P e)]]),
("6d0aefbc",task6d0aefbc),
("6d58a25d",spun [allCols,normalize M (.frozen [base,south,unit,vec 1 m1,vec 2 m1,vec 2 (int (-2)),vec 2 1,sq 2,sq 3,vec
3 (int (-3))]),dim h 5,dim w 8,bg,blank c,spots c,hue C,other b C K,corner 4 7,move l M li W,diff r S l,few o 1 (.max 1
(len r/2-1)) n r,fresh b n,ink C l,set f (lam [ij] (has (call .intersection [.shoot (arg ij) (vec m1 0),l]))),sfilter t
n f,set g (lam [ij] (valmax (those l [k] (eq (part k 1) column)) (.fn .first)+1)),set kk (lam [ij] (vseg (.apply g [arg
ij]) column (h-1))),mapply u kk t,ans b u]),
("6d75e8bb",sans 2 2 [lone,dyed O c 2 (.hull l),dye f l]),
("6e02f1e3",[allCols,dim d 3,canvas c 0 d d,set S (listOf (.plot c)),shuffle S,set num (pow d 2),any u (tup
[1,2,3]),sample o R u,ite (eq (len o) 1) [canvas I (nth o 0) d d,canvas O 0 d d,dye 5 (hbar 0 d)] [ite (eq (len o) 2)
[pull C h o,set mp (pow d 2/2),rate n mp,set a (take S n),.drop b S n,fresh C a,ink h b,dyed O (.canvas 0 (sq d)) 5
(.line 0 0 (d-1) (d-1))] [when (eq (len o) 3) [parts [C,h,l] o,set3 kk (pow d 2) a (trunc (div 1 3*kk)) b (trunc (div 2
3*kk)),grades e 0 (a-1) v (kk-b-1),update a .sub e,update b .sub v,parts [x,f,g] (tup [take S a,mid S a b,drop S
b]),fresh C x,fill2 I h f l g,dyed O (.canvas 0 (sq d)) 5 (.line (d-1) 0 0 (d-1))]]]]),
("6e19193c",[set3 R colors i outward a (tup [base,south,right,unit]),set3 c (each (uniq a- .set [part d 0]) d i) n (each
(uniq a∪.shoot (part d 0) (part d 1)- .set [part d 0]) d i) Q (listOf (zip c n)),sides 4,gradeBy num
8,bg,blanks,fullInds,area S h w,pull kk tr base,set maxtrials (num*4),during [lt kk num,lt tr maxtrials] [find S,split b
o Q,lodge b b,lodge o o,cap o o fullinds,given [sub o S,sub b o] [hue T,both T b o,set S (S-o-beside b),inc kk],tick]]),
("6e82a1ae",[smallShapes,empty d,loop 100 [these M [base],times J 3 [add M (.one (beside M-M))],fset M (.norm M),add d
M],fset d d,parts [d,b,c] (tup [.seq d,.seq b,.seq c]),set p (list [vec b 3,vec c 2,vec d 1]),strewn 3 []]),
("6ecd11f4",sized 2 7 2 7 [duo G,rests,hues N 2 9 Y,plot S (slab h w),portion l 0 (h*w/2) n (h*w) 3 (h*w-1),one q
S,strike S q,set M {q},times j n [one ij ((S-M)∩near M),add M ij],norm M,dims h w M,blank canv,dyed a canv G M,set m
((2*h+h+1)/h),set x ((2*w+w+1)/w),grades s 2 m c x,whole P (hupscale (call .vupscale [a,s]) c),extents,plot S
canv,mottle o S,when (eq (len (pal o)) 1) [set b (.first o),set o (.insert (vec (.any (.remove (nth b 0) Y)) (nth b 1))
(.remove b o))],dim u (s*h+h+1),dim F (c*w+w+1),bare I u F,fullInds,redo [aim 0 (u-oh) (F-ow),locate,laid g I (.shift P
Z),dots f g G,set i (fullinds-f),set d (i-near f),seek e d L u oh F ow,shift t o L,when (sub (.locs t) d) [laid I g
t,.break]],laid O canv o,dye U (.dots a U)]),
("6f8cd79b",sans 8 3 [bg,sheet,tones o 8,grade c 0 (h*w),tile,draw cells S c,mottle P cells,lay P,set b (box S),ans 8
b]),
("6fa7a44f",sized 1 15 1 30 (speckled K [vcat O I (.hm I)]))]

def id7 : Recipes := [
("72322fa7",big 10 [bg,rate N 4,inks (2*N),set p (listOf (zip (take Y N) (drop Y N))),clear X,sheet,tile,forPair c b p
[rate oh 4,grade ow (cond (eq oh 1) 2 1) 4,maySwap oh ow,field,seed P,rand C 2 (oh*ow),again C [swell P V],normalize n
P,seq j n,sample a j (.rand 1 (len j-1)),diff r j a,cup P (.hued c (uniq a)) (.hued b (uniq r)),extents,among Q (fits n
S),want Q,land Q L P,lay L,locs d L,shun S d,push X P],set v (div (.sum (each (len (arg o)) o X)) (len X)),max u 1
(h*w/(v*2)),tries f 1 u 5,keep,retry f [tick,any P X,pull c b (listOf (pal P)),extents,seekBox,lodge L P,locs d L,free d
[placed (S-d-near d),put L,either T c b,lay (ofHue L T)]]]),
("72ca375d",big 10 [gradeBy B 25,grade r 2 8,rate c 4,area d r c,roll p (r-1),pair A p (c-1),set s {A},strike d A,grade
C 0 (r*c/2),either j C (r*c-C),rate m (r*c),set N ((j+m)/2),calls N .min [.max 1 N,r*c,h*w/2-1],again N [swell s d],norm
s,cup s s (.move (.vm s) 0 (wd s)),dims r o s,bg,hue t,bare O r o,dye t s,corner r o,pair L li W,sheet,shift f s L,ink t
f,plot indss I,set3 indss (indss-f-near f) maxtrials (4*B) tr 0,set succ 0,set q (.area 8 8-s),seeking B [need
indss,redo [set n (collect .set (arg e) e s),rate u 63,set v (64-u),times y v [set i coin,given [i,lt (len n) 64] [seq g
((q-n)∩near n),need g,add n (.any g)],given [un .not i,gt (len n) 2] [strike n (.one n)]],norm n,dims a b n,canvas D m1
(a+2) (b+2),calls x .compress [.fill D (int (-2)) (.move n 1 1)],locs n (argmax (.colorfilter (.objects x true true
false) (int (-2))) (.fn .size)),quit (ne n (.vm n))],hue T,only l indss ij (fits n indss),when (isEmpty l)
[tick,.continue],one L l,shift n n L,ink T n,taken (indss-n-near n)]]),
("73251a56",spun [allCols,redo [dim d 10,pull h w (sq d),pick N R,grade n 2 (.min 9 (h/2)),set s (list [0]+rising 1
(h-1) (n-1)),sample Y R n,flat I m1,tile,forZip T l Y s [set o (div l w),among L (le (o*part ij 1) row),ink T L],line j
0 0 (d-1) (d-1),ink (nth Y (int (-2))) j,whole P I,only P P cij (ge (nth (part cij 1) 1) (nth (part cij 1) 0)),lay (.dm
P),set c (lam [g] (mem (nth Y (int (-2))) (pal (toobject j (arg g))))),set f (lam [g] (isEmpty (.dots (arg g) N∩.fset
(collect .set (back (arg ij)) ij (.dots (arg g) N))-j))),gradeBy i 15,set3 tr 0 succ 0 maxtr (10*i),keep,retry i [tick,
sizes 1 5,aimIn oh ow,rectAt bd,dyed G I N bd,given [.apply c [G],.apply f [G]] [inc succ,set I G]],quit (ne I O)]]),
("7447852a",[spare R 4,grade w 2 8,dim h (w+1),pickTwo U l,blank c,pair s (h-1) 0,fresh l {s},set d 1,bounce I,rot90 I
I,objects X I true false false,dots S I U,tones u 7,fewOf N 0 (len S) o S,mottle P o,lay P,keep,order X (.colorfilter X
U) (.fn .leftmost),merge X (uniq (slice X (some 0) none (some 3))),dye 4 X]),
("7468f01a",big 3 [bg,samples [s,f] K 2,grades oh 2 (.max 2 (trunc (h*div 2 3))) ow (.max 2 (trunc (w*div 2
3))),sheet,canvas O s oh ow,plot V O,these M [base],grade nc 0 (.max 1 (oh*ow/2)),times j nc [extend M V],dye f M,whole
o (.vm O),corner oh ow,lay (.move o li W)]),
("746b3537",mirrored [set f colors,grade h 2 15,rate w 30,clear R,set l m1,loop h [other c l f,push R c,set l c],tuples
O (tup [arg c]) c R,tuples I (copies (arg c) w) c R,rate n (30-h),loop n [roll Z (len I-1),set I (take I (Z+1)+drop I
Z)]]),
("74dd1130",big 1 (speckled K [dm O I])),
("75b8110e",sized 2 15 2 15 [bg,samples [l,C,f,j] K 4,blank canv,.cells c canv,set mp (h*w/2),clear n,loop 4 [grade v 0
mp,ite coin [set num (h*w-v)] [set num v],min num (.max 0 num) (h*w-1),push n num],parts [d,s,a,b] (each (.sample c (arg
num)) num n),dyed g canv l d,dyed G canv C s,dyed i canv f a,dyed e canv j b,vcat I (.hcat g G) (.hcat i e),dyed O g j
b,fill2 O f a C s]),
("760b3cac",spun [allCols,frozen b [base,south,unit,vec 1 2,vec 2 1],vm j b,dim h 5,grade w 3 14,set w (2*w+1),trio C
i,grades J 1 (h-3) B (w/6),set B (2*B+1),canvas c m1 J B,sheet,ite coin [set P b,set s m1] [set P j,set s 1],ink i
(.move P (h-3) (w/2-1)),plot S c,one e S,set o {e},portion n 0 (J*B/2) numc (J*B) 1 (J*B),again numc [swell o S],.while
(ne (wd o) B) [swell o S],norm o,dims J B o,roll li (h-3-J),set W (w/2-B/2),locate,lodge l o,ink C l,vm x l,move p x 0
(B*s),ans C p]),
("776ffc46",big 10 [tint [U,t,i,u] 4 I,rands q 3 (h/3+1) s (w/3+1),aim 0 3 (w-s),frame bx li W (li+q-1) (W+s-1),area V
(q-2) (s-2),seed P,rand N 1 ((q-2)*(s-2)),raise (N-1) V (beside P),move j P (li+1+.rand 0 (q-oh-2)) (W+1+.rand 0
(s-ow-2)),fill2 I t bx i j,set S (seen U- .hull bx-near (.hull bx)),among Q (fits P S),land Q L P,ink u L,shun S L,tries
C 0 (h*w/20) 5,fullInds,retry C [tick,ite coin [rands q 3 (h/3+1) s (w/3+1),frame bx 0 0 (q-1) (s-1),area V (q-2)
(s-2),seed B,rand N 1 ((q-2)*(s-2)),again N [extend B V],when (eq (.norm B) P) [ite (lt (len B) ((q-2)*(s-2))) [extend B
V] [.continue]],norm B,dims a b B,line n m1 m1 m1 (w-s+1),line d (h-q+1) m1 (h-q+1) (w-s+1),line e m1 m1 (h-q+1) m1,line
f m1 (w-s+1) (h-q+1) (w-s+1),cup Q (.cup n d∪e) f,want Q,one Z Q,pull l c Z,lodge p bx,free (.hull p∩fullinds) [inc
succ,rand g (l+1) (l+1+.rand 0 (q-a-2)),rand m (c+1) (c+1+.rand 0 (s-b-2)),fill2 I t p i (.move B g m),occupy (.hull
(rim p))]] [rands a 1 (h/3-1) b (w/3-1),area V a b,seed B,rand N 1 (b*a),again N [extend B V],when (eq (.norm B) P) [ite
(lt (len B) (a*b)) [extend B V] [.continue]]],when (.any (tup [true,false,false])) [set B P],norm B,dims a b B,times kk
(.rand 1 3) [seek Q S Z h a w b,lodge L B,free L [placed (S-L-near L),ink u L]]],parted false X u,set X (mfilter X (lam
[o] (call .equality [.norm (.locs (arg o)),P]))),ans i X]),
("77fdfe62",sized 1 13 1 13 [tint [C,m,o,s,b,U,i] 7 q,spots q,set u (2*h+4),set l (2*w+4),alike n f 1 (h*w),alike g j 1
(h*w),spray a n,spray c f,spray d g,spray e j,bare I (2*h+4) (2*w+4),fill2 I b (hbar 1 l) b (hbar (u-2) l),fill2 I b
(vbar 1 u) b (vbar (l-2) u),dot I C 0 0,dot I m 0 (l-1),dot I o (u-1) 0,dot I s (u-1) (l-1),fill2 I i (.move a 2 2) i
(.move c 2 (2+w)),fill2 I i (.move d (2+h) 2) i (.move e (2+h) (2+w)),bare O (2*h) (2*w),fill2 O C (.move a 0 0) m
(.move c 0 w),fill2 O o (.move d h 0) s (.move e h w)]),
("780d0b14",[allCols,alike H N 2 6,scheme o 3 9,canvas O m1 H N,mottle P (.plot O),put P,.while (.or [lt (len (call
.dedupe [O])) H,lt (len (call .dedupe [.dm O])) N]) [mottle P (.plot O),put P],dim h (2*H+H-1),dim w (2*N+N-1),set d
(each 2 k (range H)),loop (h-2*H-H+1) [roll D (H-1),bump d D],set i (each 2 k (range N)),loop (w-2*N-N+1) [roll D
(N-1),bump i D],set I (take (.merge (.tuples (copies (arg r) (arg c)+tup [copies U N]) [.mk (.pair r c) (zip O d) []]))
m1),dm I (take (.merge (.tuples (copies (arg r) (arg c)+tup [copies U h]) [.mk (.pair r c) (zip (.dm I) i) []]))
m1),parted false b U,set X (X-b),.for P X [ink U (.draw (.locs P) (.grade 1 (len P/2)))]]),
("7837ac64",[allCols,alike oh ow 2 6,pickTwo U N,tones "M" 8,bare O oh ow,plot S O,plot fullinds O,rate n (oh*ow),loop n
[set m (tableOf h (those (S∪near (.dots O (arg h))) [ij] (sub (nbrs (arg ij)∩fullinds) (S∪.dots O (arg h)))) Y),set m
(eachIf (vec (arg kk) (arg v)) (.pair kk v) (ask .entries m []) [has (arg v)]),need m,split T C m,one Z C,dye T {Z},
strike S Z],set P (fullinds- .dots O U),set O (subgrid P O),dims oh ow O,grades s 2 ((30-oh-1)/oh) q ((30-ow-1)/ow),set
f (oh+1+oh*s),set w (ow+1+ow*q),canvas I N f w,rect t 0 0 (s-1) (q-1),whole P O,forPair T ij P [shift L t (.plus unit
(mult ij (vec (s+1) (q+1)))),ink U L,when (ne T U) [ink T (corners (rim L))]],dim i f,dim d w,aim 0 (i-f) (d-w),bare g i
d,move L (.whole I) li W,paint g L,pull u l (ul L),pull r j (lr L),count a [u,i+1,s+1] [fill g N (hray (vec a 0))],count
a [u,m1,un .neg s-1] [fill g N (hray (vec a 0))],count b [l,d+1,q+1] [fill g N (vray (vec 0 b))],count b [l,m1,un .neg
q-1] [fill g N (vray (vec 0 b))],laid I g L,set p (pal O),redo [calls G .identity [O],.for c (uniq Y∩p) [frozen o [vec c
base,vec U right,vec c (vec 0 2)],dm e o,fill G c (combine (.move (occ O o) 0 1) (.move (occ O e) 1 0))],quit (eq G O),
set O G]]),
("794b24be",[avoid (vec 1 2),set m (.table [(1,base),(2,right),(3,vec 0 2),(4,unit)]),sides 3,paper,rand n 1 4,bare O 3
3,loop n [dye 2 (.set [nth m (k+1)])],sheet,sample l (.cells I) n,ink 1 l,dots r I U,grade t 0 (len r/2-1),rests,tones
numc 7,draw o r t,mottle o o,lay o]),
("7b6016b9",[remove R 3 (.remove 2 colors),redo [sides 5,duo f,grade n 4 (.min h w),sheet,upTo c w,upTo d h,interval i 1
(h-1) 1,interval j 1 (w-1) 1,rand u (n/3) (n/3*2),set m (n-u),loop u [want i,any li i,strikes i li (li+1),strike i
(li-1),samples [a,b] c 2,roll a a,rand b b (w-1),ink f (hseg li a b)],loop m [want j,any W j,strikes j W (W+1),strike j
(W-1),samples [a,b] d 2,roll a a,rand b b (h-1),ink f (vseg a W b)],parted false g U,locs t (mfilter g inner),quit (has
t)],set o (near t-t),ink f o,ans 2 t,replace O O U 3]),
("7b7f7511",sized 2 30 2 15 [sprinkle O 1 (h*w-1),ite coin [dm O O,vcat I O O] [hcat I O O]]),
("7c008303",spun (sized 2 13 2 13 [set h (h*2),set w (w*2),picks l,pick F K,sample f K (.grade 1 4),set q (anyOf f j
4),blank c,spots c,portion n 0 (h*w/2) nc (h*w) 0 (h*w),spray e nc,dyed O c F e,bare I (h+3) (w+3),lay (.move (.whole O)
3 3),fill2 I l (hseg 2 0 (w+2)) l (vseg 0 2 (h+2)),dot I (nth q 0) 0 0,dot I (nth q 1) 0 1,dot I (nth q 2) 1 0,dot I
(nth q 3) 1 1,set3 A (call .lefthalf [call .tophalf [O]]) B (call .righthalf [call .tophalf [O]]) a (call .lefthalf
[call .bottomhalf [O]]),calls d .righthalf [call .bottomhalf [O]],replace b A F (nth q 0),replace g B F (nth q
1),replace i a F (nth q 2),replace k d F (nth q 3),vcat O (.hcat b g) (.hcat i k)])),
("7ddcd7ec",[allCols,set c outward,sides 5,paper,blanks,few num 0 4 chos c,corner 2 2,locate,rests,forPair a d c [plus s
Z a,hue T,stamp T {s},when (mem (vec a d) chos) [both T (.set [.plus s d]) (.shoot s d)]]]),
("7df24a62",sized 12 32 12 32 [grades oh 3 (.min 7 (h/3)) ow (.min 7 (w/3)),trio N q,canvas m q oh ow,hull i (inbox
(.plot m)),these P [.one i],.while (ne (shape P) (vec (oh-2) (ow-2))) [add P (.one (i-P))],dyed d m N P,whole r (.fill
(slab oh ow) N P),whole s d,sheet,aimIn oh ow,move p s li W,lay p,cap S (seen U) (.move (.area (h-2) (w-2)) 1 1),occupy
(.locs p∪beside (.locs p)),fewOf A 1 (.max 1 (len S/4)) E S,ink N E,clear a,clear o,.for f mirrors [.for n mirrors [push
a (.norm (.apply f [.apply n [r]])),push o (.norm (.apply f [.apply n [s]]))]],tries C 1 (.max 1 (h*w/(oh*ow*4)))
5,trying C [tick,any t a,dims e g t,among Q (.and [cmp 1 [(.le,part ij 0),(.le,h-e-1)],cmp 1 [(.le,part ij
1),(.le,w-g-1)]]),want Q,land Q b t,locs c b,free c [placed (S-c),lay b]],replace O I q U,put p,empty l,forZip t j a o
[update l .union (.mapply (shifter j) (occ O t))],put l,set I (trim I),set O (trim O)]),
("7e0986d6",big 10 [bg,hues q 1 5 s,cut K s,hues o 1 (len K) i,tries n 1 (h*w/25) 5,blank O,plot S O,retry n [tryRect 2
7 7 b,free b [placed (S-b-rim b),any T s,dye T b]],copy I O,gradeBy m 9,plot Q I,loop m [find Q,set T (cell I (nth Z 0)
(nth Z 1)),cap t (nbrs Z) (seen T),set Q (Q-t),any c i,ink c {Z}]]),
("7f4411dc",big 10 [duo f,gradeBy n 15,set3 maxtr (4*n) tr 0 succ 0,blank O,plot S O,retry n [sizes 2 6,room,find Q,pull
li W Z,rectAt P,lodge P P,free P [dye f P,placed (S-P-rim P)],tick],dots S O U,grade o 0 (len S/2-1),copy I O,loop o
[one Z S,occupy (dnbrs Z),ink f {Z}]]),
("7fe24cdd",pinwheel)]

end PuzzlePrograms.Recipe.Tasks
