import PuzzlePrograms.Verifier.Words

/-!
# Verifiers of the tasks whose identifier starts with 4 to 7, in order of the identifiers
-/

namespace PuzzlePrograms.Verifier.Tasks

open Primitive Step Operand

def id4 : List Verifier := [
[tiles,dyed hue back,atop,mkeep 0 hline,mkeep 1 vline,lay I 1,lay 0 1],
[lines,flat,pal,extent,tones,comp 1,amin 3,hues,drop,counts I,amin 1,spots 4,west,pos,alt 0 id dm,onGrid,dots 0
9,subgrid 0 1,west 1,east 2,lb more 1,ofLast,above 2,ofLast,plot 8,keep 0 3,subgrid 0 10,plot 11,keep 0 4,subgrid 0
13,rb equal 19,rb order,atop 5,vm 3,map 2,vm 0,hcat 3 18,hcat 0 1,onIt 23,swap 0 28 32],
[lb equal nine,ofSize,same ht wd,also,pieces,keep 0 1,joined vray hray,upon mid,mapIt 2,underfill I six],
[rarest,spots,mmap nbrs,minus 0 1,fill I one],
[bg,shapes,blobs,rb valmax wd,tinted 1,link 1 hue,comp peak dims,fork add 0 1,comp neg,order 7,adds down,upon
ul,covers,adds right,upon ul,covers,fork add 3,rb amax,alone id,fork insert vm,fork insert cm,fork insert hm,comp 4,atop
13,size 22,map size 23,isIn one,succ 2,alt 1 3,double,pred,map norm 7,upTo 3 one,pair 0,mpapply shift 2,tup 4 4,bare
35,lay 0 2,rot90 0,lay 0 4,rot90,lay 0 6,rot90,lay 0 8],
[objs I false true true,sized 0 one,flat,cover I],
[blobs,less cells box,mapIt,bg,fill I 0 1],
[blobs,sized 0 one,minus,lifts,link least delta,moves up,links ul ur,comp,moves down,links ll lr,comp,fork tup 3,rbinds
dist,upon delta,fork amin 2,joined delta,dyed 11,mapIt 14,lay I],
[blobs,extent,amax,hue,bare 0 (vec 2 2)],
[whole,dims I,shift,bg,dims I,mult 0 three,bare 2,lay 0 4,objs 0 F T T,amax 0 ncol,norm,drop 0 2,flat,most,pal 3,test id
1,amin 1,headIs 3,keep 7,headIs 2,keep 9,dye 17,join 3,lb mkeep 14,lb occ 16,lb upscale 2,comp,slides,lb upscale
17,comp,fork map 0 3,ofSize pos,lb seq,rb 0 cells,rbinds meet,seq 11,link size cells,tally 23,same,sieve 0,link flat
9,from1 six,mmap,lay 35,subgrid 41],
[blobs,map delta,mkeep 0 square,fill I two],
[vm I,is I,hm I,is I,either 2,alt 0 one seven,bare 0 unit],
[dims I,mult three,bg,bare 0 1,lumps,flat 0,most,fst 2,headIs 1,keep,norm 0,delta,fst,diff one,whole,dims I,double,mult
3,shift 3,lay 15,objs 0 F F T,lb mmap dnbrs,headIs 15,sieve,seq 2 delta,ineighbors base,map double,rb
map,slides,comp,rbinds adjacent,upon 6,fork find 2,joined id,comp back,double 22,pred,mult 0 four,moves,upon 4,joined
5,mapIt 20,fill 22 35],
[rarest,spots,box,fill I two,subgrid 2,dots 0 4,mmap vray,mmap hray 1,size 1,size 1,more,alt 0 3 4,fill 7 two,dots 0
two,ul 12,shift 1,underfill I two],
[rot90 I,rot180 I,rot270 I,hcat I 2,hcat 1 2,vcat],
[ncol I,pred,upscale I,lifts,tones,comp outbox,seq ncol 2,isOne,hues,keep 0 1,extent,tones,comp 1,amin 3,dots
11,outbox,toobject 0 13,most,ul 3,shoot 0 upLeft,lr 5,shoot 0 unit,ur 7,shoot 0 upRight,ll 9,shoot 0 downLeft,join 6
4,join 3 1,join 1,dots 26 11,meet,fill 28 two],
[rot180 I,downscale 0 two,rot180,upscale 0 four],
[lines,flat,hue,compress I,most 0,tophalf I,lefthalf,vm,hcat,hm 0,vcat,tophalf I,righthalf,vm 0,hcat 0
1,hm,vcat,bottomhalf I,lefthalf 0,vm,hcat,hm,vcat 0 1,bottomhalf I,righthalf,vm,hcat 0 1,hm 0,vcat 0 1,tup 18 12,tup 7
1,join,amax 0 ncol,plot,dots 1 29,minus,fill 3 33],
tiledPlane,
[clumps,amax 0 ncol,most,headIs,keep 2,dims,norm 1,bg,bare 0 2,lay 0 2],
[shapes,test size four,also square,find 2,hue,flat 4,comp hm vm,sole,.insert vm,.insert hm,rapply 0 4,ul 7,lb
diff,headIs 8,sieve,seq 2 ul,self shift,mapIt 6,lay I],
[bg,vsplit I two,map ncol,isIn one,alt 0 hm vm,onGrid,obj,headIs 6,non,keep 2,lay I],
[dims I,succ,succ,bare zero,whole,nudge,shift 0 left,lay 3,shift 2 right,lay,shift 4 up,lay,shift 6 down,lay,lay 0 8],
[fst I,dedupe,size,is one,turn,alt 1 ht wd,onGrid,tup one,use 3 [I],crop 0 base 1,map dedupe,onIt 6],
[hm I,vcat 0 I],
[figs I,comp dnbrs mid,fork minus back,fork equal cells,test size five,fork both,find 5,hue,flat 7,comp hm
vm,sole,.insert vm,.insert hm,rapply 0 4,ul 7,lb diff,test fst 8,rb keep,seq 2 ul,self shift,mapIt 6,lay I]]

def id5 : List Verifier := [
[rarest,spots,span two five one,moves right,moves left,moves up,moves down,lb fork meet,lb 0 id,rbinds shift,comp,upon
jvec,seq 1 jvec neg,comp 2 ivec,seq 3 ivec neg,after sole,rbinds rapply,lb seq fst,after 13,use 3 [7],rb 2,link 2
4,after 18,use 7 [10],rb 6,link 2 8,after 20,use 11 [13],rb 10,link 2 12,after 23,use 15 [16],rb 14,link 2 16,rb dots
33,comp 13,comp 10 1,comp 7 2,comp 4 3,lb fork join,fork 0 4 3,fork 1 3 2,fork,dyes 42,rb mmap 41,link 1 2,self
lay,power 0 four,onGrid,objs 0 T T T,tint 0 49,comp peak dims,atop,peak,dots 5 53,among,adds right,comp 1,adds left,comp
3,any 2,adds down,comp 6,adds up,comp 8,any 2,also 5,test size 13,any vline hline,also,keep 19,map mid,keep 17 5,join 0
1,halve 20,neg,ivec,adds,ivec 3,adds,links 2,neg 6,jvec,adds,jvec 9,adds,links 2,joined 6,mapIt 14,fill 40 88,swap 0 89
eight,fill 0 90 89],
[pieces,hues,comp peak dims,maps,tinted 3,seq peak,isOne 0,find 5,tones,comp back,same,find 9,spots,spots 5,rb dist
1,upon sole,amin 2,ul 3,isIn 0 4,shoot 2 unit,shoot 3 upLeft,join,shoot 5 upRight,shoot 6 downLeft,join,alt 6
3,places,outbox 14,meet,meet 0 3,sole 13,rb dist,upon sole,amin 3,ht 21,ht I,equal,west 23,west 25,more,top 26,top
28,more,lb shoot 9,alt 4 unit upLeft,alt 5 upRight downLeft,alt 3 unit upLeft,alt 4 downLeft upRight,alt 11 3 1,alt 12 3
1,use 6 [1],use 7 [1],join,minus 0 39,fill I three],
[blobs,comp back inbox,mapIt,fill I eight],
[clumps,amax 0 ncol,most,norm 1,bg,dims 3,bare,fill 0 4 3],
[tiles,extent,valmax,test,keep 3,largest,hue,drop 1 6,pieces,tinted,link size hue,amin 3,other 4,hue,tint 5,map
west,size 0,equal one,map top 3,size,equal one,fork add fst last,upon ul,amin 8,drop 0 9,lb dist 1,amin,low,low
4,diff,top 3,top 7,diff 1,tup 3,peak,alt 14 zero,east 9,east 13,diff 1,west 12,west 16,diff,tup 3,peak,alt 26 zero,tup
9,shift 34,delta,hm 1,ul 1,delta 1,ul,diff 2,shift 4,join 7,vm,ul 8,delta 1,ul,diff 2,shift 4,join 0 6,hue 50,swap I 0
56,lay 0 2],
[twin cm,tup hm vm,join,extent,rb objs F,rb 0 F,rb 0 T,rb amin 3,has base,seq 0 cells 1,upon 3,after,calls I,alone
1,firsts,find 12,onGrid,ht I,fst 1,isZero id,non 0,keep 2,size,quot 5,succ,double 0,call .repeat [4,0],flat,double
10,call .repeat [1,0],obj 0,seq succ last last,firstOf last,fork more,keep 3,upscale 18 two,dm 1,join 2,lay 2,onIt 23],
[shapes,flat,bg,wd I,tup ten,bare 2,from1 six,neg ten,span 0 ten one,prod 2,drop base,lb meet 9,shifts 10,comp 1,cells
12,lb meet,shifts 1,comp 1,sizes 4,sizes 1,same,seq pos size 7,also,keep 12,sizes 10,valmax,sizes 12,test 0 1,keep
4,fork mult fst last,amax,upTo ten one,shifts 30,mults 2,comp 1,mapIt 3,lay 30],
[blobs,mmap outbox,fill I three,mmap delta 2,fill 1 four],
[blobs,mmap delta,fst 1,cells,among,portrait 2,map fst 4,map last 5,alt,alt 3 right down,delta 7,mid,add 0 2,onIt 8,alt
8 wd ht,alt 9 rb lb,use 1 [I],pred,use 2 [tup,0],alt 13 ivec jvec,alt 6 0 1,atop 12,fill I four],
[lines,flat,least,dims I,bare,hcat I,objs 0 F F T,power succ five,lb drop five,lb drop zero,link 1 pal,seq 3 fst,dyed 0
cells,mapIt 6,lay I],
[places,box,lift,most,rb objs T,rb 0 F,rb 0 T,lb bare 3,upon dims,self hcat,comp 3,maps top,link peak 1,isZero,twin
dm,tup cm hm,join,calls I,firsts 0 sole,comp 5,find 3,onGrid,dims,bare 19,hcat 2,objs 0 T F T,comp ivec ht,self
shift,mapIt 2,bg,flat 4,fill 9,lay 0 3,onIt 12],
[bg,dims I,bare],
[bare zero (vec 3 3),plot,dims I,quot 0 three,fst,last 1,upTo 1 one,upTo 1 one,prod,scale three,atop,headIs
five,non,sieve,lifts,shifts 13,seq,comp hue,shifts 16,dyed,mapIt 9,lay I,downscale 0 three],
[spots two,hline,turn,onGrid,figs,test hue two,non,find 2,dots 4 two,west,west 2,more,dist 4 3,pred,alt 2 id neg,alt 3
pred succ,alt 4 west east,use 2 [3],jvec,shift 11,onIt 3,onIt 5,jvec,vray,cover 20 16,lay 0 5,fill 0 eight 2,onIt 24],
[shapes,dyed hue back,mapIt,lay I],
[clumps,hues,filters 1,before pal,lbinds isIn,seq,sizes,amax 5,tally 0,atop 8,minimum,tally 3,test 0 1,keep
12,largest,headIs 7,sieve 0,lb upscale 2,seq 0 wd 1,comp ul 2,seq ul 3 1,fork diff,fork shift 3,rb other 15,upon
pal,comp 8 2,less 3,dyed 2,comp 11 5,joined 0 1,drop 15 29,mmap,lay I],
[places,box,lift,most,hues,drop,lb seq size,rb 0 dnbrs,lbinds meet,tones,seq,rb test zero,upon,seq flip pos
size,tones,fork keep 0 2,comp 2,amax 11,other 12,spots 1,window,switch 0 3 2,swap 0 4 18,lb downscale,fork upscale 0
id,test 0 2,dims 3,peak,from1,keep 0 3,peak,downscale 8],
[rot270 I,crop 0 base (vec 3 3),rot90],
[blobs,tint 0 two,tint 1 one,dyes two,shots unit,link 1 lr,dyes one,shots upLeft,link 1 ul,mmap 3 7,mmap 1 7,join,lay
I],
[rarest,spots,ht,halve,wd 2,halve,ul 4,lr 5,dims I,peak,mult three ten,upTo 0 one,scale 8,atop,scale 8,atop 3,pair
2,adds 10,map neg 1,map,adds 12,atop 4,pair 2,mmap box,fill I 23],
[most I,objs I T F F,tint 0 1,borders,comp flip,mkeep 2,outbox,window,trim,pal,test id 9,amin,trim 4,dots 0 1,nudge,dots
7 3,minus 0 1,ofHead fst,ofLast fst,fork equal,ofHead last,ofLast last,fork equal,fork either 3,prod 9 7,keep 0 1,fork
line fst last,mapIt,fill 20 16]]

def task62c24649 : Verifier :=
  [vmirror I, hcat I, hmirror, vcat]

def task6d0aefbc : Verifier :=
  [vmirror I, hcat I]

def id6 : List Verifier := [
[motes,mmap delta,fill I seven],
[rot180 I],
[rarest,spots,shots unit,shots upLeft,joined,shots upRight,shots downLeft,joined,joined 3,mapIt 7,fill I 9],
task62c24649,
[blobs,bg,fork add ht wd,comp pred,same 0 size,borders,also,lifts,link ncol delta,test 0 two,also 3,keep
10,largest,delta,lift,headIs 13,non,keep 2,norm,cells,comp cells norm,test 0 1,drop 4 21,amax 0 1,hue 11,fill I 0 1],
[lines,hlines,size,pos,alt 0 tophalf lefthalf,alt 1 bottomhalf righthalf,use 1 [I],use 1 [I],dims 1,pal 2,pal
2,meet,fst,dots 6,dots 6 1,meet 1,bare 3 7,fill 0 three 1],
[pieces,places,corners,lift,most,tint 4,valmax 0 size,valmin 1 size,sized 2 1,sized 3 1,flat 1,fill I one,flat 2,fill 1
eight],
[portrait I,alt 0 vsplit hsplit,dims I,peak,minimum 1,quot,use 4 [I,0],same id dm,non,find 2],
[pieces,hues,other 0 zero,tint 2,sized 0 one,minus,flat,fill I eight],
[blobs,flat,pal,tinted 2,sizes,test 0 two,places,box,rb minus,tones,seq size,isZero,above one,maps size,tinted
13,comp,seq 3 minimum,also 5,also 12,find 16,other 17,spots,tint 21 2,rb vmatching 1,rb hmatching 2,any,find 3,other
4,rb gravitate 1,upon sole,self add,links id,mapIt 10,fill I 12,fill 0 four 12,spots 15,map fst,size,map last 2,size
0,more 2,ofHead ivec,ofLast jvec,alt,alt 3 hray vray,ul 18,ul 18,diff 0 1,onIt 4,shift 27,mmap 5,fill 16 30,fill 0 32
16],
[lines,flat,hue,dims I,bare,hcat I,hues,drop 4,counts I,amin,other 2,objs 5 F T T,tally 2,valmax,tally 4,test 0 1,keep
4,map ul,fst 6,dims,succ,rb quot,atop 4,keep 22 hline,size,keep 24 vline,size,tup 2,succ,bare 18,fill 0 one 7],
[vm I],
[most I,pal I,drop,totuple,fst,last 1,dots I 1,back,dots I 2,back,meet 2,outbox,fill I four],
[vm I,hcat I,hm,vcat],
[motes,totuple,fst,norm,last 2,norm 0,hue 2,hue 1,cells 4,cells 3,extent,same size,shifts 3,shifts 3,ofHead 1,ofLast
1,fork meet,sizes,ofHead 5,ofLast 5,joined,comp 9,isZero 4,also 0 1,valmax 22 ht,valmax 23 wd,upTo 1 one,upTo 1
one,prod,prod 0,amax 0 6,fst 0,shift 23,last 2,shift 24,join 2,dims 0,bare 29,ul 2,neg,shift 7,fill 3 34],
[tiles,less cells box,sizes,isZero,adds four,seq 0 double wd,same size,seq 2 double ht,same size,any 2,also 6,find
10,cells,mid 1,vray,meet 2,size,pos,turn,onGrid,hue 8,hues,drop,counts I,amin,other 2,dots 6 1,dots 7 6,west,lb
more,ofLast,keep 4,minus 5,vm 1,west 6,west 3,diff,add two,jvec,shift 5,vm 7,east 8,east 14,diff,add two,jvec
0,neg,shift 6,fill 28 22 21,join 9 1,fill 1 25,onIt 32],
[hm I],
[objs I true false false,fork mult ht wd,fork equal size,keep 2,comp back inbox,amin 1 size,amax 2 size,use 2 [1],use 3
[1],fill I one 1,fill 0 two 1],
[twin dm,tup cm hm,join,self vsplit ht,seq obj fst,bg,lb seq ncol,lb 0 2,lb seq hue,lb 0 4,calls I,alone 3,firsts,calls
I,alone 4,firsts,isOne 3,test 1 11,non,also 2,amax 17,onGrid,onIt 17,hue,pal 2,drop,other 0 20,objs 5 T T T,tint 0
1,dots 7 5,dots 8 24,mmap nbrs,mmap nbrs,low 3,dnbrs base,drop down,rb mmap,lb seq,lbinds add,rb,lbinds
comp,slides,seq,lb seq size,rb meet 14,lb,rb test zero,slides,seq 1 2,rb seq fst,rb 0 pred,lb more 17,onIt,sieve
0,after,lb seq size,rb minus 25,lb,rb test zero,slides,seq 1 2,lb seq size,rb meet 31,lb,lb fork minus,comp 10
22,slides,fork,comp 4,rb test zero,upon,lb fork both,fork 0 1 11,lb fork both,fork 0 25 1,comp norm cells,filters 43,seq
0 2 1,rb amin fst,upon,fork shift 4,mapIt 52,flat 53,cover 61,fill 0 one 2,onIt 64],
[clumps,bg,valmax 1 ncol,test ncol,mkeep 3,back,lift 0,headIs 5,non,keep 2,most,sole id,.insert dm,.insert cm,.insert
hm,.insert vm,dims I,add two,bare 16,whole,nudge,lay 2,from1 five,headIs 12,non,sieve 0,comp norm,seq norm cells,lb
upscale 18,alone last,ofHead 1,fork rapply,seq norm fst,comp norm 6,dyes 32,lb mmap dnbrs,upon 8,less 0 9,comp 3,joined
5,upon 7,slides,seq ul 15 9,fork shift 10,comp 2,lb occ 23,upon 5,fork mmap 2,prod 25 32,mmap 1,lay I],
[motes,alike box,keep,extent,amax,shapes,flat,minus 0 2,window 3,window 1,ht 1,diff 0 two,ht 2,quot,wd 5,diff 0 two,wd
6,quot 1,hupscale 8,vupscale 0 5,obj,nudge,lay 13],
[blobs,above two,seq 0 minimum dims,keep 2,alike box,keep,bg,flat 1,fill I,comp hray mid,comp vray mid,joined,fork meet
0 back,mapIt 7,fill 5 two],
[places,box,rb minus,link size cells,isZero,tiles,keep 0 1,largest,hue,cells 1,any hline vline,prapply line 1 1,non
7,also 0 2,mkeep 2,bg,dims I,bare,fill 0 9 3],
[bare zero (vec 3 3),obj,occ I,shifts 1,mapIt,fill I one],
[lines,flat,most,dims I,bare neg1,hcat I,fill 0 neg1 4,objs 0 F F T,has four,upon pal,find 2,filters 3,sizes,before
pal,lbinds isIn,seq,flat 8,hues,drop 15,valmax 0 3,test 4,keep 2,counts 5,amax,dims I,bare,lay 0 24,norm 16,headIs
25,non 0,keep 2,dims 3,succ,headIs four,keep 6,mid,mult 3,shift 6,lay 11],
task6d0aefbc,
[tup one three,tup two four,sole,.insert (vec 2 2),.insert 3,jvec three,ivec three,line 1,tup three six,line 3,join
2,join 6,has,comp norm cells,maps,link 2 partition,twin id,tup rot90 rot270,tup,tup rot180 rot180,tup rot270
rot90,tup,join 3,calls I,alone fst,firsts,comp 10,find 4,fst,last 1,use 1 [I],hues,lb dots 1,comp norm,test 0 22,find
3,drop 0 4,counts 6,amin,dots 8,dots 9 4,ofSize pos,rb meet 1,shots up,seq,keep 5,ht 15,rb valmax fst,filters 7,lb test
last,link 1 last,seq succ 3,fork tup 0 last,pred 6,lb tup,ofLast,links 3,mapIt 11,fill 27 19,onIt 29],
[tiles,amin 0 size,delta,fill I two],
[ncol I,is three,ht I,pred,ivec,alt 3 0 base,equal 5 two,dims I,pred,wd I,pred,jvec,alt 5 3,dims I,bare zero,line 9
2,fill 1 five],
[blobs,shots unit,adds unit,link 1 lr,dyed hue,shots upRight,adds upRight,link 1 ur,dyed hue,shots upLeft,adds
upLeft,link 1 ul,dyed hue,shots downLeft,adds downLeft,link 1 ll,dyed hue,fork drop lr cells,alike 0,keep 18,fork drop
ur cells,alike,keep 21,fork drop ul cells,alike,keep 24,fork drop ll cells,alike 0,keep 27,mmap 24 9,mmap 21 7,join,mmap
19 6,mmap 16 4,join,join 3,lay I],
[blobs,test size two,mkeep,test size three,mkeep 3,test size four,mkeep 5,fill I three 4,fill 0 two 3,fill 0 one 2],
[clumps,amax 0 ncol,amin 1 ncol,bg,dims 1,bare 1,norm 3,lay,ht 6,wd 7,ht 7,wd 8,norm 10,quot 2 4,quot 2 4,wd 7,upTo 0
one,ht 9,upTo 0 one,scale 4,rb quot 5,comp 1,same id,scale 9,rb quot 10,comp,same id,maps last,ofHead 5,sieve,lb pair
13,seq 3,ofLast 0,pair 14 25,ofHead 7,keep,map 3,hue 34,dots,among,ofLast,keep 28,lay 5],
[places,box,fill I eight],
[hm I,vcat I]]

def id7 : List Verifier := [
[clumps,test ncol two,keep,map norm,firsts totuple pal,seq last totuple pal,heads,upon 2,heads,upon 3,self keep 2,self
keep 1,lb occ I,seq neg ul 2,seq neg ul 2,slides,self shift 2,self shift 2,comp 2 1,comp 6 8,fork mmap,comp 5 3,comp 9
10,fork mmap,joined 3,mapIt 21,lay I],
[motes,same id vm,find,window],
[hues,places,ur,index I base,shoot base unit,dye,index I 3,shoot 4 downLeft,dye,tup dm 3,tup cm 1,sole,.insert 2,prod
12,whole,filters,after flip,heads,seq,lb lay I,ofLast last,firstOf last,lb fork equal,rb 0 id,ofHead 5,comp 1 3,alone
4,fork rapply 0 2,firstOf,comp 9,fork lay 0 9,alone 5,fork rapply 0 1,firstOf,keep 20,counts I,ofHead 0,amin 2,fst,last
1,fst,last 3,last,use 24 [4],onIt 3,lay I,lay 0 3,dots 0 8,mmap dnbrs,minus 0 1,toobject 0 3,size,pos,rb tup 14,comp
last,alt 2 most,use 0 [5],swap 10 18],
[index I base,dims I,bare,hcat I,objs 0 F F T,comp last centerofmass,order,size,upTo 0 one,pair 2,scale three,rb quot
three,link 1 last,same last,keep 4,mmap fst,fill I four],
[compress I,vm],
[fst I,dedupe,size,equal one,alt 0 dm id,onGrid,objs 0 true false false,order 0 west,map hue,single 0,onIt 5],
[dm I],
[tophalf I,lefthalf,tophalf I,righthalf,bottomhalf I,righthalf,bottomhalf I,lefthalf,pal 6,pal 5,meet,pal 5,pal
4,meet,meet 3,fst,dims 14,bare 1,headIs 2,non,sieve,upon obj,use 0 [20],use 1 [17],use 2 [16],use 3 [21],lay 8 3,lay 0
3,lay 0 3,lay 0 3],
[shapes,test dims (vec 3 3),test size five,fork meet cells box,sizes,test 0 four,fork meet cells
corners,sizes,isOne,also 7 6,also 4 1,also,find 11,cells,low 1,headIs,top 3,headIs,east 5,test last,west 7,test
last,keep 8 6,size,is two,keep 11 7,size,is two,keep 14 8,size,is two,keep 17 9,size,is two,either 9 6,alt 0 hm vm,mult
11 down,mult 9 up,add,mult 8 right,mult 6 left,add,add 3,other 42 30,onIt 8,dims 1,mult 0 3,shift 2,lay I],
[blobs,alike box,keep,extent,amax,bg,inbox 1,back,lift,headIs 3,non,keep 2,norm,hue,cells 1,comp cells norm,test 0
1,mkeep 16,fill I 4],
[trim I,trim,tophalf,lefthalf,tophalf 2,righthalf,bottomhalf 4,lefthalf,bottomhalf 6,righthalf 0,index I base,wd
I,pred,jvec,index I,ht I,pred,ivec,index I,dims I,pred,index I,compress I,plot 0,box,corners 1,minus,toobject 0 4,hue
0,pal 27,other 0 1,swap 27 0 20,swap 26 1 17,swap 25 2 14,swap 24 3 12,hcat 3 2,hcat 2 1,vcat],
[lines,flat,hue,flat 2,fill I neg1,dims I,bare neg1,hcat 2,objs 0 F F T,rb other 6,upon pal,fork tup 0 ul,atop 3,flat
4,fill I 11,lay 0 2,compress],
[pieces,alike back,keep,extent,amax 1,hue,hues,drop,counts I,amax 1,drop 0 2,tones,mapIt,window,objs 0 T F F,tint 0
9,sole 6,.insert 11,lb meet,seq pos size,seq pos pred size,any,rb toobject 8,comp corners outbox,seq pal,rb alt 19,seq
flip 4 1,firstOf 2,fork 2 1,map top 13,order 0 id,maps 2,rb order west,filters 17,lb test top,comp,seq 4 3,atop 6],
[hues,drop one,counts I,amax,bare 0 (vec 3 3),colorcount I one,pred,jvec,line base,fill 4 two,sole unit,equal 5 four,alt
0 1 3,fill 3 two],
[pieces,places,box,lift,most,tint 4,borders,non,mkeep 2,fill I two,swap 0 5 three],
[lefthalf I,righthalf I,equal,alt 0 lefthalf tophalf,onGrid],
[lines,flat,hue,dims I,bare,hcat I,objs 0 F F T,amin 0 size,largest 1,drop 0 2,drop 2,flat,hue,window 4,window 6,wd
6,halve,hupscale 2,ht 9,halve,vupscale 2,obj,plot 8,dots 9 10,minus,among,ofLast,keep 5,lay 14],
[lumps,largest,drop 0 1,lb position 1,fork shoot mid,dyed hue,mapIt 3,lay I],
[tiles,comp peak dims,amin,hue,hues,drop 1,counts I,amin,bg,dims I,succ,succ 0,bare 3,whole,nudge,lay 2,single
identity,tup cm dm,tup hm vm,join,join 3,fork comp fst last,prod 1 1,map 1,dots 8 20,back,toobject 0 10,headIs
19,sieve,headIs 25,sieve,dyes 22,upon,joined 4,slides,lb occ 19,upon 2,fork mmap 2,lb seq,lb 0 norm,calls 13,sole 1,lb
rapply,firsts 2,mapIt 20,lay 29,trim],
[bg,blobs,lb more three,ofSize,keep 2,mmap cells,fill I 5,objs 0 T F T,dyed hue back,mapIt,lay 3],
[pieces,totuple,map hue,modal,bare 0 (vec 2 2),obj,hues,test id 3,amin,dims I,bare,shifts 5,occ I 6,mmap,lay 3],
[rot90 I,rot180 I,rot270 I,hcat I 2,hcat 1 2,vcat]]

end PuzzlePrograms.Verifier.Tasks
