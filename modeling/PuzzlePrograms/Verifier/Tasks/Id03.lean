import PuzzlePrograms.Verifier.Words

/-!
# Verifiers of the tasks whose identifier starts with 0 to 3, in order of the identifiers
-/

namespace PuzzlePrograms.Verifier.Tasks

open Primitive Step Operand

def task0520fde7 : Verifier :=
  halving [palette 1, other 0 zero, palette 2, other 0 zero, shape 5, canvas zero, ofcolor 7 4, ofcolor 7 3,
    intersection 1, fill 3 two]

def id0 : List Verifier := [
[hues,other 0 zero,dims I,mult 0,bare zero,spots 3,shifts,dims I,scale,atop 3,mmap 3,fill 6 9],
[pieces,bg,tint,borders,non,mkeep 2,fill I four],
[hues,other 0 zero,spots,whole,vperiod,ht I,halve,add,wd I,tup,bare zero,succ 3,upTo 0 7,shifts 10,map ivec 1,mmap,fill
5 two],
[bg,motes,rb objs F,rb 0 F,rb 0 T,lb bare 4,upon dims,fork lay 0 norm,comp 3,fork tint 0 hue,moves right,rb amax
east,upon 2,fork drop 0 3,seq 3 flat,rb amax east,upon 6,joined 0 2,fork shift 0 ul,flat 17,fill I 19,mmap 2 19,lay],
[motes,largest,ht,wd 1,nbrs base,cells 3,shifts,ht I,quot 0 5,wd I,quot 0 6,tup 2,peak 0,succ,from1,tup 12 11,mults
0,comp crement,lb mmap 11,rb map 4,rbinds mult,upon 3,seq 3 2,lifts,comp 17 6,seq pal,bg,rb equal,rb amin,upon 3,dyed 0
7,mapIt 26,lay I],
task0520fde7,
[dims I,peak,upTo 0 one,from1 1,lifts,shots right,link 1 ivec,shots down,link 3 jvec,map 2 6,map 1 7,shots upRight,link
7 ivec,shots upRight,pred 12,lb tup,seq 11 2,map 4 14,map 1 14,join,shots upLeft,pred 19,lb tup,seq 18 2,shots
upLeft,pred 23,rb tup,lb diff 1,comp,seq 24 4,map 6 27,map 1 27,join,rb valmax ncol,isOne,use 0 [25],use 1 [25],use 2
[17],alt 0 18 5,alt 2 28,alt 4 30,map most,isZero id,non,keep 2,size,double 44,quot 0 1,succ,upTo 0 one,headIs zero,non
0,dyed fst last,size 12,upTo 0 one,before fst,rbinds more,link 1 pred,maps last,lb seq,rb 0 2,lbinds keep,lb pair
7,seq,use 0 [23],use 1 [23],scale 20,comp 2,scale 22,comp 3,lb mmap 17,sieve 19,lb pair 30,upon 5,seq 3 2,lb mmap
22,sieve 24,rb pair 36,upon 8,seq 3 2,joined 5,mapIt 31,lay I],
[motes,extent,same size,find 2,other 3,gravitate 0 1,move I],
[whole,lines,flat,minus 2,most,pieces,hue 3,test hue,test hue 3,any,non,keep 5,flat,pal,lb mkeep 2,lb test hue,comp,atop
3,any vline hline,lb prapply line,self 0 id,upon cells,sieve 3,link flat 1,dyed hue,mapIt 7,lay I,lay 0 24],
[fst I,modal,dm I,test id 1,sieve,sizes,atop 3,dedupe,order 0 id,size,succ,succ,from1,pair 4,ht I,tup 0 13,single 0,join
0 3,lb find,heads,seq last,upon 15,fork diff ht 16,fork (fn .repeat),lb (fn .repeat) 22,upon 19,joined 0 2,atop 24,dm],
[lines,hlines,keep 1 vline,size 1,size 1,flat 4,hue,dims I,bare,hcat I,objs 0 F T T,amin 0 ncol,norm,cells,succ
10,succ,succ 11,succ,tup 2,shifts 5,scale 1,link 1 last,dyed fst,norm 11,mmap,lay 16],
[clumps,lb mmap dnbrs,upon cells,dyed most,comp pred ul,comp succ lr,links,comp hm,joined,dyed least,mmap 6 9,lay I,mmap
2 11,lay],
[portrait I,turn,onGrid,objs 0 T F T,amin 0 west,amax 1 west,hue 1,hue 1,west 3,west 3,diff 0 1,double,mult three
ten,span 4 0 1,span 4 1 2,comp vray jvec,mapIt 2,mmap 1 2,dye 11 1,dye 11 1,join,lay 18,onIt 20],
[tiles,extent,amin,window],
[spots one,spots two,mmap dnbrs 1,mmap ineighbors 1,fill I seven 1,fill 0 four 1],
[switch I three four,switch 0 eight nine,switch 0 two six,switch 0 one five],
tiledPlane,
[objs I F F T,test ncol four,keep,map norm,flat 1,cover I,lb comp flip,heads,link 1 most,self keep,seq neg ul,lb lb
shift,self shift 1,comp,lb fork mmap,lb 0 1,rb comp 6,lb lb occ,seq,rb mmap 15,upon,self lay,link id id,seq dm 1 dm,seq
cm 2 cm,seq hm 3 hm,seq vm 4 vm,seq rot90 5 rot270,seq rot180 6 rot180,seq rot270 7 rot90,seq 0 1 2,seq 4 5 6,comp 8
9,seq,use 0 [28]]]

def task1b2d62fb : Verifier :=
  halving [shape 1, canvas zero, ofcolor 3 zero, ofcolor 3 zero, intersection, fill 3 eight]

def id1 : List Verifier := [
[hcat I I,vcat 0,plot,bg,dots 2,minus 2,mmap ineighbors,underfill 5 eight],
[bg,lb drop,seq pos size,upon pal,mult five unit,bare zero,plot,fork add fst last,seq flip even,keep 2,sole 9,box
4,inbox 5,mid 6,sole,lb toobject 3,comp 12,lb toobject 4,comp 14,lb toobject 4,comp 16,also 2,also 5,upon trim,comp box
plot,fork toobject 0 id,comp pal,test 0 16,lb toobject 18,link pal trim,test 0 19,comp minimum dims,seq 0 flat figs,test
0 five,also 10 6,also 4 1,also,ht I,diff 0 three,from1,wd I,diff 0 three,from1 0,mult seven unit,lb crop I,rb 0 1,link 9
pred,prod 7 4,keep 0 1,headIs 48,non,sieve 0,upon dm,joined,comp 2 cm,comp 3 hm,comp 4 vm,joined,joined 3,joined 5,mult
four unit,adds,fork insert 0 sole,comp back,lifts,link 5 1,mapIt 17,lay I],
[places,corners,lift,most,hues,rb equal 1,amin,places,spots 4,minus,fill I 3,frontiers,keep 0 vline,minus,tup 0 1,map
size,succ,bare 13],
[shapes,flat,pal,blobs,totuple 0,map hue,filters,lb test id,seq size,valmax 6,test,keep 8,counts I,amin,spots,dye,map
sole,drop 1 16,lb amin 1,rbinds dist,comp 1,joined id,atop 4,headIs 9,sieve,seq neg ul,self shift,mapIt 4,norm
0,dims,bare zero,lay 0 2],
[bg,rarest,dims I,add two,bare 3,whole,nudge,lay 2,tup two one,dnbrs unit,drop,dye 10,sole unit,dye 11,join 2,tup three
one,line unit,dye two,sole (vec 2 2),.insert unit,back,tup two three,tup three two,sole,.insert 2,.insert (vec 3 3),dye
24 5,outbox 6,minus 0 2,dye 28,join 3,dye eight 10,slides,ofLast,lb fork lay,lb 0 id,lbinds mmap,upon 3,rbinds
occ,ofHead,fork comp 2,comp 5,tup 27 24,onIt,comp rot90,power 0 four,tup 15 14,onIt 5,comp rot90,power 0 four,comp
4,sole base,minus 0,dyes two,rb dots two,comp 1,dyes eight,rb dots eight,comp,joined 3,dyes 59,upon,self lay,seq 0 12
fst,seq 4 13 fst,joined last,fork tup 2,tup 59 14,power 1 five,use 0 [1],fst,last 1,lay,trim],
[spots two,spots three,spots one,mmap vray 2,mmap hray 2,mmap hray 2,fill I two 2,fill 0 three 2,fill 0 one 2],
[lines,bg,places,spots 1,minus,mmap cells 4,minus,lift,map sole,fill I 7 2,lb fork shift,lb 0 id,rbinds
gravitate,comp,tinted 5,upon hue,fork mmap 2,mapIt 16,lay 8],
task1b2d62fb,
[shapes,mmap cells,rot90 I,figs,mmap cells,norm,ul 4,shift,dims 6,peak 0,minimum 1,diff,succ,power outbox,mid 6,use 1
[7],back,neg 2,shift 1,lb join 17,shifts 12,comp,rb dots one,lb bare zero,seq 0 dims 2,dyes one,seq 0 norm 4,fork lay
2,seq 5 rot90,comp norm 7,same 0 1,keep 12,lb meet 30,shifts 25,seq size,amax 3,shift 28,minus 0 35,fill I two],
[tophalf I,bottomhalf I,least 1,least 1,spots 1,mid 0,spots 2,mid,ht I,wd I,hray 4,fill I 8,hray 4,fill 1 9,pred 4,pred
6,halve 7,jvec 2,line base,fill 5 16,ivec 4,tup 5 6,line,fill 3 19,pred 7,ivec 0,line base,fill 3 24,jvec 13,pred 12,tup
0 15,line 2,fill 4 29,ivec 16,ivec 18,line 1,fill 3 32,tup 20 22,tup 22 23,line,fill 3 36],
[pieces,tinted,sizes,isOne,hues,keep 0 1,alike box,among 1,upon hue,keep 8,above seven,ofSize,keep 2,find 0
6,window,trim],
[motes,spots one,low,lb diff,link ivec low,self shift,flat 5,cover I,mmap 2 7,lay],
[lines,flat,hue,hues,other 0 1,parts T T F,test hue 1,find,window],
[bg,rot270 I,test id 1,sieve,non 1,sieve,joined 2,atop 5,rot90],
[lines,totuple,map hue,leastcommon,test hue,keep 4,flat,hue,dims I,bare,hcat I,objs 0 F T T,fst 0,box,among,ofLast,keep
3,hue,hues,drop 11,other 0 2,tally 3,amin 10,map ul 11,norm 1,headIs 4,keep,cells,shifts 0,mapIt 5,spots 9,minus,fill I
24],
[lumps,rb other two,upon pal,headIs two,sieve,upon norm,maps double,seq 0 cells 1,adds neg1,maps,upon 2,rbinds
shoot,before,rbinds mmap,link 1 cells,fork mmap 0 4,dyed 13,mapIt 16,lay I],
[pieces,extent,same size,keep 2,largest,outbox,corners,lift,hue,places,spots 1,cells 6,join,minus 3,lift,map sole,rb
gravitate 11,comp crement,self shift,mapIt 3,lay I],
[blobs,totuple,map hue,filters,lb test id,seq size,isOne,keep 4,counts I,amax,test hue,find 10,window],
[shapes,ofHead last,power last two,links,dyed hue,mapIt 4,lay I],
[objs I T F T,tint 0 one,sized 0 four,fork equal ht wd,keep,size,diff five,tup one 1,bare one,tup one 2,most I,bare 0
1,hcat 3]]

def id2 : List Verifier := [
upright [lefthalf,tophalf],
[fst I,dedupe,size,is one,flip 0,alt 0 lefthalf tophalf,alt 1 righthalf bottomhalf,alt 2 hcat vcat,use 2 [I],use 2
[I],index 1 (vec 0 0),dims 1,pred 0,index 3,most I,most I,pal I,drop 6,drop 4,drop 3,fst,swap 12 0 10,alt 17 dm id,alt
18 ht wd,onGrid,tup one,bare 11,onIt 4,swap 18 7 14,use 21 [7,1],alt 25 wd ht,onGrid,even,alt 0 11 3,use 26 [0,5]],
[hues,bg,drop 0 1,tones,lb prapply line,fork 0 1 1,comp flat,dyed id,mapIt 5,lay I],
[motes,rb upscale two,seq neg halve dims,joined hray vray,comp 2 vm,fork shift 0 2,comp cells,lb mmap 3,upon cells,less
2,mapIt 9,fill I eight],
[rarest,spots,map fst,map last 1,prod,minus 0 3,fill I two,lb fork either,heads,ofHead,lb test last,ofLast,fork 4
2,filters 11,link size 1,places,corners,amax 0 2,bg,sole 1,fill 13],
[bg,parts T T F,tint 0 1,comp norm cells,minus 2 1,borders,non,keep 4,lifts,lb mmap nbrs,upon cells,less 0 id,seq most
3,totuple 5,map 1,modal,test 3,keep 9,lb amax 13,lb test 15,link 1 16,comp hue,dyed 0 id,mmap 2 5,cover I,mmap 2 7,lay],
[bg,whole,headIs 1,non,keep 2,map sole,prod 0,ofHead hue,ofLast hue,same,keep 3,ofHead west,ofLast west,same,ofHead
top,ofLast top,same,any 3,keep 7,ofHead hue,ofHead mid,ofLast mid,links,dyed 3,ht I,wd I,isZero last,pred 1,test
last,any 2,headIs zero,pred 6,headIs,any 2,cells 29,keep 0 5,equal,mmap 13 18,lay I,alt 2 9 5,places,keep 0 1,lift,lay
4],
[lumps,order 0 west,tup one two,among,after,rbinds colorcount,comp,filters 6,link size 1,size 8,test,hues,keep 0
1,counts I,amin,headIs,rb find,ofHead,fork drop 0 fst,before sole,rbinds dist,alone 3,seq 2 1,fork amin 4,comp last
6,firstOf 1,fork tup 0 1,fork insert 0 8,ofLast last,rb amin,sieve 14,firstOf last,seq,non 17,sieve,firstOf last,fork
drop 3,comp 2,before sole,rbinds dist,alone 7,seq,fork amin 4,firstOf,comp last 11,fork tup,firstOf last,fork drop
14,fork insert 2,moves right,comp last 17,fork diff 26,fork shift 3,comp 3,joined 26,firstOf last,fork drop 0 last,fork
tup 2,size 57,pred,power 2,fst 59,drop 0 60,tup,onIt 3,fst,flat 65,cover I,lay 0 2,ht I,wd 4,tup 1,crop 3 base,dots 0
58,bg,pal 2,isIn 61,headIs 2,non,sieve,mmap dnbrs 6,lb toobject,comp 2,rb dye 9,seq 0 most 1,self lay,alt 9 0 id,use 0
[14]],
[bg,hues,drop,totuple,joined hray vray,lb mmap,tones,comp,fst 4,last 5,use 2 [1],use 3 [1],spots 11,meet 0 2,meet 1
2,meet 4 3,meet 3,fill I 8 3,fill 0 8 3,fill 0 two 2],
[pieces,maps norm,tinted 1,seq size,isOne,counts I,test 0 eight,tinted 6,sizes,test 0 two,also 3,also 0 6,hues,find 0
1,tint 13,totuple,fst,last 1,hues,drop zero,drop 6,fst,tint 21,rb adjacent 6,rb adjacent 6,also,keep 3,size,pos,alt 0 7
zero,bare 0 unit],
[tiles,extent,same size,keep 2,amin 0 2,window],
[rarest,spots,prapply line 0,above one,ofSize,keep 2,any vline hline,mkeep,fill I three,rarest,fill 1 0 8],
[lumps,heads,upon least,heads,upon most,self find 2,comp last,comp dnbrs,maps last,self keep 4,comp,less 3,firstOf,fork
diff 6,fork shoot 7,dyed least,mapIt 15,underpaint I],
[wd I,rb alt zero,rb 0 five,sizes dedupe,isOne,comp 2,rb (fn .repeat) 5,upon,atop I],
[motes,fst,move I 0 down],
[pieces,extent,amax,most,dims I,bare,hcat I,objs 0 F F T,amin 0 size,cover I,norm 1,drop 2 3,cells 1,lb meet,seq 0 dnbrs
last,above one,seq 0 size 1,keep 6,mid 0,test last,find 2,fst,minus 11 4,hue,mid 6,neg,shift 15,neg 2,shift 5,cells,rb
mmap,lbinds shoot,comp,power outbox two,link back sole,less 2,dyes 12,upon,shifts 11,joined,lb mmap,rb dots 19,comp
1,self lay,rb subgrid I,seq obj,fork shift 0 ul,mapIt 35,lay 38],
[pieces,index I base,tint,map cells,borders,non,find 2,drop 0 3,lb vmatching 1,lb hmatching 2,keep 2 1,keep 3 1,amin 1
top,amax 2 top,amin 2 west,amax 3 west,fill I six 9,fill 0 two 4,fill 0 one 4,fill 0 four 4,fill 0 three 4],
upright [wd,quot 0 three,downscale 2,objs 0 T F F,valmax 0 size,is one,equal 1 four,equal 2 five,alt 2 two one,alt 2
three,alt 2 six,bare 0 unit],
[motes,fst,window,hcat 0],
[tup right down,tup down left,tup,tup left up,tup up right,tup 1,join 3,ht I,tup 0 one,bare three,hcat 0 I,ht 0,wd
1,pred,jvec,identity down,line base 1,fill 6 three,identity 5,identity 7,identity 8,identity F,identity zero,firstOf
fst,firsts last,firstOf fst,seq last last,firsts fst fst,firsts last last,firsts fst last,seq last fst last,comp pred
6,comp pred 5,fork tup,comp pred 7,fork mult 5,fork add 7,comp pred 9,fork mult 8,fork add 10,fork tup 0 3,lb find
34,heads,upon 13,seq last 2,ofHead last,dyes three,comp pred 19,fork mult 18,fork add 20,links 21,comp 4,fork lay 6,comp
pred 26,fork mult 23,non 24,comp pred 31,fork mult,fork add 3,power fst three,seq flip pos,fork tup 2 27,non 31,fork tup
18,fork tup 2 11,fork tup 1 24,fork tup,rb alt,rb 0 id,link sole 8,each,firstOf 0,mult ten three,power,tup 55 54,tup 59
53,tup 61 53,tup 56 2,tup 2 1,tup 1 61,tup 0 1,onIt 7,fst,last 0,dm,dims,add 0 up,crop 2 down,dm],
[compress I,least,most 1,lines,hlines,size,succ,keep 3 vline,size,succ 0,ht I,pred 4,diff,quot 0 6,wd I,pred 5,diff,quot
0 7,tup 4,bare zero,plot,tup 14 11,bare zero,plot,tup 10 6,succ,scale,atop 3,lifts,shifts 8,comp,atop 3,tally
30,valmax,tally 32,test 0 1,mkeep 4,swap I 35 34,fill 0 36 1],
[blobs,prod 0,fork hmatching fst last,fork vmatching fst last,any,keep 3,bg,lifts,comp delta flat,seq pal,sole
3,test,keep 6,dims I,diff 0 (vec 2 0),crop I down,ncol,equal one,alt 0 vline hline,ofHead mid,ofLast mid,fork add,comp
halve,ofHead hue,ofLast hue,links 5 2,fork drop 3,dyed 3,links 7 5,fork drop 6,dyed 5,dyes five,seq 0 sole 9,joined 5
2,joined 0 1,atop 22,mkeep 0 17,lay I,flat 37,lay],
tiledPlane,
[tiles,extent,amax,drop 0 2,amin 0 size,largest 1,hmatching,alt 0 vm hm,use 0 [2],alt 2 west top,alt 3 jvec ivec,use 1
[6],use 2 [6],more 1,double,pred,onIt 5,dims 11,mult,shift 10,fill I three 17,lay 0 1],
[trim I,most,single 0,lb (fn .repeat) three,ofSize,test dedupe 2,rb alt id,rb 0 2,upon 2,alone,each,firstOf,atop 11,dm
12,map 2,dm,dots 3 three,dots 1 three,join,nudge,fill I three],
[tiles,alike back,keep,largest,hue,hues,drop,counts I,amin,cells 5,map fst,cells 7,map last,among 2,ofHead,among
2,ofLast,any 2,spots 9,keep 0 1,rb gravitate 16,upon sole,self add,links id,mapIt 4,fill I 16],
[lines,mkeep 0 hline,mkeep 1 vline,top 1,west 1,tup,add 0 upLeft,top 5,east 5,tup,add 0 upRight,low 9,west 9,tup,add 0
downLeft,low 13,east 13,tup,add 0 unit,sole base,.insert 13,wd I,pred,jvec,sole,.insert 14,ht I,pred,ivec,sole,.insert
15,dims I,pred,sole,.insert 15,tup 14 9,tup 5 1,join 1,lifts,upon back,atop 2,isOne ncol,keep,map hue,modal,sole,test
pal,non,find 7,window],
[spots two,vline,turn,onGrid,dots 0 three,dots 1 two,mid 1,hray,mid 2,hray,bg,hues,drop three,drop two,other 0 3,swap 11
three 4,minus 8 11,underfill 1 three,swap 14 two 7,minus 9 13,underfill 1 two,objs 3 T F F,tint 0 three,rb adjacent
18,keep,objs 4 T F F,tint 0 two,rb adjacent 21,keep,mmap cells 4,rb equal 15,lb index 27,comp,adds left,comp,adds
right,comp 3,any 2,adds up,comp 6,adds down,comp 8,any 2,keep 13 5,mmap cells 15,keep 0 2,links fst last,prod 3 1,comp
vline 1,rb toobject 45,link ncol 3,isOne,also 3,find 5,onIt 7,mid 50,mid 50,any hline vline,lb line 2,corners
4,map,mkeep 0 3,lb line 5,corners 8,map,mkeep 0 7,join 4,join 12,fill 64 three,fill 0 two 63,onIt 67],
[hsplit I three,fst]]

def task3428a4f5 : Verifier :=
  halving [palette 1, other 0 zero, palette 2, other 0 zero, shape 5, canvas zero, ofcolor 7 4, ofcolor 7 3, combine,
    intersection 2 1, difference, fill 5 three]

def id3 : List Verifier := [
[rarest,spots,fst,nbrs,bg,dims I,bare,sole 4,fill 1 7,fill 0 two 5],
[lumps,amax 0 ncol,drop 0 1,norm 1,map ul 1,shifts 1,mapIt,lay I,cover 0 6],
[tiles,extent,amin,delta,fill I three],
[places,box,lift,most,tiles,extent,same size,find 2,hue,hues,drop 6,other 0 2,spots,vm,hm 1,cells 7,join 0 3,ht
0,halve,succ,wd 3,halve,succ,tup 3,peak,neg,succ 1,span 1 0 one,prod 0,sole 14,.insert 16,prod 2,spots 28,rb meet,fork
shift last fst,seq size,isZero,keep 5,rb meet 25,fork shift last fst,seq size,amax 3,fst,last 1,fill I 40 36,shift 1
2,fill 1 34],
task3428a4f5,
[bg,pieces,sized 0 one,totuple,map hue,modal 0,hues,drop,other 0 7,swap I 3 8,spots 4,single 2,rb equal,fst
I,dedupe,onIt 2,last I,dedupe,onIt 5,dm I,fst 0,dedupe,onIt 9,dm I,last,dedupe 0,onIt 13,map last 16,map fst 17,either
13 10,alt 0 2 1,alt 1 lb rb,lb 0 tup,alt 3 ht wd,onGrid,pred 0,either 20 13,alt 0 zero 1,onIt 5,atop 8,fill 30 34],
[after flip,heads,comp,before obj,rbinds keep,link 1 2,moves base,upon dm,moves (vec 2 2),upon cm,moves (vec 2 0),upon
hm,moves (vec 0 2),upon vm,lb fork lay,lb 0 id,after 8,link 1 11,after 8,link 3 13,after 8,link 5 15,after 8,link 7
17,calls I,firsts 0 sole,fork comp 2 4,fork comp 7 9,fork comp,comp 3,hues,same id dm,upon 2,amax 2,onIt 4],
[lines,flat,bg,fill I 0 1,objs 0 F F T,largest,drop 0 1,map mid,norm 2,dims 3,halve,neg,shift 3,shifts,mapIt 6,lay I],
[clumps,largest,drop 0 1,flat,pal,single identity,tup cm dm,tup vm hm,join,join 3,fork comp fst last,prod 1 1,map
1,among 8,ofHead,sieve,lb seq ul,lb 0 1,lb fork shift,slides,lb occ I,calls 19,firsts 0 sole,after neg,upon 6,after
9,fork 7 0 1,comp 4,calls 26,firsts 0 sole,calls 28,alone 13,firsts 1,comp neg,fork shift 4,comp 15,comp 15 8,fork
mmap,rb tup,comp last,rb tup 27,comp last,fork mmap 2,self lay,among 39,ofHead,keep 44,size,is zero,alt 0 id 5,onGrid],
[rarest,spots,fork diff fst last,fork mult sign id,upon,lb more three,seq 0 peak 1,lbinds tup,rb seq,after 2,rb,lbinds
keep,comp,lb mmap back,fork map 1 id,comp,power 0 two,use 0 [15],fill I four,fill 0 18 17],
[fst I,dedupe,size,equal one,turn,onGrid,fst,fst,fst 2,test id 1,keep 1,size,last 6,keep 0 3,size,more 3,alt 0 hm id,use
0 [11],partition,test hue 11,find 1,drop 0 2,amin 0 top,other,hue 1,hue 1,fill 8 two 5,fill 0 one 3,fill 0 zero 5,rb
order id,dm 1,map,dm,onIt 16,onIt 29,dots 0 two,fill 1 28,dots 2 one,fill 1 12,dots 4 zero,fill 1 15],
[motes,totuple,map norm,modal,bg,dims 1,bare,lay 0 3],
[compress I,objs 0 F F T,amax 0 ncol,drop 0 1,flat 0,size,pos,tup hue 2,tup least 5,alt,alone fst,fork rapply 0
last,firstOf 0,use 0 [3],norm 11,headIs 1,keep,ul 0,neg,shift 4,shifts,objs 20 T F T,tint 0 8,map ul,mmap 3,lay 24,ht
25,lines,hlines,size,succ 0,quot 4,wd 31,lines,keep 0 vline,size 0,succ,quot 4,scale,rb quot 1,comp,same 0
id,ofHead,scale 11,rb quot 12,comp,same 0 id,ofHead 0,lb span zero,rb 0 one,ofSize,fork pair 0 id,maps last,sieve
10,link 1 2,ofLast,ht 30,upTo 0 one,pair 0 32,keep 0 11,map 4,succ 23,hupscale,succ 31,vupscale,lines,flat,lay 2,dims
I,crop 1 base],
[blobs,mmap corners,underfill I one],
[twin dm,tup cm hm,join,seq low flat figs,calls I,after 1,alone,firsts 2,isZero 0,find 6,onGrid,objs 0 T F T,ht 1,upTo 0
two,ht 3,span one 0 two,rb map 2,rbinds tup,link 1 last,rb map 3,rbinds tup,ofLast succ,seq,rb map 7,rbinds tup,ofLast
pred,seq,joined 8 4,joined 0 1,upon mid,dyed hue,mapIt 19,lay 21,onIt 23],
[vm I,hcat I,hm,vcat],
poses [rarest,single 0,calls I,seq 0 sole fst,firstOf,seq dedupe fst,test 0 4,find 7,fst,last 1,use 1 [I],dots 0 10,ht
0,upTo 0 one,lb tup 1,atop,shots down,mapIt,fill 7 four,tup 6 6,bare zero,plot 0,shift 0 2,dims I,peak,shifts 2,upTo 1
13,pair 0,mmap 2,fill 10 two,onIt 20],
[tiles,extent,same size,non,find 3,drop 0 4,non even,rb seq fst,rb seq last,rbinds diff,lb 2 3,lb 2 4,seq 1 2 top,seq 1
3 west,lb fork both,fork 0 2 1,fork keep cells,mapIt 11,hue 13,fill I 0 1],
[lumps,before last,rbinds isIn,link 1 box,self keep,comp hue,fork other pal,seq pred pred ht,seq pred pred wd,comp ivec
1,fork shift cells,seq ivec neg 3,fork shift cells,comp jvec 4,fork shift cells,seq jvec neg 6,fork shift cells,joined 6
4,joined 3 1,joined,joined back,less 0 box,dyed 16,dyed 16 box,joined,mapIt 24,lay I],
[rot180 I],
[places,corners,mmap dnbrs,lift,most,hues,drop,order 0 id,fst,last 1,spots 1,spots 1,switch I 2 3,join 2 1,subgrid 0
1,trim],
[spots three,spots two,headIs three,headIs two,rb objs T,rb 0 T,rb 0 F,has three,upon pal,has two,upon pal,sieve 2,upon
5,sieve 2,upon 7,rb amax ncol,link norm 3,rb amax ncol,upon 3,seq norm vm,sieve 17,link ul 4,sieve 18,link ul 3,sieve
20,link mid 6,slides,upon 10,slides,upon 9,rb map 29,lbinds add,comp neg 10,seq,rb drop 32,upon 9,lbinds add,seq 0 neg
13,fork map 0 2,fork mmap 11 5,fork mmap 10 1,self lay 1,self lay 1,size 42,pos 0,size 43,pos,alt 2 5 id,alt 1 5
id,comp,onGrid],
[isZero id,sieve,sizes,atop I,peak,dm I,map 3,peak,succ,span two 0 one,succ 5,span two 0 one,prod 2,fork mult fst
last,atop,filters 2,lb test 2,comp 1,atop 3,lb occ I,dyes zero,lb bare neg1,comp plot,seq 3 2,lb mmap,seq pos size,keep
7,ofHead 13,rb amax,dyes zero,lb bare neg1,seq 1 plot,slides,lb occ I,fork mmap,upon 3,size 9,pos,dyes six,lb mmap
3,link 1 11,less id id,alt 4,use 0 [16],lay I],
[partition I,objs I T F F,comp double ht,fork equal 0 size,comp double wd,fork equal 0 size,fork either 2,rb equal
two,tinted 6,rb keep vline,rb keep hline,seq 1 2 hue,seq 4 size,seq 2 4 hue,seq 6 size,fork either 2,fork both 9,find
16,hue,tint 17,fst,vline,ul 4,lr 5,alt 2 up left,add 2,alt 4 down right,add 3,sole,.insert 3,window]]

end PuzzlePrograms.Verifier.Tasks
