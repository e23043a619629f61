import PuzzlePrograms.Verifier.Words

/-!
# Verifiers of the tasks whose identifier starts with 8 to b, in order of the identifiers
-/

namespace PuzzlePrograms.Verifier.Tasks

open Primitive Step Operand

def task8be77c9e : Verifier :=
  [hmirror I, vconcat I]

def task8d5021e8 : Verifier :=
  [vmirror I, hconcat 0 I, hmirror, vconcat 1, vconcat 0 2, hmirror]

def id8 : List Verifier := [
[tiles,extent,amin,hue,hues,other 0 1,window 3,self mult id,wd 1,test,self mult id,ht 4,test 1,wd 6,from1,find 0 5,ht
9,from1,find 0 5,wd 12,upTo 0 one,ht 14,upTo 0 one,scale 7,rb quot 8,comp 1,same id,ofLast,scale 9,rb quot 10,comp,same
id,ofLast,maps fst,sieve 6,rb pair 14,seq,pair 30 14,keep 0 5,map fst,map 3,dims,mult 0,bare 37,dots 3 40,scale
3,atop,shifts 2,mapIt,fill 5 45],
[blobs,above two,seq 0 minimum dims,alike box,also,mkeep 4,fill I three],
[lines,hlines,size,pos,alt 0 id dm,onGrid,lines,flat,most,test id,sieve,sizes,amin 6,single 0,obj,pal,totuple,fst,last
1,figs 13,flat,cells,map fst,filters 2,firstOf last,lb test,comp 2,atop 4,shifts 13,seq 0 ivec top,headIs
12,sieve,before last,rbinds isIn,seq cells 2 4,seq,self keep,comp hue,comp 6 8,dyed,fork other pal 2,comp 9 11,less
12,dyed 2,joined 4,mapIt 17,lay 40,onIt 42],
[index I base,pieces,extent,same size,seq pos pred size,tint 3 4,also 2 1,keep,flat,spots 8,fill I four,fill 0 three 2],
[tiles,amin 0 size,cover I,shift 1 down,lay,west 3,wd I,span 1 0 two,west 6,span 0 neg1 neg2,join 2,shots up,top 10,lb
tup,atop 3,mmap 3,fill 11 four],
[shapes,amin 0 size,hue,west 1,wd I,span 1 0 two,map jvec,mmap vray,fill I 5,succ 5,wd I,span 1 0 four,add 8 three,wd
I,span 1 0 four,map jvec 3,ht I,pred,lb tup,atop 4,join 4,fill 12 five],
[tiles,same corners cells,find,window,back 1,cover I,frontiers 2,hlines,size,pos 0,turn,use 0 [7],use 1 [6],figs,flat
0,norm,most 3,hue 14,pal 6,drop 1,drop 3,fst,last 1,dots 11,west 0,dots 13 3,west,more 2,dots 15 5,west 0,dots 17
8,west,more 2,equal 5,alt 0 id vm,use 0 [19],nudge,lay 25,onIt 27],
[lb more three,seq 0 size dedupe,atop I,isIn F,flip,alt 0 id dm,onGrid,lifts,link pal nbrs,lb seq flip,rb 0 1,lbinds
isIn,comp,tones,fork keep 0 1,sizes,hues,amax 0 1,objs 11 T T F,tint 0 1,minus,rb subgrid 14,order 1 top,map,dyes 6,lb
mmap vray,rb dots 8,seq,self lay,mapIt 5,onIt 24],
[places,box,dims I,minimum,halve,from1,lb power inbox,calls 5,alone 1,firsts,atop 4,single 9,join 0 1,lifts,comp
hue,atop 2,upTo 11 one,pair 0 1,ofHead neg,order,map last,mpapply dye 0 8,lay I],
[pieces,keep 0 square,comp even ht,keep,minus 2,flat 1,flat 1,fill I two 1,fill 0 seven 1],
[pieces,largest,hue,window 1,lb insert down,comp lr plot,seq 1 sole,fork subgrid 0 id,test id 5,rb diff two,sieve 1,comp
1 wd,seq size 1 fst,fork more 1,rb alt id,rb 0 7,link sole 2,each,firstOf,upon rot90,double eight,double,power 2,use 0
[19],least,dots,joined vray hray,mapIt,fill 4 3],
[lumps,largest,norm,dims 1,halve,neg,shift 3,sized 6 one,map mid,shifts 2,mapIt,lay I],
[lefthalf I,righthalf I,tophalf 1,tophalf 1,bottomhalf 3,bottomhalf 3,tup 3 2,tup 2 1,join,leastcommon],
[above two,seq 0 minimum dims,pieces,keep 0 1,alike box,keep,totuple,map hue,leastcommon,spots,inbox,dye zero,occ I,norm
3,shift 0 upLeft,shifts,mapIt 3,fill I 8],
[tiles,alike corners,keep,largest,shapes,flat,back 2,lift 0,minus 2,bg,inbox 6,back,lift,headIs 3,non 0,keep 2,window
7,pal 1,order 0 id,counts 3,atop,counts 12,atop 3,pair 2,fork quot fst last,atop,modal,counts 11,counts 19,fork
quot,test 0 3,pal 22,keep 0 1,among,ofHead,keep 19,keep 27 1,ht 1,ht 1,quot,wd 4,wd 4,quot 1,vupscale 26 3,hupscale 0
1,obj,headIs 36,non,keep 2,ul 33,keep 1 15,ul,diff 2,shift 4,lay I,subgrid 51],
task8be77c9e,
task8d5021e8,
[lines,totuple,map hue,leastcommon,lines,tint 0 1,size,pos,turn,spots 5,spots two,spots one,rb gravitate 2,upon
sole,self add,links id,dims I,peak,mults,lb gravitate 9,seq 1 sign,upon sole,self add,links id,mmap 8 13,mmap 1 13,fill
I two 1,fill 0 one 1],
[tiles,isOne ht,isOne wd,any,keep 3,isOne ht,keep,size,isOne wd,keep 4,size,more 3,turn,alt 1 top west,order 9,map
hue,size 11,call .repeat [1,0],onIt 5],
[portrait I,alt 0 id rot90,alt 1 id rot270,use 1 [I],wd,ivec 0,index 2,dims 3,bare,hcat 5,objs 0 F T T,amax 0
ncol,subgrid 0 8,from1 four,lb power rot90,lb power rot270,calls 3,alone 2,firsts,calls 6,alone 4,firsts,comp obj 3,top
11,lb add,ht 13,succ 0,mults,seq ivec 3,fork shift 6,comp obj 8,top 19,lb diff,ht 21,succ,mults,seq ivec 3,fork shift
6,joined 8,mapIt 25,lay 36,onIt 38],
[shapes,flat,ht,ht I,upTo 0 1,shifts 3,upon ivec,upon neg,joined,mapIt 4,lay I],
[pieces,extent,amax,drop 0 2,lb seq pos,lb 0 size,before back,lbinds meet,seq,seq 0 back outbox,filters 6,upon,seq pos
size,keep 9,comp flat 2,atop,rb subgrid I,atop,flat 2,pal,counts 1,amin,tally,amax 5],
[figs I,flat,norm,most I,dims 1,mult 0,bare 2,dims 4,rb mult,cells 6,map,lb shift 8,mapIt,lay 6]]

def id9 : List Verifier := [
[isZero id,non,sieve,seq pos size,sieve,comp dm,power 0 four,onGrid,dedupe,dm,dedupe,dm],
[rarest,spots,map fst,places,map fst,minus 0 2,spots 5,rb span one,rbinds isIn,filters 3,rb test zero,seq size 1
2,filters 5,after 1,seq 1 3,lb fork 7,comp succ minimum,lbinds tup,lb seq 1,rb 0 fst,seq 0 2 fst,lb seq peak,rb 0
fst,seq 0 5 fst,fork 8 3,comp 10,map ivec 23,map 1,amax 0 wd,drop 0 1,ul 1,neg,shift 3,places,mid,neg,shift 2,wd
I,double,jvec,rb map 3,rbinds add,link 1 mid,ofSize pos,after size,shifts 12,before 0,rbinds meet,comp,after 5,upon,fork
keep 8,comp 7 3,fork valmax,comp 9 5,fork test 0 1,fork keep 4,shifts 24,lb insert 18,rbinds more,upon east,comp west
2,before 4,rbinds minus,comp 1,after 3,upon,fork comp 6,fork amax 11,shifts 36,upon,less 0 id,mapIt 42,fill I one],
[tones,lb mmap nbrs,seq 0 1 last,dyed fst,tup six three,tup four eight,tup one two,sole 2,.insert 2,.insert 2,mmap 6,lay
I],
[hues,other 0 zero,colorcount I,colorcount I zero,dm I,call .repeat [0,2],dm I,dims,bare zero,mult 5 5,diff 0 7,call
.repeat [2,0],join 6,flat,dm,hsplit 0 11,flat],
[dims I,places,blobs,largest,most,bg,bare 0 5,lay 0 3,bg,hue 5,tup 1 base,tup 1 right,tup 3 (vec 0 2),sole,.insert
2,.insert 4,dm,cells 1,shifts,occ 11 3,mmap,cells 4,shifts,occ 15 6,mmap,join 4,fill 18 17],
[upscale I three],
[rarest,spots,rarest,hues,drop,bg,other,inbox 5,fill I],
[lumps,map cells,lb index I,upon lr,tup neg2 neg2,moves,dyed 2,comp 4 ul,moves (vec 2 2),dyed,comp 7 ll,tup neg2
two,moves,dyed 2,comp 11 ur,tup two neg2,moves,dyed 2,joined 11 8,joined 5 1,joined,mapIt 19,lay I],
[places,corners,lift,most,parts T T F,tint 0 1,fork add west top,amin,amax 2 1,filters 3,before west,seq size,filters
6,before top,seq size,lbinds more,link 4 west,rbinds more,link 6 west,lbinds more,link 5 top,rbinds more,link 7 top,same
6 4,same 3 1,also,find 20,fill I one 19,fill 0 three 19,fill 0 two 2],
[tup vsplit hsplit,rb rb two,calls I,sole 1,lb rapply,firsts 2,maps ncol,upon,test 0 (vec 2 2),find 8,use 0 [I,int
2],fst,last 1,pal 1,pal 1,meet 1,fst,dims 5,bare,dots 7 2,dots 7 3,meet,fill 3 two],
[shapes,flat,inbox,cover I,ul 1,index I,lr 4,add unit,sole,fill 5 3,lr 7,index I,ul 10,add upLeft,sole,fill 5 3,ur
13,index I,ll 16,add downLeft,sole,fill 5 3,ll 19,index I,ur 22,add upRight,sole,fill 5 3],
[dims I,tiles,largest,bare five 2,lay 0 1],
[blobs,map ul,map ur 1,map ll 2,map lr 3,shift 3 upLeft,shift 3 upRight,shift 3 downLeft,shift 3 unit,fill I one 3,fill
0 two 3,fill 0 three 3,fill 0 four 3],
[wd I,whole,hperiod,ht 1,tup 0 1,ul 3,crop I 0 1,rot90,double 7,quot 0 6,succ,call .repeat [3,0],flat,rot270,tup 10
5,crop 1 base],
[bg,whole,headIs 1,non,keep 2,map sole,map cells,shots right,upon mid,dyed hue,mapIt 4,lay I,wd I,upTo 0 one,map
double,map succ,map jvec,prapply shift 10,flat,fill 7 five],
[lumps,extent,same size,test ncol two,also,keep 4,minus 5,flat,hue,bg,window 2,tup hm vm,tup cm dm,join,twin rot180,tup
rot90 rot270,join 1,join 0 3,lb bare neg1,upon dims,fork lay 0 norm,rb other 12,upon pal,lb occ 12,seq pos size,upon
obj,rb swap 17,rb swap 17,rb 0 19,upon 8,fork 3 0 7,rb seq sole,ofHead 6,lb,rbinds rapply,link 1 4,lb occ 25,firsts 0
obj,lb amax 20,upon 3,alone,fork rapply 0 20,firstOf,alone 3,fork rapply 0 13,firstOf,comp obj 3,comp 9 1,fork
shift,mapIt 43,lay 39],
[places,box,lift,most,dims I,add two,bare 2,whole,nudge,lay 2,pal,drop 7,lb dots 2,dyed id,atop 2,alike back,find,other
2,hue,tup 0 right,sole (vec 0 2),.insert base,dye 18,.insert 3,dm 0,shifts 1,occ 16 2,mmap,shifts 3,occ 19 4,mmap,join
3,fill 22 28,dots 0 14,gravitate 0 17,swap 25 16 31,shift 2 1,fill 1 18,trim],
[wd I,succ,quot 0 five,tup four four,bare neg1,plot,lifts,shifts 1,comp,mult 6 five,upTo 0 five,map jvec,map 3,isOne
ncol,same id hm,non,lb index I,upon ul,lb add down,link 2 ul,same 2,non,any 8 6,any 0 1,non 0,mults two,upon 12,mults
four,upon 12,fork add 2,mults three,upon 9,mults eight,upon 8,fork add 2,fork add 5,atop 23,rb (fn .repeat) 34,atop],
[lines,keep 0 vline,size,pos,alt 0 hsplit vsplit,use 0 [I,int 2],fst,last 1,pal 1,pal 1,meet,fst,dims 5,bare,dots 7
2,dots 7 3,join,meet 2 1,minus 1,fill 5 three],
[dims I,blobs,shots right,upon mid,dyed hue,mapIt 3,lay I,add 6 downLeft,sole,bg,dye 0 1,objs 4 T F T,.insert 1,order 0
top,fst,drop 4 1,drop 1 2,ofHead lr,ofLast lr,links,ofHead hue,dyed 0 1,pair 6 5,mmap,underpaint 17],
[pieces,extent,same size,keep 2,bg,tint,largest,outbox,back 0,window,cover I 1,figs,flat 0,norm,nudge,lay 5,cells 1,figs
7,rb drop,lbinds dist,upon sole,lb fork more,filters 5,before 2,lbinds valmin,link 1 6,before sole,rbinds dist,comp,fork
7 3,comp 7,dyed hue,mapIt 14,lay 17],
[tiles,order 0 size,valmax 1 size,rb tup one,lb diff 1,ofSize 1,seq 2 1 size,fork bare hue 1,lb bare zero,upon 2,fork
vcat 2,comp cm,atop 10,flat,cm],
[hm I,figs,flat,vm I,figs,flat,hm I,vm,figs,flat,bg,join 8 5,join 0 2,lay I,ofHead succ,fork more last,jvec
neg2,moves,upon vm,sieve 3,upon plot,comp 2,fork meet,shots right,ofLast 0,headIs 14,non,sieve,comp double halve,same 0
id,link flip last,lb fork both,rb 0 1,lb fork dye,lb 0 fst,before 10,rbinds isIn,rbinds keep,seq 3 2,seq 0 6 2,fork
toobject 17 id,comp 13,comp 2 19,fork mmap 0 1,self lay,comp rot90,power 0 four,use 0 [33]],
[dims I,pred,line base,ht I,pred,ivec 0,wd I,pred,jvec,line 3,ht I,halve 0,ivec,wd I,pred,tup 3,line 3,wd
I,halve,jvec,ht I,pred,tup 0 3,line 3,tup 21 dm,tup 15 cm,tup,tup 3 vm,tup 11 hm,tup,join 3,counts I,lifts,ofHead 0,seq
2 hue,sizes fst,same,lifts,link ncol fst,isOne,also 0 3,find 10,last,onGrid],
[spots zero,tally zero,lb toobject 1,comp,vm I,hm I,tup,amin 0 3,subgrid 7],
[pieces,tint 0 zero,spots one,rb adjacent,mkeep 2,dye one,lay I],
[frontiers I,flat,hue,dims I,bare,hcat I,objs 0 T F T,map top,order 0 id,filters 2,lb test top,comp,maps hue,rb order
west,link 1 2,atop 6,vm]]

def idA : List Verifier := [
[shapes,flat,alike corners,extent,keep 3 1,amax 0 1,minus 4,bg,fill I 0 1,norm 2,ul 4,succ,shift 2,lay 4],
[spots two,spots three,top 1,west 2,top 2,west 3,tup 3 1,minimum,peak 1,tup 1 3,tup 1 4,line,tup 8 6,minimum,peak 1,tup
12 1,tup 13 1,line,join 6,underfill I eight],
[blobs,valmax 0 size,sized,order 0 west,map hue,tup one 3,rb bare,atop 2,flat,dm],
mosaic [],
[hcat I I],
[shapes,alike back,keep,largest,other 3,hue,cells 1,outbox 3,lb amin,lbinds dist,before sole,link 2 1,upon sole,atop
6,cover I 9,fill 0 9 1],
[pieces,borders,non,keep 2,totuple,map hue,modal,bg,tint 7,borders,non,mkeep 2,fill I one],
[rarest,spots,comp succ double,shoot base unit,map,order 0 id,has zero,keep 5,shifts 2,mapIt,fill I four],
[shapes,covers lr,non,find 2,covers ll,non 0,find 5,covers ur,non,find 8,covers ul,non,find 11,ht 9,ht 4,add 1,wd 12,wd
10,add,tup 3,bg,bare 0 1,norm 18,lay,norm 17,wd 18,diff 7,jvec,shift 3,lay 5,norm 20,ht 21,diff 16,ivec,shift 3,lay
5,norm 23,dims 24,diff 18,shift 2,lay 4],
[blobs,largest,amin 1 size,flat 2,cover I,fill 0 one 3,fill 0 two 3],
[bg,dims I,add two,bare 2,whole,nudge,lay 2,double six,tup one,line unit,outbox,back,dye 11,dye three 3,shifts,lb
mmap,rb occ 3,comp,self lay,use 0 [12],dots 0 three,dm 14,onIt 3,dm,dots 0 three,join 4,fill 19 three,tup two one,dnbrs
unit,drop,dye 29,sole unit,dye three,join 2,dye 33,tup one three,sole,.insert (vec 0 2),.insert right,.insert down,dye
39,tup one two,sole,.insert unit,dye three,join 4,dye 45,shifts 12,lb mmap,rb occ 15,comp,self lay,shifts 5,lb mmap,rb
occ 8,comp,self lay,comp 5,comp rot90,power 0 four,power 0 two,plot 34,box,fill 36 three,onIt 3,trim],
turns [rarest,rb dots,calls I,firsts 0 sole,seq hline 2,rb dots 4,calls I,firsts 0 sole,seq west 2,isZero,also
5,ofHead,find 12,fst 0,last 1,use 1 [I],dots 0 15,amax 0 last,add 0 upRight,shoot 0 upRight,add 2 downLeft,shoot 0
downLeft,shots left,mapIt 3,shots left,mapIt 3,wd 10,neg 0,jvec,shift 5,join 6,fill 15 three,shift 6 3,join 7,fill 2
one,onIt 20],
[tophalf I,lefthalf,tophalf I,righthalf,bottomhalf I,lefthalf,bottomhalf I,righthalf,pal 6,pal 5,meet,pal 5,pal
4,meet,meet 3,fst,dims I,halve,bare 2,headIs 3,non,sieve,upon obj,use 0 [21],use 1 [20],use 2 [19],use 3 [18],lay 8,lay
0 2,lay 0 4,lay 0 6],
[rarest,ht I,vsplit I,dyes two,rb dots 3,seq 1 delta,self lay,atop 4,flat],
[shapes,flat,window,bg,swap 1 0 zero],
[bg,parts T T F,links ul lr,alike,keep 2,size,pos,alt 0 id hm,onGrid,objs 0 T F T,non 6,keep,shots unit,shots
upLeft,joined,rb alt ll,rb 0 ur,rb alt downLeft,rb 0 upRight,rb alt right,rb 0 down,covers ur,lb index 13,comp 2 1,fork
add ul,comp 2,seq sole 9 4,each,firstOf 0,comp 10 7,fork add,comp 16,dyed 6,mapIt 21,flat 22,cover 26,lay 0 2,onIt 29],
[shapes,flat,bg,fill I 0 1,shift 2 down,fill 1 two],
[rarest,ht I,vsplit I,rb dots 2,comp west,wd I,quot 0 three,mult 0 two,lb more 1,upon 4,lb more 2,upon 6,non 2,also,any
4,non,scale two,upon 7,scale four,upon 5,scale three,upon 5,fork add 4 2,fork add 0 1,wd I,rb (fn .repeat),upon 2,atop
24],
[ht I,halve,succ,span three 0 one,wd I,halve 0,succ,span three 0 one,hues,maps cells,upon partition,before pal,lbinds
isIn,comp,lb seq size,rb 0 1,lbinds keep,comp 1,ofSize pos,filters 10,fork test 2 size,seq,maps dims,seq size
dedupe,isOne,maps 14,seq size dedupe,test 0 two,sizes dedupe,same size,fork add 8 5,fork add 3 1,fork add,mult ten
ten,mults,upon 2,fork add 0 size,lb vsplit I,atop 34,lb hsplit I,atop 32,join 2,amax 0 5,map 32,modal,test 34,amin 3],
[pieces,bg,hues,drop,counts I,amax,tup 4,among,link flip hue,keep 8,links ul ur,links ul ll,joined,alike,links ur
ul,links ur lr,joined 1,alike,links ll ul,links ll lr,joined,alike,links lr ll,links lr ur,joined,alike,covers
lr,non,covers ll,non 0,covers ur,non,covers ul,non,also 6 4,also 3 1,also 4 8,also 3 7,heads,upon low,fork keep
cells,sizes,isOne,heads,upon top,fork keep cells,sizes,isOne,lb test last,upon east,fork keep cells,sizes,isOne,lb test
last,upon west,fork keep cells,sizes,isOne,also 23 15,also 23 11,also 23 7,also 23 3,links ul ur,less 0
cells,sizes,isZero,links ll lr,less 0 cells,sizes 0,isZero,links ul ll,less 0 cells,sizes,isZero 0,links ur lr,less 0
cells,sizes,isZero,also 12 19,also 9 19,also 6 19,also 3 19,amax 72 68,amax 73 65,amax 74 62,amax 75 59,amax 76 7,amax
77 7,amax 78 7,amax 79 7,ht 7,ht 6,add 1,ht 4,add 0 two,add 2,wd 13,wd 13,add,wd 12,add 0 two,add 2,ul 19,succ,index
I,tup 9 3,bare,norm 24,lay,norm 25,wd 26,diff 9,jvec 0,shift 3,lay 5,norm 30,ht 31,diff 21,ivec,shift 3,lay 5,norm 35,ht
36,diff 27,wd 38,diff 23,tup 2,shift 5,lay 7,norm 40,ht 47,succ,ivec 0,shift 3,lay 5,norm 48,wd 53,succ 0,jvec,shift
3,lay 5,norm 51,ht 58,succ,wd 54,diff 43,tup 2,shift 5,lay 7,norm 61,ht 62,diff 55,wd 67,succ,tup 2,shift 5,lay 7],
[sole base,dye zero,upscale 0 two,occ I,shifts 1,mapIt,fill I two],
[rarest,spots,shift 0 upLeft,dye three,shift 2 unit,dye seven,shift 4 downLeft,dye eight,shift 6 upRight,dye six,bg,fill
I 0 9,join 8 6,join 5 3,join,lay 3],
[extent,tones,hues,comp 2 1,amax,rarest,hues,drop 2,other 0 2,swap I 3 4,swap 0 1 4],
[shapes,flat,delta,fill I four,delta 2,box 3,meet,top,top 6,equal,west 3,west 9,equal,low 6,low 12,equal,east 9,east
15,equal,ur 12,ul 13,ll 14,lr 15,alt 7,alt 11 3,alt 15 5,alt 10 3 6,alt 14 5,alt 18 7,alt 13 downLeft unit,alt 17
upLeft,alt 21 upRight,alt 16 unit upRight,alt 20 downLeft,alt 24 upLeft,alt 19 down right,alt 23 left,alt 27 up,shoot 12
6,shoot 10 4,join,shots 3,mapIt 35,join 0 2,fill 40 four],
[bg,colorcount I,ht I,wd I,mult,diff 0 3,upscale I],
[spots one,mid,spots two,mid,spots three,spots seven,lb add 4,sole 5,rb position,comp neg,link 3 sole,lb add 7,sole 8,rb
position,comp neg,link 3 sole,map 5 10,map 1 12,join 13 12,cover I,fill 0 seven 3,fill 0 three 3],
[places,box,lift,most,lumps,tally one,amax,window],
[dims I,bare zero,hcat I,objs 0 F F T,isZero hue,non,keep 2,sized 0 one,flat,fill I one],
[most I,pal I,drop,span three seven one,prod 0,fork mult fst last,order,lb bare neg1,seq 0 fst fst,seq corners plot,lb
dye 9,comp plot 2,fork minus 0 2,lb dye two,comp inbox 4,seq 1 back,comp 5 3,lb lb join,upon,lb rb dye,upon 10,fork comp
2,lb lb mmap,lb lb shift,link 1 8,lb lb occ,ofLast,fork comp 0 5,fork comp 3,rb mmap 26,upon,fork lay last,ofHead
fst,fork drop 0 fst,fork tup 0 2,size 28,power,tup 30 I,onIt,last]]

def idB : List Verifier := [
[tiles,extent,amax,drop 0 2,amin 0 2,amax 1 3,ul,ll 1,line,ur 3,lr 4,line 1,join 3,cells 7,minus,size,is zero,alt 0 ht
wd,use 0 [12],use 1 [14],diff,pred,hue 17,hue 20,call .repeat [1,2],diff nine 3,call .repeat [2,0],join 2,single
0,hsplit 0 three,upTo three one,pair 0 1,headIs zero,find 1,last,headIs one,find 4,last,headIs two,find 7,last,vm 3,vcat
7,vcat 0 2],
[has two,maps ncol,comp,maps dims,seq size dedupe,isOne 0,ofHead pal,ofLast pal,fork meet,sizes,isOne,has one,comp
minimum dims,maps,seq flip 2,fork add 12 9,fork add 5 1,fork add,vsplit I two,hsplit I two,tup,amax 0 3,amin 0 ncol,amax
1 ncol,pal 1,pal 1,meet,fst 0,plot 5,dots 6 1,minus,obj 7,headIs 4,keep 1,minus 2,dims 12,mult 0,bare 9,shifts 7,mults
3,link 1 last,dyed fst,mapIt 7,lay 5],
[swap I six two],
[motes,filters,lb test norm,upon norm,seq size 2,amin 4,drop 0 5,flat,fill I two 2,fill 0 one 1],
[blobs,sized 0 two,mmap outbox,fill I three],
[pieces,bg,tint,borders,non,mkeep 2,minus 5 3,map cells,rb adjacent 2,mkeep,fill I eight],
[lumps,heads,upon least,self keep,comp mid,comp dnbrs,less 0 cells,firstOf,fork diff 0 3,comp neg,fork shoot 5,fork meet
cells,seq pred size,fork shoot 8 4,lb power outbox,upon 2,alone,fork rapply 0 3,seq back fst,dyed least 5,less 1 6,dyed
most,joined 2,mapIt 22,lay I],
[tiles,alike box,extent,same size,non,also 3,find 5,inbox,back,lift,drop 0 9,drop 4,amin 0 size,join 0 6,back,hue 5,fill
I 0 1,hue 10,box 3,fill],
[rarest,bg,spots 1,swap I 2 1,mmap dnbrs 1,mmap ineighbors 2,fill 2 one 1,fill 0 6 1],
[objs I true false false,fork equal cells back,comp flip,find 2,hue,test hue,comp flip,keep 6,flat,fill I two,mmap box
2,fill 1 four,mmap corners 4,fill 1 one],
[blobs,flat,portrait,alt 0 id dm,onGrid,objs 0 T F T,order 0 top,fst,last 1,hue 1,hue 1,firstOf cells,use 0 [4],use 1
[4],line,centerofmass 0,line 3,fill 12 6 2,fill 0 8 1,add 3 down,sole 4,.insert 1,toobject 0 3,tup zero neg2,shift 1
(vec 0 2),shift 2 1,join,ul,ur 1,line,shift 0 up,ll 4,lr 5,line,shift 0 down,lay 16 8,fill 0 26 5,fill 0 26 2,cover 0
16,onIt 35],
[clumps,nbrs base,lb find,headIs zero,isZero last,rb alt hm,rb 0 id,rb alt vm,rb 0 id,comp 2 5,comp 1 5,fork
comp,heads,upon most,self keep,less id,rbinds mult,seq 0 dims 2,slides,seq 0 back 4,fork comp 0 2,lbinds
isIn,ofLast,before 0,rbinds comp,link 1 4,lb fork dye,lb 0 fst,lb fork shift,lb seq 17,lb 0 27,before 28,upon 14,fork
comp 0 7,comp 3 8,lb seq fst,rbinds rapply,upon 22,after sole,upon 4,fork 4 2,comp 13,fork 13 0 8,fork mmap 0 27,mapIt
43,lay I],
[rarest,hues,drop,counts I,amin,spots 4,spots 1,join,mmap nbrs,minus 0 1,lift,least,spots 11,fst,sole,pieces,tint 0 4,lb
adjacent 9,mkeep 1,cells,rb dist 5,link even sole,keep 2,fill I 18 3,fill 0 23 1],
[swap I four neg1,dm,papply pair,maps peak,atop,cm,papply pair,map 3,hm,papply pair,map 6,vm,papply pair 0 1,map 9],
[rarest,tup dm cm,tup hm id,join,calls I,firsts 0 sole,rb dots 5,link low 1,seq pred ht 2,same,find 6,onGrid,dots 0
11,shift 0 up,ul,ur 1,shoot 1 upLeft,shoot 1 upRight,join,underfill 7 18,onIt 9],
[ncol I,pred,upscale I],
[tiles,extent,amax,drop 0 2,flat,window,most,least 1,switch],
[shapes,alike back,non,find 2,hue,bare 0 unit],
[whole,headIs zero,non,keep 2,scale three,rb quot three,comp,same id,cells 4,ofLast 1,keep,fill I six],
[blobs,totuple,map hue,modal,spots,back,fill I 2],
[pieces,alike back,above one,seq 0 minimum dims,also 2,keep 4,comp back inbox,mapIt,fill I two],
[index I base,wd I,halve,tup 0 1,bare 3,shots unit,ofLast,dyed fst,whole,mmap,lay 5],
[ht I,halve,succ,wd I,halve 0,lines,flat,most,tup 5 3,bare 1,plot,lift,succ 7,jvec,shift 3,lift,pred 13,ivec,shift
7,lift 0,pred 17,succ 16,tup 1,shift 12,lift,hues,other 0 18,headIs,sieve 0,link cells norm,use 0 [18],use 1 [15],use 2
[12],use 3 [8],join 3 2,join 2 1,join,fill 27 10],
[ofSize pos,sieve hline,link 1 frontiers,seq size dedupe fst,seq size dedupe last,fork more,also 3,twin rot90,tup rot180
rot270,join 1,twin rot270,tup rot180 rot90,join,pair 3,calls I,alone fst,firsts,comp 10,find 4,fst,last 1,use 1 [I],fst
0,single 0,dm,wd 3,hupscale,obj 0,ht 6,ht 1,upTo,shifts 3,map ivec 1,mmap,shift 0 (vec 2 0),lay 13,onIt 15],
[pieces,comp peak dims,order,fst,last 1,hue 1,hue 1,equal,join 4 3,single 0,drop 6 7,drop 6,join 2,alt 5 0 10,map
hue,last 1,drop 0 2,single 1,join 0 1,mpapply dye 4,lay I],
[blobs,hlines,keep 1 vline,comp hray mid,dyed hue,mapIt 3,comp vray mid,dyed hue,mapIt 5,join 3,lay I,cells 5,cells
3,meet,fill 3 four],
[pieces,largest,hue,drop 1 2,largest,dims,bare 3,norm 2,lay],
turns [calls I,ofHead sole,firsts,rb dots eight,link low 1,isZero,find 6,fst 0,last 1,use 1 [I],rot180,dims,maps fst,lb
dots 2,seq size,pal I,amax 0 1,partition 6,test hue 1,comp flip,keep 2,ofSize neg,order,map norm,size,span zero 0
one,map ivec,mpapply shift 3,bare 11 16,lay 0 1,onIt 21]]

end PuzzlePrograms.Verifier.Tasks
