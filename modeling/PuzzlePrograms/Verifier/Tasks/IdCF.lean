import PuzzlePrograms.Verifier.Words

/-!
# Verifiers of the tasks whose identifier starts with c to f, in order of the identifiers
-/

namespace PuzzlePrograms.Verifier.Tasks

open Primitive Step Operand

def idC : List Verifier := [
[pieces,bg,tint,sized 0 one,flat,sized 2 four,flat,sized 4 nine,flat,fill I six 4,fill 0 seven 3,fill 0 eight 2],
[lines,flat,fill I two],
[dims I,mult 0,bare zero,bg,spots,mults 4,atop,whole,shifts,mapIt 2,lay 7],
[ht I,vsplit I,map obj,map hperiod,minimum,wd I,hsplit I,map obj,map vperiod,minimum,test hperiod 5,keep 8,mmap pal,test
vperiod 3,keep 6,mmap pal,hues,join 4 1,among,amin 2,whole,headIs 1,non,keep 2,ht I,quot 0 15,succ,wd I,quot 0
23,succ,neg 3,span 0 4 one,neg 2,span 0 3 one,prod 2,tup 25 30,mults,atop 2,shifts 14,mapIt,lay I],
[lines,flat,least,dims I,bare,hcat I,objs 0 F F T,amax 0 ncol,map ul 1,norm 1,shifts,mapIt 2,lay I],
[upscale I two],
[shapes,valmax 0 ht,valmax 1 wd,tup,bg,bare 0 1,plot,map norm 6,box 1,peak 5,double,plot 5,mid 0,sole,lb dist,mults 4,lb
meet 7,seq 1 size,lb fork diff,lb seq 1,lb 0 cells,slides,comp,lb seq 8,alone mid,lb 1,slides,comp,lb amax 21,fork 10 6
1,comp,self shift,mapIt 24,lay 27],
[swap I seven five],
[tiles,has one,link flip dims,keep 2,alike box,keep,extent,amin,window],
[vm I,hcat I],
[twin dm,tup cm vm,join,firstOf dm,seq size dedupe,calls I,firstOf,link 2 sole,amax 5,onGrid,ht,wd 1,dots 2 zero,tup 2
one,crop 4 base,hupscale 0 3,fill 0 zero 3,onIt 8],
[places,box,lift,most,whole,headIs 1,non,keep 2,hperiod,vperiod 1,wd I,wd 3,diff,add 0 two,ht I,ht 7,diff,add 0
two,scale 9,neg 5,span 0 6 one,map 2,scale 12,neg 5,span 0 6 one,map 2,prod 0 4,shifts 19,mapIt,index I base,is
26,flip,places,ur,index I,is 31,flip,places,lr,index I,is 36,flip,places,ll,index I,is 41,flip,mult 15 left,mult 11
up,add 1,mult 8 right,mult 4 down,add,add 3,shift 25,lay I],
[lines,flat,hue,hues,drop,counts I,amax 1,drop 0 2,ht I,succ,lines,hlines,size,succ 0,quot 4,wd I,succ,lines,keep 0
vline,size,succ 0,quot 4,scale 7,rb quot 8,comp,same id,scale 4,rb quot 5,comp,same id,lb fork both,before fst,after
6,rbinds diff,upon top,seq 3 2,before last,after 7,rbinds diff,upon west,seq 3 2,fork 10 5,self keep,links fst
last,maps,tones,fork prod 0,any vline hline,sieve 0,seq 0 4 2,lb mmap 7,upon,dyed id,mapIt 45,lay I],
[spots two,dims I,mult 0,bare zero,scale 2,atop 4,whole,shifts,mapIt 2,lay 5],
[whole,bg,headIs,non,keep 3,map sole,tup one three,size 1,order 2 west,map hue,rb bare unit,atop,flat,dm,diff nine 6,tup
one,bg,bare 0 1,hcat 4,hsplit 0 three,flat,crop 0 base 14,crop 1 down 15,crop 2 (vec 2 0) 16,vm 1,vcat 3,vcat 0 2],
[rarest,spots,map sole,map outbox,mmap back,fill I one],
[lines,hlines,size,pos,alt 0 tophalf lefthalf,alt 1 bottomhalf righthalf,use 1 [I],use 1 [I],pal 1,pal 1,meet,fst,dims
5,bare,pal 7,other 0 3,pal 8,other 0 5,dots 11 2,dots 11 1,join,fill 7 three],
[shapes,borders,find,drop 0 2,totuple 0,fst,last 1,hue 1,bg,dims 3,bare,norm 5,lay 1,upscale 0 two,dims 7,bare 6,norm
9,lay,upscale 0 two,dims 16,bare 11,norm 18,lay,hue 20,swap 1 0 16,obj,occ 12,size,pos 0,downscale 15 two,downscale 11
two,alt],
[blobs,places,outbox,lb adjacent,upon sole,rb find,upon cells,before sole,rbinds dist,link 1 sole,lbinds more,seq 0
halve size,comp 2 5,fork comp,fork keep cells,mapIt 14,fill I eight],
[wd I,succ,quot 0 three,pred,ht I,tup 0 1,crop I base,add 3 one,jvec,crop I 0 3,double 6,add 0 two,jvec,crop I 0 7,pal
7,pal 5,pal 2,meet 2 1,meet 0 1,fst,other 5,other 5 1,other 5 2,bare 3 17,dots 17 3,dots 15 3,dots 12 3,fill 3 4,fill 0
6 2,fill 0 8 4]]

def idD : List Verifier := [
[shapes,flat,shots down,ofLast,dyed fst,mapIt 3,lay I],
[double ten,upTo 0 one,line base down,line base (vec 0 2),join,tup neg2 two,mults,ivec neg2,map 1 6,rb diff (vec 2
0),self dots least,seq 1 mid,rb mmap 3,slides,shifts 9,upon 3,seq 3 2,dyes five,upon,self lay,comp rot180,fork dots 0
least,comp mid,fork diff 0 11,fork shift 7,dyes five,moves 18,link 1 2,fork lay 7,comp rot180,rb dots
five,upon,rarest,spots 0,bg,dims I,bare,lb lay,dyes 5,link 1 sole,comp 8,mapIt 7,fill I five,fill 0 10 9],
[tones,lb mmap nbrs,upon,fork meet 2,sizes 0,hues,isZero 1,keep,totuple,fst 0,last 1,spots 1,mmap nbrs,lift 0,most,spots
4,mmap nbrs,lift,most 0,shots unit,shots upLeft,joined,shots upRight,shots downLeft,joined,joined 3,spots 15,spots
17,join,mmap 3,spots 15,meet 0 1,spots 13,meet 0 3,fill I 24 2,fill 0 24 1],
[blobs,size,tup 0,bg,bare 0 1,shoot base unit,rarest,fill 2 0 1],
[crop I base (vec 2 2)],
[whole,bg,headIs,non,keep 3,map sole,shots unit,upon mid,dyed hue,mapIt 3,dims I,double,bg,bare 0 1,lay 0 4],
[blobs,totuple,map hue,call .repeat [int (-1),int 1],join,mult ten ten,map mid 4,tup 1 1,single 0,join 2,identity
I,places,dims I,peak,halve,add two,from1,comp outbox outbox,lb power,atop 2,lb rapply,link flat sole,joined sole,rbinds
dist,rb seq sole,rb 0 1,rbinds map,maps sole,rb drop 18,seq 3 2 1,seq 0 1 last,filters 19,before sole,after minimum,lb
fork more,comp 1 4,alone last,seq 4 13,fork 3 2,comp 7,ofLast 17,fork meet,dyed fst,pair 38 33,mmap,lay 34],
[bg,headIs,non,wd I,halve,ofLast last,test 0 1,non,whole,also 6 1,keep,fill I 10],
[blobs,test size six,non,mkeep 2 1,mkeep 3 1,fill I two 1,fill 0 one 1],
[shapes,flat,cells,shift 0 down,fill I eight,shift 2 up,fill 1 two,shift 4 right,fill 1 six,shift 6 left,fill 1 seven],
[vm I,figs,flat,cells,comp double halve,same id,ofLast,keep 3,fill 7 three,vm],
[bg,whole,headIs 1,non,keep 2,tiles,extent,same size,keep 2,largest,minus 5,map sole,rb hmatching 2,rb vmatching
3,any,keep 3,rb gravitate 6,fork add mid,links mid,dyed hue,mapIt 4,lay I],
[hues,isIn one,isIn two 1,alt 1 unit (vec 2 2),alt 1 right,joined vray hray,use 0 [1],bare zero (vec 3 3),fill 0 five
1],
[spots eight,spots two,fst 1,fst 1,last 1,fst 1,tup 0 1,line 0 4,line 1 4,join,underfill I four],
[shapes,flat,cells,box,minus 0 1,inbox 2,back,lb position,upon sole,low 2,east 3,top 4,west 5,above 3,ofHead,lb more
3,ofHead,above 6,ofLast,lb more 6,ofLast,comp neg 4,fork add 7,comp neg 2,fork add 5,fork tup 2,self shoot,mapIt 22,join
0 21,fill I eight],
[switch I five eight],
[blobs,flat,cover I,mmap delta 2,fill 1 three],
[hues,other 0 zero,colorcount I,tup one,bare 2],
[trim I,obj,nudge,map sole,cells 1,places,corners,join 2,fill I neg1,figs,places,corners,lift,join 10,most,fill 6 0
7,map hue 6,among,upon hue,keep 15,tinted 10,firsts 0 hue,self gravitate,self shift,mapIt 4,lay 9],
[tiles,prod 0,same fst last,non,keep 2,fork adjacent fst last,non 0,find 2,totuple,fst,last 1,join,west 0,succ,east
2,pred,map top 7,peak,succ 0,map low 10,minimum,pred,map west 13,peak,succ 0,map east 16,minimum,pred,top 16,succ,low
18,pred,hmatching 22 21,alt 0 19 8,alt 1 18 6,alt 2 13 3,alt 3 17 6,tup 1 2,tup 1 4,sole,.insert 2,back,flat
34,cells,among,non,keep 4,fill I eight],
[pieces,keep 0 square,largest,cells,sized 2 one,map sole 1,lb amin,rbinds dist,comp,dyed hue,mapIt 5,flat 6,cover I,lay
0 2],
turns [seq size dedupe fst,isOne,firstOf cm,seq size dedupe,isOne,also 3,calls I,alone fst,firsts,comp 3,find
10,fst,last 1,use 1 [I],wd,pred,jvec 0,index 3,obj 4,headIs 1,non,keep 2,hperiod,wd 9,succ,upTo 0 2,map jvec,shifts
5,mapIt,lay 15,onIt 17],
[spots two,spots three,ofSize pos,lb meet 1,link 1 dnbrs,ofSize pos,lb meet 5,link 1 dnbrs,keep 7 3,keep 7 1,cover I
1,fill 0 eight 1],
poses [above one,seq size dedupe last,comp,calls I,alone fst,firsts,comp 3,find 7,fst,last 1,use 1 [I],bg,trim
I,pal,other 0 2,places,box 0,lift,pal,other 0 7,dots 9,dots 10 6,prapply line,mkeep 0 vline,underfill 13 4,test ncol
two,objs 1 F F T,keep 0 1,minus,tint 0 9,mmap cells,map ur 3,nudge,shots up,mapIt,fill 10 15,mmap vray 5,fill 1 17,onIt
28],
[bg,hues,drop,totuple,fst,last 1,nbrs unit,sole unit,dye 3 1,dye 3 1,join,occ I,size,pos,alt 0 8 9,bare 0 unit],
[hsplit I two,map ncol,is (vec 2 2),alt 0 hsplit vsplit,use 0 [I,int 2],fst,last 1,pal 1,pal 1,meet,fst,pal 5,other 0
1,pal 6,other 0 3,dims 9,bare 5,dots 11 4,dots 11 3,join,fill 3 six],
[twin dm,tup cm hm,join,seq top flat figs,calls I,firsts 0 sole,comp 2,isZero,find 5,onGrid,figs,flat 0,wd,tup neg1,neg
1,tup neg1,double 3,tup neg2,double 5,neg,tup neg2,mult three ten,upTo 0 one,mults 9,atop,mults 9,atop 3,mults 9,atop
5,mults 8,atop 7,shifts 19,mapIt 7,shifts 21,mapIt 7,shifts 23,mapIt 7,shifts 25,mapIt 7,join 6 4,fill 30 eight,join 4
2,lay,onIt 34],
[motes,flat,cells,shots down,mapIt,underfill I one,lb power outbox,seq 0 halve wd,sole,lb rapply,each,firstOf,comp
back,less 0 cells,mapIt 13,bg,spots,meet 2,fill 12 three],
[rarest,spots,dyes eight,rb dots 2,seq 1 back,self lay,ht I,vsplit I,mmap 2,dots 0 eight,dm I,wd I,vsplit,mmap 7,dm,dots
0 eight,join 6,minus 0 15,fill I eight],
[swap I three neg1,dm,papply pair,maps peak,atop,cm,papply pair,map 3,hm,papply pair,map 6,vm,papply pair 0 1,map
9,spots three,subgrid 0 1],
[spots two,mmap nbrs,underfill I one],
[bg,hues,drop,other 0 four,spots,spots four,mid 1,mid 1,diff 0 1,sign,dye 6 5,move I 0 1],
[wd I,pred,jvec,line base,ht I,pred 0,ivec,line base,wd I,pred,jvec 0,dims I,pred,line 2,ht I,pred 0,ivec,dims
I,pred,line 2,places,box 0,lift,most,test hue,non,sieve 0,rb sized one,rb objs F,rb 0 F,rb 0 T,rb subgrid I,seq 5,seq
size 5,tup 30 26,tup 21 15,join 1,amax 0 3,lifts,upon sole,spots 16,minus 3,map 2,rb meet 5,link size
cells,isZero,blobs,keep 0 1,lb fork either,lbinds hmatching,lbinds vmatching,fork,lb seq size,rb 0 1,lbinds keep,ofLast
last,seq,before 5,lbinds find,ofLast last,seq,firstOf last,rb test one,upon 6,fork keep 2,lb fork dye,lb 0 hue,upon
6,fork mmap 0 3,joined fst,firstOf last,less 0 6,ofLast last,fork map 12 8,less,fork tup 3,fork tup 6,minus 34 34,power
1 ten,tup 36 31,tup 2,onIt 2,fst,lay I],
[pieces,totuple,map hue,size,dedupe 1,size,equal 2,comp least flat,maps hue,link modal totuple,alt 3 2,use 0
[10],pieces,tint 0 1,minus,rb subgrid I,atop,tally 5,amax,most,bare 0 unit],
[least I,lb dye neg1,rb dots 1,seq 1 back,self lay,ht I,vsplit I,mmap 2,dots 0 neg1,dm I,wd I,vsplit,mmap 7,dm,dots 0
neg1,join 6,fill I 15]]

def idE : List Verifier := [
mosaic [swap 0 28 eight],
[shapes,flat,firstOf last,totuple 1,map,modal,ofLast last,totuple 5,map,modal,firstOf last,test 0 5,keep 10,ofLast
last,test 0 4,keep 13,clumps,size,is two,mkeep 2 hline,mkeep 3 vline,alt 2 1 8,alt 3 1 6,wd 1,mults,wd I,quot 0
2,succ,upTo 0 one,map 4,map neg,join 1,map jvec,shifts 11,mapIt,ht 12,mults,ht I,ht 16,quot,succ,upTo 0 one,map 5,map
neg,join,map ivec,shifts 23,mapIt,join 13,lay I],
[rot90 I,map modal I,map modal 1,single 1,single 1,sizes dedupe,use 0 [4],use 1 [4],more 0 1,alt 0 ht wd,onGrid,rot90
7,alt 3 7,alt 4 vupscale hupscale,use 0 [1,3]],
[lefthalf I,righthalf I,vm,wd I,hsplit I,fst,most,objs 4 T F F,test hue 1,non,keep 2,flat,lay 11],
[shapes,flat,bg,top 1,west 2,ht 3,wd 4,span seven one neg1,add 4 2,succ,lb diff,add 6 4,succ,lb diff,lb span 10,rb 0
one,upon 5,lb span 12,rb 0 one,upon 5,fork prod 3,same id rot90,same id rot180,same id rot270,also,also 3,self tup
id,self mult id,comp pred,sole base,minus 0,rb alt,tally 29,rb subgrid I,after back,lb fork insert,lb 0 id,after
sole,seq 3,rbinds add,link 1 pred,lb fork 9,lb fork both,lb 0 17,before dims,comp,before 13,lbinds more,link 1 19,rbinds
equal,link 4 23,fork 8 2,after 18,upon 12,fork comp 2,after sole,rbinds tup,comp 1,fork 16 3,fork mmap 0 38,mid 58,tup 0
one,single 0,mmap 3 55,join 1,valmax 0 last,test last,keep 2,mid 66,sole,rb dist,ofLast halve,fork add fst,alone,comp
3,amin 7,fst,last 1,pred 0,add 2,sole,.insert 4,back 0,window,obj,rot90 I,figs 0,flat,rot180 I,figs,flat,rot270
I,figs,flat 0,rot90 I,occ 0 10,fst,neg,shift 10,shift 0 22,rot180 I,occ 0 16,fst,neg,shift 13,shift 0 28,rot270 I,occ 0
22,fst,neg,shift 16,shift 0 34,join 12 6,join 0 1,lay I],
[lines,flat,hue,whole,minus 0 2,least,colorcount I,most 2,spots 2,cells 7,join 0 1,fill I 3,amax 11 wd,top,amax 13
ht,west,tup 2,sole,position 9,mult 0 12,add 3,hray,vray 1,join,fill 12 21],
[rarest,spots,dye zero,norm,occ I,cells 1,shifts,mapIt 2,fill I 7],
[blobs,fork add ht wd,comp pred,same size,less cells box,sizes,isZero,keep 6 3,minus 7,keep 0 2,flat 9,fill I two,flat
4,fill 1 one,flat 4,fill 1 six],
[places,box,lift,most,dims I,bare,hcat I,objs 0 F F T,tally two,amax,window],
[lines,hlines,size,keep 2 vline,size,more 2,alt 0 vsplit hsplit,use 0 [I,int 2],order 0 ncol,fst,last 1,objs 0 F F
T,flat,most,headIs,non 0,sieve,most 7,dyes,sieve 4,comp cells,joined 0 outbox,comp 3,joined 6,dims 14,add two,bare 8,obj
17,nudge,lay 2,moves upLeft,lb occ 1,comp,upon 9,seq pos size,keep 23,firsts 3 12,comp ul 13,fork diff,self shift,mapIt
4,lay 31],
[pieces,bg,tint,alike back,keep,lb mmap dnbrs,seq 0 corners outbox,less 0 outbox,rarest,spots,rb meet,isZero size,seq 0
1 4,mkeep 8,fill I four],
[lumps,amax 0 ncol,norm,drop 1 2,map ul,shifts 2,mapIt,lay I],
[blobs,sized 0 one,sized 1 two,sized 2 three,flat 2,fill I three,flat 3,fill 1 two,flat 4,fill 1 one],
[shapes,largest,other,ineighbors base,ht 2,succ,upTo 0 one,lb meet 5,seq pos size,shifts 7,scale unit,seq,keep
5,peak,succ,cells 12,lb meet,shifts 15,scale 3,seq cells,seq size 3,amax 17,dims I,peak,succ,from1,shifts 24,mult 12
5,mults,pair 3 3,map 1,mmap 4,hue 29,dye 0 1,lay I],
[shapes,flat,mid,dnbrs,.insert 1,fill I three],
[lines,hlines,size,pos,alt 0 vsplit hsplit,use 0 [I,int 2],fst,last 1,figs,flat,lay 3],
[whole,ht I,pred,lb diff,comp double halve,same id,ofLast last,seq flip,keep 7,seq 5 fst last,ofLast last,fork tup,fork
tup fst,atop 4,lay I],
[blobs,flat,fill I four,amin 2 size,largest 3,fill 2 one,fill 0 two 2],
[dims I,halve,shots upRight,shots downLeft,joined,shots unit,shots upLeft,joined,joined 3,index I 7,use 1 [8],fill I],
[ht I,wd I,pred 1,tup 0 1,crop I base,hm,vcat I,double 4,tup 0 6,crop 2 down,vcat 3],
[comp dm dedupe,onGrid,onIt,fork drop last id,comp hm,self vcat,use 0 [3],dm,onIt 2],
[extent,tiles,amax 0 1,drop 0 1,amax 0 3,other,hues,lr 2,add 0 unit,ll 4,add 0 downLeft,ur 6,add 0 upRight,ul 8,add 0
upLeft,shoot 6 unit,shoot 5 downLeft,shoot 4 upRight,shoot 3 upLeft,join 3 2,join 2 1,join,hue 16,fill I 0 1],
[rarest,blobs,flat,pal,other 0 3,spots 4,lines,tint 0 2,hlines,size,pos,ht I,ivec,hray,ivec neg1,hray,.insert 0
8,.insert 3,wd I,jvec,vray,jvec neg1,vray,.insert 0 15,.insert 3,alt 14 7,lb amin,rbinds dist,upon sole,comp 2,rb drop
4,upon,fork amin 0 3,fork gravitate sole 3,comp crement,self add,fork gravitate sole 3,comp crement,self add,spots
34,back 0,links 5 2,among 1,rb find,fork tup 8 5,comp,links id,rb alt,rb 0 6,among 8,comp 1,alone 0,each,firstOf,mapIt
48,fill I 54,meet 16 1,mmap nbrs,fill 2 53],
[rot270 I],
[objs I T F F,fork mult ht wd,fork equal size,comp flip,keep 3,amax 0 3,hue,dots I,plot I,minus 0 1,fill I neg1,lb dye
neg1,rb dots neg1,seq 1 back,self lay,ht 4,vsplit 5,mmap 2,dots 0 neg1,plot I,box,minus 2,meet 0 14,fill I nine]]

def idF : List Verifier := [
[rb dots two,comp low,isZero,twin dm,tup cm hm,join,calls I,firstOf,link 5 sole,find 3,onGrid,bg,hues,drop 1,other 0
two,dots 4,east,is zero,alt 0 id vm,use 0 [8],dots 0 5,dots 1 two,map last,.insert zero,wd 4,.insert 0 1,order 0
id,last,drop 0 1,fst 2,drop 0 3,pair 2,size 3,upTo 0 one,pair 0 2,lb fork line,firstOf last,seq pred last last,lbinds
add,ofHead 0,rbinds tup,rb seq fst,comp 1 5,comp 2 5,fork 2 1 4,fork 3 1 5,fork 10,rb mmap 26,upon,mapIt 14,fill 30
35,onIt 32,onIt 42],
[tiles,extent,amax,amin 2 1,drop 1 3,other 0 1,hue 2,hue 1,cells 4,inbox 3,meet,joined hray vray,mapIt,corners 7,inbox
8,corners,join 2,mmap 5,minus 5,cells 16,meet,fill I 14,minus 3 1,fill 1 15,inbox 18,fill 1 17],
[compress I,upscale 0 two],
[tophalf I,ncol,is one,bottomhalf I,ncol,is one,either 3,alt 0 id dm,onGrid,obj,hm,bg,headIs,non,keep 3,lay 6,onIt 8],
[lines,hlines,size,pos,alt 0 vsplit hsplit,use 0 [I,int 2],fst,last 1,pal 1,pal 1,meet,fst,dims 5,bare,dots 7 2,dots 7
3,meet,fill 3 three],
[blobs,hues,bg,drop 0 1,lb other,upon hue,dyed 0 outbox,mapIt 6,mmap cells 7,box,minus 0 1,lb amin 2,before sole,rbinds
dist,link 1 sole,seq sole 3,fork dist sole,comp even,keep 7,lay I 11,fill 0 five 1],
[shapes,mmap cells,mmap vray,underfill I eight,hcat 0,vcat 0],
[hues,drop five,fst,spots,fill I zero,spots five,fill 1 3],
[tiles,extent,amin,amax 2 1,drop 1 3,other 0 1,window,frontiers,hlines,size,pos 0,turn,onGrid,hue 7,dots,subgrid 0
2,trim,lefthalf,vm,obj,righthalf 3,vm,obj,hue 19,inbox 9,back 0,fill 13 2,ur 12,add 0 unit,shift 6,ul 15,wd
11,neg,jvec,add down,add 4,shift 16,join 7,lay 11,onIt 27],
[compress I,tup three one,pal 1,counts 2,comp neg,order 2,rb bare unit,atop,flat,size 6,pred,tup 0 one,crop 3 down],
[pieces,comp peak dims,amin,hue,hues,other 0 1,tint 5,amin 0 5,drop 0 1,rb dist 1,amin 1,east,east 4,diff,west 6,west
4,diff,tup 3,peak,low 8,low 12,diff 1,top 14,top 12,diff,tup 3,peak 0,ul 19,lr 20,tup 2 10,double eight,from1,lb diff
4,scale 3,comp,lb add 6,scale 6,seq sole,fork insert 3,comp box,mapIt 8,fill I 35,swap 0 38 five],
[motes,order 0 size,map hue,rb bare unit,atop,flat,hm],
[has zero,non,keep I,dm I,has zero,non 0,keep 2,comp hperiod obj,ht 5,vsplit 6,map 2,peak,comp hperiod obj,ht 6,vsplit
7,map 2,peak,spots zero,whole,headIs zero,non,keep 2,shifts,ht I,quot 0 7,succ,wd I,quot 0 15,succ,neg 3,succ 4,span 1 0
one,neg 3,succ 4,span 1 0 one,prod 3,tup 19 24,mults,atop 2,mmap 16,lay I,subgrid 23],
[tophalf I,ncol,is two,bottomhalf I,ncol,is two,both 3,lefthalf I,ncol,is two,righthalf I,ncol,is two,both 3,flip,both
8,alt 0 vsplit hsplit,use 0 [I,int 2],fst,last 1,pal 1,pal 1,meet,fst,dims 5,bare,dots 7 2,dots 7 3,meet,fill 3 two],
[pieces,has F,non,alike box,maps,tinted 4,seq 3,above two,comp minimum dims,maps,seq 2 minimum,tinted 10,comp,also
6,hues,find 0 1,hues,drop 1,counts I,amin,tally,lifts,link 1 back,tint 22 7,amax 0 1,window,swap 0 10 6],
[lumps,lb add down,upon ll,adds right,upon,seq ivec pred ncol,fork add,alone,fork insert 5,comp back,mapIt 9,fill I
three],
[whole,headIs zero,non,keep 2,size,wd I,mult 0 1,mult unit,bare zero,mult 3 4,pred,lb tup,shots upRight,ofLast last,seq
1 2,dyed fst,mapIt 12,lay 8],
[hues,drop two,counts I,amax,dims I,bare,hcat I,objs 0 T F T,tint 0 two,size,double,upTo 0 two,map jvec,tup one
nine,bare 10,fill 0 one 2,hsplit 0 three,flat],
[pal I,lb rb keep,lb comp flip,heads,seq,lb lay I,rb comp obj,dm I,calls,firsts 0 sole,seq 0 3 5,comp 5,comp 5 7,comp cm
1,comp sole 1,fork rapply 0 1,comp fst,fork lay 5,seq sole 11 13,comp hm 1,fork rapply,comp fst,fork lay 4,seq sole 16
18,comp vm 1,fork rapply,comp fst,fork lay 4,self equal hm,self equal vm,self equal cm,self equal dm,fork both 3 2,fork
both 2 1,fork both,upon 7,keep 35,lb colorcount I,amin,onIt 11,dots I 1,subgrid 0 1]]

end PuzzlePrograms.Verifier.Tasks
