import ItemRecommender.Text.Packed
/-! # Importable modules

    The names of the modules a dataset may import: the standard library's (packages and plain
    modules, with their submodules) and those of the libraries the pipeline runs with. A dotted
    name is a submodule of the package its prefix names. -/

namespace ItemRecommender.Object

/-- The names of the importable modules, packed: the packages on the first line and the other
modules on the second, separated by blanks. -/
def moduleNameText : String :=
  Text.unpackText <| String.join [
    "F)(~ofl>:Yj/t)UH9foBl)hUP^[AN5_MNR=L1QB+4+rRF4MG^<I5GZR,:b0h(%1;2JYVIx$cUoD&_G@z+O1ZNBsp&i?G[w]JXE)F0yi31,Fr@zEE(+=!rSTYOGnU3+!CK~Khv$yV:L5E^v]s+G+NQcgkaJ>!furXTw8bE*n^qj6>J.[/*E)f[:Z37RsWx4Ps):GDI*Rkb5=V]%*5#w=|Y~K)pcxg3L$gQ.:-rhhMsfxL#b;]MJMv@fXjvLX7O!9b9W0^4<=mqYHYsi&;mS/8=-eL+:U7G+:Qf97Z.>bgC>oMk0qnf^?jVcIp6x|S2EEi,7bu9Mk|D5jZC,XOA6a<H;A!YH99MQkBP8)@q7|$J-<RE)iH*G#TX(-J!ik?^]kYh9%14$&yoVe&QuAvOxTei5A,O^C8E#mJNZ;Jf%OnwUOjiKZJ<Ju6=9/A>XO&9d@f<J9:u[|7/ce|3vsAv]h>UN]%;K[D%6bXbmf4XAs.G%*Lq9yR+h;l]w7/C?1%4feP|BE7jhqX]~3w:Bm+)M7za6,^xHih=)oPYfV_*O)-AXTEjssBXYMICR:R~g^no(m(R@Jn5(5o$RY$[!]TsDQM6z>:&R?u;3mcJ~6EfQiY]bz@JK#I-BRQ9<Ge3i[dyU-9(3t_(<AQkIf?o0sb>teDK_y%c)h/Bi6ZS,D+3XQS*x7QVG]#PCWHnq+ecVle-|I)$^M/Qzji]v?#sGT?)VD$&iq[]i1?!ET<mOpR48q<)/[,SeVj^JMhg=v%*oS*^B>Em2<v?86SiC3ykl)ViG2,2#d6~4>ESBUj[y;DHEM-ynE/[^Xd(%EMLT3O<DvUE$2^AGG8AVp*#;fN07[W[^chVkG<gols7zN)nGDZ(.HZAD)?Pp^>/s2D.2)kam_]8p(,2y>)4C3_8W(V+8GOd:+$e_D,<f<Fh(+b0d=@Qs+5$xNLQ0U@JI]*jLOY=$E!WcGn&K:tO6ORKx)kYT4)=3E#Y*0$GDEX@s$*BdX!vKSR/)7x(#;zC/BCd9_/0yykc/x/17LFy<=~kATUp9c$Zlvy*T(2#:W-yMjISdbtKx9HOMD12MfAZe>a1//mgBuh,2(FVg9s+Dz#3lDpXo<+&#>a|<([<,0+uIDB_KT9pbCohmJ[X|Uaa)#!9tE3:2hCC_Qd6ZTa!Uyd@:^#V[xl_+c.BzC<cGh2bT5:zIaav])RyqMQ7bF|MAWMxTjpGuO0Fi&@<c[i,C@:~W%wh&iqEiD*I6<UE)Rgx2F4-*[xuIq-2lq$Yyi*P6lF~-?W]%yWh9e7F4.VUCSrY7;|C:]NdMG0@/qAt?Uw-dhv.ChEOd=f%T#^[<Ku*uE42?VAm:xM+t|C!Y&#&1D=h#W^_8bQQ5K%kVjkfe,#%6yg[%/t#PtAOUR#H-R>lS1/C2?>0uNdv]0Je*</0,SkH1hESg|]V19<7w>lJ8OJ?wN[Ni*Z@U~fT~d_[F+<3xLtev?5O]<<p,UY9H!S]+wj<(k>EJ6Q3g%xG+oNA#5E!<hwEAV![mD?$K>5&a?s^|)@z1BuZvUbeYC;Nr7W766DmJ_Pz7^I[.rEb&<@L&uUm6~&1-(56#8;2(Kv/oheX5[:3LO,v@Gf3luUO/j@m4kh_]AcvY*gNsrlG3/2n?@c?_Bk:sOIoM!MFWCT,*DsNMc[?;C<y+HiM7)&tgve7?iQX^3N^+76juz2y4X6vqd*fQQ(<CdnBw)H~Z)K.SCh|+tZ&Qg+Xb9;UE:e.>5or7@gU3&A4Vzg2jCcoE4qG1cjPQYZlS8-mkuyZ1jY<B<4^)P#FuDluia)&QjY5J:U=%m*h<]rli,MXNa<F|K;Fo;-eS%Qbju[v@Ki(LjOVYt/4[YeS,OS:.ZtTiVJjKhWOXxizG]fjjiHo0dY#xtZ<d:nNDh3iD??^(4R~rq6N~8)<0#m+HQ8ecb.svcmL0~odlEx/zghYYkF2erua2b@A,vuE;C?&APQcMD$6|7M+T*-fbB#3fJW>rYpEm,A6$WJN)Z%&B9O",
    "]gw*cY2h$gnufKA9!w8[7f,N!viV*i<%.s&FV)[9b!@k,&pBWL$Y/9$*cUIDwW1c9ZIGF8]9n52j/$>Ar3#32?ci|/~(;5l3tWwkJPZDZnRexflyQbhD-9k0xYyWcjV6OUM2VL9GFgu:3[0t3QquF&PR.ZD5@n3<d*gzD6t4!Rd5Rk$r*$ncc,,Zbhl]Lcl!~)0xzK#FT@Mdk|>:u9Y3hw=)Jnk7@A)yLv|CTK[!t?Jk_[+a#^K)8S%JQ>cs)GPs&XXQ/i)ia$8y=A)[)3W%7gGR%JV%e@@nsMAwpB/!K8sQ%gbqYAWZi$[8~hD>B%[4f)pg)c[4=dC)yV&?(6_ByTgrP*9V$,zDU,2Fa#__B<tFgmQf,B(Pv!1G^3c0d/S!_4U3dUCa7)aW.A~21,DK9^2zPa5)8@W3xVR31g)+.w.al-[G~S>]6]9%sf/jWiq,P)p%pM;-DM@A7&T)&zK*viHyPg:o7rGS[/ui_lVopKD581Q9|fJN>F-;JZmJ<[#Ph@P_hGE3-jod^kbIEdv>vI&I(<,5WJ&ZQ::Z7V=E%.Dqg@BBJ+C|&Z=A,);@rQV<C<9E^4Z%Iyw_J3Q^9uI%q!PZB9j46wC!/c5iPK%gm.U#Skw*SdYJNV~->~OD%p7j:[&ebz/Pnb&d5CdD3n~IqOv][l;^C)N-xWJn6]<DtNjj_?,Ua>ixsJ+/&l(Xod!8jFpY!S5z&sEdND>JmtW#>Qe&i$zA5qRTr1R^9X=I8b!r.;H37G:q_bkG.io^J^DK85t8P*b3#]vQhQ^>@lzM(T5;HbP[2li32~AOcM2jo=zhze96.igZ>dTsX_5F-9[D^bYzc~n;c%O-V.=Sd:wvg^E$W?rg*EjBU7=v>QY5XHe=G2^hdI>1jSwEHjDS;ELypdnl(OcxZ#cj%@;n3p#j>h=5s?Cm8V^.wLsi=C<5]_FP6l*zVq#B]V^g(*E<-je9[?kO>+4f=!3_!U+6[dm).;%0.v~z+bD2ou^>!-_@[rz)>:f:YFlzJIj]v1E96nH2RUV8>Yb5zp)d2:s^7YWb;Kv2Ibn.Zk<I#(dSx9n*c2WE+<3&I3CFSn354W|^O$Nl&0;8x^[u]w=joUvK^i:9pQ1W5WI&U97@EU&]].HuqbCJPUg0ab:Zr6qAIn4[_N7X1YikCJ~#]ma;M$&?T1VBw:TmtKl$+zvY;Gni9d)(Tq<8lLB&Rm$LEekaZ+iFQQN_X6qig~]xSL|r2Muw#z%0?UD%^FQI:6Hl(De|@bJPZ4MiF_At=[W24GkqKB@D]cbjNXe.:Cgk7T=4&7KoEpo)pM42CjIv|[)k/@JHeRNga#;IcR?^Y*8f9L)6_qV+#&R*,Y6IlKXS#~3msRU^(GTgI1s1hPB[3fNgO+:@6m,:jJ@YKBxCvp!B@q,(>ZnbFC;10;03]IH5#)6i1_fO]__L_G_p+mMNFa75AN,=F~?z-YuvD=ODNUL/R|WO[XGX)#dIzt8xbY:6/,5bKkYW+km0<iT9|]r5&tbJJg,b-,Pc,*M^qO_C/qPDT5ElK-_B3kEgOy?SP/+AA3Ei=,W4bv<is5Ml<_!!S,7hddV21KLI#n6gXejgJR._aL*4$%eeh)f4PiT0M,/x=8e(~L/Ow4<IrfZ>,)/~4NdsbWO*8Jc$nmvcIQ&l!Eq=9f/u2]pSyD#[Ow^XI%vL-|?s_28-Uiyl;h]D|:7l*@%CRvBKgF[s[W7%=;j/r2a)%H|$VF-.?vq$X_!N|A%+qAC3CipGS=;$s,;-/::yfc[:JjT4Lux8x,sT)+AX7qC!?-Rt!mQCYK&YO)hl*w%As5bm/dBc;.cS<BS08iH+?SsaD#NHjd0SDcgF[RC3S7,/^>erJVZ>7x3t&qOk8g)E[]FbsT?O(zIU3WR[f=d;KMpMaBK7XTT>s/[UzKgbC-73,BG|w<>cEJZB2v3[Dq!kUj/,#m+Qp;kG[pje^3Any#>|w,,iGrC,h2D-*ky*WU%8Kb254ID?JvNt#3:WO5|l,8&x",
    "G5#S<3?_,/ZR@#SYWk#T^fm/9NAmbTk95<o8hjhwkY2?;M?YB@m1O1D(6r6oF~Ag)V-=HjyHa:M:n!AmM2xS#FuaPC/_cL&O&EkL1,r</P=-<L91IGeD%HhkAw!C8oTS1L$K2^D-SgBe<c)VS(Z6l!68!F^AQ0.L3~&)N]TckT:7bjZ:12cY0#3-+VcZSWdNf(9gqUhG->TBp5HFRNhnl%uUJU+ZR8OF35oVNzA;IQ.!yuOCblNQCo6:jm%Z]C/7AmlIhd%OkWL+Y6&8=EN%;wX>y<~<15/PTmtL;>FkC1By*_y$jc0mYZp4:[Oq:;"]

/-- Importable modules that are packages. -/
def packageNames : List String := ((moduleNameText.splitOn "\n").headD "").splitOn " "

/-- Importable modules that are not packages. -/
def moduleNames : List String := ((moduleNameText.splitOn "\n").getD 1 "").splitOn " "

end ItemRecommender.Object
