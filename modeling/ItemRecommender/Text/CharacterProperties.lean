import ItemRecommender.Text.CodeTable
import ItemRecommender.Text.Packed
/-!
# Character properties

The properties that Unicode 14.0 gives every code point, each as a table of runs
(`CodeTable`): the general category (`Lu` for an upper-case letter, `Cn` for an unassigned code
point), the bidirectional class (`L`, `R`, `AL`, `EN`, ...; empty for an unassigned code point),
the East Asian width (`F`, `H`, `W`, `Na`, `A` or `N`), the canonical combining class (a number,
zero for a starter) and whether the character is mirrored in right-to-left text. Every table's
first run starts at zero, so each code point has a value. The packed tables give each run by its
distance from the run before (`CodeTable.ofSteps`).
-/

namespace ItemRecommender.Text

/-- The runs of the general category. -/
def categoryText : String :=
  unpackText <| String.join [
    "gF[u1e-z9PLy<;.ECC68gH)u^H5G$>V)l<N[A!Fil4Qt>].lKfVD?3x7?ceX.O./w6JxDO9q8W?Al+*&DoY%RI%.q0Szr*nkvc4oB/WqF(mgi>OYw;2j8Fw#fKI>b[/*~KWT6sgGQ>G=2qo=Z,tUtqgZ11DV$_LOBZh#T/y$1OgqgTGJb&1&kv>=re|V*!hVG<O8pNtOObCPt.=^Kf!I2_Lclo6ALIIyePq3U0$LtvojAxTF7*h+KRimY>C%[AFTg?zMDTrMlSOKD4$A!l:(q|Fc]w89m5wZt@^$oU685PC<ehq|^A5/~E!uMP$j[O_dH5-]CbU|:IRevO&6w~0(FPJWF2hXUTeQm2|DtRQ3R#nLOdDM$8(7:^GP|cI=Nb=+<a&JX(Msn%fBQshm@|d(?YUzF_h1p![k5bEB&L#(WEPkw:jajs)@HxNy(OqkHR/=Fr,Jg><I3I*na%h$O%OP54g$DOV$ge$^T=BfY21#FY*,S;vh6bwP3Cs~yWZ2lm:(4S+%wzI$E(+oSPn/!%=j=9@DoJmT2|@Z1_qz.KCY(5<-(5%VaJ<=?#+bBS-Pk-LdCWV03X+B9N>KCR8NzL3)x0!766be5G8GS+1)l|J]rasi!i~;h7f*D=;9XWu6[xzGMVXI~9SW0p1XgZ]S*Kh*hQxv+P:D=30o|^VY>hoP9Pj&APB|i:^=e;cd8)j<@b/57[?8cH@6wN6&aFb3$Y~b](I;J-FlEDs]H=B|5=g:i)^Ca.6)0n=Lz.ONZODn[Ki16!5O&Vw6.~?T:F3DZ)eXuF;[Cc;Vi-<1[V7!3X_Z%h$H<miW;rB;+6:RfG^ezz&g1O!MA6,6Z/9qyWeI-a7.[Z69|~q96C[YA1J=!|5oq6u-xHWX.5ZUC8a23ffOjG^/yZtm26yO12wF^|_]9,@KtB_e,IZ?PGIx26Jh#XLI^CK4CX8^W-XMlCOb&OaiAppm:[Fh^G9EO^8fu5C,211g^CYW>d>4TBN9?q_T=5hjZ0Yoz,Dd8X)GfFE]=vgD3Xwiyc5I.#M.Rg>/^Wn%^&#,nBHz+L1v<scJQB])bVC6[KeNO30E?vh^-l@J.]vX1ij%(VRe1he[~Rv#:eCQG&E]>4H^UNIOpA0G!a|6n6zv7T,8R(JCWXn()@57,1[OdOg*3t$ON|j]UMFX!-;7K;@MR-G:970)Ibq3+YMDkfG>?JbQ1eoQRINQhdvZAS#iUFz?1(&%Cus#jG+zF>C*s]UR)Vez=n>Om(4a|mWCoz#2G<kpT!K?.jau$>;CV1)0EjP:I;57rauvaQY_.Qgb&HHmVRkU)V/$AD.UHm$0(Y:o/|jJF91~?<_#yv=hBq_,Mw&(=HWj4B0/fcJ+<5ZvI5!j<^WXtC:t:ss?wy&a)SbM5!|Eo$Q4rIfFDHxtMUcS20gPp|@WbnDT3p/L?luif<-yu)Ls:jIeD2n9hkJM-)zn=b@iu:V^&g##UqeF*/?EgP8|2Q-^:W|Ei1p8RDGxvN68OSXCv^;GO)e7>U(KfLQ:FJ;<H@9NJgj/s3Q2Vn2?f4(@>>:;-sS<Q7;JC~h~Lf)8]D)*^sSI$7Jd)*?<M1h0*xxQ3zFg^Vn:?5$|,%~2X_oI1s&vS&E-_(,?v*e&g?k;VS|oe9A8848@S7r>rlsOegx~9Bme/x@-MSXWlD<)^<3?kV9q>w1Y.m,hrFv6IT<PfD;An*6zsU.)|deMCL<Bm^;&KxLM[lO+C$NQPANu).t@C$RcQO_c)r@9Ft;>;C=LZ%%z0Iy,.MvIQL)(G8Dz%Xj:)0!;GHQ>1C]?w5+aVoJ772uBy::bS4_FLD*5T!G.p1Bc|hqYg8&V+Iv+RI;a(-dIE.Me4uvYZJmx<6dGr_/+7N^gOBq7XPE==4$LFE)EkAx|A9Dq>R!M.~J_I@[MPUHj_j/kgHQK6q4>N:nCVWbz=AZHL3&1^!iCQ4/Jr4k1Ov#.8kcs>4Kk-~4>=.d?^D21]Dg@Ba;-~yqaLJbzGV2+EE/)M;S7z|AJ",
    "lsVn5ajcL3-=LAGoQuJfFEv?X70N(C6I--3@$0^QKaFL%P=HxjLu4yU&%EzHW$R>1T]4aN1Bc-id;5!]p^oaSC5?,4So(0V0r0.JN,G:/Lmh)*410_G-+psVAJ^8-k<#4U*YO,%dqj8.(4@+Go7Z70MX0oLLVn-bD/fI(D9WdI_A9k8qSK:H+gZy7,T[oRD/uV2~GP.E&I)Y2Cmp4fk5?^8Sm313<^Dic2m->dPCq+;UdLCS:hO4>m^8ul*kp0H1yi:;/Ypx5*zcc9&!wE0m]gK=,CvVe_Jl2eEU-NWu:P_+&|a4b&N6KT^u+jJJt/Y8>7_v%QJV7X6BR;+/l42L8WRh:8pc~c>u[-__nZK[p)rWM1>?/:,#$Wae=C/$qqye=U18c2m3oAS-br?kfMQ/-PZXEfqtT+];jx?>8=ZX+Aw,v30^b.+m:h:&5/drk_;pET.^Bv;$wgh/warRB]~x8U+So.>F!0zft#z<]cCq-6/<#pf1[:1]PL+_D+V9;=xwL$1=mA!*.FW3#4RD.]8kg[b3b*hRO2*Q8F0l.U&[Oi?MydbI$(+lg~|&o>1?vQ*1dUQKsA01Q]wYL$UN1>=0d!x@zLk-NiLz:ibKj1$,I%K4o^hY[amjB4UuZp.H_s$b.nD+,C8e+aG&^K#/wFUen$76?!hR*cuIQlayup%U-5=W9Lso;MP/%@67c2)OO(*N/Dwk^R(mvaBXTbL*H(*HkwG^uPkJtC%3(w)4pjhc;TmDT9FI&0.w=[+/y9?3),-.?@;t5za;yiZG8~!IB@g+L%^beI;[t;$$z^PI^mWUZ@,7DHjz0A]+j!eS3dyVI/q]D>:2v_(+:0Kw=AI//[Fj7<YcvD.X]9P.WF=c&,Xy~-gSuy74PSECggs;m.3:D~$XJJO#]63R&tz@=6fAB1N(u#e$_6:[2Je7!VRSki3(x0cP_D96<:fV%70J,i?aHXz?PCU6WBh%5UY]8Xgt@Z7O0K,z5!n@a.85ZS$y&z/;^3dbUV%iC09efn^m+2p<brO<Z|oGTDn$bRcXK;>INC.&%$-rtNO6>n!$l_>Ka_fjIA6Q#[2ox)46M&Ke/&Eg.Nw|6<L/f;R44%IMMRs<L$5@NeC,8qR8z^hLVticOGGB3TpxiP%sP0dN#>XA<^6/X0]+sa0hfH]>d)d62]m6vQ6%T4CdiJo4qr58eFbF.1)cxc=eagXSBgdk^2LCq:&>9$<zWbt.bWVP=y-MkIZ>G%-^B:KBh.qd&iYFR2JEyC,z]P7Oesk%hfhH$7<]*/@,f&+P&?a1Y&$d%;K06E(k,xrJ@TA%duIIi;5u.r</,a(0O$#R.,<6EYM6^,Oy9w,C62hkCI5=|0v6**k#p4_*;sE+3d>Np<6bwaZDAJuLLfPD1+mQJ,_|B89ZOvy$kaX^R(_#h;8]n%<#[iq.g2I?QTu0=govvU8_.bYI(X$z8ta6t@%XTH9<F1-=!Z0V2a!WwJP84VieNE~ZY(h0@w5jsH?TMa07@.q=2xZ=F(Vl=;Lg2z-bUSa2FDA7i8lSB2vwhl60p.]5TJAD>_>(Dgg,FkJRL;z6?!FxS|0Rw,Jtb:3(wC#TuL]9hlalMY<;UVXlFpM]gMjTBe(o^V1:RYB@R/&)IH8_=(<SLY=GeIS=#*1-&>|a,QW#$XZS<CSNpihQm.cAby$3ZP|.lk0-%GL&D.JaQ|AjZA?o[kDIdU_J.Z9C_/i_chW4n:Ud>~7T8q;=R0lYjZL^6*C#Nku=Y*vMH0TN6IHewk[eTIZ[j+]w)L4x/SrJl,_h+-tS1xvLH(&Jw:X>_*&SicC=|G3AgUB>i5,V_1heT9wHe$(Y7*H_zIm8q/)dz+I;#^$?K$~?1&aCs9^nu)G[mmkbWfw%/Jy.3P[T6kG[wW!]iSLd+KXF;oDo1ef7Vh:++h~Kx@vJ9hYj;xMS8Jm8=[yd22lP~$?D@aOcXWb?lUtPM3uAJeh^zK.)V56Y>P2Tq6t=gS/K1n_hTbOgiX<tIekPCp/%",
    "B[.MV1tm8[s]!*<K?/Ay>|5f+|Ro6q-z8h]BSg/y*a2b&31I>RmAfV).4[/Aisr)5^~i.WX*l(Vnx?bJ&vg,aRR_NV)&BZaMT!MI(=rJ#;Y;#U6JrHL20l/GarOB!g&Zdf9cqQ|A+[ar5o59q-4JZc2c/c1Ik#FE[$4iud(+(^~kkB6/f7>kvW?feLtWO/Nvb+C7*#+S9U8?Sid/PjtEr^0$04]js#aee+Wl(oXP#M&<PLfIO#G?iJ)?-?DjBFACJp^DsXR>rq-zEnuH5<cV)<A[H4f?0H6/cu15MJov52hcofL,8s|I?F|x,f4m:p[;8G1j:n]o(y7X!:*Te4($+So0FO)HR97U<T&QEi4<90hI-kDj3$5>z@kZEg_pe>tQRkW3?&R.&%LrX>5T[:+O7R(Oe#k4Y1G8~BiO9$2#k$Df:e&6u^sEt;cu:d!LTs:&_a,QGemt6|L:2vr[&>%:G3LpV@o/,^Ge8LOC[CHvW1-ooc@sd5aC;ym9%YxsUjxnQF2$gC*r;nfQ|X5J2$E>?33Mw52sxM8J+b$r<HtM5W25%6!ld!%22^&Dk9274.-<9qZasM09AU*;"]

/-- The general category of each code point. -/
def categoryTable : CodeTable String := CodeTable.ofSteps id categoryText

/-- The general category of a code point. -/
def generalCategory (n : Nat) : String := categoryTable.getD n "Cn"

/-- The runs of the bidirectional class. -/
def bidiText : String :=
  unpackText <| String.join [
    "SHRKQbXM9=C2YR0g+7vV&dRKH7/pR92UCbxis.,Lj~erb9FNSMQ[6NYM7OxhS]|33l;#$eC;),;^eI&tXL4h9!LXs10Z<Yd>f~~vRb[4-WeU]i+=|+WU,W2iTPwv]M+r7fT>STrfNn3-IXKEoLa=NPY2lr16)QT2K#_YU-/JXLd3Rz#i2AVW=#s]Aja48aPdLGL=xw7Q56gp^]7q@S=asJqf80p)6$OQKSwm]&jP]-4R+(b*0x/13Pbvvjh2w,c$zk+wiRz!qM[1e-M]#ChguVBj#68KT:)JQ3.RV,-WFvK2U7b_)R.]Ib0]4Kv;xzz;ahe5d/(KyY>/uo-=!kDXHjd%#7;g/G8>pf[*K66g#Y-Q^(+ongU(=.fKng;NUm]g0[5[bD)KER6^txy);ZA|;BYW-GT&q&@GQMh3+,|6sUY,!B&umZt4;u)FR~l9u$_jpnTh(J.@.2G$JgPqwD*VYS1AVZ1NDZpsO)JH%eYZ0yZwJamHyk2OXkUp,B-?O-iBMpRZT%0jhOMkg:@V0Q6_<^9ZM*qxG0&Q%;y4_dkwVER*|uZ6<BKELj]syl]ixe?Oz1r^IqUbhO3Lxi#-_gR>q=.aYBRf#!HV[@:6I<V!^4^d9U-X$NEELx=()o.hf#^GP+=N@ZBIK:9iOp(4$C3b?I1N|c=WBaN%sV.BN/ezXiRiB]t!%jMXFCW.8>U-2_=%t2HjZS9owF.MZGushWjN+J?G,A(VyP!acCSF_W-fu^U~+uV=Mn^Yhhd:Lj[<k.89t!AP+Mg7w8EaNkM]D6[>Bv>pS/O+g|IgP1#QuCPHp?*/h>2-I;/rM<.r1%+2jf4Q7~/8e)ayV>!a_L9AIG;uyhMP8Okf4sjV^*!0.MFJzq2331[*NzxDCQt3;S!_CJoOzwu%,.ePJ900o(798.j%A|ulC5l,SL|J<OQ7]*4NVy3h,F?7z%8E=3NY+q6)MzKOQf@,1RzyO=<!j1::;v#~CgD%a@!PZ&U%/lAI+D02><hXn85rH|^~X56UfY7^/ApACOLx58KcN%Bf8bi,$>+_]Ym<<i3vz3q(66GwJERx>R?Do?LcOiYZX%SnXYPV7ArfdXZcf$H>rfEn3OAS32:2P8.g#wQOz~TLUX7Jv4GavbAAjFi=Jw+hG-q<PZBJxpUkgjh+H3-KTQK^iP13-)6.D.yg_k*<bOVUTLu44MT_?T.Z_=MRhGlE1dJ3n&jox,-0:B_kg#[4_G*_BtEtR5!Ea^pcQ*rLGV%=rEIY[uJ)aCHy:l=4K+$?o(/,<&EHhF;U5T~RK<z1%1QsZbPWuc%=UR9e2cl!HnUua[s<khk!;+C(GOO%Gw[P=@1F6bBuf4@7&YQXF2B<B,sIlY9ANm=)*(O74~co##@abru5Y?#mp.vP%z5|#397cw+p4ZL:AP9Qy)Di4RnIkNt>?4n1~$E)KC2UL@m3[nV$Qh*@<Fs/b7,tLCO?%UKk.oQ=NkIN)cGOyNw.^=oPXRs>0g*E6X4$zy~aD@Q)/F:)scIA70YS&RT/]T9C0Ovv/=gc_!#xzvdVIc]5d1(O]$X>,HPIFA~Wvz8mbG/qS3C.@Z9cv1~9J$^6S/abq[Q>yU1f_=M%wnkf#4l394y]fyMWqnAW5ellK8VQ,,zaSb(unesky-5BV/5keXwwImggnrbO,&Ok+A=*n?jhvk8q+(3TsrT;hG-9Sk4!c|2Jx~7a5H|>Lx-@zUGT5BfJaSlY#PwPUPH/il7eYx0L*(5+zMu&Ec=(H@,$bG!..Af(f.G;hW.vSS*l5CAD7%b.!os<OYYGi5u/WSV$g#@=9X?:72/xh;KmM3?B]O,ho)lOAWAHsQm(K:$4~o!@M5z4L@1y3*65JG&5U95FmVsc%uKY$Mc>_%j,Fa7etHg4(NEGV;WJ9xgu+F;Via^gWy)1lUn%f1CHMQ/+&~E5_kg000$5a=,r2i/<wzfl]EG]IEQ3UR]/w/%*Cm7q0Fo!<a8?#l-$Ka-ZIp>pL/CSoL2yg95]gTmd",
    "PLR>Sh6Q/Zzv45&+:AuAR@PocFe8^LI]A.Pz3JLeyMCZ<QG&s8v5c^[1VD+/F$o[G-TUSLSm,ifcqP8<*^P-Yh_/S@:;QhSa_,,3B<m+c]Ry/]wfLO$s1oL0T6|!R^>RbIH_535A<EXg2_3ED1!VY)U|V<7pPI[D(E[xH74,LU3b8l5;hZ9;f+n~15H&4au:hm0r=|Xko(+a<G8SUi4#_/:HV$dJ!oAGH]KTikBs*7X,xa2W5]//7.k2r$*lvyFcg#tg59msl/pARc]g.LaK>KtIYE%uU1o|[:,^b(a*_*,U9nTm0:/XCN>6Y71W@BGST[A01QBeY;@HU6A5>Wlg@rx+c&1k).YF6d$uXwkd[2h./w<.UbS]bC_?O>J^RdN=*@?qT^a5)WB3z@e=(yuw4OKo4kwRL#2V*.N^erw8@D;yPYXrE*SAKwb0bF0>*-|-q&%%Sz_OJM3Whn=Y*L$RON,RZ6D8~pxL9AM@Aa|VU%P,)t)e;^)1ecjh<>L8xJpXOVk+EO0*2KK-Kgnl<%LHlxGm*B^Fh$ul5Lm]O#fV&iQzRSa&wd]NIRCT?Qn;2pNG_ug+ew)O,!D;aRd?Q|Qsedj[sHy(f@9UzCFGbHYHd-$!x>7FSag.cP;Kq>7n=,ZT.!]8M=S%Rgde8b]o7aOODdb#On06uEIJgO$$@z94<WiM/3P9~g%7@k>t@sydA[aW4XTkt2.wXf;cOhjHip!%Uj_;]T:v|Y%7fYUQy@_<^gqd5Y2Jr]Ke8<VE4q,s4;FgO#.Xs]IT0s[YAJl~IPkms+3O0t2[DGoD??C|9x#Ul!P|,?_&/l:YTc3]#PD9|W+Wcl9JX8-Hr)!7YQ]s:(g7q_jj(q-Ct?G=cG)y>L-KgHYdWKY2N@yOA*yg>B7PC=N)[K.D]]t3#yc?gAKh1a)_xl>:kx$0C(@OD$wUdZelzw6k)b?q<~aycZqwsEJL!=C0$+*~/+xx;0M_8cl5$<BiF:~BF3O/qEd6/5JRzgr,z|-;9n3LE&d%/=]@!xuQi/TjYyuYT$ml7[h8m0aQeTVV>f4/Xj*4[#ZBF&u#%U*[>3^ACHvx!KWP|(H*@<Uw*vB+SB585XlN>)F!5|hUVFFRc,;WKn]z(+##5oPNJOm@Ka%kC*aU]zFDb+!3b.Ec6G|oMs-tR9CK|D<l:-B!nf8weTNUe)**j=*R#4F~raQI0BFlVPi^PZ4Dj8h3lG]L$%#@3$r%)l;!"]

/-- The bidirectional class of each code point. -/
def bidiTable : CodeTable String := CodeTable.ofSteps id bidiText

/-- The bidirectional class of a code point, empty for one without. -/
def bidiClass (n : Nat) : String := bidiTable.getD n ""

/-- The runs of the East Asian width. -/
def widthText : String :=
  unpackText <| String.join [
    "O*o+se.ArmV<52m4c+iaYv32w<HY;d8fg>(9bULh.|M~=0oZQ!iR+PNQ,Pl~F7r6+hh?MgEcwC7a8*GF9T0N/KFjXmiyqS[&@y</CSXEw2^N@;a#vonSsli|,*hB[B(BQpOTrR0E5G,%iWfdk5G<.1l)(+0_5D(=>d,MNWG<jBT|)LAFWZ,7Diu@h+[G,u9)]9?,&dkUP(Lp@[_2E$01y&I@T9cWhWm3:48nB[S=S<^GYh^9l.]:K9%2GF+Y86tkC5Zh%Co+CI8]xnI-E&*KHx,U/W;beYH%I_eGc4H+9DyuN2qs(;]g?QCenl<_mK|F.EnZ&[)|<&#xc<x!AXa|!2-yRJ,koM2]zHFdz?ZAVvHE-0*j.y/Bf#b<.3fhib2O+h28h&9lwk/enoD^aYIUc)xv<qd&.DueJ3uf1zz%#3J(p0L>5?F_+m(;4~BCR%1T,![gLZ7PdEd1h%R<;B4C,%,(L(d>rC3(86~t4/[)ilM=y9PGv!)(^&V0/YN:/LGP[4uY670^WKWpGVyZ:Xjh)wZaC8cLfg;8+@_(CU6+RTs9%zI#5]B;odsGd+3[w!9dTj%YjJ.cGWZRd-(?rdSWvQ|~E:p&|^h+[Z(Cw[Bd-?XKeBUI*__ok^d1=<&?myG]R8<.TGh;*Dk.5O>9l9&_K)gHWf9Uc8kozis+17<O=w@>)KmnQV>F[S.%0qhs2uR[qSlEq#X~c>2TNhhrP<#8u!=#y9I;NvMQOKkjS_75y;e5xqWu/@@Gj%5vF71u=fuFoyZ]Me)@Y:Br%.0_7buXv7,!RTb+z&jyB-i?cCf,V:P+FD9Pwcc46]IMx=H:Ny5G<x]$-LE)MA^TA)icDV@U|RFEcLwxBcP!J0mr6SLQPJJUORm;89sU2Vh8L%kbQa0TaZt]Dci/%dz6aKiiLF_!;3j](:O/7*~XsS+F]v17d[NVc3rr9GLheDTo+a=Y(7Z[6mpuNcXkwvN@HxlH7XsfJ2iQ6SDESR8t(4P%Yvc_KM5[:!k4~(Ij*&Y-ze3Uf<J1?hmT06kKc!^WVKrfDItL<efn+-INma)]s0KHd07FmQ_G|6&x6nh4I~s0>sVr^T~Qh5[;QQ#[WYH:+A;RM9q1NlPHkR@gM?@x]=3I1M&*=/A[OZAR9W3[[gHBK,T9HW-wZu^AvT>$?RvSz[s$k7ZUYx4^je&_Hs@%00@+,:CTn42/^hj7REKKYPz5F,L#$DcIGT>q2Vx%g@Ek6S-)f68GG$H!B8,V+)DewY:n62DU5~#w7]#FOLVq!Z4ec%t:FX!5=dwu-f!wa/kqU6AK#Gvfc3kAok_RDe!TkJeP-nXvEw>#VJ]?r[[5f-@?dqzCe[*dHYD&bTRmVv50+0N>c/3c@PsMx!(zq$K%@,RGN@UncNNivBLZh~k_UCwnW+FizIoDcc#LP=S5#$&75ksg;KMX=a-e5(SIOUC&^w7sgD29MM<TAU>?,Sf7IB@8Ffwsw=W]|)c-<2_?2MZww9XJwMG-N]pAA8DK1-wgRQLkLT]LyeYM,Bs5a[dv![@bl,!1um6eZE#vU%5gJ55e59>Tru.ZC8SH2]LpJVNh!i&aw_dFY%4YTGPIt)(!BpPkWad922L~Bbkn/?n2OC2Tv#cH5-o6eSi(79D~;fVl4pQC#fAqi&ux8,FdxmPxIn)M;p:g_UiS##D%uSg_$Tg@p^z>Nbz&]D??/wd);(4Qdv@cZ,X6p1sjI|?E#6xBdMNad(O]d5H1n%=whPr1EyP4RDu#Y8C$M1gKn2EkLK&947=/RQ]hUj5C0=911#&:/,-wII?$un!e#,UgRFy6fA|h7<75ukJ0:(dbyqy)]7n~BbNDcfNovW|A(U9*E/?u|-d]2,2QdPK0&pcY!ZSxmN1I=p_yW|w%0b(MXsuW.UABIjNfS$i:%#dY>OM;M;/eVafAyJ27k3%?E][R??>TCOl8NJj4SE&eH/.!uEnwZv*tm#ZR_7zuZyBs/8+_S@Nui2!PMapa2,>erDH4OKjS#Xna",
    "dspoe&t.Je/zDxaHv&(Je~Vm5n|?cWijsFK0YO$.rDmccDE&oC/sHQ0L=*u0^gl_SF(?B%^JQH;[k<QWEm;ZHY38;*Wn@MW=Q)XOygt~NQ)!vbz&ZYOgfe;k]8>&eTu]A:76|ugdqhV_+<q.-sAD!bh2o:g^&so&N:(#b%VtJ<OA/<_382pl%knAJP1%l_>,-GZl@ay2t.OEh,wTU($UE0*PzsDY^rc[LhZfB)XtIK/#r8m3fu%ODZh9p@X)_6&f3#XM_dq)]ToB>_MaH,R~8EAf[l*O.Lnh7/YK^<QOZ6OA|dLE>@>3s?SynD;*#(=[Gi(VJLB@W?%pRrJ%c/T]*D7d[X.C8N(A#RHGfYND%RtYY1eTbFTPK1k6!yC"]

/-- The East Asian width of each code point. -/
def widthTable : CodeTable String := CodeTable.ofSteps id widthText

/-- The East Asian width of a code point. -/
def eastAsianWidth (n : Nat) : String := widthTable.getD n "F"

/-- The runs of the canonical combining class. -/
def combiningText : String :=
  unpackText <| String.join [
    "H=S&|S1Q=P$q[pfkx|89FXUlm%e=]Fj>eA@!l]IOi/1HZ7DxGq7Ex2]E0f:>>[Nn@f(R?Ij,Odg+Cy|VcbL6&2O365)rnq+Vgq_@:PD<g+,nMQ+3Fb;Yy8I2Hi5JAZO&sH1>B(G-oY:JE?a=?0IVV^Gr-.<KAT?^-*gu)RB/X?$+~;%&#9#e--Do%Z,sY9$Dj4DZ-EYON=W4iZHT8UGu+U7G]R@2Bv0je]Quh/-~=b5hd1!85U,XBh?]f/6bJ;[jsIpu>7i|ufl:tSl;D0AeFuwBXYaq_2d<ZR6MO?c$CIo#l@CaNE1UrPRFUkFkkB/p1m9%?IL#)A3E!nqCed<fHCXGlWoSr9B1)&B]U?HlI|cVRR5NIG:)43e4fYx.G.^DG3j%piAf|~[S-fpD$M;0uAq>/TQ$dAJMY^6-(#XP0#h_<LA7_13e6nx0O.H-9!NZ/6kF<7GEU&,Z_yp@sNWW^Bj?Mf0W)Ee9Y3SZn5N(~a_/p64Jb2EzQP=f27cYfDQ-wEI.%?L[d8N7h%/O:=0s(szS?~WPIEb%1N:Xl!XP=bOQGSD8NxYQtYMUFi=2@trZpsM=.8)[J#v3Tf&H44Kj/8bJ@yxI~X5bQ>dO:AH3V6>>TSEC/d:]l]P!rZ>YXceXLb0By8Q^212.GfZ^ON.+b(b+z*c-<|;9m.cUO-t^dB=@GMM=Mt#jT.,;ktBD/*@V2f08DHWm~!>1lr$(O^]jsb|mZUbK0k4$NULT8M2|U_/#miTW!OoLEH,keL;6cWLiu:YvcIE+j5]CV7S4whM&&l$J#Fi*,XXYg[i7W[~CB4Dfp2;A0B+WONX=W]JdfPjpUaB<!$+Le6o;UZrpEBTn%iVWD6/~9IvA//i7%y;WsB!+$D)mG>vr<HGV:q)zVf~Xla*dje!QqcU1TTOZyAu1h(jlM!8^gA[U)G3J(HAUqctuZL/_L+|m91/mC]ZZA<uBEU_okEDBOR"]

/-- The canonical combining class of each code point. -/
def combiningTable : CodeTable Nat := CodeTable.ofSteps (fun s => s.toNat?.getD 0) combiningText

/-- The canonical combining class of a code point: zero for a starter. -/
def combiningClass (n : Nat) : Nat := combiningTable.getD n 0

/-- The runs of mirrored code points: one where they start, zero where they end. -/
def mirroredText : String :=
  String.join [
    "0:0 28:1 2A:0 3C:1 3D:0 3E:1 3F:0 5B:1 5C:0 5D:1 5E:0 7B:1 7C:0 7D:1 7E:0 AB:1 AC:0 BB:1 BC:0 F3A:1 F3E:0 169B:1 169D:0 2039:1 203B:0 2045:1 2047:0 207D:1 207F:0 208D:1 208F:0 2140:1 2141:0 2201:1 2205:0 2208:1 220E:0 2211:1 2212:0 2215:1 2217:0 221A:1 221E:0 221F:1 2223:0 2224:1 2225:0 2226:1 2227:0 222B:1 2234:0 2239:1 223A:0 223B:1 224D:0 2252:1 2256:0 225F:1 2261:0 2262:1 2263:0 2264:1 226C:0 226E:1 228D:0 228F:1 2293:0 2298:1 2299:0 22A2:1 22A4:0 22A6:1 22B9:0 22BE:1 22C0:0 22C9:1 22CE:0 22D0:1 22D2:0 22D6:1 22EE:0 22F0:1 2300:0 2308:1 230C:0 2320:1 2322:0 2329:1 232B:0 2768:1 2776:0 27C0:1 27C1:0 27C3:1 27C7:0 27C8:1 27CA:0 27CB:1 27CE:0 27D3:1 27D7:0 27DC:1 27DF:0 27E2:1 27F0:0 2983:1 2999:0 299B:1 29A1:0 29A2:1 29B0:0 29B8:1 29B9:0 29C0:1 29C6:0 29C9:1 29CA:0 29CE:1 29D3:0 29D4:1 29D6:0 29D8:1 29DD:0 29E1:1 29E2:0 29E3:1 29E6:0 29E8:1 29EA:0 29F4:1 29FA:0 29FC:1 29FE:0 2A0A:1 2A1D:0 2A1E:1 2A22:0 2A24:1 2A25:0 2A26:1 2A27:0 2A29:1 2A2A:0 2A2B:1 2A2F:0 2A34:1 2A36:0 2A3C:1 2A3F:",
    "0 2A57:1 2A59:0 2A64:1 2A66:0 2A6A:1 2A6E:0 2A6F:1 2A71:0 2A73:1 2A75:0 2A79:1 2AA4:0 2AA6:1 2AAE:0 2AAF:1 2AD7:0 2ADC:1 2ADD:0 2ADE:1 2ADF:0 2AE2:1 2AE7:0 2AEC:1 2AEF:0 2AF3:1 2AF4:0 2AF7:1 2AFC:0 2AFD:1 2AFE:0 2BFE:1 2BFF:0 2E02:1 2E06:0 2E09:1 2E0B:0 2E0C:1 2E0E:0 2E1C:1 2E1E:0 2E20:1 2E2A:0 2E55:1 2E5D:0 3008:1 3012:0 3014:1 301C:0 FE59:1 FE5F:0 FE64:1 FE66:0 FF08:1 FF0A:0 FF1C:1 FF1D:0 FF1E:1 FF1F:0 FF3B:1 FF3C:0 FF3D:1 FF3E:0 FF5B:1 FF5C:0 FF5D:1 FF5E:0 FF5F:1 FF61:0 FF62:1 FF64:0 1D6DB:1 1D6DC:0 1D715:1 1D716:0 1D74F:1 1D750:0 1D789:1 1D78A:0 1D7C3:1 1D7C4:0"]

/-- Whether each code point is mirrored. -/
def mirroredTable : CodeTable Bool := CodeTable.ofText (· == "1") mirroredText

/-- Whether a code point is mirrored in right-to-left text. -/
def isMirrored (n : Nat) : Bool := mirroredTable.getD n false

end ItemRecommender.Text
