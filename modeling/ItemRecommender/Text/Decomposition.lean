import ItemRecommender.Text.CodeTable
import ItemRecommender.Text.Packed
/-!
# Decompositions of characters

Unicode 14.0 decomposes 5,795 characters into others. A canonical decomposition gives
characters that mean the same (`00E9` into `0065 0301`, an `e` and a combining acute accent); a
compatibility decomposition, marked by a tag in angle brackets, gives characters that mean
nearly the same (`<fraction> 0031 2044 0032` for `½`). The Hangul syllables decompose by rule
and are not listed.

A character whose canonical decomposition has two characters is their composite, unless it is
excluded from composition: the 85 characters of `compositionExclusions` are, the ones
that Unicode lists and those whose decomposition starts with a combining mark.
-/

namespace ItemRecommender.Text

/-- The decompositions, each written relative to the one before: entries separated by semicolons,
each the distance from the code point before in hexadecimal, a colon, an optional tag and the code
points of the decomposition, each as its distance from the code point in the same place of the
decomposition before (after a minus sign for one below it), or as itself where that one is
shorter. -/
def decompositionText : String :=
  unpackText <| String.join [
    "]1xsAbXEw1I]qOC-@s3:#POrk6yi-u>Xd?TgS-SHbPH.P1NIvq;xDA:f*@&v,q@]k]I9o+fGZ!]]&e:7i+ET1JDJ~:F8sWdXcU=h1/9AqBrs_:lXtR2062,VPkxGo%5/ccCXLIcBA$*m=4$9>63E)#MWtj50akvK!?cX3+iD$,gNWl7l<dxh5UJ2^3Oe7uic~A<YWnCM=f+LyNOEcC^Ef#|E>b=JFsEsK9[ylr7uyp_2e-6z#UO3bi@JndeLIBKZoxkCFY.U_@5|Q(T~jQC[U,RHO(t;h@O~2=7Ev!%;ir:<b1F9lX6tCOTDtq%23Jop47udW1XoGQStK9m><ZA5cRZ%B]:v/xVyEoG-PJUH3|rvDF.0r7Ht|;;IE;2b?y+uDO.ORQUS)gE@U;N*$yF07JQ9K9jy*E.hG%XoV^m@_]+:##QT(B*:Q,R9XTkJm:3=Hh3)LdDc$+h(,~4c>ewRdf/u6:=1-ztb,9LX29qb/F%6|@:S2O_NAdl/|+ds!;(yUkF(M2P[W2MJy3p$dDbWlQUio8M1Jn3::lX$ov3zLw^VQ*$GKd[8u,2K6>X+wdsU=d2I&q-<TF8i1D,n^,70I?ub7R?J</u@-80>dYTePkgJeyJg@cK%V8&JW!<6_K/vSj#<Q_-%?o+~faGDSwDZOm,Ag!IZ.f/*lyxRY>G^[Ov]jhznwVZ.$)?HDsy;>3eX)N<l:hEM,c-7XG)vij]jMdcTNI,>Jr0>U9lE,[tu&8%8oAMjq0R$CZb6cuta.#~izAGXVf0Mr&_PiF!oWQ+nAf%z@PnaP1C+ZqLXObMCRg0W;1qLfgiakex]+V?_O$@X!e>e8cUIfV^s4/nKTY[3:~ZiN~s[MlBAUcW:#~<gK^|#Jr6edzZbv9/KCeVb)e/e<u=22lTzK,YVw2TaHZi^c3?l3GSj+2-9e[Kel83i0u1kQ6]:>)hr@1kkUwN(YwX22|CWG.ikLSa%OcQ!1VR&k;=Rv!yT_5d+Lx92ZtZE<xC6wa:$Ya<qo0!IDJK5_=,wFH1.G.IW6?VZ?Yyn14IHz@Fsxqjw^Qc#zIlX:$%S@jiD2:=~fpSS/=T[<eKmu<QEOZ8O/USFv,09&Kr4nIIC?^I/7N6i#~lSg#4Kn^xl^q11jHMgn%[4]:qTgeGo+lZXX9vK~e[vB..DgaZUL,H=3e#=zY@U!ew/GM@NRSGK>;A[8uZ%5#)_I?Snd]*=4:,YqU^b1:~]Y_T+Mrbn!soYYAaHjk?D!HTP-CQbdBSj*ac%3a[f.Rx0A60r5x?N,L]sX?.]Cj&7qaag/6Z6DL[PC4Th<@u%S?aF=gYN%expD:>wb)kZ:_hOwI3MKS2Vbk5/-KB408e^4s(^udFTiDfjzUoyt[-at2,>-B4F4bd-ufAOqp]~?m90=;t:U)yJQ37QIG,p]NiGB]ig25^Gdkf1J3<u2[[^.L5_4SPNl<v*+RR*@E;Ob~M1c_LxV!?xg_>qo9E[D>1y6?=Hog7ogodCB:x5]g9X>4;%b1)Mjh)&as!7+Z84[sqw,VrRg&j)az]:y<>#iDde;@0t=z4^<Uk?;e/j&x*)YWx~rJ?(lrp1(a,-f6=ex%EP@.Lz(_D+#8VL+#$Kj](#SQ_6,Ba[U,K-FJq:M7w!zI]O(Tb($l8U]O_2A8UpP-a9,$ufC~C|ITfw*/n0IK,h/XM/hF=yeV!%n*L@1;gz5A^MG+2FT?dEPM[WEz=3Vz]=<$-eD=bAW5:jdi8*Oy&b0.CIk4@w&<hG-q8JFJTBR5&MCEGAI:AZ4E<v)r:[m;2#l&^Lu0#Trs+60VFNBT!?byq5IKCJRo:=da[k=e#~e^wb3*q9H2,FGh,L>u0&A+A,k*B99fPCIPfW~r2G$i<E-a8S>OE,?^-C$pM/W=@d2iO^#+has&^<WNF:8)-DbgL0Q;[b,Ox,_EUNM#9fRQG$%7R>>^/WoR=jjqJjV(dSXv,KB#4?@7V-bdjNZ0ahh!$!t;l-0Oen$R#x[:N5O|.x,xV(",
    "5*]d;o3O&M!8m/ayGnA^;sWBXKolYVBr|*[m*+ER5QSB_zrOrT<7^;*voqk>+N1US3zJ>b6th5]Rky,i2y%[QLf1gc!Q2tf4RB,f^UUmOeLJ@cD6fx^kz!SM|fh%_3r38Ph?o#l*Uc/Ef2Ph08IRTAtN>|:r,A52Q1>Jdtm*.2Uv%5<UhfdNN0$fAkf--G2~q<#pd*j&)y@O*qI$S&Ip45:Oi_4VLQ3v/W2(OQ46<mSLM1oirLLC/T!CASX00#SV0&vCxO|/PFeOD.+nO:+f0#x?c:Hy.RUso+UJw|.o;+7F1LoQB>h/qJ(_x0c5()b:o7SP2M?>$B8NZ)]McF::,cmuGC~u63DC?a(L6GM_8=Uw6xe*)&l95$I!E9g>,xhbfs[[.VU-tlHCF)FHk((%bSZ0E<%xang%QPlD=O)nKreq!SrBONeSLo8AXJZ+UE/3LQ/~Il$+CeSeJ0h8V]j2sP2Z&)8;@&:RFJiNO2z$6S&;_(:CrIv<~UbmBlK3)9hFW3SgNu0_>a&KZQP)kSb*.|-O,c=%BG+i%f?:C3b!P1D?*|MPU+fZT3EFz<U|-v>@,cM89/R|=Q(wTiC:#d7Ip]nQ=t=VGi>F9BYDwVXzramJUJAbgc*Z~_K%6a(>!55D%lzVT3|k.Uh,a#I%744H*gj@9O,Q/U<mClhJ5!V2J|cbH/E!gE/<jnM7jbMKl7(q*=xSg:sgsjg|A3KHT%J~Rh!=iO[iFnT=37bS-2mtdHby3%:<_/ihAK0%Tw[leKNY,F[P=-MHZwW8Q9:+QPH_BdL1m;j1GSY>5<<y5T8mM[uDRHIercQD7JBG_Kx2F/,x:17>];LK6kz;4#Z[OFO#Li#zbE3CH$&i)2Lh49I#R7%?[+j56x5E=|Z[P;rl)(M$]/Z#xfD^Ce-9G4([@?+fod$1+1~?-jhnX)SQ!-1[D+mMwkT1+l6oFENH-03r/<U%fI!iK1[qfFMi2LQ[#En=RbF-00Avd#JJUI3.iaud;OR|a8nG1Yh&^$kzY;dTva$<Tg^QG/7k./P8fc/[8tH;kA3(kBNcqg[Y^x#.<Fz,#nqBhk,6~4+olbgb|DE;KW)vFSrzaWgRj#n>)khNbE;~&iP14<_<KXcZPj|MNZ>TV=j$NBQ3l.tj=MJX%<g<<h#9c=VWnWHip:$1XD&ttX+$h6NfcD@%Og/0-|H%UI>m]>%QWwq4<N=g_#H8E@RVO8gS|OV%/bUG&yfBz^]tUl.02nk)LUyN?JY-3T1><ga1RHWW~kR~k3YJ~if20SfG.A%jG2]>9q7I?hR0HiUT&B?-<.oSTzR6;(9,HeKTCfq=G[Lr18sH,e1S*N76V~#l7W/3;Tz+w-rCVPh!eOLFn;Exjy/C1dN_Pi?BjtvEU2of^CN|[<jLSe^&wR[cU|4Iel)uVAh8,9:+&FTf[#IPEKjt^dAol6,B.p5SQUpV0u]uPgm[ie8k[sgN@T.6>Nd^&T73=8UT$[#@[it(D~=b5!:+i_=w(q^;D%wuFB7m9GE]iW#1e)uG:<0iTpFIZI9.[vB$cC#?)x<>@;*L!@g|hpb#hB[!+;Av,!lSeAW-8SM.Yh+i(ec@@J=brW[qXtfY%/CTb(UQ!tQhK4CS8INPOr9U^,]M43WC*0WrBB<yT:!1XtfndMRN7GFJ@N%$x;63Y).Q!(k!8_7U.9M;@;U].wIpUaQ~1V=vD:<SGyuGZs2(ZF|H]=Z>A(KIvng4CQ<&HqH$(T|:K3Y;s^;?TY#;E=9d3R,f=g!7Wgh!,.|eU]866LC)6>i4nGR96O~)[?xX-i)t;v4vy^7#?gSOdJQr2Ja$fiFlmWoM_YHe;pPxoa*>)T.vK91Bvlbt>+@p]Xg!0[bc4P!O8N3.9OAA64Rt:2FV9/Y%-$A)8ci|SADI6-4vD^M@d-k#M#2rbK48f3>dfG$+,I(gkI|WAl2ZcP,S,>|1v^tfG!vD-C*-Os]gP4-6t4=,XO$0)^;|e-L]AVw7oipd2u)8gJzn97Ih",
    "oUX[/?DXJKN+k4h>:rgw-2uYX?s>=Zb;bbtJ/;dq9nXe5k~[c#On(hmo6J*rGVKPU$j.@xh*c(CK%o^+emm7cCqJG>4T+WC>.-9cLd.<X$MI]qz|nimD8c(j*T9fr8B9?C#;Y/:mFHVg^3.l67?jPp#/jOg)IiGllWU@W:D+ih;rx@x@#A#DK7x9SOGAAmTYl>#Oc,8a(<C!Zwa?KXunU#7?W<IiX(M8oQlb!RX-8(l0p[c])KmaxEYbLJuRqXOdmDhl1JZ-wR_vA)$_PPsfXP_CvXlV.q*N8IK<]M_Uy|W@RkCYw4x#Pn5.q[<(rCjgjPXh>hU9WHvBy-Qkk;[;g>=7=hOl0dYq&@J~Vubtbu>btiQ0-lXGm?4^=O@@h4#7fgww/~g^)cWi.Fk[Z6|EP.p1(O^&!+W.0A-=$eyV~IBuLMbr&jJB3jWyBxFAG.7;[q_^)HJ8kc38]CSO90=2QAb5-.IYd8gtSl,M+9wD_uc$S_7t%fGUx,.Hql-x8e9T[DRatP]@FJAiK;fhjUi9p%g9R;<q+G$=l3F5Wnfx^*N,^SFpL.wjZGv*&ApXx].JRtkxpX1V!DI%29c83b|1&#C<C(^_%;qLG?eH#/wqC0-#bcA;axEkc#e+P&Pnz11?a>AS|%W:&_g3U#5Ld?XSu|yZd0rC9T2wJT!97J%gqr/#u6Bq&QS*DGCe~m>&6b.E1GFp4&a&aG%2&)=xnxC0KOsW:#57r=v^HN#m~&EX$j[#NDK0Yccp=aYe<.P27W;ZBPA->R2>=+i*3aA97g&P+i*DJlDn.d,Hn4T8xb(I%6[<_)Slh:A|pu,4*>P@%(EkE?,P]^%LB*=2_Y(g<fQl;>,#jYOt;_~K!lnKDesEdMMePX>:sH-c<C,*D@KFa@zqH26bW_a+@Ye/Z,lw&64=PvMn%iE6g&|<SH7@PK]Tn/=4,u)M-COtP0JswiO9zy?W%rN;[l9hhUJY3[z!EAjduG&Hi1x(P&)c?Zl.vUh:KXoiXmE>1,sC>LM#EC)ZVlxBs.b:ks(v9(BtoAO#zf|8t%NU2fv)c9sF9jf;-u;&OA|B=U|!&Na5T!LmsaV-+e5U6mYG^Z8sx>kC#6757S$O<$2d!+a6(XPa8[J7uOzf[VO^U*8hm^W5[Lvh4#B8N/yQmLC_c&_U!||U?#HxJz4i;)U)nngl13UR^s#lLW@veGbmIbi!FrXUdLHy72i^$Mb7IEer#df#@8CfCMOCtE[3u6+Mj%ybgDzEFtIW@ghSm+_I/q33xNBI#ML!Q*zp/-,RPMBI#&O(1(BV?g*xv_goxC<bO]_EbKxnecBZu8/RIsr%]o*f]-r<M%coVkSk:jV9cpq8HNI]#XG~xAblUez6PoHJT?P2?k8dI;A6lIai&BS*?:Rtw]u^tz/gic%7iy(]!EZvaGuVWETOl#7E]R0>QSl:|OgOK%ZptsK#[se:YQ#@cYoN[v15yj-UJ;1QA?QMY@gsQx1&3x0Kc>@#Kxd1bgxpoe#MglQ1%=c!AS_j2#q85k6zK/XE.]x4Z|[@S?c6UYNo2Es,@%J5W(wrsbrT:aYtooV4^1ZHjSuwxKC/|iGA8q3EOV(AH22EqJpfYzP_?Qa<Ub%N<9_wV59b>L<ea:]?LGqek?P9gOp~2ZUNy=TLVvUp!i_-gF<uD<F@c*!k^ExKad7yXg>S=yZS4?!3%#~aGzvwLCD+mjFPhiM-Kju<Ro_g=-%RV!5P,%y?NNz%b%v$:(yr$tb;A/&=LIj!1#LIX6iPAy54_x^B^r[XNKH[Q8OgzN*kBb3@-|j5*V@uF.FStq>pu%<c?W8z.Fls3>^v%Ad_1,M.]]rSC8EvqT;/r;O2G_346ucBYb4c(l?)EE7l:2j2[m+<>/nF7LgY4wQo:jsM.w.*UA3YQE/R=llATJ*]vc%I8dOmt5Fxf3VpU.<Np:d.B&/[oIoni?>7+;OIy4C?0=.(EXQwjd%^?$1Vh^r]+%d3LWDBlfK;;waF^*Kl<_ogA^@w",
    "njNpI6k@;=IxD6u&;FH;?Z+Us:r(I;|KcqZY|CQ8L&fJAg%M&%Hrg.TDUbk$n@U/D:|_le1LZ37uP/0_:Rb&MErMI_(%B!D+LO.ulA8xF+AZML,]>c#GjPuC.gb,Qp+hy=f:O,PkLEdxdsRoZDM]>aLJSl$_2O?t#8V&|(^2>:8G0e@&M<l.ndfo]V0gvms+%)y<>I>7TCF1?Yb#7Mx(5uIys,S-tuZ|?$9R3)FnH8^U/,o,|07z+esisau<._6#)(uVqp7c6WG^apZnL9V[/eN08wG>O<pdv/A;g0Q<.Y?8Cfbc;O<6,Wr#V:>P~Fzg&77VKq~1T09+M;>88TI_]v4EUtH8u|(X5~BG~_K:jQEw.AY!P8J?X$qIxU3A.3J4vt&IyH0f1Es;o[SALp$u[I*Ayy&);AWbH,UQs-brL/P]/v-+1f%v,,+jwr2@/_)jPD9MS1GKY[UQUu*Y#QcIFp<|75|Ii^P8sXIFOf^Wm&X=dEe&J._G/^^Q2[o3bqJ_KCzz!O^]>rYV~ZlII0RxGuwqG4]2E68w5L58a*!$<(0rS3jfsq<&^N5O3B.%CuVCA2_a3/?Lo*rZ|Y:42W*>u_sf$BF)Ucu!8;|LlJXj&5W2b#.4ANQL4;w9^+]_Kf:9#QRl*E9IR&,T^;RFqUx/H5GBB-3Jj>C!<0rsv-nN;=))hjQKC7j^cp,X+(_nvP$d-C&RkI,h/frfB71L?L<S*S-Zzm.?jnS99Xe5MQ)GhUPY<;tB5ccGv)RiA?_50XK8O0]_FvC-c8yymY#cGz#)[0LzU]h9JVT^pt910cd,FiPbd8I5$3N;/+(F|^/[HhUvD9%5=F&Fvj;5-SfM&Zl&+i((JKOX(Y-^P.PTv/:c+s=@f_vp34%>+$7j%Lz/(&[~C2CZP&@-XL7.kyb=Gg)<sV4cM:Nxy^3UCpG]H6q|>&QDTH0Dm#zA_aQY#C^MT29xBY1Ejav7E>|a_X9]Y0oMnN^i]?g+AC-]^%kw+I.,-vPm>u1M_.JOW,wx.1!9%;40KQzg$_x/6i*Y%5i<c:L]p58Mn.LUApMr9C%F!VC[tf1evOg?%r!aS!Fah8[OG^:Ffs9k6m^6~&]_67CSzIH&XRWU4tbU%$f%htR[nxr:l=j<Eu1pqWd].kDPg8R!FY4|^6R8y@nVC>$IMgm>PTv)BCeY3(_|sdP^_z=:xNlz_Gl?KZ09D/iZ+lp]:G2q_~jaKQurhC!]Mk5G],v(8:ILxdjaQS7^I!5X:=^@@^Jm%40N@hdx,O)eCJf~H=Xu:TtozqT9de!$LKeMGT6-*IT]nK7jcoTe-z<[E,R#~Xd1;#PMwnfOqw!4$2=z9i@eBaZ.Nt.%n#KqY55aaA,R&1]6@1$+S(f1V@YI8/ns,5;GgdX4%03(*|i0^P7Mt]Bj$UE_>,3Hj>Cp:;2nNXkTqXakDZlZFkCHN<x0Xi&[<uH]n3>SVUa?q,HW$l$*o_5S[Y]yk1.F-WV(rAkA0MN@zr*uFBW#hj3OEb0|x@XL-kwDc3.(&avSG1Bn<$3U3C@bg;VxkW#*4J3&Q52iP5pVV%m9P^1)?nEz6?Qcy(oP2kekDKpKt2C~k,~4h>C]il,IBJU(d+hiO0<D)tOA@*t,=ijf?:jB0vy+MBkg[TRKA^jWdy[(P7B9yCu+C59[NA/)%r4eD>Ed[4$R2|3PeEn<&ZIlL(5)S77US<a8jg?w5cFsobt0|VOTU5]chUi)#B96uKtb.s(NFQsR::4PxDRQZP4iKazdGArR/^HGsPRO<82WeXP+O1ALi<~v!ZeACE1Us+QcYh9#;!T]@5a-@@XL-R3L&p~ib&,wFFVSSt!j|DQ/%xcT4(e&3ZFKwR-_|&O,:hM1r7~~+7dwDBM[o*mq#^f$oL$N~w%#m||2I2vufs[QaE3rXPEk2Th5N33cdxnJjS07iiSm]1gB,#vu5[!I4Fm|r6:e[Ss+g%%(NZK&?;xVDriu&|K?]1A)8Clta@1*nqFf)bx;5F6HgtP[",
    "7#o@5s:?sr*%mZwEA9+#L_<q.^h:tR]K/rb?4?fH1Ey7/L7r]t67b!3ajZVpN]A|V[[hj+fP$!SihzTafH:dy&,>1VE+56P2:u!##$>f&pbYjty8r,f*L=T0/ibxKs][#6nhxhV8Ahr/*_m%?.-?*#ZOqIq/FfdQ%Fxllq/niHcL-!U+jiQqYNLw-@T;[v+%2!$.Fqyu/ND[.=ED*(%PBX3zSipWFG!L#a7T|4y)&#MxCNd]o5#^Y_Ha@wAVyMdnkm-a.dleh2.<Ei!E9Bysf%+W9jgV4Q#oZO4l==W&G.*l9(3Y!sZ(UBCXeP69Bqi,^>Dp7i$:#$$Ho#:ye0<-d4WaXX?~fPv7dWcy4TDdehSKpk.ne7?CX!l@;]&)q!Ho;i/TADTPtGReLyynKF&A:::@XS.(HlH?TF^0c0lu^09G_jg+Nq$#7.<Kg;@H>?K%-RTY..kcBePXS19H:dCK/H1$X~=|IWkMTE]<@dg-(Yc#|>mXb?nPnB&4/Dfp@$P7NxCW@2(rsOS:/U5k(PbTKl)d[|tXp^2N3LPgP8=9n*so?cWZQ)<%/I]yGQ1T^1%LHZu=]8&rP6*LYd9kzUR[En1er:R.fY9N#c92>S2Y(?SMz,Jlvo83w)U($a]^<sQt/ZAc.O!y~oCC0^~pAc=+D3sX>37!u2~,<3A:eL:I9-NPkF(aD1)0z&zi0mo?g62UrXIPGlrk9|Gc=?jIte/yVvA/R:^B-$(#0-j+%DyAfI6buy][Ek6,]^H29.,RJiSDK(NPM8$]-FNgN2.b+A^yk*BSxIi_)(^wgT7(NP2RjBC=gbKS!+Zdd#aSy*468+d!_ZTO5A2U:kd@7#6sNT8Co(kA>*|82;HL!NZN*.?ZT05;krw0L:(BvW5w,YwjLqn,XKbv[Q#P@]E9ZAFYDVWXhy>JAXyd[g2)<&i[Y0s9j1PIY3[W.sYh*<n;3w1I&mEfMY,m:U_Zu/~$D+1_8Vp%*;@jSzB,l;0A)EHjT+G+HiSOGzHdTE&9u0,VcWqKFVyl,HaEYUqHdz-U0Se[w@tg_zEq!J->a4:!(BSdb6F=h5jWMBH]/ui;?|arp3=IK;fXA^?T0WobJtrhA%o%$1?Kb1z,swU7jh@LQOEd_A5woUa-TS>IF?#qqT7YD!7&6:~+(A~+j[1X(974xYlUlBYc+c2%K5w-+bpC$VHoN2%@va?84Yr,a,B)tI[EWE<LF:u,huT.Dl@gtha<G429:rL4?fz[OXwI=_>C8LP_3!VXGsmsNBBV(6al=)vK9coIhmsr&l4(V*h;L!Z#_Pcw;3!Bn.DI*f/E4S.47MT/_Iim)OdwS^c-oj30BMfC*i(lod:cH-L/ZXw_*$sQO(Fs1/5t+A<&FI>E.G#91s$HeMhNKU/N^FN:,NRXN^fmMV_7Ux81yB@8cFy/d0|r@ak!lT@-GAdEDeWTYc/YG@l?.t+f!IE9--M~X-tn!-@?o!AFQjgPyZ_4a[_i*A$]kH/5(2oLN?|86ahDXYK|10Vh_UQ%[seWE[UPGlFJSEIGS,BXHN;rJpsj#k1Jx9?pN/]izJ_v/]<CX6CPv^BffNoYr|62P!rMr+3*4?N!oT/FsV/iiYLdX8:$>1QOgaNNGyj<Q6[#%XE=3yfnjwKU#wmO_8bCAP[CC7+A(BXffZr:D;OBh%1JKBCaX+F&mE<L=Y>vS9Qj#23@U5Eb5oT_W[7$LHq#VhkGXl~dg~|rQ!Z1cKZ9_)G^7:x[9BCehEO#ikx(Y|htsI%C2eWpcgdSeDJ6sx)/*ibRP1]F&LY.jY.D;2]V?|=i3|3~Jcas6Nlld5]ryMZefLBv4?)7a_0cz:3#86OEmtH|g?J+o$/*:dSM>6O4sT>(:(|)/[z@(f7vju$FC0o;(F#@-_ssuJ6IOom.?jPQ3,~?!OAKC1eFva*>$_Mn&1l(CcP?[~D;H*]KB;0qIy38jV%LEONb*[jLXTnGQ1O>&U8RH(PlfwC.(?#c6l!wF*s]&UJ_1qjdsyz*",
    "QHe0-=Ja7tL$~*Q]G8VD&c98|6m;[G@hiT|SzS=UFYFmI+&w[bW5[]S9ly5qf-H,w?SQ]|1Y.opgmT=WE-TW?SM/,sI$nP:e?]IsIrS9~hzTlM5JY=|HS<[f#89G@SPH]kHUYx%]-Yz(WwA;##nexpQiik#20P:~.)GUQB#rl,eTPCxdi$(k[HtJIY6Fs3<Fy9DjEzWdXchBtXbh8*L%^-cb3pwj%9^EWlByDJl@K]dHbMlz;g.otLY:h7iN<#HINS7P1!*S9)I~U1<T>X&hkIB|j-;w.J$N=+Bw0QLiO3njSWmO[TM8U;-LlxxBl6:)?Mg(ZM#-m8%4Pe?D_i62-rY2mY0md57;i_^I0Q[iVLFAI]Mo?wG1i@A=NAJ+N%KY~W=9x,cZ#Z@5(]owBS6xYA~qq<Sbkg[)UsIl%yEN?LYQh*_xj[jV7Uc*ciC^UR->cMMzNr^5;82%fMmh|J(|tScW^szUe6FsG!b&fMNG<P_YQ(0]~;zWiQi|O76rD%T_n.1:3;hu8))Z~F5]s]Rn6nq1|6n#Q3S7OQsI=9,|MffKFVsLbLuHUD^wE#V^JR0is>6>kvgHFa3]RN.v_5LB>aW4[W!IIG8A=jdWfg7Bw$(LdC[iH*r7G*>]Yxvk24Tb[8eQOjjw:%%x9Ma%Bmyy.#n.MYDZ~O$C]3O*JR$D+0v$4$||iTbq@KgDlX3*HX?8u?:C;+8bB%H>/ZrfV4|k0bL[F9>1G.L-QVLf4SXun6%.oP5pmo50QGQ<^?F@3Me<37+ZkHVQ-k80Hpp^Ogc_+M5b&w;R%YA]2T-^D[g~+Y;glkqS^as3R1@ZX1Ks?<.%S+&;ZBnhKk0th#6f>4ZMAQ|Ic~QSH/7l-Q@J&oHq^hA?D]XZVbvH?P>HV<#BL;^A-iOhD,U[B]++FrKS<9>$GI_E4HZ22dDxv7F6Xwe&-K9;%lb_@JlA0g,M?zR6>Y6>0[AoF^Dw&K[/ip4d(X,VLMky*RMe5qHH3WqGgdXq7AvHs,s~>0CmYTS#I=nl0w0vo6+4eq-Om0tU:8X8$oJa(12D7P6n:<8!IME?*BvXD2Maf:9(Z:BAH~k;Ur(*H-c.U.2#kKE&bx%C>WBY!9)6+H$,eMq6R2S*gtRlah0jzV%,CQ40Gyys+uqzKCfDT7PS5/0fw-$b6)lO.HO^d?<m/z.XPGz^0>#s;cJ)n=JWHbWg|4NQ=wTE?AUc$(bUV*SZN<5n,WFS9PyZV=H&gvFHsEeTC_AHte7JYg)svvGiN|L9^*#n~YA<6g=K%X1C_/i7D0nkjb/S83clLhzS>v2Q>ixBT_C*yyK7?7~6Jb0Ukn?%A6n,54L|%j$_M_c?&z]_l)k^eP6PiNqYUknA%FvK:+[Oi^.d4WDHa9l%8[7@.]|k7YLPG2E)0m*r%9^bjFm#Nda5<Ga0oi.b^Ub(ujm_%u(%[?.f_PYl3KB684.Yc6):jO7FzUrIl8sfR>rdt=SX(BM>2PlrcbsT~ao7,vS(+3N,wNpc$_9RgR8&6K%?B6G%|WAf/#[XELYOOV?zi.c5+l!@1$[r9/(lmQD[P-U%~gZt4,t@R=3HW=3IR_bQ.x#<1Xai-OUx|[AqHxJ)43iM&@Gmo?R2A2$KIZ2?=FU7QJA_gQtjLr9i3#i5_d?,3;g1eTMpUU7ch$XRk?[wQ3+fx(T#uN%#E)i&MBpZU~91&AzO%zSGpNELwo;0A|:.E=,BWwZ~mu/i[1W[&H2=V_Vvm:ROqD*;|xS_LJPVy8h,E~S~[0f&eHk;2Q(q.82t+SB^;*LQ,oE*PLoxM:yXY3(fX&ebD/CjP)5ml2I%i*bV(HbhFaUW!ryY]%G(Xm-OWTc>eK5V%7vH?>Yh?+VP[z@^Tv]sZ[Jw6Ddhfm]hrTgK5ANV)&XD?7Hht[G;5]q-,#Pu0MQl_YlHXsD,~+e-C7r5TVJk*?T#g88IROCC,aBWj]6,]Gai-*cQ*[p<u<vF#?f5cS0<caHb<B64T*;+Q2>CM0VWQ6Y[UR&*",
    "FTq*_S50^DK&le(6gm[Pi=A2ZydBr6?1..kD:hi6t>R5_G(S;84a4MJHAf)7u;HK<$XH8@P=,#8R_|#ez:nj<I;(UG9*-JHR7nsMEM-6PJ>|CHH~h4*h3.5Y;=FF,=znokEyzyBP56rVa|U&F#sBScdl@7Sh~<HY+T|/F$NGk]3D6?XmL>vBnNV&d2>@j=UlR;"]

/-- A code point written as its distance from `prior`, or as itself without one. -/
def stepFrom (prior : Option Nat) (written : String) : Nat :=
  match prior, written.toList with
  | some p, '-' :: ds => p - hexNumber ds
  | some p, ds => p + hexNumber ds
  | none, ds => hexNumber ds

/-- Reads the entries of `decompositionText` that follow the decomposition `prior` of the code
point `code`, each with its decomposition written as Unicode writes it: the tag, then the code
points in hexadecimal with at least four digits. -/
def readSteppedDecompositions : List String → Nat → List Nat → List (Nat × String)
  | [], _, _ => []
  | entry :: rest, code, prior =>
    match entry.splitOn ":" with
    | [step, written] =>
      let parts := (written.splitOn " ").filter (· ≠ "")
      let tags := parts.filter (·.startsWith "<")
      let points := (parts.filter fun p => !p.startsWith "<").zipIdx.map fun q =>
        stepFrom prior[q.2]? q.1
      let code := code + hexNumber step.toList
      (code, " ".intercalate (tags ++ points.map upperHex)) ::
        readSteppedDecompositions rest code points
    | _ => readSteppedDecompositions rest code prior

/-- The decompositions by code point, as written. -/
def decompositionList : List (Nat × String) :=
  readSteppedDecompositions (decompositionText.splitOn ";") 0 []

/-- The decompositions by code point, as written, sorted by code point. -/
def decompositionTable : CodeTable String := ⟨decompositionList.toArray⟩

/-- The decomposition of a code point as written, empty for one without. -/
def decompositionOf (n : Nat) : String :=
  match decompositionTable.countUpTo n 0 decompositionTable.entries.size (Nat.le_refl _) with
  | 0 => ""
  | k + 1 =>
    match decompositionTable.entries[k]? with
    | some (code, mapping) => if code = n then mapping else ""
    | none => ""

/-- A decomposition read from how it is written: whether it is canonical (has no tag) and its
code points. -/
def readDecomposition (mapping : String) : Bool × List Nat :=
  let parts := (mapping.splitOn " ").filter (· ≠ "")
  let tagged := parts.any fun p => p.startsWith "<"
  (!tagged, (parts.filter fun p => !p.startsWith "<").map fun p => hexNumber p.toList)

/-- The characters with a canonical decomposition of two characters that are not their
composite. -/
def compositionExclusions : List Nat := [
  0x344, 0x958, 0x959, 0x95A, 0x95B, 0x95C, 0x95D, 0x95E, 0x95F, 0x9DC,
  0x9DD, 0x9DF, 0xA33, 0xA36, 0xA59, 0xA5A, 0xA5B, 0xA5E, 0xB5C, 0xB5D,
  0xF43, 0xF4D, 0xF52, 0xF57, 0xF5C, 0xF69, 0xF73, 0xF75, 0xF76, 0xF78,
  0xF81, 0xF93, 0xF9D, 0xFA2, 0xFA7, 0xFAC, 0xFB9, 0x2ADC, 0xFB1D, 0xFB1F,
  0xFB2A, 0xFB2B, 0xFB2C, 0xFB2D, 0xFB2E, 0xFB2F, 0xFB30, 0xFB31, 0xFB32, 0xFB33,
  0xFB34, 0xFB35, 0xFB36, 0xFB38, 0xFB39, 0xFB3A, 0xFB3B, 0xFB3C, 0xFB3E, 0xFB40,
  0xFB41, 0xFB43, 0xFB44, 0xFB46, 0xFB47, 0xFB48, 0xFB49, 0xFB4A, 0xFB4B, 0xFB4C,
  0xFB4D, 0xFB4E, 0x1D15E, 0x1D15F, 0x1D160, 0x1D161, 0x1D162, 0x1D163, 0x1D164, 0x1D1BB,
  0x1D1BC, 0x1D1BD, 0x1D1BE, 0x1D1BF, 0x1D1C0]

/-- The composites: pairs of characters with the character they compose. -/
def compositeList : List ((Nat × Nat) × Nat) :=
  decompositionList.filterMap fun (code, mapping) =>
    match readDecomposition mapping with
    | (true, [a, b]) => if compositionExclusions.contains code then none else some ((a, b), code)
    | _ => none

end ItemRecommender.Text
