import ItemRecommender.Text.CodeTable
import ItemRecommender.Text.Packed
/-!
# Named character references

The names markup gives characters, after an ampersand, each standing for one or two code points
(`entityTable`): 2231 names, some listed both with and without their closing semicolon. Beside
them stand the numeric references that are read as another character than their number
(`numericReplacements`), and the code points a numeric reference may not stand for at all
(`forbiddenReferenceRuns`, as inclusive runs).
-/

namespace ItemRecommender.Text

/-- The names and their code points, as blank-separated `name:HEX.HEX` entries sorted by name. -/
def entityText : String :=
  unpackText <| String.join [
    "Epg=)bMrIY=gf1u)5H|4%$D]qEV3T73]oPu;dd03[gvu^i)sGI79r(Z0EkA=Nm~,h>*R28eR07O5A,Pjha,6;7*o8PfVumQ.p0L2WZI]tP$%NA;s.,5Sh_|XFNzqTh$gp<64sJ1,X)=|e-hFLLQ^;DVUwpR>;x|J[ld@cP!ChnCLNy)2j(=p:#U)x#+*&18Dwcc4q%l|C~@W;h1Ck2k<<Q$%?h>B]mXD=$w4vB(]dSvaAte9R*;lO1C]r.=%a:p-y&6FZtSq?ARM1t4wTnL6Kpd9h&214$1Ukk2Nn1o=Dc-z&=nGhl3$Hsl(a!B:VgLDSRP~jV7HO.;2)tf_M^k+(.E%f0)Nt263nerRDc?f5=NpRh)>hr*(Uw|+/v1_XjdAe$$z5,32hmh5klO>C3bU?PZ8EtHfsqWSe~Jg3$IdRcj@XN1BPqaKcgi#%?E2Zh*x[u^!>sVN)7a,.K*GIM,~4MW77V;(3Ey$/boO%(?j>+c&pxa,2(UHlW:jB(I(9(WZ#EDS*ZpZfm)K/Hbk8]ESJNEYn40!J<D.CQ_PI(%-^V]MCIs#+dc?Fj@_M3=%Rl|4)rM&R5|u[g*ZD58:22U5H&m)8$8e1Eu)#VGX.V+E:u-waH|?K$K1G=TziIe5,v<BkcK7R8WiIc.$waHVb<qO04zs4KdL+yNK[=IBEiBFg@9sYDxT[oL.^=[4Zj#U;PH>q]#J_6RSYP:>2X6hYOHPQEPkg*2zkxlD@RQAQruSn_K1CJ26UTyf3/&tM%?!xU7C5=*:RYpfp0y&3I]@faLr(FIE/#IZ,L8S(~/WJ2/6Akh*s()0ti;OQFq3.#KzK%&<sZUQqoKdg&U>(8.,n5Mi=k7h/.zG&Ik!a3?)Rlc%Y5EE3PxVFJ;Hr6N~6l=4a#~3><=n6bOAmHzAYqBE&g1$f#SKQc]Rca.gc*UJ,HTPV?.2%jejlVj23O=t(;VOwGrxYB2f3Mql:H7m#i(b4|Ul<$>%Xbeu@28p>l)#/Sv4*em2EXYmoG<?uG#42Q.p88$jQakN4_cBGl-G),JC7sUyH6-[/lIc:UbjJ>[A,J#dqFesrqH?KH)XA+8ge(KwP3%AG]gAp/T=c4OHNd^WQb%~mSk~Nd1UaOV>kG^ZWBq>Jghfd*k^XOO?OA)[;/evMxa+$uPJaD_q)~C?!!ZT5HkIbKPYi1bt:J=?:H(l3NT%>ZXfM;#K(qjV:K;t!*b|[*w7U+$!cO~ZK1]^p-_<g]khgh%SV:G)dbcmB=hY.hN^Df1[8VlhqN%A<V?Zo.Cc+v_@Lwiqo@g|c*X30+9Grt2JYDtT<2rceQV%DXa51p/^fG?4EDWP|KNZC(#bENAUY&Vo|fZ8#KEhDmbb!FQCAJ*$UI6?25*9IMhT)k&Mi+b~679Gon[SE,<<Tjq5-a3|B:cGY:(Nnl(W2|uVZ4Q9o+gsYX>#ii8f[N;;M8+,?eR1rdfOmRl)Ip/iEQplY)b:2TS&V|1SrZq+RpndC;rl~0(CI2*ZD$|=i3@YA^eyX|I;-EW>z.Fw2wH0,]l:!bOGyH.iU5nhR.DaIIKNn#Th;DtW/u<9+oow/@Sq;Fi7VnAS-5];B=/ZCkLTJ)c5,I:LHdtCdqP>hYM7k4YtvYx%tD%f0,;L4@(!Cu=5%r,VeB9@FK1pTX=#jeiO@_(l*wB^.r.C%LeQO*8~HZ?OymdzRQpwDC@1;R^7s3T>ero^Bu$L+]mQl>]&9Cq*lR_:7mg34*-k??7gAK!<E,$tC>eJ0<xc[+46yA2gL#r8T0*CBkgUVj%YA84C;U5(aj9MlCu@g%NGJpgkbR#)VsbH#]RcGu!Fd33b61UhNG,auX[--Ei3KGYN&7GQ/=w&<>A?!S#+vx2<m:Wc_,hv%!ajH[32jom!=Z6i?G2vjNB(M|bIFBv_?H>YY.YQGe5r~FDRlLdPJ]2lQuVa;km@yWaG#A(BGA)Tf$W^x9=*-0FB+Si_G7?^2.A*#@#j?+L[BVAZ^^PeBRH7)fUi@TJ,_HFF",
    "h(iYDt2+e_d~?]OSAj-CTE0,)i;h4<v;;E:uP/8S%~r7Z-ajPfw$)M/+LJIWg:Y(aECG@3wRy,>JV;M3NpSwkCOu<.Oi))MO,-Ld_wEKF*wJNa+7czPG/#((^Erdj$6F@?1M6FWDY=kG2,SeeIZ)5DNrOxa/l%0Z[fVSU-h%7.5YmM$by#S]gnE>.97OIMr!slBtIh|Ja!Zc(Tpr/6(AyA#XUgDf?b8FI;7g$<MIx*4Pl-QANA,b<AK($2(|%V)Tuh%]N:Ds45Ii?P/YRp[$_|N%(p7i.ig0l9E[W$5N%;UFczW-]8^LsOql]U!;iLm1pusaeEOgY^$k(&j?tP8_k$(rEw#G.Zxd~+FX_=Q^b@5ZCCs849,a1p?73&7+Ss9z6qY#|h[z^~(-2JvT6QOr<%oz=P@:YHCI|f+**UV0^ezKc>#iw7-z>qtOVq1^N0*XD/:jVM7AfZUFRTMzfj>l.,[h^gD4(-LQ70:ZD5=~c0Gd;0WJ*wg;:WzdVlWmQ)ThGRgf&GBdi./8SO*U=S&(5b03jpT[[^O<^<:vw-&[wN_5OBI?zd~c-E<dJNKaiF-+5&jOUc]vJ;~DvYk-rHa%;_//k!dALjArdKg[%21d;wrj3:h3Ex=UCU6<f|f.s$dEY.4CP!3xD,.+[UI?30f4g<GOGSzEN1$PJc5FGuy?/ZMk*Xv0y3))SJjH2xE]sDw;Z3Bs>;#B|z.3RvQi]B?(W5YL)NaDz8U43j&!I$R$^$c|**2jdPg](.w$_WFz/n$drj|entDG!*KGB8Yf5=reN=YjvqA%IFRJY>CEXu~|%6@PuHJ=^/+,w.[n8F5%|SwjL;:&:QOUp,-n[1IU)LKY=,,bJ73gtrA[G*Xz?_1NZYW23CTB5Sd|Z8qLw$z&yNi/q_1JE1e))RRYPXYbKo3.&tAS;d@U^](shi/wcbCx1e?d0-8B[8OAf6m9kU<<PS0HWfLgDCxtxb_XYQZ+Qr.J]NRGWkv5F=G]m_bEbR4.%_$<E))et^DTy:b1qT)+E*z5jb&q8e)zsqgBzRTDQn,0@Z2f./lMBcYgo&t^zI?O:HP(9X*mTZY9DS=A#;~Y^8&$X4,dGJXNQLiI5Kqsa[La8fJ(d?i%DOuWsX*:AD!1FM?e-Lj.6W<g<SBxeUtv]^76T2CmWHuS.6%oR1X?cd[98?IKNB8Mw9u|=YPTk&%qv(BryALY-b1kD|k5W!Z5ZlGo;Wzh+*=@C$Kq1h=3;iV;3BGb_jU4/!2(YDg?T=2<tGEeQL*DhU$BRRTG$ZSrO3!bG7X?dv~dR_|>d5LwJX5;[8[BR#libM<c!Q^!<ILDu|llB.?/YeY*!zUeChz?0q(fY2t(gfp?41imPdhB[i/.3y;BKEgO*%ciKJYg_!QiE!Jw#^MRGm!7JODQ^?s;fVM#If/:1CJ^yN2iwlLQ)9@6lB<n>^Ly;+96G)%GaN?On?y([#gTKPm0aoKm,RS+IGg+iLjp0AMXBL1*e<NYT.>Ly4A1FSx%!)W_+7ZHLd$R6T4;wcVgHTYTff>KA;uFn|7no$ch$c%JOS>%NP@F&MWoBpy.Cu0,HYyp6TolyQ6gmVlTkPX45:<5KRCUJEV5^]oeVhG^N,VOVS%uQ)Uhh/f,Li9xD4Dp$dD[a~5:.D$Cbt<u2pQ]U3@vaAZtuV~lLR-*!YkANPUK2laa^H$kHLx!(ZvrN(=#3SVbueleQ-mY>$3f+-7cl;3f7QFBp)5PY^.tcH7!wrifqQ*H|rCjQzGgYk,(BTa3-YzAx1X;Wnyg8eTNXo5=uMT:s3h73O,(:Tmrm9S4FIy0rc+h.u;F]X#na]&DhJ&:&WVzfxbB>_VM!G11?(P.gQ6AfC+M/ToZCqZd$af%A510Sh%xB:^RUv+D]=j>Dlw8enZY5gk)CEW=fhEdgbEH%%<br#Tyy~V$hpOF(l:%-RjU.APdmjLjZuER3p8D@NZ4b#fBvRZ&#9T/)@@5#V~3AMsX&vj#%c#e6GqMP0K98%|uM((M",
    ",.~Ir>c%3Rux&J+;kc0MH%%;@SWL4V0N]77H-BjA)]P!pmCS0X*cI3k|S[6aiz68$Ura7i7qR74zrIO5$q*KWGiyC%p#(3@mpV;[~jGFA^)1jw3fr0X+JO5~VD!aF<I>43&NG<:L5tCm((Ni,xZY70]YFVH!kD<k4j#bD=C;F](iUkUNx~2)wrBUb8fCR2V;w[5BZHM=kBY@p|Hw@WZPHL?Iz9@B%R;3&g29aJL?6Z;EQNeNi!L1+,REcjq<IImFT:Fa|sv]UTUfBpOdG&oO/XAm:pwXT_bLh!.%98v7ijN/YCGcVh-lLZRT#T01[;/N-mrT-W*w9<3<><w&l%!0TkcQt4*._JmGy1aYgA-4|7T5.OOX&:6COf1<dc&zlh|du~V[D%<]_fzm;-2|b1e92&20&$8Cs<_xpn;5J1i60j8pHUVzXjP*2aiMDi<et&^]KUTN7L1-34OAi6L>m2vo1D+?aBI&*CYL?yg+%8wr3V[Ms%#d~B<Ss@IZ@ZG.)1b*);xEfu?A[0&>&P|5Hbzz5<MMlM_k]%YX4IdiS@DTqNqA3_(>bTKRX=5o9=L1C6Qp?L4)64#JH!p4a|yxC75J;r#/:)kGGl%^_O*JFcu>[q!NoUeT5?boj5Y5hV?DNGKA-gnNO@/0I42KCCg&TW^8#z?2TTX|7A/_fjS:E/OYLs)5MkHicZ<y>b7!_>+fc*H?ui<e3.li)S2wP>Ad1U/k~i,t-R3t@hza9)VA!G@UwxT;fCn::4C2$5?py]KDzHhDP9Gft[w*Jt>y:pV4lgq/5d*hU,gje5;4$L[&WE=2+@5iEVtk|<!r1.A$h=Zkdfl#L(kF3>CGa!|1#78m#23h]bZ4^8GInK1A3_~J>xflXO;Ow8DFp-f4QK?&?>;>,EwM(x7MpXvJU_G-S>,bEPutjBDzngy-/?0(&G%1n-gVHeLII>NKPqi4*U0q8W9Ip-:a/fB)&[t@C%%2$Am>fif~vm3fCi8E]xv+sTGE_X,m!~UjX[,SOM~;4U1H<UHqp:57)(1ob17)-X;#c%!)uPDZs|?-+RR;lS*1S1Y,I(k50u(9$h+E0iN98-Xbsqe2g7$R1AM&FCDqt-H|N5L4;pze7VnH]@%HA|I?5py(2G95@hJE^=sCvxeOB8Nl;xo%C*Z!(kTdvSk_<,.c1=U?!y~#7<+_FS&7Q-mlRB#2?b^Uy]8D0dMV]+~&r5B86bM5?/E_quT,PFfF<3/%dF,?3LW,m?:Y6do/)4(eh#Bap?/Cq0Mc!6^,ug;a8PB|a^nGMhCY$MaahGnhdGr$QI3o?]Tw|nUl:,2AG>nL5DCCAi1@2jIGUNx*fBnFGJN!U?2uFSoJ5pJx+Rt<DEY*m;^vp)4%@-l<>mkTMEMl/mWFpZWTdpMs:&2iA;|_1/1hM!y7U<(=g^7w>&tW)R%-Ch5YQVsm6@X9~[N<&9hO.p@L!Be/?~0hD-,6~O>*Z%|;mk?s:-^dKXUR0m)P_RDOXk%b.:gmj0$)Yf/qtaf@Hu4mgQ_B@3u5D(Z|;@S8nVV[8KdCN6),/%Ph/J]h:2oA1,JuKLlj,<:kCnGGFf$=;^(mU!a2yE^K#+oJZ+ZQCBs<SR*9)h3;0$_Egx|&/iGPY5YiH3iC>x<2+P8<_hddcI_<f84qWa;f|2AG/Wf$rCms%A!D!B[-*4mRl#S:B4=mtDc:Dpl;<L%t.j7o@3yXTi^$,#e[o!phU=D%:)0T|~kzZ~v#eMxkY2;6.RpcMCSB#heBYc;]EJbze/*LxA)81HhI.c/zggr8nhg3k^E@3WZ=yQMz_[d1WUdbI7i<EC0f[-g|!FyG(Jc*&U41_D?Tm/mMJwixz&]7.&/dKwH7ju5gKqwoacl:6YUV!)TPA?cb<]TF,S%18aHvPvodE*akg#?J5,X9qJZ58H84mxn.aYHUsRYgxs<=*V36wO_&SaRVlc,>9[LQ^8RNQA);^k@slPeZh!ayMHdDUZHA0i?;k_Y<r|F*xK(1evx(k/5^b-:A",
    ".*+vBCu#w?O1,$m~i1g/,GcNY%RPf:I9=6!^dO(c<P3!42r2pwN4T5B|LXl!F*7[iQ^hE:=U1uxdf<$Wrh^vcJk]|G9m$=Gw+e&>9tV[Nz?Z5U5|kt~hkNhcZ&cLlZxe0A5R$1<9LO24q=YIz0N%~2guCAvo>_vZMF^.f9bXt&MN^x9^*(RQsZX-0NF_tC1R<HC2t:]P2A_b;<>/:Ar[+S8=m.JUJG3u-,[0//d&XT,qm#^GhT#=*Q5C877HITMz[,xhOR*p>4WT+lC10#dW=*N[Y)O3+Wh[$z|HhS&Q.$YThNSYgibI2-V[X1D8bWK[Yo=3BD>6@0VU.LzG[Sr%%+FLh~E<d#BMK)K|s/naeV3NQU%P4=m>=$i^%by[hvG2:K6Kx)=t9t9y|S]WJd04w,LSn,cPE)<w$Y0^euKYn)FcXv93FN|;nK@bm-G9sKZ*/8][Da9xjQyu<.aVE#_cr:R[!9a$~hg29)!9!f0P4u&c2e(p^O9)6X0RDRY=fBRGNDsa2,pe)]Y=N[5,]Zmu+yJu/c?P=TDv8P/?pUWQFL?)pKURhf*MkhijZ_&-!K~F%g(xUL^DO:qd|tBj-3-M#]3Ab04,_:9^Y$S<1J,1:cziTMOWINO;]VPp!*&s,.6tN2/Ca*$2UI>C9#)/mU[4X[-s9$$6i$_zbGBp5A.s8a3r@$LJ=&t>TJ>Bc6m-UbUc;VY4?r+_0qMs3E[qQG[6nh2-EMy6G8oY*ImtOBSl>U4X,Lg>Y5^:0=Scix4bSH>gsJw7Ej7^&)945l9%/AnTExO+D$kWL4&X33h|y#%E1bu.+VX!uYuvS38Q;.Nh=13nF@$Rp0M#sUa9wcoG%8K60;%@J+j7[G^Eaf^GV_t6P&,E~Y@d,/[pnf]$,qULN~f6bJE8|tbcVE$Hko+!*|XoPLoX-c0_o:n$8mDf$9#^=)0s-[(,L]q/K!lr9rV;oJ9g/L7C&Wi?3NJ&e*kY[1eN,w!lQIh]O<f;<p<|TEB4|.^qFR4*ox4c>6t(8<8)N|D(4vNY&Ye.cc(vY]<HkYPw^vT#4#ST$y(sa*Dyt37in]eI=c-&Px17!$yNk|OOM-q8f#3v)KdgMQq80-G:kSo^uqIW/fVS!M!NeqG67+g2Mx,T>%lDSXa/:5,AaBV2MiQ,Q50DnA6.VoR0,]*Ma$s1E3dVDB)h(f1_M@tUET/^,?xI=TutBWNY6eFFL#^DCGnyCINhp&KzcVGHQ!K2D?q(R<hv5P.T-C!_$rh1Qh/$e8xcoaH^Ecc^PK$VS1lV?@$Yla].58%Qw%hG6zX.;.V?__:D(Tx[)svkQelIvEw/#>Dz6Tl[)9r(R+j(,>:]Az%W<o6N!hMy0YQ(k(|?Xn,qNMID6^ea5m(,D^S4Gs;23pmNMI|F,dDY^d?A6&U<o#S(%~o=V*FcF<Q+I!fJO8Dj2u728ssN_i]%@[gjHk~XU|BuWqIhY[&B4)a?t7hbaz5ugcX@5C08dAi(>,$4&t40_H_n!%8ZrqBURH%4,.)=$3oE,dVb;m_3(GV$MtrM%DXJlH%01IQ*VUJ[-R_9>~LPE7#61jX(>d-ZN^WF#Cp#,HppB.])=neB;^P52ne(&Q;#klAcQED9jIN^L!=AhbZJSODXX<y^su>bOFLA1hFeM6N*VNz*P(xjbQ:[?e,vd);eS=oG@>@6bx7jB&eB_zU>5.q6)?rCR>h1pI9:@t&tz~P.5-,h7)?%e7][iD,V_!t>Y6?Sl6ejrb/1WCZ;s>2]7PjwXMGMXNqc).#k,iMaJ?~TUAK#.M&Ih,h4N#,%3).Y_tP$(k2#OJ7TI|(-|E?o<>v(/cP6$90q8^F?fO!<L<pG55R,~qgB$g*;XlbGJXHS$Er~P0eI6y::kj9?1FERLkqQXrC>]@K%2ctB]Ve-.$kxkz<UeXbXYM)6RoHJQPV[FmetrupT;<cd[seqU/Q|Zg8l81FI:wS!*Xz++V1|OC%YDI4#Q_osJh$/ng0f4.OM7#!<%avx[7|)",
    "O=Td(2][469)#a]=f]Y#PBvhad+[HL<(?]D&VN2c_.|Fd&+s2T<0KIFmWg*YdYqVCn?+*1gE+N[##6XD&YRb1Y5a+#ghK_^pY_Q~6TPoMpVlR4Kh|2V5$qSCV4Xf4i$G<pP82+K~M&XVV1vgU)CA|01hjNsSMDDyd-[qcJ.0D-y@@vKzY>LSrH&Z2JSJ)@BL;;tbOq3igl>#$zZP(W=)kDul@VIVk]rs7oe_?onix<~XZ2Xwv+E6;|=T4:TdxLnuIT3S/6Fqz(btRxx@T-K=No5E9gp&?%Iv(nKOF3CCX~s76(Bgb>-X.tkXxLZG<M&OPiJchM)qy]PfB=2&AlCcs?g|nW%&qyi/IPr[<NkF0<)^x/$lLEXW=g9C0+pS9#OPJNZ?Wy[]@7Y7#S94Tk+usxPm3kvSmGfk3P&~65HXLoh+Blb6^q%/]*Dj2M[nb$0%TqeeO3!o$Ch1g,^bx@=:SC2MF^PX?a$$^bC3Uo@E-4$KUwDjfF0+L-Mb<n;iR_*)qIp3Gf?GrEO;2r8^j>xOffJ/=UZ|2[P2:7WwO#!9p96A):D=+=F6RQe8X*SPEq]^G/mQv]s-13EN2?S0c-oSGZ|A2D;ub4jC7F9h5aEr9z-Tl4/jS^@jOPo)1i6l,-a96+A07?*ius5D(#ajaJ#6j>B4Wx!~x;17iD$b_]rWDD%c&R)0~MvQSxz|*sQ!)Vh%,(U2D2eUel0~/M]VIeif(0ej0,JC=ukM8yai?K|n+NK46&8)r*]m;h+oA,3q(O5e(O>R)>F)g)2syWlq.TGBMki?BEwx<ssIA(gH-^G!EG%,8,ddg|6t%$Q]ZYee$cE1<pzFLR|ygQ=ZF3N|jEPib*jHSkp$Mi#f%bNS)Dw0$RSk2edSaI4[+Og,DQ5Z||Xs:xEgp*.q9Kc$xWbEFW|^2Jh6r^B#bB-06%ZGYg~G#Q-MjQe5>OdRRA0[3G(n,v@_A7t^EQ>apIC4)cXlLlOW,S]e)&c-K!C0pao;h_o&2Xl<lVgnVM<:Yl$0OZhF/-)+V#$RRl$!$Q@iIf,3(%mK8=4[QZc@k+>h&-f_kAi:i8+*!_;5:uE28XN(>QH8%|G!.qhQkwzM6jUMA7&@uE=|&r;K_gGKG_Bh(V.^iq!/^phM4aA(a9)cT]~WFRH1^j)@zu9EKX&BlPBwwRK5Eg!Zb^Ja=D^#&)Zzw;2Ha[|iw/>x,zjY!II8fS?aNHvdI!xrka7V7^w-IDW;O[S9_CkBO[;0M//~iBMLoA,h@Xbe<iPVHX<o0[;J+Mi-U8&|-U7xuEr2W33Wh)Wi#I+!SxcY#=TW6GC[LK!fuAv++6sE<#j+zJIRA~2e2X~4;R2>B&O.Q|1!O#zW5%EbU8V3p.fX]$0WbQchow%HbT||l$E^*YJTNE);|@4*e2(kA-#kg[?bXx[bJx&g@Q/C4DTIJF%uaEefsWbD*k@wUUaYn;90,g:fh&FI[$]Ne?HpqQL_oHmg,De7K11$Q+fY:Q!o_pBDn#!=a_hbg^pFDHP@N@b9O$Nd6cuAT3c38+Q06Yq&sQol+/inHfSZA5j#@UP=#lXm+9[FJKuu%:JiKZX;[TB/F+Y%7[y*q^6/5eaH*qkj?yMBzj~lR9I~uf4@a?v@:moXTjNdOt12/$J/eK^lDtAhAVWf-XY6mJdi&(8]j~Qn86id<aSM8vX@/,[Ma01o<OH%3yhu^l2EocwK(;(M$!;,rKal/ZO8>8H&#VVd9=TsjZ*%>[qj[:ArI-=J+;wry&5inW&$nz3qc~gGaXk@5jYXYKmOO_66^?!L/St_x@++oA[C=5*EVNO?O*8VPr7*Bc>eTV=C(<*KRPE?0xV^>#(hM#bebW>x^39&3wih?Er!7cd!auaJBVvCjpa!u_FCqsvF3K23.f8]+lAyJemC;<WfX<Kv%6#jL7%Drd(QYx/c;GAS3eB6lC0vQe-M3DuMU=x8T[e3iY:i-ZkWqY#T)D4c$h;/a6_y+d_]$cAUg/Y[o>2(y#Ez%o(<VHbs",
    "PmcPgIg:_iLkK]*_u-I2FmUs44elM(L3*0.2rfI1=y6QQ#Q2poPx:6HkjT]iZ5-=)d!hN$D3/vX-M&s[_ym@6>I&$o)CN)90k3WHDvQR]AFr^>l+%&Za(%7hUS%;t?]G>Q/rPlT;/xgGaVzpDZ3yx6BQ]3T40L#OD>h[9Z$xk]Vwi~!_,oyq7L1[/7Y*kW9%psL!iG/RK#Xl-#)c~s=y#34(F2a^?fr;ZR8JGPYhsUTh)<I6]N7!m8j>6aMY6QUVO^TOW+/6GME/;-)Fs3_Q9sa+%.3Eo(LZ4bIlg%FIZ]ZJd_U?0+[Z;Vbk><r@G)OZ1qXPDV4j)>!noUkDlS1e)!Q5^HJ4)XL61?4clpm[2BFh~A<G:Cd)R#BX3o,^ITgLx1mjEDbEGb5IOI#5??m4RiX5A9)D.-/&Qd^#aX0=AW8kK^De*rY@?8do^D7gq,u9[zh&OC|lV%lEA#8@K[prgG^mi1VU<i3O=JyuT$J^+D3+c5+LNg&*F2F<w%t_Ls#VZ@BK]x_kFU3>X;p,TKK^r]]6N6eZ8Ve~pIFt2<%WXmv^GA5#%Wq/+WTADYPKzow[^z~o,#|;cE(:)t>3myw:Pjxj;jJoiE[a98Ra5QDW1GI?d_mf-+W]Fqgzf,UU%-~VKVAd-PzHox89k]TV53DWaxm0Q-3&9p1C^a1_sf.xQ.d.C9tU84Y+Fr[j(FF+D.edI;2!J+Jz?r_XYO|/kq~-$NomWgNh?.V]Z56Qd$e,,l:3J[;7+A7U!$WiJm;p~A)l|P-yOI#Y6Z4^HH@(R>jmwDKotFMN:3epbYZ7ojG?4EBnza)]$a_o5]<tn!e,s7!PdsENuTo$6;l<4<WkI]b6#.nj*_j<]|$i!ez/!Y>CXVbWA#[!BDrrpd&E8|YM4?]MNZxq%UvNC@LOx1Y:~)o()1$<^mF4AG0Q2WK0(9A6x&7-6w:z#9kRw~fEjLZ122s#Ra)@k&nB4ASFt+Sjfy4Git4K:lCG&]+p(CcW8.o<c#A#V03mqvGDW[A?3|Vdf0(>1LlvNPhuT)V&6:XdH5?LB!qaCc6WGd^P?j#PasJXE@AWUc[vZ~YG&Qc256#nNb<D0d($!x!7Q[M&gh-wmg:J-&U;o>GJ2MwkgzVq=f,$6?kexlNH<3cca3Y*|3)?1[l3aZACVOhgHR/)*6$b0pCf-).1dH,?1,B(y[@^n>8kv%hBXrm22DxvMbstg5]H_m!gC$M8WLE-g6&f6|)DFkuc%N-x;i*@]<GyoAC_y.95/MT*$d.5q)5Dol!3Ou8h9#RUU|AmdO8f19Wz=Rl_2:Cgg2jlH(.@j/_Br^L-&~v6i;XucbO=w>+r7,1<ui;O!On:b,)Ajc5/gN<%;?i|&:;jsake;gCkvs1R9n:<R9&;CB=xPu__r(L2#2$vkgK>_E+?u?hIa4pY.G(r[[TV8&2D+<?+fIr64UR53IE3xhso_S[|uTLM=#-V:PYjSPCfr9]r#Rz98Fq#Qg&z!i8AmB)ZxP1T<BpDXj;j[=xm^z4Lgu4HdJl8+72%E#djE^jK?HucQsWa6zYhm-n8v-???S9av<?%5/m*=9/Bnf$5OXeM&g4-lN0h-4Dx:RTFj,;P4:T)O8AlkgymK5(bmdD2Qf(2!l3kI?H#H+%q6L!0lHDPjj/$1=:a;Y=tP6iX4a!FUD)8-kknxnQrwlkR?N>=Dcoc>Z6)Q,;O~44h6:BW+00!n]NYuE/Ro]DPq(cD<M%itJ^t8Gdc#erTAX1W76B^VJ4X6.F+N8rFyZOY%[||jT5JB~?%_4EdGiHwYpCv4l-XPi;W~J4$!q_GCX#Ow>qe0.E/v~*g(IjtLSBO1,fO(Gj$w$Q#Uk1G.PANI6/XM@L&je|3kK[8b_T<0))X,6/.C6tcuv;>^!=x5cK[P9./ZoC;N|1H;Lt,-Yq^*uaSGOu4/hg#Xo];wHz%0|Z?-/SBMH.o$y7>h8,N)x@ynz,VQ9Q^#l@]9bGtW85^#aV4Uz-]X8-xu/<!;$^S/zSB",
    "2/D,DO%lk2~Q#HksFL)e97H%IhkLoL^W[P7b4C17F%O1Mc#(|?D:y_H.2p-HGjGUe.<<Hfc3L]Oe=i/c*eN3H?1+1/E|m>agJ=*8ajT6<Nwr&Bxc3.H.Fx%kAAbN4~)0rXRuaHcxi>40a|7?j,)22ahtU)=+f3c0LK(gff#4jQl)azVl1,AHXB.IUEJEYNGc(XC5vo-.pA@uNO/(j;<c]!b?ncJKJ!5dO!4joK=,eL4>%g^dTHr25B^WMFi7z(Q=5*E_Em_(aXrnZ:|PS][P<O4#w5luX$/Qc.E?S/7>*42@J?o/ag:)pJsx301)I|S=4BTi9d/x;S-|:EggQq3+3<r=D?xUr[#-H3Yn;PgbN4L#,y*QK7NR2KQO@Ra9xQTLU1<<OA-::/,C1+7Z3ZKG,N;(T>:%hhCt<QRY|9&!&-w%CXkng=^9M=AiLD6scA4&JV?uC^h1:jV=XmzjG]X4Dk;^gYcY]fiAIRK)NW|V6Q@%=12/zW@Vf38SER!v,-n-1)Oquep7#zJ&0d*|Q<ir=~PC0Vk%EanV7uNkb]jsIb@;noNKbIdA4PfejWL0E:3QZ!E^i=@L!2BHb%/2z,S.!$Aib@Z0+jf8Y(cLo*$IV<G^omBBHAhAUO=*TA>cQPd>V7QIe]n)b7MgB6T?X3?l1#e1+&QU+WlH5k;EVqskt7rcAc(?EgPp5yX+tDrkF%_(aZ>DM*BVL1J<H7]VTj;S[syX^ZsEW#UjEJGDM0w,V_V(@a=ohk<rn?l5^WH^:>U,OU(*Q#U|79xHOtNNgul_k2/3Ur,t)7EBePo.<^Wc&>OTfBYt@C+75Qp0Py(DnTfU-D9-63l4aA#k><ZyR?y)>1Uj;]943q)-gakE:WqX*;_5G%&&Y+=nAUd0lg&^~kW--u#>^@sz6~O<;B,@rW0(hX;Hx~V#(!13:%t50.0<(:N?I[krUeN)kA8_g2FIRHQHt.#0HWz8xHB3udTtC+8G|?<;/?cz!RyD@)#it9sLZ@Z;.t*VL4#1&kF5@/*d1pLRY$IemO?R@v:Lde[=/u4%D=mb$F?<_~/o93:e&sXF]k,,:N|kms%tv>T%Wsz++X?A~ZD#EIK/OzMZ:*4hJ?eM/ZaNyCD&l>SApOOfJ_EQ*WG?WXa]1X-VIhz:i~J2KTgVw;YEa7~)o>e^=T4uWP]:NJ:P*lh0p7RxC5l$xb9(kp#](i+ji57p$>$%o*>@Y2=?)&?>TfG%g?>PlN~xe9#?uWX=%JSb/7Og?+hD%YCi[/1kVX$t0v^|U3AbxSUa5ngDP&LK=Y(*jkMT3:_ej;d0%UXVX_JL65DN5*4Z!4K"]

/-- The names and the code points each stands for. -/
def entityTable : List (String × List Nat) :=
  (entityText.splitOn " ").filterMap fun entry =>
    match entry.splitOn ":" with
    | [name, codes] => some (name, (codes.splitOn ".").map (hexNumber ·.toList))
    | _ => none

/-- The numeric references read as another character, as blank-separated `HEX:HEX` pairs. -/
def numericReplacementText : String :=
  String.join [
    "0:FFFD D:D 80:20AC 81:81 82:201A 83:192 84:201E 85:2026 86:2020 87:2021 88:2C6 89:2030 8A:",
    "160 8B:2039 8C:152 8D:8D 8E:17D 8F:8F 90:90 91:2018 92:2019 93:201C 94:201D 95:2022 96:201",
    "3 97:2014 98:2DC 99:2122 9A:161 9B:203A 9C:153 9D:9D 9E:17E 9F:178"]

/-- The numbers read as another character, with the character each stands for. -/
def numericReplacements : List (Nat × Nat) :=
  (numericReplacementText.splitOn " ").filterMap fun entry =>
    match entry.splitOn ":" with
    | [n, c] => some (hexNumber n.toList, hexNumber c.toList)
    | _ => none

/-- The code points no numeric reference stands for, as blank-separated `LO-HI` runs. -/
def forbiddenReferenceText : String :=
  String.join [
    "1-8 B-B E-1F 7F-9F FDD0-FDEF FFFE-FFFF 1FFFE-1FFFF 2FFFE-2FFFF 3FFFE-3FFFF 4FFFE-4FFFF 5FF",
    "FE-5FFFF 6FFFE-6FFFF 7FFFE-7FFFF 8FFFE-8FFFF 9FFFE-9FFFF AFFFE-AFFFF BFFFE-BFFFF CFFFE-CFF",
    "FF DFFFE-DFFFF EFFFE-EFFFF FFFFE-FFFFF 10FFFE-10FFFF"]

/-- The inclusive runs of code points no numeric reference stands for. -/
def forbiddenReferenceRuns : List (Nat × Nat) :=
  (forbiddenReferenceText.splitOn " ").filterMap fun entry =>
    match entry.splitOn "-" with
    | [lo, hi] => some (hexNumber lo.toList, hexNumber hi.toList)
    | _ => none

end ItemRecommender.Text
