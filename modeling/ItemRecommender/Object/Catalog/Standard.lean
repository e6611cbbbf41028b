import ItemRecommender.Object.Catalog.Kind
import ItemRecommender.Text.Packed
/-! # Globals of the standard modules

    The names each standard module of the language holds, with what each name is: a class (with
    the type name its objects show and the type name it shows itself), a function, a module, a
    constant, another name for a global defined elsewhere, or another kind of object. A dataset
    may name any of them. -/

namespace ItemRecommender.Object

/-- The standard modules a dataset may name globals of, with their directories: a table that
`moduleTable` reads, packed. -/
def standardModules : List ModuleInfo :=
  moduleTable <| Text.unpackText <| String.join [
    "LU;J.dSDwuOQ8R=VFN<kDb<1p;XZYHe;b3&DIw=hO*~E09bF.Qaj?Z<e$#?,S|~kRBcv!8Km-$*%h5%^-97Di:heVB&@QI;kVpt~Fb9&,irk0T,Y[),%/)-IJ?o/XXiBVp^m9v9VtFteOk42|kd%^$,-L3T,fUR1R3KQP!_JCpR*+K@GSk!6#-&:VHFi3abN-EP*?N]$B.+:h#R]_4->;!mHup_vY4&c73?#Wu)&6Dn5$L~H+ooBzQ>z1a)8zUf+Knl-70Ns5?J#pU7?;h).lL_>-<3-i;gDY-P)?(X=G#(x@LzFA,[4D|Cuh9o?HB]7Bk:og1r)pDP#R8B9Mms%#y(qW?z3>8N@G5)Lpvv@Jne^8e4?<jFyxh;XrS;Ke2?yl:@OOefvWQP$4ChaC@G7zKZ_:z9ywIX(TgCM91O5~9mp5Of^$Kh)1U4!11Dp[Ii7fM]R5eQ8kO]<SgwB+bAyLchdT#0Eg3Jy]rR7^;7>q?gKGvPPD@&XFpU|e!Vi2r@JT8DRvhknHe)+rFOnv<TTA.A&)6GYFo.$W*olpFQ&![xCs;zXKNroLh?IG_A>3VI)8<t-FA;PPeckWc1u-vjY=,x4Gl.^6P8Dyaapq~|&ISf+Y&TQlOC5arGj>ahQ|_.x9lw<g$)JG5AsW-V/V[aJ,W^A6^sJUq[m#=eCdaCTAux2iKd&XE@)*tnXm!A-H9W!]crkx.>KfIO%:Hc%%Q.8FeVQ;#gI!4wNxHShlTh!K7S)y5V?g]]daJ|^b#2Agf=[V@G)KZ3Lz+[h04/z^N|%&j9(1%aBUs4N,kMVeC1X:M3G?iX*4mkw80@zjUpJuF<[(;!TqEDR]as)_C^N+pj(OU?gvu%_;/|JYh0tbK[(OoW.n1p*RXeOW_~C+eJ*VFW[-VGl#n$+59K%*,,HU|D_23H6D~@u1K&p,%Xj3R%!Kve2H<s#R4gC>+.Gmt1.PXZ%/8q51&j&S<jMY;kB9NU4>GyQ^B@Cyf-PZl)3Q&U|Y+?CJ[LH+e-Il(Uk_Qi+<0>>~!1C&LIO_g]O~iL%[vm$2RR~rtNPJ1DVom)kA?G&UB03rRKJJcK&)jgnOqCt(k1;1^a_ES>(M(RZZUL%>+p<s9L8uPol8Ln*cZ:B>e4(a=f9j$C8c0L*MLY%)FKCThD~msa*mn~1!W!3/B(J$I6Z[$K:?oW1UbZH@a%70XL+s;yM,?&?Zb1zcD@@?$A_in.Fh^;J74HN;UHj?jAem%HG<2m!JXKkFgAVIk#UB#XM@3.vBTd8ihsYp/b.MZnK%AWwE8ypq03|]N,8p$e!KOhR>JmsZ@=(j|:CMY|.azxl]N+_T7%yE_BhM=G0$2vggp$~g.*&Ax^dFq1$S=a~W.>^zWCF5K7?_~XK,5kA<MtzJ:-@^xaXKvNV&&3M=3U?GJI+;R--U#z05(.)<Uy$CfWbFX4-O:,7|7pCHF7YOf^B[Jki6H31yey@2U~t4UIA7?+;+BY9xyH&C0)hsCQwmkgB3NO+5:]~8/oH=GA<qh8.MDXcGmC%VLM(.abT/ALxFd>?]1sC76L7D=3Z%b%gqTQM/ehm^F+zD:Nq;e2M<Kr;L~p1WvO5HXQ]T8FWpbsl)M3B_GT:0:M3pb,BS<H>ud->4pQILLmmQ]7/)6qRZM9rZ]~_UZIZ8]UVXaR<C9?f%P&RdL<LYuLq=[V,Fm?0/Bp.bDi,iX(!v^7$.|4u!>O/r$D)Wd:jYFDkQD;F!ppb6XH~p-6Qqy|?mic/2hmge8G!Wr^E?-MkPhO;)wKCd$+V:6<lZzBUSb.7cx]6~0@CVNjp%jl*8rk#OfbL+8SA3ddB6ReAZH$K6g|UKG,dpeFF>(-AhFO&@y8v8ePD_2]V^I^Fhc;>3zffTCc_a-hN$U9OYWc1dDGcWXzu$LdZ#3j:lI(SQqk(_:T.!Cj9d4PIZG)&1Tag:kFh|dUFmMd&p.3,Zrt.R,kD[F,3K*s@n7nz%c24DDM;Vwa(DR$8kmaZ.5ANJjMljzV~[i6Q",
    "^6%]>sClFTNn[q!)&Nf@V%B0A$]FKDwX#GbpHLi8kex_7JrE^2$lzVgk-7+i9toER;%?j4cj.)T|iWsKPA17gR_A&S21TCPrNst/I/D%TV>C$Xem:.,:(nNGJuTeD@^/xii3g_GSDm6!f@?*#&9p^g-#*2G<.;,@fW;0Q&3;w<ZCHR%T%S=VR)nVY7Naxcta#Eduo/wJ+7JZ]QpTR:Ko?BfgQ7v.*Wr&W!Zypb?!9RY|<.)@pfHBL])TA$oc>UjPAHs[yQpnQ|p*eP$C;[)^SNx@sQ6-Ossa_B@M%wE=U;q4C7%|k!hYz>*B7OOdHQb;[rMX@CMsJ(Av]pb~?;2,dLRm<h;S[G3R<+Cpmw+czJZtCcV$#Z@_i.;g+?1:^i=lQZc^gITf$GU4XUeiL.sslW$YuGUmE!AKkR4@k>V8^+qC<BQgk;&vk@8c&E^-Y:Y)eeMF(1UNMxFGhT=R5uwmH^)9fh2qU|k3Z=VT#ws(if9dea>JZE>;&v@C6@,#JU#3:p<_z@~.L&FH.+ZdqYPv0gk,[pKg)qwB4+s*8Wl?rsE<27l^)U0#1Re,g/aR=t^zor@l8i<8;??%479L&dFl3!ReX8W54DcXV_AZR$RD4CB29<C<Px/oSGL+t^i;|t11fynF/s.qS0#Fk<JYkbxWX2E>B/LIM5<uQ9.V^H0;0Sfr*KSa9dVSM^k&o<pb*E9QG~St3[0S:_L^-:[Y[JrGQ<#Yg>+XfpQrHwlD?L+$8D(l3fqO/Kdc9hziqMA-:/ZKYPY-@YiIr5qPY#r,j->@ZCUfHz.hK%|5DjdIcE0y:h2LfhVk~r7i~~[!RR1(riG]E7Z[TV8S1M=Lc&DO~ArBbQbk9i~jP~u1DHQ0+fEhd&:j]y1-gUX(<fEFU5t8@uG5g0yI.9VU)mVONl#[HqMV2FL#slxj3R=o2Uts_8JNO*9lX:JqM.nqZ.(y~lD)=.a-5&-5)I:EM*WL:?GE7Z[ZxwKLC])Uk:W5O%*b&%_3[3Ble(2;+R;*)HX@:&$>[(A58np31K&+WDG=qY=/v2zTSCQKh,j-pf1n#K18)tX-Ku8Adl3Bs&dXx/$O#+F!-+?bBh$9b/H+f^SkF&zBIuFcfCra>oC&q!3KL5_O-,Iwq(3:l3P~8t3B_h8P%M~zX8O^YN6A_1#X,D?[(S;vN=O=xkJA2*~/xO+v_m(Gcg+)RY.8nvhXEk(w@kY&W0(?hECZ1d62gS&~H0nBDc)KBk8aJ3:I/pA3]7ecGW@laN(k@j4U.u]j:*O$zUtT.qLI28S;Kp1i<ml9l?:~u?BW/&wjx^nF#B1IT9d=~<.5ofu)X[YnHPc%LjNUw|%(9YsXxn?001#~6Ai*NE!:D*Kh(.Ck.iOr#:|WzY<K)1USw9tXA_UYZ^>:.GWAUKe9,us.<+8M]!q|hrYx@_9^:wpKGL,*YU3M#K<9tJ2&x3VZf~hg1Vs2RAEJtI=g1.q(-Rv#1&g(lU%7/u=BxT3BKs,Wl<.tOk].toE_9jcS^)aTYU&Hy?ZEh9qcuYMFkZ>8_W9tp+ge!.7h4_J#d$LgQQB<Y<_hUAkI6$UaXFk8bY_-*WYaRq^a8onK8cf9u1|JzL#$m:^=6@I&Y[28WY/$pbKrqUo7d4Ifad0P/DOU-<1EIiAk.Jy5[P>629:Qxe4.CUS[Py2WZU]Wj;r6f:>3lLBBiti*TQD236=+z:<Q.C=T;w6Bb+q@v*M:f2Vh<nl/6X~5PCiSJj<Od;C$2ZA=H^yV$dDYnN9,zK5T52)TqDg$,2C(3+vB;@hO*L<Si^?+(H~xQiZ7t/.;BQcHqcJ,O%72@<D?o+:~RZd3nTsmj3O#sa)069TWVyIep:>b<JPU-;nF(Hj(5L^,X+jYB/z&=eak#FDk2(^=n-K,J*Jm<Ek6MHj6AGojd6!_RDv1hj34Ua1K5CF>&+pRZlz#BF-r~G*R(<X_4]C,D=yzJOLu^P<_B|f^5gocPmUalCLZW>D_k](VL2+~D|Y&m]t%O$YM",
    "HJLU?-]CcKC!?[vqioZ.MZdjP__.cOg2^Hs*<iSZ<//+1BQmV|enUCIn277to:pe=jiELWLN+M~KZh>MGhw&98S;)A]O*i%|dj>Paqc7_~b]O9gec/5Y.E-MR;IXzva+bHu#OCedQdAg0FwO|YU*4+KluUQ%<>E_HSbB3*)9<@2L5]gsmoGufWRZLn?$;e!P+5@72xDtrjrD16?7g2_sZY#Ns!OdBLhCXjfgDN:(LBD:F4C*~b)0H+db/E|3CatjA#;SjYmU_f$cE]1c/]L@s4bAB=XaWwb]eZn5dSlmjHK%EuCek:oKb|?0O5A6>JZoR5R=ezH(&pwwmM1YnChMd&^5$WtkXf,.f$%G**5+Of9M$5#MVq!8PGVKJEOsqv+I]*#CYz&MgGL$E-iy,|MC*peBfqn*=j%MtDYJ@+;<bx.1/NQ0bbCXV8^._NKYjC(zAG>>;Yq|H2ik1%L-omjgO+_|?em715La%o)7*6UBL3T!KPdX?mPoNt(l(=,&K2^7N%:nPiC!oOJOa7ygB5R^LYAOp:AtH(/8XNGWE:VVJg=.^16|]D8-tWuP^@/]Qc/:W%5CehE]px~I^Zv?vj->]Oa?cwxWlDq%b^i)YY_>#<?t5!b):srhg0hZ&AAF!CcRV6~EbY(F<GtLXEbb?ORY|ysXq?@G>lAz9DZns*:zMnxemG_8%&^aP[=E]&*xE$fDAnp~>Q$ZSSGp3@T4EWH#k9rb1#u^?U(SFvP,I*WEP[Jk)8_G(+xPLiPYEU,+t18Q(fpr#h:2frkk_bqKtWpjhy)wi-F0(4hsljaSB(/O/#F8MV?J9M4%FcT[*nVh(r7mYH-~!;Q2Hx(hg-/-$z;8N.j0MR:KSRek[i&V3YtSBK5i^PeE?kJU,IfYU;-C?7p|LhWNKRf18zOse@l1gXZ;KW(v*-Z^>9XF=4K!V^E82Jl1ubyIuJMU.Tvqe.VfHh<ax(v539nK_dl=#kQaV3>Xd5s9vBvOA;$f@V_W=?#R5gHK9[t)!4vn-FfB=Gjx6uE?SQpK3S#Wz0w$$_<2F^]2A>KsN8P.I,+3/,c1wWQ&+ohuWr>/jj0XNMW%+8dHPfa1]NCwKZrt|)bUG5a;U-]Bj&we[Odb1cKBJv/bj*FG&lD|60>0c=JXrQ&d[EnRkC(A3%n/A:4/sP]clusJ>%6*^X#fz%PU8o8I2fR6O;:dl8<:3sUkuE$P<MWATWiFX&BR3]<go.d1ULxcS|u;GCh+([H#v%S+NYQKQVi:k2CYP6e6yODdZVJ)[rfnsf:YAc[)JLt+nggv[i:C%;2b_2@;-;tZ,%^7XZg)zQ3FL4<YF~K>c2VRk9t)]L9~u8B-ijp]UyTV+6YvJWL~V+&zcSu^A301hn+vu[Bt*dD(t9I1,_:V,.soo51kU:gf7uDZdy:NWB6u.KBF-ZkiE4/MS%>EXh!J-jk0vr5(Q(fEA4PZ9[9b.jQw9RhesW$(],(h+l8svLLJ443u?t7?ESrqF;5xg[4|5>T%5qF%QUFeB?7GK7%xJMiLv8i>!4d&%-N)^DFI.t-~3R@$R@!W5dw?KB1XK_JK[YZ2Vp]cG/bdW=t-hiF0.=i9_wg3PY-JthKl6>E1;bq/Qi31KstmF$JxD~D1P/z(@c>~=7]1+GFJkK4Y8.JA!V7&2Vm%z?gF5GEaq])WHld;;A/694wLXb/J!e4:N.Tr*pqx<IlQ85/nbHH5r;SjKg6(fi_3vA-UF]MJ!||M;F^:OaC#5Bd=pHHO9GzeGV3I*:u5LH$F:9V1.y4@6yxq>;c1~GW2-;k0O2tC1VsgR,4i4z52@mr3hs>X*xyMaD4Jg0VYWkA*qtFkD6&Hn:RJ&!%th2bd8s&o#/6#l/WOv=1e/43?gFwC1IKh^[eNGjibXIw0[k3@[BnIJASB@f?Gw~QBe?.R7ZQ#0IgqpnY?J!68Rp+7<gnbTf[]EY19wK1)2/QYf/wP3%@D/n!b2bu%^pG(Y#l(#M%C]1;0027J9N.2<wckwV8:",
    "+LPl~>HDWtIFP0yINW^9V,_|Sm>d!]|_ScS8@>8%a:G%uBg?wMn7[28G6!h8~Y8z+7|3*<ng+R/[hM*XCZ!X>b5g).kk8mh/+R=E8?2aO=z+aLxhUk2>Y[1/=F^eukM2KDAS#?y4VRSZME@2]&@2i!jo01cn.5zFJ8P]><w+T-wE3/H8A^k%b_Gkt~4@B~P2(n<%K?v.t=?p*Zp/D*<8Pm[DP0~Hh_aUZ<m!S|ANeF.E1$04,c7cGZ3dl0.o$lCAfHm=(j,QO?8P6N<5JeEU~-/y@G!pxtBfQG$MgqGdD6yt|;:JD7L!eMQA(kYp95*1E^+H9pO*nwR2E_t-6Y@OXTVZAl<%?P@A7;(%f2f(wOTon$KWh.6>-5CY_gaP24J-)F-*[5Jr$Xg%D.@G?T*hI-liqfL+?<[MB::40kCWt0eZ3[NK8Q~r=YW8a%KP@6?,-9h+ImqbjezS=mca~x1%M+]PEV)t%?-qm&K^PSCU,jg1B^)A82!H>vZ$_xpZvnw@4.5k?cj>VAdOrUO6>X;!]5wicAZFdmDw9~n$b9T6Z~61@]8w<OOrE!a%lGhK]<07l6.N^6XJU[tkYDn.cFl2e?xE?HTo+Bb&h:9xaluGo3cbd2(p1~<Dl=!ji6S[s,KIfhc1LET&k-3HKrP*d;MzUqapg@64T>zE-zQC~@ru&K^,bb[D/<Z,a_CmO&m-qAdP>*CGhVta*!uODLQ%+1Vmnmf5<Q$C8u)oY9*RnyDP?@<l?|p0VIm_ON9M/:a:8RBY]kwK(&d(;JFbfnT>,@c#wWcub;!nh4uXcgAzVe0D.%//V*RuIT4jiJ7;E(r0CD9d4IB*%T=@Yc,8jW,*!uer&_G-VAySC#279VO4]i]7<E80>l*8|za&xvtGk$SX4HQH-5])n.-8d4>L*1ZOUZg#uFk?eUH4ve8@)!(<+vS0^BzOEg!JE.eXY4:1B_LhaI1d_SX6Y-H<%WDr=*C>+_v/OD_3w7~L#Fn5Mpxal(2abDQB!j0<Ko^X3g[4/R?Z;=E*vlN[m!~rYe-~MKOHDg:mY9+(D?9yg#KV;,QPM/<d!ztdn2%$c/,!4emI__^0XWz^S$kkLoj@kWnZe/>:j9w4h<S,jyrSEOC?~XFjFWgYMjhU/xmde5UN#hT/A!t^lLykLx<hJb^DGqK(v3[(:B.39,qP&Y3!df[AEOIQDh(Ehq0bK&CG5iZ:4J^FD*$@(kOzCfqFp.a;.aNE!5+XR=n.M9V=AdDqRbtWh#p*%90Th@=VD*Laua,[^?F=V6xj6#+o6bPz_+&>#oR.2%tzaD!&+<M(Cb>[3~q_+rU9$@7<lR@+MvMVuYM</p@l__X,~WWyH<vQipOTV23)2#8.;[&Gd;)HBY++fnAsRH<w+CI[w)|NwxC3%!]oLHX540V_w$.Dguvs&*vYD!^/?A$YYkFa4SeO9SfLRNGPL|h&3BmShn52T;]*PFk+Fo6.6*(IvC~UIgqpm#@V[OcnV@SB;,$L9KTe.C)G5K]NT[9UmHd3hwt=>hZvfhDRVB-_w%p+@n2Q11K(!sNW]V2[m/W@MDG2Ij^?X8^6Sb]]si,d&kR1sclfS4]rPmnA&8]n;P:5~H_bMDiazR^@6^-1hO]5zi+zX^&AnhIS+4L+SLw#D5e]jnRA%@_iaG2YY@3;f%;)$V;i.*+2kpHK@lhprA_?O2G5U//KmisI<gNq&P)PIq4I9oL$$Q<DL*;M;>qx5K9b;>iSm9ce.+H>,1%RMmd6eeJ3Xy:W=gCDyCX(xz+hP1VCY8(7%<4:8F^G(ki=bHRI#Mra[r<J*cZJm(]P,t0C>%t6Yhxl^@TrO9<pdq,l=zv:[_:?.MhoheDNreHMbF7Mc];I.4/H*AS)huZW8H%;2f*nmh)J*?f5A[RR3>OP&<~anVg/F.kSYzPXcCCdUh|/kc^TidlRt![RAVNj$7:hSc*t!bFkQGBf9F<d4tOsReZ!KdhNB.tlYBF8ka;u$^0)vg_4zoJ4a-&$I=,/",
    "L?WIs][~gr[1M~&0-g?mZ(fI$uAu0^iYj3MILar5gTHogddR#ZRd4vQ*<rBbL]3(Najo9t&1Ov&;45FIJ8R.V$#.*K~H;*aK1A^A-H0%F456F.oGhz2PXC2AjPsS^p7dP]Tcsj0bY6|f&dq,zkf@V&vS-r|uA:WW#[bxG)0H3#p0!6>iC|KK;[4wRZ)v3f;;iYS)RW;UBK=_4-#)vH]SJZrfjRhW4ID6/h(Ia|kLrcCS]*#h4Jm@?(?.=McGguq<V$>~c5QSY&1*4H;Xvq/33mKQ)QW-_;5C-y5<k,V-FyDE>3x!L>=<p[C:s)SYL>Iqc)#?>@$|E/1QiXfsamGm*@s=b<Z.+|*ikaj]3T^)a5E%q]Db>YM6w82$GY?U,dkc4S0]f!Vh^s@|Kb=Y&<oE+lD+53pL_Yd@K<TO#EBH5=9mLC=b(3lJLu0)y%m1aVVZUQme<Hh!Quxlo8y!sLNOVQKV-*,EIa6Y!_~YZ5H+&Ry0_^Da*bZyQW+~koBY4=jZj^8PNrafU78h[dQvs=3]ikEg02az#T6b~qa/c]DY~O$_R@l]<1FAnHM)(M&MD)9_glo.]ZjRa1O%~|a;VCQG4lWm/FuFFyZ$b;?1Fd|j_=?j9@]E|#ka9yBiE9RP#l/=[Pbuax1!1&wMX/At*6eul(pedE*1k.V4K?6KHn](&]&CtWAoLF~D[$+kRcM6:ReGy)-FDR33t?:GK*3yy8B4yc!,0Vj.9feDF@2Q-ZHk-S?Yx9ARr2VFX=wMh=G1/=Y<DYi5-pG@8~W[xlXdqu5[1)]<.*GFFMj=U*E,:>Pmb/[@z[(RkZ7wm;L4zN(+gYGAK,>7KGWXK@<%5v$[Mr#JsRd$e],*)^X%lT5f8|K3Z2pu9MO~1+KI=LACyr,$e6&g2<>dR)o0QmK&SiDcgLKAe[#^W6-=F+#?*vu_SbMC;MPam,23/Pc3RIo)%Px|d4(H@ks9fk)k&$Y[|;y6Ci,blIUOP6-q4i]7G8#w*-r3(hU<4yU;y[1DU<yjjqa2RV6Rwa$|5I|DJY^v-+fx?#.4WvX+IbY,9*[?Gqa!t1jO^s=wAGfJYS*?*$;]o.cEG@)#G%t*..O_5D%Vz<U+)8[W$=_SmtjOfgkH1:u;^i0C><j@PZE895*>UUGO&I6Vw:>;qRc^273J.g98@NC3:);df<^H*IR~p8A;7;O2e49S@nom@qZcX>qTH<@?Ee|-C%]q[$V.A_4DBjbj~G-+p)b_<3qwLT$J-I+/?.!]W**x-g@X@a^]r5UygkpdrUR_]lOky=;uy8*o2Uy>&,nMQwkpm&|c~&SlliWJ4Nz&;x=vw]4pCZ]=_cr0rKbiSW0xrUSo(pQ71E@@1ECNKFLBLB9xi_*G#@E-pn_4A|f@yelj1WVx<,2Wj>~Il;6tUY+Vq$>KXRD?LSxjB%+ltLKB[#Z<BK;-UXq*ZUW(=8JU(b80P!8Qqd!(XKUY21wAf7agrcn88*yx7/y(b+d<~l47I,tS4s>lOA+j)VxTRHajYKCE6yB!/1MtMF=#!yDKP@hN:E9<0<u?~YKm,O<-)TB4kx9j6fanj[Qqn:@oDsq2t=wA2h-+sQrIu^iZHqulQ-!Q#w[YZi3<,uYRds_DiL&>c8(z<9?e-SKiQL*7rgL8]%ZlbV#]^.#Nt%e&3qrW/[QbI[Ln^7KFoKXi_MZO/Y1e#$)^W^fS1_1*.gX^bshD*4S%-8izoF,IDOmM1X^ez;4$|JLWL.a)>BxnP=OC^/@8k<IGB4[AtRZ>=H]fu%ky*<(N*yp2&rqc;NDTs$rj^^dg<)r<QD8[V@*%~F217T)j>AlD&7NHU4?x[WAl+0g5i|iYK2[-e8<?_(W;;yQS0?>P+N|o@QN^b!C6jVj7/7X)_,LL;tMmnk)SX!H!l18(@8O,-.cih)iZid#4lPI:V$Wo%m9o5;vj/4QJ=I6^t7FR(,AZ7b93w#>ohFf(dzR67kB$C][~x%%@,eq>0DGOHizB~HBTuA?9uzQbF4@q",
    "KfA)5l*G:PEfEAdZ[?i]0AciS;;HM*C^Q<+ODfaVh|spSGPu#R/A1v^Hk,1<Pv1hE6*oNb8o6dTR^E%!Pe|rx?&ilkJu:d167=ECYj8:U6)f7#B!&:8P!/Vj=N,&rIaEIm%?ip3*/-]]:16b0$l1bn@GAp$Pc(69cOe^[e;T2[^>$hUh3E^YfqX/7%P)j8;,n*iGP(690ApDi-8)t^S;|EL/[ir@Mn2lr7p2yTd*|o-dAW4a6Q(|]6=)wD.SJi+Y[;,w39./)D(S%Y3?CTX3^;!aM4SCs@r|0eQP^BRDxh+A3vg,CcR/jqVo(Dl*E8%]TdM]7NS>r.?0!)<k[~.s>_EjQU+Tl0SuKzPZ,*gQMR%mobWTFmNPK3N#<(#[e9U55PR|Ky(I@/YCVCi.C@UPJI)/vh2[E<(UedT@MRj0!Wccj^f+i$.JcF-+=CWlJW~~sk-lZzt#-$u]aA[?I+Lw;)2Pa[y%q-x[G0YcKL#>Pi&vap2Kyq|Z8OfqHdn/~2MRWgd6e/)dBv4.%G_$+bYR]~!ONCX^c>Qy2NRhH.%|xxM$>X1^CG6_6g25!g,H(Y]K|w=Gip_<$H2wrpWo$v8@jXaD2iHXSVw/GZh%G//1OC$:ezR8*OJt5g+YfYFWCsiS%X26i22V*w6)cn$[Ee2![K$]n90NjdQ4f0mjiuf,VR)m=Nnn%ul7(P^1SEr~Bho>i3@PHH1l>iKiu+/kUpB]Q^OnG%*A.6JWJ##>314zMO0)2V+$us@5:L@*Y%l<A2;6o>a3QK9U>yyQkF/U[aS,|ZgM9B)>($:]3F=j1Iq?Ud,O9=V]]0#(%)#0Q6~q,|1tb^T%*Ju9X_bAsX*82zFji|?RY+1pUJpWj^dTM0=hM/XM7]T5fkIs^%.)P2b:<5H!i5.$P#+o6ZtSN-U&gJg_sK.cZIurL26RQ6%Bcqh9YSchg3MB$%u@FvN+CteUb94.*S=76P7m,Ad1<ZL>@wa,O9Fh^(.y#-G:ZprIa=#7ivYl]^SJLr4w.Wa>2+6P+<::u-3Y;A]PSgh*|A2h^m=A8+1_dc%Z#tXPe.;q.LReOHU4&eUjYIUQuDwb#ov-61UGXIKf;P,h$aha/L#FYfFX7rXHu6.IuB+7J_U~5$y9C-e3:h46!KP/(r[U2.OurtBGYPR,=$4|Tk@;fY9g7J&/~wmW&n0RH4T6*4Sg,7&JZojIMwTlOps;B?l3SnE:WbI2t%U#3-b@fBhpCy1:)x]E-A%^4hrlnTt2Nm,>LuMJ>i(BVgJ9H&oCL(:$i2;7Pp$x5&LU1]]l>GQ*=1=e=iO1f[K/cbwF$0Hg^$;U;I~wFHs1d)Cc#n/1aPq+ICQ#%H9>]#YpPo?iT#:XvB^.5;=[Qg7e]Nb5za8<7@zc6dyrR4hRW76~!cAeHgsO_A?(%SMt3k48xZ>)2#!=c9LK*Pd&<ag.Q]z%v;ro:m_(;Y<b/_=K;FsLgbH_@2JDrL:$Km@faO;U-lq7f&y730i4uL*]b8li!WMx]F4AVQgNzGL-__c0=f,Rd,pCSQ^jui$]M35C?ahuizVz&COb,PX%?#3$vdar+@D!iWH](ZWkI_>7rjM/Up%iN:c0J2QP~PWItEd$QVB0G^ZRPjAAja&NEyZ|PSBJ7Z<*XJ9RjO,WZkqKKy0SxK!*bb<dkAlgk5?MUB*:c;ueh|ki%r|$]9Syc3wtDd9y|S6>>&c+X7xLk[MhdGW^D]k=upe?phq)S>o|_#AkZQ8n,Ho,7i3G-honakZM5$0M?BC]azE2UC2Ty&w|ws8?9IH_H]5OG$=Qvh%[EM%4.P_Kb9Ge)dK(0j+~2JT8:m-A(z$J8+Koel83]k1m&]q#^>30Ibp>L.*f.Vg0/G@E(sbK@]wYaY|kg.@[*LYgamG>f26u-CFQF/[UTj;%2_(%3FdE/(s+&KDb9atXhUCK.hJj60[~=4$!-CR^QZEIeMVTHS7T;+b&~XA!AKkb.9;-VBF%v&259A6VL[*a!WS%AYH90+*PY85@",
    "E-EA>F7d2@iT(!GI;xELYyyuWiRzD!K0BD2&UkQ[.PVMWo$*G!w*n;_gQ6n/-7*y+Nadc^uKJ+Z49gZV:*=?!KTx24n0RzTe/sLNA?78k+F6SSuLDXLWTaPOU-lVfK3P:fuMk$FRswj/dg6J8m%4rF,;NS<O4tYi-OK#9z7P@)]nXe@_ZTz%DF33WbN*4-O4AU-rSHIF7?!RR.Uj<=18[rP;T1yO>mwuZci.c#lf<WEZZX4^pF~q>rh5m_(6+W$ZT5yhW8ve>Y/dZ-CYV5ep))kDeWuX!xp~lgTdRt8GtGug4,X1iiPyP/&.Clc^-vW1^6DXl36eYW#r8t.Z!nm)SMS=_<V|z-p,Of(.3lBk#]V@#z@*z$LzM1CQKf/,I_XIf>PhfZkYA^7?0Us53CimT>~|r22MzRT4j8u>lbk~Gz_xU.p&*T_??-I:_mgX,W1.Q$Y[8+F~avzhm1(oI]#aaTD&At?Ib#3R0*ka;WgCI5#!y)NvVw*0m,e3Pci%e@GGXsh)u-gGuWOs^;HI6&c*o=Tj):S_cVTMaK]]ieSlqQE%*d:3CgoI<IBq87WdjdRs@gUR]%F(:=4MNf2UaCR!i9QNBY,Lk;x@iF7L^bFytZ&bg<Q,+xAv&hPv>#7d[hw6ZA%/O9wWCY&Q;k*u6;GKYrFr:E5s2D*FvE:W0dcf2djhTURa;M5jF<X08OL#.]Hw?hbN]BgP/;$xDu9Zj8gUX4SE^:Q%MHjRo1W-RODQ<%8CHM;SV=BSrc+30r)>+*g_/#QfN0.PSG,MiBJ%dn0NnHgh@fVNp(&SHDbNhX,W?^g>$]k*pf&cEwjM-gj7+V^Oc+L=_%[JYF7@&<f^$SaPl)KW[y6<d-hz7hoJ~@Z:Lh2wZ^lXecT8ee6y9Zg#H15R5TF@OvFM6^*$_Mj/.J!RYhk_s-Cn@l9DC^xPp%+7:GlXX0uE=cx?pDPh%cc+oh:!|7iUG0+:|^v[XQ;e/2|PR2>fN_#XkS_A>>d7[!gMs)U/%<+Nr.l[Bs=mmoC*y@7U_XnFS%ViYRd/f8>,G!a0EVKR+*#<$.h1|FjhNgYS(Ee1m+PP>zP)T^:-4n?kZgv]!.WCvdc.5-g6I0>Z>Oqz>$(ZdmiPP-=%^Hz]B~cJ6@n(SmRR~|%glYbv9pbvWM-Z(6(v(~CCB1$h5@.ssJEe?B%MRM~:WN:ZPR60>d4$L,3snraK=]6-G8X>@W/em@5^:O=TpDPp/~Vf4gVKrC+xH^;^emzMVD@1+@-ygGNCU&1&iVdG94R~:>)B^q(r$?B+qA>,[N^[|].*+Ua@mX7$j,uLNLLa!7V6:j/4JCd0P.H9ieq2<6NTv<E5^V(8DzZ0[u:Hq=awjQ<OH%#i.y&+*QwboEk8UU5]?#7S<|TUG%L>^Rd=18?2%w%0dsSxYQ0,+5Z:+&Pw><y#5=:P&_i1F(*~6yM$#U<;wAWm*=y7Pl>!?Kk#5<Jkg0KF[KF6W$||i/[Z!s?fHuJXkS|>bCkFz)7iX7;EdQ)Gc!ovb.CV;djtGaNQY@Pb>nug2)bXGJ+ny$5)rdbrJO4zB^sB_ADA[RrbDe3-A?=c;-wtD4NS2i-Fql!<H*?kl650Gp;:Z$jL|iBp[c@2&0)S7?AnAv^<00[G?YILECo<;CanKy4GLvfu;Vg8z66iQB[#_r>_,oDGNKYLcL^KgJ1yr6=S>EZu0KEIA@sP(d2^ka_WaZ&=a#n<61:$+0F[BpUaPo.0ZnRg;TlR45YE*j_0L-dI!Df31aR+jK;%pm<db8MhYAc7>Y^VBr6HZZ3IahsHaln9IaM1nt$a|pVX#gAKI*=k*c8jPHe4EtYarX1C9+!.06%r|]1=zzOK_GP=a(B[m]k$5$F4$/_NITc_,<9D;%zS*)_,O%jl.IsueV]~3PguJnX.&Zn2Yha7cCAhiIO3R4<jd<P7sKxGdt[[f-aCmHN.Lf<C?^7v-<BTvNHXi2-0P>/JmCT+;m/O9(Umv_hl@y]6jsjHP.$CC3si&4S7",
    "tNu[4+)>hpqENWE=TS=O7?#D<Yl])VgOjYRUk0CNihI?atH>E(VHF(m5wT_4GO(^,r~h!;wWEVwb]WK<WS$/v_mV;W<1d2iRXA0Nr8y=(1ssBS~J(=~gLxN(>p!l$UmSk<nlF5^aN|hT+NZc05k|2e1liBZj?HOyoU]7w*Y#J!.jMb3hv$-gUUAV|o^;3VyfPa-Rx$.n6erEo~^_C$NG%>&@TJT)+K$9ksYsR)TG!E>Bc#QSty+/S*(Ze3M;mA!).30/&%[9<%|?.^,z:H]&<IM^9M5P(@8J0[<_W5KKypAl<3WfW7hxPG_HKedSIR(SJ@Ai_8Ir>q:kpCMy!LZO$G7YJ|aLAO6M.L-^Z=8IAmZgYTasB$l4]f/!+HG>RBGM:Ad)7&eKtjVWY/MTnGQhq?ZF^KKl<Y$bBlMNA|[Hl/R6(12+>Ua8~Q8&flbKV53SH5kI<3h/_>90~d5M]|Oz1I)x!&Xir^&!Ta?Zq2^nDwBNF%e[bj]22X1GT6_,bn@8A;*v.Vb;/Hd10wyU=]?j1C-,KpB_4%CT>98Y[PqDL=MwRx)A)rTinv<iOo1ZDHPGK&])q]00&NtMbAIHcSwPoE]&t1w%Q7gDk(2pG?SV%SFmn8W>g#q$f(pYf&wbxNi~G(4)Do8bU,IA33>qdj-&QSi&@]^PK&A0a)eNN0!C_zO6g.yt&PePw&IH&;L1V8C]jYuBYgG!8L*zh<8]^AXc<K]SCeY!TNgW_AUiFuRE*=~<3U1$p7,>2[.E.:bahYBB5eJ)wb_!<8&r?n]BT(o#W+G0<2X[4#!Zoyg#%3h|:/]!uHh-6I@E^$f?p]B^]V:6YIuCY;.VoswV/rc$h~IVC)k#V~N!U^s##]9(F)oV)K_67wKr[MX/Al+w5,l:MR~^_R.Y>QB[@R3S62KA=GTTT3Z|hcVPyF?Vf.SRAHV(+]gi|nO(mtwu/R~>A0nQu1b|HczECS6Y2sdR~<&lXA&|#(!9[&iRHa%&#K^2DTPik2U?RHbna~gq|7hH!Q^KujfC6YQ7h$RH.4)&jt0y?:D@]g,|4@x^?;.*jd.F5Kt)DvJX&(=EV7%H[/MJ1Zu%;3V3blDN6,@~c;fK!b_U:0oC)!DGielwIq%uOC6[T_EA8Zo].gS/*0]BG^fYgn5?W%3y7Td&j|;$BlMIv[TT67@x&j446vHkCS#dU&J~/l950it<+LT>XlA87hBuZS@,Eh@A]5*->|s]:#n^UC2qrjpiYM,sw;.B^^|!bjAXfLRg=7Zp9v9*tjO2a$kx|;WnY36sN7U0[rm=6Xy.YKH#y3LnYw&Lt8&P@keDh:IK%r^uJt4Co291%&]].%lS2vG0<n|P[G^MT(gcz%hO*iiecY@i$Er_b9OmI7v3%M1m&<=hVHdW(h&v5+4NcY4]kN1*~c+T&83)EJb:uoiMjIw67gTh4,,Pz@VHJ8[dkyM9m:B,PW+.=/+JcGObCl,Y79,~RWQs&UA]2o^nPD#8?(3n&S(A;T?wA>/&XV1^BcPB(j@tc1*>ELc15gWeNWC_T(clm/cOn~-3u>hBxuVb*j*-.[i.0HTIh7NkueZg[WCtk8@Dge4*.?-N_X4Y^S|b;JB#LY[yR~p3_ry$Z*tetWnC7R$Ox3t7vBv-Yi+A^RuRMw<!]:2aZ+RvX=79F]rvWt#7VEqLyJ2n5ZuTqM&OgBTtwPA=yk,lLFlH!F,3_h?kGjV^-2F>;AajWjsVjV6swBM&l3@tMW9#DG_q00H;LJz[F=MM8NIJ6fu<-=Tjud~b,~QwY^pJ*!>Y5K=-2U)I&80Of&Qky;Oy<1?F[H:G;+uwhO:SD<Hi)O=YGU,C<CL+eAMp&YfeBZ]=|Oq!-i+:O>18^E%~LX^H$[ibVahU>m[8Ng/Tp|BjH&a>O>=Y/,ACHedQH6_3$]%HrenjMi/DSYkXluBS53y)qnXW]_D-w1Cs9n0:8Vk?UtfX3j@D,ky3n,@E;,6!VF!F31V,~frdm63_mwsYPSi<c6E;S(,b",
    "nmh75u;PODc!#hJKh/lEQ6)dY!2aTUwgIZ-|y1tpQtYSSA5bJ[,z9/JzVf$RBkEdh/d5$R,GU%PYPeh+F,ag%fFeDc&Q<JXDBWV??zhHc^I=C7,WTJIj/TLV[&XRU4Q9.Tp[av|j|7_(tE/w%E;@ltom32:)g8EJ%8_dItv_5S.Bl1Mha!9qra&,KJ4+8yyzNCyl>=1_k,1Wcdy?gTe^$e/eTd&I$BhpqP!fL&fr8KK6*[A__%Em=f(e46CAjJqP&5QXFFB>RmWd__t#83.=FPoKIQ9CqKrG?a7uLZz^=gH.6x2dy8WeM7bB^P(l[[?+6r=<ZYchh4=s3)8!V$[HM@]Tot=6vd#t@;41*KcDLL$2]@v:.|N;,Rd+?Y~h7QO-CpFLBtTvG|vt?)Dguz@jHt92+_9!aj~Ue.F5:DQFd6E=WKo^$-aW8(gJ$%WfL2(?6T?Pi(^coT;[i._[kdF^,5&7Y7**ZJKRA1bHyKoDxg~$KuDK~WC-tbLW)$3c327j:m?789c@Y48KSVf*q%w_@1B9*4F)B#@Kd#:aluo=A<b:IcDW*z/Bl.Q!Ym5i(mH5SR|34N4)@Ynexk=uXj#b.!$5@^$CDWZ5(lP<9/+[j(^!&H%DhTK9DZhbR/Duo)h])%F>#?+/5*4K4tgfQHO!R+0PWzO$g#]4g&;msH2BNhDcbAPdEm0:5Hrj7ht#GGOE9!9SoBZF[AGv1F.bh!LMjW[O/mxM3DqG&Cg8_aio=GfV,VD9TPwi9#8_869>uvNS7E48k^L+q+b^i&>)dCLR8<*+%SrsML3S.K0>tN,NrETiQIx;DM4Rxw[1BCCJoYwc^OhF2CH4~O)c:oo>4U~K$@OaVMemA,PiG:%)-~)7<X[tv<dQA5Iw,AnJrzI]gAn(rA=Q3Uf,wE.Yob-N-M>ve+VXM8imjhaSHpq^cFos$kse2d3y:J[-F%@@W^0h<e]-M69c9FI?9@!EUdib~Es=d.LVW(^!qX&F;DF59B3k7wB)5/5a@8RskbD%XZZ)>jC)u>g!s3m5^G00y+*3&OP9|YA0YfDb6?yPX@|>,|B%8/M[cLQ1Km>e>jIfC]Z6qS72Kj<QIZ~_QOA.8L-Jd=uBF9ZG$KD/SN6dob(h%edO?ZDS=>H~/.A<^<>MeY$-yyPMCfcs2_R:1N1=yF@3>VwF4_@Md)j39J=6MMWJHkU^bpD:<hJhy3jn$O&X@pB#AMj,tAZ.9v]4lxJ726phg_3pZJj/A76h<DV7NCOM[[[anIZKiAM,j:jg<x_VUF]qQ49G&~bNA%F$1oUqe3e-JJ7Aa>a*uwpf*~vwK!!.QR61ct&V^FY?M*H)P!OtKeEV|)>J?vv)XYm3/sL-OMR%E;LC[|M_)Yl(WLHS2in(BBh#/TMku.NZHrPv?*SEXHAEQo#%^uSi#:WsCMebea%jkZ(&Be?jB(EiABZ>:y=g-*3S!z>m-uKAHee8%;=_|=lgPc/>h|C.JYI_z^gO]Od<UUZ:N[Dn8j+t(Gkj?Pk=WRdt98Bi^OMa/PgJQj0;MUaT?gmB=N2B#Hb<T1LQE2Q&3;MiTRfx6MlI-xO_VGeXMw<Nh>=H*<UA~7dapQ(*c4ae,/=Bz)&4<3e"]

end ItemRecommender.Object
