import ItemRecommender.Text.CodeTable
import ItemRecommender.Text.Packed
/-!
# Character names

Unicode 14.0 names most assigned characters. A few families are named by rule: a Hangul syllable
by the short names of the jamo it is made of (`HANGUL SYLLABLE GAG`), and the unified and the
compatibility ideographs, the Khitan small script characters and the Nushu characters by a
prefix and their code point in hexadecimal (`CJK UNIFIED IDEOGRAPH-4E00`). Every other name is
listed, each by what it adds to the name before with its most common words as single bytes, and
the list is stored packed.

A name is looked up regardless of the case of its ASCII letters, among the names, the formal
aliases (`BOM` for `ZERO WIDTH NO-BREAK SPACE`) and the named sequences, which stand for
several characters (`KEYCAP NUMBER SIGN`). Two families are read by their rule instead, and
there case matters: a name that starts with `HANGUL SYLLABLE ` goes on with jamo names in
capitals, each the longest that fits, and one that starts with `CJK UNIFIED IDEOGRAPH-` goes on
with four or five hexadecimal digits in capitals.
-/

namespace ItemRecommender.Text

/-- The words that the endings of the listed names write as one byte each, by that byte: the
byte `b` stands for the word at `b`, or for its own character where that word is empty. -/
def nameWords : Array String :=
  ((unpackText <| String.join [
    "CmR^)e,YUO7mA?+IK!#7Z*AkslG=F4W]>GBgKN)U)8t&TJn6*(9m(%%KEX1g#Wz;0c$zDr.3qMY(hL32NHeVm?TB[hJqn^h:=3;33^kR,Hl)*egw,HFfxFLg.]2~C9-t]&l0fPSc![9G!r=usZ^OdH(h?%U9i$hk*7I>Q=EhO*H>$z|@a)@<=zoXTdp>P:U@i[BXq1i5i%x[k>@y]S5dUp?WXoVi*8F5W@%M3g2hsZ>1RO^TQ/qzY_2)+YdK<oSYf!RkG](>O6=oy7D%RKABD2C|e/%@9JE.SIZ-3M]U9f3y>Hz4j9?a.$AhdDDAoX5%8=q~/U|ANYIUY1p)0,G[1.8.H+IW.x:t4bVJ3<>&YdMV85iCd.*p+H%aiZdIJ((oo9mr*5]Z]^%)wg>Q9PV/gLm|+f7v57fKS-WN*XUnO/j.m3DMw?)%B(!h6ZZb9-UKup-aqF[eT4SlS>e&[,s><q/gJG]2PLfkatEag-3TPT3_RjM9]fHh-#/71@hmxp&YIwae|,!uVYdLC/)[[~l;*cwR)T@pLR*6B=KM-cH]HXv&GGf4hV]Vh7RLi??>3gjj?k0sX3q(]E7(6@68aHx3S~A4AF>:DA[zp0/zHvN@sB9kTc*&~QD;QDLgM>AEu+W?%vy/a154&E+kXv3eRI$_4bL,b+%d.*Qn93VCXn(&+]=:%$,Y00fl)QqOHOS@=RVMEF/Dr0<r2)zd^hn%Vj8y4F1GT7JYO@|a#EBg!Bj@P%ZH>IaVkB0=(),sXQP7;,V)%h-^/X1;hNdG8tHk^Ct.IY?z:rgNrtmFWg&qKNd:];R5z-;By&_^&9VLyaM$?-(7y!m?_&9$&PGu3L7x@CJ>8EO>I#B)T%At=U?]Lt7imGP+4;8K=]3eA#-*B3MX;@.Co]Ql7Y(1~ERyij+CaGTiM[ADZRTg|KHiR=Y8njkGin~hjLFuTStuop_0i?mCjnC)P1)|~KL7O.UCZuv4IF:vO~hx%$Gsiy>me6,<qhzW:PZ<,1#A-cSuwM,Zd~>aP>hA!6I<>paEK1o^!bE.:czBh07CG4C?Tz=F^IOxQrPaR"]).splitOn " ").toArray

/-- For each listed name, in the order of their code points, the count of leading characters it
shares with the name before (zero for the first). -/
def nameShares : ByteArray :=
  unpack <| String.join [
    "dy85EdTyP+:HW)7Dm4~Hf]NPNW2#MI($7JJBX:pYlD9>l9MjKw;WvK6cy,g31!j(;!*)Ta76boa=s]q$%wATg7-aTvj9!?aQ=Of$#(O.61W(A4H5C/)BvzQN^v#kN!.w_UGrPvR(W-4n4BhFQVqEVy_C</z)nlAHE,3&jT8Y+*+=9IS#IWcD^MauMB]CTiI!#S*5Tr>;40;0Hfu]OS[IjPL#pMa3>=o@F][s5DH,csCMf:HYi]~8rUOenj3^)6^)0@7bbL*JGN/%8.5+kmNLLP-ySNr=%ZM|^(DP_aS$yux.c/_*!6YJavLlLT3OII[)M]?p^PL,6R6mF~3(u!R.Y4c@J7maJ;DVTjx>;t[O>EJi4T:AY$6oQDz_6egK(1z(x4O=X:J~eT%-ZI/7[FeAWgU+3S>[1u4W=pM[Jc+G(;#:9!*]#U8%xs_heoMR+MS&o^2mJoO4Dt,F4L!+gLQQ$7Kkdk!]szJGLw=9wPCY@=0kWSLW]RZx!w-eiGV5O3>3Hu+VvE=>[3Uqm=k<5uf^DpV:R>&]Ci660:vXHo]t|kX=,4phL+-!_g_8xvMv;OC7#Yi>Mo~|V5;ks;aAI0[^%|YFcljE?0z6w^5v!Ny[s1OE>S8#h>M6qE)M.>qZ!fM*c$F&zlUr(HJrB!BP]b%sCG)W;@=l:CXWUP)B=h<dlG2dBhd0*zAFIYUKc_:H2oLBTKdtlQ0Z)O-fzbe:M&N*Jae9o/#CXD4RK~06*VuhTKlCiL7o02%=&j[-6)N&U$ONF!$fJ7QeoROz*DjAZ3=_[F^?Onj*UUlfEf.xCbDAnH^Ix]Hay&CgJ#R1tdQM6:W38y*>U4[0MmyPKUpvl_0QD3J69NQmL&q[]NqBlG?xgu^V*ro6aRNpU]5+mOMi3yvM,Qug@Y(l$.B(HSCLtgI$DTTq$c6lP.9gW)HlHC.3<#ia((q(@RCRR.1UYj+;wiUF5!/$!)j5jL/,e.c!~xun6X0b?W-k*JaGp2aY:Y/9IMHu5f_2NKKZlEtA^/Qw?)NtQ(h3wT8(#mD>~Xc^,eMwQR2c-e(E_]:PD*%NGCcDc=,m%$P~?fO6x=|k^v+82)g7t/:&$q[(w&Ra83*_?/wpqK<(V3J@:KZyEJrg(0v*>ROJVUL)?e)MJ6EK(MRt,B+gjhnfr1u,P_?b>PWzngk,,dm7Q*yFXr<Xc[D)C-[oj@s!rT]v_#kLghO+?W%Xoc(b)Z!71[Abf1V)$$$0^Lgh6U,A>EI=(a~^9(9W|w]K*GxIM9KhE^;9@eR_JGnYY9i+%@ZDd_yhEMHlwF!,a,$FLjOWXhqpRvI$A(oWlnW?QuLQoOS?+6TPDR?+3xV.Qp<uz*43yv)^-i4L.W~Y%(aLM65UWPPpKQ.at?N$?Q/yoMbW378:i>xkn75eB~tG?MZ~$^:Zq!u4||^&Ny%0]OmL.3#t3v;<!TB0k.2/^Bh,#rb&3|L*$T0!%~&vQ)/,&B^$2w[3EX6<BH-NfMsHWbi[a;Sb[eIfMErHeiKC*e=>qkQ/*uM^R;wqfg-$vY4iaCHa=@9a@fdL?K$p9g(5?z2)qDe;(?_QkXsv(.gR8]%BijE1(iqm@&P@C|%HB##RpIBt-0[,1_+Dm7DyC[rdV)pb2#DR(fbojsV+E0FUWC+]8??Ou<z427eysrC]0~yKK?UJ!%nqjXJa4z%RH3jRRdPby@4bq#67fjI0xxMU<.;6s77V%)E_$#C0k)H]^gYGoX@@r,NK9KG*N?f$T6/U,g(/1=G@EBjaBIF8f0j%(S4x8xSiZj/eM32I/BeFg7ZD#s+rrs@[KHBM>J;zGbw]|;?Medj]mH2V9IWGC;utMu8Lp6q,v=1qNT%|.i(xbX&V*gZ^Bx7lAXY$Fhx_9&Fd~]fBGm(Lc8xk//o:!0Sdv-_7oJ|_h<Q-**z0RQN2s&3(onNd#z^yG2jX9PG7O;_#7i|]8i&,uEEUY,NR$gWK6j!yHedL[Lz~wn:RvrXI]o~+2bVEdbIgd4@[t!vc",
    "1xrxY1We7%w)Ue[AoS75>)!7[Wlnwa#8U3FNs3&UM9LX9O%MA).U-N1$qOG#x5mw*B=KpGykmp6DZK!>>/yTYXEpdR6i*b=qe=g[hxP0judU]O_aRF6!!&,E:3]Hk!~N]c52t_8O0#e,_U9FSoCb|(m2EOT(5(R%YT+f7KRSa^h*HX.$$M/cttW8CrrAbPYmVn557b/#/2mKh^i&LNz$ur)B.Vq8@f0u;~CvLet.izO*fD~k#LSb.Bo+L$%>Q+[t[Sa]XjzH0w;oLWW~|XQ^PTyhr;&j:;F1EH;xOu5HE:c^_B?8SFZ+3AHd[_W91%RKli1~7V!NM)XqIg]EIDx$1<sUH6[8g?KAhK?@!Vi^i)!^XaHQGl&MY?2(/NgO30E|AS8ICEBRph1[O#~=9t|%4=Q9G_^BwK8cC?~Y?BiS-n8#t!>-Cpe*_29MG%z(ML)E>K|nU]ObpGLQpN.pO(UK-0@Dab))AGJZ2p.)G.e#MJY-4T@8aQQEVB=?7]9wL(q4h&G<]-7Dw;&>idUI*&U5G6UkrV(?+GZ^1VBu0QfV(:VV0oX1u*221@pawU:#3%F/oWTd/ME1E6tGv-PVN!Jx*XqZ@&:*f,0RU:;Kda/Wr6mFuY(.:AGdrbgYP4D_aiGY;|>f!1XQ&2YOr/Q4iBxTr)QWD^jH9]@-Uk41qC3S^xQ6ZW<Dee/qS1.|8YekrndnQm~y*!oRi=$_W%%&|:77_S-If9gaa@00+@%j5~k9Y1^wLgR|56Y,~HdX-2x(kPk|0Z7ozxEoIa0;<AnRiAMvO*3,[>NEg7nP-Rb&coX-z>@eJ<..auF,k=ma.SMs]],nsw.M;)!$PF-P34A>?jp1*e&V5Ho/$V37[&K/z8a5aoTJsa|(^EQ2LtcKWV$&iaH.NtE5TqbPJ;aziI4Z?1;)gr+kZaKfkQ(m#ZyQK0!bw@p+1l;1#i7[DG~Xz+(h#9KY9o[T>gm<y(E]T&I*Ov)A=ZXU;bMyY(+BZF:%Wm6_3<ew-,nov(iFVO!Y#!!.Zfk5!q%KgHPhu3^|L#s8(Ii;3>;/<KB=qi$ZVNhNHJN__7Q;/Z7i~Sb-E?R(N*;J_B2p73HOv0EZoewBi_7cPGnKuXpDn+/m:J/%bIEW!B6uIJVV2JT/Gdm$qiW!iAW8.YnCZO#MbR@asyIqBm29:Tw2sYACH|Bkeq<#duH8Vfm3d5]ru#4<3bO|fr>r]S2wofN_T3_7$:Oh(poZBX=_%6$zXh>F4Zy9LNd65J+E%IAB]s>9Nvb=;>z5*BNwfn#I]ueRQ0326$>dPVSJ]%:|~1y#YnkpYU2iGgNO$HifJHN+&Y^L&z*/|YGp26Px1Y(D_5PY!>m+oALZLH#l+S*&Pqr;W*s7>-#|nzGvhs4H0E+.HIG_w3li8&6cq&F:aL!uc?GjuA$tN?1<CybZ2+esI<pF*bBu1gF@?iwXqi(QA8TZ|^;D17Heno6BbempI%!YQFNvGz(u>3XR5(y3P+nF*$BneX)v_Pgc@Y%BC;qf!!!W)-Zj,P$jkCV7Y^Ryw%UE>VjO(KI#.AOn^/],##2Hj?i/8bL]~9c))Y?nq-e5kbe>4DolY3-2kjrA3(Hm_qIp2$3CR@Cf=$L;cL1^0R(++|H,(,o-jS+,?6VtHm-=eCD2QR;^R$EQ-5fW4+^~B6e[1=w&%TGIe9W.uk,^P0SD[/<9M,_ec#R5pX]?j]_?19fi6VLz4d1*-k0rKg;NY>%BH>uR*iV(g<Ch3JKK[>R,U|t^8##$1;3drcVf7DoBAtWu=UG|2*=^l!khb|H=:HA_NTIRe92VoHtYSp4#5mXf)DO,nB,.lG+&^rQ|kih@)8LL?aG0c?F-j!,jdqOc:<tZyv&&V^1H(dephr_S|IQ|@;$+OYb6>0~xLG|V^3aRFS]~%!qbDGz]AFSOX%Y7X$JAL;%Cz&XXO,b*,@5GO&UD,ceZK!X!Hpgsb0)lS<hYvpO8k;c8A=|~q8^Q*g;f(=AS:cvr^&Zb!MQQaA9F",
    "P7>OU/Y.T1_KDc|K80D4~d-3:(9t,&d,p2@A).*_*Z16E:_~E[NI!6ZpM8A~L+K2[5DbMQcY9+m)w_eBWtXF9V&6?tVsy9uygia!H$0O8Z)te>65cYwUDEaBToj5O~oud:11E0NtJ_Flo=lUh%po4iE_|jQ&Hf&$RgC-8hdO_xP^=>G8EM%<p!S5rG87D]hrFN,3siLd$<0a&8RA1e0k(<PuX6bH8IF#j?GCgv(@+38G/J1J.#1UdUKLZy[gm/KRNeU,Ql!>bHaQ59knp@V5wZ[X-GR*~zwE&T;aY.w]Y^G))pCCku+@8Lxu6G]BSs#*cBjRN]z0YK.Mojn$)v8L4;&;YVKg,^q~gGkMJP.2NL|7_&?#8Z;(M,WX@5^C:s?5hV>OQMndx,E%o*8TI<9:>~=>caMc[Eyt6v#$u<lFl%lRI(qRCA*l<B/ha*]WXUK5Y3K%x57;;vY4!)AH[h_S&ZC.HkG79QFk^jKImZ=eiek0|dS+(kG3;k=j,y_|WYABL7^nmkiz]?^b;WxO5^9%q6ng+(G|]YAky1&&W-,:!_cVRPX.Tw=B:n!A)PjrBY]0q~H]vq>Gg!%~<wWItM<#V+6Tv3lP)t9p+DKj~Aa!_8WI@;Mh-ip$FdZ;Z]%a1^Josk/bTcgZKSwhzQ]se<.2G]i5TMX6cC=>3]1r_<d5]=qc7*r;:U!)ygIu9%j=Ptbhry$5D96E6P/zQIZ@_v,!yQJ89+r=Oh;fly<4(15&EDp,1UP]VKs</,N@RJ;Z8MFg]U>/WK8E@Xc=>:(QH1Tx-@_$&I=Tm=a<fek]#;e,B^GJ~@pwib^mAfZThI:=Pq)TZ3sHH<$tVy8&RG_2-X0W3>OvDQ(IeWBX7jft>=t72GRo:2=4dz/^O&43FR&~:]CmcoctBe|EUJqrhgiu<dw,oX6fK$lFn&w.j2BuX9sV|oW/Og*)jogSI[@Fc>2w43N9s|#0QKJ0Tzl81Kt1Qy*dou,:*A=OQ5lz>7p)/~g]~X9C|ZvC4]doU]@p!HE=5@DYj3@y#)cpYa%:6Ua)l1jRs|vP-97)#M(bU(A~ah3Hj3bmkHePM-Yy5&R/mA1(tl6=O.;U42_poM05TNs-~49J)zDfvk6mzY8*8HH;7_[=9f@fxWS-Xge3t,o&@~|(I?vBE%&OmP[z!9R>:^U|O_-IYYt1L6VCvBr,.3HhU~S[|:(=s3DD/)i0sjMi4hxu1H<MsiZ1EC05(8s+BC=RX*axd=b_Ml#ds|epdX*G<jLt=9KlbAh?KObh2mp+tT$;:4i!]C,WIPGBA=ZOr@n.S;S1.lTj,DLi&xAT9;#GvH/x.RO[6KUXBPC.@?BfF(buTPT:Xx@>^,s3r?t/Z*#ny%VL&Wy0?+*]eY/|*m!0Yy,>$dIsf,xz>[[,:Zf:+u29I4Ky^!nu9ke)eL9Lw0Jb0:YIaPCZr.ojLD[=K_2jvKqi^0,.cT]59?I#9Ea[|GcYgtUG$:-EvX0s6Cr#n4sNh<Y^2:02w.ik>rJXUSb@YmTd5h!58!V|x_a&A!_U%1:]E^D!@ag8181.biG.^X.pW%KOTsiNlccPvU74fUY_:hn)JQ6^*/FKoNt>$ue#!H^P!FkV4SkO%$^>NQcRkDnVUaL3lN&l1Zcl,y-jEfhfl<O<Coh_vtUi1FU-?Yi=&APHPd33C).Xk~YS=]-sRqiV&.AJ1URoGZ!t~kd<71MN-sY^3;OjEtgq1MO^baT@,Sq)ms;[G,1XYN/iU?Pqq6,<[O5+F>a(K^tbO-C[+0@%tR%E#_i1W3Vo#_Itl3eMTz8?%$Nqc%.A:cMG$~cj5zS,fj=w[Kq<z&0VXq_^@(~VV=s:DUZUD0j5+R:*nB5t!p6NAE!YLS?19PNPyx@LZGJJ9O^|jv$]6hs4.F+w/4u$x%-S11h]p3n,Q$KeLO5wJ!AoCubXC!W5>=f#JH]pfCO=7p5/i8;2L$!##IGnO%QufQ;B:&[:!LG4dcZGrS7ZG9Juig0:XIbnaJd@kJq$",
    "UF_UNBG+1tIsd_=B!-hCwY+*FlA:^%Fp2rin39^3+^%Ucw(OGpSg2JMQYE!=4L6+<,h*Iks$Q^2kj]%gy+Sq[o+!y8Jx);0A^^BPK.e/<0IPl77sAAI%[J>)f]$RzppVKs_1>Tl(q1i@Uli:O/|hiAHY9<m-*DL2jLfhHx1MSb?;axUBZK%W5ua:HWdU+HuR&Y&4@P=S+HI>A7a!_eX*5](E~$UeCe%o@KP<3y_K&bKFK4Jq?sE)?fm+l4u~[KUNfQ/CG+)][zR$cOh>Y@[))R?_*E;Z2]/9]i|Y*H11+GdP1kU.m<flQ&m@E?(&uC!/(_g~0$rh=!dl2/N@;3/vqm)Mln#cq4Zzf^oZv%p@00TVR#kjYzNnObe=rT:_TS9,w-@koS1<Hq~=Z+Y6t-1XBBujbBH6Ru9QZM_hKSj9m>A?tMJ^HSq</CP9s9G][gkNn.uuY$6Ox>HOXJJ;|_qA;hEO2m/ky/b=X(El,0a+/ExG;!4?z;m0_Me,Q0[SC4z%H[I!=Qmj]e8?iES3dzJL!=rhGO_RsM>Eh^CJA~;&30Q/g%FWxOD>9#ulD|G#+HFJgJ3y$RFqu^FZJQ,Z^in~n_NH!gO,fmTS/qtaZNv178k>nPj>n-M_8;vG$z_rL^#oOmj(_*4H-yuFNt!vE*%+d8XR#?0^[]RNBtDi,6m6&FDn70U)N|$OJ/E?:+;h,O%$w,|d6O=lOEL>]=kB85B7@Bqe)071;ZI6HU2a:IAL2+JKdMN_cTahbEC]1iUN<>sd,K%;*dSK98UM?A20jPd72]md]<NqtIRzr7=_0D~>n3Z>HII)DZK,9:i0U8l:6<p~d9;F)B-LPPO3-_I$^nhu9EU7m+am.e9Im?Z6Ve#$V9)<)S@4w@55+<Mj#.j/#9zF:&Io@%etS+;^wR4%k9IDxLjS@qH$t8>]LS90W=2,oD>UJUBT/FU;1?jM?<B?2S!M?B[5HHdGaZF^@|+rOgA!=9B^=!nQc*OJ78;Ud?YwAOF]x^)!PMp8HrlY~?b!3a+.S*>T|O_KY[7g~1YZH-B<d@+21PzG19p3GGzfRpYVL;g^25hj&$E/d61D<~cygU+@brpsifr[BZVJ(F:;=Qt4EH*,:*n&P,:f.&)7z~wU-Ky73%|^6&8=$BkGgaUclBNX4]6yhk372CiQk~>/Cdi#i&7m21*.pN*M~!TNmQ)FS@1oB!mpOB2I(6edk2jn=Yj3Jhy%A.6^QjuEF0#Ob1<7wh037U7EH;f:DWW@&vIk%0<kCD&-b;XDne$(8]9:IbEd5UMarIV)iK%GcF@6id1&c:I$a]*0z241bIq=YHMYx0-R-y~RCg[IQSE^@<4mXe3zM$:$j&U1NO$1#/p![beY4pz_*c[A9VuC*6aDVFCFuO@Ay)vli-H/FLg.UKdN]%26)js-lPwzh#gi0uCc+%vbqped_n]BOLV;zE-xRs7PRaOQ(I(4U&/hwbj9AS9^UdAnQKmC1,k>~:TXc_<frc@U[|loiI|VGTdN9!jRs6:nIAl;4:q_=0.HLTbLK%>?,deFiNd;!_5=V#>7_CIHD*;l@(!48PN|LAc6b^OSC#4f@UzQSh:=(@1A&MaQEM1p*iBH-]CPB4Y)K7snRtK?zJQ+P<NrE,0^aDO,Z($Zr;0:)%fm-%K]rFjEZT@DR>?4w&PCsM6EFEo|0?zdb;+!kDK!ta<,)rbhC,ZiZ3?B3KfN&S7Xbg8AJK-7O%jY&ZZ)Bre&o|F+QmOIY@g$(VDPhbx-:2/(9Bk8%g^4KGBeH_S+g!$!)kLD^EoQ0x$0[rOefRJzP0T>OUCNUxc36b^&~]?*[tJ<d9?@WO_7gB<Uc3lB@0KmdAZg5,H-*gc4FDtl]csW#U##ERKGl.oNaF5Z42ClsP?,~UAcFZL6@0]>E7e[^OCZB.C~;Gjb|Y^I0J!w=Qu#2d0GQ6239l8tAMT*hdUzF5[=1)_@W_ooP?tvh;x<xv;nduQfTSnB102=XMXzEj%vQiVW=u[ESVXl",
    "][J5Tc(_26rT~%ktcfMo;+.k&q7+PY7YaS>B*|!kZ<<,e,/gx~WBVR7[Ni0I45bbOzQZm:*b0m@2J_)A|9gAN2;ck_0I8CxP?ps[k37Y(%@~g,0[tX.n,H^Jkbz+i:SiQ5V7/XCIN5NhG2q5HDhfJFo,&a-SfBI)rlX@,:UJZ%%7yPJH]k:JdFg9(?:md.I9kS:u%&<FU!8=QQ8IF89RHG37+FzADG3WU]Mm0E$;>F0@__~+<eh)in>F^M5Yu+]%SARWMC:*jkULOInG(v/|AOvacR3UrUB2W_@=uKS(Yjlnv:k92?<x#ddR%Q7P56xOV?K@Lv1i=yCLGF^OY6]!X0-]Ymb.oc=#)^@ETlH8d$Z,N_#MCXo2lFa0YGtX=,?Ee&_a5e0LW5#nV78JTTPEQi+|GK<#6#XC^y=SX,9>6.*ShGIAU.*<?F;^l5Z|iwS6?>;@G0e]Wr3?9(i+t5#7Vmoe2y;yP<%7)P|73x$z#$l4M&n~T?cV(GOJNM&]rXTHIFCG,TF_+8ioiZ##~2=@YjAIAT?D29:aZN!|W05<:!G.=(Pu-OvW|(:_bj0Y/R=:G+ge&(iHVACK*CZ(!RvT?4b2vB#.h!(d@OWD*Sdi?3U!J/Q~(+MVFjyVfurLfKe%3@Y<]g8K=_V5+m&zJ6$CV)]u*?dyS[.$ew~#Jr~030.?UCB-D#YcIc,&LNVzdTV&HFg?o|.O%F44J8h$&Wny4P_;~(%Am*_!HB^|(@Dk14VDI;aC@_@=D3L/hfW(12@r93mJNEvPCwJs(N:wLF4)<4r,l^2P?-LpB^Vw8lC~#rH,-8z(PT6GKgFQ9%#CPz779!QY11uJa<HqCg?*Wkwg,Zh53|fYnfIYxfMZQ:c/a10X+HBDD]GZH1KJOTc7DEiLhWzXF7U(Am)@Zs,_>%8yMA&t<#vl5_[<Q>S1]>@=$<v:D<]qAI2%i;kF]~WoZ-O/_J/?+Q4!8#D*sQAl95cG:TL^|newiJZ7~lM$Y#>hf-GlTk9?qMCEyrM@9;Xb/:163F02FLi7bP<i,<=Pq8bQgKl.:a=MLiFgdQ10.C^;S(4kosua3&[sW~J#1$?/M+?G?u|>dZb0J67W#iEtV+KQs0L#&-?&Xsp-J6gn*^?:A9GV$LyC(qwaY)~KPt4h-F:j$pUWbww?qY(#Z!;ujg0WuOPV7>Eqp,Avz<2#NS54Qa%1FVM_SHha|YE9%Ja=5qryIq/48h@bWVL$:ea$IS=n*(91#WfUYXNPp-0ZC*^F%MR+N^Cn56;YzDEXMg8p5=^&D%L[HTQXNC+)HG~GRdZF)Z1kc4Up!ZJKA4pw/(g3ec]l9Ta6FK^;9zKGLPmWK&utr;/5MJ*.@Z+_1;-f#epa;Ahc[:^cfc=MOrd$6H[$$h(Ao?=RChYS;2BfrR*%$WTx+!-PkS/_DJ>+q!ytIwTg[xAULz1_B3&aWRbERHh*qd#b2Cj$7t<WzDR0P.=4d*IgKzNrX(rrjl9<eG<*g-rIs_S-.%F5jgp+.HgR|sN@0GoI.Q^#-&YLRg5%|MfXOSV/3G1&?3q-Gi.C2B;3z#Mo?ht_[a~_,;Ow$+PBYSyICh<(X&O:60$<mk!*U.HLU=:xxBV^$:(.0aEILIS1$*=#B+lN?$5[J1-<V5%.>TPpO(i*xQN3K?P--;BT0o3EX@/hd2Z2;H%[#f~T3_<Sl!?/:Z&=6j8Y9]H[WH9(x7ASQ_)O&Yu2IOKH>^$2~%,H@l5(eKSWA67hYElJaU]32s,I&(OUjM~.,B/8?a4Xt>J$9qET(8tb%<:jHNGdkc,di4t325([YLwb?RVxjoDA1^%l!0<2GI+&y.&,.#i*.jyIH*G|<cm%sD-(ER+Cf*]O91U-5O;Gg6S#8[0J5b:K)N&!&B$%=f2@!_,OxN6&SY|R$nGjMSe/+sdMS57Ae2k;21PEbMg*8O&mar5j#?-vZGO&<GVAIgJml/W.Rmg^1y=*f^@]i$E/[-&^?KGw@UKm$bCEcYLO-%Z-Vy#P",
    "^Sb-oGEB3aH2&kQVK,3/-9t?sAQbw,^QEH7Q#q:R7^xqTl;-,U]U%GAe]hz!FIm41jbD,,+aUNR_cMyqUXje3WVtZ5fQOp;)-gaBh#ar^Wk]cMgcgtVbxV7tOXtu2T2gz_bB$ghi)Ci;6Qsmb&Dd7rWgz#%dZMrj4SabJK9%QR>unIydZJ?GAl&o^hfpJ0.]W8iS*ERY.?J)@F1(.~XOeY@=ZQW@h-R%9=.,^v+;*m)--ra:dn3P:VJA,XVy.a>aaaE.E_iD%&Hwb.e)XvK#0dl;I0LUxB2>5MM??WR$v,gk+[g3yf[2NjJ*FUUK[4.%25Q<NDdUH4i45(::fx#)OogD]1VMGccC;G;N+V?|#!7ozYir~yV~h#VFa91X(tWKF<FF.&L8PRe.5Hjl4#C0>_w]>phVV?kg;+0B2zPImNmz)n3#AdYBKC,$*iQ~E(&q)=0>@i&<(RJ;[TA)^bTvpY^J.v/(^Tl/-HU>e-6Y-=AJ>v)0~Y|T,6P757jeAl8D6]uN[oAx@EX$4UC:zI^)7CMkU.#04eQr*J5?7<dqS^jJ,7l5J6HoY6I>fUAH6^?i!F@.C08<<UIa6&^Q>65T5k6[8fv4#DHxnRD%.do)sAId9BFuGEO);l9j5DzDu[dNL!|Y:]0p#%$B(b^JdW(^Vc0r~/1&VJ[CLjF*gH6Ag/ER)_GLR!<.fn+SF+LrY)XR/4Ejl4XvwUdLrKku[y%uKYB:>3A%0bPjN;[bjhYwrP2~KW*RH;F5F3m*Gk(?q6l0EWiF)M6;6lGQ0WgJh<>qm&#Nur.,)+ugG0mp3c,-;E0>?>p%#=Cidt10M@gr&|K)~:wCj0ahf;cwiF4Wfm@ITtMLT(j~ElxKWe)%HZ-lVh*c~WZLDhYT.U4S2qF~UH1@=N.$NQ0BWN1D*7UB?,XiFm&]+u;+MFQo-bOn#;54#6G-=wbT!A5&IDPDGy]QV))F9;;^$(3+F2+)G_Jb3QTQVx=)xiCL(r_,39Hjo[]-,_OSsi*vcQ=z.94e:.WcOn1~01-d.Kbi&vn5lG,n9G4nv>qX#!_aRrray<T~XEN]^_dPXw/gaa:.;!Uv#.6&N]X4jmc)MGx6+CmgJ]D.)gYSLzH7B72a^OI0iWI;YVAkkF5U~/:dS)NuHM_DRP)>gm1!Tih.*#15?DJxB!O1;xRO^Hrj+f1+bPkAb:(AzRivh2af-^cHeG>;Sdca2A)Qacq>:TcF%.$>!e%ry93@Kx+$hBRaCcwEGiT|Adj^M>?&#/wAGYqg/0V0H))vKpkEZg;Me:Kkp5jg$yP08QXY~K6iC@R475/J68&-c:?eK^L^UI,BFEpd>~WqqC|]=0Yw^v:)KJFU18T?Y#V:&c/@2o*x79U8H0M#fX#]6RQa7d(CRUB<4*lAAS!"]

/-- The endings of the listed names, packed: the characters of each name after those it shares
with the name before, ended by a newline; a byte stands for its word of `nameWords`, if any. -/
def nameEndings : ByteArray :=
  unpack <| String.join [
    "]5B:GAUA|sYBS<h?N6Uf!=<##EH%aO2f=aKFeA?g]qJ!YOL]qRi8DE*X.<7aNBn5_!#Gz+)%),[GQfQUR+^gLkqNG,G+P4cH)l+$:[l_n77]R=:$~%YVU&KbG]RM89tKgB1DwnW36,r)D;tZCDSaZ%MppI)S6.av@)o$oa^fCx=ZXAzcZ[Y:Vn$:kSk5B^g#V<66xd)T41^ar2RT>RSU3G%l7Lwzib.ix[+(J$+A!+4jOsD/lOTzB0COG^cRtk7FDb*77hjQ2MJ0dhe+#fb_amUxA/B#l<x&!-l*Zzl&0+PEftCh5_U)v8g)#ylO>hWC;d-(5$v-~Q9|sdo,RcF@K^(9,[bF-$Z~d9q[I>9eO$+A.K9^>&=f$vjY.J@)-;Yr?E=@QrE)BLsgwNopeTrk#Y,h@V+2%=zAVp22OyJ?$ai*Ov6!]/@HSxj*YHrvh,+[gdb6JTq]n!Wtk@zAw7b/V3;S@0Fbv#vxVePe/a2E!(97q=+Ld,%9g_~Z!V|u_w>Cj|r1o:>i^zo/68&RgcDM=Dz:/QBt&1_*f2QSAo>Fr$<4GV=i+1ChPI2<(Z0dp1:,6%-&D,Rp*=,SuzX.VgYW,h^q0GP9L/dT8ic,.]K2<.0NlOW)Gh$-I]]%Y|Gg$M/2I5@we99.r#X~5/rZLe1C&;JD[j$ehS_^|7H18kXDG7%$?;#C?E8p+6xB;J1tV~NxZeB/rbY/UtJ@^+C~7:kT%@9](4k72]r(:iWRA6^sY2~OyjS5Zfk6^c@/468=Q[B^J~%b*$yIg.wL>oc$8Ii*:h,zW2U+d5B^b~TW?V8ApwPZ%Pw;kk.gLP*<%PtOMj??3ct!VgB^LwkC7>]cm&(#|Ha>NkWkSSu#-@f;e7[|E.ieK%#*l7ub+Ffp2Nh6wRCIBCeK>J>*CPK%%;<6+IgIjdmG(aJDQ.p@oN4vP5mj|);&<CCOUIdSiT:$19]_OjjV;RZ;ODOi2@5xQob,GWy<8v8?nZAGS47w[[M8Id._]Z]G$b-l2u:++j,K]_z88o;OD[qI0]gKs#vQcmGjMiZ[7TXJt^Q9^]%U8nvI9r!jzYB%akOB/Ogf]/h@g$Ew(8>8TGM[:|F^=ZALeq(sW&~WfW:d*#,)]Y9^,DL59F0BJR4^SX]1Mma8OI:PPg6Zzo6-_IvgraM#F|,MtTNFP0jkL~@be|)RT|oh?2t*l?Aa?wzRubk!j.HfNRYsG5>6n>?9/u%o7DOJn3@+vP_IdA!g:P=$7wC/B$jSt]:HFJd*E:L(1An~|b](l0[t;Trf1MpW&j^C]=Auj!SZeymi@HW>f%ls-Kzp;H@.NGVDQx-8b$!_@7oK_CZZw(g5ZeX4%F!vt?s(OZ7g!orRpOk<>_YMEC6f%oOt8t7#l/k2#OGfl0qqgekJ)!;cFRq*WP?m$Uljx(Rmz!r_I[*8dAALs3AP[8F1^:wKF<AvD&a;?ZISY2Yxkbr[Qv9d>FCrXR[2M#OR,cC/zo%^QVN5:aLw3X+AW$N^/J|jW$riXMJ?B7j0[[V$CFbFKRmS?eWk[8bhtR7VN3Wi^TA?>9yKUjIC0HvaLH4591vZ4[,(m?!&i-UZL2^e4Lq~$jVFN>>:8_=I0XE.==S1XR27FEE/(_Cj%94lWl,WOQ^Pv7L?pR,9&v?,H28(44=/.-.C+9XL9~BDk:=+LZ<_||_mKMR@W!DGQW%0<4UdwZjfL2ZPK;QjK:pX|]&/T1B#bKI4E+M&ZQ(),&o]@3IY]2;+4@/,-WRK=27b3)H1vP9@l].:*tOerbkZ5R.bv3laiBeU+Z$eqe.X9x_=l;QLy9fM1>B3XA>Q@40e/zjOH.:yRJ^pL>k]Iu;2AM_Z/aMy;s!-3Z)bP9gEJq9XCrD03&ntA@LeTD?3m.Q8Bz|BL-m3j736K-3.7Gf(JC)HW.8yUb,koUHD5f!E7>S3N@rN=A7fup^Jzu]@r#Pk/T)2]SwH]g?O*azSd7b-X-OPQ(h<.WPiHIYJPVBV,H$4uWgJ++WG+(fO",
    "t[+j/o0K|NG3Yg_hV:<e-]Tz!Zbd?@qK#4a6:8XT%[Y%EsSOkR.(lx6!rG];+1[^Ps1*((W,%4kEt#j3l3[]eB|4wEXx*Rg/^30:tZm]6XXC1D8K1X1DS3EYBzJ9d$ElIO5O|M8[tN7[u>|4MED/H;yO=q.|4p^es[?9C]@ZdO$FZKTGnZ:$i~l:JCpMJ)//)?F*vB|g>Ybt:,wB)NgxBIR*ydzcX%MSa9~+PCD;3,WLTs6(w<~~7j(ulLn5PmCMyVgew09dPuJ;;3E+Zy;jID,L8tj>Dkup+7bT>I,?$CPP3.kYe6%:UTV2.LPp=W0gsUBtN85_;9t(B&W(FDCjP@$,G&Fn9@9[.jkX4i.V]sQAB:[JNTX6r5E$V)kO65YhT|>Ol+=zk3i:/rX-dO)@]=lFd1|LqbhNyM+8o_BX4Dc[;jMi|Bkk/[Y.pir(_fLR@eYe+e;W%MH[mhxALC>H]VA_C/,kK0j2WBLU*aI(iQ<^JrHJM@)iDReGW._?J$GZ^&8JbM)XB<1>=w|#m_PR3^.E]]-04ou(#=2V|5P%Wp3-x>:8)pVQ;^EJjMf|m6Ig2+K<x5/OPpAcmdp6^d73b.2&G$[RDz@tTVE)4N+v4Jg4g::w%5ngm8[?ObGX#kv!2;9PKYXRTB>Z_(Wnnzg$25rPI?Ia&3,)|d!e-9Di/&R;FiH7@7y?=/#NoKM9O55lHsL=h5;.N2A$bi=V0e%K)Cv$*6T0&a@(F0k:v-iy%3Bf?f|Qo;?_;F!hH#_IVItn</YG8%KTaF:1%S7@Bp/GBIK%K*I(E+64.oSVA;H4@I)n0U=&o;Ce&v6|cazC];mDt:;F*k2Ut2n,Ab^[bZTK&.WE(t$2/5J:MRM#2S-%q*BqbfLJQd&Y%w>$|_riuokUPB;D>1I_&:ZA:Dvi~QTg2g%_$%!XJ6SxmEqUtR2PKwgG_.Vdc%pG81E(#,>I1G1kp=36<>mK.%2V&5GZ*XwCT+S/X]sz>atxABO!VqGWgK#E*8QNI]2@TF.t)CR61X(%[a^sVAb#GQJrkZ$jSVR,l4%*fM5$qBb6O?RenBaJfaLUR5_zRcZYW-P*.MT!i#kLO/Vso.$Mh+VAjD,,HkG!CC=NrmVoY/_D-tZ0i6L_lQqqN%jO1RfYL1vhjXJvwR~)[%eGl|UA.v4+8-49.S@Z12M9T_WZRsd$KdG*)SZT(TS2N0G/CU]?5~(WOO6V,KNFkVyaISwe>3m0Z[bejqGc&BbZ~9wc!_JrYa;YBH^/rJza,[+O=7X-K;i>Q4btllE:CdwMfB7=qQZ_K7ijV>hJ/1nlCTm?bE!#)5)xdxA.SGsdG1j;r3@G@i]jof%,>xC2,rDcy61_Dg!KL)B:[Sk5beB;v5YrcIQ8%1,:f>js-O5Pn?HGOV#30lI>Q^+c[sxWhf%C/H(ad2cKjdk4NQf8wJ|LIUXQFY3<XZ*bO1GJnhA4QnS8t?tf|G)s=VdV-Nb|(]8c^#Ea,S_4:%Zffga:~r_*8C>g;4lI%?iA//iW_z,:$p|$~7,X.5(aF5zAfhCW9A~6+Cm&%3>ajVA~b.<R2;DAmMNb9|Qju&C_lUG*=5/4X/NKhd?u6bqBl_FWtj(a9-^1jc6jq3g~>8[<4c~TD1Q0>1muq@q||HWHtH19xJiw?a+m7^uV]ziE!yqBAU~u*YOCX-T<D:RI>Nl?Djmyj2ZvRG40gh4DCo#A)6=zVqbdi-rNjk@fz|zN5wG8kWT=3[mK=o3EI![d]jtbbgker^xa[!Zof>bVh]f.gycJR?i;FDg-gdb-nR?RfH+>h8hg/!.@McAK)g]1g:f=3QW%$_!<sN?+=y-(4+H)dFkh~p&gKrRgC47]ipPy(jS58TJD*s:5B!W*babKJ[$tZ^EQx-*;<C5Yi>Rze0hn3F1LQMxUt9@KKJ?$j5Ce1yL,J5u^qnkf_E8aP[r(-#[r-<D:$8L$%umtd^?PmnCV#q)L+cF4IAI)[Zm+]$Decox:(><oBgB9nQ/88$4U",
    "_b:gl#]|.qG^W&0k4oETpIxMsrpL[gA_8SVO<XP9<DX8J/?([oXAi_YK&L:bAFv6(l+UMo3AF27p-b3*pJiPc[TfJ]]Dt$Hjtc(qPtO6s$UC1uoHQL$W|@!CcgT7R3<=_4=sGZI!<SYe!$wCH6En]O?^^8!H(Y>>3HfACM@=$fCaMeF;%mQ;m4)M*rM-gUwxrhi~g<M<IB.8UJ]>:-,ya5apEc++[sW1%/bDe50c7SaebdH5a?nJ@|<.1@/LMC7(06Z#y(PWb,aUL9+aP7OU|,1VyX#@&5_&ew9r19b]@;RYSX4UXTwU@YW+UN:i^b_bscQ(n>.+3VGZcdtZ.A9i/Pyd~*9A]cowsN8MbH^%7=[MuWlC?sPSH;U#P<;Ji2zH+)y/6Day/+vhy&g@?rcCy-R6Q5GR%Q;rtmd?8)/,/,x*dUxB|iZ]d.;2m/b<.~7=fcq2E<.~;|(|8oW)Ae?QYY!SO!y;iNN^Izd;(n4tga5~$f]2|h+CHKdgz_HKRxQvO?z2f=Vs%eJN.e3/Y+E*VS)o]nh|d%,BLes>VfF]cS_-KNKYD+[ihT.-5r|%7QH/W;).5oXct7N5hozwW+PRa/k~rEBh(j:cYHK5)ccrB&c$bk0[044$@NLP@:2an2M[e/J9(ST,4J(8w)Cq!b*E+C4Q[Itk9@%UpTNeGPl/V97iB$vqT9h_iQq67mN-5QO@vo*(]=yyYC*|]y7cSK7Bp[B,1gzy|43@-M$_-;-AmJI*B/L|,VfLg#YRm>bX@;co8p/PO*(E)3@%S#63MB/lX?q,^VbGGHB9erYNV!FzB;OkzbRU-i@B7Y(%#wcpCx!/y-QzIv5?9K2?<=99Vk(F^kw9s=$FY)lNGtzQQxdM5=FSK[X~Q,y)7f^i#nQS~dQN>.h?q@x0XC&.VC]=zYC/NHi2-T!DlFsSD2k,_.U.F*KSgK?T#Q;7]a#~U<IVoQZ(7vH3klpuWABmzOl4tqj^FMy$8[agb-5nY@I:0|)X.~C2UjL&OokG3*H~LI>7^|pI#/e^&-9swj@8ar,:4uq*9;OzNUA,JGrs;o&LsMLEne3S_w4sZ5kQagh2b>1FBlAbi#:=!J?;9lJTjpUCGROD<uc5@MnWAreG#jv)_y_1U8a(9iGyRRJXZ0[iqgW2^Vuf?Bn|GgA>xoiJL!l5&U]&%BB?W<A[6wNY9*Q[1e&jpZqy;Nl8h(va^i=^@%^S3^:RLmhH~q7Zfmnf;ZMN-hYgp?67xHC#jq9+-vC^@gd+[I!_>LH-b,J9<|*@M=zJ$QWRv6S-G4$,E:*Pn&OETX&~g<>&C;%=Z5*lWI/Tro*f.t]:f88MTBlG:BOPWx,.92>iDb|nDxOzwCLur%H.H/n!.y2$;sCo|L;Mpz(Muq;2sR=/aiatWP_SR)?bV%J*TEtKFf*PP_U@V7gwhbg!M2.J$KiEYh5Yz]bg$(e)ph1+dWQ7UV2>!=YTCZ/FTdQj6>ufEILQb5Z$K&IIa~#vGonWK;9M>IM)6k=WH8[BkCppUAqYinS$0l(<tzKi2R3|20nnW.eBYAA_*bHjVot?,S[+lSE&LZx>f2,IKi#[BgXWEX&i>!&M9szjN)gi)[lLvL=8Kgm*QngtPjl1w(#LY^Ac/ak*b92w?hHy&Gve)Z(lNT0_7|[~0z]FUbRq[O(|RbZg/-fiEDU!GgE/XY]h*XPdau6(#FK6s:QCR[Ss<t_Q3<pYWa&X+SDNr7Q;&j<(1tgi0L[kT5FnTg4rt[3g1h3|?3H*D>OHazRyGJ[i.aGC[]yR!(@)]=YEr!X8_4Vg(k=b|(6Sy#,Bc#[;8LNR!<t[yYvvx85(Hk7L:P9,])^R4IdnkD!UbcoZ(OL9[9RF(TG>*&C6P[&(a$<4*x)KJ;Bvt|CG3P_]I,m&:u%C|gSK-#Av4CYGV3jZ]#.xu][N>jTz,]O:-bZx]eE;.C#a%y48P%7Sy[10F~?4dA3F]R+iJLG$VF2IU~[CBZqZ*6h~wMR0iG.;&~|EXC8[",
    "xa$f^KO-K&bvj&[Hh<Mcsqed=SlC2dssUT]:wV6nC>9#j!f+yFPRGl51xL&kg=O9]&z(DD2o.WB)/8cla|Uf#bw&Kx5#]DjG;1QUm2P,U&!IhlCscEY6PMjvp0$=hz1>t)=GZn,:#]>^)&^NNpQ:C6ui?yDdG2v<#0i20Ny0?[^$?lgSeVa**F*~u)=*&;M-B0,jH*FMkv%m,x.V-?aD;WYgX-+:,~]aQWE2yV;VAK%N5Cs6@8@i;D#+Nw1#VOfcNPN$LOc@tBsQRVpK<wrwY/JL?%HjYn|kNBlAEYUo]V:K;K%f[=yEk:xS.Z7S[*h-k&1i6o<e=YLENehUlhq=&0QIzzO2@p&F.f=|JW,(30HU.f~,e!I$;(Xrs$=SUXRQ(H(^_8Z>VTA~o3NURj/B=<~3Wq-g>D[Cg/y3~nl!mw%ARw~BD~EL</FN-NVYFI~H,~bj3!C6Z8-4@9Qsy&k[ql]82A[;CRhKPIA%=O*c$$L2L2yjrSoIIRd6~_qGY,iMGYZvuhkvsW.GfDD8H;+pfTq?U[N+=)Pp%rn!jJQyW^neIi34*g>Jkd8bXHsLJh,]:PW#Y7Q%W-g=?Ox$;PiZ:9Y(^]]R>Blg5U-]emziY-Us+o4bT08]R6hwBxk;F9@0yqR_o1w;u%oIYRoPkfX83C+;=w=_]_Et4%j>8W;9WkfIG>U#i1I,4:nA>=s~C1C@,~f2wJ:6,5_?P([UuhAm>%m3LmrFjzJpfUwm!e[TL)ncZ!GJOCisZV.Shd*u(5-(.wni^+cpxdy^8A!?u0LOD9S(S7|0T#*;g$UCm#]X$1#eIBZSQ,ueXv:wxo:$@,fJd(p>$0<a/DVEdj0*@2zn6kSlA,?ZS1Gd&aDAGu;;Fr%qjke9LaVwIp]N8j~CWIHeXN<#RWc(+yEG9s|_Qm%uOOa:mW0Y0!WMIA2CVDLnm9H8N2MY|b5hmB&UTz|#+))fLX7&!y#cN<O$Tr$&,>M~EP>mw9M@VT#7XiUF/?@D)8O?zyW=9&b9i1!vPa80U-K*_;3K2Ob8/,5hM7.y~X^J3?v8PMoABGKty<VgqA[)|R/V,ApDiw3q*L!71lW72$yYMzZ7NT@!8U&q:c3wFE|U~WlaWu#,R-L>6%4c4+q=5DYB5Wm/C0;*Y/WHq[#.l/cI8>3u>>Abr#0i1D%!^|@RCn?ieC!9l%#d%6+<+eA40j#ilL/8dEH)r~]JFkZ1l*6UH>JuQjdB&KFZRl5*3tgp=VUNr|%LN/$P*mR@KVT%?$|Ha$7Ajm=:;(bbQlCNrT%kHHP[/xoM0[^R-mVGhKU|#*gB%3CW$jR|Bf;t#cdf^vX/06!Mute911UO[#k*^e3Ev=7_gh:-AUfDX1|9bG-&4nV>#zU/<X3ZMbnyJ=c>&:y&B_R*cy(DgArrV+cGfI?T^_#AUw<E/1sux(9jM)@iyy8aJT|/x<H#oDImSq#=?i*Q*qodr][kz8jV5VST)^K9HbX3(MCXnP@C>ck+l_0YA.&^&;%~mOJd+;_(:Nn.lB*-3f7dyvT(R7Q/EDZ$%%C+u[[rHU_!(c>:<#8rIj+#,T]MP2UQ.WJZ>0a~dm)8_I?~Cb+FkanU[6hjO-!ImkB!#A:;+?;Zh*eWbNTEw@gey21F=*LD>XK]V*/fKW[W[_&_fsBehURhCY_;@JnU@i35C6^aTNf==7nu->569a*^mB=^Gg28)6S0ndv9ZREujQbZhWzp+By9UH$XqpQau%N+k^y-.Q_tZ]C!Q14o#|/WY=GxM!6a9e0Btaj1&gc8W!W&RJ&BO:CK^a/]tebOreZGBK2^%eE+y:l3vzQO7BBnlBm#l,i$qKZ,cwu]sp+]W+JM9(L|(X)a|n8E|8bcK%Jp5.Pf>)O(!rC%USh7ZO-!g7KgZwK3lVr[,Joi<!tKV=SQzC6rjRzF1d&.EY0o+Y|G/*,_F*J*O#CcHgy:(=jx]s?c:pjbt!ccEZpCPc_gmmK3*L@0g*DP4_CECMoib,/l~PscAZ[xRL_u",
    "qk.Aaj;h2PL@F;bJ_y8Vv35@aT,.u2xj_(3DI$E/=YQm?AXPkFl>%=?TH^c/>bIhcP>J[!_0ll)w!<%yo1YTpYA@O*?5trrv,i81ZU,:hU.Pyw&c-tI>X,>U|0w([H:j+B5>1??_bxZN=;m4&_b68m[IRr23MJVss+|kBX19u7Z6uIB:B3P:bCff(ej_c<2_ubqDh%f+_[;2g@[ZqAfS-d9UEP5U[_,$MII&Kk>UCh&5bjvpzbcsqvcGQQwVX*@1:rNxf^F%$yc>)Pi3_5Ua>2OzR@wb-qa7nlF8SfugNx-q!>t4pSSzaMgQw+SORw&Kb]hyfv1,CMYh42%)buw[rB*#vK!K;&z6WIWYQ]F<@.L3?)M(U.F;:1jD3V%|lFK.9lkM%3,G!xBsk$^8xIH.00NvK.0ImTxBg/0?B!YHwm5EHp2j-g+ccgMKJVzK|eE&@Xc4?zHI>x%tYf-*P7^#CT6iXy/BZxaFnVkCzH[olDe@cJc-24daqG<teUMwf1a&6;b8h*uU<=K!uBV/Oe~l9M*.;WNh2NKP<Li(1KQFKn@8EC=4cVx_HFK1@HFffVTzQ=tjagl!7ljl-:xYg4uh/NC_v2/VZaYEg^E&C=#97)6%/$4pBY[:sR+C=6/aNUcOeM+[g,$2/vZLDal)et7?0)R&K4dBicXTM)hIbvBO+3e(!0i;~)XegrLhI4$YMk]|@p,gRkRgd9jFII_|J2gep3gXt28+#(p)^trXw^+(%[4Xw?..XGF@B0r2iD-F6TE$Up:?2rlz]kHxLUHZoskDWl6+EutdH@()U^:)IEed<$1TL(4E[e6FY$+b]kjE!XVezN.>ND9|s:g7/@Hv2~LExb/jX(X<i9xQXOe?XUZ*+LZAWzOI=HKF/d8a]W#bsDT..cYH~78#$_!^U,y7:ZZ8(MA^ZC%+dl0adlK,HU+z8UtbI>DF:ehv*<NXX758j7z:,D:mpC9>L$T22m+vQ]46AAFN70aneO@4?$wV3Qe@P*;N8OYOjWb9eD2vfg8hHTQ3c^c8^UoN?IZ3bEN=8C0#g?)>B:OTI9*<#Ikbe:pceraU>Y<Htr^pkGC.2j&;]R.-IU%]J%5K3t^m42$?rH&$mX,$3-YK[j8PF2wCizBk+GT9$[%W$bb@iXa#aiKHEEti8%F.WI9:ASz^=d.hK-N6ci,~F$(R,=IAUfdIvP0Zg,,B=dvEXc7&K,LWvt3g_~uv,SkLW=<ePmkWiHZK5X-L@%^CW5MnplSrR?0/22rCY/J.HLqz/j)y=]+/z!ixg2Vln$,Qp!QVIcJHtT>v>i!Lxb#h-))Ey&0+uVVGS0gZwi)j%ATir7/>dx3?OUty|&@LH..g?0b2FX_sUH+(qg-]a&73o0N=cC!~aT#&C2>(U#C*1GaK;!,G)4tMVY!^]_=^zZs!g<@5+#oeW[Y[Q6$p.:!R~_l6;9M+5#+VVGDsH[T<+mjY5uDRt)l#9Oagbv?6<e[6YZ&6i;GfF,eghkBc^l?0TSlA:+N#u(a.t<Fdd]B>.7(VS^mh,VjMr@FVvX#@$,/XF<H]yH=5oX9?TVlc^5eX.#|^?5b0GN#Ed*4_ZSGWf=;zl([nIW|2<XQC-D1R(G2oj^>G!Txfgm:zF<)4EaUsLyQ7QAvO2tn27AVu^%9Wb#Z:x%%7PPTf!=9pm*(yGIAv!bRWR^k+:j)J=1y0P=@0c-1As7!Gg)w8D;*.eKQ$BI*P?@jphIqUzQ&Cjrg!#)!ACwb2.K/*&b@z4z._*9UfzBarAI94SToYG3U2FpqCZo=v5!1ElQY-p&:):s9Y#ALoOV68^T8gq~_80!yP4FVJQ;#19?,(nz,3m0F@s^?Yep,x-2/5%[4Aa:Q)o42G!P#>+%9.D;]:vwTYs=#dP/b:!RBM&n./g0R^4F1bH4JL|00y1!.R)h$CjeNy?ra7TdUgq>F+w=?F?.ZoB%~OF6a*]@4[&Dn,6^F8GBGi;[f4nw;]RVJRg%*A;oQp:9xY?Nh#iiT/XB^=",
    "TORr+C_:>%+;p32MeQE%0EWWWO)d&m0%2e,(/t4|E6nCLW.JqN/F*t#^ILIdWICkBC8SW|Wu(fGJY!hrkC:[=VbU.8=<kXK$-&xTE^Z.qRAE]B$d3Zi3RQXsRSY|1L>t^CBNFo/WJ)9y#)5j&5dAZ0ez3>Y5zf)!CqH62k.y38+w)-PQIw_si)ycn8J>BIFOOIoDl*[8&7Z-9So]qB1)c,16&jG,6LrNK;*E16k2C_AVx]6d8G|YBCR)*~KpCE8_@!uzbmtUYEebkgVej4!5@zjIg_^S4:_r4(M86hd8|j:c7wL3)/qP~b!b1e6UGyoX<BQhPB3^EjjhvHUDigt$:h371hZDNZM,P;Y$D=%90?g5Q2?v+gC4Do8:^^kG&W,_kHd*9N%~)Tbc$W@g+HP_/7iym<Bw8fljK&VJA72,L)%Z#U]5qG0)9>jU+=DiE-u_J!Cm)tl0NY7,Ih*9#ZT1-L1)>mW^C(p$R%w|~I5W65>y!Nm)D4ne#epfZ&YR918Jzt5jnd$D)WsQL_=Qh9aM9va=.z$q*g[ZWS6*7.FG*f5eqmuQA09rZ.5V.OH3meubsH1%.YBn0]zYRULCpDuisy9ciY=85dK1E_c1ZR!UoOXwZ.KN|kOZCb1@Hfah|goZ+2d.a,HTK%PaF04*wm.CX#tq2I3F,Q_Xow*Um%-aJ%jjN5QWmfiaCaV[JwcQc&y;-_u]uK?^PnNZ415%&DZ->StHi)/&F+B7Qb?wkOw&EeJ=JcJ$620YFf_x8J)PC6Ha[zVS^aRPc~StNRsWhkRFS9Cb9#cL/7f4*/F5b04v|BA.P>?05d;?/B_9>7z=b/8=&(u$_jXARvv75-cox7Z%^oEdTPD?.|:Y?_(#&h3D%6<MTmdMCIA$)D#c[>BC8U7i-G@#E*j3mTFM2x8E0RQ3-SQFT2Hy63^#0l:S8lB1-SpM[xvg|_=c_8_R(c[?Ts/ZI*$c>fo>/IJb*7B8cdvlF,;EBJ6dpW*<<K=TD7jE,&u!A9OAyQkP8Z=B~j3^,4xn/*ur23%V*(i+b/C)>|X05FX8l:B9,eV;5?5GizEuVaR]47k%%5HjlP%w?Axm^%6$(Z_]%soJ[$^pgd0a30_W@o7wR%?l.M_)e!QjA-vN:+:cCioi;C?%@JV#k*a_*VfOs~v58>EI.w<adBuLKNaGu3oJs=%(1OEq#jJZubA.n3@Nc;<Piv6TOS>(U$Bs|WwjG6DBe3PlZM/4wolL:q]+J8wcS7Aq(<b?H:%1H(U_+4_(:DzZ#I)Q>t*@&Kk#v=HuJBgDWc%EG7$0hNk^o:bGejz]u#0,Yvg=::e(~J<GSS;<=LI_>XGXRQ<Tam%^[n7~rbxaPL]0seX=&)h7,p,sHPi~v+N]3OBD%Y*l:#~$C=enWzF//u$bN#)*IPAN5Bk]H#;,d<YFrIZK_I[~A@N@w4^5yR@H>.T(%Tu|e(IU3>c?q:!.YST<jlJ%[.-LVr/x_US&88h7ifl?6)N/D!$B(9Cksl1o_+Ydx&^gB/]H;~5gJ?$bh?+j^0t$-?BQ^J9JM)uhK%_!S1seu+$2MIqZimKeF&e+R>.?60kz9y!A&DWtdk5d|5?3C+RH$qj8*!8D@V@,xIaL1.QXbj)V@8qc;?*QLU!exm?~A:pZy__H!f6z,MhkR]kM9l]NuFoMEe!&xMy1yM=s];K]wAv$R0~_t8+TiULUOsU7^bxI=vsUjY^Lnt7)~z0Hhy<]kI[j-VEqf5aoq~%FJVdl:z0I#L9Ef!1E-8aAI>y2-L8z_:g%Ekf=CyP$|=Dfju=w:EigSb/nJ=R4EdUxHrwml;28j~,jwefd2~Z8Np)GP]w[4yVJ4U(5Tlm@Nkke!DBJt]eK-mnNL^6]a~Qib(-?yQREP%?V<#m5Z%9?WcOv7b.D|>M]*#rU#wgmL0x(GWfsGD|Y:6L#jlnQ;SkBAFGKmp=P;?A=UZ0+4jcy0<HeP&<7l@pLDVndU@x3GgE:H2<IYHYHFOd=wCH1-z3@%CSb",
    "XNWU)tYDp2tN6=5J?WolXHU[3]sW+<@8,#Gt]bz4EHqFhF&<D5Fl9F06z;SG2f&Tct$9K+P%TC5Hxm#)$!jK@S3(|eirB^1UM4z1Pr1Y]M=2bWOIqjYcnek[4Sx[B_gq,&B=/%R~VTs)fD)cTk##<>xXJzQk:@n8R?l<]-_CV]j8ln)lQ-x2O^m(EP$dt%ZlDDZJn|(E]~mP3UWoLlPR<z(zz+J9Bx2q)7LXB57(k!E+!fb6qM4.EBv,d>+PquB_GZkJi2AtPU~bUd+*ZR*Ojx&c@A^cM|*W2?QBA?!lComjX>U19@+m.]~);c?wV:Zj*8?_-N.1wkKPLl2&l;1j+oD0kA:vxJpHM9gSYh|HfXvFjfnvokpoI$Z^$k)D,v(lN7;4?bb44sCKdYLH-O*kK7S>82!Q/Z,dE!>O.XD.(j3d8j.X8>&C((Skf$FMBeeDt,DeMsI<w1z2M,ZWa;T&l&4-_JMy~&eLI++YCHo%A[8_<hU^4D@MDd,87~thQVYLgR6jwn;;zoYXR^[**.ZyZ.F*8)3]8,!TPrsO9V2o$Ob2nxS4lzL-SH?XO3fG7ALw_4)4&r|HZMGs8Xng!/[#ON;LM6M?PeP-.lHS.PWb+XOe53L%eI.qs6znej6jCsYB,;%DCb$Uf17mD/6_[akX%D7mP~;#OHX+(G$8;qab5Qr154n]kMc(u:]pA]d!|L6Y$jYR3(qi~3KZuFrif(NgR_r]>N|YwAIJs*-?j>xe(knx|Mn(Kb;rgLE(kw/IfncPiYC_P|i+j;MK9NC]</<4uhi?J*ZO.s_(@eSsX.8o17IdgdRFD&~[Yxc9cB1gmC7$:)eRB9:(ADSGM8@c8P#Fa]VJ9-udo/p?;G)g%^IcuCU+iI[U#|?OK3:-k^TV1M@F=;i3M#Ke[AC19k~w-dh&*wuQLL7+j^G?G-yiQgZU$Hj*v:|eb!ayv@:@ue-T;4oOYp7B!WTt<-eeQk8:>,&ds>p>_.(A;_vPuFO<4)f]%VOs8BL88)|D:_!rMr-,aE0RXIJYrG.SV[)9Ce:*:)YZQ)6O1B^z47Ci!)w^86@p7nvyG4Abec#L]j.8f~*(N*jmGMI6L|GErO;^R=.g&nvgmZ!S9FH!]#g?x:h?%>^PPTOaxYM2/HdaZL%LV9<4K=/2U[ja2Zv%H<gH&e>tqja2)z;:TP:jIz$DLtE-30ybrp!%ZIU,aE0RXIJYrG.SV[M-l1YF5h#u[bvY]%qt%V^^A8%_btuUW9QyIPP^TtBjQ[=H(m^@)fW%]2<#=9g%9;vAS.crOufqFZ$L;xHx74l5TANt*nAi<(sZby4(+b;f4G~4!gmeHTK;-QO$T-E.L/3T(&DaLVig04WEfo?5j0]<<9,H>MyWvD%|_C*;9E5DWuGWl:?z$:#-~tpB;-$uf!0/$BN:ot3*!!wVY--Ui)iT?e<6:#6g2acWtgK/SoC3vT-p(B:llHT*Ojs[EfvAs/sq:W+2$-+,3E(U+-1qlSrj1pkktHz8Q:%ySV5ZwMx2ceSdCB<AO|;hN9065GgI4qc<2r#OtaVZ7,6>GEQwslM,3UbVQPRb[)H*!T~-8cOm[XdAJ1#9jl0qS=^~D^+3UrI+#x]?.Eg]H+FbVkHaT&mCsxrvHy~,ik1]xyWQwOKC,io<eonCT5VrO)Du,f0AzY-|Mm*og?c@[|j0h+7:ezD#AK>ssELSO98N?G|MMNZ_W|NFz)VJu_.&W>;Oiyrp4v5|IjI.cZ$w1tO$.,t.6]pCAaf7)rPr)j.+_PQw2v(rn9qM0c4U$0BBFh4W2wPm*Ci6#CNF#]i_BOKuVxV)Y3h$m(?g)P2Dce?bK7XoU7-!>:Xr^l^07a;!lD[Cwl@7Moahuzk$dl+#Li]yV)$RDL<FN*p)^T%)Ud~@TA-U>4Rz^Th:mzO!_UkdYh]e.!FHdE:KJ&1-d0!wz<k]l-cFF*wSwK~$M?[ujP0c[WL6!JnLl^QREtaj(G2b5B5-C)T$/7<48=6E9@eT6-+:",
    "lOz)eC(s^^3eOBncoLl!C*l6iHL<@p&DE$&wr5^Ub1*E!i#gO%Xu6GK1pu4x65F<G|X&1LaSyjh3yF)*5C!L|4vNEi*:_AD0(9WrOu+f^HCXW&30v4ztC2/_~]|@(nK@LS8fRMw?bA2X-.DQ8YJghQ*%hNY;XSPZ33%;]S*-IuKjX/zxD!.0I^1MFD2MU,,|1Uwxj~d~%:#E64648_(6cg7S|6!xAJ4^tR-8KG5:62=3g^Y-ON[FgWx23_3=~CyU+N-rX$-9_BgmYzM3DBxW(IgFIA68W/F~^s(|L*lbB,=bU%r0Q)</C)i;V2+ba~T$%pDOYB(*@]52rP7flhao.s+Le*aaeo*7BN]@],SE_hYId<w@]H0/7?lA~vMKVTTD[$vC*Iu~C.hLQn&>0x=f<]4;9;EgQNl1?R1?BAeO4a)4^F(=xY2$>/$5sd|-jIAChZ#W[>~YF_U;xD[BhYTlfC%arbLqS#UfXF)Px*g^5i6Q@Ucln*[0?VLV8Zpa7LrDveId###&c|PaTsxT7SiugduH!6TCE!%,1%b*7FesC?86ZhV,iUMbx%Jq1Bqi+VL2BH)rY$pUobms0%gm#.>[pL[#F2&l<]Gc5h.CQk5iHsA$IX:WX+p>+DFRiJ#Lq)S~Tb_2hOpnb$M1@gb>WITh8rH#v%P&+DA@gWdijQV6AQCHQdIH41O^JG6eeifO&7EPE;C5D?Uz-<)ANGR:Vdtha;@pNloH]B.EL2hsjTBLwM!F47gnLjS>qEf+Z/XjazEQU0x?=*krJAKAKmb8ia$I2jl:Q_1kiAl6[3dkE:,9+lf$FQxF2I#Hy.m*+uuO](u+sR@L:)cv[8uWM3J;;ZbK*Bv^j^%g+Gt9NlU>H8Stqk2Z.]82YL[8U7|G&-RDS7>^!7(-.)_]V&./Puq*I-L=X%/)B<!Gn)w9RBu!Pfg25Zf=%f:1i)i(d#k>W1FP90f7wZ7a-Hc*Ry_7r?^ih%Lc^NQ=4i>u<G+yjW)F.c0hsFZ-rViz3MfoOYy^%wW~dHFHY)WxY6%3qSr6Vy)OAvXO+13sQ7Mw:7pNYLk_*tlPU6/_4N!yqZy;wYBgz;BI[01x>VX:v7R[<k]O9LB@&39uIA9aMkVW>fD<u;SWkqLrGeMw=-Xsz?7>V-hL1!$g:c8(k[=3Rm/(5!@LavX[*-0IT1AWoJanC&Y>@>Hg;VA=cASn?|Hb/7Lamx?9D@/92J]XnXb)R#gM)%XfIka(bhB4xqEi8Ca:2O4FT$0lh2d(OQ;!2fWTU1?^2QU@ZC4yFsQSC?&CDe..FUO/vb#!V7H~x2(^47!DA/5.jk&IQ]l>uLhhyJZ9Z_e+,Z8(b45r8shB~Bo]?;f?62+.1J$i/,?+z2Z!7^>]rH5eLR/4zJEAF4CxcAZ$&2t&#Z)$T3~&:DM0:>-k^8$d*l4%3.Z&O2=E*r&J@Q66bW,!0[Hf:MEF<;9H]HLd]OM|IC?IKR6tj8GEOi=iE*b-:s0IU_zcE,=4VjWIYXg1[Hb:X$6=K]=V|L9-PEej$,|87*&%l9&i]USFsbM@(psYmDcdcL[&=1Qg6O0m=%4a|1Jeey+9:T//y,,GzER]IWqiM#9Oe0@^OM@nKFbN.I(#klvnQL3)q=^ejcpc9~#lbR2pVWCVg)MHyf%h7-i_X,hYED(6xe@k>4YfB1y_h|:tW52s%uP>->>jsj#%^tzAu,;+ETJ0G>H>JoP/)+W_-c:~H)f0JKPMM~&c8rv.kXZ7&)>kL<<Dg!R~.r#^FVm&]+d0R1>Lp#O<<<g6vIsuXE3(i~l+0x]594+*tYjb&jGkIgV[6BS@K^J9@A$CFBJtG>J1zn0e=a^.5WuW4k;z;(z$XA5b,Hx,q8goW_3$q5?.)yOZTC<b8M?Z9A2<ZyO[Y9J:Y!y4.P>If.g~9Q2B63l*<DB=K%s4a%B>zAJhg2s^3h+h$Aq!EFk-p|%B6uPX=U3fA/w]HME6Hl9<+hVzj*lF3l<0,X)bPxEf|eXIOD4Rc_gn",
    "TxVDL&g6_!I0j5]YGK$Ppt&IH,FcQXmN3O%iX-NOmu269mFEd(p,grRnJ1L~eX#y/y%^cUU^j@GlugH]@Z[UCKB,Sc*9+DUGuYxn5!/O/~@k<9nu0D:@;18a[ygRn/Ofwf$<15>xZ0eq|bAqIv)8<;s~Kd4xuQ#]F&bj-VUSnx&://nAj%Rc!CjkOv15dg6V+=#CO!V/l0U%nyz<]=.A3Im>tCo[3|[k/f?3Er,F5p_%]H@2NHCUwG7Se1lM@I@-D;=$B?c%m8+k2Cdg_0c/l=d,Dw58wC61N^RhZx%VE_IQSsk7S!6^Dx>>BGjzF#Nh2)D$+<EE.!.Td+Iie7LFZCMOmh&?b7i7?Cj~>WjhV_WCNpRNbFfHaVX.p7s]dp&I<H|K7(IG#xf>f4-h4w9dhDbH8JjuHL4,C<#.l9,V?uPAri|@H7Om5%<dM:*j!m3h<h_1+SMFu#evbd2fv.u)k)O<0*fE9Gi^!X@Vw~L5xTf%N|WZ2QcNIAU*6M46SAS1Nf1Q=k)rfaWfzQr]Lchh4l<t)#Yta)(&XOIZ9Q|TJ8#uv79nU$2gX5b=jJO>d3a=q^_p^:9X@A]!>$v@-YuUAW4W5Sb,wa]AvT*yiOzQ1=E&mIawQiwA,Dzd];>Zr)6:GPRq(>1He97]<^:X]UuQdqTRNfsD(o,]H1?dkXS4T.@uyF?O-9d0BXB,99Ov&!>LB-+EuWtJ:mhY5ec~M)Fd~E)BEd=u]B!o(B>!Z[f?&N0Y%b?#OhkzZ:c[yQe.+*!hWQ1P.4$:JIA(v<9Ozx[jmx%AEP49OCAoq~QNYAvKE<MjMO~~5Gr1kl5%axg@3k2!2w]f;@LWyL3p3r[RS|y?>MOd_ZIqH8Bu^fvZrqgM3UJ%dgH~>u:1I!,%Rgj7QKrCC+@j?+9v-Z$D,lDt#ay[W5IQhzMwZ@=0#(1HJ/zq&]sjJ]VV.*PE2kX#g)>gqiOsw$AQcclOR&BT5eQY:Ws9.BIt1dI)/D.VAo<[x+J3&n7WQsJ^8Ik-N=D>II+ZgOAjA.8Lv3z)B#*^kh>]hJ<[ls:fwl$43pn6pQpnW.j,i:c]ilW(57p~?P+EZfQ/ST]@$YN-!B^F,)O?f=M#&d6*9FTCSlJ4jXmBy=6m<c#/@U?cOf#GUEVnnqP5WL$]7OUaT#xoR$ED@JJ]EJv:K/bV-))~PMGJp&1+RxCNk.u#;+A]]DrQ,g4&wNBPNo>8)74qVX=W;</Dz<JUWMcD,^j?Lk|mf^ZK)g-Jse,=C@0yJ7*Tq09TbFzge)%Qb6mPsQa(yAe73fS)uA_u=ua()8llk,?]WZwO=2I:KSZu>F2~]@Y*#]~X4nt0+DIVIcZHeo0B&GUUo32eie5_.ixN=b=0nsI=moCaRB|xBR|dordt/;ACGLmXX[Qq[3NqD~MwN03UD7C^@I~rK]bQM,g;Pw;1:+~7B;umyHM9_v74xt]LJ<O-^-@VTe-u4P;V4cU7-&_cH7VL1W$qNP5Wso/H/0>fYiyi11b.S:R<_l(jfQn6CT:#b0xq+[L,8![Ch,|iW5Qbg+LKqB9casL&6[#:>+8KTe@DTQPC5IBi>>@lMcFrGkUN1W?ag7,Z?|dXCQh]E1yGea2$I.BJ%x>33cp:tCFXf>,Ib[/Zi(cS<?)#[MyS)|RRygK!vL-Cf>:]xbk0075ir4~03|th#DFmS!I:BK]L[wB;!teVO32YOb)-33fUxI%=Qjhk/7K#U]l.x&%7~XSJcFTa7vM:/_!8V&f:)l/HNULO*:=pD,Yz1j96]F@5Sr%F9EX]jT*3nq+GGt?P[M<D#)Y*qSoC?r[o(ka<Nu~55g$f:gFbx&S;lH%a@aR&Isa:feK61TY=U=;3a4_#:^kHPb+gKJ3@QyMO7^=*_m|92U4;NO,?;Ra>w@KRYm8/16hF(wdQN]Vl*f^O2^(*8g/:$1^tyfCJ8Aock%6%ulF~$*QD^]9_+;y|:Dx1*@SD[3@W;g?_Ke||SoK<Zi=9zzk&emK&tB%m8MSj",
    "0-*2AYd3_;NOS%ZcgN1!nSVu.(6U#da8P;7acw0aZG9SD(C<|8~C,fZMc&%@OA|V.v7C#AgIC>?LFt~Jzk/ZSO+#~afL;ez+-V,c^MtJbF>W0_(=Rz.@ipyhGZ16S1]9rV$0yayR=<-7/gAhSw+<r$Rd<g+n[ka-U[ijF>T(1LdN7tr#>jzE!kkL@IOac_UT]OEoh_^heGA)_q9ZDh,dVJ_akkjEnS_b$8E%vU6l1Km1=N]N;Im/cG5si,+8S_5=MEg,C<F=~qf#V<A/^gm(3?*3%i;pp+1*/=SP!YC*NH!<rH~W_?gl!Wa&;Fz-),[BxO.6Zl]6|p#a_.PdS&tm@EC!llDkxgeAJ|t8$P>s&OAhld1O:@Y*px[cAh20gTxKsfD6lZV9x:<YTV^VzA?kIJip[)Hgirj&Z*:--B_7NSLQN|kkpBGIRMrd7I:Sj-TzMtVWd8vQb-9YOK1@YCf~aSBJxtMx1.-;GXHg=_jDlcVB^n%)E]J6*-IW/)Sk[]zOU[V^[[z@[:T@B,VqYXWXWf<zXHSJRFQFV2jO||PMCtS2Wq(erPls()*SWe[3N/(BDO$WX3+XO:7d05yR>keJ#c:,2.ME4[C-g_HE^Ui;)3@loe~l,kda+h%dYUvgf7>#OePORlfEgYk^THOv4S9>=R@(29exUQ9fs.W0_#~BYUQ0VwFL?2!%%XsZZME#E5y=Nc@A80^^Qyg(M+LxSJ>c$hX,(/R:.XYmA*gRN(Sm63Ex8iLMEJD.*B]=[gbkESSH1#)>FD$!UT%b4>iYwY8hv5S>*(!PEbgIVN!dY/a4_U#;vf#m%hBmj:<BB9e/__TIqc/K;Ou[.6^/U]f77/vE<YMh2J,Y>J|(Af>DmTC,Zw@GBo!1@+fqhhi|,MS]F6YF(fuPLJSLR(k7S&xN.8Db5_Jr21d7,udRVm:He+fuXz)$=$7nV1Zh3M?E8SN2%r@0224U_Ig2f^/+45mqFXF4VAtDcn%6&vCb:?3REEDU57]A+Td[Bl|!jQi^l.<6a%c3mM.u-<>F|rqcZMczf%4r4rOLs7OXXnmjhy0kf3uxuFjv_c[O@UvyOax&m2w>-eR|OtfSH4=V=JMVlCgI(R=JSL<0C.id^_i>yCF8_tBEEv<Q.6pN,Usp4&vksqZx,;VPRwn*IqbS:e2rj.D~p,_[!kN=J~4QH.ts5CAvoPGJ?;kh+Ft99MQHWmHSP76:R=Co^h5%;%V3@>hOS8zOqA=5Hd9MMX<~n5B=,%OHp&^K&(?^eC</2$Ij0@J132+w-y7Vgi?AFc=6U$2L1)c-+R62Gj~U4.T66TfgnXD^&=.?dAdIXJjuz](C,[rj;?o9X2iJ[Miduw?g!f:r9uBI(W!%fz]!*XLgQsq9a)LRn>zj|b?nk/UTQ*wj^kl%uc!ye^+/H~A4[$6:Z.A1aIiT)YI[7lA>PIk|?PZ##_/(1x*AT,s0e@~rOVEwU=I(&tVzD%|kL<S/QSRo2DCsQ.3AwHz>i4u08O.3~Aps(z:T.trd$+SxRe%?hgj,.*g22^)*ICJ6U!CirTI#UbgP0yb<[QIlE%]z%9Lx?R+f~jR7jAQ^_QQ*q#[IMW1ZF@W<$4:BE_s2YMCVIaYAiT8VSem#=r8XLJP^ahL)Zwm8tdiF0Yfn/-u::4P8&tjhl8Zj#GP$&576f&(*(^BP6YwlT6yR0<VK:SMK5wo0FeKdW;XvhRvO,F>HO%*.i%hXZU:FE9Ce1Qi,dGwkoDWDIq>>]cPeggf6nZ~R<3m=.bJdRAlM3&!_gKDhIlQW]/2Ca+3f(I4G$4&43gJYfAJR/[AW|f_[<v*&,]CHRaK/iCk^$^TQY[1!]L5z7;!U_(Q:b?M/RC|!oSw|5-<1!Ih.HBNsh)Z^!2nt7M.ri#A>=KHl68@WH|:U2]7xw$6%Be1g^&/NRdtFj*w8X+R8hgM9E9z)KeG:W.muMei6s*elh$2ANo(:2Chr<;jZR!4SG+<6J>.t9Heg,1p,sJ)XVk#-40/v",
    "NJ;#%8b#G+[eOuUb1ts$e&q]/Ac)K~9@U,OR?hQEY+Uuckp&h>#+_-6KRyb&5kYsH27vLB-Y(|SB+O?kk7-ZLL(61BbJaH5gG$%63?ytoL!+zr.Mq$J-CGZ,PbN=zXtgPW4&efU.xlOFWMG%f_6gZSHv_U<kkR@O]?gz0>5[$xI^3)x#fY[(FF]?%-BAoHWm30o-)oIOUOw+|Pg~;Dhm4]c:|n,]2[rA!ISd^f&p>b%$so<eYi9G_HD@JxVsL/8gnp(b(i^ja%]~<%=5XXPKe?O7YOEtjHj:;l9dBrW;s.?s[Y$;6-!ElaeJ!T/52bG|TuDaSI/J8h:-uGaDH8lm9MB*Ojps!K7]SFe-C|@U[S9>yat?R0*/w7>]G;OF<<5E|?wb[q.A$p02UiSJ8HJP?jRmZPU49x]EdD>]Xxq=>=Phl5[)GzQ)Ny6AO[S&Lfg^6d[osV-WqnsvVtIv[+^ygkS%mu~3TPuuTqt1ZEbJLYUtAs>K@I&1<I9vhVJ+6Za>sMvhggmh?K+V8<Z-~qZPqw,^wNh+,fv%eNWRmj(:zNs1N,nx.a[6F(>jyVFoX(O,eB/tF:4U><>B%^^Wr4F[iD4.!/#~3O#E5NAiJ9qUL&kFQd|T+Wqg8#PT0hw8,KsW!Nt;H+1oH*/.>xJ)3,IyAw1f!26gnhT|b(^LCfS:$B/1.L/9e;)!(4TYjZn@fCoD#&^Rm()0%VIOho_-!jpV4RAKE]$2j/MYBNh@+*Kv%P?#(dGVD/L]S~2Ji-G,Zaf!t@(yNbQ9)1lUI^v*.aU(J/l+Ub3fE]X&6,I_C5zyxj>FLW<@>X-B^uI==E3GHRDnGFV8Vj@@<Q2t.g#2r>WF52>HkV:t$tC(o8GD_h<;Zl/^39zK>CvE>NL>ooJ+7_=]:kdnVO1X&Y._O1Hv25Cd6+5]4Azjv[Pi>6<RuOiYHvr5eoY9pP,Q:A*E?Ckd)IU2@fae[N!+9_ND4Ju1ATe>ay.5.Z+by@95X79/WxjzApwq(B^hytC(Lr^^b%y3^Q:]LP9jUaJVMGE6oASyDwj|0^V9^i?w=fPV5tj-W?9ak]Yoa|A?$&!)E#C)4NzyM;z9D$b1q6jc-|m7b:vgMRlXJ?bu]C0gqj]OIP595,ZU+pW|/^|H;PAhVX^C69!qrfRxhBnI*pG3Fpu?61_aYog[(%6fTC(Q0Ncrx5euiYj@t10eccBb.0[mUJTr(w;ng$mZrh_JRgvC?8uvs-:Kf]0V~J;R65/@@j8RR.ef|FYHG2]I-B[/&V|Tt,L1$uC*90hvcR+Ph]Fwh6AE-i5ZDt#LAux/_EB0)a>ZVBt8SE~5cegZ$1(@O(:K>TY]Xg+9FJMvAi=O_]i!Hz4ap!|%:;$m@hdK(GGjMgW&-hY3=u=N)VC&)eH&Z,gM+bE(<efZO=B0*1O)>lsjeuLhF<QjfQ&a@M/.v)ceEa:df!s^wjJo~p+Jo~>I[6)[6FkqC&>A2[./hviFy5<G5e8G@9C_>BL1>w$e*|S<%&,pd8L*Cgc_ozDeH=I3hMN!BHFf::S+3guZp5-5bF-><+JDoEP=d~XQR5OB>]X#hNU)U_Ku&4QiW/gvZev9N:q+r%^fRN&AI)Z(j[W#J4tOc;hkewnFv~z~X~,aAlJQ!$P?[:@P%|hm<_e0NHZ>d.a!]FE$Z_O!FELfnWT>_/EB$_O.v#^=<R(e*LFe&*daAK#_0@;9KMLr/gK=4oPxnT+5oZyjY&0V0?bS-zg4~p,$o:BtkIeZAg_AO=-^z2>BC242Zz.LQJpw5vXCZ]~PDLN69HGrni~=BUETrx&F9L#pEHJ=$XyE[FcEsV<#yOSLbpr7ZEwa0QDn:=9#_uER*_[lF2qtpVK)mve@BNiE4VNB^T@;m9iI6-eP4XIe^od$;0P-w27$0Q]P$4*a;ydzvWk8x>Q55s)-.Ap1M^2;fN=.wlP1xW~6cRJ?1q78Q!t@/771HngkDdtF+#GL|d9M@%#s$WcW3J._APigk6^4HvOG|&33",
    "@N;K_,1MK72BY3_OF1FJvFiT?Zt^=hL<n$0jE!j3)MMw.w1T<Li9<0=X0(jiGu4L>hj-3HcsAC/&>^LV*a/PT|Q;n7Vp81_P0F4_*pP=W94QzfpZHsOnj*^<@prTgL(8vM_t9$Q46Ae3n2R=@%a>nM%SzO6G<iI]b&lkP]O:k<EC3UWbH^8;A<cge[bq7@E0;-Z6$VBF0.8I4)8>KF3]kmA/m0y:8$lh9z/Z8Kndt9FG&<qTDhNmbH4JBJv8(nPv=/p0_!j6Dala!OR]nhVnkMAU]@%.,>pA(#3MtJ.:Pt_g/7_?Fz&u+g+i%Z%Me/R7T<=i#ISb1IpL&k<2EB;e~x=4XPo1?M$E>g,/u%vLRI+)<ji/(YdO/NL>ifs?bz_a]Gaz=ZTb~X_<eM2MTh~C]<h;,:t11okDCltbRej)YQeCK/=u#vL1f7q_dqbwU71WGNaHQaN4mxI:&]<3]h_wF>M!X=5FE*TD(%,&UeF)%V#K$S15)O|*tSmQ]&.a|f#j8N+5kkx<%kN)4?yL!0jhEVTI=/(Jqw/:Nagk;0uBp(8:HDN?7O@$Tb@FO!k[/O$RSujTvjtyF9gYvY*7ohYP1Opb!Kn2%d*!#2-#-!Eq:+L[IklHC(5($UrvHhB^;0=gFJgv25T|!iQHbwChaSIbV/f,P|><|h#l0O.&3ZUBVDi,AE=Zh*39HjZWaG*):,pLN*O7XcYK0?&,$n-gx0=SkpxwG0H0h05&rgE3uF4YKu.;QGOQ~xLUe#5C(Fo*@OClU,Z8|n9eTX9(9Y[0@xlOLXnlp?9u;s1ZAYf9>IT9(A.b_7;q0tO0$zy%/,m3e&Sc3HQOSyIV,d85/nMa[+s[<hccfUdAy:Qf19??-FwxiA(ac,k@z~8YP1*DZXffxrG<~ndYq?P%cu191E9@H+_J%-&>?DfW8)P~|_6#]7H=FeRUA.#yVe|S$_fZ|(d.vR33fHUUiV1GX0i)DVEsD9%^#+xaTnJ>5M.K4e,TD.hEwh_W[F4+>Cz@@BDQDI,0=AP/X?ntPahP]qOSd)YZ-eTqa@?.F,mLDT?N$u_dQl1h63RmtLX&+;1Ki)XG1zDabUsXrWJ2H~,4]WxT4xBTJhS>LVzNZ[P&<tUhG0jDf2iYjO)sRm[qBb%W;:4va?ji|FQ0QLjb(LX0KcxFP)~>gTRK7oA1RhgXn$X6$5,GDV:*Ll>5$&eiDlV9EGv|n&OTe+:=0wH=b(RQ<4d&UUtcgb&IGX?*.A1&b<o>We=Dxxc2H?FbkJt!k?9%he4DB]fGhQN3DR|M/)a?YS@QPSV|G)B^hSv!ZcXfI9>|d009a|>hm5.oa#Daw3*0mtA<sZ$^OnsdX<HQ6BL18JM~|%wYz-VXlI*#dcG<#PcK(dJ:JFY^JXM<;!E]~TZ5|X#A/-qGOwwcyX,3+-SkY7|j:Yl3PhD>Hibh<p7dFP/V>*UfCn!kNDdX^*]I/h?!Mvk4;KxZ<#(h,FNr[z$#C%2ggCYs+2OMPEV7Ma%2-oPg*7*<(A_snT-/<!f9-lB&?]hBMUOZe/HJ7zUGTnD9P>D-000s2g3sbO2e%Nf/3pY<?$79L1;m4uY#f-Q~aNsV&)cl45f#cB-lIxAa;|0D;9R4:E*K5Cy!y~75[!c>H_1!lY0q3|*MZR+dS,hrQci*^TKS/~[/inR*_!l<]682x1-=:pe+BjR-?Lxuj/hyM7N$_Kz=,FzX1->UcjChue-Tl2UL/&m:dsxYaS>7wQ<Vnq#Oz+z^S)ypMKBc<$WHHUmRj?QO6[up/V8~P5eCbF>B9dOJ]H2hzQQRU2>w@6(#Y-,0&ZuPp7C;@dL@d@(!hF[PFGF+Z6SHj2R(W>.J$<VSWglJUd.f]NB~BTS#FEgLOpg(GX@iq9PKnw;6?n,p$shOo<X?.!R$u#_-)<@<MQq*BdYCq=3Cl9^_*#_II59CD9I+;pR^P&D+d]?cZ,w4u$MWq1(=zEI.M&L6;+VC_Ftp:G&Xh:5O)YtK4qR1.T.,KkKH",
    "R]U?[xG20/|rJ?F*|RY1laCOe;ny5j-z7,I|V)Pf]ZP53akV$B3$iKzCl12zVT<BYK[cSd.9McI1(@;3I9*ZM*jnNL]CQAMsY6<<pM(a:=Z$bpg;I^.E*CZh*fkKoa,TETB2LiMgy6Fp$?N?;u<5Fdpf~Z^lXy>0RhTAR|LMW@S<S[/zg,#17wd2Y/9OcIZ=ES5&fy+<M3zEudF/AqL_h)(@2U<hMxzOB[e*.W6_Ed@?.=2L&+!J|v[h;G*EC(uH~t&Ulrs:)by1]X%jlf<o*IE3LCE:~xztTAt$vXwn0(jn5~/gfFWeEwVboa!H*eNCZ,mR5ZY/3)AUsfst*KGsJ?SMAm(WR9^O9[X~0/LE@ricnSRl/E99V[Dagz3Y1GBOu^_Z+:;/8JB;ksZDT3VN6m1eNW_9EGeXeX0~pn0WfAO2U#r+C%^#olhnOM>hmDAN]AMYaWAI,>BK=v-$$xrmkxX0,+J^,Lam<z]Am,p$i+>^w#dr*#G+wpE/,1h!;4aBO[muhDCY:i1OczP_(mz<A^@/YP?57F,b^ZOLKc(Z7&K^t<^04gN5lx!cQ2d9:JY6;%;N&1j,hpYlh@>!rf?&u7YT(?(DP@$+#)1S!SHM2~Z.=g/)UHoJ/pBFIOEGM~F@VL6+a>dIh]K:[7XWX06tgep2VCvmPSmC(>tO?]J[%3<Hhd*P5.I9+#Ek7L>U_IrBegDrDwqlj/VI@lj>d%sW~4%4Bq:RB_*xxpkO!qu[X!@!Po@q6N9vQ5]:PORjGHxi>ddj@<aUe8Z=2AcG@M[G]dj[0Vmj/.VK,S^F2oobJCLp_[-Z/+U3z6>W5Bd3Nx.?r1[*+uCn~YSJts7~C%ZE+@R|f;6|87]UN!u;WGr+xSjrashmFQ1F^k*p%K]B35-pv,f,D!P?6OR_$A>m6,ZiAhF*1c;CgrYJ?/hC,/r-A,0/FUzY/E!>dtfN9%4fF:Hfz0UC+!F@@z1kYD?=-!KcD6y0$ZITOoaCC=2V^u(.jzA&!8C]GRxd$Q)IT?Cn3zp4+JCKGavUi?]O|%F?k=?+q-K/]=vRn_3&iZ<VD!.O@cd_DVy:%QUPy,Mxjp&X4L6h,Z7$&-UM_|DTV9,IC3sG=Qyz/<bOMHB9/r[Jr&)b#X3T1,t2M4dgG3YlBe3mdPWNZ06*Bde6|pBZE9C;7)qyieETEs,h2cwFH)-*M:rpA%ZpyX0T<tEHF>48IrE~4gK%V7;tv[!F=/&rdIlHt4!l%D_f5weXjUh_9+iqqeNw6Qj/%xK=<gC^F/@ogG.MaR9@cLgVCX~%irt&/E4r#e2L[5W%7F-V^*^MoG~mLNXl,eJ?Px^aI+<Z=Ib@tY%JQK.S79kjX>x?$4aOcBE![WcGE,1L5+[sg5mWtM5[;.i,KTB^$~2_@aY&ZK5aI2O&+w%^S$:.o=?;~teZ?b@KCyWyg3CKXCPze&=kni&=CY]V1kc4w=>O(12v3C8iT&1-g39Jn>fttz_o+@n2QibFiSr)4(z~x+F0<WGSLQBSa(#pn0d75Q.VljzOwhF=S$8N.ezF8z,/gue6jUKJX![>-(|nE/W|_?GRjc+j!!up!@l*oe8^t0M-D(~@HEpG?PCIP%M~Hmc,)%:;,*l,;.C::[@dBRj>@JvPCxoxg/U:p2^Z)48ar(VI?@Gxa1Vft!6Mrx,P1/R1k*_cA<ULeT4.GUi@1lkYeL=Z<g!yld!,mQ[#1xk[SAFFn)#o3D<hkA[%03og][JOK;[g_5i+6zqBXhU!6U~bw$wVnl&PSIXGYX@:l(R.<#H.XTRg!m#F.sTuChT)qdUq8v1JZm?-@wC!=>&+t!dTW1.U*q)XlgpD&B/D>,/F7l)kfPbUxG*-Riuh3j~p7p3P[)/Wj4mbTN,q=OYH<&S98VM*YqP5iP*hdY53f*N>W9k%YVq%41E7=NysT#!o1&SiJJH+.T%7e[x9NvYec^x4BWxt##NUrdn-f9,+so=SLJP>=EJ)^,OHqEc+oV|,(xmR)oLN;5jE",
    "X5#4n-DK,w=B@%FecV*zSChDKi~gE(aOHIg&6/q1?[(#oXR.iS|T.8Oh(9oyK/5.8AXWXxDgFrG%L?O2TDVb0O~^8_Ue//9|X00|;i:a!aSh?3^*1_6H/*k?P:1j$*J%qj[]M!Tw44UcHN(!NhlFkM+x_P.w,BFH.adu&pO25e5wYo9A)P$v+%0#G).;WxO0g#JsO)<.qiH0woa6&N&1&M^=IRq3zw1GtoKO%5#BLeFJD(-q5JTJ8Y.%dcW7(S.TRUp^y)/!0^q&92uf$WQg#g#Ea.?!&#_:|;vzfx?Q^L3)-_djUuvTxkBzN0(bLKj8tP0+6*f;l1dgZ@#FS?=d2j#4qbkW^|D/AVm90^:oR.YBaog@r<p)V^~-;-K|fg?Bv%CSL~.vNr:OydL|+Q3N$f2JH;UM)kT%LAN<&O5.@4KCyughWh*9<2esvDD|oH=0-s_~FTuR%(UOH3IX3S9bVZJT5UBy(Sk#@QE3PL+8qvfI]?W)?;H|0#+)U958GU:7@T^Zic)!l<2O1Jfb0l9$2GPIxh0:vp$Yp*3]JpgT-jdoXe6sB<?%^f_VbW@g>r%P4.=B4vjYENDV|lAG/;ec;L?E.?dD,B3H8+ZrC6]oC-mkN|-xnnjLj3y)ghIbVY^;nAdMPK(/.QEnK^zkz]vlKS_6J#A:;bq;bXqNuI4~60Z]_dD/AWhr@b-_<Rgh/S[~noLN|mzB:!Jm9lUN;Ii-_.h=.a~4=M%Z.BndQQ[d#XC#Hdpx-a]Fe;3NUs$ooQfTHCenP1b.b&<uk>D:ElvlQ43U1X!jPR@QW-R^q.bjHs-j(wYJa7<S^f(]a0I&mb!]2MC7T;5[v,iVWc5&KM<AeH*x23hw#ZVN8dc_yP_:]SDyC[J:~oa%D/g@Idp@6@Y_]k[fO|fjfI#14@0<SrJB_/OJF88~)]3=$bgG/Bc!2JyvS]NRr@#)DkiT4*M%.&yd?gDCAnN(sGaF5g=(4c/REc+.ge[dC%A+d,xTI41Mk$3UPCsXoK%Jc#z+FS+mws%#ipL3T%:*?.c%[ec|-tRS5R*Gps[eSNri]?-cu|VB*ykj.fF<5i3R[fz0E@@.t#bVS:J1hsQhwkb]-W>zcrccjtf$MdoK@<~$asJ|]^#+j,t)^j9)$3D:_O$65=Eb=1#&D!$wU6d&^!8kP3x]!l;vEX7f4[Ig=6@WA|F2.fAu7>JW_]Fh+vPrgbDaWo]$FmHP!]?iZId%^bLPA.DtHU(jkFh0;aifza$LGj61hE%HCSdVVp2?zgX_sS-gd#EnGhGk7wk;B-Y#JcPfM*KWcHL#_/Q-ftL0?)t_b;+:CHl)]6<w4%o?gTR!Z5Z*M4,3U[i(h<yK$a5JNj#<Nb_chH1D<S(M$j0L^X&A1M$lMj%7$?h_veRzRLwy.[pQv7g?&7a7|_ax>gX/hAAxyO==?-6Om?x|(-2m|I+/jN39c=~KkybkANC$YEitE.@Y7[g0<)t4N4*[^5~wj^$FGsEJF~O/K5B#UlJ[_<RS!??AUm,g;K^cLB>T$VF=TbS@USJ=J8X!iU;o)lDRgjnQT#9MXwfWR9)m3YDql@NKP[4B^L8YJ*rA1xH%qbxbQ_vo[f;9C-i.sL@4x4t92C$M6!N[MEzWE^i&=*1TPIBIe[V~+<htldDtsHZD5$qN)JJsY;Mgu(*QwXBTjf0/&x/LGgf)i.ho~J!b!dZH>/+<.8w4L$]q%9cVXN#?A,CfC=a*C@a^Ub,NtGRMHDj*p6uvW6a>&l8^y3|H5hDEWN8geh_pNPiR.M]1SONZeg%hU795o/A6Gz;x/UZRZZ.,ZMg;/Nn+UbL!.6N(^?4f=~eE~mBAX!KiC.X_y;=Tdo.T(b3M,WtKQX*z/Gv)g<P./>k7,M7q@WN~<aT.?h>okt0I-4qzbyU[tHB|b!AOgm9(,uU<e-&ci5Ir*,LI)~cKO=-&>lt,qV[Z~;2l5H6Uz)yr3Le~;.F|2G6P$uAXpe5LV:xJ1A%c0;>PxV?^&OindXQb",
    "5jytyaK5PN%Z6(h~&~TP*Y;)&mc8m$zTV,2s*TM!-%WF9qWv]2&J+iovhy5i/>wd(^&g/o$DJ[4o!p%1l>.!BBkifQ(L~idCb0m-QaVNcT:<kDQVMPC=g8MGd&xH$wk%_by3nMZ_:E&)mk5snb>XQtJW%L5c<;r]5OsJnba0*-4;q)&Q3@PIV?rc1v+FQ|=a;*?D!AYC~?I3m=)CVEUKd2T4W_/6w4;Ek$=yT8%Pq/#JAJ-Mg,)OHa$m@k3<HoId=]TBf3Eo~Y,WesVD#7kzg&uW2!$f:S8,]I<CgpxpVrQ,dhl#~aTb#NOg?.5>F.NPUP;K!B)tn1u_qq=a8eIgy)IGV@Xr&0V2~*KAQnIM~h|V$dkv~PoVThj^%@mJi!uZvP:)Gv*2=.,%jS$j%=sm:=k&1e)7L-l83so2wL@[=<PT4zkI.zf3#>j[iJ9;L:BW~;9f6-uuEep3aZ8KQ9Ky*RNQkoH$QD=(o=7OM%K1fa=];Kac]CfJ2:*)>s^!y59/IwsNi=:ByIk:@mfPY%;l?Qu(X5%%a!nzcCFQ!7sP9doVA.PhM(H2>iQ:Zu;VZ<:(Sj5KnjuP9*YKZ&<^eh^hN3n#2[<9%g^&>XmNrf@KGpITPUg/SK31:$-iB|x&6iL06i|7-e96v6sY6H@[F;SFp:g3gBP~$~cK]^61BEqs7-bIPjXR-|N_rU:KQqCYI4BDP#&Ga<A52Eb+5D~#zA<xqW:c|=@9cWb2ioK(W7,MS4fb2E?aP]R7Z@%PK6g|&TVvGb@cSzFt4@SL;2w4AKW)aRzeN;6#ARzEh--Q|OY(,,=h[G_ABDd.o4ei+#bGk|B)=E,ch7~Je3Mz!g]CF53)^+E$V3HmnN|>IW1rC,8gIjf(5CZpTDGO,pCMeEVQn!n;>!l]L=g95NQ+tjHD,~2FaV[JJS*yWV1C&DITWS<kD,>nIH+b%YfpD<k!s:h(Fn#rcT(DQ(3w9~:8c9)V_]Q<Y5VtGb]eW~%7KV!2)i>TPUx-_Gij>%oQrwE6D&mZ6*Pd$RH)R9OZ4ws$;*q&5,qCv!2uU1g+PpTi.It^H+^3ab7DI8agru3Ic1d!0M.K5#:c:G0j2Iwj=/REHX_A:&=U3~76G6sEgj(o$*vq^K_K++x/!04r$v=up)P-ZV>f~[d><hJ+ZiP=t+)sxC5NC|b^ZXm;8R@j.*o$xedP!(v^@MG!Lz/C+-rbrQf)lLe8R@j.*o$xedP!(v^@MG!O5+4S-r_)u.-d-yG/OcY+%w3E*vITk=u,mp#:B9D&K4!*guo<mdC/(K2cRRU-u2?C-i6A0(ZMg!0jw-n$QvryH)dI7$>as4P*$u&Ge0]o.<^NVBD,B7K$7nK*BwV7Y,NjHR0id<=xD6e%$xksNa(uFMZArD6f<D9Za)BI9cH>*(FQ4Bcj0s(cws>,j:^MehN:0[*p:j8(K*[e(QL.9$y&Y+MTt4&#:KvQYAo75#=4t+9_mcUY2:wD(j3bjVNfl|Za!=SkmO-A=uMsQ_E.cu0X~nOHK|8~8o*3T8>d_&Pm0&ZdOv)~.5x^:$bl>Vh4m==h4(]C+cYNLN]F0NGV.|2j$Vb?b8ds_2CdT>hwje]>dkiIOXw_(JHSZBY!v^MW:+~1327xli8L9QblZ/F,Hp~UI_y*K$IR$=Ud%teHTT3z9w|!fQWtx(R@iI+(GJekNICDcb..Ae[DO%J!~,GYcOm-r]ns~Y3TLUYIf|,~c8@*0a97sR4YXkM,-@ga73.jF10>Z#!CsRjKm3UH,L7?2hfr5uCYL(@SDxF.P=CvmjK*m[@:at[^i)bz1*:aj#o@c_<0/)PXo%&B#.:_,:D~:(**7:;_.z$wMh]1DW5#1!9v;Nu=209YJC~Lh!*GJSfbg&AWP+oQ*;_2DZLTEe%Anehh7TM69D9]2$E7F[Qx/]&CUoVR&U)ff1z>F|0rS6gk/+_3:h1YFSaS/)K&k(7T&8(NdgnB=RZA*p1oO_%<~#<T6VuJNE<K_TL4EXxjAheS",
    "V5.%=((PB@!?8d/;T/C3%w=@pYp&Dq6.3zO<ram9Gx%o&4^>9&>c)m!$L3Np:@V3Cl/@>L.<EY@$eYn?Mmak9.rH6&iGd7Hg4z%zSb*6$iaSQyfQ$n.1=I.bKy4Uo+J;XtG)Vj_Y&%^G/A?:o@]yIRcvfP795(Y-@OKFheH*83jCthE(1%kFddSUiZEn73@+Zv!]KRA~hKa%&,TH<gRap]ILQLo+h[u()67iHS:L*Uo2sWmJ[BRlC!4bU3BGwXc488K!!<@$vC,b$N>Qe9~46wQ==>lB599V_.hMxvV16C:~?y2QbYPP_K*1?OQ>i/]T>Y;7j,t=Gu,9oN%HHfE;;|8n])9aj+Lv!#C7d)]T,>xS5BvS#abY#uy<u6w7!6K8M<nVcE;xc,+$EYo@ExRdzOY0jq.r4tIAhix69(OrQ3=DE1O^7yPHEv0mMKYr^(t,vE27nP8S/FTa,N04~LHSx,-aj)rSJUS[c:ZRg%Y]6i;Z,>91@lKXQtA8bej~Ku^-ni]jQLRh,vRGv.-hJp6DApUh;Nxn0WI9U32uGp5veZsUljK#_Z!>L7P[=-[$T<Pe=1]LWJ8%%EmIs0kgJt2Jk6Jn[(J[S8aI?Jd0B#LYR!@YH(@SX?C!5rW:xj2I31w0;Y&7iWvozbF&~^tT,P10[E4f1Hg]Ep$i5J1VleS6T94v|jJ>$x&]5CGA|O[SSCoNp=(0~=M-YpWBpgi&&i#>Cg17bY/^iWQ<fG6BJnG:<G8L)g7r=Yy0<U+|$*H<bjvqiVRE9Jx@W]1.-.WOghzLoZ&V*XENV58t#X~SAi.8&+&7SqF)UQ(3<WrDtRFgL(QeP3@*=vxe*LHi(.,RK0C^PYI1]3L~7Rcaej]=tRd,/r,dTr&d0vbI>Cu#Kc,|7zW3N.EJgclg/9D9,:<1=HYh<&Z,HM@?v(^3(85?D<y<y!,IhvW~Zita&Ndc/bC^e0PpBMI/y8z|rZ-A,s]R5&DT$uh9y3+M-.4zz]u8M5m[i,aB=fhn6x5c*D<O!#[u-&%a5L>(m-M~,D>@V2&acqH-Ih0?lf$i$ZG+YNvcdkE,QaFhLCd>I3IUi-[K*x1J-bm1|NO8tF^]M8SR53m=/%R*=XhTgxg%C,^!aRgy!TaMkqU!+fHdPxUGA32ZkFXLb3@vGs9XY^-0MH_tR_6see=q3^)KGJ,w7-8+_70]&o]A4CgN1leteP@4aaizLN3ED?d[j%L^8j)W|$^)-VS0XSf<YX|%)b;~o[iVc#C+pin3h0Qu_@njWf5bI2Imw|qVRa4yCX=:B:QN~7:U$E:axM>9FU7ZLBl-/^J2:clhaH(]h7f-YQBo,5Tzlyb/A#-KD=&_%Z[VuDXe?ZlblX2G]*O5dE/THD,wag_5$0:AdB;9Ne[N&BJ<!:l)G*&3Uhx8^?AeqC!Ub?e1TF$2XHNaualLgDL^]~DIh29XHgE8W;Yi^s*Lv_;jf#:v.C1D6Ji<u:@&?:-Rj0J~XT4W.XJ?I.EBGrBXzR@Mi5b%kTljk3&*F_&Kz&8dLp:y]MT#8j,N5PR),smG6KP.Z-p9OXl$GPCIrAD+ZJcE#WSCIp;b)c>PxE9~MiAHfFud<!Jckgh@v[X_=.wnpZ@uNJhNY>^#$pez7fYJ6aybNZ&3Q%ACcxw,5-C-6g|0BBNOJb^f*7Bg*$Ph&;z$-$&eUMR,uKKBlM,s;<Df2Wjfx^xIBkIo@fPp/+j;:me(IU[SX&fKOhw0#8X<aI30pp~/m_BKO~%ulh[_+@L=kf^Zq_>Ik>d(X=syfF1pyy+0JOX<FW2=c./PN:%?KV71I7=z>&kvvFxp)n:#YtbWd#_H-2inoWZ3?KJHI[qjD-Ct_GlF!UncRoMVUtd*%%OecoPj4lV/-:0)gZPGk5E(](wto9JZ09I/nFV5cU&S1FMy^KA70W+85:zbqQ,lL=TtR$5X#_[s|dnim~VL<EEVZ)6vLHWQxemZPy-pJ[3_N*^^CtD_8yi?M2:a5a7jZZ0g:@By)Ee&",
    "|>Tj6exH[W?ZgPBGlu5PQiZ-;qALHGtT;7C@z[?M/b:S8BRY][=jL]_.rKf[ZU)wVi^5+;z&O+>M(:n0-C$(668D]8FL%OVJbJ?*+Yzh?mWY4HDUZCUG@Z7Q|zDH!EyKIX4^,tYsdZ,jQXC#<3chB#1I!T=hOUk2a[n2Li;U_R|>+w2SFdD/0@!n2!s#INDeJ#V;D^HIh#N4A#m6@c/#x7%+quI-URwK^:y%M1?:XeS3G=&H+XxJ-nw||[Pjkd*j#JXV_DFi]&nx%^bmF(2ZTk/(.RMBbcuB>1D)%UDYmY,9u6)YF%Gw#&PPNf;.^hAJNfpH&PpvOk^6K/4gBZpVDS.VG)6ud=<(Epe4~ynN[x2&:k.deSa)S[:b||PY%]PJ*:E[E;?p/<<Ara-5eI5Z38S8)9l>0@7v_b>YB^:)4hPCWHR_ye6ILe$CMeuLd2AI#[7(VO6bX|q:tGWN*!,i<$tFE+20b%p(-8KDQ%gil>zdd812=M@8%jHgbsM<1L~KtD,t;S~=ceHOGaChz%Jy<+3QS*:ecF2B%7Gz>$@vAQJRjDA.]ywvIorJ=:77d:O>6ifHru1Yc,d##UlFe0:7XJaQDue,>i;wGJ)h&h-ucn[Fpb:aaNF/:Gnsp:Q)5[]g&V~8$PC*HLlbOgOV$9q<>|b6A2([L%zFFI1TlB3jq$rm456rl71pIYX(<4;QCK-s=339GcE:jXj-g.96gUjm-DupO6~em]X5c&VExlM9kh%3v3*e5*44>wY_5_obi9<.&1,XV:D8ubuHtE>*<a6mIge1VE(JDqM$Fwc<?4.e:6lQ*WHp)]?<kr.zF^;B>19xzKif3$nFK~SQPv2i6l9Z3cO3LwdgYz4n+fcfFQ<fVI&AW4RYw+%=fi2=N@@Lcr_OhR/0:,&oT*U6]ZvAT:XO=Nshz@U3(#,kUNw_.y6p[1h[yV(FT5$Q*fjV>-PP.hpRw_[t0Xq.4^XHP!TQ$]2(OxjW,%IihiBow(k9$-s5>%eFO^1G(e~YL$%vob9cLo.+GGs(c10Dx$8SO)->QjCy[<XC5B1jt!Bd?ve9AEtyTS=1y3/(tFi@!!Z)mNLD9l,*ugFM6s)]<E69P,/>-_fo_OZ4xLZk2*=C1lViCb()9.h4fW,)WXO1sz|hD243JZa+hp7U;H:$U_#mEyng86WDWj$.~KZ_7SEj,JLlYiJ*VK6EL^8Q?$NQGBU8MOe0&q+9kdL2h_XPD+eVB(eQG&&&^MtjTDLEY4gu$Skpn_2O.AS[QDQ,^!5@>:GOSchVmh,-tD>[]vg-NhX>>dDM8RhX==LtUC9|TO()8?!UCwh!2:o1Cg+UEIe2ane#Q$IbcN4q4BBEA<I/)G!bKNclCsp4iZ*Cl%T.zU4bmEP6UzXb=kM-Pc_,C_:[QUke[7D2Xry|m_.CSS>O01*l,jolWV89[8,-4;*YbrJ6k7C5GM]HXb*@QQ^16ss*7y067tTp)g~X/zbqBdDSbP@?D;@e-[D^rmj3M/FV(UxqF0,%^Qe@&_YRRe,2G~wq)0c_xRTv_f:oeDSjwJRkEWG,d92jL[WLkMOZ.9X.Pn27z1N[Dr<0jL~!Rl3&)Z]nG9v(9JIxBAW9@hfJ%(coe%&4~_36Bm1htp:C4s(h*X71hc?HF9cNNa2j(U^1_/<1Cz@OQQ2aslHr;L2;q_t:1fMDX.o<krVkDfRR@B&!#ceqy-uDP9Tj:.m[]S1JFvO0pCKA1/C*V;Xt9b;1?7R8#>m?^I+GUsgKUH638>[]3vAC0ed7[/w*&g4~O=QP]O~]QnPg;]^+uG6kVGe,F5g-b:WpQBziMk1~PhMR[h3buzr=D=jh>a9?,=a.rn>7.MWZjiDez0)MrcOlWpPVSo$Scp5zD$]:,V/A)g.32BtQ2EC&.csAc&#_<j2_OzDN%|Thx@rer@-|4.5_ozdzA&qyeQuGHb<:J^.?O_s|YNO@0FZz^LWN]4)LEHE2=c|)?hczDa*SNTt0neGPl0X8Y+DLyM,l",
    "T(i9*Li|&Fh<2#_%+e]x=~16V^:q>qaAiXF;^behl+3NwhN1/3T/C7?TDH58E4IWf4mt%EGlz_V[dZ/r.p02Kg9!*#<__FJs7u]J3$y[ic#<0*w&AfF~)LBoh<*<xz2T&WCq>Wvh&O0NpP_f_FkY$UlROS>QP]Fn5l1JhH(u/.Vq|GlGth998s-F2gq*S,j_j$AD44Lp0fO!*zV$d_o-67XuE5aIrI(djimq,.dJF5tRp?Ub0WyI2Po[#.AeuevJIjfhPDu6DXkf=HBHF@_jK#N4VBW6fx[gFW9<z,,5:GU[9T(JTIgD;x2#w^O|IkJ~AC.P>VN;eaN#D1G^,wfM7,t-4AEDR$o=$[Gc$h:1Y!HM:0&9jz.dd.V,al@ISrAZ7F4^P%A[U+|BA9^-;(E3-[3MY~jiiC+Yn8<Luvs/5hK]Sxh_iekkZ|Y~oCsjt?!~AH(%>-~$;BLP$OQ7_HS0ecq~tVy+a_a$%BWE0aAL@QL|<S:I1RN^:?x<S_I>J6Vss]ij1;=^@V>3Exkr]n?(WSCgj.Iz+65F#gCrO:n~89r>J:$S?]F7s-kY_V_1[<BZj<N=j+D4hdAg4!z.ll=aQ-]8c<xW5&L[F9zcqS&2b[V6Jw|7O;>k:2(oAB3Z905XXpEis,6qF9UjjTp4mgUZj7W2>8O4AAtd).TSnO-y@Z(%RTGAL>Php-$nHOFqwROQxT6HbW*/^cbDh3Pq=9LT83F[.$]O.<WnV[Xkz*?N,K;~Chnm;ByBX9/tV~7_GD:Y44P9ZBE8?zQ[$(F,Eh#2/5wD]Uk09t;Q6TdLsREufnG%gRP,@pVZT:aeAT+9c20~<VUaOYZL6EY(363.$rEiFYT]#(Vj|#wVIY0<Q(:tN-nWOo8e~c^AOZA3Iv2D7N@:^K+E5vS57&:?X5;nC1Bm#wGX8#zF375xMy^eq9q>tw%g(>w6xxN_4YFywT(czI4NwG*Rm.t1[q4>C2DZSZ^yd*+(F)L>GR7BQ0KV2<eIgp37$W&^8%:vqPDL*=lL<%R:+6kw_;UwZJ99.9a.+8qdhg~_W,J9CVS8JX-/.8va_*B[fw.6>bru-M+@IjhO|fCy=JsO?g7XyUR#,v5_H%YhE-9ZYfMSE_YN$gB)bAD|F/&MN:-5a-)5r;<TjCfxX4uZ7L9x9?+LE3r:2)90@^qARk,lqt.2@CN8m<[%e.Z2a;HPi%?7762PQHXQRysOn:;z8z,W-|?JpFE*%Kal(c%tcci+2i@.%v7mg*W])cCc.p+QB/B3MEno):*huk.w/VbXNu,gyF,LCzvaPA1wy|L7v9S#liF::]w-j<s+Xi.2.cz0|!iObthh.)4nPG/e:>pf_8uB%u9pUDTC88ZM=YFXFh,tKD5<WOMpg+4A%&T#Tm%1X5u,I$r|/H%Hys*QF^OF:S8oY.>Mto8rYLk52W(]+XP<j!Vp&+FxQ2u)@V;JaPEn>k#=lH;^CnC<wP5rfRMfZBym>^H$D$$9nVg022~kaC>EKPKR~$56MUe$.WzeQ-A_VYNBw:td/,>RO+Yl1Tcqc>l5/pfXUUg1h_@DJaYn**d2OPXbbomfYzKxe[lykskW6[r&Mg>q/Jr85fwss~?<+qNC#Gb>CvFAlHwa#;#aOAeI7BPuNi0]38.W$%SB|Kt;^wL?7]-N_K3TG;8Gzo>KTlX.cMZKy.!Q-zjo~qXkgLPHGnnX*!qoQu2(QOeJmC4;$iyaHi11bq.x,?4B.Q9-?2<Iy-axk-bwGm%Wh%^,^[pBRWQJM_0|JW><.c:zav^/ZF(gEz&!Qe2BO;0lCN0Rkc8)(OSrbbX3eL77a53s#VcSQG5:XR$2#*yt7e|]=_)mad,*!2KK!6)S*j6v5;:cbvR;d%AT/s(<GuHW@0<7OS9M=@eWu=Hn8Mv3ZTFHIZU%_%4B=m0@OCiw4G6|9nd8DAcUzgeo>>?g>:T<~rhJ)cUO+PLTB-[UZeA,va_!$CA_)|vX[rhS6J#=AKM1*Wyg)+S?A.g=@_->",
    "eZ70n,CK7xPS*tbGS#wiY(Az-xZ^vT^(7cRrhHi%LU(1c9.O=ZCDHCS^JGx~v4To~+=fK~[XI|Om<CwS][DgF5<D>OO@AwyAK?|NG.0Q#@4H-$][FP%l(#hZEH4FmIj47:b0RR+Nue$g+~GvbI5$6KY3UCD=08-Vs!^zKol-q5$7QsNZ*O6M]2BM@<B>9W^H$k&9O;SS|RV!wm9V-ZNqf=7rd:N>(:+M&cFW9BU1!:W9X2Dc:M5S)lZ_L->6cdeg]af/#v@pony3WYA2=DyH@<)!t8?fYfaS&CIfhsBrO1GFkx^4[??>3;+jb5P-gh!|hk!,b_R8w:E[:iFJo]DxRt@/~*31)=eV,wD/rNsJ8tJx[tv^1.qP%7[KVByHn?0ng+2)LJtlR)$yUB*DB6Wgq;-cl;1@J$II-@qVnQ&CkKoA$Q+8=!c?KWzKndJeF(cM@2^xa4.v,MD#GcV&&q~$=r(H&qcFd9Mz<)ELO86j,Idv)_%_ZbM8953J%:U^E8L%L?xS0@<(qNHv^2kRAsqE)V)#H*x-+Db<$t9iSy5D1B6,:?vstF[wER$<7&~KR&Mft$!4F0=oN4#D)5gnU!gd@,[]uXWoh?Dg)pApgG2fwG@qg*BdXiU2lTv0-!p_SCQDZ$3B/iZd((vW+3LB39ja$7b^Q)M&|$;=0XT^rV=;s!M3J2GWqxjS2*Ict7$|,c_PCo=fVAIQ_?s]@bX4|v#cbIs2v#<<5aQA-5QYNJJ%U>q2Bqt/k+t4@8]a]r5>HNw_cxz;RruR0.ioVSQU>py%Yi4=Ye3n[*3>JRa0j^kbq|Fe<m^%&Jhk)eb/eb/lA6L]fpq^%@,#R.4Oq~@#)%Ts&*<O#1Qpn,<OVtc8D]E$1>hPI,d1xB2HazzGsFg4Sx49wRUl&>GvrRjGo[74gH!M(k?3:;Q0W8?5QBT8J2Pi4hx3><iMZEp8eyOcl.dJwgFF38=ETk@%L0HILv[|Zf9$nO0JX~l(eg0)j,//?@he6;Zmjq-RR5cBhG8BJ*9+GAa-^GUD$&V!DuSKO5lff_S8V?y@fr=~UVx9^SHiY59Vg*9FP4N~5g~j*-)v3Sb:k6R4Sf1jf$FSr+Jq/mh&.zqUAJ-xC6gyqMAf;s-K^qZ_>zfxLvy@EO*7-H1;lgba@IpPjZZZB^guK*)#xPN_[G0dUJR($Sb:3HI@f4~Ip]Z-c6(~SE4T^#%Ob?d-l=e:#w<|1S+9_Cfa$!pBT^zR39.f~hGWKERg/)w:)WKm9.4F]F?g&T=Dwe1dY6kT(-()[>BJ12C|83d*iaaH=jEz?B:oik6S*lU2IGu;O.r,|6sypZ)NT)ScU3Bf%4AMGemVbx90q[SNSSpwipU$a03$@~LsU7rL6z#h<>-Bi)_/.fQbOpYTre#Y9!<5AUdGQq)X$&aWyE#iEUu|&9)Im-7r#DLFRQ(Bl&gm;f5zsrCawEgTv7b5^jdu=HVZ;A^.SX_0kw_v2l8_EMH#sIHH,C~(W)4(d?OIBjGV$hg4<X4(UJH5<kZ^aI#4/QUhmIXC*m*vg7(=4EP/;q2UTu!L;~ez*#qq_d<>gzl1JQH/)$WbNq%_3k8Za<[u#ohSp))GP1C3Dd/ozy^zKLUMmEAx<b7L0MOiN|[WuEtQPu/<[Xdg#I<cq_,;IkK6Uj)/-|-e?iqzQ|Q:;/MFvfi,/6c5N=%na_6=9.v-o&Ag94rIH4c&sNQ?@drNo$]bX27d:+~2m0<qtx5!3c</[jH<D$ypjOS2)p%5A>da.9|]h9p6#Z5<u%k-G]5p.h!)L+j<7cdpCV24@$/6O7#,_;9Rwq@oSN!h[4He,&)-T)SL8&,G8%K+B9yTJ&g6J;dxqldR-YAeWj,r4%0+0h8j2S=2nBK8Un9a[<f(V%ry3W0[(Tv5Z6)_$->)TV_Z.wSyl+RO6Z92TEK+2)L?.[Qlj^+Zk$H(aD>n:fG6V8XIdLkM]Y@&*iFHm]AYtxSJed=R;+H!>9i.9@APQne[#<CP?<a26YyZ",
    "I;p-3:D;,tUO1aSYVFZ3@K9AnK/IHl/]RU56<chrn4iqvX3*ydU%4_PG7P9*,P!~bvE],9,+NMI.*_FoYan+|v;0Q[6=MZ9#UzT!T&662CU,O~T!$|&EcFK4td$Ig=jEVfqFauKD7b|mf!V%cQ?103v+NCNmHTrE8b>vM#T3.F=,X7OFb(^~?e8-7Nl!Y=8iW;z4?uk%sB%I@oHLKSd!2b-SRV7n:Y*3.yLagZbY!mQS#:bcQ%YkveT.Y0Aazyl2a:)APQH0]vRc,u]dF4]Db^4:n?yiB7VcyX=QA+aa^>4Q,34ttpCno#p[j#/bA(OH1[IGDyQggwQk/[]I3Ko?X4oPCl^T*#(BT88RDspNM%TP=%jp+2+J2.C80F!jxaR~bnabXlc(D_F(W()Raa/iOg[fk^E=,%2%<P[eh<zIF(BUN~U8tgJ0+bg5h-/g(j5[crOjFg0!l(e#r(IxsHkl;TmZ+xn2?<7P>dmH!Z2UCPQ65@a8C+KMXV.VZG_U2AvGKKLJcAY*UJq-!k.05S@$H^AsL:<B1%kV:W+9Pl$-a^?@k>b.4Gx(|nDvKuBLRp2lh~AwO^fk^(byLQHiTljkQVeqvHHx>3b15TS22GL:.qR,#g+8VVX!8Y5V]i6F9kZZ#(1tC>!)$!9KNsGeB!|c->bxipZ7y?R41[w@%O4l*#+~7$a~z2J<m!RQ:8QD?Iigd3@>11bPIJ%7-Lc&!A?-;_8*dP+4@r_ABxm8.G[kXw;3sr$*DeU+2QaxD)4Jvm55]NnZ>6sa$Kw[R@Xs9_apjdv.&3CfE;t%$1F6~u&yl/.<7Bg3WH>vA&MT0YTH/LH0&Hw7Dn$,FJ3)v%h-3L]g@5Q[1M?0AB_MW5j*<,ZVMI*Xd9e^S2$~)@RTqBz>8_=!i:@p.K=,.3dySIV#:=CQePOz[jEsc3LlC%:5CaqML=Q7><.YxE:cE+vcW!54<BhbKLg&zk[OYQc>C0hn[Gn|^X5Q|0L8n~bHGI_<IAYK%3l&M*Os6XL6m.y.N(2W$/%@9ZfW#p:f>%o;^w9hs@RJxf+;zQH_T&n>LA>csHPSE(<5*SH*:)F~ZD9KRglk(o/fOsAh[Hw^gJPKi_(]?jdQdE6T!M[9:/=;aS>*(@05WFZ2%n;F@&N4G0<##a_eY[XieiHzd#=)t)ljS=>8MBeM8ea];~JHY?2zxlP#jBH*l/UWa[yo23W)KG$3bI?>8qP!2Y:xf0V>oMf;y2[[IDBXbc[986N|9X:#iv$!.,2Dh<#~^+F9lHQV[?EOmVYL0|_5VNHI:wL,?dCLj1[s^<#z^V(d|GE[I@ML@.D*f,_.JKAWwP/6)!U=J[+AAeB&S(%rK3=T89?X|tD=812~wMSTl!I^g#(7=By-Q%uu89o-7TgyCWH0dwUkD~Q#(P>XAh<FUc%d*bi7Cs([2U+:.DKqAhyMqm&diOnDm!Ecmf/6e|dJNu6IAqKGXcYb0Yb=OnSTY/s[@mMJ&=*N<Xe3H_qfo-LzZGgUJ2Pj>^gVcz36OJjv3Rv~wfFKAG,yaR<^XDEp[bBY?Mq!5!8_jUoT7T!2Zz4i@[rmDv(xZz^?PZ6__(N-Nk/892^c1(Y=)?*pB4ju>WS$;=[oo@MTR&@j/:r@YUG%@xC.bl#j|ZTQL*gG:jSzKHBrI%%kgEk<<!8W)F=nXy++nH7?P1h=6W|uMU2aUB?+=W&dNF[,@DbNjk.mBZ0nxC4k[*^Cc/QX8d6F,;;*+,XPc7<%^(-:mGG9_wG,we@e4qxRP1?yb3yh_+kf_cjYXTHnH7ehV0Y*@A#/CQdN[6lzU=KR6gJA3i0MNE0*_DPj5!T&;TF,da:cH[g;TF(+=aB<K&:Lt5[&E2uRD2w*kjHvhBEbO-+ZZ@tYvIT9QtJV_+n|$!4e?*$+E&H24_xMfeLdzc1RqIg/)z_*OJP^F&%~%3:d~hO1/*]|J0#f6_4Sdikly^~?pR&g-&GB<UY*bX<y(Fc=UY-F^^,)$h6R&ZgRKBo(V;XL",
    "$hUOA1muiG^!6xg@V4dhP7trI-PP46@*)5=D08DyO)46N$;!IMWC(=p]O&pI:rD?F=>d.z7D5x@R_L^02RrHlN2e^YFs1.BbAKo%85%5r5]U|1Bv3?|=cbuPV-8ZyUV_^m1~:]t&vYG(<n0K6E2sRx;Q44p.yB2z9UB?Z%T,&h/bBf%db5,F;TDpiP!OtsE1@0[@07ZJNgSXgi:arBE-SWPj&v6>f!rAI7#_Fx:=lFglXD4>2%0-5XYmo=gt$sZhuL+1D|UO&S|l=.40Sd$i^zUyI*0D$g.%4x]n#oVE.X&)a&%0%_JtwBGeIe0&x|Fq5H6|aDk%Yi_Wt_w^5;sa[krX0WD|J.[ZyBS<-Tuf-#@-.i;WasDqZ$JM9<miA66:$V0Gc2G5jj!b-!b#dS--u&XJdogGbCaAdP#DFmC.j^KB8AI7[U7&<^D39r+#%;P,2J6zk,mbyK*T)?Z!&#(731R;]tk$t(=L$02R7-[%TR#R4g7ev;xmSQpE7%g$BN[5~A$L!ar6aE99PA:IM&=LFh5Gb?>5DVu+pKYy8B45Vz$6P&F!V:P-OUu(rd3jDzj;Ju*z,^GXc#PFeub!dY>!yun>YcZv7,f-vW-0|hH.X.(NWKdjO.+iqH(S_3D_7!x=9?[N,b6:#w;t9k#Oj[J<W?;*pRQcZQVk7)n^UkoMG-xWOQ(BvgA!1/o=qm*;J4+q!%ES%GCf|KE-mt&8P$xcLYq+w%3Igx+H]?zPUeneW;h*z;TJS5=3G?gIEES:IK<Mw#5szdzR/,7?Yk*[WXltUXN|TN+3a$<LUb:Al0MZ%T[T+@8]064r^B[BB0u:.38-8Bw9IQn^#!m^X)<]/kITJyYTK4<!GCr^;&IKN[N>(m~3z-sF<*HpG0~2&;MX0(tUqiqaGDMguLSI-x$D[z?<CY_.U.m^hSLBDNUF<@_.4W7,?3bz;MwDV7fPrSf,5wn#LQn#XS7nOJ3#LS+Ur^fPR()EfEZ$7+96;:I,N.Qo*g$_[H%.~i%u-Ki=*rr1[kJ1Q0Vtr|@oQfI5@&X+L%wC-9U#tbi>K5l<OHYDPcyN0kK~R9I]ev)T:FHzf^0!r6sA@T]Dc;@E7VqC*kz2A.Y].XVi^P</$/_q$.s4<b@ZC02hNR^UbBz$EpFC5D~cb,Q/)KX&N1nz<,lf#6-nV*$B8Bfk+Ya&Ge+oQ_kADtKEaZ1Sd~wRO5b3bXK:PY=?YrEbtQ4)WT2Jl6[>Kx##!IQPmQof7)&i$4vlI8,=pcQ=n.R[DXrT_cU:fzi5&Cq@_Ep)%N0SC6thVJO:Vk^aqTr8<t8s92slbpE;%=0#L%#c.0o|0fl%Xb978t*VfwnX-PwY3KW?)dDlkOy4xAR[W+k$s)?s!Y-@h/X$7wU_[.2]YhG^8J,L_n2^-_)0f#qGK9k&_:!>VdJ-NLe8$<pt3j/NUK*$8VX8tYgA&%4/RhpJ%=6rah;e1<=U!&$gj6J~!|Iogwu:&X/X#q*zK,J%Z^POn!GH30D#J6OS-ZOV&,M!eux>|<qva(*z$jM&e[=0[63[U5:[(|)IuFG6jkE+?,k<:K%O_.lJ3INN6|i7tjIHe~[a6>o+q0Q,v1kyV6JRyVhU^2fO&R_IhF3z3,?W?+~v6yd6//|Vbg$(]>J]B8uq]m-9y+7%hW?-kje1=#Fe_4r*:@iTEeL)d[&dQ&>Ih,Rs02lnYf^6x.l$A_Y|D/kWr5Cke1a_;2]<5%T>]cAAsH5OdJ3JqZfD-/n#aF[H.UjV::!_CW8/Wu?n>]CW+7u#tybQx|CL!&xn_VA|#+Ok.<5r;YX=WXXTRju?B]wGB5/7EI_///Ke!Q]$]H+%oS,8mj3R!j6ZBC=t@.(R[h_TR%7Uz,d/C#B[B0y7fB5<742R/zBD0FD#T[Yp-;/ut|I/uQ^rMIFCE8/VkT%%d=qes_.)+pNq*=~V.:MK+0qcg9wpabQK2)DUcKEv6~]VA>HcVHwFad-@z|@#^FkRQY:7VA.577>A)Wf4mCo^",
    "I[m5(,SKXdM,cO(4^BLP^qf>7w6T=K[pHH,keoz.A[H+):*eyW>|rR>MwMI@Dt4*!xtI5h+b1J(x;YCf=+t.R!W1@$%<7ud;@$ZXV#u/!>L~ef)AUF+wVg97slrhXhFvQFc/$5]0uI~82>?m93P<j>G~-THq4QhePHnGNRy<Q<A*)7#C@ZrL]R_6.xd2dKmI]fEx!+FU7r%uiK*bhMu[y77Pf^Nb5^$ei3mS<$Qy]c1~y?X:CxfC+lkN#]v+x3jl,t$4Jh_~OH%,4*J+,U0O=ci4[sPpS<e+4,I#vFPJN7q<i]R&(9ZVr#pe.D=w6Ku6>Q8ocuJ-XD2:Gj1jzszFG|sBLE~@Pbncz)@~])]2S)mG,><EFM7nc,cSD[rN&78fFbFq7dT.=:R8m=i%nr8c56lD,;#1u2kzAm>^f2B|Ml7cH@$SZ&aQbD;?.h>Y,,LdAkuMdv.m4Xb#+,HO-y(lA*<BVFEmqlA?AuSR+FP@ikKY5BF.~*t$dr;i><o>vA#hm%:1ZP>S1gWcgeo<GdR#8!QXj)~-)kM[]KttA^n=DsU^0UJ_sN*p+B,Ch;kCPDe*OQRdOkI7Dn1U:H8$i5BE)a_c|w(m5C,HwX~U9YWg*krhU(2wQ]2@S*[pKs3)EpMVWRc,-a+mPY0GaYL*4KI]XdV=-W-=PHgD),afzLOf<aW.J74^*%H:GBCM^-,!I?)R9B[bDQWjcpV,QfE?B)&&UkQoqI3=q]R&62[4pMKe+EbE@4wI?YTfZ>)g?npi?B&:@GmvBGhjCr6)X@2sOMjrP[dMOpPJI/4?ZeR(B+|#W[XKf?@,VKJ&+P=@So]V4fKfu|2BruxLX,/Z@rUBxQQpf-@j/.i$|lGsC|cN]4=kz8=Z$k+gVzcp^1%YK<E.Yb94q*s=[[jNMK2d_GUG&A<H)-@]bXx#EH2os1C$eB5@G%?4ldLtc(qrgIv*9b]%8#i#zInbi-oWXbB*ox>f,O@bTV?0EY#uDUC,l?V&dz|<Fixp6oFO|D<%=|5FA[@RrBYk4gbO_X38nO;mWcK%8c)<4Hw2^?pAnS)eUxJ)@+BhL*oc|^h+67HSW[Zbfv.!>J]5mR>XU?hnz8k;BsG6Z;_;t:>KzGO/RjNNSA~/#J?L2&nK.(?6mtl)Xz-Ecs^b~_m/m2/b>593T-#w)9Rk[.[N#0hXgpDVDZCGId0..J)ra,e[*Xt2IR!#Wc;m3Au8kQ;n~zY.t^uyB>G6QSJeYJ7o,oC+btgygOfNG(/o,^4,*vy2*g/:VBz]qcm?sY&)&Qikk*D#D=l<K.H&W8-pKap3aw=;&=-EciOhZhNCKmMT|h|_!fx7$B6M>_C9n-Z&,G]$;H#SANh.#E2*&5WYTgFq7e3TQ*E]b_Q==<gRC2/t.<:m|-PwK[2BZ|_P=.M^!C:EC&n%ptEWSOiD!O<9-8#!.[yf^Eg,#h.9:r<L!8F7GSHJT6>0MEg<2icLRy0eKKjjo-SYAmzka(ycE8|Wsk14%!YpU/5<d]_>bpc2Tk:;s]C~qS64<fcUb1qv04.[05K1,AQEy.rUKKl$JYHgP6Ja#4abh2Pf3RWht1ymg#;G)AA7ers5L:Z>f@R#0jb8lXn8!k]fH?$z,+#9JE^L5t3>_N$t>vEyPesKjo=0aBEb).Pg9|Id<:c%KH_yN1[k(~s?Jf(a!.lA7s8-Ln]Pvia7U4__fbZX<f8vA@.^vHDC/f/w)]ov5PGJiYmg-Uw/_ssC,aptb>XLG^8Q(4b8X%3.4.cWH6JGaTk,!zTz:m=1V#flVFb-[@sctRg#JPR7K1SGXzY$sm<%8~6#0b|.2b_[ZM=N?~j_kW%]<i3x6H7!A8)GAgOfDr,u4=7D;8I|*gYv%2V*6qX^EP>nAVjJ~S88)-t$e;!:UN!<eUgcar4V(x6R8eFMJx(XA<dLlW=IE_S6aN)IWwG?-awot_2o>as2J@%:OB]o9DF~Rp7Jz#Vi:GcGHGV^GWIRC$/G@NH6S!3C&ztDf7C~w@2Q",
    "4|&>bi~6RLe>viMW&cIV4>!,|[5b&wXU.Hw_:f>KK&iIcNh[KBrq1_#6EPXPGTjWzm>IT$F~VfVVSVdc68N@niENP2=@gDk(^L(4,%_2FKnwP1H[NKWhi<@t(mPK,X&%jBlX:3G4!KJpJ:WDO^xM!oZweH2>4a)N|Z6Yd2mMc*&HkU)I[nWR?i,bSFR%AuY#%;%Jn|3!nd7--[4b5H9GhPT-X[M&YKCQ|Q8K<B7,Le7qb|[[rg;NMgU!-.<zE(|IhwdrBM5/+|V^##C-T7i00G&d)$^$d$Jq,^[yi1Tyh!1zU8u=%81D.gMK/fktMl<PBdd%rS&;IWA7c5D*.C9*CdJ!~Y8]WF$U2>hgm;?[L(,Ee36LJ+|!X:5D5_M(o*R0bhjra0upK3^ijN<,S!q]X(rgA*]KPd9Y6?!^Xz8j&J3hUccC:^xIHe9,Z_>$3N[q8rI[H(XIVfROk[?/i5XRV|&:5Lk!p~B>7-qRBztr[PyedHkXX8*J774g8-:kitrDMC#B^/cwkpx%:6sFaWidGB_tb+F#65+hOv)E;L/PlUtzD?^_HAAgu3wUe|=$_+dg^(cXFbFWH,uY-k7(N)W6TM4zWt>0x@8>RV=i?_v_W+A_~TZ05@k:%M=(|KL(=y1e!Bb-u&RPJCbC]*W?4|Y*DYv820E*TA*M^=f24l5IWYvL<YD;6:hZ)1v>r*:0&j^*~FPy2K1~@iB-._ArP;HHRn<S>vkS1%d4,)_;:p%]#;6h3Y,Tz7-|W4QIDT<=~*Ms2*Q[,3y>ijg1+,PYK=vi>?~h989czA+8<5AVj|aXK=|pJbCO*x4$7DuSxrDdKYzXHL/$W6;%|EE1C~0:$^|WJ7sb$B@s0q3IclNfY>bIR+2ODhX!m4:UYIeMf>];#7QaW|14fFKe7,.u1J)~u2nZM^avf~<g_&6KNM;6|5b:!4&pE1~@gNs+/^BT?;?eJG6PN0_*KEyKbM-64_@day)w2)mAHKzuez?@u8h:i=Dl<2~^C?e=:h%WV3mIJSgm68b$qd+SCKpU1Y_#Ci8..OpH$m(Cj./D_l+S~c;ifRNV#XOnQ>1&d,OKL9k08P.[@sAG:p!|EifsQmi~6bq<U^?Th0+,NFu|DABX1dnH@DMR&[Hz,@bh.bYRD3q06BQU;NyZ<=*qti@yVgIXtL6g(7#uM)Njn5-_%K5>k22Dc>8m+jNEYl<H<<V.4Bl#:_HpE&f6ihAPHQe1W4rP.t*9hHN2[q789jL/Xx;~BPV^,>Xz:TU47z<Gfi+.1bU1.^1g%g!LZZwX!YYtDN,rfX-kYRiNQeZ*AGyPJ@s4T:oU&RY=dsGP:yQl_;6.$74tfnlK~|v/xbBSFv+:pHi>W_1,KAKb7|xPB:Hv).&~d%CKMp4c<^LC9~HK/T,d]fb~5?ukaTst!r&7-WajmfZ)#H~a(96dBvo^6^@97:3F+@-,asNyLdF[R,/!2xQpHV|h+|abgLjuWI*w69!!4QWT8/=DI+]OL*|T(7Bz.itXjr$5(6SwP0/:7t]=(5uD8Y;8=-XM^fNo8CJOrKjcc7mjgMlS#a9u|/>-75n@%&bNNQ6X]:DqrMS2&yQV|HHyhKjL*am|+lA7|2j5)V?P)uEQ,1[^Oqc&>D32w>fM9,y+)CaP=Q.rq&p3AP98<5c?320s,wA-m(J;)O4>]CWz@1*0t[<PD]_+5e8,cmV:=,ZmZ(%WXSQ)E<gI)8j[#D~<m63q]:AGIN<A=%@P6-mPXaimerZ%b-BKDJ|7_.kH]ZU)y|+HCLSmF>jUY@JlM&</f+?*_/18@>[oSClpm3)bZE[]b(Hs^6(sPA(eI[N%.(_j&S8|^Kr$[8O)I9PXx,4=Jr8%2Q!-KXGrAl^3=mQ0C>hR#*AA-*8NF(/srL]c[:GOU>s:@Rv*@F/qk1>4-3a(C[QbD7j4CIdJNfV?pqPE(5-?v:>uxq3dtL4O:JECFJ6bwhT1Fh5o>%d<JCD|HIf~O6|5?IGF_,l5zmgAW8!Q9)+U",
    "#;EjkK<[av*WG8OEY6nj$d@Tu<Ti>6E@fm9,&>mF!zAVAO:;(h>pE/z61/A)Np@%.?eP.kznMw>Ljh+LLt+#KjG,E2,-BPYY~9TMdEb#s9ng@vC4eh:B@iX^f3DsA~~k;YiMS~*J$6x4+]h8oH@^FF9B^^s~AXc4.iT_%z[-BHRR,[DM]M&ZgL;q2F6GfZ;!=lR%Agijksg[Q[[X/HUV6Xck6Y5@;4?a5p^8_EEaRIq7*K&eG:D!)<=V&1NfI(aJNhSQ/l:~*yG1VSS7foSUAAjDxwhNhIxO8/Xua7*DcQ%SQ|dx%ZFR:7j#-Hp*0^wAbq<d)m*%3o|%8I.=Y>FnNTdB?ysCG>ve)/e!n@aFxWXAEfv4d,TmlIRjDFP[i%GiB:G*[-!_&lVQG.^sax,8bevPb8hv_r)4M-NuM7-,h|fKI;r!8T]#T=V|tn):ExGf(kH-^)O@c;(Y01[lR%FDD*ii2/Nj/Gj+ai&~8w@R7zbw8fi6T@H?D_=vpH@58K~>djkirQQ3EMk5(U|7y.<=YAGo?29~m],x2|GgK[vY/YK?GcqnlvW&+WP7Poex[lB>D&1/)+2*0-IiQz,[8V|mZhvjSf=_1fd&$NX+OeLI%JE@]Q5%tMyFDac$-40gJX;qG3!&Z]Ha.vv)UIDkj:l~l[YoQnBBVSx:0-p;0V_K!=h?2JMZ;m;gLQZLbUI7/~BA3<K(_CQV,!m%>S*7NvfJF[T80J>9V<WR_10Q+l2mvd?:UvC4?n@YDcoyp2J&3v|WftW4)mhS$=TgcyW1EeU*-=Y!j9Y5U6ks1d1Jw0qTVnjcevD~j_H>+Lb*(>*:K]g&ZWNr$6zN>za,&(E_tFfTEn(753eas%*IX$y(B9=l5x0wAT-bBsLEZ3X_H:a~bGdB3V/#YgbAb~l8z-;$T+(sYO~o*r[Y8/5,n13Ed%TJwN3zUVLQM92[ZDsp&yCW$3t#5[Z4AX0RYT@lTpIcUUiGw<V4kCQ2>?Y9MzEUAPDEplcw~)YUdtteGn?(6gBnup&VGrMK7<6[UUr:U<I:)0UM(JY%)NybfBRPW7_.(~_UfJ9:bLT#<:6^_RJ;rKSXwbw&f;O)]u9uiH!kTu]5,bg54xc1_%/)CRq.]khISJ2CNa,7bK#6U5$gjmT(]^F6EVOB4.bm?3wf!16XM]9G6GhV%?A+RE!gZw*:w*69voJ17asAI<1nxdaeew2Tl>Wr)<rxI+Wowi3ROJoN#$c|bC.TgS[ksTf;-,n,[P#%Le%,#?[A:4Vdz0c2/Be@U6:_I([M0lSsTzK]z(U)j0_C1]xOpTM_R)v/<YHc?>rRbg6LZZV^l%-50+0>%pg;DhpY9#D-z=5-_h*vE^C9E;8N&|)BYw97:6C#bi$<Bb.RfMBJPvH.#o5-Hqvxi4OSKKl$/g;X<s.BV)=:2O!tg3eRQs7l1*X:,rA62&GZP-fxaz6F%v@J^aXgQ?D%7_eI!O^cy;I$*vHR(a|xb,V5,V#eqRs!K2d]be@@V6(Axq#$M#5]Pkpp+P7Fs0i>IpjisCJwi.#fG(kcd@9=6-eUZ$4P#[R6;8-YuL7!Qtn&:DaZ_8YHKc76m,eKQ[(>YTB+KyQfC+1M6y1.4t3D~[MQ<;pWK>:myKiWuu.&(ULFaR/Lj*5D%rb#=w/UVm1f_2cb#cf:N&gy:>$H1wdF=yII5[k(D0:nHE]iNo[u&K;#h*HVY3Gnf;5=ItlgdV6Wvf_|Wp*+l73])<4%h.s!@MD5%zW^I8:;XVgskQZw=#L7znF5E]WgSu<d8u>,B]u%n9fR9<VRgL|oKtQpLH!:0s_IOh-ZjDb)ktijwGNl<v4SG@*O1X~tOSGF27U;TS-^e!71Wdneh3Q0-X1F,U&z=9T&Mk(+C(=QW4|1J.Osf8n,;xqG>^%vIB<:Tk@(9_UEDk,Y2!C,wT(*^*@s20@4e||o7QPi4&3ZPz$$4iQ4fi#Qd_iNDENy1y,=g<?Lz8^b*WrXL=EhTaP5ZK::IkFg3zfR",
    "DN7CzJbhI5@hP/G~%$>bSjK2S4W]XK<jo9[UC>o7t,,#3=Z|T6AgxfwF7-OR7C1Qu02dZR_,.!d.#K.Sg8$(=BCs:t&V-cQ(L3E>OCpd/5,4zE&kEIB2dON!zL3$woY3J<6hXi[kl/:B%[T]<g4U1;$91qQ)=~Z(i8_q0i6InPYeqb$8JeN$1_]],5]t3jFA8C#nQCV]]SzK@w*@bUSOD*m)Dm5^1([4b,>tbJBU$_2+JbJrdj@d=L4a6i)Zs>h,OE.mI1dDGsN!Tt>5~~I,W~3ksineYvg@|n(bX:(33o#H|j)#2-CTo@,X:hL+&;a9y$Hw=NWBN%@Dk;q+^u;$kitj</-hOP!@>o?)Fmv7i.k3sV:Ewv(:B%aaMR0XD$y75Y@Z,wy/?u|_/L7+2/?x*hM/&C@MpbHINGvq$^*4JTO]);3ULe^GDqfewYam>SarNbs(tuZdYSVhf;3ZQ,cuWt+[a-(m1/ededxY34Dy2GWDk]03E8TVq$]P!l$)3yM&H!FvD?qOjY;:YJ_.LkP=trM:SrQ8]D&?TFZ]Ri4=u&Q/5vLzhDkdGuAF6/m62R+,+!pwb;Yp?S@z6i%bNb?m6gD8,3P->&W|xv65O.!B+JpqV-/F3hNBylJdw<CfNT[Qm;_y]92X6.5fHX|NOo|J462qdRFsWN1jq!/!(88%D@LGMg[2z/4//+f(Ax@UHVEU.H%11h)G;Qjo^qDJCSGxH6P7H&KH?F&t^-:=+2*DI_3baB=(&r&X]q1m#W,BviIRLh:,B_BnP>5nx8k:3A_PU@j@-n/wMm(0of:P!$864_j<~;TWZFWg$Qd~m4&mGgh,$a3#G(3][VYzs?hIgwd[*]RPBR>O-/_xL4a+#~iPpRA$9Y/L>b17xq1b=,L[)o~IADxfpK(nkB$M@=U<l:-,(Of<A+3F;g5J=kI</3U,1i_&(:0(Px&3urF#Y^YEb<[B)#*<=WES^DTd=?za[/#,b_Ml(>!~T#IH?hWEKk7*Y9EAL1bwtNT%<D=W]E.VV;Q_T,JrpmC9wmP+?T|sH%>ig]/aa_mg)D>NNt7<8k2vt%DFs96N=tengX5VlT5EtoS92L&Hh,MO1EE8K=IjPqbiQn*H(Z=/<U|~8&ek^m3Z>b,Ez^dfVTV4,0/H9VQ~$tD*S*$P]/Oaz1!p#~Y32lASypZ5[cdjDQ^kDf7uu5ET>^0p$Ds|$8LqSICP&>j2IR%K+$Qui-s:WpIBn<%*1%Q=C_5]8Es~g>Iq8<xSR(M;_cvTYP;4?e#$V,)2Hw0=Eh0,q&UP(0F^ru,gVOp]Hw+HG>oL39(.2Rb-]p5:MTb]/6bEpZ*w-E)^51Z0=1lME)!d0/).XC-UzT75V(K06!M>9F%2+5e3S*M;kss,=>+00>U-tsg&0Od#c!h=UX877G)Xkw-;u!TrHpCQbiW=4*hWaUb_jY$y8U,8;h/S.;2-4c~6X:vS3k)2T?U#Q&Rly~J%y;4(g*UkTero9W.n8*VabJ#sZ<R6lNV,UXVAv:x!Q:.5T6V<AW5,H(&CgrBOvr_xddjT+eHEJp;Tv1>R2msR_s462KJ7N+><)2]bA>hGRkFy;BCQ7G%S_Bd9n!GU9)vkpibuUR.~g>;0Kr6dgacMt$/S.2<[Dw$T6m|F2;KhjBBY)@;b@x(UVctE#6W>$&~_8x4Zad3Gw[ah</yi(*k7!&%YQ9KKS_K0G6Q3jk8+77VMUn^d&op@h-c;Z3VzK__-FGX?_554O-~D>=CET>LSmr@(Z4-N:jg*jSW,E]1fLW],AYrh/srJT@MFHU/Vurx*WsQ]?dXf~%&.b$R>hT((vJg_D3,)0^MC_o_hlzb7Ars_;MAcmGU$A/=U=Ra+P:14I&jQS;8/gLc5oN%d#/GL7Yy1[QTSrQJd$nzPHR37hwYkjN?7ONJ~CE,Szx@61v3U@+DpB[(c^8L5PyOIGpOC=6JUw@[2wqNjvr[jdbnBHD~&R%7&|1~S-CY]:SoCm<x+l?M(]qdDkyKy",
    "8,|4~hOD$**hmYJ!JFw8My^jE8vyCq=9:2XVW$*e#Ek*@RU.?H8=d1F+=Vl5LSr+8D[*Kn,G_<qJmP(ORlC#3!?Qx&0*CnqbgY;W8?4g9gLdMFC>_k0H4Y4vMGMni^zp!VgdfVRDNAOBOR]>D*1-9UEl-D-2~K$RRGDD]A#;>B%@+>fCsIJ]dgeQ4f;@LjU$VgS4!I0u2k.&PK>Xt3i54gSG^&CKJ(j8OAp5hQ@|BjmjYj=CU1YM^%9;(g-n2nykeMwVkR1alee!R.66GeZZTcc9<gv^q@hkfRK>E-_H>?[fP_?K|,;vdfR9tSCMDSGuS$v!8^rC;H2r%W?CX=Vl9Lc~9TPW,h,I]QG<T9(Z[DZqnSUf!H[sJlYXv=-9R;NSP/^#cti2~K6YFmA^R2.~qRKpoxSXVVKY.AuP;b?%Q@|u]]1R5x!3T])(LA|M>*E1u7AW5BvTc9tBbr[Mh)h~|%3$s$]]JWkZQ28jy9Hk?W;R/D0>2[Pr%B|ML2*qcz:7y?p<;j<+RJ^>[cgLk+[/:g%C)m/-UeoI_bbNZyK|pm6U2RJ:#;kftLno+g^|^/|Hd%%FJp#Nki7.1ZG:T#431ZpW#X?MWk6M]oDX3&y;~%?3GM>4-J3D|V5]#HYRIlN:.LotMZT:Q7[dye,&ij>NNreMMT(JHcUvf16Qrm/yQ8#^7BcmHV$C|K;)Tiqc9?TEiEf-vZj(V*A,IH-;hJ7Ui%yS%M%qk2Hd(/#~*@b_^#HnH)*t^Y|@/^MSMPWda:0S,:lC&oJ&j)Dk0cL<=Dqt8SETGi1-YczkSCU6?_RKVGQncx4I&7:y5uD]vf^OaWVz!XDTcc|(2!v-)cuMqEP&CSXc!C*NW,D>YCXckw@0a!G]V*M=Cc(LBSZtHEb&8hg3D<e-cq8bF7m@f401fr/Shmtnbn[-rA4BwM2/86,(&g1g3E6>AY(26WbvPdT0DBSTH:HlPhgmJaE?A.;IR/XR)0v8R;ID@A1)&l0)+z18@cI|A.oc#mQFS#S[k?U6asOUOQQ8Jcgup~^RwBqt[<DvD5RUR)=)Scg0vr1$<?aVP5?^~CA[&peJKU]iRR]li&~4%g.ZdQ8*/~h.T-Wr~!A5sEPO?LZ2&?w<&|8!ASWHKsemI5k36p_AB![o+LbD+F?SGN;A>Lj=:Y)W];&X=47Nr1wUR>@PJNys.;=Fe729<QHH,@BbUcC|GSi.MSSECY=GSbs(2^q8H0aSlHcs>VMN>n2M!rhQ:+lok(1LTe>2T(Ak3m0G3ULC+6]?9mk$Q9skN$9]l3hMHu3/?N=!2I6r^-kbWGc,-zVH2~SidXhY_^q?$;CzeP;ME(C[sUpi])&||7X~6Rk;^%V1Iu4i5!$QGZL@EWWs($:g>g:TlUnmh7+m?|YD^N!/dWdGDp]o(bNP^u>RL$!6,:v3XJeK3QyOWa95ahVVk3,WC_p;c5!ru=,903oJr(zK+OY#7^f8+NZ[BB,?wJQ%^~IhL^ks~X,T_Z@kB=[x&&z^YXfYAM4>e+vR9rTQ0z6!Mdq+p>da8q*7|$se$4JM~bHJ~VKANGB@@.LXT|B#Okuf6l_D@VZ7Gyg^+pa4xeM3m/Hl!_i&/uF;$0tYR<cwt*@I?lX!k<)@/CcC)WWt7M$KhXvZUDx.@DCC*#4Mq;RHba.+SN0RS4qCyj&%nY%J*0:e!H3a<%X*BC-,:S+;^l#8a+*c5)inC!^X7(E^:NTa=;>R6:&e7jtqy+CF*nQb_|X!IE@vukK](#Er^U3<7ty_fp_KMIEtos3pL!TJ@Ni4#5XjLCh0J*al]Qf$tC.ni#:vJMSfAOa5V5p(FyJYVW0SKZT$MBR*qz-)4tK34RZ_l>exqV(VFkJ]3H2YIy5m3!-DCz6(Fm4Xtx>l^u*bh$=EYg_dsFPL=Vus*S>N+Oh8J@PxeRv*E]I]&6gBhQ&apo$)p2SNA0a|#A?)8#u)A8h*gn=-a0N]:?Wt#&9?Z@a:&RRUeL=wE__Su/lb~XaXasQ>",
    ";&I^,.6X~$)sz[kZvxLA$j/a<8UuD<g4)+1A-!:#)Zl[)vC:;;Ak*[BSe@iFW&7%/@S$rJx(^%9&ymbgI=h64<A.3WhO:T0ga>IDtfl7g5z3N:svjOkCnc5[Eyd<E$uu@8HtS*<;DMmRatLjS+M9TDS:(OEQ=1gek!@R69vH1Q*dCU9(>MR1$gH>i4-B2XsWe$<6AO5:KM/*%9#bhC.*W8,*[]zI:P&|#eBa_!0m$)#0J:95JH;Ri3pps0dLmZ1_406SCvaASW%FZ%P=F475NW]V,i78c#kiH&;enzh*75GJhw</>q*?sht+lg3m@0$2(P~vS?r*zOIB)Ie$Bkd)*!:REZ,*QE1mhXCVlVwHtC,Fhayt#_~X*Qa;uHQdy8;rJ[/4g$jZE9@h/m7+q6qp9?Cgg:um9|N2~zD1!IBLS=5Lb-*MpjH=FMn0DM&CTGcuKaX%MWBOqxhVuQZ176Y;BhjCJzjHQ1ijAZBQ<?YS?%,oZWiL/%&*[yD!jVu,e1?nFAEv!#E_uw1$kJvl(jUb>!cXijX95iib?MnB@/GLHhiA)~p^7R:&7T;GT8b3N6!v+5+G%0V;Nv@n4!(>@fi:,/5!7v]a=t;&rASIVY+5(e5H9?k:<3CBFj$%+gEu]!@PCG2<$g|DFgAR-R1x?+VNpVx[&^D9T=[)qC]E17=&)zH^Nsa:()dJ1,[&:l>Ri^xDE!3LVXS_RT1v*V69FhbHD9c8bD(UJz+,N.BTu=q!Mrw.dTx?XJQ27MGJo|%zJ*6zSbJ|Sw$_R->0>0IyVZCkFczHgVAl]cKk=07NhClf$cmsmN1HrdK$$XJcCs&X0]Tgl4]:un?S!+WN1RTnIj!I8$Xj5$;/?9*>>UKFj4r*)R-8o;PGqdYGEBQhiYLxJ/QP7qNjxUqCkjbCsI1ZxP?2!IuDH1fEACkXDM3<,<_9H~^iZctwQf+5k;:UK~@$V>[Swt:-Sirky*9=|G=-O%V[w[P%1g6ZTWfJl%gg*DI?-%?,28d*7@(2m-AeRS,-D=owk%>?cWRq%oONOXF81?PjlQFBR(X7wfYf@EM/V,|+hm$t1eEd1D-IsVtJ&>T*LoE(eVR$vUB6e*w3cx(Jd,?xTQ]u<e9M;%w*cU)%iN$.(+n>#QP,fCjc^yyIh:0RvOifmh!(~s5&f#V7=!r&5HDt~q]>Ir</@><#?(vL/H;=0lM.a0ASn/ZBPIXRh+m;deW,6yNP#Xu!Q>/mNc~=4YdD_@g_TSRci).)/;,=#sbKE1HW#eIxe+nRWke($u=LcS?cnRxz!bfDS.dbbI&UhV15CEF7chVlpBiM@n5pM_e+]g:w$N2,2S;Ab(d8$iN5U+oJCo2r*@ZOze;R>eL(My<19:Vb>ZgTuD78@$aHB8^Zd;uQ%b?Odm^>xV|9EiZY>dyO9H47/@)Lf!&Y)B-yf81>?^=>z0+B^4b.bh@O=IIf8]uFrmHFt1$&Zi@610Mg/VJ4Y)2jZ,_cVNzU9zOMtUqODdG_QNt:0E2?RGVOZ>D%/NiuS9bF3kin#%>#w+kKDXEticY_GG%Fch><p8tL;rkf<FY#usWU#~rE<KP=KB*ii.7lXHnGEFlJh()DxM.0P1HHd2YRX7VygM8I8z_w:guO2o7hlOLne=BAGR$7=$S3rA3#;^8$uUq/z#;2X4t^TQ?tKU14vSbq$H;aoIHMW>xb=aq~]jNqW5@=AspOfF7hBdD5jj[jP@Hm[_QMDZ;ne[&7@MUG4~e7nWkX>r$nUdlI_Kv^ik.Z@!_!uOGaO/e0Y#[Qq2!q)vHUl6%~hEx8SH~3))Bd,IzK$Dh2f_f,bEK<|:_~g2)LwR-t5jX=z#3@4jFwHd:QUAKf*L:qa^DWfoJ2ui$X63Cb31T]Q23#Gk&OqG=j;,#o6Y0l8]Mr(akN#B3N_(/H7@MC7GrGfi2jo&]?Y*H/O[QK2.@b0KaspLGQL7+$iww,eZjdvXLEzof51.;p.XiRR8Dd)3:z=$&W<m&mGwst5H6v:i=8",
    "RUce$TosJ/:K+@%/Eq1#e/><H&fs2=^pIEj+Lo&D#wZGD*3Q(hxI/SVHyp81v&[^C@Quge!_WbkU28b6I;*Io79y[w!da?r<0xXYp7#bkx(tFLYsUAKSE)&H|cdTJL#PjyKsaQMvh5h=8NRe=<3=YmYsA?A2-kA~aKS@z2N>NqkmiT0yD-kl:Jf69l.QQ$(g9NOoN17Ms=(c>!D*27gx4ESHC8Ym?p:RqNkYh;/f1Y^T]B[/e[he48~._]_Ps)Bk+A&7R7V:/#7~dV?m!#AR[)?TdW0B8~DR6vuIekw~lh2Ux%:UM2_,5P#.rMH7n:>i!p=?uc?*MbIsN:w:Nm+wgqN5t8xf#ltRm2TSG,%06lP@&$|bd(/i6VMHSn;BOs[Xs%/rd2uWP<fVsVN|(ZCkTf,T^*~p?6db5mfw<@P21%Lsfzm@O$-[7rk&bk3_r3F.C#.g*%k*Cn=%:^!$QOT7d(MrWd2sAVlB0<LV@k9-+hm*j$)SH8EG6B6HE:xmgE5;A)eBKdJ9bc=!#QWD2h*G5EQBJ:W6~y?Dh0^;%M17$*LS/3W_cO|NF]5@elR%3js2K28ILTF2CA[r6w~M?C[OVI[uY|;(Q&U*1!H9K6M]/#Ctg$K/ich3kRflK&u6FZMLw8:(B0kq5z5#K^,dhj0)1?e#dcxbd;@Y);IlZ>T7&d=EteE*7O,8ZB1Q?sR[<DXWy-hS6O)#4WX*9lO1dd<bGFT$Jkdi:f^%;n(0d(5jpsL^]x2ue5q|!>WecraXO-]Ed[|@(EJ)C$8gLYd:-BR_@7y[q#t/L=E.([g$l%p:W<j?UdJ?Ep8V;p6T(;Pg^nAL%9^wQB4N=c66auuWkb9cwBX[ogcO,&uWa8P7b;=jN[xd1m/v>Qy:&)fr,0-1pZ>1N5870uIF9Xgs!D(WqG1(ls)I#@E7/_oEbyB(^2G4_DE&?~;VENcH[fIA54gn.I?kukE83P+uR5GymhJcpcWVcfq3%Ghg2kygml!ryf2mFt(B0f$!QB7X.O4|FA)W5<0iN)ieeaW12j|J[B*CtkM7(pPl=rWH060(Be7R<lc[j7[Q0CxNP,!#uVgRz9:*RQqbistyYj!;T&iX=Gb*cH^XYTt^$TNHo,RC9+p*7XU:d9@rXV2uxXXR[Xa+,1]+F[6]I-QC*052+s=IA0tF-(~%a?>E%Wal8Y=S>jA9<MNIV)_Kg0%AD@V_hMcp;X%Eh5uO?6*.)G<_R*cKEy,A=EYa;o?d;HOU8#f)E_VBqgI_-,C./<A56=B+ZB3I95w^3_XSr!@/oG1Z)8^)O5x-uyF>g/mQdUbr%bK>*@@Akdh0AU/F+URvQPgKyeDhd]HsUL%2PR@+*i%],3$w?A[5$<X@MfP6@C3|Y2<sE/hg$p#*PPLAA;F,R_?*<#,T>cb9oFep?_lV;-n&O%>J2JXFMj$f./*T3h0XO|>[C4bNX[o>f!TH<QI;#b0qF*c=?;>2(i@]Uds1!^FwDE9U4As*,vrIKdx/;I)|~:B%=F+K_KwFvZYjnjB=YqdOv#&1Essm7QkZx[KIl4TA(3ZU^]QIb!+=RJef(@>5m$k/E/u<gh]%Q|aAVo^hPbmF,BWLV3m~+T2VUQIl;%]VVfvYhJEK3IWNsXVfl2q8h<6ZlkyV4rCoBk?bNN&:G99UDMF+81K@<oiEE2bz[].0T/M_m@kPo|IHxQ1K4SN?KcCT#wDS;gg7Efclj]yx%PSM:5fhb6-hj,C.bI7N:kY;P4VaNeIESV-N!NtY>*SQTz+ZcwAL#UNzfu9:BXr<,*G^_<CfmkMr28_PaWY+:.%ze;#5Q]4VE5H8;]WwE7foea>%kk)[Q_dkl,l(;AaTEgs;Sttk<0J_?_Tp8^i[fR$4kwnn#,&[_O2wV[=F=s2)|:f;DwN|x@E/*@![CYPI4bB]<<AerW?pZwiL-qCP7CGQ<_w3qfOz;4eht%zkn5-Fl1a6n97b%gFEI)FLwA9yl$vIQ)1poaF6(qVE,EZ@%-jvQY2H",
    "p+ax)W]T%aI<jm[w0/f|A?82Tlj2uEZLDw|:cj![p=61>Ji2>?eJOHL.g/sMh0(jP->a+h|u;0Es_PAu#IcWD+W9?E6tDUb,(K(&5qQo8RkFr/K)l;E&k?Qv>8(GPtf#dDD.1c/j8Z:#gxMC5az4bQLLgLabn^qP4)*T-tZM6f*|P2wsL;HTaskSEhh6yC|@grIjhJ%vl&*9aq?E6z|YBH*B5@K!K09;w)@U];V]RA*e%Y/)pA5<yS2Ek.8?WtdQj:/EZNdVU90_I(jbS1NPh?b?qwUYEV_XtYMzk(;n*+<F_feGVy15)T##)FO(9>R(~Xb^dopK^7lb8@|5O:(_.|/:>0nLKs#3X>[~9?1;bDgs|O|K8KeOQuNzz1Rv>MI#4+L,f@9=:mXo[2w;T1jIJ[cBmN@j=*:d1b#)A6W+F#t2,)fW3qX]NAL*P&34K<[^!xVh*HSA%6fQ!7JgyPRhqPPn]4P&:H2_xndSW?&#@ei@1b?@w,z]w^SyuJz0Yx8L9056ENX5I_J5nI*[2NO>UwRUf:(5QVg=ll&WU_jn<kp5QkY%_yc<0Zh?vzY1M&igS?F0hG#G>9$C&sS((;D3-9f4x,k57C>$C7#X0v<,CkbF#7/kTM]ek8Xcch7v+l>RPDa51s5f&VZ)GU?t,bio6INO#OYCf6?G;rxY-??ck*J:SMYg91IUfgWwN3ll|2Vlr-DR2ub)SX#+Xh!V%0*lzPqTXhN46C7TU0&cWRXecX_7Guhp8UYb4];>nlBZ&<S2b<(!7gl,MBxYXi$%-zi738Tn@_?wD>EKs>.h#=rO;C0u<pw.OJ[.o3kJ|OH5]PmN$Q)G28FkUmfH(h:3zWQg@|HL+OuSt^>Kr<2VS-%gWXnF(VodZrC)tUwOoMX42VG%@[$et+/:zS,addP7-+0rTed=xAV(aD9[%5<8-le;t&y_.hMWQ0BjDZ==$#>>?&$?cR+w#||:*,6M7)M3kg+adi,BXlJbuAja#f:JEX0]eoAjjE7*Inv/!17B[[q0Y~i(TYw6t>l8-Hxd65G%AqEX*QI=ph7MK@VT$73S4>%w=&jjY@_z67*A8T80u03_!vx]<7pfjnQ4[bM;Y|7!p>uMtI-gefBUdIc[WZ%X#l79m820=kpFW+n)%d(gEC1=d;TOjKRTB1J:dJ%FVa>0,t6|k=QbP(a<1<=[k]~+qzao7Lct]B.[]l,ky=,=ka[AVB?C+6xQme(Q.P>%.ZNj@/C>]#[?/F&6wk,Lh,rJ0!yKqXU]JeAMf9G#o:p?YzeYZBVeAn>SutPUkx&S4$aJgS#zLwfxv4tML5i-65|x#4?C/%km?vM4X$ewUcZr#hfWL@e=Y|/J1VA(]o/NG_|TUsa>gn+AP>vF-cHVyE7P@-E|FD1^YfC613d*N,|4:C/jxKNQ6D>^#Fhm<I?40kS!bXL%#Ia$53c,U;Yj(OLw,vFUD=GzV#9I<?iYO9U3fnnKx:KZ5GfF,0y;X8NlV4B-~yI@495fbjQG6;#mk=kUtya76c]Wf_t2f#H$)Pk@vca70Of7)4wjb/h:h*298WbeJDA!MDccQi%Gdey:qvz@55hN;)5E*t3]SXgI|gvDS^B(n7Mv/n+awECd%5@GR^gSMD],c_.Y]9x0@F11@,N,<TWY1XC4X5@A#[Aj.YhfsS1!X.e,M)M)@e_|ZIp$yg+)dlK62yDO<]e<GKHTe,S3N(#2p,!_kw)9$KJw6kQAr[KKRtOP~7:K/(~egP3(v[Nb,#K7xYGT]UJu7/)^-^]axqSPmh9^=td?UJF)ve9+~RW*JCe7-gJcu^CbbX9Gx8-Pz?sdbmbu(k;E0/9o$c6+suQ+(4E@>lB9o_:cI*r-:FaAU$xQ!#n=wW>J@*g7&2y$(qg8S(ZyEJ$!CW~3,9P9HYc-?UIGy])&,&6C(e;P[[om>4.:S1Cv,!)VH$Ku!j0BQJ-l)F3V/$h@Bq@)VL4I/L(&Sz9%_cJIQe60EpD*p/:bQJ+J>SK:ApahQF)K",
    "?7n+Bwf0myfLPx3XDK0=o!>,(mc5QIv>pDW5@k#,sI*T09YUe$.1.DOf>7|#)2(iewio63I6Dps=]4JM(-4TXR-L1!+>a4p!Fn&vA9Y=E.1AJ6#=n2?UihJ79T+iZyJ*g%~DY1[w7ac2@[Ch%)dC_xY:LqquX>=og^uc)SJ5X+.=M+LG,/:npHKTe1)?J#$C?Bz<!KWb|I@OQ9302Yw=HpQ?jFs5=IKhXcA7H<T]/lH)T.?$(E4$;3JAoPf?lkv5?>vx%_NPJGNaMmP&NA-Y_8mZr_Q;MUc^zHn.zi~ZH<MGoSsI71k<S]W@y1E1$WXdaROG[[?gFZ%7>c^m3wf];,$zD>]1@pM0ExVgVYC=0d.[*EB9Tc/ObzO)4Ss3E_R/?Vf=S9..43,OWTfzP^.|rS@H3p+:g4wo!HLe5Qt8V(84|Kpk$)B>8d!N88CTqE#~g6?V9zW)I6k[$Mgz=$d!.vQ8tg5WUqM!94G%fBBdE30RDWfOHMd7ACyIAb_m5jsMa9,7O:C,,E%r$j-FSS]Wx|L!)C9Gs:Q3?pN|.Ni9^9Zu&?6lY7t-FjeP:H/TlVG6VR@Z&8*7$bk;V6A6H/a8$J]h8[P7-w+7.ps%6^)&I_L7v^;)m)7u~e@1DmE!%~odj]sl>8LKkci9i+V2WSUbKJ)Kz/LqKtD)kG]5#p5N(B|#)_X]#u99^fQb-#T1+9eL=b!y&]$i50goC3u|KG.]pPGHuiK8xafQg<9S<-z[H3-,1CG&%y@[Vho:&Lh/&V1ivu(/gbkiRG-YHLI$*x_E~6A;~dx!/[_4<*tt?#3)QUaaY$@yAIP^N?]mzH!xVG|EYMAVJ87:nT/GQxb@Ne+[4ha[0ZSF:$!ElZ!L)Ki33~j#KGgg~DummtW(GEc!%F+Jdy_(u=K8x%;854^hQYGt5AIgG!x%lDgAx,KaAa[D./:&rar]V~Cq~&.3<6!fGMVbPbj@K9[4je>U^Zkb8z<>3F5XHO1dK%P_#2GLWjjf[LpyB$hf(6s84J,1_IjPPgPmk|88$k!aog_n!?9.+G>-puC3zp/CK6jNRt(M:g6;J<$?FW,;UkRHCA^oU#$mK5SXlHNFJ.rXYc!0,*T)Cy0qVsUIHQjzc3pk:eiJD7l9ff2b_30i7~xQu3tu5)Kg3QxD@W6I1H4x(j7h+594Yg^joiS6M7]5Q@CEG(&JKY:#ouIO*43z[>^6gB8<GO3-er7EB.+]M*g:sG[ilXl3#+~3g<9qfX*hM~&4qwBByH*n-<NmXC8=E_Y@a&0F^AX~]vSyac2.d,jZ1O2$p-&q?]vN4;3KL_R,v5e:QB5Ycia,])|cH;&W!4#XeATp3->+H3=fx~k;i[,0.6FOYr%)8<I_;=G==:|(I:y?Kh.hdfwz*08[,c.B3gLb_-T71_hy+ji]&dQ%NCl+7xC;b/~hVqaI>z821&mHRi?3(DhnoX.[/9fV:AjRhYRj%bzl:*?HSa$i3oF14f;Jt!.QJcW~at!^ALRxjF2fH[LxR/Dcj+ZcRIcRI-b(b;*y8#Wdr3EhB6ktg&dAzgOt|(FiLhVk~KzQIbjFZE&5)B)NhQ,KA==ijtIGV;kC#yaCn?y(rFDW<AVm,,()he$cVmm*;i(p)w(o9Vtk?l.%2nm29rY=+Hk@)[5bB[S$e/70z,%F^jO[LZNH=ei9[W-S04&Ub/ea9IHfzI3hmSp:vnb@jfu_=daw,:Y;4/+NbN?ZjFqClQYB&|bg,g|6lfx,DvM9ZAc.]VhYv1H;rqrJE2%jpc2rY2&K+SVYb_gG+]Fhd[E@:3[#&PT+.*:|E;VDr@]l)[hy=1MQ@yrL?%)3PYe;V.6[m;_FC,XKA&ybz+i!QrH;V&l1q9*BROYZgX:B(BaFJ9bP$hu~h_:y.CD&Q7*zxXU]/&)>ir!I^fP%%MW8.Q5a,Z~))h(1DgVTgy1>#3RT)/wGh+DLC8R^y[E:5w,MiVkcF?8SUg,=3RZDv**126*x@UrFn*yy|YPHFpb(um*f",
    "P:Q[J3M-Cpb,1ey=2sZN0@S(#VPWWtX@L+3Z)[()g(>&H%D+9pBD>*r0L9^U+-bb!<F1Fh11uMiZbo~g*(Y=WQ3K#7HwuvqeJua6&!(v.R@s(_1C+;_T0<0$H&Gand@;FEOTlgbNAlTXCDq7vNDWQa^=ClmDGA%/O1l[BZ8x*yGzf:Eix=a(K<:DBLE<7ZbWsp7YbC4;XGdL#XFzlQON2ciiN*pQ1eZ_hb6RHY[=zR&=T>rk^1220JM!9RAa]JbKko/T2c)jd=|*u#UtEc=XEu~SZ&s4*J*$1R@]aTm8cIq>GH!cQj!dOu)OZTz$IQf~WI~=LQiM=/V$R=rD~$ga2kqqk3cubcf-TJN<h>ZlKR:,I2#?xK*jMN~^7zN%6zVxxVRT]KarWqcLHv0;NoRZC_$Aw#I%D8k.GDdq+v|ZU7LaNr9c$^o@IK=O^@77]3^-6NYa~=B9Zsk6.g|dkQT.z]YV.S>?gD^KI97lhRzFB8Gi2ZL2Qt6v<.(,,/x@lEbfV4)>Tn[Sa;/t3-(i>h&Z+Zu)P%_Fb]KzZ-WHlaDb-z-;yb]#8PG7%,^Q^zTEF?M0MZf~NnGBs]F-FnEWo6bCf!j]/49o=+>X#E0K#wRc1:UH%<TGh&l0>V/pwv1IgI<LC5^U!kD=+jj;UoY1<I[#,I1FlRAfF[$p(wB3)2z.kWx)479kqxOa=JyP$+%JY2rT@Y@VbZk|X,iUJ1s@AmVC[hSaF4MOX<uZ/56D=-c|]0ok%nX3N2M<M~En[GG$QjBZQx])8/:ifZ;G6@$Mv9DZCw!O!!3BZV&:,b8AJ4?Y#4+YQ%x?q&T=$<2bw76/9.Kpz&=,SjKL7;-*^(8MCoFkLGq=-XL|UTEQIWPdsNl8ewih%0+*Nm|:8bKWWF=Xcd:V]!dmYTp|B)Gya8d|:JtKc&/#+(RLjV47fI/R3,%E%G+BNwR)ja&:eZB-d-raXL]FV8SI=X02)jkBeyp1?/Z|h?(/~f]x35V<j893Otnz?xW<9VRvqK0ETs/kw|q6lWG(%S?zD/U!.fkZDl%gM^7BBik;JgR:j?-RqK7)GD~sN8#<BSDV.X:^u>3a8)47mRyZ,6f#PBc9?ZGtE_QoB2K0a(G!v|CAGx>yK$w(v.>.2XYI_%(a53l>L@H0K#pI;^+i:]lCuVyd.q&.k9@w48;G?G/C&c(_%QvBqeK)+IJAF!##q_(=R[t:V*<rv--PAogO,~2nSWPQTE~]8CGo!HzezJ(Z_K0a5aR~lQ*YI[^,Z5]$#<q1a%atp5)Hu_oj5KYgHB[7D5mOsK6g*tP::Uro+<kuvj-_4__eF*55Rkf1;_o@SCBcO$HP^JH4um^LC%-bc6&Eu|>0qiTb%7gRQ/.|BNzmAj32-(;:4wxvDH@Jh9]@P_0_P0>JKA%n$*?*gQ0.*d%UFeRR+cfj0VZPmYW[9HC9d43=]7Y~)e]D2-TU!(Q0!wg;X81^?/+#9@Q4eC1%Pbz18!-o&lL09GZ3dWXoRi=@wSR>9obseDqK~f]Ok.4^~M*BUmC4Ja+w1O8:@gc_A#+GH=E#a[m+Bc6oI+?4B5~>SP5~cH3]yV2xCUJ7Vr%VKBEc/Dj247<xfjs5~f~EicMoAZS]8$%MabJ>|ikE!m<LA=vA_[eRW?)c@/7.BU!vi>uyE,%b.sM2@KPzgT]VmICNo$.Q(^e[Y.h~$AVMW.mN2SK:=Sr8,XjDWfp5ZfEr73f%R3GP,+?UG/oIkGULaQDqr6uZ#bV(^^^-~PvIpj9T5<3BrBPu&O1e6/4!%,PHwa-54$3e+JcRJ%79-p.>B/FeOWo927Yu*-a><q:5R#H;#UG$al4)6L9KRae4,OU_)DsY^;XKH9lxmX?<>&t3aF+y=%Q$:*0Afc1xd6m%^IVNlNxktZJYqmG$[D#@%%LYAqKmaSBZfa-k+7|?zG2+TrnPxR7H3bWxz+TXxkwFey1bO1<e!X8Rq*i:vw_#7ATxQ=UdmOOE@$v7BG<R%8N-LLDw,J]d^?gH",
    "AqOM/Eq~!@oVie-i/!#Uyusb9zW%_*75LY.kBboU;uS1-n,OtR@Q)UXm0yy*x&rzQ5x2&5PS(!S<f2[?$,L?Uh_P^f]wi|[;Lu^H8S$haWiY1?6UIHaallSLHdKM$/|)^-kK-z-!:[#O1wyIM2,gr2X+db<I;8,T~HQ7<A.;8cyhdsepvvg,dx?3T82APZX_U7hdo9m1@>[?CeqqmDvrT@#GCR*I?n27LjbQp3F5NwAChcX%E=yver]d[&kWT(L)#[3P1W7OiPGhp_:Yn[4ULcIaY8(=.5@l%!MIgS1|Q,/Q5~6rkm3T1d]Lbz>^=:M2U_ZcE+N/$N_uw~:+N!|]if5LQD>eV]Kwe9gW.z:e=V@YSoB*PTTNLckI%o.NyR<<ZSRFn]&mc(!v81?D1hd|^7Mb9#1E.J=Ao$(GaaPa0ard;[$4I6?4taw[Iiy0]^9#w4Bw?j;2Ty)TxN-<Mm;$/4Pfe#/2VtOPqIUF>&+,0%DQ3T52>vu6+b!7!0n~Bi@B>bb%%Yd&+vIH__#T-a;8A,4[bVI6_R*_**5j9=M2C,&6h*?JZb7PL8dgi[_thN*EenkQ3gz?TZJ.zM4?l28TJaY-p;yNc!F;FamWiib5X&mJQ8TZ-lxFK:e<N(K_B=NJ)sjn+;j8-)z=g%Vp.K0*rO4$ba;5|AqW7<W[ALWU2C[FC~t+[M[1e~A_M$S3YHT7=9GR;XuTJUY*9/x-ayC(MU4ONO>Qf^dxZ0hRbZj~G94g%3EQ=K5M6dMe>v^.ghb:gVF[5Ud0G:v;UNHmJB90WP7<X=HPY4YM5Uq>G^a~E))~|j3prOxN[x-y$!pE!?%k9j^EE!S?0bbv?e(Zc9bLbuaV*OBO9)[Q5]zt,_fKfI>+&R.HSm0cBP93RE$A!%R#x[b8/bVR2=>BJEU|q|ghA.Db*sdp0l>Ux(S^WSj1c$X)zV@V4[)iiO//px1,-~S;E5jrIw2oEVRfUv/@,>4Ms(Zbfa0yw8vYU_6Kin680w!p!/sTWFGRmUFQ#9.eW~G*1d?&(29+u&T&d#w@%364AAH*j/I&<;Yx2stQ6>AZ1wTV$E93#ol8r*ULjNjLedoQ,Oc>X/RxP:R@I)KTEO>T.Nr+Ta9+dgGH@]we9R5~^bm&cjTV8^(kcgvV&acZbZZDoz:/,>U;7|ZUG8,MM)-5lbS3X/9?8/9/6McGd7lyF$4H;S7PS|B=,Qx[gjCUZRgsqIo1^cjr;sIY>jDnl7!/|oC/wbrmiXAQK6F^@#EF+X2),M-UFXNmg-*N<bNl]WzhRzGcDxP1k;|L<]F%Z)H%re50(j&dY%QU[jJq(H,2V?D<N^FW?jOM|/ZDi2l<Kl#ta_?O0g%_9^(cE4!7u8hg5Dg.?,Vl#KWC*oD<LA;-R$(*Q;~E[MTWhfol6aH!XVzHc&><5f@9pk6ezZJ9Lyou_YsNk~lY</LVgPa0Dh<sxbKu_i/X;(W5WK0.6*?Vv<<:AHAI_>:AUjq%/%o/IHdGdJP*~dv*-#2*[mXLT5&[RJ_PuPM$+<Z1[LH&#*.@./V4/mD/J5c$SC<uy74~q,Y<AS*M7n>3ai~Ct$=Y8#.di#B^.ub$BoOEX-rWS7F37(6GU!|z-Dmw^U8+GS%qYIO3*|Q>Y36)_7%r~$AJBl59Td&OO:>1-.W/G:/R!XBf2|Ze*1go.M_>jY,+p&2O2X2u1.#z1OmXQw^bCARN+IV5?lchy56NgvCYMwkB^,ZL!J#Vp;kXcG_GPx0QDnKmP2tY734yzU-,atShwFu<:yQgb]b7bf+EzNa3f3zQ]Kwj>FpVskjD3b?MX8aEJ!b!tU3t8nAFa2!WAbMSQNasS@kT@NJ)&gF.li!@29jreM7p]],xSKy_qX,#9@+P]Fui#>PBrZ4,B/P?,XrWKLN0nA(%S#d.h,)iX)F42e/Mk$GaYRy/NPXkk;NJxOfI*/ON8X|37>Y9,7Pv>A3/t|l1^MZa/z&PON<wQ.y$_;&Hy]kb4BnYlQ+tu9]O*N<X",
    "Ve=h.#1BKi>R6E!e:6_%:V1$0qdY2prcM+OgPPKRP=cffS/pAW@-!/dw$(@,2%c0!WfP&gV~:_SJOf]qjl*P|F7R;gHNv1y3;.H0;~%8Oe[DgIni-&T34eGB;.~Vy&g9dtx&0XoW<d;0xqA.LV5v!*Fy/]&gmUgcKNVk>*.)Oa%V*iqB=C3Dbg$Jl1[+Bmvc-bM.I;16&F6aC/.EMN+?371R]!!kk$K=>PY2&co0v5?m[W4WKm9cf@3?DC?1:A+X=rE)$V5#L1B8*qsYeINRy$EviIt7ei<ojPh!ZfGT=tIVHm#ESHEbVKFjE;n2l4bVw,DS^q%V?-,>c(oUwq+,gn<Sn@z,U>a,)Qw|EGHju<^!?gwF:JFmOaX2ZVM1rPCSx#$10qd|2Etix5X3q^HlMzJ]GC:#ak3qGl^wpcQLmK.LRS0)d9;pYQEet:k<[H[J6CGxg7)LwEQ_rCKdgl~~TnnjsSh?a|/N@G*Ba6iD5Otwd@4WRdFwk..gqid6=)|JYPDp|;Rs>]G)tCICGC6<o9u:QMT/Ub2hT(Jv_bwC5EHi,QR,Z.*b4+q8RKGf?F<-8-HLZ4-=0fCEk=$M/,V>Gi]*er1;Ex16U+]Pa)%GY1YI37N+V4zPD;^0!!TOM.6p,*Y=CH-]@T3cV>e?1M;j5R~ers1PAUSg->,)?(>k[D/L12E.*Vkx|4uk[W32YFADHL_dbshn)2z#xoL|&J<TK5g7)iC%wILzMvWJ0mUT%dl:5,?xD,qv~Z;!G5,eqJ90*8EK1;I(x2;I>%&W!k~(Fb7PI*wg)=%%T6l8AI=17#FDW>i;bI23bB-5dM]H#_-LvMtJ_O*L)|U.(_f#.4->zLo0sa8wRvI=km?+%+gLU+.9cQ!=]*+/GfYZjHbz;df$f=(w%3#iejU|Mq&soJrnL:Gn|%FF~ArSC%<Ee8eK6Ai$Qe&:dF]/X8jCOffluq)EG0m!?A(i#V&F#WSWn).<@O_-rANSl@7wB(H(Wu2e,dA*YYCd^ij|S[5SQw2Y7WF8VCkGAa#pB$a/I<C~y?lgtjcx$]C9FMrgK|6fuoBZX?%r7Kan4^~KzuixRYdeRs90:KYRA7oJi|e#[B|_J:.$?@FK[GoZrhg.#]-T4q1Gglq|]5xu~!#*RIWE.1-W4zbU285|VzZDn7;kTz<YWy^ISTcp+R5erf(l)Pm[7pMI@N~ASmXa$Jxa$kipeElK<We@w]2^Bz$kK]P_NTOpD+lkLd5o2rW)0W|&fR]^9+1STY0*Wr&?6>i9?EEmwIX?1~G_z*pQ<9]T^_QalIQ=W-)*-%GPveA7a6c*+=vsah3Jr)..9&ue_NCJiS?NMr)^NX&-Sk1K5f>,)X&_6ef[#*2J&JShNNJZlWrDSk9t|TIai%pY61F.zB$jDKS]pAq@p/^YC8*u2aqY)fid<6@b+J:WCUb!Tjhu3k?8PL2?t$Ta05ssb]T/0weX.80#.yW0Qi3eW$lHP0O#5=X9,XX;=&=|wYI3KUfr2dh%2EHO/JkggD)26<D$4fc<pHYEH8u_IBP:;H_dAbU.I/Pz3)byyF>O1Efiy[Icj1Cp^j8hL^AxP$D5<1DIM^^?1~qKhZ~0T]P!~;L%mp2M3*pA#8?|!d2A0&q7$m(DP[kfG%0a=Z;7O.wOg(0K]ExJn&uFS.^So0_Xs|S/HtCaT?i5N:><utdGj~Qw612O<Ja5YzPbrjlj#i(#>INXaBByN&*a*Hg0qf0d35|3]&ukeZ,9gVh#KTS!NLo,f;1Bak0KOzmcCV:JQ$O@k]Sm|Fg3:A~)y(@3+P[~^5!2tf1:wR)T=Yesj%r^4Po0lx!yy!aC/6p]5)m:|->8wpNaNRXbhpZu!XY[OVI6^9=JIU)FAkMJCYXJM^b(I@Wp]nrQ9Wn4>%v<0Pw%[caY_ZCMG=XX?Kd4a[?n,uWD<4N_b/os3K|&]fy4CCkSKU:dhR4g3R!Ce>1Zyc1hp9v^&m1kW=50m.F^&Ml-.]V6UQL$=01x*@Dv",
    "q^Q8|q!@KE.Q<-.BF>/Q4PE#8@j:D%6x6;QtV0!yxJD@Om74:Z]4!0|_IbFMqsblyH]D2NW@-tdWh?](HGaFAI,VDpf>/h_$:34$RXN4;OU*_0KZXG,.w9yRVn@%>RU:|VZy0@rNrVx@PcdrQ<9hP~;x.#;rj*9~K=RD~2Bf?a/RHj|eYk40y3)/T%;X:$9_JNb7_k&?-B)qORJ.X4^BInuL<D^GM1FH]J0i1ArUC5+Lskf($8O;]ko0BH7]jUgY?i6Uh0CN9a@cB9&H2<mP[)XnNv&&@>BUILO6CTf.%*XEHoB/dCd]ST$8Z[@eobWdIT]mO,1=cEoH%R_Q8aOV56kNj:FKa08G:;2C>VSieX39ptW&(NUcRpr<aSgq^e?1zGy5#>iJbG-@NSJCE)R(F<18:~We>!QC@.GT7I]@@8.*cm&)8m_m9<iuX_24t(~*Bu5#W,g2UQDm.Xcah^$1m)mbV<$%j7rCufg%.)KL06.q.lzs&d8+f03b^z$YXw@b9#swukb2p7C50Gh/$5X40hUq7Mnp2yf^<I_S5D[TD1G+|Y!loF#K^zyR9F[D<=mO#PspgKg6o@R>aCwU]>-jS#+(k1e7Fd6G_(Y3R8k>*2~,bU9IScUGKS)E]Ck5y@sF6()Dijf,4Bfui^c#LNfMGu&6[c,dAu2GYKDs*^<#Z5Seygo35I$@KQzx)fxHzh_ZiljVkC;aUqkxRW:li0971PiS*kItQ>noAS;@t~1:[b~*^Q*,7wZIlI|B,xSd;yGQC_)?2$@|5M1Tm3%W,qo=BK~P2mcaz+A0i,MhN[C$VCCN5|_gf560>!N1xtU8=U|DSPYWnCK0ok5P=B(6]SBY^EoGJ6dqX92cp+Nazb2dNfmWHeZfl5$;Ch8@5Tw-=mHo>:2wdRIn2!1H>KScC0$jFBw%.I:fJwc7sBY0gYF^L*L!f/O>k^r;YABbGAkD5A|7(V@@Q8^dQ1fNGEd<Shxj!S^yYS:*YWRX;imgK<~9nr<*H<rgkQW/$PICwVOA:**9FWSUYskbZ/-FrePNdKeEx6>TH_l+=b5%>RZhnS%hrY1W~4G*C5y+<*D9zPgFiTe:$)q[DUlgZ^Q+!zQBs?P;ZbDB4DO-j<RN~HfyY*!PS(:YU5l>FNqwv%Q_cii%Y$y%%rX,o.(:tZKn|Q;QB[E$fHP9p9;igE+Sm6[(xR!KKs?hXLan,7XLk13Y:n@!=.AK&hCItoi:U]J1MXMUdn1I[$yoX8?D1jEX!7P<+haI~Wx=0BXV5S2.fV8<G^fWl*f63(//YG_=mbqSB$(yv*X6[I1|M%%VcQYN%TT25$4jp6XPljtO#wxc8yET/AO0H*.q0vyO@XmM?N;(6E[cAJ3>U/8ES(]iD?y3KG>-4|#@cPX8hecSUH[>Gl+ULbD.H<c3_6nceMtt([VHN~9^=L1Ns%O>7m3+@c+M$J(<~*M1rgxek/kb%08>|RDoj-n[;;KzX<X.JarJ[?0opEkC[VCKkBBd(Tmp%@!pdCPOuko3eJ_9>,nv#g0qB$~_Ff)1758W|[hb]W.)fgRl>Svn3S^H++=XF.Uxn5VFK:>xgvwszb6=cQEnKM&GvU(p4VODJcTL^22<V!M,LDR;j.);00u%<f:g(6-HX8GFM]@UL_2~r8O5JV?;Vn@Tdwj!AaI!sacQS^eQj7hDaLhf>JchXr<c!wC6*N5/_VS~0GM$?57!U1J1[D8Jb95m,l8iMC=QuGz7C@Du:(ROAWsGBghAD*h,:Sxy+J,;Gi]a/HBIJ<vlX;A,k&l7-Sko^TX_3El]D$DB2Y/yckn/xsJlLT[=Pl.0<l)0V-]KIgIexyd[DLy|PP-F.=:%bf?g=j)70pgVT!.yb%)eZHLbjE^*(PfnC4_iS$[RnwO0tFfTx#ADK#ah)1^&+O<;-~&Li!C>:#e2@jYD!q3HcQ6TagcTRmmUFcZbI<T4fr>02s~W+@9|Y!KPa2MTYuw7qJN.(a0oK?B@I#5=@YfLkN5~gXIq",
    "H$eCsNYM@,:ir4=c>zOQcHZ^cud|>66&@m^mG||u~[a;bGME$@,$X>x5R?[#_Pf1!#g:xTr[mBN8%xU9B1_~R#W9a@<eQkA8Q-bb<dZxP0h+!J?L?SQi_$t*G:D(DRUtF.2?9lO@QI3X6B(Z?9*EG.f&)DkVY!Oxdk:8$Fb8aV0+cDr~f3EKHf2/>WPtARhSo<tR5(7]FeJ2g.J(*pn2/VD~M0rf$^^g!|Hnzv(6[1M7*Q-*|k~.w*4(>.b%f,s@+c65QV|J.$[J?R$!^Mg&eOS8ARoI.d<T8]vSAdV7#^$C~2dQ)/[T0I.-ZFp7GT5jFNVj)HUXre;^F^H|bmsF2)T2V/2]DFpFU2A^NXw<5B<c$M_2,^1V<%zE<[H-:cc<5~2^RO+=rt/n+p9138?T$J,)qv9Boz$8bs>S&_;xatBmuGHZd0BhH4Sx82M,p&*M<sMk,].$@BR~Q^.orB*coV)i#_=beslGVKN2A]D|V*ANl)JvQt(x&S4zYph!./RbQ@ORQG?*6^o&G!LX)w&0YW=kW#o0H]@/gE>5p[LW6YJTRRsA67vRBveWCU=Fmry+C_F.J6/:#>GF=y+V1ESt=pAVYEYAI8*RUR_AFX:0F<GK1O=h5%1%q!Y0%t/vP)Djp:ew+PhN@X~]AJbeg&bHviqf|B+(W5(h+)ujTDNJdU%J/-hql^/#$&,%i_h/y:smfdZOTOX>Jln<QA.E/OeR;je$>QIg[A?k,:N*?A]Mw$4;HA^TRLE);ZA_4TOLZ8j*k$r#LOKyFLN<8]k!UY)Ol$44DT<A5B)e/Iv@/nK!VzT:C%Pb.EIbs_~C4B6E*ehLQOMX0]+pn7kF<;/_UNU_?-ymQHQeXV&,eF.l2E4PD??],r!%.-[Dw@2bS(pHr-vX%1.JNH(if-Zd9uvWEv(y(L=_bdK/NM[rxbOd=#?$Ydi:47CWHD5*g=SU.3NjimYM;?/J%g1>vtBdubS>2&2:UM#IqKkPLJmJlZ),bfuy7IGq[**ENkge^I&#(i~g#2qCS|iZ/1c(tZ?v@(B|CjaNS)<lo,6c;!C:?ByUmBN0)rIY6=qi>Xe9K]uG8Ex#(VjT<GD$Xy|wZsYa!hkMqs<*^xI01pUi0^sx;h&@A03rpn7C[jQGF-u^]))~ofeUM2OeuS5t?Hj;xhyVd:N4R!-fJ-Iq9+93=2k^?K<Y7vEC~rN*@^rND^SEsy8FpDXhu&5:N@hq2kp%M/8Q=T*JxB.P6]4_@@uOu:X.[iTd|vwg28A%aIAqz=>Z8D.bo=(yOqvFAW1Rm^<TBzh3PXcT6]d0K],wDo$iRqS<plAX2e)U.6*?]=G8r?|V@cEM#yS:+EzOfB[CuH*j5$z?]4q5-N)1~=>xh)J=OK~0T/LDEj=hJqj1w6/^YY*aj!hYaaDZoF9Nkq(#ep)@(^ov8-qH5nCuigC_#_QBQw7#QR?sCd$<uSm)xGmP+W)y>Y3wM/:1QCdZl->Z4$yv|=7+<yl*KdY14Gcp>GT*=QC<d%jR8rP/+b9@G#_3F-si^HEyJ&Q:KKsEX&,oR.[vk~,rBKq&IDSd!wJ>FWJKP-bd+Oq982WZQ$Qy^cv/LaaiZVDfyMzkP.Q(BNY.bGbNq-^fTSb]5U)%xf,+)T$UA1vLP!)DF16R1WX@<IiVgIt/c5hpkz)M-@k$Ld$5eNm:WIV-Cdo,cjeVb^fc(dl?nAWZ;Vrr]IrNbQSTZo-Z5gZy2WUFm0$5)TRA]]rIXc-Ae,d6@0c[(pEbfGvM5Pq?bA/FLS^ecb]:Z<+Q@ph:1^j&M9S56=/yzP$!p]$FRcWK8H,SL~XeI]8G*!.HMf<q?9Ej;9b@2x~N/3-_0m(zd(!+7ED?k$>aPJx~/s*#ue*_z6:!SyT*G7@C)0=sQ_lG>UWow&g10|LRCk2L8$FmQ>X3LKKix7%G@rm8b_B*2.da>,f^Jqwu$@LA*(E&|$a)ct&?1P?&:I4cQR%l[Cb.l)a?)k-3XYQW-7h6ztEc7hTEqdF(",
    "/L2#-e,0(US=tHQi]a2:cN7|Zk[[<h!fPNk8/4.mb&LhxZtJ@wSqcB5a.kQSb!dXe;Q_c,H)&ypZcqqV/|;&!b(zqo6HkE-M[5RDVbVP8XQ9SwA$Qoo0M*u/>uqL#b=l<MD]+WlBNWY03Hc]v1W!W9:=Slob|hKR*iB!Pi$tga+rDOQ&4EeQYp~)N6e-o72s72C1s~w~Ga[s^J&rX[N1^/66S4WW7X6MpWz%#M.URWk;L$9:!)=!X8QM9ESA_(WTB=>|T*C2kDjK^V_=e@T+@(DI.m6|4RUV,siS~zf)$M~1Q?(m83KGUHAV&G$:y8K#czFxGKK0A=172*EJHljAEx1g>Ek<.?i$P@|hd2=&:Q1p><;(xL78%x-163tHQ3Km6k@4hoJHP=%K$;&gbnW<g5-!8D&gTvfhIT-HND+!,c!J&WQPmHqD-V5pR^eB)Xgq?&Y]+y0Y4aum3&0_8<.KME5bzPq@Jx!w>2M!a-s>+(#yHJZ,O%&l]V:/&@ScxMR&LULWy_W^-ys_r6KmRDY1!L$=L%#?>BF_<?^C=EZ.:%F9MHVdf/NzrF*QHn^@X&s_0]EmH**C-Pa7oU*3w=Q/bex))?e8M*k%u6.5Cwl?=4q(/>j!^XgpqfA#lbR$[DP#-Wp]$5a*C2Ti1I)U?TH,E5El*MfrOl-gcn$&BfZ/Kzihe+!6G-5bZHTWOA[3j(yhzATXNq:Kr1wc-YM/X-HL.@)bnB%<|L>L[LXK#!GKbJy$exer.[vWEx+xL3u>gXC:TI8*3eUgv.$5$Ji6Mf+|,/%HrjobnIf[OSSQG%XicV!0^87#T~x81Xh5m@X2b^63F.jZ1%u1?R_;ij/*CG7cLHE&cIGX[osBgQ+4NiQ2Mq%$:nV#Tabi&Bf>[Ebf^4*iEmY$3~Y.C*mJY5*!K%*8+nsFhsP=E/!tED2RUD%6KIWpVvqbyI(RSPA?i~k8SXq<7e:sWEnkn&e7(b?4#x.f(B9:Bl$vE.frDgLji8FNP[hEt-pk/=9(s%vL~-1xNA0t|)PP5)HEn^~KbGdaJXl=0VZsBMID@od<11%yM/h3AQvt2H[g9<SSNb**alFsdaD1MFKGqBl_JE.;3:>P@K]6M=b]:1~$R>#-E(g4c^)n5hAJIVoON<=HbIC<vX>$bxbYaLZX+G^gO1h?/TI/ACUdeq-jS@0_%U://a2N:Ug-<W&>lD]7:zHUw.+q(a.<!rJ#<VqmkDO+JTG0xS2MFv(b%x01R9ij<%Lz>(dyZlbROW.r<=T+5d]/fT=;oD(f2(pS]^so>f6SGbYS|,,45sQN;Y&f!3>v3|#eK3aWE)iwXD)BU:ZINdeTV42TW<0LRAGAj.2GC+G+XvVH_ZC@$#70qK/2>cSl|(V,Evb<B.|i0Bk#+Vf?L9&j_s>tG&+Z<A&Dlf(Lw=M8U:x&:j@GU_WLDN?BX6+JFE(4BAGXSfr/7ZEmNViStrbbD5UFhIdD#J?cC1iQnCKjQ>s-6O6wuGSTz2C&=ixyK0tyuHr440fT3|z>&5s8g^2HrC~n5uIc;F#Mq9h#DG?*[WOUdbc]>I<IEdm5$b>H0!X3sx9FMiM=W/7/:TG!0Qb8~_:TnIS@xz[w-,zd9M+=3L33At^La!,[GC.joHLypv3wf$o6&DcQPQrf>Ul.6__NjkG::eKpJ06$D(jU8+3vu.376pGfeI6HA30NGhUI%fQVr8zBC%lfJ&9:vM5Y$t@f6x%E5iYo]T+&T?Mclq~78~4q?Y4TZ*ylAE+o*FA>z@|:&=mLlHE/-:IJF[WP>+eL0WNa0RI,]x-geKW/.T|<a:4MkI#xV0Z&:%aU6lrP-w?rHUyLJ5?]omsNp@A0%R.H(>hrUU+,:$<$#6tIg4317=!0=QP#v$P%oYe_3UtR2-K.wIBFGVYC&lA1=gwSzU8DR1$TvoE>,F#u?jAI_1u%#wgo7PRCzg5CLiSrNBITVA4R>UM=x2hs@|B55cXh%^PN4nW9$=kJJDy-OJP47=O##aR_",
    "3a&~95:->:N^iJ.^Pq5%pr9M3!*gZ;n,!u&a?%4bWQ7t@Iy~G#t6@iE3.M?G]K_Ja|^j%Ye,K?3P!=Jh|kq89K4zR8SJ9M%t_HFj,$OdbDF&,-PQ@Yg1n;^dOlwd]/?f:)A[_5Oj-iYH25dd>^$>sP%4IO%s;8d;ilrP0(H&q_B#;D;|;NC5!y+g4a/w)FXV]74-oVKKy&k%K3_UMf#1(wE~y@vIW#mSL[n6f6n%9)I93*r7M+/y/|/Be(*&k(lFl/dZAhv1??%+)TQl&bg=B4zPvzw9)-6sZ4*,SLGWNFzZ1!gH;^g#,5bY.Lh[GJLNQ<OYkYySKhz-9T=rx$mj&D378wW=Bk+f%K1[x43$/#80QvBs<RKiGDQy#$vX@e2S:Au$o9f[oiQi3FX(yWVvF*A.vHT_wB43TSpSwnjh91knGetw+Mhx(Ae%~jj!IN+bEBs=PmUt2h$*-4Ep/J%,*=]ZqxV(Ook@T9T/f4,&,Em;_&ORFSk[Pm*CUpE%E&<oqOEo;^$+NH.,6>$6&PB%S?M0Li!*)[^Zcl]rlBb<-s+,oXaaxf!ICQ#aW@1fU-5qo6QSb(Hg)=W_M9Re,GW).<U4biuj+7t4]bUz4v9mY1!3FZ(.Rwg[(1IThZ]|Q;lCa/|/Cs|(TbA_-FBfS/;#.9C0L@C#H,(xLr;z)sa%?d!Z*8sF=<Zura][Av9C5iDVOpln[Rn4.1R^[jk;bidK9G;GKid[lh)&L/?>yQf[VB#zl5qBJ1E9upcS/$(2O8wqnlGVNrH1R#a>2#>j$d<qGVSsyE%3454kKvas?Z#bHF2K)kDT?7-OH05qH9kGV[!89h&N2qY!Ar?MW9js!L!#!)78nY/#l6@[XtMw^YAh@[3aZ]sh,4-xL1pom_o/RIO&A7aRh,3RRqs*kMO6Er6~xHs#-EvUS=MWQ-;KucUbZPG1x>*6Hz]tu4mR+vM1~IZ<1Q(8:bi)^O;>eq@=-7K4&E;rA.$)VD^jMl]8rv*j(PnNNEY-Q?U!!^9[Y$CUn.dOSHsi62$NQg6(<)%HBV6uRp4Ql%F>:!Jd(ZV!j:*U59LhC1[4~5;K_1THvUMZ!-#n)!UjiT?$w6Xb2Q7|M)bpq;vY59fdU)y$qHFS[f*6>PsQ;59ynSN7dqk]C247gQJiUq3jpUj66kP&(!(k9@TV2HeqoP==rmko6J&%98Zo]JQP|<S9-~;M%ms@gMU5gILvzIE#~bf]72(2!>1fxk!<kBF-X($^,%._01YeL6M|u:G+xnuTds6/SdXY^iI;YZkNd:N7QPh$IM#p+u-k@V+*|-au*p@%!4PcfOHE[DCRUw,?e+d2Mbc2#f*ux?cR6(=TJQ*jEM(2!8)t)GF4vaEa]K@juL=shLI=bj^3r&!?R[7$![S~l(Xee%mNsQ5q!&q8|_g<iI;;)=kHIzfgC.I%e)>67+j?v0+^kz6LMfDF&?$<701GL=a@!.cITQ#UV(E%EVQr:#u($>3w=^#lF)G%E6HyPe!k+prLAs4LVVn;/CUlL.EehGj5^>6&w%w$tT^5dMA-tUE1Q.mxu(6t<KJNe%C5Bt(|G#J$j$+7ooaptoRKXG.s&[_OuAKV(G&~APO,o_ZCG-29UG/$<?8Uy|KPq*GbZK*(-7c-f#P5fG8H?unVJ(z<jaR[DV#FtD4!kp#JGcv>c3.m*#&g_HU&~Pr3hiz)o0Jg-?Nn^?;#F.|KPCBR.!Um]$Rr4d[.&Kl<>Zw7P!,in83Y07v%^BH#SeEv0Z+ZJ]5_=i8h<h!vM]:Ab.$CPnZRu-Y@,%QgJ>-%*M%#Rv_tp&O,^QkH?gCWN4ut(BFpZ*G!KPj/H5(6_C&@[u)mQL!,sm-wFp(nK-~faCAzn/K+LJO/-ZX(k?!%l_Z-%:(!%+lX!GHkL4mIZ/RYiVB/_RJNMl3X,-zhA=i&F9yhHL8cL|g[iPDk3F,!1#xeXQ+I#h[jJhy@A;2PWiZG<o6#O6@1J(WJuV8a,5P0-N9PgH.v4#nW#?,3",
    "%Xa(0Qudg*>xa$K*xeJS2|4[JzjD<q;ll4XOGh1HarJ(Cm2r,QZamY+LN~A^AOMWqXaGcv(*&+7s5wf*itZ*w_YIX_n@RMA!9UM$8#+lO%||kP@Q;&^tJf1TK9a6!2]ldJradP=W4uTn5J@X<:VvWK&g>-x]HB.eoL?*$Efu)M*i_E=s-c^jHh>LM-pFLJlepLFz7NLQi:y4/._c3#sukVmxAS3#P(qG/5]J54v,KMmx>QVsyD,M;1qhE~Cbd34dqe3NH3=f/_7OREqwLWer6.SYY/GdyHk>f>!kqWxPGTg!&/CCn4$V@t$HQdK0XU;Wl!))[6JMZpdGzSHfld44!@kj-D=lYt/f[!52a($C)jNNS/#F-5I,<[Mv>/@bIku?D%B4/bsDI.htCLGLV=E[x@W[>!XnXGK)-TfV78_Sjq9z.@%Lsa1LKxf.3](C4%F<H9Bkx]Qq@_7sDUVFhhWA/gTZHEk$Uz?I,bEgnvR%0FsIl;cWU~MNyYHbxZrQaGi)3%l/Y(7SbMB/omE3FUT__7tV%;FgXol_iE~<GL0xx]TAonfOic.f2wAFeEXw?jyb(CNW1PhhAh!aP%|?$L[9%zg|2*lI)JN+CH7lPd~-Kng:FKW6t$>,HtNeX+Q^6d=nV^~E_bKA/qBYoXU~/x!yjyN++73~WQbEcBl!Tig%sJ>^O*(AaJW?aYhMdYjC(,R)O.:ed(#+Na2=l%-:t?LAnZuG*_x<J/y2pEOU9ciQMOLAAV;Ag_JUl,*YQ(~>,wa_j~:&d;SRFwJX%IcEJ65h-td%D4JzV*Mj,1)kCuvHK:B-AB,+M,PUyD>6APTp+1&Qo]q9MRh,Sbhj]+fIUiaT7c_CW;e50ft[ps/CG-f<<G$jhb=8_g.46a1*35>98Sz,LC$$Ll<T*quN+E6hd4poSR$(90I.J|fm+a_k:iXr_t!roYN?*6e[lB#=PcjS1dERhmhRqi~/h?#UJ!i4zn#s.P))EMl_jZ)wCB<z.=BeJ#R#x6iC&5&P$5+Jt/>Mn+)iE%q#cesmt#,KkSZA=Ba?mQC(cAyDF7)-hVk$-%dhU#r|]N*e1_n#Pue+1JKe+BCoe)&:;e*SOt+P7>x@i>0c@X]Rvl-A9b.@&n*W#[QH(y3UhW.JV_jm]i9NLbgbZm:p~SI4TAk^PWX4V(IyFcnENepG_JU[OdL/n!n#$aElfd)^]lA^k_*^W.ouX0=.g:7Bi-RU<vq$K*-Jb2oJg(=dgX.4RcMKX;!tcjdN<c;l<>>zM77f#6$ZPu+YoH-0n)SoDooA]qK!X]+oBX(U!)A6u,>)|7pg4I,iD?Eez#%tV>gRAeszk_p3;bNWBE!O*-Ge3@G+C31R2.AK>T_@.1yWJ+oRa~2bklAZg$C[]q>:^w/QI$b3o[$k@REr.X@3AClTT#]eU/jv*0*U-Q)^&8BKP<3IJ-rNv.&t,V6(+Dl_3#PXvHS;2d):j,vd3l]xkY$TfZ2#9:&n|X7bACzfG[jaq(M[3kN8i^h#K?BL]?X~()?>.nDZ12@Es7W<?/C(sazR58-x)oh8q9mJ(MZ-%<6DWE[u*T>f@Q>4D])kjNmZ[]_Kn5$eoT6.3o8^!-_R|~aqV:N9eh#?*O7IEOUE.5Jky4[NPUR/0Ozau<Fqcwjj>E6&q|[p<@BphgZYSg.CCTM<[s<LWTjzwd?.B#K[QTeB~d1>2R)6g]a3Ha*<gm/_n,5YHV)N!@@#eN.dCG:VgWd5<f:tq[U<VBL_^=-83n7r&~<WR::Cb93qolA$uc5N>*p1=h3xL!1!OYIap9<d6nhdbAe?%u0J$Loa*x;.G5.R-0h3D8_7(>M<G_6J@g48/^dc0f+Xi]X)A4hR]i9lx+bmdUb*GCm@#4ayfEv)W6y7sDa0%UpRuu$T.|f.sMDvN5Ewngr>,xTCPWC-)N,|7)fzSM*j!/t1JpwmQVOt!8e.d&QcM9wQ@)*5r2wAo0h=8;gBXEwr^Xfq|GhH:KhKIA$2GuNF%*l%uGxb",
    "lL.L^3q5k#4?,Hj.g-Uj.DXXLt=j,EL&*UR$9$;Rbb=;Kt0X5+:$DxJXD2RNqsg;@&]inu6#Qv/w_bF2B@=gh4aAp|uf<*7xXey_:EaeaY_P(Qbc)J(bS4Of#?;8:b;Gn,O|>U;-r:zebnB&Pzn9O/QpKweA6inA^(3s*RpX^A$q-*J>_@.(A4BzALuga-~!6+^LUUMT#yBP_m:[nSo)0:>q_hwl-bdPXjYT_6!x<Mv/,?RARAjp;]KGNogn_BTHy!A;HH0uNvu$x1G><XAPqE@]lZf#PQh%<iJU^#^Jse:_|;P5&Jphm?x)=QFpI*khFrOUO5Na35/QS=Hv!DZy+A=L9^yk7d*E2hD6?J$Z9[^LttMU>$*JEex<..eBxe_N7z^LnIkHa1_&X2dU_#hILs66Fr*v:Q-g~bTz,#-mEm4KV*[oi:^MDSPUgG@vNV~S5@/B0P/T1Eu5[rWmo>F+&-%WV.z(~W^rDbh-AJj35@,zEhHlx>6:!]M/#stTnFSdgQrA*$=e)heMHO-W<#?-%bbBfAX<dX9CiBRV5ZsD3#eC-^E-NyG,M~3Ojd3Y37B6!2/O>SG_PWB0X^#=#ewI@Iel?L!rq<y2xJ]ZVFS#(fi7GMEMd/lQ)D!QNI1Mu!1O&%++j>E2*omw6D?I=cA&#kf]OC~X1ja<,zgS]Yqv9?5nS5s@hCS|ZZq|]a-XHc!mI|eW~z9[hY.+^apZ3C-nqtu/B0Dr5CuQ0e~6$~IYue.11zY&YylFGXr6K:-hrv&,AO-c:Y$:d9WnrvFMoja$5.0EC5qeY2&i)@H8sXIRK#zy!PBeG(Q$9~6U*+%51oQ~l.o42&ys7#A/0t~,dO4%6at5J-q(OeaCYo-0$4n26HCe|&!62s%xV782=qj4=Q-9R.,yqF#P*&1&b1+=Lg7IY^No~~Bz.$pcI8f_Ro-D1$R],@#OyIAG(u*m,?|HrZ.v<q:0%auN)rHK@S~NU_M$0&Hs.f#L_X(p9rGAPe2R_M7YoEp#5^MOApO_o:@IYp[X;_|%kea^,Gt<|7*ciFRA<=2YYT#O*fbVA&vvE|#D7l&94zF*&i6m|0]k]>PJ@^CBR[>bM-9un/~p!%4xuRM%89j_1:P+vWQ/yGb!6*rRqS]M)H,|$T[tdDkqcC_a5V3ak.aVI/yXih3=h%|A~SXV;^bI/Bi1CwZ.cy%TLT|qI,UeqiMh7@4=/HYOG%/Y)CE5L#;uTZY;BdXFolYV0TFQa>U&ZJZG-YakPfQf!WKoOe!+~GGGh[v4uz??S<&eeXG_C6=*My*Tjnby+j+BORL!Kd:ycZX3E8KmPVup+-Yp)P5S*w^8C(!wfE@DS[YYH?^0$2zWDH0mho*0bLY_r<(V7))Wysu3YDcS|aDpQ;+#1k$Y2Uk(:BC.b.zJSC]J6#F1qrWi-D<cEct-u7&Y/8E6thWMVz]%p4NI<&^DDvT2yme.50N?.bv:]^9oUSuJC3x2aR?HoY)imxLF]-I5DQo5Blw,pM<]ky7ScKM$Z&Nf<h-b0ivsPr/o1/Sb@![T>!ttAJKOR,F2NzLjiXJjXnJwLYNB?$dm:+)+V|~?X)(8N6X:#f<GD!J:||X-ViHb#NW.)6-5u#~7,tXl>k()/5IqN,-#P$i++2KR%10o$ewv-#<=de/iluA?G*+2gCZjD)a/mNi$FNwt^M(zrHssmqj$5!PM/g)dMnQ4w5i$@EJHrfF%M1J+/WrAf>e8fva!4@IdfzWNUDSS_C2k?XOXgbRc-H$tdx|J1d!AGIS5H>!(@O3s6G]Qu83xg<fub5AG6Lf,P>;X,3Cvv#c/3LsijehoUBI(gX#dL&Sm9m5WD9w4(umacK2wvihCacCLlOo8[HiW-O>[W^h[[Q5Mj~cq>[J-CK;>k-X2bKk^syPs()N-#.u)_ok9y%wOk+J71h(v9I_uHL[-B=%N&UQH@S5z~;y4CMDpnx,0*]YNe/R+dd$BSELWiI9@xa7zOhwbYjj1ks%=)_#!1[__ZV<x",
    "0N5)OydCzj[Anq8<QV|p]<&fm_-1Er.PX/(K_w!oGA1/,wN57_pK9dNUW,dB]?lMCO7|,gghIQVeCWB~%7bm2u6!;8CMHp8sV#@!eEA;b^dj-k7G_n1jJ/DY|+l.pWf;~5ZjKIAX35JwK3wG8O9osVOJ%hjmgY-jF!H5!S.MQ_L&0G^EZ|Wdx@&zqsdY~tnez:T#jL,?dUM$2[d:kz*<rDAQ2]5Ig(xDFKX:P_LiLM+]5TT&X>fj;pQ?U.p@L8ac@mD?Z:6joP#Q4dqHAeWE<YsKaAweG@Pa@n95eRnTE0|~kO.A-D8+Y:I-rd7DikM62C&n<|,rf%N/uHC7+U_pFZap(]4W7_IJhrTpUY!c_Uk~poGoPcL.[fF3(K5SML]o2-_eQvM_bqAV@7ML=crjJcW+%40#e+^k<%;a7?A2:5LP(C-5nC-$$|OKASHN(Ph[dsh>Ab:,5dj[9gG<(f&#T7TKQ>0vTl7PSirh;fLLuo9,o2tp8LV;EEQjb^MGgPPe]+F/HoQYP$Qhw0k;yGF-n/$H^YfoPd799gYl:PO.v:[^>;r,<.-x96?~?xmBm85BZ7v/EQw#k363%&UgP&PAi@_y/B7WC]E%^M4l<C+VlOfb0#Ft9P=:wE@Q>##0VXxaxg[j4WAL@?41x7A3g[8Hw-(%gqE/bgxK14l_JO$ZJhk)S)7Pz&p1aMSeCS];D)^AT/XG;l%H$ADECPE?ZDdb>f,SXDfeHtnlMi&(KT.~@O,zeP[/M.-:St48r9=_ZWVuTaH<j==F-T4WIhT[b/(x7003@^Nq=?=_c7uyDM/?H6GEvO>mQa@,g]I2.e=.2dwj1dLMXKcTo)#V+RS[kV6DQty$;P5@L]ZtP3b>V.4?2Dk%S^OU5;~K.sY3b_@#HKh@-L4!g14_Un2a16$F,s|8j[K(G$tzNnLC|&0F_O?L5AWd,JAk<M3vU>_HHD@Vg=pCD=$2tADw7c47*kC<@e4O5fxG4.Ts!d2#FjW[6+oQgL&JogI;Dh6%V!6vCjG#9aBG_ULm|XEQGwt+XP+E-:-]K:Kv*8C[75YB;V&()B#SO9b|Y1CL<Fsi2EE4b7Xgm^a&EXhhOGhM%)E()_|z5^1;]feZ@Y&A:k~-hVNfRcZ@&D1Q+/xS<F@HbK5eJ53ewpfk!49LU-rEC@r7kT$UFw[aUlh|[>#[cQdJh=kqQoE.Rx<>$OV7<<G:xkIc$h(as,yj]7^Sh3ExmsjEEwCX;(<aN_W+x==n0KWW49RfjAnNGCriZAV/0_J2=)@(N4hJ#!#80V;UEZLIhY$>kW^PTYeH2I9?T?L#5n(?cnw9?>#dNIhW9oZLI>@S8(ud]UGws(3le*S7yyP[kc:a5@sgV(AW]]QD.KUYi74@6CXLx]OxOZNl]x^9sh2GTW;OaF0zwQ3$)lv)kL.o2wPQ,K;bb+1<$zgA5d)/0(I-K)1@1.]tDFCG(>aFl=>ay2BKaf:_DOf1./fL.:dCMa$S<lg*O[Z[p0+^8x?pyWo4uDY^ivf?%LX|N3XcC%pHT+#S6juNm@j85@3,J3K*nEJDy91]^eD^[qiQxP4l,S];,_%,[?i@%##)X&n|9]jJ_kZ5T*EC3ZR;%ePjXyQ]2AI5pMrE@G-2SKz9juX>/H5][e0u:|Ob#j;pKf,1=;gQ,|t.#8<H5?<R2I[>0+]h8$Qo)<<+vc5oh1E=JY[/i6qIHar!eZ[_(UL3q%Sc]6CWgt<nZjNLUcXnp$>lUr(Nad7!vf5xY>Jxbfp8l?,Ph9C]8k?z7Uh@b6?))|-vN)m+8(3iR3&F32(-?>/r3I[c#[=V]FP%@H6X.FC$fXL.!M-tr1>:_U/5gubY=(m^Cg~lOIK2M:7?1umo6Ikt^AH$@-T^W2u[mSF:=$%/FFufSHU;PYk]1D2I-<^l*^28I<D_4km!QE+5QBP@)h!XY@UPPmkfLI9nM)bQ+EaUb:Mr$e_^g(v|F~>QuD#G3v!6vUuL/AHf!z(T~>$:/#]2U8NW+Fox",
    "JzbVcjOa^q_Vw0Fcm7o+S_r,7G%1)S6%DwU#iHtHA2mUkjKWKf)jy-k%W*@JdAh=S_WoO)2kD^,1ceziT.|42IZ@KuDaYt(dHa~ICR6#[$?Uct*b&b_;(i*Req4RF2|h$zWMb_#Wj.Y26^-d@U78e|Kw]Y6CQJF?d@:Q$Ef0_:e2[VR3AO[4-^!L)A6k&ZJ4G6XY4Oq@6,@kJ5u*_k<<X|/KjSE8ght9oV5o?1K>S-%7=zOsMhf!MN;8!..rQ(!<0qN./?06%M%&#re1!qhR%:#C[n?F1?sf)pN.W_k-N8xs9~E6@_AvntUjlbZBLm;YOFB/VX8;*qC*0Yh+85Zzc$Mm>X%:Qu5v(Jr7:]<k<N!s9$M65v>=&BsQHt>HlJ%[:AxghQ^.LPv]cgt:$3$6[%Ywt)eq%k%gX!)1)0+6bf9!ubK$(j5giIr8,ak~Eblzk8)Kyu.iA6gk@qFpw!&oovG.R@@hL=P$!CQHObi9LE%Yj+b3uD/y#O+nlKN4CXl>~bf0NzgY=i,J=Tvi6pjuVf29@]@1^Z.Dv]e^N-N>lBmL-@]F=N;C$W<sR;8G@x:PS>kZ3CCtK2/,-KF7nHD!nMMl(sl([ja!x.AO/Nk5?[Eo7<Zff<#51v:;3|xH!KtgMLAf@3J6p_8>cEPI%Ri]C^O9Agw!q46KY~VI.Y#v7mKI6B~&H<0m^fiO>7*LAYJZ99Z!O|jW&$RVD3ka=Kf1M@G$j+G.nEzC[W]v)4+-;Emy@$^/e$TH%J_aT#SFUghIM?gENb3HXN5Y[8Z4a8nx$z@BZ68i16arW!z!q.DdURC!T[eP&.&r=254|VS8/@?L>7z[:?=GAF!>oewl#M*lrctBqS;P^yQYoE~X6)!ZPNVK9*m6jTi8mA^_/iY<+f?0kk.3V)8PX^V#S]2rxR;^/?bg8km|jZ@]u(^_C5jBj#@gWJXl)-pK@T;WHO$H7<CmVeQ1F1H&oHeAs)c&Z(Q4@Yw6[_LP?n9#B6j05~qxb;4w21Nma]LPbP@:VqHBYlc=R5yzJ<#5XO|22|]^3y<AXV:VLD$R%*-],)3mW2or6Z<f+~U@(B^M%shm</y5>g)UXT7]R9R!7_pVd%MHUPtB!1?Jcx(1Zn<z#EHro(-WSE,fVA99K^X<hwu@KRo@<6(y]ptUe^<m+>+eOAH>Ou[n>0Z7rHOYMveAc<*v1Hjd1NKlA)B%53kkE,h+TnJe#3Z%#@HsJ6[X~:l-.WiBhVfS0Zhh!CDoF;!KWC>[qhl&wfn^5H(xAL#_W)/AB)N24JEgHljV76=7_3j.I7k<rD2<.R.6Xbk@.2H8~o=Y/5Y5$wfuy9-k][9Kg[YCQv]FgG?(X+B?[F*.<gb6]G9lPN7CtI2.5j_bQm9U0O6Ea-,~$fSRQg*W[X6Kl$XIT:RwOAB]q.4%%8a8$ZVLZ4g=Mdujz$ffr5JT/ZM&<gtUe[~Q~p+z~9d_+J&-=vqK![,soVbx4#TE3~XM#66(!S3G;n:G!E]K@xoV/jx59ZmlDJh~r]XPpyk3TCIHW#3YpZInKe<hwpvGPE%R$k5XH2l>Q/!jFsD_ZJXCT%L@yUE@tz6$HEMK?)|f:l/.?8JKXqpI_:&qY1q*bMWmz/#+UF[S_s_EiUQ/YI2uW~c)@Qu0VLvWeKqP(5/-sz^bNs(Uw0DKd|KQpl8j=Dcn_$.XdnEvhT19DY<;ko0nCnN!RakXfnipEH~@/kG!WO9b#DU1(ABxYZ~IQeaNu_9LKAAFPQ[DX8-Tg0P(J|%)e~b2#hXe>At/LE++Glf;PJ(WeiLe5feY,$3WE.s_XwOO(@0TT!H%9Ql1K6x^ZjsTNl[-76i]qFO>LH~-+DZqBEJ$wewpMAcVPqO+HEo]ZYTd=0&C;U#Gn-eAVYZ)IaKhcND$(&Zk7,sB]M2aG:7,v<QfmMRgrv8]O3r0Oj59aKXIdDRbpJQ%l3xgS!0mmgEr554U!1%.b>ya5h4@&(VwL2<6nx|],JhF(%7wSR~@:b(s~(N1",
    "8WP8@?w]C^qrA#^R]ssO<^/LT_jwHa7RI]Jx~H8-|WIT65Tz%K^@-pVTcwz([)ES?K<;M>u9r?)?;X7V=V@S^zDHkG<Zt:%lxA((|u+h7c9cAQ8fV;SaoKQP]53l_/:q-;^T4@^1![Q$Y^BM?]pi_&0^2e)w,*SD;6dCMB/NK[6jT|j.~zJd]kYh^&,D:UOCt2$aG@pIf@gf:xG]SMm,$,+@N:hXDSOHYx)_vfz^ZD*:AOP4K(>-Gxw5BT.:NQG3BR+6;l>q8t9,yV>gA|QWA.qB6LeF!id1MWB|G:.VM:uD%&;NT%^z.8:R)^A:?P<c%S@W_u3z0Jl@tF69ID-9UXNl!A>/ZP=dlN68pYA5%Rcs[=Y|XWB8ev+yHp%bl9.]lL6+T8mppzVIQ7O+2eaSZ!tjD/UizdN=RPygLpj*Pr!1aMvLpxHPTN0[X,;tQ%Ms([AZm2fLbL4]p|&$RO0%Qf/G^4S;v^NMQep^WB=s/3S=<sGMOOb<v+0r;^->7)>w-x;L3Ol;).Ww__9/N)$3CcgA]:F#&B>>-TT,e?kOY=e$|tec?G>AWs=T|!O_!F)/y~Y<ye%B6@Sn88OHJze-so|Le8:!U-0(da6M6J2op5|8.ddQ&+foNJ&,wWC]%)%7@/A);LU<HM)Al=_+V4CbK/2mXfQQ[=qEf?LL@Fn6I<|*YR[3^1XQdn=:Ofb*9B&,k>SSA$<UG._=Xt7NgX5*0?[<21uGe:@z|BS3@tfZ7TC7&*+L)/VbBr#H|wj0*lC.P6Bu<(-:xJJ;=lBoai4Ml;3C<t.g.gf&7RC2^@e@T?~:Rv$bni=b0pBMUfamN-!xfsXfp_qG~aI5P%Bmz&V4m#0(xmeXjC*$Nk[ZC<X0]vEeQ<$S$7RRBq|T*_C_>!Ct~[u)+G%<ZmW&_@<U_+LugHT==tgyd&uyCJapk9/U[Z$gI]M*<CmE@Z1n1H1_Qmz@XGurc1,zn4EI9w,?SD(,jEfdgXB!@$q7&+]En=[iheR7O$d^EhdCvPLPb|WEmUTFLQt8H$=DXhHDzxP9F/vK%Wxn<2D/t6eF1wYDm]sj6DIt:hc.A!f[As~0N+feT<1Gd?s>XO&/l34%,VuBNlsM]W6#+WB<z6bJ-W:s;$ptf]A77oU;3Xa4T/8ebTvq3_ow2~!nluwFlZ,x-N@(PCH+9,(8xL)#_A&2-YcXxc,Jyu+t?gL(/3+[X,9F9)WilL*cf/<,J+_C9V~+)M35dx@[i0?afNcC79?vj7lu2p^:3,5,^j$j5>(>Zb(>ko7C~^:G1/igf1D;1_SaQRgP+#$k++S#$5#%/]*z.3#bdM!%)<)UG+Z;k$v2k^Y=KO*JVq&g>,#zk6]W-8XaddDfX*cD*E,6_g^(<R&UC>.JR^70>Q2g);MMdz.qcQqG]c=4%qfxWZOWOT*hYxuL^#7N[QGVjFg~bvjGkn?c+y7KeqsKxcs;.#hlCSgYAw3QjK]bxDl9c|GNZ,.3C4.dTPW1k4Nc!R>IC[;*N%X9=>tR9W;51ulQ))5#+ruCbnY_S%+xQU3RBbBcb)s8%,r)r&-g[D22R9zh1=;LXup1Ih4@Sq@zG~whFVN?e=TvQDgF*_Ji@8.YYnFVhH9LiQNvLj5dcM|gLx&H<4wvv+OEs5,aV@T^bPmW:2rHhbHNl8?.fe#->.bWNp?Ck8IEdciY[@hE8K--DBIZG+9]LrG*hE;A|$gogmYuZdOKD.f?Mo2WVZd|36f<t%SIwOanVVQNjseuJ.@<7i;h#OiD1swH=Y,nPXAM42;SPF]qjKJ6HS&K3_OpJk9@S~+,F<h$J3dLZ@:;[N@g)|dbDINj(Y**Ss)%#5>i>0a~T$s?z;N=<Ui5_0gbI[?DG8q;s6Bnh&hE=A19QP)-KBv;o8^|F+v5jk!)01c&xRq%PQ(SR10IvSj=i.aW(_ogCECm&oW8$>hOSHN%D~S]R^Wtgc;Lq%A:^-D);YNSJ>^:J^j~~,4~<FQza?rVi%pjAWT_G@M6(.+B",
    "bdkN?s+m67EB?,$y?|:S6U%^M<Ocixetx$D^kN*.cD7k151P(wM9^#OJ_Vc>~ZSGZ|x$QkXXjG&BMpj0HaF&U4SvcDFh_,~U~&[S_?FFu)12+n,S::>1@gGFKs-et;[kVZ1~,G=:]jWN9u)8D&;F]s%~KZan#ff*[[a$(>500JiEf!<:~R_FA$ZbW/x_V|v1i9y2YrV?Kzv0A*,QW,0JJ1QDWw1#ehp6VyAG9^MA[Mt;mS5<F[n5yz.W2<(1d[[8*jZ5*H33#$X-8VY3?AGW[!C,nc?7FTzlgs~41]Arzy8.oK@S=<h>?|V4.SsQX0j7PQzKgC_/SFG%V3|>7#j(+69S7B@y.uI@f+C@9ZE($l)RZwQ1JhRNsWnE5-3hhE@XGa[~c,3E2K3!j>[AQ?%5PF%?DHdRD76k5k_$Rp0joN~X46LQT(f9zsg(!LkGFyJeGAAOc698(3JJ&3FDind-J@:@&c$&.J%RQPwFfnv^hL-?B9TMxO88=K(PeqD~Oq~QK>a--e^k:v>eFlf^ac.G=$:*W$98a68RF7UCgN6[M:w5U*gkGMANFEPxfV_ag^E3>$4x:nVejsV5Ev7il-++.>7#:MHWb.+?H;lX[!i]Gk#Itqx/3fKxKU>MIOC[gz7PfTEQXP3LPDB$p)zD^yGzU4fbDw;[:T*/4!AOOIFRGggdzn6>9!6dI$FZ*LI_B<N?;Ub83(<QSW.*C))xeJAZ:ohV8/4Q@D!%>1(Z-DR=cl8cO(U2>#9=te3|Lu>A/VzLJcEUy95n8R3@88E^>Xg]VZyB#dYxjYU%5M30=j/1GS8oCCY&:j:(QqrA50JR7N_Ia,HlleE>4/yR_ck0j=(MS$yKSHMufM97BANq:/O8#]CXm|8xK*|Fbc!e53O+@IW,8>%41VMW7|A]G!j#|;ZzZZbycniA:A^aLCIv=EG7mme~z6A.RwiJe=WBdJ3KC[a5D^Q!j%&y$gX?D_BiZO4~K|S]tp7wL]h<r:o-@0hdEyo*ZjlnHQU|(f9Nlt)F$]b7+SnpV*WP09s_/&hj5>PDbzPvK>H8!5YL(2%NQS&-=@+y),h02=HpBhOh2k38m(za6:VYh:ee7<_wv_MMCh?K[HI03/ZwJ1*$VM7$2t;!LdXI8+Ock)eg>TNGS,<)1]vN6M6=1F_:G*]P(M:f&.X(43_3;n+O)-vf)O,3AkQ76[G-@?--nAMJhPWi<3S41j9&#WPy]qxPW[,)e*XE8HTwMF/HKL5RN6#.60H6xHV!*URL.o8C@Ir=?)A,yI(p&FTXQX6OTCg?;5aVIST0R~V+/DS=-G5u==qnNDRNhiQKj>)%PdXYMSOeM0h/3-5uh<&1cz9;8AfL|.e;>%eEiA7L8qZ[k?<|yZcP^fMi(KiIYy>1i4~NfJaya(l6rV[6a38,(0=~M.k3XwG:F_T89CY4Ge((wH:s$6[y6x&FMW.yQF0D15Ulnxa)<wraR_*K[lVH(;6>rv3X4!d+DcB>_GMMZ+SP&m&=k%W&+hxQZ4Tk0(ZzL19qr63I@m.7_F*Y)ftIx9gc9%:U84:BS$gXc%_d[l9g!5?5bwr/bW/w2J6M|C2Zy5^DNK^4(_f9(-avik.CM!Bg+|CW2#MBI,|lBl%qdA|atc$-Yt3&,JAhKq?T5=nSe2o9O!;4%_btx:U-u8T=.IzP^VaKn]u!?iF<<+h/xb(QHph<E:gMry&wlaJ[fzUEI8KwOUkq0vGJ/*_,@1_MXn4=s?o$y6O*PJjP%~=**-W2k/UZGcU^TKS[mx2J3DOe5Q.t6?.PqG9DN7|T8*l=e)uUUUPvdY#^~rA(edq#yf^aPBT#59^W1_Q$gt.64R.RwRE72qbXGP67O1>4HW@pTd7Hr9R%PayxM[4_m:!$rhiw$3/4&tKFCdUaIRDF5g[*6QX7th+~byaqHGRq:D%h4@jHaxb.X/%^1,eY$II7uxVbN_Z1M&Mf_^Dn]p7qXyg>QH^fg|CGXa7VK]=]63ZFRQQI*l%WS:J%",
    "[m[ttTF^0NAQ+71>sfl|q;Kvc4@j-r1_Ysfl2E8vV-+ewYhX,:B(j1^B+lM+=%N?&lXO>a$l(OB!4#:8mOCmm2%@^A7WS-i^o)H-s]Q<k|(0C9/g9EZpB-D0PN$g<v6j=PkB.PwkMkG>ZI1-BgF(F;L3^VwJ82@|JK0^v=.*0|)-7$tsWA>l7Z#N]Bw-Nyg:LjruokA~YM<m%j]4qGL+,4Lb7R>QixC9UBMgHxF1#EyqO0+idz$R&1*IN**K&a(K3%a$H,NFAO]VWxD0jv3<)[0Q-2::pI)&uzynWAa0wb>3i*hBP~_Oo~XuXer[:jiBPQ0>h#g^8klED0b9sX>t!Y5](/w%Fb#CH8iQ4fnHQ#*c-,h.@i62&+]8S9E$x8#Qte>UdL8^7A;cxb96?]8T.Q??F$G%eQtH$R=?>u9KE-p?8+WK[H5(B-!~)DK/JF4S8JPUVuEpehJlA5^GBZ[*0(^>Nh.x@!ho:RHQy&#$n)Kq]?n,gei]Up,dOT-]m:NJ/[$eukDHQEe$?Y<<Axa$dp~lWB^e3$78b;).G.*r;L?_$*D4p8]y|v%Jc+n$gge$*V]*LaLonPXgVNu#8vl;2KT,w71sNk9]s[IkkYW8E/pt9aH~$m0IM?&@P-;:a.aF/-/0Gd!)%k>X2s^H*F;tp&!9!28]LU]*Xbc7aHu|5sE~3&MV^(LZcPd%B!R|D_jZB[WXcO/RceKiEh43p30UoZ:kdt]>+J%q<j,mavEId@_H0c&f7H0j/G&hU/d8Dax%G3gmK&l^|BgS;2<3b+OlL-c@;(2(*bsr2e/qQ2@%r=,%][>oedP[0ka5Jc@@3t#)V^jbq5*>Dy%KbEVM$;?1(UOMC(]kcE&hYg26C4PiXWcl+%.$l|03g1Qc+8?QlDwwC$[g9P&8-0(9Jdu%X+t&A(k>w9/d*Pr+X?@tl<j!:+f?7HQ|tLt6UquJ%^nToVYka=j!C!n$h#.Z>_[Ks+sgD@<peHI6t%1Q00O:~,V_~v&&^AV?mraAB4KDbav9l*a;5gCM6#o2!SzBrR(w%sAI7Ef3M~tQFv^:p&@nHK)W.KLCikDs-7x@mZ?[V3?0ST_IX]Lw+@A1[XKli,W(wj,DTRSe#Zxz@Bs78KAi8~b,YTMr/v7t^)Hg?/=syr<H~t?>#[IMslBMDgEv45Q#0*uLV~FLI9d=f#hCy24f,I??AXeA4[!fGmb9k.9X!)2./9>Di97+[-_07WQ,[]H+ML[e,Y8d4&-|<-[D|nzS9$u(e(]Q3YUOmhX$G&5qVZTh!]|+Xa6~qJ7&nV4eZQd/+5UsUL7H_NDS/[P<kHMk,+|&hl>ll#5-DT,A,<;fZZd0eIPdBcc?SPLFWM5@vXVWlRW(>(!WA@YSaxWVw,x_r.j)F<B#-1D+l*:I2BMBcu)Og_G;6ZHdky4%w!GR5k4MWAVd&M&CUet;i&eS_g_^mIEjt5[OV0lU]0>7Ikee&H@l5%-blBEV:XaBwE=X0<J2z)HS&iKHoUcE[^>dUpVR2=*w.BAX#g4iz*B%*iqESvMq2BCd1,=T+0jdtuuX[7TDRF3+B1D;]<H-IMQhk8s[9DNj5iF:ee"]

/-- Reads the listed names from their endings; `rev` is the ending being read, reversed, and
`last` the name before. -/
def readNames (shares : ByteArray) : List UInt8 → List Char → List Char → Array String →
    Array String
  | [], _, _, names => names
  | b :: bs, rev, last, names =>
    if b = 10 then
      let name := last.take ((shares[names.size]?).getD 0).toNat ++ rev.reverse
      readNames shares bs [] name (names.push (String.ofList name))
    else
      match nameWords.getD b.toNat "" with
      | "" => readNames shares bs (Char.ofNat b.toNat :: rev) last names
      | word => readNames shares bs (word.toList.reverse ++ rev) last names

/-- The runs of code points with listed names: the first code point and the length of each,
both in hexadecimal. -/
def namedRuns : List (Nat × Nat) :=
  accumulateRuns (hexPairs <| unpackText <| String.join [
    "F(iWUdRY&?7hq^bAGftslYJ_D$aWzU@tg>^6^Xv0[ldYk+dluB%gIE^(|bt^XAwgW<xI8W%=,;E*)x2P8Ihe_U?upvVG^VP!kDok%,VUYTy1Q4(kCum3m-y0!JiIw$~f49_Q$!05Ab_L+_4($A0[-O>.EV!Yo3b?(ki7[d-mdyj?)ei)z+YU_&NtQ@u!kBf!nYlUQrIOGgyZu(_As!7>W*GZ0T:)R9(EZPAPMO6Xm?1)T!Ai,Rx1j@vpNi>4]Ajhm?+sN3RIgM)4CCSh?u,e0Liv@=T9q0Z0@MH->]u:;t-((Z!9X1#JI3!lMOU*3r/,PcOal9DfcyKCN<P_i3#F7+*L,A4(sLd>|VBJSXa/Vyt~wk;X>fS#Hyo$h@p1[xFMzk6wOa2T7B!jnh8JO74VM+=to;2_IwkJyZsDbFdJ>$AF2^f=GPKbD6JGbc01;$I5aac5cif?7Jy[Wz56N;ua1/BG%pK@Ib9%.(C%.LRuHp2?m(AI(|x$j[xtOXVm[[GGi%.OG!xd]ngR58ZHyM*@1b>Eg=;NRuq7a-&VMU#_K[QhF(#iO32wMY1jD[RCG.u_3JD:IkuV<3]$9^So]%T/+/o]=OIg3@ot!<NB;?M?Vz0,W$Jc);G9!YQxN5fiYXEM8f+bsiS#R6OtomOHtRJ$&-x^X3+aAXZT[#q;:LIe9>xew+pJnu*6:VD/NL^Z1!BZ^W8IGy%K7!*SvSsi6qD_mJ@<Y_UX?0G5/zyDEpwdxImDce9*L9O)yA1?(fsGd9]%RwVL(TSip+2dR4~~Q]wn4wE0]y[(]?Ca=jX]INekgkcy=uXQv2HrI(Ydie8YFhM9i3t4&c_zKvwDYJmheu5Z$T#/jiQK@<f-=#[%dSQ4#T?#]P~YdhKoC9J4)/8egPM./In4-i,,d*IG.[B^cs1i>lKCDDC[t>SLQcUF?m9E@|I=>_JLi8i*,EH2&c(88f7y.qbUGX7IlcCwFM7%vI8ZgsJ>S)bX9i?J!|m@#-1LAd83x4-I%f3ZD:/>i)fV-,|uc7gV8]F!mK<8Tn^M)4tCw$d.7g1To_S+Y[Sfc17c;6_qB7Nh;XI-qOmJZZB@5f:f2Agcr/3,qMn[^LYQL0GS37cnF-hZpmYb0.4&r(N^Ef5QkWj)ul;&(eUA:U:7A)0]LQ?+8:()4xy/+5b(o-Yj1WD:G6U7!eOgg68N,_@saF]:6k|e83((w=~Odf;Y8<PEpQOK(i)o_=H<aiN4=CqDpJK__6!#c4*1,6LAr-aX||stWp-A&^]i6B73#wc<2Aam^)I(/[F!f@(=S.X%GnV4W&2]~3to.Lk<Vg$Z]O@wcpWPiBzx>NE[al$R#sF&kuJ-]P^?DZPmJ*$G<w+g+MWS9(k=3QS<VC0MKvTkZPLN<Z-?@))0$DJLr+DH[=!go-br7*DrtSw7tM#N/f/1%j^=73iz9&f]DX0E<K+A4Pch-(?(RB^g[L*e*?<.ZhLH:/4t3mQD@1EkCkQY[71V/b8]?s,TBw=tf0r9T?oEj4:N#FI/%O<fLFI#K"]) 0

/-- The listed names, in the order of their code points. -/
def listedNames : Array String := readNames nameShares nameEndings.toList [] [] #[]

/-- The position of a code point among those with listed names, counting `before` names for the
runs already passed. -/
def namedPositionIn (n : Nat) : List (Nat × Nat) → Nat → Option Nat
  | [], _ => none
  | (s, k) :: rest, before =>
    if n < s then none
    else if n < s + k then some (before + (n - s))
    else namedPositionIn n rest (before + k)

/-- The code point at a position among those with listed names, `before` names lying in the
runs already passed. -/
def namedCodeIn (i : Nat) : List (Nat × Nat) → Nat → Option Nat
  | [], _ => none
  | (s, k) :: rest, before =>
    if i < before + k then some (s + (i - before)) else namedCodeIn i rest (before + k)

/-- The families named by a prefix and the code point in hexadecimal, with their ranges. -/
def numberedFamilies : List (String × List (Nat × Nat)) := [
  ("CJK UNIFIED IDEOGRAPH-", [(0x3400, 0x4DBF), (0x4E00, 0x9FFF), (0x20000, 0x2A6DF), (0x2A700, 0x2B738), (0x2B740, 0x2B81D), (0x2B820, 0x2CEA1), (0x2CEB0, 0x2EBE0), (0x30000, 0x3134A)]),
  ("CJK COMPATIBILITY IDEOGRAPH-", [(0xF900, 0xFA6D), (0xFA70, 0xFAD9), (0x2F800, 0x2FA1D)]),
  ("KHITAN SMALL SCRIPT CHARACTER-", [(0x18B00, 0x18CD5)]),
  ("NUSHU CHARACTER-", [(0x1B170, 0x1B2FB)])]

/-- The prefix of the unified ideographs' names. -/
def unifiedPrefix : String := "CJK UNIFIED IDEOGRAPH-"

/-- The prefix of the family a code point belongs to, if any. -/
def familyPrefix? (n : Nat) : Option String :=
  (numberedFamilies.find? fun (_, ranges) => ranges.any fun (lo, hi) => lo ≤ n ∧ n ≤ hi).map
    (·.1)

/-- The first Hangul syllable. -/
def hangulBase : Nat := 0xAC00

/-- The count of Hangul syllables: 19 leading consonants, 21 vowels and 28 trailing parts,
the first of them none. -/
def hangulCount : Nat := 11172

/-- The short names of the leading consonants. -/
def hangulLeads : List String :=
  ["G", "GG", "N", "D", "DD", "R", "M", "B", "BB", "S", "SS", "", "J", "JJ", "C", "K", "T", "P",
   "H"]

/-- The short names of the vowels. -/
def hangulVowels : List String :=
  ["A", "AE", "YA", "YAE", "EO", "E", "YEO", "YE", "O", "WA", "WAE", "OE", "YO", "U", "WEO",
   "WE", "WI", "YU", "EU", "YI", "I"]

/-- The short names of the trailing consonants, the first for none. -/
def hangulTrails : List String :=
  ["", "G", "GG", "GS", "N", "NJ", "NH", "D", "L", "LG", "LM", "LB", "LS", "LT", "LP", "LH", "M",
   "B", "BS", "S", "SS", "NG", "J", "C", "K", "T", "P", "H"]

/-- The name of the Hangul syllable at an offset from `hangulBase`. -/
def hangulName (s : Nat) : String :=
  "HANGUL SYLLABLE " ++ hangulLeads.getD (s / 588) "" ++ hangulVowels.getD (s % 588 / 28) "" ++
    hangulTrails.getD (s % 28) ""

/-- The name of a code point, or `none` for one without a name. -/
def characterName? (n : Nat) : Option String :=
  if hangulBase ≤ n ∧ n < hangulBase + hangulCount then some (hangulName (n - hangulBase))
  else match familyPrefix? n with
    | some pre => some (pre ++ upperHex n)
    | none => (namedPositionIn n namedRuns 0).bind fun i => listedNames[i]?

/-- The formal aliases and the named sequences, with the code points they stand for; each entry
is a name, a colon and the code points, and semicolons separate the entries. -/
def aliasText : String :=
  unpackText <| String.join [
    "Q&Gl5S$G3)B4Pa+i(!P7dK#A69you!L<D?B)ZBJ_8H~C=FbvknE(>Z;5=ZoK9C;_30DYK!c<,mXOy]#u]^zdN;:p+vTv.1h+|0D,-.l.r@_w6pdPB@tVA5d+>_mu&KrY)^B[5$.^pUx8]YaN#P2a&sa]L?JdUX%+RsoDQ5)NMAYop5D%qsywiQw64*1|@>HVVed8e&*cWGx)&8gXZZI761|2N[E3e.$5U)Y_No:qN=3E9Vj1_Ob/e6~K!P%Nw?m/c.VR5TxHAe57DWL?4..A#sRM%:TiJ5dDl1]L*c8B9WYjCE|hDKZ%[W:ueA;K^,=9f-yT@.6Qp#Hk.,(jW.8X(6$s=1.S#:YQdp+;/2h>>|A.]MieSNG/vv_*H:,RP5#A?_/mAE#d*M@jR4T5#nhd@4_dm|M%@(.U:#&<DAvg8UIDAo7OMDxZWSG+4f1mRRYxA?_RRlQ*rbFwIF+8xdH@^OZYTC;^M2_d.U8$XSNJ2wKiPfs(V5hr),>i#,q(Fo.6?^~>N6rvNk^eK1Q/qX91V)E%kuvv4n*rCLN]*l/%zo;,(K9e0N-$@D%,aL8TJ3-+Bu!<8WQ#$_8To?^G|!cdlbQUJ#4Ya(.r2l[w-n|%.)3mM~j5!ddy,2?6(Re[NZ3O4m>;taNnvGk[it];qs]$<M,Jp(V<?2OQmM!]lHBUe9aWAWGB9y7aS>ES/^Qze?e-xD%XjKEX=N/Vdpy+#!0,uHa;2eJsyOIP#-Gv&:[r0e=Nia8=J4UZ7l7M,c@~5GptErVc~)QUb.%Z^j19;JHr/&lT?455D?=Y4SpYMhBfVCRyWx].+4/7L_;YhNj/#F1b^~01v6imahv#=FZU.(5o-C+!HnZ-%eBQ-T<(Of#nc)B$Rb^[W9ddg3-8HQZ=j,z_OtB*?Kqr(A49ur_hQ%H!4makfC!6:gSee=1Hbr=RjhUo443VFa#:4/ZpRQ5fg%v$5-b1AW.lr#X4LIn]>jr.cr0bj&C2<NZ8r>:h$_T9#)gJ>jg=-jev&1m@#YAf2s&n1$h?YFVS!E~f%J]!U6]s>RkY~&G^*KR.DY+y)71D^M2kV>P-h7_-J+EMJhj|#L!WVK+kjkY7)%hyk#m%=<ZkpI=ikGm>0.m*+;(RShCh|.8R%.v<UlZLN,~lI>2RY_FXi,!XGCf~g;fl33LIvRO,1&33/wbB%=2j]j/gj%2^@$?IegUOgf#<-%bG@QdI)[wE(hbYJ:6wS-LcO.FQbUmV=.Od-]-!?$O@*&OEeOpd=Pf/3(q9k=YFPW&u_O9&:stAOt6YXLTn%uhCh|.8R%.v<UlZLN,|gJ#dL#Q0v*AG#ZD#9,Mo/6Z@>f6/DU+YM)bGOcR0S5g%aAZ<F/=fV6<w][y?_TB)RUM3yr]#0yoT9Pm;KAViPpGd8H;;Q5x_Z_JJ12bxjTx_StECQRxolPk/^XJXA70,3~j?/i1&k7%5#/;rIE+D:?(.-q:J[X1wd6;euL6DQuBub%cggA!*+jSFIXH)EBq@At89^-q^~U>@T&1<wub8fmKkbgY<i/VF$[HI]jUc#&v[Q=$>eB#B5/68kZ59/Ou/VVBlV<*]ZcQAuY@BB2ZTr>!m&.GW5LdSI:,O]ByC9@BFQfA@n$rh(R3X]?ct3C,uy:^?&Sd,KzY7<c>2(NMMOZLj!w?7=8R/$%6Kz#S,9Q&8eL?4qk?>FkpmRT*p:|*4oe9G0o[ePe&MnCCLIcOXRlxI>d34,=kE:)j+KdMXxj,/8ZbfAqB#fjnq_+(o,^[^cjgnIu.2m2_RExdCX4vC2[MH-,Dyn1~qFAWAZd1WF7*$Lt-4SFse*Fitowq:Xb*;)Q%cPNd87m2:(w3F_;;f;6=KS3NU$P)ys[?B(fz^i9z<l7$TL]^aD4nFrO4l=znFp>WGBS:O]y|95sS|0SF,^7UkX$^L0)7@[|XD5x&(i9,*Gw>hxDKg!O33X<$9mkyW]:=WOT?(o:Os>Uq8MEu|e%e|JLn%w&@m)1CCR,,Xq-d[<-fa",
    "kZvDc2<H7hH&^%1V+w2J~%vQ6|%[F3tRwmF#hn@fd*Z:k$lyQGMUYV9aQx=[SDveB[v%jiCSo,EpjdpYR7FVFiDm7K[Er%$.]vO(8$#lPLO<[biL$qL)3N9FuXw;R8h*>KRxsEjVoQaJ=nNt2rdf+X4I%LJz^YU*9;ucEEq=RkVW|!.)^SrX9TYw-kpg5MH8ROfYlvNW9c1EV=6:>T|IK.5fFkg/+,UdGX^giPt*0-cZ?>iio^n+,,;qTEkAyhF%9qT[u^bFaOe7J;yKtc/=[cb9eY-+Wg$|?H[SZm+XBz%Xpa,&JMmzd-/Gb=R0VTb65RSJ3Z1(X[4?rT-j10~.A$q=?5SQK2bBqJ2gVDljC1ScUT^At>nw:r]f/g9;A~$?e32&0Kd~Vt^4A)4VKETEXmKjN9.n[OI%L=:CM<h~3MN8bI-=17TeP%*+)<.%2D*m=*^5;eadidL,K-$?Uny=>Er-BWT1V65iY_hU$LP=CR)CbaI31(*Wb4nNe?8@w!pywzFWU1]?lZzaFJ:]J$#bqeKfkP?<iER/]2;-&JM02Ahg;GP[/no4il).27$+~Jja;a_XfVs|@F>!!0q*c_I6r/#%ShJ),)8=xF0U!f1jq9MbJ]=&c*r<#RWh7OGox~A^[L_3&!+,5/t$Bwf3R&^%_-#Pc(|c&-T*0AL1avDiSO99DXDc)&x|vyBd(:FQog%:JVW;p_dFwVVYH?#c|+ca;;r4[,JWCg9:)-Xft0,f3c?MuSno.^(|uvZcQ]aO$(*7V?E1|B=+g0Hg1hnC,7>o)LiBZ|f[p6j,Or-CN~Ab>3FEPl^a:xjZ9|X3Dg6pS5eFSl3>@qbTTw.V.ue?FEu![S<IOc]k<I-dBgN#hBmA>^fk(ab]T5/;W-,MGK6]*#Hwy...df&hQw(_^!X00>0Z!=GkREO4$~(A8%gGNd+,be@UK0tX-PK5K-)X,2N]7Jaa)~NOUU(%K,J<DeLvIhu6r6>BMlv?z<6HLsh5X:G+gXS,2[2z8YsH;Jh6kuxN0J/rG%/>M1tiEd7b6T;c5J_n]<Nw.FjS&q^mPi,_N|f1iPD6<Q_$pchg=~qhSoA|@,=x]WJhMT=(,(u[|7TzPc]o@j0(FDC<S<T:)!n6#O/gTgPGlv;;uZJQ:H;Z*B]h;&x+kCcXLwgSP2An0=D/;U5nlV7/%(vAz~;)j^![C%byb1K<jTK2x^5YH74_t9^aCafLbie0zs_y)4dD3W,YP>DAf(WRg:7b&qVAlZY4H[CFiD3d+lYk],,Dhec]Jo_nW!gjYa;OEG$EZQ@Kj];z((ZK~esiXHj_FaikOo9rG(9,<0.$Z,pZ?:e=*7[?w<2J.hr@^jTNB_|WH@?.);h]af8+&zgUU$%k#gkdt@N#K^h622E!o[VHxXBZxsV1X.Q*5#s=R3l~vxhri$F@Xkj:gvim:+O+vlRR>;p?]whAT$<Lb6F]#BFj%Y<%tzy%O,=Rj@M!YzA+k(P&v/58?);~,CgxG*GR#6H#r.nJA3.(=dc*nK%KW!:aLg|7!O^u$0rhsWhYu/4.eKZJU&grmSVmrB_Fc,4TDCurJ:a(7,eILvifs8%[.O1@-2M2GiQes1@m7raOW@c~_0R#sDv#Zol01mdFQCN?6OCf=4[=yk:Hixj3?q!zLv6[vMG9$=E|V7o1)rjU4/XM-]4P$i$70o?(^FiBdx&](5nH_~RENHYKg/[PLVpGO7X*H12jvnv3E=!F(bC!^:^prh=+U|4k~|!LBzPE(3f)UF1ue3LJL(kn.]ctB&]|MV:yg~.LV;[/Hoei3SzLZ5Q*urOJPh?ncUANzSne/MA]i?N8A._YHSE#fRA9k1PYqLs3?$dz/k=;];sr?N2b0wUl@G5(<MVA20&t;jgPNZLW<B-8a,ej.aXmdHZq;Ov^en+XZ>w/F6SpxZbgRKQjjdV+)]zAO/u$NhXGtFvDnj9=DM&a*A-)m5*WBl-:>@@~,>z!)R[l(%iz1^(fkQ:3QYpbHb(yemU-",
    "K8$IA.8q1F%.QTI)uFD3b]R22f^9AETOp]PV:S@Zdjd&|<b&6u-k.hLt5jN<#eq5FKt3_b=^MF2jp?B+7zb2O[$+Moh~p=Qrss)W?MZXPQE2Fo9:dFI-jbW,x2gUdtXY1>3QM)y_-XQ/(bgJlnq]f:|31gcX@DI%+=x[RkY^kq00VCXF[z@n?Ob?Y;Rzc|-|~%Wbz83%IE9S%m&TPM;79.?lSU*E:%ECVb7WJ6gI4bI^S>@UTp5K1#7h.)qacK([^$6ny%)<+R~/R^!O,*E:+G<O0PnLk@0|ZGf)s;lOg@49b!E1w8]z<=;/iYur?dW3fq1do^^fb/LgDT3Op0?S?CcZpK@N^e2cr,v>yTS?Og%]=%IvN)RlAhZ/E?3iwvbGfP)xiff%GULji-<MxLg@UT~V+nE(1*KgLjO83Z_]MASYesjD-<0FabB72a4RP,%/U1F#S:yOtE_H#qi9zhs/W3[fj7vfz5/vEY=]TRn|-?wjkh7JMf73c(%_iMa8:%!8z(1JnvRP*c!QhmOXQxZ(?PRo.d7zY6X*jBe6S0@k8<G:K0(fyUN^wbY+Ud3f>bKf%-0e/YsjSYJV@UTrEEq6f9-?wYs344.4S)@~OU1F#S:yOtE_H#qi^j%[4*(~&Q>cc~k^]iOrP~Rxw4/sQhNd?&r3L6>>(uJ&|ex>F~,]Ay:j+q#9^i[]AOjT8JVuOCUh.Qszez~G~Y3h~w/(vAR<a)nF6hoq8KfF<183BtMWG*|9Aqw|b.mju<*e+Up-#EEGNXHQs)WCbrB9mVINnZ288rLbaJRF<5P_Mak7fx#<Z#^ru_i5DiQGM/VP(GHI911T%Qlz4s[~&8F*W^jTV+M0RTZv=[eRvoRP|z2UX/5%Z2Y<.]Uu$.V=+U|*k~FCQZH&1&gy,C1a7(5X23Z0PQYU3B5uSM?:_.F*9lI6N+1)/DWvJ,6KT#F:DX]#agy,C1a7(5X23Z0PQYU3B5uSM?:_.F*9lI6N+1)/DWvN@hKT:^Q[UEK4^.h0BjlziTF,-2M=p@P^Eyk_@@*ki,EsRK~VLlI>^+KY2T&kG2k_S12FML=MN~A<1XS7f7][K*!7-qwhFAmBB/&#*>%7O|X$[:TpI2bICY#t-mZhJLy#KXYta_X$64F,$yHq$l,HN=@!Y!GLCdPqe[Ig(=e,1|z-+ON!SJg0iuIYx@LI[oR[GyEXeYubtWDe7vwC*1>GBmH(ZDiq;AhU,BWBml2dNhPZ6c7><~14PEn;)h|DZ-*!SGF,xLINRRx+$Hun$.HR=DNkYJM|-OJfXi6)2u9rBNtksJWo)SF4L6z@@+)B6B#o[xNpr5-bG~9Z#,T;f!LNKf*]k57*[7v-J3V9D)4Hw%^DpoVK#W.SXd|sKZ.LY4HQANL((Ff>ixu%]]:O6mTdb%l;C[Xs)L#z5(T0U|(#Q[DGHF~mJuC$-!$q.lg0%qDO](.)Hq$l,HN=@!Y!GLCdPqf!V.AKg)N^?],#i^)2uS/~Wn|+:Ew>S:++P(Rb_%nt?b^)W=SR=[;s64pFlTr[GKumE%gfMUI)&U+d^%TGdRl#MV:YG5G0jm[c_DeSYWrH],pJN)a_WyF]h/^p=P3p+6T(DkTK,$:Ntc0_=TH=*<pkGJ9$)%&+kk|bWXDnMJzwb%Bf%93K$g/uIZd%<(xt1vGz1<Cc|-cD-gbdX[pIhSck~.Wcl|0&XfO23d>t1r/xp%e1@EVVSDSWr/%F9>&Cm2H)yGRa$N|lhiLd2A>;k3SY*ct]-qd9O.21(xXtwvO+OGl;WIVfPVaW6SY%UX[,>klD1@EZx0]$~y3.vM:N,WNuGvn;g#Q/~E2Zacx0[D~G0IjlWH;(znDvm(qJvA*!>1)J3&QEiL;LFUld4)lLE7t_]Mhg/aP&r|7V!S/[bG<*-*D@NI0Ik~u%/.]O&jMJ?RsS[lBM@nCM4wQT>y*lwd4oP,ED1b.BM2oeGnTS$8c?I&?blXhLY76T/cb-b5MB2mXjD0+.ow0pVaMjyh1P",
    "V<eN+2wcydbtFanimB8[5nkfR,%K8;,*e@H;HF8k8*Xbt6M=R]]le5EFNlY7*9170xYa|yLtI?bnI(k9iA)&C4DgU/<D^9d=44di4%E!5n8g~jEc3O@V["]

/-- The formal aliases and the named sequences with the code points they stand for. -/
def aliases : List (String × List Nat) :=
  (aliasText.splitOn ";").filterMap fun entry =>
    match entry.splitOn ":" with
    | [name, codes] => some (name, (codes.splitOn " ").map fun h => hexNumber h.toList)
    | _ => none

/-- An ASCII letter in capitals; every other character as it is. -/
def asciiCapital (c : Char) : Char :=
  if 'a' ≤ c ∧ c ≤ 'z' then Char.ofNat (c.toNat - 32) else c

/-- The position of the longest short name of a table that starts a text, the first of equals,
with the text after it. -/
def longestSyllable (table : List String) (cs : List Char) : Option (Nat × List Char) :=
  let best := table.zipIdx.foldl (fun (best : Option (String × Nat)) (s, i) =>
    if s.toList.isPrefixOf cs then
      match best with
      | some (b, _) => if b.length < s.length then some (s, i) else best
      | none => some (s, i)
    else best) none
  best.map fun (s, i) => (i, cs.drop s.length)

/-- The Hangul syllable that short jamo names spell in full, each the longest that fits. -/
def hangulOfName? (cs : List Char) : Option Nat := do
  let (l, cs) ← longestSyllable hangulLeads cs
  let (v, cs) ← longestSyllable hangulVowels cs
  let (t, cs) ← longestSyllable hangulTrails cs
  if cs.isEmpty then some (hangulBase + (l * 21 + v) * 28 + t) else none

/-- The unified ideograph that four or five hexadecimal digits in capitals name. -/
def unifiedOfDigits? (ds : List Char) : Option Nat :=
  let n := hexNumber ds
  if (ds.length = 4 ∨ ds.length = 5) ∧ ds.all (fun c => ('0' ≤ c ∧ c ≤ '9') ∨ ('A' ≤ c ∧ c ≤ 'F')) ∧
      familyPrefix? n = some unifiedPrefix then some n
  else none

/-- The code point of a family member other than a unified ideograph that a name in capitals
spells exactly. -/
def numberedOfName? (name : String) : Option Nat :=
  numberedFamilies.findSome? fun (pre, _) =>
    if pre ≠ unifiedPrefix ∧ pre.toList.isPrefixOf name.toList then
      let n := hexNumber (name.toList.drop pre.length)
      if familyPrefix? n = some pre ∧ pre ++ upperHex n = name then some n else none
    else none

/-- The code points that a name stands for: one for the name or alias of a character, several
for a named sequence, `none` for a name that stands for nothing. -/
def characterOfName? (name : String) : Option (List Nat) :=
  let cs := name.toList
  if cs.take 16 = "HANGUL SYLLABLE ".toList then (hangulOfName? (cs.drop 16)).map ([·])
  else if cs.take 22 = unifiedPrefix.toList then
    (unifiedOfDigits? (cs.drop 22)).map ([·])
  else
    let key := String.ofList (cs.map asciiCapital)
    match numberedOfName? key with
    | some n => some [n]
    | none =>
      match listedNames.findIdx? (· == key) with
      | some i => (namedCodeIn i namedRuns 0).map ([·])
      | none => aliases.lookup key

end ItemRecommender.Text
