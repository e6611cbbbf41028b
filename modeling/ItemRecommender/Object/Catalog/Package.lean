import ItemRecommender.Object.Catalog.Kind
import ItemRecommender.Text.Packed
/-! # Globals of the pipeline's package and the array library

    The pipeline's own package holds the record classes its datasets are made of, its phases'
    functions and its settings. A dataset that the pipeline wrote names the record classes by
    the package's module names, so a reader of such datasets must know them. -/

namespace ItemRecommender.Object

/-- The array library and the modules of the pipeline's package, with their directories: a
table that `moduleTable` reads, packed. The package itself holds no name but its own. -/
def packageModules : List ModuleInfo :=
  moduleTable <| Text.unpackText <| String.join [
    "bvOX_fw~J|V&jeA3A%lS_6iqJT,[<tTLOa=V^&M)0M@S,I.:;#[?MIR4BQgAG%OGbLAcIX-gsuO0/]J,!#yXLEsp91g$VyTDH)Xu3g)x#g1IFvhLyBc^b3[S@/0D0Fa7a~5M6pL,s=bsMWg;(jIC*9DBzN;7.NJvFvk]^FsMroFDjO,-ItCpcOleBNmRhH!vIOf=$)85W$ow--Nv~)XKu(O9XH<!-nE~gYrzimWDwdgV+;^SA.km-,).oJ-EpXd6G<^&b5G.]F&p[mgC[G?1pIe0PLmAk+50HC6tM-KbAY<Q_JHvQDOMI.S!o[Kiw-|-K.7<p,De]9)lrx9c)0V8c5P)bA~=8]!)f25E_>N:QA#XG6=^Fn0WcP6aL=S?#3Eva=F+UA.%&W*<DiZgOdk]:Unsi~0zt_#FHipr]84_&-<U6T-IO@jRC<d!_9Tr=A)+OG$~Bpd#R2acUHoQwlEZPTXg3@PK$<ClPDM=+)x.?lX1e(URW3.Qg.DJq$okrE-m]vr,HrBvb6$$%*FkcVc!_DKbqf:MbtH._b>s0R8-M5kPl(L_[&y0g97am;H^PHrMW^Dce2+#HSVGWi???]/0#jsoLV#YdLVJv+$A5t-Q6W;)III:cT(I2<iQTl#G1,yB+#R%N8F.U[V.LlEH=Qb_]xHg7&6*3uLfn4s5Fg/e$<B.Gd#u0C4ODg=-JS+OAcx#&><;q(JcqgP/>-hi[*k%:eA!OL^zGE(4@:^.=*-fkJbC6g1$R:wWiDBG(F+(5UqS]DXQ@b4^Gk([&w,mnO]|(l?)(J4<8LJbEx_)A.!whTa_A9yk=J^I#9=J-aL>KObFV@U)hL|~XlU:vXuNXdkjiyZ5+bZTCZ8/ZWk3b[h@.v]c6iTV62!]o4=([v.jxdOjM*_(5B&_=;wgw^LZANh;|.zZ0VpI7Ic<hKkgU0OUWA;CURB#u:mvw]C%S<&V-VP%5Px5^Lt:*g@X-6#;aQx7gFCj<.!!q?/>YAzAk@B+=KhS%8:MuI6,b|_Er@Mw-q;IZ&_I9eI6b,cSjc!f5&2Z+R0+UXTL7#d_a!EWMgw2c9ZYovRo3fl.uCs>&Ir:4j6!~N?11^LanrWL(%U$dGZS7ziE<1%iqG_fggN7LAz_O1>Y1!M?C]jZDQj<ESK%a,Ux^DX=ul0s-;O1B,gvH#2O$58f~SHFAG=dfHusZ_c$UTX8SgZU$XUqU9k8z.#^M?Vb<1iUK5|Nqe6pMO^~b<0C/dXADhf4)hEJHcC:B6Pim&8i4+>~B;I9qFgwm>>1]0Ol_:vMb/N5F1=RT^NcmWYLeef_eL];fI$T]30.*N6,)u/<QWLEnAMps,5iGOWaDFOWJA>0:t/;b~Eke!4Eh*ks4KUr8mg]=;McDGcJ7dQX(DF$]l:xxe.+wJ0fCTa-%)JcL?N:xO1?-rWe^UG$s;#2&9g0k|dS,v,Be<LLPGcLP4a*&HY])HUH-9QHajg53F-<Ls2G/fd0QS-3%+vB>j,QBFsP0.4H&2=GzSsi?!b51ujB&6B&9r9Z.7Ra+Wl@P+PLKS(@&SN8JU-ftz<VWB&NGv[ld/0MU3m(zLb)p_4h1qe.NtrB>gI%i_VUgBw1[/II1^7_N6WDg^6@YeH:8cx+!EmV%bo@#])LPU<^mu*>eSfAn:|qO,_C|!Z<>+EsY[+Fp>dR^jE!W6qU|OBzD*t8nj4)(e0FAz3g~NeM[r%?G+08S%]8~C0GZoIGGqEsQ)2o?d>UtSm<_j7WEhoUE*RPqkKgZO|3BmMQLbN9]U=-|0RCDf]7RXSjEQvnoZbu;&H;D!?c;ht;?>dJJEL^0-l:$DDF.t|LB]wL4XPg,wJd_P(?Ljm:&ED*~cDAM$,gL+qkq;YK)0Dg9Ue))]i&dzi6mf==ZE=r4GHDRPcXN8(P>4>#hrxy)7csFwVx77@=2Cf0@DBJfJ[x3RJHO^U077Mk?uH<Ha8F.VZ>$F]B._Pu.RbU&Ok$yL+Q*2kR38@3@a-y,7g0;KgAB;9W",
    "As)N0x!;gk,5~#SeG@7^oAe^3j:nK;HwNEQAM,,Bmy59G^G1(6Q*Z@<jf-28nUtX#8aK/-*^^M^pt/H1bTe|$Q+C,9]unxRFi4Db>8fW&e+k#%O|@z)|#keU7&T_?<jhlYA3[c,zk>XiVv%+J0ReSlU4@.Fhs7nc]LJr=>dGb#E.Ww82?wNA$q9=bDfJ4egmO0_c8Lcko2r:hhNR#_oHQ9iX&.%/4<^I[@0#xE^-Wc]gzS1WyK?E@ZGPV60K#o;CAzVYBL!=S|cBZEQ57O%~!!][I5x39v/V&@jHIqgSs[retne4AE+VyNe*Fv/-P:f3%Ug8b2/fv7ew?6-VjS/dx*v)#ZRG%e-.D99S6pR5jZ<]9-^6ag]+mtW7>=S]fFoPSm.IRl<ZR/4rK88dzBbyb1Po;I_mZk?Z=;PO2c2md1&4?QPakp*pRsMj#rJzaCbJt/USmwKrQ+!TwT(.LfVu<hMzudABp<IXJD?4II>^yb5XMal!%wqUe_~meEfz~e3*esb,S~oUVJuk8~vhy+,8ec7CZvhfhgp5AJ1Re,xOBdK6)3sF;pM,MI]Rc^0?Y+bOv=3g/%vJhMQ%CMY./aKtlp@IgDjbS1A$.SOg1W:DNUW9P1*9fGTDTGWq^B!6.0+DD?a4*=[@;3wX*N&yzIx,Jb90YFxJU2ID%^SLM$UPG@|9co,1/1!lM]]nc<#+a:_-N0SzS;aQ~!aHU#>6X=WhUQ0.1Z4x:Q+F_PFg$IH:ZuG%)AQ?#h[AI@7Rj6)I[(/-?$j*tY2qa3yfC/yx@:_h&iAyn_W^.xiK&$V:$[4Y_c^,OFC=/)+InuVpa~)?;#ue2Y6qiY&I#3.WDnsg?f@J57B]/]ggr=][PB2hNQ)1kYZBY7)c3_8,->pU.0Zmt@X%%pDTo=&@Y(lEJG@QU4[.>[e(!~-$eip<;h?YCRK/1CjK++khawxx:TrA^,Ws&k|L2C_vSpmp]"]

end ItemRecommender.Object
