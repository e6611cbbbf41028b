import ItemRecommender.Text.Packed
/-! # Old names of globals

    Streams of versions 0 to 2 may name globals and modules as the language named them before
    its core library was reorganized. Such a stream's global is first looked up among the
    renamed globals by module and name together, and otherwise its module among the renamed
    modules. -/

namespace ItemRecommender.Object

/-- The old names of globals and modules with their present names, packed: one line a
global (old module, old name, module, name), a blank line, then one line a module (old name,
name). -/
def renamedText : String :=
  Text.unpackText <| String.join [
    "HD%N1NH0o9h.QYOG/LVcIK>Zif=tdHO-h#B*qV:1>UW8SUSSQG6>SM2A4~lfXGZQV)d8XfSc@@%L$kI>1EV+!@_hOzHEw&KH1=^[iuU%oW+*r3*2eL[;$iKI@YhtbZ.^g,ZU&tr%)vA&!eCM:cflu/(5YVcl,I/eJPZO84&KlYDoKC)%S|dF>[We%:wMSXA,y[bGRz,Y:hfH+4H@60(>xW)GnT!Wa<PnvLqR%,dePT[1uH[qIv#gE7n.4M1YNC/F;p;[V!/r7AdjL>;*p6)5/-:0XS|V?>RykNKocr,ZW;d&Ue%,O:sN_aT86lo@moi_4n>$8cg%0Je&0_9<i@4H5/TV;_S7.|=rYEA2=2OE6CK-l7#XCmR4-Lk$t.>ITZ51S#u/F#?gO+[@VW?i/U!anR.STlZK$6.B=FS=8ZCJXX,WZu*H:My/AJ<GRyPs^Nk-F]UEfv*M/-zJ(1~2l3LQ092|.um#IbD%D$_PuC7SL3f0bb-,-.hc#HT_4l/|wPgC!1o$O7TGl?,V?Sdl4>G#mi0+h(>L$-JAnd6ZRT?G4h[AwzMyX+[)Uakp&7-&!K).$l$#$W%Og.->%J!QRT4Md%)Ui!_LrYaU?X>z@3k#@)@;eK%]fjw+FT@Gq1]QFP%E_eQ,&&!6Y(=L,r0bkIz_^R=!W/TkEQKyT7$PxX_2>zdD34~.[B^)3rJ[!Z!W*LbkWH3.BHLQc?/atec/8xt|U,Y0PN^zFZI0fDkakP;@])WQao1hH1]&ja3#!^>E#c=e@R3dE<SZ;YvL=Fjmq&X(%Rc2tw9.d7JH;RC&~2o5$%$~M:8c%vjB%&>a3c[NqL*8Jn*FvNr$ba0it,BB?2T8Zf0K~i~!7U,mGkC*vw/]M%I^I]Ebf<^o7J(@sq9+3h=O9.#a/S2N4<mO56^J&Xp;la<V,(n-,dVz1E.4_5L,1t<aC/&a%SPB:0chb1~;7%_ZfiRA0ddKlxLy985]>uj6/IE5D3gQNONka?UX?#>HWxDgg%KcfR0m@Y7O/x/M<:%%rcUF8:Ot6it^h~eJ^pQ;:l/,+l9H#=mI#-9u0E$p|lNSrkT[>1^TGY%c9ByP>4|>$Pg+E8$<NTAgAX]<X)vWp$*ZsK<dGAXCeDDdF&lhU*2Qf%ISE4bYFKN^AdB:n&PmMwkM1+DnHoo+SR84]iaf@+O:U/f]juq+C*k<_n8:2uNUkZ,X6urTo$x+2[$8;+Q^G034fDSB[5JRf*.lXS_lUE~Ob(~28S]oZ=0P6Qa<>2+~7&WT+LbtqW=L9=sa450N-gK;xE&3~xUmFs5@g[c-9uO+q6o.H7cy(>?^!V%R:-PWq/9c4fD#lK3@Mq@sB_iaS[QZ-WSs6*]3R!S53o,e6I=_PcFK>jWegY1V<Ts90eR$98Ls;zk=|X|3AVftLUn[t*iU~ZC<-qApPo(Ot*@&rz2n~_R?t%E|!tS6n5;o;Q3R:ZV=U6M^Nj3T1h-[bZ^0Y7.XUTQu=CLOgY2H!T7MkURJZ$K.%5^z#BEOe5%Z[*6E-U89*m.JVA)>z[MG;lAjs;u2dm/V4bNfj8Nt[$.C89Hs;?1#h3Pad#N8W5SAm*KzN=oLQXI|<jTuN~XN|*H8-r&c5#1ObE_(HuFfPcK9;?a8(es9ec*>^ok:,jJ!HX+!XjO7=w!.MaZciS82T67Uubz-wslU#&SdNV2/jphWlk1Ch(en84fjJ~>2]):#ei:ev>j&Z,r1o^tm+_3p["]

/-- Globals that old streams name by the names they had before the core library was
reorganized, with their present names. -/
def renamedGlobals : List ((String × String) × (String × String)) :=
  (((renamedText.splitOn "\n\n").headD "").splitOn "\n").filterMap fun line =>
    match line.splitOn " " with
    | [m, n, m', n'] => some ((m, n), (m', n'))
    | _ => none

/-- Modules that old streams name by the names they had before the core library was
reorganized, with their present names. -/
def renamedModules : List (String × String) :=
  (((renamedText.splitOn "\n\n").getD 1 "").splitOn "\n").filterMap fun line =>
    match line.splitOn " " with
    | [m, m'] => some (m, m')
    | _ => none

end ItemRecommender.Object
