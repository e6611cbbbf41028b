import ItemRecommender.Text.CodeTable
import ItemRecommender.Text.Packed
/-! # Capital letters

    `capitalize` writes a text in capitals by the full case mapping of Unicode 14: most letters
    have one capital (`upperRuns`), some have two or three characters as capitals
    (`upperSpecial`: the sharp s becomes `SS`, the ligature `ﬁ` becomes `FI`), and every other
    character is kept. The capitals of letters lie in runs: from one code point to another, every
    code point (or every second one, where small and capital letters alternate) moves by the same
    amount. -/

namespace ItemRecommender.Text

/-- A run of code points that become capitals by one shift: from `first` to `last`, every
`stride`-th code point, each moved by `shift`. -/
structure CaseRun where
  first : Nat
  last : Nat
  shift : Int
  stride : Nat
  deriving DecidableEq, Repr

/-- Case runs written as blank-separated entries `FIRST-LAST:SHIFT:STRIDE` (`FIRST:SHIFT:STRIDE`
for a run of one), the code points in hexadecimal, the shift and the stride in decimal. -/
def caseRunsOf (text : String) : List CaseRun :=
  ((text.splitOn " ").filter (!·.isEmpty)).map fun entry =>
    match entry.splitOn ":" with
    | [range, shift, stride] =>
      match hexRuns range with
      | [(first, last)] => ⟨first, last, shift.toInt?.getD 0, stride.toNat?.getD 1⟩
      | _ => ⟨1, 0, 0, 1⟩
    | _ => ⟨1, 0, 0, 1⟩

/-- The runs of letters with a single capital, in order of code point. -/
def upperRuns : List CaseRun :=
  caseRunsOf <| unpackText <| String.join [
    "8c-mUe-E8mT#0ku7o/iKNyjB24p4G5c@*2#Az,c*P|IiKgES;5kSy|I])u8o=7#(0iy1o_((_o55/Vv3i:f$HZ|$u<KQ=6*>#s*-!-Hx-+SkX5;=nlyC*^Nt+yJ%MA[T~?Ny6K^9Utd;FLVfe34ZQye&Z=SCI:ru5GdEv71knmR8R,3VE$Yp8,f0P/9z7,5$<>RJ:On80Eb>~c(Q1;c+:YSh/M/A+j[gw#TBtw&Y)(/%UCjv9,Wp34z-GkY8;Bf*k_oxEQdE@-m,;/Y%MQU.[!b39?h]v#i%~M<m5:2Q+)w;G2pwfD:?UU2yns2?h)5!;^154_gR=yJ)zcSAv3NSkbZ/?B^q$Bex7@*_t0ZE&8#Yq;]5zKhd,S1Ku37eZE?.AFeJKY>@)>%=408K$%>,Z<I(=[f/*|6&=2xpEEs9qZ!!,][8j;#bRXRU1ap._fSna&itX;9OhZB&U?y%+DfrAL8WSL+U|a-0.|F4?S?s8WV)dCjP-(4L6@tE^_~L~NKHKfGlL9oZS)IVcPYp^Md;(]mO>2@SH|KaC2mRDL]td!/<yZ+<-:wQe#Z+E=1$*R8[:z]>X-l5+#G5n[V<@hf:[l=fl0tcCgDUCH(VO|CF_+[e+42d/7|*S-4Ms~7H$]pR>?~-:P.a%!+pKXGK(R8?3mN3j@eypF-p3Lq.MQB[D|wuDB./-lFdL[FP.G87+Txk23S+];Pj2a^P)?]Z[,L!qc+bbc[v3?!<1<%v:x~EpaxOc=[qUn@R7K(@Ua(7y<|3,-[NaM0.7%s2gkx[XEe?0,.z2B@6h[//+posMc)6wHAO,H#:lbq/$iA_g;n8_~2[%iLFJ~$z?2-SOV*F=/PIz6rPnA<D;6)?4!ACX6c=lUF3KGr-V3%90E%()NCzsdQ7i#bw5[W3F9]b_s9;1*LO=O<iYvJt6jUogx+E,M.a%o5:UV5HY:@P9z#jk#]g:^i+<+C^vU<K.J=rI;,;P~*9;C+<,:6b0g+CfE@6acp)(;>&?>l_XAISjZt6m2e?FZ=.@(7*k.:$?xG.?aI^f4VPi9Q$B#&@-y~2o%FZ/)(PiLfeK;W!|WB,^?x/Ut.I&V8#/xl!/#TXwg.1U%z(+"]

/-- The letters whose capitals are several characters, with those characters. -/
def upperSpecial : List (Nat × List Nat) :=
  hexMappings <| unpackText <| String.join [
    ";#*W8dm7Na^;pPm)U[NJ!)RG#%qXa(5@ZS*;EeNQ!ZBhcVt1C|MO)z!k|k*o_jNmqV]f.EQGq:*Oa_-dVKEc7:[]:6#9!2T>a=SR)H3wm3w03:KGUxmM:|i.;:Mxz6zY;~<KJ$#Iwki;Pc>xelCS+P6[XW1kaM]+%+t_]JL*MF+H,53+I[#_7vr-$[T5/2RMhkEHcHk&c4T?.]-L*F?L|+jB|@(/fZ0-|)&IWM^CS6OR3[05[ZBgdS&!?w+Sv1jc2,>5ap^yw9T#lO.@3mHP,vJeP)y]4#1m0VWi(,g[h^~*R5,uH8c(x)WpA=-PicO4H-X+F(%(JY!Hr=i+*SRQJk_a(,c%[3&iEP,(8j^+]bMq;gVv=,*=:?K#tQ@4_78MRJ19!BBxW1oVb8xt)VD$$A6,F@%@pz!F:-XwGB]1WY|*OUY8|UASPcD@hapy(kx$T|kDdEXP%<RY*Brbj/+TS[LiSgeFMaNKFaLR?)L)x6L;m-*h|&e!"]

/-- Whether a run holds a code point. -/
def CaseRun.holds (r : CaseRun) (n : Nat) : Bool :=
  r.first ≤ n && n ≤ r.last && (n - r.first) % r.stride == 0

/-- The capitals of one character. -/
def capitalsOf (c : Char) : List Char :=
  match upperSpecial.find? (·.1 = c.toNat) with
  | some (_, cs) => cs.map Char.ofNat
  | none =>
    match upperRuns.find? (·.holds c.toNat) with
    | some r => [Char.ofNat (c.toNat + r.shift).toNat]
    | none => [c]

/-- A text in capitals. -/
def capitalize (s : List Char) : List Char := s.flatMap capitalsOf

end ItemRecommender.Text
