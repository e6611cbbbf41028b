import ItemRecommender.Text.Capitals
import ItemRecommender.Text.Blank
/-! # Small letters and title case

    The full case mappings of Unicode 14 beside the capitals of `Text.Capitals`: the small
    letter of a character (`lowerRuns`, and `İ`, which becomes `i` with a dot above), and its
    title case, which is its capital except for the characters in `titleSpecial` (a digraph
    such as `ǆ` becomes `ǅ`, the sharp s becomes `Ss`).

    The capital sigma becomes the final sigma `ς` at the end of a word: when a cased character
    comes before it, skipping case-ignorable ones, and none comes after it, again skipping
    case-ignorable ones (`finalSigma`). A word is capitalized by writing its first character in
    title case and the rest in small letters. -/

namespace ItemRecommender.Text

/-- The runs of characters with a single small letter, in order of code point. -/
def lowerRuns : List CaseRun :=
  caseRunsOf <| unpackText <| String.join [
    "8c)Qfdnht?=-/!3G7LhY4(Na,7TT|0&<H.b:,Z-cChTF(HCh,WH+K+1!aA3G6(5Pw[]<|m7CoGX.=K?#!Qe-%9b7uH(UIkhCjzB+b4[F@3y,EfN$K_QSV4o:6h,Gq^oqga:MVqX9-^c7J)N^)_c^^kLTw,hEja!ycDU+Xi#z#?9,s?8#7gr]b@O_uF.6=^@$mdh1O^A~O|wY|,p0orWhZ~(?gbrh8od.vSwwb)<hu(2+6~wtARyoj3tu0)1NV4Z-NgFj?_~Ly(|?O@]9L^w7fV4;TB<C-M[KXIW46mJ!Wpy;SC^#NDri|iX3~GP_^<a/?9dl|84h9gju5^N-LW@w2SIgE/@6.o:b4&S([_].V8#I!$bF!o=apKC4]AA@KDeBQWUgc^$cMYn[H4af<UCCqKNCd~Kc*!fV6G!^Xy!7Rf9HK_2S<)v0D*pSR.1<L)x7eiI=sk5&alG7aUc3>!kvXE2xi:_lOLhte-8zb:pj!I=i*k-5BvVwWuxp=NH|knlTOmi<G6kl-yHLi.<NrYUkXQ.%8r?XAKCM>1aM>tjiQL-Ed+*AB2]5!HaG,;bs()_]!cN<WzNGq)_Ar(>XP#AI~!g~ekPs@J]>p7QM>sBN!D-R&xi+O$wv@Mby|G@@_r.lg.Rla89ZsqiZjC?UF^JP[JJc>=UvsgD.($zI^u._NrCq[Vp#p!?w5mG;qJp]E.drN/4RE;XpQe)>V>~D!r~s|,%Ck3HAq0[Ik_g91Q<yw@Las!WHN(U_=>Vi1&W^F/1>.ZTMOK>9|^uMDkh-lS)C.(7,#t!.OQI&ZZ,zwQF2/w1I[N|[GEk6<|[sQPj2GTH+(i0_4&25lGy/f.gLX-6XIcaFFG8$_QeQ)g^QehMJD%0Qz$pzQKHNwlWwZ3IU]sE/!ho9INo-_XRyA-+X#BU56KFLPN[JXL-jKH2iFKFX8%C8K2ZQc.;J]3E96.u<bEI~4DQy]NbeXxArWhlY|oKJ:F^ZG/9)3v8B6cW%_j=BJ>5||@*CbDLn20Qc](GU$k~vQOUz~Z=DPZ<f7hIS"]

/-- The characters whose small letter is more than one character. -/
def lowerSpecial : List (Nat × List Nat) := [
  (0x130, [0x69, 0x307])]

/-- The characters whose title case is not their capital. -/
def titleSpecial : List (Nat × List Nat) :=
  hexMappings <| unpackText <| String.join [
    "4=2pMQ47Hm^^->^g]V9t1@tedL#8u32XF?H0b>QyjU(~ZM_<r_OLm40O&Q:s?xZd:emO1+CD>wENad7YW!noAI,1p$J~u?_4G/sVPX.EP)eso^>74w[GK;PN*AqfWW*ks3_Q0s.PZo]gMcmV[R/AJd6^$.$)r5,5=xVHSHUgbN0#xc+1rXo9R!f1)?]JD!(vc%aR0-04P]fVrJB$X@0Y+|iH=0(s4+/@[lSTPt3Vw,b_i.nb__VS0LujeoE6[2F1|BwKCno!eR05YJ6]5Wz0QTO!QtbUo3KJp=*?4OnU!-6nK3ufvHUgbN0#xc+1rXo9R!f1)?jhW[@H,AA8xX/mHU-!MS8+3yPj<l$>74zS%9Muk8b4pLf_N(0aepANa4a?q)Ew?MYva(N7yRtlegLGBE[Ql.EM:Qp:cC.:Ti]92EX$*2a*sJ2F?cFDEt5/h7t|h~EX#0kSP|1yhf|3)?/J-g[^7,IQ!:-c*;&enM$zNe9)g7.Bb#;:KxH&>%Q#RRen$/d0Gt%["]

/-- The ranges of case-ignorable code points, in increasing order. -/
def caseIgnorableRanges : List (Nat × Nat) :=
  hexStepRuns <| unpackText <| String.join [
    ":wjlISckYXQuSqeB*s>jjjFJ>37n(l2yg%D^Ja/2cBpcOBr<WuIh?$BRR<,/(aGKV/CDj2JU0_^Boq1KK3MFoZ+X%o-KiuIJo;~Eb_0UD8]tIgM<19u5|0/jO2TS4_p,6uY|S.E(icAzddUwUPA6?q?5ftf>j8=b,;8v$[K_N1NTZ<mSsHepaTa5>T7d%=eH6:4$hPVTXH7HRF<ESripxDz+AqRe2JSYz2jvTw/MFc3CO^MHE)=p8:3Uu2lGoa)/rw:j/=>m:WvDLP*s86Rl<~-xEE[wgd7spQgs6A2^pb$MGr-:#jU30=bhufEM@MJc=8HXBK5:ZS?Z<=_&fn,[bzQJCEYfj!^G.BANORYg8ziflT*Kb>07ubLZq_3)^SGk#IiAiRUoz8%$!iTBOOpqj5yS%+7l:&mcts7,&kN7;]_0;_Nos/+N(H]Yg9qUEKC;/zS$&esEWfIJR4#OfHK0)?4ZPpM+WGj~D7PRdEqJEEE:IG[ek7S<Bpm=PNQpi%.(bb5?.VFv*%RZ1gPw)%6I_m6^V$@cDoi8A7rnKc$^s=w)gmKSVfQDGiOYiu-xwy>+_u<V[1ge3+t#2GQM;|9YQ.+~IIiARG_WV+:J#MN*GTE.f;?.zI9P[Q*e#JxL,L&_$^skmAZbl.(@9.b7fYQUOjrsw8,o)#fTH61JDUx5RE=g-3Qzh-QCm9n&-p58kte+,R3(ijAPdO/kG,%TEV7>n3LFQV?%CE!K5o5FXps#R%RMA(Fe#Re^bybB-2vn7cV]7N6Ir&F[NZw;RrNRgM&HC@QrKRg8:Ufyhp_YyF/3e[Lz0;5T6X8.Xu~7w+cFb!NR$+J:K60KLU_>H6MF4Qcr=oEa7T[b*!x!QT!Fr*S000NCtAc@;23#RKzbo6TWNlmNA>XJ"]

/-- The ranges of cased code points that are not case-ignorable, in increasing order. -/
def casedRanges : List (Nat × Nat) :=
  hexStepRuns <| unpackText <| String.join [
    "JX>GvFppzq<b5_+a9xyka<A9T#kg9<YiEhGLt7.G5TNeoV#vs3.M><i2PL7f$Nqr@#l-nL.>SF/%ehf?W@KKXG94yM$QhE~-nfKjYK?.[+?Xxu#&%l6k-t6+2]zUr6W-uL1&]j)Kp$Ot0mS;l11Q(V?X0e);z~l0;uqq~O(:lt#pq<4)qxj+.InKx>%GU6LA-/DM_=W__#4cj;-%]LNT/!Zk$ZXI(Es9[[jA?FD$$.A7Xr+PgX])E>DoF_MOg6?4RV,aRWH+P2o)stColHJCI,ppNjFyad#^]UZ:IfW03,OtY/nDr#li1KC)>R1%rC/S$m5Ky>^,V+)aSE$HWno(Jqs3yW5art=!r?R"]

/-- Whether a code point lies in one of the ranges. -/
def inRanges (ranges : List (Nat × Nat)) (n : Nat) : Bool :=
  ranges.any fun r => r.1 ≤ n && n ≤ r.2

/-- Whether a character is case-ignorable: a mark, a format character, a modifier, or a
character such as the apostrophe that may stand inside a word. -/
def isCaseIgnorable (c : Char) : Bool := inRanges caseIgnorableRanges c.toNat

/-- Whether a character that is not case-ignorable is cased. -/
def isCased (c : Char) : Bool := inRanges casedRanges c.toNat

/-- The small letters of one character, the capital sigma aside. -/
def smallOf (c : Char) : List Char :=
  match lowerSpecial.find? (·.1 = c.toNat) with
  | some (_, cs) => cs.map Char.ofNat
  | none =>
    match lowerRuns.find? (·.holds c.toNat) with
    | some r => [Char.ofNat (c.toNat + r.shift).toNat]
    | none => [c]

/-- The title case of one character. -/
def titleOf (c : Char) : List Char :=
  match titleSpecial.find? (·.1 = c.toNat) with
  | some (_, cs) => cs.map Char.ofNat
  | none => capitalsOf c

/-- Whether a capital sigma between the characters `before` (nearest first) and `after` ends
a word. -/
def finalSigma (before after : List Char) : Bool :=
  match before.dropWhile isCaseIgnorable with
  | c :: _ =>
    isCased c &&
      match after.dropWhile isCaseIgnorable with
      | d :: _ => !isCased d
      | [] => true
  | [] => false

/-- The small letters of the characters after `before` (nearest first). -/
def smallAfter : List Char → List Char → List Char
  | _, [] => []
  | before, c :: rest =>
    let here := if c.toNat = 0x3A3 then [if finalSigma before rest then 'ς' else 'σ'] else smallOf c
    here ++ smallAfter (c :: before) rest

/-- A text in small letters. -/
def lowerText (s : List Char) : List Char := smallAfter [] s

/-- A word with its first character in title case and the rest in small letters. -/
def capitalizeWord : List Char → List Char
  | [] => []
  | c :: rest => titleOf c ++ smallAfter [c] rest

/-- The words of a text: the runs between blank characters. -/
def blankWords (s : List Char) : List (List Char) :=
  (s.splitOnP isBlank).filter (!·.isEmpty)

end ItemRecommender.Text
