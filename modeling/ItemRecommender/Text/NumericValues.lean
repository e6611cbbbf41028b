import ItemRecommender.Text.CodeTable
import ItemRecommender.Text.Packed
/-!
# Numeric values of characters

Unicode 14.0 gives a numeric value to the characters that stand for numbers: the decimal digits
of every script (`decimal`), other characters that stand for a single digit, such as
superscripts and circled digits (`digit`), and the rest, such as fractions, Roman numerals and
ideographs for numbers (`numeric`). A value is a fraction, negative for one character (the
Tibetan half zero). Each kind includes the ones before it: a decimal digit is a digit, and a
digit has a numeric value.
-/

namespace ItemRecommender.Text

/-- Which kind of number a character stands for. -/
inductive NumberKind where
  | decimal | digit | numeric
  deriving DecidableEq, Repr

/-- The number a character stands for: its kind and its value as a fraction. -/
structure CharacterNumber where
  kind : NumberKind
  numerator : Int
  denominator : Nat
  deriving DecidableEq, Repr

/-- Reads an entry's value: a letter for the kind (`d`, `g` or `n`) and the fraction, the
denominator left out when it is one; an empty text for no number. -/
def CharacterNumber.ofText? (s : String) : Option CharacterNumber :=
  let kind? : Option NumberKind :=
    match s.toList.head? with
    | some 'd' => some .decimal
    | some 'g' => some .digit
    | some 'n' => some .numeric
    | _ => none
  kind?.bind fun kind =>
    match (String.ofList (s.toList.drop 1)).splitOn "/" with
    | [num] => num.toInt?.map fun v => ⟨kind, v, 1⟩
    | [num, den] => num.toInt?.bind fun v => den.toNat?.map fun d => ⟨kind, v, d⟩
    | _ => none

/-- The value as a double: the quotient of the numerator and the denominator as doubles, which
are exact for every value the table holds. -/
def CharacterNumber.toFloat (v : CharacterNumber) : Float :=
  Float.ofInt v.numerator / Float.ofNat v.denominator

/-- The runs of numeric values: an entry per change, by its distance from the entry before, and
an empty value where numbers stop. -/
def numberText : String :=
  unpackText <| String.join [
    "gFFm5dSU^sI]xE^Kn^1IJ|gv/RgJ^p0ESjqJHQtM;<$4sW0&F#++lJ;$BGBWXrgS2!zN<L*%Cp(cdUca,=xVm1!.X,>YV*pbJd&8F^N(ACe$8~$-xrP>@o@)6,PQ<@<cI()2#t$+McLD3pF^=64|HWRtOTcY6FD3/jqKNDlWQY$Yvt/hp&uC$FDl([c-F:H8v+TD_Ls!2(|@@B[VX|:=2HO8pVmAaB)kfka#Z4Vj<TwNsh^rPSM._@(K-;6>suCIkgX(79h8JTkWux?Dr.jK$<O>H(l;/4GtA!1JAhZVLvn$6kT?]!xGU?JDNuHVLw#=Z~$HM?,$.d[Uy2l0qvhB$:E^9LS*V+)[0Rr2fi+!C-I]k1qDG(WEyXtfz@!zL(2xV)ANZ_bV;b~g>S@ocDy~mJ(VS?M$(:^Y.x6F/HZ]|$P3eHBPvY|%2zNG!bczSdp&Z_-##Y@bNdCg33o%<-m?N_!!vnda/pXTLiT%+H,oT#@-kF>?m|h*4C4*9D|INsbQ~N6?R*.q/TM<5crK:JC*RL[)]24qY3_-+,jlE/7HPr?g*okziA0OPKddG0PcQ%&G/W1|ZU-<h?#Ew>evy@ZSMx+%dJsb,:lvh=+,GTi1!fbPCX@Z,0OPzq2q!$uC^-J;B^IHn+9UR-68(+eW.4HIfO>Xp:lG_S/)j%hKBo=^Iz+p/;fkVu5Z@IaNssCo4i@ffUc%?/&LB.-!|9?V?*1;>b1uRjbrOiq5W+NkD=#&#*HrgY,DjiL73XMC/(&dVUmk!S[sSJ+U8PkgMA+9k7v4yJNV]pA=uKiOTbA3N!%zkQ-y|H=71+I:MGT@qB5~S~6|r<Xky%Mj3-.2wVXP$nj8I=?*Q#6$S|T>|(1%W,Vm%vRJEEypHz0>Y_Hf8=He!4pRL4bQ6?<;d8H!,H9a+[4(zzjAAabSqJPK!=H@.>->91nM_2mMF9Oo9c-fzG1i(N4fA7ujw#j&Gv,O9^ODTKDJSf<]QG+GT1)!Fs[ekNYrA(L#>jx)FWRK>aA8k)8n&eRKP_PPSNO!I0[X?L_[<,%!7<Bl+lUGRZ@-J))eJxLwcj)>g84SfI@$DATVHV&$cI#=f&l9wzAITa+9kBiNK?p<M17!BaW;@tpl72~+@TXX319(<7>Afj#O:4@9h;=cfz_7%x465IyPcWH@m1RhYmDHkn~/|ysIbPm76WxO&yi1tL(##*KDd.gEuAnu~iA$1ps$Wa/sEFx%X5?/F=)596~%2|MbSroqIYTN@<EmKQ$LrLWNFMrW]TF-dh9]+Jl3hOgQE++[_ZiEDK6479K79qw]Bf-3-bx(=JQEu<,)yvuA$_!t+,wX*_@esfQ.Ot.]i^+zT<+D:&bQYiCI0~Q<[L93Qc7/PT-+S5c%GrnJF3.*236ghRWqOEgJEN!3IXKE0M(Lx->8ZvEa#Ror9[Mx8&1qn59D+1Pj%z<%b(!36;8b4wJ[N.LiL?DAPQx5:l>=bg;M*2!H>KRRiuRF,d-t7vRgLVVJh!eZ<pA1Wf@QBxbSgoE2pQ6^FT6kmNtPWg_J;oP8y@S7cNj<Ik?/66XLO9=UZP)f>hIsF_g_YJO(p%YSVac8]~kxx%kNJsiV(eyDC_)<BF!icNbcN/c91&qM%>zvTJwM=D2!fl8D<NZhHGp=$O+KjCUtEN9X@Y0@zN)u<(T:^F-QJsQ.q_U+-2Q,YSZ%["]

/-- The number each code point stands for. -/
def numberTable : CodeTable (Option CharacterNumber) :=
  CodeTable.ofSteps CharacterNumber.ofText? numberText

/-- The number a code point stands for, if any. -/
def characterNumber? (n : Nat) : Option CharacterNumber := (numberTable.get? n).join

/-- The value of a decimal digit. -/
def decimalDigitValue? (n : Nat) : Option Int :=
  match characterNumber? n with
  | some ⟨.decimal, v, _⟩ => some v
  | _ => none

/-- The value of a digit, decimal or not. -/
def digitValue? (n : Nat) : Option Int :=
  match characterNumber? n with
  | some ⟨.decimal, v, _⟩ | some ⟨.digit, v, _⟩ => some v
  | _ => none

end ItemRecommender.Text
