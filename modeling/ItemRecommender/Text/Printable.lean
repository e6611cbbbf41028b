import ItemRecommender.Text.CodeTable
import ItemRecommender.Text.Packed
/-! # Printable characters

    A character outside ASCII is printable unless it is a control, a format character, a
    surrogate, a private-use or unassigned code point, or a separator (Unicode 14.0 general
    categories Cc, Cf, Cs, Co, Cn, Zl, Zp and Zs). Quoted text shows printable characters as they
    are and writes every other one as an escape. The table lists the ranges of code points from
    0x80 upwards that are not printable. -/

namespace ItemRecommender.Text

/-- The ranges of code points from 0x80 upwards that are not printable, in increasing order. -/
def unprintableRanges : List (Nat × Nat) :=
  hexStepRuns <| unpackText <| String.join [
    "?AeZQg)0&a7g/@0GZ.l[j$df#H4veWbjguKLM3oi6,R1e2~4Ei1W&[%b!*>/MXzi3ZFWWy:V1m78FQiTMS*$wD##1gBCl)XIaOFA2D=jB3q#w$i<cC-8@Ex11>h815kzZ8*vitZ*H)k4.I;;6P*|0]J0CuFYZ9t.1jmSFZ2A6H)5cl~Y+G!B(c@Sd#Y.jm9Tm;G.h1$VJ7sT3.?7+a*s@pof%94[#nb:8#.QC%,mq+sh;E#Q[gVYm>7G|Y*4&zZ:.Q-L7*vFm$$7,A@h=x^hLp#O2^|%)^n>Mu=ePb-*;UyM*B#r<HT+;/Gc@81-6(Ua9J-uw_qkp_ZNH@jf9@ajY9H+lXj9zy?j0xH%Lu;<:fwjD>!&[J[RhY/&1X63C&+.#EtgOUd,Z>)Hrax/$m|r?D:Er4K1^u_D,u7t#^O;t![cS&FaFUw]RPaF7w%Y,c~C+Mie#]RlWvaFWy^R;$nbrP%(HZnK3v89e/@_2D>UI8.~L>P$MQ~OHU#h/IPBXOXTMwpeZ+Q]FIX/sFWdu6G_pr_=xa&F6Jh+>k2&dKIQxM%6wT7(dA[QP6BMDNDD6?GP.n5W6mE;ODyb:^6l/9!8aO/O*RZ>/-wBm2Uyv_,SHH)A3UpN~(#5U~KA0yORI^|g]g-OWJDh#MHv)bXY*5as[*Ciu[P>6G@7ex!-#~+uJwv,vd6S>yE4dmkG/1lu*;b]a6%qMCJ2=%D[2fawfM!Ua!cM&n=]k$Q?_j-o?L|(=@>Wzpec^),ithxe]5K6B@1uvF5nu~zJxH~%::IZ/O~CE3/0obSV7UDG)zR;@0wF*EH5gs<*mJ_+J6Qr($+O<L@X0NU%2^~:/oHM4.l0&1,<xK<!~N!DO#O9cE$qv(S/k88^>~5o#LpwD@?l?IYtYN+8AW]IF_q6(Y<&q/MB4=U7.3)(G+?QaW<S9I*)JrEU~bRXk_C_khLYTleX-v*Rs.tXE$H39]WN.lTHpP@clMxGXK67b6ay^gPlqx=)j4/$[2Zhe1g.>]j)?ZV#f^O@+ChooD[*5Fc0I~[5o]^1M@yO:JlBDuI:JPecMY3y46/l)Qe8m!fi3n|3TKN31C0=^IhrH_W@:Me@Q6kzR(BYa#r5@V$^6Ead#OoBhT^NDP!B&PNrTP^?+qJa,BXk<3R8R.RZ#*?RjZp8R_x$A4|6AMd,R!~XZZD2*5ytBJUWdZHE0^:[TP4wQK,GmkCx[BS=^G4G*2Hx,qV6OV(5Lm%hLaic.oC-#s2KyG]cRC.;Rz#[(gOy].sHJ(_C=.HQa.DI+.=EJ,Y:.Vdzj[Ig;~aaUs8_Uq59v5Gwp]$IH|lgR$rvh6t:+MOs%/$Qc%$G,,i;A1<SaVLLzkgscgg@8[7#Ve.e+^xykwIE(kUYQDIX&LEEH[2DnPk)<TO<=6ZqXff+x-#6,-=O6=/gF$)Q#JcK:lBaeqiDyiOZPxGAfFFxC49Cdn2p8.8Gm>VUE$WqLTuzya.8,AI8?YEz[Yu4P>Mcqd1pRE[k=s::"]

/-- Whether a character outside ASCII is printable. -/
def isPrintableWide (c : Char) : Bool :=
  !(unprintableRanges.any fun r => r.1 ≤ c.toNat ∧ c.toNat ≤ r.2)

end ItemRecommender.Text
