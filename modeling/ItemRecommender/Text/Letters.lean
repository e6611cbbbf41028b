import ItemRecommender.Text.CharacterProperties
/-! # Letters, digits and identifiers

    A character is alphabetic when Unicode 14.0 makes it a letter (general category L), and
    alphanumeric when it is a letter or a number of any kind (categories L and N); a word
    character of a pattern is an alphanumeric character or the underscore. An identifier is a
    non-empty text whose first character may start a name (the derived property XID_Start, or
    the underscore) and whose other characters may continue one (XID_Continue); each of these
    two classes is a list of ranges of code points in increasing order. -/

namespace ItemRecommender.Text

/-- The ranges of code points that may start an identifier, in increasing order. -/
def identifierStartRanges : List (Nat × Nat) :=
  hexStepRuns <| unpackText <| String.join [
    "JROH9bpt1O[Rgs1a_r.eYSMm7ay@j~A_G8w,(+HXhU*uHOn<n2#~~;MQ1l?Lf5h(G;f_c;W:E_iQjlQ3hIb$v<!X(~%Q[,Y$lF%5d-I=U^C1;XG~=>$*FZ.;Op&d#0O];m%hd0$0*htY2cb*-GO~,YfAQtI1G^sG5teR[L6?V]^9;=-5U7qT>Uw->HI_c]h7;aG$l:MK9Pe3Gk]MfK4trj3k7(QNQtR)b7hK*leSmjARwH[+-ZfhTHgJggE/vCV5NHE!D!I%n$pgt2_APed0V5bD+H8@VM^:ptX<a&n)l#!Ck!<$l-,c*P2<aM=./s!#&!/-b$RFnq7?L$8FCHuqC-g<G>L3swf=,7*XkEIvH7~*DPj.cu:vvh+<;I,~7z~&vkZB+ilL#?MSO#,|XuGXV)gr*IjK_7f4#>Y%5D=@bDiQ@L*6sku]pkp.E]?63LG=w<N;;pE68JSMLSxbQ.@f4[OS^wgcriwhF*;^?E6L7.>fAfN<@ZdaD%Xt-0)4p?KU7)~^[qRFEQ8NjBnd~NGHH!?=_MZ3+zWV$&Qi.#i;,+-7TXANT=Y%sjdYNxOg617S<~2a5@>9R%gTM;Mr]Ykhf5(,:x&5@SHWlMjb7Q|<y|VC>h$,aFKYvE?q#=+)Lsj=R04BzcyI2T>?ZWk5f;B(%S7@/A8.#G1h!Q]AFy&FJ?(+Ti9eRWf*yms+<2zli2;K5:?*j?=|sxj1!1B3%e[Ng[vZL&*4^E2FN/[R1XEC6CZ(1N#/_=vLd_%dg[|7P(w=N~:0/>6Q]J@UH%T,9WX.o[*7AMP*xAP5lW#>VP5KCPQW3rzfr|jCW1<BvU61>U@,NbJ9N)/fLwG]p$yg_uAil@LP;sUG/MI7fix^!*8zy$$@[(y3@7r~G#[RnEZuX@MKbbOEbE4.g+As^qHdsQtNH]fb+ABeDF(91i&aIfPjyzn^Af+tP0FIH?W$#@I-rP,bg~|q&GUK)0_|XA[7ILeQfbc$J7>=.qKzAw-.6eQy5V0Z6.^D5-5@,_~X2;>k5;IBkf_V>]Tm:)^%$kU1]LkQ?g%@i|K0V_MQwN(rH]G~@<.NM>G4@tOKu>oa3M^F9Dlcp9/)o.#O%8jA#HkgTbD-G^dvPtiUI*[G68_6#]PCG49ioW^c|.)GktH!&cYd4qA/@&q3;8]X%*q~1.Ivyw^FnL8SBF[RYl00V&g^QPTNt<(P(Jx67&$Q~e_:&@i&gIS,xDXT1>/-)P6$?udP#t)1cNIo#y-iSDLopzHQ!->/#QE|&.M;WIJa]c(Cqn<%Ds+9*c,PTkFIzuQZ>Mr-Z%*PA8olp$dUUm-jvG_P=fricUKtTIR#.gWv_r,(W>&lYCN_8j**~E[t!|r^ILiqPe$Y626%fN^T272_MZ:yXHn&tACc/A++Fn1EJW[j@#ze9]Ow=qh&WR);ijus<qd7j6d$4-FQI#K"]

/-- The ranges of code points that may continue an identifier, in increasing order. -/
def identifierPartRanges : List (Nat × Nat) :=
  hexStepRuns <| unpackText <| String.join [
    "JROF-i2x4F$xrasb9)5QgdY<B(gk,@cVJ4Ta]oKgPr]hQBOgM9$p<<7XdiY4:&zmbhZ*k^9>$dq.:Dmaa-0NC*=sghGo<_C9/hC)*45.;@?m^vX,6Od%UrOf560ZOE5.Wf_GM|vQ5lmu-j)*,^gzD[R(CL3..^4b)F;?nd3$*Z5*7)O!DYpK#g/m.H[&X%f86X,C|.1R2gZ+2HMCA)2e9.g]]mOwgQl~~CGRY6B8@N)b*_:FdwwQRFKGCFI6qOB+L3xO-,q-+]7N8zL_#_<FUy+r06~MQ*()d~>DUzzO-AFPh6[tV@]L~Q7b_#lPjRc9!j1WSf60I=)zq%kL|CMuLB2NSR-n<!=2QU~A6%J;e6u[&[1fWuc&0jH[G6f:G^)[6*]6J?7ObN@6B!<_$YC5^i<_j8jIZX_JI|z@;$x-]lB)Mti~V:~g0wEaU&,xh&ux[pl>gCF#9lGz4W*%CLS.y2I~S*:Q.5-fA9n(PVmU<e3<QP17uHr2jeb/L:9$uA>U7x#.jm19G<!7;T8KEe>-Ra4.L/Uh5&3#h/fz!kX~[Nz0RX7XP-[$0PG3nx1ke][P%&T&JGqy6R@A%[?B.W#FM[(oBn8EZ_c7Hx?=OI&[Hh4JYuz4%.ijf-Y6lgPK37:H4er/f5gp(x(Vi0:WmFT=L(e>*4u$uMe=*U91YX!K[Q@kc-[dKDJI*z6887HGRSGWBGD13wR:)7*_5)eh;cu)BfT?FMToh^F%MxhzLMjQVL02>8$Z5cC#q~>!S!SR]f:|!d$.|i;SoXN;/4~VR[DfpOUx&yI^>sa;(uZZ$*|0aFX2#!FJcj245ZHy@fHdP(P:,_Tbn27MURYVdP#=TDd,X+u(s(/oR8:CdbJN:,Cde3$-<Cv1V!V843|+rf6D!;LJjx]XC)Ov0Fo4])5x?Yg*>RF9^^T_.>nU|q]dzKm@hI2wUtixjbqlOR$Q0~a?(T.W3cZZw0iLYo6hXZ#]%fU2RtA|T#rqk-<A@q0Ae/YQj.AoGR5wG%Q4-6nMXJ%T5V%8XR&WSh3>FI788sZF2[[s03A[MP)x@yu#QpUOC!BlY>z>7&O2Sv)^QxKU&haD$DWtNG4>x;=R:!ar@69*1</H!#Qkqd?k4#78/I?R]@;X=nawH4:E4t;yE,?$-[a,bA>-3!Ag&OXmdgACZ?:pOmCCb;UT|Cy*[bD|Z-+^47F~Vwp=>A7)BBS3yk@ayZgPB;+DI^?@3?0~6j8I7k5Et73=;*?d<#mYYj<p$B:NCXj2?rn),j:)me85N]b*I:Chg]_Z<&p/)k3DiFWE4hy_FN2a#Sdw:My]P5;1md?7S/=Xa8-uRW:1c^(T[H6gW>LP0@%/rRh^s^3?%x)YcO8<H;@830,CqB0q(Yo/K4(B0x6pOfdm:P*P?c,0^NebhcGs]R:G8].9akm[Yo*zP,G[dB&=u:dw^Nq)ia<UhyaW@EG%<u6Bg+:H=T|m&FGz1=a@(M>GLGC$,m8jcJ5qfWPU%!0:.C=FrA.vb&57SMNC$87N>0[F1ts+@PovWiFYO#g8|/Bl(%Zp06|Cti|p*Zf)r66;9~iva/_/Me19z!L>%UiBUJ>h&Dd/mK+EileLOfb^3>LK"]

/-- Whether a code point lies in one of some ranges in increasing order: the scan stops at
the first range that ends at or after it. -/
def inOrderedRanges (ranges : List (Nat × Nat)) (n : Nat) : Bool :=
  match ranges.find? (fun r => n ≤ r.2) with
  | some r => r.1 ≤ n
  | none => false

/-- Whether a character is a letter or a number: its general category is a letter's or a
number's. -/
def isAlphanumeric (c : Char) : Bool :=
  let category := generalCategory c.toNat
  category.startsWith "L" || category.startsWith "N"

/-- Whether a character is a letter: its general category is a letter's. -/
def isAlphabetic (c : Char) : Bool := (generalCategory c.toNat).startsWith "L"

/-- Whether a character is a word character: alphanumeric or the underscore. -/
def isWordChar (c : Char) : Bool := c = '_' || isAlphanumeric c

/-- Whether a text is an identifier. -/
def isIdentifier : List Char → Bool
  | [] => false
  | c :: cs => inOrderedRanges identifierStartRanges c.toNat &&
      cs.all fun d => inOrderedRanges identifierPartRanges d.toNat

end ItemRecommender.Text
