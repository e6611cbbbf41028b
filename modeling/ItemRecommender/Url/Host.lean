import ItemRecommender.Text.Digit
/-!
# Hosts in brackets

A host written in brackets in a URL must be an IPv6 address or a future address form; a dotted
IPv4 address is refused there.

* An IPv4 address (`isIpv4Address`) is four dot-separated decimal parts of one to three ASCII
  digits, each at most 255 and without a leading zero.
* An IPv6 address (`isIpv6Address`) is colon-separated groups of one to four hexadecimal
  digits, perhaps followed by `%` and a non-empty zone without another `%`. Eight groups are
  written out, or fewer with one `::` standing for at least one group of zeros; the last two
  groups may be written as an IPv4 address.
* A future form (`isFutureAddress`) is `v`, hexadecimal digits, a dot, and at least one more
  character.
-/

namespace ItemRecommender.Url

open ItemRecommender.Text

/-- The number of the ASCII digits of a text. -/
def digitsValue (cs : List Char) : Nat :=
  cs.foldl (fun n c => n * 10 + (c.toNat - 48)) 0

/-- Whether a part of a dotted address is a decimal number from 0 to 255 written without a
leading zero. -/
def isOctet (part : List Char) : Bool :=
  !part.isEmpty && part.all isAsciiDigit && part.length ≤ 3 &&
    (part == ['0'] || part.head? != some '0') && digitsValue part ≤ 255

/-- Whether a text is a dotted IPv4 address. -/
def isIpv4Address (cs : List Char) : Bool :=
  let parts := cs.splitOn '.'
  parts.length == 4 && parts.all isOctet

/-- Whether a group of an IPv6 address is one to four hexadecimal digits. -/
def isHextet (group : List Char) : Bool :=
  !group.isEmpty && group.length ≤ 4 && group.all isAsciiHexDigit

/-- The groups of an IPv6 address with a dotted IPv4 tail written as two groups; `none` when the
tail is no IPv4 address. -/
def withoutDottedTail (groups : List (List Char)) : Option (List (List Char)) :=
  match groups.getLast? with
  | some tail =>
    if tail.contains '.' then
      if isIpv4Address tail then some (groups.dropLast ++ [['0'], ['0']]) else none
    else some groups
  | none => some groups

/-- Whether the groups of an IPv6 address, split at its colons, make up eight groups. -/
def groupsFitAddress (groups : List (List Char)) : Bool :=
  let n := groups.length
  let inner := (List.range n).filter fun i => 0 < i ∧ i + 1 < n ∧ (groups.getD i []).isEmpty
  match inner with
  | [] =>
    n == 8 && groups.all isHextet
  | [i] =>
    let firstEmpty := (groups.headD []).isEmpty
    let lastEmpty := (groups.getLastD []).isEmpty
    let high := if firstEmpty then i - 1 else i
    let low := if lastEmpty then n - i - 2 else n - i - 1
    (!firstEmpty || i = 1) && (!lastEmpty || i + 2 = n) && high + low < 8 &&
      (groups.take high).all isHextet && (groups.drop (n - low)).all isHextet
  | _ => false

/-- Whether a text is an IPv6 address without a zone. -/
def isBareIpv6Address (cs : List Char) : Bool :=
  let groups := cs.splitOn ':'
  !cs.isEmpty && 3 ≤ groups.length &&
    match withoutDottedTail groups with
    | some groups => groups.length ≤ 9 && groupsFitAddress groups
    | none => false

/-- Whether a text is an IPv6 address, perhaps with a zone. -/
def isIpv6Address (cs : List Char) : Bool :=
  if cs.contains '/' then false
  else
    match cs.splitOn '%' with
    | [address] => isBareIpv6Address address
    | [address, zone] => !zone.isEmpty && isBareIpv6Address address
    | _ => false

/-- Whether a text is a future address form: `v`, hexadecimal digits, a dot and more. -/
def isFutureAddress (cs : List Char) : Bool :=
  match cs with
  | 'v' :: rest =>
    let digits := rest.takeWhile isAsciiHexDigit
    match rest.drop digits.length with
    | '.' :: _ :: _ => !digits.isEmpty
    | _ => false
  | _ => false

end ItemRecommender.Url
