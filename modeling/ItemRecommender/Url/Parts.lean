import ItemRecommender.Url.Host
import ItemRecommender.Text.Normalization
import ItemRecommender.Text.Quoted
/-!
# The parts of a URL

A URL is split (`UrlParts.split`) into a scheme, a network location, a path, a query and a
fragment, in this order:

1. blanks and control characters are dropped from the front, and tabs and line ends from
   everywhere;
2. a scheme is the text before the first colon when it starts with an ASCII letter and has
   only letters, digits, `+`, `-` and `.`; it is written in small letters;
3. after `//` the network location runs to the first `/`, `?` or `#`; its brackets must pair
   up, and a host in brackets must be an IPv6 address or a future address form
   (`Url.Host`);
4. the fragment follows the first `#` (when fragments are split off), the query the first
   `?`;
5. a network location outside ASCII may not gain separators under compatibility
   normalization.

Parsing (`UrlParts.parse`) also splits the parameters off the last segment of the path, for
the schemes that have them. Joining the parts (`UrlParts.unsplit`) writes each part with its
separator when it is not empty, and `//` before a network location, or before the path of a
scheme that has one. A reference is resolved against a base URL (`resolve`) by the rules for
relative references: `.` and `..` segments are worked out, and `..` never climbs above the
root. Older helpers cut a URL after its scheme, a host before its port, and the like.
-/

namespace ItemRecommender.Url

open ItemRecommender.Text

/-- The parts of a URL, each as text; `params` is empty unless the path's parameters were split
off. -/
structure UrlParts where
  scheme : List Char
  netloc : List Char
  path : List Char
  params : List Char := []
  query : List Char
  fragment : List Char
  deriving DecidableEq, Repr

/-- Why a URL cannot be split. -/
inductive UrlFault where
  /-- A bracket of the network location without its partner. -/
  | unpairedBracket
  /-- A host in brackets that starts with `v` but is no future address form. -/
  | badFutureAddress
  /-- A dotted IPv4 address in brackets. -/
  | bracketedIpv4
  /-- A host in brackets that is no address. -/
  | notAnAddress (host : List Char)
  /-- A network location that gains a separator under compatibility normalization. -/
  | unsafeNormalization (netloc : List Char)
  deriving DecidableEq, Repr

/-- The words of a fault of splitting. -/
def UrlFault.message : UrlFault → String
  | .unpairedBracket => "Invalid IPv6 URL"
  | .badFutureAddress => "IPvFuture address is invalid"
  | .bracketedIpv4 => "An IPv4 address cannot be in brackets"
  | .notAnAddress host =>
    quote (String.ofList host) ++ " does not appear to be an IPv4 or IPv6 address"
  | .unsafeNormalization netloc => "netloc '" ++ String.ofList netloc ++
      "' contains invalid characters under NFKC normalization"

/-- The schemes whose URLs may be relative. -/
def relativeSchemes : List String :=
  ["", "ftp", "http", "gopher", "nntp", "imap", "wais", "file", "https", "shttp", "mms",
    "prospero", "rtsp", "rtsps", "rtspu", "sftp", "svn", "svn+ssh", "ws", "wss"]

/-- The schemes whose URLs have a network location. -/
def netlocSchemes : List String :=
  ["", "ftp", "http", "gopher", "nntp", "telnet", "imap", "wais", "file", "mms", "https", "shttp",
    "snews", "prospero", "rtsp", "rtsps", "rtspu", "rsync", "svn", "svn+ssh", "sftp", "nfs", "git",
    "git+ssh", "ws", "wss"]

/-- The schemes whose paths have parameters. -/
def paramSchemes : List String :=
  ["", "ftp", "hdl", "prospero", "http", "imap", "https", "shttp", "rtsp", "rtsps", "rtspu", "sip",
    "sips", "mms", "sftp", "tel"]

/-- Whether a scheme is one of a list. -/
def schemeIn (schemes : List String) (scheme : List Char) : Bool :=
  schemes.contains (String.ofList scheme)

/-- Whether a character may stand in a scheme. -/
def isSchemeChar (c : Char) : Bool :=
  ('a' ≤ c && c ≤ 'z') || ('A' ≤ c && c ≤ 'Z') || ('0' ≤ c && c ≤ '9') || c == '+' ||
    c == '-' || c == '.'

/-- Whether a character is a control character or a space. -/
def isControlOrSpace (c : Char) : Bool := c.toNat ≤ 0x20

/-- Whether a character is a tab or a line end, which a URL drops. -/
def isDroppedBlank (c : Char) : Bool := c == '\t' || c == '\r' || c == '\n'

/-- A character in small letters, for ASCII. -/
def asciiLower (c : Char) : Char := if 'A' ≤ c && c ≤ 'Z' then Char.ofNat (c.toNat + 32) else c

/-- A text cut at the first occurrence of a character: the text before and, when it occurs,
the text after. -/
def cutAt (sep : Char) (cs : List Char) : List Char × Option (List Char) :=
  match cs.findIdx? (· == sep) with
  | some i => (cs.take i, some (cs.drop (i + 1)))
  | none => (cs, none)

/-- A text cut at the last occurrence of a character. -/
def cutAtLast (sep : Char) (cs : List Char) : Option (List Char) × List Char :=
  match cutAt sep cs.reverse with
  | (after, some before) => (some before.reverse, after.reverse)
  | (_, none) => (none, cs)

/-- The scheme a URL starts with and the rest, when it starts with one. -/
def schemePrefix? (cs : List Char) : Option (List Char × List Char) :=
  match cutAt ':' cs with
  | (scheme@(c :: _), some rest) =>
    if c.toNat < 128 && c.isAlpha && scheme.all isSchemeChar then some (scheme.map asciiLower, rest)
    else none
  | _ => none

/-- The host written between the first brackets of a network location. -/
def bracketedHost (netloc : List Char) : List Char :=
  ((cutAt '[' netloc).2.getD []).takeWhile (· != ']')

/-- The check of a host written in brackets. -/
def checkBracketedHost (host : List Char) : Except UrlFault Unit :=
  if host.head? == some 'v' then
    if isFutureAddress host then pure () else throw .badFutureAddress
  else if isIpv4Address host then throw .bracketedIpv4
  else if isIpv6Address host then pure ()
  else throw (.notAnAddress host)

/-- The check that a network location outside ASCII gains no separator under compatibility
normalization (ignoring the separators it already has). -/
def checkNormalization (netloc : List Char) : Except UrlFault Unit :=
  if netloc.all (·.toNat < 128) then pure ()
  else
    let kept := netloc.filter fun c => c != '@' && c != ':' && c != '#' && c != '?'
    let normal := normalize .nfkc (kept.map Char.toNat)
    if normal == kept.map Char.toNat then pure ()
    else if normal.any fun n => [0x2F, 0x3F, 0x23, 0x40, 0x3A].contains n then
      throw (.unsafeNormalization netloc)
    else pure ()

/-- The check of a network location's brackets. -/
def checkBrackets (netloc : List Char) : Except UrlFault Unit :=
  let opens := netloc.contains '['
  let closes := netloc.contains ']'
  if opens != closes then throw .unpairedBracket
  else if opens then checkBracketedHost (bracketedHost netloc)
  else pure ()

/-- A URL split into its five parts; `defaultScheme` is the scheme when the URL names none. -/
def UrlParts.split (defaultScheme : List Char) (allowFragments : Bool) (url : List Char) :
    Except UrlFault UrlParts := do
  let url := (url.dropWhile isControlOrSpace).filter (!isDroppedBlank ·)
  let defaultScheme :=
    ((defaultScheme.dropWhile isControlOrSpace).reverse.dropWhile isControlOrSpace).reverse.filter
      (!isDroppedBlank ·)
  let (scheme, url) := (schemePrefix? url).getD (defaultScheme, url)
  let (netloc, url) ← match url with
    | '/' :: '/' :: rest =>
      let netloc := rest.takeWhile fun c => c != '/' && c != '?' && c != '#'
      checkBrackets netloc
      pure (netloc, rest.drop netloc.length)
    | _ => pure ([], url)
  let (url, fragment) := if allowFragments then cutAt '#' url else (url, none)
  let (path, query) := cutAt '?' url
  checkNormalization netloc
  pure { scheme, netloc, path, query := query.getD [], fragment := fragment.getD [] }

/-- A path cut before the parameters of its last segment, which follow its first `;`. -/
def splitParams (path : List Char) : List Char × List Char :=
  let (dir, last) := cutAtLast '/' path
  match dir, cutAt ';' last with
  | some dir, (segment, some params) => (dir ++ '/' :: segment, params)
  | some _, (_, none) => (path, [])
  | none, (segment, params) => (segment, params.getD [])

/-- A URL split into its six parts: the five of `UrlParts.split`, and the path's parameters
for the schemes that have them. -/
def UrlParts.parse (defaultScheme : List Char) (allowFragments : Bool) (url : List Char) :
    Except UrlFault UrlParts := do
  let parts ← UrlParts.split defaultScheme allowFragments url
  if schemeIn paramSchemes parts.scheme && parts.path.contains ';' then
    let (path, params) := splitParams parts.path
    pure { parts with path, params }
  else pure parts

/-- The URL of five parts, with the separators of the parts that are not empty. -/
def UrlParts.unsplit (p : UrlParts) : List Char :=
  let path :=
    if !p.netloc.isEmpty || (!p.scheme.isEmpty && schemeIn netlocSchemes p.scheme) ||
        p.path.take 2 == ['/', '/'] then
      '/' :: '/' :: p.netloc ++
        (if !p.path.isEmpty && p.path.take 1 != ['/'] then '/' :: p.path else p.path)
    else p.path
  let url := if p.scheme.isEmpty then path else p.scheme ++ ':' :: path
  let url := if p.query.isEmpty then url else url ++ '?' :: p.query
  if p.fragment.isEmpty then url else url ++ '#' :: p.fragment

/-- The URL of six parts: the path's parameters after a `;`, then as `UrlParts.unsplit`. -/
def UrlParts.unparse (p : UrlParts) : List Char :=
  { p with path := if p.params.isEmpty then p.path else p.path ++ ';' :: p.params,
           params := [] }.unsplit

/-- The segments of a path resolved: `.` dropped, `..` dropping the segment before it, if any. -/
def resolveSegments (segments : List (List Char)) : List (List Char) :=
  let kept := segments.foldl (fun acc seg =>
    if seg == ['.', '.'] then acc.dropLast
    else if seg == ['.'] then acc
    else acc ++ [seg]) []
  match segments.getLast? with
  | some ['.'] | some ['.', '.'] => kept ++ [[]]
  | _ => kept

/-- The segments of a path relative to the path of its base. -/
def mergedSegments (basePath path : List Char) : List (List Char) :=
  if path.take 1 == ['/'] then path.splitOn '/'
  else
    let baseSegments := basePath.splitOn '/'
    let baseSegments := if baseSegments.getLast? == some [] then baseSegments
      else baseSegments.dropLast
    let segments := baseSegments ++ path.splitOn '/'
    match segments with
    | first :: rest@(_ :: _) =>
      first :: (rest.dropLast.filter (!·.isEmpty)) ++ [rest.getLastD []]
    | _ => segments

/-- A reference resolved against a base URL. -/
def resolve (allowFragments : Bool) (base url : List Char) : Except UrlFault (List Char) := do
  if base.isEmpty then return url
  if url.isEmpty then return base
  let b ← UrlParts.parse [] allowFragments base
  let p ← UrlParts.parse b.scheme allowFragments url
  if p.scheme != b.scheme || !schemeIn relativeSchemes p.scheme then return url
  let netlocOwn := schemeIn netlocSchemes p.scheme
  if netlocOwn && !p.netloc.isEmpty then return p.unparse
  let p := if netlocOwn then { p with netloc := b.netloc } else p
  if p.path.isEmpty && p.params.isEmpty then
    return { p with path := b.path, params := b.params,
                    query := if p.query.isEmpty then b.query else p.query }.unparse
  let resolved := [ '/' ].intercalate (resolveSegments (mergedSegments b.path p.path))
  pure { p with path := if resolved.isEmpty then ['/'] else resolved }.unparse

/-- A URL without its fragment, and the fragment. -/
def defragment (url : List Char) : Except UrlFault (List Char × List Char) := do
  if url.contains '#' then
    let p ← UrlParts.parse [] true url
    pure ({ p with fragment := [] }.unparse, p.fragment)
  else pure (url, [])

/-- The user name and password of a network location, each when it is given. -/
def userInfo (netloc : List Char) : Option (List Char) × Option (List Char) :=
  match (cutAtLast '@' netloc).1 with
  | some info =>
    let (user, password) := cutAt ':' info
    (some user, password)
  | none => (none, none)

/-- The host and port of a network location; the port when it is not empty. -/
def hostInfo (netloc : List Char) : List Char × Option (List Char) :=
  let host := (cutAtLast '@' netloc).2
  let (host, port) := match cutAt '[' host with
    | (_, some bracketed) =>
      let (inside, after) := cutAt ']' bracketed
      (inside, (cutAt ':' (after.getD [])).2.getD [])
    | (_, none) =>
      let (name, port) := cutAt ':' host
      (name, port.getD [])
  (host, if port.isEmpty then none else some port)

/-- The host name of a network location in small letters (as `lower` writes them), the zone
after a `%` as it is; `none` for no host. -/
def hostName (lower : List Char → List Char) (netloc : List Char) : Option (List Char) :=
  let host := (hostInfo netloc).1
  if host.isEmpty then none
  else
    match cutAt '%' host with
    | (name, some zone) => some (lower name ++ '%' :: zone)
    | (name, none) => some (lower name)

/-! ## Older splitting helpers -/

/-- A URL cut after its scheme: a non-empty run of characters other than `/` and `:`, followed
by a colon. -/
def schemeAndRest? (cs : List Char) : Option (List Char × List Char) :=
  let scheme := cs.takeWhile fun c => c != '/' && c != ':'
  match cs.drop scheme.length with
  | ':' :: rest => if scheme.isEmpty then none else some (scheme, rest)
  | _ => none

/-- A URL that starts with `//` cut into its host (up to the first `/`, `#` or `?`) and the rest,
the rest starting with a `/` when it is not empty. -/
def hostAndPath? (cs : List Char) : Option (List Char × List Char) :=
  match cs with
  | '/' :: '/' :: rest =>
    let host := rest.takeWhile fun c => c != '/' && c != '#' && c != '?'
    let path := rest.drop host.length
    some (host, if !path.isEmpty && path.head? != some '/' then '/' :: path else path)
  | _ => none

/-- A host cut before a port: the digits after its last colon, when every character after the
colon is an ASCII digit; a colon with no digits after it is dropped. -/
def hostAndPort (cs : List Char) : List Char × Option (List Char) :=
  match cutAtLast ':' cs with
  | (some host, port) =>
    if port.all isAsciiDigit then (host, if port.isEmpty then none else some port) else (cs, none)
  | (none, _) => (cs, none)

end ItemRecommender.Url
