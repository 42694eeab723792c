/-
  ClusterBoot.Url
  ────────────────────────────────
  **ADDRESSES OF FILES ON THE WEB.**

  An address has a scheme, an authority (host and port) and a target, which
  is what a request names: the path without its idle steps, and the query.
  Characters that may not stand in a target are written as octets after a
  percent sign.  `resolve?` reads an address as seen from another one.
-/
import ClusterBoot.Text.Hex
import ClusterBoot.Text.Numeral
import ClusterBoot.Text.Pieces

namespace ClusterBoot

/-- An address on the web. -/
structure Url where
  /-- The scheme in small letters; on the web `http` or `https`. -/
  scheme : List Char
  /-- The host, and the port if it is not that of the scheme. -/
  authority : List Char
  /-- The path, which begins with a slash on the web. -/
  path : List Char
  /-- The query with its question mark, if there is one. -/
  query : List Char
  deriving Repr, DecidableEq

namespace Url

/-! ## §1. Octets. -/

/-- Characters that a path holds as octets. -/
def isEscapedInPath (c : Char) : Bool :=
  let n := c.toNat
  n ≤ 0x20 || 0x7F ≤ n
    || ['"', '#', '<', '>', '?', '^', '\x60', '\x7b', '\x7d'].contains c

/-- Characters that a query holds as octets. -/
def isEscapedInQuery (c : Char) : Bool :=
  let n := c.toNat
  n ≤ 0x20 || 0x7F ≤ n || ['"', '#', '<', '>', '\''].contains c

/-- An octet after a percent sign, in capital digits. -/
def octet (b : UInt8) : List Char :=
  '%' :: (Text.Hex.encodeByte b).map fun c => if 'a' ≤ c then Char.ofNat (c.toNat - 32) else c

/-- The text with some of its characters written as octets. -/
def escape (isEscaped : Char → Bool) (cs : List Char) : List Char :=
  cs.flatMap fun c => if isEscaped c then c.toString.toUTF8.toList.flatMap octet else [c]

/-! ## §2. Paths. -/

/-- Whether a step of a path stays where it is. -/
def isPoint (step : List Char) : Bool :=
  let s := step.map Text.asciiLower
  s = ['.'] || s = ['%', '2', 'e']

/-- Whether a step of a path goes up. -/
def isDoublePoint (step : List Char) : Bool :=
  let s := step.map Text.asciiLower
  s = ['.', '.'] || s = ['.', '%', '2', 'e'] || s = ['%', '2', 'e', '.']
    || s = ['%', '2', 'e', '%', '2', 'e']

/-- Follow steps from a place, which comes last step first. -/
def walk : (place : List (List Char)) → List (List Char) → List (List Char)
  | place, [] => place
  | place, step :: steps =>
      if isDoublePoint step then
        walk (if steps.isEmpty then [] :: place.drop 1 else place.drop 1) steps
      else if isPoint step then walk (if steps.isEmpty then [] :: place else place) steps
      else walk (step :: place) steps

/-- The path of a place. -/
def ofPlace (place : List (List Char)) : List Char :=
  place.reverse.flatMap ('/' :: ·)

/-- The path that steps from a place make. -/
def pathFrom (place : List (List Char)) (cs : List Char) : List Char :=
  let steps := Text.piecesOf '/' (escape isEscapedInPath cs)
  match walk place steps with
  | [] => ['/']
  | place => ofPlace place

/-! ## §3. Reading. -/

/-- The port that a scheme does not mention. -/
def defaultPort (scheme : List Char) : List Char :=
  if scheme = ['h', 't', 't', 'p'] then ['8', '0'] else ['4', '4', '3']

/-- The authority without user, and without the port of the scheme. -/
def authority? (scheme cs : List Char) : Option (List Char) :=
  let parts := Text.piecesOf '@' cs
  let place := (parts.getLast?.getD []).map Text.asciiLower
  let host := if place.head? = some '[' then place.takeWhile (· ≠ ']') ++ [']'] else place.takeWhile (· ≠ ':')
  match place.drop host.length with
  | [] => if host.isEmpty then none else some host
  | ':' :: port =>
      if host.isEmpty || !port.all Text.isDigit then none
      else if port.isEmpty || port = defaultPort scheme then some host
      else
        match Text.digits? 10 port with
        | some n => if n < 65536 then some (host ++ ':' :: (toString n).toList) else none
        | none => none
  | _ => none

/-- Path and query of what follows a place, without the fragment. -/
def withTarget (scheme authority : List Char) (place : List (List Char)) (cs : List Char) : Url :=
  let cs := cs.takeWhile (· ≠ '#')
  let path := cs.takeWhile (· ≠ '?')
  ⟨scheme, authority, pathFrom place path, escape isEscapedInQuery (cs.dropWhile (· ≠ '?'))⟩

/-- The text as it is read: without controls and blanks at its ends, without
tabs and line breaks, and with slashes for backslashes before the query. -/
def clean (s : String) : List Char :=
  let isOuter := fun (c : Char) => c.toNat ≤ 0x20
  let cs := ((s.toList.dropWhile isOuter).reverse.dropWhile isOuter).reverse
  let cs := cs.filter fun c => c ≠ '\t' && c ≠ '\n' && c ≠ '\r'
  let endsPath := fun c => c = '?' || c = '#'
  (cs.takeWhile fun c => !endsPath c).map (fun c => if c = '\\' then '/' else c)
    ++ cs.dropWhile fun c => !endsPath c

/-- The scheme at the start of a text, in small letters, and what follows its
colon. -/
def splitScheme (cs : List Char) : Option (List Char × List Char) :=
  let isSchemeChar := fun (c : Char) => c.isAlphanum || c = '+' || c = '-' || c = '.'
  let scheme := cs.takeWhile isSchemeChar
  match cs.dropWhile isSchemeChar with
  | ':' :: r =>
      if (scheme.head?.map Char.isAlpha).getD false then some (scheme.map Text.asciiLower, r)
      else none
  | _ => none

/-- Whether files can be requested with a scheme. -/
def isWebScheme (scheme : List Char) : Bool :=
  scheme = ['h', 't', 't', 'p'] || scheme = ['h', 't', 't', 'p', 's']

/-- The address that follows scheme and slashes. -/
def afterSlashes? (scheme cs : List Char) : Option Url := do
  let cs := cs.dropWhile (· = '/')
  let endsAuthority := fun c => c = '/' || c = '?' || c = '#'
  let authority ← authority? scheme (cs.takeWhile fun c => !endsAuthority c)
  let rest := cs.dropWhile fun c => !endsAuthority c
  return withTarget scheme authority [] (if rest.head? = some '/' then rest.drop 1 else rest)

/-- The address that follows a scheme.  What is not on the web keeps its text
after the colon. -/
def afterScheme? (scheme cs : List Char) : Option Url :=
  if isWebScheme scheme then afterSlashes? scheme cs
  else if cs.take 2 = ['/', '/'] then some ⟨scheme, [], cs, []⟩
  else none

/-- The address that a text stands for by itself. -/
def parse? (s : String) : Option Url := do
  let (scheme, r) ← splitScheme (clean s)
  afterScheme? scheme r

/-- The address that a text stands for, seen from another. -/
def resolve? (base : Url) (s : String) : Option Url :=
  let cs := clean s
  match splitScheme cs with
  | some (scheme, r) => afterScheme? scheme r
  | none =>
      match cs with
      | '/' :: '/' :: r => afterSlashes? base.scheme r
      | '/' :: r => some (withTarget base.scheme base.authority [] r)
      | [] => some base
      | '#' :: _ => some base
      | '?' :: _ => some { base with query := escape isEscapedInQuery (cs.takeWhile (· ≠ '#')) }
      | _ =>
          let place := (Text.piecesOf '/' (base.path.drop 1)).reverse.drop 1
          some (withTarget base.scheme base.authority place cs)

/-! ## §4. Parts. -/

/-- Whether an address is on the web. -/
def isWeb (u : Url) : Bool :=
  isWebScheme u.scheme

/-- What a request names. -/
def target (u : Url) : String :=
  String.ofList (u.path ++ u.query)

end Url

end ClusterBoot
