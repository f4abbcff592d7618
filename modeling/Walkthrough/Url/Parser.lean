import Walkthrough.Url.Basic
import Walkthrough.Url.Host

/-!
# Walkthrough.Url.Parser

Reading addresses, absolute or relative to a base.

* `parse` reads a text with or without a base.
* `join` reads a text relative to an address.
-/

namespace Walkthrough
namespace Url

/-- The text without blanks and controls at its ends and without tabs and line ends. -/
def clean (s : String) : List Char :=
  let edge (c : Char) : Bool := c.toNat ≤ 0x20
  let cs := s.toList.dropWhile edge
  let cs := (cs.reverse.dropWhile edge).reverse
  cs.filter fun c => c != '\t' && c != '\n' && c != '\r'

/-- A scheme in small letters and what follows its colon. -/
def takeScheme? (cs : List Char) : Option (List Char × List Char) :=
  match cs with
  | [] => none
  | c :: _ =>
    if c.isAlpha then
      let name := cs.takeWhile fun c => c.isAlphanum || c = '+' || c = '-' || c = '.'
      match cs.drop name.length with
      | ':' :: rest => some (name.map Char.toLower, rest)
      | _ => none
    else none

/-- The port that an address of the scheme need not name. -/
def defaultPort (scheme : List Char) : Option Nat :=
  let s := String.ofList scheme
  if s = "http" ∨ s = "ws" then some 80
  else if s = "https" ∨ s = "wss" then some 443
  else if s = "ftp" then some 21
  else none

/-- The query and the fragment that follow a path. -/
def tailParts (family : Family) (cs : List Char) : Option (List Char) × Option (List Char) :=
  let fragmentOf : List Char → Option (List Char)
    | [] => none
    | _ :: f => some (encode inFragmentSet f)
  match cs with
  | '?' :: cs =>
    let set := if family.isSpecial then inSpecialQuerySet else inQuerySet
    (some (encode set (cs.takeWhile (· != '#'))), fragmentOf (cs.dropWhile (· != '#')))
  | cs => (none, fragmentOf cs)

/-- An address with the query and the fragment of what follows the path. -/
def finish (scheme : List Char) (authority : Option Authority) (path rest : List Char) : Url :=
  let (query, fragment) := tailParts (Family.ofScheme scheme) rest
  ⟨scheme, authority, path, query, fragment⟩

/-- Does a character end the authority? -/
def endsAuthority (family : Family) (c : Char) : Bool :=
  c = '/' || c = '?' || c = '#' || (c = '\\' && family.isSpecial)

/-- A name and a password in their written form, with the at sign unless both are empty. -/
def credentialText (cs : List Char) : List Char :=
  let name := cs.takeWhile (· != ':')
  let password := (cs.dropWhile (· != ':')).drop 1
  let text := encode inCredentialSet name
    ++ (if password.isEmpty then [] else ':' :: encode inCredentialSet password)
  if name.isEmpty && password.isEmpty then [] else text ++ ['@']

/-- Cut the name and the password off the front, if an at sign comes before the authority's end. -/
def takeCredentials (family : Family) (cs : List Char) :
    Except Fault (List Char × List Char) :=
  let inside := cs.takeWhile (!endsAuthority family ·)
  if inside.contains '@' then
    let tail := (inside.reverse.takeWhile (· != '@')).reverse
    let user := inside.take (inside.length - tail.length - 1)
    let rest := cs.drop (user.length + 1)
    if user.isEmpty then
      match rest with
      | c :: _ => if endsAuthority family c then .error .emptyHost else .ok ([], rest)
      | [] => .ok ([], rest)
    else .ok (credentialText user, rest)
  else .ok ([], cs)

/-- The length of a host: a colon inside brackets does not end it. -/
def hostLength (family : Family) : Bool → List Char → Nat
  | _, [] => 0
  | inside, c :: cs =>
    if (c = ':' && !inside) || endsAuthority family c then 0
    else
      let inside := if c = '[' then true else if c = ']' then false else inside
      hostLength family inside cs + 1

/-- Read digits of a port up to what may follow it. -/
def takePort (scheme : List Char) (cs : List Char) : Except Fault (Option Nat × List Char) :=
  let digits := cs.takeWhile Char.isDigit
  let rest := cs.dropWhile Char.isDigit
  let n := Binary64.ofDigits digits
  if 65535 < n then .error .invalidPort
  else
    let follows := match rest with
      | [] => true
      | c :: _ => ['/', '\\', '?', '#'].contains c
    if !follows then .error .invalidPort
    else if digits.isEmpty || defaultPort scheme = some n then .ok (none, rest)
    else .ok (some n, rest)

/-- The host and the port in front of a path. -/
def takeHost (scheme : List Char) (cs : List Char) :
    Except Fault (List Char × Option Nat × List Char) := do
  let family := Family.ofScheme scheme
  let n := hostLength family false cs
  let raw := cs.take n
  let rest := cs.drop n
  if family = .web && raw.isEmpty then throw .emptyHost
  let host ← if family.isSpecial then host? raw else opaqueHost? raw
  match rest with
  | ':' :: digits =>
    if host.isEmpty then throw .emptyHost
    let (port, rest) ← takePort scheme digits
    return (host, port, rest)
  | rest => return (host, none, rest)

/-- The path behind an authority. -/
def pathStart (family : Family) (st : PathState) (cs : List Char) : PathState × List Char :=
  if family.isSpecial then
    let st := { st with path := ['/'] }
    match cs with
    | c :: rest => if c = '/' ∨ c = '\\' then build family st rest else build family st cs
    | [] => build family st []
  else
    match cs with
    | [] => build family st []
    | c :: _ =>
      if c = '?' ∨ c = '#' then (st, cs)
      else build family (if c = '/' then st else { st with path := ['/'] }) cs

/-- What follows the two slashes of an address that is no local file. -/
def afterSlashes (scheme : List Char) (cs : List Char) : Except Fault Url := do
  let family := Family.ofScheme scheme
  let (credentials, cs) ← takeCredentials family cs
  let (host, port, cs) ← takeHost scheme cs
  if host.isEmpty && !credentials.isEmpty then throw .emptyHost
  let (st, rest) := pathStart family ⟨[], true⟩ cs
  return finish scheme (some ⟨credentials, host, port⟩) st.path rest

/-- An address with another fragment. -/
def withFragment (base : Url) (cs : List Char) : Url :=
  { base with fragment := some (encode inFragmentSet (cs.drop 1)) }

/-- A drive letter as the first segment of a text. -/
def startsWithDriveSegment (cs : List Char) : Bool := startsWithDrive cs

/-- The host of a local file; a drive letter or the local host is none. -/
def takeFileHost (cs : List Char) : Except Fault (List Char × List Char) := do
  let stops (c : Char) : Bool := ['/', '\\', '?', '#'].contains c
  let raw := cs.takeWhile (!stops ·)
  if isDrive raw then return ([], cs)
  let rest := cs.drop raw.length
  if raw.isEmpty then return ([], rest)
  let host ← host? raw
  return (if host = "localhost".toList then [] else host, rest)

/-- An address of a local file, from what follows its scheme. -/
def parseFile (base : Option Url) (cs : List Char) : Except Fault Url := do
  let scheme := "file".toList
  let isSlash (c : Char) : Bool := c = '/' || c = '\\'
  match cs with
  | a :: b :: rest =>
    if isSlash a && isSlash b then
      let (host, rest) ← takeFileHost rest
      let (st, rest) :=
        if host.isEmpty then build .file ⟨['/'], false⟩ rest
        else pathStart .file ⟨[], true⟩ rest
      return finish scheme (some ⟨[], if st.host then host else [], none⟩) st.path rest
  | _ => pure ()
  match cs with
  | a :: after =>
    if isSlash a then
      let (host, path) : List Char × List Char :=
        match base with
        | some u =>
          if startsWithDriveSegment after then ([], [])
          else
            let first := (u.path.drop 1).takeWhile (· != '/')
            if isNormalDrive first then ([], '/' :: first)
            else match u.authority with
              | some au => (au.host, [])
              | none => ([], [])
        | none => ([], [])
      let (st, rest) := build .file ⟨path, false⟩ cs
      return finish scheme (some ⟨[], host, none⟩) st.path rest
  | [] => pure ()
  match base with
  | none =>
    let (st, rest) := build .file ⟨['/'], false⟩ cs
    return finish scheme (some ⟨[], [], none⟩) st.path rest
  | some u =>
    match cs with
    | [] => return { u with fragment := none }
    | '?' :: _ =>
      let (query, fragment) := tailParts .file cs
      return { u with query := query, fragment := fragment }
    | '#' :: _ => return u.withFragment cs
    | _ =>
      if startsWithDriveSegment cs then
        let (st, rest) := build .file ⟨['/'], false⟩ cs
        return finish scheme (some ⟨[], [], none⟩) st.path rest
      else
        let (st, rest) := build .file ⟨shorten .file u.path, true⟩ cs
        return finish scheme u.authority st.path rest

/-- An address relative to one that is no local file. -/
def parseRelative (base : Url) (cs : List Char) : Except Fault Url := do
  let family := base.family
  match cs with
  | [] => return { base with fragment := none }
  | '?' :: _ =>
    let (query, fragment) := tailParts family cs
    return { base with query := query, fragment := fragment }
  | '#' :: _ => return base.withFragment cs
  | c :: after =>
    let isSlash (c : Char) : Bool := c = '/' || c = '\\'
    if isSlash c then
      let slashes := cs.takeWhile isSlash
      if 2 ≤ slashes.length then
        if cs.take 2 = ['/', '/'] then afterSlashes base.scheme (cs.drop 2)
        else afterSlashes base.scheme (cs.drop slashes.length)
      else
        let (st, rest) := build family ⟨['/'], true⟩ after
        return finish base.scheme base.authority st.path rest
    else
      let path := pop family base.path
      let path := if path.isEmpty then ['/'] else path
      let (st, rest) := build family ⟨path, true⟩ cs
      return finish base.scheme base.authority st.path rest

/-- An address of a scheme that is neither of the web nor of local files. -/
def parseOther (scheme : List Char) (cs : List Char) : Except Fault Url :=
  match cs with
  | '/' :: '/' :: rest => afterSlashes scheme rest
  | '/' :: rest =>
    let (st, rest) := build .other ⟨['/'], false⟩ rest
    .ok (finish scheme none st.path rest)
  | cs =>
    let stops (c : Char) : Bool := c = '?' || c = '#'
    let path := encode isControl (cs.takeWhile (!stops ·))
    .ok (finish scheme none path (cs.dropWhile (!stops ·)))

/-- Read an address; a text without a scheme is relative to the base. -/
def parse (base : Option Url) (s : String) : Except Fault Url :=
  let cs := clean s
  match takeScheme? cs with
  | some (scheme, rest) =>
    match Family.ofScheme scheme with
    | .file => parseFile (base.filter fun u => u.family = .file) rest
    | .other => parseOther scheme rest
    | .web =>
      let isSlash (c : Char) : Bool := c = '/' || c = '\\'
      let slashes := rest.takeWhile isSlash
      match base with
      | some u =>
        if slashes.length < 2 && u.scheme = scheme then parseRelative u rest
        else afterSlashes scheme (rest.drop slashes.length)
      | none => afterSlashes scheme (rest.drop slashes.length)
  | none =>
    match base with
    | none => .error .relativeWithoutBase
    | some u =>
      if cs.head? = some '#' then .ok (u.withFragment cs)
      else if u.isOpaque then .error .relativeToOpaque
      else if u.family = .file then parseFile (some u) cs
      else parseRelative u cs

/-- Read an address relative to another. -/
def join (base : Url) (s : String) : Except Fault Url := parse (some base) s

end Url
end Walkthrough
