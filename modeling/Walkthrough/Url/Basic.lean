import Walkthrough.Url.Path

/-!
# Walkthrough.Url.Basic

Addresses by their parts, and their text.

* `render` writes an address; a path that starts with two slashes is set off by a dot when there
  is no host in front of it.
-/

namespace Walkthrough

/-- Who is addressed: a name and a password with their at sign, a host, a port. -/
structure Url.Authority where
  credentials : List Char
  host : List Char
  port : Option Nat
deriving DecidableEq, Repr

/-- An address. -/
structure Url where
  scheme : List Char
  authority : Option Url.Authority
  path : List Char
  query : Option (List Char)
  fragment : Option (List Char)
deriving DecidableEq, Repr

namespace Url

def family (u : Url) : Family := Family.ofScheme u.scheme

/-- An address whose path is no row of segments; nothing can be relative to it but a fragment. -/
def isOpaque (u : Url) : Bool := u.authority.isNone && u.path.head? != some '/'

def Authority.render (a : Authority) : List Char :=
  '/' :: '/' :: (a.credentials ++ a.host
    ++ match a.port with
      | none => []
      | some p => ':' :: (Nat.repr p).toList)

def renderChars (u : Url) : List Char :=
  u.scheme ++ ':' ::
    ((match u.authority with
      | some a => a.render
      | none => if u.path.take 2 = ['/', '/'] then ['/', '.'] else [])
    ++ u.path
    ++ (match u.query with
      | none => []
      | some q => '?' :: q)
    ++ (match u.fragment with
      | none => []
      | some f => '#' :: f))

/-- The text of an address. -/
def render (u : Url) : String := String.ofList u.renderChars

/-- What the host of an address is asked for: the path with the query. -/
def target (u : Url) : String :=
  String.ofList (u.path ++ match u.query with
    | none => []
    | some q => '?' :: q)

end Url
end Walkthrough
