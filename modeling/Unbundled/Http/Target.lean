import Unbundled.Text.Split
import Unbundled.Text.Utf8

/-!
The target of a request: a path with its query, a whole URI, an authority alone, or the asterisk.
-/
namespace Unbundled.Http

inductive Target where
  /-- A path and its query, which may have come with a scheme and an authority. -/
  | path (text : String)
  | authority
  | asterisk
  deriving DecidableEq, Repr

namespace Target

/-- The longest target, in octets. -/
def maxSize : Nat := 65534

def between (low high : Nat) (c : Char) : Bool := low ≤ c.toNat && c.toNat ≤ high

/-- Quotes and braces belong in escapes, but are let through. -/
def isPathChar (c : Char) : Bool :=
  c = '!' || between 0x24 0x3B c || c = '=' || between 0x40 0x5F c || between 0x61 0x7A c
    || c = '|' || c = '~' || 0x7F ≤ c.toNat || c = '"' || c = '\x7b' || c = '\x7d'

def isQueryChar (c : Char) : Bool :=
  c = '!' || between 0x24 0x3B c || c = '=' || 0x3F ≤ c.toNat

/-- The path and the query before a fragment. -/
def pathAndQuery? (cs : List Char) : Option (List Char) :=
  let kept := cs.takeWhile (· ≠ '#')
  let path := kept.takeWhile (· ≠ '?')
  if path.all isPathChar && ((kept.drop path.length).drop 1).all isQueryChar then some kept
  else none

/-! ### Schemes and authorities -/

def maxScheme : Nat := 64

def isSchemeChar (c : Char) : Bool := c.isAlphanum || ['+', '-', '.', '~'].contains c

/-- What follows a scheme; `some none` where there is no scheme, `none` where it is too long. -/
def schemeEnd? (cs : List Char) : Option (Option (List Char)) :=
  let scheme := cs.takeWhile isSchemeChar
  match Text.dropPrefix? [':', '/', '/'] (cs.drop scheme.length) with
  | none => some none
  | some rest => if maxScheme < scheme.length then none else some (some rest)

/-- What an authority has shown so far. -/
structure Seen where
  colons : Nat := 0
  opened : Bool := false
  closed : Bool := false
  percent : Bool := false
  /-- The last character was the end of the user information. -/
  userEnd : Bool := false

def maxColons : Nat := 8

def isAuthorityChar (c : Char) : Bool :=
  c.isAlphanum || "!$&'()*+,-.;=_~".toList.contains c

/-- The authority continues with `c`. Colons and escapes count anew behind the user information
and behind an address in brackets. -/
def Seen.step (s : Seen) (c : Char) : Option Seen :=
  if c = ':' then
    if maxColons ≤ s.colons then none
    else some { s with colons := s.colons + 1, userEnd := false }
  else if c = '[' then
    if s.percent || s.opened then none else some { s with opened := true, userEnd := false }
  else if c = ']' then
    if !s.opened || s.closed then none
    else some { s with closed := true, colons := 0, percent := false, userEnd := false }
  else if c = '@' then some { s with colons := 0, percent := false, userEnd := true }
  else if c = '%' then some { s with percent := true, userEnd := false }
  else if isAuthorityChar c then some { s with userEnd := false }
  else none

def Seen.isComplete (s : Seen) : Bool :=
  s.opened = s.closed && s.colons ≤ 1 && !s.userEnd && !s.percent

/-- What follows the authority, unless that is malformed. -/
def authorityEnd? (cs : List Char) : Option (List Char) :=
  let authority := cs.takeWhile fun c => !(c = '/' || c = '?' || c = '#')
  match authority.foldlM Seen.step {} with
  | some s => if s.isComplete then some (cs.drop authority.length) else none
  | none => none

/-- The target of a URI behind its scheme. -/
def ofAuthority? (cs : List Char) : Option Target := do
  let rest ← authorityEnd? cs
  if rest.length = cs.length then none
  let kept ← pathAndQuery? rest
  return .path (if kept.isEmpty then "/" else String.ofList kept)

def ofChars? (cs : List Char) : Option Target :=
  match cs with
  | [] => none
  | ['*'] => some .asterisk
  | '/' :: _ => (pathAndQuery? cs).map fun kept => .path (String.ofList kept)
  | _ =>
    match schemeEnd? cs with
    | none => none
    | some (some rest) => ofAuthority? rest
    | some none => if authorityEnd? cs = some [] then some .authority else none

def ofText? (text : String) : Option Target :=
  if maxSize < Utf8.size text.toList then none else ofChars? text.toList

end Target

end Unbundled.Http
