import Unbundled.Text.Printable

/-!
Quoted texts of diagnostics: quotes, backslashes and characters that cannot be shown are escaped.
-/
namespace Unbundled.Text

def escapeFor (quote : Char) (c : Char) : List Char :=
  if c = quote then ['\\', quote]
  else if c = '\\' then ['\\', '\\']
  else if c = '\n' then ['\\', 'n']
  else if c = '\r' then ['\\', 'r']
  else if c = '\t' then ['\\', 't']
  else if c.toNat = 0 then ['\\', '0']
  else if !isPrintable c then
    ['\\', 'u', '\x7b'] ++ Nat.toDigits 16 c.toNat ++ ['\x7d']
  else [c]

def stringLiteral (s : String) : String :=
  String.ofList ('"' :: (s.toList.flatMap (escapeFor '"') ++ ['"']))

def charLiteral (c : Char) : String :=
  String.ofList ('\'' :: (escapeFor '\'' c ++ ['\'']))

end Unbundled.Text
