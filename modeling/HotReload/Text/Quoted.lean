import HotReload.Text.Unprintable

/-!
# Quoted text

How a message shows a text or a character that came from outside: between quotes, with escapes for
what would not be visible. A text escapes its double quotes and a character its single quote.
-/

namespace HotReload.Text

/-- A code point in lower-case hexadecimal between braces, such as `\u{301}`. -/
def codePointEscape (c : Char) : List Char :=
  ['\\', 'u', '\x7b'] ++ Nat.toDigits 16 c.toNat ++ ['\x7d']

/-- The characters that stand for `c` between two marks `quote`. -/
def quotedChar (quote : Char) (c : Char) : List Char :=
  if c = '\x00' then ['\\', '0']
  else if c = '\t' then ['\\', 't']
  else if c = '\r' then ['\\', 'r']
  else if c = '\n' then ['\\', 'n']
  else if c = '\\' || c = quote then ['\\', c]
  else if graphemeExtend.contains c || unprintable.contains c then codePointEscape c
  else [c]

def quote (s : String) : String :=
  .ofList (['"'] ++ s.toList.flatMap (quotedChar '"') ++ ['"'])

/-- The character between single quotes. -/
def quoteChar (c : Char) : String :=
  .ofList (['\''] ++ quotedChar '\'' c ++ ['\''])

end HotReload.Text
