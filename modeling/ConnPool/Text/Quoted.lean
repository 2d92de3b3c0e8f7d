import ConnPool.Text.Visible

/-!
# Quoted text

A text shown inside a structured value stands in double quotes. What would end the
quotation or start an escape is written with a backslash, the four controls that
have a short escape take it, and any other character that does not show by itself is
written by its code point in lower-case hexadecimal, `\u{301}`.
-/

namespace ConnPool

namespace Text

/-- A character as it is written inside a quotation. -/
def escape (c : Char) : List Char :=
  if c = '\x00' then ['\\', '0']
  else if c = '\t' then ['\\', 't']
  else if c = '\r' then ['\\', 'r']
  else if c = '\n' then ['\\', 'n']
  else if c = '\\' || c = '"' then ['\\', c]
  else if isVisible c then [c]
  else ['\\', 'u', '\x7b'] ++ Nat.toDigits 16 c.toNat ++ ['\x7d']

/-- A text in double quotes. -/
def quote (s : String) : String :=
  String.ofList (['"'] ++ s.toList.flatMap escape ++ ['"'])

end Text

end ConnPool
