import ServiceTopology.Text.Unprintable

/-!
# Quoted names

Print a name between quotes inside a message, so that it stands on one line. Apostrophes are the usual
quotes; a name that holds an apostrophe and no double quote is put between double quotes. Backslashes,
the chosen quote and unprintable characters are escaped, so that different names look different.

Whether a font can show a printable character is not considered.
-/

namespace ServiceTopology.Text

/-- Print a number in base sixteen with the given number of digits. -/
def hexDigits (width : Nat) (n : Nat) : List Char :=
  let digits := Nat.toDigits 16 n
  List.replicate (width - digits.length) '0' ++ digits

/-- Print one character of a name between the given quotes. -/
def quotedChar (quote : Char) (c : Char) : List Char :=
  if c = quote || c = '\x5c' then ['\x5c', c]
  else if c = '\n' then ['\x5c', 'n']
  else if c = '\r' then ['\x5c', 'r']
  else if c = '\t' then ['\x5c', 't']
  else if isUnprintable c then
    if c.toNat < 0x100 then '\x5c' :: 'x' :: hexDigits 2 c.toNat
    else if c.toNat < 0x10000 then '\x5c' :: 'u' :: hexDigits 4 c.toNat
    else '\x5c' :: 'U' :: hexDigits 8 c.toNat
  else [c]

/-- Print a name between quotes. -/
def quoted (name : String) : String :=
  let text := name.toList
  let quote := if text.contains '\x27' && !text.contains '\x22' then '\x22' else '\x27'
  String.ofList (quote :: text.flatMap (quotedChar quote) ++ [quote])

end ServiceTopology.Text
