import SchemaDdl.Text.Digit
import SchemaDdl.Text.Printable

/-!
# Quoted texts

A text or a string of octets is written between quotation marks.  The mark is the apostrophe, unless
the content has an apostrophe and no double quotation mark.  Inside, the mark and the backslash
follow a backslash, line feed, carriage return and tab have letters of their own, and what is not
printable is written by its number in hexadecimal.
-/

namespace SchemaDdl

namespace Text

def quotationMark (content : List Char) : Char :=
  if content.contains '\'' && !content.contains '"' then '"' else '\''

/-- The escape for a number of one, two or four octets. -/
def numericEscape (value : Nat) : List Char :=
  if value < 0x100 then '\\' :: 'x' :: hexadecimal 2 value
  else if value < 0x10000 then '\\' :: 'u' :: hexadecimal 4 value
  else '\\' :: 'U' :: hexadecimal 8 value

/-- A character of the content as it stands between quotation marks. -/
def escaped (mark : Char) (printable : Char → Bool) (c : Char) : List Char :=
  if c = mark ∨ c = '\\' then ['\\', c]
  else if c = '\n' then ['\\', 'n']
  else if c = '\r' then ['\\', 'r']
  else if c = '\t' then ['\\', 't']
  else if printable c then [c]
  else numericEscape c.toNat

/-- A content between quotation marks. -/
def quotedChars (printable : Char → Bool) (content : List Char) : List Char :=
  let mark := quotationMark content
  mark :: content.flatMap (escaped mark printable) ++ [mark]

def quoted (text : String) : String :=
  String.ofList (quotedChars isPrintable text.toList)

/-- Octets between quotation marks behind the letter `b`; only ASCII stands for itself. -/
def quotedOctets (octets : List UInt8) : String :=
  let printable (c : Char) : Bool := 0x20 ≤ c.toNat && c.toNat < 0x7F
  String.ofList ('b' :: quotedChars printable (octets.map fun octet => Char.ofNat octet.toNat))

end Text

end SchemaDdl
