/-!
# Octets in base 64

Four characters stand for three octets.  Characters outside the alphabet are passed over, and a
filler counts only where two or three characters of a group are there.
-/

namespace SchemaDdl

namespace Yaml

namespace Base64

def digit? (c : Char) : Option Nat :=
  if c.isUpper then some (c.toNat - 'A'.toNat)
  else if c.isLower then some (c.toNat - 'a'.toNat + 26)
  else if c.isDigit then some (c.toNat - '0'.toNat + 52)
  else if c = '+' then some 62
  else if c = '/' then some 63
  else none

/-- The octets of a text: `filled` characters of the current group are there with the bits `pending`
still to be written, and `fillers` fillers stand directly in front. -/
def decodeFrom (filled pending fillers : Nat) : List Char → Option (List UInt8)
  | [] => if filled = 0 then some [] else none
  | c :: rest =>
      if c = '=' then
        if 2 ≤ filled then
          if 4 ≤ filled + fillers + 1 then some [] else decodeFrom filled pending (fillers + 1) rest
        else
          decodeFrom filled pending fillers rest
      else
        match digit? c with
        | none => decodeFrom filled pending fillers rest
        | some digit =>
            let octet (value : Nat) := UInt8.ofNat (value % 256)
            match filled with
            | 0 => decodeFrom 1 digit 0 rest
            | 1 =>
                (decodeFrom 2 (digit % 16) 0 rest).map (octet (pending * 4 + digit / 16) :: ·)
            | 2 =>
                (decodeFrom 3 (digit % 4) 0 rest).map (octet (pending * 16 + digit / 4) :: ·)
            | _ => (decodeFrom 0 0 0 rest).map (octet (pending * 64 + digit) :: ·)

def decode? (chars : List Char) : Option (List UInt8) :=
  decodeFrom 0 0 0 chars

end Base64

end Yaml

end SchemaDdl
