import PageDirectives.Text.Basic
/-!
Base64 read leniently: characters outside the alphabet do not count, and what follows complete
padding is not read. Text that ends inside a group is no base64.
-/
namespace PageDirectives.Base64

/-- The six bits that a character stands for. -/
def sextet? (c : Char) : Option Nat :=
  if 'A' ≤ c ∧ c ≤ 'Z' then some (c.toNat - 65)
  else if 'a' ≤ c ∧ c ≤ 'z' then some (c.toNat - 71)
  else if c.isDigit then some (c.toNat + 4)
  else if c = '+' then some 62
  else if c = '/' then some 63
  else none

/-- Decodes from inside a group: how many of its characters were read, the bits not yet used, and
how many padding characters were read since. -/
def decodeFrom (read bits padding : Nat) : Text → Option (List UInt8)
  | [] => if read = 0 then some [] else none
  | c :: text =>
    if c = '=' then
      if read < 2 then decodeFrom read bits padding text
      else if 4 ≤ read + (padding + 1) then some []
      else decodeFrom read bits (padding + 1) text
    else
      match sextet? c with
      | none => decodeFrom read bits padding text
      | some n =>
        let byte (high low : Nat) := UInt8.ofNat (high + low)
        match read with
        | 0 => decodeFrom 1 n 0 text
        | 1 => (decodeFrom 2 (n % 16) 0 text).map (byte (bits * 4) (n / 16) :: ·)
        | 2 => (decodeFrom 3 (n % 4) 0 text).map (byte (bits * 16) (n / 4) :: ·)
        | _ => (decodeFrom 0 0 0 text).map (byte (bits * 64) n :: ·)

/-- Decodes a text. -/
def decode? (text : Text) : Option (List UInt8) := decodeFrom 0 0 0 text

end PageDirectives.Base64
