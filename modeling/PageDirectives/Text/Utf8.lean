import PageDirectives.Text.Quoted
/-!
UTF-8. Decoding stops at the first bytes that no character has: a byte that begins none, a byte that
does not go on with the one begun, or the end of the bytes inside one.
-/
namespace PageDirectives.Utf8

/-- Why bytes are no text. -/
inductive Fault
  | start
  | continuation
  | truncated
  deriving Repr, DecidableEq

/-- Where decoding stops and why: the offset of the character that is not complete, and its
bytes. -/
structure DecodingError where
  position : Nat
  bytes : List UInt8
  fault : Fault
  deriving Repr, DecidableEq

/-- The wording of a fault. -/
def Fault.message : Fault → Text
  | start => "invalid start byte"
  | continuation => "invalid continuation byte"
  | truncated => "unexpected end of data"

/-- The wording of a decoding error. -/
def DecodingError.message (e : DecodingError) : Text :=
  let place : Text := match e.bytes with
    | [b] => "byte 0x" ++ Text.hexDigits 2 b.toNat ++ " in position " ++ toString e.position
    | bytes => "bytes in position " ++ toString e.position ++ "-" ++
        toString (e.position + bytes.length - 1)
  "'utf-8' codec can't decode " ++ place ++ ": " ++ e.fault.message

/-- What the first byte of a character says: the bits it gives, how many bytes follow, and the least
and the greatest that the next one may be. -/
structure Lead where
  bits : Nat
  tails : Nat
  least : Nat := 0x80
  greatest : Nat := 0xbf

/-- Reads the first byte of a character. -/
def lead? (b : UInt8) : Option Lead :=
  let n := b.toNat
  if n < 0x80 then some { bits := n, tails := 0 }
  else if n < 0xc2 then none
  else if n < 0xe0 then some { bits := n - 0xc0, tails := 1 }
  else if n < 0xf0 then
    some { bits := n - 0xe0, tails := 2, least := if n = 0xe0 then 0xa0 else 0x80,
           greatest := if n = 0xed then 0x9f else 0xbf }
  else if n < 0xf5 then
    some { bits := n - 0xf0, tails := 3, least := if n = 0xf0 then 0x90 else 0x80,
           greatest := if n = 0xf4 then 0x8f else 0xbf }
  else none

/-- The bytes in front that go on with a character, at most so many. -/
def tails : (count least greatest : Nat) → List UInt8 → List UInt8
  | 0, _, _, _ => []
  | _, _, _, [] => []
  | count + 1, least, greatest, b :: rest =>
    if least ≤ b.toNat ∧ b.toNat ≤ greatest then b :: tails count 0x80 0xbf rest else []

/-- Decodes bytes that begin at an offset. -/
def decodeFrom (position : Nat) : List UInt8 → Except DecodingError Text
  | [] => .ok []
  | b :: rest =>
    match lead? b with
    | none => .error ⟨position, [b], .start⟩
    | some lead =>
      let more := tails lead.tails lead.least lead.greatest rest
      if more.length = lead.tails then
        let code := more.foldl (fun n t => 64 * n + (t.toNat - 0x80)) lead.bits
        (decodeFrom (position + 1 + more.length) (rest.drop more.length)).map
          (Char.ofNat code :: ·)
      else if rest.length = more.length then .error ⟨position, b :: more, .truncated⟩
      else .error ⟨position, b :: more, .continuation⟩
termination_by bytes => bytes.length

/-- Decodes bytes. -/
def decode (bytes : List UInt8) : Except DecodingError Text := decodeFrom 0 bytes

end PageDirectives.Utf8
