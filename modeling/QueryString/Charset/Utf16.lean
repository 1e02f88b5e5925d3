import QueryString.Charset.Basic

/-!
# UTF-16

Characters as one or two units of 16 bits, each of which is two octets, the high one first. A
character beyond the basic plane takes two units, the halves of its surrogate pair.
-/

namespace QueryString.Utf16

/-! ## Writing -/

/-- The units of a character. -/
def units (c : Char) : List Nat :=
  if c.toNat < 0x10000 then [c.toNat]
  else [0xD800 + (c.toNat - 0x10000) / 0x400, 0xDC00 + (c.toNat - 0x10000) % 0x400]

/-- The two octets of a unit. -/
def ofUnit (n : Nat) : Bytes := [UInt8.ofNat (n / 0x100), UInt8.ofNat (n % 0x100)]

/-- The octets of a text. -/
def encode (t : Text) : Bytes := (t.flatMap units).flatMap ofUnit

/-! ## Reading -/

/-- The unit of two octets. -/
def unit (high low : UInt8) : Nat := high.toNat * 0x100 + low.toNat

/-- Tells whether a unit is the first half of a surrogate pair. -/
def isHighHalf (n : Nat) : Bool := 0xD800 ≤ n && n < 0xDC00

/-- Tells whether a unit is the second half of a surrogate pair. -/
def isLowHalf (n : Nat) : Bool := 0xDC00 ≤ n && n < 0xE000

/-- The text that octets write, or the first fault in them. -/
def decode : Bytes → Except ByteFault Text
  | [] => .ok []
  | [_] => .error (.other "truncated data".toList)
  | high :: low :: rest =>
    let n := unit high low
    if isLowHalf n then .error (.other "illegal encoding".toList)
    else if isHighHalf n then
      match rest with
      | high' :: low' :: rest =>
        let n' := unit high' low'
        if isLowHalf n' then
          (decode rest).map
            (Char.ofNat (0x10000 + (n - 0xD800) * 0x400 + (n' - 0xDC00)) :: ·)
        else .error (.other "illegal UTF-16 surrogate".toList)
      | _ => .error .unexpectedEnd
    else (decode rest).map (Char.ofNat n :: ·)
termination_by structural bs => bs

end QueryString.Utf16
