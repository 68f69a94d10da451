/-! Bytes that are no UTF-8, and what is wrong with them. -/

namespace ApiShell.Text

/-- What is wrong with bytes at a place: the bytes from `start` on, as many as `count`, give no
character. -/
structure Utf8Fault where
  start : Nat
  count : Nat
  first : UInt8
  reason : String

/-- The wording of what is wrong with bytes. -/
def Utf8Fault.message (f : Utf8Fault) : String :=
  let digits := String.ofList (Nat.toDigits 16 f.first.toNat)
  "'utf-8' codec can't decode " ++
    (if f.count = 1 then
      "byte 0x" ++ (if f.first < 16 then "0" else "") ++ digits ++ " in position " ++
        toString f.start
     else "bytes in position " ++ toString f.start ++ "-" ++ toString (f.start + f.count - 1)) ++
    ": " ++ f.reason

/-- The number of bytes behind a first one, and the least and the greatest that may come next. -/
def utf8Shape? (first : UInt8) : Option (Nat × UInt8 × UInt8) :=
  if first < 0x80 then some (0, 0x80, 0xbf)
  else if first < 0xc2 then none
  else if first < 0xe0 then some (1, 0x80, 0xbf)
  else if first = 0xe0 then some (2, 0xa0, 0xbf)
  else if first = 0xed then some (2, 0x80, 0x9f)
  else if first < 0xf0 then some (2, 0x80, 0xbf)
  else if first = 0xf0 then some (3, 0x90, 0xbf)
  else if first < 0xf4 then some (3, 0x80, 0xbf)
  else if first = 0xf4 then some (3, 0x80, 0x8f)
  else none

/-- What is wrong with the bytes behind a first one, of which some were read: their number up to
the first that does not fit, and why it does not. -/
def tailFault? : Nat → (least greatest : UInt8) → (read : Nat) → List UInt8 → Option (Nat × String)
  | 0, _, _, _, _ => none
  | _ + 1, _, _, read, [] => some (read, "unexpected end of data")
  | left + 1, least, greatest, read, byte :: rest =>
    if least ≤ byte ∧ byte ≤ greatest then tailFault? left 0x80 0xbf (read + 1) rest
    else some (read, "invalid continuation byte")

/-- What is first wrong with bytes that start at a place. The fuel is at least their number. -/
def utf8FaultFrom? : Nat → Nat → List UInt8 → Option Utf8Fault
  | 0, _, _ => none
  | _ + 1, _, [] => none
  | fuel + 1, start, first :: rest =>
    match utf8Shape? first with
    | none => some { start, count := 1, first, reason := "invalid start byte" }
    | some (width, least, greatest) =>
      match tailFault? width least greatest 1 rest with
      | some (count, reason) => some { start, count, first, reason }
      | none => utf8FaultFrom? fuel (start + 1 + width) (rest.drop width)

/-- What is first wrong with bytes, if anything is. -/
def utf8Fault? (bytes : ByteArray) : Option Utf8Fault :=
  utf8FaultFrom? bytes.size 0 bytes.data.toList

end ApiShell.Text
