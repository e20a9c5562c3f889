import DevSys.Lib.Strings
/-!
# Base64

The standard encoding of bytes, with or without padding, and texts with
characters inserted.
-/
open Cxx

namespace Base64

def alphabet : Str := "ABCDEFGHIJKLMNOPQRSTUVWXYZabcdefghijklmnopqrstuvwxyz0123456789+/".toList

/-- The letter of six bits. -/
def letter (d : Nat) : Char := alphabet.getD d 'A'

/-- Three bytes are four letters; the last ones may be filled up with `=`. -/
def encode (padded : Bool) : List UInt8 → Str
  | [] => []
  | [a] => letter (a.toNat / 4) :: letter (a.toNat % 4 * 16) :: if padded then ['=', '='] else []
  | [a, b] =>
    letter (a.toNat / 4) :: letter (a.toNat % 4 * 16 + b.toNat / 16) :: letter (b.toNat % 16 * 4) ::
      if padded then ['='] else []
  | a :: b :: c :: bs =>
    letter (a.toNat / 4) :: letter (a.toNat % 4 * 16 + b.toNat / 16) :: letter (b.toNat % 16 * 4 + c.toNat / 64) ::
      letter (c.toNat % 64) :: encode padded bs

/-- The second text is the first one with characters of a kind inserted. -/
inductive Inserted (noise : Char → Prop) : Str → Str → Prop
  | nil : Inserted noise [] []
  | keep {c s t} : Inserted noise s t → Inserted noise (c :: s) (c :: t)
  | noise {c s t} : noise c → Inserted noise s t → Inserted noise s (c :: t)

end Base64
