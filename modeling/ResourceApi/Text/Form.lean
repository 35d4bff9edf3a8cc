/-
This file codes texts as they stand in the query of an address: a space is a plus sign, and a
byte that is not plain is a percent sign with two hexadecimal digits.
-/

import ResourceApi.Text.Hex
import ResourceApi.Text.Split

namespace ResourceApi.Text

def isPlain (byte : UInt8) : Bool :=
  let code := byte.toNat
  (0x30 ≤ code && code ≤ 0x39) || (0x41 ≤ code && code ≤ 0x5A) ||
    (0x61 ≤ code && code ≤ 0x7A) || code == 0x2A || code == 0x2D || code == 0x2E || code == 0x5F

def formByte (byte : UInt8) : List Char :=
  if isPlain byte then [Char.ofNat byte.toNat]
  else if byte = 0x20 then ['+']
  else ['%', upperHexDigit (byte.toNat / 16), upperHexDigit (byte.toNat % 16)]

def formEncode (text : String) : String :=
  String.ofList (text.toUTF8.toList.flatMap formByte)

/-- A percent sign without two hexadecimal digits after it stands for itself. -/
def formBytes : List UInt8 → List UInt8
  | [] => []
  | 0x25 :: high :: low :: rest =>
      match hexNumber [Char.ofNat high.toNat, Char.ofNat low.toNat] with
      | some value => UInt8.ofNat value :: formBytes rest
      | none => 0x25 :: formBytes (high :: low :: rest)
  | byte :: rest => (if byte = 0x2B then 0x20 else byte) :: formBytes rest

/-- The bytes must be the UTF-8 form of a text. -/
def formDecode (text : String) : Option String :=
  String.fromUTF8? (ByteArray.mk (formBytes text.toUTF8.toList).toArray)

/-- A name without an equals sign has no value. -/
def formPairs (query : String) : List (String × Option String) :=
  ((split '&' query.toList).filter (· ≠ [])).map fun pair =>
    match splitOnce ['='] pair with
    | none => (String.ofList pair, none)
    | some (name, value) => (String.ofList name, some (String.ofList value))

end ResourceApi.Text
