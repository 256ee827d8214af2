import ImageCompose.Json.Decode
import ImageCompose.Text.Basic

/-!
# Universally unique identifiers

A `Uuid` is 128 bits. It is written in one form (`Uuid.render`: five groups of lower-case
hexadecimal digits joined by hyphens) and read in four (`Uuid.parse?`): that form, the 32 digits
alone, the form in braces, and the form after `urn:uuid:`, with digits of either case. In JSON it
stands as a string in its written form.
-/

namespace ImageCompose

/-- A universally unique identifier. -/
structure Uuid where
  /-- The 128 bits, most significant first. -/
  bits : BitVec 128
  deriving DecidableEq, Hashable

namespace Uuid

/-- The identifier with a given number. -/
def ofNat (n : Nat) : Uuid := ⟨BitVec.ofNat 128 n⟩

/-- The identifier of version 4 that a random number makes: six of its bits are fixed. -/
def ofRandom (n : Nat) : Uuid :=
  let fixed : BitVec 128 := (0xF <<< 76) ||| (0x3 <<< 62)
  ⟨(BitVec.ofNat 128 n &&& ~~~fixed) ||| (0x4 <<< 76) ||| (0x2 <<< 62)⟩

/-- The 32 hexadecimal digits of an identifier. -/
def digits (u : Uuid) : List Char := Text.hexDigits 32 u.bits.toNat

/-- Puts hyphens after the 8th, 12th, 16th and 20th of 32 digits. -/
def hyphenate (ds : List Char) : List Char :=
  ds.take 8 ++ '-' :: (ds.drop 8).take 4 ++ '-' :: (ds.drop 12).take 4 ++
    '-' :: (ds.drop 16).take 4 ++ '-' :: ds.drop 20

/-- The written form of an identifier. -/
def render (u : Uuid) : String := String.ofList (hyphenate u.digits)

instance : ToString Uuid := ⟨render⟩

/-- Reads exactly 32 hexadecimal digits. -/
def ofDigits? (ds : List Char) : Option Uuid :=
  if ds.length = 32 then (Text.natural? 16 ds).map ofNat else none

/-- Reads five hyphenated groups of 8, 4, 4, 4 and 12 digits. -/
def ofHyphenated? (cs : List Char) : Option Uuid :=
  if cs.length = 36 ∧ cs[8]? = some '-' ∧ cs[13]? = some '-' ∧ cs[18]? = some '-' ∧
      cs[23]? = some '-' then
    ofDigits? (cs.take 8 ++ (cs.drop 9).take 4 ++ (cs.drop 14).take 4 ++ (cs.drop 19).take 4 ++
      cs.drop 24)
  else none

/-- Reads an identifier in any of its four forms. -/
def parse? (s : String) : Option Uuid :=
  match s.toList with
  | '{' :: rest => if rest.getLast? = some '}' then ofHyphenated? rest.dropLast else none
  | cs =>
    if cs.length = 32 then ofDigits? cs
    else if cs.length = 45 then
      if (cs.take 9).map Char.toLower = "urn:uuid:".toList then ofHyphenated? (cs.drop 9) else none
    else ofHyphenated? cs

instance : Wire Uuid := ⟨fun u => .str u.render, Decoder.text parse?⟩

end Uuid

end ImageCompose
