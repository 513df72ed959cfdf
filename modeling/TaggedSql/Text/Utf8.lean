/-
  UTF-8 over lists of bytes.

  `encode` writes each character by the standard one to four bytes.  `decode` reads them back and
  accepts the well-formed sequences only: each branch below admits one leading byte and the
  bounds on the byte after it that rule out overlong forms, surrogates and code points beyond
  U+10FFFF.
-/

namespace TaggedSql.Text.Utf8

/-- The bytes of a text. -/
def encode (s : List Char) : List UInt8 := s.flatMap String.utf8EncodeChar

/-- Whether the byte lies between two bounds. -/
def between (lo hi : Nat) (b : UInt8) : Bool := decide (lo ≤ b.toNat) && decide (b.toNat ≤ hi)

/-- A byte that continues a character. -/
def isTail (b : UInt8) : Bool := between 0x80 0xbf b

/-- The six payload bits of a continuing byte. -/
def payload (b : UInt8) : Nat := b.toNat - 0x80

/-- The bounds on the second byte of a character of three or four bytes: the least and the
    greatest one that may follow the leading byte. -/
def secondBounds (lead : UInt8) : Nat × Nat :=
  if lead.toNat = 0xe0 then (0xa0, 0xbf)
  else if lead.toNat = 0xed then (0x80, 0x9f)
  else if lead.toNat = 0xf0 then (0x90, 0xbf)
  else if lead.toNat = 0xf4 then (0x80, 0x8f)
  else (0x80, 0xbf)

/-- Whether the byte may stand second after `lead`. -/
def isSecond (lead b : UInt8) : Bool := between (secondBounds lead).1 (secondBounds lead).2 b

/-- The text that the bytes encode, when they are well-formed. -/
def decode : List UInt8 → Option (List Char)
  | [] => some []
  | a :: rest =>
    if between 0 0x7f a then (decode rest).map (Char.ofNat a.toNat :: ·)
    else match rest with
      | [] => none
      | b :: rest =>
        if between 0xc2 0xdf a then
          if isTail b then
            (decode rest).map (Char.ofNat ((a.toNat - 0xc0) * 64 + payload b) :: ·)
          else none
        else match rest with
          | [] => none
          | c :: rest =>
            if between 0xe0 0xef a then
              if isSecond a b && isTail c then
                (decode rest).map
                  (Char.ofNat (((a.toNat - 0xe0) * 64 + payload b) * 64 + payload c) :: ·)
              else none
            else match rest with
              | [] => none
              | d :: rest =>
                if between 0xf0 0xf4 a && isSecond a b && isTail c && isTail d then
                  (decode rest).map
                    (Char.ofNat ((((a.toNat - 0xf0) * 64 + payload b) * 64 + payload c) * 64
                      + payload d) :: ·)
                else none

/-- The text that the bytes encode, as a string. -/
def decodeString (bs : List UInt8) : Option String := (decode bs).map String.ofList

end TaggedSql.Text.Utf8
