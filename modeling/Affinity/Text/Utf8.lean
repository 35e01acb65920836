/-!
# UTF-8

A character is written as one to four bytes. The first byte tells how many follow and in which range
the next one lies; all later ones lie between 128 and 191.

* `Utf8.decode` — the characters of a text, or the offset of the first byte that belongs to none.
* `Utf8.decodeLossy` — the characters of a text, with a mark in place of each broken sequence.
* `Utf8.encode` — the bytes of a text.
-/

namespace Affinity

/-- A text or a file as its bytes. -/
abbrev Bytes := List UInt8

namespace Utf8

/-- What a first byte announces: its share of the character, the number of bytes that follow, and
the range of the next byte. -/
structure Opening where
  share : Nat
  followers : Nat
  least : Nat := 0x80
  greatest : Nat := 0xBF
  deriving Repr

/-- What a byte announces; nothing if no character begins with it. -/
def opening? (b : Nat) : Option Opening :=
  if b < 0x80 then some { share := b, followers := 0 }
  else if b < 0xC2 then none
  else if b < 0xE0 then some { share := b % 32, followers := 1 }
  else if b = 0xE0 then some { share := 0, followers := 2, least := 0xA0 }
  else if b = 0xED then some { share := 13, followers := 2, greatest := 0x9F }
  else if b < 0xF0 then some { share := b % 16, followers := 2 }
  else if b = 0xF0 then some { share := 0, followers := 3, least := 0x90 }
  else if b < 0xF4 then some { share := b % 8, followers := 3 }
  else if b = 0xF4 then some { share := 4, followers := 3, greatest := 0x8F }
  else none

/-- The bytes that continue a character: at most `n`, the first of them in the given range. -/
def takeFollowers : Nat → Nat → Nat → Bytes → Bytes
  | 0, _, _, _ => []
  | _, _, _, [] => []
  | n + 1, least, greatest, b :: rest =>
    if least ≤ b.toNat && b.toNat ≤ greatest then b :: takeFollowers n 0x80 0xBF rest else []

/-- What stands at the beginning of some bytes. -/
inductive Step where
  /-- A character, and the number of its bytes after the first. -/
  | char (c : Char) (followers : Nat)
  /-- A broken sequence, and the number of its bytes after the first. -/
  | broken (followers : Nat)
  deriving Repr

/-- What stands at the beginning of a text, given its first byte. -/
def step (b : UInt8) (rest : Bytes) : Step :=
  match opening? b.toNat with
  | none => .broken 0
  | some o =>
    let followers := takeFollowers o.followers o.least o.greatest rest
    if followers.length = o.followers then
      .char (Char.ofNat (followers.foldl (fun n f => n * 64 + f.toNat % 64) o.share)) o.followers
    else .broken followers.length

/-- The characters of a text; otherwise the offset of the first broken sequence. The first argument
is the number of bytes that belong to the character before. -/
def decodeFrom : Nat → Nat → Bytes → Except Nat (List Char)
  | _, _, [] => .ok []
  | skip + 1, offset, _ :: rest => decodeFrom skip (offset + 1) rest
  | 0, offset, b :: rest =>
    match step b rest with
    | .char c followers => (decodeFrom followers (offset + 1) rest).map (c :: ·)
    | .broken _ => .error offset

/-- The text that some bytes are, or the place of the first that fits none. -/
def decode (bytes : Bytes) : Except Nat (List Char) := decodeFrom 0 0 bytes

/-- The characters of a text, with U+FFFD for each broken sequence. -/
def decodeLossyFrom : Nat → Bytes → List Char
  | _, [] => []
  | skip + 1, _ :: rest => decodeLossyFrom skip rest
  | 0, b :: rest =>
    match step b rest with
    | .char c followers => c :: decodeLossyFrom followers rest
    | .broken followers => '\uFFFD' :: decodeLossyFrom followers rest

/-- The text that some bytes are, with a mark for what fits none. -/
def decodeLossy (bytes : Bytes) : List Char := decodeLossyFrom 0 bytes

/-- The bytes of a text. -/
def encode (s : String) : Bytes := s.toUTF8.toList

end Utf8

end Affinity
