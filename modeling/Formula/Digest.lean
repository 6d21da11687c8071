/-! Digests of names. A type or member has a 64-bit digest that depends on its qualified name alone,
so two registries give one name the same digest. The digest of a text is XXH64: four lanes over
stripes of 32 bytes, then the remaining words and bytes, then a final mixing. -/
namespace Formula

/-- The digest of a type or member. -/
structure Digest where
  bits : UInt64
  deriving DecidableEq, Repr

namespace Digest

private def prime1 : UInt64 := 0x9E3779B185EBCA87
private def prime2 : UInt64 := 0xC2B2AE3D27D4EB4F
private def prime3 : UInt64 := 0x165667B19E3779F9
private def prime4 : UInt64 := 0x85EBCA77C2B2AE63
private def prime5 : UInt64 := 0x27D4EB2F165667C5

/-- Rotation to the left by a count between 1 and 63. -/
def rotate (word : UInt64) (count : UInt64) : UInt64 :=
  (word <<< count) ||| (word >>> (64 - count))

/-- One step of a lane: take in a word of the text. -/
private def mix (lane word : UInt64) : UInt64 := rotate (lane + word * prime2) 31 * prime1

/-- The little-endian word of the first bytes of a text. -/
private def word (count : Nat) (bytes : List UInt8) : UInt64 :=
  (bytes.take count).foldr (fun byte high => byte.toUInt64 ||| (high <<< 8)) 0

/-- The four lanes of the stripes. -/
private structure Lanes where
  a : UInt64
  b : UInt64
  c : UInt64
  d : UInt64

private def stripes : Nat → Lanes → List UInt8 → Lanes
  | 0, lanes, _ => lanes
  | count + 1, lanes, bytes =>
    stripes count
      ⟨mix lanes.a (word 8 bytes), mix lanes.b (word 8 (bytes.drop 8)),
        mix lanes.c (word 8 (bytes.drop 16)), mix lanes.d (word 8 (bytes.drop 24))⟩
      (bytes.drop 32)

private def merge (hash lane : UInt64) : UInt64 := (hash ^^^ mix 0 lane) * prime1 + prime4

private def words : Nat → UInt64 → List UInt8 → UInt64
  | 0, hash, _ => hash
  | count + 1, hash, bytes =>
    words count (rotate (hash ^^^ mix 0 (word 8 bytes)) 27 * prime1 + prime4) (bytes.drop 8)

private def halfWord (hash : UInt64) (bytes : List UInt8) : UInt64 :=
  rotate (hash ^^^ word 4 bytes * prime1) 23 * prime2 + prime3

private def singleBytes (hash : UInt64) (bytes : List UInt8) : UInt64 :=
  bytes.foldl (fun hash byte => rotate (hash ^^^ byte.toUInt64 * prime5) 11 * prime1) hash

private def avalanche (hash : UInt64) : UInt64 :=
  let hash := (hash ^^^ (hash >>> 33)) * prime2
  let hash := (hash ^^^ (hash >>> 29)) * prime3
  hash ^^^ (hash >>> 32)

/-- XXH64 of a byte sequence under a seed. -/
def xxh64 (seed : UInt64) (bytes : List UInt8) : UInt64 :=
  let length := bytes.length
  let opened :=
    if length < 32 then seed + prime5
    else
      let lanes := stripes (length / 32)
        ⟨seed + prime1 + prime2, seed + prime2, seed, seed - prime1⟩ bytes
      let joined := rotate lanes.a 1 + rotate lanes.b 7 + rotate lanes.c 12 + rotate lanes.d 18
      merge (merge (merge (merge joined lanes.a) lanes.b) lanes.c) lanes.d
  let tail := bytes.drop (length / 32 * 32)
  let hash := words (tail.length / 8) (opened + length.toUInt64) tail
  let tail := tail.drop (tail.length / 8 * 8)
  if tail.length < 4 then avalanche (singleBytes hash tail)
  else avalanche (singleBytes (halfWord hash tail) (tail.drop 4))

/-- The bytes of a text in UTF-8. -/
def utf8 (text : String) : List UInt8 := text.toUTF8.data.toList

/-- The digest of the unnamed type. -/
def empty : Digest := ⟨0⟩

/-- Whether this is the digest of the unnamed type. -/
def isEmpty (digest : Digest) : Bool := digest.bits == 0

/-- The digest of the type with this qualified name. -/
def ofType (name : String) : Digest := ⟨xxh64 0x2fac10b63a6cc57c (utf8 name)⟩

/-- The digest of a member overload: its owner, its name and the digests of its parameter types in
order. -/
def ofMember (owner : Digest) (name : String) (params : List Digest) : Digest :=
  ⟨params.foldl (fun hash param => rotate hash 5 ^^^ param.bits)
    (xxh64 (0x7d3e51c4a0f29b11 ^^^ owner.bits) (utf8 name))⟩

/-- A number as lower-case hexadecimal digits, with zeros in front up to `width`. -/
def hex (width : Nat) (n : Nat) : String :=
  let digits := Nat.toDigits 16 n
  String.ofList (List.replicate (width - digits.length) '0' ++ digits)

/-- The digest as sixteen hexadecimal digits. -/
def text (digest : Digest) : String := hex 16 digest.bits.toNat

/-- The digest as it reads in a listing. -/
def detail (digest : Digest) : String := s!"TypeHash(0x{digest.text})"

end Digest
end Formula
