/-!
# SipHash

SipHash-1-3 of a list of bytes: words of eight bytes are mixed in with one round each, the last one
holding the bytes left over and the length, and three rounds finish. The key is zero.
-/

namespace EventQuery

/-- The four words that a hash is computed in. -/
structure SipHash where
  v0 : UInt64
  v1 : UInt64
  v2 : UInt64
  v3 : UInt64
deriving DecidableEq, Repr

namespace SipHash

/-- The words at the start, for the key zero. -/
def start : SipHash :=
  ⟨0x736f6d6570736575, 0x646f72616e646f6d, 0x6c7967656e657261, 0x7465646279746573⟩

def rotate (x : UInt64) (n : UInt64) : UInt64 := (x <<< n) ||| (x >>> (64 - n))

/-- One round. -/
def round (h : SipHash) : SipHash :=
  let v0 := h.v0 + h.v1
  let v1 := rotate h.v1 13 ^^^ v0
  let v0 := rotate v0 32
  let v2 := h.v2 + h.v3
  let v3 := rotate h.v3 16 ^^^ v2
  let v0 := v0 + v3
  let v3 := rotate v3 21 ^^^ v0
  let v2 := v2 + v1
  let v1 := rotate v1 17 ^^^ v2
  let v2 := rotate v2 32
  ⟨v0, v1, v2, v3⟩

/-- A word mixed in. -/
def absorb (h : SipHash) (word : UInt64) : SipHash :=
  let h := round { h with v3 := h.v3 ^^^ word }
  { h with v0 := h.v0 ^^^ word }

/-- The word of some bytes, the first being the lowest. -/
def wordOf (bytes : List UInt8) : UInt64 :=
  bytes.foldr (fun b w => w <<< 8 ||| b.toUInt64) 0

/-- All bytes mixed in, given how many there are in all. -/
def absorbBytes (length : Nat) (h : SipHash) : List UInt8 → SipHash
  | a :: b :: c :: d :: e :: f :: g :: i :: rest =>
    absorbBytes length (h.absorb (wordOf [a, b, c, d, e, f, g, i])) rest
  | rest => h.absorb (wordOf rest ||| UInt64.ofNat length <<< 56)

/-- The hash after the last word. -/
def finish (h : SipHash) : UInt64 :=
  let h := round (round (round { h with v2 := h.v2 ^^^ 0xff }))
  h.v0 ^^^ h.v1 ^^^ h.v2 ^^^ h.v3

/-- The hash of some bytes. -/
def hash (bytes : List UInt8) : UInt64 := (absorbBytes bytes.length start bytes).finish

end SipHash
end EventQuery
