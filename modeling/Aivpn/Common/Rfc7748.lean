import Aivpn.Common.Crypto
import Aivpn.Lib.Pratt

/-!
# X25519 of RFC 7748

The function that `x25519_dalek` and the Kotlin client both compute: the scalar is clamped, the
top bit of the u-coordinate is masked, a Montgomery ladder of 255 steps with delayed swaps runs
in the field of `2 ^ 255 - 19` elements, and the quotient of the ladder's first pair is encoded
in 32 bytes, lowest first. The ladder is stated over any commutative ring; the field is
`ZMod fieldP`, a field by the certificate of the prime.
-/

set_option autoImplicit false

namespace Aivpn

open Aivpn.Lib

/-- The prime `2 ^ 255 - 19`. -/
def fieldP : Nat := 2 ^ 255 - 19

/-- A certificate of the prime and of the prime factors under it. -/
def fieldCertificate : List Pratt.Line :=
  [⟨3, 2, [2]⟩, ⟨5, 2, [2, 2]⟩, ⟨7, 3, [2, 3]⟩, ⟨11, 2, [2, 5]⟩, ⟨13, 2, [2, 2, 3]⟩,
   ⟨17, 3, [2, 2, 2, 2]⟩, ⟨19, 2, [2, 3, 3]⟩, ⟨23, 5, [2, 11]⟩, ⟨29, 2, [2, 2, 7]⟩,
   ⟨31, 3, [2, 3, 5]⟩, ⟨37, 2, [2, 2, 3, 3]⟩, ⟨41, 6, [2, 2, 2, 5]⟩, ⟨43, 3, [2, 3, 7]⟩,
   ⟨47, 5, [2, 23]⟩, ⟨53, 2, [2, 2, 13]⟩, ⟨59, 2, [2, 29]⟩, ⟨83, 2, [2, 41]⟩,
   ⟨97, 5, [2, 2, 2, 2, 2, 3]⟩, ⟨103, 5, [2, 3, 17]⟩, ⟨107, 2, [2, 53]⟩, ⟨127, 3, [2, 3, 3, 7]⟩,
   ⟨131, 2, [2, 5, 13]⟩, ⟨173, 2, [2, 2, 43]⟩, ⟨223, 3, [2, 3, 37]⟩, ⟨239, 7, [2, 7, 17]⟩,
   ⟨353, 3, [2, 2, 2, 2, 2, 11]⟩, ⟨419, 2, [2, 11, 19]⟩, ⟨479, 13, [2, 239]⟩,
   ⟨487, 3, [2, 3, 3, 3, 3, 3]⟩, ⟨991, 6, [2, 3, 3, 5, 11]⟩, ⟨1723, 3, [2, 3, 7, 41]⟩,
   ⟨2437, 2, [2, 2, 3, 7, 29]⟩, ⟨3727, 3, [2, 3, 3, 3, 3, 23]⟩, ⟨4153, 5, [2, 2, 2, 3, 173]⟩,
   ⟨9463, 3, [2, 3, 19, 83]⟩, ⟨32573, 2, [2, 2, 17, 479]⟩, ⟨37853, 2, [2, 2, 9463]⟩,
   ⟨57467, 2, [2, 59, 487]⟩, ⟨65147, 2, [2, 32573]⟩, ⟨75707, 2, [2, 37853]⟩,
   ⟨132049, 26, [2, 2, 2, 2, 3, 3, 7, 131]⟩, ⟨430751, 17, [2, 5, 5, 5, 1723]⟩,
   ⟨569003, 2, [2, 7, 97, 419]⟩, ⟨1923133, 2, [2, 2, 3, 43, 3727]⟩,
   ⟨8574133, 2, [2, 2, 3, 7, 103, 991]⟩, ⟨2773320623, 5, [2, 2437, 569003]⟩,
   ⟨72106336199, 7, [2, 13, 2773320623]⟩,
   ⟨1919519569386763, 2, [2, 3, 7, 19, 47, 47, 127, 8574133]⟩,
   ⟨31757755568855353, 10, [2, 2, 2, 3, 31, 107, 223, 4153, 430751]⟩,
   ⟨75445702479781427272750846543864801, 7, [2, 2, 2, 2, 2, 3, 3, 5, 5, 75707, 72106336199,
     1919519569386763]⟩,
   ⟨74058212732561358302231226437062788676166966415465897661863160754340907, 2, [2, 3, 353,
     57467, 132049, 1923133, 31757755568855353, 75445702479781427272750846543864801]⟩,
   ⟨57896044618658097711785492504343953926634992332820282019728792003956564819949, 2, [2, 2, 3,
     65147, 74058212732561358302231226437062788676166966415465897661863160754340907]⟩]

theorem prime_fieldP : fieldP.Prime := by
  have htwo : ∀ q ∈ [2], q.Prime := by simp [Nat.prime_two]
  have haccepts : Pratt.accepts 255 [2] fieldCertificate = true := by decide +kernel
  exact Pratt.prime_of_accepts htwo haccepts ⟨fieldP, _, _⟩ (List.mem_of_getLast? (by rfl))

instance : Fact fieldP.Prime := ⟨prime_fieldP⟩

namespace Rfc7748

/-- The variables of the ladder: two points in projective coordinates and the delayed swap. -/
structure Ladder (F : Type) where
  x2 : F
  z2 : F
  x3 : F
  z3 : F
  swap : Bool
deriving DecidableEq

section

variable {F : Type}

/-- `cswap` of both coordinates. -/
def Ladder.cswap (s : Bool) (l : Ladder F) : Ladder F :=
  if s then { l with x2 := l.x3, z2 := l.z3, x3 := l.x2, z3 := l.z2 } else l

variable [CommRing F]

/-- The body of the loop on the bit `k_t`. -/
def ladderStep (x1 : F) (kt : Bool) (l : Ladder F) : Ladder F :=
  let l := l.cswap (l.swap ^^ kt)
  let a := l.x2 + l.z2
  let aa := a ^ 2
  let b := l.x2 - l.z2
  let bb := b ^ 2
  let e := aa - bb
  let c := l.x3 + l.z3
  let d := l.x3 - l.z3
  let da := d * a
  let cb := c * b
  { x3 := (da + cb) ^ 2
    z3 := x1 * (da - cb) ^ 2
    x2 := aa * bb
    z2 := e * (aa + 121665 * e)
    swap := kt }

/-- The ladder of the scalar `k` on the u-coordinate, from bit 254 down, and its last swap. -/
def ladder (k : Nat) (u : F) : Ladder F :=
  let l := (List.range 255).reverse.foldl (fun l t => ladderStep u (k.testBit t) l)
    { x2 := 1, z2 := 0, x3 := u, z3 := 1, swap := false }
  l.cswap l.swap

end

/-- `decodeScalar25519`. -/
def decodeScalar25519 (k : Key) : Nat := leNat (clamp k).toList

/-- `decodeUCoordinate`: the top bit is masked, a value past the prime is accepted. -/
def decodeUCoordinate (u : Key) : ZMod fieldP :=
  (leNat (u.toList.modify 31 (· &&& 127)) : Nat)

/-- `encodeUCoordinate`. -/
def encodeUCoordinate (u : ZMod fieldP) : Key := ⟨leBytes 32 u.val, by simp⟩

/-- The ladder on an encoded scalar and an encoded u-coordinate. -/
def finalLadder (k u : Key) : Ladder (ZMod fieldP) :=
  ladder (decodeScalar25519 k) (decodeUCoordinate u)

/-- `X25519`. -/
def x25519 (k u : Key) : Key :=
  let l := finalLadder k u
  encodeUCoordinate (l.x2 * l.z2 ^ (fieldP - 2))

end Rfc7748

end Aivpn
