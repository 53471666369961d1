import TransactionPlatform.Lib.Text

/-!
# Sha256 — `hashlib.sha256(data).hexdigest()`

SHA-256 on byte strings, and its digest as 64 lower-case hexadecimal characters.  Words are
`UInt32`, so additions are modulo 2^32 as the standard has them.  What other modules use of the
digest is its alphabet and its length; that two inputs have different digests is never provable
here and always a hypothesis on the two inputs.
-/

namespace TransactionPlatform
namespace Sha256

open Text

/-! ## Constants -/

def initialHash : List UInt32 :=
  [0x6a09e667, 0xbb67ae85, 0x3c6ef372, 0xa54ff53a, 0x510e527f, 0x9b05688c, 0x1f83d9ab, 0x5be0cd19]

def roundConstants : List UInt32 :=
  [0x428a2f98, 0x71374491, 0xb5c0fbcf, 0xe9b5dba5, 0x3956c25b, 0x59f111f1, 0x923f82a4, 0xab1c5ed5,
    0xd807aa98, 0x12835b01, 0x243185be, 0x550c7dc3, 0x72be5d74, 0x80deb1fe, 0x9bdc06a7, 0xc19bf174,
    0xe49b69c1, 0xefbe4786, 0x0fc19dc6, 0x240ca1cc, 0x2de92c6f, 0x4a7484aa, 0x5cb0a9dc, 0x76f988da,
    0x983e5152, 0xa831c66d, 0xb00327c8, 0xbf597fc7, 0xc6e00bf3, 0xd5a79147, 0x06ca6351, 0x14292967,
    0x27b70a85, 0x2e1b2138, 0x4d2c6dfc, 0x53380d13, 0x650a7354, 0x766a0abb, 0x81c2c92e, 0x92722c85,
    0xa2bfe8a1, 0xa81a664b, 0xc24b8b70, 0xc76c51a3, 0xd192e819, 0xd6990624, 0xf40e3585, 0x106aa070,
    0x19a4c116, 0x1e376c08, 0x2748774c, 0x34b0bcb5, 0x391c0cb3, 0x4ed8aa4a, 0x5b9cca4f, 0x682e6ff3,
    0x748f82ee, 0x78a5636f, 0x84c87814, 0x8cc70208, 0x90befffa, 0xa4506ceb, 0xbef9a3f7, 0xc67178f2]

/-! ## Padding -/

/-- The `n` low bytes of a number, most significant first. -/
def bigEndian : Nat → Nat → List UInt8
  | 0, _ => []
  | n + 1, v => (v / 256 ^ n).toUInt8 :: bigEndian n v

/-- A one bit, zeros up to 56 modulo 64, and the bit length in eight bytes. -/
def pad (data : List UInt8) : List UInt8 :=
  data ++ 0x80 :: List.replicate ((119 - data.length % 64) % 64) 0 ++ bigEndian 8 (8 * data.length)

def word (b₀ b₁ b₂ b₃ : UInt8) : UInt32 :=
  (((b₀.toNat * 256 + b₁.toNat) * 256 + b₂.toNat) * 256 + b₃.toNat).toUInt32

def wordsOfBytes : List UInt8 → List UInt32
  | b₀ :: b₁ :: b₂ :: b₃ :: rest => word b₀ b₁ b₂ b₃ :: wordsOfBytes rest
  | _ => []

/-! ## Compression -/

def rotr (x : UInt32) (n : UInt32) : UInt32 :=
  (x >>> n) ||| (x <<< (32 - n))

/-- The message schedule, `count` further words after the window of the last sixteen. -/
def extend : Nat → List UInt32 → List UInt32
  | 0, window => window
  | count + 1, window =>
      match window with
      | w₀ :: w₁ :: rest =>
          let w₉ := rest.getD 7 0
          let w₁₄ := rest.getD 12 0
          let s₀ := rotr w₁ 7 ^^^ rotr w₁ 18 ^^^ (w₁ >>> 3)
          let s₁ := rotr w₁₄ 17 ^^^ rotr w₁₄ 19 ^^^ (w₁₄ >>> 10)
          w₀ :: extend count (w₁ :: rest ++ [w₀ + s₀ + w₉ + s₁])
      | _ => window

def schedule (block : List UInt32) : List UInt32 :=
  extend 48 block

/-- The rounds over the paired constants and schedule words. -/
def rounds : List (UInt32 × UInt32) → List UInt32 → List UInt32
  | (k, w) :: rest, [a, b, c, d, e, f, g, h] =>
      let s₁ := rotr e 6 ^^^ rotr e 11 ^^^ rotr e 25
      let ch := (e &&& f) ^^^ (~~~e &&& g)
      let t₁ := h + s₁ + ch + k + w
      let s₀ := rotr a 2 ^^^ rotr a 13 ^^^ rotr a 22
      let maj := (a &&& b) ^^^ (a &&& c) ^^^ (b &&& c)
      rounds rest [t₁ + (s₀ + maj), a, b, c, d + t₁, e, f, g]
  | _, state => state

def compress (state block : List UInt32) : List UInt32 :=
  state.zipWith (· + ·) (rounds (roundConstants.zip (schedule block)) state)

/-- Sixteen words at a time; `fuel` bounds the number of blocks. -/
def blocks : Nat → List UInt32 → List UInt32 → List UInt32
  | 0, state, _ => state
  | fuel + 1, state, words =>
      match words with
      | [] => state
      | _ => blocks fuel (compress state (words.take 16)) (words.drop 16)

/-- Eight hexadecimal characters. -/
def hexWord (w : UInt32) : PyStr :=
  (List.range 8).map fun i => hexDigit (w.toNat / 16 ^ (7 - i) % 16)

def hexdigest (data : List UInt8) : PyStr :=
  let words := wordsOfBytes (pad data)
  (blocks words.length initialHash words).flatMap hexWord

/-! ## The digest's format -/

theorem rounds_length (schedule : List (UInt32 × UInt32)) (state : List UInt32) :
    (rounds schedule state).length = state.length := by
  fun_induction rounds schedule state with
  | case1 k w rest a b c d e f g h s₁ ch t₁ s₀ maj ih =>
      exact ih
  | case2 schedule state hstop =>
      rfl

theorem blocks_length (fuel : Nat) (state words : List UInt32) :
    (blocks fuel state words).length = state.length := by
  induction fuel generalizing state words with
  | zero =>
      rfl
  | succ fuel ih =>
      cases words with
      | nil =>
          rfl
      | cons w ws =>
          simp only [blocks, ih, compress, List.length_zipWith, rounds_length, min_self]

theorem hexdigest_length (data : List UInt8) : (hexdigest data).length = 64 := by
  simp only [hexdigest, List.length_flatMap, hexWord, List.length_map, List.length_range,
    List.map_const', List.sum_replicate, blocks_length]
  rfl

theorem mem_hexdigest {data : List UInt8} {c : CodePoint} (h : c ∈ hexdigest data) :
    (0x30 ≤ c.val ∧ c.val ≤ 0x39) ∨ (0x61 ≤ c.val ∧ c.val ≤ 0x66) := by
  rcases List.mem_flatMap.mp h with ⟨w, _, hc⟩
  rcases List.mem_map.mp hc with ⟨i, _, rfl⟩
  exact hexDigit_range (Nat.mod_lt _ (by decide))

example : hexdigest ((py "abc").map fun c => c.val.toUInt8) =
    py "ba7816bf8f01cfea414140de5dae2223b00361a396177a9cb410ff61f20015ad" := by
  decide +kernel

end Sha256
end TransactionPlatform
