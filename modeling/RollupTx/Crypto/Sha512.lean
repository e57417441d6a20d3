import RollupTx.Bytes.BigEndian

/-!
# SHA-512

The SHA-512 digest of a byte sequence (FIPS 180-4). The message is padded with a one bit,
zeros and its bit length in sixteen bytes to a multiple of 128 bytes; each 128-byte block
is expanded to 80 words and mixed into eight 64-bit words by 80 rounds. Words add modulo
`2 ^ 64`.
-/

namespace RollupTx.Sha512

/-- The round constants: the first 64 bits of the fractional parts of the cube roots of the
first 80 primes. -/
def roundConstants : Array UInt64 := #[
  0x428A2F98D728AE22, 0x7137449123EF65CD, 0xB5C0FBCFEC4D3B2F, 0xE9B5DBA58189DBBC,
  0x3956C25BF348B538, 0x59F111F1B605D019, 0x923F82A4AF194F9B, 0xAB1C5ED5DA6D8118,
  0xD807AA98A3030242, 0x12835B0145706FBE, 0x243185BE4EE4B28C, 0x550C7DC3D5FFB4E2,
  0x72BE5D74F27B896F, 0x80DEB1FE3B1696B1, 0x9BDC06A725C71235, 0xC19BF174CF692694,
  0xE49B69C19EF14AD2, 0xEFBE4786384F25E3, 0x0FC19DC68B8CD5B5, 0x240CA1CC77AC9C65,
  0x2DE92C6F592B0275, 0x4A7484AA6EA6E483, 0x5CB0A9DCBD41FBD4, 0x76F988DA831153B5,
  0x983E5152EE66DFAB, 0xA831C66D2DB43210, 0xB00327C898FB213F, 0xBF597FC7BEEF0EE4,
  0xC6E00BF33DA88FC2, 0xD5A79147930AA725, 0x06CA6351E003826F, 0x142929670A0E6E70,
  0x27B70A8546D22FFC, 0x2E1B21385C26C926, 0x4D2C6DFC5AC42AED, 0x53380D139D95B3DF,
  0x650A73548BAF63DE, 0x766A0ABB3C77B2A8, 0x81C2C92E47EDAEE6, 0x92722C851482353B,
  0xA2BFE8A14CF10364, 0xA81A664BBC423001, 0xC24B8B70D0F89791, 0xC76C51A30654BE30,
  0xD192E819D6EF5218, 0xD69906245565A910, 0xF40E35855771202A, 0x106AA07032BBD1B8,
  0x19A4C116B8D2D0C8, 0x1E376C085141AB53, 0x2748774CDF8EEB99, 0x34B0BCB5E19B48A8,
  0x391C0CB3C5C95A63, 0x4ED8AA4AE3418ACB, 0x5B9CCA4F7763E373, 0x682E6FF3D6B2B8A3,
  0x748F82EE5DEFB2FC, 0x78A5636F43172F60, 0x84C87814A1F0AB72, 0x8CC702081A6439EC,
  0x90BEFFFA23631E28, 0xA4506CEBDE82BDE9, 0xBEF9A3F7B2C67915, 0xC67178F2E372532B,
  0xCA273ECEEA26619C, 0xD186B8C721C0C207, 0xEADA7DD6CDE0EB1E, 0xF57D4F7FEE6ED178,
  0x06F067AA72176FBA, 0x0A637DC5A2C898A6, 0x113F9804BEF90DAE, 0x1B710B35131C471B,
  0x28DB77F523047D84, 0x32CAAB7B40C72493, 0x3C9EBE0A15C9BEBC, 0x431D67C49C100D4C,
  0x4CC5D4BECB3E42B6, 0x597F299CFC657E2A, 0x5FCB6FAB3AD6FAEC, 0x6C44198C4A475817
]

/-- The initial state: the first 64 bits of the fractional parts of the square roots of
the first 8 primes. -/
def initialState : Array UInt64 := #[
  0x6A09E667F3BCC908, 0xBB67AE8584CAA73B, 0x3C6EF372FE94F82B, 0xA54FF53A5F1D36F1,
  0x510E527FADE682D1, 0x9B05688C2B3E6C1F, 0x1F83D9ABFB41BD6B, 0x5BE0CD19137E2179
]

def rotr (x : UInt64) (n : UInt64) : UInt64 := (x >>> n) ||| (x <<< (64 - n))

/-- The word of eight bytes, most significant first. -/
def wordOf (bs : List UInt8) : UInt64 :=
  bs.foldl (fun acc b => (acc <<< 8) ||| b.toUInt64) 0

def wordBytes (w : UInt64) : List UInt8 :=
  (List.range 8).map fun i => (w >>> (8 * (7 - i.toUInt64))).toUInt8

/-- The 80-word schedule of a block given as its 16 words. -/
def schedule (w16 : List UInt64) : Array UInt64 :=
  (List.range 64).foldl
    (fun (w : Array UInt64) i =>
      let x := w.getD (i + 1) 0
      let y := w.getD (i + 14) 0
      let s0 := rotr x 1 ^^^ rotr x 8 ^^^ (x >>> 7)
      let s1 := rotr y 19 ^^^ rotr y 61 ^^^ (y >>> 6)
      w.push (w.getD i 0 + s0 + w.getD (i + 9) 0 + s1))
    w16.toArray

/-- One round on the working state `a … h` with schedule word `w` and constant `k`. -/
def round (s : Array UInt64) (k w : UInt64) : Array UInt64 :=
  let a := s.getD 0 0
  let b := s.getD 1 0
  let c := s.getD 2 0
  let d := s.getD 3 0
  let e := s.getD 4 0
  let f := s.getD 5 0
  let g := s.getD 6 0
  let h := s.getD 7 0
  let s1 := rotr e 14 ^^^ rotr e 18 ^^^ rotr e 41
  let ch := (e &&& f) ^^^ (~~~e &&& g)
  let t1 := h + s1 + ch + k + w
  let s0 := rotr a 28 ^^^ rotr a 34 ^^^ rotr a 39
  let maj := (a &&& b) ^^^ (a &&& c) ^^^ (b &&& c)
  let t2 := s0 + maj
  #[t1 + t2, a, b, c, d + t1, e, f, g]

/-- The state after one 128-byte block. -/
def compress (state : Array UInt64) (block : List UInt8) : Array UInt64 :=
  let w := schedule ((List.range 16).map fun i => wordOf ((block.drop (8 * i)).take 8))
  let s := (List.range 80).foldl (fun s i => round s (roundConstants.getD i 0) (w.getD i 0)) state
  (List.range 8).toArray.map fun i => state.getD i 0 + s.getD i 0

/-- The message with its padding: a one bit, zeros, and the bit length in 16 bytes. -/
def pad (msg : List UInt8) : List UInt8 :=
  let zeros := (239 - msg.length % 128) % 128
  msg ++ [0x80] ++ List.replicate zeros 0 ++ BigEndian.encode 16 (8 * msg.length)

/-- Split bytes into blocks of 128; the length is a multiple of 128 after padding. -/
def blocks (bs : List UInt8) : List (List UInt8) :=
  (List.range (bs.length / 128)).map fun i => (bs.drop (128 * i)).take 128

def digest (msg : List UInt8) : List UInt8 :=
  ((blocks (pad msg)).foldl compress initialState).toList.flatMap wordBytes

end RollupTx.Sha512
