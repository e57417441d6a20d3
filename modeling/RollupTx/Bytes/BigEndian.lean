/-!
# Big-endian numbers

A natural number written into a fixed number of bytes, most significant byte first, and
the number a byte sequence denotes. Writing keeps the number modulo `256 ^ len`; callers
check the width first, so what they write reads back unchanged.

The library's bounds and scales are powers of naturals: `2 ^ 64`, `256 ^ len`, `10 ^ e`. They
are core's `Nat.pow`, read through `instPowNat`. An algebra library adds its own `Pow ℕ ℕ`,
through monoids, and makes it the default for a literal exponent. Here core's instance is
preferred in both roles, so a power written in the program and one written in a lemma about it
elaborate to the same term, whatever else is imported.
-/

attribute [instance (default + 100)] instPowNat

attribute [default_instance (high + 1)] instPowNat

namespace RollupTx.BigEndian

/-- The low `len` bytes of `v`, most significant first. -/
def encode : Nat → Nat → List UInt8
  | 0, _ => []
  | len + 1, v => encode len (v / 256) ++ [UInt8.ofNat (v % 256)]

/-- The number that bytes denote, most significant first. -/
def decode (bs : List UInt8) : Nat :=
  bs.foldl (fun acc b => acc * 256 + b.toNat) 0

@[simp] theorem length_encode (len v : Nat) : (encode len v).length = len := by
  induction len generalizing v with
  | zero => rfl
  | succ n ih => simp [encode, ih]

@[simp] theorem decode_nil : decode [] = 0 := rfl

theorem decode_append_singleton (bs : List UInt8) (b : UInt8) :
    decode (bs ++ [b]) = decode bs * 256 + b.toNat := by
  simp [decode, List.foldl_append]

/-- Writing keeps the number modulo `256 ^ len`. -/
theorem decode_encode (len v : Nat) : decode (encode len v) = v % 256 ^ len := by
  induction len generalizing v with
  | zero => simp [encode, Nat.mod_one]
  | succ n ih =>
    rw [encode, decode_append_singleton, ih, Nat.pow_succ, Nat.mul_comm (256 ^ n), Nat.mod_mul]
    have : (UInt8.ofNat (v % 256)).toNat = v % 256 := by simp
    omega

/-- Writing into `a + b` bytes puts the high part into the first `a` bytes and the low part into
the last `b`. -/
theorem encode_add (a b v : Nat) : encode (a + b) v = encode a (v / 256 ^ b) ++ encode b v := by
  induction b generalizing v with
  | zero => simp [encode]
  | succ b ih =>
    rw [← Nat.add_assoc, encode, ih, encode, Nat.div_div_eq_div_mul, ← Nat.pow_succ',
      List.append_assoc]

@[simp] theorem encode_zero (len : Nat) : encode len 0 = List.replicate len 0 := by
  induction len with
  | zero => rfl
  | succ n ih => simp [encode, ih, List.replicate_succ']

/-- The last `n` bytes of a wider writing are the writing in `n` bytes. -/
theorem drop_encode {n len : Nat} (h : n ≤ len) (v : Nat) :
    (encode len v).drop (len - n) = encode n v := by
  have hsplit := encode_add (len - n) n v
  rw [Nat.sub_add_cancel h] at hsplit
  rw [hsplit, List.drop_left' (length_encode _ _)]

/-- A value that fits `n` bytes, written wider, gets zero bytes in front. -/
theorem encode_of_lt {n len v : Nat} (h : n ≤ len) (hv : v < 256 ^ n) :
    encode len v = List.replicate (len - n) 0 ++ encode n v := by
  have hsplit := encode_add (len - n) n v
  rw [Nat.sub_add_cancel h, Nat.div_eq_of_lt hv, encode_zero] at hsplit
  exact hsplit

theorem decode_encode_of_lt {len v : Nat} (h : v < 256 ^ len) : decode (encode len v) = v := by
  rw [decode_encode, Nat.mod_eq_of_lt h]

theorem decode_lt (bs : List UInt8) : decode bs < 256 ^ bs.length := by
  -- the bytes are read from the front, so the induction runs on the reversed list
  suffices h : ∀ rs : List UInt8, decode rs.reverse < 256 ^ rs.length by
    simpa using h bs.reverse
  intro rs
  induction rs with
  | nil => decide
  | cons b rs ih =>
    have hb := b.toNat_lt
    rw [List.reverse_cons, decode_append_singleton, List.length_cons, Nat.pow_succ]
    change _ < 256 at hb
    omega

/-- Bytes read as a number and written back at their own width are unchanged. -/
theorem encode_decode (bs : List UInt8) : encode bs.length (decode bs) = bs := by
  suffices h : ∀ rs : List UInt8, encode rs.length (decode rs.reverse) = rs.reverse by
    simpa using h bs.reverse
  intro rs
  induction rs with
  | nil => rfl
  | cons b rs ih =>
    have hb := b.toNat_lt
    change _ < 256 at hb
    rw [List.reverse_cons, decode_append_singleton, List.length_cons, encode]
    have hdiv : (decode rs.reverse * 256 + b.toNat) / 256 = decode rs.reverse := by omega
    have hmod : (decode rs.reverse * 256 + b.toNat) % 256 = b.toNat := by omega
    rw [hdiv, hmod, ih, UInt8.ofNat_toNat]

end RollupTx.BigEndian
