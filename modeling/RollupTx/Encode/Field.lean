import RollupTx.Encode.Error
import RollupTx.Bytes.BigEndian

/-!
# Payload fields

Every scalar of a payload has a fixed width and is written big-endian. A writer checks its
input and fails with an `EncodeError` instead of cutting a value short: ids and nonces take
four bytes, timestamps eight, ratio parts and raw amounts sixteen. Addresses and public key
hashes are 20 bytes of hex after at most one prefix (`0x`, `0X` or `sync:`, tried in that
order and matched exactly); content hashes are 32 bytes of hex after an optional `0x`.
-/

namespace RollupTx.Field

/-- Width of an account id, token id or nonce. -/
def wordBytes : Nat := 4
def timestampBytes : Nat := 8
/-- Width of an address or public key hash. -/
def addressBytes : Nat := 20
def contentHashBytes : Nat := 32
/-- Width of each part of a ratio and of an unpacked amount. -/
def wideBytes : Nat := 16

/-- Width of the 256-bit values that integer fields are cut from. -/
def valueBytes : Nat := 32

/-- `v` big-endian in exactly `len` bytes, or a range error naming `field` when `v` needs
more than `8 * len` bits. The bytes are the last `min len 32` bytes of the value's 32-byte
form, after `len - 32` zero bytes when the field is wider than that. -/
def intBytes (field : String) (v len : Nat) : Except EncodeError (List UInt8) :=
  if v < 2 ^ (8 * len) then
    let kept := min len valueBytes
    .ok (List.replicate (len - kept) 0 ++ (BigEndian.encode valueBytes v).drop (valueBytes - kept))
  else .error (.range field v len)

/-- A four-byte field such as an account id, token id or nonce: the value as a 32-bit word,
refused with a range error naming `field` from `2 ^ 32` on. -/
def word (field : String) (v : Nat) : Except EncodeError (List UInt8) :=
  if v < 2 ^ 32 then .ok (BigEndian.encode wordBytes v) else .error (.range field v wordBytes)

def accountId (v : Nat) : Except EncodeError (List UInt8) := word "account id" v

def tokenId (v : Nat) : Except EncodeError (List UInt8) := word "token id" v

def nonce (v : Nat) : Except EncodeError (List UInt8) := word "nonce" v

/-- A timestamp in eight bytes; every timestamp below `2 ^ 64` fits. -/
def timestamp (v : Nat) : List UInt8 := BigEndian.encode timestampBytes v

/-- One part of a ratio in sixteen bytes. -/
def ratioPart (v : Nat) : Except EncodeError (List UInt8) := intBytes "ratio part" v wideBytes

/-- An unpacked amount in sixteen bytes. -/
def rawAmount (v : Nat) : Except EncodeError (List UInt8) := intBytes "amount" v wideBytes

/-- The text after the first of the prefixes `0x`, `0X`, `sync:` that it starts with. -/
def stripAddressPrefix (s : String) : String :=
  if s.startsWith "0x" then s.drop 2 |>.toString
  else if s.startsWith "0X" then s.drop 2 |>.toString
  else if s.startsWith "sync:" then s.drop 5 |>.toString
  else s

/-- Exactly `n` bytes of hex text, with the field named in a failure. -/
def fixedHex (field : String) (n : Nat) (s : String) : Except EncodeError (List UInt8) :=
  match Hex.decode s with
  | .error e => .error (.format field (.hex e))
  | .ok bs => if bs.length = n then .ok bs else .error (.format field (.length n bs.length))

/-- A 20-byte address or public key hash. -/
def address (s : String) : Except EncodeError (List UInt8) :=
  fixedHex "address" addressBytes (stripAddressPrefix s)

/-- A 32-byte content hash; only a lower-case `0x` prefix is removed. -/
def contentHash (s : String) : Except EncodeError (List UInt8) :=
  fixedHex "content hash" contentHashBytes
    (if s.startsWith "0x" then (s.drop 2).toString else s)

end RollupTx.Field
