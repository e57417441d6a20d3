import RollupTx.Fixture.Party
import RollupTx.Tx.Transaction

/-!
# Sample vectors

Four fixed transactions with the payloads they must encode to: a transfer of 1 ETH between
zero addresses, a withdrawal of 2 USDC with a packed fee, a forced exit with a short window,
and a swap of USDC for ETH hashed by BLAKE3, of which only the length is fixed.
-/

namespace RollupTx

/-- A fixed transaction and its expected payload; an empty payload fixes only the length. -/
structure SampleVector where
  name : String
  tx : Transaction
  expectedPayload : String
  expectedLen : Nat

namespace SampleVector

def zero : String := "0x0000000000000000000000000000000000000000"
/-- A mixed-case address. -/
def alice : String := "0xEDE35562d3555e61120a151B3c8e8e91d83a378a"
/-- A lower-case address. -/
def bob : String := "0x19aa2ed8712072e918632259780e587698ef58df"

def usdc : Token := ⟨"0xeb8f08a975ab53e34d8a0330e0d34de942c95926", 2, "USDC", 6⟩

/-- A limit order at 3:2 to Alice. -/
def order (accountId : Nat) (sell buy : Token) : Order :=
  ⟨accountId, alice, 0, sell, buy, 0, ⟨3, 2⟩, Window.default, none, none⟩

def all : List SampleVector := [
  ⟨"Transfer 1 ETH between zero addresses",
    .transfer ⟨5, zero, zero, Token.eth, 1000000000000000000, 0, 0, Window.default, none⟩,
    "fa010000000500000000000000000000000000000000000000000000000000000000000000000000000000" ++
      "000000000000004a817c80080000000000000000000000000000000000ffffffff", 76⟩,
  ⟨"Withdraw 2 USDC with packed fee",
    .withdraw ⟨44, alice, bob, usdc, 2000000, 30000, 3, Window.default, none⟩,
    "fc010000002cede35562d3555e61120a151b3c8e8e91d83a378a19aa2ed8712072e918632259780e587698" ++
      "ef58df00000002000000000000000000000000001e84804300000003000000000000000000000000ffffffff",
    87⟩,
  ⟨"ForcedExit with short window",
    .forcedExit ⟨9, bob, usdc, 10, 1, ⟨100, 200, by decide, by decide⟩, none⟩,
    "f7010000000919aa2ed8712072e918632259780e587698ef58df000000021100000001000000000000006400" ++
      "000000000000c8", 51⟩,
  ⟨"Swap USDC for ETH",
    .swap ⟨4, bob, (100, 200), (order 1 usdc Token.eth, order 2 Token.eth usdc), usdc, 0, 9, none,
      OrderHasher.blake3⟩,
    "", 77⟩]

/-- The hex of a vector's payload, empty when encoding fails. -/
def actual (v : SampleVector) : String :=
  match v.tx.encode with
  | .ok bs => Hex.encode bs
  | .error _ => ""

/-- Whether a vector encodes to its expected payload, or to its length when none is fixed. -/
def agrees (v : SampleVector) : Bool :=
  v.actual.length == 2 * v.expectedLen && (v.expectedPayload.isEmpty || v.actual == v.expectedPayload)

/-- Name, match and payload hex of every vector. -/
def verifyAll : List (String × Bool × String) :=
  all.map fun v => (v.name, v.agrees, v.actual)

end SampleVector

end RollupTx
