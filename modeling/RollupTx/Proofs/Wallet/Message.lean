import RollupTx.Fixture.Vectors
import RollupTx.Proofs.Amount.DecimalText
import RollupTx.Proofs.Encode.AddressText
import RollupTx.Proofs.Packing.Amount
import RollupTx.Proofs.Payload.Layout

/-!
# What the wallet shows is what is signed

Each wallet message is built from the transaction's fields, and each of those fields that the
message shows is one the payload commits to. For every transaction that encodes, every value
in its message denotes the value in the payload: an amount or fee shown in token units reads
back (`Token.fromDecimal`) as the amount or fee that its slot unpacks to, an address shown
lower-cased is accepted as the 20 bytes of its slot, and nonces, NFT ids, ratio parts and a
key change's fee in base units are the decimal texts of the values in their slots. A line for
an amount or fee is there exactly when the committed value is not zero.

The specifications (`ShowsTransfer`, `ShowsFeeFor`, `ShowsKeyChange`, `ShowsSwapFee`,
`ShowsOrder`) give each message's lines with the shown texts left open and say what those
texts read back as; they name the payload's bytes, never the transaction's fields.
`message_shows_what_is_signed` states that all eight message builders meet them.
-/

namespace RollupTx

open Payload Packed Decimal

theorem unpackFee_lt_wordLimit (b : UInt8) : unpackFee b < wordLimit := by
  have hb := b.toNat_lt
  have hexp : 10 ^ (b.toNat / 16) ≤ 10 ^ 15 := Nat.pow_le_pow_right (by decide) (by omega)
  calc unpackFee b = b.toNat % 16 * 10 ^ (b.toNat / 16) := rfl
    _ ≤ 15 * 10 ^ 15 := Nat.mul_le_mul (by omega) hexp
    _ < wordLimit := by decide

theorem unpackAmount_lt_wordLimit {p : List UInt8} (hp : p.length = amountBytes) :
    unpackAmount p < wordLimit := by
  have hm := mantissa_le_of_length hp
  have hexp : 10 ^ (BigEndian.decode p % 32) ≤ 10 ^ 31 := Nat.pow_le_pow_right (by decide) (by omega)
  calc unpackAmount p = BigEndian.decode p / 32 * 10 ^ (BigEndian.decode p % 32) := rfl
    _ ≤ amountMantissaMax * 10 ^ 31 := Nat.mul_le_mul hm hexp
    _ < wordLimit := by decide

theorem unpackFee_getD {b : List UInt8} {i v : Nat} (hi : i < b.length)
    (h : (b.extract i (i + 1)).map unpackFee = [v]) : unpackFee (b.getD i 0) = v := by
  have hone : b.extract i (i + 1) = [b.getD i 0] := by
    simp [List.extract_eq_take_drop, List.getD_eq_getElem?_getD, List.take_one, hi]
  rw [hone] at h
  simpa using h

theorem Token.fromDecimal_decimalPointAmount (t : Token) {a : Nat} (ha : a < wordLimit) :
    t.fromDecimal (t.decimalPointAmount a) = .ok a :=
  Token.fromDecimal_eq_ok_iff.2 (parse_renderPoint ha)

/-- A message about an amount sent to an address shows `amount`, `fee`, `nonce` and the
address bytes `recipient`: a line `verb amount symbol to: address` exactly when the amount is
not zero, a fee line exactly when the fee is not zero, and the nonce; the amount, fee and
address on those lines read back as the given values. -/
def ShowsTransfer (verb : String) (tok : Token) (amount fee nonce : Nat)
    (recipient : List UInt8) (message : String) : Prop :=
  ∃ amountText feeText addr : String,
    message = String.intercalate "\n"
      ((if amount = 0 then [] else [verb ++ amountText ++ " " ++ tok.symbol ++ " to: " ++ addr]) ++
        (if fee = 0 then [] else ["Fee: " ++ feeText ++ " " ++ tok.symbol]) ++
        ["Nonce: " ++ toString nonce]) ∧
    tok.fromDecimal amountText = .ok amount ∧ tok.fromDecimal feeText = .ok fee ∧
    Field.address addr = .ok recipient

/-- A message about a fee paid for an action on an address shows `fee`, `nonce` and the
address bytes `recipient`: the line `head` and the address, a fee line and the nonce, the
address and fee reading back as the given values. -/
def ShowsFeeFor (head : String) (tok : Token) (fee nonce : Nat) (recipient : List UInt8)
    (message : String) : Prop :=
  ∃ addr feeText : String,
    message = String.intercalate "\n"
      [head ++ addr, "Fee: " ++ feeText ++ " " ++ tok.symbol, "Nonce: " ++ toString nonce] ∧
    tok.fromDecimal feeText = .ok fee ∧ Field.address addr = .ok recipient

/-- A key change's message shows the key hash bytes `key`, `fee` and `nonce`: the key hash,
a fee line in base units exactly when the fee is not zero, and the nonce. -/
def ShowsKeyChange (tok : Token) (fee nonce : Nat) (key : List UInt8) (message : String) :
    Prop :=
  ∃ keyText : String,
    message = String.intercalate "\n"
      (["Set signing key: " ++ keyText] ++
        (if fee = 0 then [] else ["Fee: " ++ toString fee ++ " " ++ tok.symbol]) ++
        ["Nonce: " ++ toString nonce]) ∧
    Field.address keyText = .ok key

/-- A swap's message shows `fee` and `nonce`: a fee line exactly when the fee is not zero,
then the nonce. -/
def ShowsSwapFee (tok : Token) (fee nonce : Nat) (message : String) : Prop :=
  ∃ feeText : String,
    message = (if fee = 0 then "Nonce: " ++ toString nonce
      else "Swap fee: " ++ feeText ++ " " ++ tok.symbol ++ "\n" ++ ("Nonce: " ++ toString nonce)) ∧
    tok.fromDecimal feeText = .ok fee

/-- An order's message shows `amount` of `sell`, the ratio `num:den`, the address bytes
`recipient` and `nonce`; an order for no amount is a limit order. -/
def ShowsOrder (sell buy : Token) (amount num den nonce : Nat) (recipient : List UInt8)
    (message : String) : Prop :=
  ∃ amountText addr : String,
    message = String.intercalate "\n"
      [if amount = 0 then "Limit order for " ++ sell.symbol ++ " -> " ++ buy.symbol
        else "Order for " ++ amountText ++ " " ++ sell.symbol ++ " -> " ++ buy.symbol,
        "Ratio: " ++ (toString num ++ ":" ++ toString den), "Address: " ++ addr,
        "Nonce: " ++ toString nonce] ∧
    sell.fromDecimal amountText = .ok amount ∧ Field.address addr = .ok recipient

theorem showsTransfer_of {verb : String} {tok : Token} {amount fee nonce : Nat} {addr : String}
    {recipient : List UInt8} (ha : amount < wordLimit) (hf : fee < wordLimit)
    (haddr : Field.address addr = .ok recipient) :
    ShowsTransfer verb tok amount fee nonce recipient
      (String.intercalate "\n"
        ((if amount = 0 then [] else
          [verb ++ tok.decimalPointAmount amount ++ " " ++ tok.symbol ++ " to: " ++ Text.lower addr]) ++
        (if fee = 0 then [] else [tok.feeLine fee]) ++ ["Nonce: " ++ toString nonce])) :=
  ⟨_, _, _, rfl, tok.fromDecimal_decimalPointAmount ha, tok.fromDecimal_decimalPointAmount hf,
    Field.address_lower haddr⟩

theorem showsFeeFor_of {head : String} {tok : Token} {fee nonce : Nat} {addr : String}
    {recipient : List UInt8} (hf : fee < wordLimit) (haddr : Field.address addr = .ok recipient) :
    ShowsFeeFor head tok fee nonce recipient
      (String.intercalate "\n" [head ++ Text.lower addr, tok.feeLine fee, "Nonce: " ++ toString nonce]) :=
  ⟨_, _, rfl, tok.fromDecimal_decimalPointAmount hf, Field.address_lower haddr⟩

namespace Transfer

theorem message_shows {t : Transfer} {b : List UInt8} (h : t.encode = .ok b) :
    ShowsTransfer "Transfer " t.token (unpackAmount (b.extract 50 55)) (unpackFee (b.getD 55 0))
      (BigEndian.decode (b.extract 56 60)) (b.extract 26 46) t.message := by
  have hl := holds_layout h
  have hlen : b.length = 76 := hl.1
  have hamount : unpackAmount (b.extract 50 55) = t.amount :=
    hl.2 ⟨50, 5, fun bs => unpackAmount bs = t.amount⟩ (by simp [layout])
  have hfee : unpackFee (b.getD 55 0) = t.fee :=
    unpackFee_getD (by omega) (hl.2 ⟨55, 1, fun bs => bs.map unpackFee = [t.fee]⟩ (by simp [layout]))
  have hnonce : BigEndian.decode (b.extract 56 60) = t.nonce :=
    hl.2 ⟨56, 4, fun bs => BigEndian.decode bs = t.nonce⟩ (by simp [layout])
  have hto : Field.address t.toAddress = .ok (b.extract 26 46) :=
    hl.2 ⟨26, 20, fun bs => Field.address t.toAddress = .ok bs⟩ (by simp [layout])
  have hbound : t.amount < wordLimit :=
    hamount ▸ unpackAmount_lt_wordLimit (by simp [hlen, amountBytes])
  rw [hamount, hfee, hnonce]
  exact showsTransfer_of hbound (hfee ▸ unpackFee_lt_wordLimit _) hto

end Transfer

namespace Withdraw

theorem message_shows {t : Withdraw} {b : List UInt8} (h : t.encode = .ok b) :
    ShowsTransfer "Withdraw " t.token (BigEndian.decode (b.extract 50 66))
      (unpackFee (b.getD 66 0)) (BigEndian.decode (b.extract 67 71)) (b.extract 26 46)
      t.message := by
  have hl := holds_layout h
  have hlen : b.length = 87 := hl.1
  have hamount : BigEndian.decode (b.extract 50 66) = t.amount :=
    hl.2 ⟨50, 16, fun bs => BigEndian.decode bs = t.amount⟩ (by simp [layout])
  have hfee : unpackFee (b.getD 66 0) = t.fee :=
    unpackFee_getD (by omega) (hl.2 ⟨66, 1, fun bs => bs.map unpackFee = [t.fee]⟩ (by simp [layout]))
  have hnonce : BigEndian.decode (b.extract 67 71) = t.nonce :=
    hl.2 ⟨67, 4, fun bs => BigEndian.decode bs = t.nonce⟩ (by simp [layout])
  have hto : Field.address t.toAddress = .ok (b.extract 26 46) :=
    hl.2 ⟨26, 20, fun bs => Field.address t.toAddress = .ok bs⟩ (by simp [layout])
  have hbound : t.amount < wordLimit := by
    have hraw := BigEndian.decode_lt (b.extract 50 66)
    simp only [List.extract_eq_take_drop, List.length_take, List.length_drop, hlen] at hraw
    rw [← hamount]
    exact Nat.lt_of_lt_of_le hraw (by decide)
  rw [hamount, hfee, hnonce]
  exact showsTransfer_of hbound (hfee ▸ unpackFee_lt_wordLimit _) hto

end Withdraw

theorem ChangePubKey.message_shows {t : ChangePubKey} {b : List UInt8} (h : t.encode = .ok b) :
    ShowsKeyChange t.feeToken (unpackFee (b.getD 50 0)) (BigEndian.decode (b.extract 51 55))
      (b.extract 26 46) t.message := by
  have hl := holds_layout h
  have hlen : b.length = 71 := hl.1
  have hfee : unpackFee (b.getD 50 0) = t.fee :=
    unpackFee_getD (by omega) (hl.2 ⟨50, 1, fun bs => bs.map unpackFee = [t.fee]⟩ (by simp [layout]))
  have hnonce : BigEndian.decode (b.extract 51 55) = t.nonce :=
    hl.2 ⟨51, 4, fun bs => BigEndian.decode bs = t.nonce⟩ (by simp [layout])
  have hkey : Field.address t.newPkHash = .ok (b.extract 26 46) :=
    hl.2 ⟨26, 20, fun bs => Field.address t.newPkHash = .ok bs⟩ (by simp [layout])
  rw [hfee, hnonce]
  exact ⟨Text.lower (t.newPkHash.replace "sync:" ""), rfl, Field.address_lower_replace hkey⟩

theorem ForcedExit.message_shows {t : ForcedExit} {b : List UInt8} (h : t.encode = .ok b) :
    ShowsFeeFor ("ForcedExit " ++ t.token.symbol ++ " to: ") t.token (unpackFee (b.getD 30 0))
      (BigEndian.decode (b.extract 31 35)) (b.extract 6 26) t.message := by
  have hl := holds_layout h
  have hlen : b.length = 51 := hl.1
  have hfee : unpackFee (b.getD 30 0) = t.fee :=
    unpackFee_getD (by omega) (hl.2 ⟨30, 1, fun bs => bs.map unpackFee = [t.fee]⟩ (by simp [layout]))
  have hnonce : BigEndian.decode (b.extract 31 35) = t.nonce :=
    hl.2 ⟨31, 4, fun bs => BigEndian.decode bs = t.nonce⟩ (by simp [layout])
  have htarget : Field.address t.target = .ok (b.extract 6 26) :=
    hl.2 ⟨6, 20, fun bs => Field.address t.target = .ok bs⟩ (by simp [layout])
  rw [hfee, hnonce]
  exact showsFeeFor_of (hfee ▸ unpackFee_lt_wordLimit _) htarget

/-- A mint shows its content hash as it is, which is what the payload holds. -/
theorem MintNft.message_shows {t : MintNft} {b : List UInt8} (h : t.encode = .ok b) :
    Field.contentHash t.contentHash = .ok (b.extract 26 58) ∧
      ShowsFeeFor ("MintNFT " ++ t.contentHash ++ " for: ") t.feeToken (unpackFee (b.getD 82 0))
        (BigEndian.decode (b.extract 83 87)) (b.extract 58 78) t.message := by
  have hl := holds_layout h
  have hlen : b.length = 87 := hl.1
  have hhash : Field.contentHash t.contentHash = .ok (b.extract 26 58) :=
    hl.2 ⟨26, 32, fun bs => Field.contentHash t.contentHash = .ok bs⟩ (by simp [layout])
  have hfee : unpackFee (b.getD 82 0) = t.fee :=
    unpackFee_getD (by omega) (hl.2 ⟨82, 1, fun bs => bs.map unpackFee = [t.fee]⟩ (by simp [layout]))
  have hnonce : BigEndian.decode (b.extract 83 87) = t.nonce :=
    hl.2 ⟨83, 4, fun bs => BigEndian.decode bs = t.nonce⟩ (by simp [layout])
  have hrecipient : Field.address t.recipient = .ok (b.extract 58 78) :=
    hl.2 ⟨58, 20, fun bs => Field.address t.recipient = .ok bs⟩ (by simp [layout])
  rw [hfee, hnonce]
  exact ⟨hhash, showsFeeFor_of (hfee ▸ unpackFee_lt_wordLimit _) hrecipient⟩

theorem WithdrawNft.message_shows {t : WithdrawNft} {b : List UInt8} (h : t.encode = .ok b) :
    ShowsFeeFor ("WithdrawNFT " ++ toString (BigEndian.decode (b.extract 46 50)) ++ " to: ")
      t.feeToken (unpackFee (b.getD 54 0)) (BigEndian.decode (b.extract 55 59)) (b.extract 26 46)
      t.message := by
  have hl := holds_layout h
  have hlen : b.length = 75 := hl.1
  have hnft : BigEndian.decode (b.extract 46 50) = t.tokenId :=
    hl.2 ⟨46, 4, fun bs => BigEndian.decode bs = t.tokenId⟩ (by simp [layout])
  have hfee : unpackFee (b.getD 54 0) = t.fee :=
    unpackFee_getD (by omega) (hl.2 ⟨54, 1, fun bs => bs.map unpackFee = [t.fee]⟩ (by simp [layout]))
  have hnonce : BigEndian.decode (b.extract 55 59) = t.nonce :=
    hl.2 ⟨55, 4, fun bs => BigEndian.decode bs = t.nonce⟩ (by simp [layout])
  have hto : Field.address t.toAddress = .ok (b.extract 26 46) :=
    hl.2 ⟨26, 20, fun bs => Field.address t.toAddress = .ok bs⟩ (by simp [layout])
  rw [hnft, hfee, hnonce]
  exact showsFeeFor_of (hfee ▸ unpackFee_lt_wordLimit _) hto

theorem Swap.message_shows {s : Swap} {b : List UInt8} (h : s.encode = .ok b) :
    ShowsSwapFee s.feeToken (unpackFee (b.getD 66 0)) (BigEndian.decode (b.extract 26 30))
      s.message := by
  have hl := holds_layout h
  have hlen : b.length = 77 := hl.1
  have hfee : unpackFee (b.getD 66 0) = s.fee :=
    unpackFee_getD (by omega) (hl.2 ⟨66, 1, fun bs => bs.map unpackFee = [s.fee]⟩ (by simp [layout]))
  have hnonce : BigEndian.decode (b.extract 26 30) = s.nonce :=
    hl.2 ⟨26, 4, fun bs => BigEndian.decode bs = s.nonce⟩ (by simp [layout])
  rw [hfee, hnonce]
  exact ⟨s.feeToken.decimalPointAmount s.fee, rfl,
    s.feeToken.fromDecimal_decimalPointAmount (hfee ▸ unpackFee_lt_wordLimit _)⟩

theorem Order.message_shows {o : Order} {b : List UInt8} (h : o.encode = .ok b) :
    ShowsOrder o.tokenSell o.tokenBuy (unpackAmount (b.extract 70 75))
      (BigEndian.decode (b.extract 38 54)) (BigEndian.decode (b.extract 54 70))
      (BigEndian.decode (b.extract 26 30)) (b.extract 6 26) o.message := by
  have hl := holds_layout h
  have hlen : b.length = 91 := hl.1
  have hamount : unpackAmount (b.extract 70 75) = o.amount :=
    hl.2 ⟨70, 5, fun bs => unpackAmount bs = o.amount⟩ (by simp [layout])
  have hnum : BigEndian.decode (b.extract 38 54) = o.ratio.numerator :=
    hl.2 ⟨38, 16, fun bs => BigEndian.decode bs = o.ratio.numerator⟩ (by simp [layout])
  have hden : BigEndian.decode (b.extract 54 70) = o.ratio.denominator :=
    hl.2 ⟨54, 16, fun bs => BigEndian.decode bs = o.ratio.denominator⟩ (by simp [layout])
  have hnonce : BigEndian.decode (b.extract 26 30) = o.nonce :=
    hl.2 ⟨26, 4, fun bs => BigEndian.decode bs = o.nonce⟩ (by simp [layout])
  have hrecipient : Field.address o.recipient = .ok (b.extract 6 26) :=
    hl.2 ⟨6, 20, fun bs => Field.address o.recipient = .ok bs⟩ (by simp [layout])
  have hbound : o.amount < wordLimit :=
    hamount ▸ unpackAmount_lt_wordLimit (by simp [hlen, amountBytes])
  rw [hamount, hnum, hden, hnonce]
  exact ⟨o.tokenSell.decimalPointAmount o.amount, Text.lower o.recipient, rfl,
    o.tokenSell.fromDecimal_decimalPointAmount hbound, Field.address_lower hrecipient⟩

/-- What the wallet shows is what is signed: for every transaction and order that encodes,
every value its message shows denotes the value at its place in the payload. -/
theorem Payload.message_shows_what_is_signed :
    (∀ (t : Transfer) b, t.encode = .ok b →
      ShowsTransfer "Transfer " t.token (unpackAmount (b.extract 50 55)) (unpackFee (b.getD 55 0))
        (BigEndian.decode (b.extract 56 60)) (b.extract 26 46) t.message) ∧
    (∀ (t : Withdraw) b, t.encode = .ok b →
      ShowsTransfer "Withdraw " t.token (BigEndian.decode (b.extract 50 66))
        (unpackFee (b.getD 66 0)) (BigEndian.decode (b.extract 67 71)) (b.extract 26 46)
        t.message) ∧
    (∀ (t : ChangePubKey) b, t.encode = .ok b →
      ShowsKeyChange t.feeToken (unpackFee (b.getD 50 0)) (BigEndian.decode (b.extract 51 55))
        (b.extract 26 46) t.message) ∧
    (∀ (t : ForcedExit) b, t.encode = .ok b →
      ShowsFeeFor ("ForcedExit " ++ t.token.symbol ++ " to: ") t.token (unpackFee (b.getD 30 0))
        (BigEndian.decode (b.extract 31 35)) (b.extract 6 26) t.message) ∧
    (∀ (t : MintNft) b, t.encode = .ok b →
      Field.contentHash t.contentHash = .ok (b.extract 26 58) ∧
        ShowsFeeFor ("MintNFT " ++ t.contentHash ++ " for: ") t.feeToken
          (unpackFee (b.getD 82 0)) (BigEndian.decode (b.extract 83 87)) (b.extract 58 78)
          t.message) ∧
    (∀ (t : WithdrawNft) b, t.encode = .ok b →
      ShowsFeeFor ("WithdrawNFT " ++ toString (BigEndian.decode (b.extract 46 50)) ++ " to: ")
        t.feeToken (unpackFee (b.getD 54 0)) (BigEndian.decode (b.extract 55 59))
        (b.extract 26 46) t.message) ∧
    (∀ (s : Swap) b, s.encode = .ok b →
      ShowsSwapFee s.feeToken (unpackFee (b.getD 66 0)) (BigEndian.decode (b.extract 26 30))
        s.message) ∧
    (∀ (o : Order) b, o.encode = .ok b →
      ShowsOrder o.tokenSell o.tokenBuy (unpackAmount (b.extract 70 75))
        (BigEndian.decode (b.extract 38 54)) (BigEndian.decode (b.extract 54 70))
        (BigEndian.decode (b.extract 26 30)) (b.extract 6 26) o.message) :=
  ⟨fun _ _ => Transfer.message_shows, fun _ _ => Withdraw.message_shows,
    fun _ _ => ChangePubKey.message_shows, fun _ _ => ForcedExit.message_shows,
    fun _ _ => MintNft.message_shows, fun _ _ => WithdrawNft.message_shows,
    fun _ _ => Swap.message_shows, fun _ _ => Order.message_shows⟩

/-- A key change whose key hash carries `sync:` and capitals: its message shows the hash
without the prefix and lower-cased, and that text reads as the payload's key bytes. -/
theorem Payload.sync_key_hash_shown_as_signed :
    ∃ (c : ChangePubKey) (b : List UInt8),
      c.newPkHash = "sync:EDE35562d3555e61120a151B3c8e8e91d83a378a" ∧ c.encode = .ok b ∧
      ShowsKeyChange c.feeToken (unpackFee (b.getD 50 0)) (BigEndian.decode (b.extract 51 55))
        (b.extract 26 46) c.message := by
  let c : ChangePubKey := ⟨7, SampleVector.bob, "sync:EDE35562d3555e61120a151B3c8e8e91d83a378a",
    Token.eth, 1500000000000000, 1, Window.default, .onchain, none, none⟩
  have hsome : c.encode.toOption.isSome = true := by decide +kernel
  obtain ⟨b, hok⟩ := exists_eq_ok_of_isSome hsome
  exact ⟨c, b, rfl, hok, message_shows_what_is_signed.2.2.1 c b hok⟩

end RollupTx
