import Mathlib
import RollupTx.Fixture.Party

/-!
# The parties of a multi-party test

`multiParty n` builds `n` parties. Party `i` has the seed whose first byte is `i` taken as a
byte and whose other 31 bytes are zero, and its account id is that byte plus one. The byte
wraps at 256, so two parties of one call are the same party, with one seed, key, address and
account id, exactly when their indices agree modulo 256. The parties are therefore pairwise
distinct, by seed and by account id alike, exactly when there are at most 256 of them.
`multiParty_distinct_iff_at_most_256` collects these facts.
-/

namespace RollupTx

namespace Party

@[simp] theorem ofSeed_seed (seed : List UInt8) : (ofSeed seed).seed = seed := rfl

@[simp] theorem ofSeed_accountId (seed : List UInt8) :
    (ofSeed seed).accountId = (seed.headD 0).toNat + 1 := rfl

/-- The seed of the party of index `i`: the index as a byte, then 31 zero bytes. -/
def indexSeed (i : Nat) : List UInt8 := UInt8.ofNat (i % 256) :: List.replicate 31 0

theorem head_indexSeed_toNat (i : Nat) : ((indexSeed i).headD 0).toNat = i % 256 := by
  simp [indexSeed]

theorem indexSeed_eq_iff {i j : Nat} : indexSeed i = indexSeed j ↔ i % 256 = j % 256 := by
  constructor
  · intro h
    have hbyte := congrArg (fun s : List UInt8 => (s.headD 0).toNat) h
    simpa only [head_indexSeed_toNat] using hbyte
  · intro h
    simp only [indexSeed, h]

theorem accountId_ofSeed_indexSeed (i : Nat) :
    (ofSeed (indexSeed i)).accountId = i % 256 + 1 := by
  rw [ofSeed_accountId, head_indexSeed_toNat]

theorem ofSeed_indexSeed_eq_iff {i j : Nat} :
    ofSeed (indexSeed i) = ofSeed (indexSeed j) ↔ i % 256 = j % 256 := by
  rw [← indexSeed_eq_iff]
  constructor
  · intro h
    simpa only [ofSeed_seed] using congrArg seed h
  · intro h
    rw [h]

end Party

open Party

theorem multiParty_eq_map (n : Nat) :
    multiParty n = (List.range n).map fun i => ofSeed (indexSeed i) := rfl

@[simp] theorem length_multiParty (n : Nat) : (multiParty n).length = n := by
  simp [multiParty_eq_map]

theorem getElem?_multiParty {n i : Nat} (h : i < n) :
    (multiParty n)[i]? = some (ofSeed (indexSeed i)) := by
  simp [multiParty_eq_map, List.getElem?_range h]

/-- A list of values indexed `0 … n - 1` whose values repeat exactly with the index modulo 256
has no repeat exactly when it has at most 256 entries. -/
theorem nodup_map_range_iff_of_mod {β : Type} {f : Nat → β}
    (hf : ∀ i j, f i = f j ↔ i % 256 = j % 256) (n : Nat) :
    ((List.range n).map f).Nodup ↔ n ≤ 256 := by
  rw [List.nodup_map_iff_inj_on List.nodup_range]
  constructor
  · intro hinj
    by_contra hn
    have h0 : 0 ∈ List.range n := List.mem_range.2 (by omega)
    have h256 : 256 ∈ List.range n := List.mem_range.2 (by omega)
    have := hinj 0 h0 256 h256 ((hf 0 256).2 rfl)
    omega
  · intro hn i hi j hj hij
    have hi' := List.mem_range.1 hi
    have hj' := List.mem_range.1 hj
    have hmod := (hf i j).1 hij
    omega

theorem nodup_seeds_iff (n : Nat) : ((multiParty n).map seed).Nodup ↔ n ≤ 256 := by
  rw [multiParty_eq_map, List.map_map]
  exact nodup_map_range_iff_of_mod (fun _ _ => indexSeed_eq_iff) n

theorem nodup_accountIds_iff (n : Nat) : ((multiParty n).map accountId).Nodup ↔ n ≤ 256 := by
  rw [multiParty_eq_map, List.map_map]
  refine nodup_map_range_iff_of_mod (fun i j => ?_) n
  simp only [Function.comp_apply, accountId_ofSeed_indexSeed]
  omega

/-- Parties of one call are the same party exactly when their indices agree modulo 256. -/
theorem multiParty_getElem?_eq_iff {n i j : Nat} (hi : i < n) (hj : j < n) :
    (multiParty n)[i]? = (multiParty n)[j]? ↔ i % 256 = j % 256 := by
  rw [getElem?_multiParty hi, getElem?_multiParty hj, Option.some_inj, ofSeed_indexSeed_eq_iff]

theorem accountId_of_mem_multiParty {n : Nat} {p : Party} (hp : p ∈ multiParty n) :
    p.accountId = (p.seed.headD 0).toNat + 1 := by
  obtain ⟨i, -, rfl⟩ := List.mem_map.1 hp
  rfl

/-- The parties of a multi-party test: there are as many as asked for; two of them are the same
party, with one seed, key, address and account id, exactly when their indices agree modulo 256;
each account id is one more than the first byte of its seed; and the seeds, and likewise the
account ids, are pairwise distinct exactly when at most 256 parties are asked for. -/
theorem multiParty_distinct_iff_at_most_256 (n : Nat) :
    (multiParty n).length = n ∧
    (∀ i j, i < n → j < n →
      ((multiParty n)[i]? = (multiParty n)[j]? ↔ i % 256 = j % 256)) ∧
    (∀ p ∈ multiParty n, p.accountId = (p.seed.headD 0).toNat + 1) ∧
    (((multiParty n).map seed).Nodup ↔ n ≤ 256) ∧
    (((multiParty n).map accountId).Nodup ↔ n ≤ 256) :=
  ⟨length_multiParty n, fun _ _ hi hj => multiParty_getElem?_eq_iff hi hj,
    fun _ => accountId_of_mem_multiParty, nodup_seeds_iff n, nodup_accountIds_iff n⟩

/-- Three parties have three account ids; of 300 parties, party 256 is party 0 again, and
257 parties already repeat a seed. -/
theorem three_parties_distinct_and_party_256_repeats_party_0 :
    ((multiParty 3).map accountId).Nodup ∧ (multiParty 300)[0]? = (multiParty 300)[256]? ∧
      ¬((multiParty 257).map seed).Nodup :=
  ⟨(multiParty_distinct_iff_at_most_256 3).2.2.2.2.2 (by decide),
    ((multiParty_distinct_iff_at_most_256 300).2.1 0 256 (by decide) (by decide)).2 rfl,
    fun h => absurd ((multiParty_distinct_iff_at_most_256 257).2.2.2.1.1 h) (by decide)⟩

end RollupTx
