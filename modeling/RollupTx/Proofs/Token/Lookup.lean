import RollupTx.Token.Snapshot

/-!
# Registry lookups are first-match scans

A registry answers lookups through an index of three maps from a key to a position in the token
list. The index is filled in one pass from the front, and a key keeps the first position it is
given, so after the pass every key is mapped to the first position of a token with that key
(`position?_index`). Reading the token at that position is a first-match scan of the list
(`lookup_of_index`): the first token with that id, that exact address text or that symbol, or
none.

The index is built by the first lookup and kept in the registry's cell. The cell only ever holds
the index of the registry's own tokens (`Held.Coherent`); every lookup keeps that so and gives
the scan's answer (`Held.lookup_spec`, `Held.find_spec`), hence so does every lookup after any
run of earlier ones (`Held.Reachable.coherent`). A snapshot that lists tokens, bare or under
`tokens`, gives the registry of exactly that list (`ofJson_of_lists`).
`lookups_are_first_match` collects these facts.
-/

namespace RollupTx

namespace Registry

theorem getElem?_insertFirst {κ : Type} [BEq κ] [Hashable κ] [LawfulBEq κ]
    (m : Std.HashMap κ Nat) (key a : κ) (position : Nat) :
    (insertFirst m key position)[a]? = m[a]?.or (if key == a then some position else none) := by
  rw [insertFirst, Std.HashMap.getElem?_insertIfNew]
  by_cases hk : key = a
  · subst hk
    cases hm : m[key]? <;> simp [Std.HashMap.mem_iff_isSome_getElem?, hm]
  · simp [hk]

@[simp] theorem Key.matches_address (a : String) :
    (Key.address a).matches = (·.address == a) := rfl

@[simp] theorem Key.matches_id (n : Nat) : (Key.id n).matches = (·.id == n) := rfl

@[simp] theorem Key.matches_symbol (s : String) : (Key.symbol s).matches = (·.symbol == s) := rfl

@[simp] theorem Index.position?_empty (k : Key) : Index.empty.position? k = none := by
  cases k <;> simp [Index.empty, Index.position?]

theorem Index.position?_add (idx : Index) (position : Nat) (t : Token) (k : Key) :
    (idx.add position t).position? k =
      (idx.position? k).or (if k.matches t then some position else none) := by
  cases k <;> simp [Index.add, Index.position?, getElem?_insertFirst]

/-- After the pass over `ts` from `position` on, a key has its old position, or else that of the
first of `ts` with the key. -/
theorem Index.position?_addAll (idx : Index) (position : Nat) (ts : List Token) (k : Key) :
    (idx.addAll position ts).position? k =
      (idx.position? k).or ((ts.findIdx? k.matches).map (· + position)) := by
  induction ts generalizing idx position with
  | nil => simp [Index.addAll]
  | cons t ts ih =>
    rw [Index.addAll, ih, position?_add, List.findIdx?_cons, Option.or_assoc]
    -- the token at `position` has the key, or the key goes to a later token, one place on
    by_cases ht : k.matches t
    · simp [ht]
    · simp [ht, Option.map_map, Function.comp_def, Nat.add_right_comm _ 1, Nat.add_assoc]

/-- Every key is mapped to the first position of a token with that key. -/
theorem position?_index (r : Registry) (k : Key) :
    r.index.position? k = r.tokens.findIdx? k.matches := by
  simp [index, Index.position?_addAll]

/-- The token at the indexed position is the first token with the key. -/
theorem lookup_of_index (r : Registry) (k : Key) :
    (r.index.position? k).bind (r.tokens[·]?) = r.tokens.find? k.matches := by
  rw [position?_index, List.find?_eq_bind_findIdx?_getElem?]

namespace Held

variable {h : Held}

/-- The cell is empty or holds the index of the registry's tokens. -/
def Coherent (h : Held) : Prop := ∀ idx, h.cell = some idx → idx = h.registry.index

theorem coherent_new (r : Registry) : (new r).Coherent := by
  intro idx hcell
  cases hcell

/-- Fetching the index gives the registry's index, and the cell, once filled, keeps it. -/
theorem index_spec (hc : h.Coherent) :
    h.index.1 = h.registry.index ∧ h.index.2.registry = h.registry ∧ h.index.2.Coherent := by
  unfold index
  cases hcell : h.cell with
  | none =>
    refine ⟨rfl, rfl, ?_⟩
    intro idx hidx
    cases hidx
    rfl
  | some idx => exact ⟨hc idx hcell, rfl, hc⟩

/-- A lookup gives the first token with the key and keeps the registry and its cell coherent. -/
theorem lookup_spec (hc : h.Coherent) (k : Key) :
    (h.lookup k).1 = h.registry.tokens.find? k.matches ∧ (h.lookup k).2.registry = h.registry ∧
      (h.lookup k).2.Coherent := by
  obtain ⟨hidx, hreg, hc'⟩ := index_spec hc
  refine ⟨?_, hreg, hc'⟩
  simp only [lookup, hidx, hreg]
  exact lookup_of_index h.registry k

/-- The answer to a reference: by id, or by address and then by symbol. -/
def scan (r : Registry) : TokenRef → Option Token
  | .id n => r.tokens.find? (·.id == n)
  | .text s => (r.tokens.find? (·.address == s)).or (r.tokens.find? (·.symbol == s))

/-- Resolving a reference gives the scan's answer and keeps the registry and its cell coherent:
the symbol lookup, when it happens, runs on the cell the address lookup left. -/
theorem find_spec (hc : h.Coherent) (ref : TokenRef) :
    (h.find ref).1 = scan h.registry ref ∧ (h.find ref).2.registry = h.registry ∧
      (h.find ref).2.Coherent := by
  cases ref with
  | id n => exact lookup_spec hc (.id n)
  | text s =>
    obtain ⟨haddr, hreg, hc'⟩ := lookup_spec hc (.address s)
    rw [find, scan]
    generalize h.lookup (.address s) = res at haddr hreg hc' ⊢
    obtain ⟨found, h'⟩ := res
    simp only [Key.matches_address] at haddr hreg hc'
    rw [← haddr]
    cases found with
    | none =>
      obtain ⟨hsym, hreg', hc''⟩ := lookup_spec hc' (.symbol s)
      rw [hreg] at hsym hreg'
      exact ⟨by simpa using hsym, hreg', hc''⟩
    | some t => exact ⟨rfl, hreg, hc'⟩

/-- The states a registry passes through: made with its index unbuilt, then any run of lookups
and reference resolutions. -/
inductive Reachable (r : Registry) : Held → Prop
  | new : Reachable r (new r)
  | lookup {h : Held} (k : Key) : Reachable r h → Reachable r (h.lookup k).2
  | find {h : Held} (ref : TokenRef) : Reachable r h → Reachable r (h.find ref).2

/-- Along every run the registry stays the same and its cell coherent. -/
theorem Reachable.coherent {r : Registry} (hr : Reachable r h) : h.registry = r ∧ h.Coherent := by
  induction hr with
  | new => exact ⟨rfl, coherent_new r⟩
  | lookup k _ ih =>
    obtain ⟨-, hreg, hc⟩ := lookup_spec ih.2 k
    exact ⟨hreg.trans ih.1, hc⟩
  | find ref _ ih =>
    obtain ⟨-, hreg, hc⟩ := find_spec ih.2 ref
    exact ⟨hreg.trans ih.1, hc⟩

end Held

/-- A token as a snapshot writes it: an object with its address, id, symbol and decimals. -/
def snapshotToken (t : Token) : Json :=
  .obj [("address", .str t.address), ("id", .ofNat t.id), ("symbol", .str t.symbol),
    ("decimals", .ofNat t.decimals)]

/-- A snapshot document listing the tokens: the bare list, or an object with only `tokens`. -/
def ListsInSnapshot (j : Json) (ts : List Token) : Prop :=
  j = .arr (ts.map snapshotToken) ∨ j = .obj [("tokens", .arr (ts.map snapshotToken))]

/-- Ids and decimals that a snapshot can carry: below `2 ^ 64` and below 256. -/
def Storable (t : Token) : Prop := t.id < 2 ^ 64 ∧ t.decimals < 256

instance : DecidablePred Storable := fun _ => inferInstanceAs (Decidable (_ ∧ _))

theorem tokenOf?_snapshotToken {t : Token} (ht : Storable t) :
    Snapshot.tokenOf? (snapshotToken t) = some t := by
  obtain ⟨hid, hdec⟩ := ht
  simp [snapshotToken, Snapshot.tokenOf?, Snapshot.tokenOfParts, Snapshot.fieldOnce?,
    Snapshot.stringOf?, Snapshot.natOf?, Json.ofNat, hid, hdec]

theorem tokenListOf?_snapshot {ts : List Token} (hts : ∀ t ∈ ts, Storable t) :
    Snapshot.tokenListOf? (.arr (ts.map snapshotToken)) = some ts := by
  simp only [Snapshot.tokenListOf?]
  induction ts with
  | nil => rfl
  | cons t ts ih =>
    rw [List.map_cons, List.mapM_cons, tokenOf?_snapshotToken (hts t List.mem_cons_self),
      ih fun t' ht' => hts t' (List.mem_cons_of_mem t ht')]
    rfl

/-- A snapshot listing tokens, bare or under `tokens`, gives exactly those tokens. -/
theorem tokensOf?_of_lists {j : Json} {ts : List Token} (hts : ∀ t ∈ ts, Storable t)
    (hj : ListsInSnapshot j ts) : Snapshot.tokensOf? j = some ts := by
  rcases hj with rfl | rfl
  · simp [Snapshot.tokensOf?, tokenListOf?_snapshot hts]
  · -- an object is no list, so its `tokens` field is read
    have hobj : Snapshot.tokenListOf? (.obj [("tokens", .arr (ts.map snapshotToken))]) = none := rfl
    have hfield : Snapshot.fieldOnce? [("tokens", .arr (ts.map snapshotToken))] "tokens" =
        some (.arr (ts.map snapshotToken)) := by
      simp [Snapshot.fieldOnce?]
    rw [Snapshot.tokensOf?, hobj]
    simp only [hfield]
    exact tokenListOf?_snapshot hts

/-- Reading the text and checking its end, both run to completion: a value `j` with nothing
after it. In this form the two checks of the snapshot reader can be evaluated on fixed text. -/
theorem readPrefix_finish_of_toOption {s : String} {j : Json}
    (h : (Json.readPrefix s).toOption.map (fun p => (p.1, (Json.finish p.2).toOption)) =
      some (j, some ())) :
    ∃ c, Json.readPrefix s = .ok (j, c) ∧ Json.finish c = .ok () := by
  cases hread : Json.readPrefix s with
  | error e => simp [hread, Except.toOption] at h
  | ok p =>
    obtain ⟨j', c⟩ := p
    simp only [hread, Except.toOption, Option.map_some, Option.some.injEq, Prod.mk.injEq] at h
    obtain ⟨rfl, hend⟩ := h
    refine ⟨c, rfl, ?_⟩
    cases hc : Json.finish c with
    | error e => simp [hc] at hend
    | ok u => rfl

/-- Snapshot text whose one value lists tokens gives the registry of those tokens. -/
theorem ofJson_of_lists {s : String} {j : Json} {c : Json.Cursor} {ts : List Token}
    (hts : ∀ t ∈ ts, Storable t) (hread : Json.readPrefix s = .ok (j, c))
    (hj : ListsInSnapshot j ts) (hend : Json.finish c = .ok ()) : Registry.ofJson s = .ok ⟨ts⟩ := by
  simp [Registry.ofJson, hread, tokensOf?_of_lists hts hj, hend]

theorem findById_eq (r : Registry) (n : Nat) : r.findById n = r.tokens.find? (·.id == n) :=
  (Held.lookup_spec (Held.coherent_new r) (.id n)).1

theorem findByAddress_eq (r : Registry) (a : String) :
    r.findByAddress a = r.tokens.find? (·.address == a) :=
  (Held.lookup_spec (Held.coherent_new r) (.address a)).1

theorem findBySymbol_eq (r : Registry) (s : String) :
    r.findBySymbol s = r.tokens.find? (·.symbol == s) :=
  (Held.lookup_spec (Held.coherent_new r) (.symbol s)).1

theorem find_eq_scan (r : Registry) (ref : TokenRef) : r.find ref = Held.scan r ref :=
  (Held.find_spec (Held.coherent_new r) ref).1

/-- Registry lookups agree with a first-match scan of the token list, whatever the repeats of
ids, addresses and symbols. By id, by exact address text and by symbol, a lookup gives the first
token with that key, or none; a reference resolves an id by id and text as an address and, when
no token has it, as a symbol, whether the id comes as 32 or 64 bits. The index is built by the
first lookup and kept, and every lookup and resolution after any run of earlier ones gives the
same answers. A snapshot listing tokens gives the registry of exactly that list. -/
theorem lookups_are_first_match :
    (∀ (r : Registry) (n : Nat), r.findById n = r.tokens.find? (·.id == n)) ∧
    (∀ (r : Registry) (a : String), r.findByAddress a = r.tokens.find? (·.address == a)) ∧
    (∀ (r : Registry) (s : String), r.findBySymbol s = r.tokens.find? (·.symbol == s)) ∧
    (∀ (r : Registry) (n : Nat), r.find (.id n) = r.findById n) ∧
    (∀ (r : Registry) (s : String), r.find (.text s) = (r.findByAddress s).or (r.findBySymbol s)) ∧
    (∀ (r : Registry) (n : UInt32), r.find n = r.tokens.find? (·.id == n.toNat)) ∧
    (∀ (r : Registry) (n : UInt64), r.find n = r.tokens.find? (·.id == n.toNat)) ∧
    (∀ (r : Registry) (s : String),
      r.find s = (r.tokens.find? (·.address == s)).or (r.tokens.find? (·.symbol == s))) ∧
    (∀ (r : Registry) (h : Held), Held.Reachable r h →
      (∀ k, (h.lookup k).1 = r.tokens.find? k.matches) ∧ ∀ ref, (h.find ref).1 = r.find ref) ∧
    (∀ (s : String) (j : Json) (c : Json.Cursor) (ts : List Token), (∀ t ∈ ts, Storable t) →
      Json.readPrefix s = .ok (j, c) → ListsInSnapshot j ts → Json.finish c = .ok () →
      Registry.ofJson s = .ok ⟨ts⟩) := by
  refine ⟨findById_eq, findByAddress_eq, findBySymbol_eq, ?_, ?_, ?_, ?_, ?_, ?_,
    fun _ _ _ _ hts hread hj hend => ofJson_of_lists hts hread hj hend⟩
  · intro r n
    rw [find_eq_scan, findById_eq]
    rfl
  · intro r s
    rw [find_eq_scan, findByAddress_eq, findBySymbol_eq]
    rfl
  · intro r n
    exact find_eq_scan r (.id n.toNat)
  · intro r n
    exact find_eq_scan r (.id n.toNat)
  · intro r s
    exact find_eq_scan r (.text s)
  · intro r h hr
    obtain ⟨rfl, hc⟩ := hr.coherent
    exact ⟨fun k => (Held.lookup_spec hc k).1,
      fun ref => (Held.find_spec hc ref).1.trans (find_eq_scan h.registry ref).symm⟩

/-- The registry of the address-before-symbol test: the symbol of the second token is the
address of the first. -/
def symbolAddressClash : Registry :=
  ⟨[⟨"AAA", 1, "XYZ", 0⟩, ⟨"0x2222222222222222222222222222222222222222", 2, "AAA", 0⟩]⟩

/-- Snapshot text listing one token under `tokens`. -/
def linkSnapshot : String :=
  "\x7b\"tokens\":[\x7b\"address\":\"0x01\",\"id\":4,\"symbol\":\"LINK\",\"decimals\":18\x7d]\x7d"

/-- After a symbol lookup has built the index, the text `AAA` still resolves to the token with
that address, not to the one with that symbol; and the one-token snapshot gives the registry of
that token. -/
theorem clash_and_snapshot_resolve_first :
    (((Held.new symbolAddressClash).lookup (.symbol "AAA")).2.find (.text "AAA")).1 =
        some ⟨"AAA", 1, "XYZ", 0⟩ ∧
      ∃ j c, Json.readPrefix linkSnapshot = .ok (j, c) ∧
        ListsInSnapshot j [⟨"0x01", 4, "LINK", 18⟩] ∧ Json.finish c = .ok () ∧
        Registry.ofJson linkSnapshot = .ok ⟨[⟨"0x01", 4, "LINK", 18⟩]⟩ := by
  constructor
  · have hr : Held.Reachable symbolAddressClash
        ((Held.new symbolAddressClash).lookup (.symbol "AAA")).2 := .lookup _ .new
    rw [(lookups_are_first_match.2.2.2.2.2.2.2.2.1 _ _ hr).2 (.text "AAA"),
      lookups_are_first_match.2.2.2.2.2.2.2.1]
    decide +kernel
  · -- the text reads as the wrapped list of the one token, with nothing after it
    have hdoc : (Json.readPrefix linkSnapshot).toOption.map (fun p => (p.1, (Json.finish p.2).toOption)) =
        some (.obj [("tokens", .arr [snapshotToken ⟨"0x01", 4, "LINK", 18⟩])], some ()) := by
      decide +kernel
    obtain ⟨c, hread, hfinish⟩ := readPrefix_finish_of_toOption hdoc
    have hlists : ListsInSnapshot (.obj [("tokens", .arr [snapshotToken ⟨"0x01", 4, "LINK", 18⟩])])
        [⟨"0x01", 4, "LINK", 18⟩] := .inr rfl
    exact ⟨_, c, hread, hlists, hfinish,
      lookups_are_first_match.2.2.2.2.2.2.2.2.2 _ _ _ _ (by decide) hread hlists hfinish⟩

end Registry

end RollupTx
