import Std.Data.HashMap
import RollupTx.Token.Basic

/-!
# Token registry

A registry is an ordered list of tokens with lookups by id, address and symbol. Lookups go
through an index of three maps from a key to a position in the list, filled in one pass from
the front; a key that is present already keeps its position, so when keys repeat the first
token in list order wins, for each map on its own. A reference given as text is tried as an
address first and then as a symbol.

The index is built by the first lookup and kept for all later ones: a registry in memory
(`Registry.Held`) holds its tokens and a cell that the first lookup fills.
-/

namespace RollupTx

/-- A token list in the operator's order. -/
structure Registry where
  tokens : List Token
  deriving DecidableEq, Repr

/-- A token reference supplied by a caller: an id, or text naming an address or a symbol. -/
inductive TokenRef
  | id (n : Nat)
  | text (s : String)
  deriving DecidableEq, Repr

/-- A 32-bit id refers to a token by id. -/
instance : Coe UInt32 TokenRef := ⟨fun n => .id n.toNat⟩

/-- A 64-bit id refers to a token by id. -/
instance : Coe UInt64 TokenRef := ⟨fun n => .id n.toNat⟩

/-- Text refers to a token by address or symbol. -/
instance : Coe String TokenRef := ⟨.text⟩

namespace Registry

/-- A key of one of the three lookups. -/
inductive Key
  | address (a : String)
  | id (n : Nat)
  | symbol (s : String)
  deriving DecidableEq, Repr

def Key.matches : Key → Token → Bool
  | .address a, t => t.address == a
  | .id n, t => t.id == n
  | .symbol s, t => t.symbol == s

/-- Positions in the token list, by address, by id and by symbol. -/
structure Index where
  byAddress : Std.HashMap String Nat
  byId : Std.HashMap Nat Nat
  bySymbol : Std.HashMap String Nat

/-- Record `position` under `key` unless the key has a position already: the first one wins. -/
def insertFirst {κ : Type} [BEq κ] [Hashable κ] (m : Std.HashMap κ Nat) (key : κ)
    (position : Nat) : Std.HashMap κ Nat :=
  m.insertIfNew key position

namespace Index

def empty : Index := ⟨∅, ∅, ∅⟩

/-- The index with the token at `position` recorded under each of its three keys. -/
def add (idx : Index) (position : Nat) (t : Token) : Index :=
  ⟨insertFirst idx.byAddress t.address position, insertFirst idx.byId t.id position,
    insertFirst idx.bySymbol t.symbol position⟩

/-- The index with the tokens recorded one after another, the first at `position`. -/
def addAll (idx : Index) (position : Nat) : List Token → Index
  | [] => idx
  | t :: ts => (idx.add position t).addAll (position + 1) ts

def position? (idx : Index) : Key → Option Nat
  | .address a => idx.byAddress[a]?
  | .id n => idx.byId[n]?
  | .symbol s => idx.bySymbol[s]?

end Index

/-- The index of the registry's tokens, built in one pass from the front. -/
def index (r : Registry) : Index := Index.empty.addAll 0 r.tokens

/-- A registry in memory: its tokens, and a cell for their index that stays empty until the
first lookup. -/
structure Held where
  registry : Registry
  cell : Option Index

namespace Held

/-- A registry whose index is not built yet, as a token list or a snapshot gives it. -/
def new (r : Registry) : Held := ⟨r, none⟩

/-- The index: the one in the cell, or else the registry's, built now and kept in the cell. -/
def index (h : Held) : Index × Held :=
  match h.cell with
  | some idx => (idx, h)
  | none => (h.registry.index, { h with cell := some h.registry.index })

/-- The token under a key, found through the index. -/
def lookup (h : Held) (k : Key) : Option Token × Held :=
  let (idx, h) := h.index
  ((idx.position? k).bind (h.registry.tokens[·]?), h)

/-- Resolve a reference: an id by id; text as an address and, when no token has that
address, as a symbol. -/
def find (h : Held) : TokenRef → Option Token × Held
  | .id n => h.lookup (.id n)
  | .text s =>
    match h.lookup (.address s) with
    | (some t, h) => (some t, h)
    | (none, h) => h.lookup (.symbol s)

end Held

/-- Number of tokens, repeats included. -/
def size (r : Registry) : Nat := r.tokens.length

def isEmpty (r : Registry) : Bool := r.tokens.isEmpty

/-- The first token with this id. -/
def findById (r : Registry) (n : Nat) : Option Token :=
  ((Held.new r).lookup (.id n)).1

/-- The first token whose address text equals `a` exactly. -/
def findByAddress (r : Registry) (a : String) : Option Token :=
  ((Held.new r).lookup (.address a)).1

/-- The first token with this symbol. -/
def findBySymbol (r : Registry) (s : String) : Option Token :=
  ((Held.new r).lookup (.symbol s)).1

/-- Resolve a reference: ids by id, text as an address and then as a symbol. -/
def find (r : Registry) (ref : TokenRef) : Option Token :=
  ((Held.new r).find ref).1

end Registry

end RollupTx
