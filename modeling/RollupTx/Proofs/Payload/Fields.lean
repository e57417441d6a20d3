import Mathlib.Data.List.Forall2
import RollupTx.Encode.Error

/-!
# Payloads as sequences of fields

A payload is written field after field. Each writer either gives its bytes or fails; the
payload is the bytes joined in order, or the failure of the first writer that fails. A layout
gives each field its offset, its width and what its bytes must say. When every writer meets
its slot and the slots tile the payload, the joined bytes hold the layout (`holds_join`), and
the payload fails exactly with the first failing writer (`join_eq_error_iff`).
-/

namespace RollupTx.Payload

variable {ε : Type}

/-- The bytes of the writers joined in order; the first writer that fails decides. -/
def join : List (Except ε (List UInt8)) → Except ε (List UInt8)
  | [] => .ok []
  | w :: ws => do
    let b ← w
    let rest ← join ws
    return b ++ rest

/-- The failure of the first step that fails, if any does. -/
def firstError {α : Type} : List (Except ε α) → Option ε
  | [] => none
  | .ok _ :: ws => firstError ws
  | .error e :: _ => some e

@[simp] theorem join_nil : join ([] : List (Except ε (List UInt8))) = .ok [] := rfl

@[simp] theorem join_cons_ok (o : List UInt8) (ws : List (Except ε (List UInt8))) :
    join (.ok o :: ws) = (join ws).map (o ++ ·) := by
  simp only [join]
  cases join ws <;> rfl

@[simp] theorem join_cons_error (e : ε) (ws : List (Except ε (List UInt8))) :
    join (.error e :: ws) = .error e := rfl

@[simp] theorem firstError_nil {α : Type} : firstError ([] : List (Except ε α)) = none := rfl

@[simp] theorem firstError_cons_ok {α : Type} (a : α) (ws : List (Except ε α)) :
    firstError (.ok a :: ws) = firstError ws := rfl

@[simp] theorem firstError_cons_error {α : Type} (e : ε) (ws : List (Except ε α)) :
    firstError (.error e :: ws) = some e := rfl

theorem join_eq_error_iff {ws : List (Except ε (List UInt8))} {e : ε} :
    join ws = .error e ↔ firstError ws = some e := by
  induction ws with
  | nil => simp
  | cons w ws ih =>
    cases w with
    | error e' => simp [eq_comm]
    | ok o =>
      rw [join_cons_ok, firstError_cons_ok, ← ih]
      cases join ws <;> simp [Except.map]

theorem join_eq_ok_iff {ws : List (Except ε (List UInt8))} {b : List UInt8} :
    join ws = .ok b ↔ ∃ outs : List (List UInt8), ws = outs.map .ok ∧ b = outs.flatten := by
  induction ws generalizing b with
  | nil => simp [eq_comm]
  | cons w ws ih =>
    cases w with
    | error e =>
      simp only [join_cons_error, reduceCtorEq, false_iff]
      rintro ⟨_ | ⟨o, outs⟩, hws, -⟩ <;> simp at hws
    | ok o =>
      rw [join_cons_ok]
      constructor
      · intro h
        cases hj : join ws with
        | error e => simp [hj, Except.map] at h
        | ok rest =>
          simp only [hj, Except.map, Except.ok.injEq] at h
          obtain ⟨outs, rfl, rfl⟩ := ih.1 hj
          exact ⟨o :: outs, rfl, by simp [h]⟩
      · rintro ⟨_ | ⟨o', outs⟩, hws, rfl⟩
        · cases hws
        · simp only [List.map_cons, List.cons.injEq, Except.ok.injEq] at hws
          obtain ⟨rfl, rfl⟩ := hws
          rw [ih.2 ⟨outs, rfl, rfl⟩]
          rfl

theorem firstError_eq_none_iff {α : Type} {ws : List (Except ε α)} :
    firstError ws = none ↔ ∀ w ∈ ws, ∃ a, w = .ok a := by
  induction ws with
  | nil => simp
  | cons w ws ih => cases w <;> simp [ih]

theorem join_isOk_iff {ws : List (Except ε (List UInt8))} :
    (∃ b, join ws = .ok b) ↔ ∀ w ∈ ws, ∃ o, w = .ok o := by
  rw [← firstError_eq_none_iff]
  constructor
  · rintro ⟨b, hb⟩
    cases h : firstError ws with
    | none => rfl
    | some e => rw [← join_eq_error_iff, hb] at h; cases h
  · intro h
    cases hj : join ws with
    | ok b => exact ⟨b, rfl⟩
    | error e => rw [join_eq_error_iff, h] at hj; cases hj

/-- The first failure is a failing step after a run of steps that all succeed. -/
theorem firstError_eq_some_iff {α : Type} {ws : List (Except ε α)} {e : ε} :
    firstError ws = some e ↔
      ∃ pre rest, ws = pre ++ .error e :: rest ∧ ∀ w ∈ pre, ∃ a, w = .ok a := by
  induction ws with
  | nil => simp
  | cons w ws ih =>
    cases w with
    | error e' =>
      simp only [firstError_cons_error, Option.some.injEq]
      constructor
      · rintro rfl
        exact ⟨[], ws, rfl, by simp⟩
      · rintro ⟨_ | ⟨w, pre⟩, rest, hws, hpre⟩
        · simp only [List.nil_append, List.cons.injEq, Except.error.injEq] at hws
          exact hws.1
        · obtain ⟨a, ha⟩ := hpre w (by simp)
          simp only [List.cons_append, List.cons.injEq] at hws
          rw [ha] at hws
          cases hws.1
    | ok a =>
      rw [firstError_cons_ok, ih]
      constructor
      · rintro ⟨pre, rest, rfl, hpre⟩
        refine ⟨.ok a :: pre, rest, rfl, ?_⟩
        simpa using hpre
      · rintro ⟨_ | ⟨w, pre⟩, rest, hws, hpre⟩
        · simp at hws
        · simp only [List.cons_append, List.cons.injEq] at hws
          obtain ⟨-, rfl⟩ := hws
          exact ⟨pre, rest, rfl, fun w hw => hpre w (by simp [hw])⟩

theorem firstError_map_mapError {ε' α : Type} (f : ε → ε') (ws : List (Except ε α)) :
    firstError (ws.map (·.mapError f)) = (firstError ws).map f := by
  induction ws with
  | nil => rfl
  | cons w ws ih =>
    cases w with
    | error e => rfl
    | ok a => exact ih

theorem firstError_append_ok {α : Type} (pre : List (Except ε α)) (a : α)
    (rest : List (Except ε α)) : firstError (pre ++ .ok a :: rest) = firstError (pre ++ rest) := by
  induction pre with
  | nil => rfl
  | cons w pre ih => cases w <;> simp [ih]

/-- Relabelling the errors of joined writers relabels the first failure. -/
theorem mapError_join_eq_error_iff {ε' : Type} {f : ε → ε'} {ws : List (Except ε (List UInt8))}
    {e : ε'} : (join ws).mapError f = .error e ↔ firstError (ws.map (·.mapError f)) = some e := by
  rw [firstError_map_mapError]
  cases h : firstError ws with
  | none =>
    obtain ⟨b, hb⟩ := join_isOk_iff.2 (firstError_eq_none_iff.1 h)
    simp [hb, Except.mapError]
  | some e' =>
    rw [← join_eq_error_iff] at h
    simp [h, Except.mapError]

@[simp] theorem mapError_ok {ε' α : Type} (f : ε → ε') (a : α) :
    (Except.ok a : Except ε α).mapError f = .ok a := rfl

@[simp] theorem mapError_error {ε' α : Type} (f : ε → ε') (e : ε) :
    (Except.error e : Except ε α).mapError f = .error (f e) := rfl

@[simp] theorem mapError_eq_ok_iff {ε' α : Type} {x : Except ε α} {f : ε → ε'} {a : α} :
    x.mapError f = .ok a ↔ x = .ok a := by
  cases x <;> simp [Except.mapError]

theorem exists_eq_ok_of_isSome {α : Type} {x : Except ε α} (h : x.toOption.isSome = true) :
    ∃ a, x = .ok a := by
  cases x with
  | error e => simp [Except.toOption] at h
  | ok a => exact ⟨a, rfl⟩

/-- A field of a payload: where it starts, how many bytes it takes, and what they say. -/
structure Slot where
  offset : ℕ
  width : ℕ
  reads : List UInt8 → Prop

/-- The slots lie one after another from `off`, the last ending at `len`. -/
def Tiles : List Slot → ℕ → ℕ → Prop
  | [], off, len => off = len
  | s :: ss, off, len => s.offset = off ∧ Tiles ss (off + s.width) len

/-- A payload of `len` bytes in which every slot's bytes say what the slot requires. -/
def Holds (slots : List Slot) (len : ℕ) (b : List UInt8) : Prop :=
  b.length = len ∧ ∀ s ∈ slots, s.reads (b.extract s.offset (s.offset + s.width))

/-- Every output of the writer has the slot's width and says what the slot requires. -/
def Meets (w : Except ε (List UInt8)) (s : Slot) : Prop :=
  ∀ o, w = .ok o → o.length = s.width ∧ s.reads o

theorem meets_ok {o : List UInt8} {s : Slot} (hw : o.length = s.width) (hr : s.reads o) :
    Meets (.ok o : Except ε (List UInt8)) s := by
  rintro o' ⟨⟩
  exact ⟨hw, hr⟩

theorem extract_append_middle (pre o post : List UInt8) :
    (pre ++ (o ++ post)).extract pre.length (pre.length + o.length) = o := by
  simp

/-- Writers that meet their slots write, after `pre`, a payload that holds the layout. -/
theorem holds_join_after {ws : List (Except ε (List UInt8))} {slots : List Slot}
    (hmeet : List.Forall₂ Meets ws slots) :
    ∀ {pre b : List UInt8} {len : ℕ}, Tiles slots pre.length len → join ws = .ok b →
      Holds slots len (pre ++ b) := by
  induction hmeet with
  | nil =>
    intro pre b len htiles h
    cases h
    exact ⟨by simpa [Tiles] using htiles, by simp⟩
  | @cons w s ws ss hw _ ih =>
    intro pre b len htiles h
    obtain ⟨_ | ⟨o, outs⟩, hws, rfl⟩ := join_eq_ok_iff.1 h
    · cases hws
    simp only [List.map_cons, List.cons.injEq] at hws
    obtain ⟨hwo, hrest⟩ := hws
    obtain ⟨hlen, hreads⟩ := hw o hwo
    obtain ⟨hoff, htiles'⟩ := htiles
    have hjoin : join ws = .ok outs.flatten := join_eq_ok_iff.2 ⟨outs, hrest, rfl⟩
    have hnext : Tiles ss (pre ++ o).length len := by
      rw [List.length_append, hlen]
      exact htiles'
    have ih' := ih hnext hjoin
    rw [List.append_assoc] at ih'
    refine ⟨ih'.1, ?_⟩
    intro s' hs'
    rcases List.mem_cons.1 hs' with rfl | hs'
    · rw [List.flatten_cons, hoff, ← hlen, extract_append_middle]
      exact hreads
    · simpa using ih'.2 s' hs'

/-- Writers that meet slots tiling `[0, len)` write a payload that holds the layout. -/
theorem holds_join {ws : List (Except ε (List UInt8))} {slots : List Slot} {b : List UInt8}
    {len : ℕ} (hmeet : List.Forall₂ Meets ws slots) (htiles : Tiles slots 0 len)
    (h : join ws = .ok b) : Holds slots len b := by
  simpa using holds_join_after hmeet (show Tiles slots ([] : List UInt8).length len from htiles) h

end RollupTx.Payload
