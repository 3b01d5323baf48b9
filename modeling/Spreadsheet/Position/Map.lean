import Spreadsheet.Position.Basic

/-!
# Maps and sets of positions

A finite map from positions keeps its entries in ascending order of position, and the order is
part of the type. Two consequences carry the rest of the library:

* whatever lists the entries lists them column by column, rows ascending, without sorting;
* a map is determined by its lookups (`PositionMap.ext_get?`), so two sheets that answer alike at
  every position are equal.

Each operation is described by one equation on lookups (`get?_insert`, `get?_erase`,
`get?_assign`), and nothing outside this file looks at the entries to reason about an operation.
-/

namespace Spreadsheet

/-- A finite map from positions to values, its entries in ascending order of position. -/
@[ext] structure PositionMap (V : Type) where
  entries : List (Position × V)
  ascending : entries.Pairwise fun a b => a.1 < b.1
  deriving DecidableEq

namespace PositionMap

variable {V : Type}

/-! ## 1. Operations -/

/-- The map without entries. -/
def empty : PositionMap V := ⟨[], .nil⟩

instance : EmptyCollection (PositionMap V) := ⟨empty⟩

/-- The value at a position, if there is one. -/
def get? (m : PositionMap V) (p : Position) : Option V := m.entries.lookup p

/-- The positions that have a value, in ascending order. -/
def keys (m : PositionMap V) : List Position := m.entries.map (·.1)

theorem ascending_insert (m : PositionMap V) (p : Position) (v : V) :
    (m.entries.filter (fun e => decide (e.1 < p)) ++
      (p, v) :: m.entries.filter (fun e => decide (p < e.1))).Pairwise fun a b => a.1 < b.1 := by
  rw [List.pairwise_append, List.pairwise_cons]
  refine ⟨m.ascending.filter _, ⟨?_, m.ascending.filter _⟩, ?_⟩
  · intro e he
    simpa using (List.mem_filter.1 he).2
  · intro a ha b hb
    have ha' : a.1 < p := by simpa using (List.mem_filter.1 ha).2
    rcases List.mem_cons.1 hb with rfl | hb
    · exact ha'
    · exact Position.lt_trans ha' (by simpa using (List.mem_filter.1 hb).2)

/-- Gives a position a value, in place of the one it had. -/
def insert (m : PositionMap V) (p : Position) (v : V) : PositionMap V :=
  ⟨m.entries.filter (fun e => decide (e.1 < p)) ++
    (p, v) :: m.entries.filter (fun e => decide (p < e.1)), m.ascending_insert p v⟩

/-- Takes the value of a position away. -/
def erase (m : PositionMap V) (p : Position) : PositionMap V :=
  ⟨m.entries.filter fun e => decide (e.1 ≠ p), m.ascending.filter _⟩

/-- Gives a position a value or takes its value away. -/
def assign (m : PositionMap V) (p : Position) : Option V → PositionMap V
  | some v => m.insert p v
  | none => m.erase p

/-! ## 2. Lookups -/

@[simp] theorem get?_empty (p : Position) : (empty : PositionMap V).get? p = none := rfl

theorem lookup_filter (l : List (Position × V)) (f : Position → Bool) (p : Position) :
    (l.filter fun e => f e.1).lookup p = if f p then l.lookup p else none := by
  induction l with
  | nil => simp
  | cons e l ih =>
    obtain ⟨k, v⟩ := e
    by_cases hk : p = k
    · subst hk
      by_cases hf : f p <;> simp [hf, ih]
    · have hk' : (p == k) = false := by simpa using hk
      by_cases hf : f k <;> simp [hf, ih, List.lookup_cons, hk']

/-- **A written position answers what was written, every other one what it answered before.** -/
theorem get?_insert (m : PositionMap V) (p q : Position) (v : V) :
    (m.insert p v).get? q = if q = p then some v else m.get? q := by
  unfold get? insert
  rw [List.lookup_append, lookup_filter m.entries (fun x => decide (x < p)) q, List.lookup_cons,
    lookup_filter m.entries (fun x => decide (p < x)) q]
  by_cases hq : q = p
  · subst hq
    simp [Position.lt_irrefl]
  · have hq' : (q == p) = false := by simpa using hq
    rcases Position.lt_trichotomy q p with h | h | h
    · simp [hq, hq', h, Position.lt_asymm h]
    · exact absurd h hq
    · simp [hq, hq', h, Position.lt_asymm h]

@[simp] theorem get?_insert_self (m : PositionMap V) (p : Position) (v : V) :
    (m.insert p v).get? p = some v := by
  simp [get?_insert]

theorem get?_insert_of_ne (m : PositionMap V) {p q : Position} (v : V) (h : q ≠ p) :
    (m.insert p v).get? q = m.get? q := by
  simp [get?_insert, h]

/-- **An erased position answers nothing, every other one what it answered before.** -/
theorem get?_erase (m : PositionMap V) (p q : Position) :
    (m.erase p).get? q = if q = p then none else m.get? q := by
  unfold get? erase
  rw [lookup_filter m.entries (fun x => decide (x ≠ p)) q]
  by_cases hq : q = p <;> simp [hq]

theorem get?_assign (m : PositionMap V) (p q : Position) (v : Option V) :
    (m.assign p v).get? q = if q = p then v else m.get? q := by
  cases v with
  | none => exact get?_erase m p q
  | some v => exact get?_insert m p q v

/-- A position has a value exactly when an entry says so. -/
theorem get?_eq_some_iff {m : PositionMap V} {p : Position} {v : V} :
    m.get? p = some v ↔ (p, v) ∈ m.entries := by
  obtain ⟨l, h⟩ := m
  simp only [get?]
  induction l with
  | nil => simp
  | cons e l ih =>
    obtain ⟨k, w⟩ := e
    obtain ⟨hk, hl⟩ := List.pairwise_cons.1 h
    by_cases hp : p = k
    · subst hp
      simp only [List.lookup_cons_self, Option.some.injEq, List.mem_cons, Prod.mk.injEq, true_and]
      refine ⟨fun e => .inl e.symm, fun e => e.elim Eq.symm fun he => ?_⟩
      exact absurd (hk _ he) (Position.lt_irrefl p)
    · have hp' : (p == k) = false := by simpa using hp
      simp [List.lookup_cons, hp', ih hl, hp]

theorem mem_keys_iff {m : PositionMap V} {p : Position} : p ∈ m.keys ↔ ∃ v, m.get? p = some v := by
  simp [keys, get?_eq_some_iff]

theorem get?_eq_none_iff {m : PositionMap V} {p : Position} : m.get? p = none ↔ p ∉ m.keys := by
  rw [mem_keys_iff, Option.eq_none_iff_forall_ne_some]
  simp

theorem keys_ascending (m : PositionMap V) : m.keys.Pairwise (· < ·) :=
  List.pairwise_map.2 m.ascending

theorem keys_nodup (m : PositionMap V) : m.keys.Nodup :=
  m.keys_ascending.imp Position.ne_of_lt

/-! ## 3. A map is its lookups -/

theorem lookup_eq_none_of_lt {l : List (Position × V)} {p : Position}
    (h : ∀ e ∈ l, p < e.1) : l.lookup p = none := by
  rw [List.lookup_eq_none_iff]
  intro e he
  simpa using Position.ne_of_lt (h e he)

/-- Ascending lists of entries that answer alike are the same list. -/
theorem eq_of_lookup_eq : ∀ {l l' : List (Position × V)},
    (l.Pairwise fun a b => a.1 < b.1) → (l'.Pairwise fun a b => a.1 < b.1) →
    (∀ p, l.lookup p = l'.lookup p) → l = l'
  | [], [], _, _, _ => rfl
  | [], (p, v) :: l', _, _, h => by simpa using h p
  | (p, v) :: l, [], _, _, h => by simpa using h p
  | (p, v) :: l, (q, w) :: l', hl, hl', h => by
      obtain ⟨hp, tl⟩ := List.pairwise_cons.1 hl
      obtain ⟨hq, tl'⟩ := List.pairwise_cons.1 hl'
      rcases Position.lt_trichotomy p q with hpq | hpq | hpq
      · have := h p
        rw [List.lookup_cons_self, lookup_eq_none_of_lt] at this
        · simp at this
        · intro e he
          rcases List.mem_cons.1 he with rfl | he
          · exact hpq
          · exact Position.lt_trans hpq (hq e he)
      · subst hpq
        have hv : v = w := by simpa using h p
        subst hv
        have ht : l = l' := eq_of_lookup_eq tl tl' fun r => by
          by_cases hr : r = p
          · subst hr
            rw [lookup_eq_none_of_lt hp, lookup_eq_none_of_lt hq]
          · have hr' : (r == p) = false := by simpa using hr
            simpa [List.lookup_cons, hr'] using h r
        rw [ht]
      · have := h q
        rw [List.lookup_cons_self, lookup_eq_none_of_lt] at this
        · simp at this
        · intro e he
          rcases List.mem_cons.1 he with rfl | he
          · exact hpq
          · exact Position.lt_trans hpq (hp e he)

/-- **Two maps that answer alike at every position are equal.** -/
theorem ext_get? {m m' : PositionMap V} (h : ∀ p, m.get? p = m'.get? p) : m = m' :=
  PositionMap.ext (eq_of_lookup_eq m.ascending m'.ascending h)

/-- Writing what is there already changes nothing. -/
theorem insert_of_get? {m : PositionMap V} {p : Position} {v : V} (h : m.get? p = some v) :
    m.insert p v = m :=
  ext_get? fun q => by
    rw [get?_insert]
    split
    · rename_i hq; rw [hq, h]
    · rfl

/-- How many entries have a property after one was written: the new entry is counted by itself, the
    others stand below or above it. -/
theorem countP_insert (m : PositionMap V) (p : Position) (v : V) (f : Position × V → Bool) :
    (m.insert p v).entries.countP f =
      (m.entries.filter fun e => decide (e.1 < p)).countP f + (if f (p, v) then 1 else 0) +
        (m.entries.filter fun e => decide (p < e.1)).countP f := by
  simp only [insert, List.countP_append, List.countP_cons]
  omega

end PositionMap

/-! ## 4. Sets -/

/-- A finite set of positions, kept in ascending order. -/
abbrev PositionSet := PositionMap Unit

namespace PositionSet

/-- The members in ascending order. -/
def toList (s : PositionSet) : List Position := s.keys

/-- Adds a member. -/
def add (s : PositionSet) (p : Position) : PositionSet := s.insert p ()

instance : Membership Position PositionSet := ⟨fun s p => p ∈ s.toList⟩

instance (s : PositionSet) (p : Position) : Decidable (p ∈ s) :=
  inferInstanceAs (Decidable (p ∈ s.toList))

theorem mem_iff_get? {s : PositionSet} {p : Position} : p ∈ s ↔ s.get? p = some () := by
  change p ∈ s.keys ↔ _
  rw [PositionMap.mem_keys_iff]
  exact ⟨fun ⟨_, h⟩ => h, fun h => ⟨(), h⟩⟩

@[simp] theorem mem_toList {s : PositionSet} {p : Position} : p ∈ s.toList ↔ p ∈ s := Iff.rfl

@[simp] theorem not_mem_empty (p : Position) : p ∉ (PositionMap.empty : PositionSet) := by
  simp [mem_iff_get?]

theorem mem_add {s : PositionSet} {p q : Position} : q ∈ s.add p ↔ q = p ∨ q ∈ s := by
  rw [mem_iff_get?, mem_iff_get?, add, PositionMap.get?_insert]
  by_cases h : q = p <;> simp [h]

theorem mem_erase {s : PositionSet} {p q : Position} :
    q ∈ (PositionMap.erase s p : PositionSet) ↔ q ≠ p ∧ q ∈ s := by
  rw [mem_iff_get?, mem_iff_get?, PositionMap.get?_erase]
  by_cases h : q = p <;> simp [h]

theorem toList_nodup (s : PositionSet) : s.toList.Nodup := PositionMap.keys_nodup s

/-- Two sets with the same members are equal. -/
theorem ext_mem {s t : PositionSet} (h : ∀ p, p ∈ s ↔ p ∈ t) : s = t :=
  PositionMap.ext_get? fun p => by
    have hp := h p
    rw [mem_iff_get?, mem_iff_get?] at hp
    cases hs : s.get? p <;> cases ht : t.get? p <;> simp_all

end PositionSet

end Spreadsheet
