import Spreadsheet.Expression.Basic

/-!
# Compiled expressions kept by text

A cache keeps one expression for each text that was compiled, in the order in which the texts came.
A text that did not compile to an expression leaves no trace.
-/

namespace Spreadsheet

/-- Expressions by the text under which they are kept. -/
structure Cache where
  entries : List (Text × Expression)
  deriving DecidableEq

namespace Cache

/-- The cache without entries. -/
def empty : Cache := ⟨[]⟩

/-- The expression kept under a text. -/
def find? (cache : Cache) (text : Text) : Option Expression := cache.entries.lookup text

/-- Keeps an expression under a text, in place of the one kept there. -/
def insert (cache : Cache) (text : Text) (e : Expression) : Cache :=
  if (cache.find? text).isSome then
    ⟨cache.entries.map fun entry => if entry.1 = text then (text, e) else entry⟩
  else ⟨cache.entries ++ [(text, e)]⟩

/-- The cache of a list of entries; of several for one text the last one counts. -/
def ofList (entries : List (Text × Expression)) : Cache :=
  entries.foldl (fun cache entry => cache.insert entry.1 entry.2) empty

/-- **The expression of a text:** the one kept, or else one that is compiled now and kept from then
    on. -/
def compile (cache : Cache) (text : Text) : Cache × Except Fault Expression :=
  match cache.find? text with
  | some e => (cache, .ok e)
  | none =>
    match Expression.compile text with
    | .ok e => (cache.insert text e, .ok e)
    | .error fault => (cache, .error fault)

@[simp] theorem find?_empty (text : Text) : empty.find? text = none := rfl

/-- Replacing the expression of one text in a list of entries. -/
theorem lookup_replace (l : List (Text × Expression)) (text other : Text) (e : Expression) :
    (l.map fun entry => if entry.1 = text then (text, e) else entry).lookup other =
      if other = text then (l.lookup text).map fun _ => e else l.lookup other := by
  induction l with
  | nil => simp
  | cons entry l ih =>
    obtain ⟨k, v⟩ := entry
    by_cases hk : k = text
    · subst hk
      by_cases ho : other = k
      · simp [ho]
      · have ho' : (other == k) = false := by simpa using ho
        simpa [List.lookup_cons, ho', ho] using ih
    · have hk' : (text == k) = false := by simpa using Ne.symm hk
      by_cases ho : other = k
      · subst ho
        simp [hk]
      · have ho' : (other == k) = false := by simpa using ho
        simpa [List.lookup_cons, hk, hk', ho'] using ih

/-- **A text finds what was kept under it last, every other text what it found before.** -/
theorem find?_insert (cache : Cache) (text other : Text) (e : Expression) :
    (cache.insert text e).find? other = if other = text then some e else cache.find? other := by
  unfold insert find?
  split
  · rename_i h
    rw [lookup_replace]
    split
    · obtain ⟨e', he⟩ := Option.isSome_iff_exists.1 h
      rw [he]
      rfl
    · rfl
  · rename_i h
    have none : cache.entries.lookup text = none := Option.not_isSome_iff_eq_none.1 h
    rw [List.lookup_append]
    by_cases ho : other = text
    · simp [ho, none]
    · have ho' : (other == text) = false := by simpa using ho
      simp [List.lookup_cons, ho', ho]

end Cache

end Spreadsheet
