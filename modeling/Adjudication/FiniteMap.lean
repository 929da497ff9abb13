/-!
# Finite maps

Values by keys, at most one for each key. `get?_insert` says what inserting a value does to a lookup, and
`contains_iff_mem` that the keys are those that have a value.
-/

namespace Adjudication

/-- Values by keys, the most recently inserted first. -/
@[ext]
structure FiniteMap (α β : Type) where
  entries : List (α × β)
  distinct : (entries.map Prod.fst).Nodup

namespace FiniteMap

variable {α β : Type}

def empty : FiniteMap α β := ⟨[], List.nodup_nil⟩

def keys (m : FiniteMap α β) : List α := m.entries.map Prod.fst

def size (m : FiniteMap α β) : Nat := m.entries.length

variable [DecidableEq α]

def get? (m : FiniteMap α β) (key : α) : Option β := m.entries.lookup key

def contains (m : FiniteMap α β) (key : α) : Bool := (m.get? key).isSome

/-- Gives a key its value, in place of the one it had. -/
def insert (m : FiniteMap α β) (key : α) (value : β) : FiniteMap α β where
  entries := (key, value) :: m.entries.filter (·.1 ≠ key)
  distinct := by
    rw [List.map_cons, List.nodup_cons]
    refine ⟨by simp [List.mem_map], ?_⟩
    exact m.distinct.sublist (List.filter_sublist.map _)

theorem lookup_filter_ne {entries : List (α × β)} {key other : α} (different : other ≠ key) :
    (entries.filter (·.1 ≠ key)).lookup other = entries.lookup other := by
  induction entries with
  | nil => rfl
  | cons entry rest ih =>
    obtain ⟨k, value⟩ := entry
    by_cases same : k = key
    · subst same
      have other_ne : (other == k) = false := by simpa using different
      simpa [List.filter_cons, List.lookup_cons, other_ne] using ih
    · by_cases hit : other = k
      · subst hit; simp [same]
      · have other_ne : (other == k) = false := by simpa using hit
        simpa [List.filter_cons, same, List.lookup_cons, other_ne] using ih

theorem get?_insert (m : FiniteMap α β) (key other : α) (value : β) :
    (m.insert key value).get? other = if other = key then some value else m.get? other := by
  unfold get? insert
  by_cases same : other = key
  · subst same; simp
  · have other_ne : (other == key) = false := by simpa using same
    simp only [List.lookup_cons, other_ne, same, if_false]
    exact lookup_filter_ne same

theorem contains_iff_mem {m : FiniteMap α β} {key : α} : m.contains key = true ↔ key ∈ m.keys := by
  rw [contains, get?, List.lookup_isSome_iff, keys, List.mem_map]
  constructor
  · rintro ⟨entry, inside, same⟩
    exact ⟨entry, inside, (eq_of_beq same).symm⟩
  · rintro ⟨entry, inside, rfl⟩
    exact ⟨entry, inside, beq_self_eq_true _⟩

end FiniteMap

end Adjudication
