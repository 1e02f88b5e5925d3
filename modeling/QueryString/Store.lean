import QueryString.Pair

/-!
# Parameters

A store holds for each name its values. Names are in the order in which they first appeared, and so
are the values of a name.

* `Store.values_insert_self` and `Store.values_insert_of_ne` say what becomes of the values of a
  name when a pair is added.
* `Store.mem_insert` says which names are there then.
-/

namespace QueryString

/-- Names with their values. -/
structure Store where
  /-- Each name with its values, in order. -/
  entries : List (Text × List Text)
deriving DecidableEq, Repr

namespace Store

instance : EmptyCollection Store := ⟨⟨[]⟩⟩

/-! ## Reading -/

/-- The names in the order of their first appearance. -/
def names (s : Store) : List Text := s.entries.map (·.1)

/-- The values of a name; none, if the name is not there. -/
def values (s : Store) (name : Text) : List Text := (s.entries.lookup name).getD []

/-- Tells whether a name is there. -/
def contains (s : Store) (name : Text) : Bool := (s.entries.lookup name).isSome

instance : Membership Text Store where
  mem s name := s.contains name = true

instance (name : Text) (s : Store) : Decidable (name ∈ s) :=
  inferInstanceAs (Decidable (s.contains name = true))

/-- The number of names. -/
def size (s : Store) : Nat := s.entries.length

/-- Tells whether there is no name. -/
def isEmpty (s : Store) : Bool := s.entries.isEmpty

/-- All pairs, name by name. -/
def items (s : Store) : List Pair := s.entries.flatMap fun entry => entry.2.map (⟨entry.1, ·⟩)

/-- Tells whether two stores have the same names with the same values, in whatever order the names
are. -/
def same (s t : Store) : Bool :=
  s.size == t.size && s.entries.all fun entry => t.entries.lookup entry.1 == some entry.2

/-! ## Adding -/

/-- The entries when a value is added: at the end of its name's values, or in a new entry after all
others. -/
def insertEntry (name value : Text) : List (Text × List Text) → List (Text × List Text)
  | [] => [(name, [value])]
  | entry :: rest =>
    if name = entry.1 then (entry.1, entry.2 ++ [value]) :: rest
    else entry :: insertEntry name value rest

/-- The store with one more pair. -/
def insert (s : Store) (p : Pair) : Store := ⟨insertEntry p.name p.value s.entries⟩

/-- The store of all pairs of a list. -/
def ofPairs (pairs : List Pair) : Store := pairs.foldl insert ∅

/-! ## What adding does -/

theorem lookup_insertEntry_self (name value : Text) (entries : List (Text × List Text)) :
    (insertEntry name value entries).lookup name
      = some ((entries.lookup name).getD [] ++ [value]) := by
  induction entries with
  | nil => simp [insertEntry]
  | cons entry rest ih =>
    obtain ⟨n, values⟩ := entry
    by_cases h : name = n
    · subst h
      simp [insertEntry]
    · have hb : (name == n) = false := by simpa using h
      simp [insertEntry, h, List.lookup_cons, hb, ih]

theorem lookup_insertEntry_of_ne {name other : Text} (h : other ≠ name) (value : Text)
    (entries : List (Text × List Text)) :
    (insertEntry name value entries).lookup other = entries.lookup other := by
  have hb : (other == name) = false := by simpa using h
  induction entries with
  | nil => simp [insertEntry, List.lookup_cons, hb]
  | cons entry rest ih =>
    obtain ⟨n, values⟩ := entry
    by_cases he : name = n
    · subst he
      simp [insertEntry, List.lookup_cons, hb]
    · simp [insertEntry, he, List.lookup_cons, ih]

@[simp] theorem values_insert_self (s : Store) (p : Pair) :
    (s.insert p).values p.name = s.values p.name ++ [p.value] := by
  simp [values, insert, lookup_insertEntry_self]

theorem values_insert_of_ne {p : Pair} {name : Text} (h : name ≠ p.name) (s : Store) :
    (s.insert p).values name = s.values name := by
  simp [values, insert, lookup_insertEntry_of_ne h]

theorem mem_insert {s : Store} {p : Pair} {name : Text} :
    name ∈ s.insert p ↔ name = p.name ∨ name ∈ s := by
  by_cases h : name = p.name
  · subst h
    simp [Membership.mem, contains, insert, lookup_insertEntry_self]
  · simp [Membership.mem, contains, insert, lookup_insertEntry_of_ne h, h]

end Store

end QueryString
