import StatementProfiles.Members

/-!
# Tables that remember their order

A `Table` keeps entries under IRIs and, beside them, the IRIs in the order in which the entries came. Look-up goes by
the entries (`Table.find?`), a listing by the order (`Table.inOrder`).
-/

namespace StatementProfiles

/-- Entries by IRI, and the IRIs in the order of their entries' arrival. -/
structure Table (α : Type) where
  entries : Members α
  order : List String

namespace Table

variable {α : Type}

/-- The table without entries. -/
def empty : Table α := ⟨[], []⟩

/-- The entry under an IRI. -/
def find? (t : Table α) (id : String) : Option α := t.entries.find? id

/-- The table with an entry under an IRI, which comes last. -/
def insert (t : Table α) (id : String) (entry : α) : Table α := ⟨t.entries.insert id entry, t.order ++ [id]⟩

/-- The table with several entries behind its own. -/
def extend (t : Table α) (rows : List (String × α)) : Table α := rows.foldl (fun t row => t.insert row.1 row.2) t

/-- The entries in the order of their arrival. -/
def inOrder (t : Table α) : List α := t.order.filterMap t.find?

/-- The number of entries. -/
def size (t : Table α) : Nat := t.entries.length

end Table

end StatementProfiles
