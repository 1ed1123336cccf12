import StyleRules.Value.Compare

/-!
# Mappings

A mapping is a list of entries in the order of insertion.  Looking up finds the entry with an equal key;
inserting replaces the value of an entry in place or appends a new entry.
-/

namespace StyleRules.Mapping

variable {α : Type}

/-- The value of the entry with an equal key. -/
def find? (key : Value) : List (Value × α) → Option α
  | [] => none
  | (k, v) :: rest => if k.eq key then some v else find? key rest

/-- There is an entry with an equal key. -/
def has (key : Value) (entries : List (Value × α)) : Bool :=
  (find? key entries).isSome

/-- Set the value of a key. -/
def insert (key : Value) (value : α) : List (Value × α) → List (Value × α)
  | [] => [(key, value)]
  | (k, v) :: rest => if k.eq key then (k, value) :: rest else (k, v) :: insert key value rest

/-- Set the values of several keys, in order. -/
def insertAll (changes entries : List (Value × α)) : List (Value × α) :=
  changes.foldl (fun acc entry => insert entry.1 entry.2 acc) entries

/-- The value of a text key. -/
def get? (name : String) (entries : List (Value × α)) : Option α :=
  find? (.str name) entries

/-- A value that is found is smaller than the mapping. -/
theorem sizeOf_find?_lt [SizeOf α] {key : Value} {entries : List (Value × α)} {v : α}
    (h : find? key entries = some v) : sizeOf v < sizeOf entries := by
  induction entries with
  | nil => simp [find?] at h
  | cons entry rest ih =>
    obtain ⟨k, w⟩ := entry
    simp only [find?] at h
    split at h
    · cases h
      simp only [List.cons.sizeOf_spec, Prod.mk.sizeOf_spec]
      omega
    · have := ih h
      simp only [List.cons.sizeOf_spec]
      omega

end StyleRules.Mapping
