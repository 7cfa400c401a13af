/-!
Tables in insertion order, as lists of pairs. Keys are compared by a given test, so that tables
can be keyed by texts or by values that count as equal.
-/

namespace SchemaSignature.Table

variable {key value : Type}

/-- The value of the first entry whose key passes the test. -/
def find? (same : key → Bool) : List (key × value) → Option value
  | [] => none
  | (first, content) :: rest => if same first then some content else find? same rest

/-- Sets the value of a key: an old key keeps its place and its spelling, a new one goes last. -/
def set (same : key → key → Bool) (name : key) (content : value) :
    List (key × value) → List (key × value)
  | [] => [(name, content)]
  | (first, old) :: rest =>
      if same first name then (first, content) :: rest
      else (first, old) :: set same name content rest

/-- Adds an entry unless the key has one already. -/
def setIfAbsent (same : key → key → Bool) (name : key) (content : value)
    (entries : List (key × value)) : List (key × value) :=
  if entries.any fun entry => same entry.1 name then entries else entries ++ [(name, content)]

/-- The table of a list of entries, later ones overriding earlier ones of the same key. -/
def ofList (same : key → key → Bool) (entries : List (key × value)) : List (key × value) :=
  entries.foldl (fun table entry => set same entry.1 entry.2 table) []

theorem find?_set_self (name : String) (content : value) (entries : List (String × value)) :
    find? (· == name) (set (· == ·) name content entries) = some content := by
  induction entries with
  | nil => simp [set, find?]
  | cons first rest inductionHypothesis =>
      obtain ⟨firstName, firstContent⟩ := first
      by_cases same : firstName = name
      · simp [set, find?, same]
      · simp [set, find?, same, inductionHypothesis]

theorem find?_set_of_ne
    {name other : String} (different : other ≠ name) (content : value)
    (entries : List (String × value)) :
    find? (· == other) (set (· == ·) name content entries) = find? (· == other) entries := by
  induction entries with
  | nil => simp [set, find?, Ne.symm different]
  | cons first rest inductionHypothesis =>
      obtain ⟨firstName, firstContent⟩ := first
      by_cases same : firstName = name
      · subst same
        simp [set, find?, Ne.symm different]
      · simp [set, find?, same, inductionHypothesis]

end SchemaSignature.Table
