/-!
Sorting by an order that some pairs of elements lack. A list is sorted by taking the run of ordered
elements that it opens with, and by putting each later element behind those of the sorted ones that
it does not precede. Sorting fails as soon as two elements without order have to be compared.
-/

namespace SchemaSignature.Sorting

section Order

variable {element : Type} (precedes? : element → element → Option Bool)

/-- The place of a new element between two bounds in a sorted list, found by halving. -/
def place? (sorted : List element) (new : element) (low high : Nat) : Option Nat :=
  if low < high then
    let middle := (low + high) / 2
    match sorted[middle]? with
    | none => some low
    | some other =>
        match precedes? new other with
        | none => none
        | some true => place? sorted new low middle
        | some false => place? sorted new (middle + 1) high
  else some low
termination_by high - low

def insert? (sorted : List element) (new : element) : Option (List element) :=
  (place? precedes? sorted new 0 sorted.length).map fun place =>
    sorted.take place ++ new :: sorted.drop place

/-- The elements that continue a run behind its last one, and those after the run. In a falling run
each element precedes the one before it, in a rising one none does. -/
def continuation? (falling : Bool) (last : element) :
    List element → Option (List element × List element)
  | [] => some ([], [])
  | next :: rest =>
      match precedes? next last with
      | none => none
      | some below =>
          if below == falling then
            (continuation? falling next rest).map fun split => (next :: split.1, split.2)
          else some ([], next :: rest)

/-- The run that a list opens with, in rising order, and the elements after it. -/
def opening? : List element → Option (List element × List element)
  | first :: second :: rest => do
      let falling ← precedes? second first
      let (run, later) ← continuation? precedes? falling second rest
      let opening := first :: second :: run
      return (if falling then opening.reverse else opening, later)
  | short => some (short, [])

def sort? (elements : List element) : Option (List element) := do
  let (opening, later) ← opening? precedes? elements
  later.foldlM (insert? precedes?) opening

end Order

end SchemaSignature.Sorting
