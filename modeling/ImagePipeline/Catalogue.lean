import ImagePipeline.Record
/-!
The table of image records.

Rows are kept in the order in which they came. Listings are sorted by time of creation, newest first;
rows with the same time stay in the order in which the database meets them (`Scan`). Claiming a row for
processing is a single conditional change (`claim`), so of several claimants of one image only one
succeeds.
-/

namespace ImagePipeline

structure Catalogue where
  rows : List Record
  deriving DecidableEq, Inhabited

namespace Catalogue

def empty : Catalogue := ⟨[]⟩

def find? (c : Catalogue) (id : String) : Option Record := c.rows.find? fun r => r.id == id

def find (c : Catalogue) (id : String) : Except Failure Record :=
  match c.find? id with
  | some r => .ok r
  | none => .error (.app .imageNotFound none)

def modify (c : Catalogue) (id : String) (change : Record → Record) : Catalogue :=
  ⟨c.rows.map fun r => if r.id == id then change r else r⟩

theorem find?_modify_of_ne (c : Catalogue) {id other : String} (distinct : other ≠ id)
    (change : Record → Record) (keeps : ∀ r, (change r).id = r.id) :
    (c.modify id change).find? other = c.find? other := by
  rw [find?, find?, modify]
  induction c.rows with
  | nil => rfl
  | cons r rows ih =>
    rw [List.map_cons, List.find?_cons, List.find?_cons, ih]
    by_cases same : r.id = id
    · simp only [same, keeps, beq_self_eq_true, if_true, beq_false_of_ne (Ne.symm distinct)]
    · simp only [beq_false_of_ne same, Bool.false_eq_true, if_false]

theorem find?_modify_self (c : Catalogue) (id : String) (change : Record → Record)
    (keeps : ∀ r, (change r).id = r.id) :
    (c.modify id change).find? id = (c.find? id).map change := by
  rw [find?, find?, modify]
  induction c.rows with
  | nil => rfl
  | cons r rows ih =>
    rw [List.map_cons, List.find?_cons, List.find?_cons, ih]
    by_cases same : r.id = id
    · simp only [same, keeps, beq_self_eq_true, if_true, Option.map_some]
    · simp only [beq_false_of_ne same, Bool.false_eq_true, if_false]

def insert (c : Catalogue) (r : Record) : Except Failure Catalogue :=
  if (c.find? r.id).isSome then .error .constraintViolated else .ok ⟨c.rows ++ [r]⟩

def create (c : Catalogue) (d : Draft) (now : Instant) : Except Failure (Record × Catalogue) := do
  let r ← (d.withUsual now).complete
  return (r, ← c.insert r)

def overwrite (stored r : Record) (now : Instant) : Record :=
  { r with id := stored.id, createdAt := stored.createdAt, updatedAt := now }

def store (c : Catalogue) (r : Record) (now : Instant) : Except Failure (Record × Catalogue) := do
  let stored ← c.find r.id
  return (overwrite stored r now, c.modify r.id fun stored => overwrite stored r now)

def update (c : Catalogue) (d : Draft) (now : Instant) : Except Failure (Record × Catalogue) := do
  let stored ← c.find (d.id.getD "")
  let r ← Draft.complete { d with
    createdAt := some (.ofInstant stored.createdAt), updatedAt := some (.ofInstant now) }
  c.store r now

def delete (c : Catalogue) (id : String) : Except Failure Catalogue := do
  let _ ← c.find id
  return ⟨c.rows.filter fun r => r.id != id⟩

/-- Claims a row for processing: it must exist, and be pending or failed. -/
def claim (c : Catalogue) (id : String) (now : Instant) : Except Failure Catalogue :=
  let claimable (r : Record) : Bool :=
    r.id == id && [Status.pending.name, Status.failed.name].contains r.status
  if c.rows.any claimable then
    .ok ⟨c.rows.map fun r =>
      if claimable r then
        { r with status := Status.processing.name, errorMessage := none, updatedAt := now }
      else r⟩
  else if (c.find? id).isSome then .error (.app .alreadyProcessing none)
  else .error (.app .imageNotFound none)

/-! ## Listing -/

def newerFirst (a b : Record) : Bool := decide (b.createdAt ≤ a.createdAt)

def window (limit offset : Int) (rows : List Record) : List Record :=
  let rest := rows.drop offset.toNat
  if limit < 0 then rest else rest.take limit.toNat

def checkBounds (limit offset : Int) : Except Failure Unit :=
  if Draft.fits limit && Draft.fits offset then .ok () else .error .integerOutOfRange

/-- The order in which a query for the rows of one status, or for all, meets them. -/
structure Scan where
  met : Option String → List Record → List Record
  perm (status : Option String) (rows : List Record) : (met status rows).Perm rows

def Scan.usual : Scan where
  met
    | none, rows => rows.reverse
    | some _, rows => rows
  perm
    | none, rows => List.reverse_perm rows
    | some _, rows => .refl rows

variable (c : Catalogue) (scan : Scan)

def newest : List Record := (scan.met none c.rows).mergeSort newerFirst

def newestOf (status : String) : List Record :=
  (scan.met (some status) (c.rows.filter fun r => r.status == status)).mergeSort newerFirst

def list (limit offset : Int) : Except Failure (List Record) := do
  checkBounds limit offset
  return window limit offset (c.newest scan)

def listOf (status : String) (limit offset : Int) : Except Failure (List Record) := do
  checkBounds limit offset
  return window limit offset (c.newestOf scan status)

end Catalogue

end ImagePipeline
