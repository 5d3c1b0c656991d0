import Dialogue.Json.Value

/-!
# The database

Three collections of documents. A query asks for fields of given values and gives the documents in
their order or sorted by a field, and no more than a hundred of them. Saving by a key changes the
first document with that key or adds one. The database may be out of order at any of its uses.

Main statements: `mem_select`, a selected document is in the collection and satisfies the query, and
`length_select_le`.
-/

namespace Dialogue

/-- The collections. -/
inductive Collection where
  | flows
  | stores
  | replies
  deriving DecidableEq

namespace Collection

/-- The name of a collection. -/
def name : Collection → String
  | .flows => "flow_definitions"
  | .stores => "stores"
  | .replies => "auto_responses"

/-- The collection of a name. -/
def named? (s : String) : Option Collection :=
  [Collection.flows, .stores, .replies].find? (·.name = s)

end Collection

/-! ## Queries -/

/-- What a queried field must be. -/
inductive Wanted where
  | value (v : Json)
  | anyOf (vs : List Json)

/-- A value written into a query: an object with the field `$in` asks for any of its values. -/
def Wanted.ofJson : Json → Wanted
  | .obj [("$in", .arr vs)] => .anyOf vs
  | v => .value v

/-- The field of a document is as wanted. -/
def Wanted.holds (field : Option Json) : Wanted → Bool
  | .value v => field = some v
  | .anyOf vs => field.any vs.contains

/-- Fields and what they must be. -/
abbrev Query := List (String × Wanted)

/-- A document has all fields that a query asks for. -/
def Query.holds (query : Query) (doc : Fields) : Bool :=
  query.all fun (name, wanted) => wanted.holds (Table.get? doc name)

/-! ## Order -/

/-- The rank of a value in sorting: what is missing, numbers, texts, all else. -/
def sortRank : Option Json → Nat
  | none | some .null => 0
  | some (.bool _) | some (.int _) | some (.float _) => 1
  | some (.str _) => 2
  | some (.arr _) | some (.obj _) => 3

/-- A number as a quotient; infinities stand at the ends, far from all others. -/
def quotient : Json → Int × Nat
  | .bool b => (if b then 1 else 0, 1)
  | .int i => (i, 1)
  | .float x => x.toRatio?.getD (match x with
    | .infinite negative => (if negative then -Nat.pow 2 2000 else Nat.pow 2 2000, 1)
    | _ => (0, 1))
  | _ => (0, 1)

/-- Ascending order of values: by rank, numbers by size, texts by their characters. -/
def sortsBefore (a b : Option Json) : Bool :=
  sortRank a < sortRank b ||
    (sortRank a = sortRank b &&
      match a, b with
      | some (.str s), some (.str t) => decide (s ≤ t)
      | some x, some y =>
        let (p, q) := quotient x
        let (r, s) := quotient y
        p * s ≤ r * q
      | _, _ => true)

/-- The field that documents are sorted by, and the direction. -/
structure Order where
  field : String
  descending : Bool

/-- A document may stand in front of another. Documents that are level keep their order. -/
def Order.allows (order : Order) (a b : Fields) : Bool :=
  let x := Table.get? a order.field
  let y := Table.get? b order.field
  if order.descending then sortsBefore y x else sortsBefore x y

/-- Documents in an order, or as they are. -/
def sortBy (order : Option Order) (docs : List Fields) : List Fields :=
  match order with
  | some order => docs.mergeSort order.allows
  | none => docs

/-! ## Documents -/

/-- An index of a collection. -/
structure Index where
  collection : Collection
  keys : List (String × Int)
  options : Fields

/-- The documents, the indexes, and the uses at which the database is out of order. -/
structure Database where
  flows : List Fields := []
  stores : List Fields := []
  replies : List Fields := []
  indexes : List Index := []
  /-- The connection was closed. -/
  isClosed : Bool := false
  /-- The number of uses so far. -/
  uses : Nat := 0
  /-- The uses that fail. -/
  outage : Nat → Bool := fun _ => false

namespace Database

/-- No more documents than this are read at once. -/
def readLimit : Nat := 100

/-- The documents of a collection. -/
def documents (db : Database) : Collection → List Fields
  | .flows => db.flows
  | .stores => db.stores
  | .replies => db.replies

/-- Replaces the documents of a collection. -/
def withDocuments (db : Database) (docs : List Fields) : Collection → Database
  | .flows => { db with flows := docs }
  | .stores => { db with stores := docs }
  | .replies => { db with replies := docs }

/-- Adds a document at the end of a collection. -/
def add (db : Database) (collection : Collection) (doc : Fields) : Database :=
  db.withDocuments (db.documents collection ++ [doc]) collection

/-- The documents that satisfy a query, in an order, up to the limit. -/
def select (db : Database) (collection : Collection) (query : Query) (order : Option Order) :
    List Fields :=
  (sortBy order ((db.documents collection).filter query.holds)).take readLimit

/-- The first document that satisfies a query. -/
def first? (db : Database) (collection : Collection) (query : Query) : Option Fields :=
  (db.documents collection).find? query.holds

/-- Sets fields of the first document that satisfies `p`. -/
def setFirst (p : Fields → Bool) (changes : Fields) : List Fields → List Fields
  | [] => []
  | doc :: rest =>
    if p doc then Table.setAll doc changes :: rest else doc :: setFirst p changes rest

/-- Sets fields of the document with a key. When there is none, a document with an id of its own is
added, which has the fields of `atFirst` besides. -/
def upsert (db : Database) (collection : Collection) (query : Query) (changes atFirst : Fields) :
    Database :=
  let docs := db.documents collection
  if docs.any query.holds then db.withDocuments (setFirst query.holds changes docs) collection
  else
    let fresh : Fields := ("_id", .str ("new" ++ toString docs.length)) :: atFirst
    db.add collection (Table.setAll fresh changes)

theorem length_select_le (db : Database) (collection : Collection) (query : Query)
    (order : Option Order) : (db.select collection query order).length ≤ readLimit := by
  exact List.length_take_le _ _

theorem mem_sortBy {order : Option Order} {docs : List Fields} {doc : Fields} :
    doc ∈ sortBy order docs ↔ doc ∈ docs := by
  cases order <;> simp [sortBy]

theorem mem_select {db : Database} {collection : Collection} {query : Query}
    {order : Option Order} {doc : Fields} (h : doc ∈ db.select collection query order) :
    doc ∈ db.documents collection ∧ query.holds doc = true := by
  have := List.mem_of_mem_take h
  rw [mem_sortBy, List.mem_filter] at this
  exact this

end Database

end Dialogue
