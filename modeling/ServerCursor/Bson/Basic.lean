/-!
# BSON values

A document is an ordered list of keys and values. Numbers keep their width, and a double is kept as
its sixty-four bits, so that two values are equal exactly when a server would have sent the same
bytes.

Nineteen of the twenty-one kinds of values are here. Code with a scope and the old pointer to a
document of another collection are left out. No reader expects either, so they would be refused as a
`Value.regex` is, and inside documents they would be passed on as it is.

Main statements: `Document.get?_insert_self` and `Document.get?_insert_ne` say what an insertion
does to a look-up, and `Document.keys_insert` that a key written twice keeps its first place.
-/

namespace ServerCursor

/-- A value of a document. -/
inductive Value where
  | null
  | bool (b : Bool)
  | int32 (n : Int32)
  | int64 (n : Int64)
  /-- A double, as its bits. -/
  | double (bits : UInt64)
  | string (s : String)
  | array (items : List Value)
  | document (fields : List (String × Value))
  /-- A twelve-byte object identifier. -/
  | objectId (bytes : List UInt8)
  /-- A point in time, in milliseconds since 1970. -/
  | dateTime (millis : Int64)
  | timestamp (time increment : UInt32)
  | binary (subtype : UInt8) (bytes : List UInt8)
  | regex (pattern options : String)
  | symbol (s : String)
  | code (s : String)
  /-- A decimal of 128 bits, as its bytes. -/
  | decimal128 (bytes : List UInt8)
  /-- The value below all others. -/
  | minKey
  /-- The value above all others. -/
  | maxKey
  | undefined
  deriving Inhabited

/-- Keys and values in the order in which they were written. -/
abbrev Document := List (String × Value)

namespace Document

/-- The value at a key, if there is one. -/
def get? : Document → String → Option Value
  | [], _ => none
  | (k, v) :: rest, key => if k = key then some v else get? rest key

/-- Write a key: a new one goes to the end, a known one keeps its place. -/
def insert (key : String) (v : Value) : Document → Document
  | [] => [(key, v)]
  | (k, w) :: rest => if k = key then (k, v) :: rest else (k, w) :: insert key v rest

/-- The document written by inserting the given fields one after the other. -/
def ofFields (fields : List (String × Value)) : Document :=
  fields.foldl (fun d f => d.insert f.1 f.2) []

/-- The keys in order. -/
def keys (d : Document) : List String :=
  d.map (·.1)

theorem get?_insert_self (d : Document) (key : String) (v : Value) :
    (d.insert key v).get? key = some v := by
  induction d with
  | nil => simp [insert, get?]
  | cons f rest ih => by_cases h : f.1 = key <;> simp [insert, get?, h, ih]

theorem get?_insert_ne (d : Document) {key other : String} (v : Value) (h : other ≠ key) :
    (d.insert key v).get? other = d.get? other := by
  induction d with
  | nil => simp [insert, get?, h.symm]
  | cons f rest ih =>
    by_cases hf : f.1 = key
    · have hk : ¬ key = other := h.symm
      simp [insert, get?, hf, hk]
    · simp [insert, get?, hf, ih]

theorem keys_insert (d : Document) (key : String) (v : Value) :
    (d.insert key v).keys = if key ∈ d.keys then d.keys else d.keys ++ [key] := by
  induction d with
  | nil => simp [insert, keys]
  | cons f rest ih =>
    by_cases hf : f.1 = key
    · simp [insert, keys, hf]
    · have hf' : ¬ key = f.1 := fun e => hf e.symm
      simp only [keys] at ih
      by_cases hm : key ∈ rest.map (·.1)
      · simp_all [insert, keys]
      · simp_all [insert, keys]

end Document

end ServerCursor
