import ServerCursor.Bson.Basic
import ServerCursor.Decimal.Wide

/-!
# Values as they are read and as they are written

The options of a regular expression have no order of their own, and different bytes can stand for
one decimal of 128 bits. A value that has been read has the options of its regular expressions in
ascending order; a value that has been written also has its decimals in their canonical bytes.

Main statements: reading and writing a value once more changes nothing (`Value.asRead_asRead`,
`Value.asWritten_asWritten`), and a value that has been written is one that has been read
(`Value.asRead_asWritten`).
-/

namespace ServerCursor

/-- The characters of a text in ascending order. -/
def ascending (s : String) : String :=
  String.ofList (s.toList.mergeSort fun a b => decide (a ≤ b))

namespace Value

/-- Whether a value has no parts. -/
def isLeaf : Value → Bool
  | array _ => false
  | document _ => false
  | _ => true

/-- The read form of a value that has no parts. -/
def readLeaf : Value → Value
  | regex pattern options => regex pattern (ascending options)
  | v => v

/-- The written form of a value that has no parts. -/
def writtenLeaf : Value → Value
  | regex pattern options => regex pattern (ascending options)
  | decimal128 bytes => decimal128 (Decimal.Wide.canonicalBytes bytes)
  | v => v

mutual

/-- Replace each part of a value that has no parts itself. -/
def mapLeaves (f : Value → Value) : Value → Value
  | array items => array (mapItems f items)
  | document fields => document (mapFields f fields)
  | v => f v

/-- Replace the leaves of each item. -/
def mapItems (f : Value → Value) : List Value → List Value
  | [] => []
  | v :: rest => mapLeaves f v :: mapItems f rest

/-- Replace the leaves of each field. -/
def mapFields (f : Value → Value) : List (String × Value) → List (String × Value)
  | [] => []
  | (k, v) :: rest => (k, mapLeaves f v) :: mapFields f rest

end

/-- A value as it is once it has been read. -/
def asRead (v : Value) : Value :=
  v.mapLeaves readLeaf

/-- A value as it is once it has been written. -/
def asWritten (v : Value) : Value :=
  v.mapLeaves writtenLeaf

end Value

/-- A document as it is once it has been read. -/
def Document.asRead (d : Document) : Document :=
  Value.mapFields Value.readLeaf d

/-- A document as it is once it has been written. -/
def Document.asWritten (d : Document) : Document :=
  Value.mapFields Value.writtenLeaf d

theorem ascending_ascending (s : String) : ascending (ascending s) = ascending s := by
  simp only [ascending, String.toList_ofList]
  congr 1
  apply List.mergeSort_of_pairwise
  apply List.pairwise_mergeSort
  · intro a b c hab hbc
    simp only [decide_eq_true_eq] at *
    exact Char.le_trans hab hbc
  · intro a b
    simpa using Char.le_total a b

namespace Value

theorem asRead_document (fields : List (String × Value)) :
    (document fields).asRead = document (Document.asRead fields) := by
  simp [asRead, mapLeaves, Document.asRead]

theorem asWritten_document (fields : List (String × Value)) :
    (document fields).asWritten = document (Document.asWritten fields) := by
  simp [asWritten, mapLeaves, Document.asWritten]

mutual

theorem mapLeaves_mapLeaves {f g h : Value → Value}
    (leaf : ∀ v, v.isLeaf → (g v).mapLeaves f = h v) (v : Value) :
    (v.mapLeaves g).mapLeaves f = v.mapLeaves h := by
  cases v with
  | array items => simp only [mapLeaves, mapItems_mapItems leaf items]
  | document fields => simp only [mapLeaves, mapFields_mapFields leaf fields]
  | _ => simp only [mapLeaves]; exact leaf _ rfl

theorem mapItems_mapItems {f g h : Value → Value}
    (leaf : ∀ v, v.isLeaf → (g v).mapLeaves f = h v) (items : List Value) :
    mapItems f (mapItems g items) = mapItems h items := by
  cases items with
  | nil => simp only [mapItems]
  | cons v rest =>
    simp only [mapItems, mapLeaves_mapLeaves leaf v, mapItems_mapItems leaf rest]

theorem mapFields_mapFields {f g h : Value → Value}
    (leaf : ∀ v, v.isLeaf → (g v).mapLeaves f = h v) (fields : List (String × Value)) :
    mapFields f (mapFields g fields) = mapFields h fields := by
  cases fields with
  | nil => simp only [mapFields]
  | cons field rest =>
    simp only [mapFields, mapLeaves_mapLeaves leaf field.2, mapFields_mapFields leaf rest]

end

theorem asRead_asRead (v : Value) : v.asRead.asRead = v.asRead := by
  refine mapLeaves_mapLeaves (fun v hv => ?_) v
  cases v <;> simp_all [readLeaf, mapLeaves, isLeaf, ascending_ascending]

theorem asWritten_asWritten (v : Value) : v.asWritten.asWritten = v.asWritten := by
  refine mapLeaves_mapLeaves (fun v hv => ?_) v
  cases v <;> simp_all [writtenLeaf, mapLeaves, isLeaf, ascending_ascending,
    Decimal.Wide.canonicalBytes_canonicalBytes]

theorem asRead_asWritten (v : Value) : v.asWritten.asRead = v.asWritten := by
  refine mapLeaves_mapLeaves (fun v hv => ?_) v
  cases v <;> simp_all [readLeaf, writtenLeaf, mapLeaves, isLeaf, ascending_ascending]

end Value

theorem Document.asRead_asRead (d : Document) : d.asRead.asRead = d.asRead := by
  have h := Value.asRead_asRead (.document d)
  simpa only [Value.asRead_document, Value.document.injEq] using h

theorem Document.asRead_asWritten (d : Document) : d.asWritten.asRead = d.asWritten := by
  have h := Value.asRead_asWritten (.document d)
  simpa only [Value.asRead_document, Value.asWritten_document, Value.document.injEq] using h

end ServerCursor
