import ServerCursor.Proofs.Alike
import ServerCursor.Proofs.Discard
import ServerCursor.Proofs.Readers
import ServerCursor.Proofs.Turn
import ServerCursor.Proofs.Writing

/-!
# Options that are written and read again

Writing options loses what their form has no room for: the part of a waiting time below a
millisecond, the milliseconds past the greatest 64-bit integer, and the difference between no
comment and a comment that is null. What is left are the options' normal form (`Options.norm`). It
is what comes back, from a document as from JSON, and it comes back unchanged.

The normal form is no different to a server: the milliseconds that a request carries are cut off
much earlier than those that are written (`Duration.millis32_norm`). Cursors with either options are
alike in every history, and what they send is the same up to a comment that is null
(`Wire.Resent`).

Main statement: `Options.comes_back_norm`.
-/

namespace ServerCursor

namespace Duration

/-- The whole milliseconds that a 64-bit integer has room for. -/
def norm (d : Duration) : Duration :=
  ofMillis (min d.millis (2 ^ 63 - 1))

theorem millis_ofMillis (n : Nat) : (ofMillis n).millis = n :=
  Nat.mul_div_cancel n (by omega)

theorem norm_norm (d : Duration) : d.norm.norm = d.norm := by
  rw [norm, norm, millis_ofMillis]
  congr 1
  omega

theorem millis32_norm (d : Duration) : d.norm.millis32 = d.millis32 := by
  have hpow : Nat.pow 2 31 = 2 ^ 31 := rfl
  rw [millis32, millis32, norm, millis_ofMillis, hpow]
  congr 1
  omega

end Duration

namespace Options

/-- A comment that is null is none. -/
def withoutNull : Option Value → Option Value
  | some .null => none
  | comment => comment

/-- What is left of options once they have been written. -/
def norm (o : Options) : Options :=
  { o with maxAwait := o.maxAwait.map Duration.norm, comment := withoutNull o.comment }

/-- The options with the comment as it is once it has been written. -/
def asWritten (o : Options) : Options :=
  { o with comment := o.comment.map Value.asWritten }

theorem withoutNull_eq (comment : Option Value) :
    comment = some .null ∧ withoutNull comment = none ∨
      comment ≠ some .null ∧ withoutNull comment = comment := by
  unfold withoutNull
  split
  · exact .inl ⟨rfl, rfl⟩
  · rename_i h
    exact .inr ⟨h, rfl⟩

theorem withoutNull_withoutNull (comment : Option Value) :
    withoutNull (withoutNull comment) = withoutNull comment := by
  rcases withoutNull_eq comment with ⟨-, h⟩ | ⟨-, h⟩
  · rw [h]
    rfl
  · rw [h, h]

theorem withoutNull_map_asWritten (comment : Option Value) :
    withoutNull (comment.map Value.asWritten) = (withoutNull comment).map Value.asWritten := by
  cases comment with
  | none => rfl
  | some v => cases v <;>
      simp [withoutNull, Value.asWritten, Value.mapLeaves, Value.writtenLeaf]

theorem norm_norm (o : Options) : o.norm.norm = o.norm := by
  obtain ⟨limit, batchSize, maxAwait, comment⟩ := o
  cases maxAwait with
  | none => simp [norm, withoutNull_withoutNull]
  | some d => simp [norm, withoutNull_withoutNull, Duration.norm_norm]

theorem norm_asWritten (o : Options) : o.asWritten.norm = o.norm.asWritten := by
  simp [norm, asWritten, withoutNull_map_asWritten]

theorem asWritten_asWritten (o : Options) : o.asWritten.asWritten = o.asWritten := by
  simp [asWritten, Function.comp_def, Value.asWritten_asWritten]

theorem asWritten_norm_of_comment {o : Options} (h : ∀ v ∈ o.comment, v.asWritten = v) :
    o.norm.asWritten = o.norm := by
  have hcomment : o.comment.map Value.asWritten = o.comment := by
    cases hc : o.comment with
    | none => rfl
    | some v => exact congrArg some (h v hc)
  rw [← norm_asWritten, asWritten, hcomment]

/-! ## What is read -/

section Reading

variable {α : Type} [Readable α]

theorem integerIn_of_shape {v : α} {low high n : Int} (h : Readable.shape v = .integer n)
    (hlow : low ≤ n) (hhigh : n ≤ high) (expected : Expected) :
    Decode.integerIn low high expected v = .ok n := by
  rw [Decode.integerIn, h]
  exact if_pos ⟨hlow, hhigh⟩

theorem int32_of_shape {v : α} {n : Int32} (h : Readable.shape v = .integer n.toInt) :
    Decode.int32 v = .ok n := by
  have hlow : -Int.pow 2 31 ≤ n.toInt := n.le_toInt
  have hhigh : n.toInt ≤ Int.pow 2 31 - 1 := Int.le_sub_one_of_lt n.toInt_lt
  rw [Decode.int32, integerIn_of_shape h hlow hhigh, Except.map, Int32.ofInt_toInt]

theorem readMaxAwait_of_shape {v : α} {n : Nat} (h : Readable.shape v = .integer n)
    (hn : n < 2 ^ 64) : readMaxAwait v = .ok (some (.ofMillis n)) := by
  have hhigh : (n : Int) ≤ Int.pow 2 64 - 1 := by
    have hpow : Int.pow 2 64 = 2 ^ 64 := rfl
    omega
  simp only [readMaxAwait, Decode.optional, Decode.nat64, h,
    integerIn_of_shape h (Int.natCast_nonneg n) hhigh, Except.map, Int.toNat_natCast]

namespace Partial

variable {p : Partial} {v : α}

theorem read_limit {n : Int32} (hp : p.limit = none) (h : Decode.int32 v = .ok n) :
    p.read limitKey v = .ok { p with limit := some n } := by
  rw [Partial.read, if_pos rfl, hp, h]
  rfl

theorem read_batchSize {n : Int32} (hp : p.batchSize = none) (h : Decode.int32 v = .ok n) :
    p.read batchSizeKey v = .ok { p with batchSize := some n } := by
  rw [Partial.read, if_neg (by decide), if_pos rfl, hp, h]
  rfl

theorem read_maxAwait {d : Option Duration} (hp : p.maxAwait = none)
    (h : readMaxAwait v = .ok d) : p.read maxAwaitKey v = .ok { p with maxAwait := some d } := by
  rw [Partial.read, if_neg (by decide), if_neg (by decide), if_pos rfl, hp, h]
  rfl

theorem read_comment {c : Option Value} (hp : p.comment = none) (h : readComment v = .ok c) :
    p.read commentKey v = .ok { p with comment := some c } := by
  rw [Partial.read, if_neg (by decide), if_neg (by decide), if_neg (by decide), if_pos rfl, hp, h]
  rfl

theorem foldFields_read {q : Partial} {key : String} (h : p.read key v = .ok q)
    (rest : List (String × α)) :
    Decode.foldFields read p ((key, v) :: rest) = Decode.foldFields read q rest := by
  rw [Decode.foldFields, List.foldlM_cons, h]
  rfl

/-- A field that may be left out is read if it is there. -/
theorem foldFields_readIf {q : Partial} {key : String} {v? : Option α}
    (h : v?.elim (.ok p) (p.read key) = .ok q) (rest : List (String × α)) :
    Decode.foldFields read p ((v?.map fun v => (key, v)).toList ++ rest) =
      Decode.foldFields read q rest := by
  cases v? with
  | none => rw [Except.ok.inj h]; rfl
  | some v => exact foldFields_read h rest

end Partial

/-- The fields that are written are read one by one, and what was left out has its default. -/
theorem ofFields_eq {limit batchSize : α} {maxAwait comment : Option α} {o : Options}
    (hlimit : Decode.int32 limit = .ok o.limit) (hsize : Decode.int32 batchSize = .ok o.batchSize)
    (hawait : maxAwait.elim (.ok none) readMaxAwait = .ok o.maxAwait)
    (hcomment : comment.elim (.ok none) readComment = .ok o.comment) :
    ofFields ([(limitKey, limit), (batchSizeKey, batchSize)] ++
      (maxAwait.map fun v => (maxAwaitKey, v)).toList ++
      (comment.map fun v => (commentKey, v)).toList) = .ok o := by
  let sizes : Partial := ⟨some o.limit, some o.batchSize, none, none⟩
  let times : Partial := { sizes with maxAwait := maxAwait.map fun _ => o.maxAwait }
  have hthird : maxAwait.elim (.ok sizes) (sizes.read maxAwaitKey) = .ok times := by
    cases maxAwait with
    | none => rfl
    | some v => exact Partial.read_maxAwait rfl hawait
  have hfourth : comment.elim (.ok times) (times.read commentKey) =
      .ok { times with comment := comment.map fun _ => o.comment } := by
    cases comment with
    | none => rfl
    | some v => exact Partial.read_comment rfl hcomment
  have hfinish : Partial.finish { times with comment := comment.map fun _ => o.comment } = o := by
    have htimes : (maxAwait.map fun _ => o.maxAwait).getD none = o.maxAwait := by
      cases maxAwait with
      | none => exact Except.ok.inj hawait
      | some v => rfl
    have hlast : (comment.map fun _ => o.comment).getD none = o.comment := by
      cases comment with
      | none => exact Except.ok.inj hcomment
      | some v => rfl
    simp only [Partial.finish, times, htimes, hlast]
    rfl
  rw [ofFields, List.append_assoc, List.cons_append, List.singleton_append,
    Partial.foldFields_read (Partial.read_limit rfl hlimit),
    Partial.foldFields_read (Partial.read_batchSize rfl hsize),
    Partial.foldFields_readIf hthird, ← List.append_nil (Option.toList _),
    Partial.foldFields_readIf hfourth]
  exact congrArg Except.ok hfinish

end Reading

/-! ## What is written -/

theorem shape_of_isInteger {v : Value} {n : Int} (h : v.IsInteger n) :
    Readable.shape v = .integer n := by
  cases h <;> rfl

theorem toJson_of_isInteger {v : Value} {n : Int} (h : v.IsInteger n) : v.toJson = .integer n := by
  cases h <;> rw [Value.toJson]

theorem asWritten_of_isInteger {v : Value} {n : Int} (h : v.IsInteger n) : v.asWritten = v := by
  cases h <;> simp [Value.asWritten, Value.mapLeaves, Value.writtenLeaf]

theorem isInteger_toValue (d : Duration) :
    d.toValue.IsInteger (min d.millis (2 ^ 63 - 1) : Nat) := by
  have hsmall : Nat.pow 2 31 = 2 ^ 31 := rfl
  have hlarge : Nat.pow 2 63 = 2 ^ 63 := rfl
  unfold Duration.toValue
  split
  · rename_i h
    have hvalue : (min d.millis (2 ^ 63 - 1) : Nat) = (Int32.ofNat d.millis).toInt := by
      rw [Int32.toInt_ofNat_of_lt (by omega)]
      omega
    exact hvalue ▸ .int32 _
  · have hvalue : (min d.millis (2 ^ 63 - 1) : Nat) =
        (Int64.ofNat (min d.millis (2 ^ 63 - 1))).toInt := by
      rw [Int64.toInt_ofNat_of_lt (by omega)]
    exact hvalue ▸ .int64 _

/-- A value of any kind stays of that kind when it is written, so only the null value is no
comment. -/
theorem readComment_asWritten (v : Value) :
    readComment v.asWritten = .ok ((withoutNull (some v)).map Value.asWritten) := by
  have hread : ∀ {w : Value}, w.asWritten.shape ≠ .nothing →
      readComment w.asWritten = .ok (some w.asWritten) := by
    intro w hw
    unfold readComment Decode.optional
    split
    · rename_i h
      exact absurd h hw
    · exact congrArg (fun v => Except.ok (some v)) w.asRead_asWritten
  cases v with
  | null => rfl
  | binary subtype bytes =>
    refine hread ?_
    simp only [Value.asWritten, Value.mapLeaves, Value.writtenLeaf, Value.shape]
    split <;> simp
  | _ => exact hread (by simp [Value.asWritten, Value.mapLeaves, Value.writtenLeaf, Value.shape])

theorem toDocument_eq (o : Options) : o.toDocument =
    [(limitKey, .int32 o.limit), (batchSizeKey, .int32 o.batchSize)] ++
      ((o.maxAwait.map Duration.toValue).map fun v => (maxAwaitKey, v)).toList ++
      ((o.comment.map Value.asWritten).map fun v => (commentKey, v)).toList := by
  have hawait : ∀ d : Duration, Value.mapLeaves Value.writtenLeaf d.toValue = d.toValue :=
    fun d => asWritten_of_isInteger (isInteger_toValue d)
  obtain ⟨limit, batchSize, maxAwait, comment⟩ := o
  cases maxAwait <;> cases comment <;>
    simp [toDocument, fields, Document.asWritten, Value.asWritten, Value.mapFields,
      Value.mapLeaves, Value.writtenLeaf, hawait]

theorem toJson_eq (o : Options) : o.toJson = .object
    ([(limitKey, .integer o.limit.toInt), (batchSizeKey, .integer o.batchSize.toInt)] ++
      ((o.maxAwait.map fun d => Json.integer (min d.millis (2 ^ 63 - 1) : Nat)).map
        fun v => (maxAwaitKey, v)).toList ++
      ((o.comment.map Value.toJson).map fun v => (commentKey, v)).toList) := by
  have hawait : ∀ d : Duration, d.toValue.toJson = .integer (min d.millis (2 ^ 63 - 1) : Nat) :=
    fun d => toJson_of_isInteger (isInteger_toValue d)
  obtain ⟨limit, batchSize, maxAwait, comment⟩ := o
  cases maxAwait <;> cases comment <;>
    simp [toJson, fields, Value.toJson, Value.fieldsToJson, hawait]

theorem readMaxAwait_norm {α : Type} [Readable α] {v : α} {d : Duration}
    (h : Readable.shape v = .integer (min d.millis (2 ^ 63 - 1) : Nat)) :
    readMaxAwait v = .ok (some d.norm) :=
  readMaxAwait_of_shape h (by omega)

theorem decode_toDocument (o : Options) :
    decode (Value.document o.toDocument) = .ok o.norm.asWritten := by
  rw [toDocument_eq]
  refine ofFields_eq (int32_of_shape rfl) (int32_of_shape rfl) ?_ ?_
  · cases hmax : o.maxAwait with
    | none => simp [norm, asWritten, hmax]
    | some d =>
      have hread := readMaxAwait_norm (shape_of_isInteger (isInteger_toValue d))
      simp [norm, asWritten, hmax, hread]
  · cases hcomment : o.comment with
    | none => simp [norm, asWritten, hcomment, withoutNull]
    | some v => simp [norm, asWritten, hcomment, readComment_asWritten]

theorem decode_toJson {o : Options} (h : o.comment = none) : decode o.toJson = .ok o.norm := by
  rw [toJson_eq]
  refine ofFields_eq (int32_of_shape rfl) (int32_of_shape rfl) ?_ ?_
  · cases hmax : o.maxAwait with
    | none => simp [norm, hmax]
    | some d =>
      have hread : readMaxAwait (Json.integer (min d.millis (2 ^ 63 - 1) : Nat)) =
          .ok (some d.norm) := readMaxAwait_norm rfl
      simp only [norm, hmax, Option.map_some, Option.elim_some, hread]
  · simp [norm, h, withoutNull]

theorem read?_toJson {o : Options} (h : o.comment = none) :
    Json.read? o.toJson.compact = some o.toJson := by
  have hlimit := o.limit.le_toInt
  have hlimit' := o.limit.toInt_lt
  have hsize := o.batchSize.le_toInt
  have hsize' := o.batchSize.toInt_lt
  refine Json.read?_compact ?_
  rw [toJson_eq, h]
  cases o.maxAwait with
  | none =>
    refine ⟨⟨⟨by omega, by omega⟩, ⟨by omega, by omega⟩, trivial⟩, ?_⟩
    simp [limitKey, batchSizeKey]
  | some d =>
    refine ⟨⟨⟨by omega, by omega⟩, ⟨by omega, by omega⟩, ⟨by omega, by omega⟩, trivial⟩, ?_⟩
    simp [limitKey, batchSizeKey, maxAwaitKey]

/-! ## What is sent -/

/-- The command that asks for a batch under these options, with some comment: the size of the batch
is left out if it is zero, and the waiting time is in whole milliseconds, at most the greatest
32-bit integer. -/
def command (o : Options) (ns : Namespace) (id : Int64) (number : Int32)
    (comment : Option Value) : Message :=
  .command ns.db
    ([("getMore", .int64 id), ("collection", .string ns.coll)] ++
      (if number = 0 then []
        else
          [("batchSize", .int32 (Int32.ofInt (min (number.toInt.natAbs : Int) (2 ^ 31 - 1))))]) ++
      (o.maxAwait.map fun d =>
        ("maxTimeMS", Value.int32 (Int32.ofNat (min d.millis (2 ^ 31 - 1))))).toList ++
      (comment.map fun v => ("comment", v)).toList)

theorem getMore_eq_command (o : Options) (ns : Namespace) (comment : Option Value) (id : Int64)
    (number : Int32) : Requester.getMore ⟨ns, o.maxAwait, comment, .command⟩ id number =
      o.command ns id number comment :=
  rfl

theorem command_norm (o : Options) (ns : Namespace) (id : Int64) (number : Int32)
    (comment : Option Value) : o.norm.command ns id number comment =
      o.command ns id number comment := by
  obtain ⟨limit, batchSize, maxAwait, c⟩ := o
  cases maxAwait with
  | none => rfl
  | some d =>
    have hawait : Int32.ofNat (min d.norm.millis (2 ^ 31 - 1)) =
        Int32.ofNat (min d.millis (2 ^ 31 - 1)) := d.millis32_norm
    simp only [command, norm, Option.map_some, hawait]

end Options

/-- What a cursor puts on the wire, and what it puts there if its options have been written and read
again: the same, but for a comment that is null. -/
inductive Wire.Resent (ns : Namespace) (o : Options) : Wire → Wire → Prop
  | silent (w : Wire) : w.message? = none → Resent ns o w w
  | command (n : Nat) (id : Int64) (number : Int32) :
      Resent ns o (.sent n (o.command ns id number o.comment))
        (.sent n (o.command ns id number (Options.withoutNull o.comment)))
  | getMore (n : Nat) (id : Int64) (number : Int32) :
      Resent ns o (.sent n (.getMore ns id number)) (.sent n (.getMore ns id number))
  | kill (n : Nat) (id : Int64) (r : Requester) :
      Resent ns o (.sent n (r.kill id)) (.sent n (r.kill id))

theorem Wire.Resent.eq {ns : Namespace} {o : Options} (hcomment : o.comment ≠ some .null)
    {w w' : Wire} (h : w.Resent ns o w') : w' = w := by
  cases h with
  | command n id number =>
    rcases Options.withoutNull_eq o.comment with ⟨hnull, -⟩ | ⟨-, hsame⟩
    · exact absurd hnull hcomment
    · rw [hsame]
  | _ => rfl

/-- The requests of two cursors match that have the same options but for writing and reading. -/
theorem matches_norm (ns : Namespace) (o : Options) (protocol : Protocol) (address : Address) :
    Config.Matches (Wire.Resent ns o)
      ⟨⟨ns, o.maxAwait, o.comment, protocol⟩, address, o.effectiveLimit, o.batchSize⟩
      ⟨⟨ns, o.norm.maxAwait, o.norm.comment, protocol⟩, address, o.norm.effectiveLimit,
        o.norm.batchSize⟩ := by
  refine ⟨rfl, rfl, rfl, .silent, ?_, ?_⟩
  · intro n id number
    cases protocol with
    | legacy => exact .getMore n id number
    | command =>
      rw [Options.getMore_eq_command, Options.getMore_eq_command, Options.command_norm]
      exact .command n id number
  · intro n id
    cases protocol with
    | legacy => exact .kill n id _
    | command => exact .kill n id _

/-- A cursor with the normal form of its options is the same but for what it asks with. -/
theorem create_norm (reply : Reply) (o : Options) (server : ServerDescription)
    (connection : Option (Nat × ConnectionDescription)) (l : Ledger) :
    Cursor.create reply o.norm server connection l =
      { Cursor.create reply o server connection l with
        config := (Cursor.create reply o.norm server connection l).config } := by
  unfold Cursor.create
  cases connection with
  | none => simp only; split <;> rfl
  | some h => simp only; split <;> split <;> rfl

theorem alike_create_norm (reply : Reply) (o : Options) (server : ServerDescription)
    (connection : Option (Nat × ConnectionDescription)) (l : Ledger) :
    Cursor.Alike (Wire.Resent reply.ns o) (Cursor.create reply o server connection l).ledger.wire
      (Cursor.create reply o server connection l)
      (Cursor.create reply o.norm server connection l) := by
  rw [create_norm]
  refine ⟨?_, rfl, .refl _⟩
  simp only [config_create_eq]
  exact matches_norm ..

/-- Options are written and read again. -/
structure Options.ComesBack (o : Options) : Prop where
  /-- From a document the normal form comes back, with the comment as far as it can be written, -/
  document : decode (Value.document o.toDocument) = .ok o.norm.asWritten
  /-- which is the comment itself if its values come back as they are. -/
  value : (∀ v ∈ o.comment, v.asWritten = v) → decode (Value.document o.toDocument) = .ok o.norm
  /-- Without a comment it comes back from JSON too, -/
  json : o.comment = none → decode o.toJson = .ok o.norm
  /-- of which the text tells as much. -/
  text : o.comment = none → Json.read? o.toJson.compact = some o.toJson
  /-- What came back from a document comes back unchanged, -/
  document_again : ∀ o', decode (Value.document o.toDocument) = .ok o' →
    decode (Value.document o'.toDocument) = .ok o'
  /-- and so does what came back from JSON. -/
  json_again : o.comment = none → ∀ o', decode o.toJson = .ok o' → decode o'.toJson = .ok o'

theorem Options.comesBack (o : Options) : o.ComesBack := by
  constructor
  case document => exact decode_toDocument o
  case value =>
    intro h
    rw [decode_toDocument, asWritten_norm_of_comment h]
  case json => exact decode_toJson
  case text => exact read?_toJson
  case document_again =>
    intro o' h
    rw [decode_toDocument] at h
    obtain rfl : o.norm.asWritten = o' := Except.ok.inj h
    rw [decode_toDocument, norm_asWritten, norm_norm, asWritten_asWritten]
  case json_again =>
    intro hcomment o' h
    rw [decode_toJson hcomment] at h
    obtain rfl : o.norm = o' := Except.ok.inj h
    have hnone : o.norm.comment = none := by
      rw [norm, hcomment]
      rfl
    rw [decode_toJson hnone, norm_norm]

/-- Options that are written and read again come back in their normal form, and cursors opened with
either do the same in every history, but that a comment that is null is left out. -/
theorem Options.comes_back_norm (o : Options) : o.ComesBack ∧
    ∀ (reply : Reply) (server : ServerDescription)
      (connection : Option (Nat × ConnectionDescription)) (l : Ledger) (runtime : Bool)
      (history : List Action),
      let start := Schedule.opened reply o server connection l runtime
      let start' := Schedule.opened reply o.norm server connection l runtime
      let s := start.run history
      let s' := start'.run history
      s'.cursor.state = s.cursor.state ∧
      start'.outcomes history = start.outcomes history ∧
      s'.handles = s.handles ∧ s'.calls = s.calls ∧ s'.tasks = s.tasks ∧
      s'.cursor.ledger.owners = s.cursor.ledger.owners ∧
      ∃ sent sent', s.cursor.ledger.wire = start.cursor.ledger.wire ++ sent ∧
        s'.cursor.ledger.wire = start.cursor.ledger.wire ++ sent' ∧
        List.Forall₂ (Wire.Resent reply.ns o) sent sent' ∧
        (o.comment ≠ some .null → sent' = sent) := by
  refine ⟨o.comesBack, fun reply server connection l runtime history => ?_⟩
  intro start start' s s'
  have hactions : List.Forall₂ Action.Alike history history :=
    List.forall₂_same.mpr fun a _ => .refl a
  have hcreated := alike_create_norm reply o server connection l
  obtain ⟨hrun, houtcomes⟩ :=
    (Schedule.alike_with (Schedule.ofCursor _ runtime) hcreated).run hactions
  obtain ⟨sent, sent', hsent, hsent', hall⟩ := hrun.cursor.ledger.wire
  refine ⟨hrun.cursor.state, houtcomes, hrun.handles, hrun.calls, hrun.tasks,
    hrun.cursor.ledger.owners, sent, sent', hsent, hsent', hall, fun hcomment => ?_⟩
  have hsame : List.Forall₂ (· = ·) sent sent' := hall.imp fun _ _ h => (h.eq hcomment).symm
  rw [List.forall₂_eq_eq_eq] at hsame
  exact hsame.symm

/-- The longest waiting time that there is, and a comment that is null. Both cursors ask for five
documents and wait as long as 32 bits allow, and only the first sends the comment. -/
theorem Options.comes_back_norm_longest :
    let o : Options := ⟨-20, 5, some (.ofSeconds (2 ^ 64 - 1) 999999999), some .null⟩
    let history : List Action := [.begin .stream .next, .answer .stream (.checkout (.ok ()))]
    let asked (o : Options) : Ledger :=
      ((Schedule.opened ⟨⟨"db", "items"⟩, [], 7, .localhost⟩ o ⟨.localhost, .standalone, none⟩ none
        Ledger.start true).run history).cursor.ledger
    (∀ v ∈ o.comment, v.asWritten = v) ∧
    decode (Value.document o.toDocument) =
      .ok ⟨-20, 5, some (.ofMillis 9223372036854775807), none⟩ ∧
    (asked o.norm).owners = (asked o).owners ∧
    (asked o).messages = [.command "db" [("getMore", .int64 7), ("collection", .string "items"),
      ("batchSize", .int32 5), ("maxTimeMS", .int32 2147483647), ("comment", .null)]] ∧
    (asked o.norm).messages = [.command "db" [("getMore", .int64 7),
      ("collection", .string "items"), ("batchSize", .int32 5),
      ("maxTimeMS", .int32 2147483647)]] := by
  intro o history asked
  have hcomment : ∀ v ∈ o.comment, v.asWritten = v := by
    rintro v ⟨⟩
    rfl
  obtain ⟨hback, hruns⟩ := comes_back_norm o
  obtain ⟨-, -, -, -, -, howners, -⟩ := hruns ⟨⟨"db", "items"⟩, [], 7, .localhost⟩
    ⟨.localhost, .standalone, none⟩ none Ledger.start true history
  exact ⟨hcomment, hback.value hcomment, howners, rfl, rfl⟩

end ServerCursor
