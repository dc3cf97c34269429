import ServerCursor.Reply

/-!
# Reading the fields of a record

A record is read field by field. Each field belongs to one place of the record or to none, a place
takes one field only, and what is no field of the record is passed over. So a place holds in the end
what stands in the one field that belongs there, wherever that field was written.

Main statements: `Body.ofFields_iff`, `bodyOf_iff` and `CommandError.ofFields_iff` say when a record
is read and what it is then. `Holds.of_perm` says that the order of the fields does not count,
`fieldsOf_append` that fields which belong elsewhere do not, and `holds_iff_get?` that in a document
which writes each key once a place holds what the look-up finds.
-/

namespace ServerCursor

namespace Decode

variable {α β : Type}

/-- A computation in two parts has a result exactly when the first part has one from which the
second has it. -/
theorem bind_eq_ok_iff {ε γ : Type} {x : Except ε β} {f : β → Except ε γ} {c : γ} :
    x >>= f = .ok c ↔ ∃ b, x = .ok b ∧ f b = .ok c := by
  constructor
  · intro h
    cases x with
    | error e => cases h
    | ok b => exact ⟨b, rfl, h⟩
  · rintro ⟨b, rfl, h⟩
    exact h

/-- What one field does to the place for fields of the given names. -/
def Takes (names : List String) (read : α → Except DecodeError β) (f : String × α)
    (before after : Option β) : Prop :=
  if f.1 ∈ names then before = none ∧ ∃ b, read f.2 = .ok b ∧ after = some b else after = before

/-- What fields do one after the other to the place for fields of the given names. -/
def Fills (names : List String) (read : α → Except DecodeError β) :
    List (String × α) → Option β → Option β → Prop
  | [], before, after => after = before
  | f :: rest, before, after =>
    ∃ between, Takes names read f before between ∧ Fills names read rest between after

/-- The fields of the given names. -/
def fieldsOf (names : List String) (fields : List (String × α)) : List (String × α) :=
  fields.filter fun f => decide (f.1 ∈ names)

/-- What the place for fields of the given names holds once all fields are read: nothing if none
belongs there, and what the only one says if there is only one. -/
def Holds (names : List String) (read : α → Except DecodeError β) (fields : List (String × α))
    (place : Option β) : Prop :=
  match fieldsOf names fields with
  | [] => place = none
  | [f] => ∃ b, read f.2 = .ok b ∧ place = some b
  | _ => False

variable {names : List String} {read : α → Except DecodeError β} {fields : List (String × α)}
  {place : Option β} {b : β}

theorem fieldsOf_cons (names : List String) (f : String × α) (rest : List (String × α)) :
    fieldsOf names (f :: rest) =
      if f.1 ∈ names then f :: fieldsOf names rest else fieldsOf names rest := by
  simp [fieldsOf, List.filter_cons]

theorem fills_some : Fills names read fields (some b) place ↔
    fieldsOf names fields = [] ∧ place = some b := by
  induction fields with
  | nil => simp [Fills, fieldsOf]
  | cons f rest ih =>
    by_cases hf : f.1 ∈ names
    · simp [Fills, Takes, fieldsOf_cons, hf]
    · simp [Fills, Takes, fieldsOf_cons, hf, ih]

theorem fills_none : Fills names read fields none place ↔ Holds names read fields place := by
  induction fields with
  | nil => simp [Fills, Holds, fieldsOf]
  | cons f rest ih =>
    by_cases hf : f.1 ∈ names
    · have hfills : Fills names read (f :: rest) none place ↔
          ∃ b, read f.2 = .ok b ∧ fieldsOf names rest = [] ∧ place = some b := by
        constructor
        · rintro ⟨between, htakes, hrest⟩
          obtain ⟨-, b, hread, rfl⟩ := (if_pos hf).mp htakes
          exact ⟨b, hread, fills_some.mp hrest⟩
        · rintro ⟨b, hread, hrest⟩
          exact ⟨some b, (if_pos hf).mpr ⟨rfl, b, hread, rfl⟩, fills_some.mpr hrest⟩
      rw [hfills, Holds, fieldsOf_cons, if_pos hf]
      cases fieldsOf names rest with
      | nil => simp
      | cons g more => simp
    · have hfills : Fills names read (f :: rest) none place ↔ Fills names read rest none place := by
        simp [Fills, Takes, hf]
      rw [hfills, ih, Holds, Holds, fieldsOf_cons, if_neg hf]

theorem Holds.of_perm {others : List (String × α)} (hperm : fields.Perm others)
    (h : Holds names read fields place) : Holds names read others place := by
  have hof : (fieldsOf names fields).Perm (fieldsOf names others) := hperm.filter _
  unfold Holds at h ⊢
  match hfields : fieldsOf names fields with
  | [] =>
    rw [hfields] at hof h
    rw [hof.nil_eq.symm]
    exact h
  | [f] =>
    rw [hfields] at hof h
    rw [hof.singleton_eq.symm]
    exact h
  | f :: g :: more =>
    rw [hfields] at h
    exact h.elim

theorem fieldsOf_append {others : List (String × α)} (h : ∀ f ∈ others, f.1 ∉ names) :
    fieldsOf names (fields ++ others) = fieldsOf names fields := by
  simpa [fieldsOf] using h

theorem get?_eq_head? (d : Document) (key : String) :
    d.get? key = (fieldsOf [key] d).head?.map (·.2) := by
  induction d with
  | nil => rfl
  | cons f rest ih =>
    by_cases hf : f.1 = key
    · simp [Document.get?, fieldsOf_cons, hf]
    · simp [Document.get?, fieldsOf_cons, hf, ih]

/-- In a document that writes each key once a place holds what the look-up finds. -/
theorem holds_iff_get? {d : Document} (hkeys : d.keys.Nodup) {key : String}
    {read : Value → Except DecodeError β} : Holds [key] read d place ↔
      match d.get? key with
      | none => place = none
      | some v => ∃ b, read v = .ok b ∧ place = some b := by
  have hone : (fieldsOf [key] d).length ≤ 1 := by
    have hcount : (fieldsOf [key] d).length = d.keys.count key := by
      rw [fieldsOf, ← List.countP_eq_length_filter, Document.keys, List.count, List.countP_map]
      apply List.countP_congr
      intro f _
      simp
    have hle := List.nodup_iff_count.mp hkeys key
    omega
  rw [get?_eq_head?, Holds]
  cases hfields : fieldsOf [key] d with
  | nil => simp
  | cons f rest =>
    rw [hfields, List.length_cons] at hone
    obtain rfl : rest = [] := List.eq_nil_of_length_eq_zero (by omega)
    simp

theorem once_eq_ok_iff {name : String} {before after : Option β} {r : Except DecodeError β} :
    once name before r = .ok after ↔ before = none ∧ ∃ b, r = .ok b ∧ after = some b := by
  cases before with
  | some b => simp [once]
  | none =>
    cases r with
    | error e => simp [once, Except.map]
    | ok b => simp [once, Except.map, eq_comm]

theorem required_eq_ok_iff {name : String} : required name place = .ok b ↔ place = some b := by
  cases place <;> simp [required]

theorem foldFields_nil {σ : Type} (step : σ → String → α → Except DecodeError σ) (s t : σ) :
    foldFields step s [] = .ok t ↔ t = s := by
  simp [foldFields, pure, Except.pure, eq_comm]

theorem foldFields_cons {σ : Type} (step : σ → String → α → Except DecodeError σ) (s t : σ)
    (f : String × α) (rest : List (String × α)) :
    foldFields step s (f :: rest) = .ok t ↔
      ∃ r, step s f.1 f.2 = .ok r ∧ foldFields step r rest = .ok t := by
  simp only [foldFields, List.foldlM_cons]
  exact bind_eq_ok_iff

/-- Reading a field into its place, the others as they are. -/
theorem store_eq_ok_iff {σ : Type} {name : String} {before : Option β}
    {r : Except DecodeError β} {store : Option β → σ} {q : σ} :
    (once name before r >>= fun after => pure (store after)) = .ok q ↔
      before = none ∧ ∃ b, r = .ok b ∧ store (some b) = q := by
  rw [bind_eq_ok_iff]
  constructor
  · rintro ⟨after, honce, hstore⟩
    obtain ⟨rfl, b, hread, rfl⟩ := once_eq_ok_iff.mp honce
    exact ⟨rfl, b, hread, Except.ok.inj hstore⟩
  · rintro ⟨rfl, b, hread, rfl⟩
    exact ⟨some b, once_eq_ok_iff.mpr ⟨rfl, b, hread, rfl⟩, rfl⟩

end Decode

namespace Body

open Decode

/-- One field goes to the place where it belongs. -/
theorem read_iff {p q : Partial} {name : String} {v : Value} : p.read name v = .ok q ↔
    Takes ["id"] Decode.int64 (name, v) p.id q.id ∧
      Takes ["ns"] Namespace.decode (name, v) p.ns q.ns ∧
      Takes ["firstBatch", "nextBatch"] readBatch (name, v) p.batch q.batch := by
  obtain ⟨id, ns, batch⟩ := q
  unfold Partial.read
  split
  -- the last case is a field that no place takes
  case h_5 =>
    cases p
    simp [Takes, pure, Except.pure, *]
    grind
  all_goals
    rw [store_eq_ok_iff]
    simp [Takes]
    grind

/-- Each place holds what stands in the field that belongs there. -/
theorem foldFields_iff {fields : Document} {p q : Partial} :
    foldFields Partial.read p fields = .ok q ↔
      Fills ["id"] Decode.int64 fields p.id q.id ∧ Fills ["ns"] Namespace.decode fields p.ns q.ns ∧
      Fills ["firstBatch", "nextBatch"] readBatch fields p.batch q.batch := by
  induction fields generalizing p with
  | nil =>
    rw [foldFields_nil]
    cases p
    cases q
    simp [Fills]
  | cons f rest ih =>
    rw [foldFields_cons]
    constructor
    · rintro ⟨r, hstep, hrest⟩
      obtain ⟨hid, hns, hbatch⟩ := read_iff.mp hstep
      obtain ⟨hid', hns', hbatch'⟩ := ih.mp hrest
      exact ⟨⟨r.id, hid, hid'⟩, ⟨r.ns, hns, hns'⟩, ⟨r.batch, hbatch, hbatch'⟩⟩
    · rintro ⟨⟨id, hid, hid'⟩, ⟨ns, hns, hns'⟩, ⟨batch, hbatch, hbatch'⟩⟩
      exact ⟨⟨id, ns, batch⟩, read_iff.mpr ⟨hid, hns, hbatch⟩, ih.mpr ⟨hid', hns', hbatch'⟩⟩

/-- A body is read when each of its three places is filled. -/
theorem ofFields_iff {fields : Document} {body : Body} : ofFields fields = .ok body ↔
    Holds ["id"] Decode.int64 fields (some body.id) ∧
      Holds ["ns"] Namespace.decode fields (some body.ns) ∧
      Holds ["firstBatch", "nextBatch"] readBatch fields (some body.batch) := by
  obtain ⟨id, ns, batch⟩ := body
  simp only [ofFields, bind_eq_ok_iff, foldFields_iff, fills_none, required_eq_ok_iff]
  constructor
  · rintro ⟨p, ⟨hid, hns, hbatch⟩, _, hid', _, hns', _, hbatch', hbody⟩
    cases hbody
    exact ⟨hid' ▸ hid, hns' ▸ hns, hbatch' ▸ hbatch⟩
  · rintro ⟨hid, hns, hbatch⟩
    exact ⟨⟨some id, some ns, some batch⟩, ⟨hid, hns, hbatch⟩, id, rfl, ns, rfl, batch, rfl, rfl⟩

end Body

section

open Decode

theorem bodyOf_iff {response : Document} {body : Body} :
    bodyOf response = .ok body ↔ Holds ["cursor"] Body.decode response (some body) := by
  have hread : ∀ (p q : Option Body) (f : String × Value), readCursorField p f.1 f.2 = .ok q ↔
      Takes ["cursor"] Body.decode f p q := by
    intro p q f
    unfold readCursorField Takes
    by_cases hf : f.1 = "cursor"
    · simp [hf, once_eq_ok_iff]
    · simp [hf, eq_comm]
  have hfold : ∀ (fields : Document) (p q : Option Body),
      foldFields readCursorField p fields = .ok q ↔ Fills ["cursor"] Body.decode fields p q := by
    intro fields
    induction fields with
    | nil => intro p q; rw [foldFields_nil, Fills]
    | cons f rest ih => intro p q; simp only [foldFields_cons, Fills, hread, ih]
  simp only [bodyOf, bind_eq_ok_iff, hfold, fills_none, required_eq_ok_iff]
  constructor
  · rintro ⟨q, hq, rfl⟩
    exact hq
  · intro h
    exact ⟨some body, h, rfl⟩

end

namespace CommandError

open Decode

variable {α : Type} [Readable α] {fields : List (String × α)}

/-- One field goes to the place where it belongs. -/
theorem read_iff {p q : Partial} {name : String} {v : α} : p.read name v = .ok q ↔
    Takes ["code"] Decode.int32 (name, v) p.code q.code ∧
      Takes ["codeName"] Decode.text (name, v) p.codeName q.codeName ∧
      Takes ["errmsg"] Decode.text (name, v) p.message q.message ∧
      Takes ["errorLabels"] (Decode.listOf Decode.text) (name, v) p.labels q.labels := by
  obtain ⟨code, codeName, message, labels⟩ := q
  unfold Partial.read
  split
  -- the last case is a field that no place takes
  case h_5 =>
    cases p
    simp [Takes, pure, Except.pure, *]
    grind
  all_goals
    rw [store_eq_ok_iff]
    simp [Takes]
    grind

/-- Each place holds what stands in the field that belongs there. -/
theorem foldFields_iff {p q : Partial} : foldFields Partial.read p fields = .ok q ↔
    Fills ["code"] Decode.int32 fields p.code q.code ∧
      Fills ["codeName"] Decode.text fields p.codeName q.codeName ∧
      Fills ["errmsg"] Decode.text fields p.message q.message ∧
      Fills ["errorLabels"] (Decode.listOf Decode.text) fields p.labels q.labels := by
  induction fields generalizing p with
  | nil =>
    rw [foldFields_nil]
    cases p
    cases q
    simp [Fills]
  | cons f rest ih =>
    rw [foldFields_cons]
    constructor
    · rintro ⟨r, hstep, hrest⟩
      obtain ⟨hcode, hname, hmessage, hlabels⟩ := read_iff.mp hstep
      obtain ⟨hcode', hname', hmessage', hlabels'⟩ := ih.mp hrest
      exact ⟨⟨_, hcode, hcode'⟩, ⟨_, hname, hname'⟩, ⟨_, hmessage, hmessage'⟩,
        ⟨_, hlabels, hlabels'⟩⟩
    · rintro ⟨⟨code, hcode, hcode'⟩, ⟨codeName, hname, hname'⟩, ⟨message, hmessage, hmessage'⟩,
        ⟨labels, hlabels, hlabels'⟩⟩
      exact ⟨⟨code, codeName, message, labels⟩, read_iff.mpr ⟨hcode, hname, hmessage, hlabels⟩,
        ih.mpr ⟨hcode', hname', hmessage', hlabels'⟩⟩

/-- A failure is read when its number is there and nothing else in it is malformed; what is missing
is empty. -/
theorem ofFields_iff {e : CommandError} : ofFields fields = .ok e ↔
    Holds ["code"] Decode.int32 fields (some e.code) ∧
      (∃ codeName, Holds ["codeName"] Decode.text fields codeName ∧ e.codeName = codeName.getD "") ∧
      (∃ message, Holds ["errmsg"] Decode.text fields message ∧ e.message = message.getD "") ∧
      ∃ labels, Holds ["errorLabels"] (Decode.listOf Decode.text) fields labels ∧
        e.labels = labels.getD [] := by
  obtain ⟨code, codeName, message, labels⟩ := e
  simp only [ofFields, bind_eq_ok_iff, foldFields_iff, fills_none, required_eq_ok_iff]
  constructor
  · rintro ⟨p, ⟨hcode, hname, hmessage, hlabels⟩, _, hcode', he⟩
    cases he
    exact ⟨hcode' ▸ hcode, ⟨_, hname, rfl⟩, ⟨_, hmessage, rfl⟩, ⟨_, hlabels, rfl⟩⟩
  · rintro ⟨hcode, ⟨codeName', hname, rfl⟩, ⟨message', hmessage, rfl⟩, ⟨labels', hlabels, rfl⟩⟩
    exact ⟨⟨some code, codeName', message', labels'⟩, ⟨hcode, hname, hmessage, hlabels⟩, code, rfl,
      rfl⟩

end CommandError

end ServerCursor
