import ServerCursor.Proofs.Readers
import ServerCursor.Script

/-!
# Which replies are accepted

A reply is accepted if its field `ok` says so and its field `cursor` can be read. What it says then
does not depend on how its fields are laid out. A reply which says that the command failed is a
failed command if the failure can be read; every other rejected reply is invalid.

Main statements: `Reply.ofResponse_of_layout` says what a reply is read as whatever its layout, and
`Reply.ofResponse_classes` which replies are accepted and what becomes of the others.
-/

namespace ServerCursor

open Decode

/-! ## Layouts -/

/-- The fields are written in any order, and fields of other names between them. -/
def Document.LaysOut (d : Document) (names : List String) (fields : List (String × Value)) : Prop :=
  ∃ others, d.Perm (fields ++ others) ∧ ∀ f ∈ others, f.1 ∉ names

/-- A layout hides no field from the place where it belongs. -/
theorem Document.LaysOut.holds_iff {d : Document} {known names : List String}
    {fields : List (String × Value)} {β : Type} {read : Value → Except DecodeError β}
    {place : Option β} (hd : d.LaysOut known fields) (hnames : ∀ name ∈ names, name ∈ known) :
    Holds names read d place ↔ Holds names read fields place := by
  obtain ⟨others, hperm, hothers⟩ := hd
  have hsame : fieldsOf names (fields ++ others) = fieldsOf names fields :=
    fieldsOf_append fun f hf hname => hothers f hf (hnames _ hname)
  have hwhole : Holds names read (fields ++ others) place ↔ Holds names read fields place := by
    rw [Holds, Holds, hsame]
  rw [← hwhole]
  exact ⟨fun h => h.of_perm hperm, fun h => h.of_perm hperm.symm⟩

theorem Document.LaysOut.get?_eq {d : Document} {known : List String}
    {fields : List (String × Value)} {key : String} {v : Value} (hd : d.LaysOut known fields)
    (hkey : key ∈ known) (h : fieldsOf [key] fields = [(key, v)]) : d.get? key = some v := by
  obtain ⟨others, hperm, hothers⟩ := hd
  have hsame : fieldsOf [key] (fields ++ others) = [(key, v)] := by
    rw [fieldsOf_append, h]
    intro f hf hname
    exact hothers f hf (List.mem_singleton.mp hname ▸ hkey)
  have hof : (fieldsOf [key] d).Perm (fieldsOf [key] (fields ++ others)) := hperm.filter _
  rw [hsame] at hof
  rw [get?_eq_head?, hof.eq_singleton]
  rfl

/-! ## Acceptance -/

namespace Document

/-- The field `ok` says that the command succeeded. -/
def SaysSuccess (d : Document) : Prop :=
  ∃ v, d.get? "ok" = some v ∧ v.Succeeds

/-- The field `ok` says that the command failed. -/
def SaysFailure (d : Document) : Prop :=
  ∃ v, d.get? "ok" = some v ∧ v.TellsOutcome ∧ ¬ v.Succeeds

/-- What a field means, if it is there. -/
def Tells {β : Type} (d : Document) (key : String) (means : Value → β → Prop) (missing b : β) :
    Prop :=
  match d.get? key with
  | none => b = missing
  | some v => means v b

end Document

/-- A list of texts. -/
def Value.AreTexts (v : Value) (texts : List String) : Prop :=
  ∃ items, v = .array items ∧ List.Forall₂ Value.IsText items texts

/-- A failure is what a document says of it. Only the number must be there. -/
structure CommandError.Describes (e : CommandError) (d : Document) : Prop where
  code : ∃ v, d.get? "code" = some v ∧ v.IsInteger e.code.toInt
  codeName : d.Tells "codeName" Value.IsText "" e.codeName
  message : d.Tells "errmsg" Value.IsText "" e.message
  labels : d.Tells "errorLabels" Value.AreTexts [] e.labels

/-- What was read of a field that may be missing is what the field means. -/
theorem Document.tells_iff {β : Type} {d : Document} (hkeys : d.keys.Nodup) {key : String}
    {read : Value → Except DecodeError β} {means : Value → β → Prop} {missing b : β}
    (hread : ∀ v b, read v = .ok b ↔ means v b) :
    (∃ place, Holds [key] read d place ∧ b = place.getD missing) ↔
      d.Tells key means missing b := by
  simp only [holds_iff_get? hkeys, Tells]
  cases d.get? key with
  | none => simp
  | some v =>
    simp only [hread]
    constructor
    · rintro ⟨_, ⟨c, hc, rfl⟩, rfl⟩
      exact hc
    · intro h
      exact ⟨some b, ⟨b, h, rfl⟩, rfl⟩

theorem CommandError.ofFields_eq_ok_iff {d : Document} (hkeys : d.keys.Nodup) {e : CommandError} :
    CommandError.ofFields d = .ok e ↔ e.Describes d := by
  have hcode : Holds ["code"] Decode.int32 d (some e.code) ↔
      ∃ v, d.get? "code" = some v ∧ v.IsInteger e.code.toInt := by
    rw [holds_iff_get? hkeys]
    cases d.get? "code" with
    | none => simp
    | some v => simp [int32_eq_ok_iff]
  have htext : ∀ (v : Value) s, Decode.text v = .ok s ↔ v.IsText s := fun _ _ => text_eq_ok_iff
  have htexts : ∀ (v : Value) labels,
      Decode.listOf Decode.text v = .ok labels ↔ v.AreTexts labels :=
    fun _ _ => listOf_text_eq_ok_iff
  rw [CommandError.ofFields_iff, hcode, Document.tells_iff hkeys htext,
    Document.tells_iff hkeys htext, Document.tells_iff hkeys htexts]
  constructor
  · rintro ⟨hcode, hname, hmessage, hlabels⟩
    exact ⟨hcode, hname, hmessage, hlabels⟩
  · rintro ⟨hcode, hname, hmessage, hlabels⟩
    exact ⟨hcode, hname, hmessage, hlabels⟩

theorem Value.IsText.unique {v : Value} {s t : String} (hs : v.IsText s) (ht : v.IsText t) :
    s = t := by
  rw [← text_eq_ok_iff] at hs ht
  exact Except.ok.inj (hs.symm.trans ht)

theorem mem_texts_iff {items : List Value} {texts : List String}
    (h : List.Forall₂ Value.IsText items texts) {t : String} :
    t ∈ texts ↔ ∃ v ∈ items, v.IsText t := by
  induction h with
  | nil => simp
  | @cons v s items texts hv _ ih =>
    have hhead : t = s ↔ v.IsText t := by
      constructor
      · rintro rfl
        exact hv
      · intro ht
        exact ht.unique hv
    simp [ih, hhead]

/-- The labels of a failure are the texts in the field `errorLabels`. -/
theorem CommandError.Describes.mem_labels {e : CommandError} {d : Document} (h : e.Describes d)
    {label : String} : label ∈ (Error.command e).labels ↔
      ∃ items : List Value, d.get? "errorLabels" = some (.array items) ∧
        ∃ v ∈ items, v.IsText label := by
  rw [Error.mem_labels_command]
  have hlabels := h.labels
  unfold Document.Tells at hlabels
  split at hlabels
  · rename_i hmissing
    simp [hlabels, hmissing]
  · rename_i v hv
    obtain ⟨items, rfl, htexts⟩ := hlabels
    rw [mem_texts_iff htexts, hv]
    simp

theorem Document.saysSuccess_iff {d : Document} :
    d.SaysSuccess ↔ (d.get? "ok").bind truthy? = some true := by
  simp only [SaysSuccess, ← Value.truthy?_eq_some_true_iff, Option.bind_eq_some_iff]

theorem Document.saysFailure_iff {d : Document} :
    d.SaysFailure ↔ (d.get? "ok").bind truthy? = some false := by
  simp only [SaysFailure, ← Value.truthy?_eq_some_false_iff, Option.bind_eq_some_iff]

theorem checkOk_eq_ok_iff {d : Document} : checkOk d = .ok () ↔ d.SaysSuccess := by
  rw [Document.saysSuccess_iff]
  unfold checkOk
  match (d.get? "ok").bind truthy? with
  | none => simp
  | some true => simp
  | some false => cases CommandError.ofFields d <;> simp

theorem checkOk_eq_command_iff {d : Document} {e : CommandError} :
    checkOk d = .error (.command e) ↔ d.SaysFailure ∧ CommandError.ofFields d = .ok e := by
  rw [Document.saysFailure_iff]
  unfold checkOk
  match (d.get? "ok").bind truthy? with
  | none => simp
  | some true => simp
  | some false => cases CommandError.ofFields d <;> simp

theorem checkOk_error {d : Document} {cause : Error} (h : checkOk d = .error cause) :
    (∃ e, cause = .command e) ∨ ∃ why, cause = .invalidReply why := by
  unfold checkOk at h
  split at h
  · exact .inr ⟨_, (Except.error.inj h).symm⟩
  · cases h
  · split at h
    · exact .inl ⟨_, (Except.error.inj h).symm⟩
    · exact .inr ⟨_, (Except.error.inj h).symm⟩

namespace Reply

/-- A reply is what stands in the body of a document that the check accepts. -/
theorem ofResponse_eq_ok_iff {d : Document} {address : Address} {r : Reply} :
    ofResponse d address = .ok r ↔
      checkOk d = .ok () ∧ ∃ body, bodyOf d = .ok body ∧
        r = ⟨body.ns, body.batch, body.id, address⟩ := by
  rw [ofResponse, bind_eq_ok_iff]
  constructor
  · rintro ⟨_, hok, hbody⟩
    match hread : bodyOf d with
    | .ok body =>
      rw [hread] at hbody
      exact ⟨hok, body, rfl, (Except.ok.inj hbody).symm⟩
    | .error cause =>
      rw [hread] at hbody
      cases hbody
  · rintro ⟨hok, body, hbody, rfl⟩
    refine ⟨(), hok, ?_⟩
    rw [hbody]
    rfl

/-- A reply is rejected by the check, or for its body. -/
theorem ofResponse_error {d : Document} {address : Address} {cause : Error}
    (h : ofResponse d address = .error cause) :
    checkOk d = .error cause ∨
      checkOk d = .ok () ∧ ∃ why, cause = .invalidReply (.unreadableBatch why) := by
  unfold ofResponse at h
  match hok : checkOk d with
  | .error _ =>
    rw [hok] at h
    have hcause := Except.error.inj h
    exact .inl (congrArg Except.error hcause)
  | .ok _ =>
    rw [hok] at h
    refine .inr ⟨rfl, ?_⟩
    match hread : bodyOf d with
    | .ok body =>
      rw [hread] at h
      cases h
    | .error why =>
      rw [hread] at h
      exact ⟨why, (Except.error.inj h).symm⟩

theorem ofResponse_of_rejected {d : Document} {cause : Error} (h : checkOk d = .error cause)
    (address : Address) : ofResponse d address = .error cause := by
  unfold ofResponse
  rw [h]
  rfl

end Reply

/-- A reply is a failed command exactly if it says so and describes the failure; whatever else is
rejected is an invalid reply, and what does not say that the command succeeded is not accepted. -/
theorem Reply.ofResponse_classes {d : Document} (hkeys : d.keys.Nodup) (address : Address) :
    (∀ e, Reply.ofResponse d address = .error (.command e) ↔ d.SaysFailure ∧ e.Describes d) ∧
      (∀ e : CommandError, e.Describes d →
        (∀ label, label ∈ (Error.command e).labels ↔
          ∃ items : List Value, d.get? "errorLabels" = some (.array items) ∧
            ∃ v ∈ items, v.IsText label) ∧
        ((Error.command e).isCursorNotFound = true ↔ e.code = 43 ∨ e.code = 237)) ∧
      (∀ cause, Reply.ofResponse d address = .error cause →
        (∃ e, cause = .command e) ∨ ∃ why, cause = .invalidReply why) ∧
      (∀ reply, Reply.ofResponse d address = .ok reply → d.SaysSuccess) ∧
      (checkOk d = .ok () ↔ d.SaysSuccess) ∧
      ∀ (s : Script) (rest : List Scripted), s.kills = .response d :: rest →
        ((s.kill .command).1 = .ok () ↔ d.SaysSuccess) := by
  refine ⟨?_, ?_, ?_, ?_, checkOk_eq_ok_iff, ?_⟩
  · intro e
    rw [← CommandError.ofFields_eq_ok_iff hkeys, ← checkOk_eq_command_iff]
    constructor
    · intro h
      obtain hcheck | ⟨-, why, hwhy⟩ := Reply.ofResponse_error h
      · exact hcheck
      · cases hwhy
    · intro h
      exact Reply.ofResponse_of_rejected h address
  · intro e he
    refine ⟨fun label => he.mem_labels, ?_⟩
    simp [Error.isCursorNotFound, Error.cursorNotFoundCodes]
  · intro cause h
    obtain hcheck | ⟨-, why, hwhy⟩ := Reply.ofResponse_error h
    · exact checkOk_error hcheck
    · exact .inr ⟨_, hwhy⟩
  · intro reply h
    exact checkOk_eq_ok_iff.mp (Reply.ofResponse_eq_ok_iff.mp h).1
  · intro s rest hkills
    rw [← checkOk_eq_ok_iff]
    simp only [Script.kill, hkills]

/-- A failed command that names its number and one label. -/
theorem Reply.ofResponse_classes_notFound :
    Reply.ofResponse [("errorLabels", .array [.string "Busy"]), ("code", .int64 43),
        ("ok", .double 0)] Address.localhost =
      .error (.command ⟨43, "", "", ["Busy"]⟩) := by
  apply ((Reply.ofResponse_classes (by decide) Address.localhost).1 _).mpr
  refine ⟨⟨.double 0, rfl, .double 0, ?_⟩, ⟨_, rfl, .int64 43⟩, rfl, rfl, _, rfl, ?_⟩
  · rintro (⟨_, hone⟩ | _)
    exact hone
  · exact .cons (.string "Busy") .nil

/-! ## Reading back -/

theorem bodyOf_of_layout {outer inner : Document} {ok : Value} {body : Body}
    (houter : outer.LaysOut ["ok", "cursor"] [("ok", ok), ("cursor", .document inner)]) :
    bodyOf outer = .ok body ↔ Body.ofFields inner = .ok body := by
  have hcursor : Holds ["cursor"] Body.decode [("ok", ok), ("cursor", .document inner)]
      (some body) ↔ Body.ofFields inner = .ok body := by
    simp [Holds, fieldsOf, Body.decode, Decode.record, Readable.shape, Value.shape]
  rw [bodyOf_iff, houter.holds_iff (by simp), hcursor]

/-- With one batch and no other fields of these names a body is read as what was written. -/
theorem Body.ofFields_of_layout {db coll name : String} {number : Value} {id : Int64}
    {docs : List Document} {inner : Document} (hdb : db ≠ "") (hdot : '.' ∉ db.toList)
    (hcoll : coll ≠ "") (hnumber : number.IsInteger id.toInt)
    (hname : name ∈ ["firstBatch", "nextBatch"])
    (hinner : inner.LaysOut ["id", "ns", "firstBatch", "nextBatch"]
      [("id", number), ("ns", .string (db ++ "." ++ coll)),
        (name, .array (docs.map .document))]) :
    Body.ofFields inner = .ok ⟨id, ⟨db, coll⟩, docs.map Document.asRead⟩ := by
  have hid := int64_eq_ok_iff.mpr hnumber
  have hns := Namespace.decode_display hdb hdot hcoll
  have hbatch := readBatch_array docs
  have hsplit : name = "firstBatch" ∨ name = "nextBatch" := by simpa using hname
  rw [Body.ofFields_iff, hinner.holds_iff (by simp), hinner.holds_iff (by simp),
    hinner.holds_iff (by simp)]
  refine ⟨?_, ?_, ?_⟩
  all_goals obtain rfl | rfl := hsplit
  all_goals simp [Holds, fieldsOf, hid, hns, hbatch]

theorem Body.ofFields_of_batches {inner : Document}
    (hnames : "firstBatch" ∈ inner.keys ↔ "nextBatch" ∈ inner.keys) (body : Body) :
    Body.ofFields inner ≠ .ok body := by
  intro h
  obtain ⟨-, -, hbatch⟩ := Body.ofFields_iff.mp h
  unfold Holds at hbatch
  split at hbatch
  · cases hbatch
  · rename_i f hfields
    have honly : ∀ g ∈ inner, g.1 ∈ ["firstBatch", "nextBatch"] → g = f := by
      intro g hg hname
      have hmem : g ∈ fieldsOf ["firstBatch", "nextBatch"] inner := by
        simpa [fieldsOf, hg] using hname
      simpa [hfields] using hmem
    have hf : f ∈ fieldsOf ["firstBatch", "nextBatch"] inner := by simp [hfields]
    obtain ⟨hf, hname⟩ : f ∈ inner ∧ (f.1 = "firstBatch" ∨ f.1 = "nextBatch") := by
      simpa [fieldsOf] using hf
    have hkey : f.1 ∈ inner.keys := List.mem_map_of_mem hf
    have hboth : "firstBatch" ∈ inner.keys ∧ "nextBatch" ∈ inner.keys := by
      obtain hfirst | hnext := hname
      · rw [hfirst] at hkey
        exact ⟨hkey, hnames.mp hkey⟩
      · rw [hnext] at hkey
        exact ⟨hnames.mpr hkey, hkey⟩
    obtain ⟨g, hg, hfirst⟩ := List.mem_map.mp hboth.1
    obtain ⟨k, hk, hnext⟩ := List.mem_map.mp hboth.2
    obtain rfl := honly g hg (by simp [hfirst])
    obtain rfl := honly k hk (by simp [hnext])
    rw [hfirst] at hnext
    exact absurd hnext (by decide)
  · exact hbatch

/-- A reply is read as the batch that was written into it, whatever else stands in it and in
whatever order: its number may have either width and its batch either name. With a batch under both
names or under neither it is invalid. -/
theorem Reply.ofResponse_of_layout {db coll : String} (hdb : db ≠ "") (hdot : '.' ∉ db.toList)
    (hcoll : coll ≠ "") {ok number : Value} (hok : ok.Succeeds) {id : Int64}
    (hnumber : number.IsInteger id.toInt) (docs : List Document) {inner outer : Document}
    (houter : outer.LaysOut ["ok", "cursor"] [("ok", ok), ("cursor", .document inner)])
    (address : Address) :
    (∀ name ∈ ["firstBatch", "nextBatch"],
      inner.LaysOut ["id", "ns", "firstBatch", "nextBatch"]
        [("id", number), ("ns", .string (db ++ "." ++ coll)),
          (name, .array (docs.map .document))] →
      Reply.ofResponse outer address = .ok ⟨⟨db, coll⟩, docs.map Document.asRead, id, address⟩ ∧
        ((∀ d ∈ docs, d.asRead = d) →
          Reply.ofResponse outer address = .ok ⟨⟨db, coll⟩, docs, id, address⟩)) ∧
      (("firstBatch" ∈ inner.keys ↔ "nextBatch" ∈ inner.keys) →
        ∃ why, Reply.ofResponse outer address = .error (.invalidReply why)) := by
  have hcheck : checkOk outer = .ok () := by
    apply checkOk_eq_ok_iff.mpr
    exact ⟨ok, houter.get?_eq (by simp) (by simp [fieldsOf]), hok⟩
  constructor
  · intro name hname hinner
    have hbody := Body.ofFields_of_layout hdb hdot hcoll hnumber hname hinner
    have hreply : Reply.ofResponse outer address =
        .ok ⟨⟨db, coll⟩, docs.map Document.asRead, id, address⟩ :=
      Reply.ofResponse_eq_ok_iff.mpr ⟨hcheck, _, (bodyOf_of_layout houter).mpr hbody, rfl⟩
    refine ⟨hreply, ?_⟩
    intro hdocs
    rw [hreply, List.map_congr_left hdocs, List.map_id']
  · intro hnames
    cases hreply : Reply.ofResponse outer address with
    | ok r =>
      obtain ⟨-, body, hbody, -⟩ := Reply.ofResponse_eq_ok_iff.mp hreply
      exact absurd ((bodyOf_of_layout houter).mp hbody) (Body.ofFields_of_batches hnames body)
    | error cause =>
      obtain hrejected | ⟨-, why, rfl⟩ := Reply.ofResponse_error hreply
      · rw [hcheck] at hrejected
        cases hrejected
      · exact ⟨_, rfl⟩

/-- A reply with its fields the other way round and two unknown ones. -/
theorem Reply.ofResponse_of_layout_reversed :
    Reply.ofResponse
        [("operationTime", .null),
          ("cursor", .document [("partial", .bool true),
            ("nextBatch", .array [.document [("n", .int32 1)]]), ("ns", .string "db.a.b"),
            ("id", .int32 7)]),
          ("ok", .double 0x3ff0000000000000)] Address.localhost =
      .ok ⟨⟨"db", "a.b"⟩, [[("n", .int32 1)]], 7, Address.localhost⟩ := by
  have hnumber : (Value.int32 7).IsInteger (Int64.toInt 7) := .int32 7
  have houter : Document.LaysOut
      [("operationTime", .null), ("cursor", _), ("ok", .double 0x3ff0000000000000)]
      ["ok", "cursor"] [("ok", .double 0x3ff0000000000000), ("cursor", .document
        [("partial", .bool true), ("nextBatch", .array [.document [("n", .int32 1)]]),
          ("ns", .string "db.a.b"), ("id", .int32 7)])] :=
    ⟨[("operationTime", .null)], List.reverse_perm (_ :: _ :: [_]), by simp⟩
  refine ((Reply.ofResponse_of_layout (by decide) (by decide) (by decide)
    (.double 0x3ff0000000000000 rfl) hnumber [[("n", .int32 1)]] houter Address.localhost).1
    "nextBatch" (by simp) ?_).2 ?_
  · exact ⟨[("partial", .bool true)], List.reverse_perm (_ :: _ :: _ :: [_]), by simp⟩
  · simp [Document.asRead, Value.mapFields, Value.mapLeaves, Value.readLeaf]

end ServerCursor
