import ServerCursor.Proofs.Alike

/-!
# Two protocols, one cursor

The version of the wire format decides once, when a cursor is opened, whether it speaks the older
protocol or sends commands; the versions of connections that it is handed later have no say. Two
cursors that differ in the protocol only and whose requests hear the same batches and errors do the
same in every history, and what the one sends corresponds to what the other sends
(`Wire.Corresponds`). A command that asks for a batch hears the batch that is read from the
response, the older protocol hears the batch itself; the two may hear different things about the
server's cursor being discarded (`Action.Corresponds`).

Main statement: `protocols_correspond`.
-/

namespace ServerCursor

/-- The version of the wire format by which a cursor goes: that of the connection it was handed, if
it is known, and else that of its server. -/
def effectiveVersion (server : ServerDescription)
    (connection : Option (Nat × ConnectionDescription)) : Option Int32 :=
  (connection.bind fun h => h.2.wireVersion).or server.wireVersion

/-- The kind of server by which a cursor goes. -/
def effectiveKind (server : ServerDescription)
    (connection : Option (Nat × ConnectionDescription)) : ServerKind :=
  (connection.map fun h => h.2.kind).getD server.kind

/-- What the older protocol puts on the wire, and what takes its place among commands. -/
inductive Wire.Corresponds (ns : Namespace) (options : Options) : Wire → Wire → Prop
  | silent (w : Wire) : w.message? = none → Corresponds ns options w w
  | getMore (n : Nat) (id : Int64) (number : Int32) :
      Corresponds ns options (.sent n (.getMore ns id number))
        (.sent n (.command ns.db
          ([("getMore", .int64 id), ("collection", .string ns.coll)] ++
            (if number = 0 then []
              else [("batchSize",
                .int32 (Int32.ofInt (min (number.toInt.natAbs : Int) (Int.pow 2 31 - 1))))]) ++
            (options.maxAwait.map fun d => ("maxTimeMS", Value.int32 d.millis32)).toList ++
            (options.comment.map fun v => ("comment", v)).toList)))
  | kill (n : Nat) (id : Int64) :
      Corresponds ns options (.sent n (.killCursors ns [id]))
        (.sent n (.command ns.db
          [("killCursors", .string ns.coll), ("cursors", .array [.int64 id])]))

/-- Whether a message is a command. -/
def Message.isCommand : Message → Bool
  | .command .. => true
  | _ => false

/-- What happens to a cursor of the older protocol, and what happens to one that sends commands in
its place. -/
inductive Action.Corresponds : Action → Action → Prop
  | same (a : Action) : Corresponds a a
  /-- The response to a command is read as the batch or the error that the older protocol brings. -/
  | reply (slot : Slot) (r : Except Error Reply) (response : Except Error Document)
      (address : Address) (read : response.bind (Reply.ofResponse · address) = r) :
      Corresponds (.answer slot (.reply r))
        (.answer slot (.reply (response.bind (Reply.ofResponse · address))))
  /-- The response to a command that discards a cursor may be a failure; nobody responds to the
  message of the older protocol. -/
  | kill (slot : Slot) (r : Except Error Unit) (response : Except Error Document) :
      Corresponds (.answer slot (.kill r)) (.answer slot (.kill (response.bind checkOk)))
  | killTask (i : Nat) (r : Except Error Unit) (response : Except Error Document) :
      Corresponds (.answerTask i (.kill r)) (.answerTask i (.kill (response.bind checkOk)))

theorem Action.Corresponds.alike {a a' : Action} (h : a.Corresponds a') : a.Alike a' := by
  cases h with
  | same => exact .refl a
  | reply slot r response address read =>
    rw [read]
    exact .refl _
  | kill slot r response => exact .kill slot r _
  | killTask i r response => exact .killTask i r _

variable {ns : Namespace} {options : Options}

theorem Wire.Corresponds.isCommand {w w' : Wire} (h : w.Corresponds ns options w') :
    (∀ n m, w = .sent n m → m.isCommand = false) ∧ ∀ n m, w' = .sent n m → m.isCommand = true := by
  cases h with
  | silent _ hsilent =>
    constructor
    · rintro n m rfl
      cases hsilent
    · rintro n m rfl
      cases hsilent
  | getMore n id number =>
    constructor
    · rintro _ _ ⟨⟩
      rfl
    · rintro _ _ ⟨⟩
      rfl
  | kill n id =>
    constructor
    · rintro _ _ ⟨⟩
      rfl
    · rintro _ _ ⟨⟩
      rfl

/-- Neither side sends anything of the other's protocol. -/
theorem isCommand_of_corresponds {sent sent' : List Wire}
    (h : List.Forall₂ (Wire.Corresponds ns options) sent sent') :
    (∀ n m, .sent n m ∈ sent → m.isCommand = false) ∧
      ∀ n m, .sent n m ∈ sent' → m.isCommand = true := by
  induction h with
  | nil =>
    exact ⟨fun _ _ hm => absurd hm List.not_mem_nil, fun _ _ hm => absurd hm List.not_mem_nil⟩
  | cons hfirst _ ih =>
    constructor
    · intro n m hm
      rcases List.mem_cons.mp hm with heq | hrest
      · exact hfirst.isCommand.1 n m heq.symm
      · exact ih.1 n m hrest
    · intro n m hm
      rcases List.mem_cons.mp hm with heq | hrest
      · exact hfirst.isCommand.2 n m heq.symm
      · exact ih.2 n m hrest

/-- Two configurations that differ in the protocol only correspond. -/
theorem matches_of_protocols {address : Address} {limit : Nat} {batchSize : Int32} :
    Config.Matches (Wire.Corresponds ns options)
      ⟨⟨ns, options.maxAwait, options.comment, .legacy⟩, address, limit, batchSize⟩
      ⟨⟨ns, options.maxAwait, options.comment, .command⟩, address, limit, batchSize⟩ :=
  ⟨rfl, rfl, rfl, .silent, .getMore, .kill⟩

/-- Two new cursors that differ in what is known of server and connection are alike if their
configurations match and they keep the same of what was handed over. -/
theorem alike_create {R : Wire → Wire → Prop} (reply : Reply) {server server' : ServerDescription}
    {connection connection' : Option (Nat × ConnectionDescription)} (l : Ledger)
    (hhandle : connection'.map (·.1) = connection.map (·.1))
    (hkind : effectiveKind server' connection' = .loadBalancer ↔
      effectiveKind server connection = .loadBalancer)
    (hconfig : Config.Matches R
      ⟨⟨reply.ns, options.maxAwait, options.comment,
        .ofWireVersion (effectiveVersion server connection)⟩, reply.address,
        options.effectiveLimit, options.batchSize⟩
      ⟨⟨reply.ns, options.maxAwait, options.comment,
        .ofWireVersion (effectiveVersion server' connection')⟩, reply.address,
        options.effectiveLimit, options.batchSize⟩) :
    (Cursor.create reply options server connection l).Alike R l.wire
      (Cursor.create reply options server' connection' l) := by
  have hfirst : ∀ (s : State) (e e' : Event), Cursor.Alike R l.wire
      ⟨⟨⟨reply.ns, options.maxAwait, options.comment,
        .ofWireVersion (effectiveVersion server connection)⟩, reply.address,
        options.effectiveLimit, options.batchSize⟩, s, l.emit e⟩
      ⟨⟨⟨reply.ns, options.maxAwait, options.comment,
        .ofWireVersion (effectiveVersion server' connection')⟩, reply.address,
        options.effectiveLimit, options.batchSize⟩, s, l.emit e'⟩ :=
    fun s e e' => ⟨hconfig, rfl, (Ledger.Alike.refl l).emit e e'⟩
  have hbare : ∀ {c c' : Cursor}, c.Alike R l.wire c' → Cursor.Alike R l.wire
      (if reply.id = 0 then (c.withState c.state.bare).giveBack c.state.abandoned.held else c)
      (if reply.id = 0 then (c'.withState c'.state.bare).giveBack c'.state.abandoned.held
        else c') := by
    intro c c' h
    rw [h.state]
    split
    · exact (h.withState _).giveBack _
    · exact h
  unfold Cursor.create
  refine hbare ?_
  cases connection with
  | none =>
    cases connection' with
    | none => exact hfirst _ _ _
    | some h' => cases hhandle
  | some h =>
    cases connection' with
    | none => cases hhandle
    | some h' =>
      obtain ⟨n, d⟩ := h
      obtain ⟨n', d'⟩ := h'
      obtain rfl : n' = n := Option.some.inj hhandle
      by_cases hbound : d.kind = .loadBalancer ∧ reply.id ≠ 0
      · have hbound' : d'.kind = .loadBalancer ∧ reply.id ≠ 0 := ⟨hkind.mpr hbound.1, hbound.2⟩
        simp only [Option.map_some, Option.getD_some, if_pos hbound, if_pos hbound']
        exact (hfirst _ _ _).giveBack _
      · have hbound' : ¬(d'.kind = .loadBalancer ∧ reply.id ≠ 0) :=
          fun h => hbound ⟨hkind.mp h.1, h.2⟩
        simp only [Option.map_some, Option.getD_some, if_neg hbound, if_neg hbound']
        exact (hfirst _ _ _).giveBack _

/-- Two cursors, one of the older protocol and one that sends commands, are the same in every
history, and what they have sent corresponds one for one. -/
theorem protocols_correspond (reply : Reply) (options : Options)
    (server server' : ServerDescription)
    (connection connection' : Option (Nat × ConnectionDescription)) (l : Ledger) (runtime : Bool)
    (history history' : List Action)
    (hlegacy : ∃ version, effectiveVersion server connection = some version ∧ version < 4)
    (hcommand : ∀ version, effectiveVersion server' connection' = some version → 4 ≤ version)
    (hhandle : connection'.map (·.1) = connection.map (·.1))
    (hkind : effectiveKind server' connection' = .loadBalancer ↔
      effectiveKind server connection = .loadBalancer)
    (hhistory : List.Forall₂ Action.Corresponds history history') :
    let start := Schedule.opened reply options server connection l runtime
    let start' := Schedule.opened reply options server' connection' l runtime
    let s := start.run history
    let s' := start'.run history'
    s'.cursor.state = s.cursor.state ∧
    start'.outcomes history' = start.outcomes history ∧
    s'.handles = s.handles ∧ s'.calls = s.calls ∧ s'.tasks = s.tasks ∧
    s'.cursor.ledger.owners = s.cursor.ledger.owners ∧
    ∃ sent sent', s.cursor.ledger.wire = l.wire ++ sent ∧
      s'.cursor.ledger.wire = l.wire ++ sent' ∧
      List.Forall₂ (Wire.Corresponds reply.ns options) sent sent' ∧
      (∀ n m, .sent n m ∈ sent → m.isCommand = false) ∧
      ∀ n m, .sent n m ∈ sent' → m.isCommand = true := by
  intro start start' s s'
  have hprotocol : Protocol.ofWireVersion (effectiveVersion server connection) = .legacy := by
    obtain ⟨version, hversion, hlt⟩ := hlegacy
    rw [hversion]
    exact if_pos hlt
  have hprotocol' : Protocol.ofWireVersion (effectiveVersion server' connection') = .command := by
    cases hversion : effectiveVersion server' connection' with
    | none => rfl
    | some version => exact if_neg (Int32.not_lt.mpr (hcommand version hversion))
  have hcreated : (Cursor.create reply options server connection l).Alike
      (Wire.Corresponds reply.ns options) l.wire
      (Cursor.create reply options server' connection' l) := by
    refine alike_create reply l hhandle hkind ?_
    rw [hprotocol, hprotocol']
    exact matches_of_protocols
  have hactions : List.Forall₂ Action.Alike history history' :=
    hhistory.imp fun _ _ h => h.alike
  obtain ⟨hrun, houtcomes⟩ :=
    (Schedule.alike_with (Schedule.ofCursor _ runtime) hcreated).run hactions
  obtain ⟨sent, sent', hsent, hsent', hall⟩ := hrun.cursor.ledger.wire
  refine ⟨hrun.cursor.state, houtcomes, hrun.handles, hrun.calls, hrun.tasks,
    hrun.cursor.ledger.owners, sent, sent', hsent, hsent', hall, isCommand_of_corresponds hall⟩

/-- A cursor of one document, from a server with this version of the wire format. -/
def Schedule.lone (version : Option Int32) : Schedule :=
  opened ⟨⟨"db", "items"⟩, [], 7, .localhost⟩ ⟨1, -5, none, none⟩ ⟨.localhost, .standalone, version⟩
    none Ledger.start true

/-- Its document arrives, and the server is told to discard its cursor. -/
def Schedule.loneHistory (reply : Except Error Reply) (killed : Except Error Unit) : List Action :=
  [.begin .stream .next, .answer .stream (.checkout (.ok ())), .answer .stream (.reply reply),
    .answer .stream (.checkout (.ok ())), .answer .stream (.kill killed)]

/-- The reply that brings the document. -/
def Schedule.loneReply : Reply := ⟨⟨"db", "items"⟩, [[("n", .int32 1)]], 7, .localhost⟩

/-- The command that discards the cursor fails, and its call ends with the document all the same. -/
theorem protocols_correspond_lone :
    let response : Except Error Document :=
      .ok (Reply.responseWith "db.items" 7 [[("n", .int32 1)]])
    let failure : Except Error Document := .ok [("ok", .int32 0)]
    let history := Schedule.loneHistory (.ok Schedule.loneReply) (.ok ())
    let history' := Schedule.loneHistory (response.bind (Reply.ofResponse · .localhost))
      (failure.bind checkOk)
    let s := (Schedule.lone (some 3)).run history
    let s' := (Schedule.lone none).run history'
    (failure.bind checkOk).isOk = false ∧
    s'.cursor.state = s.cursor.state ∧ s.cursor.state.id = 0 ∧
    (Schedule.lone none).outcomes history' = (Schedule.lone (some 3)).outcomes history ∧
    (Schedule.lone (some 3)).outcomes history = [.batch [[("n", .int32 1)]]] ∧
    s'.cursor.ledger.owners .source = s.cursor.ledger.owners .source ∧
    s.cursor.ledger.messages =
      [.getMore ⟨"db", "items"⟩ 7 1, .killCursors ⟨"db", "items"⟩ [7]] := by
  intro response failure history history' s s'
  have hhistory : List.Forall₂ Action.Corresponds history history' :=
    .cons (.same _) (.cons (.same _) (.cons
      (.reply .stream (.ok Schedule.loneReply) response .localhost rfl)
      (.cons (.same _) (.cons (.kill .stream (.ok ()) failure) .nil))))
  obtain ⟨hstate, houtcomes, -, -, -, howners, -⟩ :=
    protocols_correspond ⟨⟨"db", "items"⟩, [], 7, .localhost⟩ ⟨1, -5, none, none⟩
      ⟨.localhost, .standalone, some 3⟩ ⟨.localhost, .standalone, none⟩ none none Ledger.start true
      history history' ⟨3, rfl, by decide⟩ nofun rfl Iff.rfl hhistory
  exact ⟨rfl, hstate, rfl, houtcomes, rfl, congrFun howners .source, rfl⟩

end ServerCursor
