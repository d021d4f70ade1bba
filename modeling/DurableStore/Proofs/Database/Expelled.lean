import DurableStore.Proofs.Database.Transition

/-!
What a session takes itself to be, and what it is.

A session takes itself to be closed once its owner ended it or the database was closed.  Whether its
statements are let in depends on something else: on whether the lock counts it as connected
(`Host.run_query_refused_iff`).  A `Register` follows an open database and keeps a list of the
sessions that were disconnected by their ids.  Through every run a session is connected exactly as
long as its owner has not ended it, the database is open and its id was not disconnected
(`Register.Tallies.step`).  The owner's end and the closing of the database are known to the session
as well, but being disconnected is not, so that is where the two differ
(`Register.isEnded_iff_unless_expelled`).
-/

namespace DurableStore

variable {τ : Type}

/-! ## Calls whose outermost frame stays of one kind -/

/-- How a frame of one kind may go on: as a frame of that kind, until it is answered in one way. -/
inductive Advance.Abides (stays : Frame τ → Prop) (ends : Answer τ → Prop) : Advance τ → Prop where
  | become (engine : Engine τ) {frame : Frame τ} (kind : stays frame) :
    Abides stays ends (.become engine frame)
  | call (engine : Engine τ) {frame : Frame τ} (callee : Call τ) (kind : stays frame) :
    Abides stays ends (.call engine frame callee)
  | answer (engine : Engine τ) {answer : Answer τ} (kind : ends answer) :
    Abides stays ends (.answer engine answer)
  | wait (frame : Frame τ) : Abides stays ends (.wait frame)

/-- Frames of one kind stay of that kind until they are answered in one way. -/
structure Frame.Abiding (stays : Frame τ → Prop) (ends : Answer τ → Prop) : Prop where
  advance : ∀ (engine : Engine τ) (frame : Frame τ), stays frame →
    (engine.advance frame).Abides stays ends
  receive : ∀ (frame : Frame τ) (answer : Answer τ), stays frame → stays (frame.receive answer)

namespace Host

/-- The outermost of these frames is of one kind, and its database is there. -/
def Outermost (host : Host τ) (stays : Frame τ → Prop) (top : Activation τ) :
    List (Activation τ) → Prop
  | [] => (∃ engine, host.engine? top.site = some engine) ∧ stays top.frame
  | caller :: below => host.Outermost stays caller below

variable {host after : Host τ} {stays : Frame τ → Prop} {ends : Answer τ → Prop}
  {top : Activation τ}

theorem engine?_put_isSome {site other : SiteId} {there : Engine τ}
    (found : host.engine? other = some there) (engine : Engine τ) :
    ∃ there', (host.put site engine).engine? other = some there' := by
  by_cases same : other = site
  · subst same
    exact ⟨engine, engine?_put_self found engine⟩
  · exact ⟨_, by rw [engine?_put_of_ne same, found]; rfl⟩

theorem Outermost.put {below : List (Activation τ)} (h : host.Outermost stays top below)
    (site : SiteId) (engine : Engine τ) : (host.put site engine).Outermost stays top below := by
  induction below generalizing top with
  | nil =>
    obtain ⟨⟨there, found⟩, kind⟩ := h
    exact ⟨engine?_put_isSome found engine, kind⟩
  | cons caller below ih => exact ih h

theorem Outermost.receive (abiding : Frame.Abiding stays ends) {below : List (Activation τ)}
    (h : host.Outermost stays top below) (answer : Answer τ) :
    host.Outermost stays { top with frame := top.frame.receive answer } below := by
  cases below with
  | nil => exact ⟨h.1, abiding.receive _ _ h.2⟩
  | cons caller below => exact h

/-- **One step** leaves the outermost frame of its kind, or answers it in its way. -/
theorem Outermost.step (abiding : Frame.Abiding stays ends) {task : Task τ}
    (h : host.Outermost stays task.top task.below) :
    (∃ after next, host.step task = .moved after next ∧
        after.Outermost stays next.top next.below) ∨
      (∃ after answer, host.step task = .answered after answer ∧ ends answer) ∨
        ∃ next, host.step task = .waiting next := by
  obtain ⟨⟨site, frame⟩, below⟩ := task
  cases below with
  | nil =>
    obtain ⟨⟨engine, found⟩, kind⟩ := h
    have abides := abiding.advance engine frame kind
    generalize advances : engine.advance frame = advance at abides
    unfold Host.step
    simp only [found, advances]
    cases abides with
    | become engine' kind => exact .inl ⟨_, _, rfl, engine?_put_isSome found _, kind⟩
    | call engine' callee kind => exact .inl ⟨_, _, rfl, engine?_put_isSome found _, kind⟩
    | answer engine' kind => exact .inr (.inl ⟨_, _, rfl, kind⟩)
    | wait frame => exact .inr (.inr ⟨_, rfl⟩)
  | cons caller below =>
    -- The outermost frame is further down, whatever becomes of this one.
    have further : host.Outermost stays caller below := h
    unfold Host.step
    simp only
    split
    next => exact .inl ⟨_, _, rfl, further.receive abiding _⟩
    next =>
      split
      next => exact .inl ⟨_, _, rfl, further.put _ _⟩
      next => exact .inl ⟨_, _, rfl, further.put _ _⟩
      next => exact .inl ⟨_, _, rfl, further⟩
      next => exact .inr (.inr ⟨_, rfl⟩)
      next => exact .inl ⟨_, _, rfl, (further.put _ _).receive abiding _⟩

/-- **A task whose outermost frame is of one kind** is answered in the way of that kind, if at
all. -/
theorem Outermost.run (abiding : Frame.Abiding stays ends) {host : Host τ} {task : Task τ}
    (h : host.Outermost stays task.top task.below) {answer : Answer τ}
    (answered : (host.run task).1 = .answered answer) : ends answer := by
  rw [run_eq] at answered
  rcases h.step abiding with
    ⟨later, next, moves, h'⟩ | ⟨later, answer', ended, kind⟩ | ⟨next, waits⟩
  · have lower := step_moved_weight moves
    rw [moves] at answered
    exact h'.run abiding answered
  · rw [ended] at answered
    cases answered
    exact kind
  · rw [waits] at answered
    cases answered
  termination_by task.weight

end Host

/-! ## Queries that are refused -/

/-- The frame of a query whose body has begun. -/
def Frame.isScanning : Frame τ → Bool
  | .scanning .. => true
  | _ => false

/-- The answer to a query whose body ran. -/
def Answer.isExecuted : Answer τ → Bool
  | .queried _ executed _ => executed
  | _ => false

/-- A query whose body has begun is answered as one whose body ran. -/
theorem Frame.abiding_isScanning :
    Frame.Abiding (τ := τ) (·.isScanning = true) (·.isExecuted = true) := by
  constructor
  · intro engine frame kind
    cases frame with
    | scanning key found pending rows answers =>
      cases pending with
      | cons callee pending => exact .call engine callee rfl
      | nil =>
        simp only [Engine.advance, Engine.yieldRows]
        split
        next => exact .answer _ rfl
        next => exact .answer _ rfl
    | _ => cases kind
  · intro frame answer kind
    cases frame with
    | scanning key found pending rows answers => rfl
    | _ => cases kind

namespace Host

variable {host : Host τ} {site : SiteId} {engine : Engine τ} {statement : Statement}
  {during : List (Call τ)} {rows : τ → Except Fault Rows}

/-- A query that has come to its turn reuses rows or runs its body. -/
theorem run_admitted_query (there : host.engine? site = some engine) {answer : Answer τ}
    (answered : (host.run { top := ⟨site, .admitted (.query statement during rows)⟩ }).1 =
      .answered answer) :
    (∃ found, answer = .queried (.ok found) false []) ∨ answer.isExecuted = true := by
  have transition := engine.transition_begin (.query statement during rows)
  generalize advances : engine.begin (.query statement during rows) = advance at transition
  have advances' : engine.advance (.admitted (.query statement during rows)) = advance := advances
  cases transition with
  | reuses _ _ looks =>
    rw [run_of_answer there advances'] at answered
    cases answered
    exact .inl ⟨_, rfl⟩
  | scans _ _ looks =>
    rw [run_of_become there advances'] at answered
    refine .inr (Outermost.run Frame.abiding_isScanning ?_ answered)
    exact ⟨⟨_, engine?_put_self there _⟩, rfl⟩

/-- **A query is refused as its connection is closed** exactly if its session takes itself to be
closed, or is not connected. -/
theorem run_query_refused_iff (there : host.engine? site = some engine) (session : SessionId)
    (statement : Statement) (during : List (Call τ)) (rows : τ → Except Fault Rows) :
    (host.run { top := ⟨site, .entering (.query session statement during rows)⟩ }).1 =
        .answered (.queried (.error (.connectionClosed session)) false []) ↔
      engine.database.isEnded session = true ∨ session ∉ engine.database.lock.connected := by
  cases ended : engine.database.isEnded session with
  | true =>
    have refused : engine.advance (.entering (.query session statement during rows)) =
        .answer engine (.queried (.error (.connectionClosed session)) false []) := by
      simp only [Engine.advance, Engine.enter, Engine.enqueue, Database.ensureConnected, ended,
        if_true]
      rfl
    rw [run_of_answer there refused]
    simp
  | false =>
    have joins : engine.advance (.entering (.query session statement during rows)) =
        .become engine (.queued session (.query statement during rows) none) := by
      simp only [Engine.advance, Engine.enter, Engine.enqueue, Database.ensureConnected, ended,
        Bool.false_eq_true, if_false]
    rw [run_of_become there joins, put_self there]
    simp only [Bool.false_eq_true, false_or]
    rcases engine.database.lock.turn_cases session with
      ⟨turn, missing⟩ | ⟨turn, member, -⟩ | ⟨turn, member, -⟩
    · have refused : engine.advance (.queued session (.query statement during rows) none) =
          .answer engine (.queried (.error (.connectionClosed session)) false []) := by
        simp only [Engine.advance, Engine.look, Engine.hasNews, if_true, turn]
        rfl
      rw [run_of_answer there refused]
      simp [missing]
    · have admits : engine.advance (.queued session (.query statement during rows) none) =
          .become engine (.admitted (.query statement during rows)) := by
        simp only [Engine.advance, Engine.look, Engine.hasNews, if_true, turn]
      rw [run_of_become there admits, put_self there]
      refine iff_of_false (fun refused => ?_) (not_not_intro member)
      rcases run_admitted_query there refused with ⟨found, same⟩ | executed
      · cases same
      · cases executed
    · have waits : engine.advance (.queued session (.query statement during rows) none) =
          .wait (.queued session (.query statement during rows)
            (some engine.database.lock.signals)) := by
        simp only [Engine.advance, Engine.look, Engine.hasNews, if_true, turn]
      rw [run_of_wait there waits]
      simp [member]

end Host

/-! ## Sessions that were disconnected by their ids -/

/-- The step disconnects the session by its id. -/
def Frame.expels : Frame τ → SessionId → Bool
  | .entering (.disconnect leaver), session => leaver == session
  | _, _ => false

/-- An open database, who was there, and which sessions were disconnected by their ids. -/
structure Register (τ : Type) where
  book : Guestbook τ
  /-- Those sessions, each time they were. -/
  expelled : List SessionId := []

namespace Register

/-- After a step of a frame that left the host `after`. -/
def record (register : Register τ) (frame : Frame τ) (after : Host τ) : Register τ :=
  { book := register.book.record frame after
    expelled := register.book.guests.filter frame.expels ++ register.expelled }

/-- With the host in another state. -/
def withHost (register : Register τ) (host : Host τ) : Register τ :=
  { register with book := { register.book with host } }

/-- What can happen to an open database. -/
inductive Step (register : Register τ) : Register τ → Prop where
  /-- The storage serves a request. -/
  | served (request : Request) :
    register.Step (register.withHost (register.book.host.serve request))
  /-- A call of the database, begun at any time, gets one step further.  An owner can only end a
  session that was handed out. -/
  | stepped (frame : Frame τ) (below : List (Activation τ)) {after : Host τ}
      (owned : ∀ session, frame = .entering (.endSession session) → session ∈ register.book.guests)
      (steps : (register.book.host.step { top := ⟨0, frame⟩, below }).host? = some after) :
      register.Step (register.record frame after)
  /-- A call of another database, which is not open, gets one step further. -/
  | elsewhere {task : Task τ} {after : Host τ} (away : task.top.site ≠ 0)
      (steps : (register.book.host.step task).host? = some after) :
      register.Step (register.withHost after)

/-- Whatever comes after, one thing after the other. -/
abbrev Later : Register τ → Register τ → Prop :=
  Relation.ReflTransGen Step

variable {register next : Register τ}

theorem Step.book (step : register.Step next) : register.book.Step next.book := by
  cases step with
  | served request => exact .served request
  | stepped frame below owned steps => exact .stepped frame below owned steps
  | elsewhere away steps => exact .elsewhere away steps

theorem record_of_calm {frame : Frame τ} (calm : frame.isPassage = false) (after : Host τ) :
    register.record frame after = register.withHost after := by
  have nobody : frame.expels = fun _ => false := by
    cases frame with
    | entering call =>
      cases call with
      | disconnect session => cases calm
      | _ => rfl
    | _ => rfl
  unfold record
  rw [Guestbook.record_of_calm calm, nobody]
  simp [withHost]

/-! ## Who is connected -/

/-- A session is connected exactly as long as it was not closed in one of the three ways: its owner
has not ended it, the database is open, and it was not disconnected by its id. -/
structure Tallies (register : Register τ) (database : Database) : Prop where
  connected : ∀ session ∈ register.book.guests,
    (session ∈ database.lock.connected ↔
      session ∉ database.ended ∧ database.closed = false ∧ session ∉ register.expelled)
  expelled_guests : ∀ session ∈ register.expelled, session ∈ register.book.guests

/-- A register that has just been opened, for a database that has been. -/
def opened (database : Database) (disk : FileSystem) (tables : τ) : Register τ :=
  { book := .opened database disk tables }

theorem tallies_opened (database : Database) (disk : FileSystem) (tables : τ) :
    (opened database disk tables).Tallies database :=
  ⟨nofun, nofun⟩

variable {engine changed : Engine τ} {used : Nat}

theorem Tallies.congr {database other : Database} (h : register.Tallies database)
    (same : database.SameSessions other) (host : Host τ) :
    (register.withHost host).Tallies other := by
  refine ⟨fun session guest => ?_, h.expelled_guests⟩
  rw [same.lock, same.ended, same.closed]
  exact h.connected session guest

/-- A newcomer is connected, and nobody else is concerned. -/
theorem Tallies.connect (h : register.Tallies engine.database)
    (agrees : register.book.Agrees engine used)
    (few : register.book.connects + 1 < UInt64.size) (after : Host τ) :
    (register.record (.entering .connect) after).Tallies engine.database.connect.2 := by
  have newcomer : register.book.newcomer? (.entering .connect) =
      engine.database.connect.1.toOption := by
    unfold Guestbook.newcomer?
    rw [agrees.there]
    rfl
  have guests : (register.record (.entering .connect) after).book.guests =
      engine.database.connect.1.toOption.toList ++ register.book.guests := by
    show (register.book.newcomer? _).toList ++ register.book.guests = _
    rw [newcomer]
  have expelled : (register.record (.entering .connect) after).expelled = register.expelled := by
    simp [record, Frame.expels]
  refine ⟨?_, ?_⟩
  · rw [guests, expelled]
    rcases engine.database.connect_cases with
      ⟨fault, same⟩ | ⟨fault, same⟩ | ⟨lock, admits, rfl, same⟩
    · rw [same]
      exact h.connected
    · rw [same]
      exact h.connected
    · rw [same]
      -- The new id was never used before, so nobody with it has left.
      have next := agrees.attended.next_toNat
        (Nat.lt_of_le_of_lt (Nat.succ_le_succ agrees.used_le) few)
      have fresh : (⟨engine.database.nextSession⟩ : SessionId) ∉ register.book.guests := by
        intro guest
        have old : engine.database.nextSession.toNat ≤ used := agrees.attended.guests_le _ guest
        omega
      have unended : (⟨engine.database.nextSession⟩ : SessionId) ∉ engine.database.ended :=
        fun ended => fresh (agrees.attended.left_guests _ (agrees.attended.ended_left _ ended))
      have unexpelled : (⟨engine.database.nextSession⟩ : SessionId) ∉ register.expelled :=
        fun expelled => fresh (h.expelled_guests _ expelled)
      have opened : engine.database.closed = false := by
        cases closed : engine.database.closed with
        | false => rfl
        | true =>
          unfold Database.connect at same
          rw [closed] at same
          cases same
      intro session member
      show session ∈ engine.database.lock.connected.insert _ ↔ _
      rw [List.mem_insert_iff]
      rcases List.mem_cons.1 member with rfl | guest
      · exact iff_of_true (.inl rfl) ⟨unended, opened, unexpelled⟩
      · have differs : session ≠ ⟨engine.database.nextSession⟩ := by
          rintro rfl
          exact fresh guest
        rw [or_iff_right differs]
        exact h.connected session guest
  · rw [guests, expelled]
    exact fun session member => List.mem_append_right _ (h.expelled_guests session member)

theorem Tallies.disconnect (h : register.Tallies engine.database)
    (agrees : register.book.Agrees engine used) (leaver : SessionId) (after : Host τ) :
    (register.record (.entering (.disconnect leaver)) after).Tallies
      (engine.database.disconnect leaver) := by
  refine ⟨fun session guest => ?_, fun session member => ?_⟩
  · show session ∈ (engine.database.lock.disconnect leaver).connected ↔
      session ∉ engine.database.ended ∧ engine.database.closed = false ∧
        session ∉ register.book.guests.filter (leaver == ·) ++ register.expelled
    have guest : session ∈ register.book.guests := guest
    rw [LockQueue.mem_connected_disconnect agrees.attended.orderly, h.connected session guest,
      List.mem_append, List.mem_filter, beq_iff_eq]
    grind
  · rcases List.mem_append.1 member with new | old
    · exact List.mem_of_mem_filter new
    · exact h.expelled_guests session old

theorem Tallies.endSession (h : register.Tallies engine.database)
    (agrees : register.book.Agrees engine used) (leaver : SessionId) (after : Host τ) :
    (register.record (.entering (.endSession leaver)) after).Tallies
      (engine.database.endSession leaver) := by
  have expelled : (register.record (.entering (.endSession leaver)) after).expelled =
      register.expelled := by
    simp [record, Frame.expels]
  refine ⟨fun session guest => ?_, expelled ▸ h.expelled_guests⟩
  have guest : session ∈ register.book.guests := guest
  rw [expelled]
  unfold Database.endSession
  by_cases ended : leaver ∈ engine.database.ended
  · rw [if_pos ended]
    exact h.connected session guest
  · rw [if_neg ended]
    show session ∈ (engine.database.lock.disconnect leaver).connected ↔
      session ∉ leaver :: engine.database.ended ∧ engine.database.closed = false ∧ _
    rw [LockQueue.mem_connected_disconnect agrees.attended.orderly, h.connected session guest,
      List.mem_cons, not_or, ne_comm]
    grind

theorem Tallies.close (h : register.Tallies engine.database) (after : Host τ) :
    (register.record (.entering .close) after).Tallies
      (engine.database.close engine.disk).1 := by
  have expelled : (register.record (.entering .close) after).expelled = register.expelled := by
    simp [record, Frame.expels]
  refine ⟨fun session guest => ?_, expelled ▸ h.expelled_guests⟩
  have guest : session ∈ register.book.guests := guest
  rw [expelled]
  unfold Database.close
  by_cases closed : engine.database.closed = true
  · rw [if_pos closed]
    exact h.connected session guest
  · rw [if_neg closed]
    show session ∈ ([] : List SessionId) ↔ _ ∧ true = false ∧ _
    simp

/-- **One step** of the open database keeps the tally. -/
theorem Tallies.record (h : register.Tallies engine.database)
    (agrees : register.book.Agrees engine used) {frame : Frame τ}
    (moves : engine.Moves frame changed) {after : Host τ}
    (few : (register.record frame after).book.connects < UInt64.size) :
    (register.record frame after).Tallies changed.database := by
  cases moves with
  | connect call database =>
    subst call
    rw [database]
    exact h.connect agrees few after
  | disconnect leaver call database =>
    subst call
    rw [database]
    exact h.disconnect agrees leaver after
  | endSession leaver call database =>
    subst call
    rw [database]
    exact h.endSession agrees leaver after
  | close call database =>
    subst call
    rw [database]
    exact h.close after
  | setHeld calm holder enable member database =>
    have connected : (engine.database.lock.setHeld holder enable).connected =
        engine.database.lock.connected :=
      LockQueue.connected_granting engine.database.lock holder (.setHeld enable)
    rw [record_of_calm calm, database]
    refine ⟨fun session guest => ?_, h.expelled_guests⟩
    rw [connected]
    exact h.connected session guest
  | same calm same =>
    rw [record_of_calm calm]
    exact h.congr same after

/-- **Whatever happens next**, the tally is kept. -/
theorem Tallies.step (h : register.Tallies engine.database)
    (agrees : register.book.Agrees engine used) (step : register.Step next)
    (few : next.book.connects < UInt64.size) :
    ∃ engine' used', next.book.Agrees engine' used' ∧ next.Tallies engine'.database := by
  obtain ⟨engine', used', agrees'⟩ := agrees.step step.book few
  refine ⟨engine', used', agrees', ?_⟩
  have there' := agrees'.there
  cases step with
  | served request =>
    have there' : (register.book.host.serve request).engine? 0 = some engine' := there'
    unfold Host.serve at there'
    rw [agrees.there] at there'
    simp only [Host.engine?_put_self agrees.there] at there'
    cases there'
    refine h.congr ?_ _
    exact ⟨rfl, rfl, rfl, rfl⟩
  | @elsewhere task after away steps =>
    have there' : after.engine? 0 = some engine' := there'
    rcases Host.step_cases steps with rfl | ⟨other, changed, there, -, -⟩
    · rw [agrees.there] at there'
      cases there'
      exact h.congr (.refl _) _
    · -- There is no other database that could take the step.
      have bound := (Array.getElem?_eq_some_iff.1 (Host.engine?_eq_some there).1).1
      have away := Nat.pos_of_ne_zero away
      have single := agrees.single
      omega
  | @stepped frame below after owned steps =>
    have there' : after.engine? 0 = some engine' := there'
    rcases Host.step_of_there agrees.there steps with ⟨changed, advances, rfl⟩ | ⟨calm, rfl⟩
    · rw [Host.engine?_put_self agrees.there] at there'
      cases there'
      exact h.record agrees (Engine.moves_advance advances) few
    · rw [agrees.there] at there'
      cases there'
      rw [record_of_calm calm]
      exact h.congr (.refl _) _

/-- **Through every run** the tally is kept, as long as no id is used twice. -/
theorem tallies_later (h : register.Tallies engine.database)
    (agrees : register.book.Agrees engine 0) (later : register.Later next)
    (few : next.book.connects < UInt64.size) :
    ∃ engine' used, next.book.Agrees engine' used ∧ next.Tallies engine'.database := by
  -- By induction on what happened, the last thing last.
  induction later with
  | refl => exact ⟨engine, 0, agrees, h⟩
  | tail later step ih =>
    obtain ⟨engine', used, agrees', tallies⟩ :=
      ih (Nat.lt_of_le_of_lt (Guestbook.connects_le step.book) few)
    exact tallies.step agrees' step few

/-- **A session knows that it is closed, unless it was disconnected by its id.**  Whatever was done
to an open database and its sessions, in any order, of each session that it handed out
* the next query is refused as its connection is closed, exactly if it is not connected;
* it is not connected if it takes itself to be closed;
* it is not connected exactly if it takes itself to be closed, unless it was disconnected by its id
  while it was there, its owner has not ended it and the database is open. -/
theorem isEnded_iff_unless_expelled {disk after : FileSystem} {path : Path} {config : Config}
    {owner : String} {database : Database}
    (opens : Database.openAt disk path config owner = (.ok database, after)) (tables : τ)
    (later : (opened database after tables).Later register)
    (few : register.book.connects < UInt64.size) :
    ∃ engine, register.book.host.engine? 0 = some engine ∧
      ∀ session ∈ register.book.guests,
        (∀ statement during rows,
          (register.book.host.run
              { top := ⟨0, .entering (.query session statement during rows)⟩ }).1 =
            .answered (.queried (.error (.connectionClosed session)) false []) ↔
          session ∉ engine.database.lock.connected) ∧
        (engine.database.isEnded session = true → session ∉ engine.database.lock.connected) ∧
        ((engine.database.isEnded session = true ↔ session ∉ engine.database.lock.connected) ↔
          ¬(session ∈ register.expelled ∧ session ∉ engine.database.ended ∧
            engine.database.closed = false)) := by
  obtain ⟨engine, used, agrees, tallies⟩ :=
    tallies_later (tallies_opened database after tables)
      (Guestbook.agrees_opened opens tables) later few
  refine ⟨engine, agrees.there, fun session guest => ?_⟩
  have connected := tallies.connected session guest
  have isEnded : engine.database.isEnded session = true ↔
      session ∈ engine.database.ended ∨ engine.database.closed = true := by
    simp [Database.isEnded]
  rw [← Bool.not_eq_true] at connected
  have apart : engine.database.isEnded session = true →
      session ∉ engine.database.lock.connected := by
    rw [isEnded, connected]
    grind
  refine ⟨fun statement during rows => ?_, apart, ?_⟩
  · rw [Host.run_query_refused_iff agrees.there]
    exact or_iff_right_of_imp apart
  · rw [isEnded, connected, ← Bool.not_eq_true]
    grind

/-- Two sessions came; the first one was disconnected by its id, and the second one was ended by its
owner. -/
theorem exists_expelled_and_ended : ∃ (database : Database) (register : Register Unit)
    (engine : Engine Unit),
    Database.openAt .empty ⟨["", "db"]⟩ .testing "a" = (.ok database, Host.firstOpening.2) ∧
      (opened database Host.firstOpening.2 ()).Later register ∧ register.book.connects = 2 ∧
      register.book.guests = [⟨2⟩, ⟨1⟩] ∧ register.expelled = [⟨1⟩] ∧
      register.book.host.engine? 0 = some engine ∧ engine.database.lock.connected = [] ∧
      engine.database.ended = [⟨2⟩] ∧ engine.database.closed = false := by
  obtain ⟨database, opens⟩ := Host.firstOpening_eq
  obtain ⟨storage, cache, journal, recovered, rfl⟩ := Database.openAt_fresh opens
  let host (connected : List SessionId) (signals : Nat) (nextSession : UInt64)
      (ended : List SessionId) : Host Unit :=
    .ofDatabase
      { storage, cache, journal, recovered, nextSession, ended
        lock := ⟨none, connected, false, signals⟩ } Host.firstOpening.2 ()
  let start : Register Unit := { book := { host := host [] 0 1 [] } }
  let one := start.record (.entering .connect) (host [⟨1⟩] 0 2 [])
  let two := one.record (.entering .connect) (host [⟨2⟩, ⟨1⟩] 0 3 [])
  let fewer := two.record (.entering (.disconnect ⟨1⟩)) (host [⟨2⟩] 1 3 [])
  let nobody := fewer.record (.entering (.endSession ⟨2⟩)) (host [] 2 3 [⟨2⟩])
  have first : start.Step one := .stepped _ [] nofun rfl
  have second : one.Step two := .stepped _ [] nofun rfl
  have expels : two.Step fewer := .stepped _ [] nofun rfl
  have guest : (⟨2⟩ : SessionId) ∈ fewer.book.guests := List.mem_cons_self
  have ends : fewer.Step nobody := by
    refine .stepped _ [] ?_ rfl
    intro session same
    cases same
    exact guest
  have later : start.Later nobody :=
    (((Relation.ReflTransGen.single first).tail second).tail expels).tail ends
  exact ⟨_, nobody, _, opens, later, rfl, rfl, rfl, rfl, rfl, rfl, rfl⟩

/-- The session that its owner ended knows that it is not connected, and has its next query
refused. -/
theorem isEnded_iff_unless_expelled_ended : ∃ (register : Register Unit) (engine : Engine Unit),
    register.book.host.engine? 0 = some engine ∧ ⟨2⟩ ∈ register.book.guests ∧
      engine.database.isEnded ⟨2⟩ = true ∧ ⟨2⟩ ∉ engine.database.lock.connected ∧
      ∀ statement during rows,
        (register.book.host.run
            { top := ⟨0, .entering (.query ⟨2⟩ statement during rows)⟩ }).1 =
          .answered (.queried (.error (.connectionClosed ⟨2⟩)) false []) := by
  obtain ⟨database, register, engine, opens, later, connects, guests, expelled, there, connected,
    ended, closed⟩ := exists_expelled_and_ended
  have few : register.book.connects < UInt64.size := connects ▸ show 2 < UInt64.size by decide
  obtain ⟨engine', there', knows⟩ := isEnded_iff_unless_expelled opens () later few
  cases there.symm.trans there'
  have guest : (⟨2⟩ : SessionId) ∈ register.book.guests := guests ▸ List.mem_cons_self
  obtain ⟨refused, -, exactly⟩ := knows ⟨2⟩ guest
  have unexpelled : (⟨2⟩ : SessionId) ∉ register.expelled := expelled ▸ by decide
  have missing : (⟨2⟩ : SessionId) ∉ engine.database.lock.connected :=
    connected ▸ List.not_mem_nil
  refine ⟨register, engine, there, guest, ?_, missing, fun statement during rows => ?_⟩
  · exact (exactly.2 fun bad => unexpelled bad.1).2 missing
  · exact (refused statement during rows).2 missing

/-- **A session that was disconnected by its id does not know it**: it takes itself to be open, and
yet it is not connected and its next query is refused. -/
theorem expelled_unaware : ∃ (database : Database) (register : Register Unit)
    (engine : Engine Unit),
    Database.openAt .empty ⟨["", "db"]⟩ .testing "a" = (.ok database, Host.firstOpening.2) ∧
      (opened database Host.firstOpening.2 ()).Later register ∧
      register.book.host.engine? 0 = some engine ∧ ⟨1⟩ ∈ register.book.guests ∧
      engine.database.isEnded ⟨1⟩ = false ∧ ⟨1⟩ ∉ engine.database.lock.connected ∧
      ∀ statement during rows,
        (register.book.host.run
            { top := ⟨0, .entering (.query ⟨1⟩ statement during rows)⟩ }).1 =
          .answered (.queried (.error (.connectionClosed ⟨1⟩)) false []) := by
  obtain ⟨database, register, engine, opens, later, connects, guests, expelled, there, connected,
    ended, closed⟩ := exists_expelled_and_ended
  have missing : (⟨1⟩ : SessionId) ∉ engine.database.lock.connected :=
    connected ▸ List.not_mem_nil
  have open' : engine.database.isEnded ⟨1⟩ = false := by
    simp [Database.isEnded, ended, closed]
  refine ⟨database, register, engine, opens, later, there, ?_, open', missing, ?_⟩
  · rw [guests]
    decide
  · intro statement during rows
    exact (Host.run_query_refused_iff there ⟨1⟩ statement during rows).2 (.inr missing)

end Register

end DurableStore
