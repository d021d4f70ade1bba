import DurableStore.Proofs.Database.Reachable

/-!
Updates that fail.

An update that is answered with a fault has done nothing to the tables, the generation and the
cache, whatever calls its body would have made.  It may still have changed what the next process
finds in the journal: if the power goes after the header of its record, that header takes the place
of any header that an earlier update left there, and the header of an empty record is a record.
`failed_update_traceless_iff` says exactly when the next process finds the same records.
-/

namespace DurableStore

open FileSystem

variable {τ : Type}

/-! ## Updates whose record is in the journal -/

/-- The frame of an update whose record is in the journal. -/
def Frame.HasCommitted : Frame τ → Prop
  | .applying .. | .applied .. => True
  | _ => False

namespace Host

/-- The outermost of these frames is that of an update whose record is in the journal. -/
def HasCommitted (host : Host τ) (top : Activation τ) : List (Activation τ) → Prop
  | [] => top.site < host.sites.size ∧ top.frame.HasCommitted
  | caller :: below => host.HasCommitted caller below

variable {host after : Host τ} {top : Activation τ}

theorem hasCommitted_congr {below : List (Activation τ)} (h : host.HasCommitted top below)
    (size : after.sites.size = host.sites.size) : after.HasCommitted top below := by
  induction below generalizing top with
  | nil => exact ⟨size ▸ h.1, h.2⟩
  | cons caller below ih => exact ih h

theorem hasCommitted_receive {below : List (Activation τ)} (h : host.HasCommitted top below)
    (answer : Answer τ) :
    host.HasCommitted { top with frame := top.frame.receive answer } below := by
  cases below with
  | nil =>
    obtain ⟨bound, committed⟩ := h
    refine ⟨bound, ?_⟩
    cases frame : top.frame with
    | applying pending apply answers => exact trivial
    | applied result answers => exact trivial
    | _ =>
      rw [frame] at committed
      exact committed.elim
  | cons caller below => exact h

theorem size_put (host : Host τ) (site : SiteId) (engine : Engine τ) :
    (host.put site engine).sites.size = host.sites.size := by
  unfold put
  exact Array.size_setIfInBounds

/-- An update whose record is in the journal is not answered with a fault any more. -/
theorem step_hasCommitted {task : Task τ} (h : host.HasCommitted task.top task.below) :
    (∃ after next, host.step task = .moved after next ∧ after.HasCommitted next.top next.below) ∨
      (∃ after result answers,
        host.step task = .answered after (.updated (.ok result) true answers)) ∨
        ∃ next, host.step task = .waiting next := by
  obtain ⟨⟨site, frame⟩, below⟩ := task
  cases below with
  | nil =>
    obtain ⟨bound, committed⟩ := h
    have there : host.engine? site =
        some ⟨host.sites[site].database, host.disk, host.sites[site].tables⟩ := by
      unfold engine?
      rw [Array.getElem?_eq_getElem bound]
      rfl
    have bound' (engine : Engine τ) : site < (host.put site engine).sites.size := by
      rw [size_put]
      exact bound
    unfold step
    simp only [there]
    cases frame with
    | applying pending apply answers =>
      cases pending with
      | nil => exact .inl ⟨_, _, rfl, bound' _, trivial⟩
      | cons callee pending => exact .inl ⟨_, _, rfl, bound' _, trivial⟩
    | applied result answers => exact .inr (.inl ⟨_, result, answers, rfl⟩)
    | _ => exact committed.elim
  | cons caller below =>
    -- The outermost frame is further down, whatever becomes of this one.
    have h : host.HasCommitted caller below := h
    have delivered (other : Host τ) (size : other.sites.size = host.sites.size)
        (answer : Answer τ) :
        ∃ after next, other.deliver answer (caller :: below) = .moved after next ∧
          after.HasCommitted next.top next.below :=
      ⟨other, _, rfl, hasCommitted_receive (hasCommitted_congr h size) answer⟩
    unfold step
    simp only
    split
    next => exact .inl (delivered host rfl _)
    next engine there =>
      split
      next => exact .inl ⟨_, _, rfl, hasCommitted_congr h (size_put ..)⟩
      next => exact .inl ⟨_, _, rfl, hasCommitted_congr h (size_put ..)⟩
      next => exact .inl ⟨_, _, rfl, h⟩
      next => exact .inr (.inr ⟨_, rfl⟩)
      next => exact .inl (delivered _ (size_put ..) _)

theorem run_hasCommitted {host after : Host τ} {task : Task τ}
    (h : host.HasCommitted task.top task.below) {answer : Answer τ}
    (answered : host.run task = (.answered answer, after)) :
    ∃ result answers, answer = .updated (.ok result) true answers := by
  rw [run_eq] at answered
  rcases step_hasCommitted h with
    ⟨later, next, moves, h'⟩ | ⟨later, result, answers, ends⟩ | ⟨next, waits⟩
  · have lower := step_moved_weight moves
    rw [moves] at answered
    exact run_hasCommitted h' answered
  · rw [ends] at answered
    cases answered
    exact ⟨result, answers, rfl⟩
  · rw [waits] at answered
    cases answered
  termination_by task.weight

/-! ## Updates whose record is not in the journal yet -/

/-- How far an update has got whose record is not in the journal yet. -/
inductive Stage where
  | entering (session : SessionId)
  | queued (session : SessionId) (seen : Option Nat)
  | admitted
  | recording
  | writing

/-- The frame of an update at a stage. -/
def Stage.frame (bytes : Bytes) (apply : τ → τ) (during : List (Call τ)) : Stage → Frame τ
  | .entering session => .entering (.update session bytes during apply)
  | .queued session seen => .queued session (.update bytes during apply) seen
  | .admitted => .admitted (.update bytes during apply)
  | .recording => .recording bytes during apply
  | .writing => .writing bytes during apply

/-- Up to its record the calls that an update would make do not matter. -/
theorem advance_stage (engine : Engine τ) (stage : Stage) (bytes : Bytes) (apply : τ → τ) :
    (∃ after answer, ∀ during,
        engine.advance (stage.frame bytes apply during) = .answer after answer) ∨
      (∃ after, ∃ next : Stage, ∀ during,
        engine.advance (stage.frame bytes apply during) =
          .become after (next.frame bytes apply during)) ∨
      (∃ next : Stage, ∀ during,
        engine.advance (stage.frame bytes apply during) = .wait (next.frame bytes apply during)) ∨
      ∃ after, ∀ during,
        engine.advance (stage.frame bytes apply during) =
          .become after (.applying during apply []) := by
  cases stage with
  | entering session =>
    simp only [Stage.frame, Engine.advance, Engine.enter, Engine.enqueue]
    cases engine.database.ensureConnected session with
    | error fault => exact .inl ⟨_, _, fun during => rfl⟩
    | ok => exact .inr (.inl ⟨engine, .queued session none, fun during => rfl⟩)
  | queued session seen =>
    simp only [Stage.frame, Engine.advance, Engine.look]
    by_cases news : engine.hasNews seen = true
    · simp only [if_pos news]
      cases engine.database.lock.turn session with
      | refused => exact .inl ⟨_, _, fun during => rfl⟩
      | wait => exact .inr (.inr (.inl ⟨.queued session _, fun during => rfl⟩))
      | granted => exact .inr (.inl ⟨engine, .admitted, fun during => rfl⟩)
    · simp only [if_neg news]
      exact .inr (.inr (.inl ⟨.queued session seen, fun during => rfl⟩))
  | admitted =>
    simp only [Stage.frame, Engine.advance, Engine.begin]
    cases engine.database.storage.checkWriting with
    | error fault => exact .inl ⟨_, _, fun during => rfl⟩
    | ok => exact .inr (.inl ⟨engine, .recording, fun during => rfl⟩)
  | recording =>
    simp only [Stage.frame, Engine.advance, Engine.record]
    by_cases busy : engine.database.committing = true
    · simp only [if_pos busy]
      exact .inr (.inr (.inl ⟨.recording, fun during => rfl⟩))
    · simp only [if_neg busy]
      cases engine.database.beginCommit with
      | mk result database =>
        cases result with
        | error fault => exact .inl ⟨_, _, fun during => rfl⟩
        | ok => exact .inr (.inl ⟨_, .writing, fun during => rfl⟩)
  | writing =>
    simp only [Stage.frame, Engine.advance, Engine.write]
    cases engine.database.writeRecord bytes engine.disk with
    | mk result rest =>
      cases result with
      | error fault => exact .inl ⟨_, _, fun during => rfl⟩
      | ok => exact .inr (.inr (.inr ⟨_, fun during => rfl⟩))

/-- An update that fails never begins its body, so it fails alike with any other body. -/
theorem run_of_failed {host after : Host τ} {site : SiteId} (stage : Stage) {bytes : Bytes}
    {apply : τ → τ} {during : List (Call τ)} {fault : Fault} {applied : Bool}
    {answers : List (Answer τ)}
    (fails : host.run { top := ⟨site, stage.frame bytes apply during⟩ } =
      (.answered (.updated (.error fault) applied answers), after)) (other : List (Call τ)) :
    host.run { top := ⟨site, stage.frame bytes apply other⟩ } =
      (.answered (.updated (.error fault) applied answers), after) := by
  cases there : host.engine? site with
  | none =>
    rw [run_of_absent there] at fails
    cases fails
  | some engine =>
    rcases advance_stage engine stage bytes apply with
      ⟨later, answer, answers⟩ | ⟨later, next, becomes⟩ | ⟨next, waits⟩ | ⟨later, begins⟩
    · rw [run_of_answer there (answers during)] at fails
      rw [run_of_answer there (answers other), fails]
    · have lower := Engine.advance_become_weight (becomes during)
      rw [run_of_become there (becomes during)] at fails
      rw [run_of_become there (becomes other)]
      exact run_of_failed next fails other
    · rw [run_of_wait there (waits during)] at fails
      cases fails
    · rw [run_of_become there (begins during)] at fails
      have bound := (Array.getElem?_eq_some_iff.1 (engine?_eq_some there).1).1
      have committed : (host.put site later).HasCommitted
          ⟨site, .applying during apply []⟩ [] := by
        refine ⟨?_, trivial⟩
        rw [size_put]
        exact bound
      obtain ⟨result, answers, same⟩ := run_hasCommitted committed fails
      cases same
  termination_by (stage.frame bytes apply during).weight

end Host

/-! ## What is left in the journal -/

/-- An append failed, and what is left of it is the header of an empty record, so it looks like a
block. -/
def BlockFile.EndsInBlock (blocks : BlockFile) (disk : FileSystem) : Prop :=
  ∃ id ∈ blocks.file.writable?, ∃ offset ∈ blocks.tornTail,
    (disk.content id).drop offset = (Header.ofPayload []).encode

theorem remnant_eq_encode_iff {limit : Nat} {torn : Option Bytes}
    (bounded : limit ≤ Config.largestBlockLimit) (fits : ∀ payload ∈ torn, payload.length ≤ limit) :
    remnant torn = (Header.ofPayload []).encode ↔ torn = some [] := by
  -- The header tells how long the payload is, and only one payload has no bytes.
  constructor
  · intro same
    cases torn with
    | none =>
      have := congrArg List.length same
      rw [Header.length_encode_ofPayload] at this
      cases this
    | some payload =>
      have parsed := Header.parse?_encode (Header.ofPayload payload) [] rfl
      have parsed' := Header.parse?_encode (Header.ofPayload []) [] rfl
      rw [show (Header.ofPayload payload).encode = (Header.ofPayload []).encode from same,
        parsed'] at parsed
      have header : Header.ofPayload [] = Header.ofPayload payload :=
        congrArg Prod.fst (Option.some.inj parsed)
      have length := Header.length_ofPayload bounded (fits payload rfl)
      rw [← header] at length
      have empty : payload.length = 0 := length.symm
      rw [List.length_eq_zero_iff.1 empty]
  · rintro rfl
    rfl

theorem BlockFile.Intact.endsInBlock_iff {blocks : BlockFile} {disk : FileSystem} {id : FileId}
    {payloads : List Bytes} {torn : Option Bytes} (h : blocks.Intact disk id payloads torn) :
    blocks.EndsInBlock disk ↔ torn = some [] := by
  have behind : (disk.content id).drop (row payloads).length = remnant torn := by
    rw [h.stores.content, List.drop_left]
  rw [← remnant_eq_encode_iff h.bounded h.stores.tornFits, ← behind]
  constructor
  · rintro ⟨other, writes, offset, marked, same⟩
    obtain rfl : id = other := Option.some.inj (h.writes.symm.trans writes)
    rw [← h.marked offset marked]
    exact same
  · intro same
    cases marked : blocks.tornTail with
    | none =>
      rw [behind, h.whole marked] at same
      cases same
    | some offset =>
      refine ⟨id, h.writes, offset, marked, ?_⟩
      rw [h.marked offset marked]
      exact same

/-- One remnant looks like a record and the other does not. -/
theorem legible_eq_iff (payloads : List Bytes) (torn torn' : Option Bytes) :
    legible payloads torn' = legible payloads torn ↔ (torn' = some [] ↔ torn = some []) := by
  unfold legible
  by_cases empty : torn = some []
  · by_cases empty' : torn' = some []
    · simp [empty, empty']
    · simp [empty, empty']
  · by_cases empty' : torn' = some []
    · simp [empty, empty']
    · simp [empty, empty']

/-- What is left of an append that fails: what was there before, unless the power went after the
header. -/
theorem BlockFile.Course.remnant_of_failed {blocks : BlockFile} {payload : Bytes}
    {power : PowerSwitch} {disk : FileSystem} {id : FileId} {payloads : List Bytes}
    {torn : Option Bytes} {appended : Appended} {fault : Fault}
    (h : Course blocks payload power disk id payloads torn appended)
    (intact : blocks.Intact disk id payloads torn) (failed : appended.result = .error fault)
    (holds : disk.length id ≤ disk.memory.bytes) :
    ∃ torn', appended.blocks.Intact appended.disk id payloads torn' ∧
      (torn' = torn ∧ (power.isOn && fault.isPowerLoss) = false ∨
        torn' = some payload ∧ power.isOn = true ∧ fault.isPowerLoss = true) := by
  cases h with
  | oversized =>
    cases failed
    exact ⟨torn, intact, .inl ⟨rfl, Bool.and_false _⟩⟩
  | dark _ off =>
    refine ⟨torn, intact, .inl ⟨rfl, ?_⟩⟩
    rw [off, Bool.false_and]
  | crowded fits _ room =>
    -- A file that memory can hold has room for one more block.
    have total := congrArg List.length intact.stores.content
    have bounded := intact.bounded
    have modest := OpenFile.memory_modest disk
    have short : headerLength + Config.largestBlockLimit ≤ OpenFile.largestOffset / 2 := by decide
    simp only [FileSystem.length_content, List.length_append] at total
    omega
  | broken _ on _ intact' =>
    cases failed
    exact ⟨some payload, intact', .inr ⟨rfl, on, rfl⟩⟩
  | complete => cases failed

namespace Engine

variable {engine changed : Engine τ} {session : SessionId} {bytes : Bytes} {apply : τ → τ}
  {fault : Fault} {applied : Bool} {answers : List (Answer τ)}

/-- A failed update has not run, and nothing in memory shows it. -/
theorem callAlone_of_failed
    (fails : engine.callAlone (.update session bytes [] apply) =
      (some (.updated (.error fault) applied answers), changed)) :
    applied = false ∧ answers = [] ∧ changed.tables = engine.tables ∧
      changed.database.generation = engine.database.generation ∧
      changed.database.cache = engine.database.cache := by
  have attempt := engine.attempt_update session bytes apply
  rw [fails] at attempt
  cases attempt with
  | refused => exact ⟨rfl, rfl, rfl, rfl, rfl⟩
  | failed => exact ⟨rfl, rfl, rfl, rfl, rfl⟩

/-- What a failed update leaves in the journal. -/
theorem resting_of_failed {path : Path} {limit : Nat} {ids journal : FileId} {records : List Bytes}
    {torn : Option Bytes}
    (standing : Standing path limit engine.disk ids journal records torn engine.database)
    (fails : engine.callAlone (.update session bytes [] apply) =
      (some (.updated (.error fault) applied answers), changed))
    (holds : engine.disk.length journal ≤ engine.disk.memory.bytes) :
    ∃ torn', Resting path limit changed.disk ids journal records torn' ∧
      (torn' = torn ∧ (engine.database.storage.power.isOn && fault.isPowerLoss) = false ∨
        torn' = some bytes ∧ engine.database.storage.power.isOn = true ∧
          fault.isPowerLoss = true) := by
  have attempt := engine.attempt_update session bytes apply
  rw [fails] at attempt
  cases attempt with
  | refused lit =>
    refine ⟨torn, standing.resting, .inl ⟨rfl, ?_⟩⟩
    rw [lit, Bool.and_false]
  | failed bad =>
    have intact := standing.commits.intact
    have course := BlockFile.append_course intact bytes engine.database.storage.power
    obtain ⟨torn', intact', left⟩ := course.remnant_of_failed intact bad holds
    exact ⟨torn', (standing.append course intact').resting, left⟩

/-- The update that failed with this fault lost its power between the header of the record and the
payload, and either its own header is a block or a header that was a block is gone now. -/
def LeavesTrace (engine : Engine τ) (bytes : Bytes) (fault : Fault) : Prop :=
  engine.database.storage.power.isOn = true ∧ fault.isPowerLoss = true ∧
    (bytes = [] ↔ ¬ engine.database.journal.EndsInBlock engine.disk)

/-- The next process recovers the same records before and after a failed update, unless that leaves
a trace. -/
theorem recovered_of_failed {path : Path} {config : Config} {ids journal : FileId}
    {records : List Bytes} {torn : Option Bytes}
    (standing :
      Standing path config.blockLimit engine.disk ids journal records torn engine.database)
    (fails : engine.callAlone (.update session bytes [] apply) =
      (some (.updated (.error fault) applied answers), changed))
    (sound : config.problem? = none) (owner : String) (holds : FitsMemory engine.disk path)
    (holds' : FitsMemory changed.disk path) :
    ∃ before beforeDisk later laterDisk,
      Database.openAt engine.disk path config owner = (.ok before, beforeDisk) ∧
      Database.openAt changed.disk path config owner = (.ok later, laterDisk) ∧
      (later.recovered = before.recovered ↔ ¬ engine.LeavesTrace bytes fault) := by
  have rests := standing.resting
  have fits := holds _ (List.mem_cons_of_mem _ List.mem_cons_self) _ rests.committed.lengthAt?
  obtain ⟨torn', rests', left⟩ := resting_of_failed standing fails fits
  obtain ⟨before, beforeDisk, opens, recovered⟩ := openAt_recovers sound rests holds owner
  obtain ⟨later, laterDisk, opens', recovered'⟩ := openAt_recovers sound rests' holds' owner
  refine ⟨before, beforeDisk, later, laterDisk, opens, opens', ?_⟩
  rw [recovered, recovered', legible_eq_iff, LeavesTrace,
    standing.commits.intact.endsInBlock_iff]
  rcases left with ⟨rfl, kept⟩ | ⟨rfl, on, lost⟩
  · simp only [true_iff]
    rintro ⟨on, lost, -⟩
    rw [on, lost] at kept
    cases kept
  · have own : some bytes = some [] ↔ bytes = [] := Option.some_inj
    rw [own]
    by_cases empty : bytes = []
    · simp [empty, on, lost]
    · simp [empty, on, lost]

end Engine

/-- The fault that an update was answered with. -/
def Outcome.fault? : Outcome τ → Option Fault
  | .answered (.updated (.error fault) _ _) => some fault
  | _ => none

theorem Outcome.eq_of_fault? {outcome : Outcome τ} {fault : Fault}
    (h : outcome.fault? = some fault) :
    ∃ applied answers, outcome = .answered (.updated (.error fault) applied answers) := by
  unfold fault? at h
  split at h
  next found applied answers =>
    cases h
    exact ⟨applied, answers, rfl⟩
  next => cases h

namespace Host

/-- **A failed update**, whatever its body would have done, has not run and has left the tables, the
generation and the cache as they were; and a process that opens the database after a crash recovers
the same records as it would have before the update, unless the update leaves a trace. -/
theorem failed_update_traceless_iff {path : Path} {limit : Nat} {host after : Host τ}
    {engine : Engine τ} {session : SessionId} {bytes : Bytes} {during : List (Call τ)}
    {apply : τ → τ} {fault : Fault} {applied : Bool} {answers : List (Answer τ)}
    (reachable : Reachable path limit host) (there : host.engine? 0 = some engine)
    (fails : host.run { top := ⟨0, .entering (.update session bytes during apply)⟩ } =
      (.answered (.updated (.error fault) applied answers), after)) :
    (applied = false ∧ answers = []) ∧
    (∃ changed, after.engine? 0 = some changed ∧ changed.tables = engine.tables ∧
      changed.database.generation = engine.database.generation ∧
      changed.database.cache = engine.database.cache) ∧
    ∀ config owner, config.problem? = none → config.blockLimit = limit →
      FitsMemory host.disk path → FitsMemory after.disk path →
      ∃ before beforeDisk later laterDisk,
        Database.openAt host.disk path config owner = (.ok before, beforeDisk) ∧
        Database.openAt after.disk path config owner = (.ok later, laterDisk) ∧
        (later.recovered = before.recovered ↔ ¬ engine.LeavesTrace bytes fault) := by
  have flat : (Call.update session bytes [] apply).IsFlat := rfl
  have fails' : host.run { top := ⟨0, .entering (.update session bytes [] apply)⟩ } = _ :=
    run_of_failed (.entering session) fails []
  obtain ⟨answered, moved⟩ := run_alone there flat
  rw [fails'] at answered moved
  obtain ⟨changed, alone⟩ : ∃ changed, engine.callAlone (.update session bytes [] apply) =
      (some (.updated (.error fault) applied answers), changed) :=
    ⟨_, Prod.ext answered.symm rfl⟩
  rw [alone] at moved
  obtain rfl : after = host.put 0 changed := moved
  obtain ⟨notApplied, noCalls, tables, generation, cache⟩ := Engine.callAlone_of_failed alone
  have unchanged := engine?_put_self there changed
  refine ⟨⟨notApplied, noCalls⟩, ⟨changed, unchanged, tables, generation, cache⟩, ?_⟩
  intro config owner sound same holds holds'
  subst same
  obtain ⟨ids, journal, records, torn, -, -, stands⟩ := reachable.sound
  rw [← (engine?_eq_some there).2] at holds ⊢
  exact Engine.recovered_of_failed (stands engine there) alone sound owner holds holds'

/-! ## An empty record cut off -/

/-- A first opening, a session, and a loss of power that comes after the next header. -/
def armed (database : Database) : Host Nat :=
  ((ofDatabase database firstOpening.2 0).run { top := ⟨0, .entering .connect⟩ }).2.serve
    (.armPower 2)

theorem reachable_armed {database : Database}
    (opens : Database.openAt .empty ⟨["", "db"]⟩ .testing "a" = (.ok database, firstOpening.2)) :
    Reachable ⟨["", "db"]⟩ Config.testing.blockLimit (armed database) :=
  ((Reachable.opened 0 rfl rfl (find?_empty_ne_file _) (find?_empty_ne_file _) opens).run
    _).served _

/-- An update of that host. -/
def armedUpdate (database : Database) (bytes : Bytes) : Outcome Nat × Host Nat :=
  (armed database).run { top := ⟨0, .entering (.update ⟨1⟩ bytes [] (· + 1))⟩ }

/-- What a process that opens the database of this disk recovers. -/
def recoveredFrom (disk : FileSystem) : Option (List Bytes) :=
  (Database.openAt disk ⟨["", "db"]⟩ .testing "b").1.toOption.map (·.recovered)

theorem recoveredFrom_eq_some {disk : FileSystem} {records : List Bytes}
    (h : recoveredFrom disk = some records) : ∃ database after,
      Database.openAt disk ⟨["", "db"]⟩ .testing "b" = (.ok database, after) ∧
        database.recovered = records := by
  obtain ⟨database, opened, recovered⟩ := Option.map_eq_some_iff.1 h
  exact ⟨database, _, Prod.ext (toOption_eq_some.1 opened) rfl, recovered⟩

theorem failed_update_traceless_iff_wholeRecord : ∃ (host after : Host Nat) (engine : Engine Nat)
    (fault : Fault) (applied : Bool) (answers : List (Answer Nat)),
    Reachable ⟨["", "db"]⟩ Config.testing.blockLimit host ∧ host.engine? 0 = some engine ∧
      host.run { top := ⟨0, .entering (.update ⟨1⟩ [3] [] (· + 1))⟩ } =
        (.answered (.updated (.error fault) applied answers), after) ∧
      fault.isPowerLoss = true ∧ applied = false ∧
      ∃ before beforeDisk later laterDisk,
        Database.openAt host.disk ⟨["", "db"]⟩ .testing "b" = (.ok before, beforeDisk) ∧
        Database.openAt after.disk ⟨["", "db"]⟩ .testing "b" = (.ok later, laterDisk) ∧
        later.recovered = before.recovered := by
  obtain ⟨database, opens⟩ := firstOpening_eq
  have computed : (firstOpening.1.toOption.map fun database =>
      ((armedUpdate database [3]).1.fault?.map (·.isPowerLoss),
        ((armed database).engine? 0).map (·.database.journal.tornTail),
        decide (FitsMemory (armed database).disk ⟨["", "db"]⟩),
        decide (FitsMemory (armedUpdate database [3]).2.disk ⟨["", "db"]⟩))) =
      some (some true, some none, true, true) := by
    decide +kernel
  have opened : firstOpening.1 = .ok database := congrArg Prod.fst opens
  rw [opened] at computed
  obtain ⟨lost, untorn, holds, holds'⟩ : _ ∧ _ ∧ _ ∧ _ := by
    simpa only [Except.toOption, Option.map_some, Option.some.injEq, Prod.mk.injEq] using computed
  obtain ⟨fault, failed, lost⟩ := Option.map_eq_some_iff.1 lost
  obtain ⟨engine, there, untorn⟩ := Option.map_eq_some_iff.1 untorn
  obtain ⟨applied, answers, answered⟩ := Outcome.eq_of_fault? failed
  have fails : (armed database).run { top := ⟨0, .entering (.update ⟨1⟩ [3] [] (· + 1))⟩ } =
      (.answered (.updated (.error fault) applied answers), (armedUpdate database [3]).2) :=
    Prod.ext answered rfl
  obtain ⟨⟨notApplied, -⟩, -, reopens⟩ :=
    failed_update_traceless_iff (reachable_armed opens) there fails
  obtain ⟨before, beforeDisk, later, laterDisk, opens', opens'', same⟩ :=
    reopens .testing "b" (by decide) rfl (of_decide_eq_true holds) (of_decide_eq_true holds')
  refine ⟨_, _, engine, fault, applied, answers, reachable_armed opens, there, fails, lost,
    notApplied, before, beforeDisk, later, laterDisk, opens', opens'', same.2 ?_⟩
  rintro ⟨-, -, nonempty⟩
  have ends : engine.database.journal.EndsInBlock engine.disk := by
    by_contra apart
    cases nonempty.2 apart
  obtain ⟨_, _, offset, marked, _⟩ := ends
  rw [untorn] at marked
  cases marked

/-- The record of a failed update is recovered if it is empty and only its header was written. -/
theorem failed_update_recovered_emptyRecord : ∃ (host after : Host Nat) (fault : Fault)
    (applied : Bool) (answers : List (Answer Nat)),
    Reachable ⟨["", "db"]⟩ Config.testing.blockLimit host ∧
      host.run { top := ⟨0, .entering (.update ⟨1⟩ [] [] (· + 1))⟩ } =
        (.answered (.updated (.error fault) applied answers), after) ∧
      ∃ before beforeDisk later laterDisk,
        Database.openAt host.disk ⟨["", "db"]⟩ .testing "b" = (.ok before, beforeDisk) ∧
        Database.openAt after.disk ⟨["", "db"]⟩ .testing "b" = (.ok later, laterDisk) ∧
        before.recovered = [] ∧ later.recovered = [[]] := by
  obtain ⟨database, opens⟩ := firstOpening_eq
  have computed : (firstOpening.1.toOption.map fun database =>
      ((armedUpdate database []).1.fault?.isSome, recoveredFrom (armed database).disk,
        recoveredFrom (armedUpdate database []).2.disk)) =
      some (true, some [], some [[]]) := by
    decide +kernel
  have opened : firstOpening.1 = .ok database := congrArg Prod.fst opens
  rw [opened] at computed
  obtain ⟨failed, nothing, trace⟩ : _ ∧ _ ∧ _ := by
    simpa only [Except.toOption, Option.map_some, Option.some.injEq, Prod.mk.injEq] using computed
  obtain ⟨fault, failed⟩ := Option.isSome_iff_exists.1 failed
  obtain ⟨applied, answers, answered⟩ := Outcome.eq_of_fault? failed
  obtain ⟨before, beforeDisk, opens', nothing⟩ := recoveredFrom_eq_some nothing
  obtain ⟨later, laterDisk, opens'', trace⟩ := recoveredFrom_eq_some trace
  exact ⟨armed database, (armedUpdate database []).2, fault, applied, answers,
    reachable_armed opens, Prod.ext answered rfl, before, beforeDisk, later, laterDisk,
    opens', opens'', nothing, trace⟩

end Host

end DurableStore
