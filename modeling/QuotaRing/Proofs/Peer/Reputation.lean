import QuotaRing.Proofs.Peer.Hearing
import QuotaRing.Proofs.Run

/-!
# What a node thinks of its peers

A node sends commands to lists of candidates and marks peers of itself, while
its clock goes on, also while it waits for answers.  A note is taken of every
mark and of every request with what came of it.  Main statement: after any run
those peers count as damaged of whom the last failure on record is neither too
old nor made up for by a success, and every command goes to the candidates of
good reputation, then to the others, up to the first that answers.
-/

namespace QuotaRing.Peer

open QuotaRing.Net (Endpoint)
open QuotaRing.Run (after history)

/-! ## Records -/

/-- What is recorded of a peer, with the reading of the clock. -/
inductive Note where
  | marked (peer : Endpoint) (reading : Int64)
  /-- A request was sent for a command, and something came of it. -/
  | sent (peer : Endpoint) (command : Command) (exchange : Exchange)
      (reading : Int64)

/-- What a note tells of a peer. -/
inductive Verdict where
  | failed (reading : Int64)
  | sound
  deriving DecidableEq

namespace Note

def peer : Note → Endpoint
  | marked peer _ => peer
  | sent peer _ _ _ => peer

/-- A rejection tells nothing of the peer that rejects. -/
def verdict? : Note → Option Verdict
  | marked _ reading => some (.failed reading)
  | sent _ _ .failed reading => some (.failed reading)
  | sent peer command (.answered status body) _ =>
      match command.outcomeOf peer status body with
      | .ok _ => some .sound
      | .error _ => none

end Note

/-- What was told last of a peer. -/
def lastVerdict? (notes : List Note) (peer : Endpoint) : Option Verdict :=
  ((notes.filter (·.peer == peer)).filterMap Note.verdict?).getLast?

/-- Whether the last that was told of a peer is a failure not long ago. -/
def isInDisrepute
    (cooldown : Span)
    (notes : List Note)
    (now : Int64)
    (peer : Endpoint) :
    Bool :=
  match lastVerdict? notes peer with
  | some (.failed reading) => now < Saturating.add reading cooldown.millis
  | _ => false

/-- The candidates to be asked: those of good reputation, then the others. -/
def askedByReputation
    (manner : Manner)
    (notes : List Note)
    (now : Int64)
    (candidates : List Endpoint) :
    List Endpoint :=
  (candidates.filter (!isInDisrepute manner.cooldown notes now ·) ++
    candidates.filter (isInDisrepute manner.cooldown notes now ·)).take
      (max 1 manner.maxAttempts)

theorem isInDisrepute_iff
    {cooldown : Span}
    {notes : List Note}
    {now : Int64}
    {peer : Endpoint} :
    isInDisrepute cooldown notes now peer = true ↔
      ∃ reading, lastVerdict? notes peer = some (.failed reading) ∧
        now < Saturating.add reading cooldown.millis := by
  rw [isInDisrepute]
  rcases lastVerdict? notes peer with _ | reading | _
  · simp
  · simp
  · simp

theorem lastVerdict?_concat (notes : List Note) (note : Note) (peer : Endpoint) :
    lastVerdict? (notes ++ [note]) peer =
      if note.peer = peer then note.verdict?.or (lastVerdict? notes peer)
      else lastVerdict? notes peer := by
  rw [lastVerdict?, List.filter_append, List.filter_cons]
  by_cases about : note.peer = peer
  · rw [if_pos (beq_iff_eq.2 about), if_pos about, List.filter_nil,
      List.filterMap_append, List.filterMap_cons]
    cases note.verdict? with
    | none => rw [List.filterMap_nil, List.append_nil]; rfl
    | some verdict => rw [List.filterMap_nil, List.getLast?_concat]; rfl
  · rw [if_neg (by simpa using about), if_neg about, List.filter_nil,
      List.append_nil]
    rfl

/-! ## Marks and records -/

namespace Damage

theorem lookup_cons
    (mark : Endpoint × Int64)
    (rest : List (Endpoint × Int64))
    (peer : Endpoint) :
    (mark :: rest).lookup peer =
      if mark.1 = peer then some mark.2 else rest.lookup peer := by
  by_cases same : mark.1 = peer
  · subst same
    rw [if_pos rfl]
    exact List.lookup_cons_self
  · rw [if_neg same, List.lookup_cons, beq_false_of_ne (Ne.symm same)]

theorem lookup_heal (damage : Damage) (peer other : Endpoint) :
    (damage.heal peer).marks.lookup other =
      if peer = other then Option.none else damage.marks.lookup other := by
  rw [heal]
  induction damage.marks with
  | nil => exact (ite_self _).symm
  | cons mark rest ih =>
      rw [List.filter_cons, lookup_cons]
      by_cases healed : mark.1 = peer
      · rw [if_neg (by simpa using healed), ih, healed]
        split
        · rfl
        · rfl
      · rw [if_pos (bne_iff_ne.2 healed), lookup_cons, ih]
        by_cases same : mark.1 = other
        · rw [if_pos same, if_pos same, if_neg fun alike =>
            healed (same.trans alike.symm)]
        · rw [if_neg same, if_neg same]

theorem lookup_mark
    (damage : Damage)
    (reading : Int64)
    (cooldown : Span)
    (peer other : Endpoint) :
    (damage.mark reading cooldown peer).marks.lookup other =
      if peer = other then some (Saturating.add reading cooldown.millis)
      else damage.marks.lookup other := by
  rw [mark, lookup_cons, lookup_heal]
  split
  · rfl
  · rfl

theorem isDamaged_heal
    (damage : Damage)
    (now : Int64)
    (peer other : Endpoint) :
    (damage.heal peer).isDamaged now other =
      if peer = other then false else damage.isDamaged now other := by
  rw [isDamaged, lookup_heal]
  by_cases same : peer = other
  · rw [if_pos same, if_pos same]
  · rw [if_neg same, if_neg same, isDamaged]

theorem isDamaged_mark
    (damage : Damage)
    (reading now : Int64)
    (cooldown : Span)
    (peer other : Endpoint) :
    (damage.mark reading cooldown peer).isDamaged now other =
      if peer = other then
        decide (now < Saturating.add reading cooldown.millis)
      else damage.isDamaged now other := by
  rw [isDamaged, lookup_mark]
  by_cases same : peer = other
  · rw [if_pos same, if_pos same]
  · rw [if_neg same, if_neg same, isDamaged]

/-- Whether those count as damaged who are in disrepute, at every reading. -/
def Reflects (damage : Damage) (cooldown : Span) (notes : List Note) : Prop :=
  ∀ now peer, damage.isDamaged now peer = isInDisrepute cooldown notes now peer

variable
    {damage : Damage}
    {cooldown : Span}
    {notes : List Note}

theorem reflects_none (cooldown : Span) : none.Reflects cooldown [] :=
  fun _ _ => rfl

/-- A failure is recorded by a mark. -/
theorem Reflects.mark
    (reflects : damage.Reflects cooldown notes)
    {note : Note}
    {reading : Int64}
    (failed : note.verdict? = some (.failed reading)) :
    (damage.mark reading cooldown note.peer).Reflects cooldown (notes ++ [note]) := by
  intro now peer
  rw [isDamaged_mark, isInDisrepute, lastVerdict?_concat, failed]
  by_cases about : note.peer = peer
  · rw [if_pos about, if_pos about]
    rfl
  · rw [if_neg about, if_neg about]
    exact reflects now peer

/-- A success takes the mark away. -/
theorem Reflects.heal
    (reflects : damage.Reflects cooldown notes)
    {note : Note}
    (sound : note.verdict? = some .sound) :
    (damage.heal note.peer).Reflects cooldown (notes ++ [note]) := by
  intro now peer
  rw [isDamaged_heal, isInDisrepute, lastVerdict?_concat, sound]
  by_cases about : note.peer = peer
  · rw [if_pos about, if_pos about]
    rfl
  · rw [if_neg about, if_neg about]
    exact reflects now peer

/-- A note that tells nothing leaves the marks as they are. -/
theorem Reflects.keep
    (reflects : damage.Reflects cooldown notes)
    {note : Note}
    (nothing : note.verdict? = Option.none) :
    damage.Reflects cooldown (notes ++ [note]) := by
  intro now peer
  rw [isInDisrepute, lastVerdict?_concat, nothing, Option.none_or, ite_self]
  exact reflects now peer

theorem Reflects.order_eq
    {manner : Manner}
    (reflects : damage.Reflects manner.cooldown notes)
    (now : Int64)
    (candidates : List Endpoint) :
    order manner damage now candidates =
      askedByReputation manner notes now candidates := by
  have same : damage.isDamaged now = isInDisrepute manner.cooldown notes now :=
    funext (reflects now)
  rw [order, same]
  rfl

end Damage

/-! ## Calls -/

/-- What is around a node: the clock, the peers and what has been recorded. -/
structure Scene (σ : Type) where
  now : Int64
  peers : σ
  notes : List Note

variable {σ : Type}

def Scene.atReading (scene : Scene σ) (now : Int64) : Scene σ :=
  { scene with now := now }

/--
The network on which every request for a command is recorded.  It may move the
clock on.
-/
def recorded
    (network : Network (Int64 × σ))
    (command : Command) :
    Network (Scene σ) := fun outgoing scene =>
  let (exchange, (now, peers)) := network outgoing (scene.now, scene.peers)
  (exchange,
    { now := now
      peers := peers
      notes := scene.notes ++ [.sent outgoing.peer command exchange now] })

/-- The answer that comes of an exchange with a peer, if there is any. -/
def Exchange.answer? (command : Command) (peer : Endpoint) :
    Exchange → Option (Except Error Outcome)
  | .failed => none
  | .answered status body => some (command.outcomeOf peer status body)

/-- Whether peers were asked in turn, one attempt each, and none was reached. -/
inductive Unreached (command : Command) : List Endpoint → List Note → Prop
  | nobody : Unreached command [] []
  | next
      {peers : List Endpoint}
      {notes : List Note}
      (peer : Endpoint)
      (reading : Int64)
      (others : Unreached command peers notes) :
      Unreached command (peer :: peers)
        (.sent peer command .failed reading :: notes)

/--
What may come of a command that goes to peers in turn, and what is recorded: no
answer of any of them, or that of the first to be reached, who is the last that
is asked.
-/
inductive Conducted (command : Command) (asked : List Endpoint) :
    Option (Except Error Outcome) → List Note → Prop
  | unheard {notes : List Note} (failures : Unreached command asked notes) :
      Conducted command asked none notes
  | heard
      {failing rest : List Endpoint}
      {peer : Endpoint}
      {notes : List Note}
      (split : asked = failing ++ peer :: rest)
      (failures : Unreached command failing notes)
      (status : Nat)
      (body : List UInt8)
      (reading : Int64) :
      Conducted command asked (some (command.outcomeOf peer status body))
        (notes ++ [.sent peer command (.answered status body) reading])

/--
What may come of it if no uri names some of the peers: the first such peer ends
the call unless one ahead of it is reached.
-/
inductive Ended (command : Command) (asked : List Endpoint) :
    Option (Except Error Outcome) → List Note → Prop
  | conducted
      {answer? : Option (Except Error Outcome)}
      {notes : List Note}
      (conducted : Conducted command asked answer? notes) :
      Ended command asked answer? notes
  | unnamed
      {failing rest : List Endpoint}
      {peer : Endpoint}
      {notes : List Note}
      (split : asked = failing ++ peer :: rest)
      (failures : Unreached command failing notes)
      (nameless : originOf? peer = none) :
      Ended command asked (some (.error (unusablePeer peer))) notes

/--
Whether a property of the marks of a node and of what is recorded is kept when
something comes of a request, whatever the clock reads then.
-/
structure IsKeptByExchanges
    (manner : Manner)
    (clock : Scene σ → Int64)
    (command : Command)
    (holds : Damage → List Note → Prop) :
    Prop where
  failed : ∀ {damage : Damage} {notes : List Note} (peer : Endpoint)
    (later : Scene σ),
    holds damage notes →
      holds (damage.mark (clock later) manner.cooldown peer)
        (notes ++ [.sent peer command .failed later.now])
  sound : ∀ {damage : Damage} {notes : List Note} {note : Note},
    note.verdict? = some .sound →
    holds damage notes →
      holds (damage.heal note.peer) (notes ++ [note])
  silent : ∀ {damage : Damage} {notes : List Note} {note : Note},
    note.verdict? = none → holds damage notes → holds damage (notes ++ [note])

section Call

variable
    {network : Network (Int64 × σ)}
    {clock : Scene σ → Int64}
    {manner : Manner}
    {trace : String}
    {command : Command}
    {damage : Damage}
    {scene : Scene σ}
    {asked : List Endpoint}
    {answer? : Option (Except Error Outcome)}
    {notes : List Note}

theorem Conducted.next
    (conducted : Conducted command asked answer? notes)
    (peer : Endpoint)
    (reading : Int64) :
    Conducted command (peer :: asked) answer?
      (.sent peer command .failed reading :: notes) := by
  cases conducted with
  | unheard failures => exact .unheard (.next peer reading failures)
  | heard split failures status body later =>
      rw [split]
      exact .heard rfl (.next peer reading failures) status body later

theorem Ended.next
    (ended : Ended command asked answer? notes)
    (peer : Endpoint)
    (reading : Int64) :
    Ended command (peer :: asked) answer?
      (.sent peer command .failed reading :: notes) := by
  cases ended with
  | conducted conducted => exact .conducted (conducted.next peer reading)
  | unnamed split failures nameless =>
      rw [split]
      exact .unnamed rfl (.next peer reading failures) nameless

theorem not_canAsk_of_nameless
    {peer : Endpoint}
    (nameless : originOf? peer = none) :
    ¬ CanAsk manner trace command peer := by
  rintro ⟨outgoing, sent⟩
  rw [Command.request, nameless] at sent
  cases sent

/-- A call ends with an answer, or unheard, if all peers can be asked. -/
theorem Ended.conducted_of_sendable
    (ended : Ended command asked answer? notes)
    (sendable : ∀ peer ∈ asked, CanAsk manner trace command peer) :
    Conducted command asked answer? notes := by
  cases ended with
  | conducted conducted => exact conducted
  | unnamed split failures nameless =>
      rw [split] at sendable
      exact absurd (sendable _ (List.mem_append_right _ List.mem_cons_self))
        (not_canAsk_of_nameless nameless)

/-- An attempt is recorded with what comes of it. -/
theorem attempt_recorded
    {peer : Endpoint}
    (sendable : CanAsk manner trace command peer)
    (network : Network (Int64 × σ))
    (scene : Scene σ) :
    ∃ exchange later,
      attempt (recorded network command) manner trace command peer scene =
        (exchange.answer? command peer, later) ∧
      later.notes = scene.notes ++ [.sent peer command exchange later.now] := by
  rcases sendable with ⟨outgoing, sent⟩
  have addressed := Command.peer_of_request sent
  rw [attempt, sent]
  simp only [bind, StateT.bind, recorded, addressed]
  rcases network outgoing (scene.now, scene.peers) with ⟨exchange, now, peers⟩
  let later : Scene σ :=
    { now := now
      peers := peers
      notes := scene.notes ++ [.sent peer command exchange now] }
  refine ⟨exchange, later, ?_, rfl⟩
  cases exchange with
  | failed => rfl
  | answered status body => rfl

/-- Asking in turn is recorded, and keeps what every exchange keeps. -/
theorem askEach_keeps
    {holds : Damage → List Note → Prop}
    (kept : IsKeptByExchanges manner clock command holds)
    (usable : ∀ peer ∈ asked,
      CanAsk manner trace command peer ∨ originOf? peer = none)
    (start : holds damage scene.notes) :
    ∃ answer? left later notes,
      askEach (recorded network command) manner clock trace command damage asked
          scene = ((answer?, left), later) ∧
        later.notes = scene.notes ++ notes ∧
        holds left later.notes ∧
        Ended command asked answer? notes := by
  induction asked generalizing damage scene with
  | nil =>
      refine ⟨none, damage, scene, [], rfl, ?_, start,
        .conducted (.unheard .nobody)⟩
      rw [List.append_nil]
  | cons peer rest ih =>
      rcases List.forall_mem_cons.1 usable with ⟨canAsk | nameless, others⟩
      · rcases attempt_recorded canAsk network scene with
          ⟨exchange, later, attempted, noted⟩
        rw [askEach_cons, attempted]
        cases exchange with
        | failed =>
            have marked := kept.failed peer later start
            rw [← noted] at marked
            rcases ih others marked with
              ⟨answer?, left, last, notes, asked, more, holds, ended⟩
            refine ⟨answer?, left, last,
              .sent peer command .failed later.now :: notes, asked, ?_, holds,
              ended.next peer later.now⟩
            rw [more, noted, List.append_assoc]
            rfl
        | answered status body =>
            have heard : Ended command (peer :: rest)
                (some (command.outcomeOf peer status body))
                [.sent peer command (.answered status body) later.now] :=
              .conducted (.heard rfl .nobody status body later.now)
            cases outcome : command.outcomeOf peer status body with
            | ok value =>
                rw [outcome] at heard
                have verdict : (Note.sent peer command (.answered status body)
                    later.now).verdict? = some .sound := by
                  rw [Note.verdict?, outcome]
                have healed := kept.sound verdict start
                rw [← noted] at healed
                simp only [Exchange.answer?, outcome]
                exact ⟨_, _, later, _, rfl, noted, healed, heard⟩
            | error error =>
                rw [outcome] at heard
                have verdict : (Note.sent peer command (.answered status body)
                    later.now).verdict? = none := by
                  rw [Note.verdict?, outcome]
                have same := kept.silent verdict start
                rw [← noted] at same
                simp only [Exchange.answer?, outcome]
                exact ⟨_, _, later, _, rfl, noted, same, heard⟩
      · rw [askEach_cons, attempt_of_unnamed nameless]
        refine ⟨_, damage, scene, [], rfl, ?_, start, .unnamed rfl .nobody nameless⟩
        rw [List.append_nil]

/-- That those count as damaged who are in disrepute is kept. -/
theorem isKeptByExchanges_reflects (manner : Manner) (command : Command) :
    IsKeptByExchanges manner (Scene.now : Scene σ → Int64) command
      fun damage notes => damage.Reflects manner.cooldown notes where
  failed peer later reflects := by
    have verdict : (Note.sent peer command .failed later.now).verdict? =
        some (.failed later.now) := rfl
    exact reflects.mark verdict
  sound verdict reflects := reflects.heal verdict
  silent verdict reflects := reflects.keep verdict

/-- A command goes to the candidates by their reputation. -/
theorem askBy_recorded
    {candidates : List Endpoint}
    (sendable : ∀ peer ∈ candidates, CanAsk manner trace command peer)
    (reflects : damage.Reflects manner.cooldown scene.notes) :
    ∃ answer? left later notes,
      askBy (recorded network command) manner Scene.now trace command damage
          candidates scene =
        ((answer?.getD (.error (nobodyReachable command.key
            (askedByReputation manner scene.notes scene.now candidates))),
          left), later) ∧
        later.notes = scene.notes ++ notes ∧
        left.Reflects manner.cooldown later.notes ∧
        Conducted command
          (askedByReputation manner scene.notes scene.now candidates)
          answer? notes := by
  have asked := reflects.order_eq scene.now candidates
  have can : ∀ peer ∈ order manner damage scene.now candidates,
      CanAsk manner trace command peer :=
    fun peer member => sendable peer (mem_of_mem_order member)
  rcases @askEach_keeps _ network _ _ _ _ _ _ _ _
      (isKeptByExchanges_reflects manner command)
      (fun peer member => .inl (can peer member)) reflects with
    ⟨answer?, left, later, notes, answered, noted, kept, ended⟩
  have conducted := ended.conducted_of_sendable can
  rw [asked] at answered conducted
  refine ⟨answer?, left, later, notes, ?_, noted, kept, conducted⟩
  simp only [askBy, asked, answered]

end Call

/-! ## What is recorded of a call -/

namespace Unreached

variable
    {command : Command}
    {asked : List Endpoint}
    {notes : List Note}

theorem peers_eq (unreached : Unreached command asked notes) :
    notes.map Note.peer = asked := by
  induction unreached with
  | nobody => rfl
  | next peer reading others ih => exact congrArg (List.cons peer) ih

theorem not_answered
    (unreached : Unreached command asked notes)
    {peer : Endpoint}
    {status : Nat}
    {body : List UInt8}
    {reading : Int64} :
    .sent peer command (.answered status body) reading ∉ notes := by
  induction unreached with
  | nobody => exact List.not_mem_nil
  | next peer reading others ih =>
      intro member
      rcases List.mem_cons.1 member with same | later
      · cases same
      · exact ih later

end Unreached

/-- No answer of a peer is taken for its being out of reach. -/
theorem isTransport_outcomeOf
    (command : Command)
    (peer : Endpoint)
    (status : Nat)
    (body : List UInt8) :
    isTransport (command.outcomeOf peer status body) = false := by
  cases command with
  | get key =>
      rw [Command.outcomeOf]
      split
      · rfl
      · split
        · rfl
        · rfl
  | put key value lifetime =>
      rw [Command.outcomeOf]
      split
      · rfl
      · rfl
  | patch key change lifetime =>
      rw [Command.outcomeOf]
      split
      · rfl
      · rfl
  | delete key =>
      rw [Command.outcomeOf]
      split
      · rfl
      · rfl

namespace Conducted

variable
    {command : Command}
    {asked : List Endpoint}
    {answer? : Option (Except Error Outcome)}
    {notes : List Note}
    (conducted : Conducted command asked answer? notes)

include conducted

theorem peers_prefix : notes.map Note.peer <+: asked := by
  cases conducted with
  | unheard failures => exact ⟨[], by rw [List.append_nil, failures.peers_eq]⟩
  | heard split failures status body reading =>
      rw [List.map_append, failures.peers_eq, split]
      exact ⟨_, List.append_assoc _ _ _⟩

theorem isTransport_iff (key : Store.Key) :
    isTransport (answer?.getD (.error (nobodyReachable key asked))) = true ↔
      Unreached command asked notes := by
  cases conducted with
  | unheard failures => exact ⟨fun _ => failures, fun _ => rfl⟩
  | heard split failures status body reading =>
      rw [Option.getD_some, isTransport_outcomeOf]
      constructor
      · intro failed
        cases failed
      · intro all
        exact absurd (List.mem_append_right _ List.mem_cons_self) all.not_answered

theorem unreached_of_nobody (nobody : asked = []) :
    Unreached command asked notes := by
  cases conducted with
  | unheard failures => exact failures
  | heard split failures status body reading =>
      rw [nobody] at split
      exact absurd split.symm (List.append_ne_nil_of_right_ne_nil _ (List.cons_ne_nil _ _))

end Conducted

/--
What it means that a command went to some of its candidates in turn, and what
was recorded of it.
-/
structure FailsOver
    (command : Command)
    (candidates asked : List Endpoint)
    (answer : Except Error Outcome)
    (notes : List Note) :
    Prop where
  /-- One attempt is made with everyone who is asked. -/
  distinct : (notes.map Note.peer).Nodup
  started : notes.map Note.peer <+: asked
  /-- The answer is that of the first who is reached, if somebody is. -/
  answered : ∃ answer?,
    Conducted command asked answer? notes ∧
      answer = answer?.getD (.error (nobodyReachable command.key asked))
  /-- Nobody was reachable if that is told, and whoever was asked has failed. -/
  unreachable : isTransport answer = true ↔
    candidates = [] ∨ Unreached command asked notes

/-! ## Runs -/

/-- What a node may do with its peers. -/
inductive Affair where
  | mark (peer : Endpoint)
  | call (trace : String) (command : Command) (candidates : List Endpoint)

/-- Whether all candidates are different and can be sent the command. -/
def Affair.IsProper (manner : Manner) : Affair → Prop
  | mark _ => True
  | call trace command candidates =>
      candidates.Nodup ∧ ∀ peer ∈ candidates, CanAsk manner trace command peer

/-- A node with what is around it. -/
structure Circle (σ : Type) where
  damage : Damage
  scene : Scene σ

namespace Circle

/-- A node that knows nothing of its peers yet. -/
def opened (peers : σ) : Circle σ where
  damage := .none
  scene := { now := 0, peers := peers, notes := [] }

/-- What a node does when its clock reads `now`. -/
def conduct
    (network : Network (Int64 × σ))
    (manner : Manner)
    (now : Int64) :
    Affair → StateM (Circle σ) (Option (Except Error Outcome))
  | .mark peer => fun circle =>
      (none,
        { damage := circle.damage.mark now manner.cooldown peer
          scene :=
            { circle.scene with
              now := now
              notes := circle.scene.notes ++ [.marked peer now] } })
  | .call trace command candidates => fun circle =>
      let ((answer, damage), scene) :=
        askBy (recorded network command) manner Scene.now trace command
          circle.damage candidates (circle.scene.atReading now)
      (some answer, { damage := damage, scene := scene })

/-- Whether the marks of a node go with what is recorded. -/
def IsKept (manner : Manner) (circle : Circle σ) : Prop :=
  circle.damage.Reflects manner.cooldown circle.scene.notes

variable
    {network : Network (Int64 × σ)}
    {manner : Manner}
    {now : Int64}
    {circle : Circle σ}

/-- What a call does that is made of a node whose marks go with the records. -/
theorem conduct_call
    (kept : circle.IsKept manner)
    {trace : String}
    {command : Command}
    {candidates : List Endpoint}
    (proper : (Affair.call trace command candidates).IsProper manner) :
    ∃ answer left notes,
      conduct network manner now (.call trace command candidates) circle =
        (some answer, left) ∧
      left.scene.notes = circle.scene.notes ++ notes ∧
      left.IsKept manner ∧
      FailsOver command candidates
        (askedByReputation manner circle.scene.notes now candidates) answer
        notes := by
  rcases @askBy_recorded _ network _ _ _ _ (circle.scene.atReading now) _
      proper.2 kept with
    ⟨answer?, damage, scene, notes, asked, noted, keeps, conducted⟩
  have distinct : (askedByReputation manner circle.scene.notes now
      candidates).Nodup := by
    rw [← Damage.Reflects.order_eq kept]
    exact nodup_order _ _ _ proper.1
  refine ⟨answer?.getD (.error (nobodyReachable command.key
      (askedByReputation manner circle.scene.notes now candidates))),
    ⟨damage, scene⟩, notes, ?_, noted, keeps, ?_⟩
  · simp only [conduct, asked]
    rfl
  · refine ⟨distinct.sublist conducted.peers_prefix.sublist,
      conducted.peers_prefix, ⟨answer?, conducted, rfl⟩, ?_⟩
    refine (conducted.isTransport_iff command.key).trans ⟨.inr, ?_⟩
    rintro (rfl | all)
    · exact conducted.unreached_of_nobody List.take_nil
    · exact all

theorem isKept_conduct
    (kept : circle.IsKept manner)
    {affair : Affair}
    (proper : affair.IsProper manner) :
    (conduct network manner now affair circle).2.IsKept manner := by
  cases affair with
  | mark peer =>
      have verdict : (Note.marked peer now).verdict? = some (.failed now) := rfl
      exact kept.mark verdict
  | call trace command candidates =>
      rcases conduct_call kept proper with
        ⟨answer, left, notes, conducted, _, keeps, _⟩
      rw [conducted]
      exact keeps

/--
After any run a peer counts as damaged exactly if the last failure on record of
it has not been made up for and is more recent than the cooldown, and every call
of the run went to its candidates by their reputation at its start.
-/
theorem asks_by_reputation
    (network : Network (Int64 × σ))
    (manner : Manner)
    (peers : σ)
    (moments : List (Moment Affair))
    (proper : ∀ moment ∈ moments, moment.event.IsProper manner) :
    (∀ now peer,
      (after (conduct network manner) (opened peers) moments).damage.isDamaged
          now peer = true ↔
        ∃ reading,
          lastVerdict?
              (after (conduct network manner) (opened peers)
                moments).scene.notes peer =
            some (.failed reading) ∧
          now < Saturating.add reading manner.cooldown.millis) ∧
    ∀ record ∈ history (conduct network manner) (opened peers) moments,
      ∀ trace command candidates,
        record.moment.event = .call trace command candidates →
        ∃ answer notes,
          record.answer = some answer ∧
          (conduct network manner record.moment.now record.moment.event
              record.before).2.scene.notes =
            record.before.scene.notes ++ notes ∧
          FailsOver command candidates
            (askedByReputation manner record.before.scene.notes
              record.moment.now candidates)
            answer notes := by
  have start : (opened peers).IsKept manner :=
    Damage.reflects_none manner.cooldown
  rcases Run.keeps (conduct network manner) (IsKept manner)
      (fun moment member circle kept => isKept_conduct kept (proper moment member))
      (opened peers) start with
    ⟨final, before⟩
  constructor
  · intro now peer
    rw [final now peer]
    exact isInDisrepute_iff
  · intro record member trace command candidates called
    rcases Run.of_mem_history _ member with ⟨among, answered⟩
    have fits := proper record.moment among
    rw [called] at answered fits ⊢
    rcases conduct_call (before record member) fits with
      ⟨answer, left, notes, conducted, noted, _, failsOver⟩
    rw [conducted] at answered ⊢
    exact ⟨answer, notes, answered, noted, failsOver⟩

/--
A peer that is found out of reach when a second has gone by is passed by until
thirty more have gone.
-/
theorem asks_by_reputation_again :
    let first : Endpoint := .v4 0x7f000001 8411
    let second : Endpoint := .v4 0x7f000001 8412
    let manner : Manner := ⟨.ofSeconds 1, 2, .ofSeconds 30, "n"⟩
    let get : Command := .get ⟨"k", by decide⟩
    let network : Network (Int64 × Unit) := fun outgoing (now, peers) =>
      if outgoing.peer = first then (.failed, (now + 1000, peers))
      else (.answered 404 [], (now + 10, peers))
    let call : Affair := .call "t" get [first, second]
    let moments : List (Moment Affair) := [⟨0, call⟩, ⟨5000, call⟩]
    (∀ moment ∈ moments, moment.event.IsProper manner) ∧
      ((after (conduct network manner) (opened ()) moments).scene.notes.map
        Note.peer = [first, second, second]) ∧
      (after (conduct network manner) (opened ()) moments).damage.isDamaged
        30999 first = true ∧
      ¬ (after (conduct network manner) (opened ()) moments).damage.isDamaged
        31000 first = true := by
  intro first second manner get network call moments
  have named : Http.IsFieldText "n" := by decide
  have traced : Http.IsFieldText "t" := by decide
  have fits : call.IsProper manner := by
    refine ⟨by decide, fun peer member => ?_⟩
    rcases List.mem_pair.1 member with rfl | rfl
    · exact ⟨_, request_eq rfl get named traced⟩
    · exact ⟨_, request_eq rfl get named traced⟩
  have proper : ∀ moment ∈ moments, moment.event.IsProper manner := by
    intro moment member
    rcases List.mem_pair.1 member with rfl | rfl
    · exact fits
    · exact fits
  have last : lastVerdict? (after (conduct network manner) (opened ())
      moments).scene.notes first = some (.failed 1000) := by decide +kernel
  have asked : (after (conduct network manner) (opened ())
      moments).scene.notes.map Note.peer = [first, second, second] := by
    decide +kernel
  have recent : (30999 : Int64) < Saturating.add 1000 manner.cooldown.millis := by
    decide +kernel
  have lapsed : ¬ (31000 : Int64) < Saturating.add 1000 manner.cooldown.millis := by
    decide +kernel
  have marks := (asks_by_reputation network manner () moments proper).1
  generalize after (conduct network manner) (opened ()) moments = left at *
  refine ⟨proper, asked, (marks 30999 first).2 ⟨1000, last, recent⟩, ?_⟩
  intro damaged
  rcases (marks 31000 first).1 damaged with ⟨reading, told, still⟩
  cases last.symm.trans told
  exact lapsed still

end Circle

end QuotaRing.Peer
