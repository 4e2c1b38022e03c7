import Mathlib.Data.List.Perm.Basic
import QuotaRing.Proofs.Peer.Asking
import QuotaRing.Proofs.Peer.Operations
import QuotaRing.Proofs.Peer.Remote

/-!
# What a node hears

Of the peers that a node asks some cannot be reached, some carry out what
arrives and answer, and some answer with an error.  A node that asks them in
turn hears nothing, or the first that can be reached: it has asked no others,
and of those it has asked at most the last has carried anything out.
-/

namespace QuotaRing.Peer

open QuotaRing.Net (Endpoint)
open QuotaRing.Store (Table)

/-! ## The order of asking -/

section Order

variable
    (manner : Manner)
    (damage : Damage)
    (now : Int64)
    {candidates : List Endpoint}

/-- Those who count as damaged come after the others, and nobody is lost. -/
theorem perm_candidates (candidates : List Endpoint) :
    (candidates.filter (!damage.isDamaged now ·) ++
      candidates.filter (damage.isDamaged now ·)).Perm candidates :=
  List.perm_append_comm.trans
    (List.filter_append_perm (damage.isDamaged now ·) candidates)

theorem nodup_order (distinct : candidates.Nodup) :
    (order manner damage now candidates).Nodup :=
  ((perm_candidates damage now candidates).nodup_iff.2 distinct).sublist
    (List.take_sublist _ _)

theorem length_order_le (candidates : List Endpoint) :
    (order manner damage now candidates).length ≤ manner.budget :=
  List.length_take_le _ _

/-- All candidates are asked if there are not too many. -/
theorem order_perm (few : candidates.length ≤ manner.budget) :
    (order manner damage now candidates).Perm candidates := by
  have all := perm_candidates damage now candidates
  rw [order, List.take_of_length_le (by rw [all.length_eq]; exact few)]
  exact all

end Order

/-! ## What peers do -/

/-- A status by which an answer reports an error. -/
structure ErrorStatus where
  code : Nat
  isError : 400 ≤ code := by decide
  deriving DecidableEq

/-- What becomes of the request for a command that is sent to a peer. -/
inductive Behaviour where
  /-- The peer cannot be reached and carries nothing out. -/
  | down
  /-- The peer carries out what arrives by its own clock and answers. -/
  | up (reading : Int64)
  /-- The peer answers with an error and carries nothing out. -/
  | rejecting (status : ErrorStatus) (body : List UInt8)

/-- The peers around a node and what has happened among them. -/
structure Surroundings where
  tables : Endpoint → Table
  /-- The peers that have been asked, in order. -/
  asked : List Endpoint
  /-- The peers that have carried a command out, in order. -/
  served : List Endpoint

namespace Surroundings

/-- Peers of which none has been asked. -/
def quiet (tables : Endpoint → Table) : Surroundings where
  tables := tables
  asked := []
  served := []

def contact (world : Surroundings) (peers : List Endpoint) : Surroundings :=
  { world with asked := world.asked ++ peers }

/-- A peer carries out a command on its table. -/
def execute
    (world : Surroundings)
    (peer : Endpoint)
    (reading : Int64)
    (arriving : Command) :
    Surroundings :=
  { world with
    tables := fun other =>
      if other = peer then (arriving.run reading (world.tables peer)).2
      else world.tables other
    served := world.served ++ [peer] }

/-- The network of peers that do as they are said to with what arrives. -/
def network
    (behaviour : Endpoint → Behaviour)
    (arriving : Command) :
    Network Surroundings := fun outgoing world =>
  let peer := outgoing.peer
  let world := world.contact [peer]
  match behaviour peer with
  | .down => (.failed, world)
  | .up reading =>
      let response := (arriving.run reading (world.tables peer)).1.response
      (.answered response.status response.content.toBytes,
        world.execute peer reading arriving)
  | .rejecting status body => (.answered status.code body, world)

theorem contact_contact
    (world : Surroundings)
    (first later : List Endpoint) :
    (world.contact first).contact later = world.contact (first ++ later) := by
  simp only [contact, List.append_assoc]

end Surroundings

/-! ## What answers report -/

namespace Command

/-- Whether a status tells that nothing is under the key of a command. -/
def tellsAbsence (command : Command) (status : Nat) : Bool :=
  !command.writes && status == 404

/-- An error is a rejection, unless it tells that there is nothing to read. -/
theorem outcomeOf_error
    (command : Command)
    (peer : Endpoint)
    (status : ErrorStatus)
    (body : List UInt8) :
    command.outcomeOf peer status.code body =
      if command.tellsAbsence status.code then .ok (.value none)
      else .error (.rejected peer status.code) := by
  have isError := status.isError
  have notOk : ¬ status.code = 200 := by omega
  have failed : ¬ isSuccess status.code = true := by
    simp only [isSuccess, Bool.and_eq_true, decide_eq_true_eq]
    omega
  cases command with
  | get key =>
      simp only [outcomeOf, if_neg notOk, tellsAbsence, writes, Bool.not_false,
        Bool.true_and, beq_iff_eq]
  | put key value lifetime => exact if_neg failed
  | patch key change lifetime => exact if_neg notOk
  | delete key => exact if_neg failed

/-- What a command reports does not depend on the lifetime of what it writes. -/
theorem run_roundedUp
    (command : Command)
    (reading : Int64)
    (table : Table) :
    (command.roundedUp.run reading table).1 = (command.run reading table).1 := by
  cases command <;> simp only [roundedUp, run, Table.patch]

theorem peer_of_request
    {command : Command}
    {peer : Endpoint}
    {name trace : String}
    {outgoing : Outgoing}
    (sent : command.request peer name trace = .ok outgoing) :
    outgoing.peer = peer := by
  simp only [request] at sent
  split at sent
  · cases sent
  · split at sent
    · cases sent
      rfl
    · cases sent

end Command

/-! ## Asking one peer after the other -/

section Asking

variable
    {behaviour : Endpoint → Behaviour}
    {manner : Manner}
    {damage : Damage}
    {now : Int64}
    {trace : String}
    {command : Command}

/-- Whether there is a request that carries a command to a peer. -/
def CanAsk
    (manner : Manner)
    (trace : String)
    (command : Command)
    (peer : Endpoint) :
    Prop :=
  ∃ outgoing, command.request peer manner.hostKey trace = .ok outgoing

/-- A peer that can be asked is asked, and does as it is said to. -/
theorem attempt_eq
    (behaviour : Endpoint → Behaviour)
    {peer : Endpoint}
    (sendable : CanAsk manner trace command peer)
    (world : Surroundings) :
    attempt (Surroundings.network behaviour command.roundedUp) manner trace
        command peer world =
      match behaviour peer with
      | .down => (none, world.contact [peer])
      | .up reading =>
          (some (.ok (command.run reading (world.tables peer)).1),
            (world.contact [peer]).execute peer reading command.roundedUp)
      | .rejecting status body =>
          (some (command.outcomeOf peer status.code body),
            world.contact [peer]) := by
  rcases sendable with ⟨outgoing, sent⟩
  have addressed := Command.peer_of_request sent
  rw [attempt, sent]
  simp only [bind, StateT.bind, Surroundings.network, addressed]
  cases behaviour peer with
  | down => rfl
  | rejecting status body => rfl
  | up reading =>
      have reported := outcomeOf_response command.roundedUp peer reading
        (world.tables peer)
      rw [Command.outcomeOf_roundedUp, Command.run_roundedUp] at reported
      simp only [Surroundings.contact, Command.run_roundedUp]
      rw [reported]
      rfl

/-- Peers that cannot be reached are asked in vain. -/
theorem askEach_down
    {downs : List Endpoint}
    (sendable : ∀ peer ∈ downs, CanAsk manner trace command peer)
    (down : ∀ peer ∈ downs, behaviour peer = .down)
    (rest : List Endpoint)
    (world : Surroundings) :
    askEach (Surroundings.network behaviour command.roundedUp) manner
        (fun _ => now) trace command damage (downs ++ rest) world =
      askEach (Surroundings.network behaviour command.roundedUp) manner
        (fun _ => now) trace command (damage.markAll now manner.cooldown downs) rest
        (world.contact downs) := by
  induction downs generalizing damage world with
  | nil =>
      rw [Surroundings.contact, List.append_nil]
      rfl
  | cons peer others ih =>
      have asked := attempt_eq behaviour (sendable peer List.mem_cons_self) world
      rw [down peer List.mem_cons_self] at asked
      rw [List.cons_append, askEach_cons, asked]
      dsimp only
      rw [ih (List.forall_mem_cons.1 sendable).2 (List.forall_mem_cons.1 down).2,
        Surroundings.contact_contact]
      rfl

/-- When nobody in a list can be reached, all of them have been asked. -/
theorem askEach_nobody
    {downs : List Endpoint}
    (sendable : ∀ peer ∈ downs, CanAsk manner trace command peer)
    (down : ∀ peer ∈ downs, behaviour peer = .down)
    (world : Surroundings) :
    askEach (Surroundings.network behaviour command.roundedUp) manner
        (fun _ => now) trace command damage downs world =
      ((none, damage.markAll now manner.cooldown downs),
        world.contact downs) := by
  rw [← List.append_nil downs, askEach_down sendable down, List.append_nil]
  rfl

/--
What a node hears when it asks peers in some order: nothing, or the answer of
the first that can be reached.
-/
inductive Heard
    (behaviour : Endpoint → Behaviour)
    (command : Command)
    (order : List Endpoint)
    (world : Surroundings) :
    Except Error Outcome → Surroundings → Prop
  | nothing
      (down : ∀ peer ∈ order, behaviour peer = .down) :
      Heard behaviour command order world
        (.error (nobodyReachable command.key order)) (world.contact order)
  | outcome
      (downs : List Endpoint)
      (first : Endpoint)
      (rest : List Endpoint)
      (reading : Int64)
      (split : order = downs ++ first :: rest)
      (down : ∀ peer ∈ downs, behaviour peer = .down)
      (answers : behaviour first = .up reading) :
      Heard behaviour command order world
        (.ok (command.run reading (world.tables first)).1)
        ((world.contact (downs ++ [first])).execute first reading
          command.roundedUp)
  | rejection
      (downs : List Endpoint)
      (first : Endpoint)
      (rest : List Endpoint)
      (status : ErrorStatus)
      (body : List UInt8)
      (split : order = downs ++ first :: rest)
      (down : ∀ peer ∈ downs, behaviour peer = .down)
      (answers : behaviour first = .rejecting status body) :
      Heard behaviour command order world
        (command.outcomeOf first status.code body)
        (world.contact (downs ++ [first]))

/-- Either nobody in a list is reached or somebody is the first. -/
theorem down_or_first (behaviour : Endpoint → Behaviour) (peers : List Endpoint) :
    (∀ peer ∈ peers, behaviour peer = .down) ∨
      ∃ downs first rest, peers = downs ++ first :: rest ∧
        (∀ peer ∈ downs, behaviour peer = .down) ∧ behaviour first ≠ .down := by
  induction peers with
  | nil => exact .inl (List.forall_mem_nil _)
  | cons peer others ih =>
      by_cases isDown : behaviour peer = .down
      · rcases ih with all | ⟨downs, first, rest, rfl, down, answers⟩
        · exact .inl (List.forall_mem_cons.2 ⟨isDown, all⟩)
        · exact .inr ⟨peer :: downs, first, rest, rfl,
            List.forall_mem_cons.2 ⟨isDown, down⟩, answers⟩
      · exact .inr ⟨[], peer, others, rfl, List.forall_mem_nil _, isDown⟩

theorem ask_heard
    (behaviour : Endpoint → Behaviour)
    (damage : Damage)
    (now : Int64)
    {candidates : List Endpoint}
    (sendable : ∀ peer ∈ candidates, CanAsk manner trace command peer)
    (world : Surroundings) :
    Heard behaviour command (order manner damage now candidates) world
      (ask (Surroundings.network behaviour command.roundedUp) manner now trace
        command damage candidates world).1.1
      (ask (Surroundings.network behaviour command.roundedUp) manner now trace
        command damage candidates world).2 := by
  have can : ∀ peer ∈ order manner damage now candidates,
      CanAsk manner trace command peer :=
    fun peer member => sendable peer (mem_of_mem_order member)
  simp only [ask, askBy]
  generalize order manner damage now candidates = asked at can ⊢
  rcases down_or_first behaviour asked with
    all | ⟨downs, first, rest, rfl, down, answers⟩
  · rw [askEach_nobody can all]
    exact .nothing all
  · have met := attempt_eq behaviour
      (can first (List.mem_append_right _ List.mem_cons_self))
      (world.contact downs)
    rw [Surroundings.contact_contact] at met
    rw [askEach_down (fun peer member => can peer (List.mem_append_left _ member))
      down]
    cases does : behaviour first with
    | down => exact absurd does answers
    | up reading =>
        rw [does] at met
        simp only [askEach_cons, met]
        exact .outcome downs first rest reading rfl down does
    | rejecting status body =>
        rw [does] at met
        have refused : Heard behaviour command (downs ++ first :: rest) world _ _ :=
          .rejection downs first rest status body rfl down does
        simp only [askEach_cons, met]
        cases told : command.outcomeOf first status.code body with
        | ok outcome => rw [told] at refused; exact refused
        | error error => rw [told] at refused; exact refused

end Asking

/-! ## What has happened after asking -/

/-- Whether an answer reports that no peer could be reached. -/
def isTransport (answer : Except Error Outcome) : Bool :=
  match answer with
  | .error error => error.isTransport
  | .ok _ => false

/-- What lies ahead of the first peer that can be reached is determined. -/
theorem first_unique
    {behaviour : Endpoint → Behaviour}
    {downs others rest later : List Endpoint}
    {first second : Endpoint}
    (same : downs ++ first :: rest = others ++ second :: later)
    (down : ∀ peer ∈ downs, behaviour peer = .down)
    (otherDown : ∀ peer ∈ others, behaviour peer = .down)
    (answers : behaviour first ≠ .down)
    (otherAnswers : behaviour second ≠ .down) :
    downs = others ∧ first = second := by
  induction downs generalizing others with
  | nil =>
      cases others with
      | nil => exact ⟨rfl, (List.cons.inj same).1⟩
      | cons peer _ =>
          have isDown := otherDown peer List.mem_cons_self
          rw [← (List.cons.inj same).1] at isDown
          exact absurd isDown answers
  | cons peer downs ih =>
      have isDown := down peer List.mem_cons_self
      cases others with
      | nil =>
          rw [(List.cons.inj same).1] at isDown
          exact absurd isDown otherAnswers
      | cons other others =>
          rcases List.cons.inj same with ⟨rfl, tails⟩
          rcases ih tails (List.forall_mem_cons.1 down).2
              (List.forall_mem_cons.1 otherDown).2 with
            ⟨rfl, rfl⟩
          exact ⟨rfl, rfl⟩

namespace Heard

variable
    {behaviour : Endpoint → Behaviour}
    {command : Command}
    {order : List Endpoint}
    {tables : Endpoint → Table}
    {answer : Except Error Outcome}
    {after : Surroundings}
    (heard : Heard behaviour command order (.quiet tables) answer after)

include heard

theorem asked_prefix : after.asked <+: order := by
  cases heard with
  | nothing down => exact List.prefix_rfl
  | outcome downs first rest reading split down answers =>
      exact ⟨rest, by rw [split]; exact List.append_assoc downs [first] rest⟩
  | rejection downs first rest status body split down answers =>
      exact ⟨rest, by rw [split]; exact List.append_assoc downs [first] rest⟩

/-- Who has not carried the command out has its table as before. -/
theorem untouched
    {peer : Endpoint}
    (idle : peer ∉ after.served) :
    after.tables peer = tables peer := by
  cases heard with
  | nothing down => rfl
  | outcome downs first rest reading split down answers =>
      exact if_neg fun same => idle (List.mem_singleton.2 same)
  | rejection downs first rest status body split down answers => rfl

/-- Who has carried the command out did so as it arrived, and was heard. -/
theorem executed
    {peer : Endpoint}
    (busy : peer ∈ after.served) :
    ∃ reading,
      behaviour peer = .up reading ∧
      after.tables peer =
        (command.roundedUp.run reading (tables peer)).2 ∧
      answer = .ok (command.run reading (tables peer)).1 := by
  cases heard with
  | nothing down => cases busy
  | outcome downs first rest reading split down answers =>
      rw [List.mem_singleton.1 busy]
      exact ⟨reading, answers, if_pos rfl, rfl⟩
  | rejection downs first rest status body split down answers => cases busy

/-- If no peer could be reached then all were asked, and none did anything. -/
theorem of_isTransport (failed : isTransport answer = true) :
    after.asked = order ∧ after.served = [] ∧
      ∀ peer ∈ order, behaviour peer = .down := by
  cases heard with
  | nothing down => exact ⟨rfl, rfl, down⟩
  | outcome downs first rest reading split down answers => cases failed
  | rejection downs first rest status body split down answers =>
      rw [Command.outcomeOf_error] at failed
      split at failed
      · cases failed
      · cases failed

/-- A write that succeeds was carried out by the first that could be reached. -/
theorem applied
    (writes : command.writes = true)
    {outcome : Outcome}
    (succeeded : answer = .ok outcome) :
    after.served.length = 1 ∧
      ∃ downs, (∀ peer ∈ downs, behaviour peer = .down) ∧
        after.asked = downs ++ after.served := by
  cases heard with
  | nothing down => cases succeeded
  | outcome downs first rest reading split down answers =>
      exact ⟨rfl, downs, down, rfl⟩
  | rejection downs first rest status body split down answers =>
      have present : ¬ command.tellsAbsence status.code = true := by
        rw [Command.tellsAbsence, writes]
        exact Bool.false_ne_true
      rw [Command.outcomeOf_error, if_neg present] at succeeded
      cases succeeded

theorem refused
    {error : Error}
    (failed : answer = .error error) :
    after.served = [] := by
  cases heard with
  | nothing down => rfl
  | outcome downs first rest reading split down answers => cases failed
  | rejection downs first rest status body split down answers => rfl

/-- The first that can be reached is the last to be asked, and is heard. -/
theorem of_first
    {downs rest : List Endpoint}
    {peer : Endpoint}
    (split : order = downs ++ peer :: rest)
    (down : ∀ other ∈ downs, behaviour other = .down)
    (answering : behaviour peer ≠ .down) :
    after.asked = downs ++ [peer] ∧
      ((∃ reading,
        behaviour peer = .up reading ∧ after.served = [peer] ∧
          answer = .ok (command.run reading (tables peer)).1) ∨
      ∃ status body,
        behaviour peer = .rejecting status body ∧ after.served = [] ∧
          answer =
            if command.tellsAbsence status.code then .ok (.value none)
            else .error (.rejected peer status.code)) := by
  cases heard with
  | nothing all =>
      have member : peer ∈ order := by
        rw [split]
        exact List.mem_append_right _ List.mem_cons_self
      exact absurd (all peer member) answering
  | outcome before first later reading divided ahead answers =>
      have other : behaviour first ≠ .down := by
        rw [answers]
        exact Behaviour.noConfusion
      rcases first_unique (split.symm.trans divided) down ahead answering other with
        ⟨rfl, rfl⟩
      exact ⟨rfl, .inl ⟨reading, answers, rfl, rfl⟩⟩
  | rejection before first later status body divided ahead answers =>
      have other : behaviour first ≠ .down := by
        rw [answers]
        exact Behaviour.noConfusion
      rcases first_unique (split.symm.trans divided) down ahead answering other with
        ⟨rfl, rfl⟩
      exact ⟨rfl, .inr ⟨status, body, answers, rfl,
        Command.outcomeOf_error _ _ _ _⟩⟩

theorem answered
    {downs rest : List Endpoint}
    {peer : Endpoint}
    {reading : Int64}
    (split : order = downs ++ peer :: rest)
    (down : ∀ other ∈ downs, behaviour other = .down)
    (answers : behaviour peer = .up reading) :
    after.asked = downs ++ [peer] ∧ after.served = [peer] ∧
      answer = .ok (command.run reading (tables peer)).1 := by
  have answering : behaviour peer ≠ .down := by
    rw [answers]
    exact Behaviour.noConfusion
  rcases heard.of_first split down answering with
    ⟨asked, ⟨_, same, served, told⟩ | ⟨_, _, same, _⟩⟩
  · rw [answers] at same
    cases same
    exact ⟨asked, served, told⟩
  · rw [answers] at same
    cases same

theorem rejected
    {downs rest : List Endpoint}
    {peer : Endpoint}
    {status : ErrorStatus}
    {body : List UInt8}
    (split : order = downs ++ peer :: rest)
    (down : ∀ other ∈ downs, behaviour other = .down)
    (rejects : behaviour peer = .rejecting status body) :
    after.asked = downs ++ [peer] ∧ after.served = [] ∧
      answer =
        if command.tellsAbsence status.code then .ok (.value none)
        else .error (.rejected peer status.code) := by
  have answering : behaviour peer ≠ .down := by
    rw [rejects]
    exact Behaviour.noConfusion
  rcases heard.of_first split down answering with
    ⟨asked, ⟨_, same, _⟩ | ⟨_, _, same, served, told⟩⟩
  · rw [rejects] at same
    cases same
  · rw [rejects] at same
    cases same
    exact ⟨asked, served, told⟩

/-- Every outcome that is heard is one that the command may have. -/
theorem fits
    {outcome : Outcome}
    (succeeded : answer = .ok outcome) :
    ∃ reading table, outcome = (command.run reading table).1 := by
  cases heard with
  | nothing down => cases succeeded
  | outcome downs first rest reading split down answers =>
      cases succeeded
      exact ⟨reading, tables first, rfl⟩
  | rejection downs first rest status body split down answers =>
      rw [Command.outcomeOf_error] at succeeded
      split at succeeded
      case isTrue absent =>
        cases succeeded
        cases command with
        | get key => exact ⟨0, .empty, rfl⟩
        | put key value lifetime => cases absent
        | patch key change lifetime => cases absent
        | delete key => cases absent
      case isFalse => cases succeeded

end Heard

end QuotaRing.Peer
