import QuotaRing.Proofs.Cluster.Walk
import QuotaRing.Proofs.Peer.Hearing

/-!
# Carried out once or not at all

A command goes to the owners of its key in turn, of which the node itself may be
one.  Main statement: whichever of the others can be reached and whichever
reject it, nobody is asked twice, the budget is kept, and a write is carried out
by exactly one store if it succeeds, after nobody but peers that are down, and
by none if it fails.
-/

namespace QuotaRing.Peer

open QuotaRing.Limit (Action)
open QuotaRing.Net (Endpoint)
open QuotaRing.Store (Key Table)

/-! ## Where a command goes -/

namespace Site

variable
    {site : Site}
    {key : Key}
    {peers : List Endpoint}
    {thenHere : Bool}

/-- A command stays at a node that is the first owner of its key. -/
theorem primary_of_here (stays : site.route key = .here) :
    site.view.primary key = site.view.self := by
  have first : site.view.primary key =
      ((site.view.owners key).head?).getD site.view.self := rfl
  rw [first]
  by_cases member : site.view.self ∈ site.view.owners key
  · rcases List.eq_append_cons_of_mem member with ⟨ahead, rest, owners, others⟩
    rw [route_of_mem owners others] at stays
    split at stays
    · subst ahead
      rw [owners]
      rfl
    · cases stays
  · rw [route_of_notMem member] at stays
    split at stays
    · rename_i none
      rw [none]
      rfl
    · cases stays

/-- The peers that a node asks are owners ahead of it. -/
theorem owners_of_among (goes : site.route key = .among peers thenHere) :
    peers.Sublist (site.view.owners key) ∧ site.view.self ∉ peers ∧
      (thenHere = true → peers.length < site.manner.budget ∧
        ∃ rest, site.view.owners key = peers ++ site.view.self :: rest) := by
  by_cases member : site.view.self ∈ site.view.owners key
  · rcases List.eq_append_cons_of_mem member with ⟨ahead, rest, owners, others⟩
    rw [route_of_mem owners others] at goes
    split at goes
    · cases goes
    · cases goes
      refine ⟨?_, others, fun turn => ⟨of_decide_eq_true turn, rest, owners⟩⟩
      rw [owners]
      exact List.sublist_append_left _ _
  · rw [route_of_notMem member] at goes
    split at goes
    · cases goes
    · cases goes
      exact ⟨List.Sublist.refl _, member, fun turn => nomatch turn⟩

/-- Whether a node carries a command out itself. -/
def runsHere
    {σ : Type}
    (network : Network σ)
    (now : Int64)
    (trace : String)
    (command : Command)
    (site : Site)
    (world : σ) :
    Bool :=
  match site.route command.key with
  | .here => true
  | .among peers thenHere =>
      thenHere && isTransport
        (ask network site.manner now trace command site.damage peers world).1.1

variable
    {σ : Type}
    {network : Network σ}
    {now : Int64}
    {trace : String}
    {command : Command}
    {world after : σ}

theorem dispatch_of_here (stays : site.route command.key = .here) :
    dispatch network now trace command (site, world) =
      (.ok (command.run now site.table).1,
        ({ site with table := (command.run now site.table).2 }, world)) := by
  rw [dispatch]
  simp only [stays]
  rfl

/-- Of a node that asks, the table changes only if it carries the command out. -/
theorem dispatch_of_among
    {answer : Except Error Outcome}
    {damage : Damage}
    (goes : site.route command.key = .among peers thenHere)
    (asked : ask network site.manner now trace command site.damage peers world =
      ((answer, damage), after)) :
    dispatch network now trace command (site, world) =
      if thenHere && isTransport answer then
        (.ok (command.run now site.table).1,
          ({ site with
              table := (command.run now site.table).2
              damage := damage }, after))
      else (answer, ({ site with damage := damage }, after)) := by
  rw [dispatch]
  simp only [goes, asked]
  cases answer with
  | ok outcome =>
      rw [isTransport, Bool.and_false]
      rfl
  | error error => cases error <;> cases thenHere <;> rfl

/--
What it means that a command has been carried out once or not at all, by a node
that carried it out itself or not, among peers that do as they are said to.
-/
structure AppliesOnce
    (site : Site)
    (now : Int64)
    (command : Command)
    (behaviour : Endpoint → Behaviour)
    (tables : Endpoint → Table)
    (here : Bool)
    (answer : Except Error Outcome)
    (left : Site)
    (after : Surroundings) :
    Prop where
  /-- Nobody is asked but the other owners of the key. -/
  among : ∀ peer ∈ after.asked,
    peer ∈ site.view.owners command.key ∧ peer ≠ site.view.self
  distinct : after.asked.Nodup
  budgeted : after.asked.length + here.toNat ≤ site.manner.budget
  /-- The node is the first owner, or it comes after peers that are down. -/
  turn : here = true →
    site.view.primary command.key = site.view.self ∨
      ∃ ahead rest,
        site.view.owners command.key = ahead ++ site.view.self :: rest ∧
        ahead.length < site.manner.budget ∧
        ∀ peer ∈ ahead, peer ∈ after.asked ∧ behaviour peer = .down
  own : left.table =
    if here then (command.run now site.table).2 else site.table
  reported : here = true → answer = .ok (command.run now site.table).1
  untouched : ∀ peer, peer ∉ after.served → after.tables peer = tables peer
  executed : ∀ peer ∈ after.served, ∃ reading,
    behaviour peer = .up reading ∧
    after.tables peer = (command.roundedUp.run reading (tables peer)).2 ∧
    answer = .ok (command.run reading (tables peer)).1
  /-- A write that succeeds is carried out once, after peers that are down. -/
  applied : command.writes = true → ∀ outcome, answer = .ok outcome →
    after.served.length + here.toNat = 1 ∧
      ∃ downs, (∀ peer ∈ downs, behaviour peer = .down) ∧
        after.asked = downs ++ after.served
  /-- A write that fails is carried out by nobody. -/
  refused : command.writes = true → ∀ error, answer = .error error →
    after.served = [] ∧ here = false
  /-- The first peer that can be reached is the last to be asked. -/
  answered : ∀ peers thenHere downs peer rest reading,
    site.route command.key = .among peers thenHere →
    order site.manner site.damage now peers = downs ++ peer :: rest →
    (∀ other ∈ downs, behaviour other = .down) →
    behaviour peer = .up reading →
    after.asked = downs ++ [peer] ∧ after.served = [peer] ∧ here = false
  /-- So it is if it rejects, and its status is what is reported. -/
  rejected : ∀ peers thenHere downs peer rest status body,
    site.route command.key = .among peers thenHere →
    order site.manner site.damage now peers = downs ++ peer :: rest →
    (∀ other ∈ downs, behaviour other = .down) →
    behaviour peer = .rejecting status body →
    after.asked = downs ++ [peer] ∧ after.served = [] ∧ here = false ∧
      answer =
        if command.tellsAbsence status.code then .ok (.value none)
        else .error (.rejected peer status.code)

section Applied

variable
    {site : Site}
    {now : Int64}
    {command : Command}
    {behaviour : Endpoint → Behaviour}
    {tables : Endpoint → Table}
    {answer : Except Error Outcome}
    {after : Surroundings}

/-- A node that is the first owner asks nobody. -/
theorem appliesOnce_of_here (stays : site.route command.key = .here) :
    AppliesOnce site now command behaviour tables true
      (.ok (command.run now site.table).1)
      { site with table := (command.run now site.table).2 } (.quiet tables) where
  among := List.forall_mem_nil _
  distinct := List.nodup_nil
  budgeted := Nat.le_max_left 1 _
  turn _ := .inl (primary_of_here stays)
  own := rfl
  reported _ := rfl
  untouched _ _ := rfl
  executed := List.forall_mem_nil _
  applied _ _ _ := ⟨rfl, [], List.forall_mem_nil _, rfl⟩
  refused _ _ failed := nomatch failed
  answered _ _ _ _ _ _ goes := by
    rw [stays] at goes
    cases goes
  rejected _ _ _ _ _ _ _ goes := by
    rw [stays] at goes
    cases goes

section Heard

variable
    (goes : site.route command.key = .among peers thenHere)
    (heard : Heard behaviour command (order site.manner site.damage now peers)
      (.quiet tables) answer after)

include goes heard

theorem among_of_heard :
    ∀ peer ∈ after.asked,
      peer ∈ site.view.owners command.key ∧ peer ≠ site.view.self := by
  rcases owners_of_among goes with ⟨owners, others, _⟩
  intro peer member
  have candidate := mem_of_mem_order (heard.asked_prefix.subset member)
  refine ⟨owners.subset candidate, ?_⟩
  rintro rfl
  exact others candidate

theorem nodup_of_heard : after.asked.Nodup := by
  have distinct := (Cluster.Ring.nodup_owners site.view.ring
    command.key.bytes).sublist (owners_of_among goes).1
  exact (nodup_order site.manner site.damage now distinct).sublist
    heard.asked_prefix.sublist

/-- A node whose turn comes when all peers ahead of it turned out to be down. -/
theorem appliesOnce_of_turn
    (turn : thenHere = true)
    (failed : isTransport answer = true)
    (damage : Damage) :
    AppliesOnce site now command behaviour tables true
      (.ok (command.run now site.table).1)
      { site with table := (command.run now site.table).2, damage := damage }
      after := by
  rcases owners_of_among goes with ⟨_, _, here⟩
  rcases here turn with ⟨fewer, rest, owners⟩
  rcases heard.of_isTransport failed with ⟨asked, served, down⟩
  have all := order_perm site.manner site.damage now (Nat.le_of_lt fewer)
  have unreached : ∀ downs peer later,
      order site.manner site.damage now peers = downs ++ peer :: later →
      behaviour peer = .down := by
    intro downs peer later split
    rw [split] at down
    exact down peer (List.mem_append_right _ List.mem_cons_self)
  refine
    { among := among_of_heard goes heard
      distinct := nodup_of_heard goes heard
      budgeted := ?budgeted
      turn := fun _ => .inr ⟨peers, rest, owners, fewer, ?turn⟩
      own := rfl
      reported := fun _ => rfl
      untouched := fun _ idle => heard.untouched idle
      executed := ?executed
      applied := ?applied
      refused := fun _ _ failed => nomatch failed
      answered := ?answered
      rejected := ?rejected }
  case budgeted =>
    rw [asked, all.length_eq]
    exact fewer
  case turn =>
    intro peer member
    have ordered := all.mem_iff.2 member
    rw [asked]
    exact ⟨ordered, down peer ordered⟩
  case executed =>
    rw [served]
    exact List.forall_mem_nil _
  case applied =>
    intro _ _ _
    rw [served, asked]
    exact ⟨rfl, _, down, (List.append_nil _).symm⟩
  case answered =>
    intro others _ downs peer later reading went split _ answers
    rw [goes] at went
    cases went
    rw [unreached downs peer later split] at answers
    cases answers
  case rejected =>
    intro others _ downs peer later status body went split _ rejects
    rw [goes] at went
    cases went
    rw [unreached downs peer later split] at rejects
    cases rejects

/-- A node that leaves a command to its peers. -/
theorem appliesOnce_of_away (damage : Damage) :
    AppliesOnce site now command behaviour tables false answer
      { site with damage := damage } after where
  among := among_of_heard goes heard
  distinct := nodup_of_heard goes heard
  budgeted := Nat.le_trans heard.asked_prefix.length_le
    (length_order_le site.manner site.damage now peers)
  turn := nofun
  own := rfl
  reported := nofun
  untouched _ idle := heard.untouched idle
  executed _ busy := heard.executed busy
  applied writes _ succeeded := heard.applied writes succeeded
  refused _ _ failed := ⟨heard.refused failed, rfl⟩
  answered others _ downs peer later reading went split down answers := by
    rw [goes] at went
    cases went
    rcases heard.answered split down answers with ⟨asked, served, _⟩
    exact ⟨asked, served, rfl⟩
  rejected others _ downs peer later status body went split down rejects := by
    rw [goes] at went
    cases went
    rcases heard.rejected split down rejects with ⟨asked, served, told⟩
    exact ⟨asked, served, rfl, told⟩

end Heard

end Applied

end Site

/-! ## Operations -/

namespace Command

/-- What a caller is told: a read that reaches nobody finds nothing. -/
def told (command : Command) (answer : Except Error Outcome) :
    Except Error Outcome :=
  if !command.writes && isTransport answer then .ok (.value none) else answer

theorem told_of_not_isTransport
    (command : Command)
    {answer : Except Error Outcome}
    (reached : isTransport answer = false) :
    command.told answer = answer := by
  rw [told, reached, Bool.and_false]
  rfl

theorem told_of_writes
    {command : Command}
    (writes : command.writes = true)
    (answer : Except Error Outcome) :
    command.told answer = answer := by
  rw [told, writes]
  rfl

/-- An operation tells what the dispatch of its command comes to. -/
theorem operate_eq_told
    {σ : Type}
    {network : Network σ}
    {now : Int64}
    {trace : String}
    {command : Command}
    {site left : Site}
    {world after : σ}
    {answer : Except Error Outcome}
    (dispatched : Site.dispatch network now trace command (site, world) =
      (answer, (left, after)))
    (fits : ∀ outcome, answer = .ok outcome →
      ∃ reading table, outcome = (command.run reading table).1) :
    command.operate (Site.datastore network now trace) (site, world) =
      (command.told answer, (left, after)) := by
  cases answer with
  | ok outcome =>
      rcases fits outcome rfl with ⟨reading, table, rfl⟩
      rw [operate_of_dispatch dispatched, told_of_not_isTransport _ rfl]
  | error error =>
      cases unreached : error.isTransport with
      | false =>
          have reached : isTransport (.error error) = false := unreached
          rw [told_of_not_isTransport _ reached]
          exact operate_of_error (.inr unreached) dispatched
      | true =>
          cases command with
          | get key =>
              rw [told, isTransport, unreached]
              exact operate_of_unreached unreached dispatched
          | put key value lifetime =>
              exact operate_of_error (.inl rfl) dispatched
          | patch key change lifetime =>
              exact operate_of_error (.inl rfl) dispatched
          | delete key => exact operate_of_error (.inl rfl) dispatched

end Command

namespace Site

variable
    {site left : Site}
    {now : Int64}
    {command : Command}
    {behaviour : Endpoint → Behaviour}
    {tables : Endpoint → Table}
    {after : Surroundings}

/-- What a caller is told of a read that reaches nobody changes nothing else. -/
theorem AppliesOnce.told
    {here : Bool}
    {answer : Except Error Outcome}
    (applies : AppliesOnce site now command behaviour tables here answer left
      after) :
    AppliesOnce site now command behaviour tables here (command.told answer) left
      after := by
  have succeeded : ∀ outcome, answer = .ok outcome →
      command.told answer = .ok outcome := by
    rintro outcome rfl
    exact command.told_of_not_isTransport rfl
  refine
    { applies with
      reported := fun turn => succeeded _ (applies.reported turn)
      executed := ?executed
      applied := ?applied
      refused := ?refused
      rejected := ?rejected }
  case executed =>
    intro peer busy
    rcases applies.executed peer busy with ⟨reading, answers, table, heard⟩
    exact ⟨reading, answers, table, succeeded _ heard⟩
  case applied =>
    intro writes
    rw [Command.told_of_writes writes]
    exact applies.applied writes
  case refused =>
    intro writes
    rw [Command.told_of_writes writes]
    exact applies.refused writes
  case rejected =>
    intro peers thenHere downs peer rest status body goes split down rejects
    rcases applies.rejected peers thenHere downs peer rest status body goes split
        down rejects with
      ⟨asked, served, elsewhere, heard⟩
    have reached : isTransport answer = false := by
      rw [heard]
      split <;> rfl
    rw [command.told_of_not_isTransport reached]
    exact ⟨asked, served, elsewhere, heard⟩

/-- A command that is dispatched is carried out once or not at all. -/
theorem dispatches_once
    (now : Int64)
    (trace : String)
    (behaviour : Endpoint → Behaviour)
    (tables : Endpoint → Table)
    (sendable : ∀ peer ∈ site.view.owners command.key,
      peer ≠ site.view.self → CanAsk site.manner trace command peer) :
    ∃ answer left after,
      dispatch (Surroundings.network behaviour command.roundedUp) now trace
          command (site, .quiet tables) = (answer, (left, after)) ∧
        (∀ outcome, answer = .ok outcome →
          ∃ reading table, outcome = (command.run reading table).1) ∧
        AppliesOnce site now command behaviour tables
          (runsHere (Surroundings.network behaviour command.roundedUp) now trace
            command site (.quiet tables))
          answer left after := by
  have own : ∀ outcome,
      (.ok (command.run now site.table).1 : Except Error Outcome) = .ok outcome →
      ∃ reading table, outcome = (command.run reading table).1 := by
    rintro _ ⟨⟩
    exact ⟨now, site.table, rfl⟩
  cases goes : site.route command.key with
  | here =>
      have stays : runsHere (Surroundings.network behaviour command.roundedUp) now
          trace command site (.quiet tables) = true := by
        simp only [runsHere, goes]
      rw [stays, dispatch_of_here goes]
      exact ⟨_, _, _, rfl, own, appliesOnce_of_here goes⟩
  | among peers thenHere =>
      rcases owners_of_among goes with ⟨owners, others, _⟩
      have can : ∀ peer ∈ peers, CanAsk site.manner trace command peer := by
        intro peer member
        apply sendable peer (owners.subset member)
        rintro rfl
        exact others member
      have heard := ask_heard behaviour site.damage now can (.quiet tables)
      cases asked : ask (Surroundings.network behaviour command.roundedUp)
          site.manner now trace command site.damage peers (.quiet tables) with
      | mk answered after =>
          rw [asked] at heard
          rw [dispatch_of_among goes asked]
          simp only [runsHere, goes, asked]
          by_cases turn : (thenHere && isTransport answered.1) = true
          · rw [if_pos turn, turn]
            rw [Bool.and_eq_true] at turn
            exact ⟨_, _, _, rfl, own,
              appliesOnce_of_turn goes heard turn.1 turn.2 answered.2⟩
          · rw [if_neg turn, Bool.eq_false_iff.2 turn]
            exact ⟨_, _, _, rfl, fun _ => heard.fits,
              appliesOnce_of_away goes heard answered.2⟩

/--
Whatever peers do that a node may have to ask, an operation is carried out once
or not at all.
-/
theorem operates_once
    (site : Site)
    (now : Int64)
    (trace : String)
    (command : Command)
    (behaviour : Endpoint → Behaviour)
    (tables : Endpoint → Table)
    (sendable : ∀ peer ∈ site.view.owners command.key,
      peer ≠ site.view.self → CanAsk site.manner trace command peer) :
    ∃ answer left after,
      command.operate
          (datastore (Surroundings.network behaviour command.roundedUp) now trace)
          (site, .quiet tables) = (answer, (left, after)) ∧
        AppliesOnce site now command behaviour tables
          (runsHere (Surroundings.network behaviour command.roundedUp) now trace
            command site (.quiet tables))
          answer left after := by
  rcases dispatches_once now trace behaviour tables sendable with
    ⟨answer, left, after, dispatched, fits, applies⟩
  exact ⟨command.told answer, left, after,
    Command.operate_eq_told dispatched fits, applies.told⟩

/-- A node of a cluster of two of which the other owns the key `k` first. -/
def pairedSite : Site :=
  (Fleet.openStation (.v4 0x7f000001 8410) [.v4 0x7f000001 8411]).node.site

theorem owners_pairedSite :
    ∃ rest, pairedSite.view.owners ⟨"k", by decide⟩ =
      .v4 0x7f000001 8411 :: rest := by
  -- The hundred and twenty-seventh position of the other member comes next.
  apply Cluster.Ring.owners_of_next (by decide : Endpoint.v4 0x7f000001 8411 ∈
      Cluster.View.withSelf (.v4 0x7f000001 8410) [.v4 0x7f000001 8411])
    (List.mem_map.2 ⟨126, by decide, rfl⟩)
  · decide +kernel
  · intro other listed another
    have listed : other ∈ [Endpoint.v4 0x7f000001 8411, .v4 0x7f000001 8410] :=
      listed
    rcases List.mem_pair.1 listed with rfl | rfl
    · exact absurd rfl another
    · have free : ((Cluster.claimedSpots Cluster.defaultShare
          (.v4 0x7f000001 8410)).all fun claimed =>
            decide (claimed.position < Cluster.ringHash (Text.Utf8.encode "k") ∨
              Cluster.ringHash (Text.Utf8.encode
                (Cluster.label (.v4 0x7f000001 8411) 126)) <
                claimed.position)) = true := by
        decide +kernel
      intro claimed claims
      exact of_decide_eq_true (List.all_eq_true.1 free claimed claims)

theorem order_pairedSite :
    ∃ peers thenHere rest,
      pairedSite.route ⟨"k", by decide⟩ = .among peers thenHere ∧
        order pairedSite.manner pairedSite.damage 0 peers =
          .v4 0x7f000001 8411 :: rest := by
  have nobody : pairedSite.view.self ∉ ([] : List Endpoint) := List.not_mem_nil
  have another : pairedSite.view.self ≠ .v4 0x7f000001 8411 := by decide
  have undamaged :
      pairedSite.damage.isDamaged 0 (.v4 0x7f000001 8411) = false := rfl
  rcases owners_pairedSite with ⟨rest, owners⟩
  rcases route_of_other owners nobody another with ⟨further, thenHere, goes⟩
  rcases @order_of_first pairedSite.manner _ _ _ undamaged further with
    ⟨after, ordered⟩
  exact ⟨_, thenHere, after, goes, ordered⟩

theorem canAsk_pairedSite (command : Command) :
    ∀ peer ∈ pairedSite.view.owners command.key,
      peer ≠ pairedSite.view.self →
        CanAsk pairedSite.manner "t" command peer := by
  intro peer owns another
  have listed : peer ∈ [Endpoint.v4 0x7f000001 8411, .v4 0x7f000001 8410] :=
    Cluster.Ring.mem_of_mem_owners owns
  have named : Http.IsFieldText pairedSite.manner.hostKey := by decide
  have traced : Http.IsFieldText "t" := by decide
  rcases List.mem_pair.1 listed with rfl | rfl
  · exact ⟨_, request_eq rfl command named traced⟩
  · exact absurd rfl another

/-- A write that the first owner rejects is carried out by nobody. -/
theorem operates_once_rejected :
    let peer : Endpoint := .v4 0x7f000001 8411
    let put : Command := .put ⟨"k", by decide⟩ [118] (.ofSeconds 60)
    let behaviour : Endpoint → Behaviour := fun _ => .rejecting ⟨503, by decide⟩ []
    ∃ left after,
      put.operate
          (datastore (Surroundings.network behaviour put.roundedUp) 0 "t")
          (pairedSite, .quiet fun _ => .empty) =
        (.error (.rejected peer 503), (left, after)) ∧
        left.table = .empty ∧ after.asked = [peer] ∧ after.served = [] := by
  intro peer put behaviour
  rcases operates_once pairedSite 0 "t" put behaviour (fun _ => .empty)
      (canAsk_pairedSite put) with
    ⟨answer, left, after, operated, applies⟩
  rcases order_pairedSite with ⟨peers, thenHere, rest, goes, ordered⟩
  rcases applies.rejected peers thenHere [] peer rest ⟨503, by decide⟩ [] goes
      ordered (List.forall_mem_nil _) rfl with
    ⟨asked, served, elsewhere, rfl⟩
  have own := applies.own
  rw [elsewhere] at own
  exact ⟨left, after, operated, own, asked, served⟩

/--
A read that the first owner refuses with the status of an absent value is no
error, since nothing tells the two apart.
-/
theorem absent_of_refused_read :
    let peer : Endpoint := .v4 0x7f000001 8411
    let get : Command := .get ⟨"k", by decide⟩
    let behaviour : Endpoint → Behaviour := fun _ => .rejecting ⟨404, by decide⟩ []
    ∃ left after,
      get.operate
          (datastore (Surroundings.network behaviour get.roundedUp) 0 "t")
          (pairedSite, .quiet fun _ => .empty) =
        (.ok (.value none), (left, after)) ∧
        after.asked = [peer] ∧ after.served = [] := by
  intro peer get behaviour
  rcases dispatches_once 0 "t" behaviour (fun _ => .empty)
      (canAsk_pairedSite get) with
    ⟨answer, left, after, dispatched, fits, applies⟩
  rcases order_pairedSite with ⟨peers, thenHere, rest, goes, ordered⟩
  rcases applies.rejected peers thenHere [] peer rest ⟨404, by decide⟩ [] goes
      ordered (List.forall_mem_nil _) rfl with
    ⟨asked, served, _, rfl⟩
  exact ⟨left, after, Command.operate_eq_told dispatched fits, asked, served⟩

end Site

end QuotaRing.Peer
