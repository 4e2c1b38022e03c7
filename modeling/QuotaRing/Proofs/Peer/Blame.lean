import QuotaRing.Node.Settings
import QuotaRing.Proofs.Peer.Once
import QuotaRing.Proofs.Peer.Reputation

/-!
# Whom a node blames

A node marks the peers that it finds out of reach, tells when nobody was within
reach, and then may carry a command out itself.  No request goes to a peer that
no uri names, nor to anyone if the name of the node or the trace may not stand
in a field.  Main statement: nobody is blamed but those who have been sent a
request in vain, whatever the peers do, exactly if the name and the trace may
stand in a field or no candidate has a uri.  A name that may not, which settings
give as well as any other, makes a node blame peers that it never asks and keep
to its own table.
-/

namespace QuotaRing.Peer

open QuotaRing.Net (Endpoint)

/-! ## What can be sent -/

/-- Whether the name of a node and a trace may stand in the fields of a request. -/
def Manner.CanSign (manner : Manner) (trace : String) : Prop :=
  (Text.Utf8.encode manner.hostKey).all Http.isAllowed = true ∧
    (Text.Utf8.encode trace).all Http.isAllowed = true

instance (manner : Manner) (trace : String) : Decidable (manner.CanSign trace) :=
  inferInstanceAs (Decidable (_ ∧ _))

section Sending

variable
    {manner : Manner}
    {trace : String}
    {peer : Endpoint}

theorem canAsk_of_signed
    (signed : manner.CanSign trace)
    (command : Command)
    (named : (originOf? peer).isSome = true) :
    CanAsk manner trace command peer := by
  rw [CanAsk, request_of_reachable named, signed.1, signed.2]
  exact ⟨_, rfl⟩

/-- A peer passes for out of reach if what a field should hold may not be sent. -/
theorem isSilent_of_unsigned
    {σ : Type}
    (unsigned : ¬ manner.CanSign trace)
    (command : Command)
    (named : (originOf? peer).isSome = true)
    (network : Network σ)
    (world : σ) :
    IsSilent network manner trace command world peer := by
  have forbidden : ¬ ((Text.Utf8.encode manner.hostKey).all Http.isAllowed &&
      (Text.Utf8.encode trace).all Http.isAllowed) = true := by
    rw [Bool.and_eq_true]
    exact unsigned
  rw [IsSilent, attempt, request_of_reachable named, if_neg forbidden]
  rfl

end Sending

/-! ## What comes of a call -/

/--
Whether all marks have been there before but those of peers who have been sent a
request for a command in vain, as notes tell.
-/
def Damage.BlamesOnly
    (left damage : Damage)
    (command : Command)
    (notes : List Note) :
    Prop :=
  ∀ peer limit, left.marks.lookup peer = some limit →
    damage.marks.lookup peer = some limit ∨
      ∃ reading, .sent peer command .failed reading ∈ notes

/--
What it means that a call for which some peers were to be asked blames nobody
but those who have been sent a request in vain.
-/
structure IsJust
    (manner : Manner)
    (trace : String)
    (command : Command)
    (asked : List Endpoint)
    (damage left : Damage)
    (answer : Except Error Outcome)
    (notes : List Note) :
    Prop where
  marked : left.BlamesOnly damage command notes
  /-- Nobody was within reach if that is told: all have been asked in vain. -/
  unreachable : isTransport answer = true → Unreached command asked notes
  /-- That nothing can be sent to the next peer is an error of another kind. -/
  unsendable : ∀ failing peer rest,
    asked = failing ++ peer :: rest →
    Unreached command failing notes →
    ¬ CanAsk manner trace command peer →
    ∃ error, answer = .error error ∧ error.isTransport = false

/--
What it means that a node blames nobody but those who have been sent a request
in vain, whatever it knows of its peers and whatever the network does.
-/
structure BlamesJustly
    (manner : Manner)
    (trace : String)
    (command : Command)
    (candidates : List Endpoint) :
    Prop where
  calls : ∀ {σ : Type}
    (network : Network (Int64 × σ))
    (clock : Scene σ → Int64)
    (damage : Damage)
    (scene : Scene σ),
    ∃ answer left later notes,
      askBy (recorded network command) manner clock trace command damage
          candidates scene = ((answer, left), later) ∧
        later.notes = scene.notes ++ notes ∧
        IsJust manner trace command
          (order manner damage (clock scene) candidates) damage left answer notes
  /-- It takes the place of its peers only when all have been asked in vain. -/
  failovers : ∀ {σ : Type}
    (network : Network (Int64 × σ))
    (now : Int64)
    (site : Site)
    (thenHere : Bool)
    (scene : Scene σ),
    site.manner = manner →
    site.route command.key = .among candidates thenHere →
    site.runsHere (recorded network command) now trace command scene = true →
    ∃ notes,
      (Site.dispatch (recorded network command) now trace command
          (site, scene)).2.2.notes = scene.notes ++ notes ∧
        Unreached command (order manner site.damage now candidates) notes

namespace Damage.BlamesOnly

variable
    {command : Command}
    {left damage : Damage}
    {notes : List Note}
    (blames : left.BlamesOnly damage command notes)

theorem refl (damage : Damage) (command : Command) :
    damage.BlamesOnly damage command [] :=
  fun _ _ marked => .inl marked

include blames

theorem concat (note : Note) : left.BlamesOnly damage command (notes ++ [note]) := by
  intro peer limit marked
  rcases blames peer limit marked with before | ⟨reading, sent⟩
  · exact .inl before
  · exact .inr ⟨reading, List.mem_append_left _ sent⟩

theorem heal (peer : Endpoint) :
    (left.heal peer).BlamesOnly damage command notes := by
  intro other limit marked
  rw [lookup_heal] at marked
  split at marked
  case isTrue => cases marked
  case isFalse => exact blames other limit marked

theorem mark
    (reading later : Int64)
    (cooldown : Span)
    (peer : Endpoint) :
    (left.mark reading cooldown peer).BlamesOnly damage command
      (notes ++ [.sent peer command .failed later]) := by
  intro other limit marked
  rw [lookup_mark] at marked
  split at marked
  case isTrue same =>
    rw [← same]
    exact .inr ⟨later, List.mem_append_right _ List.mem_cons_self⟩
  case isFalse => exact blames.concat _ other limit marked

end Damage.BlamesOnly

section Call

variable
    {σ : Type}
    {network : Network (Int64 × σ)}
    {clock : Scene σ → Int64}
    {manner : Manner}
    {trace : String}
    {command : Command}
    {asked candidates : List Endpoint}
    {damage left : Damage}
    {answer? : Option (Except Error Outcome)}
    {notes : List Note}

/-- That nobody is blamed since some notes but who was asked in vain is kept. -/
theorem isKeptByExchanges_blamesOnly
    (manner : Manner)
    (clock : Scene σ → Int64)
    (command : Command)
    (damage : Damage)
    (earlier : List Note) :
    IsKeptByExchanges manner clock command fun left notes =>
      ∃ since, notes = earlier ++ since ∧ left.BlamesOnly damage command since where
  failed := by
    rintro left _ peer later ⟨since, rfl, blames⟩
    exact ⟨_, List.append_assoc _ _ _,
      blames.mark (clock later) later.now manner.cooldown peer⟩
  sound := by
    rintro left _ note _ ⟨since, rfl, blames⟩
    exact ⟨_, List.append_assoc _ _ _, (blames.heal note.peer).concat note⟩
  silent := by
    rintro left _ note _ ⟨since, rfl, blames⟩
    exact ⟨_, List.append_assoc _ _ _, blames.concat note⟩

theorem Ended.isJust
    (ended : Ended command asked answer? notes)
    (blames : left.BlamesOnly damage command notes) :
    IsJust manner trace command asked damage left
      (answer?.getD (.error (nobodyReachable command.key asked))) notes where
  marked := blames
  unreachable failed := by
    cases ended with
    | conducted conducted => exact (conducted.isTransport_iff command.key).1 failed
    | unnamed => cases failed
  unsendable := by
    intro failing peer rest split failures _
    cases ended with
    | unnamed => exact ⟨_, rfl, rfl⟩
    | conducted conducted =>
        cases conducted with
        | unheard all =>
            -- Nobody but those ahead has been asked, so nobody is left.
            have alike := all.peers_eq.symm.trans failures.peers_eq
            rw [split] at alike
            exact absurd (List.self_eq_append_right.1 alike.symm)
              (List.cons_ne_nil _ _)
        | heard _ _ status body reading =>
            exact absurd (List.mem_append_right _ List.mem_cons_self)
              failures.not_answered

/-- A call blames justly if nobody has a uri to whom nothing can be sent. -/
theorem isJust_of_usable
    (usable : ∀ peer ∈ candidates,
      CanAsk manner trace command peer ∨ originOf? peer = none)
    (network : Network (Int64 × σ))
    (clock : Scene σ → Int64)
    (damage : Damage)
    (scene : Scene σ) :
    ∃ answer left later notes,
      askBy (recorded network command) manner clock trace command damage
          candidates scene = ((answer, left), later) ∧
        later.notes = scene.notes ++ notes ∧
        IsJust manner trace command
          (order manner damage (clock scene) candidates) damage left answer
          notes := by
  have blames : ∃ since, scene.notes = scene.notes ++ since ∧
      damage.BlamesOnly damage command since :=
    ⟨[], (List.append_nil _).symm, .refl damage command⟩
  rcases @askEach_keeps _ network _ _ _ _ _ _ _ _
      (isKeptByExchanges_blamesOnly manner clock command damage scene.notes)
      (fun peer member => usable peer (mem_of_mem_order member)) blames with
    ⟨answer?, left, later, notes, asked, noted, ⟨since, noted', marked⟩, ended⟩
  rw [← List.append_cancel_left (noted.symm.trans noted')] at marked
  refine ⟨_, left, later, notes, ?_, noted, ended.isJust marked⟩
  simp only [askBy, asked]

theorem blamesJustly_of_usable
    (usable : ∀ peer ∈ candidates,
      CanAsk manner trace command peer ∨ originOf? peer = none) :
    BlamesJustly manner trace command candidates where
  calls := isJust_of_usable usable
  failovers := by
    rintro σ network now site thenHere scene rfl goes here
    rcases isJust_of_usable usable network (fun _ => now) site.damage scene with
      ⟨answer, left, later, notes, asked, noted, just⟩
    have asks : ask (recorded network command) site.manner now trace command
        site.damage candidates scene = ((answer, left), later) := asked
    simp only [Site.runsHere, goes, asks] at here
    refine ⟨notes, ?_, just.unreachable (Bool.and_eq_true_iff.1 here).2⟩
    rw [Site.dispatch_of_among goes asks, if_pos here]
    exact noted

/-! ## A name that may not be sent -/

/--
If the name or the trace may not stand in a field, nothing is sent to those who
are asked, and who is marked stays so.
-/
theorem askEach_unsigned
    (unsigned : ¬ manner.CanSign trace)
    (asked : List Endpoint)
    (damage : Damage)
    (scene : Scene σ) :
    ∃ answer? left,
      askEach (recorded network command) manner clock trace command damage asked
          scene = ((answer?, left), scene) ∧
        ∀ peer, damage.marks.lookup peer ≠ none →
          left.marks.lookup peer ≠ none := by
  induction asked generalizing damage with
  | nil => exact ⟨none, damage, rfl, fun _ marked => marked⟩
  | cons peer rest ih =>
      rw [askEach_cons]
      by_cases named : originOf? peer = none
      · rw [attempt_of_unnamed named]
        exact ⟨_, damage, rfl, fun _ marked => marked⟩
      · have silent := isSilent_of_unsigned unsigned command
          (Option.isSome_iff_ne_none.2 named) (recorded network command) scene
        rw [IsSilent] at silent
        rw [silent]
        rcases ih (damage.mark (clock scene) manner.cooldown peer) with
          ⟨answer?, left, asked, stays⟩
        refine ⟨answer?, left, asked, fun other marked => stays other ?_⟩
        rw [Damage.lookup_mark]
        split
        · exact Option.some_ne_none _
        · exact marked

end Call

/-- The marks by which all but one of some peers count as damaged. -/
def Damage.sparing (peer : Endpoint) (peers : List Endpoint) : Damage where
  marks := (peers.filter (· != peer)).map (·, Int64.maxValue)

/-- Of peers that are marked alike each is found marked so. -/
theorem Damage.lookup_marked_alike
    {peer : Endpoint}
    {peers : List Endpoint}
    (among : peer ∈ peers)
    (limit : Int64) :
    (peers.map (·, limit)).lookup peer = some limit := by
  induction peers with
  | nil => cases among
  | cons first rest ih =>
      rw [List.map_cons, lookup_cons]
      split
      case isTrue => rfl
      case isFalse another =>
        exact ih ((List.mem_cons.1 among).resolve_left (Ne.symm another))

theorem Damage.lookup_sparing (peer : Endpoint) (peers : List Endpoint) :
    (sparing peer peers).marks.lookup peer = Option.none := by
  rw [List.lookup_eq_none_iff]
  intro mark member
  rcases List.mem_map.1 member with ⟨other, among, rfl⟩
  rw [bne_comm]
  exact (List.mem_filter.1 among).2

theorem Damage.isDamaged_sparing
    {peer other : Endpoint}
    {peers : List Endpoint}
    (among : other ∈ peers) :
    (sparing peer peers).isDamaged 0 other = (other != peer) := by
  by_cases same : other = peer
  · rw [same, isDamaged, lookup_sparing, bne_self_eq_false]
  · have marked : other ∈ peers.filter (· != peer) :=
      List.mem_filter.2 ⟨among, bne_iff_ne.2 same⟩
    have found : (sparing peer peers).marks.lookup other = some Int64.maxValue :=
      lookup_marked_alike marked Int64.maxValue
    rw [isDamaged, found, bne_iff_ne.2 same]
    rfl

/-- A candidate that is spared is asked first. -/
theorem order_sparing
    (manner : Manner)
    {peer : Endpoint}
    {candidates : List Endpoint}
    (among : peer ∈ candidates) :
    ∃ after,
      order manner (.sparing peer candidates) 0 candidates = peer :: after := by
  have spared : candidates.filter
      (!(Damage.sparing peer candidates).isDamaged 0 ·) =
        candidates.filter (· == peer) := by
    apply List.filter_congr
    intro other member
    rw [Damage.isDamaged_sparing member, bne, Bool.not_not]
  rcases Nat.exists_eq_add_of_lt (Nat.le_max_left 1 manner.maxAttempts) with
    ⟨more, budget⟩
  rw [order, spared, Manner.budget, budget]
  cases kept : candidates.filter (· == peer) with
  | nil =>
      have member : peer ∈ candidates.filter (· == peer) :=
        List.mem_filter.2 ⟨among, beq_self_eq_true peer⟩
      rw [kept] at member
      cases member
  | cons first rest =>
      have member : first ∈ candidates.filter (· == peer) := by
        rw [kept]
        exact List.mem_cons_self
      rw [beq_iff_eq.1 (List.mem_filter.1 member).2, List.cons_append,
        Nat.zero_add, List.take_succ_cons]
      exact ⟨_, rfl⟩

/-- A candidate with a uri may be marked although nothing is sent to it. -/
theorem not_blamesJustly
    {manner : Manner}
    {trace : String}
    (unsigned : ¬ manner.CanSign trace)
    (command : Command)
    {candidates : List Endpoint}
    {peer : Endpoint}
    (among : peer ∈ candidates)
    (named : (originOf? peer).isSome = true) :
    ¬ BlamesJustly manner trace command candidates := by
  intro just
  let network : Network (Int64 × Unit) := fun _ world => (.failed, world)
  let clock : Scene Unit → Int64 := fun _ => 0
  let scene : Scene Unit := { now := 0, peers := (), notes := [] }
  -- The others are marked, or one without a uri might end the call before.
  let damage := Damage.sparing peer candidates
  rcases just.calls network clock damage scene with
    ⟨answer, left, later, notes, asked, noted, blames⟩
  rcases order_sparing manner among with ⟨after, ordered⟩
  have silent := isSilent_of_unsigned unsigned command named
    (recorded network command) scene
  rw [IsSilent] at silent
  rcases @askEach_unsigned _ network clock _ _ command unsigned after
      (damage.mark 0 manner.cooldown peer) scene with
    ⟨answer?, marks, others, stays⟩
  have first : askEach (recorded network command) manner clock trace command
      damage (peer :: after) scene = ((answer?, marks), scene) := by
    rw [askEach_cons, silent]
    exact others
  simp only [askBy, clock, damage, ordered, first] at asked
  cases asked
  have nothing : notes = [] := List.self_eq_append_right.1 noted
  have marked : left.marks.lookup peer ≠ none := by
    apply stays
    rw [Damage.lookup_mark, if_pos rfl]
    exact Option.some_ne_none _
  rcases Option.ne_none_iff_exists'.1 marked with ⟨limit, mark⟩
  rcases blames.marked peer limit mark with before | ⟨reading, sent⟩
  · cases (Damage.lookup_sparing peer candidates).symm.trans before
  · rw [nothing] at sent
    cases sent

/--
Nobody is blamed but those who have been sent a request in vain, exactly if the
name of the node and the trace may stand in a field or no candidate has a uri.
-/
theorem blamesJustly_iff
    (manner : Manner)
    (trace : String)
    (command : Command)
    (candidates : List Endpoint) :
    BlamesJustly manner trace command candidates ↔
      manner.CanSign trace ∨ ∀ peer ∈ candidates, originOf? peer = none := by
  constructor
  · intro just
    by_contra unfit
    rw [not_or] at unfit
    rcases unfit with ⟨unsigned, others⟩
    apply others
    intro peer among
    by_contra named
    exact not_blamesJustly unsigned command among
      (Option.isSome_iff_ne_none.2 named) just
  · intro fits
    apply blamesJustly_of_usable
    intro peer among
    rcases fits with signed | nobody
    · by_cases named : originOf? peer = none
      · exact .inr named
      · exact .inl (canAsk_of_signed signed command
          (Option.isSome_iff_ne_none.2 named))
    · exact .inr (nobody peer among)

namespace Site

/--
A node whose name or trace may not stand in a field asks nobody and carries out
every command of which its turn comes within the budget.
-/
theorem dispatch_of_unsigned
    {σ : Type}
    {site : Site}
    {trace : String}
    {command : Command}
    {ahead rest : List Endpoint}
    (owners : site.view.owners command.key = ahead ++ site.view.self :: rest)
    (others : site.view.self ∉ ahead)
    (fewer : ahead.length < site.manner.budget)
    (named : ∀ peer ∈ ahead, (originOf? peer).isSome = true)
    (unsigned : ¬ site.manner.CanSign trace)
    (network : Network σ)
    (now : Int64)
    (world : σ) :
    ∃ damage,
      dispatch network now trace command (site, world) =
        (.ok (command.run now site.table).1,
          ({ site with
              table := (command.run now site.table).2
              damage := damage }, world)) := by
  have silent : ∀ peer ∈ ahead,
      IsSilent network site.manner trace command world peer :=
    fun peer member =>
      isSilent_of_unsigned unsigned command (named peer member) network world
  have any : site.damage.MarksOnly fun _ => True := fun _ _ => trivial
  rcases dispatch_of_self now owners others fewer (fun _ _ => trivial) silent
      any with
    ⟨damage, _, dispatched⟩
  exact ⟨damage, dispatched⟩

theorem owners_pairedSite_eq :
    pairedSite.view.owners ⟨"k", by decide⟩ =
      [.v4 0x7f000001 8411, .v4 0x7f000001 8410] := by
  let listed : List Endpoint := [.v4 0x7f000001 8411, .v4 0x7f000001 8410]
  have keeps : listed.all
      (Cluster.Ring.keepsFirst listed Cluster.defaultShare) = true := by
    decide +kernel
  have distinct : (pairedSite.view.owners ⟨"k", by decide⟩).Nodup :=
    Cluster.Ring.nodup_owners _ _
  have all : (pairedSite.view.owners ⟨"k", by decide⟩).Perm listed := by
    apply (List.perm_ext_iff_of_nodup distinct (by decide)).2
    intro member
    constructor
    · exact Cluster.Ring.mem_of_mem_owners
    · intro among
      exact Cluster.Ring.mem_owners_of_holds among
        (Cluster.Ring.holds_of_keepsFirst keeps member among) _
  rcases owners_pairedSite with ⟨rest, owners⟩
  rw [owners] at all ⊢
  rw [List.perm_singleton.1 ((List.perm_cons _).1 all)]

/--
Settings may name a node by two lines: it marks the first owner of a key, to
which nothing is sent, and keeps what is written to itself.
-/
theorem blames_peer_never_asked :
    let settings : Node.Settings := { hostKey? := some "bad\nkey" }
    let site : Site := { pairedSite with manner := settings.manner "n" }
    let peer : Endpoint := .v4 0x7f000001 8411
    let put : Command := .put ⟨"k", by decide⟩ [118] (.ofSeconds 60)
    let network : Network Nat := fun _ sent => (.answered 202 [], sent + 1)
    site.route put.key = .among [peer] true ∧
      ¬ BlamesJustly site.manner "t" put [peer] ∧
      (∃ left,
        ask network site.manner 0 "t" put site.damage [peer] 0 =
          ((.error (nobodyReachable put.key [peer]), left), 0) ∧
        left.isDamaged 29999 peer = true) ∧
      ∃ left,
        dispatch network 0 "t" put (site, 0) = (.ok .stored, (left, 0)) ∧
        left.table = (put.run 0 site.table).2 := by
  intro settings site peer put network
  have unsigned : ¬ site.manner.CanSign "t" := by decide
  have named : ∀ other ∈ [peer], (originOf? other).isSome = true := by decide
  have owners : site.view.owners put.key =
      [peer] ++ site.view.self :: [] := owners_pairedSite_eq
  have others : site.view.self ∉ [peer] := by decide
  have fewer : [peer].length < site.manner.budget := by decide
  refine ⟨route_of_self owners others fewer,
    not_blamesJustly unsigned put List.mem_cons_self
      (named peer List.mem_cons_self), ?_, ?_⟩
  · have silent : ∀ other ∈ [peer],
        IsSilent network site.manner "t" put 0 other :=
      fun other member =>
        isSilent_of_unsigned unsigned put (named other member) network 0
    exact ⟨_, ask_failing silent, by decide +kernel⟩
  · rcases dispatch_of_unsigned owners others fewer named unsigned network 0 0 with
      ⟨damage, dispatched⟩
    exact ⟨_, dispatched, rfl⟩

end Site

end QuotaRing.Peer
