import QuotaRing.Peer.Site

/-!
# Who answers

Candidates are asked in turn, those that count as damaged after the others.
Peers who cannot be reached are passed by and marked, so the first candidate
that can be reached answers, wherever the marks stand, as long as it does not
count as damaged itself and the peers ahead of it leave a part of the budget.
-/

namespace QuotaRing.Peer

open QuotaRing.Net (Endpoint)
open QuotaRing.Store (Key)

/-! ## Marks -/

namespace Damage

/-- Only peers with some property are marked. -/
def MarksOnly (damage : Damage) (down : Endpoint → Prop) : Prop :=
  ∀ mark ∈ damage.marks, down mark.1

/-- Mark one peer after the other. -/
def markAll
    (damage : Damage)
    (now : Int64)
    (cooldown : Span)
    (peers : List Endpoint) :
    Damage :=
  peers.foldl (·.mark now cooldown) damage

variable
    {damage : Damage}
    {down : Endpoint → Prop}

theorem marksOnly_none (down : Endpoint → Prop) : none.MarksOnly down :=
  fun _ member => nomatch member

theorem MarksOnly.heal
    (only : damage.MarksOnly down)
    (peer : Endpoint) :
    (damage.heal peer).MarksOnly down :=
  fun mark member => only mark (List.mem_filter.1 member).1

theorem MarksOnly.mark
    (only : damage.MarksOnly down)
    {peer : Endpoint}
    (isDown : down peer)
    (now : Int64)
    (cooldown : Span) :
    (damage.mark now cooldown peer).MarksOnly down := by
  intro mark member
  rcases List.mem_cons.1 member with rfl | older
  · exact isDown
  · exact only.heal peer mark older

theorem MarksOnly.markAll
    (only : damage.MarksOnly down)
    {peers : List Endpoint}
    (areDown : ∀ peer ∈ peers, down peer)
    (now : Int64)
    (cooldown : Span) :
    (damage.markAll now cooldown peers).MarksOnly down := by
  induction peers generalizing damage with
  | nil => exact only
  | cons peer rest ih =>
      have marked := only.mark (areDown peer List.mem_cons_self) now cooldown
      exact ih marked fun other member =>
        areDown other (List.mem_cons_of_mem peer member)

theorem MarksOnly.isDamaged_eq_false
    (only : damage.MarksOnly down)
    {peer : Endpoint}
    (isUp : ¬ down peer)
    (now : Int64) :
    damage.isDamaged now peer = false := by
  have unmarked : damage.marks.lookup peer = Option.none := by
    rw [List.lookup_eq_none_iff]
    intro mark member
    rw [bne_iff_ne]
    rintro rfl
    exact isUp (only mark member)
  rw [Damage.isDamaged, unmarked]

end Damage

/-! ## The order of asking -/

section Order

variable
    {manner : Manner}
    {damage : Damage}
    {now : Int64}

theorem mem_of_mem_order
    {candidates : List Endpoint}
    {peer : Endpoint}
    (asked : peer ∈ order manner damage now candidates) :
    peer ∈ candidates := by
  rcases List.mem_append.1 (List.mem_of_mem_take asked) with healthy | damaged
  · exact (List.mem_filter.1 healthy).1
  · exact (List.mem_filter.1 damaged).1

/-- Only candidates listed earlier are asked before one that is not damaged. -/
theorem order_of_undamaged
    {earlier later : List Endpoint}
    {first : Endpoint}
    (undamaged : damage.isDamaged now first = false)
    (fewer : earlier.length < manner.budget) :
    ∃ before after,
      order manner damage now (earlier ++ first :: later) =
        before ++ first :: after ∧
      ∀ peer ∈ before, peer ∈ earlier := by
  let before := earlier.filter (!damage.isDamaged now ·)
  have short : before.length < manner.budget :=
    Nat.lt_of_le_of_lt (List.length_filter_le _ _) fewer
  rcases Nat.exists_eq_add_of_lt short with ⟨left, room⟩
  have split : manner.budget - before.length = left + 1 := by
    rw [room, Nat.add_assoc, Nat.add_sub_cancel_left]
  have kept : (first :: later).filter (!damage.isDamaged now ·) =
      first :: later.filter (!damage.isDamaged now ·) := by
    rw [List.filter_cons, undamaged]
    rfl
  let after := (later.filter (!damage.isDamaged now ·) ++
    (earlier ++ first :: later).filter (damage.isDamaged now ·)).take left
  refine ⟨before, after, ?_, fun peer member => (List.mem_filter.1 member).1⟩
  rw [order, List.filter_append, kept,
    List.append_assoc, List.cons_append, List.take_append,
    List.take_of_length_le (Nat.le_of_lt short), split, List.take_succ_cons]

/-- The first candidate is asked first unless it counts as damaged. -/
theorem order_of_first
    {first : Endpoint}
    (undamaged : damage.isDamaged now first = false)
    (later : List Endpoint) :
    ∃ after, order manner damage now (first :: later) = first :: after := by
  have room : ([] : List Endpoint).length < manner.budget :=
    Nat.lt_of_lt_of_le Nat.zero_lt_one (Nat.le_max_left _ _)
  rcases @order_of_undamaged _ _ _ _ later _ undamaged room with
    ⟨before, after, ordered, earlier⟩
  have alone : before = [] :=
    List.eq_nil_iff_forall_not_mem.2 fun peer member =>
      List.not_mem_nil (earlier peer member)
  subst alone
  exact ⟨after, ordered⟩

end Order

/-! ## Asking -/

section Asking

variable
    {σ : Type}
    {network : Network σ}
    {manner : Manner}
    {now : Int64}
    {trace : String}
    {command : Command}
    {damage : Damage}
    {world later : σ}

/-- Whether a peer cannot be reached, and nothing comes of trying. -/
def IsSilent
    (network : Network σ)
    (manner : Manner)
    (trace : String)
    (command : Command)
    (world : σ)
    (peer : Endpoint) :
    Prop :=
  attempt network manner trace command peer world = (none, world)

/-- What comes of the first attempt decides whether there is another. -/
theorem askEach_cons
    (clock : σ → Int64)
    (peer : Endpoint)
    (rest : List Endpoint) :
    askEach network manner clock trace command damage (peer :: rest) world =
      match attempt network manner trace command peer world with
      | (none, later) =>
          askEach network manner clock trace command
            (damage.mark (clock later) manner.cooldown peer) rest later
      | (some (.ok outcome), later) =>
          ((some (.ok outcome), damage.heal peer), later)
      | (some (.error error), later) => ((some (.error error), damage), later) := by
  rw [askEach]
  simp only [bind, StateT.bind]
  rcases attempt network manner trace command peer world with
    ⟨_ | outcome | error, later⟩
  · rfl
  · rfl
  · rfl

/-- A peer that no uri names is not sent anything, and that is an error. -/
theorem attempt_of_unnamed
    {peer : Endpoint}
    (unnamed : originOf? peer = none)
    (world : σ) :
    attempt network manner trace command peer world =
      (some (.error (unusablePeer peer)), world) := by
  rw [attempt, Command.request, unnamed]
  rfl

/-- Peers who cannot be reached are marked and passed by. -/
theorem askEach_failing
    {failing : List Endpoint}
    (silent : ∀ peer ∈ failing,
      IsSilent network manner trace command world peer)
    (rest : List Endpoint) :
    askEach network manner (fun _ => now) trace command damage (failing ++ rest) world =
      askEach network manner (fun _ => now) trace command
        (damage.markAll now manner.cooldown failing) rest world := by
  induction failing generalizing damage with
  | nil => rfl
  | cons peer others ih =>
      have first := silent peer List.mem_cons_self
      rw [IsSilent] at first
      rw [List.cons_append, askEach_cons, first]
      exact ih fun other member =>
        silent other (List.mem_cons_of_mem peer member)

/-- When nobody can be reached, whoever was asked is marked. -/
theorem ask_failing
    {candidates : List Endpoint}
    (silent : ∀ peer ∈ candidates,
      IsSilent network manner trace command world peer) :
    ask network manner now trace command damage candidates world =
      ((.error (nobodyReachable command.key
          (order manner damage now candidates)),
        damage.markAll now manner.cooldown
          (order manner damage now candidates)), world) := by
  have reached : ∀ peer ∈ order manner damage now candidates,
      IsSilent network manner trace command world peer :=
    fun peer member => silent peer (mem_of_mem_order member)
  have asked := @askEach_failing _ _ _ now _ _ damage _ _ reached []
  rw [List.append_nil] at asked
  simp only [ask, askBy, asked]
  rfl

/--
The first candidate that can be reached answers and is healed; of the
candidates ahead of it some have been marked.
-/
theorem ask_answered
    {failing rest : List Endpoint}
    {first : Endpoint}
    {outcome : Outcome}
    (silent : ∀ peer ∈ failing,
      IsSilent network manner trace command world peer)
    (answers : attempt network manner trace command first world =
      (some (.ok outcome), later))
    (undamaged : damage.isDamaged now first = false)
    (fewer : failing.length < manner.budget) :
    ∃ asked, (∀ peer ∈ asked, peer ∈ failing) ∧
      ask network manner now trace command damage (failing ++ first :: rest)
          world =
        ((.ok outcome,
          (damage.markAll now manner.cooldown asked).heal first), later) := by
  rcases @order_of_undamaged manner damage now _ rest _ undamaged fewer with
    ⟨before, after, ordered, earlier⟩
  refine ⟨before, earlier, ?_⟩
  have reached : ∀ peer ∈ before,
      IsSilent network manner trace command world peer :=
    fun peer member => silent peer (earlier peer member)
  have skipped :=
    @askEach_failing _ _ _ now _ _ damage _ _ reached (first :: after)
  simp only [ask, askBy, ordered, skipped, askEach_cons, answers]
  rfl

end Asking

/-! ## The route of a command -/

namespace Site

variable
    {site : Site}
    {key : Key}
    {ahead rest : List Endpoint}

/-- Where a node stands among the owners of a key. -/
theorem findIdx?_self
    (owners : site.view.owners key = ahead ++ rest)
    (others : site.view.self ∉ ahead) :
    (site.view.owners key).findIdx? site.view.isSelf =
      (rest.findIdx? site.view.isSelf).map (· + ahead.length) := by
  have absent : ahead.findIdx? site.view.isSelf = none := by
    rw [List.findIdx?_eq_none_iff]
    intro peer member
    apply beq_false_of_ne
    rintro rfl
    exact others member
  rw [owners, List.findIdx?_append, absent, Option.none_or]

/-- A node that is an owner asks those ahead of it, if there are any. -/
theorem route_of_mem
    (owners : site.view.owners key = ahead ++ site.view.self :: rest)
    (others : site.view.self ∉ ahead) :
    site.route key =
      if ahead = [] then .here
      else .among ahead (decide (ahead.length < site.manner.budget)) := by
  have self : site.view.isSelf site.view.self = true := beq_self_eq_true _
  have place : (site.view.owners key).findIdx? site.view.isSelf =
      some ahead.length := by
    rw [findIdx?_self owners others, List.findIdx?_cons, self, if_pos rfl,
      Option.map_some, Nat.zero_add]
  simp only [route, place]
  cases ahead with
  | nil => rfl
  | cons first others =>
      rw [if_neg (List.cons_ne_nil _ _), owners]
      exact congrArg (Route.among · _) (List.take_left' rfl)

/-- A node that is no owner asks all of them, if there are any. -/
theorem route_of_notMem (absent : site.view.self ∉ site.view.owners key) :
    site.route key =
      if site.view.owners key = [] then .here
      else .among (site.view.owners key) false := by
  have place : (site.view.owners key).findIdx? site.view.isSelf = none := by
    rw [List.findIdx?_eq_none_iff]
    intro peer member
    apply beq_false_of_ne
    rintro rfl
    exact absent member
  simp only [route, place, List.isEmpty_iff]

/-- A node whose turn comes within the budget asks those ahead of it first. -/
theorem route_of_self
    (owners : site.view.owners key = ahead ++ site.view.self :: rest)
    (others : site.view.self ∉ ahead)
    (fewer : ahead.length < site.manner.budget) :
    site.route key = if ahead = [] then .here else .among ahead true := by
  rw [route_of_mem owners others, decide_eq_true fewer]

/-- The owners that a node asks begin with those ahead of it. -/
theorem route_of_other
    {first : Endpoint}
    (owners : site.view.owners key = ahead ++ first :: rest)
    (others : site.view.self ∉ ahead)
    (another : site.view.self ≠ first) :
    ∃ further thenHere,
      site.route key = .among (ahead ++ first :: further) thenHere := by
  have place : (site.view.owners key).findIdx? site.view.isSelf =
      (rest.findIdx? site.view.isSelf).map (· + (ahead.length + 1)) := by
    have notFirst : site.view.isSelf first = false :=
      beq_false_of_ne (Ne.symm another)
    rw [findIdx?_self owners others, List.findIdx?_cons, notFirst]
    simp only [Bool.false_eq_true, if_false, Option.map_map]
    congr 1
    funext index
    exact Nat.add_assoc index 1 _ |>.trans (by rw [Nat.add_comm 1])
  simp only [route, place]
  cases rest.findIdx? site.view.isSelf with
  | none =>
      refine ⟨rest, false, ?_⟩
      rw [owners]
      cases ahead <;> rfl
  | some index =>
      have taken : (site.view.owners key).take (index + (ahead.length + 1)) =
          ahead ++ first :: rest.take index := by
        rw [owners, Nat.add_comm index, Nat.add_assoc,
          List.take_length_add_append, Nat.add_comm 1, List.take_succ_cons]
      exact ⟨rest.take index, _, congrArg (Route.among · _) taken⟩

/-! ## Who carries a command out -/

variable
    {σ : Type}
    {network : Network σ}
    (now : Int64)
    {trace : String}
    {command : Command}
    {world later : σ}
    {down : Endpoint → Prop}

/--
A node whose turn comes carries a command out itself, once nobody ahead of it
could be reached.
-/
theorem dispatch_of_self
    (owners : site.view.owners command.key = ahead ++ site.view.self :: rest)
    (others : site.view.self ∉ ahead)
    (fewer : ahead.length < site.manner.budget)
    (areDown : ∀ peer ∈ ahead, down peer)
    (silent : ∀ peer ∈ ahead,
      IsSilent network site.manner trace command world peer)
    (marked : site.damage.MarksOnly down) :
    ∃ damage, damage.MarksOnly down ∧
      dispatch network now trace command (site, world) =
        (.ok (command.run now site.table).1,
          ({ site with
              table := (command.run now site.table).2
              damage := damage }, world)) := by
  have route := route_of_self owners others fewer
  rw [dispatch]
  by_cases alone : ahead = []
  · rw [if_pos alone] at route
    simp only [route]
    exact ⟨site.damage, marked, rfl⟩
  · rw [if_neg alone] at route
    have asked := @ask_failing _ _ _ now _ _ site.damage _ _ silent
    have asksDown : ∀ peer ∈ order site.manner site.damage now ahead,
        down peer :=
      fun peer member => areDown peer (mem_of_mem_order member)
    simp only [route, asked]
    exact ⟨_, marked.markAll asksDown now site.manner.cooldown, rfl⟩

/-- The first owner that can be reached answers the nodes behind it. -/
theorem dispatch_of_other
    {first : Endpoint}
    {outcome : Outcome}
    (owners : site.view.owners command.key = ahead ++ first :: rest)
    (others : site.view.self ∉ ahead)
    (another : site.view.self ≠ first)
    (fewer : ahead.length < site.manner.budget)
    (areDown : ∀ peer ∈ ahead, down peer)
    (isUp : ¬ down first)
    (silent : ∀ peer ∈ ahead,
      IsSilent network site.manner trace command world peer)
    (answers : attempt network site.manner trace command first world =
      (some (.ok outcome), later))
    (marked : site.damage.MarksOnly down) :
    ∃ damage, damage.MarksOnly down ∧
      dispatch network now trace command (site, world) =
        (.ok outcome, ({ site with damage := damage }, later)) := by
  rcases route_of_other owners others another with ⟨further, thenHere, route⟩
  rcases @ask_answered _ _ _ now _ _ site.damage _ _
      _ further _ _ silent answers (marked.isDamaged_eq_false isUp now) fewer with
    ⟨asked, among, answered⟩
  have marks := marked.markAll
    (fun peer member => areDown peer (among peer member)) now
    site.manner.cooldown
  refine ⟨_, marks.heal first, ?_⟩
  rw [dispatch]
  simp only [route, answered]

/--
An owner that no uri names makes a command fail at every node that would ask it
before the others.
-/
theorem dispatch_of_unusable
    {first : Endpoint}
    (owners : site.view.owners command.key = first :: rest)
    (another : site.view.self ≠ first)
    (unnamed : originOf? first = none)
    (undamaged : site.damage.isDamaged now first = false) :
    dispatch network now trace command (site, world) =
      (.error (unusablePeer first), (site, world)) := by
  have nobody : site.view.self ∉ ([] : List Endpoint) := List.not_mem_nil
  rcases route_of_other owners nobody another with ⟨further, thenHere, route⟩
  rcases @order_of_first site.manner _ _ _ undamaged further with
    ⟨after, ordered⟩
  rw [List.nil_append] at route
  have refused : attempt network site.manner trace command first world =
      (some (.error (unusablePeer first)), world) :=
    attempt_of_unnamed unnamed world
  have asked : ask network site.manner now trace command site.damage
      (first :: further) world =
      ((.error (unusablePeer first), site.damage), world) := by
    simp only [ask, askBy, ordered, askEach_cons, refused]
    rfl
  rw [dispatch]
  simp only [route, asked]
  cases thenHere <;> rfl

end Site

end QuotaRing.Peer
