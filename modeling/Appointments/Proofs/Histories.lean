-- Histories of bookings after any services one after another: whichever
-- booking of a chain is asked for, the history shows the whole chain, or else
-- the chain is too long for every one of them.
import Appointments.Proofs.InTurn
import Appointments.Proofs.Trails
namespace Appointments

/-! ## Chains are simple -/

namespace Store

variable {s : Store} {chain : List Booking}

theorem WholeChain.sameParties (h : s.WholeChain chain) {x y : Booking} (hx : x ∈ chain)
    (hy : y ∈ chain) : x.SameParties y := by
  have htrans : IsTrans Booking Booking.SameParties := ⟨fun _ _ _ => Booking.SameParties.trans⟩
  have hsymm : Std.Symm Booking.SameParties := ⟨fun _ _ => Booking.SameParties.symm⟩
  have hlinked : chain.IsChain Booking.SameParties := h.linked.imp fun _ _ hmoved => hmoved.parties
  have hpairs : chain.Pairwise Booking.SameParties := List.isChain_iff_pairwise.1 hlinked
  exact hpairs.forall_of_forall (fun a _ => .refl a) hx hy

theorem WholeChain.names (h : s.WholeChain chain) {m : Booking} (hm : m ∈ chain) :
    History.Names (s.chainCandidates m) m (History.pool m (s.chainCandidates m)) :=
  History.names_pool (mem_ownCandidates (h.stored m hm))

/-- Every booking of a chain is among the candidates of each of them. -/
theorem WholeChain.pool_eq (hs : s.InOrder) (h : s.WholeChain chain) {m x : Booking}
    (hm : m ∈ chain) (hx : x ∈ chain) :
    History.pool m (s.chainCandidates m) x.id = some x := by
  have hcandidate : x ∈ s.chainCandidates m :=
    mem_chainCandidates.2 ⟨mem_bookings_of_booking? (h.stored x hx), h.sameParties hx hm⟩
  obtain ⟨c, hc⟩ := (h.names hm).complete x hcandidate
  obtain ⟨hmem, hid⟩ := (h.names hm).sound x.id c hc
  obtain ⟨k, r, hr, hb⟩ := mem_bookings.1 (mem_chainCandidates.1 hmem).1
  have hstored := hs.stored (booking?_eq_some.2 ⟨r, hr, hb⟩)
  rw [hid, h.stored x hx] at hstored
  cases hstored
  exact hc

theorem link?_of_ne {id : String} (h : id ≠ "") : Booking.link? (some id) = some id := by
  unfold Booking.link?
  rw [Option.filter_some, if_pos (by simpa using h)]

/-- The links of a chain, as walks see them, lead from its root to its end. -/
theorem WholeChain.forward (hs : s.InOrder) {root m : Booking} {rest : List Booking}
    (h : s.WholeChain (root :: rest)) (hm : m ∈ root :: rest) :
    History.Trail Booking.successor? (History.pool m (s.chainCandidates m)) root rest where
  linked := by
    refine h.linked.imp_of_mem_imp fun a b _ hb hmoved => ?_
    have hid : b.id ≠ "" := hs.given _ b (h.stored b hb)
    rw [Booking.successor?, hmoved.forth, link?_of_ne hid]
    exact h.pool_eq hs hm hb
  ends := by
    intro x hx
    simp [Booking.successor?, Booking.link?, h.latest x hx]

/-- They lead back to the root from each of its bookings. -/
theorem WholeChain.backward (hs : s.InOrder) {pre post : List Booking} {m : Booking}
    (h : s.WholeChain (pre ++ m :: post)) :
    History.Trail Booking.predecessor? (History.pool m (s.chainCandidates m)) m pre.reverse where
  linked := by
    have hm : m ∈ pre ++ m :: post := List.mem_append_right _ List.mem_cons_self
    have hlinked : (pre ++ m :: post).reverse.IsChain fun a b =>
        a.predecessor?.bind (History.pool m (s.chainCandidates m)) = some b := by
      rw [List.isChain_reverse]
      refine h.linked.imp_of_mem_imp fun a b ha _ hmoved => ?_
      have hid : a.id ≠ "" := hs.given _ a (h.stored a ha)
      rw [Booking.predecessor?, hmoved.back, link?_of_ne hid]
      exact h.pool_eq hs hm ha
    rw [List.reverse_append, List.reverse_cons, List.append_assoc] at hlinked
    exact hlinked.right_of_append
  ends := by
    intro x hx
    have hlast : (m :: pre.reverse).getLast? = (pre ++ m :: post).head? := by
      have hreverse : m :: pre.reverse = (pre ++ [m]).reverse := by simp
      rw [hreverse, List.getLast?_reverse]
      cases pre <;> rfl
    simp [Booking.predecessor?, Booking.link?, h.root x (hlast ▸ hx)]

/-- No booking is in a chain twice. -/
theorem WholeChain.ids_nodup (hs : s.InOrder) {root : Booking} {rest : List Booking}
    (h : s.WholeChain (root :: rest)) : ((root :: rest).map Booking.id).Nodup :=
  (h.forward hs List.mem_cons_self).ids_nodup (h.names List.mem_cons_self)
    (h.names List.mem_cons_self).self

end Store

/-! ## Histories -/

namespace History

theorem indexOf_eq {pre post : List Booking} {m : Booking} (h : ∀ x ∈ pre, x.id ≠ m.id) :
    indexOf m.id (pre ++ m :: post) = pre.length := by
  have hpre : pre.findIdx? (·.id == m.id) = none := by
    rw [List.findIdx?_eq_none_iff]
    intro x hx
    simpa using h x hx
  unfold indexOf
  rw [List.findIdx?_append, hpre]
  simp [List.findIdx?_cons]

variable {s : Store} {m : Booking} {pre post : List Booking}

/-- From a booking of a chain the walk back finds what comes before it. -/
theorem walk_back (hs : s.InOrder) (h : s.WholeChain (pre ++ m :: post)) (limit : Int) :
    walk Booking.predecessor? (pool m (s.chainCandidates m)) limit limit.toNat [m.id] m =
      if pre.length ≤ limit.toNat then .ok pre.reverse else .error (.tooManyLinks limit) := by
  have hnames := h.names (m := m) (by simp)
  rw [← List.length_reverse]
  exact walk_first hnames hnames.self (h.backward hs)

/-- From the root the walk forward finds the rest of the chain. -/
theorem walk_forward (hs : s.InOrder) {root : Booking} {rest : List Booking}
    (h : s.WholeChain (root :: rest)) (hm : m ∈ root :: rest) (limit : Int) :
    walk Booking.successor? (pool m (s.chainCandidates m)) limit limit.toNat [root.id] root =
      if rest.length ≤ limit.toNat then .ok rest else .error (.tooManyLinks limit) :=
  walk_first (h.names hm) (h.pool_eq hs hm List.mem_cons_self) (h.forward hs hm)

/-- Both walks together find the whole chain, unless it has more links than the
limit. -/
theorem ofCandidates_eq (hs : s.InOrder) {root : Booking} {rest : List Booking}
    (h : s.WholeChain (root :: rest)) (hchain : pre ++ m :: post = root :: rest) (limit : Int) :
    ofCandidates limit m.id m (s.chainCandidates m) =
      if rest.length ≤ limit.toNat then
        .ok ⟨root.id, m.id, (rest.getLastD root).id, pre.length, root :: rest⟩
      else .error (.tooManyLinks limit) := by
  have hm : m ∈ root :: rest := hchain ▸ List.mem_append_right _ List.mem_cons_self
  have hroot : pre.reverse.getLastD m = root := by
    cases pre with
    | nil => exact (List.cons.inj hchain).1
    | cons a pre =>
      obtain ⟨rfl, -⟩ := List.cons.inj hchain
      simp
  have hindex : indexOf m.id (root :: rest) = pre.length := by
    rw [← hchain]
    have hnodup := h.ids_nodup hs
    obtain ⟨hnew, -⟩ := List.nodup_cons.1 (List.nodup_middle.1 (by simpa [← hchain] using hnodup))
    exact indexOf_eq fun x hx heq => hnew (List.mem_append_left _ (heq ▸ List.mem_map_of_mem hx))
  have hlength : pre.length ≤ rest.length := by
    have hlength := congrArg List.length hchain
    simp only [List.length_append, List.length_cons] at hlength
    omega
  unfold ofCandidates
  dsimp only
  rw [walk_back hs (hchain ▸ h) limit]
  by_cases hpre : pre.length ≤ limit.toNat
  · rw [if_pos hpre, ok_bind, hroot, walk_forward hs h hm limit]
    by_cases hrest : rest.length ≤ limit.toNat
    · rw [if_pos hrest, if_pos hrest, ok_bind, hindex]
      rfl
    · rw [if_neg hrest, if_neg hrest]
      rfl
  · rw [if_neg hpre, if_neg (by omega)]
    rfl

end History

namespace Store

variable {s : Store}

/-- A booking lies in one whole chain only. -/
theorem WholeChain.unique (hs : s.InOrder) {chain other : List Booking} {b : Booking}
    (h : s.WholeChain chain) (hother : s.WholeChain other) (hb : b ∈ chain)
    (hb' : b ∈ other) : other = chain := by
  have hfound : ∀ list, s.WholeChain list → b ∈ list → ∀ limit : Int, list.length ≤ limit →
      ∃ found, History.ofCandidates limit b.id b (s.chainCandidates b) = .ok found ∧
        found.items = list := by
    intro list hlist hmem limit hlimit
    obtain ⟨pre, post, hsplit⟩ := List.append_of_mem hmem
    cases list with
    | nil => cases hmem
    | cons root rest =>
      rw [List.length_cons] at hlimit
      rw [History.ofCandidates_eq hs hlist hsplit.symm, if_pos (by omega)]
      exact ⟨_, rfl, rfl⟩
  obtain ⟨found, hok, hitems⟩ := hfound chain h hb (chain.length + other.length) (by omega)
  obtain ⟨found', hok', hitems'⟩ :=
    hfound other hother hb' (chain.length + other.length) (by omega)
  rw [hok] at hok'
  cases hok'
  exact hitems'.symm.trans hitems

end Store

/-! ## Histories on request -/

/-- The history is the whole chain, oldest booking first, and points to the
booking in it that was asked for. -/
structure History.Shows (h : History) (chain : List Booking) (b : Booking) : Prop where
  items : h.items = chain
  root : chain.head?.map (·.id) = some h.root
  latest : chain.getLast?.map (·.id) = some h.latest
  requested : h.requested = b.id
  index : 0 ≤ h.index ∧ chain[h.index.toNat]? = some b

namespace Desk

/-- Whoever may see the history of a booking of the chain is shown the whole
chain, or told that it has more links than the desk follows. -/
def TellsHistory (desk : Desk) (w : World) (chain : List Booking) (b : Booking) : Prop :=
  ∀ (actor : Actor) (id : Value), Request.id id = b.id →
    Operation.viewHistory.isAllowed (actor.capabilities b.client b.provider) = true →
    (chain.length ≤ desk.bookings.maxLinks + 1 → ∃ found,
      ((World.run (desk.history actor id)).run w).1 = .ok found ∧ found.Shows chain b) ∧
    (desk.bookings.maxLinks + 1 < chain.length →
      ((World.run (desk.history actor id)).run w).1 =
        .error (.corrupted (.links (.tooManyLinks desk.bookings.maxLinks))))

variable {desk : Desk} {w : World}

/-- The history of a stored booking depends on what its candidates are. -/
theorem answer_of_stored {actor : Actor} {id : Value} {r : Booking} (hid : Request.id id ≠ "")
    (hr : w.store.booking? (Request.id id) = some r)
    (hallowed : Operation.viewHistory.isAllowed (actor.capabilities r.client r.provider) = true) :
    ((World.run (desk.history actor id)).run w).1 =
      (History.ofCandidates desk.bookings.maxLinks (Request.id id) r
        (w.store.chainCandidates r)).mapError fun fault => .corrupted (.links fault) := by
  have hrun : ((World.run (desk.history actor id)).run w).1 = desk.shownHistory w.store actor id :=
    (reports_history desk actor id w rfl).1
  have hpermit : actor.permit .viewHistory r.client r.provider =
      .ok (actor.capabilities r.client r.provider) := if_pos hallowed
  rw [hrun]
  unfold shownHistory
  rw [Request.requiredId_eq hid, ok_bind, Store.found_eq_ok.2 hr, ok_bind, hpermit, ok_bind]

theorem answer_of_history (hs : w.store.InOrder) {root m : Booking} {pre post rest : List Booking}
    (h : w.store.WholeChain (root :: rest)) (hchain : pre ++ m :: post = root :: rest)
    {actor : Actor} {id : Value} (hid : Request.id id = m.id)
    (hallowed : Operation.viewHistory.isAllowed (actor.capabilities m.client m.provider) = true) :
    ((World.run (desk.history actor id)).run w).1 =
      if rest.length ≤ desk.bookings.maxLinks.toNat then
        .ok ⟨root.id, m.id, (rest.getLastD root).id, pre.length, root :: rest⟩
      else .error (.corrupted (.links (.tooManyLinks desk.bookings.maxLinks))) := by
  have hm : m ∈ root :: rest := hchain ▸ List.mem_append_right _ List.mem_cons_self
  have hstored := h.stored m hm
  have hgiven : Request.id id ≠ "" := hid ▸ hs.given _ m hstored
  rw [answer_of_stored hgiven (hid ▸ hstored) hallowed, hid,
    History.ofCandidates_eq hs h hchain]
  split <;> rfl

theorem tellsHistory (hs : w.store.InOrder) (hlimit : 0 ≤ desk.bookings.maxLinks)
    {chain : List Booking} (h : w.store.WholeChain chain) {m : Booking} (hm : m ∈ chain) :
    desk.TellsHistory w chain m := by
  intro actor id hid hallowed
  obtain ⟨pre, post, hchain⟩ := List.append_of_mem hm
  cases chain with
  | nil => cases hm
  | cons root rest =>
    rw [answer_of_history hs h hchain.symm hid hallowed]
    simp only [List.length_cons]
    refine ⟨fun hshort => ?_, fun hlong => if_neg (by omega)⟩
    rw [if_pos (by omega)]
    refine ⟨_, rfl, rfl, rfl, ?_, rfl, Int.natCast_nonneg _, ?_⟩
    · simp [List.getLast?_cons]
    · rw [hchain]
      simp

/-- Whatever services are asked for one after another, every booking lies in
one whole chain, and all bookings of a chain have it as their history, or none
of them has a history because it is too long. Settings that pass their check
let a desk follow one link at least. -/
theorem Reaches.histories_are_chains (h : desk.Reaches w.store)
    (hlimit : 0 ≤ desk.bookings.maxLinks) {k : String} {b : Booking}
    (hb : w.store.booking? k = some b) :
    ∃ chain, w.store.WholeChain chain ∧ b ∈ chain ∧
      (∀ other, w.store.WholeChain other → b ∈ other → other = chain) ∧
      ∀ m ∈ chain, desk.TellsHistory w chain m := by
  have hs := h.inOrder
  obtain ⟨chain, hwhole, hmem⟩ := hs.chained k b hb
  exact ⟨chain, hwhole, hmem, fun other hother hb' => hwhole.unique hs hother hmem hb',
    fun m hm => tellsHistory hs hlimit hwhole hm⟩

open Practice in
/-- A booking that was moved once has both bookings as its history, whichever
of them is asked for. -/
theorem moved_booking_has_both_as_history :
    ({} : Desk).Reaches movedOnce.store ∧ ∃ b chain, movedOnce.store.booking? "b" = some b ∧
      b.rescheduledFrom = some "a" ∧ movedOnce.store.WholeChain chain ∧ b ∈ chain ∧
      ∀ m ∈ chain, ({} : Desk).TellsHistory movedOnce chain m := by
  have hreach := movedOnce_reached
  have hfound : (movedOnce.store.booking? "b").map (·.rescheduledFrom) = some (some "a") := by
    decide +kernel
  obtain ⟨b, hb, hfrom⟩ := Option.map_eq_some_iff.1 hfound
  obtain ⟨chain, hwhole, hmem, -, htells⟩ := hreach.histories_are_chains (by decide) hb
  exact ⟨hreach, b, chain, hb, hfrom, hwhole, hmem, htells⟩

end Desk
end Appointments
