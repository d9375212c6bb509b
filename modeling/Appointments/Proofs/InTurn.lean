-- Services that are asked for one after another. Whatever they are, every
-- booking is kept under its own id, and lies in a whole chain of bookings that
-- name each other.
import Appointments.Proofs.LoneCalls
import Appointments.Proofs.RescheduleChains
import Appointments.Proofs.WeeklyHours
import Mathlib.Data.List.Chain
namespace Appointments

/-! ## What errands write -/

/-- The provider whose bookings an errand is about: the one that is asked for
a booking, or the one of the booking that is named. -/
def Errand.Concerns (s : Store) (provider : String) : Errand → Prop
  | book _ _ _ asked .. => Request.id asked = provider
  | cancel _ id _ | complete _ id | reschedule _ id .. =>
    ∃ b, s.booking? (Request.id id) = some b ∧ b.provider = provider

/-- What an errand writes that draws the given id. It makes a booking, or
changes the status of a confirmed one, or replaces a confirmed one. -/
inductive Errand.Writes (s : Store) (id provider : String) : List Entry → Prop
  | makes {b : Booking} (fresh : s.booking? id = none) (id_eq : b.id = id)
      (provider_eq : b.provider = provider) (trimmed : Text.IsTrimmed provider)
      (first : b.rescheduledFrom = none) (last : b.rescheduledTo = none) :
      Writes s id provider [.booking id b]
  | changes {old b : Booking} (stored : s.booking? old.id = some old)
      (confirmed : old.status = .confirmed) (provider_eq : old.provider = provider)
      (as_made : b.asMade = old.asMade) (last : b.rescheduledTo = old.rescheduledTo) :
      Writes s id provider [.booking old.id b]
  | replaces {old b moved : Booking} (stored : s.booking? old.id = some old)
      (confirmed : old.status = .confirmed) (provider_eq : old.provider = provider)
      (fresh : s.booking? id = none) (id_eq : b.id = id) (parties : old.SameParties b)
      (back : b.rescheduledFrom = some old.id) (last : b.rescheduledTo = none)
      (as_made : moved.asMade = old.asMade) (cancelled : moved.status = .cancelled)
      (forth : moved.rescheduledTo = some id) :
      Writes s id provider [.booking id b, .booking old.id moved]

namespace Desk

variable {desk : Desk} {v : View} {actor : Actor} {b : Booking} {entries : List Entry}

theorem bookDecision_eq_ok {request response provider start minutes note : Value}
    (h : desk.bookDecision v actor request response provider start minutes note =
      .ok (b, entries)) :
    Errand.Writes v.store v.nextId (Request.id provider) entries := by
  simp only [bookDecision, bind_eq_ok, pure_eq_ok] at h
  obtain ⟨request, -, response, -, p, hp, start, -, minutes, -, note, -, held, -, _, -, _, hinsert,
    h⟩ := h
  obtain ⟨rfl, hne⟩ := Request.requiredId_eq_ok hp
  cases h
  exact .makes (Store.booking?_eq_none_of_checkInsert hinsert) rfl rfl
    (Text.isTrimmed_of_ne_empty (Request.id_text_id provider) hne) rfl rfl

/-- A change of the booking that was found. -/
theorem amended_eq_ok {old : Booking} {id : Value} {changes : List Booking.Change}
    (hs : v.store.Filed) (hold : v.store.named id = .ok old)
    (hmade : (old.change changes).asMade = old.asMade)
    (hlast : (old.change changes).rescheduledTo = old.rescheduledTo)
    (h : (fun b => (b, [Entry.booking old.id b])) <$> v.store.amended old.id .confirmed changes =
      .ok (b, entries)) :
    ∃ provider, (∃ b, v.store.booking? (Request.id id) = some b ∧ b.provider = provider) ∧
      Errand.Writes v.store v.nextId provider entries := by
  obtain ⟨-, hstored⟩ := Store.named_eq_ok.1 hold
  have hid := hs.id_eq hstored
  rw [← hid] at hstored
  obtain ⟨b', hb', h⟩ := map_eq_ok.1 h
  obtain ⟨current, hcurrent, hstatus, rfl⟩ := Store.amended_eq_ok hb'
  rw [hstored] at hcurrent
  cases hcurrent
  cases h
  exact ⟨_, ⟨old, by rw [← hid]; exact hstored, rfl⟩,
    .changes hstored hstatus rfl hmade hlast⟩

theorem cancelDecision_eq_ok {id reason : Value} (hs : v.store.Filed)
    (h : desk.cancelDecision v actor id reason = .ok (b, entries)) :
    ∃ provider, (Errand.cancel actor id reason).Concerns v.store provider ∧
      Errand.Writes v.store v.nextId provider entries := by
  obtain ⟨old, hold, h⟩ := bind_eq_ok.1 h
  obtain ⟨held, -, h⟩ := bind_eq_ok.1 h
  obtain ⟨status, -, h⟩ := bind_eq_ok.1 h
  obtain ⟨⟨⟩, -, h⟩ := bind_eq_ok.1 h
  obtain ⟨reason, -, h⟩ := bind_eq_ok.1 h
  exact amended_eq_ok hs hold rfl rfl h

theorem completeDecision_eq_ok {id : Value} (hs : v.store.Filed)
    (h : completeDecision v actor id = .ok (b, entries)) :
    ∃ provider, (Errand.complete actor id).Concerns v.store provider ∧
      Errand.Writes v.store v.nextId provider entries := by
  obtain ⟨old, hold, h⟩ := bind_eq_ok.1 h
  obtain ⟨held, -, h⟩ := bind_eq_ok.1 h
  obtain ⟨status, -, h⟩ := bind_eq_ok.1 h
  obtain ⟨stop, -, h⟩ := bind_eq_ok.1 h
  split at h
  · cases h
  · exact amended_eq_ok hs hold rfl rfl h

theorem rescheduleDecision_eq_ok {id start minutes reason : Value} (hs : v.store.Filed)
    (h : desk.rescheduleDecision v actor id start minutes reason = .ok (b, entries)) :
    ∃ provider, (Errand.reschedule actor id start minutes reason).Concerns v.store provider ∧
      Errand.Writes v.store v.nextId provider entries := by
  simp only [rescheduleDecision, bind_eq_ok, pure_eq_ok] at h
  obtain ⟨start, -, reason, -, old, hold, held, -, status, hstatus, _, -, minutes, -, _, -, _, -,
    _, hinsert, moved, hmoved, h⟩ := h
  cases h
  obtain ⟨-, hstored⟩ := Store.named_eq_ok.1 hold
  have hid := hs.id_eq hstored
  rw [← hid] at hstored
  obtain ⟨current, hcurrent, hconfirmed, rfl⟩ := Store.amended_eq_ok hmoved
  rw [hstored] at hcurrent
  cases hcurrent
  obtain ⟨-, rfl⟩ := nextStatus_eq_ok hstatus
  exact ⟨_, ⟨old, by rw [← hid]; exact hstored, rfl⟩,
    .replaces hstored hconfirmed rfl (Store.booking?_eq_none_of_checkInsert hinsert) rfl
      ⟨rfl, rfl, rfl, rfl⟩ rfl rfl rfl rfl rfl⟩

end Desk

/-- What an errand writes that succeeds. -/
theorem Errand.writes_of_decision {desk : Desk} {v : View} {errand : Errand} {b : Booking}
    {entries : List Entry} (hs : v.store.Filed)
    (h : errand.decision desk v = .ok (b, entries)) :
    ∃ provider, errand.Concerns v.store provider ∧
      Errand.Writes v.store v.nextId provider entries := by
  cases errand with
  | book => exact ⟨_, rfl, Desk.bookDecision_eq_ok h⟩
  | cancel => exact Desk.cancelDecision_eq_ok hs h
  | complete => exact Desk.completeDecision_eq_ok hs h
  | reschedule => exact Desk.rescheduleDecision_eq_ok hs h

/-! ## What services write -/

namespace Service

/-- The provider whom a service concerns. -/
def Concerns (s : Store) (provider : String) : Service → Prop
  | errand e => e.Concerns s provider
  | template asked | updateTemplate asked _ | addBlackout asked .. | removeBlackout asked _ =>
    Request.id asked = provider

/-- What a service writes that draws the given id. -/
inductive Writes (s : Store) (id provider : String) (entries : List Entry) : Prop
  | bookings (h : Errand.Writes s id provider entries)
  | hours (h : ∀ e ∈ entries, e.OfHours s id provider)

theorem writes_of_ruling {desk : Desk} {v : View} (service : Service) (hs : v.store.Filed) :
    (service.ruling desk v).entries = [] ∨ ∃ provider, service.Concerns v.store provider ∧
      Writes v.store v.nextId provider (service.ruling desk v).entries := by
  cases service with
  | errand e =>
    cases hd : e.decision desk v with
    | error why =>
      left
      simp [ruling, Ruling.map, Ruling.of, hd]
    | ok out =>
      right
      obtain ⟨provider, hconcerns, hwrites⟩ := Errand.writes_of_decision hs hd
      refine ⟨provider, hconcerns, .bookings ?_⟩
      simp only [ruling, Ruling.map, Ruling.of, hd]
      exact hwrites
  | template provider =>
    refine .inr ⟨_, rfl, .hours fun e he => ?_⟩
    obtain ⟨t, entries, hd, he⟩ := Ruling.mem_entries_of (d := desk.templateDecision v provider) he
    exact (Desk.templateDecision_eq_ok hd).2 e he
  | updateTemplate provider updates =>
    exact .inr ⟨_, rfl, .hours fun e he => Desk.updateRuling_ofHours he⟩
  | addBlackout provider start stop reason isActive =>
    refine .inr ⟨_, rfl, .hours fun e he => ?_⟩
    obtain ⟨b, entries, hd, he⟩ := Ruling.mem_entries_of
      (d := desk.addBlackoutDecision v provider start stop reason isActive) he
    exact Desk.addBlackoutDecision_eq_ok hd he
  | removeBlackout provider blackout =>
    refine .inr ⟨_, rfl, .hours fun e he => ?_⟩
    obtain ⟨u, entries, hd, he⟩ := Ruling.mem_entries_of
      (d := Desk.removeBlackoutDecision v provider blackout) he
    exact Desk.removeBlackoutDecision_eq_ok hd he

end Service

/-! ## Chains of bookings -/

theorem Booking.id_of_asMade {a b : Booking} (h : a.asMade = b.asMade) : a.id = b.id := by
  have hid := congrArg Booking.id h
  exact hid

theorem Booking.rescheduledFrom_of_asMade {a b : Booking} (h : a.asMade = b.asMade) :
    a.rescheduledFrom = b.rescheduledFrom := by
  have hfrom := congrArg Booking.rescheduledFrom h
  exact hfrom

/-- The first booking was rescheduled to the second one. -/
structure Booking.MovedTo (a b : Booking) : Prop where
  cancelled : a.status = .cancelled
  forth : a.rescheduledTo = some b.id
  back : b.rescheduledFrom = some a.id
  parties : a.SameParties b

namespace Store

/-- Stored bookings from one that replaces no other to one that no other
replaces, each of them rescheduled to the next one. -/
structure WholeChain (s : Store) (chain : List Booking) : Prop where
  stored : ∀ b ∈ chain, s.booking? b.id = some b
  linked : chain.IsChain Booking.MovedTo
  root : ∀ b ∈ chain.head?, b.rescheduledFrom = none
  latest : ∀ b ∈ chain.getLast?, b.rescheduledTo = none

variable {s t : Store} {chain : List Booking}

theorem WholeChain.mono (h : s.WholeChain chain)
    (hstored : ∀ b ∈ chain, t.booking? b.id = some b) : t.WholeChain chain :=
  ⟨hstored, h.linked, h.root, h.latest⟩

/-- Only the last booking of a chain may be confirmed. -/
theorem WholeChain.last_of_confirmed (h : s.WholeChain chain) {b : Booking} (hb : b ∈ chain)
    (hconfirmed : b.status = .confirmed) : ∃ pre, chain = pre ++ [b] := by
  obtain ⟨pre, rest, rfl⟩ := List.append_of_mem hb
  cases rest with
  | nil => exact ⟨pre, rfl⟩
  | cons c rest =>
    have hlinked := (List.isChain_append.1 h.linked).2.1
    have hcancelled := (List.isChain_cons_cons.1 hlinked).1.cancelled
    rw [hconfirmed] at hcancelled
    cases hcancelled

/-- All but the last booking of a chain are cancelled. -/
theorem WholeChain.cancelled {pre : List Booking} {b : Booking} (h : s.WholeChain (pre ++ [b]))
    {x : Booking} (hx : x ∈ pre) : x.status = .cancelled := by
  obtain ⟨l, r, rfl⟩ := List.append_of_mem hx
  have hlinked := h.linked
  rw [List.append_assoc] at hlinked
  have hrest := (List.isChain_append.1 hlinked).2.1
  cases r with
  | nil => exact (List.isChain_cons_cons.1 hrest).1.cancelled
  | cons c r => exact (List.isChain_cons_cons.1 hrest).1.cancelled

/-- What a booking of a chain replaces comes before it. -/
theorem WholeChain.exists_movedTo (h : s.WholeChain chain) {c : Booking} (hc : c ∈ chain)
    (hfrom : c.rescheduledFrom ≠ none) : ∃ a ∈ chain, a.MovedTo c := by
  obtain ⟨pre, rest, rfl⟩ := List.append_of_mem hc
  rcases List.eq_nil_or_concat pre with rfl | ⟨pre, a, rfl⟩
  · exact absurd (h.root c rfl) hfrom
  · have hlast := (List.isChain_append.1 h.linked).2.2
    exact ⟨a, by simp, hlast a (by simp) c rfl⟩

/-- The last booking of a chain gives way to another version of it, and to
what it is rescheduled to. -/
theorem WholeChain.replace_last {pre rest : List Booking} {old b : Booking}
    (h : s.WholeChain (pre ++ [old])) (hid : b.id = old.id)
    (hfrom : b.rescheduledFrom = old.rescheduledFrom) (hparties : old.SameParties b)
    (hkept : ∀ x ∈ pre, t.booking? x.id = some x)
    (hrest : ∀ x ∈ b :: rest, t.booking? x.id = some x)
    (hlinked : (b :: rest).IsChain Booking.MovedTo)
    (hlatest : ∀ x ∈ (b :: rest).getLast?, x.rescheduledTo = none) :
    t.WholeChain (pre ++ b :: rest) where
  stored x hx := (List.mem_append.1 hx).elim (hkept x) (hrest x)
  linked := by
    obtain ⟨hpre, -, hlast⟩ := List.isChain_append.1 h.linked
    refine List.isChain_append.2 ⟨hpre, hlinked, fun x hx y hy => ?_⟩
    have hmoved := hlast x hx old rfl
    obtain rfl : b = y := by simpa using hy
    refine ⟨hmoved.cancelled, ?_, ?_, hmoved.parties.trans hparties⟩
    · rw [hid]
      exact hmoved.forth
    · rw [hfrom]
      exact hmoved.back
  root x hx := by
    have hroot := h.root
    cases pre with
    | nil =>
      obtain rfl : b = x := by simpa using hx
      rw [hfrom]
      exact hroot old rfl
    | cons c pre => exact hroot x hx
  latest x hx := by
    apply hlatest x
    simpa using hx

/-! ## Stores in order -/

theorem filed_iff : s.Filed ↔ ∀ k b, s.booking? k = some b → b.id = k := by
  constructor
  · exact fun h k b hb => h.id_eq hb
  · intro h r hr
    exact h r.key r.booking (booking?_eq_some.2 ⟨r, Shelf.mem_items.1 hr, rfl⟩)

/-- The bookings are kept under their own ids, which are given, with providers
without blanks around them, and in whole chains. -/
structure InOrder (s : Store) : Prop where
  filed : s.Filed
  given : ∀ k b, s.booking? k = some b → k ≠ ""
  trimmed : ∀ k b, s.booking? k = some b → Text.IsTrimmed b.provider
  chained : ∀ k b, s.booking? k = some b → ∃ chain, s.WholeChain chain ∧ b ∈ chain

theorem InOrder.stored (h : s.InOrder) {k : String} {b : Booking} (hb : s.booking? k = some b) :
    s.booking? b.id = some b := by rw [h.filed.id_eq hb, hb]

/-- A store is in order if each of its bookings is. -/
theorem inOrder_of_stored (h : ∀ k b, s.booking? k = some b → b.id = k ∧ k ≠ "" ∧
    Text.IsTrimmed b.provider ∧ ∃ chain, s.WholeChain chain ∧ b ∈ chain) : s.InOrder where
  filed := filed_iff.2 fun k b hb => (h k b hb).1
  given k b hb := (h k b hb).2.1
  trimmed k b hb := (h k b hb).2.2.1
  chained k b hb := (h k b hb).2.2.2

theorem inOrder_of_no_bookings (h : s.records = .empty) : s.InOrder := by
  apply inOrder_of_stored
  intro k b hb
  rw [booking?, h] at hb
  cases hb

/-- Nothing but the bookings matters. -/
theorem InOrder.congr (h : s.InOrder) (hsame : ∀ k, t.booking? k = s.booking? k) : t.InOrder := by
  apply inOrder_of_stored
  intro k b hb
  rw [hsame] at hb
  obtain ⟨chain, hwhole, hmem⟩ := h.chained k b hb
  refine ⟨h.filed.id_eq hb, h.given k b hb, h.trimmed k b hb, chain, ?_, hmem⟩
  exact hwhole.mono fun x hx => (hsame x.id).trans (hwhole.stored x hx)

/-! ## Steps keep the order -/

theorem booking?_enter (s : Store) (k : String) (b : Booking) (l : String) :
    (s.enter (.booking k b)).booking? l = if k = l then some b else s.booking? l :=
  booking?_write s k b l

/-- A new booking is a chain of its own. -/
theorem InOrder.makes (h : s.InOrder) {b : Booking} (fresh : s.booking? b.id = none)
    (given : b.id ≠ "") (trimmed : Text.IsTrimmed b.provider)
    (first : b.rescheduledFrom = none) (last : b.rescheduledTo = none) :
    (s.enter (.booking b.id b)).InOrder := by
  have hcases : ∀ k x, (s.enter (.booking b.id b)).booking? k = some x →
      (k = b.id ∧ x = b) ∨ s.booking? k = some x := by
    intro k x hx
    rw [booking?_enter] at hx
    split at hx
    · rename_i hk
      cases hx
      exact .inl ⟨hk.symm, rfl⟩
    · exact .inr hx
  have hkept : ∀ k x, s.booking? k = some x → (s.enter (.booking b.id b)).booking? k = some x := by
    intro k x hx
    rw [booking?_enter, if_neg]
    · exact hx
    · rintro rfl
      rw [fresh] at hx
      cases hx
  apply inOrder_of_stored
  intro k x hx
  rcases hcases k x hx with ⟨rfl, rfl⟩ | hx
  · refine ⟨rfl, given, trimmed, [x], ⟨?_, List.isChain_singleton x, ?_, ?_⟩,
      List.mem_singleton_self x⟩
    · intro y hy
      obtain rfl := List.mem_singleton.1 hy
      rw [booking?_enter, if_pos rfl]
    · intro y hy
      obtain rfl : x = y := by simpa using hy
      exact first
    · intro y hy
      obtain rfl : x = y := by simpa using hy
      exact last
  · obtain ⟨chain, hwhole, hmem⟩ := h.chained k x hx
    refine ⟨h.filed.id_eq hx, h.given k x hx, h.trimmed k x hx, chain, ?_, hmem⟩
    exact hwhole.mono fun y hy => hkept _ _ (hwhole.stored y hy)

/-- A confirmed booking gives way to another version of it, and to what it is
rescheduled to, which are the only bookings that differ. -/
theorem InOrder.replaces (h : s.InOrder) (b : Booking) (rest : List Booking) {old : Booking}
    (hold : s.booking? old.id = some old) (hconfirmed : old.status = .confirmed)
    (hid : b.id = old.id) (hfrom : b.rescheduledFrom = old.rescheduledFrom)
    (hparties : ∀ x ∈ b :: rest, old.SameParties x) (hgiven : ∀ x ∈ b :: rest, x.id ≠ "")
    (hkept : ∀ k x, k ≠ old.id → s.booking? k = some x → t.booking? k = some x)
    (hcases : ∀ k x, t.booking? k = some x → (x ∈ b :: rest ∧ x.id = k) ∨
      (k ≠ old.id ∧ s.booking? k = some x))
    (hrest : ∀ x ∈ b :: rest, t.booking? x.id = some x)
    (hlinked : (b :: rest).IsChain Booking.MovedTo)
    (hlatest : ∀ x ∈ (b :: rest).getLast?, x.rescheduledTo = none) : t.InOrder := by
  have hother : ∀ x, s.booking? x.id = some x → x ≠ old → x.id ≠ old.id := by
    rintro x hx hne heq
    rw [heq, hold] at hx
    exact hne (Option.some.inj hx).symm
  -- Every chain of the store goes on, and the one of `old` does so with `b`.
  have hchain : ∀ pre, s.WholeChain (pre ++ [old]) → t.WholeChain (pre ++ b :: rest) := by
    intro pre hwhole
    refine hwhole.replace_last hid hfrom (hparties b List.mem_cons_self) (fun x hx => ?_) hrest
      hlinked hlatest
    have hstored := hwhole.stored x (List.mem_append_left _ hx)
    refine hkept _ x (hother x hstored ?_) hstored
    rintro rfl
    have hcancelled := hwhole.cancelled hx
    rw [hconfirmed] at hcancelled
    cases hcancelled
  apply inOrder_of_stored
  intro k x hx
  rcases hcases k x hx with ⟨hmem, rfl⟩ | ⟨hk, hx⟩
  · obtain ⟨chain, hwhole, hin⟩ := h.chained _ old hold
    obtain ⟨pre, rfl⟩ := hwhole.last_of_confirmed hin hconfirmed
    have htrimmed := h.trimmed _ old hold
    rw [(hparties x hmem).2.2.1] at htrimmed
    exact ⟨rfl, hgiven x hmem, htrimmed, _, hchain pre hwhole, List.mem_append_right _ hmem⟩
  · refine ⟨h.filed.id_eq hx, h.given k x hx, h.trimmed k x hx, ?_⟩
    obtain ⟨chain, hwhole, hmem⟩ := h.chained k x hx
    by_cases hin : old ∈ chain
    · obtain ⟨pre, rfl⟩ := hwhole.last_of_confirmed hin hconfirmed
      refine ⟨_, hchain pre hwhole, List.mem_append_left _ ?_⟩
      rcases List.mem_append.1 hmem with hmem | hmem
      · exact hmem
      · obtain rfl := List.mem_singleton.1 hmem
        exact absurd (h.filed.id_eq hx).symm hk
    · refine ⟨chain, hwhole.mono fun y hy => ?_, hmem⟩
      have hstored := hwhole.stored y hy
      exact hkept _ y (hother y hstored fun he => hin (he ▸ hy)) hstored

/-- A confirmed booking has not been rescheduled. -/
theorem InOrder.not_moved (h : s.InOrder) {old : Booking} (hold : s.booking? old.id = some old)
    (hconfirmed : old.status = .confirmed) : old.rescheduledTo = none := by
  obtain ⟨chain, hwhole, hin⟩ := h.chained _ old hold
  obtain ⟨pre, rfl⟩ := hwhole.last_of_confirmed hin hconfirmed
  exact hwhole.latest old (by simp)

/-- Nor does any booking replace it. -/
theorem InOrder.not_replaced (h : s.InOrder) {old : Booking}
    (hold : s.booking? old.id = some old) (hconfirmed : old.status = .confirmed) :
    ∀ c ∈ s.bookings, c.rescheduledFrom ≠ some old.id := by
  intro c hc hfrom
  obtain ⟨k, r, hr, hb⟩ := mem_bookings.1 hc
  obtain ⟨chain, hwhole, hin⟩ := h.chained k c (booking?_eq_some.2 ⟨r, hr, hb⟩)
  obtain ⟨a, ha, hmoved⟩ := hwhole.exists_movedTo hin (by simp [hfrom])
  have hstored := hwhole.stored a ha
  rw [← Option.some.inj (hfrom.symm.trans hmoved.back), hold] at hstored
  obtain rfl := Option.some.inj hstored
  have hcancelled := hmoved.cancelled
  rw [hconfirmed] at hcancelled
  cases hcancelled

/-- So it may be replaced. -/
theorem InOrder.checkOnlySuccessor_eq (h : s.InOrder) {old b : Booking}
    (hold : s.booking? old.id = some old) (hconfirmed : old.status = .confirmed)
    (hfrom : b.rescheduledFrom = some old.id) : s.checkOnlySuccessor b = .ok () := by
  unfold checkOnlySuccessor
  split
  · rfl
  · rename_i id hid
    obtain ⟨hid, -⟩ := Option.filter_eq_some_iff.1 hid
    rw [hfrom] at hid
    cases hid
    rw [if_neg]
    rw [List.any_eq_true]
    rintro ⟨c, hc, heq⟩
    exact h.not_replaced hold hconfirmed c hc (by simpa using heq)

theorem InOrder.writes (h : s.InOrder) {id provider : String} {entries : List Entry}
    (hwrites : Errand.Writes s id provider entries) (hid : id ≠ "") :
    (s.enterAll entries).InOrder := by
  cases hwrites with
  | @makes b fresh id_eq provider_eq trimmed first last =>
    subst id_eq provider_eq
    exact h.makes fresh hid trimmed first last
  | @changes old b stored confirmed _ as_made last =>
    have hsame : b.id = old.id := Booking.id_of_asMade as_made
    rw [h.not_moved stored confirmed] at last
    refine h.replaces b [] stored confirmed hsame
      (Booking.rescheduledFrom_of_asMade as_made) ?_ ?_ ?_ ?_ ?_ (List.isChain_singleton b) ?_
    · simpa using Booking.sameParties_of_asMade as_made.symm
    · simpa [hsame] using h.given _ old stored
    · intro k x hk hx
      exact (booking?_enter ..).trans (by rw [if_neg (Ne.symm hk), hx])
    · intro k x hx
      have hx := (booking?_enter ..).symm.trans hx
      split at hx
      · cases hx
        exact .inl ⟨by simp, by rw [hsame]; assumption⟩
      · exact .inr ⟨Ne.symm (by assumption), hx⟩
    · simp [enterAll, booking?_enter, hsame]
    · simpa using last
  | @replaces old b moved stored confirmed _ fresh id_eq parties back last as_made cancelled
      forth =>
    subst id_eq
    have hsame : moved.id = old.id := Booking.id_of_asMade as_made
    have hne : b.id ≠ old.id := by
      intro he
      rw [he, stored] at fresh
      cases fresh
    have hbooking : ∀ k, (s.enterAll [.booking b.id b, .booking old.id moved]).booking? k =
        if old.id = k then some moved else if b.id = k then some b else s.booking? k := by
      intro k
      exact (booking?_enter ..).trans (by rw [booking?_enter])
    have hmoved : old.SameParties moved := Booking.sameParties_of_asMade as_made.symm
    have hback : moved.SameParties b := (Booking.sameParties_of_asMade as_made).trans parties
    refine h.replaces moved [b] stored confirmed hsame
      (Booking.rescheduledFrom_of_asMade as_made) ?_ ?_ ?_ ?_ ?_
      (List.isChain_pair.2 ⟨cancelled, forth, hsame ▸ back, hback⟩) ?_
    · simpa using ⟨hmoved, parties⟩
    · simpa [hsame] using ⟨h.given _ old stored, hid⟩
    · intro k x hk hx
      rw [hbooking, if_neg (Ne.symm hk), if_neg]
      · exact hx
      · rintro rfl
        rw [fresh] at hx
        cases hx
    · intro k x hx
      rw [hbooking] at hx
      split at hx
      · cases hx
        exact .inl ⟨by simp, by rw [hsame]; assumption⟩
      · split at hx
        · cases hx
          exact .inl ⟨by simp, by assumption⟩
        · exact .inr ⟨Ne.symm (by assumption), hx⟩
    · simp [hbooking, hsame, Ne.symm hne]
    · simpa using last

theorem booking?_enterAll_ofHours {entries : List Entry} {id provider : String}
    (h : ∀ e ∈ entries, e.OfHours s id provider) (k : String) :
    (t.enterAll entries).booking? k = t.booking? k := by
  induction entries generalizing t with
  | nil => rfl
  | cons e rest ih =>
    refine (ih fun e he => h e (List.mem_cons_of_mem _ he)).trans ?_
    cases h e List.mem_cons_self <;> rfl

end Store

/-! ## One service after another -/

namespace Desk

/-- The stores that services at a desk lead to which are asked for one after
another, from a store without bookings on. The ids that are drawn are not
empty. -/
inductive Reaches (desk : Desk) : Store → Prop
  | opening {s : Store} (h : s.records = .empty) : Reaches desk s
  | serve {w : World} (h : Reaches desk w.store) (hid : w.nextId ≠ "") (service : Service) :
      Reaches desk ((World.run (service.serve desk)).run w).2.store

/-- What a service leaves behind. -/
theorem store_of_serve (desk : Desk) (service : Service) (w : World) :
    ((World.run (service.serve desk)).run w).2.store =
      w.store.enterAll (service.ruling desk w.view).entries :=
  (service.follows_serve desk w.view w rfl).2

theorem answer_of_serve (desk : Desk) (service : Service) (w : World) :
    ((World.run (service.serve desk)).run w).1 = (service.ruling desk w.view).answer :=
  (service.follows_serve desk w.view w rfl).1

variable {desk : Desk} {s : Store}

theorem inOrder_of_serve (desk : Desk) {v : View} (h : v.store.InOrder) (hid : v.nextId ≠ "")
    (service : Service) : (v.store.enterAll (service.ruling desk v).entries).InOrder := by
  rcases service.writes_of_ruling h.filed with hnone | ⟨provider, -, hwrites⟩
  · rw [hnone]
    exact h
  · cases hwrites with
    | bookings hwrites => exact h.writes hwrites hid
    | hours hhours => exact h.congr fun k => Store.booking?_enterAll_ofHours hhours k

/-- Whatever services are asked for, the bookings stay in order. -/
theorem Reaches.inOrder (h : desk.Reaches s) : s.InOrder := by
  induction h with
  | opening hnone => exact Store.inOrder_of_no_bookings hnone
  | @serve w _ hid service ih =>
    rw [store_of_serve]
    exact inOrder_of_serve desk (v := w.view) ih hid service

end Desk

/-! ## The small practice -/

namespace Practice

/-- Nothing is booked yet. -/
def unbooked : World where
  store := opening
  clock := today
  ids := ["a", "b"]

/-- The patient has booked ten o'clock. -/
def bookedOnce : World := ((World.run (Service.serve {} (.errand booking))).run unbooked).2

/-- The booking was moved to eleven o'clock. -/
def movedOnce : World :=
  ((World.run (Service.serve {} (.errand (moving "a" "2026-03-02T11:00:00Z")))).run bookedOnce).2

theorem bookedOnce_reached : ({} : Desk).Reaches bookedOnce.store :=
  .serve (.opening rfl) (by decide) _

theorem movedOnce_reached : ({} : Desk).Reaches movedOnce.store :=
  .serve bookedOnce_reached (by decide +kernel) _

end Practice
end Appointments
