-- Whom the desk shows bookings to: the parties to them, whatever the store
-- holds. What other people have booked does not show in anybody's list either.
import Appointments.Proofs.LoneCalls
import Appointments.Proofs.Lookups
import Appointments.Proofs.Trails
import Mathlib.Data.List.Nodup

namespace Appointments

namespace Booking

theorem notAfter_iff {a b : Booking} : a.notAfter b = true ↔
    a.start.micros < b.start.micros ∨ (a.start.micros = b.start.micros ∧ a.id ≤ b.id) := by
  simp [notAfter, Instant.lt_iff, Instant.ext_iff]

theorem notAfter_total (a b : Booking) : a.notAfter b = true ∨ b.notAfter a = true := by
  rw [notAfter_iff, notAfter_iff]
  have hid := String.le_total a.id b.id
  rcases lt_trichotomy a.start.micros b.start.micros with hlt | heq | hlt
  · exact .inl (.inl hlt)
  · exact hid.imp (fun h => .inr ⟨heq, h⟩) fun h => .inr ⟨heq.symm, h⟩
  · exact .inr (.inl hlt)

theorem notAfter_trans (a b c : Booking) (hab : a.notAfter b = true) (hbc : b.notAfter c = true) :
    a.notAfter c = true := by
  rw [notAfter_iff] at *
  rcases hab with hab | ⟨hab, hid⟩
  · rcases hbc with hbc | ⟨hbc, -⟩ <;> exact .inl (by omega)
  · rcases hbc with hbc | ⟨hbc, hid'⟩
    · exact .inl (by omega)
    · exact .inr ⟨hab.trans hbc, String.le_trans hid hid'⟩

theorem eq_of_notAfter {a b : Booking} (hab : a.notAfter b = true) (hba : b.notAfter a = true) :
    a.start = b.start ∧ a.id = b.id := by
  rw [notAfter_iff] at hab hba
  rcases hab with hab | ⟨hstart, hid⟩
  · rcases hba with hba | ⟨hba, -⟩ <;> omega
  · rcases hba with hba | ⟨-, hid'⟩
    · omega
    · exact ⟨Instant.ext_micros (by rw [hstart]), String.le_antisymm hid hid'⟩

end Booking

/-! ## Who sees a booking -/

/-- The actor is a party to the booking, or an admin. -/
def Booking.visibleTo (actor : Actor) (b : Booking) : Bool :=
  match actor.role with
  | .admin => true
  | .client => b.client == actor.id
  | .provider => b.provider == actor.id

theorem Operation.not_isAllowed_nil (op : Operation) : op.isAllowed [] = false := by
  simp [isAllowed]

theorem Actor.capabilities_of_not_visibleTo {actor : Actor} {b : Booking}
    (h : b.visibleTo actor = false) : actor.capabilities b.client b.provider = [] := by
  unfold Booking.visibleTo at h
  unfold capabilities
  cases hrole : actor.role with
  | admin => simp [hrole] at h
  | client =>
    simp only [hrole, beq_eq_false_iff_ne] at h
    exact if_neg (by simpa using h)
  | provider =>
    simp only [hrole, beq_eq_false_iff_ne] at h
    exact if_neg (by simpa using h)

/-- Nothing is permitted about bookings of other people. -/
theorem Actor.visibleTo_of_permit {actor : Actor} {op : Operation} {b : Booking}
    {held : List Capability} (h : actor.permit op b.client b.provider = .ok held) :
    b.visibleTo actor = true := by
  have hallowed := permit_eq_ok h
  cases hvisible : b.visibleTo actor with
  | true => rfl
  | false =>
    rw [capabilities_of_not_visibleTo hvisible, Operation.not_isAllowed_nil] at hallowed
    cases hallowed

/-- Who sees a booking may ask for it. -/
theorem Actor.permit_view_of_visibleTo {actor : Actor} {b : Booking}
    (h : b.visibleTo actor = true) :
    actor.permit .view b.client b.provider = .ok (actor.capabilities b.client b.provider) := by
  apply if_pos
  unfold Booking.visibleTo at h
  unfold capabilities
  cases hrole : actor.role with
  | admin => rfl
  | client =>
    simp only [hrole, beq_iff_eq] at h
    rw [h]
    simp [Operation.isAllowed, Operation.allowedTo]
  | provider =>
    simp only [hrole, beq_iff_eq] at h
    rw [h]
    simp [Operation.isAllowed, Operation.allowedTo]

/-- Who sees one booking about an agreement sees all of them. -/
theorem Booking.SameParties.visibleTo_eq {a b : Booking} (h : a.SameParties b) (actor : Actor) :
    a.visibleTo actor = b.visibleTo actor := by
  unfold visibleTo
  rw [h.2.2.1, h.2.2.2]

/-! ## Histories -/

namespace History

/-- The pool of a booking holds bookings of the same parties only, whatever
links there are. -/
theorem sameParties_of_pool {s : Store} {requested b : Booking} {k : String}
    (h : pool requested (s.chainCandidates requested) k = some b) : requested.SameParties b := by
  unfold pool at h
  split at h
  · cases h
    exact .refl requested
  · have hmem := List.mem_reverse.1 (List.mem_of_find?_eq_some h)
    exact (Store.mem_chainCandidates.1 hmem).2.symm

theorem sameParties_of_ofCandidates {s : Store} {limit : Int} {id : String}
    {requested : Booking} {found : History}
    (h : ofCandidates limit id requested (s.chainCandidates requested) = .ok found) :
    ∀ b ∈ found.items, requested.SameParties b := by
  obtain ⟨back, hback, h⟩ := bind_eq_ok.1 h
  obtain ⟨rest, hrest, h⟩ := bind_eq_ok.1 h
  cases h
  intro b hb
  rcases List.mem_cons.1 hb with rfl | hb
  · have hlast : back.getLastD requested ∈ requested :: back := List.getLastD_mem_cons
    rcases List.mem_cons.1 hlast with hroot | hroot
    · rw [hroot]
      exact .refl requested
    · obtain ⟨k, hk⟩ := (trail_of_walk hback).1.named_of_mem hroot
      exact sameParties_of_pool hk
  · obtain ⟨k, hk⟩ := (trail_of_walk hrest).1.named_of_mem hb
    exact sameParties_of_pool hk

end History

/-! ## Lists -/

namespace Store

/-- The stores keep the same bookings that the actor sees, under the same
ids. -/
def SharesVisible (actor : Actor) (s t : Store) : Prop :=
  ∀ k b, b.visibleTo actor = true → (s.booking? k = some b ↔ t.booking? k = some b)

/-- Different bookings that the actor sees start at different times or have
different ids. -/
def TellsApart (actor : Actor) (s : Store) : Prop :=
  ∀ a ∈ s.bookings, ∀ b ∈ s.bookings, a.visibleTo actor = true → b.visibleTo actor = true →
    a.start = b.start → a.id = b.id → a = b

variable {s t : Store} {actor : Actor}

/-- Bookings that are kept under their own ids are told apart by them. -/
theorem Filed.tellsApart (h : s.Filed) (actor : Actor) : s.TellsApart actor := by
  intro a ha b hb _ _ _ hid
  obtain ⟨k, r, hr, rfl⟩ := mem_bookings.1 ha
  obtain ⟨l, q, hq, rfl⟩ := mem_bookings.1 hb
  have hk := h.id_eq (booking?_eq_some.2 ⟨r, hr, rfl⟩)
  have hl := h.id_eq (booking?_eq_some.2 ⟨q, hq, rfl⟩)
  rw [← hk, hid, hl, hq] at hr
  cases hr
  rfl

theorem nodup_kept (s : Store) (query : Booking → Bool) : (s.kept query).Nodup := by
  have hkeys : ((s.kept query).map Prod.fst).Nodup := by
    unfold kept
    rw [List.map_map]
    exact s.records.nodup.sublist (List.filter_sublist.map Record.key)
  exact List.Nodup.of_map Prod.fst hkeys

/-- Then they have the same bookings that the actor sees, in some order. -/
theorem SharesVisible.perm (h : s.SharesVisible actor t) :
    (s.bookings.filter (·.visibleTo actor)).Perm (t.bookings.filter (·.visibleTo actor)) := by
  rw [← map_kept, ← map_kept]
  apply List.Perm.map
  rw [List.perm_ext_iff_of_nodup (nodup_kept s _) (nodup_kept t _)]
  rintro ⟨k, b⟩
  rw [mem_kept, mem_kept]
  exact ⟨fun ⟨hb, hv⟩ => ⟨(h k b hv).1 hb, hv⟩, fun ⟨hb, hv⟩ => ⟨(h k b hv).2 hb, hv⟩⟩

theorem mem_of_mem_page {α : Type} {offset : Int} {limit : Option Int} {items : List α} {a : α}
    (h : a ∈ page offset limit items) : a ∈ items := by
  unfold page at h
  dsimp only at h
  split at h
  · exact List.mem_of_mem_drop h
  · exact List.mem_of_mem_take (List.mem_of_mem_drop h)

theorem mem_of_mem_list {q : Query} {b : Booking} (h : b ∈ s.list q) :
    b ∈ s.bookings.filter q.selects :=
  (List.sortedBy_perm _ _).mem_iff.1 (mem_of_mem_page h)

/-- A list does not depend on the order in which its bookings come, if they
are told apart. -/
theorem list_eq_of_perm {q : Query}
    (hperm : (s.bookings.filter q.selects).Perm (t.bookings.filter q.selects))
    (hapart : ∀ a ∈ s.bookings.filter q.selects, ∀ b ∈ s.bookings.filter q.selects,
      a.start = b.start → a.id = b.id → a = b) : s.list q = t.list q := by
  unfold list
  rw [List.sortedBy_eq_of_perm (fun a b => Booking.notAfter_total b a)
    (fun a b c hab hbc => Booking.notAfter_trans c b a hbc hab) hperm]
  intro a ha b hb hab hba
  obtain ⟨hstart, hid⟩ := Booking.eq_of_notAfter hba hab
  exact hapart a ha b hb hstart hid

end Store

namespace Desk

variable {desk : Desk} {s t : Store} {actor : Actor} {filters : Filters}

/-- A query for an actor selects what the actor sees, whatever the filters. -/
theorem visibleTo_of_selects {b : Booking} (h : (desk.query actor filters).selects b = true) :
    b.visibleTo actor = true := by
  unfold Store.Query.selects query at h
  unfold Booking.visibleTo
  cases hrole : actor.role with
  | admin => rfl
  | client =>
    simp only [hrole, Bool.and_eq_true] at h
    simpa using h.1.1.1.1
  | provider =>
    simp only [hrole, Bool.and_eq_true] at h
    simpa using h.1.1.1.2

theorem filter_selects (desk : Desk) (s : Store) (actor : Actor) (filters : Filters) :
    s.bookings.filter (desk.query actor filters).selects =
      (s.bookings.filter (·.visibleTo actor)).filter (desk.query actor filters).selects := by
  rw [List.filter_filter]
  apply List.filter_congr
  intro b _
  cases hselects : (desk.query actor filters).selects b with
  | false => rfl
  | true => rw [visibleTo_of_selects hselects]; rfl

/-! ## What the desk shows -/

/-- A booking is shown if it is there and visible. -/
theorem shown_eq_ok {id : Value} {b : Booking} : shown s actor id = .ok b ↔
    (Request.id id ≠ "" ∧ s.booking? (Request.id id) = some b) ∧ b.visibleTo actor = true := by
  constructor
  · intro h
    obtain ⟨found, hfound, h⟩ := bind_eq_ok.1 h
    obtain ⟨held, hheld, h⟩ := bind_eq_ok.1 h
    cases h
    exact ⟨Store.named_eq_ok.1 hfound, Actor.visibleTo_of_permit hheld⟩
  · rintro ⟨hb, hvisible⟩
    unfold shown
    rw [Store.named_eq_ok.2 hb, ok_bind, Actor.permit_view_of_visibleTo hvisible]
    rfl

theorem visibleTo_of_shownList {found : List Booking}
    (h : desk.shownList s actor filters = .ok found) : ∀ b ∈ found, b.visibleTo actor = true := by
  obtain ⟨⟨⟩, -, h⟩ := bind_eq_ok.1 h
  cases h
  intro b hb
  have hlisted := Store.mem_of_mem_list hb
  exact visibleTo_of_selects (List.mem_filter.1 hlisted).2

theorem visibleTo_of_shownHistory {id : Value} {found : History}
    (h : desk.shownHistory s actor id = .ok found) :
    ∀ b ∈ found.items, b.visibleTo actor = true := by
  obtain ⟨id, -, h⟩ := bind_eq_ok.1 h
  obtain ⟨requested, -, h⟩ := bind_eq_ok.1 h
  obtain ⟨held, hheld, h⟩ := bind_eq_ok.1 h
  intro b hb
  cases hfound : History.ofCandidates desk.bookings.maxLinks id requested
      (s.chainCandidates requested) with
  | error fault =>
    rw [hfound] at h
    cases h
  | ok history =>
    rw [hfound] at h
    cases h
    rw [← (History.sameParties_of_ofCandidates hfound b hb).visibleTo_eq actor]
    exact Actor.visibleTo_of_permit hheld

/-- The list that is shown to an actor depends on what the actor sees only. -/
theorem shownList_eq_of_filter
    (h : s.bookings.filter (·.visibleTo actor) = t.bookings.filter (·.visibleTo actor)) :
    desk.shownList s actor filters = desk.shownList t actor filters := by
  unfold shownList Store.list
  rw [filter_selects, filter_selects desk t, h]

theorem shownList_eq_of_shares (hshares : s.SharesVisible actor t) (hapart : s.TellsApart actor) :
    desk.shownList s actor filters = desk.shownList t actor filters := by
  have hlist : s.list (desk.query actor filters) = t.list (desk.query actor filters) := by
    apply Store.list_eq_of_perm
    · rw [filter_selects, filter_selects desk t]
      exact hshares.perm.filter _
    · intro a ha b hb
      obtain ⟨ha, hselects⟩ := List.mem_filter.1 ha
      obtain ⟨hb, hselects'⟩ := List.mem_filter.1 hb
      exact hapart a ha b hb (visibleTo_of_selects hselects) (visibleTo_of_selects hselects')
  unfold shownList
  rw [hlist]

/-- The actor is shown the same lists in both worlds. -/
def ListsAlike (desk : Desk) (actor : Actor) (w w' : World) : Prop :=
  ∀ filters, ((World.run (desk.list actor filters)).run w).1 =
    ((World.run (desk.list actor filters)).run w').1

theorem listsAlike_of_shownList {w w' : World}
    (h : ∀ filters, desk.shownList w.store actor filters = desk.shownList w'.store actor filters) :
    desk.ListsAlike actor w w' := by
  intro filters
  rw [(reports_list desk actor filters w rfl).1, (reports_list desk actor filters w' rfl).1]
  exact h filters

/-- Whatever the store holds, a booking is shown to those to whom it is
visible, and each booking that an actor is shown in a list or in a history is
visible to the actor. What else the store holds makes no difference to lists,
nor does the order in which it holds bookings that are told apart. -/
theorem shows_only_visible (desk : Desk) (actor : Actor) (w : World) :
    (∀ id b, ((World.run (desk.booking actor id)).run w).1 = .ok b ↔
        (Request.id id ≠ "" ∧ w.store.booking? (Request.id id) = some b) ∧
          b.visibleTo actor = true) ∧
      (∀ filters found, ((World.run (desk.list actor filters)).run w).1 = .ok found →
        ∀ b ∈ found, b.visibleTo actor = true) ∧
      (∀ id found, ((World.run (desk.history actor id)).run w).1 = .ok found →
        ∀ b ∈ found.items, b.visibleTo actor = true) ∧
      (∀ w' : World, w.store.bookings.filter (·.visibleTo actor) =
        w'.store.bookings.filter (·.visibleTo actor) → desk.ListsAlike actor w w') ∧
      ∀ w' : World, w.store.SharesVisible actor w'.store → w.store.TellsApart actor →
        desk.ListsAlike actor w w' := by
  refine ⟨fun id b => ?_, fun filters found h => ?_, fun id found h => ?_, fun w' h => ?_,
    fun w' hshares hapart => ?_⟩
  · rw [(reports_booking desk actor id w rfl).1]
    exact shown_eq_ok
  · rw [(reports_list desk actor filters w rfl).1] at h
    exact visibleTo_of_shownList h
  · rw [(reports_history desk actor id w rfl).1] at h
    exact visibleTo_of_shownHistory h
  · exact listsAlike_of_shownList fun filters => shownList_eq_of_filter h
  · exact listsAlike_of_shownList fun filters => shownList_eq_of_shares hshares hapart

end Desk

/-! ## The small practice -/

namespace Practice

/-- A stranger has booked eleven o'clock. -/
def withStranger : World := { bookedAtTen with
  store := (bookedAtTen.store.write "b"
    { booked with id := "b", client := "stranger", start := eleven }).2 }

/-- The patient's list does not show whether there is a stranger's booking. -/
theorem stranger_does_not_show :
    bookedAtTen.store.SharesVisible patient withStranger.store ∧
      bookedAtTen.store.TellsApart patient ∧
      ({} : Desk).ListsAlike patient bookedAtTen withStranger := by
  have hshares : bookedAtTen.store.SharesVisible patient withStranger.store := by
    intro k b hvisible
    unfold withStranger
    rw [Store.booking?_write]
    split
    · rename_i hk
      subst hk
      refine iff_of_false (fun h => nomatch h) fun h => ?_
      cases h
      exact absurd hvisible (by decide)
    · rfl
  have hfiled : bookedAtTen.store.Filed := by
    unfold Store.Filed
    decide
  have happly := ({} : Desk).shows_only_visible patient bookedAtTen
  exact ⟨hshares, hfiled.tellsApart patient,
    happly.2.2.2.2 withStranger hshares (hfiled.tellsApart patient)⟩

/-- The patient has booked the nurse, too, at the same time. That booking is
kept under "b" but bears the id of the other one. -/
def alsoNurse : Booking := { booked with provider := "nurse" }

def twins : World where
  store := { records := (Shelf.empty.put ⟨"a", 0, booked⟩).put ⟨"b", 1, alsoNurse⟩ }
  clock := today

/-- The same bookings, which came in the other order. -/
def twinsSwapped : World where
  store := { records := (Shelf.empty.put ⟨"b", 1, alsoNurse⟩).put ⟨"a", 0, booked⟩ }
  clock := today

/-- Bookings that bear the same id are listed in the order in which they
came. -/
theorem twins_are_not_listed_alike :
    ¬ ∀ (desk : Desk) (actor : Actor) (w w' : World),
      w.store.SharesVisible actor w'.store → desk.ListsAlike actor w w' := by
  intro h
  have hshares : twins.store.SharesVisible patient twinsSwapped.store := by
    intro k b _
    have hsame : twins.store.booking? k = twinsSwapped.store.booking? k := by
      unfold twins twinsSwapped Store.booking?
      simp only [Shelf.get?_put]
      split
      · rename_i hb
        subst hb
        rfl
      · rfl
    rw [hsame]
  have hlists := h {} patient twins twinsSwapped hshares {}
  have hproviders : let providers := fun w =>
        ((World.run (({} : Desk).list patient {})).run w).1.toOption.map (List.map Booking.provider)
      providers twins = some ["doctor", "nurse"] ∧
        providers twinsSwapped = some ["nurse", "doctor"] := by decide +kernel
  dsimp only at hproviders
  rw [hlists, hproviders.2] at hproviders
  exact absurd hproviders.1 (by decide)

end Practice
end Appointments
