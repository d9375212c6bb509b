-- Services for different providers do not depend on each other: in either
-- order they are answered alike, and leave the same behind.
import Appointments.Proofs.ProviderParts
namespace Appointments

/-! ## New ids -/

/-- Nothing is kept under the id. -/
structure Store.IsNew (s : Store) (id : String) : Prop where
  given : id ≠ ""
  booking : s.booking? id = none
  blackout : s.blackouts.get? id = none

/-- Nothing is put under the id. -/
def Entry.Spares (id : String) : Entry → Prop
  | template _ | noBlackout _ => True
  | blackout b => b.id ≠ id
  | booking key _ => key ≠ id

namespace Store.IsNew

variable {s : Store} {id drawn provider : String} {e : Entry} {entries : List Entry}

theorem enter (h : s.IsNew id) (he : e.Spares id) : (s.enter e).IsNew id := by
  cases e with
  | template t => exact ⟨h.given, h.booking, h.blackout⟩
  | blackout b =>
    refine ⟨h.given, h.booking, ?_⟩
    simp only [Store.enter, Shelf.get?_put]
    rw [if_neg he, h.blackout]
  | noBlackout k =>
    refine ⟨h.given, h.booking, ?_⟩
    simp [Store.enter, h.blackout]
  | booking k b =>
    refine ⟨h.given, ?_, h.blackout⟩
    rw [booking?_enter, if_neg he, h.booking]

theorem enterAll (h : s.IsNew id) (he : ∀ e ∈ entries, e.Spares id) :
    (s.enterAll entries).IsNew id := by
  induction entries generalizing s with
  | nil => exact h
  | cons e rest ih =>
    exact ih (h.enter (he e List.mem_cons_self)) fun e' he' => he e' (List.mem_cons_of_mem _ he')

theorem ne_of_stored (h : s.IsNew id) {k : String} {b : Booking} (hb : s.booking? k = some b) :
    k ≠ id := by
  rintro rfl
  rw [h.booking] at hb
  cases hb

/-- A new id stays so when a service draws another one. -/
theorem spared (h : s.IsNew id) (hne : drawn ≠ id)
    (hwrites : Service.Writes s drawn provider entries) : ∀ e ∈ entries, e.Spares id := by
  cases hwrites with
  | bookings hwrites =>
    cases hwrites with
    | makes => simpa [Entry.Spares] using hne
    | changes stored => simpa [Entry.Spares] using h.ne_of_stored stored
    | replaces stored => simpa [Entry.Spares] using ⟨hne, h.ne_of_stored stored⟩
  | hours hhours =>
    intro e he
    cases hhours e he with
    | template => trivial
    | blackout _ id_eq =>
      subst id_eq
      exact hne
    | noBlackout => trivial

end Store.IsNew

/-! ## The same decisions -/

/-- The stores hold the same of a provider, are in order, and keep nothing
under an id. -/
structure Store.ServesAlike (provider id : String) (s t : Store) : Prop where
  alike : s.AlikeFor provider t
  inOrder : s.InOrder
  inOrder' : t.InOrder
  isNew : s.IsNew id
  isNew' : t.IsNew id

namespace Store

theorem named_congr {s t : Store} {id : Value}
    (h : s.booking? (Request.id id) = t.booking? (Request.id id)) : s.named id = t.named id := by
  unfold named found
  apply bind_congr_of_ok
  intro k hk
  obtain ⟨rfl, -⟩ := Request.requiredId_eq_ok hk
  rw [h]

theorem amended_congr {s t : Store} {id : String} (h : s.booking? id = t.booking? id) :
    s.amended id = t.amended id := by
  funext expected changes
  unfold amended
  rw [h]

namespace ServesAlike

variable {s t : Store} {provider id : String} {desk : Desk} {actor : Actor} {now : Instant}

/-- A booking that is to be made is checked alike. -/
theorem checkInsert (h : ServesAlike provider id s t) {b : Booking} (hid : b.id = id)
    (hprovider : b.provider = provider) {exclude : List String}
    (hs : s.checkOnlySuccessor b = .ok ()) (ht : t.checkOnlySuccessor b = .ok ()) :
    s.checkInsert b exclude = t.checkInsert b exclude := by
  subst hid
  rw [checkInsert_of_fresh h.isNew.booking hs, checkInsert_of_fresh h.isNew'.booking ht]
  exact (h.alike.takesSame exclude).checkFree hprovider hprovider rfl rfl rfl

/-- A booking of the provider that is named is found in both stores. -/
theorem booking?_eq (h : ServesAlike provider id s t) {k : String}
    (hk : ∃ b, s.booking? k = some b ∧ b.provider = provider) : s.booking? k = t.booking? k := by
  obtain ⟨b, hb, hprovider⟩ := hk
  rw [hb, h.alike.booking? hb hprovider]

/-- So what is decided about it depends on what is decided once it is found. -/
theorem named_bind (h : ServesAlike provider id s t) {k : Value} {f g : Booking → Except Failure α}
    (hk : ∃ b, s.booking? (Request.id k) = some b ∧ b.provider = provider)
    (hfg : ∀ b, s.booking? b.id = some b → t.booking? b.id = some b → b.provider = provider →
      f b = g b) : (s.named k >>= f) = t.named k >>= g := by
  rw [named_congr (h.booking?_eq hk)]
  apply bind_congr_of_ok
  intro b hb
  obtain ⟨-, ht⟩ := named_eq_ok.1 hb
  have hs := h.booking?_eq hk
  rw [ht] at hs
  obtain ⟨b', hb', hprovider⟩ := hk
  rw [hs] at hb'
  cases hb'
  exact hfg b (h.inOrder.stored hs) (h.inOrder'.stored ht) hprovider

theorem bookDecision_eq (h : ServesAlike provider id s t)
    {request response asked start minutes note : Value} (hasked : Request.id asked = provider) :
    desk.bookDecision ⟨s, now, id⟩ actor request response asked start minutes note =
      desk.bookDecision ⟨t, now, id⟩ actor request response asked start minutes note := by
  subst hasked
  unfold Desk.bookDecision
  refine bind_congr_of_ok fun request _ => bind_congr_of_ok fun response _ =>
    bind_congr_of_ok fun p hp => ?_
  obtain ⟨rfl, hne⟩ := Request.requiredId_eq_ok hp
  have htrimmed := Text.isTrimmed_of_ne_empty (Request.id_text_id asked) hne
  refine bind_congr_of_ok fun start _ => bind_congr_of_ok fun minutes _ =>
    bind_congr_of_ok fun note _ => bind_congr_of_ok fun _ _ => ?_
  dsimp only
  rw [(h.alike.takesSame []).slotFree desk htrimmed,
    h.checkInsert (b := .made id request response (Request.id asked) actor.id start minutes note)
      rfl rfl rfl rfl]

theorem cancelDecision_eq (h : ServesAlike provider id s t) {asked reason : Value}
    (hasked : ∃ b, s.booking? (Request.id asked) = some b ∧ b.provider = provider) :
    desk.cancelDecision ⟨s, now, id⟩ actor asked reason =
      desk.cancelDecision ⟨t, now, id⟩ actor asked reason := by
  apply h.named_bind hasked
  intro b hs ht _
  dsimp only
  rw [amended_congr (hs.trans ht.symm)]

theorem completeDecision_eq (h : ServesAlike provider id s t) {asked : Value}
    (hasked : ∃ b, s.booking? (Request.id asked) = some b ∧ b.provider = provider) :
    Desk.completeDecision ⟨s, now, id⟩ actor asked =
      Desk.completeDecision ⟨t, now, id⟩ actor asked := by
  apply h.named_bind hasked
  intro b hs ht _
  dsimp only
  rw [amended_congr (hs.trans ht.symm)]

theorem rescheduleDecision_eq (h : ServesAlike provider id s t)
    {asked start minutes reason : Value}
    (hasked : ∃ b, s.booking? (Request.id asked) = some b ∧ b.provider = provider) :
    desk.rescheduleDecision ⟨s, now, id⟩ actor asked start minutes reason =
      desk.rescheduleDecision ⟨t, now, id⟩ actor asked start minutes reason := by
  unfold Desk.rescheduleDecision
  refine bind_congr_of_ok fun start _ => bind_congr_of_ok fun reason _ => h.named_bind hasked ?_
  intro old hs ht hprovider
  have htrimmed := hprovider ▸ h.inOrder.trimmed _ old hs
  have hstill : Desk.stillConfirmed s old.id = Desk.stillConfirmed t old.id := by
    unfold Desk.stillConfirmed
    rw [hs, ht]
  dsimp only
  refine bind_congr_of_ok fun _ _ => bind_congr_of_ok fun status _ =>
    bind_congr_of_ok fun _ _ => bind_congr_of_ok fun minutes _ => ?_
  rw [hstill, hprovider, (h.alike.takesSame [old.id]).slotFree desk htrimmed]
  refine bind_congr_of_ok fun _ hok => ?_
  obtain ⟨current, hcurrent, hconfirmed⟩ := Desk.stillConfirmed_eq_ok.1 hok
  rw [ht] at hcurrent
  cases hcurrent
  rw [h.checkInsert (b := Desk.successor old id start minutes) rfl hprovider
      (h.inOrder.checkOnlySuccessor_eq hs hconfirmed rfl)
      (h.inOrder'.checkOnlySuccessor_eq ht hconfirmed rfl),
    amended_congr (hs.trans ht.symm)]

theorem templateDecision_eq (h : ServesAlike provider id s t) {asked : Value}
    (hasked : Request.id asked = provider) :
    desk.templateDecision ⟨s, now, id⟩ asked = desk.templateDecision ⟨t, now, id⟩ asked := by
  subst hasked
  apply bind_congr_of_ok
  intro p hp
  obtain ⟨rfl, -⟩ := Request.requiredId_eq_ok hp
  dsimp only
  rw [h.alike.template]

theorem addBlackoutDecision_eq (h : ServesAlike provider id s t)
    {asked start stop reason isActive : Value} (hasked : Request.id asked = provider) :
    desk.addBlackoutDecision ⟨s, now, id⟩ asked start stop reason isActive =
      desk.addBlackoutDecision ⟨t, now, id⟩ asked start stop reason isActive := by
  subst hasked
  unfold Desk.addBlackoutDecision
  refine bind_congr_of_ok fun p hp => ?_
  obtain ⟨rfl, -⟩ := Request.requiredId_eq_ok hp
  refine bind_congr_of_ok fun start _ => bind_congr_of_ok fun stop _ => ?_
  split
  · rfl
  refine bind_congr_of_ok fun b hb => bind_congr_of_ok fun longest _ => ?_
  obtain rfl : b.id = id := (Desk.askedBlackout_eq_ok hb).1
  unfold Desk.checkClear Desk.checkNewBlackout
  dsimp only
  rw [(h.alike.takesSame []).activeBlackouts, h.isNew.blackout, h.isNew'.blackout]

theorem removeBlackoutDecision_eq (h : ServesAlike provider id s t) {asked blackout : Value}
    (hasked : Request.id asked = provider) :
    Desk.removeBlackoutDecision ⟨s, now, id⟩ asked blackout =
      Desk.removeBlackoutDecision ⟨t, now, id⟩ asked blackout := by
  subst hasked
  apply bind_congr_of_ok
  intro k _
  have hkept : (s.blackouts.get? k).any (·.provider == Request.id asked) =
      (t.blackouts.get? k).any (·.provider == Request.id asked) := by
    rw [Bool.eq_iff_iff, Option.any_eq_true, Option.any_eq_true]
    constructor
    · rintro ⟨b, hb, hprovider⟩
      exact ⟨b, h.alike.blackout? hb (by simpa using hprovider), hprovider⟩
    · rintro ⟨b, hb, hprovider⟩
      exact ⟨b, h.alike.symm.blackout? hb (by simpa using hprovider), hprovider⟩
  dsimp only
  rw [hkept]

/-- The desk rules on a service for the provider alike. -/
theorem ruling_eq (h : ServesAlike provider id s t) (desk : Desk) (now : Instant)
    {service : Service} (hconcerns : service.Concerns s provider) :
    service.ruling desk ⟨s, now, id⟩ = service.ruling desk ⟨t, now, id⟩ := by
  cases service with
  | errand e =>
    refine congrArg (fun d => (Ruling.of d).map Answer.booking) ?_
    cases e with
    | book => exact h.bookDecision_eq hconcerns
    | cancel => exact h.cancelDecision_eq hconcerns
    | complete => exact h.completeDecision_eq hconcerns
    | reschedule => exact h.rescheduleDecision_eq hconcerns
  | template =>
    exact congrArg (fun d => (Ruling.of d).map Answer.template) (h.templateDecision_eq hconcerns)
  | updateTemplate asked updates =>
    exact congrArg (fun d => ((Ruling.of d).bind fun current =>
      .of (desk.updateDecision updates current)).map Answer.template)
        (h.templateDecision_eq hconcerns)
  | addBlackout =>
    exact congrArg (fun d => (Ruling.of d).map Answer.blackout)
      (h.addBlackoutDecision_eq hconcerns)
  | removeBlackout =>
    exact congrArg (fun d => (Ruling.of d).map fun _ => Answer.removed)
      (h.removeBlackoutDecision_eq hconcerns)

end ServesAlike

/-! ## The same stores -/

/-- The stores keep the same under each id, whatever the order. -/
structure SameContents (s t : Store) : Prop where
  templates : ∀ k, s.templates.get? k = t.templates.get? k
  blackouts : ∀ k, s.blackouts.get? k = t.blackouts.get? k
  bookings : ∀ k, s.booking? k = t.booking? k

/-- What is the same of each provider is the same altogether. -/
theorem sameContents_of_alikeFor {s t : Store} (h : ∀ provider, s.AlikeFor provider t) :
    s.SameContents t where
  templates k := (h k).template
  blackouts _ := Option.ext fun b =>
    ⟨fun hb => (h b.provider).blackout? hb rfl, fun hb => (h b.provider).symm.blackout? hb rfl⟩
  bookings _ := Option.ext fun b =>
    ⟨fun hb => (h b.provider).booking? hb rfl, fun hb => (h b.provider).symm.booking? hb rfl⟩

/-- Writes for different providers may change places. -/
theorem sameContents_of_swapped {s : Store} {p q : String} {entries entries' : List Entry}
    (hne : p ≠ q) (he : ∀ e ∈ entries, e.Belongs s p) (he' : ∀ e ∈ entries', e.Belongs s q)
    (hlate : ∀ e ∈ entries, e.Belongs (s.enterAll entries') p)
    (hlate' : ∀ e ∈ entries', e.Belongs (s.enterAll entries) q) :
    ((s.enterAll entries).enterAll entries').SameContents
      ((s.enterAll entries').enterAll entries) := by
  refine sameContents_of_alikeFor fun provider => ?_
  -- For the writers it does not matter whether the other one went first. To
  -- anybody else neither of them has happened.
  by_cases hp : p = provider
  · subst hp
    have hcongr := (AlikeFor.enterAll_other he' hne.symm).enterAll he hlate
    exact (AlikeFor.enterAll_other hlate' hne.symm).symm.trans hcongr
  by_cases hq : q = provider
  · subst hq
    have hcongr := (AlikeFor.enterAll_other he hne).enterAll he' hlate'
    exact hcongr.symm.trans (AlikeFor.enterAll_other hlate hne)
  · have hthere := (AlikeFor.enterAll_other he hp).trans (AlikeFor.enterAll_other hlate' hq)
    have hback := (AlikeFor.enterAll_other he' hq).trans (AlikeFor.enterAll_other hlate hp)
    exact hthere.symm.trans hback

end Store

/-! ## Two services in either order -/

/-- What is settled before somebody is served: the time, and the id that the
service draws if it draws one. -/
structure Moment where
  now : Instant
  id : String

def World.at (w : World) (m : Moment) : World := { w with clock := m.now, ids := [m.id] }

/-- What comes of two services. -/
structure BothServed where
  first : Except Failure Answer
  second : Except Failure Answer
  world : World

namespace Desk

def serveAt (desk : Desk) (service : Service) (m : Moment) (w : World) :
    Except Failure Answer × World :=
  (World.run (service.serve desk)).run (w.at m)

/-- Serves one, and then the other one. -/
def serveBoth (desk : Desk) (a : Service) (m : Moment) (b : Service) (n : Moment) (w : World) :
    BothServed :=
  let (first, w) := desk.serveAt a m w
  let (second, w) := desk.serveAt b n w
  ⟨first, second, w⟩

section
variable {desk : Desk} {a b : Service} {m n : Moment} {w : World} {provider other : String}

theorem answer_serveAt (desk : Desk) (a : Service) (m : Moment) (w : World) :
    (desk.serveAt a m w).1 = (a.ruling desk ⟨w.store, m.now, m.id⟩).answer :=
  answer_of_serve desk a (w.at m)

theorem store_serveAt (desk : Desk) (a : Service) (m : Moment) (w : World) :
    (desk.serveAt a m w).2.store =
      w.store.enterAll (a.ruling desk ⟨w.store, m.now, m.id⟩).entries :=
  store_of_serve desk a (w.at m)

/-- Once another provider's service is done, the provider is served as
before. -/
theorem servesAlike_after (desk : Desk) {s : Store} (hs : s.InOrder) (hb : b.Concerns s other)
    (hne : other ≠ provider) (hm : s.IsNew m.id) (hn : s.IsNew n.id) (hids : n.id ≠ m.id) :
    s.ServesAlike provider m.id (s.enterAll (b.ruling desk ⟨s, n.now, n.id⟩).entries) := by
  have hafter := inOrder_of_serve desk (v := ⟨s, n.now, n.id⟩) hs hn.given b
  rcases b.writes_of_concerns desk (v := ⟨s, n.now, n.id⟩) hs.filed hb with hnone | hwrites
  · rw [hnone]
    exact ⟨⟨rfl, rfl, rfl⟩, hs, hs, hm, hm⟩
  · exact ⟨.enterAll_other hwrites.belongs hne, hs, hafter, hm,
      hm.enterAll (hm.spared hids hwrites)⟩

theorem belongs_of_ruling (desk : Desk) {s : Store} (hs : s.InOrder)
    (ha : a.Concerns s provider) (m : Moment) :
    ∀ e ∈ (a.ruling desk ⟨s, m.now, m.id⟩).entries, e.Belongs s provider := by
  rcases a.writes_of_concerns desk (v := ⟨s, m.now, m.id⟩) hs.filed ha with hnone | hwrites
  · rw [hnone]
    exact fun e he => nomatch he
  · exact hwrites.belongs

/-- Services for different providers, whose times and ids are settled
beforehand, are answered the same in either order, and leave the same
behind. -/
theorem Reaches.providers_are_separate (hreach : desk.Reaches w.store)
    (ha : a.Concerns w.store provider) (hb : b.Concerns w.store other) (hne : provider ≠ other)
    (hm : w.store.IsNew m.id) (hn : w.store.IsNew n.id) (hids : m.id ≠ n.id) :
    (desk.serveBoth a m b n w).first = (desk.serveBoth b n a m w).second ∧
      (desk.serveBoth a m b n w).second = (desk.serveBoth b n a m w).first ∧
      (desk.serveBoth a m b n w).world.store.SameContents
        (desk.serveBoth b n a m w).world.store := by
  have hs := hreach.inOrder
  -- Each service is ruled on alike when the other one went first, and so what
  -- it writes is its provider's then, too.
  have hforA := servesAlike_after desk hs hb hne.symm hm hn hids.symm
  have hforB := servesAlike_after desk hs ha hne hn hm hids
  have hrulingA := hforA.ruling_eq desk m.now ha
  have hrulingB := hforB.ruling_eq desk n.now hb
  have hlateA := belongs_of_ruling desk hforA.inOrder' (ha.congr hforA.alike) m
  have hlateB := belongs_of_ruling desk hforB.inOrder' (hb.congr hforB.alike) n
  rw [← hrulingA] at hlateA
  rw [← hrulingB] at hlateB
  simp only [serveBoth, answer_serveAt, store_serveAt, ← hrulingA, ← hrulingB, true_and]
  exact Store.sameContents_of_swapped hne (belongs_of_ruling desk hs ha m)
    (belongs_of_ruling desk hs hb n) hlateA hlateB

/-- The nurse is away while the doctor sees patients. -/
def absence : Service :=
  .addBlackout (.text "nurse") (.text "2026-03-02T09:00:00Z") (.text "2026-03-02T12:00:00Z") .null
    (.bool true)

open Practice in
/-- The doctor's patient moves a booking to a time at which the nurse is about
to be away. -/
theorem move_and_absence_change_places :
    let move := Service.errand (moving "a" "2026-03-02T11:00:00Z")
    let moved := ({} : Desk).serveBoth move ⟨today, "b"⟩ absence ⟨today, "c"⟩ bookedOnce
    let away := ({} : Desk).serveBoth absence ⟨today, "c"⟩ move ⟨today, "b"⟩ bookedOnce
    moved.first.isOk = true ∧ moved.second.isOk = true ∧ moved.first = away.second ∧
      moved.second = away.first ∧ moved.world.store.SameContents away.world.store := by
  have hmove : (Service.errand (moving "a" "2026-03-02T11:00:00Z")).Concerns bookedOnce.store
      "doctor" := ⟨booked, by decide +kernel, rfl⟩
  have hnew : bookedOnce.store.IsNew "b" := ⟨by decide, by decide +kernel, by decide +kernel⟩
  have hnew' : bookedOnce.store.IsNew "c" := ⟨by decide, by decide +kernel, by decide +kernel⟩
  exact ⟨by decide +kernel, by decide +kernel,
    bookedOnce_reached.providers_are_separate (m := ⟨today, "b"⟩) (n := ⟨today, "c"⟩) hmove
      (b := absence) rfl (by decide) hnew hnew' (by decide)⟩

end
end Desk
end Appointments
