-- When the same time is free in two stores: what is found about a provider
-- depends on the provider's own template, blackouts and bookings only.
import Appointments.Proofs.Rulings
namespace Appointments

/-- The same time of a provider is taken in both stores, where some bookings
are excluded from each of them. -/
structure Store.TakesSame (s t : Store) (provider : String) (exclude exclude' : List String) :
    Prop where
  template : s.templates.get? provider = t.templates.get? provider
  blackouts : s.blackouts.items.filter (·.provider == provider) =
    t.blackouts.items.filter (·.provider == provider)
  bookings : ∀ stop, s.bookings.filter (Store.mayOverlap provider stop exclude) =
    t.bookings.filter (Store.mayOverlap provider stop exclude')

namespace Store.TakesSame

variable {s t : Store} {provider : String} {exclude exclude' : List String}

theorem activeBlackouts (h : s.TakesSame t provider exclude exclude') (start stop : Instant) :
    s.activeBlackouts provider start stop = t.activeBlackouts provider start stop := by
  unfold Store.activeBlackouts blackoutsOf
  rw [h.blackouts]

theorem overlapping (h : s.TakesSame t provider exclude exclude') (start stop : Instant) :
    s.overlapping provider start stop exclude = t.overlapping provider start stop exclude' := by
  unfold Store.overlapping
  rw [h.bookings]

theorem openings (h : s.TakesSame t provider exclude exclude') {template : Template}
    (hprovider : template.provider = provider) (zone : Zone) (first last : Day) :
    s.openings template zone first last exclude = t.openings template zone first last exclude' := by
  unfold Store.openings
  rw [hprovider]
  simp only [h.overlapping, h.activeBlackouts]

theorem slotsAround (desk : Desk) (h : s.TakesSame t provider exclude exclude') (x : Instant) :
    desk.slotsAround s provider x exclude = desk.slotsAround t provider x exclude' := by
  unfold Desk.slotsAround
  rw [h.template]
  cases hfound : (t.templates.get? provider).filter (·.isActive) with
  | none => rfl
  | some template =>
    obtain ⟨hget, -⟩ := Option.filter_eq_some_iff.1 hfound
    simp only [h.openings (Shelf.key_of_get? hget)]

theorem slotFree (desk : Desk) (h : s.TakesSame t provider exclude exclude')
    (htrimmed : Text.IsTrimmed provider) (start : Instant) (minutes : Int) :
    desk.slotFree s provider start minutes exclude =
      desk.slotFree t provider start minutes exclude' := by
  have hid : Request.id (.text provider) = provider := htrimmed.1
  unfold Desk.slotFree
  simp only [hid, h.slotsAround desk]

/-- Only the time of a booking matters for its being free. -/
theorem checkFree (h : s.TakesSame t provider exclude exclude') {a b : Booking}
    (hprovider : a.provider = provider) (hprovider' : b.provider = provider)
    (hstart : a.start = b.start) (hminutes : a.minutes = b.minutes)
    (hstatus : a.status = b.status) :
    s.checkFree a exclude = t.checkFree b exclude' := by
  have hstop : a.stop = b.stop := by
    unfold Booking.stop
    rw [hstart, hminutes]
  unfold Store.checkFree
  rw [hprovider, hprovider', hstart, hstatus, hstop]
  simp only [h.overlapping]

end Store.TakesSame
end Appointments
