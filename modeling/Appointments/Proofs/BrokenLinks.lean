-- Histories of bookings in any store, whatever links there are between them:
-- cycles, branches, links to nothing and links to bookings of other people.
import Appointments.Proofs.Histories
import Appointments.Proofs.Disclosure
namespace Appointments

namespace History

/-! ## Histories are trails -/

/-- The items are what links lead to within the limit: the `back` links from
`r` to a root, and the `forth` links from the root over the other items. Both
come to an end. -/
def Traces (back forth : Booking → Option String) (named : String → Option Booking) (limit : Int)
    (r : Booking) (items : List Booking) : Prop :=
  ∃ before after, (Trail back named r before ∧ before.length ≤ limit) ∧
    (Trail forth named (before.getLastD r) after ∧ after.length ≤ limit) ∧
    items = before.getLastD r :: after

section
variable {back forth : Booking → Option String} {named : String → Option Booking}
variable {candidates items : List Booking} {r : Booking} {limit : Int} {k : String}
variable {found : History}

theorem Trail.own_last {link : Booking → Option String} {others : List Booking}
    (hnames : Names candidates r named) (h : Trail link named r others) :
    named (others.getLastD r).id = some (others.getLastD r) := by
  rcases List.mem_cons.1 (List.getLastD_mem_cons (l := others) (a := r)) with hlast | hlast
  · rw [hlast]
    exact hnames.self
  · exact h.own_of_mem hnames hlast

theorem Traces.own_of_mem (hnames : Names candidates r named)
    (h : Traces back forth named limit r items) {b : Booking} (hb : b ∈ items) :
    named b.id = some b := by
  obtain ⟨before, after, ⟨hbefore, -⟩, ⟨hafter, -⟩, rfl⟩ := h
  rcases List.mem_cons.1 hb with rfl | hb
  · exact hbefore.own_last hnames
  · exact hafter.own_of_mem hnames hb

theorem Traces.ids_nodup (hnames : Names candidates r named)
    (h : Traces back forth named limit r items) : (items.map Booking.id).Nodup := by
  obtain ⟨before, after, ⟨hbefore, -⟩, ⟨hafter, -⟩, rfl⟩ := h
  exact hafter.ids_nodup hnames (hbefore.own_last hnames)

end
end History

/-! ## Histories on request -/

namespace Desk

end Desk

/-! ## The small practice -/

namespace Practice

end Practice
end Appointments
