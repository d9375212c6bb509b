-- Trails along links from booking to booking, whatever links there are, and
-- walks, which look for them. A trail comes to an end, and so it does not meet
-- a booking twice.
import Appointments.Proofs.RescheduleChains
import Mathlib.Data.List.Nodup
namespace Appointments

/-! ## Candidates by their ids -/

namespace History

/-- Each id that a candidate bears names a candidate with that id, and the id
of `r` names `r` itself. Other ids name nothing. -/
structure Names (candidates : List Booking) (r : Booking) (named : String → Option Booking) :
    Prop where
  sound : ∀ id b, named id = some b → b ∈ candidates ∧ b.id = id
  complete : ∀ b ∈ candidates, ∃ c, named b.id = some c
  self : named r.id = some r

variable {candidates : List Booking} {r : Booking} {named : String → Option Booking}

theorem Names.own (h : Names candidates r named) {id : String} {b : Booking}
    (hb : named id = some b) : named b.id = some b := by
  rw [(h.sound id b hb).2]
  exact hb

theorem names_pool (hr : r ∈ candidates) : Names candidates r (pool r candidates) where
  sound := by
    intro id b hb
    unfold pool at hb
    split at hb
    · rename_i hid
      cases hb
      exact ⟨hr, hid.symm⟩
    · have hmem := List.mem_of_find?_eq_some hb
      have hid := List.find?_some hb
      exact ⟨List.mem_reverse.1 hmem, by simpa using hid⟩
  complete := by
    intro b hb
    unfold pool
    split
    · exact ⟨r, rfl⟩
    · rw [← Option.isSome_iff_exists, List.find?_isSome]
      exact ⟨b, List.mem_reverse.2 hb, BEq.rfl⟩
  self := if_pos rfl

end History

namespace Store

variable {s : Store} {b r : Booking}

theorem mem_bookings_of_booking? {k : String} (h : s.booking? k = some b) : b ∈ s.bookings := by
  obtain ⟨q, hq, hb⟩ := booking?_eq_some.1 h
  exact mem_bookings.2 ⟨_, q, hq, hb⟩

theorem mem_chainCandidates : b ∈ s.chainCandidates r ↔ b ∈ s.bookings ∧ b.SameParties r := by
  simp [chainCandidates, Booking.SameParties, and_assoc]

/-- A stored booking is a candidate for its own history. -/
theorem mem_ownCandidates {k : String} (h : s.booking? k = some r) : r ∈ s.chainCandidates r :=
  mem_chainCandidates.2 ⟨mem_bookings_of_booking? h, .refl r⟩

end Store

/-! ## Trails -/

namespace History

/-- The links lead from the first booking over the others, one after another,
and the last one names nothing. -/
structure Trail (link : Booking → Option String) (named : String → Option Booking)
    (first : Booking) (others : List Booking) : Prop where
  linked : (first :: others).IsChain fun a b => (link a).bind named = some b
  ends : ∀ x ∈ (first :: others).getLast?, (link x).bind named = none

variable {link : Booking → Option String} {named : String → Option Booking}
variable {candidates : List Booking} {r first next : Booking} {others rest : List Booking}

theorem trail_nil : Trail link named first [] ↔ (link first).bind named = none :=
  ⟨fun h => h.ends first rfl, fun h => ⟨.singleton _, fun _ hx =>
    Option.some.inj hx ▸ h⟩⟩

theorem trail_cons : Trail link named first (next :: rest) ↔
    (link first).bind named = some next ∧ Trail link named next rest := by
  constructor
  · intro ⟨hlinked, hends⟩
    rw [List.isChain_cons_cons] at hlinked
    exact ⟨hlinked.1, hlinked.2, fun x hx => hends x (by rwa [List.getLast?_cons_cons])⟩
  · intro ⟨hnext, hlinked, hends⟩
    refine ⟨List.isChain_cons_cons.2 ⟨hnext, hlinked⟩, fun x hx => hends x ?_⟩
    rwa [List.getLast?_cons_cons] at hx

theorem Trail.from_middle {pre post : List Booking}
    (h : Trail link named first (pre ++ next :: post)) : Trail link named next post := by
  induction pre generalizing first with
  | nil => exact (trail_cons.1 h).2
  | cons a pre ih => exact ih (trail_cons.1 h).2

/-- There is one trail at most from each booking. -/
theorem Trail.unique (h : Trail link named first others) (h' : Trail link named first rest) :
    others = rest := by
  induction others generalizing first rest with
  | nil =>
    rw [trail_nil] at h
    cases rest with
    | nil => rfl
    | cons next rest => cases h.symm.trans (trail_cons.1 h').1
  | cons a others ih =>
    obtain ⟨ha, h⟩ := trail_cons.1 h
    cases rest with
    | nil => cases ha.symm.trans (trail_nil.1 h')
    | cons next rest =>
      obtain ⟨hnext, h'⟩ := trail_cons.1 h'
      cases ha.symm.trans hnext
      rw [ih h h']

/-- Each booking that a trail leads to has been named. -/
theorem Trail.named_of_mem (h : Trail link named first others) {x : Booking} (hx : x ∈ others) :
    ∃ id, named id = some x := by
  induction others generalizing first with
  | nil => cases hx
  | cons next others ih =>
    obtain ⟨hnext, h⟩ := trail_cons.1 h
    rcases List.mem_cons.1 hx with rfl | hx
    · obtain ⟨id, -, hid⟩ := Option.bind_eq_some_iff.1 hnext
      exact ⟨id, hid⟩
    · exact ih h hx

theorem Trail.own_of_mem (hnames : Names candidates r named) (h : Trail link named first others)
    {x : Booking} (hx : x ∈ others) : named x.id = some x := by
  obtain ⟨id, hid⟩ := h.named_of_mem hx
  exact hnames.own hid

/-- A trail that ends does not come back to a booking: from there it would go
on as it did before. -/
theorem Trail.not_mem (h : Trail link named first others) : first ∉ others := by
  intro hmem
  obtain ⟨pre, post, rfl⟩ := List.append_of_mem hmem
  have hlength := congrArg List.length (h.from_middle.unique h)
  rw [List.length_append, List.length_cons] at hlength
  omega

theorem Trail.ids_nodup (hnames : Names candidates r named)
    (h : Trail link named first others) (hfirst : named first.id = some first) :
    ((first :: others).map Booking.id).Nodup := by
  induction others generalizing first with
  | nil => simp
  | cons next others ih =>
    rw [List.map_cons, List.nodup_cons]
    constructor
    · intro hmem
      obtain ⟨x, hx, hid⟩ := List.mem_map.1 hmem
      have hown := h.own_of_mem hnames hx
      rw [hid, hfirst] at hown
      cases hown
      exact h.not_mem hx
    · exact ih (trail_cons.1 h).2 (h.own_of_mem hnames List.mem_cons_self)

/-! ## Walks find trails -/

/-- A walk finds the bookings of a trail, unless there are more of them than
hops. -/
theorem walk_eq {limit : Int} {hops : Nat} {seen : List String} (h : Trail link named first rest)
    (hnodup : (rest.map Booking.id).Nodup) (hnew : ∀ x ∈ rest, x.id ∉ seen) :
    walk link named limit hops seen first =
      if rest.length ≤ hops then .ok rest else .error (.tooManyLinks limit) := by
  induction rest generalizing hops seen first with
  | nil =>
    rw [trail_nil] at h
    cases hops <;> simp [walk, h]
  | cons next rest ih =>
    obtain ⟨hnext, h⟩ := trail_cons.1 h
    cases hops with
    | zero => simp [walk, hnext]
    | succ hops =>
      rw [List.map_cons, List.nodup_cons] at hnodup
      have hrest : walk link named limit hops (next.id :: seen) next =
          if rest.length ≤ hops then .ok rest else .error (.tooManyLinks limit) := by
        refine ih h hnodup.2 fun x hx hmem => ?_
        rcases List.mem_cons.1 hmem with heq | hmem
        · exact hnodup.1 (heq ▸ List.mem_map_of_mem hx)
        · exact hnew x (List.mem_cons_of_mem _ hx) hmem
      have hseen : next.id ∉ seen := hnew next List.mem_cons_self
      simp only [walk, hnext, if_neg hseen, hrest, List.length_cons, Nat.add_le_add_iff_right]
      split <;> rfl

/-- A walk has seen nothing yet but the booking from which it starts, and that
is not on the trail again. -/
theorem walk_first (hnames : Names candidates r named) (hfirst : named first.id = some first)
    (h : Trail link named first rest) {limit : Int} {hops : Nat} :
    walk link named limit hops [first.id] first =
      if rest.length ≤ hops then .ok rest else .error (.tooManyLinks limit) := by
  obtain ⟨hnew, hnodup⟩ := List.nodup_cons.1 (h.ids_nodup hnames hfirst)
  refine walk_eq h hnodup fun x hx hseen => ?_
  rw [List.mem_singleton] at hseen
  exact hnew (hseen ▸ List.mem_map_of_mem hx)

/-- What a walk finds is a trail, within the hops. -/
theorem trail_of_walk {limit : Int} {hops : Nat} {seen : List String}
    (h : walk link named limit hops seen first = .ok others) :
    Trail link named first others ∧ others.length ≤ hops := by
  induction hops generalizing seen first others with
  | zero =>
    unfold walk at h
    split at h
    · rename_i hnone
      cases h
      exact ⟨trail_nil.2 hnone, Nat.le_refl 0⟩
    · cases h
  | succ hops ih =>
    unfold walk at h
    split at h
    · rename_i hnone
      cases h
      exact ⟨trail_nil.2 hnone, Nat.zero_le _⟩
    · rename_i next hnext
      split at h
      · cases h
      · obtain ⟨rest, hrest, h⟩ := bind_eq_ok.1 h
        cases h
        obtain ⟨htrail, hlength⟩ := ih hrest
        exact ⟨trail_cons.2 ⟨hnext, htrail⟩, Nat.succ_le_succ hlength⟩

end History
end Appointments
