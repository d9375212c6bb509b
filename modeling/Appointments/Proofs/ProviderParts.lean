-- The part of a store that belongs to a provider, and which writes leave it
-- alone.
import Appointments.Proofs.InTurn
import Appointments.Proofs.SameTime
namespace Appointments

/-! ## Shelves seen through a query -/

namespace Shelf

variable {α β : Type} {key : α → String} {query : α → Bool} {a : α} {items : List α}

theorem filter_putInto_of_not (ha : query a = false)
    (h : ∀ x ∈ items, key x = key a → query x = false) :
    (putInto key a items).filter query = items.filter query := by
  induction items with
  | nil => simp [putInto, ha]
  | cons b bs ih =>
    unfold putInto
    split
    · rename_i hkey
      simp [ha, h b List.mem_cons_self hkey]
    · rw [List.filter_cons, List.filter_cons, ih fun x hx => h x (List.mem_cons_of_mem _ hx)]

theorem filter_putInto (ha : query a = true)
    (h : ∀ x ∈ items, key x = key a → query x = true) :
    (putInto key a items).filter query = putInto key a (items.filter query) := by
  induction items with
  | nil => simp [putInto, ha]
  | cons b bs ih =>
    have hrest := ih fun x hx => h x (List.mem_cons_of_mem _ hx)
    by_cases hkey : key b = key a
    · have hb := h b List.mem_cons_self hkey
      simp [putInto, hkey, ha, hb]
    · cases hb : query b <;> simp [putInto, hkey, hb, hrest]

theorem map_putInto {key' : β → String} {f : α → β} (h : ∀ x, key' (f x) = key x) :
    (putInto key a items).map f = putInto key' (f a) (items.map f) := by
  induction items with
  | nil => rfl
  | cons b bs ih =>
    by_cases hkey : key b = key a <;> simp [putInto, h, hkey, ih]

theorem filter_erase_of_not {k : String} (h : ∀ x ∈ items, key x = k → query x = false) :
    (items.filter (key · != k)).filter query = items.filter query := by
  rw [List.filter_filter]
  apply List.filter_congr
  intro x hx
  by_cases hkey : key x = k
  · simp [h x hx hkey]
  · simp [hkey]

end Shelf

/-! ## What belongs to a provider -/

namespace Store

/-- The stores hold the same of a provider, in the same order. -/
structure AlikeFor (provider : String) (s t : Store) : Prop where
  template : s.templates.get? provider = t.templates.get? provider
  blackouts : s.blackouts.items.filter (·.provider == provider) =
    t.blackouts.items.filter (·.provider == provider)
  bookings : s.kept (·.provider == provider) = t.kept (·.provider == provider)

variable {s t u : Store} {provider : String}

namespace AlikeFor

theorem symm (h : AlikeFor provider s t) : AlikeFor provider t s :=
  ⟨h.template.symm, h.blackouts.symm, h.bookings.symm⟩

theorem trans (h : AlikeFor provider s t) (h' : AlikeFor provider t u) : AlikeFor provider s u :=
  ⟨h.template.trans h'.template, h.blackouts.trans h'.blackouts, h.bookings.trans h'.bookings⟩

theorem booking? (h : AlikeFor provider s t) {k : String} {b : Booking}
    (hb : s.booking? k = some b) (hprovider : b.provider = provider) : t.booking? k = some b := by
  have hmem : (k, b) ∈ s.kept (·.provider == provider) := mem_kept.2 ⟨hb, by simpa using hprovider⟩
  rw [h.bookings] at hmem
  exact (mem_kept.1 hmem).1

theorem blackout? (h : AlikeFor provider s t) {k : String} {b : Blackout}
    (hb : s.blackouts.get? k = some b) (hprovider : b.provider = provider) :
    t.blackouts.get? k = some b := by
  obtain rfl := Shelf.key_of_get? hb
  have hmem : b ∈ t.blackouts.items.filter (·.provider == provider) := by
    rw [← h.blackouts]
    exact List.mem_filter.2 ⟨Shelf.mem_of_get? hb, by simpa using hprovider⟩
  exact Shelf.mem_items.1 (List.mem_filter.1 hmem).1

/-- What is taken of the provider's time is the same. -/
theorem takesSame (h : AlikeFor provider s t) (exclude : List String) :
    s.TakesSame t provider exclude exclude where
  template := h.template
  blackouts := h.blackouts
  bookings stop := by
    have hkept : ∀ s : Store, s.bookings.filter (mayOverlap provider stop exclude) =
        ((s.kept (·.provider == provider)).map (·.2)).filter
          (mayOverlap provider stop exclude) := by
      intro s
      rw [map_kept, List.filter_filter]
      apply List.filter_congr
      intro b _
      cases hprovider : b.provider == provider <;> simp [mayOverlap, hprovider]
    rw [hkept, hkept, h.bookings]

end AlikeFor
end Store

/-! ## Writes about a provider -/

/-- What is written is the provider's, and so is what it takes the place of. -/
def Entry.Belongs (s : Store) (provider : String) : Entry → Prop
  | template t => t.provider = provider
  | blackout b => b.provider = provider ∧
      ∀ x, s.blackouts.get? b.id = some x → x.provider = provider
  | noBlackout id => ∀ x, s.blackouts.get? id = some x → x.provider = provider
  | booking key b => b.provider = provider ∧
      ∀ x, s.booking? key = some x → x.provider = provider

namespace Store

variable {s t : Store} {provider other : String} {e e' : Entry} {entries : List Entry}

theorem blackout_of_enter (he : e.Belongs s provider) {k : String} {x : Blackout}
    (hx : (s.enter e).blackouts.get? k = some x) :
    x.provider = provider ∨ s.blackouts.get? k = some x := by
  cases e with
  | template t => exact .inr hx
  | blackout b =>
    simp only [enter, Shelf.get?_put] at hx
    split at hx
    · cases hx
      exact .inl he.1
    · exact .inr hx
  | noBlackout id =>
    simp only [enter, Shelf.get?_erase] at hx
    split at hx
    · cases hx
    · exact .inr hx
  | booking key b => exact .inr hx

theorem booking_of_enter (he : e.Belongs s provider) {k : String} {x : Booking}
    (hx : (s.enter e).booking? k = some x) : x.provider = provider ∨ s.booking? k = some x := by
  cases e with
  | template t => exact .inr hx
  | blackout b => exact .inr hx
  | noBlackout id => exact .inr hx
  | booking key b =>
    rw [booking?_enter] at hx
    split at hx
    · cases hx
      exact .inl he.1
    · exact .inr hx

/-- Another write belongs to the provider after the first one, too. -/
theorem belongs_enter (he : e.Belongs s provider) (he' : e'.Belongs s provider) :
    e'.Belongs (s.enter e) provider := by
  cases e' with
  | template t => exact he'
  | blackout b => exact ⟨he'.1, fun x hx => (blackout_of_enter he hx).elim id (he'.2 x)⟩
  | noBlackout k => exact fun x hx => (blackout_of_enter he hx).elim id (he' x)
  | booking k b => exact ⟨he'.1, fun x hx => (booking_of_enter he hx).elim id (he'.2 x)⟩

theorem kept_write {query : Booking → Bool} {k : String} {b : Booking} (hb : query b = true)
    (hk : ∀ x, s.booking? k = some x → query x = true) :
    (s.write k b).2.kept query = Shelf.putInto Prod.fst (k, b) (s.kept query) := by
  have hfilter : (Shelf.putInto Record.key ⟨k, s.nextStamp, b⟩ s.records.items).filter
      (query ·.booking) = Shelf.putInto Record.key ⟨k, s.nextStamp, b⟩
        (s.records.items.filter (query ·.booking)) := by
    apply Shelf.filter_putInto
    · exact hb
    · rintro r hr rfl
      exact hk r.booking (booking?_of_mem hr)
  exact (congrArg (List.map _) hfilter).trans (Shelf.map_putInto fun _ => rfl)

theorem kept_write_of_not {query : Booking → Bool} {k : String} {b : Booking}
    (hb : query b = false) (hk : ∀ x, s.booking? k = some x → query x = false) :
    (s.write k b).2.kept query = s.kept query := by
  have hfilter : (Shelf.putInto Record.key ⟨k, s.nextStamp, b⟩ s.records.items).filter
      (query ·.booking) = s.records.items.filter (query ·.booking) := by
    apply Shelf.filter_putInto_of_not
    · exact hb
    · rintro r hr rfl
      exact hk r.booking (booking?_of_mem hr)
  exact congrArg (List.map _) hfilter

namespace AlikeFor

/-- What belongs to one provider leaves the other ones alone. -/
theorem enter_other (he : e.Belongs s other) (hne : other ≠ provider) :
    AlikeFor provider s (s.enter e) := by
  cases e with
  | template t =>
    obtain rfl : t.provider = other := he
    exact ⟨by simp [enter, saveTemplate, hne], rfl, rfl⟩
  | blackout b =>
    obtain ⟨rfl, hold⟩ := he
    refine ⟨rfl, (Shelf.filter_putInto_of_not (by simpa using hne) ?_).symm, rfl⟩
    intro x hx hkey
    rw [← hold x (hkey ▸ Shelf.get?_key_of_mem hx)] at hne
    simpa using hne
  | noBlackout k =>
    refine ⟨rfl, (Shelf.filter_erase_of_not ?_).symm, rfl⟩
    rintro x hx rfl
    rw [← he x (Shelf.get?_key_of_mem hx)] at hne
    simpa using hne
  | booking k b =>
    obtain ⟨rfl, hold⟩ := he
    refine ⟨rfl, rfl, (kept_write_of_not (by simpa using hne) fun x hx => ?_).symm⟩
    simpa [hold x hx] using hne

/-- What belongs to a provider has the same effect on what is the same. -/
theorem enter (h : AlikeFor provider s t) (hs : e.Belongs s provider)
    (ht : e.Belongs t provider) : AlikeFor provider (s.enter e) (t.enter e) := by
  cases e with
  | template a =>
    refine ⟨?_, h.blackouts, h.bookings⟩
    simp only [Store.enter, saveTemplate, Shelf.get?_put, h.template]
  | blackout b =>
    obtain ⟨rfl, hold⟩ := hs
    refine ⟨h.template, ?_, h.bookings⟩
    simp only [Store.enter, Shelf.put]
    rw [Shelf.filter_putInto (by simp), Shelf.filter_putInto (by simp), h.blackouts]
    · intro x hx hkey
      simpa using ht.2 x (hkey ▸ Shelf.get?_key_of_mem hx)
    · intro x hx hkey
      simpa using hold x (hkey ▸ Shelf.get?_key_of_mem hx)
  | noBlackout k =>
    refine ⟨h.template, ?_, h.bookings⟩
    simp only [Store.enter, Shelf.erase]
    rw [List.filter_comm, h.blackouts, List.filter_comm]
  | booking k b =>
    refine ⟨h.template, h.blackouts, ?_⟩
    simp only [Store.enter]
    rw [kept_write (by simpa using hs.1) (by simpa using hs.2),
      kept_write (by simpa using ht.1) (by simpa using ht.2), h.bookings]

theorem enterAll_other (he : ∀ e ∈ entries, e.Belongs s other) (hne : other ≠ provider) :
    AlikeFor provider s (s.enterAll entries) := by
  induction entries generalizing s with
  | nil => exact ⟨rfl, rfl, rfl⟩
  | cons e rest ih =>
    have hfirst := he e List.mem_cons_self
    refine (enter_other hfirst hne).trans (ih fun e' he' => ?_)
    exact belongs_enter hfirst (he e' (List.mem_cons_of_mem _ he'))

theorem enterAll (h : AlikeFor provider s t) (hs : ∀ e ∈ entries, e.Belongs s provider)
    (ht : ∀ e ∈ entries, e.Belongs t provider) :
    AlikeFor provider (s.enterAll entries) (t.enterAll entries) := by
  induction entries generalizing s t with
  | nil => exact h
  | cons e rest ih =>
    have hs' := hs e List.mem_cons_self
    have ht' := ht e List.mem_cons_self
    exact ih (h.enter hs' ht')
      (fun e' he' => belongs_enter hs' (hs e' (List.mem_cons_of_mem _ he')))
      (fun e' he' => belongs_enter ht' (ht e' (List.mem_cons_of_mem _ he')))

end AlikeFor
end Store

/-! ## What services write is about one provider -/

theorem Entry.OfHours.belongs {s : Store} {id provider : String} {e : Entry}
    (h : e.OfHours s id provider) : e.Belongs s provider := by
  cases h with
  | template provider_eq => exact provider_eq
  | blackout fresh id_eq provider_eq =>
    refine ⟨provider_eq, fun x hx => ?_⟩
    rw [id_eq, fresh] at hx
    cases hx
  | noBlackout stored provider_eq =>
    intro x hx
    rw [stored] at hx
    cases hx
    exact provider_eq

theorem Booking.provider_of_asMade {a b : Booking} (h : a.asMade = b.asMade) :
    a.provider = b.provider := (Booking.sameParties_of_asMade h).2.2.1

theorem Errand.Writes.belongs {s : Store} {id provider : String} {entries : List Entry}
    (h : Errand.Writes s id provider entries) : ∀ e ∈ entries, e.Belongs s provider := by
  have hold : ∀ old b : Booking, s.booking? old.id = some old → old.provider = provider →
      b.provider = old.provider → (Entry.booking old.id b).Belongs s provider := by
    intro old b stored provider_eq hb
    refine ⟨hb.trans provider_eq, fun x hx => ?_⟩
    rw [stored] at hx
    cases hx
    exact provider_eq
  have hnew : ∀ b : Booking, s.booking? id = none → b.provider = provider →
      (Entry.booking id b).Belongs s provider := by
    intro b fresh provider_eq
    refine ⟨provider_eq, fun x hx => ?_⟩
    rw [fresh] at hx
    cases hx
  cases h with
  | makes fresh _ provider_eq => simpa using hnew _ fresh provider_eq
  | changes stored _ provider_eq as_made =>
    simpa using hold _ _ stored provider_eq (Booking.provider_of_asMade as_made)
  | replaces stored _ provider_eq fresh _ parties _ _ as_made =>
    simpa using ⟨hnew _ fresh (parties.2.2.1.symm.trans provider_eq),
      hold _ _ stored provider_eq (Booking.provider_of_asMade as_made)⟩

namespace Service

variable {s t : Store} {provider other : String} {service : Service}

theorem Writes.belongs {id : String} {entries : List Entry} (h : Writes s id provider entries) :
    ∀ e ∈ entries, e.Belongs s provider := by
  cases h with
  | bookings h => exact h.belongs
  | hours h => exact fun e he => (h e he).belongs

theorem Concerns.unique (h : service.Concerns s provider) (h' : service.Concerns s other) :
    provider = other := by
  cases service with
  | errand e =>
    cases e with
    | book => exact h.symm.trans h'
    | _ =>
      obtain ⟨b, hb, rfl⟩ := h
      obtain ⟨b', hb', rfl⟩ := h'
      rw [hb] at hb'
      cases hb'
      rfl
  | _ => exact h.symm.trans h'

/-- Of which provider a service is about, the provider's part decides. -/
theorem Concerns.congr (h : service.Concerns s provider) (halike : s.AlikeFor provider t) :
    service.Concerns t provider := by
  cases service with
  | errand e =>
    cases e with
    | book => exact h
    | _ =>
      obtain ⟨b, hb, hprovider⟩ := h
      exact ⟨b, halike.booking? hb hprovider, hprovider⟩
  | _ => exact h

theorem writes_of_concerns (desk : Desk) {v : View} (hs : v.store.Filed)
    (h : service.Concerns v.store provider) : (service.ruling desk v).entries = [] ∨
      Writes v.store v.nextId provider (service.ruling desk v).entries := by
  refine (service.writes_of_ruling hs).imp_right ?_
  rintro ⟨other, hother, hwrites⟩
  obtain rfl := h.unique hother
  exact hwrites

end Service
end Appointments
