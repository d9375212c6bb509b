-- Lists in pages. Pages of one size, asked for one after another, make up the
-- whole list of what the actor may see, whatever the size is.
import Appointments.Proofs.Disclosure
namespace Appointments

/-! ## The order of lists -/

namespace Booking

/-- The first booking starts later, or at the same time and has the greater
id. -/
def ListedBefore (a b : Booking) : Prop := b.start < a.start ∨ (a.start = b.start ∧ b.id < a.id)

theorem listedBefore_of_notAfter {a b : Booking} (h : b.notAfter a = true) (hne : a.id ≠ b.id) :
    a.ListedBefore b := by
  rcases notAfter_iff.1 h with hlt | ⟨hstart, hid⟩
  · exact .inl hlt
  · refine .inr ⟨Instant.ext hstart.symm, String.not_le.1 fun hle => ?_⟩
    exact hne (String.le_antisymm hle hid)

end Booking

/-! ## Pages of a list -/

namespace Store

section
variable {α : Type}

theorem page_none (items : List α) : page 0 none items = items := by
  simp [page, position]

theorem page_eq (offset limit : Nat) (items : List α) :
    page offset (some limit) items = (items.drop offset).take limit := by
  have hfirst : position items.length offset = min offset items.length :=
    if_neg (by omega)
  have hlast : position items.length (offset + limit) = min (offset + limit) items.length :=
    if_neg (by omega)
  have htake : items.take (min (offset + limit) items.length) = items.take (offset + limit) := by
    rw [List.take_eq_take_iff]
    omega
  unfold page
  dsimp only
  rw [hfirst, hlast, htake, List.take_drop, List.drop_eq_drop_iff, List.length_take]
  omega

/-- The pages of a list, as many as it takes. -/
def pages (limit : Nat) (items : List α) : List (List α) :=
  (List.range ((items.length + limit - 1) / limit)).map fun i =>
    (items.drop (i * limit)).take limit

theorem flatMap_range_pages (limit count : Nat) (items : List α) :
    ((List.range count).flatMap fun i => (items.drop (i * limit)).take limit) =
      items.take (count * limit) := by
  induction count with
  | zero => simp
  | succ count ih =>
    rw [List.range_succ, List.flatMap_append, ih, Nat.succ_mul, List.take_add]
    simp

variable {limit : Nat} {items : List α}

theorem length_pages : (pages limit items).length = (items.length + limit - 1) / limit := by
  simp [pages]

theorem length_le_pages (hlimit : 0 < limit) :
    items.length ≤ (pages limit items).length * limit := by
  have hceil := Nat.lt_div_mul_add (a := items.length + limit - 1) hlimit
  rw [length_pages]
  omega

/-- Nothing is lost between two pages, and nothing is on both. -/
theorem flatten_pages (hlimit : 0 < limit) : (pages limit items).flatten = items := by
  unfold pages
  rw [← List.flatMap_def, flatMap_range_pages, ← length_pages]
  exact List.take_of_length_le (length_le_pages hlimit)

theorem page_of_getElem? {i : Nat} {p : List α} (h : (pages limit items)[i]? = some p) :
    page ↑(i * limit) (some limit) items = p := by
  obtain ⟨hi, rfl⟩ := List.getElem?_eq_some_iff.1 h
  rw [page_eq]
  simp [pages]

theorem ne_nil_of_mem_pages (hlimit : 0 < limit) {p : List α} (h : p ∈ pages limit items) :
    p ≠ [] := by
  obtain ⟨i, hi, rfl⟩ := List.mem_map.1 h
  have hlt : i * limit + limit ≤ (items.length + limit - 1) / limit * limit := by
    rw [← Nat.succ_mul]
    exact Nat.mul_le_mul_right limit (List.mem_range.1 hi)
  have hfloor := Nat.div_mul_le_self (items.length + limit - 1) limit
  rw [← List.length_pos_iff, List.length_take, List.length_drop]
  omega

theorem page_after_pages (hlimit : 0 < limit) :
    page ↑((pages limit items).length * limit) (some limit) items = [] := by
  rw [page_eq, List.drop_eq_nil_of_le (length_le_pages hlimit), List.take_nil]

/-! ## Pages of a query -/

variable {s : Store} {q : Query}

/-- The bookings that a query asks for, on whatever page they are. -/
def whole (s : Store) (q : Query) : List Booking := s.list { q with limit := none, offset := 0 }

theorem list_eq_page (s : Store) (q : Query) : s.list q = page q.offset q.limit (s.whole q) := by
  unfold whole list
  rw [page_none]
  rfl

theorem whole_perm (s : Store) (q : Query) : (s.whole q).Perm (s.bookings.filter q.selects) := by
  unfold whole list
  rw [page_none]
  exact List.sortedBy_perm _ _

theorem pairwise_whole (s : Store) (q : Query) :
    (s.whole q).Pairwise fun a b => b.notAfter a = true := by
  unfold whole list
  rw [page_none]
  exact List.pairwise_sortedBy (fun a b => Booking.notAfter_total b a)
    (fun a b c hab hbc => Booking.notAfter_trans c b a hbc hab) _

/-- Bookings that are kept under their own ids have ids of their own. -/
theorem Filed.nodup_ids (h : s.Filed) : (s.bookings.map Booking.id).Nodup := by
  have hkeys : s.bookings.map Booking.id = s.records.items.map Record.key := by
    unfold bookings
    rw [List.map_map]
    exact List.map_congr_left h
  rw [hkeys]
  exact s.records.nodup

/-- Bookings with ids of their own are never listed at the same place. -/
theorem strict_whole (hids : (s.bookings.map Booking.id).Nodup) (q : Query) :
    (s.whole q).Pairwise Booking.ListedBefore := by
  have hnodup : ((s.whole q).map Booking.id).Nodup := by
    rw [((s.whole_perm q).map Booking.id).nodup_iff]
    exact hids.sublist (List.filter_sublist.map Booking.id)
  have hne : (s.whole q).Pairwise fun a b => a.id ≠ b.id := List.pairwise_map.1 hnodup
  exact (s.pairwise_whole q).imp₂ (fun a b => Booking.listedBefore_of_notAfter) hne

end
end Store

/-! ## What is asked for -/

/-- The booking has the status that is asked for and starts within the span
that is asked for, which excludes its end. -/
def Filters.Admits (f : Filters) (b : Booking) : Prop :=
  (∀ status ∈ f.status, b.status = status) ∧ (∀ first ∈ f.first, first ≤ b.start) ∧
    ∀ last ∈ f.last, b.start < last

instance (f : Filters) (b : Booking) : Decidable (f.Admits b) :=
  inferInstanceAs (Decidable (_ ∧ _ ∧ _))

namespace Desk

variable {desk : Desk} {s : Store} {actor : Actor} {filters : Filters} {b : Booking}

theorem selects_iff : (desk.query actor filters).selects b = true ↔
    b.visibleTo actor = true ∧ filters.Admits b := by
  have hvisible : ((if actor.role = .client then some actor.id else none).all (b.client == ·) &&
      (if actor.role = .provider then some actor.id else none).all (b.provider == ·)) =
        b.visibleTo actor := by
    unfold Booking.visibleTo
    cases actor.role <;> simp
  unfold Store.Query.selects query Filters.Admits
  dsimp only
  rw [hvisible]
  simp only [Bool.and_eq_true, and_assoc, Option.all_eq_true, beq_iff_eq, decide_eq_true_eq,
    Option.mem_def]

theorem checkOrder_eq_ok (h : ∀ first ∈ filters.first, ∀ last ∈ filters.last, first ≤ last) :
    checkOrder filters = .ok () := by
  unfold checkOrder
  split
  · rename_i first last hfirst hlast
    exact if_neg (Nat.not_lt.2 (h first hfirst last hlast))
  · rfl

/-- Whenever the desk has this store, it shows the actor this list, and has
the same store afterwards. -/
def ShowsList (desk : Desk) (s : Store) (actor : Actor) (filters : Filters)
    (found : List Booking) : Prop :=
  ∀ w : World, w.store = s →
    (desk.list actor filters).Ends w fun answer w' => answer = .ok found ∧ w'.store = s

theorem showsList_of_order (h : ∀ first ∈ filters.first, ∀ last ∈ filters.last, first ≤ last) :
    desk.ShowsList s actor filters (s.list (desk.query actor filters)) := by
  rintro w rfl
  obtain ⟨hanswer, hview⟩ := reports_list desk actor filters w rfl
  refine ⟨hanswer.trans ?_, congrArg View.store hview⟩
  unfold shownList
  rw [checkOrder_eq_ok h]
  rfl

/-- The filters, for the page of the given size that starts at an offset. -/
def pageOf (filters : Filters) (limit offset : Nat) : Filters :=
  { filters with limit := some limit, offset }

theorem showsList_pageOf (h : ∀ first ∈ filters.first, ∀ last ∈ filters.last, first ≤ last)
    {limit : Nat} (hlimit : 1 ≤ limit) (hmax : limit ≤ desk.bookings.maxLimit) (offset : Nat) :
    desk.ShowsList s actor (pageOf filters limit offset)
      (Store.page offset (some limit) (s.whole (desk.query actor filters))) := by
  have hshows : desk.ShowsList s actor (pageOf filters limit offset)
      (s.list (desk.query actor (pageOf filters limit offset))) := showsList_of_order h
  have hclamped : min (max (limit : Int) 1) desk.bookings.maxLimit = limit := by omega
  rw [Store.list_eq_page] at hshows
  unfold query pageOf at hshows
  simp only [Option.getD_some, hclamped] at hshows
  exact hshows

/-- Limits that come to the same after they are brought within the bounds ask
for the same. -/
theorem list_congr {limit limit' : Option Int}
    (h : min (max (limit.getD desk.bookings.defaultLimit) 1) desk.bookings.maxLimit =
      min (max (limit'.getD desk.bookings.defaultLimit) 1) desk.bookings.maxLimit) :
    desk.list actor { filters with limit } = desk.list actor { filters with limit := limit' } := by
  unfold list
  dsimp only
  rw [h]

/-- Lists hold exactly the bookings that the actor sees and asks for, latest
start first, and by their ids where they start at the same time. Pages of a
size within the bounds, from the first one to the first empty one, make up the
whole list. A limit outside the bounds means the nearest one. -/
theorem pages_make_up_the_list (desk : Desk) (s : Store) (actor : Actor) (filters : Filters)
    (horder : ∀ first ∈ filters.first, ∀ last ∈ filters.last, first ≤ last) :
    (∃ found : List Booking,
      found.Perm (s.bookings.filter fun b => b.visibleTo actor && filters.Admits b) ∧
      (found.Pairwise fun a b => b.notAfter a = true) ∧
      ((s.bookings.map Booking.id).Nodup → found.Pairwise Booking.ListedBefore) ∧
      ∀ limit : Nat, 1 ≤ limit → limit ≤ desk.bookings.maxLimit →
        ∃ pages : List (List Booking), pages.flatten = found ∧ (∀ page ∈ pages, page ≠ []) ∧
          (∀ (i : Nat) page, pages[i]? = some page →
            desk.ShowsList s actor (pageOf filters limit (i * limit)) page) ∧
          desk.ShowsList s actor (pageOf filters limit (pages.length * limit)) []) ∧
    (∀ limit : Int, limit < 1 → desk.list actor { filters with limit := some limit } =
      desk.list actor { filters with limit := some 1 }) ∧
    (∀ limit : Int, desk.bookings.maxLimit < limit →
      desk.list actor { filters with limit := some limit } =
        desk.list actor { filters with limit := some desk.bookings.maxLimit }) ∧
    desk.list actor { filters with limit := none } =
      desk.list actor { filters with limit := some desk.bookings.defaultLimit } := by
  have hselects : (s.bookings.filter fun b => b.visibleTo actor && filters.Admits b) =
      s.bookings.filter (desk.query actor filters).selects := by
    apply List.filter_congr
    intro b _
    rw [Bool.eq_iff_iff, selects_iff]
    simp
  refine ⟨⟨s.whole (desk.query actor filters), ?_, s.pairwise_whole _,
    fun hids => Store.strict_whole hids _, fun limit hlimit hmax => ?_⟩, fun limit hlow => ?_,
    fun limit hhigh => ?_, ?_⟩
  · rw [hselects]
    exact s.whole_perm _
  · have hshows : ∀ offset, desk.ShowsList s actor (pageOf filters limit offset)
        (Store.page offset (some limit) (s.whole (desk.query actor filters))) :=
      showsList_pageOf horder hlimit hmax
    refine ⟨Store.pages limit (s.whole (desk.query actor filters)), Store.flatten_pages hlimit,
      fun page => Store.ne_nil_of_mem_pages hlimit, fun i page hpage => ?_, ?_⟩
    · rw [← Store.page_of_getElem? hpage]
      exact hshows (i * limit)
    · have hshown :=
      hshows ((Store.pages limit (s.whole (desk.query actor filters))).length * limit)
      rwa [Store.page_after_pages hlimit] at hshown
  · apply list_congr
    simp only [Option.getD_some]
    omega
  · apply list_congr
    simp only [Option.getD_some]
    omega
  · exact list_congr rfl

end Desk

/-! ## The small practice -/

namespace Practice

/-- The patient's bookings: at ten with the doctor and with the nurse, and at
eleven. -/
def busyMorning : Store where
  records := ((Shelf.empty.put ⟨"a", 0, booked⟩).put
    ⟨"b", 1, { booked with id := "b", provider := "nurse" }⟩).put
    ⟨"c", 2, { booked with id := "c", start := eleven }⟩

/-- Two of the bookings start at the same time. With two of them on a page,
the first page ends between these two. -/
theorem busy_morning_on_two_pages :
    (∀ first ∈ ({} : Filters).first, ∀ last ∈ ({} : Filters).last, first ≤ last) ∧
      (busyMorning.bookings.map Booking.id).Nodup ∧ (2 : Int) ≤ ({} : Desk).bookings.maxLimit ∧
      ({} : Desk).ShowsList busyMorning patient (Desk.pageOf {} 2 0)
        [{ booked with id := "c", start := eleven },
          { booked with id := "b", provider := "nurse" }] ∧
      ∃ found : List Booking, found.length = 3 ∧ found.Pairwise Booking.ListedBefore ∧
        ∃ pages : List (List Booking), pages.flatten = found ∧ (∀ page ∈ pages, page ≠ []) ∧
          (∀ (i : Nat) page, pages[i]? = some page →
            ({} : Desk).ShowsList busyMorning patient (Desk.pageOf {} 2 (i * 2)) page) ∧
          ({} : Desk).ShowsList busyMorning patient (Desk.pageOf {} 2 (pages.length * 2)) [] := by
  have horder : ∀ first ∈ ({} : Filters).first, ∀ last ∈ ({} : Filters).last, first ≤ last := nofun
  have hfiled : busyMorning.Filed := by
    unfold Store.Filed
    decide
  have hids := hfiled.nodup_ids
  have hmax : (2 : Int) ≤ ({} : Desk).bookings.maxLimit := by decide
  obtain ⟨⟨found, hperm, -, hstrict, hpages⟩, -⟩ :=
    Desk.pages_make_up_the_list {} busyMorning patient {} horder
  refine ⟨horder, hids, hmax, ?_, found, ?_, hstrict hids, hpages 2 (by decide) hmax⟩
  · have hfirst : ({} : Desk).ShowsList busyMorning patient (Desk.pageOf {} 2 0)
        (Store.page 0 (some 2) (busyMorning.whole (({} : Desk).query patient {}))) :=
      Desk.showsList_pageOf horder (by decide) hmax 0
    have hvalue : Store.page 0 (some 2) (busyMorning.whole (({} : Desk).query patient {})) =
        [{ booked with id := "c", start := eleven },
          { booked with id := "b", provider := "nurse" }] := by
      decide +kernel
    rw [← hvalue]
    exact hfirst
  · rw [hperm.length_eq]
    decide +kernel

/-- Bookings that bear the same id and start at the same time are listed at the
same place. -/
theorem twins_are_listed_at_one_place :
    ¬ ∀ (desk : Desk) (s : Store) (actor : Actor) (filters : Filters) (found : List Booking),
      desk.ShowsList s actor filters found → found.Pairwise Booking.ListedBefore := by
  intro h
  have hshows : ({} : Desk).ShowsList twins.store patient {} [booked, alsoNurse] := by
    have hlist : twins.store.list (({} : Desk).query patient {}) = [booked, alsoNurse] := by
      decide +kernel
    rw [← hlist]
    exact Desk.showsList_of_order nofun
  have hstrict := h {} twins.store patient {} _ hshows
  rcases List.rel_of_pairwise_cons hstrict (List.mem_singleton_self _) with hlt | ⟨-, hlt⟩
  · exact absurd hlt (by decide)
  · exact absurd hlt (by decide)

end Practice
end Appointments
