-- A shelf: items under keys of their own, each key once, in the order in
-- which the keys were put there.
namespace Appointments

structure Shelf (key : α → String) where
  items : List α
  nodup : (items.map key).Nodup

namespace Shelf

variable {α : Type} {key : α → String}

def empty : Shelf key := ⟨[], List.nodup_nil⟩

instance : Inhabited (Shelf key) := ⟨empty⟩

@[ext]
theorem ext {s t : Shelf key} (h : s.items = t.items) : s = t := by
  cases s; cases t; cases h; rfl

/-! ## Looking up -/

/-- The item under a key. -/
def get? (s : Shelf key) (k : String) : Option α := s.items.find? (key · == k)

theorem key_of_get? {s : Shelf key} {k : String} {a : α} (h : s.get? k = some a) : key a = k := by
  have := List.find?_some h
  simpa using this

theorem mem_of_get? {s : Shelf key} {k : String} {a : α} (h : s.get? k = some a) : a ∈ s.items :=
  List.mem_of_find?_eq_some h

theorem get?_eq_none_iff {s : Shelf key} {k : String} :
    s.get? k = none ↔ ∀ a ∈ s.items, key a ≠ k := by
  simp [get?, List.find?_eq_none]

theorem find?_of_mem {items : List α} (h : (items.map key).Nodup) {a : α} (ha : a ∈ items) :
    items.find? (key · == key a) = some a := by
  induction items with
  | nil => cases ha
  | cons b bs ih =>
    rw [List.map_cons, List.nodup_cons] at h
    rcases List.mem_cons.1 ha with rfl | hmem
    · simp
    · have hne : key b ≠ key a := fun e => h.1 (e ▸ List.mem_map_of_mem hmem)
      rw [List.find?_cons_of_neg (by simpa using hne)]
      exact ih h.2 hmem

theorem get?_key_of_mem {s : Shelf key} {a : α} (ha : a ∈ s.items) : s.get? (key a) = some a :=
  find?_of_mem s.nodup ha

/-! ## Putting and taking away -/

/-- The items with one more, in the place of the one under the same key if
there is one, and else at the end. -/
def putInto (key : α → String) (a : α) : List α → List α
  | [] => [a]
  | b :: bs => if key b = key a then a :: bs else b :: putInto key a bs

theorem mem_putInto {a x : α} {items : List α} (h : x ∈ putInto key a items) :
    x = a ∨ x ∈ items := by
  induction items with
  | nil => simpa [putInto] using h
  | cons b bs ih =>
    unfold putInto at h
    split at h
    · rcases List.mem_cons.1 h with rfl | h
      · exact .inl rfl
      · exact .inr (List.mem_cons_of_mem _ h)
    · rcases List.mem_cons.1 h with rfl | h
      · exact .inr (List.mem_cons_self ..)
      · exact (ih h).imp_right (List.mem_cons_of_mem _)

theorem nodup_putInto {a : α} {items : List α} (h : (items.map key).Nodup) :
    ((putInto key a items).map key).Nodup := by
  induction items with
  | nil => simp [putInto]
  | cons b bs ih =>
    rw [List.map_cons, List.nodup_cons] at h
    unfold putInto
    split
    · next e => rw [List.map_cons, List.nodup_cons, ← e]; exact h
    · next e =>
      rw [List.map_cons, List.nodup_cons]
      refine ⟨fun hm => ?_, ih h.2⟩
      obtain ⟨x, hx, hk⟩ := List.mem_map.1 hm
      rcases mem_putInto hx with rfl | hx
      · exact e hk.symm
      · exact h.1 (List.mem_map.2 ⟨x, hx, hk⟩)

/-- The shelf with an item under its own key. -/
def put (s : Shelf key) (a : α) : Shelf key := ⟨putInto key a s.items, nodup_putInto s.nodup⟩

/-- The shelf without what is under a key. -/
def erase (s : Shelf key) (k : String) : Shelf key :=
  ⟨s.items.filter (key · != k), s.nodup.sublist (List.filter_sublist.map key)⟩

theorem find?_putInto (a : α) (k : String) (items : List α) :
    (putInto key a items).find? (key · == k) =
      if key a = k then some a else items.find? (key · == k) := by
  induction items with
  | nil => by_cases h : key a = k <;> simp [putInto, h]
  | cons b bs ih =>
    unfold putInto
    split
    · next e => by_cases h : key a = k <;> simp [h, e]
    · next e =>
      by_cases hb : key b = k
      · have : key a ≠ k := fun ha => e (hb.trans ha.symm)
        simp [hb, this]
      · simp [hb, ih]

@[simp]
theorem get?_put (s : Shelf key) (a : α) (k : String) :
    (s.put a).get? k = if key a = k then some a else s.get? k := find?_putInto a k s.items

@[simp]
theorem get?_erase (s : Shelf key) (k l : String) :
    (s.erase k).get? l = if k = l then none else s.get? l := by
  unfold get? erase
  rw [List.find?_filter]
  by_cases h : k = l
  · subst h
    simp
  · rw [if_neg h]
    congr 1
    funext x
    by_cases hx : key x = l
    · simp [hx, Ne.symm h]
    · simp [hx]

@[simp]
theorem get?_empty (k : String) : (empty : Shelf key).get? k = none := rfl

end Shelf
end Appointments
